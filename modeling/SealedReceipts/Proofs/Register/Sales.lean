import SealedReceipts.Proofs.Register.Lines
import SealedReceipts.Register

/-!
# The draft is what was rung up

Entries at a register are rung up one after the other. Those that are accepted are sales, and the
lines of the draft are the lines of these sales; an entry that is refused leaves the register as it
was, and what refuses it is the first of four checks that it does not pass.
-/

namespace SealedReceipts

/-- What a cashier enters: a quantity of a category, and a price if it is not to be the preset
one. -/
structure Entry where
  categoryId : UInt16
  quantity : UInt16
  price : Option Binary64 := none
  deriving DecidableEq

namespace Entry

variable {catalog : Catalog} {sales : List Sale} {e : Entry}

/-- The sale that an entry is for, if its category is known. -/
def sale? (e : Entry) (catalog : Catalog) : Option Sale :=
  (catalog.get? e.categoryId).map fun category =>
    ⟨e.categoryId, e.quantity, e.price.getD category.presetPrice⟩

end Entry

/-- A price that may be charged: a finite one above zero. -/
def Sale.Priced (s : Sale) : Prop := s.unitPrice.isFinite = true ∧ s.unitPrice.le 0 = false

instance (s : Sale) : Decidable s.Priced := inferInstanceAs (Decidable (_ ∧ _))

/-- What refuses an entry after some sales: the first check that it does not pass. -/
inductive Entry.Refused (catalog : Catalog) (sales : List Sale) (e : Entry) : RegisterFault → Prop
  | zeroQuantity : e.quantity = 0 → Refused catalog sales e .zeroQuantity
  | unknownCategory : e.quantity ≠ 0 → catalog.get? e.categoryId = none →
      Refused catalog sales e (.unknownCategory e.categoryId)
  | invalidPrice {s : Sale} : e.quantity ≠ 0 → e.sale? catalog = some s → ¬ s.Priced →
      Refused catalog sales e (.invalidPrice s.unitPrice)
  | quantityOverflow {s : Sale} : e.quantity ≠ 0 → e.sale? catalog = some s → s.Priced →
      65535 < Sale.soldOf sales s + s.quantity.toNat → Refused catalog sales e .quantityOverflow

namespace Entry

variable {catalog : Catalog} {sales : List Sale} {e : Entry} {s : Sale}

theorem sale?_eq_none : e.sale? catalog = none ↔ catalog.get? e.categoryId = none :=
  Option.map_eq_none_iff

theorem not_refused (hquantity : e.quantity ≠ 0) (hs : e.sale? catalog = some s)
    (hpriced : s.Priced) (hsum : Sale.soldOf sales s + s.quantity.toNat < UInt16.size)
    (fault : RegisterFault) : ¬ e.Refused catalog sales fault := by
  intro h
  cases h with
  | zeroQuantity hzero => exact hquantity hzero
  | unknownCategory _ hnone =>
    rw [sale?_eq_none.2 hnone] at hs
    cases hs
  | invalidPrice _ hs' hpriced' =>
    obtain rfl := Option.some.inj (hs.symm.trans hs')
    exact hpriced' hpriced
  | quantityOverflow _ hs' _ hover =>
    obtain rfl := Option.some.inj (hs.symm.trans hs')
    exact absurd hsum (Nat.not_lt.2 hover)

/-- At most one check refuses an entry. -/
theorem Refused.unique {fault other : RegisterFault} (h : e.Refused catalog sales fault)
    (h' : e.Refused catalog sales other) : fault = other := by
  -- the conditions of two different checks exclude each other
  cases h <;> cases h' <;> simp_all [← sale?_eq_none]

end Entry

namespace Register

variable {β : Type}

/-- The answer to an entry, and the register behind it. -/
def ring (r : Register β) (e : Entry) : Except RegisterFault LineItem × Register β :=
  match r.addItem e.categoryId e.quantity e.price with
  | .ok (line, after) => (.ok line, after)
  | .error fault => (.error fault, r)

/-- The register behind some entries. -/
def afterEntries (r : Register β) (entries : List Entry) : Register β :=
  entries.foldl (fun r e => (r.ring e).2) r

/-- The sales of those entries that the register accepts. -/
def sales : Register β → List Entry → List Sale
  | _, [] => []
  | r, e :: rest =>
    match (r.ring e).1 with
    | .ok _ => (e.sale? r.catalog).toList ++ (r.ring e).2.sales rest
    | .error _ => (r.ring e).2.sales rest

/-! ## One entry -/

/-- A refused entry leaves the register as it was. -/
theorem ring_error {r : Register β} {e : Entry} {fault : RegisterFault}
    (h : (r.ring e).1 = .error fault) : (r.ring e).2 = r := by
  unfold ring at h ⊢
  split at h
  · cases h
  · rfl

/-- Without an open draft every entry is refused. -/
theorem ring_of_not_open {r : Register β} (h : r.draft? = none) (e : Entry) :
    (r.ring e).1 = .error .noOpenReceipt := by
  cases hstate : r.state with
  | opened draft => simp [draft?, hstate] at h
  | noReceipt | issuing | closed receipt => simp only [ring, addItem, hstate]

/-- The line of an entry that may be charged is that of its sale. -/
theorem lineFor_eq_ok {catalog : Catalog} {e : Entry} {s : Sale} (hquantity : e.quantity ≠ 0)
    (hs : e.sale? catalog = some s) (hpriced : s.Priced) :
    ∃ rate, (catalog.get? s.categoryId).map (·.taxRate) = some rate ∧
      lineFor catalog e.categoryId e.quantity e.price = .ok (s.item rate) := by
  obtain ⟨category, hcategory, rfl⟩ := Option.map_eq_some_iff.1 hs
  obtain ⟨hfinite, hpositive⟩ := hpriced
  refine ⟨category.taxRate, by rw [hcategory]; rfl, ?_⟩
  rw [lineFor, if_neg hquantity, hcategory]
  simp only [priceOf]
  rw [if_neg (by simp [hfinite, hpositive])]
  rfl

/-- An entry has no line if its quantity, its category or its price is refused. -/
theorem lineFor_eq_error {catalog : Catalog} {e : Entry}
    (h : ¬ ∃ s, e.quantity ≠ 0 ∧ e.sale? catalog = some s ∧ s.Priced) (sales : List Sale) :
    ∃ fault, e.Refused catalog sales fault ∧
      lineFor catalog e.categoryId e.quantity e.price = .error fault := by
  by_cases hquantity : e.quantity = 0
  · exact ⟨_, .zeroQuantity hquantity, if_pos hquantity⟩
  · cases hcategory : catalog.get? e.categoryId with
    | none =>
      refine ⟨_, .unknownCategory hquantity hcategory, ?_⟩
      rw [lineFor, if_neg hquantity, hcategory]
    | some category =>
      have hs : e.sale? catalog =
          some ⟨e.categoryId, e.quantity, e.price.getD category.presetPrice⟩ := by
        rw [Entry.sale?, hcategory]
        rfl
      have hpriced := fun hpriced => h ⟨_, hquantity, hs, hpriced⟩
      refine ⟨_, .invalidPrice hquantity hs hpriced, ?_⟩
      rw [lineFor, if_neg hquantity, hcategory]
      simp only [priceOf]
      rw [if_pos]
      · rfl
      · cases hfinite : (e.price.getD category.presetPrice).isFinite with
        | false => rfl
        | true =>
          have hpositive := mt (And.intro hfinite) hpriced
          simpa using hpositive

/-- **One entry.** On an open draft with the lines of some sales an entry is refused and changes
nothing, or it is accepted and the lines are those of the sales with its own. -/
theorem ring_opened {r : Register β} {draft : Draft} {sales : List Sale}
    (hopen : r.state = .opened draft) (hlines : Sale.Lines r.catalog sales draft.items)
    (e : Entry) :
    (∃ fault, e.Refused r.catalog sales fault ∧ r.ring e = (.error fault, r)) ∨
    ∃ s line items, e.sale? r.catalog = some s ∧ (∀ fault, ¬ e.Refused r.catalog sales fault) ∧
      r.ring e = (.ok line, { r with state := .opened { draft with items } }) ∧
      Sale.Lines r.catalog (sales ++ [s]) items := by
  by_cases hcharged : ∃ s, e.quantity ≠ 0 ∧ e.sale? r.catalog = some s ∧ s.Priced
  · obtain ⟨s, hquantity, hs, hpriced⟩ := hcharged
    obtain ⟨rate, hrate, hline⟩ := lineFor_eq_ok hquantity hs hpriced
    obtain ⟨hfits, hover⟩ := hlines.ringUp? s hrate
    by_cases hsum : Sale.soldOf sales s + s.quantity.toNat < UInt16.size
    · obtain ⟨line, items, hring, hitems⟩ := hfits hsum
      refine .inr ⟨s, line, items, hs, Entry.not_refused hquantity hs hpriced hsum, ?_, hitems⟩
      simp only [ring, addItem, hopen, hline, Draft.addItem?, hring, Option.map_some]
    · refine .inl ⟨_, .quantityOverflow hquantity hs hpriced (Nat.lt_of_succ_le (Nat.not_lt.1 hsum)), ?_⟩
      simp only [ring, addItem, hopen, hline, Draft.addItem?, hover hsum, Option.map_none]
  · obtain ⟨fault, hrefused, hline⟩ := lineFor_eq_error hcharged sales
    refine .inl ⟨fault, hrefused, ?_⟩
    simp only [ring, addItem, hopen, hline]

/-! ## Many entries -/

/-- A register whose draft has the lines of some sales, each of at least one unit, and that is else
as it was opened. -/
structure HasRung (opened : Register β) (sales : List Sale) (r : Register β) : Prop where
  draft : ∃ items, r = { opened with state := .opened { items } } ∧
    Sale.Lines opened.catalog sales items
  positive : ∀ s ∈ sales, s.quantity ≠ 0

variable {opened r : Register β} {before : List Sale}

theorem HasRung.catalog_eq (h : HasRung opened before r) : r.catalog = opened.catalog := by
  obtain ⟨items, rfl, -⟩ := h.draft
  rfl

/-- An entry is refused, or its sale is added to those before. -/
theorem HasRung.ring (h : HasRung opened before r) (e : Entry) :
    (∃ fault, e.Refused r.catalog before fault ∧ r.ring e = (.error fault, r)) ∨
    ∃ s line after, e.sale? r.catalog = some s ∧ (∀ fault, ¬ e.Refused r.catalog before fault) ∧
      r.ring e = (.ok line, after) ∧ HasRung opened (before ++ [s]) after := by
  obtain ⟨items, hr, hlines⟩ := h.draft
  have hopen : r.state = .opened { items } := by rw [hr]
  rw [← h.catalog_eq] at hlines
  rcases ring_opened hopen hlines e with hrefused | ⟨s, line, items', hs, hnone, hring, hlines'⟩
  · exact .inl hrefused
  · rw [h.catalog_eq] at hlines'
    refine .inr ⟨s, line, _, hs, hnone, hring, ⟨items', by rw [hr], hlines'⟩, ?_⟩
    obtain ⟨category, hcategory, rfl⟩ := Option.map_eq_some_iff.1 hs
    intro t ht
    rcases List.mem_append.1 ht with ht | ht
    · exact h.positive t ht
    · obtain rfl := List.mem_singleton.1 ht
      exact fun hzero => hnone _ (.zeroQuantity hzero)

/-- A run of entries adds the sales of those that are accepted. -/
theorem HasRung.afterEntries (h : HasRung opened before r) (entries : List Entry) :
    HasRung opened (before ++ r.sales entries) (r.afterEntries entries) := by
  induction entries generalizing r before with
  | nil => simpa [sales, Register.afterEntries] using h
  | cons e rest ih =>
    rw [Register.afterEntries, List.foldl_cons, ← Register.afterEntries, sales]
    rcases h.ring e with ⟨fault, -, hring⟩ | ⟨s, line, after, hs, -, hring, hafter⟩
    · simp only [hring]
      exact ih h
    · simp only [hring, hs, Option.toList_some, ← List.append_assoc]
      exact ih hafter

/-- What refuses an entry is the first check that it does not pass. -/
theorem HasRung.ring_eq_error (h : HasRung opened before r) {e : Entry} {fault : RegisterFault} :
    (r.ring e).1 = .error fault ↔ e.Refused r.catalog before fault := by
  rcases h.ring e with ⟨other, hrefused, hring⟩ | ⟨s, line, after, -, hnone, hring, -⟩
  · rw [hring]
    constructor
    · intro hfault
      exact Except.error.inj hfault ▸ hrefused
    · intro hfault
      rw [hrefused.unique hfault]
  · rw [hring]
    constructor
    · intro hfault
      cases hfault
    · intro hfault
      exact absurd hfault (hnone fault)

/-- A new draft has rung nothing. -/
theorem hasRung_of_start (h : r.start = .ok opened) : HasRung opened [] opened := by
  refine ⟨⟨[], ?_, .nil⟩, fun s hs => by cases hs⟩
  unfold start at h
  split at h
  all_goals cases h
  all_goals rfl

/-- **The draft is what was rung up.** After any entries on a new draft:

* its lines are those of the sales accepted, one for each category and stored price in the order in
  which these first appear, and one for each sale whose price has no stored form; no two lines merge
  with each other, the quantities are between 1 and 65535, and nothing else of the register has
  changed;
* the next entry is refused exactly by the first check that it does not pass, and by the last of
  them exactly if what was sold of its category and stored price would exceed 65535.

Whatever the register is, an entry that is refused leaves it as it was, and without an open draft
every entry is refused. -/
theorem draft_merges_sales (hstart : r.start = .ok opened) (entries : List Entry) :
    (∃ items, opened.afterEntries entries = { opened with state := .opened { items } } ∧
      Sale.Lines opened.catalog (opened.sales entries) items ∧
      (items.Pairwise fun a b => ¬ a.mergesWith b.categoryId b.unitPrice = true ∧
        ¬ b.mergesWith a.categoryId a.unitPrice = true) ∧
      ∀ line ∈ items, 1 ≤ line.quantity.toNat ∧ line.quantity.toNat ≤ 65535) ∧
    (∀ e fault, ((opened.afterEntries entries).ring e).1 = .error fault ↔
      e.Refused opened.catalog (opened.sales entries) fault) ∧
    ∀ (any : Register β) (e : Entry),
      (∀ fault, (any.ring e).1 = .error fault → (any.ring e).2 = any) ∧
      (any.draft? = none → (any.ring e).1 = .error .noOpenReceipt) := by
  have hrung : HasRung opened (opened.sales entries) (opened.afterEntries entries) := by
    simpa using (hasRung_of_start hstart).afterEntries entries
  refine ⟨?lines, ?refused, fun any e => ⟨fun fault => ring_error, fun h => ring_of_not_open h e⟩⟩
  case lines =>
    obtain ⟨items, hafter, hlines⟩ := hrung.draft
    refine ⟨items, hafter, hlines, hlines.pairwise, fun line hline => ⟨?_, ?_⟩⟩
    · exact hlines.one_le_quantity hrung.positive hline
    · exact Nat.le_of_lt_succ line.quantity.toNat_lt
  case refused =>
    intro e fault
    rw [hrung.ring_eq_error, hrung.catalog_eq]

/-- A new register that sells coffee at 2.50 and tea at 2.00. -/
def counter : Register LocalBank :=
  new { sign := fun _ _ => { value := .ok [] }, submit := Services.submitLocally } .empty {}
    { registrationId := 7, name := "Café", address := "" }
    (.ofList [(1, ⟨"Coffee", .reduced, Money.ofMinor 250⟩),
      (2, ⟨"Tea", .standard, Money.ofMinor 200⟩)]) {}

/-- Coffee at two prices of the same stored form and too many of them, tea at a price that has no
stored form, twice, and what is not sold. -/
def mixedEntries : List Entry :=
  [⟨1, 2, none⟩, ⟨2, 1, some (Binary64.ofNat 100000000)⟩,
    ⟨1, 3, some (Money.ofMinor 250 + Money.ofMinor 1 * Money.ofMinor 10)⟩, ⟨1, 65535, none⟩,
    ⟨2, 1, some (Binary64.ofNat 100000000)⟩, ⟨3, 1, none⟩]

/-- The coffees are one line and the teas two, and no more than 65530 coffees can be added. -/
theorem draft_merges_sales_counter :
    ∃ opened items, counter.start = .ok opened ∧
      (opened.afterEntries mixedEntries).state = .opened { items } ∧
      Sale.Lines counter.catalog (opened.sales mixedEntries) items ∧
      items.map (fun line => (line.categoryId, line.quantity)) = [(1, 5), (2, 1), (2, 1)] ∧
      ((opened.afterEntries mixedEntries).ring ⟨1, 65531, none⟩).1 = .error .quantityOverflow := by
  have hstart : counter.start = .ok { counter with state := .opened {} } := rfl
  obtain ⟨⟨items, hafter, hlines, -, -⟩, hrefused, -⟩ := draft_merges_sales hstart mixedEntries
  refine ⟨_, items, hstart, by rw [hafter], hlines, ?lines, ?overflow⟩
  case lines =>
    have hrung : (afterEntries { counter with state := .opened {} } mixedEntries).draft?.map
        (fun draft => draft.items.map fun line => (line.categoryId, line.quantity)) =
        some [(1, 5), (2, 1), (2, 1)] := by
      decide +kernel
    rw [hafter] at hrung
    exact Option.some.inj hrung
  case overflow =>
    rw [hrefused]
    have hsale : Entry.sale? ⟨1, 65531, none⟩ counter.catalog =
        some ⟨1, 65531, Money.ofMinor 250⟩ := by
      decide +kernel
    exact .quantityOverflow (by decide) hsale (by decide +kernel) (by decide +kernel)

end Register

end SealedReceipts
