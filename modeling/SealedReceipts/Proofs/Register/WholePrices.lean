import SealedReceipts.Proofs.Money
import SealedReceipts.Proofs.Register.Calls

/-!
# Lines and whole prices

A whole price is the amount of a count of minor units. Two different ones have one stored form only
if the lower is stored as itself and the higher, one minor unit above it, as the lower
(`Money.Confused`). An entry goes to a place among the lines of the open draft, and every other line
stays as it is; so two entries of a category at different whole prices have two lines unless these
prices are confused, and where no confused prices meet, every unit is charged at the price that was
entered for it.
-/

namespace SealedReceipts

/-! ## The place of an entry -/

namespace Draft

/-- Where a category at a price goes among lines: to the first that it merges with, or behind the
last. -/
def place (lines : List LineItem) (categoryId : UInt16) (unitPrice : Binary64) : Nat :=
  lines.findIdx (·.mergesWith categoryId unitPrice)

variable {item line : LineItem} {lines after : List LineItem}

/-- What is rung up is on its line, either a new one or an earlier one with a larger quantity, and
the other lines stay as they are. -/
theorem ringUp?_eq_some (h : ringUp? item lines = some (line, after)) :
    after[place lines item.categoryId item.unitPrice]? = some line ∧
    (∀ i, i ≠ place lines item.categoryId item.unitPrice → after[i]? = lines[i]?) ∧
    (line = item ∨ ∃ first ∈ lines, first.mergesWith item.categoryId item.unitPrice = true ∧
      first.addQuantity? item.quantity = some line) := by
  induction lines generalizing after with
  | nil =>
    obtain ⟨rfl, rfl⟩ := Prod.mk.inj (Option.some.inj h)
    refine ⟨rfl, fun i hi => ?_, .inl rfl⟩
    exact List.getElem?_eq_none (Nat.pos_of_ne_zero hi)
  | cons first rest ih =>
    by_cases hmerges : first.mergesWith item.categoryId item.unitPrice = true
    · have hplace : place (first :: rest) item.categoryId item.unitPrice = 0 := by
        rw [place, List.findIdx_cons, hmerges, cond_true]
      rw [Sale.ringUp?_cons_of_mergesWith item hmerges] at h
      obtain ⟨added, hadded, hafter⟩ := Option.map_eq_some_iff.1 h
      obtain ⟨rfl, rfl⟩ := Prod.mk.inj hafter
      rw [hplace]
      refine ⟨rfl, fun i hi => ?_, .inr ⟨first, List.mem_cons_self, hmerges, hadded⟩⟩
      obtain ⟨j, rfl⟩ := Nat.exists_eq_succ_of_ne_zero hi
      rfl
    · have hplace : place (first :: rest) item.categoryId item.unitPrice =
          place rest item.categoryId item.unitPrice + 1 := by
        rw [place, List.findIdx_cons, Bool.eq_false_iff.2 hmerges, cond_false, ← place]
      rw [Sale.ringUp?_cons_of_not_mergesWith item hmerges] at h
      obtain ⟨⟨line', rest'⟩, hrest, hafter⟩ := Option.map_eq_some_iff.1 h
      obtain ⟨rfl, rfl⟩ := Prod.mk.inj hafter
      obtain ⟨hline, hothers, horigin⟩ := ih hrest
      rw [hplace]
      refine ⟨hline, fun i hi => ?_, horigin.imp_right fun ⟨old, hold, hrung⟩ =>
        ⟨old, List.mem_cons_of_mem first hold, hrung⟩⟩
      cases i with
      | zero => rfl
      | succ i => exact hothers i fun heq => hi (congrArg (· + 1) heq)

theorem addQuantity?_eq_some {first : LineItem} {extra : UInt16}
    (h : first.addQuantity? extra = some line) :
    line.categoryId = first.categoryId ∧ line.unitPrice = first.unitPrice := by
  unfold LineItem.addQuantity? at h
  split at h
  · cases h
    exact ⟨rfl, rfl⟩
  · cases h

/-- The line of what is rung up has its category and its stored price. -/
theorem ringUp?_same_price (h : ringUp? item lines = some (line, after)) :
    line.categoryId = item.categoryId ∧
      Money.toMinor? line.unitPrice = Money.toMinor? item.unitPrice := by
  obtain ⟨-, -, rfl | ⟨first, -, hmerges, hadded⟩⟩ := ringUp?_eq_some h
  · exact ⟨rfl, rfl⟩
  · obtain ⟨hcategory, minor, hfirst, hitem⟩ := Sale.mergesWith_iff.1 hmerges
    obtain ⟨hsame, hprice⟩ := addQuantity?_eq_some hadded
    rw [hsame, hprice, hfirst, hitem]
    exact ⟨hcategory, rfl⟩

/-- The category at another price goes to the same place exactly if both prices have one stored
form. -/
theorem place_ringUp?_eq_iff (h : ringUp? item lines = some (line, after)) (unitPrice : Binary64) :
    place after item.categoryId unitPrice = place lines item.categoryId item.unitPrice ↔
      Money.sameMinor item.unitPrice unitPrice = true := by
  obtain ⟨hline, hothers, -⟩ := ringUp?_eq_some h
  obtain ⟨hcategory, hstored⟩ := ringUp?_same_price h
  have hmerges : line.mergesWith item.categoryId unitPrice = true ↔
      Money.sameMinor item.unitPrice unitPrice = true := by
    rw [Sale.mergesWith_iff, Money.sameMinor_iff, hstored]
    exact and_iff_right hcategory
  obtain ⟨hlt, hget⟩ := List.getElem?_eq_some_iff.1 hline
  rw [place, List.findIdx_eq hlt, hget]
  refine ⟨fun hfound => hmerges.1 hfound.1, fun hsame => ⟨hmerges.2 hsame, fun i hi => ?_⟩⟩
  -- a line in front merges with neither price
  have hlength : i < lines.length := hi.trans_le List.findIdx_le_length
  have hfront : lines[i].mergesWith item.categoryId item.unitPrice = false :=
    List.not_of_lt_findIdx hi
  have hkept : after[i] = lines[i] := by
    have hothers := hothers i hi.ne
    rwa [List.getElem?_eq_getElem hlength, List.getElem?_eq_some_iff, exists_prop_of_true] at hothers
  rw [hkept, ← hfront, Bool.eq_iff_iff, Sale.mergesWith_iff, Sale.mergesWith_iff]
  obtain ⟨minor, hitem, hprice⟩ := Money.sameMinor_iff.1 hsame
  rw [hitem, hprice]

end Draft

/-! ## Two entries -/

@[simp] theorem LineItem.unitPrice_ofPrice (categoryId quantity : UInt16) (unitPrice : Binary64)
    (rate : TaxRate) : (ofPrice categoryId quantity unitPrice rate).unitPrice = unitPrice := rfl

namespace Register

variable {β : Type} {r : Register β} {line : LineItem}

def lines (r : Register β) : List LineItem := r.draft?.elim [] (·.items)

theorem lineFor_some_eq_ok {catalog : Catalog} {categoryId quantity : UInt16} {price : Binary64}
    {item : LineItem} (h : lineFor catalog categoryId quantity (some price) = .ok item) :
    item.categoryId = categoryId ∧ item.unitPrice = price := by
  unfold lineFor at h
  split at h
  · cases h
  · split at h
    · cases h
    · simp only [priceOf, Option.getD_some] at h
      split at h
      · cases h
      · cases h
        exact ⟨rfl, rfl⟩

/-- An accepted entry is rung up on the lines of the open draft. -/
theorem ringUp?_of_ring_eq_ok {categoryId quantity : UInt16} {price : Binary64}
    (h : (r.ring ⟨categoryId, quantity, some price⟩).1 = .ok line) :
    ∃ item : LineItem, item.categoryId = categoryId ∧ item.unitPrice = price ∧
      Draft.ringUp? item r.lines =
        some (line, (r.ring ⟨categoryId, quantity, some price⟩).2.lines) := by
  cases hdraft : r.draft? with
  | none =>
    rw [ring_of_not_open hdraft] at h
    cases h
  | some draft =>
    have hopen := draft?_eq_some.1 hdraft
    rw [ring_of_opened hopen] at h ⊢
    cases hitem : lineFor r.catalog categoryId quantity (some price) with
    | error fault => simp [Draft.ring, hitem] at h
    | ok item =>
      obtain ⟨hcategory, hprice⟩ := lineFor_some_eq_ok hitem
      cases hring : Draft.ringUp? item draft.items with
      | none => simp [Draft.ring, hitem, Draft.addItem?, hring] at h
      | some rung =>
        have hrung : draft.ring r.catalog ⟨categoryId, quantity, some price⟩ =
            (.ok rung.1, { draft with items := rung.2 }) := by
          simp only [Draft.ring, hitem, Draft.addItem?, hring, Option.map_some]
        rw [hrung] at h ⊢
        obtain rfl : rung.1 = line := Except.ok.inj h
        refine ⟨item, hcategory, hprice, ?_⟩
        rw [lines, hdraft]
        exact hring

/-- A whole price of at least one minor unit may be charged. -/
theorem priced_ofMinor (categoryId quantity : UInt16) {n : UInt32} (hn : n ≠ 0) :
    (⟨categoryId, quantity, Money.ofMinor n⟩ : Sale).Priced := by
  have hunits := Money.hasUnits_ofMinor n
  have hzero : (0 : Binary64).HasUnits (0 * Binary64.one) :=
    Binary64.hasUnits_literal 0 (by decide)
  have hpos : 0 < n.toNat := Nat.pos_of_ne_zero fun h => hn (UInt32.toNat_inj.1 h)
  have hlt := Money.quotient_lt hpos n.toNat_lt
  refine ⟨hunits.isFinite, (hunits.le hzero).trans (decide_eq_false ?_)⟩
  rw [Nat.zero_mul]
  exact Nat.not_le.2 (Nat.zero_lt_of_lt hlt)

/-- At a price that may be charged, only the quantity on the line can refuse some units of a category
that is known. -/
theorem ring_priced_eq_error {draft : Draft} (hopen : r.state = .opened draft)
    {categoryId quantity : UInt16} {price : Binary64} {fault : RegisterFault}
    (hcategory : (r.catalog.get? categoryId).isSome) (hquantity : quantity ≠ 0)
    (hpriced : (⟨categoryId, quantity, price⟩ : Sale).Priced)
    (h : (r.ring ⟨categoryId, quantity, some price⟩).1 = .error fault) :
    fault = .quantityOverflow := by
  obtain ⟨category, hcategory⟩ := Option.isSome_iff_exists.1 hcategory
  have hsale : Entry.sale? ⟨categoryId, quantity, some price⟩ r.catalog =
      some ⟨categoryId, quantity, price⟩ := by
    rw [Entry.sale?, hcategory]
    rfl
  obtain ⟨rate, -, hline⟩ := lineFor_eq_ok hquantity hsale hpriced
  simp only [ring_of_opened hopen, Draft.ring, hline] at h
  cases hadd : draft.addItem? (Sale.item ⟨categoryId, quantity, price⟩ rate) with
  | none =>
    simp only [hadd, Except.error.injEq] at h
    exact h.symm
  | some added => simp only [hadd, reduceCtorEq] at h

/-- **Two entries.** Two accepted entries of a category at different whole prices are on one line
exactly if the prices are confused, and else the second leaves the line of the first as it was. -/
theorem two_whole_prices {categoryId quantity quantity' : UInt16} {m n : UInt32}
    {line line' : LineItem} {between after : Register β} (hne : m ≠ n)
    (hfirst : r.ring ⟨categoryId, quantity, some (Money.ofMinor m)⟩ = (.ok line, between))
    (hsecond : between.ring ⟨categoryId, quantity', some (Money.ofMinor n)⟩ = (.ok line', after)) :
    let place := Draft.place r.lines categoryId (Money.ofMinor m)
    let place' := Draft.place between.lines categoryId (Money.ofMinor n)
    between.lines[place]? = some line ∧ after.lines[place']? = some line' ∧
      (place = place' ↔ Money.Confused m n) ∧
      (¬ Money.Confused m n → after.lines[place]? = some line) := by
  obtain ⟨item, rfl, hprice, hrung⟩ := ringUp?_of_ring_eq_ok (congrArg Prod.fst hfirst)
  obtain ⟨item', hcategory', hprice', hrung'⟩ := ringUp?_of_ring_eq_ok (congrArg Prod.fst hsecond)
  rw [hfirst] at hrung
  rw [hsecond] at hrung'
  obtain ⟨hline, -, -⟩ := Draft.ringUp?_eq_some hrung
  obtain ⟨hline', hothers, -⟩ := Draft.ringUp?_eq_some hrung'
  rw [hprice] at hline
  rw [hcategory', hprice'] at hline' hothers
  have hsame : Draft.place r.lines item.categoryId (Money.ofMinor m) =
      Draft.place between.lines item.categoryId (Money.ofMinor n) ↔ Money.Confused m n := by
    have hplace := Draft.place_ringUp?_eq_iff hrung (Money.ofMinor n)
    rw [hprice, Money.sameMinor_ofMinor, or_iff_right hne] at hplace
    rw [← hplace]
    exact eq_comm
  refine ⟨hline, hline', hsame, fun hapart => ?_⟩
  rw [hothers _ (mt hsame.1 hapart), hline]

end Register

/-! ## Many entries -/

namespace Sale

/-- All prices are whole, and none of a category are confused. -/
structure WholeApart (sales : List Sale) : Prop where
  whole : ∀ s ∈ sales, ∃ n, s.unitPrice = Money.ofMinor n
  apart : ∀ s ∈ sales, ∀ t ∈ sales, s.categoryId = t.categoryId → ∀ m n,
    s.unitPrice = Money.ofMinor m → t.unitPrice = Money.ofMinor n → ¬ Money.Confused m n

variable {catalog : Catalog} {sales : List Sale} {s t : Sale} {lines : List LineItem}
  {line : LineItem} {l : Label}

theorem WholeApart.of_counts (counts : List UInt32)
    (hwhole : ∀ s ∈ sales, ∃ n ∈ counts, s.unitPrice = Money.ofMinor n)
    (hapart : ∀ m ∈ counts, ∀ n ∈ counts, ¬ Money.Confused m n) : WholeApart sales := by
  refine ⟨fun s hs => (hwhole s hs).imp fun _ => And.right, ?_⟩
  intro s hs t ht _ m n hm hn
  obtain ⟨m', hm', hs'⟩ := hwhole s hs
  obtain ⟨n', hn', ht'⟩ := hwhole t ht
  obtain rfl := Money.ofMinor_inj.1 (hs'.symm.trans hm)
  obtain rfl := Money.ofMinor_inj.1 (ht'.symm.trans hn)
  exact hapart _ hm' _ hn'

theorem WholeApart.sameMinor_iff (h : WholeApart sales) (hs : s ∈ sales) (ht : t ∈ sales)
    (hcategory : s.categoryId = t.categoryId) :
    Money.sameMinor s.unitPrice t.unitPrice = true ↔ s.unitPrice = t.unitPrice := by
  obtain ⟨m, hm⟩ := h.whole s hs
  obtain ⟨n, hn⟩ := h.whole t ht
  have hapart := h.apart s hs t ht hcategory m n hm hn
  rw [hm, hn, Money.sameMinor_ofMinor, or_iff_left hapart, Money.ofMinor_inj]

theorem WholeApart.stored (h : WholeApart sales) (hs : s ∈ sales) :
    ∃ minor, Money.toMinor? s.unitPrice = some minor := by
  obtain ⟨n, hn⟩ := h.whole s hs
  obtain ⟨minor, hminor, -⟩ := Money.toMinor?_ofMinor n
  exact ⟨minor, hn ▸ hminor⟩

/-- The sales that go on one line have the price of the line. -/
theorem IsLine.unitPrice_eq_iff (h : IsLine catalog sales l line) (ha : WholeApart sales)
    (hs : s ∈ sales) :
    line.mergesWith s.categoryId s.unitPrice = true ↔
      line.categoryId = s.categoryId ∧ line.unitPrice = s.unitPrice := by
  obtain ⟨n, first, hfirst, -, hcategory, hprice⟩ := h.first_mem
  rw [LineItem.mergesWith, Bool.and_eq_true, beq_iff_eq, hcategory, hprice]
  exact and_congr_right fun hsame => ha.sameMinor_iff (List.mem_of_getElem? hfirst) hs hsame

/-- Every sale goes on a line of its category at its own price. -/
theorem Lines.line_of_sale (h : Lines catalog sales lines) (ha : WholeApart sales)
    (hs : s ∈ sales) :
    ∃ line ∈ lines, line.categoryId = s.categoryId ∧ line.unitPrice = s.unitPrice := by
  obtain ⟨i, hi⟩ := List.mem_iff_getElem?.1 hs
  obtain ⟨minor, hminor⟩ := ha.stored hs
  have hlabel : s.label sales.length ∈ labels sales := by
    rw [mem_labels]
    exact ⟨i, s, hi, by rw [label_eq_pair hminor, label_eq_pair hminor]⟩
  obtain ⟨line, hmem, hline⟩ := h.exists_line hlabel
  exact ⟨line, hmem, (hline.unitPrice_eq_iff ha hs).1 ((hline.mergesWith_iff s).2 rfl)⟩

/-- A line has the units that were sold of its category at its price. -/
theorem Lines.quantity_eq (h : Lines catalog sales lines) (ha : WholeApart sales)
    (hmem : line ∈ lines) :
    line.quantity.toNat = total (sales.filter fun s =>
      line.categoryId = s.categoryId ∧ line.unitPrice = s.unitPrice) := by
  obtain ⟨l, -, hline⟩ := h.exists_label hmem
  obtain ⟨n, first, hfirst, rfl, hcategory, hprice⟩ := hline.first_mem
  have hfirst := List.mem_of_getElem? hfirst
  obtain ⟨minor, hminor⟩ := ha.stored hfirst
  have hlabel : first.label n = first.label sales.length := by
    rw [label_eq_pair hminor, label_eq_pair hminor]
  rw [hline.quantity, hlabel, ← soldOf_eq, soldOf]
  congr 1
  refine List.filter_congr fun s hs => ?_
  rw [Bool.eq_iff_iff, Bool.and_eq_true, beq_iff_eq, decide_eq_true_eq, hcategory, hprice,
    eq_comm (a := s.categoryId), eq_comm (a := first.unitPrice)]
  exact and_congr_right fun hsame => ha.sameMinor_iff hs hfirst hsame.symm

end Sale

namespace Register

variable {β : Type} {r opened : Register β}

/-- The lines of what was rung up at whole prices that are not confused: every unit is charged at
the price that was entered for it. -/
theorem HasRung.charged {sales : List Sale} (h : HasRung opened sales r)
    (ha : Sale.WholeApart sales) :
    (∀ s ∈ sales, ∃ line ∈ r.lines, line.categoryId = s.categoryId ∧
      line.unitPrice = s.unitPrice) ∧
    ∀ line ∈ r.lines,
      line.quantity.toNat = Sale.total (sales.filter fun s =>
        line.categoryId = s.categoryId ∧ line.unitPrice = s.unitPrice) ∧
      line.totalPrice = line.unitPrice * Binary64.ofNat line.quantity.toNat := by
  obtain ⟨items, rfl, hlines⟩ := h.draft
  refine ⟨fun s hs => hlines.line_of_sale ha hs, fun line hline => ?_⟩
  obtain ⟨l, -, hisLine⟩ := hlines.exists_label hline
  exact ⟨hlines.quantity_eq ha hline, hisLine.totalPrice⟩

/-- **Different whole prices.** Let the amounts of two different counts of minor units be prices.

* A line at the one merges with the other exactly if the counts are confused: one is right above
  the other, and both amounts are stored as the lower.
* Two accepted entries of a category, at the one price and then at the other, go to the same place
  among the lines exactly then; else the second leaves the line of the first as it was.
* Neither price refuses an entry if it is at least one minor unit: on an open receipt, units of a
  known category are refused only because their line has too many.

Where all prices are whole and none of a category are confused, every sale has a line of its
category at its own price, and a line has the units that were sold at its price and charges them at
it. -/
theorem whole_prices_on_lines {β : Type} :
    (∀ (line : LineItem) (m n : UInt32), m ≠ n → line.unitPrice = Money.ofMinor m →
      (line.mergesWith line.categoryId (Money.ofMinor n) = true ↔ Money.Confused m n)) ∧
    (∀ (r between after : Register β) (categoryId quantity quantity' : UInt16) (m n : UInt32)
      (line line' : LineItem), m ≠ n →
      r.ring ⟨categoryId, quantity, some (Money.ofMinor m)⟩ = (.ok line, between) →
      between.ring ⟨categoryId, quantity', some (Money.ofMinor n)⟩ = (.ok line', after) →
      let place := Draft.place r.lines categoryId (Money.ofMinor m)
      let place' := Draft.place between.lines categoryId (Money.ofMinor n)
      between.lines[place]? = some line ∧ after.lines[place']? = some line' ∧
        (place = place' ↔ Money.Confused m n) ∧
        (¬ Money.Confused m n → after.lines[place]? = some line)) ∧
    (∀ (r : Register β) (draft : Draft) (categoryId quantity : UInt16) (n : UInt32)
      (fault : RegisterFault), r.state = .opened draft → (r.catalog.get? categoryId).isSome →
      quantity ≠ 0 → n ≠ 0 →
      (r.ring ⟨categoryId, quantity, some (Money.ofMinor n)⟩).1 = .error fault →
      fault = .quantityOverflow) ∧
    ∀ (r opened : Register β) (entries : List Entry), r.start = .ok opened →
      Sale.WholeApart (opened.sales entries) →
      (∀ s ∈ opened.sales entries, ∃ line ∈ (opened.afterEntries entries).lines,
        line.categoryId = s.categoryId ∧ line.unitPrice = s.unitPrice) ∧
      ∀ line ∈ (opened.afterEntries entries).lines,
        line.quantity.toNat = Sale.total ((opened.sales entries).filter fun s =>
          line.categoryId = s.categoryId ∧ line.unitPrice = s.unitPrice) ∧
        line.totalPrice = line.unitPrice * Binary64.ofNat line.quantity.toNat := by
  refine ⟨?merges, ?two, ?refused, ?many⟩
  case merges =>
    intro line m n hne hprice
    rw [LineItem.mergesWith, Bool.and_eq_true, hprice, Money.sameMinor_ofMinor, or_iff_right hne]
    exact and_iff_right (beq_self_eq_true _)
  case two =>
    intro r between after categoryId quantity quantity' m n line line' hne hfirst hsecond
    exact two_whole_prices hne hfirst hsecond
  case refused =>
    intro r draft categoryId quantity n fault hopen hcategory hquantity hn hfault
    exact ring_priced_eq_error hopen hcategory hquantity (priced_ofMinor categoryId quantity hn)
      hfault
  case many =>
    intro r opened entries hstart ha
    have hrung := (hasRung_of_start hstart).afterEntries entries
    rw [List.nil_append] at hrung
    exact hrung.charged ha

/-- The counter with a draft that it has opened. -/
def openCounter : Register LocalBank := { counter with state := .opened {} }

/-- So many coffees at a whole price. -/
def coffees (quantity : UInt16) (n : UInt32) : Entry := ⟨1, quantity, some (Money.ofMinor n)⟩

theorem sales_coffees : openCounter.sales [coffees 2 250, coffees 1 300] =
    [⟨1, 2, Money.ofMinor 250⟩, ⟨1, 1, Money.ofMinor 300⟩] := by
  decide +kernel

/-- Two coffees at 2.50 and one at 3.00 are on two lines, each with its units at its price, and
65534 more at 2.50 are too many. -/
theorem whole_prices_on_lines_counter :
    ∃ between after : Register LocalBank, ∃ line line' : LineItem,
      openCounter.ring (coffees 2 250) = (.ok line, between) ∧
      between.ring (coffees 1 300) = (.ok line', after) ∧
      ¬ line.mergesWith line.categoryId (Money.ofMinor 300) = true ∧
      after.lines[0]? = some line ∧ after.lines[1]? = some line' ∧
      (∃ fault, (after.ring (coffees 65534 250)).1 = .error fault ∧ fault = .quantityOverflow) ∧
      ∃ line ∈ (openCounter.afterEntries [coffees 2 250, coffees 1 300]).lines,
        line.unitPrice = Money.ofMinor 250 := by
  obtain ⟨hmerges, htwo, hrefused, hmany⟩ := @whole_prices_on_lines LocalBank
  have hapart : ¬ Money.Confused 250 300 := by decide +kernel
  have hline : (openCounter.ring (coffees 2 250)).1 =
      .ok (LineItem.ofPrice 1 2 (Money.ofMinor 250) .reduced) := by
    decide +kernel
  have hline' : ((openCounter.ring (coffees 2 250)).2.ring (coffees 1 300)).1 =
      .ok (LineItem.ofPrice 1 1 (Money.ofMinor 300) .reduced) := by
    decide +kernel
  have hover : (((openCounter.ring (coffees 2 250)).2.ring (coffees 1 300)).2.ring
      (coffees 65534 250)).1 = .error .quantityOverflow := by
    decide +kernel
  have hring := Prod.fst_eq_iff.1 hline
  have hring' := Prod.fst_eq_iff.1 hline'
  obtain ⟨-, hsecond, -, hfirst⟩ := htwo _ _ _ 1 2 1 250 300 _ _ (by decide) hring hring'
  have hplace : Draft.place openCounter.lines 1 (Money.ofMinor 250) = 0 := by decide +kernel
  have hplace' : Draft.place (openCounter.ring (coffees 2 250)).2.lines 1 (Money.ofMinor 300) = 1 := by
    decide +kernel
  rw [hplace] at hfirst
  rw [hplace'] at hsecond
  refine ⟨_, _, _, _, hring, hring', ?merges, hfirst hapart, hsecond,
    ⟨.quantityOverflow, hover, ?fault⟩, ?many⟩
  case merges => exact mt (hmerges _ 250 300 (by decide) (LineItem.unitPrice_ofPrice ..)).1 hapart
  case fault =>
    have hopen : (((openCounter.ring (coffees 2 250)).2.ring (coffees 1 300)).2).draft?.isSome := by
      decide +kernel
    obtain ⟨draft, hopen⟩ := Option.isSome_iff_exists.1 hopen
    exact hrefused _ draft 1 65534 250 _ (draft?_eq_some.1 hopen) (by decide +kernel) (by decide)
      (by decide) hover
  case many =>
    have hwhole : Sale.WholeApart (openCounter.sales [coffees 2 250, coffees 1 300]) := by
      rw [sales_coffees]
      refine .of_counts [250, 300] (fun s hs => ?_) (fun m hm n hn => ?_)
      · rcases List.mem_pair.1 hs with rfl | rfl
        · exact ⟨250, List.mem_cons_self, rfl⟩
        · exact ⟨300, List.mem_cons_of_mem 250 List.mem_cons_self, rfl⟩
      · rcases List.mem_pair.1 hm with rfl | rfl <;> rcases List.mem_pair.1 hn with rfl | rfl <;>
          decide +kernel
    obtain ⟨line, hline, -, hprice⟩ :=
      (hmany counter openCounter [coffees 2 250, coffees 1 300] rfl hwhole).1
        ⟨1, 2, Money.ofMinor 250⟩ (sales_coffees ▸ List.mem_cons_self)
    exact ⟨line, hline, hprice⟩

/-- Coffee at 0.29 goes on the line of the coffee at 0.28, and is charged 0.28. -/
theorem whole_prices_share_line :
    (LineItem.ofPrice 1 1 (Money.ofMinor 28) .reduced).mergesWith 1 (Money.ofMinor 29) = true ∧
      ((openCounter.ring (coffees 1 28)).2.ring (coffees 1 29)).2.lines =
        [LineItem.ofPrice 1 2 (Money.ofMinor 28) .reduced] := by
  decide +kernel

end Register

end SealedReceipts
