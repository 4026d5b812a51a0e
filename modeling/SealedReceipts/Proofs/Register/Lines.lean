import Mathlib.Data.List.Forall2
import Mathlib.Data.List.Induction
import Mathlib.Data.List.Nodup
import SealedReceipts.Catalog
import SealedReceipts.Register.Draft

/-!
# Lines and what was sold

The lines of a draft are described by the sales that went on them. A sale has a label: its category
and the stored form of its price, or, if the price has none, its own number, so that no other sale
has the same. The lines are one for each label, in the order in which the labels first appear
(`Sale.Lines`), and ringing up one sale more keeps them so, unless the quantity of its label would
exceed 16 bits (`Sale.Lines.ringUp?`).
-/

namespace SealedReceipts

/-- What is sold at once. -/
structure Sale where
  categoryId : UInt16
  quantity : UInt16
  unitPrice : Binary64
  deriving DecidableEq

namespace Sale

/-- What the sales of one line have in common. -/
inductive Label where
  | pair (categoryId : UInt16) (minor : UInt32)
  | single (number : Nat)
  deriving DecidableEq

def label (s : Sale) (number : Nat) : Label :=
  match Money.toMinor? s.unitPrice with
  | some minor => .pair s.categoryId minor
  | none => .single number

/-- Sales with their labels, numbered from zero. -/
def labelled (sales : List Sale) : List (Label × Sale) :=
  sales.zipIdx.map fun (s, number) => (s.label number, s)

/-- The labels of sales, in the order in which they first appear. -/
def labels (sales : List Sale) : List Label := ((labelled sales).map (·.1)).eraseDups

/-- The sales that have a label, in order. -/
def under (sales : List Sale) (l : Label) : List Sale :=
  ((labelled sales).filter fun (other, _) => other = l).map (·.2)

def total : List Sale → Nat
  | [] => 0
  | s :: rest => s.quantity.toNat + total rest

/-- The quantity that was sold of the category and the stored price of a sale. -/
def soldOf (sales : List Sale) (s : Sale) : Nat :=
  total (sales.filter fun t =>
    t.categoryId == s.categoryId && Money.sameMinor t.unitPrice s.unitPrice)

/-- The line of the sales that have a label: its category and unit price are those of the first of
them, its quantity is the sum of theirs, its total is the product of the two, and its rate is that
of the catalog. -/
structure IsLine (catalog : Catalog) (sales : List Sale) (l : Label) (line : LineItem) : Prop where
  first : ∃ s, (under sales l).head? = some s ∧ line.categoryId = s.categoryId ∧
    line.unitPrice = s.unitPrice
  quantity : line.quantity.toNat = total (under sales l)
  totalPrice : line.totalPrice = line.unitPrice * Binary64.ofNat line.quantity.toNat
  taxRate : (catalog.get? line.categoryId).map (·.taxRate) = some line.taxRate

/-- One line for each label, in the order in which the labels first appear. -/
def Lines (catalog : Catalog) (sales : List Sale) (lines : List LineItem) : Prop :=
  List.Forall₂ (IsLine catalog sales) (labels sales) lines

variable {catalog : Catalog} {sales : List Sale} {s : Sale} {l l' : Label} {line : LineItem}

/-! ## One sale more -/

theorem labelled_append (sales : List Sale) (s : Sale) :
    labelled (sales ++ [s]) = labelled sales ++ [(s.label sales.length, s)] := by
  simp [labelled, List.zipIdx_append]

theorem labels_append (sales : List Sale) (s : Sale) :
    labels (sales ++ [s]) =
      if s.label sales.length ∈ labels sales then labels sales
      else labels sales ++ [s.label sales.length] := by
  have hmem : s.label sales.length ∈ (labelled sales).map (·.1) ↔
      s.label sales.length ∈ labels sales := List.mem_eraseDups.symm
  rw [labels, labelled_append, List.map_append, List.map_singleton, List.eraseDups_append, ← labels,
    List.removeAll, List.filter_singleton]
  split
  · next h => simp [hmem.2 h]
  · next h => simp [mt hmem.1 h, List.eraseDups_cons]

theorem under_append (sales : List Sale) (s : Sale) (l : Label) :
    under (sales ++ [s]) l = under sales l ++ if s.label sales.length = l then [s] else [] := by
  rw [under, labelled_append, List.filter_append, List.map_append, ← under]
  split
  · next h => simp [h]
  · next h => simp [h]

theorem total_append (sales others : List Sale) :
    total (sales ++ others) = total sales + total others := by
  induction sales with
  | nil => simp [total]
  | cons s rest ih => rw [List.cons_append, total, ih, total, Nat.add_assoc]

theorem quantity_le_total (h : s ∈ sales) : s.quantity.toNat ≤ total sales := by
  obtain ⟨before, behind, rfl⟩ := List.append_of_mem h
  rw [total_append, total]
  omega

/-! ## Labels -/

theorem label_eq_pair {minor : UInt32} (h : Money.toMinor? s.unitPrice = some minor) (n : Nat) :
    s.label n = .pair s.categoryId minor := by
  simp only [label, h]

theorem label_eq_single (h : Money.toMinor? s.unitPrice = none) (n : Nat) :
    s.label n = .single n := by
  simp only [label, h]

theorem mem_under : s ∈ under sales l ↔ ∃ n, sales[n]? = some s ∧ s.label n = l := by
  simp only [under, labelled, List.mem_map, List.mem_filter, Prod.exists, decide_eq_true_eq,
    List.mem_zipIdx_iff_getElem?, Prod.mk.injEq]
  constructor
  · rintro ⟨l', s', ⟨⟨t, n, hn, hl, rfl⟩, rfl⟩, rfl⟩
    exact ⟨n, hn, hl⟩
  · rintro ⟨n, hn, hl⟩
    exact ⟨l, s, ⟨⟨s, n, hn, hl, rfl⟩, rfl⟩, rfl⟩

theorem mem_labels : l ∈ labels sales ↔ ∃ n, ∃ s : Sale, sales[n]? = some s ∧ s.label n = l := by
  simp only [labels, List.mem_eraseDups, labelled, List.map_map, List.mem_map, Prod.exists,
    List.mem_zipIdx_iff_getElem?, Function.comp_apply]
  exact ⟨fun ⟨s, n, h⟩ => ⟨n, s, h⟩, fun ⟨n, s, h⟩ => ⟨s, n, h⟩⟩

theorem labels_nodup (sales : List Sale) : (labels sales).Nodup := by
  induction sales using List.reverseRecOn with
  | nil => exact List.nodup_nil
  | append_singleton sales s ih =>
    rw [labels_append]
    split
    · exact ih
    · next h => exact List.nodup_append'.2 ⟨ih, List.nodup_singleton _, by simpa using h⟩

theorem under_eq_nil (h : l ∉ labels sales) : under sales l = [] := by
  rw [List.eq_nil_iff_forall_not_mem]
  intro s hs
  obtain ⟨n, hn, hl⟩ := mem_under.1 hs
  exact h (mem_labels.2 ⟨n, s, hn, hl⟩)

/-- What was sold of the category and the price of the next sale is what is on the line it would go
on. -/
theorem soldOf_eq (sales : List Sale) (s : Sale) :
    soldOf sales s = total (under sales (s.label sales.length)) := by
  cases hs : Money.toMinor? s.unitPrice with
  | none =>
    have hnew : s.label sales.length ∉ labels sales := by
      rw [label_eq_single hs, mem_labels]
      rintro ⟨n, t, hn, hl⟩
      have hlt := (List.getElem?_eq_some_iff.1 hn).1
      unfold label at hl
      split at hl
      · cases hl
      · exact Nat.ne_of_lt hlt (Label.single.inj hl)
    have hnone : sales.filter (fun t =>
        t.categoryId == s.categoryId && Money.sameMinor t.unitPrice s.unitPrice) = [] := by
      rw [List.filter_eq_nil_iff]
      intro t _
      cases ht : Money.toMinor? t.unitPrice <;> simp [Money.sameMinor, hs, ht]
    rw [under_eq_nil hnew, soldOf, hnone]
  | some minor =>
    rw [label_eq_pair hs]
    induction sales using List.reverseRecOn with
    | nil => rfl
    | append_singleton sales t ih =>
      rw [soldOf, List.filter_append, total_append, ← soldOf, ih, under_append, total_append]
      congr 2
      cases ht : Money.toMinor? t.unitPrice with
      | none => simp [Money.sameMinor, hs, ht, label_eq_single ht]
      | some other =>
        rw [label_eq_pair ht, List.filter_singleton]
        simp [Money.sameMinor, hs, ht]

/-! ## Which sales go on a line -/

theorem IsLine.first_mem (h : IsLine catalog sales l line) :
    ∃ n, ∃ s : Sale, sales[n]? = some s ∧ s.label n = l ∧ line.categoryId = s.categoryId ∧
      line.unitPrice = s.unitPrice := by
  obtain ⟨s, hs, hcategory, hprice⟩ := h.first
  obtain ⟨n, hn, hl⟩ := mem_under.1 (List.mem_of_mem_head? hs)
  exact ⟨n, s, hn, hl, hcategory, hprice⟩

/-- A line whose price has a stored form has its label. -/
theorem IsLine.label_eq (h : IsLine catalog sales l line) {minor : UInt32}
    (hprice : Money.toMinor? line.unitPrice = some minor) : l = .pair line.categoryId minor := by
  obtain ⟨n, s, -, rfl, hcategory, hs⟩ := h.first_mem
  rw [hs] at hprice
  rw [label_eq_pair hprice, hcategory]

theorem mergesWith_iff {categoryId : UInt16} {unitPrice : Binary64} :
    line.mergesWith categoryId unitPrice = true ↔ line.categoryId = categoryId ∧
      ∃ minor, Money.toMinor? line.unitPrice = some minor ∧
        Money.toMinor? unitPrice = some minor := by
  rw [LineItem.mergesWith, Bool.and_eq_true, beq_iff_eq, Money.sameMinor]
  refine and_congr_right fun _ => ?_
  cases Money.toMinor? line.unitPrice with
  | none => simp
  | some minor =>
    cases Money.toMinor? unitPrice with
    | none => simp
    | some other => simp [eq_comm (a := other)]

/-- The next sale goes on the line that has its label. -/
theorem IsLine.mergesWith_iff (h : IsLine catalog sales l line) (s : Sale) :
    line.mergesWith s.categoryId s.unitPrice = true ↔ l = s.label sales.length := by
  rw [Sale.mergesWith_iff]
  constructor
  · rintro ⟨hcategory, minor, hline, hs⟩
    rw [h.label_eq hline, label_eq_pair hs, hcategory]
  · intro hl
    obtain ⟨n, t, hn, ht, hcategory, hprice⟩ := h.first_mem
    have hlt := (List.getElem?_eq_some_iff.1 hn).1
    rw [hcategory, hprice]
    rw [← ht] at hl
    cases hprice' : Money.toMinor? t.unitPrice with
    | none =>
      cases hs : Money.toMinor? s.unitPrice with
      | none =>
        rw [label_eq_single hprice', label_eq_single hs] at hl
        exact absurd (Label.single.inj hl) (Nat.ne_of_lt hlt)
      | some minor =>
        rw [label_eq_single hprice', label_eq_pair hs] at hl
        cases hl
    | some minor =>
      cases hs : Money.toMinor? s.unitPrice with
      | none =>
        rw [label_eq_pair hprice', label_eq_single hs] at hl
        cases hl
      | some other =>
        rw [label_eq_pair hprice', label_eq_pair hs] at hl
        obtain ⟨hsame, rfl⟩ := Label.pair.inj hl
        exact ⟨hsame, minor, rfl, rfl⟩

/-- Lines with different labels do not merge with each other. -/
theorem IsLine.not_mergesWith {other : LineItem} (h : IsLine catalog sales l line)
    (h' : IsLine catalog sales l' other) (hne : l ≠ l') :
    ¬line.mergesWith other.categoryId other.unitPrice = true := by
  rw [Sale.mergesWith_iff]
  rintro ⟨hcategory, minor, hline, hother⟩
  exact hne (by rw [h.label_eq hline, h'.label_eq hother, hcategory])

theorem Lines.exists_label {lines : List LineItem} (h : Lines catalog sales lines)
    (hline : line ∈ lines) : ∃ l ∈ labels sales, IsLine catalog sales l line := by
  obtain ⟨hlength, hlines⟩ := List.forall₂_iff_get.1 h
  obtain ⟨i, hi, rfl⟩ := List.mem_iff_getElem.1 hline
  exact ⟨_, List.getElem_mem (hlength ▸ hi), hlines i (hlength ▸ hi) hi⟩

theorem Lines.exists_line {lines : List LineItem} (h : Lines catalog sales lines)
    (hl : l ∈ labels sales) : ∃ line ∈ lines, IsLine catalog sales l line := by
  obtain ⟨hlength, hlines⟩ := List.forall₂_iff_get.1 h
  obtain ⟨i, hi, rfl⟩ := List.mem_iff_getElem.1 hl
  exact ⟨_, List.getElem_mem (hlength ▸ hi), hlines i hi (hlength ▸ hi)⟩

/-- No two lines merge with each other. -/
theorem Lines.pairwise {lines : List LineItem} (h : Lines catalog sales lines) :
    lines.Pairwise fun a b => ¬a.mergesWith b.categoryId b.unitPrice = true ∧
      ¬b.mergesWith a.categoryId a.unitPrice = true := by
  obtain ⟨hlength, hlines⟩ := List.forall₂_iff_get.1 h
  rw [List.pairwise_iff_getElem]
  intro i j hi hj hlt
  have hne := List.pairwise_iff_getElem.1 (labels_nodup sales) i j (hlength ▸ hi) (hlength ▸ hj) hlt
  have hfirst := hlines i (hlength ▸ hi) hi
  have hsecond := hlines j (hlength ▸ hj) hj
  exact ⟨hfirst.not_mergesWith hsecond hne, hsecond.not_mergesWith hfirst hne.symm⟩

/-- Lines of sales of at least one unit have at least one. -/
theorem Lines.one_le_quantity {lines : List LineItem} (h : Lines catalog sales lines)
    (hpositive : ∀ s ∈ sales, s.quantity ≠ 0) (hline : line ∈ lines) :
    1 ≤ line.quantity.toNat := by
  obtain ⟨l, -, hline⟩ := h.exists_label hline
  obtain ⟨s, hs, -⟩ := hline.first
  obtain ⟨n, hn, -⟩ := mem_under.1 (List.mem_of_mem_head? hs)
  have hone : s.quantity.toNat ≠ 0 := fun hzero =>
    hpositive s (List.mem_of_getElem? hn) (UInt16.toNat_inj.1 hzero)
  have hle : s.quantity.toNat ≤ total (under sales l) :=
    quantity_le_total (List.mem_of_mem_head? hs)
  rw [hline.quantity]
  omega

/-! ## Ringing up -/

/-- A sale leaves the lines of other labels as they are. -/
theorem IsLine.append_of_ne (h : IsLine catalog sales l line) (hne : s.label sales.length ≠ l) :
    IsLine catalog (sales ++ [s]) l line := by
  have hunder : under (sales ++ [s]) l = under sales l := by
    rw [under_append, if_neg hne, List.append_nil]
  exact ⟨hunder ▸ h.first, hunder ▸ h.quantity, h.totalPrice, h.taxRate⟩

theorem forall₂_append_of_notMem {labels : List Label} {lines : List LineItem}
    (h : List.Forall₂ (IsLine catalog sales) labels lines) (hnew : s.label sales.length ∉ labels) :
    List.Forall₂ (IsLine catalog (sales ++ [s])) labels lines := by
  induction h with
  | nil => exact .nil
  | cons hline _ ih =>
    obtain ⟨hne, hrest⟩ := not_or.1 (mt List.mem_cons.2 hnew)
    exact .cons (hline.append_of_ne hne) (ih hrest)

/-- A sale goes on the line of its label, unless the quantity would not fit. -/
theorem IsLine.addQuantity? (h : IsLine catalog sales (s.label sales.length) line) :
    (total (under sales (s.label sales.length)) + s.quantity.toNat < UInt16.size →
      ∃ after, line.addQuantity? s.quantity = some after ∧
        IsLine catalog (sales ++ [s]) (s.label sales.length) after) ∧
    (¬total (under sales (s.label sales.length)) + s.quantity.toNat < UInt16.size →
      line.addQuantity? s.quantity = none) := by
  rw [← h.quantity]
  have hunder : under (sales ++ [s]) (s.label sales.length) =
      under sales (s.label sales.length) ++ [s] := by
    rw [under_append, if_pos rfl]
  refine ⟨fun hfits => ⟨_, if_pos hfits, ?_⟩, fun hover => if_neg hover⟩
  refine ⟨?first, ?quantity, rfl, h.taxRate⟩
  case first =>
    obtain ⟨t, ht, hcategory, hprice⟩ := h.first
    refine ⟨t, ?_, hcategory, hprice⟩
    rw [hunder, List.head?_append, ht]
    rfl
  case quantity =>
    rw [hunder, total_append, ← h.quantity, UInt16.toNat_add, Nat.mod_eq_of_lt hfits]
    simp [total]

def item (s : Sale) (rate : TaxRate) : LineItem :=
  LineItem.ofPrice s.categoryId s.quantity s.unitPrice rate

/-- A sale with a new label begins a line. -/
theorem isLine_item {rate : TaxRate} (hrate : (catalog.get? s.categoryId).map (·.taxRate) = some rate)
    (hnew : s.label sales.length ∉ labels sales) :
    IsLine catalog (sales ++ [s]) (s.label sales.length) (s.item rate) := by
  have hunder : under (sales ++ [s]) (s.label sales.length) = [s] := by
    rw [under_append, if_pos rfl, under_eq_nil hnew, List.nil_append]
  refine ⟨⟨s, ?_, rfl, rfl⟩, ?_, rfl, hrate⟩
  · rw [hunder]
    rfl
  · rw [hunder]
    simp [total, item, LineItem.ofPrice]

theorem ringUp?_cons_of_mergesWith (new : LineItem) {first : LineItem}
    (h : first.mergesWith new.categoryId new.unitPrice = true) (rest : List LineItem) :
    Draft.ringUp? new (first :: rest) =
      (first.addQuantity? new.quantity).map fun line => (line, line :: rest) := by
  rw [Draft.ringUp?, if_pos h]

theorem ringUp?_cons_of_not_mergesWith (new : LineItem) {first : LineItem}
    (h : ¬first.mergesWith new.categoryId new.unitPrice = true) (rest : List LineItem) :
    Draft.ringUp? new (first :: rest) =
      (Draft.ringUp? new rest).map fun (line, rest) => (line, first :: rest) := by
  rw [Draft.ringUp?, if_neg h]

/-- What merges with no line begins one. -/
theorem ringUp?_of_not_mergesWith (new : LineItem) {lines : List LineItem}
    (h : ∀ line ∈ lines, ¬line.mergesWith new.categoryId new.unitPrice = true) :
    Draft.ringUp? new lines = some (new, lines ++ [new]) := by
  induction lines with
  | nil => rfl
  | cons first rest ih =>
    obtain ⟨hfirst, hrest⟩ := List.forall_mem_cons.1 h
    rw [ringUp?_cons_of_not_mergesWith new hfirst, ih hrest]
    rfl

/-- A sale whose label is among those of the lines goes on its line, or does not fit. -/
theorem ringUp?_of_mem (rate : TaxRate) {labels : List Label} {lines : List LineItem}
    (hlines : List.Forall₂ (IsLine catalog sales) labels lines) (hnodup : labels.Nodup)
    (hmem : s.label sales.length ∈ labels) :
    (total (under sales (s.label sales.length)) + s.quantity.toNat < UInt16.size →
      ∃ line after, Draft.ringUp? (s.item rate) lines = some (line, after) ∧
        List.Forall₂ (IsLine catalog (sales ++ [s])) labels after) ∧
    (¬total (under sales (s.label sales.length)) + s.quantity.toNat < UInt16.size →
      Draft.ringUp? (s.item rate) lines = none) := by
  induction hlines with
  | nil => cases hmem
  | @cons l first labels lines hfirst hlines ih =>
    obtain ⟨hhead, htail⟩ := List.nodup_cons.1 hnodup
    have hmerges := hfirst.mergesWith_iff s
    by_cases hl : l = s.label sales.length
    · subst hl
      obtain ⟨hfits, hover⟩ := hfirst.addQuantity?
      rw [ringUp?_cons_of_mergesWith (s.item rate) (hmerges.2 rfl)]
      constructor
      · intro hsum
        obtain ⟨after, hafter, hline⟩ := hfits hsum
        refine ⟨after, after :: lines, ?_, .cons hline (forall₂_append_of_notMem hlines hhead)⟩
        exact congrArg (Option.map fun line => (line, line :: lines)) hafter
      · intro hsum
        exact congrArg (Option.map fun line => (line, line :: lines)) (hover hsum)
    · obtain ⟨hfits, hover⟩ := ih htail ((List.mem_cons.1 hmem).resolve_left (Ne.symm hl))
      rw [ringUp?_cons_of_not_mergesWith (s.item rate) (mt hmerges.1 hl)]
      constructor
      · intro hsum
        obtain ⟨line, after, hafter, hlines'⟩ := hfits hsum
        exact ⟨line, first :: after, by rw [hafter]; rfl,
          .cons (hfirst.append_of_ne (Ne.symm hl)) hlines'⟩
      · intro hsum
        rw [hover hsum]
        rfl

/-- **One sale more.** A sale is rung up if the quantity sold of its category and stored price stays
within 16 bits, and then the lines are those of the sales with it. -/
theorem Lines.ringUp? {lines : List LineItem} (h : Lines catalog sales lines) (s : Sale)
    {rate : TaxRate} (hrate : (catalog.get? s.categoryId).map (·.taxRate) = some rate) :
    (soldOf sales s + s.quantity.toNat < UInt16.size →
      ∃ line after, Draft.ringUp? (s.item rate) lines = some (line, after) ∧
        Lines catalog (sales ++ [s]) after) ∧
    (¬soldOf sales s + s.quantity.toNat < UInt16.size →
      Draft.ringUp? (s.item rate) lines = none) := by
  unfold Lines
  rw [soldOf_eq, labels_append]
  split
  · next hmem => exact ringUp?_of_mem rate h (labels_nodup sales) hmem
  · next hnew =>
    have hnone : ∀ line ∈ lines, ¬line.mergesWith s.categoryId s.unitPrice = true := by
      intro line hline
      obtain ⟨l, hl, hline⟩ := h.exists_label hline
      rw [hline.mergesWith_iff]
      rintro rfl
      exact hnew hl
    have hbegun : Draft.ringUp? (s.item rate) lines =
        some (s.item rate, lines ++ [s.item rate]) := ringUp?_of_not_mergesWith (s.item rate) hnone
    constructor
    · intro _
      refine ⟨_, _, hbegun, ?_⟩
      exact List.rel_append (forall₂_append_of_notMem h hnew) (.cons (isLine_item hrate hnew) .nil)
    · intro hover
      -- a sale by itself always fits
      rw [under_eq_nil hnew] at hover
      exact absurd (s.quantity.toNat_lt) (by simpa [total] using hover)

end Sale

end SealedReceipts
