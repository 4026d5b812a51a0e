import Mathlib.Tactic.Ring
import SealedReceipts.Proofs.Binary64.Errors
import SealedReceipts.Proofs.Receipt.RoundTrip
import SealedReceipts.Proofs.Receipt.Totals

/-!
# The stored amounts add up

Every amount of a receipt is cut to minor units on its own, after sums, quotients and products that
round. The roundings together stay below a minor unit: a receipt has at most 65535 lines, and one
rounding is off by a tick at most, of which one has `2 ^ 28`. What is left is the cutting, which takes
away less than one minor unit from each amount. So a stored amount is at most one below the sum of
the stored amounts that it is made of, and not above the sum by more than their number
(`Receipt.stored_amounts_add_up`).
-/

namespace SealedReceipts

open Binary64

/-! ## Cutting to minor units -/

namespace Money

/-- The count of minor units is a hundred times the units, rounded and cut at the point. -/
structure CutFrom (minor units : Nat) : Prop where
  low : minor * one ≤ 100 * units + 2 ^ 7 * tick
  high : 100 * units < (minor + 1) * one + 2 ^ 7 * tick

variable {amount : Binary64} {units : Nat} {minor : UInt32}

/-- An amount with a stored form lies below `2 ^ 26`. -/
theorem lt_of_toMinor? (h : amount.Counts units) (hminor : toMinor? amount = some minor) :
    units < 2 ^ 26 * one := by
  have hcount := (toMinor?_eq_some_iff h).1 hminor
  have hproduct : roundUnits (units * 100) 1 < 2 ^ 32 * one :=
    (Nat.div_lt_iff_lt_mul one_units_pos).1 (hcount ▸ minor.toNat_lt)
  have hlt := lt_of_roundUnits_lt Nat.one_pos (spacing_dvd_mul_one (by decide)) hproduct
  omega

theorem cutFrom_of_toMinor? (h : amount.Counts units) (hminor : toMinor? amount = some minor) :
    CutFrom minor.toNat units := by
  have hlt := lt_of_toMinor? h hminor
  have hcount := (toMinor?_eq_some_iff h).1 hminor
  have hnear := roundUnits_near_ticks 7 (n := units * 100) Nat.one_pos (by omega)
  rw [Nat.mul_one, Nat.mul_one] at hnear
  obtain ⟨habove, hbelow⟩ := hnear
  have hcut := Nat.div_mul_le_self (roundUnits (units * 100) 1) one
  have hrest := Nat.lt_div_mul_add (a := roundUnits (units * 100) 1) one_units_pos
  rw [← hcount] at hcut hrest
  constructor
  · omega
  · rw [Nat.add_mul, Nat.one_mul]
    omega

/-- The counts of the parts of a sum. -/
theorem cutFrom_sum {minors parts : List Nat} (h : List.Forall₂ CutFrom minors parts) :
    minors.sum * one ≤ 100 * parts.sum + minors.length * (2 ^ 7 * tick) ∧
      100 * parts.sum ≤ (minors.sum + minors.length) * one + minors.length * (2 ^ 7 * tick) := by
  induction h with
  | nil => simp
  | @cons minor units minors parts hfirst _ ih =>
    obtain ⟨hlow, hhigh⟩ := hfirst
    simp only [List.sum_cons, List.length_cons, Nat.add_mul, Nat.one_mul] at ih hhigh ⊢
    omega

/-- A count is at most one below the sum of the counts of parts that add up but for some ticks, and
not above this sum by more than their number. -/
theorem CutFrom.near_sum {minor units ticks : Nat} {minors parts : List Nat} (h : CutFrom minor units)
    (hparts : List.Forall₂ CutFrom minors parts) (hnear : Near (ticks * tick) units parts.sum)
    (hsmall : 100 * ticks + (minors.length + 1) * 2 ^ 7 < 2 ^ 28) :
    minors.sum ≤ minor + 1 ∧ minor ≤ minors.sum + minors.length := by
  obtain ⟨hlow, hhigh⟩ := h
  obtain ⟨hpartsLow, hpartsHigh⟩ := cutFrom_sum hparts
  obtain ⟨habove, hbelow⟩ := hnear
  -- all that is lost by rounding is less than one
  have hlost := Nat.mul_lt_mul_of_pos_right hsmall tick_pos
  rw [← one_eq_ticks, Nat.add_mul, Nat.mul_assoc, Nat.mul_assoc] at hlost
  simp only [Nat.add_mul, Nat.one_mul] at hlost hhigh hpartsHigh
  constructor
  · refine Nat.lt_succ_iff.1 (Nat.lt_of_mul_lt_mul_right (a := one) ?_)
    simp only [Nat.succ_eq_add_one, Nat.add_mul, Nat.one_mul]
    omega
  · refine Nat.lt_succ_iff.1 (Nat.lt_of_mul_lt_mul_right (a := one) ?_)
    simp only [Nat.succ_eq_add_one, Nat.add_mul, Nat.one_mul]
    omega

end Money

/-! ## The lines of a rate -/

namespace LineItem

/-- The lines are those at the one rate and those at the other. -/
theorem sum_by_rate (of : LineItem → Nat) (items : List LineItem) :
    (items.map of).sum = ((items.filter (·.taxRate = .reduced)).map of).sum +
      ((items.filter (·.taxRate = .standard)).map of).sum := by
  induction items with
  | nil => rfl
  | cons item items ih =>
    cases hrate : item.taxRate <;> simp [hrate, ih] <;> omega

theorem length_by_rate (items : List LineItem) :
    items.length = (items.filter (·.taxRate = .reduced)).length +
      (items.filter (·.taxRate = .standard)).length := by
  simpa using sum_by_rate (fun _ => 1) items

/-- The units of the totals of lines. -/
def totalUnits (lines : List LineItem) : Nat := (lines.map fun item => item.totalPrice.magnitude).sum

end LineItem

/-- The divisor of a rate is its exact value but for one rounding. -/
theorem TaxRate.divisorUnits_near (rate : TaxRate) :
    Near one (rate.divisorUnits * 2 ^ 53) ((one + rate.fractionUnits) * 2 ^ 53) := by
  unfold Near
  cases rate <;> decide +kernel

namespace TaxBreakdown

variable {rate : TaxRate} {items lines : List LineItem} {units base : Nat}

/-- Of a taxable amount below `2 ^ 26`, the product with the divisor is its sum with its exact tax but
for two ticks. -/
theorem mul_divisor_near (rate : TaxRate) (h : base < 2 ^ 26 * one) :
    Near (2 * (tick * one)) (base * rate.divisorUnits) (base * (one + rate.fractionUnits)) := by
  have hbase : one * base ≤ 2 * (tick * one) * 2 ^ 53 := by
    calc one * base ≤ one * (2 ^ 26 * one) := Nat.mul_le_mul_left one h.le
      _ = one * (2 ^ 26 * (2 ^ 28 * tick)) := by rw [← one_eq_ticks]
      _ = 2 * (tick * one) * 2 ^ 53 := by ring
  have hnear := (rate.divisorUnits_near.mul_right base).mono hbase
  have hdivisor : base * rate.divisorUnits * 2 ^ 53 = rate.divisorUnits * 2 ^ 53 * base := by ring
  have hexact : base * (one + rate.fractionUnits) * 2 ^ 53 =
      (one + rate.fractionUnits) * 2 ^ 53 * base := by ring
  refine Near.of_mul_right (k := 2 ^ 53) (by decide) ?_
  rw [hdivisor, hexact]
  exact hnear

/-- The taxable amounts of lines at one rate, times the divisor. -/
theorem sum_taxable_near (hrate : ∀ item ∈ lines, item.taxRate = rate)
    (hlines : ∀ item ∈ lines, item.totalPrice.Counts item.totalPrice.magnitude ∧
      item.totalPrice.magnitude < 2 ^ 26 * one) :
    Near (lines.length * (tick * rate.divisorUnits))
      ((lines.map fun item => (taxableOf item).magnitude).sum * rate.divisorUnits)
      (LineItem.totalUnits lines * one) := by
  induction lines with
  | nil => simp [LineItem.totalUnits, Near]
  | cons item lines ih =>
    obtain ⟨rfl, hrate⟩ := List.forall_mem_cons.1 hrate
    obtain ⟨⟨hcounts, hlt⟩, hlines⟩ := List.forall_mem_cons.1 hlines
    have hquotient : Near (tick * item.taxRate.divisorUnits)
        ((taxableOf item).magnitude * item.taxRate.divisorUnits)
        (item.totalPrice.magnitude * one) := by
      rw [(counts_taxableOf hcounts).magnitude_eq]
      refine roundUnits_near_tick item.taxRate.divisorUnits_pos ?_
      exact (Nat.mul_lt_mul_of_pos_right hlt one_units_pos).trans_le
        (Nat.mul_le_mul_left _ item.taxRate.one_le_divisorUnits)
    have hnear := hquotient.add (ih hrate hlines)
    rw [LineItem.totalUnits, List.map_cons, List.sum_cons, List.map_cons, List.sum_cons, Nat.add_mul,
      Nat.add_mul, List.length_cons, Nat.succ_mul, Nat.add_comm (lines.length * _)]
    exact hnear

/-- The tax on a taxable amount below `2 ^ 26` is the exact one but for one tick. -/
theorem tax_near (rate : TaxRate) (h : base < 2 ^ 26 * one) :
    Near (tick * one) (roundUnits (base * rate.fractionUnits) one * one)
      (base * rate.fractionUnits) := by
  have hle : rate.fractionUnits ≤ one := by
    have hquarter := rate.four_mul_fractionUnits_le
    omega
  refine roundUnits_near_tick one_units_pos ?_
  exact (Nat.mul_le_mul_left base hle).trans_lt (Nat.mul_lt_mul_of_pos_right h one_units_pos)

/-- **Base and tax of a rate make up its lines**, but for three ticks and three more for each line. -/
theorem base_add_tax_near (hlines : ∀ item ∈ items, item.totalPrice.Counts item.totalPrice.magnitude ∧
      item.totalPrice.magnitude < 2 ^ 26 * one)
    (hbase : (taxableAt rate items).Counts base) (hlt : base < 2 ^ 26 * one) :
    Near ((3 * (items.filter (·.taxRate = rate)).length + 3) * tick)
      (base + roundUnits (base * rate.fractionUnits) one)
      (LineItem.totalUnits (items.filter (·.taxRate = rate))) := by
  have hrate : ∀ item ∈ items.filter (·.taxRate = rate), item.taxRate = rate :=
    fun item hitem => by simpa using (List.mem_filter.1 hitem).2
  have hlines := fun item (hitem : item ∈ items.filter (·.taxRate = rate)) =>
    hlines item (List.mem_of_mem_filter hitem)
  rw [taxableAt_eq] at hbase
  generalize items.filter (·.taxRate = rate) = lines at hrate hlines hbase ⊢
  have hsum : Near (lines.length * tick) base
      (lines.map fun item => (taxableOf item).magnitude).sum := by
    have hterms : ∀ x ∈ lines.map taxableOf, x.Counts x.magnitude := by
      intro x hx
      obtain ⟨item, hitem, rfl⟩ := List.mem_map.1 hx
      have hcounts := counts_taxableOf (hlines item hitem).1
      rwa [hcounts.magnitude_eq]
    have hnear := sumFrom_near counts_zero hterms hbase hlt
    rwa [List.length_map, List.map_map, Nat.zero_add] at hnear
  have htax := (tax_near rate hlt).add_right (base * one)
  have hexact := (mul_divisor_near rate hlt).symm
  have hquotients := sum_taxable_near hrate hlines
  have hdivisor := Nat.mul_le_mul_left (lines.length * tick) rate.two_mul_divisorUnits_le
  refine Near.of_mul_right one_units_pos ?_
  rw [← Nat.mul_add, Nat.add_comm rate.fractionUnits, ← Nat.add_mul, Nat.add_comm _ base] at htax
  refine (htax.trans (hexact.trans ((hsum.mul_right _).trans hquotients))).mono ?_
  calc tick * one + (2 * (tick * one) + (lines.length * tick * rate.divisorUnits +
        lines.length * (tick * rate.divisorUnits)))
      = 3 * (tick * one) + lines.length * tick * (2 * rate.divisorUnits) := by ring
    _ ≤ 3 * (tick * one) + lines.length * tick * (3 * one) := Nat.add_le_add_left hdivisor _
    _ = (3 * lines.length + 3) * tick * one := by ring

end TaxBreakdown

/-! ## The whole receipt -/

namespace LineItem

variable {item : LineItem} {items : List LineItem} {units : Nat}

/-- The line charges a finite price that is not negative. Its total is that of the price, or was read
from a stored form. -/
structure Payable (item : LineItem) : Prop where
  finite : item.unitPrice.isFinite = true
  nonNegative : item.unitPrice.NonNegative
  total : item.totalPrice = priceOf item.unitPrice item.quantity ∨
    ∃ minor, item.totalPrice = Money.ofMinor minor

theorem Payable.totalPrice_nonNegative (h : item.Payable) : item.totalPrice.NonNegative := by
  rcases h.total with htotal | ⟨minor, htotal⟩
  · obtain ⟨units, hunits⟩ := h.nonNegative.counts_of_isFinite h.finite
    rw [htotal]
    exact priceOf_nonNegative hunits item.quantity
  · rw [htotal]
    exact (Money.hasUnits_ofMinor minor).counts.nonNegative

/-- Lines count no more than their total. -/
theorem counts_totalPrice (h : ∀ item ∈ items, item.totalPrice.NonNegative)
    (htotal : (total items).Counts units) (hlt : units < 2 ^ 26 * one) :
    ∀ item ∈ items, item.totalPrice.Counts item.totalPrice.magnitude ∧
      item.totalPrice.magnitude < 2 ^ 26 * one := by
  intro item hitem
  obtain ⟨line, hline, hle⟩ := (totalPrice_atMost h htotal item hitem).exists_le htotal
  rw [hline.magnitude_eq]
  exact ⟨hline, hle.trans_lt hlt⟩

/-- The total is the sum of the lines but for a tick for each. -/
theorem total_near (h : ∀ item ∈ items, item.totalPrice.NonNegative)
    (htotal : (total items).Counts units) (hlt : units < 2 ^ 26 * one) :
    Near (items.length * tick) units (totalUnits items) := by
  have hlines := counts_totalPrice h htotal hlt
  have hterms : ∀ x ∈ items.map totalPrice, x.Counts x.magnitude :=
    List.forall_mem_map.2 fun item hitem => (hlines item hitem).1
  rw [total_eq] at htotal
  have hnear := sumFrom_near counts_minusZero hterms htotal hlt
  rwa [List.length_map, List.map_map, Nat.zero_add] at hnear

end LineItem

namespace TaxBreakdown

variable {items : List LineItem} {units reduced standard : Nat}

/-- The total is the sum of the bases and taxes of both rates but for six ticks, and four more for
each line. -/
theorem total_near (h : ∀ item ∈ items, item.totalPrice.NonNegative)
    (htotal : (LineItem.total items).Counts units) (hlt : units < 2 ^ 26 * one)
    (hreduced : (taxableAt .reduced items).Counts reduced) (hreducedLe : reduced ≤ units)
    (hstandard : (taxableAt .standard items).Counts standard) (hstandardLe : standard ≤ units) :
    Near ((4 * items.length + 6) * tick) units
      ((reduced + roundUnits (reduced * TaxRate.fractionUnits .reduced) one) +
        (standard + roundUnits (standard * TaxRate.fractionUnits .standard) one)) := by
  have hlines := LineItem.counts_totalPrice h htotal hlt
  have hrates := (base_add_tax_near hlines hreduced (hreducedLe.trans_lt hlt)).add
    (base_add_tax_near hlines hstandard (hstandardLe.trans_lt hlt))
  have hsum := LineItem.total_near h htotal hlt
  rw [LineItem.totalUnits, LineItem.sum_by_rate] at hsum
  refine (hsum.trans hrates.symm).mono ?_
  rw [← Nat.add_mul, ← Nat.add_mul]
  refine Nat.mul_le_mul_right tick ?_
  rw [LineItem.length_by_rate items]
  omega

end TaxBreakdown

/-- The stored amounts of a receipt add up, but for what is cut away from each. -/
structure ReceiptRecord.AddsUp (w : ReceiptRecord) : Prop where
  /-- The total and the lines. -/
  lines : -1 ≤ (w.totalAmount.toNat : Int) - ((w.items.map (·.totalPrice.toNat)).sum : Nat) ∧
    (w.totalAmount.toNat : Int) - ((w.items.map (·.totalPrice.toNat)).sum : Nat) ≤ w.items.length
  /-- The total, and the bases and taxes of both rates. -/
  rates : -1 ≤ (w.totalAmount.toNat : Int) - (w.tax.reducedBase.toNat + w.tax.reducedTax.toNat +
      w.tax.standardBase.toNat + w.tax.standardTax.toNat) ∧
    (w.totalAmount.toNat : Int) - (w.tax.reducedBase.toNat + w.tax.reducedTax.toNat +
      w.tax.standardBase.toNat + w.tax.standardTax.toNat) ≤ 4
  /-- The total tax and the taxes of both rates. -/
  taxes : -1 ≤ (w.tax.totalTax.toNat : Int) - (w.tax.reducedTax.toNat + w.tax.standardTax.toNat) ∧
    (w.tax.totalTax.toNat : Int) - (w.tax.reducedTax.toNat + w.tax.standardTax.toNat) ≤ 2

namespace Receipt

variable {metadata : ReceiptMetadata} {items : List LineItem} {method : String}
  {w : ReceiptRecord} {units : Nat}

/-- The lines and their total. -/
theorem lines_addUp (h : ∀ item ∈ items, item.totalPrice.NonNegative)
    (hstored : (finalize metadata items method).StoredAs w) (hcount : items.length ≤ 65535)
    (htotal : (LineItem.total items).Counts units) :
    (w.items.map (·.totalPrice.toNat)).sum ≤ w.totalAmount.toNat + 1 ∧
      w.totalAmount.toNat ≤ (w.items.map (·.totalPrice.toNat)).sum + w.items.length := by
  have hlt := Money.lt_of_toMinor? htotal hstored.totalAmount
  have hlines := LineItem.counts_totalPrice h htotal hlt
  have hparts : List.Forall₂ Money.CutFrom (w.items.map (·.totalPrice.toNat))
      (items.map fun item => item.totalPrice.magnitude) := by
    rw [List.forall₂_map_left_iff, List.forall₂_map_right_iff]
    refine List.Forall₂.flip (((List.forall₂_and_left _ _).2 ⟨hlines, hstored.items⟩).imp ?_)
    exact fun _ _ hline => Money.cutFrom_of_toMinor? hline.1.1 hline.2.totalPrice
  have hlength : (w.items.map (·.totalPrice.toNat)).length = items.length := by
    rw [List.length_map]
    exact hstored.items.length_eq.symm
  have hcut := (Money.cutFrom_of_toMinor? htotal hstored.totalAmount).near_sum hparts
    (LineItem.total_near h htotal hlt) (by omega)
  rwa [List.length_map] at hcut

variable {reduced reducedTax standard standardTax : Nat}

/-- The bases and taxes of both rates, and the total. -/
theorem rates_addUp (hstored : (finalize metadata items method).StoredAs w)
    (hcount : items.length ≤ 65535) (htotal : (LineItem.total items).Counts units)
    (hreduced : (TaxBreakdown.detailAt .reduced items).taxableAmount.Counts reduced)
    (hreducedTax : (TaxBreakdown.detailAt .reduced items).taxAmount.Counts reducedTax)
    (hstandard : (TaxBreakdown.detailAt .standard items).taxableAmount.Counts standard)
    (hstandardTax : (TaxBreakdown.detailAt .standard items).taxAmount.Counts standardTax)
    (hnear : Near ((4 * items.length + 6) * tick) units
      ((reduced + reducedTax) + (standard + standardTax))) :
    w.tax.reducedBase.toNat + w.tax.reducedTax.toNat +
        (w.tax.standardBase.toNat + w.tax.standardTax.toNat) ≤ w.totalAmount.toNat + 1 ∧
      w.totalAmount.toNat ≤ w.tax.reducedBase.toNat + w.tax.reducedTax.toNat +
        (w.tax.standardBase.toNat + w.tax.standardTax.toNat) + 4 := by
  have hparts := List.Forall₂.cons (Money.cutFrom_of_toMinor? hreduced hstored.tax.reducedBase)
    (.cons (Money.cutFrom_of_toMinor? hreducedTax hstored.tax.reducedTax)
      (.cons (Money.cutFrom_of_toMinor? hstandard hstored.tax.standardBase)
        (.cons (Money.cutFrom_of_toMinor? hstandardTax hstored.tax.standardTax) .nil)))
  have hsum : [reduced, reducedTax, standard, standardTax].sum =
      (reduced + reducedTax) + (standard + standardTax) := by
    simp [Nat.add_assoc]
  rw [← hsum] at hnear
  have hcut := (Money.cutFrom_of_toMinor? htotal hstored.totalAmount).near_sum hparts hnear (by
    simp only [List.length_cons, List.length_nil]
    omega)
  simpa [Nat.add_assoc] using hcut

/-- The taxes and their sum. -/
theorem taxes_addUp (hstored : (finalize metadata items method).StoredAs w)
    (hreduced : (finalize metadata items method).taxBreakdown.reduced.taxAmount.Counts reducedTax)
    (hstandard : (finalize metadata items method).taxBreakdown.standard.taxAmount.Counts
      standardTax) :
    w.tax.reducedTax.toNat + w.tax.standardTax.toNat ≤ w.tax.totalTax.toNat + 1 ∧
      w.tax.totalTax.toNat ≤ w.tax.reducedTax.toNat + w.tax.standardTax.toNat + 2 := by
  obtain ⟨all, hall⟩ := Money.Storable.counts ⟨_, hstored.tax.totalTax⟩
    (hreduced.nonNegative.add hstandard.nonNegative)
  have hlt := Money.lt_of_toMinor? hall hstored.tax.totalTax
  obtain ⟨rfl, -⟩ := (hreduced.add_iff hstandard).1 hall
  have hnear := roundUnits_add_near hlt
  rw [← List.sum_pair, ← Nat.one_mul tick] at hnear
  have hparts := List.Forall₂.cons (Money.cutFrom_of_toMinor? hreduced hstored.tax.reducedTax)
    (.cons (Money.cutFrom_of_toMinor? hstandard hstored.tax.standardTax) .nil)
  have hcut := (Money.cutFrom_of_toMinor? hall hstored.tax.totalTax).near_sum hparts hnear (by simp)
  simpa using hcut

/-- **The stored amounts of a receipt add up.** Let a receipt be finalized from lines that charge
finite prices which are not negative. If it is encoded, then in minor units the stored total is at
most one below the sum of the stored lines, and above it by at most their number; at most one below
the sum of the stored bases and taxes of both rates, and at most four above it; and the stored total
tax is at most one below the sum of the two stored taxes, and at most two above it. -/
theorem stored_amounts_add_up {bytes : Bytes} (hitems : ∀ item ∈ items, item.Payable)
    (h : (finalize metadata items method).encode = .ok bytes) :
    ∃ w : ReceiptRecord, w.bytes = bytes ∧ (finalize metadata items method).StoredAs w ∧
      w.items.length = items.length ∧ w.AddsUp := by
  obtain ⟨w, ⟨hstored, hstorable⟩, hbytes⟩ := encode_eq_ok_iff.1 h
  have hlength : w.items.length = items.length := hstored.items.length_eq.symm
  have hcount : items.length ≤ 65535 := hlength ▸ Nat.le_of_lt_succ hstorable.items
  have hnonneg : ∀ item ∈ items, item.totalPrice.NonNegative :=
    fun item hitem => (hitems item hitem).totalPrice_nonNegative
  obtain ⟨units, htotal⟩ := Money.Storable.counts ⟨_, hstored.totalAmount⟩
    (LineItem.total_nonNegative hnonneg)
  have hlt := Money.lt_of_toMinor? htotal hstored.totalAmount
  obtain ⟨reduced, hreduced, hreducedLe⟩ :=
    (TaxBreakdown.taxableAt_atMost hnonneg htotal .reduced).exists_le htotal
  obtain ⟨standard, hstandard, hstandardLe⟩ :=
    (TaxBreakdown.taxableAt_atMost hnonneg htotal .standard).exists_le htotal
  have hreducedTax := TaxBreakdown.counts_detailAt hreduced
  have hstandardTax := TaxBreakdown.counts_detailAt hstandard
  have hlines := lines_addUp hnonneg hstored hcount htotal
  have hrates := rates_addUp hstored hcount htotal hreduced hreducedTax hstandard hstandardTax
    (TaxBreakdown.total_near hnonneg htotal hlt hreduced hreducedLe hstandard hstandardLe)
  have htaxes := taxes_addUp hstored hreducedTax hstandardTax
  exact ⟨w, hbytes, hstored, hlength, ⟨by omega, by omega⟩, ⟨by omega, by omega⟩,
    ⟨by omega, by omega⟩⟩

/-- Two lines of almost two minor units, one that was read from a stored form, and one that charges
nothing below zero. -/
def pennies : Receipt :=
  finalize cornerShop.toReceiptMetadata
    [LineItem.ofPrice 1 1 (Binary64.ofNat 1999 / Binary64.ofNat 100000) .reduced,
      LineItem.ofPrice 2 1 (Binary64.ofNat 1999 / Binary64.ofNat 100000) .standard,
      { categoryId := 3, quantity := 1, unitPrice := Money.ofMinor 29,
        totalPrice := Money.ofMinor 29, taxRate := .standard },
      LineItem.ofPrice 4 3 Binary64.minusZero .reduced] "CASH"

/-- The stored total is two above the stored lines, and one above the stored bases and taxes. -/
theorem stored_amounts_add_up_pennies :
    (∀ item ∈ pennies.items, item.Payable) ∧ ∃ w : ReceiptRecord, pennies.encode = .ok w.bytes ∧
      w.AddsUp ∧ w.totalAmount = 32 ∧ w.items.map (·.totalPrice) = [1, 1, 28, 0] ∧
      w.tax.reducedBase = 1 ∧ w.tax.reducedTax = 0 ∧ w.tax.standardBase = 25 ∧
      w.tax.standardTax = 5 ∧ w.tax.totalTax = 5 := by
  have hitems : ∀ item ∈ pennies.items, item.Payable := by
    have hcomputed : ∀ categoryId quantity unitPrice rate, unitPrice.isFinite = true →
        unitPrice.NonNegative → (LineItem.ofPrice categoryId quantity unitPrice rate).Payable :=
      fun _ _ _ _ hfinite hnonneg => ⟨hfinite, hnonneg, .inl rfl⟩
    refine List.forall_mem_cons.2 ⟨hcomputed _ _ _ _ (by decide +kernel) (by decide +kernel), ?_⟩
    refine List.forall_mem_cons.2 ⟨hcomputed _ _ _ _ (by decide +kernel) (by decide +kernel), ?_⟩
    refine List.forall_mem_cons.2 ⟨⟨by decide +kernel, by decide +kernel, .inr ⟨29, rfl⟩⟩, ?_⟩
    exact List.forall_mem_singleton.2 (hcomputed _ _ _ _ (by decide +kernel) (by decide +kernel))
  have hok : pennies.encode.isOk = true := by decide +kernel
  obtain ⟨bytes, hencode⟩ : ∃ bytes, pennies.encode = .ok bytes := by
    cases h : pennies.encode with
    | ok bytes => exact ⟨bytes, rfl⟩
    | error e => rw [h] at hok; cases hok
  obtain ⟨w, rfl, hstored, -, hsums⟩ := stored_amounts_add_up hitems hencode
  have hlines : (w.items.map (·.totalPrice)).map some =
      pennies.items.map fun item => Money.toMinor? item.totalPrice := by
    rw [List.map_map, ← List.forall₂_eq_eq_eq, List.forall₂_map_left_iff, List.forall₂_map_right_iff]
    exact hstored.items.flip.imp fun _ _ hline => hline.totalPrice.symm
  have hshown : (pennies.items.map fun item => Money.toMinor? item.totalPrice) =
      [1, 1, 28, 0].map some := by
    decide +kernel
  refine ⟨hitems, w, hencode, hsums, Option.some.inj (hstored.totalAmount.symm.trans ?_),
    List.map_injective_iff.2 (Option.some_injective _) (hlines.trans hshown),
    Option.some.inj (hstored.tax.reducedBase.symm.trans ?_),
    Option.some.inj (hstored.tax.reducedTax.symm.trans ?_),
    Option.some.inj (hstored.tax.standardBase.symm.trans ?_),
    Option.some.inj (hstored.tax.standardTax.symm.trans ?_),
    Option.some.inj (hstored.tax.totalTax.symm.trans ?_)⟩ <;>
    decide +kernel

end Receipt

end SealedReceipts
