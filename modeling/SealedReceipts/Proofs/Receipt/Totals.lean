import SealedReceipts.Proofs.Money.Storable
import SealedReceipts.Proofs.Receipt.StoredAmounts

/-!
# No amount is above the total

The total of a receipt adds up its lines; the taxable amounts add up, rate by rate, what is left of
some of these lines when they are divided by more than one, and the taxes are parts of the taxable
amounts. Although the sums are grouped differently and every step rounds, none of the amounts is
above the total, if the lines are charged at positive prices (`Receipt.atMost_total`).
-/

namespace SealedReceipts

open Binary64

/-! ## The rates -/

namespace TaxRate

/-- The units of the fraction of a rate. -/
def fractionUnits (rate : TaxRate) : Nat := roundUnits (rate.percent.toNat * one) 100

/-- The units of one and the fraction of a rate. -/
def divisorUnits (rate : TaxRate) : Nat := roundUnits (one + rate.fractionUnits) 1

theorem four_mul_fractionUnits_le (rate : TaxRate) : 4 * rate.fractionUnits ≤ one := by
  cases rate <;> decide +kernel

theorem one_le_divisorUnits (rate : TaxRate) : one ≤ rate.divisorUnits := by
  cases rate <;> decide +kernel

theorem two_mul_divisorUnits_le (rate : TaxRate) : 2 * rate.divisorUnits ≤ 3 * one := by
  cases rate <;> decide +kernel

theorem divisorUnits_pos (rate : TaxRate) : 0 < rate.divisorUnits :=
  one_units_pos.trans_le rate.one_le_divisorUnits

theorem counts_fraction (rate : TaxRate) : rate.fraction.Counts rate.fractionUnits := by
  have hpercent := (Money.hasUnits_ofMinor rate.percent.toUInt32).counts
  rwa [UInt8.toNat_toUInt32] at hpercent

theorem counts_divisor (rate : TaxRate) : (1 + rate.fraction).Counts rate.divisorUnits := by
  have hone : (1 : Binary64).Counts one := by
    have hone := (hasUnits_literal 1 (by decide)).counts
    rwa [Nat.one_mul] at hone
  refine (hone.add_iff rate.counts_fraction).2 ⟨rfl, ?_⟩
  have hle := rate.two_mul_divisorUnits_le
  have hlt := mul_one_lt (n := 2) (by decide)
  have hpos := one_units_pos
  exact lt_of_le_of_lt (by rw [divisorUnits] at hle; omega) hlt

end TaxRate

/-! ## Lines -/

/-- The line charges some units at a finite price above zero, and has the total of their price. -/
structure LineItem.Charged (item : LineItem) : Prop where
  finite : item.unitPrice.isFinite = true
  positive : item.unitPrice.le 0 = false
  quantity : item.quantity ≠ 0
  total : item.totalPrice = priceOf item.unitPrice item.quantity

namespace LineItem

variable {item : LineItem} {items : List LineItem} {units : Nat}

theorem counts_quantity (quantity : UInt16) :
    (Binary64.ofNat quantity.toNat).Counts (quantity.toNat * one) :=
  (hasUnits_ofNat (quantity.toNat_lt.le.trans (by decide))).counts

theorem priceOf_nonNegative {unitPrice : Binary64} (h : unitPrice.Counts units)
    (quantity : UInt16) : (priceOf unitPrice quantity).NonNegative :=
  h.mul_nonNegative (counts_quantity quantity)

namespace Charged

theorem exists_counts (h : item.Charged) : ∃ units, item.unitPrice.Counts units := by
  obtain ⟨_, hzero⟩ := hasUnits_literal 0 (by decide)
  have hpositive := h.positive
  obtain ⟨negative, units, hrep, hprice⟩ := exists_finite_eq h.finite
  rw [hprice, hzero] at hpositive
  refine ⟨units, negative, hrep, hprice, fun hnegative => ?_⟩
  subst hnegative
  simp [Binary64.le, signedUnits] at hpositive

theorem totalPrice_nonNegative (h : item.Charged) : item.totalPrice.NonNegative := by
  obtain ⟨units, hunits⟩ := h.exists_counts
  rw [h.total]
  exact priceOf_nonNegative hunits item.quantity

/-- A unit is not dearer than the line. -/
theorem unitPrice_atMost (h : item.Charged) (htotal : item.totalPrice.Counts units) :
    item.unitPrice.AtMost item.totalPrice := by
  obtain ⟨price, hprice⟩ := h.exists_counts
  refine ⟨price, units, hprice, htotal, ?_⟩
  have hpos : 1 ≤ item.quantity.toNat :=
    Nat.pos_of_ne_zero fun hzero => h.quantity (UInt16.toNat_inj.1 hzero)
  rw [h.total, priceOf, hprice.mul_iff (counts_quantity _)] at htotal
  rw [htotal.1]
  refine le_roundUnits one_units_pos hprice.fills ?_
  exact Nat.mul_le_mul_left price (Nat.le_mul_of_pos_left one hpos)

end Charged

theorem total_eq (items : List LineItem) : total items = sumFrom minusZero (items.map totalPrice) :=
  List.foldl_map.symm

theorem total_nonNegative (h : ∀ item ∈ items, item.totalPrice.NonNegative) :
    (total items).NonNegative := by
  rw [total_eq]
  exact nonNegative_sumFrom counts_minusZero.nonNegative (List.forall_mem_map.2 h)

/-- No line is above the total. -/
theorem totalPrice_atMost (h : ∀ item ∈ items, item.totalPrice.NonNegative)
    (htotal : (total items).Counts units) :
    ∀ item ∈ items, item.totalPrice.AtMost (total items) := by
  rw [total_eq] at htotal ⊢
  obtain ⟨-, hterms⟩ := counts_of_sumFrom counts_minusZero.nonNegative (List.forall_mem_map.2 h) htotal
  exact fun item hitem => hterms _ (List.mem_map_of_mem hitem)

end LineItem

/-! ## Taxes -/

namespace TaxBreakdown

variable {item : LineItem} {items : List LineItem} {rate : TaxRate} {units : Nat} {base : Binary64}

/-- The taxable amount of a line is not above the line. -/
theorem roundUnits_divisor_le (rate : TaxRate) {units : Nat} (h : spacing units ∣ units) :
    roundUnits (units * one) rate.divisorUnits ≤ units := by
  have hkept := roundUnits_eq_of_multiple rate.divisorUnits_pos h
  refine (roundUnits_mono rate.divisorUnits_pos ?_).trans_eq hkept
  exact Nat.mul_le_mul_left units rate.one_le_divisorUnits

theorem counts_taxableOf (h : item.totalPrice.Counts units) :
    (taxableOf item).Counts (roundUnits (units * one) item.taxRate.divisorUnits) := by
  refine (h.div_iff item.taxRate.counts_divisor item.taxRate.divisorUnits_pos).2 ⟨rfl, ?_⟩
  exact (roundUnits_divisor_le item.taxRate h.fills).trans_lt h.lt

theorem taxableOf_atMost (h : item.totalPrice.Counts units) :
    (taxableOf item).AtMost item.totalPrice :=
  ⟨_, units, counts_taxableOf h, h, roundUnits_divisor_le item.taxRate h.fills⟩

/-- The taxable amount at a rate is the sum over the lines at this rate. -/
theorem taxableAt_eq (rate : TaxRate) (items : List LineItem) :
    taxableAt rate items = sumFrom 0 ((items.filter (·.taxRate = rate)).map taxableOf) := by
  rw [sumFrom, List.foldl_map, List.foldl_filter]
  simp only [decide_eq_true_eq]
  rfl

/-- The lines of one rate, without their taxes, do not sum up to more than all lines. -/
theorem taxableAt_atMost (h : ∀ item ∈ items, item.totalPrice.NonNegative)
    (htotal : (LineItem.total items).Counts units) (rate : TaxRate) :
    (taxableAt rate items).AtMost (LineItem.total items) := by
  have hlines := LineItem.totalPrice_atMost h htotal
  rw [LineItem.total_eq] at htotal ⊢
  rw [taxableAt_eq]
  refine sumFrom_atMost ?_ ⟨0, 0, counts_zero, counts_minusZero, Nat.le_refl 0⟩
    (List.forall_mem_map.2 h) htotal
  refine List.sublistForall₂_iff.2 ⟨(items.filter (·.taxRate = rate)).map LineItem.totalPrice, ?_,
    List.filter_sublist.map _⟩
  rw [List.forall₂_map_left_iff, List.forall₂_map_right_iff, List.forall₂_same]
  intro item hitem
  obtain ⟨line, _, hline, -⟩ := hlines item (List.mem_of_mem_filter hitem)
  exact taxableOf_atMost hline

/-- The tax is at most half of the taxable amount. -/
theorem two_mul_roundUnits_fraction_le (rate : TaxRate) (units : Nat) :
    2 * roundUnits (units * rate.fractionUnits) one ≤ units := by
  have htwice := roundUnits_mul_le_twice (units * rate.fractionUnits) one_units_pos
  have hquarter := Nat.mul_le_mul_left units rate.four_mul_fractionUnits_le
  refine Nat.le_of_mul_le_mul_right (c := one) ?_ one_units_pos
  calc 2 * roundUnits (units * rate.fractionUnits) one * one
      = 2 * (roundUnits (units * rate.fractionUnits) one * one) := Nat.mul_assoc ..
    _ ≤ 2 * (2 * (units * rate.fractionUnits)) := Nat.mul_le_mul_left 2 htwice
    _ = units * (4 * rate.fractionUnits) := by rw [Nat.mul_left_comm units]; omega
    _ ≤ units * one := hquarter

theorem counts_tax (h : base.Counts units) (rate : TaxRate) :
    (base * rate.fraction).Counts (roundUnits (units * rate.fractionUnits) one) := by
  refine (h.mul_iff rate.counts_fraction).2 ⟨rfl, ?_⟩
  have hhalf := two_mul_roundUnits_fraction_le rate units
  exact lt_of_le_of_lt (by omega) h.lt

theorem counts_detailAt (h : (taxableAt rate items).Counts units) :
    (detailAt rate items).taxAmount.Counts (roundUnits (units * rate.fractionUnits) one) :=
  counts_tax h rate

/-- The breakdown of lines has no amount above their total. -/
theorem amounts_atMost (h : ∀ item ∈ items, item.totalPrice.NonNegative)
    (htotal : (LineItem.total items).Counts units) :
    ∀ a ∈ (ofItems items).amounts, a.AtMost (LineItem.total items) := by
  obtain ⟨reduced, hreduced, hreducedLe⟩ := (taxableAt_atMost h htotal .reduced).exists_le htotal
  obtain ⟨standard, hstandard, hstandardLe⟩ := (taxableAt_atMost h htotal .standard).exists_le htotal
  have hreducedHalf := two_mul_roundUnits_fraction_le .reduced reduced
  have hstandardHalf := two_mul_roundUnits_fraction_le .standard standard
  have hsum : roundUnits (roundUnits (reduced * TaxRate.fractionUnits .reduced) one +
      roundUnits (standard * TaxRate.fractionUnits .standard) one) 1 ≤ units := by
    have hkept := roundUnits_eq_of_multiple Nat.one_pos htotal.fills
    exact (roundUnits_mono Nat.one_pos (by omega)).trans_eq hkept
  intro a ha
  simp only [amounts, List.mem_cons, List.not_mem_nil, or_false] at ha
  rcases ha with rfl | rfl | rfl | rfl | rfl
  · exact ⟨_, _, hreduced, htotal, hreducedLe⟩
  · exact ⟨_, _, counts_detailAt hreduced, htotal, by omega⟩
  · exact ⟨_, _, hstandard, htotal, hstandardLe⟩
  · exact ⟨_, _, counts_detailAt hstandard, htotal, by omega⟩
  · exact htotal.atMost_add (counts_detailAt hreduced) (counts_detailAt hstandard) hsum

end TaxBreakdown

/-! ## The whole receipt -/

namespace Receipt

variable {metadata : ReceiptMetadata} {items : List LineItem} {method : String} {units : Nat}

/-- **No amount of a receipt is above its total**, if its lines are charged at positive prices and
the total is finite. -/
theorem atMost_total (h : ∀ item ∈ items, item.Charged)
    (htotal : (LineItem.total items).Counts units) :
    ∀ a ∈ (finalize metadata items method).amounts, a.AtMost (LineItem.total items) := by
  have hnonneg : ∀ item ∈ items, item.totalPrice.NonNegative :=
    fun item hitem => (h item hitem).totalPrice_nonNegative
  have hlines := LineItem.totalPrice_atMost hnonneg htotal
  refine List.forall_mem_cons.2 ⟨.refl htotal, List.forall_mem_append.2
    ⟨?_, TaxBreakdown.amounts_atMost hnonneg htotal⟩⟩
  intro a ha
  obtain ⟨item, hitem, ha⟩ := List.mem_flatMap.1 ha
  obtain ⟨line, _, hline, -⟩ := hlines item hitem
  rcases List.mem_pair.1 ha with rfl | rfl
  · exact ((h item hitem).unitPrice_atMost hline).trans (hlines item hitem)
  · exact hlines item hitem

/-- If the total has a stored form, so have all amounts. -/
theorem storable_of_total (h : ∀ item ∈ items, item.Charged)
    (htotal : Money.Storable (LineItem.total items)) :
    ∀ a ∈ (finalize metadata items method).amounts, Money.Storable a := by
  have hnonneg := LineItem.total_nonNegative fun item hitem => (h item hitem).totalPrice_nonNegative
  obtain ⟨units, hunits⟩ := htotal.counts hnonneg
  exact fun a ha => htotal.of_atMost (atMost_total h hunits a ha)

end Receipt

end SealedReceipts
