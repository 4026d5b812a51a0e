import Mathlib.FieldTheory.Finite.Basic
import Mathlib.Tactic.NormNum.Prime
import SealedReceipts.Curve.P256
import SealedReceipts.Proofs.Curve.Modular

/-!
# The field of the curve

The size of the field is prime, by certificates down to numbers small enough for trial division. It
leaves 3 when divided by 4, so that `Modular.sqrt?` finds a root of every square
(`Curve.exists_sqrt?`), and the two roots of a square are each other's negatives
(`Curve.eq_or_add_eq_of_squares`).
-/

namespace SealedReceipts

namespace Curve

/-! ## The size is prime -/

/-- Factors that trial division shows to be prime. -/
def smallPrimes : List Nat :=
  [2, 3, 5, 7, 11, 17, 23, 53, 107, 173, 197, 257, 641, 1531, 2411, 3677, 3769, 18169, 65537, 78283,
    490463, 704251, 6700417]

/-- Certificates for the size of the field and for the large factors below it. -/
def certificates : List Modular.Certificate :=
  [⟨p, 6, [2, 3, 5, 5, 17, 257, 641, 1531, 65537, 490463, 6700417,
      835945042244614951780389953367877943453916927241]⟩,
    ⟨835945042244614951780389953367877943453916927241, 11,
      [2, 2, 2, 3, 3, 3, 5, 774023187263532362759620327192479577272145303]⟩,
    ⟨774023187263532362759620327192479577272145303, 3,
      [2, 3, 3, 2411, 34282281433, 11290956913871, 46076956964474543]⟩,
    ⟨46076956964474543, 5, [2, 23, 18169, 78283, 704251]⟩,
    ⟨11290956913871, 13, [2, 5, 17, 66417393611]⟩,
    ⟨66417393611, 6, [2, 5, 53, 173, 197, 3677]⟩,
    ⟨34282281433, 17, [2, 2, 2, 3, 7, 204061199]⟩,
    ⟨204061199, 11, [2, 11, 23, 107, 3769]⟩]

theorem smallPrimes_prime : ∀ q ∈ smallPrimes, q.Prime := by
  simp only [smallPrimes, List.forall_mem_cons]
  norm_num

theorem certificates_certified : Modular.Certified smallPrimes certificates := by decide +kernel

theorem prime_p : p.Prime :=
  certificates_certified.prime smallPrimes_prime p List.mem_cons_self

instance : Fact p.Prime := ⟨prime_p⟩

/-! ## Square roots -/

theorem cast_eq_cast_iff {a b : Nat} : (a : ZMod p) = b ↔ a % p = b % p :=
  ZMod.natCast_eq_natCast_iff' a b p

theorem sqrt?_eq_some {a root : Nat} (h : Modular.sqrt? p a = some root) :
    root < p ∧ root * root % p = a % p := by
  unfold Modular.sqrt? at h
  dsimp only at h
  split at h
  · next hroot =>
    obtain rfl := Option.some.inj h
    refine ⟨?_, hroot⟩
    rw [Modular.power_eq (by decide)]
    exact Nat.mod_lt _ prime_p.pos
  · cases h

/-- A square has a root, by Fermat's little theorem. -/
theorem exists_sqrt? {a y : Nat} (h : y * y % p = a % p) :
    ∃ root, Modular.sqrt? p a = some root := by
  have hexp : 2 * ((p + 1) / 4) + 2 * ((p + 1) / 4) = p + 1 := by decide
  have hroot : ((a : ZMod p) ^ ((p + 1) / 4)) * (a : ZMod p) ^ ((p + 1) / 4) = a := by
    have ha : (a : ZMod p) = (y : ZMod p) ^ 2 := by
      rw [sq, ← Nat.cast_mul, cast_eq_cast_iff, h]
    rw [ha, ← pow_mul, ← pow_add, hexp, pow_succ, ZMod.pow_card, sq]
  have hpower : Modular.power p a ((p + 1) / 4) * Modular.power p a ((p + 1) / 4) % p = a % p := by
    rw [Modular.power_eq (by decide), ← cast_eq_cast_iff, Nat.cast_mul, ZMod.natCast_mod,
      Nat.cast_pow, hroot]
  unfold Modular.sqrt?
  dsimp only
  rw [if_pos hpower]
  exact ⟨_, rfl⟩

/-- Two roots of one square are the same or each other's negative. -/
theorem eq_or_add_eq_of_squares {root y : Nat} (hroot : root < p) (hy : y < p)
    (h : root * root % p = y * y % p) : root = y ∨ root + y = p := by
  rw [← cast_eq_cast_iff, Nat.cast_mul, Nat.cast_mul, mul_self_eq_mul_self_iff] at h
  rcases h with hsame | hneg
  · rw [cast_eq_cast_iff, Nat.mod_eq_of_lt hroot, Nat.mod_eq_of_lt hy] at hsame
    exact .inl hsame
  · rw [eq_neg_iff_add_eq_zero, ← Nat.cast_add, ZMod.natCast_eq_zero_iff] at hneg
    obtain ⟨k, hk⟩ := hneg
    have hlt : k < 2 := by
      by_contra hge
      have : p * 2 ≤ p * k := Nat.mul_le_mul_left p (by omega)
      omega
    rcases Nat.eq_zero_or_pos k with rfl | hpos
    · omega
    · obtain rfl : k = 1 := by omega
      omega

end Curve

end SealedReceipts
