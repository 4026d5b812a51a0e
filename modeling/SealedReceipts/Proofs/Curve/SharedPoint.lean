import Mathlib.GroupTheory.OrderOfElement
import SealedReceipts.Proofs.Curve.Multiples

/-!
# Two secrets share one point

The number `n` is prime, and that multiple of the generator is the identity. So the generator has
the order `n`, no multiple of it by a secret is the identity, and neither is one by the product of
two secrets. The point that the holder of one secret shares with the holder of another is the
multiple of the generator by that product, from either side (`Secret.sharedPoint_comm`).
-/

namespace SealedReceipts

namespace Curve

/-! ## The order is prime -/

/-- Factors that trial division shows to be prime. -/
def orderSmallPrimes : List Nat :=
  [2, 3, 5, 7, 11, 17, 29, 41, 43, 71, 127, 131, 311, 373, 1297, 3023, 3407, 16879, 17449, 38189,
    126241, 155317, 3969899, 9350987]

/-- Certificates for the number of points and for the large factors below it. -/
def orderCertificates : List Modular.Certificate :=
  [⟨n, 7, [2, 2, 2, 2, 3, 71, 131, 373, 3407, 17449, 38189, 187019741, 622491383, 1002328039319,
      2624747550333869278416773953]⟩,
    ⟨2624747550333869278416773953, 7,
      [2, 2, 2, 2, 2, 2, 3, 3, 1297, 16879, 208150935158385979]⟩,
    ⟨208150935158385979, 2, [2, 3, 11, 43, 127, 3023, 191039911]⟩,
    ⟨1002328039319, 19, [2, 126241, 3969899]⟩,
    ⟨622491383, 5, [2, 311245691]⟩,
    ⟨311245691, 2, [2, 5, 7, 17, 29, 29, 311]⟩,
    ⟨191039911, 3, [2, 3, 5, 41, 155317]⟩,
    ⟨187019741, 2, [2, 2, 5, 9350987]⟩]

theorem orderSmallPrimes_prime : ∀ q ∈ orderSmallPrimes, q.Prime := by
  simp only [orderSmallPrimes, List.forall_mem_cons]
  norm_num

theorem orderCertificates_certified : Modular.Certified orderSmallPrimes orderCertificates := by
  decide +kernel

theorem prime_n : n.Prime :=
  orderCertificates_certified.prime orderSmallPrimes_prime n List.mem_cons_self

instance : Fact n.Prime := ⟨prime_n⟩

/-! ## The order of the generator -/

theorem n_nsmul_generator : n • generator.element = 0 := by
  have hnone : multiple? n generator = none := by decide +kernel
  rw [← multiple?_element (by decide), hnone, Option.elim_none]

theorem addOrderOf_generator : addOrderOf generator.element = n :=
  addOrderOf_eq_prime n_nsmul_generator generator.element_ne_zero

theorem nsmul_generator_ne_zero {k : Nat} (h : ¬ n ∣ k) : k • generator.element ≠ 0 := by
  rwa [Ne, ← addOrderOf_dvd_iff_nsmul_eq_zero, addOrderOf_generator]

/-! ## Secrets -/

namespace Secret

theorem not_dvd_scalar (d : Secret) : ¬ n ∣ d.scalar := Nat.not_dvd_of_pos_of_lt d.positive d.below

theorem scalar_lt (d : Secret) : d.scalar < 2 ^ 256 := Nat.lt_trans d.below (by decide)

/-- The public point is the multiple of the generator by the secret. -/
theorem publicPoint_element (d : Secret) :
    d.publicPoint.element = d.scalar • generator.element :=
  getD_multiple?_element d.scalar_lt (nsmul_generator_ne_zero d.not_dvd_scalar) generator

/-- The shared point is the multiple of the generator by both secrets. -/
theorem sharedPoint_element (d e : Secret) :
    (d.sharedPoint e.publicPoint).element = (e.scalar * d.scalar) • generator.element := by
  have hmultiple : d.scalar • e.publicPoint.element = (e.scalar * d.scalar) • generator.element := by
    rw [e.publicPoint_element, mul_nsmul]
  have hne : d.scalar • e.publicPoint.element ≠ 0 := by
    rw [hmultiple]
    exact nsmul_generator_ne_zero (prime_n.not_dvd_mul e.not_dvd_scalar d.not_dvd_scalar)
  rw [← hmultiple]
  exact getD_multiple?_element d.scalar_lt hne e.publicPoint

/-- **Two secrets share one point.** -/
theorem sharedPoint_comm (d e : Secret) :
    d.sharedPoint e.publicPoint = e.sharedPoint d.publicPoint := by
  apply Point.element_injective
  rw [sharedPoint_element, sharedPoint_element, Nat.mul_comm]

end Secret

end Curve

end SealedReceipts
