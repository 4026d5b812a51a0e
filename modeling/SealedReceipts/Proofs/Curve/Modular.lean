import Mathlib.Data.List.Prime
import Mathlib.NumberTheory.LucasPrimality
import SealedReceipts.Curve.Modular

/-!
# Powers modulo a number

`Modular.power` is the power, by the bits of the exponent from the highest on
(`Modular.power_eq`). It decides primality by Lucas's test: a number is prime if some base has the
order of all the numbers below it, which is seen at the prime factors of the number less one
(`Modular.PassesLucas.prime`). A list of certificates carries the test down to primes that are small
(`Modular.Certified.prime`).
-/

namespace SealedReceipts

namespace Modular

/-! ## Bits of an exponent -/

/-- The number that bits write, the highest first. -/
def ofBits (bits : List Bool) : Nat :=
  bits.foldl (fun e bit => 2 * e + bit.toNat) 0

theorem ofBits_append_singleton (bits : List Bool) (bit : Bool) :
    ofBits (bits ++ [bit]) = 2 * ofBits bits + bit.toNat := by
  simp [ofBits]

theorem ofBits_descendingBits {n : Nat} (h : n < 2 ^ 256) : ofBits (descendingBits n) = n := by
  have hprefix : ∀ k ≤ 256,
      ofBits ((List.range k).map fun i => n.testBit (255 - i)) = n / 2 ^ (256 - k) := by
    intro k
    induction k with
    | zero => exact fun _ => (Nat.div_eq_of_lt h).symm
    | succ k ih =>
      intro hk
      have hexp : 256 - k = (255 - k) + 1 := by omega
      have hexp' : 256 - (k + 1) = 255 - k := by omega
      rw [List.range_succ, List.map_append, List.map_singleton, ofBits_append_singleton,
        ih (by omega), hexp, hexp', Nat.pow_succ, ← Nat.div_div_eq_div_mul,
        Nat.testBit_eq_decide_div_mod_eq]
      generalize n / 2 ^ (255 - k) = q
      rcases Nat.mod_two_eq_zero_or_one q with hq | hq <;> simp [hq] <;> omega
  rw [descendingBits, hprefix 256 le_rfl]
  simp

/-! ## Powers -/

def powerStep (m base value : Nat) (bit : Bool) : Nat :=
  let squared := value * value % m
  if bit then squared * base % m else squared

theorem power_fold (m base : Nat) (bits : List Bool) :
    bits.foldl (powerStep m base) 1 % m = base ^ ofBits bits % m := by
  rw [← List.reverse_reverse bits]
  induction bits.reverse with
  | nil => simp [ofBits]
  | cons bit bits ih =>
    rw [List.reverse_cons, List.foldl_append, List.foldl_cons, List.foldl_nil,
      ofBits_append_singleton]
    generalize bits.reverse.foldl (powerStep m base) 1 = value at ih ⊢
    have hsquare : value * value % m = base ^ (2 * ofBits bits.reverse) % m := by
      rw [Nat.mul_mod, ih, ← Nat.mul_mod, ← Nat.pow_add, Nat.two_mul]
    cases bit with
    | false => simp [powerStep, hsquare]
    | true => simp [powerStep, hsquare, Nat.pow_succ]

theorem power_eq {m base exponent : Nat} (h : exponent < 2 ^ 256) :
    power m base exponent = base ^ exponent % m := by
  -- the last bit leaves a remainder
  have hreduced : power m base exponent % m = power m base exponent := by
    have hlast : descendingBits exponent =
        (List.range 255).map (fun i => exponent.testBit (255 - i)) ++ [exponent.testBit 0] := by
      rw [descendingBits, List.range_succ, List.map_append]
      rfl
    rw [power, hlast, List.foldl_append, List.foldl_cons, List.foldl_nil]
    split <;> exact Nat.mod_mod _ _
  calc power m base exponent = power m base exponent % m := hreduced.symm
    _ = base ^ ofBits (descendingBits exponent) % m := power_fold m base _
    _ = base ^ exponent % m := by rw [ofBits_descendingBits h]

/-! ## Primes -/

theorem cast_pow_eq_one_iff {m base exponent : Nat} (hm : 1 < m) (h : exponent < 2 ^ 256) :
    (base : ZMod m) ^ exponent = 1 ↔ power m base exponent = 1 := by
  rw [power_eq h, ← Nat.cast_pow, ← Nat.cast_one, ZMod.natCast_eq_natCast_iff',
    Nat.mod_eq_of_lt hm]

/-- Lucas's test: the factors make up `m - 1`, and the order of `base` divides `m - 1`, but no
`m - 1` divided by one of them. -/
def PassesLucas (m base : Nat) (factors : List Nat) : Prop :=
  1 < m ∧ m ≤ 2 ^ 256 ∧ factors.prod = m - 1 ∧ power m base (m - 1) = 1 ∧
    ∀ q ∈ factors, power m base ((m - 1) / q) ≠ 1

instance (m base : Nat) (factors : List Nat) : Decidable (PassesLucas m base factors) := by
  unfold PassesLucas; infer_instance

/-- A number that passes with prime factors is prime. -/
theorem PassesLucas.prime {m base : Nat} {factors : List Nat} (h : PassesLucas m base factors)
    (hprime : ∀ q ∈ factors, q.Prime) : m.Prime := by
  obtain ⟨hm, hle, hfactors, hone, hne⟩ := h
  refine lucas_primality m base ?_ fun q hq hdvd => ?_
  · exact (cast_pow_eq_one_iff hm (by omega)).2 hone
  · obtain ⟨f, hf, hqf⟩ := (Prime.dvd_prod_iff hq.prime).1 (hfactors ▸ hdvd)
    obtain rfl := (Nat.prime_dvd_prime_iff_eq hq (hprime f hf)).1 hqf
    have hquotient := Nat.div_le_self (m - 1) q
    exact fun hpow => hne q hf ((cast_pow_eq_one_iff hm (by omega)).1 hpow)

/-- A number with what shows that it is prime: a base for Lucas's test, and the prime factors of the
number less one. -/
structure Certificate where
  number : Nat
  base : Nat
  factors : List Nat

/-- Every certificate passes, with factors that are known to be prime or certified further down. -/
def Certified (known : List Nat) : List Certificate → Prop
  | [] => True
  | c :: rest =>
    PassesLucas c.number c.base c.factors ∧
      (∀ q ∈ c.factors, q ∈ known ∨ q ∈ rest.map (·.number)) ∧ Certified known rest

instance decidableCertified (known : List Nat) :
    (certificates : List Certificate) → Decidable (Certified known certificates)
  | [] => .isTrue trivial
  | _ :: rest =>
    have := decidableCertified known rest
    inferInstanceAs (Decidable (_ ∧ _ ∧ _))

/-- What stands on known primes is prime. -/
theorem Certified.prime {known : List Nat} {certificates : List Certificate}
    (hknown : ∀ q ∈ known, q.Prime) (h : Certified known certificates) :
    ∀ q ∈ certificates.map (·.number), q.Prime := by
  induction certificates with
  | nil => exact List.forall_mem_nil _
  | cons c rest ih =>
    obtain ⟨hpasses, hfactors, hrest⟩ := h
    rw [List.map_cons, List.forall_mem_cons]
    refine ⟨hpasses.prime fun q hq => ?_, ih hrest⟩
    exact (hfactors q hq).elim (hknown q) (ih hrest q)

end Modular

end SealedReceipts
