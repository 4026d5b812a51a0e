import SealedReceipts.Proofs.Seal.Draws

/-!
# How much entropy sealing takes

The loop that draws a secret has no bound of its own. What ends it is the entropy, of which every
draw takes a block of 32 bytes. `Seal.Ends` follows the loop draw by draw: it stops at the first
block that is a scalar, or when no whole block is left. So sealing takes the blocks up to that
scalar and the twelve bytes of a nonce, and when it fails it has taken what was drawn until then.
-/

namespace SealedReceipts

namespace Seal

open Curve (Secret Point)

/-- Block `i` of the entropy, which is whole unless the entropy ends before. -/
def blockAt (entropy : Entropy) (i : Nat) : Bytes := (entropy.drop (32 * i)).take 32

/-- The bytes write a number that is neither zero nor at or above the order of the curve. -/
def IsScalar (block : Bytes) : Prop := 0 < Bytes.toNat block ∧ Bytes.toNat block < Curve.n

instance (block : Bytes) : Decidable (IsScalar block) := inferInstanceAs (Decidable (_ ∧ _))

/-- Block `j` is whole and a scalar, and no block in front of it is a scalar. -/
structure FirstScalar (entropy : Entropy) (j : Nat) : Prop where
  whole : 32 * (j + 1) ≤ entropy.length
  scalar : IsScalar (blockAt entropy j)
  first : ∀ i < j, ¬ IsScalar (blockAt entropy i)

/-- The loop that draws a secret ends after so many draws, the last of which may have failed, with
what it has found and the entropy left. -/
inductive Ends : Entropy → Nat → Option Secret × Entropy → Prop
  | spent {entropy : Entropy} : draw? keyLength entropy = none → Ends entropy 1 (none, entropy)
  | found {entropy rest : Entropy} {block : Bytes} {secret : Secret} :
      draw? keyLength entropy = some (block, rest) →
      Secret.ofNat? (Bytes.toNat block) = some secret → Ends entropy 1 (some secret, rest)
  | again {entropy rest : Entropy} {block : Bytes} {draws : Nat}
      {result : Option Secret × Entropy} : draw? keyLength entropy = some (block, rest) →
      Secret.ofNat? (Bytes.toNat block) = none → Ends rest draws result →
      Ends entropy (draws + 1) result

variable {entropy rest : Entropy} {j draws : Nat} {result : Option Secret × Entropy}

/-! ## Blocks -/

theorem blockAt_drop (entropy : Entropy) (i : Nat) :
    blockAt (entropy.drop 32) i = blockAt entropy (i + 1) := by
  rw [blockAt, blockAt, List.drop_drop, Nat.mul_succ, Nat.add_comm]

/-- A draw takes the first block if it is whole. -/
theorem draw?_block (h : 32 ≤ entropy.length) :
    draw? keyLength entropy = some (blockAt entropy 0, entropy.drop 32) := by
  refine draw?_eq_some_iff.2 ⟨(List.take_append_drop 32 entropy).symm, ?_⟩
  rw [blockAt, Nat.mul_zero, List.drop_zero, List.length_take]
  exact Nat.min_eq_left h

/-- A draw from too little takes nothing. -/
theorem draw?_short {count : Nat} (h : entropy.length < count) : draw? count entropy = none := by
  rw [Option.eq_none_iff_forall_ne_some]
  rintro ⟨taken, rest⟩ hdraw
  have hlength := length_draw? hdraw
  omega

theorem exists_ofNat? {block : Bytes} (h : IsScalar block) :
    ∃ secret : Secret, Secret.ofNat? (Bytes.toNat block) = some secret ∧
      secret.scalar = Bytes.toNat block :=
  ⟨⟨_, h.1, h.2⟩, dif_pos h, rfl⟩

theorem ofNat?_eq_none {block : Bytes} (h : ¬ IsScalar block) :
    Secret.ofNat? (Bytes.toNat block) = none :=
  dif_neg h

/-! ## The loop -/

/-- The loop ends with what drawing a secret gives. -/
theorem Ends.drawSecret_eq (h : Ends entropy draws result) : drawSecret entropy = result := by
  induction h with
  | spent hdraw => exact drawSecret_of_end hdraw
  | found hdraw hsecret =>
    obtain ⟨rfl, hlength⟩ := draw?_eq_some_iff.1 hdraw
    exact drawSecret_of_gives ⟨hlength, hsecret⟩ _
  | again hdraw hnone _ ih =>
    obtain ⟨rfl, hlength⟩ := draw?_eq_some_iff.1 hdraw
    rw [drawSecret_of_rejected ⟨hlength, hnone⟩, ih]

/-- Blocks that are no scalars are drawn in vain, one draw for each. -/
theorem Ends.behind (hwhole : 32 * j ≤ entropy.length)
    (hnone : ∀ i < j, ¬ IsScalar (blockAt entropy i))
    (h : Ends (entropy.drop (32 * j)) draws result) : Ends entropy (draws + j) result := by
  induction j generalizing entropy with
  | zero => simpa using h
  | succ j ih =>
    have hfront : 32 ≤ entropy.length := by omega
    have hdraw := draw?_block hfront
    refine .again hdraw (ofNat?_eq_none (hnone 0 (by omega))) (ih ?_ (fun i hi => ?_) ?_)
    · rw [List.length_drop]
      omega
    · rw [blockAt_drop]
      exact hnone (i + 1) (by omega)
    · rwa [List.drop_drop, Nat.add_comm, ← Nat.mul_succ]

/-- The loop ends at the first scalar. -/
theorem FirstScalar.ends (h : FirstScalar entropy j) :
    ∃ ephemeral : Secret, ephemeral.scalar = Bytes.toNat (blockAt entropy j) ∧
      Ends entropy (j + 1) (some ephemeral, entropy.drop (32 * (j + 1))) := by
  have hwhole := h.whole
  obtain ⟨ephemeral, hsecret, hscalar⟩ := exists_ofNat? h.scalar
  have hlong : 32 ≤ (entropy.drop (32 * j)).length := by
    rw [List.length_drop]
    omega
  have hfound := Ends.found (draw?_block hlong) hsecret
  rw [List.drop_drop, ← Nat.mul_succ] at hfound
  have hends := hfound.behind (by omega) h.first
  rw [Nat.add_comm 1 j] at hends
  exact ⟨ephemeral, hscalar, hends⟩

/-- Where no block is the first scalar, none is a scalar. -/
theorem not_isScalar_of_none (h : ∀ j, ¬ FirstScalar entropy j) (i : Nat)
    (hwhole : 32 * (i + 1) ≤ entropy.length) : ¬ IsScalar (blockAt entropy i) := by
  induction i using Nat.strongRecOn with
  | ind i ih => exact fun hscalar => h i ⟨hwhole, hscalar, fun k hk => ih k hk (by omega)⟩

/-- Without a scalar the loop ends when no whole block is left. -/
theorem ends_of_none (h : ∀ j, ¬ FirstScalar entropy j) :
    Ends entropy (entropy.length / 32 + 1) (none, entropy.drop (32 * (entropy.length / 32))) := by
  have hshort : (entropy.drop (32 * (entropy.length / 32))).length < keyLength := by
    rw [List.length_drop, keyLength]
    omega
  have hnone : ∀ i < entropy.length / 32, ¬ IsScalar (blockAt entropy i) :=
    fun i hi => not_isScalar_of_none h i (by omega)
  have hends := (Ends.spent (draw?_short hshort)).behind (by omega) hnone
  rwa [Nat.add_comm 1] at hends

/-- The loop ends on every entropy. -/
theorem exists_ends (entropy : Entropy) :
    ∃ draws ≤ entropy.length / 32 + 1, Ends entropy draws (drawSecret entropy) := by
  by_cases hscalar : ∃ j, FirstScalar entropy j
  · obtain ⟨j, hfirst⟩ := hscalar
    have hwhole := hfirst.whole
    obtain ⟨ephemeral, -, hends⟩ := hfirst.ends
    exact ⟨j + 1, by omega, hends.drawSecret_eq ▸ hends⟩
  · have hends := ends_of_none (not_exists.1 hscalar)
    exact ⟨_, Nat.le_refl _, hends.drawSecret_eq ▸ hends⟩

/-! ## Sealing -/

variable {ephemeral : Secret} {nonce : Bytes}

theorem sealFor_of_nonce (hsecret : drawSecret entropy = (some ephemeral, rest))
    (hlong : Gcm.nonceLength ≤ rest.length) (receiver : Point) (text : Bytes) :
    sealFor receiver text entropy =
      (.ok (sealWith ephemeral (rest.take Gcm.nonceLength) receiver text),
        rest.drop Gcm.nonceLength) := by
  have hnonce : draw? Gcm.nonceLength rest =
      some (rest.take Gcm.nonceLength, rest.drop Gcm.nonceLength) :=
    draw?_eq_some_iff.2 ⟨(List.take_append_drop _ _).symm, List.length_take_of_le hlong⟩
  simp only [sealFor, hsecret, hnonce]

theorem sealFor_of_no_nonce (hsecret : drawSecret entropy = (some ephemeral, rest))
    (hshort : rest.length < Gcm.nonceLength) (receiver : Point) (text : Bytes) :
    sealFor receiver text entropy = (.error .randomSource, rest) := by
  simp only [sealFor, hsecret, draw?_short hshort]

theorem sealFor_of_no_secret (hsecret : drawSecret entropy = (none, rest)) (receiver : Point)
    (text : Bytes) : sealFor receiver text entropy = (.error .randomSource, rest) := by
  simp only [sealFor, hsecret]

/-- **What sealing takes.** For every receiver, text and entropy:

* if block `j` is the first scalar, it is drawn as the ephemeral secret in draw `j + 1`. With twelve
  bytes behind it sealing succeeds with these as the nonce and leaves what is behind them: the
  payload begins with the 65 bytes of the ephemeral point and these twelve. With fewer it fails and
  leaves them;
* if no whole block is a scalar, all of them are drawn, the next draw fails, sealing fails, and less
  than a block is left;
* in any case the loop ends, with at most one draw more than there are whole blocks. -/
theorem taken_by_sealing (receiver : Point) (text : Bytes) (entropy : Entropy) :
    (∀ j, FirstScalar entropy j →
      ∃ ephemeral : Secret, ephemeral.scalar = Bytes.toNat (blockAt entropy j) ∧
        Ends entropy (j + 1) (some ephemeral, entropy.drop (32 * (j + 1))) ∧
        (32 * (j + 1) + 12 ≤ entropy.length →
          ∃ payload,
            sealFor receiver text entropy = (.ok payload, entropy.drop (32 * (j + 1) + 12)) ∧
            payload =
              sealWith ephemeral ((entropy.drop (32 * (j + 1))).take 12) receiver text ∧
            payload.take 65 = ephemeral.publicPoint.uncompressed ∧
            (payload.drop 65).take 12 = (entropy.drop (32 * (j + 1))).take 12) ∧
        (entropy.length < 32 * (j + 1) + 12 →
          sealFor receiver text entropy = (.error .randomSource, entropy.drop (32 * (j + 1))))) ∧
    ((∀ j, ¬ FirstScalar entropy j) →
      Ends entropy (entropy.length / 32 + 1)
          (none, entropy.drop (32 * (entropy.length / 32))) ∧
        sealFor receiver text entropy =
          (.error .randomSource, entropy.drop (32 * (entropy.length / 32)))) ∧
    ∃ draws ≤ entropy.length / 32 + 1, Ends entropy draws (drawSecret entropy) := by
  refine ⟨?scalar, ?none, exists_ends entropy⟩
  case scalar =>
    intro j hfirst
    obtain ⟨ephemeral, hscalar, hends⟩ := hfirst.ends
    have hlength : (entropy.drop (32 * (j + 1))).length = entropy.length - 32 * (j + 1) :=
      List.length_drop
    refine ⟨ephemeral, hscalar, hends, fun hlong => ?_, fun hshort => ?_⟩
    · have hnonce : Gcm.nonceLength ≤ (entropy.drop (32 * (j + 1))).length := by
        rw [hlength, Gcm.nonceLength]
        omega
      have hsealed := sealFor_of_nonce hends.drawSecret_eq hnonce receiver text
      rw [List.drop_drop] at hsealed
      obtain ⟨hpoint, hbehind⟩ :=
        sealWith_parts ephemeral (List.length_take_of_le hnonce) receiver text
      exact ⟨_, hsealed, rfl, hpoint, hbehind⟩
    · refine sealFor_of_no_nonce hends.drawSecret_eq ?_ receiver text
      rw [hlength, Gcm.nonceLength]
      omega
  case none =>
    intro hnone
    have hends := ends_of_none hnone
    exact ⟨hends, sealFor_of_no_secret hends.drawSecret_eq receiver text⟩

/-- Zeros, then sevens: the second block is the first scalar. Six bytes are left behind the nonce of
the long entropy, and the eight behind the scalar of the short one are too few. No block of the last
is a scalar. -/
theorem taken_by_sealing_secondBlock :
    (∃ (ephemeral : Secret) (payload : Bytes),
      ephemeral.scalar = Bytes.toNat (List.replicate 32 7) ∧
      sealFor receivingSecret.publicPoint [] secondBlockEntropy =
        (.ok payload, List.replicate 6 7) ∧
      payload = sealWith ephemeral (List.replicate 12 7) receivingSecret.publicPoint [] ∧
      payload.take 65 = ephemeral.publicPoint.uncompressed ∧
      (payload.drop 65).take 12 = List.replicate 12 7) ∧
    sealFor receivingSecret.publicPoint [] (secondBlockEntropy.take 72) =
      (.error .randomSource, List.replicate 8 7) ∧
    sealFor receivingSecret.publicPoint [] (List.replicate 70 0) =
      (.error .randomSource, List.replicate 6 0) := by
  have hfirst : FirstScalar secondBlockEntropy 1 :=
    ⟨by decide, by decide +kernel, by decide +kernel⟩
  have hfirst' : FirstScalar (secondBlockEntropy.take 72) 1 :=
    ⟨by decide, by decide +kernel, by decide +kernel⟩
  have hnone : ∀ j, ¬ FirstScalar (List.replicate 70 0) j := by
    intro j h
    have hwhole := h.whole
    have hscalar := h.scalar.1
    rw [List.length_replicate] at hwhole
    obtain rfl | rfl : j = 0 ∨ j = 1 := by omega
    · exact absurd hscalar (by decide +kernel)
    · exact absurd hscalar (by decide +kernel)
  obtain ⟨ephemeral, hscalar, -, hsealed, -⟩ :=
    (taken_by_sealing receivingSecret.publicPoint [] secondBlockEntropy).1 1 hfirst
  obtain ⟨-, -, -, -, hfailed⟩ :=
    (taken_by_sealing receivingSecret.publicPoint [] (secondBlockEntropy.take 72)).1 1 hfirst'
  obtain ⟨-, hfailed'⟩ :=
    (taken_by_sealing receivingSecret.publicPoint [] (List.replicate 70 0)).2.1 hnone
  obtain ⟨payload, hpayload⟩ := hsealed (by decide)
  exact ⟨⟨ephemeral, payload, hscalar, hpayload⟩, hfailed (by decide), hfailed'⟩

end Seal

end SealedReceipts
