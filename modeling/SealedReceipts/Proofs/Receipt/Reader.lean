import SealedReceipts.Proofs.Bytes
import SealedReceipts.Receipt.Decoding

/-!
# Readers against the layout

For every reader of the stored form, what it accepts: a value comes out and `rest` is left exactly
when the bytes are the layout of the value with `rest` behind it. The statements are equivalences,
so a reader that is put together from others is worked out by rewriting with theirs.
-/

namespace SealedReceipts

namespace Reader

open Layout

variable {α β : Type} {bytes rest : Bytes}

/-! ## Putting readers together -/

theorem bind_eq_ok {first : Reader α} {next : α → Reader β} {b : β} :
    (first >>= next) bytes = .ok (b, rest) ↔
      ∃ a mid, first bytes = .ok (a, mid) ∧ next a mid = .ok (b, rest) := by
  change andThen first next bytes = _ ↔ _
  unfold andThen
  rcases first bytes with e | ⟨a, mid⟩
  · simp
  · constructor
    · intro h
      exact ⟨a, mid, rfl, h⟩
    · rintro ⟨a', mid', hread, h⟩
      cases hread
      exact h

theorem pure_eq_ok {a b : α} :
    (pure a : Reader α) bytes = .ok (b, rest) ↔ a = b ∧ bytes = rest := by
  change Except.ok (a, bytes) = _ ↔ _
  simp

theorem fail_eq_ok {e : CorruptReceipt} {a : α} : fail e bytes = .ok (a, rest) ↔ False := by
  simp [fail]

theorem ite_eq_ok {c : Prop} [Decidable c] {yes no : Reader α} {a : α} :
    (if c then yes else no) bytes = .ok (a, rest) ↔
      if c then yes bytes = .ok (a, rest) else no bytes = .ok (a, rest) := by
  by_cases hc : c <;> simp [hc]

/-! ## Numbers -/

theorem take_eq_ok {count : Nat} {field : Field} {head : Bytes} :
    take count field bytes = .ok (head, rest) ↔ head.length = count ∧ bytes = head ++ rest := by
  unfold take
  dsimp only
  constructor
  · intro h
    split at h
    · next hlen =>
      cases h
      exact ⟨hlen, (List.take_append_drop count bytes).symm⟩
    · cases h
  · rintro ⟨rfl, rfl⟩
    simp

theorem number_eq_ok {width : Nat} {field : Field} {n : Nat} :
    number width field bytes = .ok (n, rest) ↔
      n < Nat.pow 256 width ∧ bytes = Bytes.ofNat width n ++ rest := by
  simp only [number, bind_eq_ok, take_eq_ok, pure_eq_ok]
  constructor
  · rintro ⟨head, _, ⟨hlen, rfl⟩, hn, rfl⟩
    obtain ⟨hlt, rfl⟩ := Bytes.eq_ofNat_iff.1 ⟨hlen, hn⟩
    exact ⟨hlt, rfl⟩
  · rintro ⟨hlt, rfl⟩
    obtain ⟨hlen, hn⟩ := Bytes.eq_ofNat_iff.2 ⟨hlt, rfl⟩
    exact ⟨_, rest, ⟨hlen, rfl⟩, hn, rfl⟩

/-- A word is read back from the bytes of its number, whatever the type that holds it. -/
theorem word_eq_ok {width : Nat} {field : Field} {ofNat : Nat → α} {toNat : α → Nat} {a : α}
    (hlt : ∀ a, toNat a < Nat.pow 256 width) (hof : ∀ a, ofNat (toNat a) = a)
    (hto : ∀ n, n < Nat.pow 256 width → toNat (ofNat n) = n) :
    (do return ofNat (← number width field) : Reader α) bytes = .ok (a, rest) ↔
      bytes = Bytes.ofNat width (toNat a) ++ rest := by
  simp only [bind_eq_ok, number_eq_ok, pure_eq_ok]
  constructor
  · rintro ⟨n, _, ⟨hn, rfl⟩, rfl, rfl⟩
    rw [hto n hn]
  · rintro rfl
    exact ⟨toNat a, rest, ⟨hlt a, rfl⟩, hof a, rfl⟩

theorem byte_eq_ok {field : Field} {a : UInt8} :
    byte field bytes = .ok (a, rest) ↔ bytes = Layout.byte a ++ rest := by
  have h : byte field bytes = .ok (a, rest) ↔ bytes = Bytes.ofNat 1 a.toNat ++ rest :=
    word_eq_ok UInt8.toNat_lt (by simp) (fun n hn => by simpa using hn)
  simpa [Layout.byte, Bytes.ofNat] using h

theorem word16_eq_ok {field : Field} {a : UInt16} :
    word16 field bytes = .ok (a, rest) ↔ bytes = Layout.word16 a ++ rest :=
  word_eq_ok UInt16.toNat_lt (by simp) (fun n hn => by simpa using hn)

theorem word32_eq_ok {field : Field} {a : UInt32} :
    word32 field bytes = .ok (a, rest) ↔ bytes = Layout.word32 a ++ rest :=
  word_eq_ok UInt32.toNat_lt (by simp) (fun n hn => by simpa using hn)

theorem word64_eq_ok {field : Field} {a : UInt64} :
    word64 field bytes = .ok (a, rest) ↔ bytes = Layout.word64 a ++ rest :=
  word_eq_ok UInt64.toNat_lt (by simp) (fun n hn => by simpa using hn)

/-! ## Texts -/

theorem text_eq_ok {field : Field} {s : String} :
    text field bytes = .ok (s, rest) ↔
      s.utf8ByteSize < UInt32.size ∧ bytes = Layout.text s ++ rest := by
  have hsize : Nat.pow 256 4 = UInt32.size := rfl
  simp only [text, bind_eq_ok, number_eq_ok, take_eq_ok, hsize]
  constructor
  · rintro ⟨n, _, ⟨hn, rfl⟩, body, _, ⟨rfl, rfl⟩, h⟩
    cases hbody : body.toText? with
    | none =>
      rw [hbody] at h
      exact (fail_eq_ok.1 h).elim
    | some t =>
      rw [hbody] at h
      obtain ⟨rfl, rfl⟩ := pure_eq_ok.1 h
      obtain rfl := Bytes.toText?_eq_some_iff.1 hbody
      rw [Bytes.length_ofText] at hn ⊢
      exact ⟨hn, by rw [Layout.text, List.append_assoc]⟩
  · rintro ⟨hs, rfl⟩
    refine ⟨s.utf8ByteSize, Bytes.ofText s ++ rest, ⟨hs, ?_⟩, Bytes.ofText s, rest,
      ⟨Bytes.length_ofText s, rfl⟩, ?_⟩
    · rw [Layout.text, List.append_assoc]
    · rw [Bytes.toText?_eq_some_iff.2 rfl]
      exact pure_eq_ok.2 ⟨rfl, rfl⟩

theorem remaining_eq_ok {n : Nat} :
    remaining bytes = .ok (n, rest) ↔ bytes.length = n ∧ bytes = rest := by
  simp [remaining]

end Reader

end SealedReceipts
