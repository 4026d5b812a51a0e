import SealedReceipts.Cipher.Gcm
import SealedReceipts.Proofs.Cipher.Aes

/-!
# Decryption inverts encryption

Counter mode combines a text with a stream of blocks by exclusive or, so the stream that makes the
ciphertext takes it back to the text. The blocks of the stream have to be whole, which they are
under a key of 32 bytes and a nonce of twelve. The tag is computed from the ciphertext alone and is
found right.
-/

namespace SealedReceipts

namespace Bytes

/-- Exclusive or with the same bytes twice. -/
theorem xor_xor {a b : Bytes} (h : a.length ≤ b.length) : xor (xor a b) b = a := by
  induction a generalizing b with
  | nil => rfl
  | cons x a ih =>
    cases b with
    | nil => simp at h
    | cons y b =>
      have hle : a.length ≤ b.length := Nat.le_of_succ_le_succ h
      have htail := ih hle
      simp only [xor, List.zipWith_cons_cons] at htail ⊢
      rw [htail, UInt8.xor_assoc, UInt8.xor_self, UInt8.xor_zero]

end Bytes

namespace Gcm

variable {keys : List Bytes} {nonce : Bytes}

/-! ## Counter mode -/

theorem length_drop_lt {text : Bytes} (h : text ≠ []) : (text.drop 16).length < text.length := by
  have hpos := List.length_pos_iff.2 h
  rw [List.length_drop]
  omega

theorem streamFrom_end (counter : Nat) (done : List Bytes) :
    streamFrom keys nonce counter done [] = done.reverse.flatten := by
  rw [streamFrom, dif_pos rfl]

theorem streamFrom_step (counter : Nat) (done : List Bytes) {text : Bytes} (h : text ≠ []) :
    streamFrom keys nonce counter done text =
      streamFrom keys nonce (counter + 1)
        (Bytes.xor (text.take 16) (Aes.encryptBlock keys (counterBlock nonce counter)) :: done)
        (text.drop 16) := by
  rw [streamFrom, dif_neg h]

/-- The blocks that are done stand in front of what comes. -/
theorem streamFrom_done (counter : Nat) (done : List Bytes) (text : Bytes) :
    streamFrom keys nonce counter done text =
      done.reverse.flatten ++ streamFrom keys nonce counter [] text := by
  by_cases h : text = []
  · rw [h, streamFrom_end, streamFrom_end]
    simp
  · rw [streamFrom_step counter done h, streamFrom_step counter [] h,
      streamFrom_done _ (_ :: done), streamFrom_done _ [_]]
    simp
termination_by text.length
decreasing_by all_goals exact length_drop_lt h

theorem streamFrom_of_ne_nil (counter : Nat) {text : Bytes} (h : text ≠ []) :
    streamFrom keys nonce counter [] text =
      Bytes.xor (text.take 16) (Aes.encryptBlock keys (counterBlock nonce counter)) ++
        streamFrom keys nonce (counter + 1) [] (text.drop 16) := by
  rw [streamFrom_step counter [] h, streamFrom_done]
  simp

section Blocks

variable (hblocks : ∀ counter, (Aes.encryptBlock keys (counterBlock nonce counter)).length = 16)

include hblocks

/-- Under whole blocks the stream makes a block of a block, and of what is shorter nothing more. -/
theorem length_block (counter : Nat) (text : Bytes) :
    (Bytes.xor (text.take 16) (Aes.encryptBlock keys (counterBlock nonce counter))).length =
      (text.take 16).length := by
  rw [Bytes.length_xor, hblocks, List.length_take]
  omega

theorem length_streamFrom (counter : Nat) (text : Bytes) :
    (streamFrom keys nonce counter [] text).length = text.length := by
  by_cases h : text = []
  · rw [h, streamFrom_end]
    rfl
  have ih := length_streamFrom (counter + 1) (text.drop 16)
  rw [streamFrom_of_ne_nil counter h, List.length_append, ih, length_block hblocks counter text,
    ← List.length_append, List.take_append_drop]
termination_by text.length
decreasing_by exact length_drop_lt h

theorem streamFrom_streamFrom (counter : Nat) (text : Bytes) :
    streamFrom keys nonce counter [] (streamFrom keys nonce counter [] text) = text := by
  by_cases h : text = []
  · rw [h, streamFrom_end, List.reverse_nil, List.flatten_nil, streamFrom_end]
    rfl
  have ih := streamFrom_streamFrom (counter + 1) (text.drop 16)
  have hlength := length_block hblocks counter text
  have hwhole : (text.take 16).length ≤
      (Aes.encryptBlock keys (counterBlock nonce counter)).length := by
    rw [hblocks]
    exact List.length_take_le 16 text
  have hxor := Bytes.xor_xor hwhole
  rw [streamFrom_of_ne_nil counter h]
  generalize Bytes.xor (text.take 16) (Aes.encryptBlock keys (counterBlock nonce counter)) = block
    at hlength hxor ⊢
  have hne : block ++ streamFrom keys nonce (counter + 1) [] (text.drop 16) ≠ [] := by
    have hpos := List.length_pos_iff.2 h
    rw [← List.length_pos_iff, List.length_append, hlength, List.length_take]
    omega
  -- a short block is the last one
  have htake : (block ++ streamFrom keys nonce (counter + 1) [] (text.drop 16)).take 16 = block ∧
      (block ++ streamFrom keys nonce (counter + 1) [] (text.drop 16)).drop 16 =
        streamFrom keys nonce (counter + 1) [] (text.drop 16) := by
    rw [List.length_take] at hlength
    rcases Nat.lt_or_ge text.length 16 with hshort | hlong
    · have hend : text.drop 16 = [] := List.drop_eq_nil_of_le (Nat.le_of_lt hshort)
      rw [hend, streamFrom_end, List.reverse_nil, List.flatten_nil, List.append_nil]
      exact ⟨List.take_of_length_le (by omega), List.drop_eq_nil_of_le (by omega)⟩
    · have hblock : block.length = 16 := by omega
      exact ⟨List.take_left' hblock, List.drop_left' hblock⟩
  rw [streamFrom_of_ne_nil counter hne, htake.1, htake.2, hxor, ih, List.take_append_drop]
termination_by text.length
decreasing_by exact length_drop_lt h

end Blocks

/-! ## Sealing and opening -/

theorem length_counterBlock (h : nonce.length = nonceLength) (counter : Nat) :
    (counterBlock nonce counter).length = 16 := by
  rw [counterBlock, List.length_append, Bytes.length_ofNat, h]
  rfl

theorem length_tag (hkeys : Aes.AreBlocks keys) (hnonce : nonce.length = nonceLength)
    (ciphertext : Bytes) : (tag keys nonce ciphertext).length = tagLength := by
  rw [tag, Bytes.length_xor, Bytes.length_ofNat,
    Aes.length_encryptBlock hkeys (length_counterBlock hnonce 1)]
  rfl

theorem whole_blocks (hkeys : Aes.AreBlocks keys) (hnonce : nonce.length = nonceLength)
    (counter : Nat) : (Aes.encryptBlock keys (counterBlock nonce counter)).length = 16 :=
  Aes.length_encryptBlock hkeys (length_counterBlock hnonce counter)

theorem length_stream (hkeys : Aes.AreBlocks keys) (hnonce : nonce.length = nonceLength)
    (text : Bytes) : (stream keys nonce text).length = text.length :=
  length_streamFrom (whole_blocks hkeys hnonce) 2 text

/-- Counter mode is its own inverse. -/
theorem stream_stream (hkeys : Aes.AreBlocks keys) (hnonce : nonce.length = nonceLength)
    (text : Bytes) : stream keys nonce (stream keys nonce text) = text :=
  streamFrom_streamFrom (whole_blocks hkeys hnonce) 2 text

/-- A ciphertext is longer than its text by the tag. -/
theorem length_encrypt {key : Bytes} (hkey : key.length = 32) (hnonce : nonce.length = nonceLength)
    (text : Bytes) : (encrypt key nonce text).length = text.length + tagLength := by
  have hkeys := Aes.roundKeys_areBlocks hkey
  rw [encrypt, List.length_append, length_tag hkeys hnonce, length_stream hkeys hnonce]

/-- A text that is decrypted is shorter than what it was decrypted from by the tag. -/
theorem length_decrypt? {key sealedText text : Bytes} (hkey : key.length = 32)
    (hnonce : nonce.length = nonceLength) (h : decrypt? key nonce sealedText = some text) :
    text.length + tagLength = sealedText.length := by
  unfold decrypt? at h
  split at h
  · cases h
  · next hlong =>
    simp only [List.splitAt_eq] at h
    split at h
    · obtain rfl := Option.some.inj h
      rw [length_stream (Aes.roundKeys_areBlocks hkey) hnonce, List.length_take]
      omega
    · cases h

/-- **Decryption inverts encryption.** -/
theorem decrypt?_encrypt {key : Bytes} (hkey : key.length = 32)
    (hnonce : nonce.length = nonceLength) (text : Bytes) :
    decrypt? key nonce (encrypt key nonce text) = some text := by
  have hkeys := Aes.roundKeys_areBlocks hkey
  have hstream := stream_stream hkeys hnonce text
  have htag := length_tag hkeys hnonce (stream (Aes.roundKeys key) nonce text)
  generalize hciphertext : stream (Aes.roundKeys key) nonce text = ciphertext at hstream htag
  have hlength : (ciphertext ++ tag (Aes.roundKeys key) nonce ciphertext).length - tagLength =
      ciphertext.length := by
    rw [List.length_append, htag, Nat.add_sub_cancel]
  have hlong : ¬(ciphertext ++ tag (Aes.roundKeys key) nonce ciphertext).length < tagLength := by
    rw [List.length_append, htag]
    omega
  rw [encrypt, decrypt?]
  simp only [hciphertext, hlength, hlong, List.splitAt_eq, List.take_left, List.drop_left, hstream,
    if_true, if_false]

end Gcm

end SealedReceipts
