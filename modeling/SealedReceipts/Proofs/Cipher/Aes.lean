import SealedReceipts.Cipher.Aes

/-!
# Lengths in the block cipher

A key of 32 bytes gives fifteen round keys of 16 bytes, and under such keys a block of 16 bytes is
encrypted to a block of 16 bytes.
-/

namespace SealedReceipts

namespace Aes

/-! ## The key schedule -/

/-- Words of four bytes. -/
def AreWords (words : List Bytes) : Prop :=
  ∀ w ∈ words, w.length = 4

theorem length_flatten_words {words : List Bytes} (h : AreWords words) :
    words.flatten.length = 4 * words.length := by
  induction words with
  | nil => rfl
  | cons w words ih =>
    have hhead := h w List.mem_cons_self
    have htail := ih fun v hv => h v (List.mem_cons_of_mem w hv)
    rw [List.flatten_cons, List.length_append, hhead, htail, List.length_cons]
    omega

theorem keyWords_areWords {key : Bytes} (h : key.length = 32) : AreWords (keyWords key) := by
  intro w hw
  obtain ⟨n, hn, rfl⟩ := List.mem_map.1 hw
  have hlt : n < 8 := List.mem_range.1 hn
  rw [List.length_take, List.length_drop]
  omega

theorem nextWords_areWords (constant : UInt8) {words : List Bytes} (h : AreWords words) :
    AreWords (nextWords constant words) := by
  unfold nextWords
  split
  · simp only [AreWords, List.forall_mem_cons] at h ⊢
    simp [h]
  · exact h

theorem length_nextWords (constant : UInt8) (words : List Bytes) :
    (nextWords constant words).length = words.length := by
  unfold nextWords
  split <;> rfl

/-- One constant of `scheduleWords`. -/
def scheduleStep (state : List Bytes × List Bytes) (constant : UInt8) : List Bytes × List Bytes :=
  let next := nextWords constant state.2
  (state.1 ++ next, next)

theorem scheduleWords_eq_fold (key : Bytes) : scheduleWords key =
    ([0x01, 0x02, 0x04, 0x08, 0x10, 0x20, 0x40].foldl scheduleStep
      (keyWords key, keyWords key)).1 :=
  rfl

/-- Eight words more for each constant. -/
theorem scheduleStep_fold (constants : List UInt8) {words last : List Bytes}
    (hwords : AreWords words) (hlast : AreWords last) (hlength : last.length = 8) :
    AreWords (constants.foldl scheduleStep (words, last)).1 ∧
      (constants.foldl scheduleStep (words, last)).1.length =
        words.length + 8 * constants.length := by
  induction constants generalizing words last with
  | nil => exact ⟨hwords, rfl⟩
  | cons constant constants ih =>
    have hnext := nextWords_areWords constant hlast
    have hnextLength := (length_nextWords constant last).trans hlength
    have happend : AreWords (words ++ nextWords constant last) :=
      fun w hw => (List.mem_append.1 hw).elim (hwords w) (hnext w)
    obtain ⟨hall, hcount⟩ := ih happend hnext hnextLength
    refine ⟨hall, hcount.trans ?_⟩
    rw [List.length_append, hnextLength, List.length_cons]
    omega

theorem scheduleWords_spec {key : Bytes} (h : key.length = 32) :
    AreWords (scheduleWords key) ∧ (scheduleWords key).length = 64 := by
  have hstart := keyWords_areWords h
  have hlength : (keyWords key).length = 8 := by simp [keyWords]
  obtain ⟨hall, hcount⟩ :=
    scheduleStep_fold [0x01, 0x02, 0x04, 0x08, 0x10, 0x20, 0x40] hstart hstart hlength
  rw [scheduleWords_eq_fold]
  exact ⟨hall, hcount.trans (by rw [hlength]; rfl)⟩

/-- Blocks of sixteen bytes. -/
def AreBlocks (blocks : List Bytes) : Prop :=
  ∀ b ∈ blocks, b.length = 16

theorem roundKeys_areBlocks {key : Bytes} (h : key.length = 32) : AreBlocks (roundKeys key) := by
  obtain ⟨hwords, hcount⟩ := scheduleWords_spec h
  have hbytes := length_flatten_words hwords
  rw [hcount] at hbytes
  intro b hb
  obtain ⟨n, hn, rfl⟩ := List.mem_map.1 hb
  have hlt : n < 15 := List.mem_range.1 hn
  rw [List.length_take, List.length_drop, hbytes]
  omega

/-! ## Rounds -/

theorem length_substituteAndShift (block : Bytes) :
    (substituteAndShift block).length = block.length := by
  unfold substituteAndShift
  split
  · rw [List.length_map]
    rfl
  · rfl

theorem length_mixColumns (block : Bytes) : (mixColumns block).length = block.length := by
  induction block using mixColumns.induct with
  | case1 a b c d rest ih =>
    rw [mixColumns, List.length_append, ih]
    simp [mixColumn]
    omega
  | case2 block h => rw [mixColumns]; exact h

theorem length_rounds {block : Bytes} {keys : List Bytes} (hblock : block.length = 16)
    (hkeys : AreBlocks keys) : (rounds block keys).length = 16 := by
  induction block, keys using rounds.induct with
  | case1 block => exact hblock
  | case2 block last =>
    have hlast := hkeys last List.mem_cons_self
    rw [rounds, Bytes.length_xor, length_substituteAndShift, hblock, hlast]
    rfl
  | case3 block key keys hmore ih =>
    have hkey := hkeys key List.mem_cons_self
    rw [rounds]
    · refine ih ?_ fun b hb => hkeys b (List.mem_cons_of_mem key hb)
      rw [Bytes.length_xor, length_mixColumns, length_substituteAndShift, hblock, hkey]
      rfl
    · exact hmore

theorem length_encryptBlock {keys : List Bytes} {block : Bytes} (hkeys : AreBlocks keys)
    (hblock : block.length = 16) : (encryptBlock keys block).length = 16 := by
  unfold encryptBlock
  cases keys with
  | nil => exact hblock
  | cons first others =>
    have hfirst := hkeys first List.mem_cons_self
    refine length_rounds ?_ fun b hb => hkeys b (List.mem_cons_of_mem first hb)
    rw [Bytes.length_xor, hblock, hfirst]
    rfl

end Aes

end SealedReceipts
