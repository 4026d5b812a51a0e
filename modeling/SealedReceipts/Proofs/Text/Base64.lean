import SealedReceipts.Text.Base64

/-!
# Base64 is canonical

A text that is read as bytes is the text that is written for them: every character stands for six
bits and is the character of these bits, padding is as long as it is written, and the bits that the
last group leaves over are zero in both. And what is written for bytes is read as these bytes.

The two alphabets write the same text character by character, so no text is read as different bytes
in them. Neither writes the last two characters of the other, and full groups are written in that of
URLs without padding.
-/

namespace SealedReceipts

namespace Base64

variable {a : Alphabet}

/-! ## Characters -/

/-- A character of a span is known by its distance from the first. -/
theorem span_eq {c first last : Char} (h : first ≤ c ∧ c ≤ last) :
    c.toNat - first.toNat ≤ last.toNat - first.toNat ∧
      Char.ofNat (first.toNat + (c.toNat - first.toNat)) = c := by
  have hlow : first.toNat ≤ c.toNat := h.1
  have hhigh : c.toNat ≤ last.toNat := h.2
  refine ⟨Nat.sub_le_sub_right hhigh _, ?_⟩
  rw [Nat.add_sub_cancel' hlow, Char.ofNat_toNat]

/-- A character that stands for six bits is the character of them. -/
theorem digit?_eq_some {c : Char} {n : Nat} (h : digit? a c = some n) :
    n < 64 ∧ digit a n = c := by
  unfold digit? at h
  split at h
  · next hupper =>
    obtain ⟨hspan, hchar⟩ := span_eq hupper
    have hle : c.toNat - 'A'.toNat ≤ 25 := hspan
    obtain rfl := Option.some.inj h
    refine ⟨by omega, ?_⟩
    rw [digit, if_pos (by omega), hchar]
  · split at h
    · next hlower =>
      obtain ⟨hspan, hchar⟩ := span_eq hlower
      have hle : c.toNat - 'a'.toNat ≤ 25 := hspan
      obtain rfl := Option.some.inj h
      refine ⟨by omega, ?_⟩
      rw [digit, if_neg (by omega), if_pos (by omega), Nat.add_sub_cancel, hchar]
    · split at h
      · next hdecimal =>
        obtain ⟨hspan, hchar⟩ := span_eq hdecimal
        have hle : c.toNat - '0'.toNat ≤ 9 := hspan
        obtain rfl := Option.some.inj h
        refine ⟨by omega, ?_⟩
        rw [digit, if_neg (by omega), if_neg (by omega), if_pos (by omega), Nat.add_sub_cancel,
          hchar]
      · split at h
        · next hlast =>
          obtain rfl := Option.some.inj h
          exact ⟨by omega, hlast.symm⟩
        · split at h
          · next hlast =>
            obtain rfl := Option.some.inj h
            exact ⟨by omega, hlast.symm⟩
          · cases h

/-! ## Groups -/

/-- A whole group is written as it is read. -/
theorem encodeOnto_group {c d e f : Char} {p q r s : Nat} (hc : digit? a c = some p)
    (hd : digit? a d = some q) (he : digit? a e = some r) (hf : digit? a f = some s)
    (written : List Char) (rest : Bytes) :
    let n := 262144 * p + 4096 * q + 64 * r + s
    encodeOnto a written
        (UInt8.ofNat (n / 65536) :: UInt8.ofNat (n / 256) :: UInt8.ofNat n :: rest) =
      encodeOnto a (f :: e :: d :: c :: written) rest := by
  obtain ⟨hp, rfl⟩ := digit?_eq_some hc
  obtain ⟨hq, rfl⟩ := digit?_eq_some hd
  obtain ⟨hr, rfl⟩ := digit?_eq_some he
  obtain ⟨hs, rfl⟩ := digit?_eq_some hf
  intro n
  have hn : n = 262144 * p + 4096 * q + 64 * r + s := rfl
  have hjoin : 65536 * (UInt8.ofNat (n / 65536)).toNat + 256 * (UInt8.ofNat (n / 256)).toNat +
      (UInt8.ofNat n).toNat = n := by
    simp only [UInt8.toNat_ofNat']
    omega
  rw [encodeOnto]
  simp only [hjoin]
  have hsixth : n % 64 = s ∧ n / 64 % 64 = r ∧ n / 4096 % 64 = q ∧ n / 262144 = p := by omega
  rw [hsixth.1, hsixth.2.1, hsixth.2.2.1, hsixth.2.2.2]

/-- A last group with one character of padding is written as it is read. -/
theorem encodeOnto_lastTwo {c d e : Char} {p q r : Nat} {x y : UInt8} (hc : digit? a c = some p)
    (hd : digit? a d = some q) (he : digit? a e = some r) (hread : lastTwo? p q r = some (x, y))
    (written : List Char) : encodeOnto a written [x, y] = '=' :: e :: d :: c :: written := by
  obtain ⟨hp, rfl⟩ := digit?_eq_some hc
  obtain ⟨hq, rfl⟩ := digit?_eq_some hd
  obtain ⟨hr, rfl⟩ := digit?_eq_some he
  unfold lastTwo? at hread
  dsimp only at hread
  split at hread
  · next hzero =>
    obtain ⟨rfl, rfl⟩ := Prod.mk.inj (Option.some.inj hread)
    have hjoin : 256 * (UInt8.ofNat ((4096 * p + 64 * q + r) / 1024)).toNat +
        (UInt8.ofNat ((4096 * p + 64 * q + r) / 4)).toNat = (4096 * p + 64 * q + r) / 4 := by
      simp only [UInt8.toNat_ofNat']
      omega
    rw [encodeOnto]
    simp only [hjoin]
    have hparts : (4096 * p + 64 * q + r) / 4 % 16 * 4 = r ∧
        (4096 * p + 64 * q + r) / 4 / 16 % 64 = q ∧ (4096 * p + 64 * q + r) / 4 / 1024 = p := by
      omega
    rw [hparts.1, hparts.2.1, hparts.2.2]
  · cases hread

/-- A last group with two characters of padding is written as it is read. -/
theorem encodeOnto_lastOne {c d : Char} {p q : Nat} {x : UInt8} (hc : digit? a c = some p)
    (hd : digit? a d = some q) (hread : lastOne? p q = some x) (written : List Char) :
    encodeOnto a written [x] = '=' :: '=' :: d :: c :: written := by
  obtain ⟨hp, rfl⟩ := digit?_eq_some hc
  obtain ⟨hq, rfl⟩ := digit?_eq_some hd
  unfold lastOne? at hread
  dsimp only at hread
  split at hread
  · next hzero =>
    obtain rfl := Option.some.inj hread
    rw [encodeOnto]
    have hparts : (UInt8.ofNat ((64 * p + q) / 16)).toNat % 4 * 16 = q ∧
        (UInt8.ofNat ((64 * p + q) / 16)).toNat / 4 = p := by
      simp only [UInt8.toNat_ofNat']
      omega
    simp only [hparts.1, hparts.2]
  · cases hread

/-! ## Texts -/

/-- What is read off characters is written as these characters. -/
theorem encodeOnto_of_decodeOnto? {read bytes : Bytes} {cs : List Char}
    (h : decodeOnto? a read cs = some bytes) :
    ∃ behind, bytes = read.reverse ++ behind ∧
      ∀ written, encodeOnto a written behind = cs.reverse ++ written := by
  induction read, cs using decodeOnto?.induct a generalizing bytes with
  | case1 read =>
    obtain rfl := Option.some.inj h
    exact ⟨[], by simp, fun written => rfl⟩
  | case2 read c d =>
    simp only [decodeOnto?, Option.bind_eq_bind, Option.bind_eq_some_iff, Option.some.injEq] at h
    obtain ⟨p, hc, q, hd, x, hread, rfl⟩ := h
    refine ⟨[x], by simp, fun written => ?_⟩
    rw [encodeOnto_lastOne hc hd hread]
    rfl
  | case3 read c d e hne =>
    simp only [decodeOnto?, Option.bind_eq_bind, Option.bind_eq_some_iff, Option.some.injEq] at h
    obtain ⟨p, hc, q, hd, r, he, ⟨x, y⟩, hread, rfl⟩ := h
    refine ⟨[x, y], by simp, fun written => ?_⟩
    rw [encodeOnto_lastTwo hc hd he hread]
    rfl
  | case4 read c d e f rest _ _ p q r s hf he hd hc n =>
    rename_i ih
    simp only [decodeOnto?, hc, hd, he, hf] at h
    obtain ⟨behind, rfl, hwritten⟩ := ih h
    refine ⟨UInt8.ofNat (n / 65536) :: UInt8.ofNat (n / 256) :: UInt8.ofNat n :: behind,
      by simp, fun written => ?_⟩
    rw [encodeOnto_group hc hd he hf, hwritten]
    simp
  | case5 read c d e f rest _ _ hnone =>
    simp only [decodeOnto?] at h
    cases h
  | case6 cs read hnil htwo hthree hgroup =>
    simp only [decodeOnto?] at h
    cases h

/-- **Base64 is canonical.** -/
theorem encode_of_decode? {text : String} {bytes : Bytes} (h : decode? a text = some bytes) :
    encode a bytes = text := by
  obtain ⟨behind, rfl, hwritten⟩ := encodeOnto_of_decodeOnto? h
  rw [encode, hwritten, List.append_nil, List.reverse_reverse, String.ofList_toList]

/-! ## Reading what was written -/

theorem digit?_digit {n : Nat} (h : n < 64) : digit? a (digit a n) = some n := by
  have hall : ∀ n : Fin 64, digit? a (digit a n) = some n.val := by cases a <;> decide
  exact hall ⟨n, h⟩

/-- The padding character stands for no bits. -/
theorem digit_ne_padding {n : Nat} (h : n < 64) : digit a n ≠ '=' := by
  have hnone : digit? a '=' = none := by cases a <;> decide
  intro heq
  rw [← heq, digit?_digit h] at hnone
  cases hnone

theorem decodeOnto?_group (read : Bytes) {p q r s : Nat} (hp : p < 64) (hq : q < 64) (hr : r < 64)
    (hs : s < 64) (rest : List Char) :
    let n := 262144 * p + 4096 * q + 64 * r + s
    decodeOnto? a read (digit a p :: digit a q :: digit a r :: digit a s :: rest) =
      decodeOnto? a
        (UInt8.ofNat n :: UInt8.ofNat (n / 256) :: UInt8.ofNat (n / 65536) :: read) rest := by
  intro n
  rw [decodeOnto?]
  · simp only [digit?_digit hp, digit?_digit hq, digit?_digit hr, digit?_digit hs]
    rfl
  · intro _ h
    exact absurd h (digit_ne_padding hs)
  · intro h
    exact absurd h (digit_ne_padding hs)

/-- Characters that were written before stay behind the others, which are last first. -/
theorem encodeOnto_eq_append : ∀ (bytes : Bytes) (written : List Char),
    encodeOnto a written bytes = encodeOnto a [] bytes ++ written
  | [], _ => rfl
  | [_], _ => rfl
  | [_, _], _ => rfl
  | x :: y :: z :: rest, written => by
    simp only [encodeOnto]
    rw [encodeOnto_eq_append rest (_ :: _), encodeOnto_eq_append rest [_, _, _, _]]
    simp

theorem decodeOnto?_encodeOnto : ∀ read bytes : Bytes,
    decodeOnto? a read (encodeOnto a [] bytes).reverse = some (read.reverse ++ bytes)
  | read, [] => by simp [encodeOnto, decodeOnto?]
  | read, [x] => by
    have hx := x.toNat_lt
    have hread : lastOne? (x.toNat / 4) (x.toNat % 4 * 16) = some x := by
      have hjoin : 64 * (x.toNat / 4) + x.toNat % 4 * 16 = 16 * x.toNat := by omega
      rw [lastOne?, hjoin, if_pos (by omega), Nat.mul_div_cancel_left _ (by decide),
        UInt8.ofNat_toNat]
    simp [encodeOnto, decodeOnto?, digit?_digit (a := a) (n := x.toNat / 4) (by omega),
      digit?_digit (a := a) (n := x.toNat % 4 * 16) (by omega), hread]
  | read, [x, y] => by
    have hx := x.toNat_lt
    have hy := y.toNat_lt
    generalize hn : 256 * x.toNat + y.toNat = n
    have hread : lastTwo? (n / 1024) (n / 16 % 64) (n % 16 * 4) = some (x, y) := by
      have hjoin : 4096 * (n / 1024) + 64 * (n / 16 % 64) + n % 16 * 4 = 4 * n := by omega
      have hfront : UInt8.ofNat (4 * n / 1024) = x := by
        rw [show 4 * n / 1024 = x.toNat by omega, UInt8.ofNat_toNat]
      have hback : UInt8.ofNat (4 * n / 4) = y := by
        rw [← UInt8.toNat_inj, UInt8.toNat_ofNat']
        omega
      rw [lastTwo?, hjoin, if_pos (by omega), hfront, hback]
    simp only [encodeOnto, hn, List.reverse_cons, List.reverse_nil, List.nil_append,
      List.cons_append]
    rw [decodeOnto?]
    · simp [digit?_digit (a := a) (n := n / 1024) (by omega),
        digit?_digit (a := a) (n := n / 16 % 64) (by omega),
        digit?_digit (a := a) (n := n % 16 * 4) (by omega), hread]
    · exact digit_ne_padding (by omega)
  | read, x :: y :: z :: rest => by
    have hx := x.toNat_lt
    have hy := y.toNat_lt
    have hz := z.toNat_lt
    generalize hn : 65536 * x.toNat + 256 * y.toNat + z.toNat = n
    have hjoin : 262144 * (n / 262144) + 4096 * (n / 4096 % 64) + 64 * (n / 64 % 64) + n % 64 =
        n := by
      omega
    have hfirst : UInt8.ofNat (n / 65536) = x := by
      rw [show n / 65536 = x.toNat by omega, UInt8.ofNat_toNat]
    have hsecond : UInt8.ofNat (n / 256) = y := by
      rw [← UInt8.toNat_inj, UInt8.toNat_ofNat']
      omega
    have hthird : UInt8.ofNat n = z := by
      rw [← UInt8.toNat_inj, UInt8.toNat_ofNat']
      omega
    simp only [encodeOnto, hn]
    rw [encodeOnto_eq_append, List.reverse_append]
    simp only [List.reverse_cons, List.reverse_nil, List.nil_append, List.cons_append]
    rw [decodeOnto?_group read (by omega) (by omega) (by omega) (by omega), hjoin, hfirst, hsecond,
      hthird, decodeOnto?_encodeOnto]
    simp

/-- **What is written for bytes is read as these bytes.** -/
theorem decode?_encode (bytes : Bytes) : decode? a (encode a bytes) = some bytes := by
  rw [decode?, encode, String.toList_ofList, decodeOnto?_encodeOnto]
  rfl

/-- The texts that stand for bytes are those that are written for them. -/
theorem decode?_eq_some_iff {text : String} {bytes : Bytes} :
    decode? a text = some bytes ↔ text = encode a bytes := by
  constructor
  · exact fun h => (encode_of_decode? h).symm
  · rintro rfl
    exact decode?_encode bytes

/-! ## Both alphabets -/

variable {b : Alphabet}

/-- The character of the standard alphabet with the same bits. -/
def toStandard (c : Char) : Char :=
  if c = Alphabet.urlSafe.last.1 then Alphabet.standard.last.1
  else if c = Alphabet.urlSafe.last.2 then Alphabet.standard.last.2
  else c

theorem toStandard_digit (n : Nat) : toStandard (digit a n) = digit .standard n := by
  rcases Nat.lt_or_ge n 64 with hn | hn
  · have hall : ∀ n : Fin 64, toStandard (digit a n) = digit .standard n := by cases a <;> decide
    exact hall ⟨n, hn⟩
  · have hdigit : ∀ b : Alphabet, digit b n = b.last.2 := by
      intro b
      rw [digit, if_neg (by omega), if_neg (by omega), if_neg (by omega), if_neg (by omega)]
    rw [hdigit, hdigit]
    cases a <;> decide

theorem toStandard_padding : toStandard '=' = '=' := by decide

/-- What is written in any alphabet is written in the standard one, character by character. -/
theorem map_encodeOnto : ∀ (bytes : Bytes) (written : List Char),
    (encodeOnto a written bytes).map toStandard =
      encodeOnto .standard (written.map toStandard) bytes
  | [], _ => rfl
  | [_], _ => by simp only [encodeOnto, List.map_cons, toStandard_digit, toStandard_padding]
  | [_, _], _ => by simp only [encodeOnto, List.map_cons, toStandard_digit, toStandard_padding]
  | _ :: _ :: _ :: rest, _ => by
    simp only [encodeOnto, map_encodeOnto rest, List.map_cons, toStandard_digit]

/-- No two byte strings have a text in common. -/
theorem encode_inj {x y : Bytes} (h : encode a x = encode b y) : x = y := by
  have hchars : encodeOnto a [] x = encodeOnto b [] y := by
    rw [encode, encode, String.ofList_inj] at h
    exact List.reverse_inj.1 h
  have hstandard : encode .standard x = encode .standard y := by
    have hmapped := congrArg (List.map toStandard) hchars
    rw [map_encodeOnto, map_encodeOnto] at hmapped
    exact congrArg (fun cs => String.ofList cs.reverse) hmapped
  have hx := decode?_encode (a := .standard) x
  rw [hstandard, decode?_encode] at hx
  exact (Option.some.inj hx).symm

/-- No text is read differently in two alphabets. -/
theorem decode?_agree {text : String} {x y : Bytes} (h : decode? a text = some x)
    (h' : decode? b text = some y) : x = y :=
  encode_inj ((encode_of_decode? h).trans (encode_of_decode? h').symm)

/-! ## Characters of a text -/

/-- What is written are digits, and padding only behind bytes that leave room in the last group. -/
theorem mem_encodeOnto {c : Char} : ∀ {bytes : Bytes} {written : List Char},
    c ∈ encodeOnto a written bytes →
      c ∈ written ∨ (∃ n < 64, c = digit a n) ∨ c = '=' ∧ bytes.length % 3 ≠ 0
  | [], written, h => .inl h
  | [x], written, h => by
    have hx := x.toNat_lt
    simp only [encodeOnto, List.mem_cons] at h
    rcases h with rfl | rfl | rfl | rfl | h
    · exact .inr (.inr ⟨rfl, by simp⟩)
    · exact .inr (.inr ⟨rfl, by simp⟩)
    · exact .inr (.inl ⟨_, by omega, rfl⟩)
    · exact .inr (.inl ⟨_, by omega, rfl⟩)
    · exact .inl h
  | [x, y], written, h => by
    have hx := x.toNat_lt
    have hy := y.toNat_lt
    simp only [encodeOnto, List.mem_cons] at h
    rcases h with rfl | rfl | rfl | rfl | h
    · exact .inr (.inr ⟨rfl, by simp⟩)
    · exact .inr (.inl ⟨_, by omega, rfl⟩)
    · exact .inr (.inl ⟨_, by omega, rfl⟩)
    · exact .inr (.inl ⟨_, by omega, rfl⟩)
    · exact .inl h
  | x :: y :: z :: rest, written, h => by
    have hx := x.toNat_lt
    have hy := y.toNat_lt
    have hz := z.toNat_lt
    have hlength : (x :: y :: z :: rest).length % 3 = rest.length % 3 := by
      simp only [List.length_cons]
      omega
    rw [encodeOnto] at h
    rw [hlength]
    rcases mem_encodeOnto h with hbefore | hbehind
    · simp only [List.mem_cons] at hbefore
      rcases hbefore with rfl | rfl | rfl | rfl | hbefore
      · exact .inr (.inl ⟨_, by omega, rfl⟩)
      · exact .inr (.inl ⟨_, by omega, rfl⟩)
      · exact .inr (.inl ⟨_, by omega, rfl⟩)
      · exact .inr (.inl ⟨_, by omega, rfl⟩)
      · exact .inl hbefore
    · exact .inr hbehind

theorem mem_encode {c : Char} {bytes : Bytes} (h : c ∈ (encode a bytes).toList) :
    (∃ n < 64, c = digit a n) ∨ c = '=' ∧ bytes.length % 3 ≠ 0 := by
  rw [encode, String.toList_ofList, List.mem_reverse] at h
  exact (mem_encodeOnto h).resolve_left List.not_mem_nil

/-- The last two characters of another alphabet are not written. -/
theorem last_not_mem_encode {c : Char} {bytes : Bytes} (hne : a ≠ b)
    (hlast : c = b.last.1 ∨ c = b.last.2) : c ∉ (encode a bytes).toList := by
  have hdigit : ∀ n : Fin 64, digit a n ≠ b.last.1 ∧ digit a n ≠ b.last.2 := by
    cases a <;> cases b <;> first | exact absurd rfl hne | decide +kernel
  have hpadding : '=' ≠ b.last.1 ∧ '=' ≠ b.last.2 := by cases b <;> decide
  intro h
  rcases mem_encode h with ⟨n, hn, rfl⟩ | ⟨rfl, -⟩
  · exact hlast.elim (hdigit ⟨n, hn⟩).1 (hdigit ⟨n, hn⟩).2
  · exact hlast.elim hpadding.1 hpadding.2

/-- Whether a character may stand in a URL as it is: a letter, a digit, a hyphen or an
underscore. -/
def isUrlChar (c : Char) : Bool := c.isAlphanum || c == '-' || c == '_'

/-- Groups that are full are written for URLs without an escape. -/
theorem isUrlChar_of_mem_encode {c : Char} {bytes : Bytes} (hfull : bytes.length % 3 = 0)
    (h : c ∈ (encode .urlSafe bytes).toList) : isUrlChar c = true := by
  have hdigit : ∀ n : Fin 64, isUrlChar (digit .urlSafe n) = true := by decide +kernel
  rcases mem_encode h with ⟨n, hn, rfl⟩ | ⟨-, hrest⟩
  · exact hdigit ⟨n, hn⟩
  · exact absurd hfull hrest

end Base64

end SealedReceipts
