import SealedReceipts.Json.Decode
import SealedReceipts.Json.Value
import SealedReceipts.Proofs.Bytes

/-!
# Objects of texts are read as they are written

Bodies that are exchanged are objects whose values are texts. Whatever the names and the texts are,
the document of the written object has the same names and texts in the same order, and nothing
behind it: a character is written as itself or as an escape, and the machine that cuts a text into
tokens takes either for the character.
-/

namespace SealedReceipts

namespace Json

/-! ## Characters and texts -/

/-- The piece of a quoted text that a written character is read as. Controls without an escape of
their own are named by their number. -/
def Piece.ofChar (c : Char) : Piece :=
  if c.toNat < 0x20 ∧ c ∉ ['\x08', '\x0c', '\n', '\r', '\t'] then .unit c.toNat else .char c

theorem hexValue?_digitChar {n : Nat} (h : n < 16) :
    Bytes.hexValue? (Nat.digitChar n) = some n := by
  have hall : ∀ n : Fin 16, Bytes.hexValue? (Nat.digitChar n) = some n.val := by decide
  exact hall ⟨n, h⟩

/-- A written character is read as one piece. -/
theorem scan_escape (c : Char) (read : List Piece) (done : List Token)
    (rest : List (Option Char)) :
    scan (.text read) done ((Value.escape c).map some ++ rest) =
      scan (.text (.ofChar c :: read)) done rest := by
  by_cases hshort : c ∈ ['"', '\\', '\x08', '\x0c', '\n', '\r', '\t']
  · simp only [List.mem_cons, List.not_mem_nil, or_false] at hshort
    rcases hshort with rfl | rfl | rfl | rfl | rfl | rfl | rfl <;> rfl
  · simp only [List.mem_cons, List.not_mem_nil, or_false, not_or] at hshort
    obtain ⟨hquote, hbackslash, hb, hf, hn, hr, ht⟩ := hshort
    simp only [Value.escape, hquote, hbackslash, hb, hf, hn, hr, ht, if_false, Piece.ofChar,
      List.mem_cons, List.not_mem_nil, or_false, not_false_eq_true, and_true]
    by_cases hcontrol : c.toNat < 0x20
    · have hhigh := hexValue?_digitChar (n := c.toNat / 16) (by omega)
      have hlow := hexValue?_digitChar (n := c.toNat % 16) (by omega)
      have hzero : Bytes.hexValue? '0' = some 0 := by decide
      have hvalue : 16 * (c.toNat / 16) + c.toNat % 16 = c.toNat := by omega
      simp [hcontrol, scan, step, hhigh, hlow, hzero, hvalue]
    · simp [hcontrol, hquote, hbackslash, scan, step]

theorem scan_escapes (text : List Char) (read : List Piece) (done : List Token)
    (rest : List (Option Char)) :
    scan (.text read) done ((text.flatMap Value.escape).map some ++ rest) =
      scan (.text ((text.map Piece.ofChar).reverse ++ read)) done rest := by
  induction text generalizing read with
  | nil => rfl
  | cons c text ih =>
    rw [List.flatMap_cons, List.map_append, List.append_assoc, scan_escape, ih]
    simp

/-- Pieces of written characters, last first, have these characters. -/
theorem joinOnto_ofChar (reversed behind : List Char) :
    joinOnto behind (reversed.map Piece.ofChar) = some (reversed.reverse ++ behind) := by
  induction reversed generalizing behind with
  | nil => rfl
  | cons c reversed ih =>
    rw [List.map_cons, List.reverse_cons, List.append_assoc, Piece.ofChar]
    split
    · next hcontrol =>
      -- a control is no half of a surrogate pair
      have hlow : isLowSurrogate c.toNat = false := by
        simp [isLowSurrogate]
        omega
      have hhigh : isHighSurrogate c.toNat = false := by
        simp [isHighSurrogate]
        omega
      rw [joinOnto.eq_def]
      simp only [hlow, hhigh, Bool.false_eq_true, if_false, Char.ofNat_toNat, ih]
      rfl
    · rw [joinOnto, ih]
      rfl

theorem textToken_ofChar (text : List Char) :
    textToken (text.map Piece.ofChar).reverse = .text (some (String.ofList text)) := by
  rw [textToken, ← List.map_reverse, joinOnto_ofChar, List.reverse_reverse, List.append_nil]
  rfl

/-- **A quoted text is one token**, that of the text. -/
theorem scan_quote (s : String) (done : List Token) (rest : List (Option Char)) :
    scan .between done ((Value.quote s).map some ++ rest) =
      scan .between (.text (some s) :: done) rest := by
  have hopen : scan .between done ((Value.quote s).map some ++ rest) =
      scan (.text []) done ((s.toList.flatMap Value.escape).map some ++ some '"' :: rest) := by
    simp [Value.quote, scan, step, start, isSpace]
  rw [hopen, scan_escapes, List.append_nil, scan, step, if_pos rfl, textToken_ofChar,
    String.ofList_toList]
  rfl

/-! ## Members -/

/-- An object whose values are texts. -/
def Value.ofTexts (members : List (String × String)) : Value :=
  .object (members.map fun (name, t) => (name, .text t))

/-- The tokens between the braces of such an object. -/
def memberTokens : List (String × String) → List Token
  | [] => []
  | [(name, t)] => [.text (some name), .colon, .text (some t)]
  | (name, t) :: rest =>
    .text (some name) :: .colon :: .text (some t) :: .comma :: memberTokens rest

theorem scan_member (name t : String) (done : List Token) (rest : List (Option Char)) :
    scan .between done ((Value.quote name).map some ++
        some ':' :: ((Value.quote t).map some ++ rest)) =
      scan .between (.text (some t) :: .colon :: .text (some name) :: done) rest := by
  rw [scan_quote]
  show scan .between (.colon :: .text (some name) :: done) ((Value.quote t).map some ++ rest) = _
  rw [scan_quote]

theorem scan_members (members : List (String × String)) (done : List Token)
    (rest : List (Option Char)) :
    scan .between done
        ((Value.memberChars (members.map fun (name, t) => (name, .text t))).map some ++ rest) =
      scan .between ((memberTokens members).reverse ++ done) rest := by
  induction members generalizing done with
  | nil => rfl
  | cons member members ih =>
    obtain ⟨name, t⟩ := member
    cases members with
    | nil =>
      simp only [List.map_cons, List.map_nil, List.map_append, Value.memberChars, Value.chars,
        List.append_assoc, List.cons_append, scan_member, memberTokens]
      rfl
    | cons next members =>
      simp only [List.map_cons, List.map_append, Value.memberChars, Value.chars,
        List.append_assoc, List.cons_append, scan_member, memberTokens] at ih ⊢
      rw [scan, step]
      show scan .between (.comma :: _) _ = _
      rw [ih]
      simp

/-- The tokens of a written object of texts. -/
theorem tokens_ofTexts (members : List (String × String)) :
    tokens (Bytes.ofText (Value.ofTexts members).render) =
      .beginObject :: (memberTokens members ++ [.endObject]) := by
  rw [tokens, Bytes.chars_ofText, Value.render, String.toList_ofList, Value.ofTexts, Value.chars,
    List.map_append]
  show scan .between [.beginObject] (_ ++ [some '\x7d']) = _
  rw [scan_members]
  simp [scan, step, start, isSpace, finish]

/-! ## Documents -/

theorem build_members (member : String × String) (members : List (String × String))
    (done : List (Option String × Json)) (name : Option String) :
    build .name [.object done name] (memberTokens (member :: members) ++ [.endObject]) =
      ⟨.object (done.reverse ++
        (member :: members).map fun m => (some m.1, .text (some m.2))), true⟩ := by
  induction members generalizing member done name with
  | nil => simp [memberTokens, build, take, takeName, takeValue, takeEnd, place]
  | cons next members ih =>
    simp [memberTokens, build, take, takeName, takeValue, takeComma, place, ih]

/-- A body is one object and nothing else, whose members have these names and texts in this
order. -/
def HasTexts (body : String) (members : List (String × String)) : Prop :=
  document (Bytes.ofText body) =
    ⟨.object (members.map fun m => (some m.1, .text (some m.2))), true⟩

/-- **An object of texts is read as it is written.** -/
theorem hasTexts_ofTexts (members : List (String × String)) :
    HasTexts (Value.ofTexts members).render members := by
  rw [HasTexts, document, tokens_ofTexts]
  cases members with
  | nil => rfl
  | cons member members =>
    have hname : build .nameOrEnd [.object [] none]
        (memberTokens (member :: members) ++ [.endObject]) =
        build .name [.object [] none] (memberTokens (member :: members) ++ [.endObject]) := by
      cases members <;> simp [memberTokens, build, take]
    show build .nameOrEnd [.object [] none] _ = _
    rw [hname, build_members]
    rfl

end Json

end SealedReceipts
