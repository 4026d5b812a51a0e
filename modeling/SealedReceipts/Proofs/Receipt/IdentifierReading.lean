import SealedReceipts.Proofs.Calendar.Counting
import SealedReceipts.Proofs.Receipt.Refusals

/-!
# Reading identifiers

Each of the four readers accepts exactly the texts that spell a number, and says what is wrong with
every other (`Identifier.read_exactly_as_spelled`). The date of a transaction id is eight digits, so
it makes no difference whether the text behind `TX` is cut behind its eighth character or behind its
eighth byte; where a character lies across that byte, no cut is made and the text is refused.
-/

namespace SealedReceipts

open Receipt (checkPattern checkTransactionId)

namespace Identifier

/-! ## Cutting by bytes -/

/-- The text in front of a byte and the text behind it, unless the text ends before the byte or a
character lies across it. -/
def cutAt? : Nat → List Char → Option (List Char × List Char)
  | 0, text => some ([], text)
  | _ + 1, [] => none
  | n + 1, c :: text =>
    if c.utf8Size ≤ n + 1 then
      (cutAt? (n + 1 - c.utf8Size) text).map fun (front, behind) => (c :: front, behind)
    else none

/-- The UTF-8 bytes of characters. -/
def byteLength (text : List Char) : Nat := (text.map Char.utf8Size).sum

theorem byteLength_cons (c : Char) (text : List Char) :
    byteLength (c :: text) = c.utf8Size + byteLength text := rfl

theorem byteLength_eq_zero {text : List Char} : byteLength text = 0 ↔ text = [] := by
  cases text with
  | nil => exact iff_of_true rfl rfl
  | cons c text =>
    have hpos := c.utf8Size_pos
    rw [byteLength_cons]
    simp only [reduceCtorEq, iff_false]
    omega

theorem cutAt?_eq_some_iff {n : Nat} {text front behind : List Char} :
    cutAt? n text = some (front, behind) ↔ text = front ++ behind ∧ byteLength front = n := by
  induction n, text using cutAt?.induct generalizing front with
  | case1 text =>
    rw [cutAt?, byteLength_eq_zero, Option.some.injEq, Prod.mk.injEq]
    constructor
    · rintro ⟨rfl, rfl⟩
      exact ⟨rfl, rfl⟩
    · rintro ⟨rfl, rfl⟩
      exact ⟨rfl, rfl⟩
  | case2 n =>
    simp only [cutAt?, reduceCtorEq, false_iff]
    rintro ⟨htext, hlength⟩
    obtain ⟨rfl, -⟩ := List.append_eq_nil_iff.1 htext.symm
    cases hlength
  | case3 n c text hfits ih =>
    rw [cutAt?, if_pos hfits, Option.map_eq_some_iff]
    constructor
    · rintro ⟨⟨front', behind'⟩, hcut, heq⟩
      obtain ⟨rfl, rfl⟩ := Prod.mk.inj heq
      obtain ⟨rfl, hlength⟩ := ih.1 hcut
      exact ⟨rfl, by rw [byteLength_cons]; omega⟩
    · rintro ⟨htext, hlength⟩
      cases front with
      | nil => cases hlength
      | cons d front =>
        obtain ⟨rfl, rfl⟩ := List.cons.inj htext
        rw [byteLength_cons] at hlength
        exact ⟨(front, behind), ih.2 ⟨rfl, by omega⟩, rfl⟩
  | case4 n c text hlarge =>
    simp only [cutAt?, if_neg hlarge, reduceCtorEq, false_iff]
    rintro ⟨htext, hlength⟩
    cases front with
    | nil => cases hlength
    | cons d front =>
      obtain ⟨rfl, rfl⟩ := List.cons.inj htext
      rw [byteLength_cons] at hlength
      omega

theorem byteLength_of_isDigit {text : List Char} (h : ∀ c ∈ text, c.isDigit) :
    byteLength text = text.length := by
  induction text with
  | nil => rfl
  | cons c text ih =>
    obtain ⟨hc, htext⟩ := List.forall_mem_cons.1 h
    have hsize : c.utf8Size = 1 := by
      simp only [Char.isDigit, Bool.and_eq_true, decide_eq_true_eq, UInt32.le_iff_toNat_le] at hc
      rw [Char.utf8Size_eq_one_iff, UInt32.le_iff_toNat_le]
      exact hc.2.trans (by decide)
    rw [byteLength_cons, ih htext, hsize, List.length_cons, Nat.add_comm]

/-- The date and the sequence number of a text of the form of a transaction id, the date cut off
behind its eighth byte. -/
def transactionPartsByBytes? (text : String) : Option (List Char × UInt32) := do
  let rest ← after? ['T', 'X'] text.toList
  let (date, digits) ← cutAt? dateLength rest
  let values ← Digits.values? date
  if (Date.ofDigits values).IsValid then
    let n ← number? digits
    some (date, n)
  else none

/-- Cut by bytes or by characters, a text has the same parts. -/
theorem transactionPartsByBytes?_eq (text : String) :
    transactionPartsByBytes? text = transactionParts? text := by
  refine Option.ext fun parts => ?_
  obtain ⟨date, n⟩ := parts
  rw [transactionParts?_eq_some_iff]
  simp only [transactionPartsByBytes?, Option.bind_eq_bind, Option.bind_eq_some_iff,
    after?_eq_some_iff, Digits.values?_eq_some_iff, Prod.exists, cutAt?_eq_some_iff]
  constructor
  · rintro ⟨rest, htext, date', digits, ⟨rfl, hbytes⟩, values, ⟨hdigits, rfl⟩, hparts⟩
    split at hparts
    · next hvalid =>
      simp only [Option.bind_eq_some_iff, number?_eq_some_iff, Option.some.injEq,
        Prod.mk.injEq] at hparts
      obtain ⟨m, hnumber, rfl, rfl⟩ := hparts
      rw [byteLength_of_isDigit hdigits] at hbytes
      exact ⟨_, digits, htext, Date.writes_ofDigits hbytes hdigits hvalid, hnumber⟩
    · cases hparts
  · rintro ⟨day, digits, htext, hdate, hnumber⟩
    refine ⟨date ++ digits, htext, date, digits, ⟨rfl, ?_⟩, Digits.valuesOf date,
      ⟨hdate.isDigit, rfl⟩, ?_⟩
    · rw [byteLength_of_isDigit hdate.isDigit]
      exact hdate.length_eq
    · rw [hdate.ofDigits_eq, if_pos hdate.isValid, number?_eq_some_iff.2 hnumber]
      rfl

/-! ## The characters of identifiers -/

theorem isAlphanum_of_isDigit {c : Char} (h : c.isDigit) : c.isAlphanum := by
  simp [Char.isAlphanum, h]

theorem Spells.isAlphanum {start : List Char} {text : String} {n : UInt32}
    (h : Spells start text n) (hstart : ∀ c ∈ start, c.isAlphanum) :
    ∀ c ∈ text.toList, c.isAlphanum := by
  obtain ⟨digits, htext, hdigits⟩ := h
  rw [htext]
  intro c hc
  rcases List.mem_append.1 hc with hc | hc
  · exact hstart c hc
  · exact isAlphanum_of_isDigit (hdigits.isDigit c hc)

theorem SpellsTransaction.isAlphanum {text : String} {day : Date} {n : UInt32}
    (h : SpellsTransaction text day n) : ∀ c ∈ text.toList, c.isAlphanum := by
  obtain ⟨date, digits, htext, hdate, hdigits⟩ := h
  rw [htext]
  intro c hc
  rcases List.mem_append.1 hc with hc | hc
  · rcases List.mem_pair.1 hc with rfl | rfl <;> decide
  · rcases List.mem_append.1 hc with hc | hc
    · exact isAlphanum_of_isDigit (hdate.isDigit c hc)
    · exact isAlphanum_of_isDigit (hdigits.isDigit c hc)

/-! ## What is read and what is refused -/

/-- The text is read as the number that it spells behind `start`, and is refused by the pattern of
its field if it spells none. -/
structure ReadAsSpelled (start : List Char) (field : Field) (read : String → Option UInt32)
    (text : String) : Prop where
  ok_iff : ∀ n, checkPattern field text read = .ok n ↔ Spells start text n
  error_iff : ∀ error, checkPattern field text read = .error error ↔
    (¬ ∃ n, Spells start text n) ∧ error = .invalidPattern field text

/-- The text is read as the number that it spells under the date of the moment. If it spells a
number under another date it is refused for that, and if it spells none by its pattern. -/
structure TransactionReadAsSpelled (text : String) (t : Timestamp) : Prop where
  ok_iff : ∀ n, checkTransactionId text t = .ok n ↔ SpellsTransaction text t.date n
  error_iff : ∀ error, checkTransactionId text t = .error error ↔
    (∃ day n, SpellsTransaction text day n ∧ day ≠ t.date ∧
      error = .transactionDateMismatch text t.date.compact) ∨
    (¬ ∃ day n, SpellsTransaction text day n) ∧ error = .invalidPattern .transactionId text

theorem readAsSpelled {start : List Char} {field : Field} {read : String → Option UInt32}
    {text : String} (hread : ∀ n, read text = some n ↔ Spells start text n) :
    ReadAsSpelled start field read text where
  ok_iff n := Receipt.checkPattern_eq_ok.trans (hread n)
  error_iff error := by
    rw [(Receipt.checkPattern_ruled hread).eq_error_iff]
    constructor
    · intro h
      cases h with
      | here hfails => exact ⟨hfails, rfl⟩
      | behind _ hrest => cases hrest
    · rintro ⟨hfails, rfl⟩
      exact .here hfails

theorem transactionReadAsSpelled (text : String) (t : Timestamp) :
    TransactionReadAsSpelled text t where
  ok_iff n := Receipt.checkTransactionId_eq_ok.trans transactionId?_eq_ok_iff
  error_iff error := by
    rw [(Receipt.checkTransactionId_ruled text t).eq_error_iff]
    constructor
    · intro h
      cases h with
      | here hform => exact .inr ⟨hform, rfl⟩
      | behind hform hrest =>
        cases hrest with
        | here hdate =>
          obtain ⟨day, n, hspells⟩ := hform
          exact .inl ⟨day, n, hspells, fun hday => hdate ⟨n, hday ▸ hspells⟩, rfl⟩
        | behind _ hrest => cases hrest
    · rintro (⟨day, n, hspells, hday, rfl⟩ | ⟨hform, rfl⟩)
      · exact .behind ⟨day, n, hspells⟩ (.here fun ⟨m, hother⟩ => hday (hspells.unique hother).1)
      · exact .here hform

/-- **Identifiers are read exactly as they are spelled.** For every text and every moment:

* report number, serial and registration id are read as the number that the text spells behind `Z`,
  `F` or nothing, in one ASCII digit or more, and refused by their pattern if it spells none of 32
  bits;
* a transaction id is read as the number that it spells behind `TX` and the eight digits of the
  moment's date; it is refused for its date if these digits write another day of the calendar and
  all else is in order, and else by its pattern;
* the date of a moment is that of the calendar counted on from the first of January 1970;
* the text behind `TX` has the same parts if it is cut by bytes, and is refused by its pattern if
  there is no cut behind the eighth byte;
* a text with a character that is no ASCII letter or digit is refused by every reader. -/
theorem read_exactly_as_spelled (text : String) (t : Timestamp) :
    (ReadAsSpelled ['Z'] .reportNumber reportNumber? text ∧
      ReadAsSpelled ['F'] .serial serial? text ∧
      ReadAsSpelled [] .registrationId registrationId? text) ∧
    TransactionReadAsSpelled text t ∧
    ((0 ≤ t.seconds → t.seconds < 86400 → t.date = { year := 1970, month := 1, day := 1 }) ∧
      Timestamp.date { t with seconds := t.seconds + 86400 } = t.date.next) ∧
    (transactionPartsByBytes? text = transactionParts? text ∧
      ∀ rest, text.toList = ['T', 'X'] ++ rest → cutAt? 8 rest = none →
        checkTransactionId text t = .error (.invalidPattern .transactionId text)) ∧
    ((∃ c ∈ text.toList, c.isAlphanum = false) →
      checkPattern .reportNumber text reportNumber? = .error (.invalidPattern .reportNumber text) ∧
      checkPattern .serial text serial? = .error (.invalidPattern .serial text) ∧
      checkPattern .registrationId text registrationId? =
        .error (.invalidPattern .registrationId text) ∧
      checkTransactionId text t = .error (.invalidPattern .transactionId text)) := by
  have hreport : ReadAsSpelled ['Z'] .reportNumber reportNumber? text :=
    readAsSpelled fun n => reportNumber?_eq_some_iff
  have hserial : ReadAsSpelled ['F'] .serial serial? text :=
    readAsSpelled fun n => serial?_eq_some_iff
  have hregistration : ReadAsSpelled [] .registrationId registrationId? text :=
    readAsSpelled fun n => registrationId?_eq_some_iff
  have htransaction := transactionReadAsSpelled text t
  refine ⟨⟨hreport, hserial, hregistration⟩, htransaction,
    ⟨Timestamp.date_of_first_day, t.date_add_day⟩,
    ⟨transactionPartsByBytes?_eq text, fun rest htext hcut => ?cut⟩, fun ⟨c, hc, hforeign⟩ => ?foreign⟩
  case cut =>
    refine (htransaction.error_iff _).2 (.inr ⟨?_, rfl⟩)
    rintro ⟨day, n, date, digits, hspelled, hdate, -⟩
    have hparts : cutAt? 8 rest = some (date, digits) := by
      refine cutAt?_eq_some_iff.2 ⟨List.append_cancel_left (htext.symm.trans hspelled), ?_⟩
      rw [byteLength_of_isDigit hdate.isDigit, hdate.length_eq]
    cases hcut.symm.trans hparts
  case foreign =>
    have hspells : ∀ start, (∀ c ∈ start, c.isAlphanum) → ¬ ∃ n, Spells start text n := by
      rintro start hstart ⟨n, h⟩
      cases hforeign.symm.trans (h.isAlphanum hstart c hc)
    have hz : ¬ ∃ n, Spells ['Z'] text n := hspells ['Z'] (List.forall_mem_singleton.2 rfl)
    have hf : ¬ ∃ n, Spells ['F'] text n := hspells ['F'] (List.forall_mem_singleton.2 rfl)
    have hbare : ¬ ∃ n, Spells [] text n := hspells [] (List.forall_mem_nil _)
    refine ⟨(hreport.error_iff _).2 ⟨hz, rfl⟩, (hserial.error_iff _).2 ⟨hf, rfl⟩,
      (hregistration.error_iff _).2 ⟨hbare, rfl⟩, (htransaction.error_iff _).2 (.inr ⟨?_, rfl⟩)⟩
    rintro ⟨day, n, h⟩
    cases hforeign.symm.trans (h.isAlphanum c hc)

/-- A letter of two bytes lies across the eighth byte of the date, and nothing is cut. -/
theorem read_exactly_as_spelled_acrossByte :
    cutAt? 8 "2025011é0001".toList = none ∧
    checkTransactionId "TX2025011é0001" ⟨1736933400, 0⟩ =
      .error (.invalidPattern .transactionId "TX2025011é0001") ∧
    checkPattern .registrationId "TX2025011é0001" registrationId? =
      .error (.invalidPattern .registrationId "TX2025011é0001") := by
  have hcut : cutAt? 8 "2025011é0001".toList = none := by decide
  obtain ⟨-, -, -, ⟨-, hacross⟩, hforeign⟩ :=
    read_exactly_as_spelled "TX2025011é0001" ⟨1736933400, 0⟩
  exact ⟨hcut, hacross _ (by decide) hcut, (hforeign ⟨'é', by decide, by decide⟩).2.2.1⟩

end Identifier

end SealedReceipts
