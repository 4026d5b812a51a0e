import SealedReceipts.Proofs.Receipt.Identifier

/-!
# The texts that are identifiers

Which texts are read as identifiers, said without the reader: a start, and digits that write a
number of 32 bits; in a transaction id eight digits that write a day come between the two. A
transaction id of this form is refused at a moment exactly if it writes another day than that of the
moment (`Identifier.transactionId?_eq_date_iff`).
-/

namespace SealedReceipts

namespace Identifier

open Digits (padded)

/-- The text is `start` and digits that write the number. -/
def Spells (start : List Char) (text : String) (n : UInt32) : Prop :=
  ∃ digits, text.toList = start ++ digits ∧ Digits.Writes digits n.toNat

/-- The text is `TX`, eight digits that write the day, and digits that write the number. -/
def SpellsTransaction (text : String) (day : Date) (n : UInt32) : Prop :=
  ∃ date digits, text.toList = ['T', 'X'] ++ (date ++ digits) ∧ Date.Writes date day ∧
    Digits.Writes digits n.toNat

theorem number?_eq_some_iff {text : List Char} {n : UInt32} :
    number? text = some n ↔ Digits.Writes text n.toNat := by
  simp only [number?, Option.bind_eq_some_iff, Digits.number?_eq_some_iff]
  constructor
  · rintro ⟨m, hwrites, hread⟩
    split at hread
    · next hlt =>
      obtain rfl := Option.some.inj hread
      rwa [UInt32.toNat_ofNat', Nat.mod_eq_of_lt hlt]
    · cases hread
  · intro hwrites
    refine ⟨_, hwrites, ?_⟩
    rw [if_pos n.toNat_lt, UInt32.ofNat_toNat]

theorem after?_eq_some_iff {start text rest : List Char} :
    after? start text = some rest ↔ text = start ++ rest := by
  constructor
  · intro h
    unfold after? at h
    split at h
    · next hstart =>
      obtain ⟨behind, rfl⟩ := List.isPrefixOf_iff_prefix.1 hstart
      rw [List.drop_left, Option.some.injEq] at h
      rw [h]
    · cases h
  · rintro rfl
    exact after?_append start rest

/-- What is read behind a start. -/
theorem after?_number?_eq_some_iff {start : List Char} {text : String} {n : UInt32} :
    (after? start text.toList >>= number?) = some n ↔ Spells start text n := by
  simp only [Option.bind_eq_bind, Option.bind_eq_some_iff, after?_eq_some_iff, number?_eq_some_iff,
    Spells]

theorem reportNumber?_eq_some_iff {text : String} {n : UInt32} :
    reportNumber? text = some n ↔ Spells ['Z'] text n :=
  after?_number?_eq_some_iff

theorem serial?_eq_some_iff {text : String} {n : UInt32} :
    serial? text = some n ↔ Spells ['F'] text n :=
  after?_number?_eq_some_iff

theorem registrationId?_eq_some_iff {text : String} {n : UInt32} :
    registrationId? text = some n ↔ Spells [] text n := by
  simp only [registrationId?, number?_eq_some_iff, Spells, List.nil_append, exists_eq_left']

/-- Behind a start a text spells one number. -/
theorem Spells.unique {start : List Char} {text : String} {n m : UInt32}
    (h : Spells start text n) (h' : Spells start text m) : n = m :=
  Option.some.inj ((after?_number?_eq_some_iff.2 h).symm.trans (after?_number?_eq_some_iff.2 h'))

/-- Whatever its date is written as, the digits behind it write the number. -/
theorem spells_transactionId (t : Timestamp) (n : UInt32) :
    Spells (['T', 'X'] ++ t.date.compact.toList) (transactionId t n) n := by
  refine ⟨(padded 4 n.toNat).toList, ?_, Digits.writes_padded 4 n.toNat⟩
  rw [transactionId, String.toList_append, String.toList_append]
  rfl

/-! ## Written forms determine their numbers -/

section Written

variable {n m : UInt32}

theorem reportNumber_inj : reportNumber n = reportNumber m ↔ n = m := by
  refine ⟨fun h => Option.some.inj ?_, congrArg reportNumber⟩
  rw [← reportNumber?_reportNumber, h, reportNumber?_reportNumber]

theorem registrationId_inj : registrationId n = registrationId m ↔ n = m := by
  refine ⟨fun h => Option.some.inj ?_, congrArg registrationId⟩
  rw [← registrationId?_registrationId, h, registrationId?_registrationId]

theorem serial_inj : serial n = serial m ↔ n = m := by
  refine ⟨fun h => Option.some.inj ?_, congrArg serial⟩
  rw [← serial?_serial, h, serial?_serial]

/-- At one moment, whatever its year, transaction ids differ in their numbers. -/
theorem transactionId_inj_right {t : Timestamp} :
    transactionId t n = transactionId t m ↔ n = m := by
  refine ⟨fun h => Option.some.inj ?_, congrArg (transactionId t)⟩
  have hrest := after?_transactionId t n
  rw [h, after?_transactionId, Option.some.injEq] at hrest
  rw [← number?_padded 4 n, ← List.append_cancel_left hrest, number?_padded]

end Written

/-! ## Transaction ids -/

theorem transactionParts?_eq_some_iff {text : String} {date : List Char} {n : UInt32} :
    transactionParts? text = some (date, n) ↔
      ∃ day digits, text.toList = ['T', 'X'] ++ (date ++ digits) ∧ Date.Writes date day ∧
        Digits.Writes digits n.toNat := by
  simp only [transactionParts?, Option.bind_eq_bind, Option.bind_eq_some_iff, after?_eq_some_iff,
    Digits.values?_eq_some_iff]
  constructor
  · rintro ⟨rest, htext, values, ⟨hdigits, rfl⟩, hparts⟩
    split at hparts
    · next hform =>
      simp only [Option.bind_eq_some_iff, number?_eq_some_iff, Option.some.injEq,
        Prod.mk.injEq] at hparts
      obtain ⟨m, hnumber, rfl, rfl⟩ := hparts
      refine ⟨_, rest.drop dateLength, ?_, Date.writes_ofDigits hform.1 hdigits hform.2, hnumber⟩
      rw [htext, List.take_append_drop]
    · cases hparts
  · rintro ⟨day, digits, htext, hdate, hnumber⟩
    have hlength : date.length = dateLength := hdate.length_eq
    refine ⟨date ++ digits, htext, Digits.valuesOf date, ?_, ?_⟩
    · rw [List.take_left' hlength]
      exact ⟨hdate.isDigit, rfl⟩
    · rw [List.take_left' hlength, List.drop_left' hlength, hdate.ofDigits_eq,
        if_pos ⟨hlength, hdate.isValid⟩, number?_eq_some_iff.2 hnumber]
      rfl

/-- A text that writes a day is the written form of a moment's date exactly if the day is that of
the moment. -/
theorem ofList_eq_compact_iff {date : List Char} {day : Date} (h : Date.Writes date day)
    (t : Timestamp) : String.ofList date = t.date.compact ↔ day = t.date := by
  constructor
  · intro heq
    have htext : t.date.compact.toList = date := by rw [← heq, String.toList_ofList]
    have hyear : 0 ≤ t.date.year ∧ t.date.year ≤ 9999 := by
      by_contra hsigned
      have hsign : '+' ∈ date ∨ '-' ∈ date := by
        rw [← htext]
        by_cases hneg : t.date.year < 0
        · exact .inr (by simp [Date.compact, Date.yearText, hsigned, hneg])
        · exact .inl (Date.plus_mem_compact (by omega))
      rcases hsign with hplus | hminus
      · exact absurd (h.isDigit _ hplus) (by decide)
      · exact absurd (h.isDigit _ hminus) (by decide)
    rw [← h.ofDigits_eq, ← htext, Date.ofDigits_compact hyear (Date.ofDays_isValid _)]
  · rintro rfl
    rw [← h.compact_eq, String.ofList_toList]

/-- A text spells one day. -/
theorem SpellsTransaction.unique {text : String} {day other : Date} {n m : UInt32}
    (h : SpellsTransaction text day n) (h' : SpellsTransaction text other m) :
    day = other ∧ n = m := by
  obtain ⟨date, digits, htext, hdate, hnumber⟩ := h
  obtain ⟨date', digits', htext', hdate', hnumber'⟩ := h'
  obtain ⟨rfl, rfl⟩ := List.append_inj (List.append_cancel_left (htext.symm.trans htext'))
    (hdate.length_eq.trans hdate'.length_eq.symm)
  refine ⟨hdate.ofDigits_eq.symm.trans hdate'.ofDigits_eq, ?_⟩
  exact UInt32.toNat_inj.1 (hnumber.value.symm.trans hnumber'.value)

/-- **The three answers of the reader.** -/
theorem transactionId?_eq_ok_iff {text : String} {t : Timestamp} {n : UInt32} :
    transactionId? text t = .ok n ↔ SpellsTransaction text t.date n := by
  unfold transactionId?
  cases hparts : transactionParts? text with
  | none =>
    simp only [reduceCtorEq, false_iff]
    rintro ⟨date, digits, hspells⟩
    cases hparts.symm.trans (transactionParts?_eq_some_iff.2 ⟨t.date, digits, hspells⟩)
  | some parts =>
    obtain ⟨date, m⟩ := parts
    obtain ⟨day, digits, htext, hdate, hnumber⟩ := transactionParts?_eq_some_iff.1 hparts
    have hspells : SpellsTransaction text day m := ⟨date, digits, htext, hdate, hnumber⟩
    simp only [ofList_eq_compact_iff hdate]
    constructor
    · intro h
      split at h
      · next hday =>
        obtain rfl := Except.ok.inj h
        exact hday ▸ hspells
      · cases h
    · intro h
      obtain ⟨rfl, rfl⟩ := hspells.unique h
      exact if_pos rfl

theorem transactionId?_eq_pattern_iff {text : String} {t : Timestamp} :
    transactionId? text t = .error .pattern ↔ ¬ ∃ day n, SpellsTransaction text day n := by
  unfold transactionId?
  cases hparts : transactionParts? text with
  | none =>
    simp only [true_iff]
    rintro ⟨day, n, date, digits, hspells⟩
    cases hparts.symm.trans (transactionParts?_eq_some_iff.2 ⟨day, digits, hspells⟩)
  | some parts =>
    obtain ⟨date, m⟩ := parts
    obtain ⟨day, digits, hspells⟩ := transactionParts?_eq_some_iff.1 hparts
    constructor
    · intro h
      dsimp only at h
      split at h <;> cases h
    · intro h
      exact absurd ⟨day, m, date, digits, hspells⟩ h

theorem eq_compact_of_date {text expected : String} {t : Timestamp}
    (h : transactionId? text t = .error (.date expected)) : expected = t.date.compact := by
  unfold transactionId? at h
  split at h
  · cases h
  · dsimp only at h
    split at h
    · cases h
    · cases h
      rfl

theorem transactionId?_eq_date_iff {text : String} {t : Timestamp} {expected : String} :
    transactionId? text t = .error (.date expected) ↔
      (∃ day n, SpellsTransaction text day n) ∧ (¬ ∃ n, SpellsTransaction text t.date n) ∧
        expected = t.date.compact := by
  constructor
  · intro h
    refine ⟨?_, ?_, eq_compact_of_date h⟩
    · by_contra hnone
      cases h.symm.trans (transactionId?_eq_pattern_iff.2 hnone)
    · rintro ⟨n, hspells⟩
      cases h.symm.trans (transactionId?_eq_ok_iff.2 hspells)
  · rintro ⟨hform, hother, rfl⟩
    cases h : transactionId? text t with
    | ok n => exact absurd ⟨n, transactionId?_eq_ok_iff.1 h⟩ hother
    | error fault =>
      cases fault with
      | pattern => exact absurd hform (transactionId?_eq_pattern_iff.1 h)
      | date expected => rw [eq_compact_of_date h]

/-- Within the years of four digits a transaction id determines its day and its number. -/
theorem transactionId_inj {t other : Timestamp} {n m : UInt32}
    (hyear : 0 ≤ t.date.year ∧ t.date.year ≤ 9999)
    (hother : 0 ≤ other.date.year ∧ other.date.year ≤ 9999) :
    transactionId t n = transactionId other m ↔ t.date = other.date ∧ n = m := by
  constructor
  · intro h
    have hspells := transactionId?_eq_ok_iff.1 (transactionId?_transactionId n hyear)
    have hspells' := transactionId?_eq_ok_iff.1 (transactionId?_transactionId m hother)
    exact hspells.unique (h ▸ hspells')
  · rintro ⟨hdate, rfl⟩
    simp only [transactionId, hdate]

end Identifier

end SealedReceipts
