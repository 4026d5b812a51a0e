import SealedReceipts.Proofs.Calendar
import SealedReceipts.Receipt.Identifier

/-!
# Identifiers: written and read back

The written form of a number is read back as that number. For a transaction id this depends on the
moment that dates it: up to the year 9999 its date has eight digits and the number comes back, and
from the year 10000 on the date begins with a sign, and no number is read.
-/

namespace SealedReceipts

namespace Identifier

open Digits (padded valuesOf)

theorem number?_padded (width : Nat) (n : UInt32) :
    number? (padded width n.toNat).toList = some n := by
  rw [number?, Digits.number?_padded, Option.bind_some, if_pos n.toNat_lt, UInt32.ofNat_toNat]

theorem after?_append (start text : List Char) : after? start (start ++ text) = some text := by
  rw [after?, if_pos (List.isPrefixOf_iff_prefix.2 (List.prefix_append start text)),
    List.drop_left]

theorem reportNumber?_reportNumber (n : UInt32) : reportNumber? (reportNumber n) = some n := by
  have htext : (reportNumber n).toList = ['Z'] ++ (padded 4 n.toNat).toList := by
    rw [reportNumber, String.toList_append]
    rfl
  rw [reportNumber?, htext, after?_append, Option.bind_eq_bind, Option.bind_some, number?_padded]

theorem serial?_serial (n : UInt32) : serial? (serial n) = some n := by
  have htext : (serial n).toList = ['F'] ++ (padded 4 n.toNat).toList := by
    rw [serial, String.toList_append]
    rfl
  rw [serial?, htext, after?_append, Option.bind_eq_bind, Option.bind_some, number?_padded]

theorem registrationId?_registrationId (n : UInt32) :
    registrationId? (registrationId n) = some n :=
  number?_padded 10 n

/-- What is read from a written form and written again is that written form. -/
theorem eq_of_rewritten {read : String → Option UInt32} {write : UInt32 → String}
    (hback : ∀ n, read (write n) = some n) {n : UInt32} {rewritten : String}
    (h : ∃ m, read (write n) = some m ∧ rewritten = write m) : rewritten = write n := by
  obtain ⟨m, hread, rfl⟩ := h
  rw [hback, Option.some.injEq] at hread
  rw [hread]

/-! ## Transaction ids -/

theorem after?_transactionId (t : Timestamp) (n : UInt32) :
    after? ['T', 'X'] (transactionId t n).toList =
      some (t.date.compact.toList ++ (padded 4 n.toNat).toList) := by
  have htext : (transactionId t n).toList =
      ['T', 'X'] ++ (t.date.compact.toList ++ (padded 4 n.toNat).toList) := by
    rw [transactionId, String.toList_append, String.toList_append, List.append_assoc]
    rfl
  rw [htext, after?_append]

/-- Under a date of eight digits the sequence number is read back. -/
theorem transactionId?_transactionId {t : Timestamp} (n : UInt32)
    (hyear : 0 ≤ t.date.year ∧ t.date.year ≤ 9999) :
    transactionId? (transactionId t n) t = .ok n := by
  have hvalid : t.date.IsValid := Date.ofDays_isValid _
  have hlength : t.date.compact.toList.length = dateLength := Date.length_compact hyear hvalid
  have hdigits := Digits.values?_of_isDigit fun c => Date.isDigit_of_mem_compact (c := c) hyear
  have hdate : (t.date.compact.toList ++ (padded 4 n.toNat).toList).take dateLength =
      t.date.compact.toList := List.take_left' hlength
  have hnumber : (t.date.compact.toList ++ (padded 4 n.toNat).toList).drop dateLength =
      (padded 4 n.toNat).toList := List.drop_left' hlength
  have hparts : transactionParts? (transactionId t n) = some (t.date.compact.toList, n) := by
    simp only [transactionParts?, after?_transactionId, hdate, hnumber, hdigits, number?_padded,
      Date.ofDigits_compact hyear hvalid, hlength, hvalid, Option.bind_eq_bind,
      Option.bind_some, and_self, if_true]
  rw [transactionId?, hparts]
  exact if_pos (String.ofList_toList)

/-- Behind the year 9999 the date begins with a sign, which is not a digit. -/
theorem transactionId?_of_year_gt {t : Timestamp} (n : UInt32) (hyear : 9999 < t.date.year)
    (u : Timestamp) : transactionId? (transactionId t n) u = .error .pattern := by
  obtain ⟨rest, hcompact⟩ : ∃ rest, t.date.compact.toList = '+' :: rest := by
    have hpos : ¬t.date.year < 0 := by omega
    have hlarge : ¬(0 ≤ t.date.year ∧ t.date.year ≤ 9999) := by omega
    simp [Date.compact, Date.yearText, hpos, hlarge]
  have hsign : Digits.digit? '+' = none := rfl
  have hparts : transactionParts? (transactionId t n) = none := by
    simp [transactionParts?, after?_transactionId, hcompact, dateLength, Digits.values?, hsign]
  rw [transactionId?, hparts]

end Identifier

end SealedReceipts
