import SealedReceipts.Proofs.Calendar.Counting
import SealedReceipts.Proofs.Receipt.Refusals
import SealedReceipts.Register.Issuance

/-!
# What is stamped reads back

The register writes its identifiers from numbers and from the clock, and the stored form of the
receipt takes the numbers off them again. Every number of 32 bits comes back, at every moment with a
year of four digits (`Issuance.stamped_identifiers_read_back`). From 1970 on the stamp is therefore
never the reason why a receipt is not encoded: what is left are the number of its lines, its texts
and its amounts.
-/

namespace SealedReceipts

open Checks
open Receipt (checkPattern checkTransactionId)

namespace Identifier

/-- What is written for the number read off any accepted text is read as this number, and is written
the same once it was read. -/
def Rewrites (read : String → Except EncodeError UInt32) (write : UInt32 → String) : Prop :=
  ∀ text n, read text = .ok n →
    read (write n) = .ok n ∧ (read (write n)).map write = .ok (write n)

/-- Every number is read off its written form, and so are the numbers of all accepted texts. -/
structure ReadsBack (read : String → Except EncodeError UInt32) (write : UInt32 → String) : Prop where
  written : ∀ n, read (write n) = .ok n
  rewrites : Rewrites read write

section Reading

variable {read : String → Except EncodeError UInt32} {write : UInt32 → String}

/-- It is enough that the numbers of accepted texts are read off their written forms. -/
theorem Rewrites.of_written (h : ∀ text n, read text = .ok n → read (write n) = .ok n) :
    Rewrites read write := by
  intro text n hread
  have hwritten := h text n hread
  exact ⟨hwritten, by rw [hwritten]; rfl⟩

theorem ReadsBack.of_written (h : ∀ n, read (write n) = .ok n) : ReadsBack read write where
  written := h
  rewrites := .of_written fun _ n _ => h n

end Reading

theorem reportNumber_readsBack :
    ReadsBack (fun text => checkPattern .reportNumber text reportNumber?) reportNumber :=
  .of_written fun n => Receipt.checkPattern_eq_ok.2 (reportNumber?_reportNumber n)

theorem registrationId_readsBack :
    ReadsBack (fun text => checkPattern .registrationId text registrationId?) registrationId :=
  .of_written fun n => Receipt.checkPattern_eq_ok.2 (registrationId?_registrationId n)

theorem serial_readsBack : ReadsBack (fun text => checkPattern .serial text serial?) serial :=
  .of_written fun n => Receipt.checkPattern_eq_ok.2 (serial?_serial n)

variable {t : Timestamp} {text : String} {n : UInt32}

theorem checkTransactionId_transactionId (n : UInt32)
    (hyear : 0 ≤ t.date.year ∧ t.date.year ≤ 9999) :
    checkTransactionId (transactionId t n) t = .ok n :=
  Receipt.checkTransactionId_eq_ok.2 (transactionId?_transactionId n hyear)

/-- Only a day of a year of four digits is spelled. -/
theorem SpellsTransaction.year {day : Date} (h : SpellsTransaction text day n) :
    0 ≤ day.year ∧ day.year ≤ 9999 := by
  obtain ⟨date, digits, -, hdate, -⟩ := h
  exact ⟨hdate.year_nonneg, hdate.year_le⟩

/-- A moment at which some text is accepted has a year of four digits. -/
theorem year_of_checkTransactionId (h : checkTransactionId text t = .ok n) :
    0 ≤ t.date.year ∧ t.date.year ≤ 9999 :=
  (transactionId?_eq_ok_iff.1 (Receipt.checkTransactionId_eq_ok.1 h)).year

theorem transactionId_rewrites (t : Timestamp) :
    Rewrites (fun text => checkTransactionId text t) (transactionId t) :=
  .of_written fun _ n h => checkTransactionId_transactionId n (year_of_checkTransactionId h)

end Identifier

/-! ## The stamp of a receipt -/

namespace Timestamp

theorem date_truncated (t : Timestamp) : t.truncated.date = t.date := rfl

end Timestamp

/-- The error is about what is stamped on a receipt: its identifiers or its moment. -/
def EncodeError.AboutStamp : EncodeError → Prop
  | .invalidPattern _ _ | .transactionDateMismatch _ _ | .timestampBeforeEpoch _ => True
  | .tooManyItems _ | .stringTooLong _ _ | .amountOutOfRange _ _ => False

/-- None of the conditions on the content of a receipt is about its stamp. -/
theorem Receipt.not_aboutStamp_of_mem {r : Receipt} {c : Condition EncodeError}
    (h : c ∈ r.contentConditions) : ¬ c.fault.AboutStamp := by
  simp only [contentConditions, List.mem_cons, List.mem_append, List.mem_flatMap,
    LineItem.conditions, TaxBreakdown.conditions, List.not_mem_nil, or_false] at h
  rcases h with rfl | rfl | rfl | rfl | rfl | ⟨item, -, rfl | rfl⟩ | rfl | rfl | rfl | rfl | rfl <;>
    exact id

namespace Issuance

variable {numbers : SequenceNumbers} {now : Timestamp} {store : StoreInfo} {items : List LineItem}
  {method : String}

/-- From 1970 on, as long as the year has four digits, the stamp is in order. -/
theorem stampConditions_stamp (hyear : 1970 ≤ now.date.year ∧ now.date.year ≤ 9999) :
    ∀ c ∈ (stamp numbers now store items method).stampConditions, c.holds := by
  have hfour : 0 ≤ now.truncated.date.year ∧ now.truncated.date.year ≤ 9999 := by
    rw [Timestamp.date_truncated]
    omega
  have hspells := Identifier.transactionId?_eq_ok_iff.1
    (Identifier.transactionId?_transactionId numbers.receipt hfour)
  have hreport := Identifier.reportNumber?_eq_some_iff.1
    (Identifier.reportNumber?_reportNumber numbers.report)
  have hregistration := Identifier.registrationId?_eq_some_iff.1
    (Identifier.registrationId?_registrationId store.registrationId)
  have hserial := Identifier.serial?_eq_some_iff.1 (Identifier.serial?_serial numbers.receipt)
  have hseconds : 0 ≤ now.truncated.seconds := Timestamp.seconds_nonneg hyear.1
  intro c hc
  simp only [Receipt.stampConditions, Receipt.conditions, List.cons_append, List.take_succ_cons,
    List.take_zero, List.mem_cons, List.not_mem_nil, or_false] at hc
  rcases hc with rfl | rfl | rfl | rfl | rfl | rfl
  · exact ⟨_, hreport⟩
  · exact ⟨_, _, hspells⟩
  · exact ⟨_, hspells⟩
  · exact ⟨_, hregistration⟩
  · exact ⟨_, hserial⟩
  · exact hseconds

/-- A stamped receipt is encoded or not by its content alone. -/
theorem encode_stamp_ruled (hyear : 1970 ≤ now.date.year ∧ now.date.year ≤ 9999) :
    Ruled (stamp numbers now store items method).contentConditions
      (stamp numbers now store items method).encode := by
  have hruled : Ruled _ (stamp numbers now store items method).encode :=
    (Receipt.record_allRuled _).map ReceiptRecord.bytes
  exact hruled.of_append (stampConditions_stamp hyear)

/-- **What is stamped reads back.** Every number is read off its report number, its registration id
and its serial, and off its transaction id at every moment with a year of four digits. What is
written for the number of an accepted text, of any length, is read as this number and written the
same again. From 1970 on, as long as the year has four digits, a stamped receipt is encoded exactly
if its number of lines, its texts and its amounts can be stored, and no error is about its stamp. -/
theorem stamped_identifiers_read_back :
    (Identifier.ReadsBack (fun text => checkPattern .reportNumber text Identifier.reportNumber?)
        Identifier.reportNumber ∧
      Identifier.ReadsBack
        (fun text => checkPattern .registrationId text Identifier.registrationId?)
        Identifier.registrationId ∧
      Identifier.ReadsBack (fun text => checkPattern .serial text Identifier.serial?)
        Identifier.serial) ∧
    (∀ t : Timestamp,
      (0 ≤ t.date.year ∧ t.date.year ≤ 9999 →
        ∀ n, checkTransactionId (Identifier.transactionId t n) t = .ok n) ∧
      Identifier.Rewrites (fun text => checkTransactionId text t) (Identifier.transactionId t)) ∧
    ∀ numbers now store items method, 1970 ≤ now.date.year ∧ now.date.year ≤ 9999 →
      ((∃ bytes, (stamp numbers now store items method).encode = .ok bytes) ↔
        ∀ c ∈ (stamp numbers now store items method).contentConditions, c.holds) ∧
      ∀ error, (stamp numbers now store items method).encode = .error error →
        ¬ error.AboutStamp := by
  refine ⟨⟨Identifier.reportNumber_readsBack, Identifier.registrationId_readsBack,
    Identifier.serial_readsBack⟩, fun t => ⟨?transactionId, Identifier.transactionId_rewrites t⟩,
    fun numbers now store items method hyear => ?encode⟩
  case transactionId => exact fun hyear n => Identifier.checkTransactionId_transactionId n hyear
  case encode =>
    have hruled : Ruled _ (stamp numbers now store items method).encode := encode_stamp_ruled hyear
    refine ⟨hruled.exists_ok_iff, fun error herror => ?_⟩
    obtain ⟨c, hc, -, rfl⟩ := (hruled.fault error herror).exists_mem
    exact Receipt.not_aboutStamp_of_mem hc

/-- The last moment of the year 9999. -/
def lastMoment : Timestamp := ⟨253402300799, 999999999⟩

/-- The stamp of a line that is too dear at the last moment of the year 9999. -/
def tooDear : Receipt :=
  stamp { report := 10000, receipt := 4294967295 } lastMoment
    { registrationId := 4294967295, name := "Café", address := "" }
    [LineItem.ofPrice 1 2 (Binary64.ofNat 30000000) .standard] "CARD"

/-- The largest number is read back on the first day of the year 0, a text with zeros in front is
written shorter, and a stamped receipt that is not encoded is refused for its total. -/
theorem stamped_identifiers_read_back_ends :
    (Identifier.transactionId ⟨-62167219200, 0⟩ 4294967295 = "TX000001014294967295" ∧
      checkTransactionId "TX000001014294967295" ⟨-62167219200, 0⟩ = .ok 4294967295) ∧
    (checkPattern .reportNumber "Z00000000042" Identifier.reportNumber? = .ok 42 ∧
      checkPattern .reportNumber "Z0042" Identifier.reportNumber? = .ok 42) ∧
    (1970 ≤ lastMoment.date.year ∧ lastMoment.date.year ≤ 9999) ∧
    ∃ error, tooDear.encode = .error error ∧ ¬ error.AboutStamp := by
  obtain ⟨⟨hreport, -, -⟩, htransaction, hstamp⟩ := stamped_identifiers_read_back
  have htext : Identifier.transactionId ⟨-62167219200, 0⟩ 4294967295 = "TX000001014294967295" := by
    decide +kernel
  have hread : checkPattern .reportNumber "Z00000000042" Identifier.reportNumber? = .ok 42 := by
    decide +kernel
  have hyear : 1970 ≤ lastMoment.date.year ∧ lastMoment.date.year ≤ 9999 := by decide +kernel
  have hencode : tooDear.encode =
      .error (.amountOutOfRange .totalAmount (Binary64.ofNat 60000000)) := by decide +kernel
  refine ⟨⟨htext, ?_⟩, ⟨hread, (hreport.rewrites _ 42 hread).1⟩, hyear, _, hencode,
    (hstamp _ _ _ _ _ hyear).2 _ hencode⟩
  rw [← htext]
  exact (htransaction _).1 (by decide +kernel) 4294967295

end Issuance

end SealedReceipts
