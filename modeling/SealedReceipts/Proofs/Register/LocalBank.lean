import SealedReceipts.Register.LocalBank

/-!
# The bank in process by its contents

The bank in a register's own process is a list of submissions. Its searches and its answers are
described by what is on the list.
-/

namespace SealedReceipts

namespace LocalBank

variable {bank : LocalBank} {s : Submission}

theorem isSome_find? {key : OneTimeKey} :
    (bank.find? key).isSome ↔ ∃ other ∈ bank.submissions, (other.key == key) = true := by
  simp [find?, List.find?_isSome]

theorem hasId_iff {id : String} :
    bank.hasId id = true ↔ ∃ other ∈ bank.submissions, other.trackingId = some id := by
  simp [hasId]

/-- A submission whose id is not in the way of any is refused for its key or taken. -/
theorem submit_of_new_id (hid : ∀ other ∈ bank.submissions, other.trackingId ≠ s.trackingId) :
    ((∃ other ∈ bank.submissions, (other.key == s.key) = true) ∧
        bank.submit s = .error .keyInUse) ∨
      ((∀ other ∈ bank.submissions, (other.key == s.key) = false) ∧
        bank.submit s = .ok ⟨bank.submissions ++ [s]⟩) := by
  by_cases hkey : (bank.find? s.key).isSome
  · exact .inl ⟨isSome_find?.1 hkey, if_pos hkey⟩
  · refine .inr ⟨fun other hother => ?_, ?_⟩
    · exact Bool.eq_false_iff.2 fun hsame => hkey (isSome_find?.2 ⟨other, hother, hsame⟩)
    · rw [submit, if_neg hkey]
      cases htracking : s.trackingId with
      | none => rfl
      | some id =>
        have hfree : bank.hasId id ≠ true := by
          rw [Ne, hasId_iff]
          rintro ⟨other, hother, hsame⟩
          exact hid other hother (hsame.trans htracking.symm)
        simp only [if_neg hfree]

end LocalBank

end SealedReceipts
