import SealedReceipts.Proofs.Bank.ServiceHistory

/-!
# A bank hands out what was submitted

A collection that succeeds removes the receipt of one earlier submission, and whoever reads the body
of its answer finds the text that was submitted for the payload and the id that the submission was
answered with. It starts the notice that the submission asked for, and nothing else starts one.
-/

namespace SealedReceipts

namespace Bank

open Service (IsSubmit IsCollect Offers Answers wanted? idFor receiptFor noticesFor)

namespace History

/-- Request `i` submits what is asked for in its body, and succeeds; the body of the answer tells
the id of the receipt that is stored. -/
structure Submitted (h : History) (i : Nat) (q : SubmitRequest) (key : OneTimeKey)
    (receipt : StoredReceipt) : Prop where
  request : ∃ r o v, h.events[i]? = some (.request r o) ∧ Offers h.maxBody r q v ∧
    key = v.key ∧ receipt = receiptFor v o
  answer : ∃ response, h.answer? i = some response ∧ response.status = 200 ∧
    Json.HasTexts response.body [("receipt_id", receipt.receiptId)]

/-- What request `i` submitted is in the store until event `j`, and is not any more behind it. -/
structure TakenAt (h : History) (i : Nat) (q : SubmitRequest) (key : OneTimeKey)
    (receipt : StoredReceipt) (j : Nat) : Prop where
  submitted : h.Submitted i q key receipt
  later : i < j
  held : ∀ m, i < m → m ≤ j → (h.service m).store.byKey[key]? = some receipt
  gone : (h.service (j + 1)).store.byKey[key]? = none

variable {h : History} {i j n : Nat} {e : Event} {r : Web.Request} {o : Occasion}
  {q : SubmitRequest} {key : OneTimeKey} {receipt : StoredReceipt}

/-! ## Submissions -/

/-- A submission of the store is accepted exactly if the request is answered with its id. -/
theorem answer?_accepted_iff {v : ValidSubmission} (he : h.events[n]? = some (.request r o))
    (hoffer : (h.service n).offer? r = some v) :
    h.run.answer? n = some .accepted ↔ ∃ response, h.answer? n = some response ∧
      response.status = 200 ∧ Json.HasTexts response.body [("receipt_id", idFor v o)] := by
  have hcall := run_call he
  rw [Service.call_of_offer hoffer] at hcall
  obtain ⟨q, hoffers⟩ := Service.offer?_eq_some_iff.1 hoffer
  have hstored := ((h.service n).respond_course r o).stored_iff hoffer
  rw [hoffers.submit.answers_iff] at hstored
  rw [Store.Run.answer?_eq hcall, Option.some.injEq, answer?_eq he]
  simp only [Option.some.injEq, exists_eq_left', hstored, ← service_store]
  exact Store.perform_accepted_iff

/-- The submissions of a history are those that its store accepts. -/
theorem Submitted.accepted (hsubmitted : h.Submitted i q key receipt) :
    h.run.Accepted i key receipt := by
  obtain ⟨r, o, v, he, hoffers, rfl, rfl⟩ := hsubmitted.request
  have hoffer : (h.service i).offer? r = some v :=
    Service.offer?_eq_some_iff.2 ⟨q, by rwa [h.service_maxBody]⟩
  refine ⟨?_, (answer?_accepted_iff he hoffer).2 hsubmitted.answer⟩
  rw [run_call he, Service.call_of_offer hoffer]
  rfl

/-- A request that wants a key leaves nothing under it, and every other key as it was. -/
theorem getElem?_of_wanted (he : h.events[j]? = some (.request r o)) (hwanted : wanted? r = some key)
    (other : OneTimeKey) :
    (h.service (j + 1)).store.byKey[other]? =
      if key == other then none else (h.service j).store.byKey[other]? := by
  rw [service_succ he, (Service.after_store _ _).1, Service.call_of_wanted hwanted]
  exact Store.remove_getElem? _ key other

/-- What is taken by a request is what it wants. -/
theorem TakenAt.beq_key {other : OneTimeKey} (htaken : h.TakenAt i q key receipt j)
    (he : h.events[j]? = some (.request r o)) (hwanted : wanted? r = some other) :
    (other == key) = true := by
  have hgone := htaken.gone
  rw [getElem?_of_wanted he hwanted, htaken.held j htaken.later (Nat.le_refl j)] at hgone
  split at hgone
  · next heq => exact heq
  · cases hgone

/-- Two submissions that one request takes are the same. -/
theorem TakenAt.unique {i' : Nat} {q' : SubmitRequest} {key' : OneTimeKey}
    {receipt' : StoredReceipt} {other : OneTimeKey} (htaken : h.TakenAt i q key receipt j)
    (htaken' : h.TakenAt i' q' key' receipt' j) (he : h.events[j]? = some (.request r o))
    (hwanted : wanted? r = some other) : i = i' := by
  have heq := htaken.beq_key he hwanted
  have heq' := htaken'.beq_key he hwanted
  refine htaken.submitted.accepted.unique htaken'.submitted.accepted (fun m hm hle => ?_)
    (fun m hm hle => ?_) htaken.later htaken'.later (BEq.trans (BEq.symm heq) heq')
  · rw [← service_store]
    exact htaken.held m hm hle
  · rw [← service_store]
    exact htaken'.held m hm hle

end History

end Bank

end SealedReceipts
