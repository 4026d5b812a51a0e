import SealedReceipts.Bank.Service
import SealedReceipts.Proofs.Bank.Store
import SealedReceipts.Proofs.Checks
import SealedReceipts.Proofs.Json.Texts
import SealedReceipts.Proofs.Text.Base64

/-!
# What a request does to a bank

A request offers a submission, wants the receipt of a key, or does neither; which of the three is
read off the request alone. `Service.Course` says what each comes to: what is answered, what is in
the store afterwards, and which notices are started. Counters are left open.
-/

namespace SealedReceipts

theorem Web.MediaType.isJson_plain : isJson "application/json" = true := by decide +kernel

namespace Bank

open Json (Value)

namespace Service

/-! ## What is asked -/

/-- The request goes where submissions are posted. -/
def IsSubmit (r : Web.Request) : Prop := route? r.path = some .submit ∧ r.method = "POST"

instance (r : Web.Request) : Decidable (IsSubmit r) := inferInstanceAs (Decidable (_ ∧ _))

/-- The request goes where receipts are collected, by either way. -/
def IsCollect (r : Web.Request) : Prop :=
  r.isRead = true ∧
    (route? r.path = some .collectByQuery ∨ ∃ segment, route? r.path = some (.collectByPath segment))

/-- What a body asks to be kept, and the submission that comes of it. -/
structure Offers (maxBody : Nat) (r : Web.Request) (q : SubmitRequest) (v : ValidSubmission) :
    Prop where
  submit : IsSubmit r
  contentType : r.contentType.any Web.MediaType.isJson = true
  fits : r.body.length ≤ maxBody
  read : SubmitRequest.read r.body = .ok q
  valid : q.validate = .ok v

/-- The submission that a request offers. -/
def offer? (s : Service) (r : Web.Request) : Option ValidSubmission :=
  if IsSubmit r then (s.submissionOf r).toOption else none

/-- The text that names the key of the receipt to collect. -/
def keyText? (r : Web.Request) : Option String :=
  match route? r.path with
  | some .collectByQuery =>
    match (Percent.decodeForm r.query).filter fun (name, _) => name == "ephemeral_key" with
    | [(_, value)] => some value
    | _ => none
  | some (.collectByPath segment) => Percent.decodeText? segment
  | _ => none

/-- The key whose receipt a request wants. -/
def wanted? (r : Web.Request) : Option OneTimeKey :=
  if r.isRead then (keyText? r).bind fun value => (parseKey value).toOption else none

def idFor (v : ValidSubmission) (o : Occasion) : String := v.receiptId.getD o.freshId

def receiptFor (v : ValidSubmission) (o : Occasion) : StoredReceipt :=
  { payload := v.payload, receiptId := idFor v o, webhookUrl := v.webhookUrl, storedAt := o.now }

def submitted (receiptId : String) : Web.Response :=
  success (.object [("receipt_id", .text receiptId)])

/-- The answer to a collection, with the payload as a text. -/
def collected (encryptedData receiptId : String) : Web.Response :=
  success (.object [("encrypted_data", .text encryptedData), ("receipt_id", .text receiptId)])

def noticesFor (receipt : StoredReceipt) (o : Occasion) : List Notification :=
  receipt.webhookUrl.toList.map fun url =>
    { url, notice := { receiptId := receipt.receiptId, collectedAt := o.clock } }

/-! ## What an answer tells -/

/-- An answer with a status, and with a body that holds these texts unless the head alone was asked
for. -/
structure Answers (r : Web.Request) (response : Web.Response) (code : Nat)
    (texts : List (String × String)) : Prop where
  status : response.status = code
  body : r.method ≠ "HEAD" → Json.HasTexts response.body texts
  head : r.method = "HEAD" → response.body = ""

theorem answers_sentTo (r : Web.Request) (status : Nat) (texts : List (String × String)) :
    Answers r (Web.Response.sentTo { status, body := (Value.ofTexts texts).render } r) status
      texts := by
  unfold Web.Response.sentTo
  split
  · next hhead => exact ⟨rfl, fun h => absurd hhead h, fun _ => rfl⟩
  · next hhead => exact ⟨rfl, fun _ => Json.hasTexts_ofTexts texts, fun h => absurd h hhead⟩

theorem answers_submitted (r : Web.Request) (id : String) :
    Answers r ((submitted id).sentTo r) 200 [("receipt_id", id)] :=
  answers_sentTo r 200 [("receipt_id", id)]

theorem hasTexts_collected (data id : String) : Json.HasTexts (collected data id).body
    [("encrypted_data", data), ("receipt_id", id)] :=
  Json.hasTexts_ofTexts [("encrypted_data", data), ("receipt_id", id)]

/-- How a request is handled. -/
inductive Course (s : Service) (r : Web.Request) (o : Occasion) : Handled → Prop
  | stored {v : ValidSubmission} {counters : Counters} : s.offer? r = some v →
      s.store.keysById.contains (idFor v o) = false → s.store.byKey.contains v.key = false →
      Course s r o
        { response := (submitted (idFor v o)).sentTo r
          service := { s with store := s.store.put v.key (receiptFor v o), counters } }
  | conflict {v : ValidSubmission} {fault : StoreFault} {counters : Counters} :
      s.offer? r = some v →
      (s.store.keysById.contains (idFor v o) = true ∨ s.store.byKey.contains v.key = true) →
      Course s r o
        { response := (ServiceFault.conflict fault).response.sentTo r
          service := { s with counters } }
  | handedOut {key : OneTimeKey} {receipt : StoredReceipt} {counters : Counters} :
      wanted? r = some key → s.store.byKey[key]? = some receipt →
      Course s r o
        { response :=
            (collected (Base64.encode .standard receipt.payload) receipt.receiptId).sentTo r
          service := { s with store := s.store.remove key, counters }
          started := noticesFor receipt o }
  | missed {key : OneTimeKey} {counters : Counters} :
      wanted? r = some key → s.store.byKey[key]? = none →
      Course s r o
        { response := ServiceFault.notFound.response.sentTo r, service := { s with counters } }
  | other {response : Web.Response} : s.offer? r = none → wanted? r = none →
      response.status ≠ 409 → (IsSubmit r ∨ IsCollect r → response.status ≠ 200) →
      Course s r o { response, service := s }

variable {s : Service} {r : Web.Request} {o : Occasion} {q : SubmitRequest} {v : ValidSubmission}

/-! ### Submissions -/

theorem submissionOf_eq_ok_iff :
    s.submissionOf r = .ok v ↔
      r.contentType.any Web.MediaType.isJson = true ∧ r.body.length ≤ s.maxBody ∧
        ∃ q, SubmitRequest.read r.body = .ok q ∧ q.validate = .ok v := by
  unfold submissionOf
  cases htype : r.contentType.any Web.MediaType.isJson with
  | false => simp
  | true =>
    by_cases hlong : s.maxBody < r.body.length
    · simp [hlong, Nat.not_le.2 hlong]
    · simp only [Bool.not_true, Bool.false_eq_true, if_false, hlong, true_and, Nat.not_lt.1 hlong]
      cases hread : SubmitRequest.read r.body with
      | error fault => cases fault <;> simp
      | ok q => cases hvalid : q.validate <;> simp [hvalid]

-- a byte that belongs to no character is passed over in a member that nobody asks for
example : (SubmitRequest.read (Bytes.ofText "\x7b\"note\":\"" ++ [0xff] ++ Bytes.ofText
    "\",\"ephemeral_key\":\"k\",\"encrypted_data\":\"d\"\x7d")).toOption =
    some ⟨"k", "d", none, none⟩ := by
  decide +kernel

-- and makes a document malformed in one that is read
example : SubmitRequest.read (Bytes.ofText "\x7b\"ephemeral_key\":\"" ++ [0xff] ++ Bytes.ofText
    "\",\"encrypted_data\":\"d\"\x7d") = .error .malformed := by
  decide +kernel

theorem submissionOf_error {fault : ServiceFault} (h : s.submissionOf r = .error fault) :
    fault.status ≠ 409 ∧ fault.status ≠ 200 := by
  unfold submissionOf at h
  split at h
  · cases h
    decide
  · split at h
    · cases h
      decide
    · split at h
      · cases h
        decide
      · cases h
        decide
      · split at h
        · cases h
          exact ⟨by simp [ServiceFault.status], by simp [ServiceFault.status]⟩
        · cases h

theorem offer?_eq_some_iff : s.offer? r = some v ↔ ∃ q, Offers s.maxBody r q v := by
  unfold offer?
  by_cases hsubmit : IsSubmit r
  · rw [if_pos hsubmit, Checks.toOption_eq_some, submissionOf_eq_ok_iff]
    constructor
    · rintro ⟨htype, hfits, q, hread, hvalid⟩
      exact ⟨q, hsubmit, htype, hfits, hread, hvalid⟩
    · rintro ⟨q, h⟩
      exact ⟨h.contentType, h.fits, q, h.read, h.valid⟩
  · rw [if_neg hsubmit]
    constructor
    · intro h
      cases h
    · rintro ⟨q, h⟩
      exact absurd h.submit hsubmit

/-- A post is answered in full. -/
theorem IsSubmit.sentTo (h : IsSubmit r) (response : Web.Response) :
    response.sentTo r = response := by
  rw [Web.Response.sentTo, if_neg]
  rw [h.2]
  decide

/-- A post is answered in full, so the texts of the answer are there. -/
theorem IsSubmit.answers_iff (h : IsSubmit r) {response : Web.Response} {code : Nat}
    {texts : List (String × String)} :
    Answers r response code texts ↔
      response.status = code ∧ Json.HasTexts response.body texts := by
  have hmethod : r.method ≠ "HEAD" := by
    rw [h.2]
    decide
  exact ⟨fun hanswers => ⟨hanswers.status, hanswers.body hmethod⟩,
    fun ⟨hstatus, hbody⟩ => ⟨hstatus, fun _ => hbody, fun hhead => absurd hhead hmethod⟩⟩

theorem status_sentTo (response : Web.Response) : (response.sentTo r).status = response.status := by
  unfold Web.Response.sentTo
  split <;> rfl

theorem status_submitted (receiptId : String) : (submitted receiptId).status = 200 := rfl

theorem status_conflict (fault : StoreFault) :
    (ServiceFault.conflict fault).response.status = 409 := rfl

theorem IsSubmit.not_isRead (h : IsSubmit r) : r.isRead = false := by
  simp [Web.Request.isRead, h.2]

theorem offer?_eq_none (h : ¬ IsSubmit r) : s.offer? r = none := if_neg h

theorem wanted?_eq_none (h : r.isRead = false) : wanted? r = none := by
  rw [wanted?, h]
  rfl

theorem not_isSubmit_of_wanted {key : OneTimeKey} (h : wanted? r = some key) : ¬ IsSubmit r := by
  intro hsubmit
  rw [wanted?_eq_none hsubmit.not_isRead] at h
  cases h

theorem wanted?_eq_none_of_text (h : keyText? r = none) : wanted? r = none := by
  rw [wanted?, h]
  simp

/-- A request that is refused before the store is asked. -/
theorem course_of_refused (hoffer : s.offer? r = none) (hwanted : wanted? r = none)
    {response : Web.Response} (hconflict : response.status ≠ 409)
    (hsuccess : response.status ≠ 200) :
    s.Course r o { response := response.sentTo r, service := s } := by
  refine .other hoffer hwanted ?_ fun _ => ?_
  · rwa [status_sentTo]
  · rwa [status_sentTo]

/-- What a submission comes to. -/
theorem submit_course (h : IsSubmit r) :
    s.Course r o { s.submit r o with response := (s.submit r o).response.sentTo r } := by
  unfold submit
  cases hsubmission : s.submissionOf r with
  | error fault =>
    have hoffer : s.offer? r = none := by
      rw [offer?, if_pos h, hsubmission]
      rfl
    obtain ⟨hconflict, hsuccess⟩ := submissionOf_error hsubmission
    exact course_of_refused hoffer (wanted?_eq_none h.not_isRead) hconflict hsuccess
  | ok v =>
    have hoffer : s.offer? r = some v := by
      rw [offer?, if_pos h, hsubmission]
      rfl
    simp only [keep]
    cases hkept : s.store.submit v.key v.payload (v.receiptId.getD o.freshId) v.webhookUrl o.now with
    | error fault => exact .conflict hoffer (Store.exists_submit_error_iff.1 ⟨fault, hkept⟩)
    | ok store =>
      obtain ⟨hid, hkey, rfl⟩ := Store.submit_eq_ok_iff.1 hkept
      exact .stored hoffer hid hkey

/-- What a collection comes to, once its key is named. -/
theorem collect_course (hsubmit : ¬ IsSubmit r) (hread : r.isRead = true) {value : String}
    (htext : keyText? r = some value) :
    s.Course r o { s.collect value o with response := (s.collect value o).response.sentTo r } := by
  have hoffer := offer?_eq_none (s := s) hsubmit
  have hwanted : wanted? r = (parseKey value).toOption := by
    rw [wanted?, if_pos hread, htext]
    rfl
  unfold collect
  cases hkey : parseKey value with
  | error defect =>
    rw [hkey] at hwanted
    have hconflict : (ServiceFault.invalid defect).response.status ≠ 409 := by
      simp [ServiceFault.response, ServiceFault.status]
    have hsuccess : (ServiceFault.invalid defect).response.status ≠ 200 := by
      simp [ServiceFault.response, ServiceFault.status]
    exact course_of_refused hoffer hwanted hconflict hsuccess
  | ok key =>
    rw [hkey] at hwanted
    cases hstored : s.store.byKey[key]? with
    | none =>
      have hsame : s.store.remove key = s.store := by rw [Store.remove, hstored]
      simp only [Store.collect, hstored]
      exact .missed hwanted hstored
    | some receipt =>
      simp only [Store.collect, hstored]
      exact .handedOut hwanted hstored

/-- A request whose route does not take its method. -/
theorem course_of_not_allowed {route : Route} (hroute : route? r.path = some route)
    (hallows : route.allows r = false) :
    s.Course r o (s.unchanged .methodNotAllowed) := by
  have hsubmit : ¬ IsSubmit r := by
    rintro ⟨hpath, hmethod⟩
    obtain rfl := Option.some.inj (hroute.symm.trans hpath)
    simp [Route.allows, hmethod] at hallows
  refine .other (offer?_eq_none hsubmit) ?_ (by decide) fun _ => by decide
  cases route with
  | submit => exact wanted?_eq_none_of_text (by simp [keyText?, hroute])
  | collectByQuery | collectByPath segment | health => exact wanted?_eq_none hallows

/-- A request whose route takes its method. -/
theorem course_of_allowed {route : Route} (hroute : route? r.path = some route)
    (hallows : route.allows r = true) :
    s.Course r o { s.follow route r o with response := (s.follow route r o).response.sentTo r } := by
  cases route with
  | submit => exact submit_course ⟨hroute, beq_iff_eq.1 hallows⟩
  | collectByQuery =>
    have hsubmit : ¬ IsSubmit r := by simp [IsSubmit, hroute]
    simp only [follow, collectByQuery]
    split
    · next value hfound =>
      exact collect_course hsubmit hallows (by simp [keyText?, hroute, hfound])
    · next hother =>
      have htext : keyText? r = none := by
        simp only [keyText?, hroute]
      have hconflict : ServiceFault.query.response.status ≠ 409 := by decide
      have hsuccess : ServiceFault.query.response.status ≠ 200 := by decide
      exact course_of_refused (offer?_eq_none hsubmit) (wanted?_eq_none_of_text htext) hconflict
        hsuccess
  | collectByPath segment =>
    have hsubmit : ¬ IsSubmit r := by simp [IsSubmit, hroute]
    simp only [follow, collectByPath]
    cases htext : Percent.decodeText? segment with
    | some value => exact collect_course hsubmit hallows (by simp [keyText?, hroute, htext])
    | none =>
      have hnone : keyText? r = none := by simp [keyText?, hroute, htext]
      have hconflict : ({ status := 400, body := "Invalid URL" } : Web.Response).status ≠ 409 := by
        decide
      have hsuccess : ({ status := 400, body := "Invalid URL" } : Web.Response).status ≠ 200 := by
        decide
      exact course_of_refused (offer?_eq_none hsubmit) (wanted?_eq_none_of_text hnone) hconflict
        hsuccess
  | health =>
    have hsubmit : ¬ IsSubmit r := by simp [IsSubmit, hroute]
    have hcollect : ¬ IsCollect r := by simp [IsCollect, hroute]
    refine .other (offer?_eq_none hsubmit)
      (wanted?_eq_none_of_text (by simp [keyText?, hroute])) ?_ fun h => ?_
    · rw [status_sentTo]
      show 200 ≠ 409
      decide
    · exact absurd h (not_or.2 ⟨hsubmit, hcollect⟩)

/-- **What a request does.** -/
theorem respond_course (s : Service) (r : Web.Request) (o : Occasion) :
    s.Course r o (s.respond r o) := by
  unfold respond
  cases hroute : route? r.path with
  | none =>
    have hsubmit : ¬ IsSubmit r := by simp [IsSubmit, hroute]
    have htext : keyText? r = none := by simp [keyText?, hroute]
    exact .other (offer?_eq_none hsubmit) (wanted?_eq_none_of_text htext) (by decide)
      fun _ => by decide
  | some route =>
    simp only
    split
    · next hallows => exact course_of_allowed hroute hallows
    · next hallows => exact course_of_not_allowed hroute (Bool.eq_false_iff.2 hallows)

/-! ### What is seen of it -/

variable {handled : Handled}

/-- A submission is stored, and its id told, exactly if its id and its key are free. -/
theorem Course.stored_iff (h : s.Course r o handled) {v : ValidSubmission}
    (hoffer : s.offer? r = some v) :
    Answers r handled.response 200 [("receipt_id", idFor v o)] ↔
      s.store.keysById.contains (idFor v o) = false ∧ s.store.byKey.contains v.key = false := by
  obtain ⟨q, hoffers⟩ := offer?_eq_some_iff.1 hoffer
  have hsubmit := hoffers.submit
  have hwanted := wanted?_eq_none hsubmit.not_isRead
  cases h with
  | @stored v' counters hoffer' hid hkey =>
    obtain rfl := Option.some.inj (hoffer.symm.trans hoffer')
    exact ⟨fun _ => ⟨hid, hkey⟩, fun _ => answers_submitted r _⟩
  | @conflict v' fault counters hoffer' htaken =>
    obtain rfl := Option.some.inj (hoffer.symm.trans hoffer')
    constructor
    · intro hanswers
      have hstatus := hanswers.status
      rw [status_sentTo, status_conflict] at hstatus
      exact absurd hstatus (by decide)
    · rintro ⟨hid, hkey⟩
      simp [hid, hkey] at htaken
  | handedOut hwanted' => cases hwanted.symm.trans hwanted'
  | missed hwanted' => cases hwanted.symm.trans hwanted'
  | other hoffer' => cases hoffer.symm.trans hoffer'

end Service

end Bank

end SealedReceipts
