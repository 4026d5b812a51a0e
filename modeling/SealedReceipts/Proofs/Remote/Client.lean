import SealedReceipts.Proofs.Bank.KeyText
import SealedReceipts.Proofs.Bank.Requests
import SealedReceipts.Proofs.Json.Texts
import SealedReceipts.Proofs.Register.Submissions
import SealedReceipts.Remote.Client

/-!
# A client and the bank agree

A register hands its submissions to a bank behind a URL through a client. What the client writes is
what the bank reads: the same key, payload, id and webhook. So if the messages between the two are
delivered, the client says that a submission was taken exactly if the store has taken it, and every
submission of an issuance is one that the bank finds nothing wrong with.
-/

namespace SealedReceipts

namespace Remote

open Json (Value)

/-! ## Submissions that a bank finds nothing wrong with -/

/-- Letters, digits and hyphens, at least one. -/
def IsId (id : String) : Prop := id ≠ "" ∧ ∀ c ∈ id.toList, c.isAlphanum = true ∨ c = '-'

def IsWebUrl (text : String) : Prop :=
  ∃ url, Web.Url.parse? text = some url ∧ url.isHttp = true

/-- A submission with a payload whose id, and the webhook with it, are well-formed if they are
there. -/
structure Fits (s : Submission) (webhookUrl : Option String) : Prop where
  payload : s.payload ≠ []
  trackingId : ∀ id, s.trackingId = some id → IsId id
  webhookUrl : ∀ text, webhookUrl = some text → IsWebUrl text

variable {s : Submission} {webhookUrl : Option String}

/-- The bank checks exactly this of the id that it is given. -/
theorem isReceiptId_iff {id : String} : Bank.isReceiptId id = true ↔ IsId id := by
  have hnonempty : (!id.isEmpty) = true ↔ id ≠ "" := by
    rw [Bool.not_eq_true', Bool.eq_false_iff, Ne, String.isEmpty_iff]
  simp only [Bank.isReceiptId, IsId, Bool.and_eq_true, hnonempty, List.all_eq_true,
    Bool.or_eq_true, beq_iff_eq]

/-! ## What is written is read -/

/-- What a client asks a bank to keep, as the bank reads it. -/
def submitRequest (s : Submission) (webhookUrl : Option String) : Bank.SubmitRequest where
  ephemeralKey := Base64.encode .standard s.key.bytes
  encryptedData := Base64.encode .standard s.payload
  receiptId := s.trackingId
  webhookUrl := webhookUrl

/-- The submission that may be stored of it. -/
def validSubmission (s : Submission) (webhookUrl : Option String) : Bank.ValidSubmission where
  key := s.key
  payload := s.payload
  receiptId := s.trackingId
  webhookUrl := webhookUrl

theorem submitBody_eq (s : Submission) (webhookUrl : Option String) :
    submitBody s webhookUrl = .ofTexts
      ([("ephemeral_key", Base64.encode .standard s.key.bytes),
        ("encrypted_data", Base64.encode .standard s.payload)] ++
        s.trackingId.toList.map (fun id => ("receipt_id", id)) ++
        webhookUrl.toList.map (fun url => ("webhook_url", url))) := by
  simp [submitBody, Value.ofTexts, Function.comp_def]

theorem read_submitBody (s : Submission) (webhookUrl : Option String) :
    Bank.SubmitRequest.read (Bytes.ofText (submitBody s webhookUrl).render) =
      .ok (submitRequest s webhookUrl) := by
  rw [submitBody_eq, Bank.SubmitRequest.read, Json.ofBytes, Json.hasTexts_ofTexts, submitRequest]
  -- the fields that are there are met in their order, each for the first time
  cases s.trackingId <;> cases webhookUrl <;>
    simp [Json.asStructure, Json.readMembers, Bank.SubmitRequest.fields, Json.field, Json.asText,
      Json.asOption, Except.map, Checks.ok_bind, Bank.SubmitRequest.Partial.request?]

theorem encode_isEmpty {bytes : Bytes} (h : bytes ≠ []) :
    (Base64.encode .standard bytes).isEmpty = false := by
  rw [Bool.eq_false_iff, Ne, String.isEmpty_iff]
  intro hempty
  have hback := Base64.decode?_encode (a := .standard) bytes
  rw [hempty] at hback
  exact h (Option.some.inj hback).symm

theorem parseKey_encode (key : OneTimeKey) :
    Bank.parseKey (Base64.encode .standard key.bytes) = .ok key :=
  Bank.parseKey_eq_ok_iff.2 (.inl rfl)

theorem parseData_encode {payload : Bytes} (h : payload ≠ []) :
    Bank.parseData (Base64.encode .standard payload) = .ok payload := by
  rw [Bank.parseData, encode_isEmpty h, Base64.decode?_encode]
  rfl

theorem validate_submitRequest (h : Fits s webhookUrl) :
    (submitRequest s webhookUrl).validate = .ok (validSubmission s webhookUrl) := by
  have hid : Bank.checkId s.trackingId = .ok () := by
    cases hs : s.trackingId with
    | none => rfl
    | some id => rw [Bank.checkId, if_pos (isReceiptId_iff.2 (h.trackingId id hs))]
  have hwebhook : Bank.checkWebhook webhookUrl = .ok () := by
    cases hw : webhookUrl with
    | none => rfl
    | some text =>
      obtain ⟨url, hparse, hhttp⟩ := h.webhookUrl text hw
      simp only [Bank.checkWebhook, hparse, hhttp, if_true]
  simp only [Bank.SubmitRequest.validate, submitRequest, parseKey_encode,
    parseData_encode h.payload, hid, hwebhook, Checks.ok_bind]
  rfl

/-! ## Delivered messages -/

/-- The request that arrives with a call. Bodies are sent as JSON. -/
def arriving (call : Web.Call) : Web.Request where
  method := call.method
  target := call.url.target
  contentType := call.body.map fun _ => "application/json"
  body := Bytes.ofText (call.body.getD "")

/-- The network that delivers every call to a bank, and its answer back. -/
def delivering (o : Bank.Occasion) : Web.Network Bank.Service := fun call bank =>
  let handled := bank.respond (arriving call) o
  (some handled.response, handled.service)

/-- The URL of a bank: calls can be made to it, and submissions are posted there. -/
def IsBankUrl (base : String) : Prop :=
  ∃ url, Web.Url.parse? (trimBase base ++ "/submit") = some url ∧
    url.anonymous.isCallable = true ∧ url.target = "/submit"

/-- The request that a submission is posted with. -/
def post (s : Submission) (webhookUrl : Option String) : Web.Request where
  method := "POST"
  target := "/submit"
  contentType := some "application/json"
  body := Bytes.ofText (submitBody s webhookUrl).render

variable {base : String} {bank : Bank.Service} {o : Bank.Occasion}

theorem submit_delivering (h : IsBankUrl base) (o : Bank.Occasion) (bank : Bank.Service)
    (s : Submission) (webhookUrl : Option String) :
    submit (delivering o) bank base webhookUrl s =
      ((readAnswer (trimBase base ++ "/submit") "receipt_id"
        (.ok (bank.respond (post s webhookUrl) o).response)).map fun _ => (),
        (bank.respond (post s webhookUrl) o).service) := by
  obtain ⟨url, hparse, hcallable, htarget⟩ := h
  have harriving : arriving ⟨"POST", url.anonymous, some (submitBody s webhookUrl).render⟩ =
      post s webhookUrl := by
    simp only [arriving, post, Option.map_some, Option.getD_some, ← htarget]
    rfl
  simp only [submit, Web.Network.exchange, hparse, hcallable, if_true, delivering, harriving]

theorem isSubmit_post (s : Submission) (webhookUrl : Option String) :
    Bank.Service.IsSubmit (post s webhookUrl) := by
  refine ⟨?_, rfl⟩
  have hpath : (post s webhookUrl).path = "/submit" := by
    simp only [Web.Request.path, Web.Request.pathAndQuery, Web.Request.localTarget, post]
    decide +kernel
  rw [hpath]
  rfl

theorem respond_post (bank : Bank.Service) (s : Submission) (webhookUrl : Option String)
    (o : Bank.Occasion) :
    bank.respond (post s webhookUrl) o = bank.submit (post s webhookUrl) o := by
  have hsubmit := isSubmit_post s webhookUrl
  simp only [Bank.Service.respond, hsubmit.1, Bank.Service.Route.allows, hsubmit.2,
    beq_self_eq_true, if_true, Bank.Service.follow, hsubmit.sentTo]

theorem submissionOf_post (h : Fits s webhookUrl)
    (hsize : (submitBody s webhookUrl).render.utf8ByteSize ≤ bank.maxBody) :
    bank.submissionOf (post s webhookUrl) = .ok (validSubmission s webhookUrl) := by
  have htype : (post s webhookUrl).contentType.any Web.MediaType.isJson = true :=
    Web.MediaType.isJson_plain
  have hlength : (post s webhookUrl).body.length ≤ bank.maxBody := by
    rwa [post, Bytes.length_ofText]
  exact Bank.Service.submissionOf_eq_ok_iff.2 ⟨htype, hlength, submitRequest s webhookUrl,
    read_submitBody s webhookUrl, validate_submitRequest h⟩

/-! ## Answers -/

/-- A structure of one text is read as it is written. -/
theorem ofText_textField (name value : String) :
    Json.ofText (textField name) (Value.ofTexts [(name, value)]).render = .ok value := by
  rw [Json.ofText, Json.ofBytes, Json.hasTexts_ofTexts]
  simp [textField, Json.asStructure, Json.readMembers, Json.field, Json.asText, Except.map,
    Checks.ok_bind]

theorem readAnswer_submitted (url id : String) :
    readAnswer url "receipt_id" (.ok (Bank.Service.submitted id)) = .ok id := by
  have hsuccess : Web.Status.isSuccess (Bank.Service.submitted id).status = true := by
    rw [Bank.Service.status_submitted]
    decide
  have hread : Json.ofText (textField "receipt_id") (Bank.Service.submitted id).body = .ok id :=
    ofText_textField "receipt_id" id
  simp only [readAnswer, hsuccess, if_true, hread]

/-- A refusal reaches the client with its status and its message. -/
theorem readAnswer_refused (url field : String) (fault : Bank.ServiceFault)
    (hstatus : Web.Status.isSuccess fault.status = false) :
    readAnswer url field (.ok fault.response) =
      .error (.status url fault.status fault.message) := by
  have hfailure : Web.Status.isSuccess fault.response.status = false := hstatus
  have hread : Json.ofText (textField "error") fault.response.body = .ok fault.message :=
    ofText_textField "error" fault.message
  simp only [readAnswer, hfailure, Bool.false_eq_true, if_false, errorMessage, hread]
  rfl

/-- A posted submission that the store takes, if its body is not too long. -/
theorem submit_of_stored (hbase : IsBankUrl base) (h : Fits s webhookUrl)
    (hsize : (submitBody s webhookUrl).render.utf8ByteSize ≤ bank.maxBody)
    {store : Bank.Store OneTimeKey}
    (hkept : bank.store.submit s.key s.payload (s.trackingId.getD o.freshId) webhookUrl o.now =
      .ok store) :
    (submit (delivering o) bank base webhookUrl s).1 = .ok () ∧
      (submit (delivering o) bank base webhookUrl s).2.store = store := by
  rw [submit_delivering hbase, respond_post, Bank.Service.submit, submissionOf_post h hsize]
  simp only [Bank.Service.keep, validSubmission, hkept]
  have hread := readAnswer_submitted (trimBase base ++ "/submit") (s.trackingId.getD o.freshId)
  exact ⟨congrArg (Except.map _) hread, trivial⟩

/-- A posted submission that the store refuses. -/
theorem submit_of_conflict (hbase : IsBankUrl base) (h : Fits s webhookUrl)
    (hsize : (submitBody s webhookUrl).render.utf8ByteSize ≤ bank.maxBody)
    {fault : Bank.StoreFault}
    (hkept : bank.store.submit s.key s.payload (s.trackingId.getD o.freshId) webhookUrl o.now =
      .error fault) :
    (submit (delivering o) bank base webhookUrl s).1 =
        .error (.status (trimBase base ++ "/submit") 409
          (Bank.ServiceFault.conflict fault).message) ∧
      (submit (delivering o) bank base webhookUrl s).2.store = bank.store := by
  rw [submit_delivering hbase, respond_post, Bank.Service.submit, submissionOf_post h hsize]
  simp only [Bank.Service.keep, validSubmission, hkept]
  have hread := readAnswer_refused (trimBase base ++ "/submit") "receipt_id" (.conflict fault) rfl
  exact ⟨congrArg (Except.map _) hread, trivial⟩

/-- A well-formed submission is stored, is in conflict, or is too long. -/
theorem status_respond_post (h : Fits s webhookUrl) (bank : Bank.Service) (o : Bank.Occasion) :
    (bank.respond (post s webhookUrl) o).response.status ∈ [200, 409, 413] := by
  rw [respond_post, Bank.Service.submit]
  by_cases hsize : (submitBody s webhookUrl).render.utf8ByteSize ≤ bank.maxBody
  · rw [submissionOf_post h hsize]
    simp only [Bank.Service.keep]
    split
    · exact List.mem_cons_of_mem _ (List.mem_cons_self ..)
    · exact List.mem_cons_self ..
  · have hlong : bank.submissionOf (post s webhookUrl) = .error .bodyTooLong := by
      have htype : (post s webhookUrl).contentType.any Web.MediaType.isJson = true :=
        Web.MediaType.isJson_plain
      have hover : bank.maxBody < (post s webhookUrl).body.length := by
        rw [post, Bytes.length_ofText]
        exact Nat.lt_of_not_le hsize
      rw [Bank.Service.submissionOf, htype, if_neg (by decide), if_pos hover]
    rw [hlong]
    exact List.mem_cons_of_mem _ (List.mem_cons_of_mem _ (List.mem_cons_self ..))

/-! ## Submissions of an issuance -/

theorem isId_transactionId {t : Timestamp} (hyear : 0 ≤ t.date.year ∧ t.date.year ≤ 9999)
    (n : UInt32) : IsId (Identifier.transactionId t n) := by
  obtain ⟨date, digits, htext, hdate, hnumber⟩ :=
    Identifier.transactionId?_eq_ok_iff.1 (Identifier.transactionId?_transactionId n hyear)
  have halphanum : ∀ {c : Char}, c.isDigit = true → c.isAlphanum = true := by
    intro c hc
    rw [Char.isAlphanum, hc, Bool.or_true]
  refine ⟨?_, fun c hc => .inl ?_⟩
  · intro hempty
    rw [hempty] at htext
    cases htext
  · rw [htext] at hc
    rcases List.mem_append.1 hc with hstart | hc
    · simp only [List.mem_cons, List.not_mem_nil, or_false] at hstart
      rcases hstart with rfl | rfl <;> decide
    · rcases List.mem_append.1 hc with hc | hc
      · exact halphanum (hdate.isDigit c hc)
      · exact halphanum (hnumber.isDigit c hc)

theorem payload_ne_nil {receiver : Curve.Point} {text payload : Bytes} {entropy : Seal.Entropy}
    (h : (Seal.sealFor receiver text entropy).1 = .ok payload) : payload ≠ [] := by
  obtain ⟨ephemeral, nonce, -, -, rfl⟩ := Seal.sealFor_eq_ok h
  intro hempty
  have hlength := congrArg List.length hempty
  simp [Seal.sealWith, Curve.uncompressedLength] at hlength

theorem fits_of_issue {β : Type} {r : Register β} {receiverKey : Bytes} {now : Timestamp}
    {entropy : Seal.Entropy}
    (h : (r.issue receiverKey now entropy).outcome.submission? = some s)
    (hwebhook : ∀ text, webhookUrl = some text → IsWebUrl text) : Fits s webhookUrl := by
  obtain ⟨draft, method, receiver, -, -, hs, -⟩ := Issuance.issue_submits h
  obtain ⟨signed, hsealed⟩ := hs.sealed
  refine ⟨payload_ne_nil hsealed, fun id hid => ?_, hwebhook⟩
  obtain rfl := Option.some.inj (hs.trackingId.symm.trans hid)
  exact isId_transactionId hs.year _

/-- **A client and the bank agree.**

* What a client writes of a submission that fits is read and found valid by the bank, with the key,
  the payload, the id and the webhook that were handed to the client.
* Let the messages be delivered, and the body be not too long. Then the client says that the
  submission was taken exactly if the store has taken it, and the store then has it under its key;
  else the store is left as it was.
* The transaction ids of the years of four digits and the payloads that are sealed fit, so an
  issuance has only submissions that fit, and to these a bank never answers that the request is
  bad. -/
theorem client_and_bank_agree :
    (∀ s webhookUrl, Fits s webhookUrl →
      ∃ request,
        Bank.SubmitRequest.read (Bytes.ofText (submitBody s webhookUrl).render) = .ok request ∧
        request.validate = .ok
          { key := s.key, payload := s.payload, receiptId := s.trackingId, webhookUrl }) ∧
    (∀ s webhookUrl base (bank : Bank.Service) (o : Bank.Occasion), Fits s webhookUrl →
      IsBankUrl base → (submitBody s webhookUrl).render.utf8ByteSize ≤ bank.maxBody →
      let id := s.trackingId.getD o.freshId
      let kept := bank.store.submit s.key s.payload id webhookUrl o.now
      let sent := submit (delivering o) bank base webhookUrl s
      (sent.1 = .ok () ↔ ∃ store, kept = .ok store) ∧
        (∀ store, kept = .ok store → sent.2.store = store ∧
          sent.2.store.byKey[s.key]? = some ⟨s.payload, id, webhookUrl, o.now⟩) ∧
        ∀ fault, kept = .error fault → sent.2.store = bank.store) ∧
    (∀ (t : Timestamp) (n : UInt32), (0 ≤ t.date.year ∧ t.date.year ≤ 9999) →
      IsId (Identifier.transactionId t n)) ∧
    (∀ receiver text entropy payload, (Seal.sealFor receiver text entropy).1 = .ok payload →
      payload ≠ []) ∧
    ∀ (β : Type) (r : Register β) receiverKey now entropy s,
      (r.issue receiverKey now entropy).outcome.submission? = some s →
      ∀ webhookUrl, (∀ text, webhookUrl = some text → IsWebUrl text) →
        Fits s webhookUrl ∧ ∀ (bank : Bank.Service) (o : Bank.Occasion),
          (bank.respond (post s webhookUrl) o).response.status ≠ 400 := by
  refine ⟨?read, ?sent, fun t n hyear => isId_transactionId hyear n,
    fun receiver text entropy payload => payload_ne_nil, ?issued⟩
  case read =>
    intro s webhookUrl h
    exact ⟨submitRequest s webhookUrl, read_submitBody s webhookUrl, validate_submitRequest h⟩
  case sent =>
    intro s webhookUrl base bank o h hbase hsize
    dsimp only
    cases hkept : bank.store.submit s.key s.payload (s.trackingId.getD o.freshId) webhookUrl
        o.now with
    | ok store =>
      obtain ⟨hanswer, hstore⟩ := submit_of_stored hbase h hsize hkept
      obtain ⟨-, -, hput⟩ := Bank.Store.submit_eq_ok_iff.1 hkept
      rw [hanswer, hstore]
      refine ⟨⟨fun _ => ⟨store, rfl⟩, fun _ => rfl⟩, ?_, fun fault h => (by cases h)⟩
      intro store' h
      obtain rfl := Except.ok.inj h
      rw [← hput, Bank.Store.put_byKey]
      exact ⟨rfl, Std.HashMap.getElem?_insert_self⟩
    | error fault =>
      obtain ⟨hanswer, hstore⟩ := submit_of_conflict hbase h hsize hkept
      rw [hanswer, hstore]
      refine ⟨⟨fun h => (by cases h), ?_⟩, fun store h => (by cases h), fun _ _ => rfl⟩
      rintro ⟨store, h⟩
      cases h
  case issued =>
    intro β r receiverKey now entropy s hs webhookUrl hwebhook
    have hfits := fits_of_issue hs hwebhook
    refine ⟨hfits, fun bank o hbad => ?_⟩
    have hstatus := status_respond_post hfits bank o
    rw [hbad] at hstatus
    revert hstatus
    decide

/-- A submission for the generator of the curve. -/
def counterSubmission : Submission where
  key := .ofPoint Curve.generator
  payload := [1, 2, 3]
  trackingId := some "TX202501150042"

/-- What comes of sending it to a new bank. -/
def counterSent : Except Fault Unit × Bank.Service :=
  submit (delivering ⟨5, ⟨1736933400, 0⟩, "r-1"⟩) (.new 1000 10000) "http://bank:8082/"
    (some "https://till/collected") counterSubmission

/-- It is stored with its webhook; and what a till submits fits. -/
theorem client_and_bank_agree_counter :
    (counterSent.1 = .ok () ∧ counterSent.2.store.byKey[counterSubmission.key]? =
        some ⟨[1, 2, 3], "TX202501150042", some "https://till/collected", 5⟩) ∧
      ∃ s, (Register.tillIssued 64).outcome.submission? = some s ∧ Fits s none := by
  obtain ⟨-, hsent, -, -, hissued⟩ := client_and_bank_agree
  constructor
  · have hbase : IsBankUrl "http://bank:8082/" := by
      have hparse : (Web.Url.parse? (trimBase "http://bank:8082/" ++ "/submit")).map
          (fun url => (url.anonymous.isCallable, url.target)) = some (true, "/submit") := by
        decide +kernel
      obtain ⟨url, hurl, hparts⟩ := Option.map_eq_some_iff.1 hparse
      obtain ⟨hcallable, htarget⟩ := Prod.mk.inj hparts
      exact ⟨url, hurl, hcallable, htarget⟩
    have hfits : Fits counterSubmission (some "https://till/collected") := by
      refine ⟨by decide, ?_, ?_⟩
      · intro id hid
        obtain rfl := Option.some.inj hid
        exact isReceiptId_iff.1 (by decide)
      · intro text htext
        obtain rfl := Option.some.inj htext
        have hparse : (Web.Url.parse? "https://till/collected").map (·.isHttp) =
            some true := by
          decide +kernel
        exact Option.map_eq_some_iff.1 hparse
    have hkept : (Bank.Store.empty 1000).submit counterSubmission.key [1, 2, 3] "TX202501150042"
        (some "https://till/collected") 5 = .ok _ :=
      Bank.Store.submit_eq_ok_iff.2 ⟨Std.HashMap.contains_empty, Std.HashMap.contains_empty, rfl⟩
    obtain ⟨hanswer, hstored, -⟩ := hsent _ _ _ (.new 1000 10000) ⟨5, ⟨1736933400, 0⟩, "r-1"⟩ hfits
      hbase (by decide +kernel)
    exact ⟨hanswer.2 ⟨_, hkept⟩, (hstored _ hkept).2⟩
  · have hasked : (Register.tillIssued 64).outcome.submission?.isSome = true := by decide +kernel
    obtain ⟨s, hs⟩ := Option.isSome_iff_exists.1 hasked
    exact ⟨s, hs, (hissued _ _ _ _ _ s hs none (fun text h => by cases h)).1⟩

end Remote

end SealedReceipts
