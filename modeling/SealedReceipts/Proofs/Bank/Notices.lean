import Mathlib.Algebra.Group.Nat.Defs
import Mathlib.Data.Nat.Find
import SealedReceipts.Bank.Server

/-!
# A notice is posted until it is taken

The delivery of a notice makes call after call, with waits between them, and what a call brings back
may depend on all that was before it. A delivery whose first calls fail goes on as one that begins
behind them (`Course.rest_eq`), so it ends with the first call that succeeds, or with the last that
its retries allow. Surroundings that keep a record show what was done (`worldAfter_recorded`): the
same call each time, a longer wait before each retry, and nothing behind the first success
(`Webhook.notify_until_taken`).
-/

namespace SealedReceipts

/-! ## Calls to a URL -/

namespace Web

variable {ω : Type}

/-- What a call to a URL goes to, if the URL can be used. -/
def Url.target? (url : String) : Option Url :=
  ((Url.parse? url).map Url.anonymous).filter Url.isCallable

namespace Network

variable {network : Network ω} {world : ω} {method url : String} {body : Option String}

/-- A call to a URL that can be used is made, once. -/
theorem exchange_of_target {target : Url} (h : Url.target? url = some target) :
    network.exchange world method url body =
      ((network ⟨method, target, body⟩ world).1.elim (.error (.noAnswer target)) .ok,
        (network ⟨method, target, body⟩ world).2) := by
  obtain ⟨hparsed, hcallable⟩ := Option.filter_eq_some_iff.1 h
  obtain ⟨parsed, hparse, rfl⟩ := Option.map_eq_some_iff.1 hparsed
  simp only [exchange, hparse, hcallable, if_true]
  cases network ⟨method, parsed.anonymous, body⟩ world with
  | mk answer world => cases answer <;> rfl

/-- A call to any other URL is not made, on whatever network. -/
theorem exchange_of_unusable (h : Url.target? url = none) :
    ∃ fault, ∀ {ω : Type} (network : Network ω) (world : ω) (method : String)
      (body : Option String), network.exchange world method url body = (.error fault, world) := by
  cases hparse : Url.parse? url with
  | none =>
    refine ⟨.noUrl, fun network world method body => ?_⟩
    simp only [exchange, hparse]
  | some parsed =>
    have hunusable : parsed.anonymous.isCallable = false := by
      simpa [Url.target?, hparse, Option.filter_some] using h
    refine ⟨.unusable parsed.anonymous, fun network world method body => ?_⟩
    simp [exchange, hparse, hunusable]

end Network

end Web

namespace Bank

namespace Webhook

/-! ## The course of a delivery -/

/-- What a delivery is made with: the step of its waits, what waiting and calling do, and the world
in which it begins. -/
structure Course (ω : Type) where
  retryStep : Duration
  pause : Duration → ω → ω
  call : ω → Except Fault Unit × ω
  world : ω

namespace Course

variable {ω : Type} {c : Course ω} {maxRetries n : Nat}

/-- The call with a number, from 0 on, behind its wait. -/
def tryAt (c : Course ω) (n : Nat) (world : ω) : Except Fault Unit × ω :=
  c.call (waitBefore c.retryStep c.pause n world)

/-- The world behind so many calls. -/
def worldAfter (c : Course ω) : Nat → ω
  | 0 => c.world
  | n + 1 => (c.tryAt n (c.worldAfter n)).2

/-- What comes of the call with a number behind those before it. -/
def outcomeAt (c : Course ω) (n : Nat) : Except Fault Unit := (c.tryAt n (c.worldAfter n)).1

/-- The delivery from the call with a number on. -/
def rest (c : Course ω) (maxRetries n : Nat) : Except Fault Unit × ω :=
  deliverFrom maxRetries c.retryStep c.pause c.call n (c.worldAfter n)

/-- A call that succeeds is the last, and so is one behind which no retry is left. -/
theorem rest_of_last (h : c.outcomeAt n = .ok () ∨ maxRetries ≤ n) :
    c.rest maxRetries n = (c.outcomeAt n, c.worldAfter (n + 1)) := by
  rw [rest, deliverFrom, outcomeAt, worldAfter, tryAt]
  rw [outcomeAt, tryAt] at h
  cases hcall : c.call (waitBefore c.retryStep c.pause n (c.worldAfter n)) with
  | mk outcome world =>
    cases outcome with
    | ok _ => rfl
    | error fault =>
      rw [hcall] at h
      have hlast : maxRetries ≤ n := h.resolve_left fun hok => by cases hok
      simp only [if_pos hlast]

/-- Behind a call that fails the delivery goes on with the next, while a retry is left. -/
theorem rest_of_retry (h : c.outcomeAt n ≠ .ok ()) (hleft : n < maxRetries) :
    c.rest maxRetries n = c.rest maxRetries (n + 1) := by
  rw [rest, deliverFrom, rest, worldAfter, tryAt]
  rw [outcomeAt, tryAt] at h
  cases hcall : c.call (waitBefore c.retryStep c.pause n (c.worldAfter n)) with
  | mk outcome world =>
    cases outcome with
    | ok _ => exact absurd (by rw [hcall]) h
    | error fault => simp only [if_neg hleft.not_ge]

/-- What a whole delivery does: it passes all the calls that fail. -/
theorem rest_eq (hfails : ∀ k < n, c.outcomeAt k ≠ .ok ()) (hbound : n ≤ maxRetries) :
    c.rest maxRetries 0 = c.rest maxRetries n := by
  induction n with
  | zero => rfl
  | succ n ih =>
    rw [ih (fun k hk => hfails k (Nat.lt_succ_of_lt hk)) (Nat.le_of_succ_le hbound)]
    exact rest_of_retry (hfails n (Nat.lt_succ_self n)) hbound

/-- A delivery ends as its last call: the first that succeeds, or the last that is allowed. -/
theorem rest_of_fails (hfails : ∀ k < n, c.outcomeAt k ≠ .ok ()) (hbound : n ≤ maxRetries)
    (hlast : c.outcomeAt n = .ok () ∨ n = maxRetries) :
    c.rest maxRetries 0 = (c.outcomeAt n, c.worldAfter (n + 1)) := by
  rw [rest_eq hfails hbound]
  exact rest_of_last (hlast.imp_right fun heq => Nat.le_of_eq heq.symm)

/-- Every delivery has a last call. -/
theorem exists_last (c : Course ω) (maxRetries : Nat) :
    ∃ n ≤ maxRetries, (∀ k < n, c.outcomeAt k ≠ .ok ()) ∧
      (c.outcomeAt n = .ok () ∨ n = maxRetries) := by
  classical
  have hexists : ∃ n, c.outcomeAt n = .ok () ∨ n = maxRetries := ⟨maxRetries, .inr rfl⟩
  refine ⟨Nat.find hexists, Nat.find_min' hexists (.inr rfl), fun k hk hok => ?_,
    Nat.find_spec hexists⟩
  exact Nat.find_min hexists hk (.inl hok)

/-! ### Outcomes by number -/

/-- The course of a delivery to a peer that counts its calls, with the waits so far. -/
def ofOutcomes (retryStep : Duration) (outcome : Nat → Except Fault Unit) :
    Course (Nat × List Duration) where
  retryStep := retryStep
  pause := fun wait world => (world.1, world.2 ++ [wait])
  call := fun world => (outcome world.1, world.1 + 1, world.2)
  world := (0, [])

variable {retryStep : Duration} {outcome : Nat → Except Fault Unit}

theorem worldAfter_ofOutcomes (n : Nat) :
    (ofOutcomes retryStep outcome).worldAfter n =
      (n, (List.range' 1 (n - 1)).map fun k => ⟨k * retryStep.nanoseconds⟩) := by
  induction n with
  | zero => rfl
  | succ n ih =>
    rw [worldAfter, ih]
    cases n with
    | zero => rfl
    | succ n => simp [ofOutcomes, tryAt, waitBefore, List.range'_1_concat, Nat.add_comm 1 n]

theorem outcomeAt_ofOutcomes (n : Nat) :
    (ofOutcomes retryStep outcome).outcomeAt n = outcome n := by
  rw [outcomeAt, worldAfter_ofOutcomes]
  unfold tryAt waitBefore
  split <;> rfl

end Course

/-- The delivery to a peer that counts its calls, by its last call. -/
theorem deliver_eq {maxRetries n : Nat} {outcome : Nat → Except Fault Unit}
    (retryStep : Duration) (hfails : ∀ k < n, outcome k ≠ .ok ()) (hbound : n ≤ maxRetries)
    (hlast : outcome n = .ok () ∨ n = maxRetries) :
    deliver maxRetries retryStep outcome =
      ⟨(List.range' 1 n).map fun k => ⟨k * retryStep.nanoseconds⟩, outcome n⟩ := by
  have hdeliver : deliver maxRetries retryStep outcome =
      ⟨((Course.ofOutcomes retryStep outcome).rest maxRetries 0).2.2,
        ((Course.ofOutcomes retryStep outcome).rest maxRetries 0).1⟩ := rfl
  rw [hdeliver, Course.rest_of_fails (by simpa only [Course.outcomeAt_ofOutcomes] using hfails)
    hbound (by rwa [Course.outcomeAt_ofOutcomes]), Course.outcomeAt_ofOutcomes,
    Course.worldAfter_ofOutcomes]
  rfl

/-! ## Posting a notice -/

section Posting

variable {ω : Type} {around : Surroundings ω} {maxRetries n : Nat} {retryStep : Duration}
  {url body : String} {world : ω}

/-- The course of posting a text. -/
def Course.ofPosts (around : Surroundings ω) (retryStep : Duration) (url body : String)
    (world : ω) : Course ω :=
  { retryStep, pause := around.pause, call := post around url body, world }

/-- What the call with a number, from 0 on, brings back. -/
def answerAt (around : Surroundings ω) (retryStep : Duration) (url body : String) (world : ω)
    (n : Nat) : Except Web.CallFault Web.Response :=
  let before := (Course.ofPosts around retryStep url body world).worldAfter n
  (around.network.exchange (waitBefore retryStep around.pause n before) "POST" url (some body)).1

/-- The call was answered, with a status from 200 to 299. -/
def Taken (answer : Except Web.CallFault Web.Response) : Prop :=
  ∃ response, answer = .ok response ∧ 200 ≤ response.status ∧ response.status < 300

theorem outcomeAt_ofPosts :
    (Course.ofPosts around retryStep url body world).outcomeAt n =
      outcomeOf (answerAt around retryStep url body world n) := rfl

theorem outcomeOf_of_taken {answer : Except Web.CallFault Web.Response} (h : Taken answer) :
    outcomeOf answer = .ok () := by
  obtain ⟨response, rfl, hfrom, hto⟩ := h
  simp [outcomeOf, Web.Status.isSuccess, hfrom, hto]

theorem outcomeOf_of_not_taken {response : Web.Response} (h : ¬ Taken (.ok response)) :
    outcomeOf (.ok response) = .error (.status response.status) := by
  refine if_neg fun hsuccess => h ⟨response, rfl, ?_⟩
  simpa [Web.Status.isSuccess] using hsuccess

/-- The calls that are taken are those that succeed. -/
theorem outcomeOf_eq_ok_iff {answer : Except Web.CallFault Web.Response} :
    outcomeOf answer = .ok () ↔ Taken answer := by
  refine ⟨fun hok => by_contra fun hnot => ?_, outcomeOf_of_taken⟩
  cases answer with
  | error fault => cases hok
  | ok response => cases (outcomeOf_of_not_taken hnot).symm.trans hok

/-! ## Records -/

/-- What is done in a delivery. -/
inductive Event where
  | waited (span : Duration)
  | called (call : Web.Call)
  deriving DecidableEq

/-- The surroundings, with a record of the waits and the calls in them. -/
def Surroundings.recorded (around : Surroundings ω) : Surroundings (List Event × ω) where
  network := fun call (events, world) =>
    let (answer, world) := around.network call world
    (answer, events ++ [.called call], world)
  pause := fun span (events, world) => (events ++ [.waited span], around.pause span world)

/-- The wait before the call with a number; none before the first. -/
def waitsAt (retryStep : Duration) (n : Nat) : List Event :=
  if 0 < n then [.waited ⟨n * retryStep.nanoseconds⟩] else []

/-- The posting of a text to a URL, if the URL can be used. -/
def callsTo (url body : String) : List Event :=
  match Web.Url.target? url with
  | some target => [.called ⟨"POST", target, some body⟩]
  | none => []

/-- What is done for the call with a number. -/
def eventsAt (retryStep : Duration) (url body : String) (n : Nat) : List Event :=
  waitsAt retryStep n ++ callsTo url body

theorem eq_of_waited_mem {span : Duration} (h : .waited span ∈ eventsAt retryStep url body n) :
    span = ⟨n * retryStep.nanoseconds⟩ := by
  rcases List.mem_append.1 h with hwaited | hcalled
  · unfold waitsAt at hwaited
    split at hwaited
    · exact (Event.waited.inj (List.mem_singleton.1 hwaited))
    · cases hwaited
  · unfold callsTo at hcalled
    split at hcalled
    · cases List.mem_singleton.1 hcalled
    · cases hcalled

theorem waitBefore_recorded (events : List Event) (world : ω) :
    waitBefore retryStep around.recorded.pause n (events, world) =
      (events ++ waitsAt retryStep n, waitBefore retryStep around.pause n world) := by
  unfold waitBefore waitsAt
  split <;> simp [Surroundings.recorded]

theorem post_recorded (events : List Event) (world : ω) :
    post around.recorded url body (events, world) =
      ((post around url body world).1, events ++ callsTo url body,
        (post around url body world).2) := by
  unfold post callsTo
  cases htarget : Web.Url.target? url with
  | none =>
    obtain ⟨fault, hfault⟩ := Web.Network.exchange_of_unusable htarget
    simp [hfault]
  | some target =>
    simp only [Web.Network.exchange_of_target htarget, Surroundings.recorded]

/-- One call behind its wait, as it is recorded. The record changes nothing else. -/
theorem tryAt_recorded (events : List Event) (before : ω) :
    (Course.ofPosts around.recorded retryStep url body ([], world)).tryAt n (events, before) =
      (((Course.ofPosts around retryStep url body world).tryAt n before).1,
        events ++ eventsAt retryStep url body n,
        ((Course.ofPosts around retryStep url body world).tryAt n before).2) := by
  simp only [Course.tryAt, Course.ofPosts, waitBefore_recorded, post_recorded, eventsAt,
    List.append_assoc]

/-- What is recorded of so many calls, everything else being left as without the record. -/
theorem worldAfter_recorded (n : Nat) :
    (Course.ofPosts around.recorded retryStep url body ([], world)).worldAfter n =
      ((List.range n).flatMap (eventsAt retryStep url body),
        (Course.ofPosts around retryStep url body world).worldAfter n) := by
  induction n with
  | zero => rfl
  | succ n ih =>
    rw [Course.worldAfter, ih, tryAt_recorded, List.range_succ, List.flatMap_append,
      List.flatMap_singleton, Course.worldAfter]

theorem outcomeAt_recorded (n : Nat) :
    (Course.ofPosts around.recorded retryStep url body ([], world)).outcomeAt n =
      (Course.ofPosts around retryStep url body world).outcomeAt n := by
  rw [Course.outcomeAt, worldAfter_recorded, tryAt_recorded, Course.outcomeAt]

/-- A delivery with a record and the one without it end behind the same number of calls. -/
theorem notify_recorded (around : Surroundings ω) (maxRetries : Nat) (retryStep : Duration)
    (url : String) (notice : Notice) (world : ω) :
    let c := Course.ofPosts around retryStep url notice.toValue.render world
    ∃ n ≤ maxRetries, (∀ k < n, c.outcomeAt k ≠ .ok ()) ∧
      (c.outcomeAt n = .ok () ∨ n = maxRetries) ∧
      notify around maxRetries retryStep url notice world =
        (c.outcomeAt n, c.worldAfter (n + 1)) ∧
      notify around.recorded maxRetries retryStep url notice ([], world) =
        (c.outcomeAt n,
          (List.range (n + 1)).flatMap (eventsAt retryStep url notice.toValue.render),
          c.worldAfter (n + 1)) := by
  intro c
  obtain ⟨n, hbound, hfails, hlast⟩ := c.exists_last maxRetries
  refine ⟨n, hbound, hfails, hlast, Course.rest_of_fails hfails hbound hlast, ?_⟩
  have hrest := Course.rest_of_fails
    (c := Course.ofPosts around.recorded retryStep url notice.toValue.render ([], world))
    (by simpa only [outcomeAt_recorded] using hfails) hbound
    (by simpa only [outcomeAt_recorded] using hlast)
  rwa [outcomeAt_recorded, worldAfter_recorded] at hrest

/-- **A notice is posted until it is taken.** In all surroundings, whatever each call brings back,
the delivery ends, and for some number of calls:

* what is done is, for each of them in turn, to wait as often the step as calls were made before,
  and to post the notice to the URL, if it can be used; without the record the delivery goes the
  same;
* if a call that the retries allow is taken, the first such is the last call, and the delivery
  succeeds;
* if none is taken, all retries are made, and the delivery fails as the last of them. -/
theorem notify_until_taken (around : Surroundings ω) (maxRetries : Nat) (retryStep : Duration)
    (url : String) (notice : Notice) (world : ω) :
    ∃ calls result after,
      notify around.recorded maxRetries retryStep url notice ([], world) =
        (result, (List.range calls).flatMap (eventsAt retryStep url notice.toValue.render), after) ∧
      notify around maxRetries retryStep url notice world = (result, after) ∧
      (∀ i ≤ maxRetries, Taken (answerAt around retryStep url notice.toValue.render world i) →
        (∀ k < i, ¬ Taken (answerAt around retryStep url notice.toValue.render world k)) →
        calls = i + 1 ∧ result = .ok ()) ∧
      ((∀ i ≤ maxRetries,
          ¬ Taken (answerAt around retryStep url notice.toValue.render world i)) →
        calls = maxRetries + 1 ∧
        (∀ response,
          answerAt around retryStep url notice.toValue.render world maxRetries = .ok response →
          result = .error (.status response.status)) ∧
        ∀ fault,
          answerAt around retryStep url notice.toValue.render world maxRetries = .error fault →
          result = .error (.request fault)) := by
  obtain ⟨n, hbound, hfails, hlast, hplain, hrecorded⟩ :=
    notify_recorded around maxRetries retryStep url notice world
  simp only [outcomeAt_ofPosts, ne_eq, outcomeOf_eq_ok_iff] at hfails hlast hplain hrecorded
  refine ⟨n + 1, _, _, hrecorded, hplain, fun i hi htaken hfirst => ?taken, fun hnone => ?not⟩
  case taken =>
    have hnotBefore : ¬ i < n := fun hlt => hfails i hlt htaken
    have hnotBehind : ¬ n < i := fun hlt => hlast.elim (hfirst n hlt) (by omega)
    obtain rfl : i = n := by omega
    exact ⟨rfl, outcomeOf_of_taken htaken⟩
  case not =>
    obtain rfl : n = maxRetries := hlast.resolve_left (hnone n hbound)
    refine ⟨rfl, fun response hanswer => ?_, fun fault hanswer => ?_⟩
    · rw [hanswer, outcomeOf_of_not_taken (hanswer ▸ hnone n hbound)]
    · rw [hanswer, outcomeOf]

/-- The surroundings of a peer that counts its calls: `answers` says what each brings back. -/
def Surroundings.numbered (answers : Nat → Option Web.Response) : Surroundings Nat where
  network := fun _ made => (answers made, made + 1)
  pause := fun _ made => made

/-- Any answers can come back, one after another. -/
theorem answerAt_numbered {answers : Nat → Option Web.Response} {target : Web.Url}
    (h : Web.Url.target? url = some target) (n : Nat) :
    answerAt (.numbered answers) retryStep url body 0 n =
      (answers n).elim (.error (.noAnswer target)) .ok := by
  have hwait : ∀ n made, waitBefore retryStep (Surroundings.numbered answers).pause n made = made :=
    fun n made => ite_self made
  have hworld : ∀ n,
      (Course.ofPosts (.numbered answers) retryStep url body 0).worldAfter n = n := by
    intro n
    induction n with
    | zero => rfl
    | succ n ih =>
      rw [Course.worldAfter, ih]
      simp only [Course.tryAt, Course.ofPosts, hwait, post, Web.Network.exchange_of_target h]
      rfl
  simp only [answerAt, hworld, hwait, Web.Network.exchange_of_target h]
  rfl

/-- A peer that answers its first call with a failure, is not there for the second and takes the
third. -/
def busyPeer : Surroundings Nat :=
  .numbered fun made => [some ⟨503, ""⟩, none, some ⟨204, ""⟩][made]?.join

/-- The notice of a receipt that was collected, and where a till waits for it. -/
def collectedNotice : Notice := ⟨"r-1", ⟨1736933400, 0⟩⟩

def tillHook : String := "http://till:8080/hook"

/-- With three retries the busy peer takes the third call, and one retry is left; with a single
retry the delivery fails as the second call. -/
theorem notify_until_taken_busyPeer :
    ∃ target call, call = .called ⟨"POST", target, some collectedNotice.toValue.render⟩ ∧
      (∃ after, notify busyPeer.recorded 3 (.ofMilliseconds 250) tillHook collectedNotice ([], 0) =
        (.ok (), [call, .waited (.ofMilliseconds 250), call, .waited (.ofMilliseconds 500), call],
          after)) ∧
      (notify busyPeer 1 (.ofMilliseconds 250) tillHook collectedNotice 0).1 =
        .error (.request (.noAnswer target)) := by
  have hcalled : (Web.Url.target? tillHook).map (·.target) = some "/hook" := by
    decide +kernel
  obtain ⟨target, htarget, -⟩ := Option.map_eq_some_iff.1 hcalled
  have hanswer : ∀ n, answerAt busyPeer (.ofMilliseconds 250) tillHook
      collectedNotice.toValue.render 0 n = _ := answerAt_numbered htarget
  have hfails : ∀ k < 2, ¬ Taken (answerAt busyPeer (.ofMilliseconds 250) tillHook
      collectedNotice.toValue.render 0 k) := by
    intro k hk
    have hcases : k = 0 ∨ k = 1 := by omega
    rcases hcases with rfl | rfl <;> simp [hanswer, Taken]
  have htaken : Taken (answerAt busyPeer (.ofMilliseconds 250) tillHook
      collectedNotice.toValue.render 0 2) := by
    simp [hanswer, Taken]
  refine ⟨target, _, rfl, ?_, ?_⟩
  · obtain ⟨calls, result, after, hrecorded, -, hlast, -⟩ :=
      notify_until_taken busyPeer 3 (.ofMilliseconds 250) tillHook collectedNotice 0
    obtain ⟨rfl, rfl⟩ := hlast 2 (by decide) htaken hfails
    rw [hrecorded]
    simp [List.range_succ, eventsAt, waitsAt, callsTo, htarget, Duration.ofMilliseconds]
  · obtain ⟨calls, result, after, -, hplain, -, hnone⟩ :=
      notify_until_taken busyPeer 1 (.ofMilliseconds 250) tillHook collectedNotice 0
    obtain ⟨-, -, hfault⟩ := hnone fun i hi => hfails i (Nat.lt_succ_of_le hi)
    rw [hplain]
    exact hfault _ (hanswer 1)

end Posting

end Webhook

/-- No wait of a bank at work is longer than the seconds that 32 bits count. -/
theorem Server.waited_lt {ω : Type} {s : Server} {around : Webhook.Surroundings ω}
    {n : Notification} {world : ω} {span : Duration}
    (h : .waited span ∈ (s.notify around.recorded n ([], world)).2.2.1) :
    span < .ofSeconds (2 ^ 32) := by
  have hworld : (s.notify around.recorded n ([], world)).2.2 = (Webhook.notify around.recorded
      s.settings.webhookMaxRetries.toNat Server.retryStep n.url n.notice ([], world)).2 := by
    unfold Server.notify
    dsimp only
    split <;> rfl
  obtain ⟨last, hbound, -, -, -, hrecorded⟩ := Webhook.notify_recorded around
    s.settings.webhookMaxRetries.toNat Server.retryStep n.url n.notice world
  rw [hworld, hrecorded] at h
  obtain ⟨k, hk, hevent⟩ := List.mem_flatMap.1 h
  have hretries := s.settings.webhookMaxRetries.toNat_lt
  have hlt : k < 2 ^ 32 := by
    rw [List.mem_range] at hk
    omega
  obtain rfl := Webhook.eq_of_waited_mem hevent
  exact Nat.mul_lt_mul_of_pos_right hlt (by decide)

end Bank

end SealedReceipts
