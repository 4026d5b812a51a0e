import SealedReceipts.Proofs.Bank.Mirror
import SealedReceipts.Proofs.Bank.Requests

/-!
# What a bank hands out over its whole life

A history is a bank that starts empty, and the requests and sweeps that come to it, each request
with its occasion: what the clocks show and the id that would be generated. The store of the bank
goes through the run of the calls that the events make of it, so that what is known of runs of
stores holds for the bank.
-/

namespace SealedReceipts

namespace Bank

/-- What comes to a bank. -/
inductive Event where
  | request (r : Web.Request) (o : Occasion)
  | sweep (now : Nat)

namespace Service

def after (s : Service) : Event → Service
  | .request r o => (s.respond r o).service
  | .sweep now => (s.sweep now).2

def starts (s : Service) : Event → List Notification
  | .request r o => (s.respond r o).started
  | .sweep _ => []

/-- The notices that events start, in their order. -/
def startedBy : Service → List Event → List Notification
  | _, [] => []
  | s, e :: rest => s.starts e ++ (s.after e).startedBy rest

/-- The call that an event makes of the store. One that asks nothing of it counts. -/
def call (s : Service) : Event → Store.Call OneTimeKey
  | .request r o =>
    match s.offer? r with
    | some v => .submit v.key v.payload (idFor v o) v.webhookUrl o.now
    | none =>
      match wanted? r with
      | some key => .collect key
      | none => .stats o.now
  | .sweep now => .sweep now

variable {s : Service} {r : Web.Request} {o : Occasion}

theorem call_congr {s' : Service} (h : s.maxBody = s'.maxBody) : s.call = s'.call := by
  have hoffer : s.offer? = s'.offer? := by
    funext r
    simp only [offer?, submissionOf, h]
  funext e
  cases e with
  | request r o => simp only [call, hoffer]
  | sweep now => rfl

theorem call_of_offer {v : ValidSubmission} (h : s.offer? r = some v) :
    s.call (.request r o) = .submit v.key v.payload (idFor v o) v.webhookUrl o.now := by
  simp only [call, h]

theorem call_of_wanted {key : OneTimeKey} (h : wanted? r = some key) :
    s.call (.request r o) = .collect key := by
  simp only [call, offer?_eq_none (not_isSubmit_of_wanted h), h]

/-- A request does to the store what its call does. -/
theorem after_store (s : Service) (e : Event) :
    (s.after e).store = (s.store.perform (s.call e)).2 ∧ (s.after e).maxBody = s.maxBody := by
  cases e with
  | sweep now => exact ⟨rfl, rfl⟩
  | request r o =>
    have hcourse := s.respond_course r o
    simp only [after]
    generalize s.respond r o = handled at hcourse
    cases hcourse with
    | @stored v counters hoffer hid hkey =>
      have hsubmit : s.store.submit v.key v.payload (idFor v o) v.webhookUrl o.now =
          .ok (s.store.put v.key (receiptFor v o)) :=
        Store.submit_eq_ok_iff.2 ⟨hid, hkey, rfl⟩
      simp only [call_of_offer hoffer, Store.perform, hsubmit, and_self]
    | @conflict v fault counters hoffer htaken =>
      have hrefused : ∃ found, s.store.submit v.key v.payload (idFor v o) v.webhookUrl o.now =
          .error found := Store.exists_submit_error_iff.2 htaken
      obtain ⟨found, hsubmit⟩ := hrefused
      simp only [call_of_offer hoffer, Store.perform, hsubmit, and_self]
    | @handedOut key receipt counters hwanted hstored =>
      simp only [call_of_wanted hwanted, Store.perform, Store.collect, and_self]
    | @missed key counters hwanted hnone =>
      have hsame : s.store.remove key = s.store := by rw [Store.remove, hnone]
      simp only [call_of_wanted hwanted, Store.perform, Store.collect, hsame, and_self]
    | other hoffer hwanted _ _ => simp only [call, hoffer, hwanted, Store.perform, and_self]

end Service

/-- A bank that starts empty, and what comes to it. -/
structure History where
  maxAge : Nat
  maxBody : Nat
  events : List Event

namespace History

/-- The bank after the first `n` events. -/
def service (h : History) (n : Nat) : Service :=
  (h.events.take n).foldl Service.after (.new h.maxAge h.maxBody)

def answer? (h : History) (n : Nat) : Option Web.Response :=
  match h.events[n]? with
  | some (.request r o) => some ((h.service n).respond r o).response
  | _ => none

/-- The notices that one event starts. -/
def startedAt (h : History) (n : Nat) : List Notification :=
  h.events[n]?.elim [] (h.service n).starts

/-- The notices that the first `n` events start, in their order. -/
def started (h : History) (n : Nat) : List Notification :=
  (Service.new h.maxAge h.maxBody).startedBy (h.events.take n)

def run (h : History) : Store.Run OneTimeKey where
  maxAge := h.maxAge
  calls := h.events.map (Service.new h.maxAge h.maxBody).call

variable {h : History} {n : Nat} {e : Event} {r : Web.Request} {o : Occasion}

theorem service_succ (he : h.events[n]? = some e) : h.service (n + 1) = (h.service n).after e :=
  Runs.foldl_take_succ he _ _

theorem service_succ_of_end (he : h.events[n]? = none) : h.service (n + 1) = h.service n :=
  Runs.foldl_take_succ_of_end he _ _

theorem answer?_eq (he : h.events[n]? = some (.request r o)) :
    h.answer? n = some ((h.service n).respond r o).response := by
  simp only [answer?, he]

theorem service_maxBody (h : History) (n : Nat) : (h.service n).maxBody = h.maxBody := by
  induction n with
  | zero => rfl
  | succ n ih =>
    cases he : h.events[n]? with
    | none => rw [service_succ_of_end he, ih]
    | some e => rw [service_succ he, (Service.after_store _ e).2, ih]

theorem run_call (he : h.events[n]? = some e) : h.run.calls[n]? = some ((h.service n).call e) := by
  have hcall : (h.service n).call = (Service.new h.maxAge h.maxBody).call :=
    Service.call_congr (h.service_maxBody n)
  rw [run, List.getElem?_map, he, hcall]
  rfl

/-- The store of the bank is that of the run. -/
theorem service_store (h : History) (n : Nat) : (h.service n).store = h.run.store n := by
  induction n with
  | zero => rfl
  | succ n ih =>
    cases he : h.events[n]? with
    | none =>
      have hend : h.run.calls[n]? = none := by rw [run, List.getElem?_map, he]; rfl
      rw [service_succ_of_end he, Store.Run.store_succ_of_end hend, ih]
    | some e =>
      rw [service_succ he, Store.Run.store_succ (run_call he), ← ih, (Service.after_store _ e).1]

end History

end Bank

end SealedReceipts
