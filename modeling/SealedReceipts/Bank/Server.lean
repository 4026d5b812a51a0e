import SealedReceipts.Bank.Service
import SealedReceipts.Bank.Settings

/-!
# A bank at work

A bank that runs with its settings answers requests at two ports: at one its service, at the other
its counters. Between requests time passes, in which a sweeper sweeps the store. Every collection
that names a webhook leads to a notice, which is delivered with retries.
-/

namespace SealedReceipts

namespace Bank

/-- A running bank, at a moment in milliseconds since it was started. -/
structure Server where
  settings : Settings
  service : Service
  now : Nat := 0

namespace Server

/-- A bank right after its start. -/
def start (settings : Settings) : Server :=
  { settings
    service := .new (settings.maxReceiptAge.toNat * 1000) settings.maxRequestBodySize.toNat }

/-- The sweeper, which starts with the bank. -/
def sweeper (s : Server) : Sweeper :=
  { startedAt := 0, interval := s.settings.cleanupInterval.toNat * 1000 }

/-- Lets time pass up to a moment. -/
def elapse (s : Server) (now : Nat) : Server :=
  { s with service := s.service.elapse [s.sweeper] s.now now, now := max s.now now }

/-- Answers a request at a port, if the bank listens there. -/
def answer? (s : Server) (port : UInt16) (r : Web.Request) (clock : Timestamp) (freshId : String) :
    Option (Web.Response × Server × List Notification) :=
  if port = s.settings.port then
    let handled := s.service.respond r { now := s.now, clock, freshId }
    some (handled.response, { s with service := handled.service }, handled.started)
  else if port = s.settings.metricsPort then some (s.service.counters.respond r, s, [])
  else none

/-- The wait before the first retry of a notice. -/
def retryStep : Duration := .ofSeconds 1

/-- Delivers a notice, and counts it if it was not delivered. -/
def notify {ω : Type} (s : Server) (around : Webhook.Surroundings ω) (n : Notification)
    (world : ω) : Except Webhook.Fault Unit × Server × ω :=
  let (result, world) :=
    Webhook.notify around s.settings.webhookMaxRetries.toNat retryStep n.url n.notice world
  match result with
  | .ok () => (result, s, world)
  | .error _ =>
    let counters := s.service.counters
    let counters := { counters with failedNotices := counters.failedNotices + 1 }
    (result, { s with service := { s.service with counters } }, world)

end Server

end Bank

end SealedReceipts
