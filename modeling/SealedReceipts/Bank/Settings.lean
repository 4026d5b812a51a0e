/-!
# Settings of a bank

What a bank is run with. Spans of time and sizes must not be zero; the first that is gets reported.
-/

namespace SealedReceipts

namespace Bank

/-- Ports, spans of time in seconds, and sizes in bytes. -/
structure Settings where
  port : UInt16 := 8082
  metricsPort : UInt16 := 5000
  cleanupInterval : UInt64 := 60
  maxReceiptAge : UInt64 := 86400
  webhookTimeout : UInt64 := 10
  webhookMaxRetries : UInt32 := 3
  maxRequestBodySize : UInt64 := 10485760
  deriving DecidableEq, Repr

inductive SettingsFault where
  | cleanupInterval
  | maxReceiptAge
  | webhookTimeout
  | maxRequestBodySize
  deriving DecidableEq, Repr

def SettingsFault.message : SettingsFault → String
  | .cleanupInterval => "cleanup interval must be at least one second"
  | .maxReceiptAge => "maximum receipt age must be at least one second"
  | .webhookTimeout => "webhook timeout must be at least one second"
  | .maxRequestBodySize => "maximum request body size must be positive"

def Settings.fault? (s : Settings) : Option SettingsFault :=
  if s.cleanupInterval = 0 then some .cleanupInterval
  else if s.maxReceiptAge = 0 then some .maxReceiptAge
  else if s.webhookTimeout = 0 then some .webhookTimeout
  else if s.maxRequestBodySize = 0 then some .maxRequestBodySize
  else none

end Bank

end SealedReceipts
