import SealedReceipts.Bytes

/-!
# Buffers for secrets

A buffer of fixed size that begins as zeros and shows nothing of its contents when it is printed.
-/

namespace SealedReceipts

structure SecretBuffer (size : Nat) where
  bytes : Bytes
  length_eq : bytes.length = size

namespace SecretBuffer

def zeroed (size : Nat) : SecretBuffer size :=
  ⟨Bytes.zeros size, by simp [Bytes.zeros]⟩

/-- The buffer with as much of `data` at its front as it holds. -/
def fill {size : Nat} (buffer : SecretBuffer size) (data : Bytes) : SecretBuffer size :=
  ⟨data.take size ++ buffer.bytes.drop data.length, by
    have := buffer.length_eq
    simp only [List.length_append, List.length_take, List.length_drop]
    omega⟩

/-- What printing shows: the size alone. -/
def shown {size : Nat} (_ : SecretBuffer size) : String := s!"SecretBuffer<{size}>(..)"

end SecretBuffer

end SealedReceipts
