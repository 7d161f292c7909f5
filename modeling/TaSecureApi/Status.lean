import Mathlib.Logic.Function.Basic

namespace TaSecureApi
set_option autoImplicit true

/-- `sa_status`, in the order of the enumeration. -/
inductive SaStatus
  | ok
  | noAvailableResourceSlot
  | invalidKeyFormat
  | invalidKeyType
  | nullParameter
  | invalidParameter
  | operationNotAllowed
  | invalidSvpBuffer
  | operationNotSupported
  | selfTest
  | verificationFailed
  | internalError
  | hwError
  deriving DecidableEq, Repr

/-- `sa_uuid`: sixteen bytes in network order. -/
structure SaUuid where
  id : Vector UInt8 16
  deriving DecidableEq, Repr

/-- The UUID whose last byte is given and whose other bytes are zero. -/
def SaUuid.ofByte (b : UInt8) : SaUuid := ⟨(Vector.replicate 15 0).push b⟩

example : SaUuid.ofByte 1 ≠ SaUuid.ofByte 2 := by decide

end TaSecureApi
