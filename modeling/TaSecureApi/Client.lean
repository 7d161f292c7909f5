import TaSecureApi.Symmetric
import TaSecureApi.Rights

namespace TaSecureApi
set_option autoImplicit true

/-- `add_overflow`: `none` is the overflow. -/
def addOverflow (a b : Nat) : Option Nat := if a + b < 2 ^ 64 then some (a + b) else none

/-- `memory_is_valid_clear` and `memory_is_valid_svp`. -/
def memoryIsValid (memoryLocation size : Nat) : Bool :=
  memoryLocation != 0 && (addOverflow memoryLocation size).isSome

/-- `svp_buffer_t`: what `svp_create_buffer` allocates is valid memory. -/
structure SvpBuffer where
  svpMemory : Nat
  size : Nat
  valid : memoryIsValid svpMemory size

/-- `sa_buffer`, with the buffer types that are no buffer type. -/
inductive SaBuffer
  | clear (buffer length offset : Nat)
  | svp (buffer offset : Nat)
  | other (bufferType : Nat)
  deriving DecidableEq, Repr

def SaBuffer.isClear : SaBuffer → Bool
  | clear .. => true
  | _ => false

def SaBuffer.isSvp : SaBuffer → Bool
  | svp .. => true
  | _ => false

def SaBuffer.advance (offset : Nat) : SaBuffer → SaBuffer
  | clear buffer length start => clear buffer length ((start + offset) % 2 ^ 64)
  | svp buffer start => svp buffer ((start + offset) % 2 ^ 64)
  | other bufferType => other bufferType

/-- `cipher_t`. The symmetric context, of a symmetric algorithm, is made with the algorithm and the
mode of the cipher. -/
structure Cipher (Ctx : Type) where
  cipherAlgorithm : SaCipherAlgorithm
  cipherMode : SaCipherMode
  keyRights : SaRights
  symmetricContext : Option (SymmetricContext Ctx)
  agrees : ∀ context ∈ symmetricContext,
    context.cipherAlgorithm = cipherAlgorithm ∧ context.cipherMode = cipherMode

/-- What a client of one caller finds in its stores: the cipher behind a handle and the buffer of
the SVP object behind a handle, which can be `NULL`. -/
structure Client (Ctx : Type) where
  ciphers : Nat → Except SaStatus (Cipher Ctx)
  svps : Nat → Except SaStatus (Option SvpBuffer)

variable {Ctx : Type}

/-- `svp_get_svp_memory`: `NULL`, as `0`, where there is no buffer. -/
def svpGetSvpMemory : Option SvpBuffer → Nat
  | none => 0
  | some buffer => buffer.svpMemory

def svpGetSize : Option SvpBuffer → Nat
  | none => 0
  | some buffer => buffer.size

/-- `convert_buffer`; `bytes` stays `NULL` for a buffer type that is none. -/
def convertBuffer (client : Client Ctx) (bytesToProcess : Nat) : SaBuffer → Except SaStatus Nat
  | .clear buffer length offset =>
    if buffer = 0 then .error .nullParameter
    else
      match addOverflow offset bytesToProcess with
      | none => .error .invalidParameter
      | some memoryRange =>
        if memoryRange > length then .error .invalidParameter
        else if ¬ memoryIsValid buffer length then .error .invalidParameter
        else (addOverflow buffer offset).elim (.error .invalidParameter) .ok
  | .svp buffer offset =>
    match client.svps buffer with
    | .error status => .error status
    | .ok svpBuffer =>
      match addOverflow offset bytesToProcess with
      | none => .error .invalidParameter
      | some memoryRange =>
        if svpGetSvpMemory svpBuffer = 0 then .error .invalidParameter
        else if memoryRange > svpGetSize svpBuffer then .error .invalidParameter
        else (addOverflow (svpGetSvpMemory svpBuffer) offset).elim (.error .invalidParameter) .ok
  | .other _ => .ok 0

theorem addOverflow_eq_some : addOverflow a b = some c ↔ a + b = c ∧ a + b < 2 ^ 64 := by
  unfold addOverflow
  split_ifs with h
  · simp only [Option.some.injEq, h, and_true]
  · simp only [h, and_false]

theorem memoryIsValid_iff : memoryIsValid a n = true ↔ a ≠ 0 ∧ a + n < 2 ^ 64 := by
  simp [memoryIsValid, addOverflow, Option.isSome_iff_exists]

theorem addOverflow_elim_ok (h : (addOverflow a b).elim (.error e) .ok = Except.ok bytes) :
    a + b = bytes := by
  cases hc : addOverflow a b with
  | none => rw [hc] at h; cases h
  | some c =>
    rw [hc] at h
    cases h
    exact (addOverflow_eq_some.1 hc).1

theorem convertBuffer_congr {client : Client Ctx} {client' : Client Ctx'}
    (h : client'.svps = client.svps) (n : Nat) (buffer : SaBuffer) :
    convertBuffer client' n buffer = convertBuffer client n buffer := by
  cases buffer with
  | clear | other => rfl
  | svp => simp only [convertBuffer, h]

/-- Where a buffer that is one of the two types is converted, the bytes lie in memory. -/
theorem convertBuffer_range {client : Client Ctx} {buffer : SaBuffer}
    (hb : buffer.isClear ∨ buffer.isSvp) (h : convertBuffer client n buffer = .ok bytes) :
    bytes ≠ 0 ∧ bytes + n < 2 ^ 64 := by
  cases buffer with
  | clear buffer length offset =>
    simp only [convertBuffer] at h
    cases hrange : addOverflow offset n with
    | none =>
      rw [hrange] at h
      split_ifs at h
    | some memoryRange =>
      rw [hrange] at h
      obtain ⟨rfl, -⟩ := addOverflow_eq_some.1 hrange
      dsimp only at h
      split_ifs at h with hnull hlen hvalid
      obtain ⟨-, hv⟩ := memoryIsValid_iff.1 hvalid
      have he := addOverflow_elim_ok h
      omega
  | svp buffer offset =>
    simp only [convertBuffer] at h
    cases hsvp : client.svps buffer with
    | error status => rw [hsvp] at h; cases h
    | ok svpBuffer =>
      cases hrange : addOverflow offset n with
      | none => rw [hsvp, hrange] at h; cases h
      | some memoryRange =>
        rw [hsvp, hrange] at h
        obtain ⟨rfl, -⟩ := addOverflow_eq_some.1 hrange
        dsimp only at h
        split_ifs at h with hnull hlen
        have he := addOverflow_elim_ok h
        cases svpBuffer with
        | none => exact absurd rfl hnull
        | some svpBuffer =>
          obtain ⟨-, hv⟩ := memoryIsValid_iff.1 svpBuffer.valid
          simp only [svpGetSvpMemory, svpGetSize] at hnull hlen he
          omega
  | other => simp [SaBuffer.isClear, SaBuffer.isSvp] at hb

end TaSecureApi
