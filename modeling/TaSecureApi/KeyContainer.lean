import TaSecureApi.Json
import TaSecureApi.WrappedKey
import TaSecureApi.KeyCommands

namespace TaSecureApi
set_option autoImplicit true

inductive SaRootKeyType
  | undefined
  | unique
  | common
  deriving DecidableEq

/-- GCM of OpenSSL: what is decrypted, where no call fails, and the whole tag. -/
structure Gcm where
  decrypt (key : List UInt8) (iv : Vector UInt8 12) (aad ciphertext : List UInt8) :
    Option (List UInt8)
  tag (key : List UInt8) (iv : Vector UInt8 12) (aad ciphertext : List UInt8) : Vector UInt8 16
  decrypt_length : ∀ key iv aad ciphertext out, decrypt key iv aad ciphertext = some out →
    out.length = ciphertext.length

/-- `EVP_CTRL_GCM_SET_TAG` and `EVP_DecryptFinal_ex`: a tag that has bytes is compared with as many
bytes of the whole one. -/
def Gcm.verify (gcm : Gcm) (key : List UInt8) (iv : Vector UInt8 12) (aad ciphertext : List UInt8)
    (tag : List UInt8) : Prop :=
  tag.length ≠ 0 ∧ tag = (gcm.tag key iv aad ciphertext).toList.take tag.length

instance (gcm : Gcm) : Decidable (gcm.verify key iv aad ciphertext tag) := by
  unfold Gcm.verify
  infer_instance

/-- AES decryption of OpenSSL on whole blocks, without padding; a call that fails is `none`. -/
structure Aes where
  ecb (key inp : List UInt8) : Option (List UInt8)
  cbc (key iv inp : List UInt8) : Option (List UInt8)
  ecb_length : ∀ key inp out, ecb key inp = some out → out.length = inp.length
  cbc_length : ∀ key iv inp out, cbc key iv inp = some out → out.length = inp.length

theorem Aes.length_copied {inp out : List UInt8} (h : some inp = some out) :
    out.length = inp.length := by
  cases h
  rfl

theorem Aes.length_failed {inp out : List UInt8} (h : none = some out) :
    out.length = inp.length := by
  cases h

/-- What the key containers rest on outside the repository: OpenSSL, the JSON parser, `strptime` and
`timegm` of the C library, and the root keys of the device. -/
structure Libraries where
  bioRead : BioRead
  jsonParseBytes : List UInt8 → JsonValue
  parseTime : List UInt8 → Option Int
  hmacSha256 (key text : List UInt8) : Except SaStatus (Vector UInt8 32)
  aes : Aes
  gcm : Gcm
  rootKey : SaRootKeyType → Option (List UInt8)
  pkcs8 : Pkcs8

def requireAes (key inp : List UInt8) : Except SaStatus Unit := do
  require (inp.length % aesBlockSize = 0) .invalidParameter
  require (key.length = 16 ∨ key.length = 32) .invalidParameter

def unwrapAesEcbInternal (aes : Aes) (key inp : List UInt8) : Except SaStatus (List UInt8) := do
  requireAes key inp
  (aes.ecb key inp).elim (.error .internalError) .ok

def unwrapAesCbcInternal (aes : Aes) (key iv inp : List UInt8) : Except SaStatus (List UInt8) := do
  requireAes key inp
  (aes.cbc key iv inp).elim (.error .internalError) .ok

/-- `unwrap_aes_gcm_internal`, with an initialization vector of the right length. -/
def unwrapAesGcmInternal (gcm : Gcm) (key : List UInt8) (iv : Vector UInt8 12)
    (aad tag inp : List UInt8) : Except SaStatus (List UInt8) := do
  require (tag.length ≤ aesBlockSize) .invalidParameter
  require (key.length = 16 ∨ key.length = 32) .invalidParameter
  let out ← (gcm.decrypt key iv aad inp).elim (.error .internalError) .ok
  require (gcm.verify key iv aad inp tag) .internalError
  pure out

/-- `otp_hw_key_ladder`: each stage is decrypted with the key of the stage before. -/
def otpHwKeyLadder (libraries : Libraries) (rootKeyType : SaRootKeyType)
    (inputs : KeyLadderInputs) : Except SaStatus (List UInt8) := do
  let rootKey ← (libraries.rootKey rootKeyType).elim (.error .internalError) .ok
  let k1 ← unwrapAesEcbInternal libraries.aes rootKey inputs.c1.toList
  let k2 ← unwrapAesEcbInternal libraries.aes k1 inputs.c2.toList
  unwrapAesEcbInternal libraries.aes k2 inputs.c3.toList

def otpUnwrapAesGcm (libraries : Libraries) (keyLadderInputs : KeyLadderInputs)
    (rootKeyType : SaRootKeyType) (wrapped : List UInt8) (iv : Vector UInt8 12)
    (aad tag : List UInt8) : Except SaStatus (List UInt8) := do
  let wrappingKey ← otpHwKeyLadder libraries rootKeyType keyLadderInputs
  unwrapAesGcmInternal libraries.gcm wrappingKey iv aad tag wrapped

/-- `typej_unpacked_t` and `soc_kc_unpacked_t`. -/
structure Unpacked where
  headerB64 : List UInt8
  payloadB64 : List UInt8
  header : List UInt8
  payload : List UInt8
  mac : List UInt8
  deriving DecidableEq

/-- `memchr` of a dot: what is before it and behind it. -/
def splitDot (text : List UInt8) : Option (List UInt8 × List UInt8) :=
  match text.span (· ≠ 46) with
  | (_, []) => none
  | (before, _ :: behind) => some (before, behind)

def unpackPart (bioRead : BioRead) (part : List UInt8) : Option (List UInt8) :=
  b64Decode bioRead (fun _ => 0) (b64DecodedLength part.length) part true

def unpackContainer (bioRead : BioRead) (inp : List UInt8) : Option Unpacked := do
  let (headerB64, inp) ← splitDot inp
  guard (inp ≠ [])
  let (payloadB64, macB64) ← splitDot inp
  guard (macB64 ≠ [])
  let header ← unpackPart bioRead headerB64
  let payload ← unpackPart bioRead payloadB64
  let mac ← unpackPart bioRead macB64
  pure ⟨headerB64, payloadB64, header, payload, mac⟩

def unpackTypej (bioRead : BioRead) (inp : List UInt8) : Option Unpacked :=
  unpackContainer bioRead inp

def unpackSocKc (bioRead : BioRead) (inp : List UInt8) : Option Unpacked :=
  unpackContainer bioRead inp

/-- What an unwrap comes to: its status and `*stored_key`, or undefined behaviour. -/
abbrev Unwrapped := Option (SaStatus × Option StoredKey)

def Unwrapped.of : Except Stop (SaStatus × Option StoredKey) → Unwrapped
  | .error (.status status) => some (status, none)
  | .error .undefined => none
  | .ok result => some result

section Rules

variable {gcm : Gcm} {libraries : Libraries} {α β : Type}

@[simp] theorem bind_ne_error {x : Except ε α} {f : α → Except ε β} {e : ε} :
    (x >>= f) ≠ .error e ↔ x ≠ .error e ∧ ∀ a, x = .ok a → f a ≠ .error e := by
  cases x with
  | error e' =>
    change (Except.error e' : Except ε β) ≠ .error e ↔ _
    simp
  | ok a =>
    change f a ≠ .error e ↔ _
    simp

@[simp] theorem require_ne_error {c : Prop} [Decidable c] :
    require c s ≠ .error e ↔ (¬ c → s ≠ e) := by
  unfold require
  split_ifs with h <;> simp [h]

@[simp] theorem elim_ne_error {o : Option α} {s e : ε} :
    o.elim (.error s) Except.ok ≠ .error e ↔ (o = none → s ≠ e) := by
  cases o <;> simp

@[simp] theorem elim_eq_ok {o : Option α} {s : ε} :
    o.elim (.error s) Except.ok = .ok a ↔ o = some a := by
  cases o <;> simp

theorem Unwrapped.of_eq_ok {x : Except Stop (SaStatus × Option StoredKey)}
    (hx : FailsWithError x) : Unwrapped.of x = some (.ok, k) ↔ x = .ok (.ok, k) := by
  match x with
  | .error (.status e) =>
    rw [failsWithError_status] at hx
    simp [Unwrapped.of, hx]
  | .error .undefined => simp [Unwrapped.of]
  | .ok result => simp [Unwrapped.of]

theorem unwrapAesGcmInternal_eq_ok : unwrapAesGcmInternal gcm key iv aad tag inp = .ok out ↔
    tag.length ≤ aesBlockSize ∧ (key.length = 16 ∨ key.length = 32) ∧
      gcm.decrypt key iv aad inp = some out ∧ gcm.verify key iv aad inp tag := by
  simp only [unwrapAesGcmInternal, bind_eq_ok, require_eq_ok, elim_eq_ok, exists_const,
    exists_eq_right_right, pure, Except.pure, Except.ok.injEq]

end Rules

end TaSecureApi
