import TaSecureApi.StoredKey
import TaSecureApi.Lib.Pkcs7

namespace TaSecureApi
set_option autoImplicit true

structure KeyLadderInputs where
  c1 : Vector UInt8 16
  c2 : Vector UInt8 16
  c3 : Vector UInt8 16
  deriving DecidableEq

structure DerivationInputs where
  wrappingKeyInputs : KeyLadderInputs
  integrityKeyInputs : KeyLadderInputs
  deriving DecidableEq

structure CipherParameters where
  iv : Vector UInt8 16
  ciphertextLength : Nat
  deriving DecidableEq

structure WrappedKey where
  header : SaHeader
  cipherParameters : CipherParameters
  ciphertext : List UInt8
  signature : Vector UInt8 32
  derivationInputs : DerivationInputs
  deriving DecidableEq

/-- The functions of `otp.c` on the keys that the key ladder derives: a call that fails is `none`.
-/
structure Otp where
  wrapAesCbc (inputs : KeyLadderInputs) (iv : Vector UInt8 16) (inp : List UInt8) :
    Option (List UInt8)
  unwrapAesCbc (inputs : KeyLadderInputs) (iv : Vector UInt8 16) (inp : List UInt8) :
    Option (List UInt8)
  hmacSha256 (inputs : KeyLadderInputs) (header : SaHeader) (cipherParameters : CipherParameters)
    (ciphertext : List UInt8) : Option (Vector UInt8 32)

/-- Decryption in CBC mode inverts encryption, on whole blocks. -/
def Otp.Inverts (otp : Otp) : Prop :=
  ∀ inputs iv inp out, inp.length % aesBlockSize = 0 → otp.wrapAesCbc inputs iv inp = some out →
    out.length = inp.length ∧ otp.unwrapAesCbc inputs iv out = some inp

/-- `validate_header_format`, after the magic value. -/
def validateHeaderFormat (header : SaHeader) : Bool :=
  rightsValidateFormat header.rights &&
    keyTypeSupportsAny header.type header.typeParameters header.size

/-- The static function `unwrap`. -/
def KeyStore.unwrap (otp : Otp) (derivationInputs : DerivationInputs) (header : SaHeader)
    (cipherParameters : CipherParameters) (ciphertext signature : List UInt8) :
    Option StoredKey := do
  let length := cipherParameters.ciphertextLength
  guard (¬ (length < aesBlockSize ∨ length % aesBlockSize ≠ 0))
  let computedMac ← otp.hmacSha256 derivationInputs.integrityKeyInputs header cipherParameters
    ciphertext
  guard (computedMac.toList = signature)
  let cleartext ← otp.unwrapAesCbc derivationInputs.wrappingKeyInputs cipherParameters.iv
    ciphertext
  let padValue ← Pkcs7.check aesBlockSize (cleartext.drop (length - aesBlockSize))
  (storedKeyCreate header.rights none header.type header.typeParameters header.size
    (cleartext.take (length - padValue))).toOption

/-- `wrapped_key_create`, with the random initialization vector. -/
def wrappedKeyCreate (otp : Otp) (derivationInputs : DerivationInputs) (storedKey : StoredKey)
    (iv : Vector UInt8 16) : Option WrappedKey := do
  let padded := Pkcs7.pad aesBlockSize storedKey.key
  let cipherParameters := ⟨iv, padded.length⟩
  let ciphertext ← otp.wrapAesCbc derivationInputs.wrappingKeyInputs iv padded
  let mac ← otp.hmacSha256 derivationInputs.integrityKeyInputs storedKey.header cipherParameters
    ciphertext
  pure ⟨storedKey.header, cipherParameters, ciphertext, mac, derivationInputs⟩

def wrappedKeyUnwrap (otp : Otp) (wrappedKey : WrappedKey) : Option StoredKey :=
  KeyStore.unwrap otp wrappedKey.derivationInputs wrappedKey.header wrappedKey.cipherParameters
    wrappedKey.ciphertext wrappedKey.signature.toList

variable {otp : Otp} {k : StoredKey} {w : WrappedKey}

theorem wrappedKeyCreate_eq_some : wrappedKeyCreate otp inputs k iv = some w ↔
    otp.wrapAesCbc inputs.wrappingKeyInputs iv (Pkcs7.pad aesBlockSize k.key) =
      some w.ciphertext ∧
    otp.hmacSha256 inputs.integrityKeyInputs w.header w.cipherParameters w.ciphertext =
      some w.signature ∧
    w.header = k.header ∧
    w.cipherParameters = ⟨iv, (Pkcs7.pad aesBlockSize k.key).length⟩ ∧
    w.derivationInputs = inputs := by
  simp only [wrappedKeyCreate, Option.bind_eq_bind, Option.bind_eq_some_iff, Option.pure_def,
    Option.some.injEq]
  constructor
  · rintro ⟨ciphertext, hwrap, mac, hmac, rfl⟩
    exact ⟨hwrap, hmac, rfl, rfl, rfl⟩
  · intro ⟨hwrap, hmac, hheader, hparameters, hinputs⟩
    refine ⟨w.ciphertext, hwrap, w.signature, ?_, ?_⟩
    · rw [← hheader, ← hparameters]
      exact hmac
    · cases w
      cases hheader
      cases hparameters
      cases hinputs
      rfl

theorem storedKeyCreate_of_valid (h : validateHeaderFormat header = true) :
    storedKeyCreate header.rights none header.type header.typeParameters header.size key =
      .ok ⟨header, key⟩ := by
  obtain ⟨hrights, htype⟩ := (Bool.and_eq_true _ _).mp h
  simp only [storedKeyCreate, require, if_pos hrights, if_pos htype]
  rfl

theorem KeyStore.unwrap_of_create (hotp : otp.Inverts) (hk : validateHeaderFormat k.header = true)
    (h : wrappedKeyCreate otp inputs k iv = some w) :
    KeyStore.unwrap otp inputs w.header w.cipherParameters w.ciphertext w.signature.toList =
      some k := by
  obtain ⟨hwrap, hmac, hheader, hparameters, -⟩ := wrappedKeyCreate_eq_some.1 h
  have hpos : 0 < aesBlockSize := by decide
  have hmod := Pkcs7.length_pad_mod k.key hpos
  have hle := Pkcs7.le_length_pad k.key hpos
  obtain ⟨-, hunwrap⟩ := hotp _ _ _ _ hmod hwrap
  have hlength : ¬ ((Pkcs7.pad aesBlockSize k.key).length < aesBlockSize ∨
      (Pkcs7.pad aesBlockSize k.key).length % aesBlockSize ≠ 0) := by
    omega
  have hcheck := Pkcs7.check_pad k.key hpos (by decide)
  have hcreate : storedKeyCreate w.header.rights none w.header.type w.header.typeParameters
      w.header.size k.key = .ok k := by
    rw [hheader]
    exact storedKeyCreate_of_valid hk
  simp only [KeyStore.unwrap, hparameters] at *
  simp only [guard, hlength, not_false_eq_true, if_true, hmac, hunwrap, hcheck, Pkcs7.take_pad,
    hcreate, Option.pure_def, Option.bind_eq_bind, Option.bind_some]
  rfl

theorem wrappedKeyUnwrap_create (hotp : otp.Inverts) (hk : validateHeaderFormat k.header = true)
    (h : wrappedKeyCreate otp inputs k iv = some w) : wrappedKeyUnwrap otp w = some k := by
  rw [wrappedKeyUnwrap, (wrappedKeyCreate_eq_some.1 h).2.2.2.2]
  exact KeyStore.unwrap_of_create hotp hk h

def Wraps (otp : Otp) (w : WrappedKey) (k : StoredKey) : Prop :=
  validateHeaderFormat k.header = true ∧
    ∃ inputs iv, wrappedKeyCreate otp inputs k iv = some w

theorem Wraps.header (h : Wraps otp w k) : w.header = k.header := by
  obtain ⟨-, inputs, iv, h⟩ := h
  exact (wrappedKeyCreate_eq_some.1 h).2.2.1

theorem Wraps.unwrap (hotp : otp.Inverts) (h : Wraps otp w k) :
    wrappedKeyUnwrap otp w = some k := by
  obtain ⟨hk, inputs, iv, h⟩ := h
  exact wrappedKeyUnwrap_create hotp hk h

end TaSecureApi
