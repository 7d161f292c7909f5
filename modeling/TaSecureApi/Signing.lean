import TaSecureApi.CryptoCommands
import TaSecureApi.KeyAncestry
import TaSecureApi.Lib.Layout

namespace TaSecureApi.Signing
set_option autoImplicit true
open Wp Layout

/-- `EVP_PKEY_id`. -/
inductive EvpPkeyType
  | rsa
  | ec
  | ed25519
  | x25519
  | ed448
  | x448
  | dh
  | other
  deriving DecidableEq, Repr

/-- `EVP_PKEY`, with `EVP_PKEY_bits`. -/
structure EvpPkey where
  type : EvpPkeyType
  bits : Nat
  deriving DecidableEq

/-- The length that every signature of the key has, where there is one: an RSA signature is as long
as the modulus. -/
def EvpPkey.signatureLength (pkey : EvpPkey) : Option Nat :=
  match pkey.type with
  | .rsa => some ((pkey.bits + 7) / 8)
  | .ed25519 => some 64
  | .ed448 => some 114
  | _ => none

inductive RsaPadding
  | pkcs1
  | pkcs1Pss
  | pkcs1Oaep
  deriving DecidableEq, Repr

/-- The calls that prepare a signature. -/
inductive SignStep
  | pkeyCtxNew
  | pkeySignInit
  | setRsaPadding (padding : RsaPadding)
  | setRsaMgf1Md (md : SaDigestAlgorithm)
  | setRsaPssSaltlen (length : Int)
  | setSignatureMd (md : SaDigestAlgorithm)
  | mdCtxCreate
  | digestSignInit (md : Option SaDigestAlgorithm)
  | digestSignUpdate (inp : List UInt8)
  deriving DecidableEq

inductive SignPrimitive
  | pkeySign (inp : List UInt8)
  | digestSignFinal
  | digestSign (inp : List UInt8)
  deriving DecidableEq

/-- A signature by a key that is written to a buffer of the capacity. -/
structure Signature (pkey : EvpPkey) (capacity : Nat) where
  bytes : List UInt8
  length_le : bytes.length ≤ capacity
  length_eq : ∀ n, pkey.signatureLength = some n → bytes.length = n

/-- OpenSSL: each call can fail, as the calls before it decide. -/
structure SignLibrary where
  d2iPkcs8 (key : List UInt8) : Option EvpPkey
  succeeds (pkey : EvpPkey) (earlier : List SignStep) (step : SignStep) : Bool
  sign (pkey : EvpPkey) (steps : List SignStep) (primitive : SignPrimitive) (capacity : Nat) :
    Option (Signature pkey capacity)
  d2iEcdsaSig (bytes : List UInt8) : Option (Nat × Nat)

def evpPkeyFromPkcs8 (lib : SignLibrary) (type : EvpPkeyType) (key : List UInt8) :
    Option EvpPkey :=
  (lib.d2iPkcs8 key).filter (·.type = type)

def SignLibrary.performs (lib : SignLibrary) (pkey : EvpPkey) (earlier : List SignStep) :
    List SignStep → Bool
  | [] => true
  | step :: steps => lib.succeeds pkey earlier step && lib.performs pkey (earlier ++ [step]) steps

/-- The preparations and the call that signs, which none of the signature functions goes on without.
-/
def SignLibrary.signature (lib : SignLibrary) (pkey : EvpPkey) (steps : List SignStep)
    (primitive : SignPrimitive) (capacity : Nat) : Option (List UInt8) :=
  if lib.performs pkey [] steps then
    (lib.sign pkey steps primitive capacity).map Signature.bytes
  else
    none

theorem SignLibrary.signature_length {lib : SignLibrary} {pkey : EvpPkey}
    (h : lib.signature pkey steps primitive capacity = some bytes)
    (hlength : pkey.signatureLength = some n) : bytes.length = n := by
  simp only [signature, Option.ite_none_right_eq_some, Option.map_eq_some_iff] at h
  obtain ⟨_, signature, _, rfl⟩ := h
  exact signature.length_eq n hlength

/-- What is signed, and whether it is a digest already. -/
structure SignData where
  bytes : List UInt8
  precomputedDigest : Bool

/-- The calls that prepare one of the two ways to sign; `settings` are those of the algorithm. -/
def evpSteps (settings : List SignStep) (digest : SaDigestAlgorithm) (data : SignData) :
    List SignStep :=
  if data.precomputedDigest then
    [.pkeyCtxNew, .pkeySignInit] ++ settings ++ [.setSignatureMd digest]
  else
    [.mdCtxCreate, .digestSignInit (some digest)] ++ settings ++ [.digestSignUpdate data.bytes]

def evpPrimitive (data : SignData) : SignPrimitive :=
  if data.precomputedDigest then .pkeySign data.bytes else .digestSignFinal

def evpSignature (lib : SignLibrary) (pkey : EvpPkey) (settings : List SignStep)
    (digest : SaDigestAlgorithm) (data : SignData) (capacity : Nat) : Option (List UInt8) :=
  lib.signature pkey (evpSteps settings digest data) (evpPrimitive data) capacity

/-- `*out_length` and `out`, with what the call that signs returned, if it was made with success. -/
structure SignOutput where
  outLength : Nat
  out : List UInt8
  signature : Option (List UInt8)
  deriving DecidableEq

def SignOutput.write (output : SignOutput) (bytes signature : List UInt8) : SignOutput where
  outLength := bytes.length
  out := bytes ++ output.out.drop bytes.length
  signature := some signature

/-- The body of a `do` that is left by a `break`, after the status was set or as it was. -/
abbrev SignBody := Except (Option SaStatus)

def orBreak (x : Option α) : SignBody α := x.elim (.error none) .ok

def breakUnless (condition : Bool) (status : Option SaStatus) : SignBody Unit :=
  if condition then .ok () else .error status

/-- The end of a function whose status has an initial value: on success the caller finds the output,
which is as it was before when the body was left. -/
def returnStatus (initial : SaStatus) (before : SignOutput) :
    SignBody SignOutput → Except SaStatus SignOutput
  | .ok output => .ok output
  | .error status =>
    match status.getD initial with
    | .ok => .ok before
    | status => .error status

/-- The signature that the bodies of `rsa_sign_pkcs1v15` and `rsa_sign_pss` make. -/
def rsaSignature (lib : SignLibrary) (settings : List SignStep) (digest : SaDigestAlgorithm)
    (storedKey : StoredKey) (data : SignData) (outLength : Nat) : SignBody (List UInt8) := do
  let pkey ← orBreak (evpPkeyFromPkcs8 lib .rsa storedKey.key)
  breakUnless (pkey.bits / 8 ≤ outLength) none
  orBreak (evpSignature lib pkey settings digest data outLength)

def rsaSignBody (lib : SignLibrary) (settings : List SignStep) (digest : SaDigestAlgorithm)
    (storedKey : StoredKey) (data : SignData) (before : SignOutput) : SignBody SignOutput := do
  let signature ← rsaSignature lib settings digest storedKey data before.outLength
  pure (before.write signature signature)

def pkcs1v15Settings : List SignStep := [.setRsaPadding .pkcs1]

def rsaSignPkcs1v15 (lib : SignLibrary) (digest : SaDigestAlgorithm) (storedKey : StoredKey)
    (data : SignData) (before : SignOutput) : Except SaStatus SignOutput :=
  returnStatus .internalError before
    (rsaSignBody lib pkcs1v15Settings digest storedKey data before)

def pssSettings (mgf1Digest : SaDigestAlgorithm) (saltLength : Nat) : List SignStep :=
  [.setRsaPadding .pkcs1Pss, .setRsaMgf1Md mgf1Digest, .setRsaPssSaltlen (castInt saltLength)]

/-- Here the status is `SA_STATUS_OK` from the start. -/
def rsaSignPss (lib : SignLibrary) (digest : SaDigestAlgorithm) (storedKey : StoredKey)
    (mgf1Digest : SaDigestAlgorithm) (saltLength : Nat) (data : SignData) (before : SignOutput) :
    Except SaStatus SignOutput :=
  returnStatus .ok before
    (rsaSignBody lib (pssSettings mgf1Digest saltLength) digest storedKey data before)

/-- `BN_bn2bin`: the digits to the base 256, without leading zeros. -/
def bnToBin (n : Nat) : List UInt8 := ((Nat.digits 256 n).map UInt8.ofNat).reverse

def bnExport (outLength n : Nat) : Option (List UInt8) :=
  let written := (bnToBin n).length
  if written > outLength then none
  else some (List.replicate (outLength - written) 0 ++ bnToBin n)

/-- The number with these bytes, the most significant one first. -/
def bigEndian (bytes : List UInt8) : Nat := numberOf bytes.reverse

theorem toNat_ofNat_digits (n : Nat) :
    ((Nat.digits 256 n).map UInt8.ofNat).map UInt8.toNat = Nat.digits 256 n := by
  have hdigit (d : Nat) (hd : d ∈ Nat.digits 256 n) : (UInt8.toNat ∘ UInt8.ofNat) d = id d :=
    UInt8.toNat_ofNat_of_lt' (Nat.digits_lt_base (by decide) hd)
  rw [List.map_map, List.map_congr_left hdigit, List.map_id]

theorem bnExport_eq_some (h : bnExport outLength n = some bytes) :
    bytes.length = outLength ∧ bigEndian bytes = n := by
  simp only [bnExport, Option.ite_none_left_eq_some, not_lt, Option.some.injEq] at h
  obtain ⟨hle, rfl⟩ := h
  have hdigits : numberOf (bnToBin n).reverse = n := by
    rw [bnToBin, List.reverse_reverse, numberOf, toNat_ofNat_digits, Nat.ofDigits_digits]
  have hzeros : numberOf (List.replicate (outLength - (bnToBin n).length) 0) = 0 := by
    rw [numberOf, List.map_replicate]
    exact Nat.ofDigits_replicate_zero
  constructor
  · rw [List.length_append, List.length_replicate]
    omega
  · rw [bigEndian, List.reverse_append, List.reverse_replicate, numberOf_append, hdigits, hzeros]
    simp

def maxEcSignature : Nat := 256

def ecGetType : SaEllipticCurve → EvpPkeyType
  | .nistP192 | .nistP224 | .nistP256 | .nistP384 | .nistP521 => .ec
  | .ed25519 => .ed25519
  | .x25519 => .x25519
  | .ed448 => .ed448
  | .x448 => .x448

def evpType : SaTypeParameters → EvpPkeyType
  | .curve curve => ecGetType curve
  | .dhParameters .. => .other

def ecSignEcdsa (lib : SignLibrary) (digest : SaDigestAlgorithm) (storedKey : StoredKey)
    (data : SignData) (before : SignOutput) : Except SaStatus SignOutput :=
  returnStatus .internalError before do
    let header := storedKey.header
    breakUnless (header.typeParameters.isCurve isPcurve) (some .operationNotAllowed)
    let pkey ← orBreak (evpPkeyFromPkcs8 lib (evpType header.typeParameters) storedKey.key)
    breakUnless (header.size * 2 ≤ before.outLength) (some .invalidParameter)
    let signature ← orBreak (evpSignature lib pkey [] digest data maxEcSignature)
    let (r, s) ← orBreak (lib.d2iEcdsaSig signature)
    let rBytes ← orBreak (bnExport header.size r)
    let sBytes ← orBreak (bnExport header.size s)
    pure (before.write (rBytes ++ sBytes) signature)

def ecSignEddsa (lib : SignLibrary) (storedKey : StoredKey) (data : SignData)
    (before : SignOutput) : Except SaStatus SignOutput :=
  returnStatus .internalError before do
    let header := storedKey.header
    breakUnless (header.typeParameters.isCurve isEdcurve) (some .operationNotAllowed)
    let pkey ← orBreak (evpPkeyFromPkcs8 lib (evpType header.typeParameters) storedKey.key)
    breakUnless (header.size * 2 ≤ before.outLength) (some .invalidParameter)
    let signature ← orBreak
      (lib.signature pkey [.mdCtxCreate, .digestSignInit none] (.digestSign data.bytes)
        before.outLength)
    pure (before.write signature signature)

/-- The signature function of the algorithm, with the digests that were checked. -/
def signFunction (lib : SignLibrary) (storedKey : StoredKey) (data : SignData)
    (before : SignOutput) : SignRequest → Except SaStatus SignOutput
  | .ecdsa (some (some digest)) => ecSignEcdsa lib digest storedKey data before
  | .eddsa => ecSignEddsa lib storedKey data before
  | .rsaPss (some ⟨some digest, some mgf1Digest, saltLength⟩) =>
    rsaSignPss lib digest storedKey mgf1Digest saltLength data before
  | .rsaPkcs1v15 (some (some digest)) => rsaSignPkcs1v15 lib digest storedKey data before
  | _ => .error .invalidParameter

/-- The arguments of `ta_sa_crypto_sign`: a pointer can be `NULL`, and the number of the algorithm
can be none of an algorithm. The parameters of an algorithm other than EdDSA say if the input is a
digest. -/
structure Arguments where
  out : Option (List UInt8)
  outLength : Option Nat
  signatureAlgorithm : Option SignRequest
  precomputedDigest : Bool
  key : Nat
  inp : Option (List UInt8)
  inLength : Nat
  callerUuid : Option SaUuid

def Arguments.data (args : Arguments) : SignData where
  bytes := (args.inp.getD []).take args.inLength
  precomputedDigest := args.precomputedDigest

def Arguments.request (args : Arguments) : Except SaStatus SignRequest :=
  args.signatureAlgorithm.elim (.error .invalidParameter) .ok

theorem Arguments.request_eq_ok {args : Arguments} {request : SignRequest} :
    args.request = .ok request ↔
    args.signatureAlgorithm = some request := by
  rw [Arguments.request]
  cases args.signatureAlgorithm <;> simp

theorem Arguments.request_eq_error {args : Arguments} (h : args.request = .error status) :
    status ≠ .ok := by
  rw [Arguments.request] at h
  cases hnumber : args.signatureAlgorithm with
  | none =>
    rw [hnumber] at h
    cases h
    nofun
  | some request => rw [hnumber] at h; cases h

/-- What is done with the buffer of the caller: with `NULL` only the length is set. -/
def signOut (lib : SignLibrary) (storedKey : StoredKey) (data : SignData) (request : SignRequest)
    (requiredLength outLength : Nat) : Option (List UInt8) → Command SignOutput
  | none => pure ⟨requiredLength, [], none⟩
  | some out => do
    check (requiredLength ≤ outLength) .invalidParameter
    check (signSaltAllowed storedKey.header request) .invalidParameter
    useKey .sign storedKey.header.rights
    ofExcept (signFunction lib storedKey data ⟨outLength, out, none⟩ request)

def taSaCryptoSign (lib : SignLibrary) (world : World) (store : KeyStore) (args : Arguments) :
    Command SignOutput := do
  let outLength ← ofExcept (requireNonNull args.outLength)
  let request ← ofExcept args.request
  check (args.inp.isSome ∨ args.inLength = 0) .nullParameter
  let callerUuid ← ofExcept (requireNonNull args.callerUuid)
  let storedKey ← keyStoreUnwrap world store args.key callerUuid
  checkSign world storedKey.header.rights
  let requiredLength ← ofExcept (signRequiredLength storedKey.header request)
  signOut lib storedKey args.data request requiredLength outLength args.out

section Bodies

variable {lib : SignLibrary} {storedKey : StoredKey} {data : SignData} {before output : SignOutput}

theorem orBreak_eq_ok {x : Option α} : orBreak x = .ok a ↔ x = some a := by
  cases x <;> simp [orBreak]

theorem breakUnless_eq_ok : breakUnless c status = .ok u ↔ c = true := by
  cases c <;> simp [breakUnless]

/-- What is known of the status that the body is left with, where the body has set it. -/
def SetsOnly (P : SaStatus → Prop) (body : SignBody α) : Prop :=
  ∀ status, body = .error (some status) → P status

section SetsOnly

variable {P : SaStatus → Prop} {α β : Type}

theorem setsOnly_pure (a : α) : SetsOnly P (pure a) := nofun

theorem setsOnly_orBreak (x : Option α) : SetsOnly P (orBreak x) := by
  cases x <;> nofun

theorem setsOnly_breakUnless (h : ∀ status', status = some status' → P status') :
    SetsOnly P (breakUnless c status) := by
  intro status' hbreak
  cases c with
  | true => cases hbreak
  | false => exact h status' (Except.error.inj hbreak)

theorem setsOnly_bind {x : SignBody α} {f : α → SignBody β} (hx : SetsOnly P x)
    (hf : ∀ a, SetsOnly P (f a)) : SetsOnly P (x >>= f) := by
  intro status h
  cases x with
  | ok a => exact hf a status h
  | error e => exact hx status (congrArg Except.error (Except.error.inj h))

end SetsOnly

/-- With an error as its initial status a function succeeds only at the end of its body. -/
theorem of_returnStatus_internalError {body : SignBody SignOutput}
    (hbody : SetsOnly (fun status => status ≠ .ok) body)
    (h : returnStatus .internalError before body = .ok output) : body = .ok output := by
  cases body with
  | ok a =>
    cases h
    rfl
  | error status =>
    cases status with
    | none => cases h
    | some status =>
      cases status with
      | ok => exact absurd rfl (hbody .ok rfl)
      | _ => cases h

theorem returnStatus_ok {body : SignBody SignOutput} (hbody : ∀ output, body ≠ .ok output)
    (hplain : SetsOnly (fun _ => False) body) : returnStatus .ok before body = .ok before := by
  cases body with
  | ok a => exact absurd rfl (hbody a)
  | error status =>
    cases status with
    | none => rfl
    | some status => exact (hplain status rfl).elim

/-- The calls of OpenSSL for an RSA signature succeed. -/
structure RsaSigns (lib : SignLibrary) (pkey : EvpPkey) (settings : List SignStep)
    (digest : SaDigestAlgorithm) (storedKey : StoredKey) (data : SignData) (outLength : Nat) :
    Prop where
  key : evpPkeyFromPkcs8 lib .rsa storedKey.key = some pkey
  room : pkey.bits / 8 ≤ outLength
  steps : lib.performs pkey [] (evpSteps settings digest data) = true
  sign : (lib.sign pkey (evpSteps settings digest data) (evpPrimitive data) outLength).isSome

theorem rsaSignature_eq_ok : rsaSignature lib settings digest storedKey data outLength = .ok bytes ↔
    ∃ pkey, RsaSigns lib pkey settings digest storedKey data outLength ∧
      evpSignature lib pkey settings digest data outLength = some bytes := by
  simp only [rsaSignature, bind_eq_ok, orBreak_eq_ok, breakUnless_eq_ok, decide_eq_true_eq,
    exists_const]
  constructor
  · intro ⟨pkey, hkey, hroom, hsign⟩
    have h := hsign
    simp only [evpSignature, SignLibrary.signature, Option.ite_none_right_eq_some,
      Option.map_eq_some_iff] at h
    obtain ⟨hsteps, signature, hsignature, _⟩ := h
    exact ⟨pkey, ⟨hkey, hroom, hsteps, by rw [hsignature]; rfl⟩, hsign⟩
  · intro ⟨pkey, h, hsign⟩
    exact ⟨pkey, h.key, h.room, hsign⟩

theorem RsaSigns.exists_signature (h : RsaSigns lib pkey settings digest storedKey data outLength) :
    ∃ bytes, evpSignature lib pkey settings digest data outLength = some bytes := by
  obtain ⟨signature, hsignature⟩ := Option.isSome_iff_exists.1 h.sign
  exact ⟨signature.bytes, by
    rw [evpSignature, SignLibrary.signature, if_pos h.steps, hsignature]; rfl⟩

theorem rsaSignBody_eq_ok :
    rsaSignBody lib settings digest storedKey data before = .ok output ↔ ∃ pkey bytes,
      RsaSigns lib pkey settings digest storedKey data before.outLength ∧
      evpSignature lib pkey settings digest data before.outLength = some bytes ∧
      output = before.write bytes bytes := by
  simp only [rsaSignBody, bind_eq_ok, rsaSignature_eq_ok]
  constructor
  · intro ⟨bytes, ⟨pkey, hsigns, hbytes⟩, h⟩
    cases h
    exact ⟨pkey, bytes, hsigns, hbytes, rfl⟩
  · intro ⟨pkey, bytes, hsigns, hbytes, h⟩
    exact ⟨bytes, ⟨pkey, hsigns, hbytes⟩, by rw [h]; rfl⟩

theorem setsOnly_rsaSignBody {P : SaStatus → Prop} :
    SetsOnly P (rsaSignBody lib settings digest storedKey data before) := by
  refine setsOnly_bind ?_ fun _ => setsOnly_pure _
  refine setsOnly_bind (setsOnly_orBreak _) fun pkey => ?_
  refine setsOnly_bind (setsOnly_breakUnless nofun) fun _ => ?_
  exact setsOnly_orBreak _

theorem rsaSignPkcs1v15_eq_ok
    (h : rsaSignPkcs1v15 lib digest storedKey data before = .ok output) :
    rsaSignBody lib pkcs1v15Settings digest storedKey data before = .ok output :=
  of_returnStatus_internalError setsOnly_rsaSignBody h

theorem rsaSignPss_of_not_signs (h : ¬ ∃ pkey, RsaSigns lib pkey (pssSettings mgf1Digest saltLength)
      digest storedKey data before.outLength) :
    rsaSignPss lib digest storedKey mgf1Digest saltLength data before = .ok before := by
  apply returnStatus_ok
  · intro output hbody
    obtain ⟨pkey, _, hsigns, _⟩ := rsaSignBody_eq_ok.1 hbody
    exact h ⟨pkey, hsigns⟩
  · exact setsOnly_rsaSignBody

theorem ecSignEcdsa_eq_ok (h : ecSignEcdsa lib digest storedKey data before = .ok output) :
    ∃ signature r s rBytes sBytes, lib.d2iEcdsaSig signature = some (r, s) ∧
      bnExport storedKey.header.size r = some rBytes ∧
      bnExport storedKey.header.size s = some sBytes ∧
      output = before.write (rBytes ++ sBytes) signature := by
  have hbody := of_returnStatus_internalError (by
    refine setsOnly_bind (setsOnly_breakUnless (by simp)) fun _ => ?_
    refine setsOnly_bind (setsOnly_orBreak _) fun pkey => ?_
    refine setsOnly_bind (setsOnly_breakUnless (by simp)) fun _ => ?_
    refine setsOnly_bind (setsOnly_orBreak _) fun signature => ?_
    refine setsOnly_bind (setsOnly_orBreak _) fun (r, s) => ?_
    refine setsOnly_bind (setsOnly_orBreak _) fun rBytes => ?_
    exact setsOnly_bind (setsOnly_orBreak _) fun sBytes => setsOnly_pure _) h
  simp only [bind_eq_ok, orBreak_eq_ok] at hbody
  obtain ⟨_, _, pkey, _, _, _, signature, _, ⟨r, s⟩, hrs, rBytes, hr, sBytes, hs, h⟩ := hbody
  cases h
  exact ⟨signature, r, s, rBytes, sBytes, hrs, hr, hs, rfl⟩

theorem ecSignEddsa_eq_ok (h : ecSignEddsa lib storedKey data before = .ok output) :
    ∃ pkey signature, pkey.type = evpType storedKey.header.typeParameters ∧
      lib.signature pkey [.mdCtxCreate, .digestSignInit none] (.digestSign data.bytes)
        before.outLength = some signature ∧
      output = before.write signature signature := by
  have hbody := of_returnStatus_internalError (by
    refine setsOnly_bind (setsOnly_breakUnless (by simp)) fun _ => ?_
    refine setsOnly_bind (setsOnly_orBreak _) fun pkey => ?_
    refine setsOnly_bind (setsOnly_breakUnless (by simp)) fun _ => ?_
    exact setsOnly_bind (setsOnly_orBreak _) fun signature => setsOnly_pure _) h
  simp only [bind_eq_ok, orBreak_eq_ok] at hbody
  obtain ⟨_, _, pkey, hpkey, _, _, signature, hsignature, h⟩ := hbody
  cases h
  exact ⟨pkey, signature, of_decide_eq_true (Option.filter_eq_some_iff.1 hpkey).2, hsignature, rfl⟩

end Bodies

section Signed

/-- How the bytes of `out` are the signature: with ECDSA they are its two numbers, of one length. -/
def Encodes (lib : SignLibrary) (length : Nat) (signature bytes : List UInt8) :
    SignRequest → Prop
  | .ecdsa _ => bytes.length = length ∧
    lib.d2iEcdsaSig signature =
      some (bigEndian (bytes.take (length / 2)), bigEndian (bytes.drop (length / 2)))
  | _ => bytes = signature

/-- The call that signs was made with success, and `out` is the signature, not longer than the
length that the command names. -/
structure IsSigned (lib : SignLibrary) (request : SignRequest) (length : Nat)
    (output : SignOutput) : Prop where
  encodes : ∃ signature, output.signature = some signature ∧
    Encodes lib length signature (output.out.take output.outLength) request
  length_le : output.outLength ≤ length

/-- The bytes of the modulus are not more than the size of the header. -/
def ModulusFits (storedKey : StoredKey) (pkey : EvpPkey) : Prop :=
  (pkey.bits + 7) / 8 ≤ storedKey.header.size

/-- With PSS all the calls must succeed, and with an RSA key that signs the modulus must fit. -/
def SignsSoundly (lib : SignLibrary) (storedKey : StoredKey) (data : SignData) (outLength : Nat) :
    SignRequest → Prop
  | .rsaPss (some ⟨some digest, some mgf1Digest, saltLength⟩) => ∃ pkey,
    RsaSigns lib pkey (pssSettings mgf1Digest saltLength) digest storedKey data outLength ∧
      ModulusFits storedKey pkey
  | .rsaPkcs1v15 (some (some digest)) => ∀ pkey,
    RsaSigns lib pkey pkcs1v15Settings digest storedKey data outLength →
      ModulusFits storedKey pkey
  | _ => True

variable {lib : SignLibrary} {storedKey : StoredKey} {data : SignData} {before output : SignOutput}
  {request : SignRequest}

@[simp] theorem SignOutput.take_write (bytes signature : List UInt8) :
    (before.write bytes signature).out.take (before.write bytes signature).outLength = bytes :=
  List.take_left

theorem evpSignature_length (hkey : evpPkeyFromPkcs8 lib .rsa key = some pkey)
    (h : evpSignature lib pkey settings digest data capacity = some bytes) :
    bytes.length = (pkey.bits + 7) / 8 := by
  have htype : pkey.type = .rsa := of_decide_eq_true (Option.filter_eq_some_iff.1 hkey).2
  exact SignLibrary.signature_length h (by rw [EvpPkey.signatureLength, htype])

/-- An RSA function that got through its body has made a signature as long as the modulus. -/
theorem isSigned_rsaSignBody_iff (before : SignOutput) {request : SignRequest}
    (hrequest : ∀ p, request ≠ .ecdsa p)
    (h : RsaSigns lib pkey settings digest storedKey data before.outLength)
    (hbytes : evpSignature lib pkey settings digest data before.outLength = some bytes) :
    IsSigned lib request storedKey.header.size (before.write bytes bytes) ↔
      ModulusFits storedKey pkey := by
  have hfits : ModulusFits storedKey pkey ↔ bytes.length ≤ storedKey.header.size := by
    rw [ModulusFits, evpSignature_length h.key hbytes]
  rw [hfits]
  constructor
  · intro hsigned
    exact hsigned.length_le
  · intro hle
    refine ⟨⟨bytes, rfl, ?_⟩, hle⟩
    rw [SignOutput.take_write]
    cases request with
    | ecdsa p => exact absurd rfl (hrequest p)
    | _ => rfl

theorem isSigned_ecSignEcdsa (h : ecSignEcdsa lib digest storedKey data before = .ok output) :
    IsSigned lib (.ecdsa parameters) (storedKey.header.size * 2) output := by
  obtain ⟨signature, r, s, rBytes, sBytes, hrs, hr, hs, rfl⟩ := ecSignEcdsa_eq_ok h
  obtain ⟨hrlen, rfl⟩ := bnExport_eq_some hr
  obtain ⟨hslen, rfl⟩ := bnExport_eq_some hs
  have hlength : (rBytes ++ sBytes).length = storedKey.header.size * 2 := by
    rw [List.length_append, hrlen, hslen, Nat.mul_two]
  refine ⟨⟨signature, rfl, ?_⟩, hlength.le⟩
  rw [SignOutput.take_write]
  have hhalf : storedKey.header.size * 2 / 2 = rBytes.length := by omega
  refine ⟨hlength, ?_⟩
  rw [hhalf, List.take_left, List.drop_left, hrs]

theorem isSigned_ecSignEddsa (hlength : signRequiredLength storedKey.header .eddsa = .ok length)
    (h : ecSignEddsa lib storedKey data before = .ok output) :
    IsSigned lib .eddsa length output := by
  obtain ⟨pkey, signature, htype, hsignature, rfl⟩ := ecSignEddsa_eq_ok h
  simp only [signRequiredLength, bind_eq_ok, require_eq_ok, exists_const] at hlength
  obtain ⟨hcurve, hsupports, hlength⟩ := hlength
  cases hlength
  refine ⟨⟨signature, rfl, by rw [SignOutput.take_write]; rfl⟩, ?_⟩
  have hsize : pkey.signatureLength = some (storedKey.header.size * 2) := by
    rw [EvpPkey.signatureLength, htype]
    cases hparameters : storedKey.header.typeParameters with
    | dhParameters => rw [hparameters] at hcurve; cases hcurve
    | curve curve =>
      rw [hparameters] at hcurve hsupports
      simp only [keyTypeSupportsEc, SaTypeParameters.isCurve, validEcSize, Bool.and_eq_true,
        decide_eq_true_eq] at hsupports
      rw [hsupports.2]
      cases curve with
      | ed25519 => rfl
      | ed448 => rfl
      | _ => cases hcurve
  exact (SignLibrary.signature_length hsignature hsize).le

theorem isSigned_rsaSignPss_iff (hrequest : ∀ p, request ≠ .ecdsa p) :
    (∀ output, rsaSignPss lib digest storedKey mgf1Digest saltLength data ⟨outLength, out, none⟩ =
        .ok output → IsSigned lib request storedKey.header.size output) ↔
      ∃ pkey, RsaSigns lib pkey (pssSettings mgf1Digest saltLength) digest storedKey data
        outLength ∧
        ModulusFits storedKey pkey := by
  by_cases hsigns : ∃ pkey,
      RsaSigns lib pkey (pssSettings mgf1Digest saltLength) digest storedKey data outLength
  · obtain ⟨pkey, hsigns⟩ := hsigns
    obtain ⟨bytes, hbytes⟩ := hsigns.exists_signature
    have hbody : rsaSignBody lib (pssSettings mgf1Digest saltLength) digest storedKey data
        ⟨outLength, out, none⟩ = .ok (SignOutput.write ⟨outLength, out, none⟩ bytes bytes) :=
      rsaSignBody_eq_ok.2 ⟨pkey, bytes, hsigns, hbytes, rfl⟩
    have hfits := isSigned_rsaSignBody_iff ⟨outLength, out, none⟩ hrequest hsigns hbytes
    rw [rsaSignPss, hbody]
    constructor
    · intro h
      exact ⟨pkey, hsigns, hfits.1 (h _ rfl)⟩
    · intro ⟨pkey', hsigns', hfits'⟩ output h
      cases h
      obtain rfl := Option.some.inj (hsigns.key.symm.trans hsigns'.key)
      exact hfits.2 hfits'
  · rw [rsaSignPss_of_not_signs hsigns]
    constructor
    · intro h
      obtain ⟨signature, hnone, _⟩ := (h _ rfl).encodes
      cases hnone
    · intro ⟨pkey, h, _⟩
      exact absurd ⟨pkey, h⟩ hsigns

theorem isSigned_rsaSignPkcs1v15_iff (hrequest : ∀ p, request ≠ .ecdsa p) :
    (∀ output, rsaSignPkcs1v15 lib digest storedKey data ⟨outLength, out, none⟩ = .ok output →
        IsSigned lib request storedKey.header.size output) ↔
      ∀ pkey, RsaSigns lib pkey pkcs1v15Settings digest storedKey data outLength →
        ModulusFits storedKey pkey := by
  constructor
  · intro h pkey hsigns
    obtain ⟨bytes, hbytes⟩ := hsigns.exists_signature
    have hbody : rsaSignBody lib pkcs1v15Settings digest storedKey data ⟨outLength, out, none⟩ =
        .ok (SignOutput.write ⟨outLength, out, none⟩ bytes bytes) :=
      rsaSignBody_eq_ok.2 ⟨pkey, bytes, hsigns, hbytes, rfl⟩
    have hsigned := h _ (by rw [rsaSignPkcs1v15, hbody]; rfl)
    exact (isSigned_rsaSignBody_iff _ hrequest hsigns hbytes).1 hsigned
  · intro hfits output h
    obtain ⟨pkey, bytes, hsigns, hbytes, rfl⟩ := rsaSignBody_eq_ok.1 (rsaSignPkcs1v15_eq_ok h)
    exact (isSigned_rsaSignBody_iff _ hrequest hsigns hbytes).2 (hfits pkey hsigns)

/-- A success of the signature function is a signature, if and only if the calls are sound. -/
theorem isSigned_signFunction_iff (out : List UInt8)
    (hlength : signRequiredLength storedKey.header request = .ok length) :
    (∀ output, signFunction lib storedKey data ⟨outLength, out, none⟩ request = .ok output →
      IsSigned lib request length output) ↔
        SignsSoundly lib storedKey data outLength request := by
  cases request with
  | ecdsa parameters =>
    simp only [signRequiredLength, bind_eq_ok, require_eq_ok, exists_const] at hlength
    obtain ⟨digest, hdigest, _, _, hlength⟩ := hlength
    cases hlength
    refine iff_of_true ?_ trivial
    intro output h
    obtain _ | _ | digest := parameters
    · cases h
    · cases h
    · exact isSigned_ecSignEcdsa h
  | eddsa => exact iff_of_true (fun output h => isSigned_ecSignEddsa hlength h) trivial
  | rsaPss parameters =>
    simp only [signRequiredLength, bind_eq_ok, require_eq_ok, exists_const,
      requireNonNull_eq_ok] at hlength
    obtain ⟨⟨digest, mgf1Digest, saltLength⟩, rfl, hdigest, hmgf1, _, hlength⟩ := hlength
    cases hlength
    obtain ⟨digest, rfl⟩ := Option.isSome_iff_exists.1 hdigest
    obtain ⟨mgf1Digest, rfl⟩ := Option.isSome_iff_exists.1 hmgf1
    exact isSigned_rsaSignPss_iff (by simp)
  | rsaPkcs1v15 parameters =>
    simp only [signRequiredLength, bind_eq_ok, require_eq_ok, exists_const] at hlength
    obtain ⟨digest, hdigest, _, hlength⟩ := hlength
    cases hlength
    obtain _ | _ | digest' := parameters
    · cases hdigest
    · cases hdigest
    · exact isSigned_rsaSignPkcs1v15_iff (by simp)

end Signed

/-- The command gets as far as the buffer of the caller. -/
structure Accepted (world : World) (store : KeyStore) (args : Arguments) (s : CommandState) where
  outLength : Nat
  request : SignRequest
  callerUuid : SaUuid
  storedKey : StoredKey
  acquired : KeyStore
  requiredLength : Nat
  outLength_eq : args.outLength = some outLength
  request_eq : args.signatureAlgorithm = some request
  input : args.inp.isSome ∨ args.inLength = 0
  callerUuid_eq : args.callerUuid = some callerUuid
  acquire : objectStoreAcquire store args.key (some callerUuid) = (.ok, some storedKey, acquired)
  allowed : keyStoreAllowed storedKey.header.rights callerUuid (world s.clock) = true
  sign : rightsAllowedSign storedKey.header.rights (world (s.clock + 1)) = true
  required : signRequiredLength storedKey.header request = .ok requiredLength

/-- The command for a buffer that is long enough gets as far as the signature function. -/
def Accepted.Reaches (a : Accepted world store args s) : Prop :=
  a.requiredLength ≤ a.outLength ∧ signSaltAllowed a.storedKey.header a.request = true

/-- The same command with `NULL` for `out`. -/
def Arguments.query (args : Arguments) : Arguments := { args with out := none }

def Accepted.query (a : Accepted world store args s) : Accepted world store args.query s :=
  { a with }

section Command

variable {lib : SignLibrary} {world : World} {store : KeyStore} {args : Arguments}
  {s : CommandState}

theorem wp_taSaCryptoSign {Q : SignOutput → CommandState → Prop}
    {F : SaStatus → CommandState → Prop} (a : Accepted world store args s) :
    wp (taSaCryptoSign lib world store args) Q F s ↔
      wp (signOut lib a.storedKey args.data a.request a.requiredLength a.outLength args.out) Q F
        { clock := s.clock + 2,
          log := .allowed .sign a.storedKey.header.rights (world (s.clock + 1)) :: s.log } := by
  simp only [taSaCryptoSign, wp_bind, a.outLength_eq, a.request_eq, a.callerUuid_eq, requireNonNull,
    Arguments.request, Option.elim_some, ofExcept, wp_pure, wp_check, a.input, keyStoreUnwrap,
    a.acquire, wp_poll, a.allowed, checkSign, wp_checkRights, a.sign, a.required]
  simp

theorem signRequiredLength_ne_ok (h : signRequiredLength header request = .error status) :
    status ≠ .ok := by
  have hdigest {parameters : Option DigestNumber} {e : SaStatus}
      (h : signDigest parameters = .error e) : e ≠ .ok := by
    obtain _ | _ | digest := parameters <;> cases h <;> decide
  cases request with
  | ecdsa parameters =>
    simp only [signRequiredLength, bind_eq_error] at h
    obtain h | ⟨_, _, h | ⟨_, _, h | ⟨_, _, h⟩⟩⟩ := h
    · exact hdigest h
    · exact require_eq_error h (by decide)
    · exact require_eq_error h (by decide)
    · cases h
  | eddsa =>
    simp only [signRequiredLength, bind_eq_error] at h
    obtain h | ⟨_, _, h | ⟨_, _, h⟩⟩ := h
    · exact require_eq_error h (by decide)
    · exact require_eq_error h (by decide)
    · cases h
  | rsaPss parameters =>
    simp only [signRequiredLength, bind_eq_error] at h
    obtain h | ⟨_, _, h | ⟨_, _, h | ⟨_, _, h | ⟨_, _, h⟩⟩⟩⟩ := h
    · exact requireNonNull_eq_error h
    · exact require_eq_error h (by decide)
    · exact require_eq_error h (by decide)
    · exact require_eq_error h (by decide)
    · cases h
  | rsaPkcs1v15 parameters =>
    simp only [signRequiredLength, bind_eq_error] at h
    obtain h | ⟨_, _, h | ⟨_, _, h⟩⟩ := h
    · exact hdigest h
    · exact require_eq_error h (by decide)
    · cases h

theorem returnStatus_ne_ok (h : returnStatus initial before body = .error status) :
    status ≠ .ok := by
  cases body with
  | ok a => cases h
  | error set =>
    simp only [returnStatus] at h
    split at h
    · cases h
    · rename_i status' hstatus
      obtain rfl := Except.error.inj h
      exact hstatus

theorem signFunction_ne_ok (h : signFunction lib storedKey data before request = .error status) :
    status ≠ .ok := by
  unfold signFunction at h
  split at h
  · exact returnStatus_ne_ok h
  · exact returnStatus_ne_ok h
  · exact returnStatus_ne_ok h
  · exact returnStatus_ne_ok h
  · cases h
    nofun

theorem wp_signOut {storedKey : StoredKey} {request : SignRequest} :
    wp (signOut lib storedKey data request requiredLength outLength (some out))
      (fun output _ => requiredLength ≤ outLength ∧
        signSaltAllowed storedKey.header request = true ∧
        signFunction lib storedKey data ⟨outLength, out, none⟩ request = .ok output)
      (fun status _ => status ≠ .ok) s := by
  simp only [signOut, wp_bind, wp_check, wp_useKey, wp_ofExcept, decide_eq_true_eq]
  refine ⟨fun hfits => ⟨fun hsalt => ⟨fun output h => ⟨hfits, hsalt, h⟩, ?_⟩, by simp⟩, by simp⟩
  intro status h
  exact signFunction_ne_ok h

/-- A key that is unwrapped was acquired, and a failure to unwrap one is an error. -/
theorem wp_keyStoreUnwrap_acquire {Q : StoredKey → CommandState → Prop}
    {F : SaStatus → CommandState → Prop}
    (hok : ∀ storedKey acquired,
      objectStoreAcquire store key (some callerUuid) = (.ok, some storedKey, acquired) →
      keyStoreAllowed storedKey.header.rights callerUuid (world s.clock) = true →
      Q storedKey { s with clock := s.clock + 1 })
    (herror : ∀ status s', status ≠ .ok → F status s') :
    wp (keyStoreUnwrap world store key callerUuid) Q F s := by
  unfold keyStoreUnwrap
  rcases objectStoreAcquire_cases store key (some callerUuid) with
    ⟨status, ha, hne⟩ | ⟨o, u, hu, _, _, _, _, ha⟩
  · rw [ha]
    cases status with
    | ok => exact absurd rfl hne
    | _ => exact herror _ _ hne
  · cases hu
    rw [ha]
    simp only [wp_bind, wp_poll, wp_check, wp_pure]
    exact ⟨hok o _ ha, fun _ => herror _ _ (by decide)⟩

theorem wp_accepted : wp (taSaCryptoSign lib world store args)
    (fun output _ => ∃ a : Accepted world store args s, ∀ out, args.out = some out → a.Reaches ∧
      signFunction lib a.storedKey args.data ⟨a.outLength, out, none⟩ a.request = .ok output)
    (fun status _ => status ≠ .ok) s := by
  simp only [taSaCryptoSign, wp_bind, wp_ofExcept, wp_check, requireNonNull_eq_ok,
    Arguments.request_eq_ok]
  refine ⟨fun outLength hlength => ⟨fun request hrequest => ⟨fun hinput =>
    ⟨fun callerUuid huuid => ?_, fun _ => requireNonNull_eq_error⟩, by simp⟩,
    fun _ => Arguments.request_eq_error⟩, fun _ => requireNonNull_eq_error⟩
  apply wp_keyStoreUnwrap_acquire
  · intro storedKey acquired hacquire hallowed
    simp only [wp_bind, checkSign, wp_checkRights, wp_ofExcept]
    refine ⟨fun hsign => ⟨fun requiredLength hrequired => ?_, fun _ => signRequiredLength_ne_ok⟩,
      by simp⟩
    let a : Accepted world store args s := {
      outLength := outLength
      request := request
      callerUuid := callerUuid
      storedKey := storedKey
      acquired := acquired
      requiredLength := requiredLength
      outLength_eq := hlength
      request_eq := hrequest
      input := of_decide_eq_true hinput
      callerUuid_eq := huuid
      acquire := hacquire
      allowed := hallowed
      sign := hsign
      required := hrequired }
    cases hout : args.out with
    | none => exact ⟨a, by simp⟩
    | some out =>
      apply wp.mono wp_signOut
      · rintro output s' ⟨hfits, hsalt, hok⟩
        refine ⟨a, fun out' hout' => ?_⟩
        cases hout'
        exact ⟨⟨hfits, hsalt⟩, hok⟩
      · intro status s' hstatus
        exact hstatus
  · intro status s' hstatus
    exact hstatus

/-- The signature of a command is one, or the command fails: whatever the calls of OpenSSL come to,
a command with a buffer succeeds with a signature of at most the length that the command names when
it is asked with `NULL`. -/
def Signs (lib : SignLibrary) (world : World) (store : KeyStore) (args : Arguments)
    (s : CommandState) : Prop :=
  args.out.isSome → wp (taSaCryptoSign lib world store args)
    (fun output _ => wp (taSaCryptoSign lib world store args.query)
      (fun query _ => ∃ request, args.signatureAlgorithm = some request ∧
        IsSigned lib request query.outLength output)
      (fun _ _ => False) s)
    (fun status _ => status ≠ .ok) s

theorem wp_query (a : Accepted world store args s) {F : SaStatus → CommandState → Prop}
    {Q : SignOutput → CommandState → Prop} (h : ∀ s', Q ⟨a.requiredLength, [], none⟩ s') :
    wp (taSaCryptoSign lib world store args.query) Q F s :=
  (wp_taSaCryptoSign a.query).2 (h _)

theorem taSaCryptoSign_signs_iff : Signs lib world store args s ↔
    ∀ a : Accepted world store args s, args.out.isSome → a.Reaches →
      SignsSoundly lib a.storedKey args.data a.outLength a.request := by
  constructor
  · intro h a hout hreaches
    have hrun := h hout
    obtain ⟨out, hsome⟩ := Option.isSome_iff_exists.1 hout
    rw [wp_taSaCryptoSign a, hsome] at hrun
    simp only [signOut, wp_bind, wp_check, wp_useKey, wp_ofExcept] at hrun
    apply (isSigned_signFunction_iff out a.required).1
    intro output hok
    have hquery := ((hrun.1 (decide_eq_true hreaches.1)).1 hreaches.2).1 output hok
    rw [wp_taSaCryptoSign a.query] at hquery
    obtain ⟨request, hrequest, hsigned⟩ := hquery
    obtain rfl := Option.some.inj (a.request_eq.symm.trans hrequest)
    exact hsigned
  · intro h hout
    obtain ⟨out, hsome⟩ := Option.isSome_iff_exists.1 hout
    apply wp.mono wp_accepted
    · rintro output s' ⟨a, hfunction⟩
      obtain ⟨hreaches, hok⟩ := hfunction out hsome
      apply wp_query a
      intro s''
      exact ⟨a.request, a.request_eq,
        (isSigned_signFunction_iff _ a.required).2 (h a hout hreaches) output hok⟩
    · intro status s' hstatus
      exact hstatus

theorem modulusFits_iff (h : storedKey.header.size = pkey.bits / 8) :
    ModulusFits storedKey pkey ↔ pkey.bits % 8 = 0 := by
  rw [ModulusFits, h]
  omega

/-- With the signature functions for its parameter the command that returns the length only does the
same. -/
theorem wp_taSaCryptoSign_lengths {sign : List UInt8 → Except SaStatus Nat}
    {Q : Nat → CommandState → Prop} {F : SaStatus → CommandState → Prop}
    (hlength : args.outLength = some outLength) (hrequest : args.signatureAlgorithm = some request)
    (hinput : args.inp.isSome ∨ args.inLength = 0) (huuid : args.callerUuid = some callerUuid)
    (hsign : ∀ storedKey out, (store.objects args.key).object = some storedKey →
      args.out = some out → sign storedKey.key =
        (signFunction lib storedKey args.data ⟨outLength, out, none⟩ request).map
          SignOutput.outLength) :
    wp (TaSecureApi.taSaCryptoSign world store callerUuid request args.key
        (args.out.map fun _ => outLength) sign) Q F s ↔
      wp (taSaCryptoSign lib world store args) (fun output => Q output.outLength) F s := by
  have houtLength : ofExcept (requireNonNull args.outLength) = pure outLength := by
    rw [hlength]
    rfl
  have hnumber : ofExcept args.request = pure request := by rw [Arguments.request, hrequest]; rfl
  have hcaller : ofExcept (requireNonNull args.callerUuid) = pure callerUuid := by rw [huuid]; rfl
  simp only [TaSecureApi.taSaCryptoSign, taSaCryptoSign, wp_bind, houtLength, hnumber, hcaller,
    wp_pure, wp_check, hinput, decide_true, forall_const, not_true_eq_false, false_implies,
    and_true,
    keyStoreUnwrap]
  rcases objectStoreAcquire_cases store args.key (some callerUuid) with
    ⟨status, ha, hne⟩ | ⟨storedKey, u, hu, _, _, ho, _, ha⟩
  · rw [ha]
    cases status with
    | ok => exact absurd rfl hne
    | _ => exact Iff.rfl
  · rw [ha]
    cases hout : args.out with
    | none =>
      simp only [signOut, Option.map_none, wp_bind, wp_poll, wp_check, wp_pure, checkSign,
        wp_checkRights, wp_ofExcept]
    | some out =>
      have hfunction := hsign storedKey out ho hout
      simp only [signOut, Option.map_some, wp_bind, wp_poll, wp_check, wp_pure, wp_useKey,
        checkSign,
        wp_checkRights, wp_ofExcept, hfunction]
      cases signFunction lib storedKey args.data ⟨outLength, out, none⟩ request with
      | ok output => simp [Except.map]
      | error status => simp [Except.map]

end Command

def zeroSignature (pkey : EvpPkey) (capacity : Nat) : Option (Signature pkey capacity) :=
  let length := pkey.signatureLength.getD 0
  if h : length ≤ capacity then some {
    bytes := List.replicate length 0
    length_le := by rwa [List.length_replicate]
    length_eq := fun n hn => by
      show (List.replicate (pkey.signatureLength.getD 0) 0).length = n
      rw [List.length_replicate, hn, Option.getD_some] }
  else none

/-- A key of 1024 bits, which signs digests of thirty-two bytes only. -/
def sha256Library : SignLibrary where
  d2iPkcs8 _ := some ⟨.rsa, 1024⟩
  succeeds _ _ _ := true
  sign pkey _ primitive capacity :=
    match primitive with
    | .pkeySign inp => if inp.length = 32 then zeroSignature pkey capacity else none
    | _ => zeroSignature pkey capacity
  d2iEcdsaSig _ := none

def rsaKey : StoredKey := ⟨⟨allRights, .rsa, .zero, 128⟩, [1]⟩

def rsaKeys : KeyStore := (objectStoreAdd noKeys (some rsaKey) (some (.ofByte 1))).2.2

/-- A request to sign a digest that has only three bytes. -/
def shortDigest : Arguments where
  out := some (List.replicate 128 7)
  outLength := some 128
  signatureAlgorithm := some (.rsaPss (some ⟨some .sha256, some .sha256, 32⟩))
  precomputedDigest := true
  key := 31
  inp := some [1, 2, 3]
  inLength := 3
  callerUuid := some (.ofByte 1)

/-- A short digest is signed with success and without a signature. -/
theorem not_signs_shortDigest :
    ¬ Signs sha256Library (fun _ => noOutputs) rsaKeys shortDigest ⟨0, []⟩ := by
  intro h
  have hrun : ((taSaCryptoSign sha256Library (fun _ => noOutputs) rsaKeys shortDigest).run.run
      ⟨0, []⟩).1.toOption.map SignOutput.signature = some none := by
    decide +kernel
  rcases hr : (taSaCryptoSign sha256Library (fun _ => noOutputs) rsaKeys shortDigest).run.run
    ⟨0, []⟩
    with ⟨status | output, s'⟩
  · rw [hr] at hrun
    cases hrun
  · rw [hr] at hrun
    obtain ⟨query, _, request, _, hsigned⟩ := ((h rfl).of_ok hr).exists_ok
    obtain ⟨signature, hsome, _⟩ := hsigned.encodes
    cases hsome.symm.trans (Option.some.inj hrun)

end TaSecureApi.Signing
