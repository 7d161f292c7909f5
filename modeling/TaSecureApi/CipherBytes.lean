import TaSecureApi.CryptoCommands
import TaSecureApi.CipherSessions
import TaSecureApi.Lib.Lockstep

namespace TaSecureApi
set_option autoImplicit true
open Wp

/-- The cipher contexts of OpenSSL, by the bytes that go in and come out. `update` is given a buffer
and how many of its bytes it is to take; the tags of a context have 16 bytes. -/
structure EvpBytes (Ctx : Type) where
  update (mode : SaCipherMode) (context : Ctx) (inp : List UInt8) (inl : Int) :
    Option (List UInt8) × Ctx
  final (mode : SaCipherMode) (context : Ctx) : Option (List UInt8) × Ctx
  getTag (context : Ctx) : Option (Vector UInt8 16)
  setTag (context : Ctx) (tag : List UInt8) : Option Ctx

def SaCipherAlgorithm.isPadded : SaCipherAlgorithm → Bool
  | aesEcbPkcs7 | aesCbcPkcs7 => true
  | _ => false

variable {Ctx : Type}

def SymmetricContext.withEvp (context : SymmetricContext Ctx) (evpCipher : Ctx) :
    SymmetricContext Ctx := { context with evpCipher := evpCipher }

/-- The form of `symmetric_context_encrypt` and `symmetric_context_decrypt`. `out` and `inp` are
addresses, with the bytes that are at the second. Ends with the bytes written, of which
`*out_length` gets the number. -/
def symmetricContextUpdate (mode : SaCipherMode) (evp : EvpBytes Ctx)
    (context : SymmetricContext Ctx) (out inp : Nat) (bytes : List UInt8) :
    Except SaStatus (List UInt8) × SymmetricContext Ctx :=
  if context.cipherMode ≠ mode then (.error .invalidParameter, context)
  else if out = 0 then (.error .nullParameter, context)
  else if inp = 0 then (.error .nullParameter, context)
  else if ¬ context.cipherAlgorithm.isStream ∧ bytes.length % aesBlockSize ≠ 0 then
    (.error .invalidParameter, context)
  else
    match evp.update mode context.evpCipher bytes (castInt bytes.length) with
    | (none, evpCipher) => (.error .internalError, context.withEvp evpCipher)
    | (some written, evpCipher) => (.ok written, context.withEvp evpCipher)

def symmetricContextEncryptBytes (evp : EvpBytes Ctx) := symmetricContextUpdate .encrypt evp

def symmetricContextDecryptBytes (evp : EvpBytes Ctx) := symmetricContextUpdate .decrypt evp

/-- The form of `symmetric_context_encrypt_last` and `symmetric_context_decrypt_last`. Ends with
what `*out_length` gets and the bytes written: none where `out` is `NULL`. -/
def symmetricContextLast (mode : SaCipherMode) (lengthAllowed : SaCipherAlgorithm → Nat → Bool)
    (requiredLength : Nat → Nat) (evp : EvpBytes Ctx) (context : SymmetricContext Ctx)
    (out inp : Nat) (bytes : List UInt8) :
    Except SaStatus (Nat × List UInt8) × SymmetricContext Ctx :=
  if context.cipherMode ≠ mode then (.error .invalidParameter, context)
  else if context.cipherAlgorithm.isUnpadded then
    (.error .invalidParameter, context)
  else if ¬ lengthAllowed context.cipherAlgorithm bytes.length then
    (.error .invalidParameter, context)
  else if out = 0 then (.ok (requiredLength bytes.length, []), context)
  else if inp = 0 then (.error .nullParameter, context)
  else
    match evp.update mode context.evpCipher bytes (castInt bytes.length) with
    | (none, evpCipher) => (.error .internalError, context.withEvp evpCipher)
    | (some written, evpCipher) =>
      match evp.final mode evpCipher with
      | (none, evpCipher) => (.error .internalError, context.withEvp evpCipher)
      | (some last, evpCipher) =>
        (.ok (written.length + last.length, written ++ last), context.withEvp evpCipher)

def encryptLastLengthAllowed (algorithm : SaCipherAlgorithm) (inLength : Nat) : Bool :=
  ¬ (algorithm.isPadded ∧ inLength > aesBlockSize)

def symmetricContextEncryptLast (evp : EvpBytes Ctx) :=
  symmetricContextLast .encrypt encryptLastLengthAllowed (paddedSize · % 2 ^ 64) evp

def decryptLastLengthAllowed (algorithm : SaCipherAlgorithm) (inLength : Nat) : Bool :=
  ¬ (algorithm ≠ .chacha20Poly1305 ∧ inLength > aesBlockSize)

def symmetricContextDecryptLast (evp : EvpBytes Ctx) :=
  symmetricContextLast .decrypt decryptLastLengthAllowed id evp

def tagLengthAllowed (algorithm : SaCipherAlgorithm) (tagLength : Nat) : Bool :=
  match algorithm with
  | .aesGcm => tagLength ≤ 16
  | .chacha20Poly1305 => tagLength = 16
  | _ => false

/-- `symmetric_context_get_tag`, with a tag that is not `NULL`. -/
def symmetricContextGetTag (evp : EvpBytes Ctx) (context : SymmetricContext Ctx)
    (tagLength : Nat) : Except SaStatus (List UInt8) :=
  if context.cipherMode ≠ .encrypt then .error .invalidParameter
  else if ¬ tagLengthAllowed context.cipherAlgorithm tagLength then .error .invalidParameter
  else
    match evp.getTag context.evpCipher with
    | none => .error .internalError
    | some tag => .ok (tag.toList.take tagLength)

/-- `symmetric_context_set_tag`, with a tag that is not `NULL`. -/
def symmetricContextSetTag (evp : EvpBytes Ctx) (context : SymmetricContext Ctx)
    (tag : List UInt8) : Except SaStatus (SymmetricContext Ctx) :=
  if context.cipherMode ≠ .decrypt then .error .invalidParameter
  else if ¬ tagLengthAllowed context.cipherAlgorithm tag.length then .error .invalidParameter
  else
    match evp.setTag context.evpCipher tag with
    | none => .error .internalError
    | some evpCipher => .ok (context.withEvp evpCipher)

/-- The call of `ta_sa_crypto_cipher_process_symmetric`. -/
def processCall (evp : EvpBytes Ctx) (context : SymmetricContext Ctx) (out inp : Nat)
    (bytes : List UInt8) : Except SaStatus (List UInt8) × SymmetricContext Ctx :=
  match context.cipherMode with
  | .encrypt => symmetricContextEncryptBytes evp context out inp bytes
  | .decrypt => symmetricContextDecryptBytes evp context out inp bytes

/-- What a last call gives: the length it reports, the bytes written, and the tag buffer. -/
structure LastOutput where
  reported : Nat
  written : List UInt8
  tag : List UInt8
  deriving DecidableEq

def lastOutput (tag : List UInt8) : Except SaStatus (Nat × List UInt8) × SymmetricContext Ctx →
    Except SaStatus LastOutput × SymmetricContext Ctx
  | (.error status, context) => (.error status, context)
  | (.ok (reported, written), context) => (.ok ⟨reported, written, tag⟩, context)

/-- The calls of `ta_sa_crypto_cipher_process_last` for a symmetric cipher, with the bytes of the
tag buffer. A tag is made after the last bytes are encrypted, and set before they are decrypted. -/
def processLastCall (evp : EvpBytes Ctx) (context : SymmetricContext Ctx) (out inp : Nat)
    (bytes tag : List UInt8) : Except SaStatus LastOutput × SymmetricContext Ctx :=
  match context.cipherMode with
  | .encrypt =>
    match symmetricContextEncryptLast evp context out inp bytes with
    | (.error status, context) => (.error status, context)
    | (.ok (reported, written), context) =>
      if context.cipherAlgorithm.isAead then
        ((symmetricContextGetTag evp context tag.length).map fun tag => ⟨reported, written, tag⟩,
          context)
      else (.ok ⟨reported, written, tag⟩, context)
  | .decrypt =>
    if context.cipherAlgorithm.isAead then
      match symmetricContextSetTag evp context tag with
      | .error status => (.error status, context)
      | .ok context => lastOutput tag (symmetricContextDecryptLast evp context out inp bytes)
    else lastOutput tag (symmetricContextDecryptLast evp context out inp bytes)

/-- A cipher of a symmetric algorithm: it has a context. -/
structure SymmetricCipher (Ctx : Type) where
  context : SymmetricContext Ctx
  keyRights : SaRights

def SymmetricCipher.cipher (c : SymmetricCipher Ctx) : Cipher Ctx where
  cipherAlgorithm := c.context.cipherAlgorithm
  cipherMode := c.context.cipherMode
  keyRights := c.keyRights
  symmetricContext := some c.context
  agrees := by
    rintro _ ⟨⟩
    exact ⟨rfl, rfl⟩

/-- What a call finds beside the cipher: the clock and the outputs, the SVP buffers of the client,
and the two buffers it was given. -/
structure CallPlace where
  world : World
  svps : Nat → Except SaStatus (Option SvpBuffer)
  out : SaBuffer
  inp : SaBuffer

def CallPlace.client (place : CallPlace) (c : SymmetricCipher Ctx) : Client Ctx :=
  ⟨fun _ => .ok c.cipher, place.svps⟩

def CallPlace.addresses (place : CallPlace) (c : SymmetricCipher Ctx)
    (requiredLength bytesToProcess : Nat) : Nat × Nat :=
  match cipherBuffers (place.client c) c.cipher place.out place.inp requiredLength
    bytesToProcess with
  | .ok addresses => addresses
  | .error _ => (0, 0)

/-- Two ciphers that differ in their contexts of OpenSSL only. -/
structure SymmetricCipher.Alike (c : SymmetricCipher Ctx) (c' : SymmetricCipher Ctx') : Prop where
  algorithm : c'.context.cipherAlgorithm = c.context.cipherAlgorithm
  mode : c'.context.cipherMode = c.context.cipherMode
  rights : c'.keyRights = c.keyRights

namespace SymmetricCipher

variable (evp : EvpBytes Ctx) (place : CallPlace) (c : SymmetricCipher Ctx) (bytes : List UInt8)

/-- `ta_sa_crypto_cipher_process`, with an output buffer: what is written to `*bytes_to_process`,
the bytes, and the cipher after it. -/
def process : Except SaStatus ((Nat × List UInt8) × SymmetricCipher Ctx) :=
  let n := bytes.length
  let requiredLength := processRequiredLength c.context.cipherAlgorithm 0 n false
  let addresses := place.addresses c requiredLength n
  match processCall evp c.context addresses.1 addresses.2 bytes with
  | (result, context) =>
    match ((taSaCryptoCipherProcess place.world (place.client c)
        ⟨some place.out, 0, some place.inp, n, none, 0, result.map List.length⟩).run.run ⟨0, []⟩).1,
      result with
    | .ok reported, .ok written => .ok ((reported, written), { c with context := context })
    | .error status, _ => .error status
    | .ok _, .error status => .error status

/-- `ta_sa_crypto_cipher_process_last`, with an output buffer. -/
def processLast (tag : List UInt8) : Except SaStatus (LastOutput × SymmetricCipher Ctx) :=
  let n := bytes.length
  let requiredLength := processLastRequiredLength c.context.cipherAlgorithm n
  let addresses := place.addresses c requiredLength n
  match processLastCall evp c.context addresses.1 addresses.2 bytes tag with
  | (result, context) =>
    match ((taSaCryptoCipherProcessLast place.world (place.client c)
        ⟨some place.out, 0, some place.inp, n, some (some tag.length), 0,
          result.map LastOutput.reported⟩).run.run ⟨0, []⟩).1, result with
    | .ok reported, .ok output =>
      .ok ({ output with reported := reported }, { c with context := context })
    | .error status, _ => .error status
    | .ok _, .error status => .error status

end SymmetricCipher

section Rules

variable {evp : EvpBytes Ctx} {context context' : SymmetricContext Ctx} {place : CallPlace}
  {c c' : SymmetricCipher Ctx} {bytes tag : List UInt8}

/-- The checks of a call beside those of its length: its buffers and the rights of the key. -/
structure CallPlace.Permits (place : CallPlace) (c : SymmetricCipher Ctx)
    (requiredLength bytesToProcess : Nat) (addresses : Nat × Nat) : Prop where
  buffers : cipherBuffers (place.client c) c.cipher place.out place.inp requiredLength
    bytesToProcess = .ok addresses
  rights : rightsAllowedMode c.context.cipherMode c.keyRights .symmetric (place.world 0)

theorem cipherBuffers_ne_zero {client : Client Ctx} {cipher : Cipher Ctx}
    (h : cipherBuffers client cipher out inp requiredLength n = .ok addresses) :
    addresses.1 ≠ 0 ∧ addresses.2 ≠ 0 := by
  simp only [cipherBuffers, bind_eq_ok, require_eq_ok, exists_const] at h
  obtain ⟨hout, hinp, -, -, -, outBytes, houtBytes, inBytes, hinBytes, haddresses⟩ := h
  cases haddresses
  exact ⟨(convertBuffer_range hout houtBytes).1, (convertBuffer_range hinp hinBytes).1⟩

theorem CallPlace.Permits.addresses_eq (h : place.Permits c requiredLength n found) :
    place.addresses c requiredLength n = found := by
  rw [CallPlace.addresses, h.buffers]

theorem CallPlace.Permits.congr {c' : SymmetricCipher Ctx'}
    (h : place.Permits c requiredLength n found) (ha : c.Alike c') :
    place.Permits c' requiredLength n found where
  buffers := by
    have hsvps : (place.client c').svps = (place.client c).svps := rfl
    have halgorithm : c'.cipher.cipherAlgorithm = c.cipher.cipherAlgorithm := ha.algorithm
    have hrights : c'.cipher.keyRights = c.cipher.keyRights := ha.rights
    have hbuffers := h.buffers
    simp only [cipherBuffers] at hbuffers ⊢
    rw [halgorithm, hrights]
    simp only [convertBuffer_congr hsvps]
    exact hbuffers
  rights := by
    rw [ha.mode, ha.rights]
    exact h.rights

theorem symmetricContextUpdate_eq_ok :
    symmetricContextUpdate mode evp context out inp bytes = (.ok written, context') ↔
      context.cipherMode = mode ∧ out ≠ 0 ∧ inp ≠ 0 ∧
      (context.cipherAlgorithm.isStream ∨ bytes.length % aesBlockSize = 0) ∧
      ∃ evpCipher, evp.update mode context.evpCipher bytes (castInt bytes.length) =
        (some written, evpCipher) ∧ context' = context.withEvp evpCipher := by
  constructor
  · intro h
    unfold symmetricContextUpdate at h
    split_ifs at h with hmode hout hinp hlength
    · cases h
    · cases h
    · cases h
    · cases h
    · have hallowed := Decidable.not_not.1 (mt not_or.1 hlength)
      split at h
      · cases h
      · rename_i hupdate
        cases h
        exact ⟨Decidable.not_not.1 hmode, hout, hinp, hallowed, _, hupdate, rfl⟩
  · rintro ⟨hmode, hout, hinp, hlength, evpCipher, hupdate, rfl⟩
    rw [symmetricContextUpdate, if_neg (not_not.2 hmode), if_neg hout, if_neg hinp,
      if_neg fun h => not_or.2 h hlength, hupdate]

theorem processCall_eq_ok : processCall evp context out inp bytes = (.ok written, context') ↔
    out ≠ 0 ∧ inp ≠ 0 ∧
    (context.cipherAlgorithm.isStream ∨ bytes.length % aesBlockSize = 0) ∧
    ∃ evpCipher, evp.update context.cipherMode context.evpCipher bytes (castInt bytes.length) =
      (some written, evpCipher) ∧ context' = context.withEvp evpCipher := by
  have hcall : processCall evp context out inp bytes =
      symmetricContextUpdate context.cipherMode evp context out inp bytes := by
    unfold processCall
    cases context.cipherMode with
    | encrypt => rfl
    | decrypt => rfl
  rw [hcall, symmetricContextUpdate_eq_ok, and_iff_right rfl]

def EndsWith (evp : EvpBytes Ctx) (mode : SaCipherMode) (start : Ctx) (bytes : List UInt8)
    (reported : Nat) (written : List UInt8) (last : Ctx) : Prop :=
  reported = written.length ∧ ∃ first middle rest,
    evp.update mode start bytes (castInt bytes.length) = (some first, middle) ∧
    evp.final mode middle = (some rest, last) ∧ written = first ++ rest

theorem symmetricContextLast_eq_ok (hout : out ≠ 0) :
    symmetricContextLast mode lengthAllowed requiredLength evp context out inp bytes =
        (.ok (reported, written), context') ↔
      context.cipherMode = mode ∧ ¬ context.cipherAlgorithm.isUnpadded ∧
      lengthAllowed context.cipherAlgorithm bytes.length ∧ inp ≠ 0 ∧
      ∃ last, EndsWith evp mode context.evpCipher bytes reported written last ∧
        context' = context.withEvp last := by
  constructor
  · intro h
    unfold symmetricContextLast at h
    split_ifs at h with hmode halgorithm hlength hinp
    · cases h
    · cases h
    · cases h
    · split at h
      · cases h
      · rename_i first middle hupdate
        split at h
        · cases h
        · rename_i rest last hfinal
          cases h
          exact ⟨Decidable.not_not.1 hmode, halgorithm, hlength, hinp, last,
            ⟨List.length_append.symm, first, middle, rest, hupdate, hfinal, rfl⟩, rfl⟩
    · cases h
  · rintro ⟨hmode, halgorithm, hlength, hinp, last,
      ⟨rfl, first, middle, rest, hupdate, hfinal, rfl⟩,
      rfl⟩
    rw [symmetricContextLast, if_neg (not_not.2 hmode), if_neg halgorithm,
      if_neg (not_not.2 hlength), if_neg hout, if_neg hinp, hupdate]
    simp only [hfinal, List.length_append]

/-- A symmetric call ends as the call of OpenSSL does, where the rights allow its mode. -/
theorem symmetricCall_eq_ok {call : Except SaStatus Nat} {s : CommandState} :
    wp (symmetricCall world c.cipher call) (fun b _ => b = reported) (fun _ _ => False) s ↔
      rightsAllowedMode c.context.cipherMode c.keyRights .symmetric (world s.clock) ∧
      call = .ok reported := by
  have hrest : ∀ s', wp (do
      useKey c.cipher.cipherMode.flag c.cipher.keyRights
      ofExcept call) (fun b _ => b = reported) (fun _ _ => False) s' ↔ call = .ok reported := by
    intro s'
    rw [wp_bind, wp_useKey, wp_ofExcept_eq_ok]
  have hsome : c.cipher.symmetricContext.isSome = true := rfl
  have hmode : checkMode world .symmetric c.cipher.cipherMode c.cipher.keyRights =
      checkRights world c.context.cipherMode.flag (fun rights => rightsAllowedMode
        c.context.cipherMode rights .symmetric) c.keyRights := by
    change checkMode world .symmetric c.context.cipherMode c.keyRights = _
    cases c.context.cipherMode with
    | encrypt => rfl
    | decrypt => rfl
  rw [symmetricCall, check_bind_ends, and_iff_right hsome, wp_bind, hmode, wp_checkRights]
  simp only [hrest]
  constructor
  · rintro ⟨hallowed, hrefused⟩
    have h := Decidable.not_not.1 hrefused
    exact ⟨h, hallowed h⟩
  · rintro ⟨h, hcall⟩
    exact ⟨fun _ => hcall, fun hn => hn h⟩

theorem exists_permits_iff : (∃ found, place.Permits c requiredLength n found) ↔
    (∃ found, cipherBuffers (place.client c) c.cipher place.out place.inp requiredLength n =
      .ok found) ∧
    rightsAllowedMode c.context.cipherMode c.keyRights .symmetric (place.world 0) :=
  ⟨fun ⟨found, h⟩ => ⟨⟨found, h.buffers⟩, h.rights⟩, fun ⟨⟨found, h⟩, hr⟩ => ⟨found, h, hr⟩⟩

theorem cipherProcessSymmetric_eq_ok {call : Except SaStatus Nat} {s : CommandState}
    (hsymmetric : c.context.cipherAlgorithm.isSymmetric) (hout : outBytes ≠ 0)
    (hinp : inBytes ≠ 0) :
    wp (cipherProcessSymmetric world c.cipher outBytes inBytes n call) (fun b _ => b = reported)
        (fun _ _ => False) s ↔
      (c.context.cipherAlgorithm.isStream ∨ n % aesBlockSize = 0) ∧
      rightsAllowedMode c.context.cipherMode c.keyRights .symmetric (world s.clock) ∧
      call = .ok reported := by
  have halgorithm : c.cipher.cipherAlgorithm = c.context.cipherAlgorithm := rfl
  rw [cipherProcessSymmetric, check_bind_ends, check_bind_ends, check_bind_ends,
    and_iff_right (decide_eq_true hout), and_iff_right (decide_eq_true hinp), symmetricCall_eq_ok,
    halgorithm]
  refine and_congr_left' ?_
  cases h : c.context.cipherAlgorithm with
  | rsaPkcs1v15 | rsaOaep | ecElgamal =>
    rw [h] at hsymmetric
    cases hsymmetric
  | _ => simp [SaCipherAlgorithm.isStream]

theorem cipherProcessAsymmetric_zero {s : CommandState} {call : Except SaStatus Nat} :
    ¬ wp (cipherProcessAsymmetric keyType keySizes world cipher 0 outBytes inBytes n call)
      (fun b _ => b = reported) (fun _ _ => False) s := by
  rw [cipherProcessAsymmetric, check_bind_ends]
  exact fun h => absurd h.1 (by decide)

/-- The command checks the buffers and the rights, and the length for a cipher of blocks. -/
theorem taSaCryptoCipherProcess_eq_ok {call : Except SaStatus Nat} :
    ((taSaCryptoCipherProcess place.world (place.client c)
      ⟨some place.out, 0, some place.inp, n, none, 0, call⟩).run.run ⟨0, []⟩).1 = .ok reported ↔
    (∃ found, place.Permits c (processRequiredLength c.context.cipherAlgorithm 0 n false) n found) ∧
    c.context.cipherAlgorithm.isSymmetric ∧
    (c.context.cipherAlgorithm.isStream ∨ n % aesBlockSize = 0) ∧ call = .ok reported := by
  have hclient : ((place.client c).ciphers 0).mapError (fun _ => SaStatus.invalidParameter) =
      .ok c.cipher := rfl
  have halgorithm : c.cipher.cipherAlgorithm = c.context.cipherAlgorithm := rfl
  rw [run_eq_ok_iff, exists_permits_iff, taSaCryptoCipherProcess, requireNonNull,
    ofExcept_bind_ends]
  simp only [Option.elim, Except.ok.injEq, exists_eq_left', ofExcept_bind_ends, hclient,
    Option.isNone_some, Bool.false_and, halgorithm]
  calc _ ↔ ∃ found, cipherBuffers (place.client c) c.cipher place.out place.inp
          (processRequiredLength c.context.cipherAlgorithm 0 n false) n = .ok found ∧
        c.context.cipherAlgorithm.isSymmetric ∧
        (c.context.cipherAlgorithm.isStream ∨ n % aesBlockSize = 0) ∧
        rightsAllowedMode c.context.cipherMode c.keyRights .symmetric (place.world 0) ∧
        call = .ok reported := by
        refine exists_congr fun found => and_congr_right fun hbuffers => ?_
        obtain ⟨hout, hinp⟩ := cipherBuffers_ne_zero hbuffers
        have hends : c.context.cipherAlgorithm.isSymmetric →
            (wp (cipherProcessSymmetric place.world c.cipher found.1 found.2 n call)
              (fun b _ => b = reported) (fun _ _ => False) ⟨0, []⟩ ↔ _) :=
          fun h => cipherProcessSymmetric_eq_ok h hout hinp
        cases halg : c.context.cipherAlgorithm with
        | rsaPkcs1v15 | rsaOaep | ecElgamal =>
          exact ⟨fun h => absurd h cipherProcessAsymmetric_zero, fun h => absurd h.1 (by decide)⟩
        | _ =>
          rw [halg] at hends
          exact (hends rfl).trans (and_iff_right rfl).symm
    _ ↔ _ := by
      constructor
      · rintro ⟨found, hbuffers, hsymmetric, hlength, hrights, hcall⟩
        exact ⟨⟨⟨found, hbuffers⟩, hrights⟩, hsymmetric, hlength, hcall⟩
      · rintro ⟨⟨⟨found, hbuffers⟩, hrights⟩, hsymmetric, hlength, hcall⟩
        exact ⟨found, hbuffers, hsymmetric, hlength, hrights, hcall⟩

theorem SymmetricCipher.process_eq_ok :
    c.process evp place bytes = .ok ((reported, written), c') ↔
      (∃ found, place.Permits c
        (processRequiredLength c.context.cipherAlgorithm 0 bytes.length false) bytes.length found) ∧
      c.context.cipherAlgorithm.isSymmetric ∧
      (c.context.cipherAlgorithm.isStream ∨ bytes.length % aesBlockSize = 0) ∧
      reported = written.length ∧
      ∃ evpCipher, evp.update c.context.cipherMode c.context.evpCipher bytes
        (castInt bytes.length) = (some written, evpCipher) ∧
        c' = { c with context := c.context.withEvp evpCipher } := by
  constructor
  · intro h
    unfold SymmetricCipher.process at h
    dsimp only at h
    split at h
    · rename_i result _ hrun hresult
      cases h
      obtain ⟨hpermits, hsymmetric, hlength, hreported⟩ := taSaCryptoCipherProcess_eq_ok.1 hrun
      obtain ⟨-, -, -, evpCipher, hupdate, hcontext⟩ := processCall_eq_ok.1 (Prod.ext hresult rfl)
      rw [hresult] at hreported
      cases hreported
      exact ⟨hpermits, hsymmetric, hlength, rfl, evpCipher, hupdate, by rw [← hcontext]⟩
    · cases h
    · cases h
  · rintro ⟨⟨found, hpermits⟩, hsymmetric, hlength, rfl, evpCipher, hupdate, rfl⟩
    obtain ⟨hout, hinp⟩ := cipherBuffers_ne_zero hpermits.buffers
    have hcall : processCall evp c.context found.1 found.2 bytes =
        (.ok written, c.context.withEvp evpCipher) :=
      processCall_eq_ok.2 ⟨hout, hinp, hlength, evpCipher, hupdate, rfl⟩
    have hrun := taSaCryptoCipherProcess_eq_ok.2
      ⟨⟨found, hpermits⟩, hsymmetric, hlength,
      (rfl : Except.ok written.length = .ok written.length)⟩
    rw [SymmetricCipher.process]
    simp only [hpermits.addresses_eq, hcall, Except.map, hrun]

/-- The context that the last bytes go into: one with the tag, where they are decrypted with one. -/
def TagBefore (evp : EvpBytes Ctx) (context : SymmetricContext Ctx) (tag : List UInt8)
    (start : Ctx) : Prop :=
  if context.cipherMode = .decrypt ∧ context.cipherAlgorithm.isAead then
    evp.setTag context.evpCipher tag = some start
  else start = context.evpCipher

/-- What the tag buffer has in the end: the tag, where the last bytes were encrypted with one. -/
def TagAfter (evp : EvpBytes Ctx) (context : SymmetricContext Ctx) (tag : List UInt8) (last : Ctx)
    (tag' : List UInt8) : Prop :=
  if context.cipherMode = .encrypt ∧ context.cipherAlgorithm.isAead then
    ∃ made, evp.getTag last = some made ∧ tag' = made.toList.take tag.length
  else tag' = tag

def SymmetricContext.lastAllowed (context : SymmetricContext Ctx) (inLength : Nat) : Bool :=
  match context.cipherMode with
  | .encrypt => encryptLastLengthAllowed context.cipherAlgorithm inLength
  | .decrypt => decryptLastLengthAllowed context.cipherAlgorithm inLength

theorem symmetricContextGetTag_eq_ok : symmetricContextGetTag evp context n = .ok tag ↔
    context.cipherMode = .encrypt ∧ tagLengthAllowed context.cipherAlgorithm n ∧
    ∃ made, evp.getTag context.evpCipher = some made ∧ tag = made.toList.take n := by
  unfold symmetricContextGetTag
  split_ifs with hmode hlength
  · exact ⟨nofun, fun h => absurd h.1 hmode⟩
  · cases evp.getTag context.evpCipher with
    | none => exact ⟨nofun, fun ⟨_, _, _, h, _⟩ => nomatch h⟩
    | some made =>
      simp only [Except.ok.injEq, Option.some.injEq, exists_eq_left', eq_comm,
        and_iff_right (Decidable.not_not.1 hmode).symm, hlength, true_and]
  · exact ⟨nofun, fun h => absurd h.2.1 hlength⟩

theorem symmetricContextSetTag_eq_ok : symmetricContextSetTag evp context tag = .ok context' ↔
    context.cipherMode = .decrypt ∧ tagLengthAllowed context.cipherAlgorithm tag.length ∧
    ∃ start, evp.setTag context.evpCipher tag = some start ∧ context' = context.withEvp start := by
  unfold symmetricContextSetTag
  split_ifs with hmode hlength
  · exact ⟨nofun, fun h => absurd h.1 hmode⟩
  · cases evp.setTag context.evpCipher tag with
    | none => exact ⟨nofun, fun ⟨_, _, _, h, _⟩ => nomatch h⟩
    | some start =>
      simp only [Except.ok.injEq, Option.some.injEq, exists_eq_left', eq_comm,
        and_iff_right (Decidable.not_not.1 hmode).symm, hlength, true_and]
  · exact ⟨nofun, fun h => absurd h.2.1 hlength⟩

theorem symmetricContextLast_ends (hmode : context.cipherMode = mode) (hout : out ≠ 0)
    (hinp : inp ≠ 0) :
    symmetricContextLast mode lengthAllowed requiredLength evp context out inp bytes =
        (.ok (reported, written), context') ↔
      ¬ context.cipherAlgorithm.isUnpadded ∧ lengthAllowed context.cipherAlgorithm bytes.length ∧
      ∃ last, EndsWith evp mode context.evpCipher bytes reported written last ∧
        context' = context.withEvp last := by
  rw [symmetricContextLast_eq_ok hout, and_iff_right hmode, and_iff_right hinp]

theorem encryptLastCall_eq_ok (hmode : context.cipherMode = .encrypt) (hout : out ≠ 0)
    (hinp : inp ≠ 0) :
    processLastCall evp context out inp bytes tag = (.ok output, context') ↔
      ¬ context.cipherAlgorithm.isUnpadded ∧
      encryptLastLengthAllowed context.cipherAlgorithm bytes.length ∧
      (context.cipherAlgorithm.isAead → tagLengthAllowed context.cipherAlgorithm tag.length) ∧
      ∃ last, EndsWith evp .encrypt context.evpCipher bytes output.reported output.written last ∧
        (if context.cipherAlgorithm.isAead then
          ∃ made, evp.getTag last = some made ∧ output.tag = made.toList.take tag.length
        else output.tag = tag) ∧ context' = context.withEvp last := by
  obtain ⟨reported, written, tag'⟩ := output
  rw [processLastCall, hmode]
  constructor
  · intro h
    cases hcall : symmetricContextEncryptLast evp context out inp bytes with
    | mk result after =>
      cases result with
      | error status =>
        rw [hcall] at h
        cases h
      | ok lengths =>
        obtain ⟨reported', written'⟩ := lengths
        obtain ⟨halgorithm, hlength, last, hends, rfl⟩ :=
          (symmetricContextLast_ends hmode hout hinp).1 hcall
        rw [hcall] at h
        change (if context.cipherAlgorithm.isAead then _ else _) = _ at h
        split_ifs at h ⊢ with haead
        · cases hget : symmetricContextGetTag evp (context.withEvp last) tag.length with
          | error status =>
            rw [hget] at h
            cases h
          | ok made =>
            rw [hget] at h
            cases h
            obtain ⟨-, hallowed, hmade⟩ := symmetricContextGetTag_eq_ok.1 hget
            exact ⟨halgorithm, hlength, fun _ => hallowed, last, hends, hmade, rfl⟩
        · cases h
          exact ⟨halgorithm, hlength, fun h => absurd h haead, last, hends, rfl, rfl⟩
  · rintro ⟨halgorithm, hlength, hallowed, last, hends, hafter, rfl⟩
    rw [symmetricContextEncryptLast, (symmetricContextLast_ends hmode hout hinp).2
      ⟨halgorithm, hlength, last, hends, rfl⟩]
    change (if context.cipherAlgorithm.isAead then _ else _) = _
    split_ifs at hafter ⊢ with haead
    · have hget : symmetricContextGetTag evp (context.withEvp last) tag.length = .ok tag' :=
        symmetricContextGetTag_eq_ok.2 ⟨hmode, hallowed haead, hafter⟩
      rw [hget]
      rfl
    · have htag : tag' = tag := hafter
      rw [htag]

theorem decryptLastOutput_eq_ok (hmode : context.cipherMode = .decrypt) (hout : out ≠ 0)
    (hinp : inp ≠ 0) :
    lastOutput tag (symmetricContextDecryptLast evp context out inp bytes) =
      (.ok output, context') ↔
      ¬ context.cipherAlgorithm.isUnpadded ∧
      decryptLastLengthAllowed context.cipherAlgorithm bytes.length ∧
      ∃ last, EndsWith evp .decrypt context.evpCipher bytes output.reported output.written last ∧
        output.tag = tag ∧ context' = context.withEvp last := by
  obtain ⟨reported, written, tag'⟩ := output
  constructor
  · intro h
    cases hcall : symmetricContextDecryptLast evp context out inp bytes with
    | mk result after =>
      cases result with
      | error status =>
        rw [hcall] at h
        cases h
      | ok lengths =>
        rw [hcall] at h
        cases h
        obtain ⟨halgorithm, hlength, last, hends, hafter⟩ :=
          (symmetricContextLast_ends hmode hout hinp).1 hcall
        exact ⟨halgorithm, hlength, last, hends, rfl, hafter⟩
  · rintro ⟨halgorithm, hlength, last, hends, htag, rfl⟩
    rw [symmetricContextDecryptLast, (symmetricContextLast_ends hmode hout hinp).2
      ⟨halgorithm, hlength, last, hends, rfl⟩]
    cases htag
    rfl

theorem decryptLastCall_eq_ok (hmode : context.cipherMode = .decrypt) (hout : out ≠ 0)
    (hinp : inp ≠ 0) :
    processLastCall evp context out inp bytes tag = (.ok output, context') ↔
      ¬ context.cipherAlgorithm.isUnpadded ∧
      decryptLastLengthAllowed context.cipherAlgorithm bytes.length ∧
      (context.cipherAlgorithm.isAead → tagLengthAllowed context.cipherAlgorithm tag.length) ∧
      ∃ start, (if context.cipherAlgorithm.isAead then
          evp.setTag context.evpCipher tag = some start
        else start = context.evpCipher) ∧ ∃ last,
        EndsWith evp .decrypt start bytes output.reported output.written last ∧
        output.tag = tag ∧ context' = context.withEvp last := by
  rw [processLastCall, hmode]
  dsimp only
  split_ifs with haead
  · constructor
    · intro h
      cases hset : symmetricContextSetTag evp context tag with
      | error status =>
        rw [hset] at h
        cases h
      | ok after =>
        rw [hset] at h
        obtain ⟨-, hallowed, start, hstart, rfl⟩ := symmetricContextSetTag_eq_ok.1 hset
        have hmode' : (context.withEvp start).cipherMode = .decrypt := hmode
        obtain ⟨halgorithm, hlength, last, hends, htag, hafter⟩ :=
          (decryptLastOutput_eq_ok hmode' hout hinp).1 h
        exact ⟨halgorithm, hlength, fun _ => hallowed, start, hstart, last, hends, htag, hafter⟩
    · rintro ⟨halgorithm, hlength, hallowed, start, hstart, last, hends, htag, rfl⟩
      have hmode' : (context.withEvp start).cipherMode = .decrypt := hmode
      have hset : symmetricContextSetTag evp context tag = .ok (context.withEvp start) :=
        symmetricContextSetTag_eq_ok.2 ⟨hmode, hallowed haead, start, hstart, rfl⟩
      rw [hset]
      exact (decryptLastOutput_eq_ok hmode' hout hinp).2
        ⟨halgorithm, hlength, last, hends, htag, rfl⟩
  · rw [decryptLastOutput_eq_ok hmode hout hinp]
    simp only [haead, false_implies, true_and, exists_eq_left, Bool.false_eq_true]

theorem processLastCall_eq_ok (hout : out ≠ 0) (hinp : inp ≠ 0) :
    processLastCall evp context out inp bytes tag = (.ok output, context') ↔
      ¬ context.cipherAlgorithm.isUnpadded ∧ context.lastAllowed bytes.length ∧
      (context.cipherAlgorithm.isAead → tagLengthAllowed context.cipherAlgorithm tag.length) ∧
      ∃ start, TagBefore evp context tag start ∧ ∃ last,
        EndsWith evp context.cipherMode start bytes output.reported output.written last ∧
        TagAfter evp context tag last output.tag ∧ context' = context.withEvp last := by
  unfold SymmetricContext.lastAllowed TagBefore TagAfter
  cases hmode : context.cipherMode with
  | encrypt =>
    rw [encryptLastCall_eq_ok hmode hout hinp]
    simp only [reduceCtorEq, false_and, if_false, true_and, exists_eq_left]
  | decrypt =>
    rw [decryptLastCall_eq_ok hmode hout hinp]
    simp only [reduceCtorEq, false_and, if_false, true_and]

/-- What `ta_sa_crypto_cipher_process_last` checks of the lengths. -/
def lastLengthsAllowed (algorithm : SaCipherAlgorithm) (mode : SaCipherMode) (n tagLength : Nat) :
    Bool :=
  match algorithm with
  | .aesEcbPkcs7 | .aesCbcPkcs7 =>
    n ≤ aesBlockSize ∧ ¬ (mode = .decrypt ∧ n % aesBlockSize ≠ 0)
  | .aesCtr | .chacha20 => true
  | .aesGcm => n ≤ aesBlockSize ∧ tagLength ≤ aesBlockSize
  | .chacha20Poly1305 => tagLength = 16
  | _ => false

theorem tagAllowed_bind_ends {lengthAllowed : Nat → Bool} {f : Unit → Command β}
    {Q : β → CommandState → Prop} {s : CommandState} :
    wp (ofExcept (tagAllowed lengthAllowed (some (some n))) >>= f) Q (fun _ _ => False) s ↔
      lengthAllowed n = true ∧ wp (f ()) Q (fun _ _ => False) s := by
  rw [ofExcept_bind_ends]
  simp only [tagAllowed, requireNonNull, Option.elim, bind_eq_ok, Except.ok.injEq, exists_eq_left',
    require_eq_ok]
  constructor
  · rintro ⟨_, h⟩
    exact h
  · intro h
    exact ⟨(), h⟩

/-- The command checks the buffers and the rights, and the lengths as its algorithm has it. -/
theorem taSaCryptoCipherProcessLast_eq_ok {call : Except SaStatus Nat} :
    ((taSaCryptoCipherProcessLast place.world (place.client c)
      ⟨some place.out, 0, some place.inp, n, some (some tagLength), 0, call⟩).run.run ⟨0, []⟩).1 =
        .ok reported ↔
    (∃ found, place.Permits c (processLastRequiredLength c.context.cipherAlgorithm n) n found) ∧
    lastLengthsAllowed c.context.cipherAlgorithm c.context.cipherMode n tagLength ∧
    call = .ok reported := by
  have hclient : (place.client c).ciphers 0 = .ok c.cipher := rfl
  have halgorithm : c.cipher.cipherAlgorithm = c.context.cipherAlgorithm := rfl
  have hmode : c.cipher.cipherMode = c.context.cipherMode := rfl
  have hsome : c.cipher.symmetricContext.isSome = true := rfl
  rw [run_eq_ok_iff, exists_permits_iff, taSaCryptoCipherProcessLast, requireNonNull,
    ofExcept_bind_ends]
  simp only [Option.elim, Except.ok.injEq, exists_eq_left', ofExcept_bind_ends, hclient,
    halgorithm]
  calc _ ↔ ∃ found, cipherBuffers (place.client c) c.cipher place.out place.inp
          (processLastRequiredLength c.context.cipherAlgorithm n) n = .ok found ∧
        lastLengthsAllowed c.context.cipherAlgorithm c.context.cipherMode n tagLength ∧
        rightsAllowedMode c.context.cipherMode c.keyRights .symmetric (place.world 0) ∧
        call = .ok reported := by
        refine exists_congr fun found => and_congr_right fun hbuffers => ?_
        obtain ⟨hout, hinp⟩ := cipherBuffers_ne_zero hbuffers
        cases halg : c.context.cipherAlgorithm with
        | aesEcbPkcs7 | aesCbcPkcs7 =>
          dsimp only
          rw [if_neg hout, cipherProcessLastAesPkcs7, check_bind_ends, check_bind_ends,
            check_bind_ends, check_bind_ends, symmetricCall_eq_ok, hmode,
            and_iff_right (decide_eq_true hinp), and_iff_right hsome, lastLengthsAllowed,
            decide_eq_true_iff, decide_eq_true_iff, decide_eq_true_iff, and_assoc]
        | aesCtr | chacha20 =>
          dsimp only
          rw [check_bind_ends, check_bind_ends, and_iff_right (decide_eq_true hout),
            and_iff_right (decide_eq_true hinp), symmetricCall_eq_ok, lastLengthsAllowed,
            and_iff_right rfl]
        | aesGcm =>
          dsimp only
          rw [check_bind_ends, check_bind_ends, check_bind_ends, check_bind_ends,
            tagAllowed_bind_ends, symmetricCall_eq_ok, and_iff_right (decide_eq_true hout),
            and_iff_right (decide_eq_true hinp), and_iff_right hsome, lastLengthsAllowed,
            decide_eq_true_iff, decide_eq_true_iff, decide_eq_true_iff, and_assoc]
        | chacha20Poly1305 =>
          dsimp only
          rw [check_bind_ends, check_bind_ends, check_bind_ends, tagAllowed_bind_ends,
            symmetricCall_eq_ok, and_iff_right (decide_eq_true hout),
            and_iff_right (decide_eq_true hinp), and_iff_right hsome, lastLengthsAllowed]
        | _ => exact ⟨False.elim, fun h => absurd h.1 nofun⟩
    _ ↔ _ := by
      constructor
      · rintro ⟨found, hbuffers, hlength, hrights, hcall⟩
        exact ⟨⟨⟨found, hbuffers⟩, hrights⟩, hlength, hcall⟩
      · rintro ⟨⟨⟨found, hbuffers⟩, hrights⟩, hlength, hcall⟩
        exact ⟨found, hbuffers, hlength, hrights, hcall⟩

theorem tagLengthAllowed_of_last (h : lastLengthsAllowed algorithm mode n tagLength)
    (haead : algorithm.isAead) : tagLengthAllowed algorithm tagLength := by
  cases algorithm with
  | aesGcm => exact decide_eq_true (of_decide_eq_true h).2
  | chacha20Poly1305 => exact h
  | _ => cases haead

theorem SymmetricCipher.processLast_eq_ok :
    c.processLast evp place bytes tag = .ok (output, c') ↔
      (∃ found, place.Permits c
        (processLastRequiredLength c.context.cipherAlgorithm bytes.length) bytes.length found) ∧
      lastLengthsAllowed c.context.cipherAlgorithm c.context.cipherMode bytes.length tag.length ∧
      c.context.lastAllowed bytes.length ∧
      ∃ start, TagBefore evp c.context tag start ∧ ∃ last,
        EndsWith evp c.context.cipherMode start bytes output.reported output.written last ∧
        TagAfter evp c.context tag last output.tag ∧
        c' = { c with context := c.context.withEvp last } := by
  constructor
  · intro h
    unfold SymmetricCipher.processLast at h
    dsimp only at h
    split at h
    · rename_i reported result hrun hresult
      cases h
      obtain ⟨⟨found, hpermits⟩, hlengths, hreported⟩ := taSaCryptoCipherProcessLast_eq_ok.1 hrun
      obtain ⟨hout, hinp⟩ := cipherBuffers_ne_zero hpermits.buffers
      rw [hpermits.addresses_eq] at hresult hreported ⊢
      rw [hresult] at hreported
      cases hreported
      obtain ⟨-, hlength, -, start, hstart, last, hends, hafter, hcontext⟩ :=
        (processLastCall_eq_ok hout hinp).1 (Prod.ext hresult rfl)
      exact ⟨⟨found, hpermits⟩, hlengths, hlength, start, hstart, last, hends, hafter,
        by rw [← hcontext]⟩
    · cases h
    · cases h
  · rintro ⟨⟨found, hpermits⟩, hlengths, hlength, start, hstart, last, hends, hafter, rfl⟩
    obtain ⟨hout, hinp⟩ := cipherBuffers_ne_zero hpermits.buffers
    have hpadded : ¬ c.context.cipherAlgorithm.isUnpadded := by
      intro h
      cases halg : c.context.cipherAlgorithm with
      | aesEcb | aesCbc =>
        rw [halg] at hlengths
        cases hlengths
      | _ =>
        rw [halg] at h
        cases h
    have hcall : processLastCall evp c.context found.1 found.2 bytes tag =
        (.ok output, c.context.withEvp last) :=
      (processLastCall_eq_ok hout hinp).2
        ⟨hpadded, hlength, tagLengthAllowed_of_last hlengths, start,
        hstart, last, hends, hafter, rfl⟩
    have hrun := taSaCryptoCipherProcessLast_eq_ok.2 ⟨⟨found, hpermits⟩, hlengths,
      (rfl : Except.ok output.reported = .ok output.reported)⟩
    rw [SymmetricCipher.processLast]
    simp only [hpermits.addresses_eq, hcall, Except.map, hrun]

end Rules

end TaSecureApi
