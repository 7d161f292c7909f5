import TaSecureApi.CipherSessions

namespace TaSecureApi
set_option autoImplicit true

/-- A parameter of OpenSSL: it is not in the list, it cannot be read, or it has a value. -/
inductive OsslParam (α : Type)
  | absent
  | invalid
  | value (a : α)
  deriving DecidableEq

/-- What the calls on keys come to, which are not part of the client's own state. -/
structure KeyLibrary where
  keyImport (bytes : List UInt8) : Except SaStatus SaKey
  /-- `sa_key_header`, of which only the size is used. -/
  keyHeader (key : SaKey) : Except SaStatus Nat

inductive KeyCall
  | imported (key : SaKey)
  | released (key : SaKey)
  deriving DecidableEq

/-- What a function of the provider returns and leaves, and its calls on keys in their order. -/
structure ProviderResult (Context : Type) where
  result : Bool
  context : Context
  calls : List KeyCall

namespace ProviderResult

variable {Context : Type}

def success (context : Context) : ProviderResult Context := ⟨true, context, []⟩

def failure (context : Context) : ProviderResult Context := ⟨false, context, []⟩

def andThen (r : ProviderResult Context) (f : Context → ProviderResult Context) :
    ProviderResult Context :=
  if r.result then
    let s := f r.context
    { s with calls := r.calls ++ s.calls }
  else r

theorem andThen_result {r : ProviderResult Context} {f : Context → ProviderResult Context} :
    (r.andThen f).result = true ↔ r.result = true ∧ (f r.context).result = true := by
  unfold andThen
  split_ifs with h <;> simp [h]

theorem andThen_induct {P : Context → Prop} {r : ProviderResult Context}
    {f : Context → ProviderResult Context} (h : P r.context)
    (hf : ∀ context, P context → P (f context).context) : P (r.andThen f).context := by
  unfold andThen
  split_ifs
  · exact hf _ h
  · exact h

theorem andThen_context {r : ProviderResult Context} {f : Context → ProviderResult Context}
    (h : (r.andThen f).result = true) : (r.andThen f).context = (f r.context).context := by
  rw [andThen_result] at h
  rw [andThen, if_pos h.1]

end ProviderResult

/-- `sa_provider_cipher_context`, with the first `remaining_block_length` bytes of the remaining
block. -/
structure ProviderCipherContext (Session : Type) where
  cipherAlgorithm : SaCipherAlgorithm
  mode : SaCipherMode
  keySize : Nat
  blockSize : Nat
  ivLength : Nat
  key : Option SaKey
  cipherContext : Option Session
  iv : List UInt8
  padded : Bool
  aead : Bool
  tag : List UInt8
  deleteKey : Bool
  remainingBlock : List UInt8

/-- One of the ciphers that the provider declares. -/
structure ProviderCipher where
  cipherAlgorithm : SaCipherAlgorithm
  keySize : Nat
  ivLength : Nat
  blockSize : Nat
  aead : Bool

/-- The table of `SA_PROVIDER_CIPHER_FUNCTIONS`. -/
def saProviderCiphers : List ProviderCipher := [
  ⟨.aesEcbPkcs7, 128 / 8, aesBlockSize, aesBlockSize, false⟩,
  ⟨.aesEcbPkcs7, 256 / 8, aesBlockSize, aesBlockSize, false⟩,
  ⟨.aesCbcPkcs7, 128 / 8, aesBlockSize, aesBlockSize, false⟩,
  ⟨.aesCbcPkcs7, 256 / 8, aesBlockSize, aesBlockSize, false⟩,
  ⟨.aesCtr, 128 / 8, aesBlockSize, 1, false⟩,
  ⟨.aesCtr, 256 / 8, aesBlockSize, 1, false⟩,
  ⟨.aesGcm, 128 / 8, gcmIvLength, 1, true⟩,
  ⟨.aesGcm, 256 / 8, gcmIvLength, 1, true⟩,
  ⟨.chacha20, 256 / 8, chacha20CounterLength + chacha20NonceLength, 1, false⟩,
  ⟨.chacha20Poly1305, 256 / 8, chacha20NonceLength, 1, true⟩]

def cipherNewctx {Session : Type} (cipher : ProviderCipher) : ProviderCipherContext Session where
  cipherAlgorithm := cipher.cipherAlgorithm
  mode := .decrypt
  keySize := cipher.keySize
  blockSize := cipher.blockSize
  ivLength := cipher.ivLength
  key := none
  cipherContext := none
  iv := List.replicate aesBlockSize 0
  padded := cipher.cipherAlgorithm = .aesCbcPkcs7 || cipher.cipherAlgorithm = .aesEcbPkcs7
  aead := cipher.aead
  tag := List.replicate aesBlockSize 0
  deleteKey := false
  remainingBlock := []

/-- The parameters that `cipher_set_ctx_params` looks for. -/
structure CipherCtxParams where
  padding : OsslParam Nat
  aeadTag : OsslParam (List UInt8)
  saKey : OsslParam SaKey
  saKeyDelete : OsslParam Int

def SaCipherAlgorithm.withPadding (padded : Bool) : SaCipherAlgorithm → SaCipherAlgorithm
  | aesEcb => if padded then aesEcbPkcs7 else aesEcb
  | aesCbc => if padded then aesCbcPkcs7 else aesCbc
  | aesEcbPkcs7 => if padded then aesEcbPkcs7 else aesEcb
  | aesCbcPkcs7 => if padded then aesCbcPkcs7 else aesCbc
  | algorithm => algorithm

namespace ProviderCipherContext

variable {Session : Type} (api : CipherApi Session) (library : KeyLibrary)
  (c : ProviderCipherContext Session)

def setPadding : OsslParam Nat → ProviderResult (ProviderCipherContext Session)
  | .absent => .success c
  | .invalid => .failure c
  | .value padded => .success { c with
      padded := padded ≠ 0
      cipherAlgorithm := c.cipherAlgorithm.withPadding (padded ≠ 0) }

def setTag : OsslParam (List UInt8) → ProviderResult (ProviderCipherContext Session)
  | .absent => .success c
  | .invalid => .failure c
  | .value tag =>
    if tag.length > aesBlockSize then .failure c
    else .success { c with tag := tag ++ c.tag.drop tag.length }

def setKey : OsslParam SaKey → ProviderResult (ProviderCipherContext Session)
  | .absent => .success c
  | .invalid => .failure c
  | .value key =>
    match library.keyHeader key with
    | .error _ => .failure c
    | .ok size =>
      if c.keySize ≠ size then .failure c
      else ⟨true, { c with key := some key }, c.key.toList.map .released⟩

def setKeyDelete : OsslParam Int → ProviderResult (ProviderCipherContext Session)
  | .absent => .success c
  | .invalid => .failure c
  | .value deleteKey => .success { c with deleteKey := deleteKey ≠ 0 }

/-- `cipher_set_ctx_params`. -/
def setCtxParams (params : Option CipherCtxParams) :
    ProviderResult (ProviderCipherContext Session) :=
  match params with
  | none => .success c
  | some params =>
    (c.setPadding params.padding).andThen fun c =>
      (c.setTag params.aeadTag).andThen fun c =>
        (setKey library c params.saKey).andThen fun c => c.setKeyDelete params.saKeyDelete

def copyIv (iv : Option (List UInt8)) : ProviderResult (ProviderCipherContext Session) :=
  match iv with
  | none => .success c
  | some iv =>
    if iv.length > aesBlockSize then .failure c
    else .success { c with iv := iv ++ c.iv.drop iv.length }

/-- The key before is given up, whoever owns it, and the new one is owned once it has passed. -/
def importKey (key : Option (List UInt8)) : ProviderResult (ProviderCipherContext Session) :=
  match key with
  | none => .success c
  | some bytes =>
    let released := c.key.toList.map .released
    match library.keyImport bytes with
    | .error _ => ⟨false, c, released⟩
    | .ok key =>
      let c := { c with key := some key }
      let calls := released ++ [.imported key]
      match library.keyHeader key with
      | .error _ => ⟨false, c, calls⟩
      | .ok size =>
        if c.keySize ≠ size then ⟨false, c, calls⟩
        else ⟨true, { c with deleteKey := true }, calls⟩

/-- `cipher_init`. The remaining block stays as it is. -/
def init (key iv : Option (List UInt8)) (params : Option CipherCtxParams) (mode : SaCipherMode) :
    ProviderResult (ProviderCipherContext Session) :=
  (copyIv { c with mode := mode, cipherContext := none } iv).andThen fun c =>
    (importKey library c key).andThen fun c => setCtxParams library c params

/-- The context of the client library, which the first call makes. -/
def openSession (key : SaKey) (aad : List UInt8) : Option (ProviderCipherContext Session) :=
  match c.cipherContext with
  | some _ => some c
  | none =>
    match cipherInitParameters c.iv c.ivLength aad c.cipherAlgorithm with
    | none => none
    | some parameters =>
      match api.init ⟨c.cipherAlgorithm, c.mode, key, parameters⟩ with
      | .error _ => none
      | .ok session => some { c with cipherContext := some session }

end ProviderCipherContext

/-- The variables of the loop over the input of an update. -/
structure UpdateState (Session : Type) where
  session : Session
  remainingBlock : List UInt8
  position : Nat
  totalLength : Nat
  totalProcessed : Nat
  out : List UInt8
  status : SaStatus

namespace UpdateState

variable {Session : Type} (api : CipherApi Session) (blockSize outsize : Nat)
  (input : List UInt8) (u : UpdateState Session)

/-- A call of `sa_crypto_cipher_process`, whose status takes the place of the one before. -/
def process (chunk : List UInt8) : UpdateState Session :=
  match api.process u.session (outsize - u.out.length) chunk with
  | (.ok output, session) => { u with
      session := session
      totalProcessed := u.totalProcessed + output.length
      out := u.out ++ output
      status := .ok }
  | (.error status, session) => { u with
      session := session
      totalProcessed := u.totalProcessed + chunk.length
      status := status }

/-- One pass of the loop: it completes the remaining block, or goes on in the input. -/
def pass : UpdateState Session :=
  if u.remainingBlock.length > 0 then
    let taken := blockSize - u.remainingBlock.length
    let block := u.remainingBlock ++ (input.drop u.position).take taken
    let u := { u with position := u.position + taken, remainingBlock := [] }
    if aesBlockSize % blockSize = 0 then
      { u with totalLength := u.totalLength - aesBlockSize }.process api outsize block
    else u
  else
    let bytesToProcess := (input.length - u.position) / blockSize * blockSize
    let chunk := (input.drop u.position).take bytesToProcess
    let u := { u with position := u.position + bytesToProcess }
    if bytesToProcess % blockSize = 0 then
      { u with totalLength := u.totalLength - bytesToProcess }.process api outsize chunk
    else u

def start (session : Session) (remainingBlock input : List UInt8) : UpdateState Session :=
  ⟨session, remainingBlock, 0, remainingBlock.length + input.length, 0, [], .ok⟩

/-- The loop of `cipher_cipher`, with `none` where it does not end. -/
def loop : (fuel : Nat) → UpdateState Session → Option (UpdateState Session)
  | 0, u => if u.totalLength ≥ blockSize then none else some u
  | fuel + 1, u =>
    if u.totalLength ≥ blockSize then loop fuel (u.pass api blockSize outsize input) else some u

def Processes : (fuel : Nat) → UpdateState Session → Prop
  | 0, _ => True
  | fuel + 1, u => u.totalLength ≥ blockSize →
    (u.pass api blockSize outsize input).status = .ok ∧
      Processes fuel (u.pass api blockSize outsize input)

end UpdateState

/-- What `cipher_cipher` returns and leaves, with the bytes that it wrote and their number as it
reports it. -/
structure CipherResult (Session : Type) where
  result : Bool
  context : ProviderCipherContext Session
  out : List UInt8
  outl : Nat

namespace ProviderCipherContext

variable {Session : Type} (api : CipherApi Session)

def update (c : ProviderCipherContext Session) (session : Session) (outsize : Nat)
    (input : List UInt8) : Option (CipherResult Session) :=
  let u := UpdateState.start session c.remainingBlock input
  match UpdateState.loop api c.blockSize outsize input u.totalLength u with
  | none => none
  | some u =>
    let c := { c with
      cipherContext := some u.session
      remainingBlock :=
        if u.position < input.length then input.drop u.position else u.remainingBlock }
    if u.status = .ok then some ⟨true, c, u.out, u.totalProcessed⟩
    else some ⟨false, c, u.out, 0⟩

def final (c : ProviderCipherContext Session) (session : Session) (outsize : Nat) :
    CipherResult Session :=
  if ¬c.cipherAlgorithm.isUnpadded then
    match api.processLast session outsize c.remainingBlock
      (if c.aead then some c.tag else none) with
    | (.ok (output, tag), session) =>
      ⟨true, { c with
        cipherContext := some session
        tag := if c.aead then tag else c.tag }, output, output.length⟩
    | (.error _, session) => ⟨false, { c with cipherContext := some session }, [], 0⟩
  else if c.remainingBlock.length > 0 then ⟨false, c, [], 0⟩
  else ⟨true, c, [], 0⟩

/-- What a call does with its session: additional data has gone into it already. -/
def proceed (c : ProviderCipherContext Session) (session : Session) :
    Option Nat → Option (List UInt8) → Option (CipherResult Session)
  | some outsize, some input => update api c session outsize input
  | some outsize, none => some (final api c session outsize)
  | none, _ => some ⟨true, c, [], 0⟩

/-- `cipher_cipher`, with `none` for an `out` or an `in` that is `NULL`, and as its result where it
does not return. -/
def cipher (c : ProviderCipherContext Session) (outsize : Option Nat)
    (input : Option (List UInt8)) : Option (CipherResult Session) :=
  match c.key with
  | none => some ⟨false, c, [], 0⟩
  | some key =>
    let aad := if outsize.isNone then input.getD [] else []
    match openSession api c key aad with
    | none => some ⟨false, c, [], 0⟩
    | some c =>
      match c.cipherContext with
      | none => some ⟨false, c, [], 0⟩
      | some session => proceed api c session outsize input

end ProviderCipherContext

/-- What an application does with a context. -/
inductive ProviderCipherOp
  | init (library : KeyLibrary) (key iv : Option (List UInt8)) (params : Option CipherCtxParams)
    (mode : SaCipherMode)
  | setCtxParams (library : KeyLibrary) (params : Option CipherCtxParams)
  | cipher (outsize : Option Nat) (input : Option (List UInt8))

/-- The context after an operation, whatever that returned. -/
def ProviderCipherContext.step {Session : Type} (api : CipherApi Session)
    (c : ProviderCipherContext Session) :
    ProviderCipherOp → Option (ProviderCipherContext Session)
  | .init library key iv params mode => some (init library c key iv params mode).context
  | .setCtxParams library params => some (setCtxParams library c params).context
  | .cipher outsize input => (cipher api c outsize input).map CipherResult.context

def ProviderCipherContext.after {Session : Type} (api : CipherApi Session)
    (c : ProviderCipherContext Session) (ops : List ProviderCipherOp) :
    Option (ProviderCipherContext Session) :=
  ops.foldlM (step api) c

end TaSecureApi
