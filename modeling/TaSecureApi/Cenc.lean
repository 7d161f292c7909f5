import TaSecureApi.Client
import TaSecureApi.Lib.Wp

namespace TaSecureApi
set_option autoImplicit true
open Wp

structure SaSubsampleLength where
  bytesOfClearData : Nat
  bytesOfProtectedData : Nat
  deriving DecidableEq, Repr

/-- `sa_sample`; a pointer that is `NULL` is `none`, and the subsample count is the length of the
list. -/
structure SaSample where
  iv : Option Iv
  ivLength : Nat
  cryptByteBlock : Nat
  skipByteBlock : Nat
  subsampleLengths : Option (List SaSubsampleLength)
  context : Nat
  out : Option SaBuffer
  inp : Option SaBuffer
  deriving DecidableEq, Repr

def cencOverflow : Nat := 0

def cencGetRequiredLength (subsampleLengths : List SaSubsampleLength) : Nat :=
  go 0 subsampleLengths
where
  go (requiredLength : Nat) : List SaSubsampleLength → Nat
    | [] => requiredLength
    | subsample :: rest =>
      match addOverflow subsample.bytesOfClearData subsample.bytesOfProtectedData with
      | none => cencOverflow
      | some subsampleLen =>
        match addOverflow requiredLength subsampleLen with
        | none => cencOverflow
        | some newRequiredLength => go newRequiredLength rest

/-- The steps of a run that are looked at: a call of `decrypt` with the counts it starts from,
bytes that are read and written, a subtraction of unsigned numbers, and the bytes that a call of
`decrypt` that succeeds moves on by. -/
inductive CencEvent
  | call (encByteCount : Nat) (counter : BitVec 64) (bytesToProcess : Nat)
  | access (src dst length : Nat)
  | subtract (a b : Nat)
  | advanced (bytesToProcess before after : Nat)
  deriving DecidableEq, Repr

/-- How processing stops before its end: with a status, in a loop without an end, or at a `NULL`
pointer. -/
inductive CencExit
  | status (status : SaStatus)
  | hang
  | nullDereference
  deriving DecidableEq, Repr

/-- The variables of `cenc_process_sample`, the memory, and the steps so far, latest first. -/
structure CencState (Ctx : Type) where
  memory : Memory
  context : SymmetricContext Ctx
  iv : Iv
  encByteCount : Nat
  offset : Nat
  status : SaStatus
  log : List CencEvent

variable {Ctx : Type} {ε : Type}

/-- The sum and the difference of two `size_t`. -/
def sizeAdd (a b : Nat) : Nat := (a + b) % 2 ^ 64

def sizeSub (a b : Nat) : Nat := (a + 2 ^ 64 - b) % 2 ^ 64

def emit (event : CencEvent) : Prog (CencState Ctx) ε Unit :=
  modify fun s => { s with log := event :: s.log }

def subtract (a b : Nat) : Prog (CencState Ctx) ε Nat := do
  emit (.subtract a b)
  pure (sizeSub a b)

/-- `memcpy`, of ranges that do not overlap. -/
def memcpy (memory : Memory) (dst src n : Nat) : Memory := fun a =>
  if dst ≤ a ∧ a < dst + n then memory (src + (a - dst)) else memory a

/-- `symmetric_context_decrypt` on the context of the sample. -/
def contextDecrypt (evp : Evp Ctx) (out inp inLength : Nat) :
    Prog (CencState Ctx) SaStatus Nat := do
  emit (.access inp out inLength)
  let s ← get
  let result := symmetricContextDecrypt evp s.context s.memory out inp inLength
  set { s with context := result.2.1, memory := result.2.2 }
  match result.1 with
  | .ok length => pure length
  | .error status => throw status

/-- `symmetric_context_set_iv` on the context and the IV of the sample. -/
def contextSetIv (evp : Evp Ctx) : Prog (CencState Ctx) SaStatus Unit := do
  let s ← get
  let result := symmetricContextSetIv evp s.context s.iv aesBlockSize
  set { s with context := result.2 }
  match result.1 with
  | .ok () => pure ()
  | .error status => throw status

def CencState.addCounter (n : Nat) (s : CencState Ctx) : CencState Ctx :=
  { s with iv := { s.iv with counter := s.iv.counter + BitVec.ofNat 64 n } }

def CencState.addEncByteCount (n : Nat) (s : CencState Ctx) : CencState Ctx :=
  { s with encByteCount := sizeAdd s.encByteCount n }

def CencState.addOffset (n : Nat) (s : CencState Ctx) : CencState Ctx :=
  { s with offset := s.offset + n }

def leadingPartialBlockSize (encByteCount : Nat) : Nat :=
  if encByteCount % aesBlockSize = 0 then 0 else aesBlockSize - encByteCount % aesBlockSize

/-- Decrypts some bytes, moves the counter on by their blocks and restarts there. -/
def decryptBlocks (evp : Evp Ctx) (out inp length blocks : Nat) :
    Prog (CencState Ctx) SaStatus Nat := do
  let length ← contextDecrypt evp out inp length
  modify (CencState.addCounter blocks)
  contextSetIv evp
  modify (CencState.addEncByteCount length)
  pure length

def decryptLeadingPartialBlock (evp : Evp Ctx) (out inp leadingPartialBlockSize : Nat) :
    Prog (CencState Ctx) SaStatus Nat :=
  if leadingPartialBlockSize > 0 then decryptBlocks evp out inp leadingPartialBlockSize 1
  else pure 0

/-- The branch of the loop of `decrypt` for a counter that is going to roll over. The branch is
taken in the first pass only. Ends with the bytes encrypted and the full blocks that are left. -/
def decryptToRollover (evp : Evp Ctx) (out inp leadingPartialBlockSize numberOfFullBlocks
    numBlocksBeforeRollover : Nat) : Prog (CencState Ctx) SaStatus (Nat × Nat) := do
  let bytesEncrypted ← decryptLeadingPartialBlock evp out inp leadingPartialBlockSize
  let fullBlocksToEncrypt := min numBlocksBeforeRollover numberOfFullBlocks
  if fullBlocksToEncrypt > 0 then do
    let length ← decryptBlocks evp (out + bytesEncrypted) (inp + bytesEncrypted)
      (fullBlocksToEncrypt * aesBlockSize) fullBlocksToEncrypt
    let left ← subtract numberOfFullBlocks fullBlocksToEncrypt
    pure (sizeAdd bytesEncrypted length, left)
  else pure (bytesEncrypted, numberOfFullBlocks)

def decryptRest (evp : Evp Ctx) (out inp bytesToProcess bytesEncrypted leadingPartialBlockSize
    numberOfFullBlocks : Nat) : Prog (CencState Ctx) SaStatus Unit := do
  let rest ← subtract bytesToProcess bytesEncrypted
  let length ← contextDecrypt evp (out + bytesEncrypted) (inp + bytesEncrypted) rest
  modify (CencState.addCounter
    (numberOfFullBlocks + if leadingPartialBlockSize > 0 then 1 else 0))
  modify (CencState.addEncByteCount length)

def decryptLoop (evp : Evp Ctx) (out inp bytesToProcess leadingPartialBlockSize numberOfFullBlocks
    numBlocksBeforeRollover : Nat) (rollover : Bool) : Prog (CencState Ctx) SaStatus Unit := do
  if bytesToProcess > 0 then
    if rollover then do
      let (bytesEncrypted, left) ← decryptToRollover evp out inp leadingPartialBlockSize
        numberOfFullBlocks numBlocksBeforeRollover
      if bytesToProcess > bytesEncrypted then
        decryptRest evp out inp bytesToProcess bytesEncrypted 0 left
    else decryptRest evp out inp bytesToProcess 0 leadingPartialBlockSize numberOfFullBlocks

def counterRollover (numBlocksBeforeRollover numberOfFullBlocks leadingPartialBlockSize : Nat) :
    Bool :=
  numBlocksBeforeRollover ≤ numberOfFullBlocks + if leadingPartialBlockSize > 0 then 1 else 0

/-- `decrypt`. The number of blocks before the rollover is 0 for the counter 0. -/
def decrypt (evp : Evp Ctx) (cipherAlgorithm : SaCipherAlgorithm) (out inp bytesToProcess : Nat) :
    Prog (CencState Ctx) SaStatus Unit := do
  let s ← get
  emit (.call s.encByteCount s.iv.counter bytesToProcess)
  let lead := leadingPartialBlockSize s.encByteCount
  let numberOfFullBlocks := (← subtract bytesToProcess lead) / aesBlockSize
  let numBlocksBeforeRollover := sizeAdd (← subtract (2 ^ 64 - 1) s.iv.counter.toNat) 1
  decryptLoop evp out inp bytesToProcess lead numberOfFullBlocks numBlocksBeforeRollover
    (counterRollover numBlocksBeforeRollover numberOfFullBlocks lead &&
      cipherAlgorithm = .aesCtr)
  let s' ← get
  emit (.advanced bytesToProcess s.encByteCount s'.encByteCount)

/-- What `cenc_process_sample` works with once the handles are looked up. -/
structure CencSetup (Ctx : Type) where
  cipherAlgorithm : SaCipherAlgorithm
  context : SymmetricContext Ctx
  iv : Iv
  outBytes : Nat
  inBytes : Nat
  cryptByteBlock : Nat
  skipByteBlock : Nat

def copyClear (setup : CencSetup Ctx) (n : Nat) : Prog (CencState Ctx) ε Unit := do
  if n > 0 then
    let s ← get
    emit (.access (setup.inBytes + s.offset) (setup.outBytes + s.offset) n)
    modify fun s => { s with
      memory := memcpy s.memory (setup.outBytes + s.offset) (setup.inBytes + s.offset) n }
    modify (CencState.addOffset n)

/-- Decrypts the next bytes of the sample, and goes past them where that succeeds. -/
def decryptProtected (evp : Evp Ctx) (setup : CencSetup Ctx) (n : Nat) :
    Prog (CencState Ctx) SaStatus Unit := do
  let s ← get
  decrypt evp setup.cipherAlgorithm (setup.outBytes + s.offset) (setup.inBytes + s.offset) n
  modify (CencState.addOffset n)

def orBreak (x : Prog (CencState Ctx) SaStatus Unit) : Prog (CencState Ctx) CencExit Unit := do
  match ← outcome x with
  | .ok () => modify fun s => { s with status := .ok }
  | .error status => throw (.status status)

def processFull (evp : Evp Ctx) (setup : CencSetup Ctx) (bytesOfProtectedData : Nat) :
    Prog (CencState Ctx) CencExit Unit := do
  let remainder :=
    if setup.cipherAlgorithm = .aesCbc then bytesOfProtectedData % aesBlockSize else 0
  orBreak (decryptProtected evp setup (bytesOfProtectedData - remainder))
  copyClear setup remainder

/-- The length of a stripe of some blocks, of which `bytesLeft` can hold the end. -/
def stripe (byteBlock bytesLeft : Nat) : Nat :=
  min (byteBlock * aesBlockSize % 2 ^ 64) (bytesLeft / aesBlockSize * aesBlockSize)

/-- The encrypted stripe, if it has bytes. Ends with `false` where it fails. -/
def cryptStripe (evp : Evp Ctx) (setup : CencSetup Ctx) (block : Nat) :
    Prog (CencState Ctx) CencExit Bool := do
  if block > 0 then
    match ← outcome (decryptProtected evp setup block) with
    | .ok () =>
      modify fun s => { s with status := .ok }
      pure true
    | .error status =>
      modify fun s => { s with status := status }
      pure false
  else pure true

/-- The loop over the stripes, with the bytes that are left. A failure leaves this loop only. -/
def patternLoop (evp : Evp Ctx) (setup : CencSetup Ctx) :
    (fuel bytesLeft : Nat) → Prog (CencState Ctx) CencExit Nat
  | 0, bytesLeft => if bytesLeft ≥ aesBlockSize then throw .hang else pure bytesLeft
  | fuel + 1, bytesLeft => do
    if bytesLeft ≥ aesBlockSize then
      let block := stripe setup.cryptByteBlock bytesLeft
      if ← cryptStripe evp setup block then
        let skipped := if setup.skipByteBlock > 0 then
          stripe setup.skipByteBlock (bytesLeft - block) else 0
        copyClear setup skipped
        patternLoop evp setup fuel (bytesLeft - block - skipped)
      else pure bytesLeft
    else pure bytesLeft

def processPattern (evp : Evp Ctx) (setup : CencSetup Ctx) (bytesOfProtectedData : Nat) :
    Prog (CencState Ctx) CencExit Unit := do
  if setup.cipherAlgorithm = .aesCbc then
    modify fun s => { s with iv := setup.iv }
    orBreak (contextSetIv evp)
  let bytesLeft ← patternLoop evp setup bytesOfProtectedData bytesOfProtectedData
  copyClear setup bytesLeft

def processSubsample (evp : Evp Ctx) (setup : CencSetup Ctx) (subsample : SaSubsampleLength) :
    Prog (CencState Ctx) CencExit Unit := do
  copyClear setup subsample.bytesOfClearData
  if subsample.bytesOfProtectedData > 0 then
    if setup.cryptByteBlock = 0 then processFull evp setup subsample.bytesOfProtectedData
    else processPattern evp setup subsample.bytesOfProtectedData

def processSubsamples (evp : Evp Ctx) (setup : CencSetup Ctx) :
    List SaSubsampleLength → Prog (CencState Ctx) CencExit Unit
  | [] => pure ()
  | subsample :: rest => do
    processSubsample evp setup subsample
    processSubsamples evp setup rest

/-- The loop of `cenc_process_sample` and what is before and after it. Ends with the offset that
the buffers move by. -/
def processBytes (evp : Evp Ctx) (setup : CencSetup Ctx) (subsamples : List SaSubsampleLength) :
    Prog (CencState Ctx) CencExit Nat := do
  orBreak (contextSetIv evp)
  processSubsamples evp setup subsamples
  let s ← get
  if s.status = .ok then pure s.offset else throw (.status s.status)

def CencSetup.start (setup : CencSetup Ctx) (memory : Memory) : CencState Ctx where
  memory := memory
  context := setup.context
  iv := setup.iv
  encByteCount := 0
  offset := 0
  status := .ok
  log := []

/-- The first part of `cenc_process_sample`. -/
def cencSetup (client : Client Ctx) (sample : SaSample) :
    Except CencExit (CencSetup Ctx × List SaSubsampleLength) :=
  match client.ciphers sample.context with
  | .error _ => .error (.status .invalidParameter)
  | .ok cipher =>
    match sample.subsampleLengths, sample.out, sample.inp, sample.iv with
    | some subsampleLengths, some out, some inp, some iv =>
      let requiredLength := cencGetRequiredLength subsampleLengths
      if requiredLength = cencOverflow then .error (.status .invalidParameter)
      else
        match convertBuffer client requiredLength out with
        | .error status => .error (.status status)
        | .ok outBytes =>
          match convertBuffer client requiredLength inp with
          | .error status => .error (.status status)
          | .ok inBytes =>
            match cipher.symmetricContext with
            | none => .error (.status .nullParameter)
            | some context =>
              .ok ({
                cipherAlgorithm := cipher.cipherAlgorithm
                context := context
                iv := iv
                outBytes := outBytes
                inBytes := inBytes
                cryptByteBlock := sample.cryptByteBlock
                skipByteBlock := sample.skipByteBlock }, subsampleLengths)
    | _, _, _, _ => .error .nullDereference

/-- What `cenc_process_sample` leaves: how it ended, with the sample where it succeeds, the memory,
the context of the cipher if it came to use one, and the steps. -/
structure CencResult (Ctx : Type) where
  result : Except CencExit SaSample
  memory : Memory
  context : Option (SymmetricContext Ctx)
  log : List CencEvent

def cencProcessSample (evp : Evp Ctx) (client : Client Ctx) (sample : SaSample)
    (memory : Memory) : CencResult Ctx :=
  match cencSetup client sample with
  | .error exit => ⟨.error exit, memory, none, []⟩
  | .ok (setup, subsampleLengths) =>
    let r := (processBytes evp setup subsampleLengths).run.run (setup.start memory)
    { result := r.1.map fun offset => { sample with
        out := sample.out.map (SaBuffer.advance offset)
        inp := sample.inp.map (SaBuffer.advance offset) }
      memory := r.2.memory
      context := some r.2.context
      log := r.2.log }

end TaSecureApi
