import TaSecureApi.KeyContainer
import TaSecureApi.SvpStore
import TaSecureApi.TaTypes

namespace TaSecureApi
set_option autoImplicit true

/-- A status where the return type is `bool`. -/
def SaStatus.asBool (status : SaStatus) : Bool := status != .ok

/-- `struct svp_buffer_s`. -/
structure SvpRegion where
  svpMemory : Nat
  size : Nat
  deriving DecidableEq

/-- The allocations and the mutex of a new SVP object: which of them come about. -/
structure SvpResources where
  svp : Bool
  buffer : Bool
  mutex : Bool

namespace Porting

section Functions

variable (memoryIsValidSvp : Nat → Nat → Bool)

def svpValidateBuffer : Option SvpRegion → Bool
  | none => false
  | some b =>
    if !memoryIsValidSvp b.svpMemory b.size then SaStatus.invalidParameter.asBool else true

/-- `svp_create_buffer`, with what it leaves in its output, which is `NULL` before. -/
def svpCreateBuffer (allocated : Bool) (svpMemory size : Nat) : Bool × Option SvpRegion :=
  if svpMemory = 0 then (false, none)
  else if !memoryIsValidSvp svpMemory size then (SaStatus.invalidParameter.asBool, none)
  else if !allocated then (false, none)
  else (true, some ⟨svpMemory, size⟩)

/-- The first loop of `svp_write` and of `svp_copy`. -/
def offsetsInBounds (outSize inSize : Nat) (offsets : List SaSvpOffsetS) : Bool :=
  offsets.all fun o =>
    (addOverflow o.outOffset o.length).any (· ≤ outSize) &&
      (addOverflow o.inOffset o.length).any (· ≤ inSize)

def svpWrite (out : Option SvpRegion) (inp inLength : Nat) (offsets : List SaSvpOffsetS)
    (memory : Memory) : Bool × Memory :=
  match out with
  | none => (false, memory)
  | some b =>
    if inp = 0 then (false, memory)
    else if !svpValidateBuffer memoryIsValidSvp out then (false, memory)
    else if !offsetsInBounds b.size inLength offsets then (false, memory)
    else (true, offsets.foldl
      (fun m o => memcpy m (b.svpMemory + o.outOffset) (inp + o.inOffset) o.length) memory)

/-- The second loop of `svp_copy`, which can fail after some of the copies. -/
def copyOffsets (out inp : Nat) : List SaSvpOffsetS → Memory → Bool × Memory
  | [], memory => (true, memory)
  | o :: offsets, memory =>
    match addOverflow out o.outOffset, addOverflow inp o.inOffset with
    | some outPosition, some inPosition =>
      copyOffsets out inp offsets (memcpy memory outPosition inPosition o.length)
    | _, _ => (false, memory)

def svpCopy (out inp : Option SvpRegion) (offsets : List SaSvpOffsetS) (memory : Memory) :
    Bool × Memory :=
  match out, inp with
  | some b, some a =>
    if !svpValidateBuffer memoryIsValidSvp out then (false, memory)
    else if !svpValidateBuffer memoryIsValidSvp inp then (false, memory)
    else if !offsetsInBounds b.size a.size offsets then (false, memory)
    else copyOffsets b.svpMemory a.svpMemory offsets memory
  | _, _ => (false, memory)

/-- `svp_key_check`, of bytes in clear memory or in an SVP buffer. -/
def svpKeyCheck (aes : Aes) (inBytes bytesToProcess : Nat) (expected key : List UInt8)
    (memory : Memory) : Bool :=
  if inBytes = 0 then false
  else (unwrapAesEcbInternal aes key (Layout.bytesAt memory inBytes bytesToProcess)).toOption =
    some expected

/-- `svp_digest`, which looks at the size before it looks whether there is a buffer: `none` is the
access through `NULL`. -/
def svpDigest (digestSha : DigestNumber → List UInt8 → Option (List UInt8))
    (digestAlgorithm : DigestNumber) (b : Option SvpRegion) (offset length : Nat)
    (memory : Memory) : Option (Option (List UInt8)) :=
  b.map fun r =>
    match addOverflow offset length with
    | none => none
    | some range =>
      if range > r.size then none
      else if !svpValidateBuffer memoryIsValidSvp b then none
      else match addOverflow r.svpMemory offset with
        | none => none
        | some position =>
          if position = 0 ∧ length > 0 then none
          else digestSha digestAlgorithm (Layout.bytesAt memory position length)

def svpGetSvpMemory (b : Option SvpRegion) : Nat :=
  if !svpValidateBuffer memoryIsValidSvp b then 0 else b.elim 0 SvpRegion.svpMemory

def svpGetSize (b : Option SvpRegion) : Nat := b.elim 0 SvpRegion.size

/-- `svp_create`: an SVP object, with its buffer. -/
def svpCreate (resources : SvpResources) (svpMemory size : Nat) : Option (Option SvpRegion) :=
  if !resources.svp then none
  else if !(svpCreateBuffer memoryIsValidSvp resources.buffer svpMemory size).1 then none
  else if !resources.mutex then none
  else some (svpCreateBuffer memoryIsValidSvp resources.buffer svpMemory size).2

def svpStoreCreate (resources : SvpResources) (store : ObjectStore (Option SvpRegion))
    (svpMemory size : Nat) (callerUuid : SaUuid) :
    SaStatus × Nat × ObjectStore (Option SvpRegion) :=
  if svpMemory = 0 then (.nullParameter, slotInvalid, store)
  else match svpCreate memoryIsValidSvp resources svpMemory size with
    | none => (.internalError, slotInvalid, store)
    | some svp => objectStoreAdd store (some svp) (some callerUuid)

-- What `svp_store_acquire_exclusive` and `svp_get_buffer` come to for a handle.
variable (acquire : Nat → Except SaStatus (Option SvpRegion))

def convertBuffer (bytesToProcess : Nat) : SaBuffer → Except SaStatus Nat
  | .clear buffer length offset =>
    if buffer = 0 then .error .nullParameter
    else
      match addOverflow offset bytesToProcess with
      | none => .error .invalidParameter
      | some memoryRange =>
        if memoryRange > length then .error .invalidParameter
        else if ¬ memoryIsValid buffer length then .error .invalidParameter
        else (addOverflow buffer offset).elim (.error .invalidParameter) .ok
  | .svp buffer offset =>
    match acquire buffer with
    | .error status => .error status
    | .ok b =>
      match addOverflow offset bytesToProcess with
      | none => .error .invalidParameter
      | some memoryRange =>
        if svpGetSvpMemory memoryIsValidSvp b = 0 then .error .invalidParameter
        else if memoryRange > svpGetSize b then .error .invalidParameter
        else (addOverflow (svpGetSvpMemory memoryIsValidSvp b) offset).elim
          (.error .invalidParameter) .ok
  | .other _ => .ok 0

def taSaSvpBufferWrite (out inp inLength : Nat) (offsets : Option (List SaSvpOffsetS))
    (memory : Memory) : Except SaStatus Unit × Memory :=
  if inp = 0 then (.error .nullParameter, memory)
  else match offsets with
    | none => (.error .nullParameter, memory)
    | some offsets =>
      match acquire out with
      | .error status => (.error status, memory)
      | .ok b =>
        let (written, memory) := svpWrite memoryIsValidSvp b inp inLength offsets memory
        (require written .invalidSvpBuffer, memory)

def taSaSvpBufferCopy (out inp : Nat) (offsets : Option (List SaSvpOffsetS)) (memory : Memory) :
    Except SaStatus Unit × Memory :=
  match offsets with
  | none => (.error .nullParameter, memory)
  | some offsets =>
    match acquire out with
    | .error status => (.error status, memory)
    | .ok b =>
      match acquire inp with
      | .error status => (.error status, memory)
      | .ok a =>
        let (copied, memory) := svpCopy memoryIsValidSvp b a offsets memory
        (require copied .invalidSvpBuffer, memory)

/-- What the digest of a buffer comes to next to the one that is expected. -/
def compareDigest (hash : List UInt8) : Option (List UInt8) → Except SaStatus Unit
  | none => .error .internalError
  | some digest => require (digest = hash) .verificationFailed

/-- `ta_sa_svp_buffer_check`; `none` is the access through `NULL`. -/
def taSaSvpBufferCheck (digestSha : DigestNumber → List UInt8 → Option (List UInt8))
    (svpBuffer offset length : Nat) (digestAlgorithm : DigestNumber)
    (hash : Option (List UInt8)) (callerUuid : SaUuid) (memory : Memory) :
    Option (Except SaStatus Unit) :=
  match hash with
  | none => some (.error .nullParameter)
  | some hash =>
    if isRee callerUuid then some (.error .operationNotAllowed)
    else if digestAlgorithm.map digestLength ≠ some hash.length then
      some (.error .invalidParameter)
    else match acquire svpBuffer with
      | .error status => some (.error status)
      | .ok b =>
        (svpDigest memoryIsValidSvp digestSha digestAlgorithm b offset length memory).map
          (compareDigest hash)

/-- `ta_sa_svp_key_check`, from the conversion of the buffer on. -/
def taSaSvpKeyCheck (aes : Aes) (key : Except SaStatus (List UInt8)) (inp : SaBuffer)
    (bytesToProcess : Nat) (expected : List UInt8) (memory : Memory) : Except SaStatus Unit := do
  let key ← key
  let inBytes ← convertBuffer memoryIsValidSvp acquire bytesToProcess inp
  require (svpKeyCheck aes inBytes bytesToProcess expected key memory) .verificationFailed

end Functions

/-- What the calls rest on: the check of memory as it is at the time of the call, the SVP store,
what is allocated for a new SVP object, memory, digests and AES. -/
structure Platform where
  memoryIsValidSvp : Nat → Nat → Bool
  acquire : Nat → Except SaStatus (Option SvpRegion)
  store : ObjectStore (Option SvpRegion)
  resources : SvpResources
  memory : Memory
  digestSha : DigestNumber → List UInt8 → Option (List UInt8)
  aes : Aes

/-- The calls that work on SVP memory. -/
inductive Operation
  | create (svpMemory size : Nat) (callerUuid : SaUuid)
  | write (out inp inLength : Nat) (offsets : Option (List SaSvpOffsetS))
  | copy (out inp : Nat) (offsets : Option (List SaSvpOffsetS))
  | check (svpBuffer offset length : Nat) (digestAlgorithm : DigestNumber)
      (hash : Option (List UInt8)) (callerUuid : SaUuid)
  | keyCheck (key : Except SaStatus (List UInt8)) (inp : SaBuffer) (bytesToProcess : Nat)
      (expected : List UInt8)
  | convert (buffer : SaBuffer) (bytesToProcess : Nat)

variable (p : Platform)

def regionsOf (handle : Nat) : List SvpRegion :=
  match p.acquire handle with
  | .ok (some r) => [r]
  | _ => []

def bufferRegions : SaBuffer → List SvpRegion
  | .svp buffer _ => regionsOf p buffer
  | _ => []

namespace Operation

def Succeeds : Operation → Prop
  | create svpMemory size callerUuid =>
    (svpStoreCreate p.memoryIsValidSvp p.resources p.store svpMemory size callerUuid).1 = .ok
  | write out inp inLength offsets =>
    (taSaSvpBufferWrite p.memoryIsValidSvp p.acquire out inp inLength offsets p.memory).1 = .ok ()
  | copy out inp offsets =>
    (taSaSvpBufferCopy p.memoryIsValidSvp p.acquire out inp offsets p.memory).1 = .ok ()
  | check svpBuffer offset length digestAlgorithm hash callerUuid =>
    taSaSvpBufferCheck p.memoryIsValidSvp p.acquire p.digestSha svpBuffer offset length
      digestAlgorithm hash callerUuid p.memory = some (.ok ())
  | keyCheck key inp bytesToProcess expected =>
    taSaSvpKeyCheck p.memoryIsValidSvp p.acquire p.aes key inp bytesToProcess expected p.memory =
      .ok ()
  | convert buffer bytesToProcess =>
    ∃ bytes, convertBuffer p.memoryIsValidSvp p.acquire bytesToProcess buffer = .ok bytes

def regions : Operation → List SvpRegion
  | create svpMemory size _ => [⟨svpMemory, size⟩]
  | write out _ _ _ => regionsOf p out
  | copy out inp _ => regionsOf p out ++ regionsOf p inp
  | check svpBuffer _ _ _ _ _ => regionsOf p svpBuffer
  | keyCheck _ inp _ _ => bufferRegions p inp
  | convert buffer _ => bufferRegions p buffer

/-- A call does not succeed on memory that is not valid. -/
def Guarded (op : Operation) : Prop :=
  op.Succeeds p → ∀ r ∈ op.regions p, p.memoryIsValidSvp r.svpMemory r.size = true

def OffsetInside (outSize inSize : Nat) (o : SaSvpOffsetS) : Prop :=
  (o.outOffset + o.length < 2 ^ 64 ∧ o.outOffset + o.length ≤ outSize) ∧
    o.inOffset + o.length < 2 ^ 64 ∧ o.inOffset + o.length ≤ inSize

def Converts (bytesToProcess : Nat) : SaBuffer → Nat → Prop
  | .clear buffer length offset, bytes =>
    buffer ≠ 0 ∧ offset + bytesToProcess < 2 ^ 64 ∧ offset + bytesToProcess ≤ length ∧
      memoryIsValid buffer length ∧ buffer + offset < 2 ^ 64 ∧ bytes = buffer + offset
  | .svp buffer offset, bytes =>
    ∃ r, p.acquire buffer = .ok (some r) ∧ r.svpMemory ≠ 0 ∧ offset + bytesToProcess < 2 ^ 64 ∧
      offset + bytesToProcess ≤ r.size ∧ r.svpMemory + offset < 2 ^ 64 ∧
      bytes = r.svpMemory + offset
  | .other _, bytes => bytes = 0

/-- What a call asks for apart from valid SVP memory: its parameters, the object behind the handle,
bounds within it and, for a new object, a slot. -/
def Admitted : Operation → Prop
  | create svpMemory _ _ =>
    svpMemory ≠ 0 ∧ p.resources.svp ∧ p.resources.mutex ∧ p.store.isShuttingDown = false ∧
      (slotsAllocate p.store.slots).1 ≠ slotInvalid
  | write out inp inLength offsets =>
    inp ≠ 0 ∧ ∃ r os, offsets = some os ∧ p.acquire out = .ok (some r) ∧
      ∀ o ∈ os, OffsetInside r.size inLength o
  | copy out inp offsets =>
    ∃ r a os, offsets = some os ∧ p.acquire out = .ok (some r) ∧ p.acquire inp = .ok (some a) ∧
      ∀ o ∈ os, OffsetInside r.size a.size o ∧ r.svpMemory + o.outOffset < 2 ^ 64 ∧
        a.svpMemory + o.inOffset < 2 ^ 64
  | check svpBuffer offset length digestAlgorithm hash callerUuid =>
    ∃ r h, hash = some h ∧ ¬isRee callerUuid ∧ digestAlgorithm.map digestLength = some h.length ∧
      p.acquire svpBuffer = .ok (some r) ∧ offset + length < 2 ^ 64 ∧ offset + length ≤ r.size ∧
      r.svpMemory + offset < 2 ^ 64 ∧ ¬(r.svpMemory + offset = 0 ∧ length > 0) ∧
      p.digestSha digestAlgorithm (Layout.bytesAt p.memory (r.svpMemory + offset) length) = some h
  | keyCheck key inp bytesToProcess expected =>
    ∃ k bytes, key = .ok k ∧ Converts p bytesToProcess inp bytes ∧
      svpKeyCheck p.aes bytes bytesToProcess expected k p.memory
  | convert buffer bytesToProcess => ∃ bytes, Converts p bytesToProcess buffer bytes

end Operation

section Success

variable {valid : Nat → Nat → Bool} {p : Platform} {hash : Option (List UInt8)}

open Operation

@[simp] theorem svpValidateBuffer_some : svpValidateBuffer valid (some b) = true := by
  simp only [svpValidateBuffer]
  split_ifs
  · rfl
  · rfl

theorem addOverflow_of_lt (h : a + b < 2 ^ 64) : addOverflow a b = some (a + b) := if_pos h

theorem addOverflow_of_not_lt (h : ¬a + b < 2 ^ 64) : addOverflow a b = none := if_neg h

theorem addOverflow_any : (addOverflow a b).any (· ≤ n) = true ↔ a + b < 2 ^ 64 ∧ a + b ≤ n := by
  by_cases h : a + b < 2 ^ 64
  · rw [addOverflow_of_lt h, Option.any_some, decide_eq_true_iff]
    exact (and_iff_right h).symm
  · rw [addOverflow_of_not_lt h]
    exact iff_of_false nofun fun h' => h h'.1

theorem offsetsInBounds_iff : offsetsInBounds outSize inSize offsets = true ↔
    ∀ o ∈ offsets, OffsetInside outSize inSize o := by
  simp only [offsetsInBounds, List.all_eq_true, Bool.and_eq_true, addOverflow_any, OffsetInside]

theorem svpWrite_succeeds : (svpWrite valid out inp inLength offsets memory).1 = true ↔
    ∃ r, out = some r ∧ inp ≠ 0 ∧ ∀ o ∈ offsets, OffsetInside r.size inLength o := by
  cases out with
  | none => simp [svpWrite]
  | some r =>
    simp only [svpWrite, svpValidateBuffer_some, ← offsetsInBounds_iff]
    split_ifs with hinp hbounds <;> simp_all

theorem copyOffsets_succeeds : (copyOffsets out inp offsets memory).1 = true ↔
    ∀ o ∈ offsets, out + o.outOffset < 2 ^ 64 ∧ inp + o.inOffset < 2 ^ 64 := by
  induction offsets generalizing memory with
  | nil => simp [copyOffsets]
  | cons o offsets ih =>
    rw [copyOffsets, List.forall_mem_cons]
    by_cases hout : out + o.outOffset < 2 ^ 64
    · by_cases hin : inp + o.inOffset < 2 ^ 64
      · rw [addOverflow_of_lt hout, addOverflow_of_lt hin]
        exact ih.trans (and_iff_right ⟨hout, hin⟩).symm
      · rw [addOverflow_of_lt hout, addOverflow_of_not_lt hin]
        exact iff_of_false nofun fun h => hin h.1.2
    · rw [addOverflow_of_not_lt hout]
      exact iff_of_false nofun fun h => hout h.1.1

theorem svpCopy_succeeds : (svpCopy valid out inp offsets memory).1 = true ↔
    ∃ r a, out = some r ∧ inp = some a ∧ ∀ o ∈ offsets, OffsetInside r.size a.size o ∧
      r.svpMemory + o.outOffset < 2 ^ 64 ∧ a.svpMemory + o.inOffset < 2 ^ 64 := by
  cases out with
  | none => simp [svpCopy]
  | some r =>
    cases inp with
    | none => simp [svpCopy]
    | some a =>
      simp only [svpCopy, svpValidateBuffer_some, Bool.not_true, Bool.false_eq_true, if_false,
        Option.some.injEq, exists_and_left, exists_eq_left', forall_and, ← offsetsInBounds_iff]
      by_cases hbounds : offsetsInBounds r.size a.size offsets = true
      · simp [hbounds, copyOffsets_succeeds, forall_and]
      · simp [hbounds]

theorem svpGetSvpMemory_some : svpGetSvpMemory valid (some r) = r.svpMemory := by
  simp [svpGetSvpMemory]

theorem svpGetSize_some : svpGetSize (some r) = r.size := rfl

theorem addOverflow_elim_eq_ok : (addOverflow a b).elim (.error e) .ok = Except.ok (ε := ε) n ↔
    a + b < 2 ^ 64 ∧ n = a + b := by
  by_cases h : a + b < 2 ^ 64
  · rw [addOverflow_of_lt h]
    simp only [Option.elim_some, Except.ok.injEq, h, true_and]
    exact eq_comm
  · rw [addOverflow_of_not_lt h]
    exact iff_of_false nofun fun h' => h h'.1

theorem convertBuffer_eq_ok : convertBuffer p.memoryIsValidSvp p.acquire n buffer = .ok bytes ↔
    Converts p n buffer bytes := by
  cases buffer with
  | clear buffer length offset =>
    simp only [convertBuffer, Converts]
    by_cases hrange : offset + n < 2 ^ 64
    · rw [addOverflow_of_lt hrange]
      dsimp only
      split_ifs with hnull hlength hvalid
      · simp [hnull]
      · exact iff_of_false nofun fun h => by omega
      · rw [addOverflow_elim_eq_ok]
        constructor
        · intro h
          exact ⟨hnull, hrange, by omega, hvalid, h⟩
        · intro h
          exact h.2.2.2.2
      · exact iff_of_false nofun fun h => hvalid h.2.2.2.1
    · rw [addOverflow_of_not_lt hrange]
      refine iff_of_false ?_ fun h => hrange h.2.1
      split_ifs
      · exact nofun
      · exact nofun
  | svp buffer offset =>
    simp only [convertBuffer, Converts]
    cases hacquire : p.acquire buffer with
    | error status => simp
    | ok b =>
      cases b with
      | none =>
        refine iff_of_false ?_ (by simp)
        cases addOverflow offset n with
        | none => exact nofun
        | some _ => exact nofun
      | some r =>
        simp only [Except.ok.injEq, Option.some.injEq, exists_eq_left', svpGetSvpMemory_some,
          svpGetSize_some]
        by_cases hrange : offset + n < 2 ^ 64
        · rw [addOverflow_of_lt hrange]
          dsimp only
          split_ifs with hnull hsize
          · exact iff_of_false nofun fun h => h.1 hnull
          · exact iff_of_false nofun fun h => by omega
          · rw [addOverflow_elim_eq_ok]
            constructor
            · intro h
              exact ⟨hnull, hrange, by omega, h⟩
            · intro h
              exact h.2.2.2
        · rw [addOverflow_of_not_lt hrange]
          exact iff_of_false nofun fun h => hrange h.2.1
  | other bufferType => simp [convertBuffer, Converts, eq_comm]

theorem svpDigest_eq_some : svpDigest valid digestSha digestAlgorithm b offset length memory =
      some (some digest) ↔
    ∃ r, b = some r ∧ offset + length < 2 ^ 64 ∧ offset + length ≤ r.size ∧
      r.svpMemory + offset < 2 ^ 64 ∧ ¬(r.svpMemory + offset = 0 ∧ length > 0) ∧
      digestSha digestAlgorithm (Layout.bytesAt memory (r.svpMemory + offset) length) =
        some digest := by
  cases b with
  | none => simp [svpDigest]
  | some r =>
    simp only [svpDigest, Option.map_some, Option.some.injEq, exists_eq_left',
      svpValidateBuffer_some, Bool.not_true, Bool.false_eq_true, if_false]
    by_cases hrange : offset + length < 2 ^ 64
    · rw [addOverflow_of_lt hrange]
      dsimp only
      split_ifs with hsize
      · exact iff_of_false nofun fun h => by omega
      · by_cases hposition : r.svpMemory + offset < 2 ^ 64
        · rw [addOverflow_of_lt hposition]
          dsimp only
          split_ifs with hnull
          · exact iff_of_false nofun fun h => h.2.2.2.1 hnull
          · exact ⟨fun h => ⟨hrange, by omega, hposition, hnull, h⟩, fun h => h.2.2.2.2⟩
        · rw [addOverflow_of_not_lt hposition]
          exact iff_of_false nofun fun h => hposition h.2.2.1
    · rw [addOverflow_of_not_lt hrange]
      exact iff_of_false nofun fun h => hrange h.1

theorem svpCreate_eq_some (hmemory : svpMemory ≠ 0) (hvalid : valid svpMemory size = false) :
    svpCreate valid resources svpMemory size =
      if resources.svp ∧ resources.mutex then some none else none := by
  have hbuffer : svpCreateBuffer valid resources.buffer svpMemory size = (true, none) := by
    rw [svpCreateBuffer, if_neg hmemory, if_pos (by simp [hvalid])]
    rfl
  rw [svpCreate, hbuffer]
  obtain ⟨svp, buffer, mutex⟩ := resources
  cases svp with
  | false => simp
  | true => cases mutex <;> simp

theorem objectStoreAdd_fst : (objectStoreAdd store (some object) (some callerUuid)).1 = .ok ↔
    store.isShuttingDown = false ∧ (slotsAllocate store.slots).1 ≠ slotInvalid := by
  unfold objectStoreAdd
  dsimp only
  split_ifs with hshut hslot
  · simp [hshut]
  · simp [hslot]
  · simp [hshut, hslot]

theorem create_succeeds_iff (hvalid : p.memoryIsValidSvp svpMemory size = false) :
    (Operation.create svpMemory size callerUuid).Succeeds p ↔
      (Operation.create svpMemory size callerUuid).Admitted p := by
  simp only [Operation.Succeeds, Operation.Admitted, svpStoreCreate]
  by_cases hmemory : svpMemory = 0
  · simp [hmemory]
  · rw [if_neg hmemory, svpCreate_eq_some hmemory hvalid]
    by_cases hresources : p.resources.svp = true ∧ p.resources.mutex = true
    · rw [if_pos hresources]
      exact objectStoreAdd_fst.trans (by simp [hmemory, hresources])
    · rw [if_neg hresources]
      exact iff_of_false nofun fun h => hresources ⟨h.2.1, h.2.2.1⟩

theorem write_succeeds_iff : (Operation.write out inp inLength offsets).Succeeds p ↔
    (Operation.write out inp inLength offsets).Admitted p := by
  simp only [Operation.Succeeds, Operation.Admitted, taSaSvpBufferWrite]
  by_cases hinp : inp = 0
  · simp [hinp]
  · rw [if_neg hinp]
    cases offsets with
    | none => simp
    | some offsets =>
      cases hacquire : p.acquire out with
      | error status => simp
      | ok b => simp [require_eq_ok, svpWrite_succeeds, hinp]

theorem copy_succeeds_iff : (Operation.copy out inp offsets).Succeeds p ↔
    (Operation.copy out inp offsets).Admitted p := by
  simp only [Operation.Succeeds, Operation.Admitted, taSaSvpBufferCopy]
  cases offsets with
  | none => simp
  | some offsets =>
    cases hout : p.acquire out with
    | error status => simp
    | ok b =>
      cases hin : p.acquire inp with
      | error status => simp
      | ok a => simp [require_eq_ok, svpCopy_succeeds]

theorem compareDigest_eq_ok {hash : List UInt8} :
    compareDigest hash digest = .ok () ↔ digest = some hash := by
  cases digest with
  | none => exact iff_of_false nofun nofun
  | some digest => simp [compareDigest, require_eq_ok]

theorem check_succeeds_iff :
    (Operation.check svpBuffer offset length digestAlgorithm hash callerUuid).Succeeds p ↔
      (Operation.check svpBuffer offset length digestAlgorithm hash callerUuid).Admitted p := by
  simp only [Operation.Succeeds, Operation.Admitted, taSaSvpBufferCheck]
  cases hash with
  | none => exact iff_of_false nofun nofun
  | some hash =>
    dsimp only
    split_ifs with hree hlength
    · exact iff_of_false nofun fun ⟨r, h, hhash, hnot, _⟩ => hnot hree
    · refine iff_of_false nofun ?_
      intro ⟨r, h, hhash, _, heq, _⟩
      cases hhash
      exact hlength heq
    · rw [ne_eq, not_not] at hlength
      cases hacquire : p.acquire svpBuffer with
      | error status => simp
      | ok b =>
        have hdigest : svpDigest p.memoryIsValidSvp p.digestSha digestAlgorithm b offset length
            p.memory = some (some hash) ↔ _ := svpDigest_eq_some
        simp [compareDigest_eq_ok, hdigest, hree, hlength]

theorem keyCheck_succeeds_iff : (Operation.keyCheck key inp bytesToProcess expected).Succeeds p ↔
    (Operation.keyCheck key inp bytesToProcess expected).Admitted p := by
  simp only [Operation.Succeeds, Operation.Admitted, taSaSvpKeyCheck, bind_eq_ok, require_eq_ok,
    convertBuffer_eq_ok]
  constructor
  · rintro ⟨k, hk, bytes, h⟩
    exact ⟨k, bytes, hk, h⟩
  · rintro ⟨k, bytes, hk, h⟩
    exact ⟨k, hk, bytes, h⟩

end Success

/-- A call keeps off memory that is not valid just where the memory is valid or the call fails for
another reason. -/
theorem Operation.guarded_iff (op : Operation) : op.Guarded p ↔
    (∀ r ∈ op.regions p, p.memoryIsValidSvp r.svpMemory r.size = true) ∨ ¬op.Admitted p := by
  have hmain (h : op.Succeeds p ↔ op.Admitted p) : op.Guarded p ↔
      (∀ r ∈ op.regions p, p.memoryIsValidSvp r.svpMemory r.size = true) ∨ ¬op.Admitted p := by
    rw [Guarded, h]
    exact imp_iff_or_not
  cases op with
  | create svpMemory size callerUuid =>
    by_cases hvalid : p.memoryIsValidSvp svpMemory size = true
    · have hregions : ∀ r ∈ (create svpMemory size callerUuid).regions p,
          p.memoryIsValidSvp r.svpMemory r.size = true := by
        simpa [regions] using hvalid
      exact iff_of_true (fun _ => hregions) (.inl hregions)
    · exact hmain (create_succeeds_iff (Bool.eq_false_iff.2 hvalid))
  | write out inp inLength offsets => exact hmain write_succeeds_iff
  | copy out inp offsets => exact hmain copy_succeeds_iff
  | check svpBuffer offset length digestAlgorithm hash callerUuid => exact hmain check_succeeds_iff
  | keyCheck key inp bytesToProcess expected => exact hmain keyCheck_succeeds_iff
  | convert buffer bytesToProcess => exact hmain (exists_congr fun _ => convertBuffer_eq_ok)

/-- The check of the reference implementation, and a store without SVP objects. -/
def referencePlatform : Platform where
  memoryIsValidSvp := memoryIsValid
  acquire := fun _ => .error .invalidParameter
  store := (objectStoreInit 64).get (by decide)
  resources := ⟨true, true, true⟩
  memory := fun _ => 0
  digestSha := fun _ _ => none
  aes := ⟨fun _ _ => none, fun _ _ _ => none, fun _ _ _ => Aes.length_failed,
    fun _ _ _ _ => Aes.length_failed⟩

/-- An SVP buffer is created for memory that goes on past the last address. -/
theorem create_not_guarded :
    ¬(Operation.create (2 ^ 64 - 1) 2 (.ofByte 2)).Guarded referencePlatform := by
  intro h
  have hcreated : (Operation.create (2 ^ 64 - 1) 2 (.ofByte 2)).Succeeds referencePlatform := by
    unfold Operation.Succeeds
    decide +kernel
  exact absurd (h hcreated ⟨2 ^ 64 - 1, 2⟩ (.head _)) (by decide)

section Commands

variable {valid : Nat → Nat → Bool} {Ctx : Type}

/-- The SVP objects of a client without what was checked when they were created. -/
def clientRegions (client : Client Ctx) (handle : Nat) : Except SaStatus (Option SvpRegion) :=
  (client.svps handle).map (Option.map fun b => ⟨b.svpMemory, b.size⟩)

/-- The cipher and common encryption commands convert their buffers whatever the check says. -/
theorem convertBuffer_eq_client (client : Client Ctx) (n : Nat) (buffer : SaBuffer) :
    convertBuffer valid (clientRegions client) n buffer =
      TaSecureApi.convertBuffer client n buffer := by
  cases buffer with
  | clear buffer length offset => rfl
  | svp buffer offset =>
    simp only [convertBuffer, TaSecureApi.convertBuffer, clientRegions]
    cases client.svps buffer with
    | error status => rfl
    | ok b =>
      cases b with
      | none => rfl
      | some b =>
        simp only [Except.map, Option.map_some, svpGetSvpMemory_some, svpGetSize_some]
        rfl
  | other bufferType => rfl

theorem svpCreate_valid (h : svpCreate valid resources svpMemory size = some (some r)) :
    r = ⟨svpMemory, size⟩ ∧ valid svpMemory size = true := by
  unfold svpCreate at h
  split_ifs at h
  rw [Option.some_inj] at h
  unfold svpCreateBuffer at h
  split_ifs at h with hmemory hvalid
  exact ⟨(Option.some.inj h).symm, by simpa using hvalid⟩

/-- Where the check is that of the reference implementation, the buffer is the one of the SVP
store. -/
theorem svpCreateBuffer_eq_reference (hmemory : svpMemory ≠ 0) :
    (svpCreateBuffer memoryIsValid true svpMemory size).2 =
      (TaSecureApi.svpCreateBuffer svpMemory size).map fun b => ⟨b.svpMemory, b.size⟩ := by
  rw [svpCreateBuffer, if_neg hmemory, TaSecureApi.svpCreateBuffer]
  by_cases hvalid : memoryIsValid svpMemory size = true
  · simp [hvalid]
  · simp [hvalid]

end Commands

end Porting

end TaSecureApi
