import TaSecureApi.SharedSamples
import TaSecureApi.TaTypes
import TaSecureApi.Lib.Ledger

namespace TaSecureApi
set_option autoImplicit true
open Wp

/-- What `malloc` and `ta_alloc_shared_memory` return, named by the number of the call. -/
inductive Allocation
  | shared (call : Nat)
  | heap (call : Nat)
  deriving DecidableEq, Repr

/-- The parameter for a buffer: the bytes from the offset on, or the handle and the offset. -/
inductive SampleParam
  | clear (address size : Nat)
  | svp (buffer offset : Nat)
  | other
  deriving DecidableEq, Repr

/-- The command and its parameters, with the contents that `CREATE_PARAM` copies. -/
structure SampleMessage where
  apiVersion : Nat
  iv : Iv
  cryptByteBlock : Nat
  skipByteBlock : Nat
  context : Nat
  subsampleLengths : List SaSubsampleLength
  out : SampleParam
  inp : SampleParam
  deriving DecidableEq, Repr

/-- The result of `ta_invoke_command` and the offsets that it leaves in the command. -/
structure SampleResponse where
  status : SaStatus
  outOffset : Nat
  inOffset : Nat

/-- How the calls of the client end, in the order of the calls of each kind. -/
structure ClientPattern where
  session : Bool
  sharedMemory : Nat → Bool
  malloc : Nat → Bool
  invoke : Nat → SampleMessage → SampleResponse

/-- A message that was sent for a sample, and the status that came back. -/
structure Invocation where
  sample : Nat
  message : SampleMessage
  status : SaStatus
  deriving DecidableEq, Repr

inductive ClientEvent
  | allocate (allocation : Allocation)
  | free (allocation : Allocation)
  | invoke (invocation : Invocation)
  deriving DecidableEq, Repr

/-- The pointers of `sa_process_common_encryption` to what it allocates. -/
inductive ClientPointer
  | processCommonEncryption
  | subsampleLengthS
  | param1
  | param2
  | param3
  deriving DecidableEq

structure SendState where
  buffers : Nat → SaBuffer
  pointers : ClientPointer → Option Allocation
  status : Option SaStatus
  sharedCalls : Nat
  heapCalls : Nat
  invokeCalls : Nat
  trace : List ClientEvent

inductive LoopEnd
  | byBreak
  | byContinue

abbrev SendProg := Prog SendState LoopEnd

def SendState.point (σ : SendState) (pointer : ClientPointer) (a : Option Allocation) : SendState :=
  { σ with pointers := Function.update σ.pointers pointer a }

def SendState.log (σ : SendState) (event : ClientEvent) : SendState :=
  { σ with trace := σ.trace ++ [event] }

def SendState.setStatus (σ : SendState) (status : SaStatus) : SendState :=
  { σ with status := some status }

def breakWith (status : SaStatus) : SendProg α := do
  modify (·.setStatus status)
  throw .byBreak

def breaking : Except SaStatus α → SendProg α
  | .error status => breakWith status
  | .ok a => pure a

def SendState.taAllocSharedMemory (pattern : ClientPattern) (σ : SendState)
    (pointer : ClientPointer) : SendState :=
  let σ' := { σ with sharedCalls := σ.sharedCalls + 1 }
  if pattern.sharedMemory σ.sharedCalls then
    (σ'.log (.allocate (.shared σ.sharedCalls))).point pointer (some (.shared σ.sharedCalls))
  else
    σ'.point pointer none

def SendState.malloc (pattern : ClientPattern) (σ : SendState) (pointer : ClientPointer) :
    SendState :=
  let σ' := { σ with heapCalls := σ.heapCalls + 1 }
  if pattern.malloc σ.heapCalls then
    (σ'.log (.allocate (.heap σ.heapCalls))).point pointer (some (.heap σ.heapCalls))
  else
    σ'.point pointer none

/-- `CREATE_COMMAND`, `CREATE_PARAM` and `CREATE_OUT_PARAM` for shared memory. A failure goes on
with the enclosing loop. -/
def createParam (pattern : ClientPattern) (pointer : ClientPointer) : SendProg Unit := do
  modify (·.taAllocSharedMemory pattern pointer)
  let σ ← get
  if σ.pointers pointer = none then do
    modify (·.setStatus .internalError)
    throw .byContinue
  else
    pure ()

/-- `RELEASE_COMMAND`, `RELEASE_PARAM` and `free`: nothing is done for `NULL`. -/
def SendState.release (σ : SendState) (pointer : ClientPointer) : SendState :=
  match σ.pointers pointer with
  | none => σ
  | some a => (σ.log (.free a)).point pointer none

/-- What the checks at the start of the loop find in a sample. -/
structure CheckedByClient where
  iv : Iv
  subsampleLengths : List SaSubsampleLength
  out : Nat
  inp : Nat
  deriving DecidableEq

def checkSample (sample : SharedSample) (buffers : Nat → SaBuffer) :
    Except SaStatus CheckedByClient := do
  let iv ← requireNonNull sample.iv
  require (sample.ivLength = aesBlockSize) .invalidParameter
  let subsampleLengths ← requireNonNull sample.subsampleLengths
  let out ← requireNonNull sample.out
  let inp ← requireNonNull sample.inp
  require ((buffers out).isClear ∨ (buffers out).isSvp) .invalidParameter
  require ((buffers inp).isClear ∨ (buffers inp).isSvp) .invalidParameter
  pure ⟨iv, subsampleLengths, out, inp⟩

def checkBuffer : SaBuffer → Except SaStatus Unit
  | .clear buffer length offset => do
    require (buffer ≠ 0) .nullParameter
    require (offset ≤ length) .invalidParameter
  | _ => .ok ()

def SampleParam.ofBuffer : SaBuffer → SampleParam
  | .clear buffer length offset => .clear (buffer + offset) (length - offset)
  | .svp buffer offset => .svp buffer offset
  | .other _ => .other

def SampleMessage.of (sample : SharedSample) (checked : CheckedByClient)
    (buffers : Nat → SaBuffer) :
    SampleMessage where
  apiVersion := TaSecureApi.apiVersion
  iv := checked.iv
  cryptByteBlock := sample.cryptByteBlock
  skipByteBlock := sample.skipByteBlock
  context := sample.context
  subsampleLengths := checked.subsampleLengths
  out := .ofBuffer (buffers checked.out)
  inp := .ofBuffer (buffers checked.inp)

def SaBuffer.afterCommand (offset : Nat) : SaBuffer → SaBuffer
  | .svp buffer _ => .svp buffer offset
  | buffer => buffer.advance offset

def buffersAfter (checked : CheckedByClient) (response : SampleResponse)
    (buffers : Nat → SaBuffer) :
    Nat → SaBuffer :=
  let buffers := Function.update buffers checked.out
    ((buffers checked.out).afterCommand response.outOffset)
  Function.update buffers checked.inp ((buffers checked.inp).afterCommand response.inOffset)

def SendState.taInvokeCommand (pattern : ClientPattern) (i : Nat) (message : SampleMessage)
    (σ : SendState) : SendState :=
  let response := pattern.invoke σ.invokeCalls message
  let σ := { σ with invokeCalls := σ.invokeCalls + 1 }
  (σ.log (.invoke ⟨i, message, response.status⟩)).setStatus response.status

def SendState.finishSample (checked : CheckedByClient) (response : SampleResponse) (σ : SendState) :
    SendState :=
  let σ := { σ with buffers := buffersAfter checked response σ.buffers }
  (((σ.release .subsampleLengthS).release .param1).release .param2).release .param3

/-- The body of the loop, for sample `i`. -/
def sendSample (pattern : ClientPattern) (i : Nat) (sample : SharedSample) : SendProg Unit := do
  let σ ← get
  let checked ← breaking (checkSample sample σ.buffers)
  modify (·.malloc pattern .subsampleLengthS)
  let σ ← get
  if σ.pointers .subsampleLengthS = none then
    breakWith .nullParameter
  else do
    createParam pattern .param1
    breaking (checkBuffer (σ.buffers checked.out))
    createParam pattern .param2
    breaking (checkBuffer (σ.buffers checked.inp))
    createParam pattern .param3
    let σ ← get
    let message := SampleMessage.of sample checked σ.buffers
    let response := pattern.invoke σ.invokeCalls message
    modify (·.taInvokeCommand pattern i message)
    if response.status ≠ .ok then
      throw .byBreak
    else do
      modify (·.finishSample checked response)

/-- The loop, from sample `i` on. -/
def sendSamples (pattern : ClientPattern) : Nat → List SharedSample → SendState → SendState
  | _, [], σ => σ
  | i, sample :: rest, σ =>
    match (sendSample pattern i sample).run.run σ with
    | (.error .byBreak, σ) => σ
    | (_, σ) => sendSamples pattern (i + 1) rest σ

def SendState.start (buffers : Nat → SaBuffer) : SendState where
  buffers := buffers
  pointers := fun _ => none
  status := none
  sharedCalls := 0
  heapCalls := 0
  invokeCalls := 0
  trace := []

def SendState.releaseAll (σ : SendState) : SendState :=
  ((((σ.release .subsampleLengthS).release .processCommonEncryption).release .param1).release
    .param2).release .param3

/-- `sa_process_common_encryption` of the client. -/
def saProcessCommonEncryption (pattern : ClientPattern) (samples : Option (List SharedSample))
    (buffers : Nat → SaBuffer) : SendState :=
  let σ := SendState.start buffers
  match samples with
  | none => σ.setStatus .nullParameter
  | some samples =>
    if samples.length < 1 then σ.setStatus .invalidParameter
    else if pattern.session = false then σ.setStatus .internalError
    else
      match (createParam pattern .processCommonEncryption).run.run σ with
      | (.ok (), σ) => (sendSamples pattern 0 samples σ).releaseAll
      | (.error _, σ) => σ.releaseAll

def allocations (trace : List ClientEvent) : List Allocation :=
  trace.filterMap fun
    | .allocate a => some a
    | _ => none

def frees (trace : List ClientEvent) : List Allocation :=
  trace.filterMap fun
    | .free a => some a
    | _ => none

def invocations (trace : List ClientEvent) : List Invocation :=
  trace.filterMap fun
    | .invoke v => some v
    | _ => none

/-- The samples are sent in order, without one left out, each after the ones before it were
successful, and the call is successful only if all were sent and all were successful. -/
structure SendsEach (samples : List SharedSample) (σ : SendState) : Prop where
  inOrder : ∃ n, (invocations σ.trace).map (·.sample) = List.range n
  messages : ∀ v ∈ invocations σ.trace, ∃ sample buffers checked,
    samples[v.sample]? = some sample ∧ checkSample sample buffers = .ok checked ∧
      v.message = .of sample checked buffers
  stops : ∀ v ∈ (invocations σ.trace).dropLast, v.status = .ok
  complete : σ.status = some .ok → (invocations σ.trace).length = samples.length ∧
    ∀ v ∈ invocations σ.trace, v.status = .ok

/-- Each allocation is released exactly once, and nothing else is. -/
structure ReleasesEach (trace : List ClientEvent) : Prop where
  distinct : (allocations trace).Nodup
  once : ∀ a ∈ allocations trace, (frees trace).count a = 1
  allocated : ∀ a ∈ frees trace, a ∈ allocations trace

/-- Sample `i` is sent and successful, with what the buffers are before and after it, where all
before it were. -/
def Delivers (pattern : ClientPattern) (i : Nat) (sample : SharedSample)
    (buffers buffers' : Nat → SaBuffer) : Prop :=
  ∃ checked, checkSample sample buffers = .ok checked ∧ pattern.malloc i = true ∧
    pattern.sharedMemory (3 * i + 1) = true ∧ checkBuffer (buffers checked.out) = .ok () ∧
    pattern.sharedMemory (3 * i + 2) = true ∧ checkBuffer (buffers checked.inp) = .ok () ∧
    pattern.sharedMemory (3 * i + 3) = true ∧
    (pattern.invoke i (.of sample checked buffers)).status = .ok ∧
    buffers' = buffersAfter checked (pattern.invoke i (.of sample checked buffers)) buffers

/-- An allocation of shared memory fails for sample `i`, where all before it were successful. -/
def AllocationFails (pattern : ClientPattern) (i : Nat) (sample : SharedSample)
    (buffers : Nat → SaBuffer) : Prop :=
  ∃ checked, checkSample sample buffers = .ok checked ∧ pattern.malloc i = true ∧
    (pattern.sharedMemory (3 * i + 1) = false ∨
      checkBuffer (buffers checked.out) = .ok () ∧
        (pattern.sharedMemory (3 * i + 2) = false ∨
          checkBuffer (buffers checked.inp) = .ok () ∧ pattern.sharedMemory (3 * i + 3) = false))

/-- The first sample that fails does so for want of shared memory, and the checks do not refuse the
sample behind it. -/
inductive SkipsSample (pattern : ClientPattern) :
    Nat → (Nat → SaBuffer) → List SharedSample → Prop
  | here : AllocationFails pattern i sample buffers → checkSample next buffers = .ok checked →
      SkipsSample pattern i buffers (sample :: next :: rest)
  | later : Delivers pattern i sample buffers buffers' → SkipsSample pattern (i + 1) buffers' rest →
      SkipsSample pattern i buffers (sample :: rest)

section Trace

variable {trace : List ClientEvent} {a : Allocation} {v : Invocation}

@[simp] theorem allocations_allocate :
    allocations (trace ++ [.allocate a]) = allocations trace ++ [a] := List.filterMap_append

@[simp] theorem allocations_free : allocations (trace ++ [.free a]) = allocations trace := by
  simp [allocations]

@[simp] theorem allocations_invoke : allocations (trace ++ [.invoke v]) = allocations trace := by
  simp [allocations]

@[simp] theorem frees_allocate : frees (trace ++ [.allocate a]) = frees trace := by simp [frees]

@[simp] theorem frees_free : frees (trace ++ [.free a]) = frees trace ++ [a] :=
  List.filterMap_append

@[simp] theorem frees_invoke : frees (trace ++ [.invoke v]) = frees trace := by simp [frees]

@[simp] theorem invocations_allocate :
    invocations (trace ++ [.allocate a]) = invocations trace := by simp [invocations]

@[simp] theorem invocations_free : invocations (trace ++ [.free a]) = invocations trace := by
  simp [invocations]

@[simp] theorem invocations_invoke :
    invocations (trace ++ [.invoke v]) = invocations trace ++ [v] := List.filterMap_append

end Trace

def Allocation.Called (a : Allocation) (σ : SendState) : Prop :=
  match a with
  | .shared call => call < σ.sharedCalls
  | .heap call => call < σ.heapCalls

theorem Allocation.Called.mono {a : Allocation} {σ σ' : SendState} (h : a.Called σ)
    (hshared : σ.sharedCalls ≤ σ'.sharedCalls) (hheap : σ.heapCalls ≤ σ'.heapCalls) :
    a.Called σ' := by
  cases a with
  | shared call => exact Nat.lt_of_lt_of_le h hshared
  | heap call => exact Nat.lt_of_lt_of_le h hheap

def SendState.InPlace (σ : SendState) : Option ClientPointer → Allocation → Prop
  | none, a => a ∈ frees σ.trace
  | some pointer, a => σ.pointers pointer = some a

/-- Every allocation is freed, once, or behind exactly one pointer. -/
structure Accounts (σ : SendState) : Prop where
  exact : Ledger.Exact σ.InPlace (· ∈ allocations σ.trace) id
  distinct : (allocations σ.trace).Nodup
  freedOnce : (frees σ.trace).Nodup
  called : ∀ a ∈ allocations σ.trace, a.Called σ

/-- An allocation that no pointer leads to any more and that was not freed. -/
structure Leaked (σ : SendState) (a : Allocation) : Prop where
  allocated : a ∈ allocations σ.trace
  notFreed : a ∉ frees σ.trace
  unreachable : ∀ pointer, σ.pointers pointer ≠ some a
  called : a.Called σ

section Accounts

variable {pattern : ClientPattern} {σ : SendState} {pointer : ClientPointer} {a : Allocation}

theorem Accounts.issue {σ' : SendState} (h : Accounts σ) (hempty : σ.pointers pointer = none)
    (hnew : ¬ a.Called σ) (htrace : σ'.trace = σ.trace ++ [.allocate a])
    (hpointers : σ'.pointers = Function.update σ.pointers pointer (some a))
    (hcalled : a.Called σ') (hmono : ∀ b : Allocation, b.Called σ → b.Called σ') :
    Accounts σ' where
  exact := by
    refine h.exact.issue (x := a) (q := some pointer) (fun e he hk => ?_) (fun e => ?_)
      (fun r e => ?_)
    · obtain rfl : e = a := hk
      exact hnew (h.called e he)
    · rw [htrace, allocations_allocate, List.mem_append, List.mem_singleton]
      exact or_comm
    · cases r with
      | none => simp [SendState.InPlace, htrace]
      | some q =>
        simp only [SendState.InPlace, hpointers, Option.some.injEq]
        by_cases hq : q = pointer
        · subst hq
          rw [Function.update_self, hempty]
          simp [eq_comm]
        · rw [Function.update_of_ne hq]
          simp [hq]
  distinct := by
    rw [htrace, allocations_allocate]
    exact h.distinct.append (List.nodup_singleton a)
      (List.disjoint_singleton.2 fun hmem => hnew (h.called a hmem))
  freedOnce := by
    rw [htrace, frees_allocate]
    exact h.freedOnce
  called b hb := by
    rw [htrace, allocations_allocate, List.mem_append, List.mem_singleton] at hb
    rcases hb with hb | rfl
    · exact hmono b (h.called b hb)
    · exact hcalled

theorem Accounts.congr {σ' : SendState} (h : Accounts σ)
    (hallocations : allocations σ'.trace = allocations σ.trace)
    (hfrees : frees σ'.trace = frees σ.trace) (hpointers : σ'.pointers = σ.pointers)
    (hmono : ∀ b : Allocation, b.Called σ → b.Called σ') : Accounts σ' where
  exact := by
    refine h.exact.congr (fun e => by rw [hallocations]) (fun r e => ?_)
    cases r with
    | none => simp [SendState.InPlace, hfrees]
    | some q => simp [SendState.InPlace, hpointers]
  distinct := by
    rw [hallocations]
    exact h.distinct
  freedOnce := by
    rw [hfrees]
    exact h.freedOnce
  called b hb := by
    rw [hallocations] at hb
    exact hmono b (h.called b hb)

theorem Accounts.malloc (h : Accounts σ) (hempty : σ.pointers pointer = none) :
    Accounts (σ.malloc pattern pointer) := by
  unfold SendState.malloc
  split_ifs
  · exact h.issue hempty (Nat.lt_irrefl _) rfl rfl (Nat.lt_succ_self _)
      fun b hb => hb.mono (Nat.le_refl _) (Nat.le_succ _)
  · refine h.congr rfl rfl ?_ fun b hb => hb.mono (Nat.le_refl _) (Nat.le_succ _)
    exact Function.update_eq_self_iff.2 hempty.symm

theorem Accounts.taAllocSharedMemory (h : Accounts σ) (hempty : σ.pointers pointer = none) :
    Accounts (σ.taAllocSharedMemory pattern pointer) := by
  unfold SendState.taAllocSharedMemory
  split_ifs
  · exact h.issue hempty (Nat.lt_irrefl _) rfl rfl (Nat.lt_succ_self _)
      fun b hb => hb.mono (Nat.le_succ _) (Nat.le_refl _)
  · refine h.congr rfl rfl ?_ fun b hb => hb.mono (Nat.le_succ _) (Nat.le_refl _)
    exact Function.update_eq_self_iff.2 hempty.symm

theorem Accounts.release (h : Accounts σ) : Accounts (σ.release pointer) := by
  unfold SendState.release
  split
  · exact h
  · rename_i a ha
    have hnot : a ∉ frees σ.trace := fun hmem => by
      obtain ⟨hplace, -⟩ := h.exact.unique none (some pointer) a a hmem ha rfl
      cases hplace
    constructor
    · refine (h.exact.move (p := some pointer) (q := none) (x := a) (fun e => ?_)
        (fun r e => ?_)).congr (fun e => ?_) (fun _ _ => Iff.rfl)
      · exact ⟨fun he => Option.some.inj (he.symm.trans ha), fun he => he ▸ ha⟩
      · cases r with
        | none => simp [SendState.InPlace, SendState.log, SendState.point, or_comm]
        | some q =>
          simp only [SendState.InPlace, SendState.log, SendState.point]
          by_cases hq : q = pointer
          · subst hq
            simp
          · simp [hq]
      · simp [SendState.log, SendState.point]
    · simpa [SendState.log, SendState.point] using h.distinct
    · simp only [SendState.log, SendState.point, frees_free]
      exact h.freedOnce.append (List.nodup_singleton a) (List.disjoint_singleton.2 hnot)
    · intro b hb
      simp only [SendState.log, SendState.point, allocations_free] at hb
      exact h.called b hb

theorem Accounts.releasesEach (h : Accounts σ) (hnone : ∀ pointer, σ.pointers pointer = none) :
    ReleasesEach σ.trace where
  distinct := h.distinct
  once a ha := by
    obtain ⟨place, hplace⟩ := h.exact.total a ha
    cases place with
    | none => exact List.count_eq_one_of_mem h.freedOnce hplace
    | some pointer => cases (hnone pointer).symm.trans hplace
  allocated a ha := h.exact.issued none a ha

theorem ReleasesEach.not_of_leaked (h : Leaked σ a) : ¬ ReleasesEach σ.trace := by
  intro hr
  have hcount := hr.once a h.allocated
  rw [List.count_eq_zero_of_not_mem h.notFreed] at hcount
  cases hcount

theorem Accounts.leaked (h : Accounts σ) (ha : σ.pointers pointer = some a) :
    a ∈ allocations σ.trace ∧ a ∉ frees σ.trace ∧
      ∀ other, other ≠ pointer → σ.pointers other ≠ some a := by
  refine ⟨h.exact.issued (some pointer) a ha, fun hmem => ?_, fun other hne hother => ?_⟩
  · obtain ⟨hplace, -⟩ := h.exact.unique none (some pointer) a a hmem ha rfl
    cases hplace
  · obtain ⟨hplace, -⟩ := h.exact.unique (some other) (some pointer) a a hother ha rfl
    exact hne (Option.some.inj hplace)

theorem Leaked.update {σ' : SendState} {b : Option Allocation} (h : Leaked σ a)
    (hallocations : ∃ added, allocations σ'.trace = allocations σ.trace ++ added)
    (hfrees : frees σ'.trace = frees σ.trace)
    (hpointers : σ'.pointers = Function.update σ.pointers pointer b) (hb : b ≠ some a)
    (hmono : a.Called σ → a.Called σ') : Leaked σ' a where
  allocated := by
    obtain ⟨added, hadded⟩ := hallocations
    rw [hadded]
    exact List.mem_append_left _ h.allocated
  notFreed := by
    rw [hfrees]
    exact h.notFreed
  unreachable other := by
    rw [hpointers]
    by_cases hother : other = pointer
    · subst hother
      rw [Function.update_self]
      exact hb
    · rw [Function.update_of_ne hother]
      exact h.unreachable other
  called := hmono h.called

theorem Leaked.malloc (h : Leaked σ a) : Leaked (σ.malloc pattern pointer) a := by
  unfold SendState.malloc
  split_ifs
  · refine h.update ⟨_, allocations_allocate⟩ frees_allocate rfl (fun heq => ?_)
      fun ha => ha.mono (Nat.le_refl _) (Nat.le_succ _)
    cases heq
    exact Nat.lt_irrefl _ h.called
  · exact h.update ⟨[], (List.append_nil _).symm⟩ rfl rfl nofun
      fun ha => ha.mono (Nat.le_refl _) (Nat.le_succ _)

theorem Leaked.taAllocSharedMemory (h : Leaked σ a) :
    Leaked (σ.taAllocSharedMemory pattern pointer) a := by
  unfold SendState.taAllocSharedMemory
  split_ifs
  · refine h.update ⟨_, allocations_allocate⟩ frees_allocate rfl (fun heq => ?_)
      fun ha => ha.mono (Nat.le_succ _) (Nat.le_refl _)
    cases heq
    exact Nat.lt_irrefl _ h.called
  · exact h.update ⟨[], (List.append_nil _).symm⟩ rfl rfl nofun
      fun ha => ha.mono (Nat.le_succ _) (Nat.le_refl _)

theorem Leaked.release (h : Leaked σ a) : Leaked (σ.release pointer) a := by
  unfold SendState.release
  split
  · exact h
  · rename_i b hb
    have hne : b ≠ a := fun heq => h.unreachable pointer (heq ▸ hb)
    refine ⟨?_, ?_, fun other => ?_, h.called⟩
    · simpa [SendState.log, SendState.point] using h.allocated
    · simp only [SendState.log, SendState.point, frees_free, List.mem_append, List.mem_singleton]
      exact fun hmem => hmem.elim h.notFreed fun heq => hne heq.symm
    · simp only [SendState.log, SendState.point]
      by_cases hother : other = pointer
      · subst hother
        rw [Function.update_self]
        exact nofun
      · rw [Function.update_of_ne hother]
        exact h.unreachable other

theorem Leaked.setStatus (h : Leaked σ a) : Leaked (σ.setStatus status) a :=
  ⟨h.allocated, h.notFreed, h.unreachable, h.called⟩

theorem Leaked.taInvokeCommand (h : Leaked σ a) :
    Leaked (σ.taInvokeCommand pattern i message) a where
  allocated := by
    simpa [SendState.taInvokeCommand, SendState.log, SendState.setStatus] using h.allocated
  notFreed := by
    simpa [SendState.taInvokeCommand, SendState.log, SendState.setStatus] using h.notFreed
  unreachable := h.unreachable
  called := h.called

end Accounts

theorem Leaked.finishSample {σ : SendState} {a : Allocation}
    (h : Leaked σ a) : Leaked (σ.finishSample checked response) a := by
  have hbuffers : Leaked { σ with buffers := buffersAfter checked response σ.buffers } a :=
    ⟨h.allocated, h.notFreed, h.unreachable, h.called⟩
  exact hbuffers.release.release.release.release

section Programs

variable {pattern : ClientPattern} {σ : SendState} {pointer : ClientPointer} {a : Allocation}
  {α : Type} {Q : α → SendState → Prop} {F : LoopEnd → SendState → Prop}

@[simp] theorem wp_breakWith :
    wp (breakWith status : SendProg α) Q F σ ↔ F .byBreak (σ.setStatus status) := Iff.rfl

@[simp] theorem wp_breaking {x : Except SaStatus α} :
    wp (breaking x) Q F σ ↔ (∀ b, x = .ok b → Q b σ) ∧
      ∀ status, x = .error status → F .byBreak (σ.setStatus status) := by
  cases x with
  | error status =>
    exact ⟨fun h => ⟨nofun, fun e he => Except.error.inj he ▸ h⟩, fun h => h.2 _ rfl⟩
  | ok b => exact ⟨fun h => ⟨fun c hc => Except.ok.inj hc ▸ h, nofun⟩, fun h => h.1 _ rfl⟩

theorem taAllocSharedMemory_pointer :
    (σ.taAllocSharedMemory pattern pointer).pointers pointer = none ↔
      pattern.sharedMemory σ.sharedCalls = false := by
  unfold SendState.taAllocSharedMemory
  split_ifs with h <;> simp [SendState.point, h]

theorem malloc_pointer :
    (σ.malloc pattern pointer).pointers pointer = none ↔ pattern.malloc σ.heapCalls = false := by
  unfold SendState.malloc
  split_ifs with h <;> simp [SendState.point, h]

@[simp] theorem wp_createParam {Q : Unit → SendState → Prop} :
    wp (createParam pattern pointer) Q F σ ↔
      (pattern.sharedMemory σ.sharedCalls = false →
        F .byContinue ((σ.taAllocSharedMemory pattern pointer).setStatus .internalError)) ∧
      (pattern.sharedMemory σ.sharedCalls = true →
        Q () (σ.taAllocSharedMemory pattern pointer)) := by
  rw [createParam, wp_bind, wp_modify, wp_bind, wp_get, wp_ite, wp_bind, wp_modify, wp_throw,
    wp_pure, taAllocSharedMemory_pointer, Bool.not_eq_false]

@[simp] theorem malloc_buffers : (σ.malloc pattern pointer).buffers = σ.buffers := by
  unfold SendState.malloc
  split_ifs <;> rfl

@[simp] theorem malloc_sharedCalls : (σ.malloc pattern pointer).sharedCalls = σ.sharedCalls := by
  unfold SendState.malloc
  split_ifs <;> rfl

@[simp] theorem malloc_heapCalls : (σ.malloc pattern pointer).heapCalls = σ.heapCalls + 1 := by
  unfold SendState.malloc
  split_ifs <;> rfl

@[simp] theorem malloc_invokeCalls : (σ.malloc pattern pointer).invokeCalls = σ.invokeCalls := by
  unfold SendState.malloc
  split_ifs <;> rfl

@[simp] theorem malloc_invocations :
    invocations (σ.malloc pattern pointer).trace = invocations σ.trace := by
  unfold SendState.malloc
  split_ifs
  · exact invocations_allocate
  · rfl

@[simp] theorem taAllocSharedMemory_buffers :
    (σ.taAllocSharedMemory pattern pointer).buffers = σ.buffers := by
  unfold SendState.taAllocSharedMemory
  split_ifs <;> rfl

@[simp] theorem taAllocSharedMemory_sharedCalls :
    (σ.taAllocSharedMemory pattern pointer).sharedCalls = σ.sharedCalls + 1 := by
  unfold SendState.taAllocSharedMemory
  split_ifs <;> rfl

@[simp] theorem taAllocSharedMemory_heapCalls :
    (σ.taAllocSharedMemory pattern pointer).heapCalls = σ.heapCalls := by
  unfold SendState.taAllocSharedMemory
  split_ifs <;> rfl

@[simp] theorem taAllocSharedMemory_invokeCalls :
    (σ.taAllocSharedMemory pattern pointer).invokeCalls = σ.invokeCalls := by
  unfold SendState.taAllocSharedMemory
  split_ifs <;> rfl

@[simp] theorem taAllocSharedMemory_invocations :
    invocations (σ.taAllocSharedMemory pattern pointer).trace = invocations σ.trace := by
  unfold SendState.taAllocSharedMemory
  split_ifs
  · exact invocations_allocate
  · rfl

def SendState.created (pattern : ClientPattern) (σ : SendState) : List ClientPointer → SendState :=
  List.foldl (·.taAllocSharedMemory pattern ·) (σ.malloc pattern .subsampleLengthS)

theorem wp_sendSample {Q : Unit → SendState → Prop} {i : Nat} {sample : SharedSample} :
    wp (sendSample pattern i sample) Q F σ ↔
      (∀ checked, checkSample sample σ.buffers = .ok checked →
        (pattern.malloc σ.heapCalls = false →
          F .byBreak ((σ.created pattern []).setStatus .nullParameter)) ∧
        (pattern.malloc σ.heapCalls = true →
          (pattern.sharedMemory σ.sharedCalls = false →
            F .byContinue ((σ.created pattern [.param1]).setStatus .internalError)) ∧
          (pattern.sharedMemory σ.sharedCalls = true →
            (checkBuffer (σ.buffers checked.out) = .ok () →
              (pattern.sharedMemory (σ.sharedCalls + 1) = false →
                F .byContinue ((σ.created pattern [.param1, .param2]).setStatus .internalError)) ∧
              (pattern.sharedMemory (σ.sharedCalls + 1) = true →
                (checkBuffer (σ.buffers checked.inp) = .ok () →
                  (pattern.sharedMemory (σ.sharedCalls + 1 + 1) = false →
                    F .byContinue
                      ((σ.created pattern [.param1, .param2, .param3]).setStatus .internalError)) ∧
                  (pattern.sharedMemory (σ.sharedCalls + 1 + 1) = true →
                    ((pattern.invoke σ.invokeCalls (.of sample checked σ.buffers)).status ≠ .ok →
                      F .byBreak ((σ.created pattern [.param1, .param2, .param3]).taInvokeCommand
                        pattern i (.of sample checked σ.buffers))) ∧
                    ((pattern.invoke σ.invokeCalls (.of sample checked σ.buffers)).status = .ok →
                      Q () (((σ.created pattern [.param1, .param2, .param3]).taInvokeCommand
                        pattern i (.of sample checked σ.buffers)).finishSample checked
                          (pattern.invoke σ.invokeCalls (.of sample checked σ.buffers)))))) ∧
                ∀ status, checkBuffer (σ.buffers checked.inp) = .error status →
                  F .byBreak ((σ.created pattern [.param1, .param2]).setStatus status))) ∧
            ∀ status, checkBuffer (σ.buffers checked.out) = .error status →
              F .byBreak ((σ.created pattern [.param1]).setStatus status)))) ∧
      ∀ status, checkSample sample σ.buffers = .error status → F .byBreak (σ.setStatus status) := by
  simp only [sendSample, wp_bind, wp_get, wp_breaking, wp_modify, wp_ite, wp_breakWith,
    wp_createParam, wp_throw, malloc_pointer, Bool.not_eq_false, malloc_sharedCalls,
    taAllocSharedMemory_sharedCalls, taAllocSharedMemory_buffers, malloc_buffers,
    taAllocSharedMemory_invokeCalls, malloc_invokeCalls, Unique.forall_iff, ne_eq, not_not]
  rfl

theorem malloc_pointer_of_ne {other : ClientPointer} (h : other ≠ pointer) :
    (σ.malloc pattern pointer).pointers other = σ.pointers other := by
  unfold SendState.malloc
  split_ifs
  · exact Function.update_of_ne h _ _
  · exact Function.update_of_ne h _ _

theorem taAllocSharedMemory_pointer_of_ne {other : ClientPointer} (h : other ≠ pointer) :
    (σ.taAllocSharedMemory pattern pointer).pointers other = σ.pointers other := by
  unfold SendState.taAllocSharedMemory
  split_ifs
  · exact Function.update_of_ne h _ _
  · exact Function.update_of_ne h _ _

@[simp] theorem release_pointers :
    (σ.release pointer).pointers = Function.update σ.pointers pointer none := by
  unfold SendState.release
  split
  · rename_i h
    exact (Function.update_eq_self_iff.2 h.symm).symm
  · rfl

@[simp] theorem release_buffers : (σ.release pointer).buffers = σ.buffers := by
  unfold SendState.release
  split <;> rfl

@[simp] theorem release_status : (σ.release pointer).status = σ.status := by
  unfold SendState.release
  split <;> rfl

@[simp] theorem release_sharedCalls : (σ.release pointer).sharedCalls = σ.sharedCalls := by
  unfold SendState.release
  split <;> rfl

@[simp] theorem release_heapCalls : (σ.release pointer).heapCalls = σ.heapCalls := by
  unfold SendState.release
  split <;> rfl

@[simp] theorem release_invokeCalls : (σ.release pointer).invokeCalls = σ.invokeCalls := by
  unfold SendState.release
  split <;> rfl

@[simp] theorem release_invocations :
    invocations (σ.release pointer).trace = invocations σ.trace := by
  unfold SendState.release
  split
  · rfl
  · exact invocations_free

/-- The loop has come to a sample: the ones before it were sent and successful, and of what was
allocated only the command is there. -/
structure Reaches (samples : List SharedSample) (i : Nat) (σ : SendState) : Prop where
  accounts : Accounts σ
  cleared : ∀ pointer, pointer ≠ .processCommonEncryption → σ.pointers pointer = none
  sharedCalls : σ.sharedCalls = 3 * i + 1
  heapCalls : σ.heapCalls = i
  invokeCalls : σ.invokeCalls = i
  inOrder : (invocations σ.trace).map (·.sample) = List.range i
  successful : ∀ v ∈ invocations σ.trace, v.status = .ok
  messages : ∀ v ∈ invocations σ.trace, ∃ sample buffers checked,
    samples[v.sample]? = some sample ∧ checkSample sample buffers = .ok checked ∧
      v.message = .of sample checked buffers

section Creation

theorem Accounts.createAll {pointers : List ClientPointer} (h : Accounts σ)
    (hnone : ∀ pointer ∈ pointers, σ.pointers pointer = none) (hnodup : pointers.Nodup) :
    Accounts (pointers.foldl (·.taAllocSharedMemory pattern ·) σ) := by
  induction pointers generalizing σ with
  | nil => exact h
  | cons pointer pointers ih =>
    obtain ⟨hnot, hrest⟩ := List.nodup_cons.1 hnodup
    apply ih (h.taAllocSharedMemory (hnone pointer List.mem_cons_self)) _ hrest
    intro other hother
    have hne : other ≠ pointer := fun heq => hnot (heq ▸ hother)
    rw [taAllocSharedMemory_pointer_of_ne hne]
    exact hnone other (List.mem_cons_of_mem _ hother)

theorem Leaked.createAll {pointers : List ClientPointer} (h : Leaked σ a) :
    Leaked (pointers.foldl (·.taAllocSharedMemory pattern ·) σ) a := by
  induction pointers generalizing σ with
  | nil => exact h
  | cons pointer pointers ih => exact ih h.taAllocSharedMemory

theorem Leaked.created {pointers : List ClientPointer} (h : Leaked σ a) :
    Leaked (σ.created pattern pointers) a :=
  h.malloc.createAll

theorem Reaches.created {samples : List SharedSample} {i : Nat} {pointers : List ClientPointer}
    (h : Reaches samples i σ) (hnodup : pointers.Nodup)
    (hother : ∀ pointer ∈ pointers,
      pointer ≠ .processCommonEncryption ∧ pointer ≠ .subsampleLengthS) :
    Accounts (σ.created pattern pointers) := by
  apply (h.accounts.malloc (h.cleared .subsampleLengthS nofun)).createAll _ hnodup
  intro pointer hpointer
  obtain ⟨hcommand, hlengths⟩ := hother pointer hpointer
  rw [malloc_pointer_of_ne hlengths]
  exact h.cleared pointer hcommand

theorem createAll_keeps (pattern : ClientPattern) (σ : SendState) {pointers : List ClientPointer}
    {other : ClientPointer} (hother : other ∉ pointers) :
    let σ' := pointers.foldl (·.taAllocSharedMemory pattern ·) σ
    σ'.buffers = σ.buffers ∧ invocations σ'.trace = invocations σ.trace ∧
      σ'.pointers other = σ.pointers other := by
  induction pointers generalizing σ with
  | nil => exact ⟨rfl, rfl, rfl⟩
  | cons pointer pointers ih =>
    obtain ⟨hne, hrest⟩ := not_or.1 (mt List.mem_cons.2 hother)
    obtain ⟨hbuffers, hinvocations, hpointer⟩ := ih (σ.taAllocSharedMemory pattern pointer) hrest
    refine ⟨hbuffers.trans ?_, hinvocations.trans ?_, hpointer.trans ?_⟩
    · exact taAllocSharedMemory_buffers
    · exact taAllocSharedMemory_invocations
    · exact taAllocSharedMemory_pointer_of_ne hne

theorem created_keeps (pattern : ClientPattern) (σ : SendState) {pointers : List ClientPointer}
    (h : .subsampleLengthS ∉ pointers) :
    (σ.created pattern pointers).buffers = σ.buffers ∧
      invocations (σ.created pattern pointers).trace = invocations σ.trace ∧
      ((σ.created pattern pointers).pointers .subsampleLengthS = none ↔
        pattern.malloc σ.heapCalls = false) := by
  obtain ⟨hbuffers, hinvocations, hpointer⟩ :=
    createAll_keeps pattern (σ.malloc pattern .subsampleLengthS) h
  refine ⟨hbuffers.trans malloc_buffers, hinvocations.trans malloc_invocations, ?_⟩
  rw [SendState.created, hpointer, malloc_pointer]

end Creation

/-- Where the loop stops, and what was allocated is still accounted for. -/
structure Stopped (samples : List SharedSample) (σ : SendState) : Prop where
  accounts : Accounts σ
  sends : SendsEach samples σ

section Passes

variable {samples : List SharedSample} {i : Nat} {sample : SharedSample}
  {buffers' : Nat → SaBuffer}

theorem Accounts.setStatus (h : Accounts σ) : Accounts (σ.setStatus status) :=
  h.congr rfl rfl rfl fun _ => id

theorem Accounts.taInvokeCommand (h : Accounts σ) :
    Accounts (σ.taInvokeCommand pattern i message) := by
  refine h.congr ?_ ?_ rfl fun _ => id
  · simp [SendState.taInvokeCommand, SendState.log, SendState.setStatus]
  · simp [SendState.taInvokeCommand, SendState.log, SendState.setStatus]

theorem Accounts.finishSample (h : Accounts σ) : Accounts (σ.finishSample checked response) := by
  have hbuffers : Accounts { σ with buffers := buffersAfter checked response σ.buffers } :=
    h.congr rfl rfl rfl fun _ => id
  exact hbuffers.release.release.release.release

theorem Reaches.stops {σ' : SendState} (h : Reaches samples i σ) (haccounts : Accounts σ')
    (htrace : invocations σ'.trace = invocations σ.trace)
    (hstatus : σ'.status = some .ok → i = samples.length) : Stopped samples σ' where
  accounts := haccounts
  sends := {
    inOrder := ⟨i, htrace ▸ h.inOrder⟩
    messages := by
      rw [htrace]
      exact h.messages
    stops := by
      rw [htrace]
      exact fun v hv => h.successful v (List.dropLast_subset _ hv)
    complete := fun hok => by
      have hlength := congrArg List.length h.inOrder
      rw [List.length_map, List.length_range] at hlength
      rw [htrace, hlength]
      exact ⟨hstatus hok, h.successful⟩ }

theorem Reaches.invoked {σ' : SendState} {v : Invocation} (h : Reaches samples i σ)
    (htrace : invocations σ'.trace = invocations σ.trace ++ [v]) (hv : v.sample = i) :
    (invocations σ'.trace).map (·.sample) = List.range (i + 1) := by
  rw [htrace, List.map_append, h.inOrder, List.range_succ, List.map_singleton, hv]

theorem Reaches.delivers (h : Reaches samples i σ) (hs : samples[i]? = some sample)
    (hd : Delivers pattern i sample σ.buffers buffers') :
    wp (sendSample pattern i sample)
      (fun _ σ' => Reaches samples (i + 1) σ' ∧ σ'.buffers = buffers') (fun _ _ => False) σ := by
  obtain ⟨checked, hchecked, hmalloc, hparam₁, hout, hparam₂, hinp, hparam₃, hstatus,
    hbuffers⟩ := hd
  rw [wp_sendSample, h.sharedCalls, h.heapCalls, h.invokeCalls]
  simp only [hchecked, Except.ok.injEq, forall_eq', hmalloc, hparam₁, hout, hparam₂, hinp, hparam₃,
    hstatus, reduceCtorEq, false_implies, implies_true, forall_const, true_and, and_true, ne_eq,
    not_true]
  have hcreated : Accounts (σ.created pattern [.param1, .param2, .param3]) :=
    h.created (by decide) (by decide)
  have hinvocations : invocations ((((σ.created pattern [.param1, .param2, .param3]).taInvokeCommand
      pattern i (.of sample checked σ.buffers)).finishSample checked
        (pattern.invoke i (.of sample checked σ.buffers)))).trace =
      invocations σ.trace ++ [⟨i, .of sample checked σ.buffers, .ok⟩] := by
    simp [SendState.finishSample, SendState.taInvokeCommand, SendState.log, SendState.setStatus,
      SendState.created, h.invokeCalls, hstatus]
  refine ⟨⟨hcreated.taInvokeCommand.finishSample, fun pointer hpointer => ?_, ?_, ?_, ?_,
    h.invoked hinvocations rfl, fun v hv => ?_, fun v hv => ?_⟩, ?_⟩
  · simp only [SendState.finishSample, release_pointers, Function.update_apply]
    cases pointer with
    | processCommonEncryption => exact absurd rfl hpointer
    | _ => rfl
  · simp [SendState.finishSample, SendState.taInvokeCommand, SendState.log, SendState.setStatus,
      SendState.created, h.sharedCalls]
    omega
  · simp [SendState.finishSample, SendState.taInvokeCommand, SendState.log, SendState.setStatus,
      SendState.created, h.heapCalls]
  · simp [SendState.finishSample, SendState.taInvokeCommand, SendState.log, SendState.setStatus,
      SendState.created, h.invokeCalls]
  · rw [hinvocations, List.mem_append, List.mem_singleton] at hv
    rcases hv with hv | rfl
    · exact h.successful v hv
    · rfl
  · rw [hinvocations, List.mem_append, List.mem_singleton] at hv
    rcases hv with hv | rfl
    · exact h.messages v hv
    · exact ⟨sample, σ.buffers, checked, hs, hchecked, rfl⟩
  · simp [SendState.finishSample, SendState.taInvokeCommand, SendState.log, SendState.setStatus,
      SendState.created, hbuffers]

theorem Reaches.stopsCreated {pointers : List ClientPointer} (h : Reaches samples i σ)
    (hnodup : pointers.Nodup)
    (hother : ∀ pointer ∈ pointers,
      pointer ≠ .processCommonEncryption ∧ pointer ≠ .subsampleLengthS)
    (hstatus : status ≠ .ok) :
    Stopped samples ((σ.created pattern pointers).setStatus status) := by
  obtain ⟨-, hinvocations, -⟩ := created_keeps pattern σ
    fun hmem => (hother _ hmem).2 rfl
  exact h.stops (h.created hnodup hother).setStatus hinvocations
    fun hok => absurd (Option.some.inj hok) hstatus

/-- Where an allocation fails, the loop goes on with the next sample, and the lengths of the
subsamples are still there. -/
theorem Reaches.fails (h : Reaches samples i σ)
    (hf : AllocationFails pattern i sample σ.buffers) :
    wp (sendSample pattern i sample) (fun _ _ => False)
      (fun e σ' => e = .byContinue ∧ Stopped samples σ' ∧ σ'.buffers = σ.buffers ∧
        ∃ a, σ'.pointers .subsampleLengthS = some a) σ := by
  obtain ⟨checked, hchecked, hmalloc, hf⟩ := hf
  rw [wp_sendSample, h.sharedCalls, h.heapCalls, h.invokeCalls]
  simp only [hchecked, Except.ok.injEq, forall_eq', hmalloc, reduceCtorEq, false_implies,
    implies_true, forall_const, true_and, and_true, false_and]
  have hends {pointers : List ClientPointer} (hnodup : pointers.Nodup)
      (hother : ∀ pointer ∈ pointers,
        pointer ≠ .processCommonEncryption ∧ pointer ≠ .subsampleLengthS) :
      let σ' := (σ.created pattern pointers).setStatus .internalError
      Stopped samples σ' ∧ σ'.buffers = σ.buffers ∧
        ∃ a, σ'.pointers .subsampleLengthS = some a := by
    obtain ⟨hbuffers, -, hpointer⟩ := created_keeps pattern σ
      fun hmem => (hother _ hmem).2 rfl
    rw [h.heapCalls, hmalloc] at hpointer
    exact ⟨h.stopsCreated hnodup hother nofun, hbuffers,
      Option.ne_none_iff_exists'.1 fun hnone => nomatch hpointer.1 hnone⟩
  refine ⟨fun _ => hends (by decide) (by decide), fun h₁ => ?_⟩
  obtain ⟨hout, hf⟩ := hf.resolve_left (by rw [h₁]; nofun)
  refine ⟨fun _ => ⟨fun _ => hends (by decide) (by decide), fun h₂ => ?_⟩,
    fun status hstatus => nomatch hout.symm.trans hstatus⟩
  obtain ⟨hinp, hf⟩ := hf.resolve_left (by rw [h₂]; nofun)
  refine ⟨fun _ => ⟨fun _ => hends (by decide) (by decide), fun h₃ => nomatch h₃.symm.trans hf⟩,
    fun status hstatus => nomatch hinp.symm.trans hstatus⟩

theorem checkSample_eq_error {buffers : Nat → SaBuffer}
    (h : checkSample sample buffers = .error status) : status ≠ .ok := by
  simp only [checkSample, bind_eq_error] at h
  obtain h | ⟨_, -, h | ⟨_, -, h | ⟨_, -, h | ⟨_, -, h | ⟨_, -, h | ⟨_, -, h | ⟨_, -, h⟩⟩⟩⟩⟩⟩⟩ := h
  · exact requireNonNull_eq_error h
  · exact require_eq_error h (by decide)
  · exact requireNonNull_eq_error h
  · exact requireNonNull_eq_error h
  · exact requireNonNull_eq_error h
  · exact require_eq_error h (by decide)
  · exact require_eq_error h (by decide)
  · cases h

theorem checkBuffer_eq_error {buffer : SaBuffer} (h : checkBuffer buffer = .error status) :
    status ≠ .ok := by
  cases buffer with
  | clear buffer length offset =>
    simp only [checkBuffer, bind_eq_error] at h
    obtain h | ⟨-, -, h⟩ := h
    · exact require_eq_error h (by decide)
    · exact require_eq_error h (by decide)
  | svp buffer offset => cases h
  | other type => cases h

theorem Reaches.stopsInvoked {checked : CheckedByClient} (h : Reaches samples i σ)
    (hs : samples[i]? = some sample) (hchecked : checkSample sample σ.buffers = .ok checked)
    (hne : (pattern.invoke i (.of sample checked σ.buffers)).status ≠ .ok) :
    Stopped samples ((σ.created pattern [.param1, .param2, .param3]).taInvokeCommand pattern i
      (.of sample checked σ.buffers)) := by
  have hcreated : Accounts (σ.created pattern [.param1, .param2, .param3]) :=
    h.created (by decide) (by decide)
  obtain ⟨-, hinvocations, -⟩ := created_keeps pattern σ
    (show ClientPointer.subsampleLengthS ∉ [.param1, .param2, .param3] by decide)
  have hcalls : (σ.created pattern [.param1, .param2, .param3]).invokeCalls = i := by
    simp [SendState.created, h.invokeCalls]
  generalize σ.created pattern [.param1, .param2, .param3] = τ at *
  have htrace : invocations (τ.taInvokeCommand pattern i (.of sample checked σ.buffers)).trace =
      invocations σ.trace ++
        [⟨i, .of sample checked σ.buffers,
          (pattern.invoke i (.of sample checked σ.buffers)).status⟩] := by
    simp [SendState.taInvokeCommand, SendState.log, SendState.setStatus, hcalls, hinvocations]
  refine ⟨hcreated.taInvokeCommand, ⟨i + 1, h.invoked htrace rfl⟩, fun v hv => ?_, ?_,
    fun hok => ?_⟩
  · rw [htrace, List.mem_append, List.mem_singleton] at hv
    rcases hv with hv | rfl
    · exact h.messages v hv
    · exact ⟨sample, σ.buffers, checked, hs, hchecked, rfl⟩
  · rw [htrace, List.dropLast_concat]
    exact h.successful
  · rw [SendState.taInvokeCommand, hcalls] at hok
    exact absurd (Option.some.inj hok) hne

/-- A sample that is neither sent with success nor lacks shared memory ends the loop. -/
theorem Reaches.breaks (h : Reaches samples i σ) (hs : samples[i]? = some sample)
    (hd : ∀ buffers', ¬ Delivers pattern i sample σ.buffers buffers')
    (hf : ¬ AllocationFails pattern i sample σ.buffers) :
    wp (sendSample pattern i sample) (fun _ _ => False)
      (fun e σ' => e = .byBreak ∧ Stopped samples σ') σ := by
  rw [wp_sendSample, h.sharedCalls, h.heapCalls, h.invokeCalls]
  simp only [reduceCtorEq, true_and, false_and]
  refine ⟨fun checked hchecked => ⟨fun _ => h.stopsCreated (by decide) (by decide) nofun,
    fun hmalloc => ⟨fun h₁ => hf ⟨checked, hchecked, hmalloc, .inl h₁⟩, fun h₁ =>
      ⟨fun hout => ⟨fun h₂ => hf ⟨checked, hchecked, hmalloc, .inr ⟨hout, .inl h₂⟩⟩, fun h₂ =>
        ⟨fun hinp => ⟨fun h₃ => hf ⟨checked, hchecked, hmalloc, .inr ⟨hout, .inr ⟨hinp, h₃⟩⟩⟩,
          fun h₃ => ⟨fun hne => ?_, fun hok => ?_⟩⟩, fun status hstatus => ?_⟩⟩,
        fun status hstatus => ?_⟩⟩⟩, fun status hstatus => ?_⟩
  · exact h.stopsInvoked hs hchecked hne
  · exact hd _ ⟨checked, hchecked, hmalloc, h₁, hout, h₂, hinp, h₃, hok, rfl⟩
  · exact h.stopsCreated (by decide) (by decide) (checkBuffer_eq_error hstatus)
  · exact h.stopsCreated (by decide) (by decide) (checkBuffer_eq_error hstatus)
  · exact h.stops h.accounts.setStatus rfl
      fun hok => absurd (Option.some.inj hok) (checkSample_eq_error hstatus)

theorem Leaked.sendSample_of_malloc
    (h : Leaked (σ.malloc pattern .subsampleLengthS) a)
    (hchecked : checkSample sample σ.buffers = .ok checked) :
    wp (sendSample pattern i sample) (fun _ σ' => Leaked σ' a) (fun _ σ' => Leaked σ' a) σ := by
  have hcreated (pointers : List ClientPointer) : Leaked (σ.created pattern pointers) a :=
    h.createAll
  rw [wp_sendSample]
  refine ⟨fun _ _ => ⟨fun _ => (hcreated _).setStatus, fun _ => ⟨fun _ => (hcreated _).setStatus,
    fun _ => ⟨fun _ => ⟨fun _ => (hcreated _).setStatus, fun _ => ⟨fun _ =>
      ⟨fun _ => (hcreated _).setStatus, fun _ => ⟨fun _ => (hcreated _).taInvokeCommand,
        fun _ => ?_⟩⟩, fun _ _ => (hcreated _).setStatus⟩⟩, fun _ _ => (hcreated _).setStatus⟩⟩⟩,
    fun status hstatus => nomatch hchecked.symm.trans hstatus⟩
  exact (hcreated _).taInvokeCommand.finishSample

theorem Leaked.sendSample (h : Leaked σ a) (i : Nat) (sample : SharedSample) :
    wp (sendSample pattern i sample) (fun _ σ' => Leaked σ' a) (fun _ σ' => Leaked σ' a) σ := by
  cases hchecked : checkSample sample σ.buffers with
  | ok checked => exact h.malloc.sendSample_of_malloc hchecked
  | error status =>
    rw [wp_sendSample]
    exact ⟨fun checked hok => (nomatch hchecked.symm.trans hok), fun _ _ => h.setStatus⟩

theorem Leaked.sendSamples (h : Leaked σ a) (i : Nat) (rest : List SharedSample) :
    Leaked (sendSamples pattern i rest σ) a := by
  induction rest generalizing i σ with
  | nil => exact h
  | cons sample rest ih =>
    have hkept : wp (TaSecureApi.sendSample pattern i sample) (fun _ σ' => Leaked σ' a)
        (fun _ σ' => Leaked σ' a) σ := h.sendSample i sample
    have hstate := hkept.state
    rw [TaSecureApi.sendSamples]
    generalize (TaSecureApi.sendSample pattern i sample).run.run σ = r at hstate ⊢
    obtain ⟨(_ | _) | _, σ'⟩ := r
    · exact hstate
    · exact ih hstate (i + 1)
    · exact ih hstate (i + 1)

theorem Accounts.malloc_leaks (h : Accounts σ) (ha : σ.pointers pointer = some a) :
    Leaked (σ.malloc pattern pointer) a := by
  obtain ⟨hallocated, hnotFreed, hothers⟩ := h.leaked ha
  have hcalled := h.called a hallocated
  have hunreachable {b : Option Allocation} (hb : b ≠ some a) (other : ClientPointer) :
      Function.update σ.pointers pointer b other ≠ some a := by
    by_cases hother : other = pointer
    · subst hother
      rwa [Function.update_self]
    · rw [Function.update_of_ne hother]
      exact hothers other hother
  unfold SendState.malloc
  split_ifs
  · refine ⟨?_, ?_, hunreachable fun heq => ?_, hcalled.mono (Nat.le_refl _) (Nat.le_succ _)⟩
    · simp [SendState.log, SendState.point, hallocated]
    · simpa [SendState.log, SendState.point] using hnotFreed
    · obtain rfl := Option.some.inj heq
      exact Nat.lt_irrefl _ hcalled
  · exact ⟨hallocated, hnotFreed, hunreachable nofun, hcalled.mono (Nat.le_refl _) (Nat.le_succ _)⟩

theorem Reaches.leaks {rest : List SharedSample} {buffers : Nat → SaBuffer}
    (hskips : SkipsSample pattern i buffers rest) {before : List SharedSample}
    (h : Reaches (before ++ rest) i σ) (hi : before.length = i) (hbuffers : σ.buffers = buffers) :
    ∃ a, Leaked (TaSecureApi.sendSamples pattern i rest σ) a := by
  induction hskips generalizing before σ with
  | @here i sample buffers next checked rest hfails hchecked =>
    subst hbuffers
    have hwp := h.fails hfails
    rw [TaSecureApi.sendSamples]
    unfold wp at hwp
    generalize (TaSecureApi.sendSample pattern i sample).run.run σ = r at hwp ⊢
    obtain ⟨e | _, σ'⟩ := r
    · obtain ⟨rfl, hstopped, hbuffers, a, ha⟩ := hwp
      have hleaks : Leaked (σ'.malloc pattern .subsampleLengthS) a :=
        hstopped.accounts.malloc_leaks ha
      rw [← hbuffers] at hchecked
      have hstate := (hleaks.sendSample_of_malloc (i := i + 1) hchecked).state
      refine ⟨a, ?_⟩
      simp only [TaSecureApi.sendSamples]
      generalize (TaSecureApi.sendSample pattern (i + 1) next).run.run σ' = r at hstate ⊢
      obtain ⟨(_ | _) | _, τ⟩ := r
      · exact hstate
      · exact hstate.sendSamples _ _
      · exact hstate.sendSamples _ _
    · exact hwp.elim
  | @later i sample buffers buffers' rest hdelivers _ ih =>
    subst hbuffers
    have hs : (before ++ sample :: rest)[i]? = some sample := by
      rw [← hi, List.getElem?_append_right (Nat.le_refl _), Nat.sub_self, List.getElem?_cons_zero]
    have hwp := h.delivers hs hdelivers
    rw [TaSecureApi.sendSamples]
    unfold wp at hwp
    generalize (TaSecureApi.sendSample pattern i sample).run.run σ = r at hwp ⊢
    obtain ⟨e | _, σ'⟩ := r
    · exact hwp.elim
    · obtain ⟨hreaches, hbuffers⟩ := hwp
      rw [List.append_cons] at hreaches
      exact ih hreaches (by rw [List.length_append, hi, List.length_singleton]) hbuffers

theorem Stopped.refused {rest : List SharedSample} (h : Stopped samples σ)
    (hchecked : checkSample sample σ.buffers = .error status) :
    Stopped samples (TaSecureApi.sendSamples pattern i (sample :: rest) σ) := by
  have hne := checkSample_eq_error hchecked
  have hwp : wp (sendSample pattern i sample) (fun _ _ => False)
      (fun e σ' => e = .byBreak ∧ σ' = σ.setStatus status) σ := by
    rw [wp_sendSample]
    refine ⟨fun checked hok => (nomatch hchecked.symm.trans hok), fun e he => ⟨rfl, ?_⟩⟩
    rw [Except.error.inj (hchecked.symm.trans he)]
  rw [TaSecureApi.sendSamples]
  unfold wp at hwp
  generalize (sendSample pattern i sample).run.run σ = r at hwp ⊢
  obtain ⟨e | _, σ'⟩ := r
  · obtain ⟨rfl, rfl⟩ := hwp
    exact ⟨h.accounts.setStatus, h.sends.inOrder, h.sends.messages, h.sends.stops,
      fun hok => absurd (Option.some.inj hok) hne⟩
  · exact hwp.elim

theorem Reaches.sends {before rest : List SharedSample} (h : Reaches (before ++ rest) i σ)
    (hi : before.length = i) (hskips : ¬ SkipsSample pattern i σ.buffers rest) :
    Stopped (before ++ rest) (TaSecureApi.sendSamples pattern i rest σ) := by
  induction rest generalizing before i σ with
  | nil => exact h.stops h.accounts rfl fun _ => by rw [List.append_nil, hi]
  | cons sample rest ih =>
    have hs : (before ++ sample :: rest)[i]? = some sample := by
      rw [← hi, List.getElem?_append_right (Nat.le_refl _), Nat.sub_self, List.getElem?_cons_zero]
    by_cases hd : ∃ buffers', Delivers pattern i sample σ.buffers buffers'
    · obtain ⟨buffers', hd⟩ := hd
      have hwp := h.delivers hs hd
      rw [TaSecureApi.sendSamples]
      unfold wp at hwp
      generalize (sendSample pattern i sample).run.run σ = r at hwp ⊢
      obtain ⟨e | _, σ'⟩ := r
      · exact hwp.elim
      · obtain ⟨hreaches, hbuffers⟩ := hwp
        rw [List.append_cons] at hreaches ⊢
        apply ih hreaches
        · rw [List.length_append, hi, List.length_singleton]
        · exact fun hlater => hskips (.later hd (hbuffers ▸ hlater))
    · by_cases hf : AllocationFails pattern i sample σ.buffers
      · have hwp := h.fails hf
        rw [TaSecureApi.sendSamples]
        unfold wp at hwp
        generalize (sendSample pattern i sample).run.run σ = r at hwp ⊢
        obtain ⟨e | _, σ'⟩ := r
        · obtain ⟨rfl, hstopped, hbuffers, -⟩ := hwp
          cases rest with
          | nil => exact hstopped
          | cons next rest =>
            cases hchecked : checkSample next σ.buffers with
            | ok checked => exact absurd (.here hf hchecked) hskips
            | error status => exact hstopped.refused (hbuffers ▸ hchecked)
        · exact hwp.elim
      · have hwp := h.breaks hs (not_exists.1 hd) hf
        rw [TaSecureApi.sendSamples]
        unfold wp at hwp
        generalize (sendSample pattern i sample).run.run σ = r at hwp ⊢
        obtain ⟨e | _, σ'⟩ := r
        · obtain ⟨rfl, hstopped⟩ := hwp
          exact hstopped
        · exact hwp.elim

theorem Stopped.releaseAll (h : Stopped samples σ) :
    SendsEach samples σ.releaseAll ∧ ReleasesEach σ.releaseAll.trace := by
  have hinvocations : invocations σ.releaseAll.trace = invocations σ.trace := by
    simp [SendState.releaseAll]
  have hstatus : σ.releaseAll.status = σ.status := by simp [SendState.releaseAll]
  refine ⟨⟨?_, ?_, ?_, ?_⟩, h.accounts.release.release.release.release.release.releasesEach ?_⟩
  · rw [hinvocations]
    exact h.sends.inOrder
  · rw [hinvocations]
    exact h.sends.messages
  · rw [hinvocations]
    exact h.sends.stops
  · rw [hinvocations, hstatus]
    exact h.sends.complete
  · intro pointer
    cases pointer <;> simp

end Passes

theorem Accounts.start (buffers : Nat → SaBuffer) : Accounts (.start buffers) where
  exact := {
    total := nofun
    issued := fun place a h => by cases place <;> cases h
    unique := fun place _ a _ h => by cases place <;> cases h }
  distinct := .nil
  freedOnce := .nil
  called := nofun

theorem Stopped.start {samples : List SharedSample} {status : SaStatus} (hstatus : status ≠ .ok)
    (h : Accounts σ) (hinvocations : invocations σ.trace = []) :
    Stopped samples (σ.setStatus status) where
  accounts := h.setStatus
  sends := {
    inOrder := ⟨0, by
      change (invocations σ.trace).map _ = _
      rw [hinvocations]
      rfl⟩
    messages := by
      change ∀ v ∈ invocations σ.trace, _
      rw [hinvocations]
      nofun
    stops := by
      change ∀ v ∈ (invocations σ.trace).dropLast, _
      rw [hinvocations]
      nofun
    complete := fun hok => absurd (Option.some.inj hok) hstatus }

end Programs

theorem Leaked.releaseAll {σ : SendState} {a : Allocation} (h : Leaked σ a) :
    Leaked σ.releaseAll a :=
  h.release.release.release.release.release

theorem Reaches.start (samples : List SharedSample) (pattern : ClientPattern)
    (buffers : Nat → SaBuffer) :
    Reaches samples 0
      ((SendState.start buffers).taAllocSharedMemory pattern .processCommonEncryption) where
  accounts := (Accounts.start buffers).taAllocSharedMemory rfl
  cleared pointer hpointer := taAllocSharedMemory_pointer_of_ne hpointer
  sharedCalls := taAllocSharedMemory_sharedCalls
  heapCalls := taAllocSharedMemory_heapCalls
  invokeCalls := taAllocSharedMemory_invokeCalls
  inOrder := by
    rw [taAllocSharedMemory_invocations]
    rfl
  successful := by
    rw [taAllocSharedMemory_invocations]
    nofun
  messages := by
    rw [taAllocSharedMemory_invocations]
    nofun

theorem sends_setStatus (samples : List SharedSample) (buffers : Nat → SaBuffer)
    {status : SaStatus} (hstatus : status ≠ .ok) :
    SendsEach samples ((SendState.start buffers).setStatus status) ∧
      ReleasesEach ((SendState.start buffers).setStatus status).trace :=
  ⟨(Stopped.start hstatus (Accounts.start buffers) rfl).sends,
    (Accounts.start buffers).releasesEach fun _ => rfl⟩

/-- The client sends each sample and releases each allocation exactly unless the first sample that
fails does so for want of shared memory and the checks let the sample behind it pass. -/
theorem saProcessCommonEncryption_sends_exact (pattern : ClientPattern)
    (samples : List SharedSample) (buffers : Nat → SaBuffer) :
    (SendsEach samples (saProcessCommonEncryption pattern (some samples) buffers) ∧
      ReleasesEach (saProcessCommonEncryption pattern (some samples) buffers).trace) ↔
    ¬ (pattern.session = true ∧ pattern.sharedMemory 0 = true ∧
      SkipsSample pattern 0 buffers samples) := by
  simp only [saProcessCommonEncryption]
  split_ifs with hlength hsession
  · obtain rfl := List.length_eq_zero_iff.1 (Nat.lt_one_iff.1 hlength)
    exact ⟨fun _ h => (nomatch h.2.2), fun _ => sends_setStatus _ _ nofun⟩
  · exact ⟨fun _ h => (nomatch h.1.symm.trans hsession), fun _ => sends_setStatus _ _ nofun⟩
  · have hreaches := Reaches.start samples pattern buffers
    have hwp : wp (createParam pattern .processCommonEncryption)
        (fun _ σ => pattern.sharedMemory 0 = true ∧
          σ = (SendState.start buffers).taAllocSharedMemory pattern .processCommonEncryption)
        (fun _ σ => pattern.sharedMemory 0 = false ∧ Stopped samples σ) (.start buffers) :=
      wp_createParam.2
        ⟨fun h => ⟨h, .start nofun hreaches.accounts taAllocSharedMemory_invocations⟩,
          fun h => ⟨h, rfl⟩⟩
    unfold wp at hwp
    generalize (createParam pattern .processCommonEncryption).run.run (.start buffers) = r at hwp ⊢
    obtain ⟨e | _, σ⟩ := r
    · obtain ⟨hfalse, hstopped⟩ := hwp
      exact ⟨fun _ h => (nomatch h.2.1.symm.trans hfalse), fun _ => hstopped.releaseAll⟩
    · obtain ⟨htrue, rfl⟩ := hwp
      have hbuffers : ((SendState.start buffers).taAllocSharedMemory pattern
          .processCommonEncryption).buffers = buffers := taAllocSharedMemory_buffers
      have hfirst : Reaches ([] ++ samples) 0
          ((SendState.start buffers).taAllocSharedMemory pattern .processCommonEncryption) :=
        hreaches
      constructor
      · intro ⟨_, hreleases⟩ ⟨_, _, hskips⟩
        obtain ⟨a, hleaked⟩ := Reaches.leaks hskips hfirst rfl hbuffers
        exact ReleasesEach.not_of_leaked hleaked.releaseAll hreleases
      · intro hnot
        have hskips : ¬ SkipsSample pattern 0 buffers samples :=
          fun hskips => hnot ⟨Bool.not_eq_false _ ▸ hsession, htrue, hskips⟩
        rw [← hbuffers] at hskips
        exact (hfirst.sends rfl hskips).releaseAll

def oneBlockSample : SharedSample where
  iv := some ⟨0, 0⟩
  ivLength := 16
  cryptByteBlock := 0
  skipByteBlock := 0
  subsampleLengths := some [⟨0, 16⟩]
  context := 0
  out := some 0
  inp := some 1

/-- The second call of `ta_alloc_shared_memory` fails, and everything else succeeds. -/
def secondAllocationFails : ClientPattern where
  session := true
  sharedMemory call := call ≠ 1
  malloc _ := true
  invoke _ _ := ⟨.ok, 16, 16⟩

/-- Of two samples the first is not sent, and the call succeeds. -/
theorem saProcessCommonEncryption_skips :
    let r := saProcessCommonEncryption secondAllocationFails (some [oneBlockSample, oneBlockSample])
      fun _ => .clear 4096 32 0
    r.status = some .ok ∧ (invocations r.trace).map (·.sample) = [1] ∧
      ¬ SendsEach [oneBlockSample, oneBlockSample] r ∧ ¬ ReleasesEach r.trace := by
  intro r
  have hsent : (invocations r.trace).map (·.sample) = [1] := by decide +kernel
  have hfreed : .heap 0 ∈ allocations r.trace ∧ (frees r.trace).count (.heap 0) = 0 := by
    decide +kernel
  refine ⟨by decide +kernel, hsent, fun h => ?_, fun h => ?_⟩
  · obtain ⟨n, hn⟩ := h.inOrder
    rw [hsent] at hn
    have hlength := congrArg List.length hn
    rw [List.length_range] at hlength
    subst hlength
    cases hn
  · have hone := h.once _ hfreed.1
    rw [hfreed.2] at hone
    cases hone

end TaSecureApi
