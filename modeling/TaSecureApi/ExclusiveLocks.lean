import TaSecureApi.Lib.Locks
import Mathlib.Algebra.Group.Fin.Basic
import Mathlib.Data.Fintype.EquivFin
import Mathlib.Data.Fintype.Lattice

namespace TaSecureApi
set_option autoImplicit true
open Transition Locks Function

/-- The mutexes of the ciphers and of the SVP buffers of a client, by the handles. -/
inductive Mutex
  | cipher (context : Nat)
  | svp (svpBuffer : Nat)
  deriving DecidableEq

/-- Which handles are those of objects of the client. -/
structure Handles where
  ciphers : Nat → Bool
  svps : Nat → Bool

/-- A buffer of a command: an SVP buffer, or clear memory, and whether the checks of its conversion
pass. -/
structure LockedBuffer where
  svpBuffer : Option Nat
  converts : Bool

/-- How the checks end that `ta_sa_crypto_cipher_process` makes with the cipher in its hands: they
pass, or leave the block for the releases, or return without them. -/
inductive CipherChecks
  | pass
  | leave
  | skipReleases

/-- A sample of common encryption, with the outcomes of the checks of `verify_sample` and of
`cenc_process_sample`. Each of the two converts the buffers for itself. -/
structure LockedSample where
  accepted : Bool
  context : Nat
  permitted : Bool
  outVerifies : Bool
  inVerifies : Bool
  separate : Bool
  lengthFits : Bool
  out : LockedBuffer
  inp : LockedBuffer
  decrypts : Bool

/-- The commands that take these locks, with the outcomes of what they check. -/
inductive LockCommand
  | cipherProcess (context : Nat) (checks : CipherChecks) (out inp : LockedBuffer)
  | cipherProcessLast (context : Nat) (checks : CipherChecks) (out inp : LockedBuffer)
  | processCommonEncryption (samples : List LockedSample)
  | svpBufferWrite (out : Nat)
  | svpBufferCopy (out inp : Nat)
  | svpBufferCheck (svpBuffer : Nat)
  | svpKeyCheck (allowed : Bool) (inp : LockedBuffer)

section Commands

variable (handles : Handles)

/-- `svp_store_acquire_exclusive`, what is done with the buffer, and the release. -/
def withSvp (svpBuffer : Nat) (body : List (Op Mutex)) : List (Op Mutex) :=
  if handles.svps svpBuffer then exclusively (.svp svpBuffer) body else []

/-- `cipher_store_acquire_exclusive`, what is done with the cipher, and the release. -/
def withCipher (context : Nat) (body : List (Op Mutex)) : List (Op Mutex) :=
  if handles.ciphers context then exclusively (.cipher context) body else []

/-- `convert_buffer`, what is done after it, and the release. An SVP buffer whose checks fail is
locked before they do. -/
def withBuffer (buffer : LockedBuffer) (body : List (Op Mutex)) : List (Op Mutex) :=
  let checked := if buffer.converts then body else []
  match buffer.svpBuffer with
  | none => checked
  | some svpBuffer => withSvp handles svpBuffer checked

def convertBoth (out inp : LockedBuffer) : List (Op Mutex) :=
  withBuffer handles out (withBuffer handles inp [])

/-- `ta_sa_crypto_cipher_process`. -/
def cipherProcess (context : Nat) (checks : CipherChecks) (out inp : LockedBuffer) :
    List (Op Mutex) :=
  match checks with
  | .pass => withCipher handles context (convertBoth handles out inp)
  | .leave => withCipher handles context []
  | .skipReleases => if handles.ciphers context then [.acquire (.cipher context)] else []

/-- `ta_sa_crypto_cipher_process_last`. -/
def cipherProcessLast := cipherProcess handles

def LockedBuffer.converted (buffer : LockedBuffer) : Bool :=
  buffer.svpBuffer.all handles.svps && buffer.converts

/-- The output as `verify_sample` converts it. -/
def LockedSample.verifiedOut (sample : LockedSample) : LockedBuffer :=
  { sample.out with converts := sample.outVerifies }

/-- The input as `verify_sample` converts it. -/
def LockedSample.verifiedInp (sample : LockedSample) : LockedBuffer :=
  { sample.inp with converts := sample.inVerifies }

/-- `verify_sample`, with the cipher in its hands. -/
def verifySampleLocks (sample : LockedSample) : List (Op Mutex) :=
  if sample.accepted then
    withCipher handles sample.context
      (if sample.permitted then convertBoth handles sample.verifiedOut sample.verifiedInp else [])
  else []

/-- `verify_sample` returns `SA_STATUS_OK`. -/
def LockedSample.verified (sample : LockedSample) : Bool :=
  sample.accepted && handles.ciphers sample.context && sample.permitted &&
    sample.verifiedOut.converted handles && sample.verifiedInp.converted handles &&
    sample.separate

/-- The loop of `verify_sample`. -/
def verifySamples : List LockedSample → List (Op Mutex)
  | [] => []
  | sample :: samples =>
    verifySampleLocks handles sample ++
    if sample.verified handles then verifySamples samples else []

/-- `cenc_process_sample` comes to its end. -/
def LockedSample.processed (sample : LockedSample) : Bool :=
  handles.ciphers sample.context && sample.lengthFits && sample.out.converted handles &&
    sample.inp.converted handles && sample.decrypts

/-- The loop of `cenc_process_sample`. -/
def processSamples : List LockedSample → List (Op Mutex)
  | [] => []
  | sample :: samples =>
    withCipher handles sample.context
      (if sample.lengthFits then convertBoth handles sample.out sample.inp else []) ++
    if sample.processed handles then processSamples samples else []

def lockOps : LockCommand → List (Op Mutex)
  | .cipherProcess context checks out inp => cipherProcess handles context checks out inp
  | .cipherProcessLast context checks out inp => cipherProcessLast handles context checks out inp
  | .processCommonEncryption samples =>
    verifySamples handles samples ++
    if samples.all (·.verified handles) then processSamples handles samples else []
  | .svpBufferWrite out => withSvp handles out []
  | .svpBufferCopy out inp => withSvp handles out (withSvp handles inp [])
  | .svpBufferCheck svpBuffer => withSvp handles svpBuffer []
  | .svpKeyCheck allowed inp => if allowed then withBuffer handles inp [] else []

end Commands

/-- The lock of an input buffer that is taken with that of an output buffer in hand, and perhaps
that of a cipher. -/
structure Transfer where
  cipher : Option Nat
  out : Nat
  inp : Nat

section Transfers

variable (handles : Handles)

/-- The transfer of the conversions of two buffers, where they get to the second lock. -/
def bufferTransfers (cipher : Option Nat) (out inp : LockedBuffer) : List Transfer :=
  match out.svpBuffer, inp.svpBuffer with
  | some o, some i =>
    if handles.svps o ∧ out.converts ∧ handles.svps i then [⟨cipher, o, i⟩] else []
  | _, _ => []

/-- The transfers of the samples that are verified, and of the one that fails. -/
def verifyTransfers : List LockedSample → List Transfer
  | [] => []
  | sample :: samples =>
    (if sample.accepted ∧ handles.ciphers sample.context ∧ sample.permitted then
      bufferTransfers handles (some sample.context) sample.verifiedOut sample.verifiedInp
      else []) ++
    if sample.verified handles then verifyTransfers samples else []

/-- The transfers of the samples that are processed, and of the one that fails. -/
def sampleTransfers : List LockedSample → List Transfer
  | [] => []
  | sample :: samples =>
    (if handles.ciphers sample.context ∧ sample.lengthFits then
      bufferTransfers handles (some sample.context) sample.out sample.inp else []) ++
    if sample.processed handles then sampleTransfers samples else []

def transfers : LockCommand → List Transfer
  | .cipherProcess context .pass out inp | .cipherProcessLast context .pass out inp =>
    if handles.ciphers context then bufferTransfers handles (some context) out inp else []
  | .processCommonEncryption samples =>
    verifyTransfers handles samples ++
    if samples.all (·.verified handles) then sampleTransfers handles samples else []
  | .svpBufferCopy out inp => bufferTransfers handles none ⟨some out, true⟩ ⟨some inp, true⟩
  | _ => []

local instance (priority := 2000) neZeroSucc (n : Nat) : @NeZero Nat Zero.ofOfNat0 (n + 1) :=
  ⟨n.succ_ne_zero⟩

/-- Commands whose transfers make a circle: the input of each is the output of the next, and no two
of them have the same cipher. -/
def CircularTransfers {Agent : Type} (commands : Agent → LockCommand) : Prop :=
  ∃ (n : Nat) (f : Fin (n + 1) → Agent) (t : Agent → Transfer), ∀ i,
    t (f i) ∈ transfers handles (commands (f i)) ∧ (t (f i)).out ≠ (t (f i)).inp ∧
    (t (f i)).inp = (t (f (i + 1))).out ∧
    ∀ j c, (t (f i)).cipher = some c → (t (f j)).cipher = some c → f i = f j

/-- The situations in which a command requests a lock: the lock of a cipher with nothing in hand,
that of an SVP buffer with ciphers only, and that of the input of a transfer with its output, too.
-/
def Requests (command : LockCommand) (held : Mutex → Nat) : Mutex → Prop
  | .cipher _ => ∀ m, held m = 0
  | .svp s =>
    (∀ m, 0 < held m → ∃ c, m = .cipher c) ∨
    ∃ t ∈ transfers handles command, t.inp = s ∧
      (∀ m, 0 < held m → m = .svp t.out ∨ ∃ c, m = .cipher c) ∧
      ∀ c, t.cipher = some c → 0 < held (.cipher c)

end Transfers

section Blocks

variable {handles : Handles} {command : LockCommand} {h : Mutex → Nat} {body : List (Op Mutex)}

theorem after_withSvp (hbody : ∀ h, after h body = h) (h : Mutex → Nat) :
    after h (withSvp handles svpBuffer body) = h := by
  unfold withSvp
  split_ifs
  · exact after_exclusively hbody h
  · rfl

theorem after_withCipher (hbody : ∀ h, after h body = h) (h : Mutex → Nat) :
    after h (withCipher handles context body) = h := by
  unfold withCipher
  split_ifs
  · exact after_exclusively hbody h
  · rfl

theorem after_withBuffer (hbody : ∀ h, after h body = h) (h : Mutex → Nat) :
    after h (withBuffer handles buffer body) = h := by
  have hchecked (h : Mutex → Nat) : after h (if buffer.converts then body else []) = h := by
    split_ifs
    · exact hbody h
    · rfl
  unfold withBuffer
  dsimp only
  split
  · exact hchecked h
  · exact after_withSvp hchecked h

theorem after_convertBoth (h : Mutex → Nat) : after h (convertBoth handles out inp) = h := by
  apply after_withBuffer
  intro h
  exact after_withBuffer (fun _ => rfl) h

theorem requests_withSvp
    (hrequest : handles.svps svpBuffer = true → Requests handles command h (.svp svpBuffer))
    (hbody : handles.svps svpBuffer = true → AllRequests (Requests handles command)
      (update h (.svp svpBuffer) (h (.svp svpBuffer) + 1)) body) :
    AllRequests (Requests handles command) h (withSvp handles svpBuffer body) := by
  unfold withSvp
  split_ifs with hvalid
  · exact allRequests_exclusively (hrequest hvalid) (hbody hvalid)
  · trivial

theorem requests_withCipher
    (hbody : handles.ciphers context = true → AllRequests (Requests handles command)
      (update (fun _ => 0) (.cipher context) 1) body) :
    AllRequests (Requests handles command) (fun _ => 0) (withCipher handles context body) := by
  unfold withCipher
  split_ifs with hvalid
  · exact allRequests_exclusively (fun _ => rfl) (hbody hvalid)
  · trivial

theorem requests_withBuffer (hrequest : ∀ s, buffer.svpBuffer = some s →
    handles.svps s = true → Requests handles command h (.svp s)) :
    AllRequests (Requests handles command) h (withBuffer handles buffer []) := by
  unfold withBuffer
  dsimp only
  split
  · split_ifs
    · trivial
    · trivial
  · rename_i s hs
    apply requests_withSvp (hrequest s hs)
    intro _
    split_ifs
    · trivial
    · trivial

theorem requests_convertBoth (hheld : ∀ m, 0 < h m → ∃ c, m = .cipher c)
    (hcipher : ∀ c, cipher = some c → 0 < h (.cipher c))
    (ht : ∀ t ∈ bufferTransfers handles cipher out inp, t ∈ transfers handles command) :
    AllRequests (Requests handles command) h (convertBoth handles out inp) := by
  unfold convertBoth
  rw [withBuffer]
  cases hout : out.svpBuffer with
  | none =>
    dsimp only
    split_ifs
    · exact requests_withBuffer fun s _ _ => .inl hheld
    · trivial
  | some o =>
    dsimp only
    apply requests_withSvp fun _ => .inl hheld
    intro hvalid
    split_ifs with hconverts
    · apply requests_withBuffer
      intro i hinp hvalid'
      have hmem : (⟨cipher, o, i⟩ : Transfer) ∈ transfers handles command := by
        apply ht
        simp [bufferTransfers, hout, hinp, hvalid, hconverts, hvalid']
      refine .inr ⟨_, hmem, rfl, ?_, ?_⟩
      · intro m hm
        by_cases hmo : m = .svp o
        · exact .inl hmo
        · rw [update_of_ne hmo] at hm
          exact .inr (hheld m hm)
      · intro c hc
        rw [update_of_ne (by simp)]
        exact hcipher c hc
    · trivial

theorem held_cipher (c : Nat) (m : Mutex)
    (hm : 0 < update (fun _ => 0) (.cipher c) 1 m) : ∃ c, m = .cipher c := by
  by_cases hmc : m = .cipher c
  · exact ⟨c, hmc⟩
  · rw [update_of_ne hmc] at hm
    exact absurd hm (Nat.lt_irrefl 0)

theorem held_self (hc : some context = some c) :
    0 < update (fun _ => 0) (Mutex.cipher context) 1 (.cipher c) := by
  cases hc
  simp

theorem after_verifySampleLocks (h : Mutex → Nat) (sample : LockedSample) :
    after h (verifySampleLocks handles sample) = h := by
  have hbody (h : Mutex → Nat) : after h (if sample.permitted then
      convertBoth handles sample.verifiedOut sample.verifiedInp else []) = h := by
    split_ifs
    · exact after_convertBoth h
    · rfl
  unfold verifySampleLocks
  split
  · exact after_withCipher hbody h
  · rfl

theorem after_verifySamples (h : Mutex → Nat) (samples : List LockedSample) :
    after h (verifySamples handles samples) = h := by
  induction samples with
  | nil => rfl
  | cons sample samples ih =>
    rw [verifySamples, after_append, after_verifySampleLocks]
    split_ifs
    · exact ih
    · rfl

theorem requests_verifySampleLocks {sample : LockedSample}
    (ht : sample.accepted ∧ handles.ciphers sample.context ∧ sample.permitted →
      ∀ t ∈ bufferTransfers handles (some sample.context) sample.verifiedOut sample.verifiedInp,
        t ∈ transfers handles command) :
    AllRequests (Requests handles command) (fun _ => 0) (verifySampleLocks handles sample) := by
  unfold verifySampleLocks
  split
  · rename_i haccepted
    apply requests_withCipher
    intro hvalid
    split_ifs with hpermitted
    · apply requests_convertBoth (held_cipher sample.context) fun c hc => held_self hc
      exact ht ⟨haccepted, hvalid, hpermitted⟩
    · trivial
  · trivial

theorem requests_verifySamples {samples : List LockedSample}
    (ht : ∀ t ∈ verifyTransfers handles samples, t ∈ transfers handles command) :
    AllRequests (Requests handles command) (fun _ => 0) (verifySamples handles samples) := by
  induction samples with
  | nil => trivial
  | cons sample samples ih =>
    rw [verifySamples, allRequests_append, after_verifySampleLocks]
    rw [verifyTransfers] at ht
    constructor
    · apply requests_verifySampleLocks
      intro hreached t hmem
      apply ht t
      rw [if_pos hreached]
      exact List.mem_append_left _ hmem
    · split_ifs with hverified
      · apply ih
        intro t hmem
        apply ht t
        rw [if_pos hverified]
        exact List.mem_append_right _ hmem
      · trivial

theorem requests_processSamples {samples : List LockedSample}
    (ht : ∀ t ∈ sampleTransfers handles samples, t ∈ transfers handles command) :
    AllRequests (Requests handles command) (fun _ => 0) (processSamples handles samples) := by
  induction samples with
  | nil => trivial
  | cons sample samples ih =>
    have hbody (h : Mutex → Nat) : after h (if sample.lengthFits then
        convertBoth handles sample.out sample.inp else []) = h := by
      split_ifs
      · exact after_convertBoth h
      · rfl
    rw [processSamples, allRequests_append, after_withCipher hbody]
    rw [sampleTransfers] at ht
    constructor
    · apply requests_withCipher
      intro hvalid
      split_ifs with hfits
      · apply requests_convertBoth (held_cipher sample.context) fun c hc => held_self hc
        intro t hmem
        apply ht t
        rw [if_pos ⟨hvalid, hfits⟩]
        exact List.mem_append_left _ hmem
      · trivial
    · split_ifs with hprocessed
      · apply ih
        intro t hmem
        apply ht t
        rw [if_pos hprocessed]
        exact List.mem_append_right _ hmem
      · trivial

theorem requests_cipherProcess
    (ht : ∀ t ∈ (if handles.ciphers context then
      bufferTransfers handles (some context) out inp else []), checks = .pass →
      t ∈ transfers handles command) :
    AllRequests (Requests handles command) (fun _ => 0)
      (cipherProcess handles context checks out inp) := by
  unfold cipherProcess
  split
  · apply requests_withCipher
    intro hvalid
    rw [if_pos hvalid] at ht
    apply requests_convertBoth (held_cipher context) fun c hc => held_self hc
    intro t hmem
    exact ht t hmem rfl
  · exact requests_withCipher fun _ => trivial
  · split_ifs
    · exact ⟨fun _ => rfl, trivial⟩
    · trivial

theorem requests_lockOps (command : LockCommand) :
    AllRequests (Requests handles command) (fun _ => 0) (lockOps handles command) := by
  have hfree (m : Mutex) (hm : 0 < (fun _ => 0 : Mutex → Nat) m) : ∃ c, m = .cipher c :=
    absurd hm (Nat.lt_irrefl 0)
  cases command with
  | cipherProcess context checks out inp =>
    apply requests_cipherProcess
    rintro t ht rfl
    exact ht
  | cipherProcessLast context checks out inp =>
    apply requests_cipherProcess
    rintro t ht rfl
    exact ht
  | processCommonEncryption samples =>
    rw [lockOps, allRequests_append, after_verifySamples]
    constructor
    · apply requests_verifySamples
      intro t ht
      exact List.mem_append_left _ ht
    · split_ifs with hverified
      · apply requests_processSamples
        intro t ht
        rw [transfers, if_pos hverified]
        exact List.mem_append_right _ ht
      · trivial
  | svpBufferWrite out => exact requests_withSvp (fun _ => .inl hfree) fun _ => trivial
  | svpBufferCopy out inp =>
    have hboth : lockOps handles (.svpBufferCopy out inp) =
        convertBoth handles ⟨some out, true⟩ ⟨some inp, true⟩ := rfl
    rw [hboth]
    exact requests_convertBoth hfree (by simp) fun t ht => ht
  | svpBufferCheck svpBuffer => exact requests_withSvp (fun _ => .inl hfree) fun _ => trivial
  | svpKeyCheck allowed inp =>
    rw [lockOps]
    split_ifs
    · exact requests_withBuffer fun s _ _ => .inl hfree
    · trivial

end Blocks

/-- In a deadlock, every command waits for the input of a transfer with its output in hand. -/
theorem circularTransfers_of_deadlock {Agent : Type} [Fintype Agent] [DecidableEq Agent]
    {handles : Handles} {commands : Agent → LockCommand} {σ : State Agent Mutex}
    (hallowed : σ.Allowed fun a => Requests handles (commands a)) (hexclusive : σ.Exclusive)
    (hdeadlock : σ.Deadlock) : CircularTransfers handles commands := by
  obtain ⟨n, f, hwait⟩ := hdeadlock
  choose l hne hrest hheld using hwait
  have hrequest (i : Fin (n + 1)) : Requests handles (commands (f i)) (σ.holds (f i)) (l i) := by
    obtain ⟨ops, hops⟩ := hrest i
    have h := hallowed (f i)
    rw [hops] at h
    exact h.1
  have hown (i : Fin (n + 1)) : 0 < σ.holds (f i) (l (i - 1)) := by
    have h := hheld (i - 1)
    rwa [sub_add_cancel] at h
  -- whoever waits for a cipher holds nothing, and is not waited for
  have hsvp (i : Fin (n + 1)) : ∃ s, l i = .svp s := by
    cases hl : l i with
    | svp s => exact ⟨s, rfl⟩
    | cipher c =>
      have hfree := hrequest i
      rw [hl] at hfree
      exact absurd (hfree _) (Nat.ne_of_gt (hown i))
  choose s hs using hsvp
  have htransfer (a : Agent) : ∃ t : Transfer, ∀ i, f i = a →
      t ∈ transfers handles (commands a) ∧ t.inp = s i ∧ t.out = s (i - 1) ∧
      ∀ c, t.cipher = some c → 0 < σ.holds a (.cipher c) := by
    by_cases ha : ∃ i, f i = a
    · obtain ⟨i, rfl⟩ := ha
      have hi := hrequest i
      rw [hs] at hi
      obtain hcipher | ⟨t, ht, hinp, hout, hcipher⟩ := hi
      · obtain ⟨c, hc⟩ := hcipher _ (hown i)
        rw [hs] at hc
        cases hc
      · refine ⟨t, fun j hj => ⟨ht, ?_, ?_, hcipher⟩⟩
        · -- an agent waits for one lock only
          obtain ⟨ops, hops⟩ := hrest i
          obtain ⟨ops', hops'⟩ := hrest j
          rw [hj, hops, hs, hs] at hops'
          rw [hinp]
          exact Mutex.svp.inj (Op.acquire.inj (List.cons.inj hops').1)
        · have hj' := hown j
          rw [hj, hs] at hj'
          obtain h | ⟨c, hc⟩ := hout _ hj'
          · exact (Mutex.svp.inj h).symm
          · cases hc
    · exact ⟨⟨none, 0, 0⟩, fun i hi => absurd ⟨i, hi⟩ ha⟩
  choose t ht using htransfer
  refine ⟨n, f, t, fun i => ?_⟩
  obtain ⟨hmem, hinp, hout, hcipher⟩ := ht (f i) i rfl
  obtain ⟨-, -, hout', -⟩ := ht (f (i + 1)) (i + 1) rfl
  refine ⟨hmem, ?_, ?_, ?_⟩
  · intro heq
    have h₁ := hown i
    have h₂ := hheld i
    rw [hs, ← hout, heq, hinp] at h₁
    rw [hs] at h₂
    exact hne i (hexclusive _ _ _ h₁ h₂)
  · rw [hinp, hout', add_sub_cancel_right]
  · intro j c hc hc'
    exact hexclusive _ _ _ (hcipher c hc) ((ht (f j) j rfl).2.2.2 c hc')

theorem not_circularTransfers_of_lt {Agent : Type} {handles : Handles}
    {commands : Agent → LockCommand}
    (hlt : ∀ a, ∀ t ∈ transfers handles (commands a), t.out < t.inp) :
    ¬ CircularTransfers handles commands := by
  rintro ⟨n, f, t, hcircle⟩
  obtain ⟨i, hi⟩ := Finite.exists_max fun i => (t (f i)).out
  obtain ⟨hmem, -, hnext, -⟩ := hcircle i
  have hlt := hlt (f i) (t (f i)) hmem
  rw [hnext] at hlt
  exact absurd (hi (i + 1)) (Nat.not_le.2 hlt)

def twoBuffers : Handles := ⟨fun _ => false, fun svpBuffer => svpBuffer < 2⟩

end TaSecureApi
