import TaSecureApi.ProviderCipherChunks

namespace TaSecureApi
set_option autoImplicit true

variable {Session : Type}

/-- What the calls of `sa_crypto_cipher_process` and `sa_crypto_cipher_process_last` came to. -/
abbrev CipherCalls := List (Except SaStatus (List UInt8))

def CipherApi.recording (api : CipherApi Session) : CipherApi (Session × CipherCalls) where
  init start := (api.init start).map (·, [])
  process session room input :=
    let (result, session') := api.process session.1 room input
    (result, session', session.2 ++ [result])
  processLast session room input tag :=
    let (result, session') := api.processLast session.1 room input tag
    (result, session', session.2 ++ [result.map Prod.fst])

def ProviderCipherContext.unrecorded (c : ProviderCipherContext Session) :
    ProviderCipherContext (Session × CipherCalls) :=
  { c with cipherContext := c.cipherContext.map (·, []) }

/-- What `cipher_cipher` returns, what `*outl` is afterwards, and the calls that were made. -/
structure CipherReport where
  result : Bool
  outl : Option Nat
  calls : CipherCalls

def failedCall : Except SaStatus (List UInt8) → Bool
  | .ok _ => false
  | .error _ => true

def written (calls : CipherCalls) : Nat :=
  (calls.map fun call => match call with | .ok out => out.length | .error _ => 0).sum

/-- A call succeeds only where each call that it made did, and reports what they wrote; otherwise it
reports nothing. -/
def ReportsCalls : Option CipherReport → Prop
  | none => False
  | some report =>
    (report.result = true → (∀ call ∈ report.calls, failedCall call = false) ∧
      report.outl = some (written report.calls)) ∧
    (report.result = false → ∀ outl, report.outl = some outl → outl = 0)

namespace ProviderCipherContext

variable (api : CipherApi Session) (c : ProviderCipherContext Session)

/-- The session of a call, where there is a key, and a context is there or can be made. -/
def opened (outsize : Option Nat) (input : Option (List UInt8)) :
    Option (ProviderCipherContext (Session × CipherCalls) × Session) := do
  let key ← c.key
  let aad := if outsize.isNone then input.getD [] else []
  let c ← openSession api.recording c.unrecorded key aad
  let session ← c.cipherContext
  pure (c, session.1)

/-- `cipher_cipher` with the variable `*outl`, which a call that breaks off before it has a context
leaves as it was. -/
def report (outl outsize : Option Nat) (input : Option (List UInt8)) : Option CipherReport :=
  match outl with
  | none => some ⟨false, none, []⟩
  | some outl =>
    match c.opened api outsize input with
    | none => some ⟨false, some outl, []⟩
    | some (c, session) =>
      (proceed api.recording c (session, []) outsize input).map fun r =>
        ⟨r.result, some r.outl, r.context.cipherContext.elim [] Prod.snd⟩

/-- The first call, for the block that was pending, fails, and a second one, for the whole blocks
behind it, does not. -/
def Masked (session : Session) (outsize : Option Nat) (input : Option (List UInt8)) : Prop :=
  ∃ room data status session' output session'',
    outsize = some room ∧ input = some data ∧ 0 < c.remainingBlock.length ∧
    c.blockSize + 16 ≤ c.remainingBlock.length + data.length ∧
    api.process session room
      (c.remainingBlock ++ data.take (16 - c.remainingBlock.length)) = (.error status, session') ∧
    api.process session' room
      ((data.drop (16 - c.remainingBlock.length)).take
        ((data.length - (16 - c.remainingBlock.length)) / c.blockSize * c.blockSize)) =
      (.ok output, session'')

end ProviderCipherContext

theorem recording_init {api : CipherApi Session} {session : Session × CipherCalls}
    (h : api.recording.init begun = .ok session) : session = (session.1, []) := by
  change (api.init begun).map (·, []) = .ok session at h
  cases hinit : api.init begun with
  | error e =>
    rw [hinit] at h
    nomatch h
  | ok opened =>
    rw [hinit] at h
    cases h
    rfl

theorem recording_processLast {api : CipherApi Session} {session : Session × CipherCalls}
    {room : Nat}
    (h : api.processLast session.1 room input tag = (result, session')) :
    api.recording.processLast session room input tag =
      (result, session', session.2 ++ [result.map Prod.fst]) := by
  change ((api.processLast session.1 room input tag).1,
    (api.processLast session.1 room input tag).2,
    session.2 ++ [(api.processLast session.1 room input tag).1.map Prod.fst]) = _
  rw [h]

theorem recording_process {api : CipherApi Session} {session : Session × CipherCalls}
    {room : Nat}
    (h : api.process session.1 room input = (result, session')) :
    api.recording.process session room input = (result, session', session.2 ++ [result]) := by
  change ((api.process session.1 room input).1, (api.process session.1 room input).2,
    session.2 ++ [(api.process session.1 room input).1]) = _
  rw [h]

theorem written_append (calls more : CipherCalls) :
    written (calls ++ more) = written calls + written more := by
  rw [written, List.map_append, List.sum_append]
  rfl

namespace UpdateState

variable {api : CipherApi Session} {outsize blockSize : Nat} {input chunk : List UInt8}
  {u : UpdateState (Session × CipherCalls)}

/-- Success is reported with the bytes of the calls, and only where none of them failed. -/
def Truthful (u : UpdateState (Session × CipherCalls)) : Prop :=
  u.status = .ok →
    (∀ call ∈ u.session.2, failedCall call = false) ∧ u.totalProcessed = written u.session.2

theorem process_recording (h : api.process u.session.1 (outsize - u.out.length) chunk =
      (result, session')) :
    (u.process api.recording outsize chunk).session = (session', u.session.2 ++ [result]) := by
  unfold process
  rw [recording_process h]
  cases result with
  | ok output => rfl
  | error status => rfl

theorem process_ok (h : api.process u.session.1 (outsize - u.out.length) chunk =
      (.ok output, session')) :
    (u.process api.recording outsize chunk).status = .ok ∧
      (u.process api.recording outsize chunk).totalProcessed =
        u.totalProcessed + output.length := by
  unfold process
  rw [recording_process h]
  exact ⟨rfl, rfl⟩

theorem process_error {e : SaStatus}
    (h : api.process u.session.1 (outsize - u.out.length) chunk = (.error e, session')) :
    (u.process api.recording outsize chunk).status = e ∧
      (u.process api.recording outsize chunk).out = u.out := by
  unfold process
  rw [recording_process h]
  exact ⟨rfl, rfl⟩

theorem process_truthful
    (hfails : ∀ session room inp, (api.process session room inp).1 ≠ .error .ok)
    (hcalls : ∀ call ∈ u.session.2, failedCall call = false)
    (htotal : u.totalProcessed = written u.session.2) :
    (u.process api.recording outsize chunk).Truthful := by
  cases hprocess : api.process u.session.1 (outsize - u.out.length) chunk with
  | mk result session' =>
    unfold Truthful
    rw [process_recording hprocess]
    cases result with
    | ok output =>
      intro _
      constructor
      · intro call hcall
        rcases List.mem_append.1 hcall with hcall | hcall
        · exact hcalls call hcall
        · cases List.mem_singleton.1 hcall
          rfl
      · rw [(process_ok hprocess).2, htotal, written_append]
        rfl
    | error status =>
      intro hstatus
      rw [(process_error hprocess).1] at hstatus
      subst hstatus
      exact absurd (congrArg Prod.fst hprocess) (hfails _ _ _)

theorem process_truthful_iff {e : SaStatus}
    (hfails : ∀ session room inp, (api.process session room inp).1 ≠ .error .ok)
    (hcall : .error e ∈ u.session.2) :
    (u.process api.recording outsize chunk).Truthful ↔
      ∀ output session', api.process u.session.1 (outsize - u.out.length) chunk ≠
        (.ok output, session') := by
  cases hprocess : api.process u.session.1 (outsize - u.out.length) chunk with
  | mk result session' =>
    unfold Truthful
    rw [process_recording hprocess]
    cases result with
    | ok output =>
      refine iff_of_false (fun h => ?_) (fun h => h output session' rfl)
      obtain ⟨hcalls, -⟩ := h (process_ok hprocess).1
      exact absurd (hcalls _ (List.mem_append_left _ hcall)) Bool.noConfusion
    | error status' =>
      refine iff_of_true (fun hstatus => ?_) nofun
      rw [(process_error hprocess).1] at hstatus
      subst hstatus
      exact absurd (congrArg Prod.fst hprocess) (hfails _ _ _)

theorem loop_done (h : u.totalLength < blockSize) (fuel : Nat) :
    loop api.recording blockSize outsize input fuel u = some u := by
  cases fuel with
  | zero => exact if_neg (Nat.not_le.2 h)
  | succ fuel => exact if_neg (Nat.not_le.2 h)

theorem loop_pass (h : u.totalLength ≥ blockSize) (fuel : Nat) :
    loop api.recording blockSize outsize input (fuel + 1) u =
      loop api.recording blockSize outsize input fuel
        (u.pass api.recording blockSize outsize input) :=
  if_pos h

theorem Placed.pass_input_lt (h : Placed blockSize input u) (hnone : ¬u.remainingBlock.length > 0) :
    (u.pass api.recording blockSize outsize input).totalLength < blockSize := by
  have hpos : 0 < blockSize := (Nat.zero_le _).trans_lt h.pending
  have hmod : (input.length - u.position) % blockSize < blockSize := Nat.mod_lt _ hpos
  have hdiv := Nat.div_add_mod' (input.length - u.position) blockSize
  have htotal := h.total
  rw [pass_input hnone, process_totalLength]
  dsimp only
  omega

end UpdateState

namespace ProviderCipherContext

open UpdateState

variable {api : CipherApi Session} {c : ProviderCipherContext Session} {session : Session}
  {room : Nat} {data : List UInt8}

theorem not_masked_of_lt (h : c.remainingBlock.length + data.length < c.blockSize + 16) :
    ¬c.Masked api session (some room) (some data) := by
  intro ⟨_, _, _, _, _, _, _, hdata, _, hle, _⟩
  cases hdata
  exact absurd hle (Nat.not_le.2 h)

theorem not_masked_of_nil (h : ¬c.remainingBlock.length > 0) :
    ¬c.Masked api session (some room) (some data) := by
  intro ⟨_, _, _, _, _, _, _, _, hpos, _⟩
  exact h hpos

/-- The variables when the block that was pending is complete. -/
def completing (c : ProviderCipherContext Session) (session : Session) (data : List UInt8) :
    UpdateState (Session × CipherCalls) :=
  { start (session, []) c.remainingBlock data with
    position := 16 - c.remainingBlock.length
    remainingBlock := []
    totalLength := c.remainingBlock.length + data.length - 16 }

def completed (api : CipherApi Session) (c : ProviderCipherContext Session) (session : Session)
    (room : Nat) (data : List UInt8) : UpdateState (Session × CipherCalls) :=
  (completing c session data).process api.recording room
    (c.remainingBlock ++ data.take (16 - c.remainingBlock.length))

theorem pass_completed (hpos : c.remainingBlock.length > 0) :
    (start (session, []) c.remainingBlock data).pass api.recording 16 room data =
      completed api c session room data := by
  rw [pass_block hpos, completed, completing]
  simp only [start, Nat.zero_add, List.drop_zero]

/-- The second call of an update that completes a block and goes on with whole blocks. -/
theorem second_truthful
    (hfails : ∀ session room inp, (api.process session room inp).1 ≠ .error .ok)
    (hsize : c.blockSize = 16) (hpos : c.remainingBlock.length > 0)
    (hle : c.blockSize + 16 ≤ c.remainingBlock.length + data.length) :
    ((completed api c session room data).pass api.recording 16 room data).Truthful ↔
      ¬c.Masked api session (some room) (some data) := by
  have hnil : (completed api c session room data).remainingBlock = [] := process_remainingBlock
  have hposition : (completed api c session room data).position = 16 - c.remainingBlock.length :=
    process_position
  rw [pass_input (by rw [hnil]; decide), hposition]
  cases hfirst : api.process session room
      (c.remainingBlock ++ data.take (16 - c.remainingBlock.length)) with
  | mk result session' =>
    have hsession : (completed api c session room data).session = (session', [] ++ [result]) :=
      process_recording (u := completing c session data) hfirst
    cases result with
    | ok output =>
      apply iff_of_true
      · apply process_truthful hfails
        · intro call hcall
          change call ∈ (completed api c session room data).session.2 at hcall
          rw [hsession] at hcall
          cases List.mem_singleton.1 hcall
          rfl
        · change (completed api c session room data).totalProcessed =
            written (completed api c session room data).session.2
          rw [hsession]
          refine (process_ok (u := completing c session data) hfirst).2.trans ?_
          rw [written_append]
          rfl
      · intro ⟨_, _, _, _, _, _, hroom, hdata, _, _, hcall, _⟩
        cases hroom
        cases hdata
        cases hfirst.symm.trans hcall
    | error e =>
      have hout : (completed api c session room data).out = [] :=
        (process_error (u := completing c session data) hfirst).2
      have hcall : .error e ∈ (completed api c session room data).session.2 := by
        rw [hsession]
        exact .head _
      refine (process_truthful_iff hfails (e := e) ?_).trans ?_
      · exact hcall
      dsimp only
      rw [hsession, hout]
      constructor
      · intro hsecond ⟨_, _, _, _, output, session'', hroom, hdata, _, _, hcall, hnext⟩
        cases hroom
        cases hdata
        cases hfirst.symm.trans hcall
        exact hsecond output session'' (hsize ▸ hnext)
      · intro hmasked output session'' hnext
        exact hmasked ⟨room, data, e, session', output, session'', rfl, rfl, hpos, hle, hfirst,
          hsize ▸ hnext⟩

theorem loop_truthful (hs : Sized c)
    (hfails : ∀ session room inp, (api.process session room inp).1 ≠ .error .ok) :
    ∃ u, loop api.recording c.blockSize room data (c.remainingBlock.length + data.length)
        (start (session, []) c.remainingBlock data) = some u ∧
      (u.Truthful ↔ ¬c.Masked api session (some room) (some data)) := by
  have hsize : c.blockSize = 16 ∨ c.blockSize = 1 := by
    rw [hs.blockSize]
    exact c.cipherAlgorithm.blockSize_cases
  let first := start (session, ([] : CipherCalls)) c.remainingBlock data
  have hplaced : UpdateState.Placed c.blockSize data first := .start hs.pending _
  have htotal : first.totalLength = c.remainingBlock.length + data.length := rfl
  by_cases hge : first.totalLength ≥ c.blockSize
  · obtain ⟨fuel, hfuel⟩ : ∃ fuel, c.remainingBlock.length + data.length = fuel + 1 :=
      Nat.exists_eq_succ_of_ne_zero (by omega)
    rw [hfuel, loop_pass hge]
    by_cases hpos : c.remainingBlock.length > 0
    · have hblock : c.blockSize = 16 := by
        have hpending := hs.pending
        omega
      rw [hblock, pass_completed hpos]
      have hnext : UpdateState.Placed c.blockSize data (completed api c session room data) := by
        rw [← pass_completed hpos, ← hblock]
        exact hplaced.pass hsize hge
      have hrest : (completed api c session room data).totalLength =
          c.remainingBlock.length + data.length - 16 := process_totalLength
      by_cases hle : c.blockSize + 16 ≤ c.remainingBlock.length + data.length
      · obtain ⟨fuel, rfl⟩ : ∃ n, fuel = n + 1 := Nat.exists_eq_succ_of_ne_zero (by omega)
        rw [loop_pass (by omega)]
        refine ⟨_, loop_done ?_ _, second_truthful hfails hblock hpos hle⟩
        rw [← hblock]
        apply hnext.pass_input_lt
        rw [show (completed api c session room data).remainingBlock = []
          from process_remainingBlock]
        decide
      · refine ⟨_, loop_done (by omega) _, ?_⟩
        refine iff_of_true ?_ (not_masked_of_lt (Nat.lt_of_not_le hle))
        exact process_truthful hfails (fun call hcall => absurd hcall List.not_mem_nil) rfl
    · refine ⟨_, loop_done (hplaced.pass_input_lt hpos) _, ?_⟩
      refine iff_of_true ?_ (not_masked_of_nil hpos)
      rw [pass_input hpos]
      exact process_truthful hfails (fun call hcall => absurd hcall List.not_mem_nil) rfl
  · refine ⟨first, loop_done (Nat.lt_of_not_le hge) _, iff_of_true ?_ (not_masked_of_lt (by omega))⟩
    exact fun _ => ⟨fun call hcall => absurd hcall List.not_mem_nil, rfl⟩

theorem opened_eq {input : Option (List UInt8)}
    (h : c.opened api outsize input = some (c', session)) :
    c' = { c.unrecorded with cipherContext := some (session, []) } := by
  simp only [opened, Option.bind_eq_bind, Option.bind_eq_some_iff, Option.pure_def,
    Option.some.injEq, Prod.mk.injEq] at h
  obtain ⟨key, -, opened, hopen, recorded, hrecorded, rfl, rfl⟩ := h
  unfold openSession at hopen
  cases hsession : c.cipherContext with
  | some first =>
    have hunrecorded : c.unrecorded.cipherContext = some (first, []) := by
      rw [unrecorded, hsession]
      rfl
    rw [hunrecorded] at hopen
    cases hopen
    rw [hunrecorded] at hrecorded
    cases hrecorded
    rw [← hunrecorded]
  | none =>
    have hunrecorded : c.unrecorded.cipherContext = none := by
      rw [unrecorded, hsession]
      rfl
    rw [hunrecorded] at hopen
    dsimp only at hopen
    split at hopen
    · nomatch hopen
    · split at hopen
      · nomatch hopen
      next first hinit =>
        cases hopen
        cases hrecorded
        rw [recording_init hinit]

def proceedReport (api : CipherApi Session) (c : ProviderCipherContext Session) (session : Session)
    (outsize : Option Nat) (input : Option (List UInt8)) : Option CipherReport :=
  (proceed api.recording { c.unrecorded with cipherContext := some (session, []) } (session, [])
    outsize input).map fun r =>
      ⟨r.result, some r.outl, r.context.cipherContext.elim [] Prod.snd⟩

theorem update_report {c : ProviderCipherContext (Session × CipherCalls)}
    {session : Session × CipherCalls}
    (hloop : loop api.recording c.blockSize room data (c.remainingBlock.length + data.length)
      (start session c.remainingBlock data) = some u) :
    ((update api.recording c session room data).map fun r =>
      (⟨r.result, some r.outl, r.context.cipherContext.elim [] Prod.snd⟩ : CipherReport)) =
    some (if u.status = .ok then ⟨true, some u.totalProcessed, u.session.2⟩
      else ⟨false, some 0, u.session.2⟩) := by
  have hfuel : (start session c.remainingBlock data).totalLength =
      c.remainingBlock.length + data.length := rfl
  unfold update
  dsimp only
  rw [hfuel, hloop]
  dsimp only
  split
  · rfl
  · rfl

theorem update_reportsCalls (hs : Sized c)
    (hfails : ∀ session room inp, (api.process session room inp).1 ≠ .error .ok) :
    ReportsCalls (proceedReport api c session (some room) (some data)) ↔
      ¬c.Masked api session (some room) (some data) := by
  obtain ⟨u, hloop, htruthful⟩ := loop_truthful hs hfails
  rw [← htruthful, proceedReport, proceed, update_report hloop]
  by_cases hstatus : u.status = .ok
  · rw [if_pos hstatus]
    constructor
    · intro h _
      obtain ⟨hcalls, houtl⟩ := h.1 rfl
      exact ⟨hcalls, Option.some.inj houtl⟩
    · intro h
      obtain ⟨hcalls, htotal⟩ := h hstatus
      exact ⟨fun _ => ⟨hcalls, congrArg some htotal⟩, nofun⟩
  · rw [if_neg hstatus]
    exact iff_of_true ⟨nofun, fun _ outl houtl => (Option.some.inj houtl).symm⟩
      fun h => absurd h hstatus

theorem final_reportsCalls :
    ReportsCalls (proceedReport api c session (some room) none) := by
  have hnothing : ReportsCalls (some ⟨true, some 0, []⟩) :=
    ⟨fun _ => ⟨fun call hcall => absurd hcall List.not_mem_nil, rfl⟩, nofun⟩
  have hfailed (calls : CipherCalls) : ReportsCalls (some ⟨false, some 0, calls⟩) :=
    ⟨nofun, fun _ outl houtl => (Option.some.inj houtl).symm⟩
  unfold proceedReport proceed final
  dsimp only
  split
  · cases hlast : api.processLast session room c.remainingBlock
      (if c.aead then some c.tag else none)
      with
    | mk result session' =>
      rw [recording_processLast hlast]
      cases result with
      | ok r =>
        refine ⟨fun _ => ⟨fun call hcall => ?_, rfl⟩, nofun⟩
        cases List.mem_singleton.1 hcall
        rfl
      | error e => exact hfailed _
  · split
    · exact hfailed []
    · exact hnothing

/-- A call of `cipher_cipher` reports what its calls wrote, and nothing where one of them failed,
unless it breaks off before it has a context and leaves `*outl` as it was, or a failure at the block
that was pending is masked by the next call. -/
theorem report_reportsCalls_iff (api : CipherApi Session)
    (hfails : ∀ session room inp, (api.process session room inp).1 ≠ .error .ok)
    (c : ProviderCipherContext Session) (hs : Sized c) (outl outsize : Option Nat)
    (input : Option (List UInt8)) :
    ReportsCalls (c.report api outl outsize input) ↔
      outl = none ∨
        match c.opened api outsize input with
        | none => outl = some 0
        | some (_, session) => ¬c.Masked api session outsize input := by
  have hquiet (outl : Option Nat) : ReportsCalls (some ⟨false, outl, []⟩) ↔
      outl = none ∨ outl = some 0 := by
    cases outl with
    | none => exact iff_of_true ⟨nofun, nofun⟩ (.inl rfl)
    | some outl =>
      constructor
      · intro h
        exact .inr (congrArg some (h.2 rfl outl rfl))
      · intro h
        cases h.resolve_left nofun
        exact ⟨nofun, fun _ n hn => (Option.some.inj hn).symm⟩
  cases outl with
  | none => exact iff_of_true ((hquiet none).2 (.inl rfl)) (.inl rfl)
  | some outl =>
    rw [report, or_iff_right nofun]
    cases hopened : c.opened api outsize input with
    | none => exact (hquiet (some outl)).trans (or_iff_right nofun)
    | some opened =>
      obtain ⟨c', session⟩ := opened
      obtain rfl := opened_eq hopened
      change ReportsCalls (proceedReport api c session outsize input) ↔
        ¬c.Masked api session outsize input
      cases outsize with
      | none =>
        refine iff_of_true ⟨fun _ => ⟨?_, rfl⟩, nofun⟩ nofun
        exact fun call hcall => absurd hcall List.not_mem_nil
      | some room =>
        cases input with
        | none => exact iff_of_true final_reportsCalls nofun
        | some data => exact update_reportsCalls hs hfails

end ProviderCipherContext

section Concrete

open ProviderCipherContext

/-- A client library whose first call of `sa_crypto_cipher_process` fails. -/
def failingOnce : CipherApi Nat where
  init _ := .ok 0
  process session _ input :=
    if session = 0 then (.error .internalError, 1) else (.ok input, session)
  processLast session _ input _ := (.ok (input, []), session)

def pendingEcb : ProviderCipherContext Nat :=
  { (cipherNewctx ecbCipher : ProviderCipherContext Nat) with
    key := some 5
    cipherContext := some 0
    remainingBlock := List.replicate 8 1 }

theorem failingOnce_fails (session room : Nat) (inp : List UInt8) :
    (failingOnce.process session room inp).1 ≠ .error .ok := by
  unfold failingOnce
  dsimp only
  split
  · exact nofun
  · exact nofun

/-- An update that ends with the block that was pending reports its failure. -/
theorem report_reportsCalls_pending :
    ReportsCalls
      (pendingEcb.report failingOnce (some 7) (some 100) (some (List.replicate 8 1))) := by
  have hs : Sized pendingEcb := ⟨by decide, by decide, by decide⟩
  apply (report_reportsCalls_iff failingOnce failingOnce_fails pendingEcb hs _ _ _).2
  right
  have hlt : pendingEcb.remainingBlock.length + (List.replicate 8 (1 : UInt8)).length <
      pendingEcb.blockSize + 16 := by decide
  split
  next hopened => nomatch hopened
  next session hopened => exact not_masked_of_lt hlt

/-- An update reports success after its first call failed. -/
theorem report_not_reportsCalls : ¬∀ {Session : Type} (api : CipherApi Session),
    (∀ session room inp, (api.process session room inp).1 ≠ .error .ok) →
    ∀ c : ProviderCipherContext Session, Sized c → ∀ (outl outsize : Option Nat)
      (input : Option (List UInt8)), ReportsCalls (c.report api outl outsize input) := by
  intro h
  have hs : Sized pendingEcb := ⟨by decide, by decide, by decide⟩
  have hreport := h failingOnce failingOnce_fails pendingEcb hs (some 0) (some 100)
    (some (List.replicate 24 1))
  have hsuccess : (pendingEcb.report failingOnce (some 0) (some 100)
      (some (List.replicate 24 1))).map (fun r => (r.result, r.calls.map failedCall)) =
        some (true, [true, false]) := by decide +kernel
  obtain ⟨r, hr, heq⟩ := Option.map_eq_some_iff.1 hsuccess
  obtain ⟨hresult, hcalls⟩ := Prod.mk.inj heq
  rw [hr] at hreport
  obtain ⟨hok, -⟩ := hreport.1 hresult
  cases hfirst : r.calls with
  | nil =>
    rw [hfirst] at hcalls
    nomatch hcalls
  | cons call calls =>
    rw [hfirst] at hcalls hok
    exact absurd ((hok call (.head _)).symm.trans (List.cons.inj hcalls).1) (by decide)

end Concrete

end TaSecureApi
