import TaSecureApi.SubsampleCounts

namespace TaSecureApi
set_option autoImplicit true
open Layout

/-- The union of `sa_buffer` behind its first pointer or handle: the second word is `clear.length`
and `svp.offset`, the third is `clear.offset`. -/
structure SaBufferUnion where
  second : Nat
  third : Nat

def IsBufferType (bufferType : Nat) : Prop :=
  bufferType = saBufferTypeClear ∨ bufferType = saBufferTypeSvp

namespace SaBufferUnion

/-- What a handler makes of its union: for a number that is no type it writes nothing. -/
def fill (u : SaBufferUnion) (bufferType memRefSize offset : Nat) : SaBufferUnion :=
  if bufferType = saBufferTypeClear then ⟨memRefSize, offset⟩
  else if bufferType = saBufferTypeSvp then { u with second := offset }
  else u

def selected (u : SaBufferUnion) (bufferType : Nat) : Option Nat :=
  if bufferType = saBufferTypeClear then some u.third
  else if bufferType = saBufferTypeSvp then some u.second
  else none

/-- The union with another offset in the member that a type selects. -/
def leave (u : SaBufferUnion) (bufferType offset : Nat) : SaBufferUnion :=
  if bufferType = saBufferTypeClear then { u with third := offset }
  else if bufferType = saBufferTypeSvp then { u with second := offset }
  else u

def offset (u : SaBufferUnion) (bufferType : Nat) : Nat :=
  if bufferType = saBufferTypeClear then u.third else u.second

end SaBufferUnion

/-- The unions of a handler's two buffers, before it writes them. -/
structure BufferLocals where
  out : SaBufferUnion
  inp : SaBufferUnion

/-- What a `ta_sa_*` function comes to: its status, the offsets that it leaves in the buffers, and
`*bytes_to_process`. -/
structure TaSaResult where
  status : SaStatus
  outOffset : Nat
  inOffset : Nat
  bytesToProcess : Nat

/-- A handler with the function it calls: the status, and the command that it leaves behind. A
handler that refuses the command leaves it as it is; `none` is a run that C does not define. -/
def handled (handler : Except Stop (TaSaCall α)) (taSa : TaSaCall α → TaSaResult) (command : σ)
    (after : TaSaResult → σ) : Option (SaStatus × σ) :=
  match handler with
  | .error (.status status) => some (status, command)
  | .error .undefined => none
  | .ok call => some ((taSa call).status, after (taSa call))

section Handlers

variable (params : Fin 4 → TaParam α) (memory : TaMemory) (locals : BufferLocals)
  (taSa : TaSaCall α → TaSaResult)

/-- The output buffer of a handler, whose bytes are in a parameter, after the call. -/
def outAfter (i : Fin 4) (bufferType offset : Nat) (result : TaSaResult) : SaBufferUnion :=
  (locals.out.fill bufferType (params i).memRefSize offset).leave bufferType result.outOffset

def inAfter (i : Fin 4) (bufferType offset : Nat) (result : TaSaResult) : SaBufferUnion :=
  (locals.inp.fill bufferType (params i).memRefSize offset).leave bufferType result.inOffset

/-- `ta_invoke_crypto_cipher_process`. -/
def cipherProcessHandled (last : Bool) (command : SaCryptoCipherProcessS) :
    Option (SaStatus × SaCryptoCipherProcessS) :=
  handled (taInvokeCryptoCipherProcess params memory last command) taSa command fun result =>
    let out := outAfter params locals 1 command.outBufferType command.outOffset result
    let inp := inAfter params locals 2 command.inBufferType command.inOffset result
    { command with
      bytesToProcess := result.bytesToProcess
      outOffset :=
        if (params 1).memRef.isSome then out.offset command.outBufferType else command.outOffset
      inOffset := inp.offset command.inBufferType }

/-- `ta_invoke_svp_key_check`: the second assignment takes `clear.offset` for the type as well, of
which 32 bits are left. -/
def svpKeyCheckHandled (command : SaSvpKeyCheckS) : Option (SaStatus × SaSvpKeyCheckS) :=
  handled (taInvokeSvpKeyCheck params memory command) taSa command fun result =>
    let inp := inAfter params locals 1 command.inBufferType command.inOffset result
    let command := { command with inOffset := inp.offset command.inBufferType }
    let command := { command with inBufferType := inp.third % 2 ^ 32 }
    { command with inOffset := command.inBufferType }

/-- The handler of common encryption with its allocation, which comes after all checks. -/
def processCommonEncryptionCall (allocated : Bool) (command : SaProcessCommonEncryptionS) :
    Except Stop (TaSaCall α) :=
  match taInvokeProcessCommonEncryption params memory command with
  | .error (.status status) => .error (.status status)
  | call => if allocated then call else .error (.status .invalidParameter)

/-- `ta_invoke_process_common_encryption`. -/
def processCommonEncryptionHandled (allocated : Bool) (command : SaProcessCommonEncryptionS) :
    Option (SaStatus × SaProcessCommonEncryptionS) :=
  handled (processCommonEncryptionCall params memory allocated command) taSa command fun result =>
    let out := outAfter params locals 2 command.outBufferType command.outOffset result
    let inp := inAfter params locals 3 command.inBufferType command.inOffset result
    { command with
      outOffset := out.offset command.outBufferType
      inOffset := inp.offset command.inBufferType }

/-- A handler refuses a command and leaves it as it is, or it leaves a command as `Q` says. There is
no command after a run that C does not define. -/
def HandledAs (handler : Except Stop (TaSaCall α)) (run : Option (SaStatus × σ)) (command : σ)
    (Q : TaSaResult → σ → Prop) : Prop :=
  match handler with
  | .error (.status status) => run = some (status, command)
  | .error .undefined => True
  | .ok call => ∃ command', run = some ((taSa call).status, command') ∧ Q (taSa call) command'

/-- The command after a cipher command: the offsets are those of the members that the types select,
where there is a buffer, and but for them and `bytes_to_process` it is as it was sent. -/
structure CipherProcessReports (command : SaCryptoCipherProcessS) (result : TaSaResult)
    (command' : SaCryptoCipherProcessS) : Prop where
  frame : command' = { command with
    bytesToProcess := command'.bytesToProcess
    outOffset := command'.outOffset
    inOffset := command'.inOffset }
  out : (params 1).memRef.isSome →
    (outAfter params locals 1 command.outBufferType command.outOffset result).selected
      command.outBufferType = some command'.outOffset
  noOut : (params 1).memRef.isNone → command'.outOffset = command.outOffset
  inp : (inAfter params locals 2 command.inBufferType command.inOffset result).selected
    command.inBufferType = some command'.inOffset

/-- The same after an SVP key check. -/
structure SvpKeyCheckReports (command : SaSvpKeyCheckS) (result : TaSaResult)
    (command' : SaSvpKeyCheckS) : Prop where
  frame : command' = { command with inOffset := command'.inOffset }
  inp : (inAfter params locals 1 command.inBufferType command.inOffset result).selected
    command.inBufferType = some command'.inOffset

/-- The same after common encryption. -/
structure ProcessCommonEncryptionReports (command : SaProcessCommonEncryptionS)
    (result : TaSaResult) (command' : SaProcessCommonEncryptionS) : Prop where
  frame : command' = { command with
    outOffset := command'.outOffset
    inOffset := command'.inOffset }
  out : (outAfter params locals 2 command.outBufferType command.outOffset result).selected
    command.outBufferType = some command'.outOffset
  inp : (inAfter params locals 3 command.inBufferType command.inOffset result).selected
    command.inBufferType = some command'.inOffset

/-- A command that passes the checks of `ta_invoke_crypto_cipher_process`, and has a reference where
it reads the handle of an SVP buffer. -/
structure AcceptsCryptoCipherProcess (command : SaCryptoCipherProcessS) : Prop where
  types : wrongCryptoCipherProcessParams params = false
  ref : (params 2).memRef.isSome
  version : command.apiVersion = apiVersion
  out : command.outBufferType = saBufferTypeSvp → (params 1).memRef.isSome

/-- A command that passes the checks of `ta_invoke_svp_key_check`. -/
structure AcceptsSvpKeyCheck (command : SaSvpKeyCheckS) : Prop where
  types : wrongSvpKeyCheckParams params = false
  refs : ((params 1).memRef.isNone || (params 1).memRefSize == 0 || (params 2).memRef.isNone ||
    (params 2).memRefSize == 0) = false
  version : command.apiVersion = apiVersion

/-- The call that `ta_invoke_svp_key_check` makes for such a command. -/
def svpKeyCheckCall (command : SaSvpKeyCheckS) : TaSaCall α :=
  .svpKeyCheck command.key (bufferOf params memory 1 command.inBufferType command.inOffset)
    command.bytesToProcess (params 2).data

end Handlers

section Rules

variable {params : Fin 4 → TaParam α} {memory : TaMemory} {locals : BufferLocals}
  {taSa : TaSaCall α → TaSaResult} {handler : Except Stop (TaSaCall α)}

theorem handledAs_iff {command : σ} {after : TaSaResult → σ} {Q : TaSaResult → σ → Prop} :
    HandledAs taSa handler (handled handler taSa command after) command Q ↔
      ∀ call, handler = .ok call → Q (taSa call) (after (taSa call)) := by
  cases handler with
  | error stop =>
    cases stop with
    | status => exact ⟨fun _ => nofun, fun _ => rfl⟩
    | undefined => exact ⟨fun _ => nofun, fun _ => trivial⟩
  | ok call =>
    constructor
    · rintro ⟨command', hrun, hQ⟩ call' hcall
      cases hcall
      cases hrun
      exact hQ
    · exact fun h => ⟨_, rfl, h call rfl⟩

theorem SaBufferUnion.selected_offset_iff {u : SaBufferUnion} :
    u.selected bufferType = some (u.offset bufferType) ↔ IsBufferType bufferType := by
  unfold selected offset IsBufferType
  split_ifs with hclear hsvp
  · exact ⟨fun _ => .inl hclear, fun _ => rfl⟩
  · exact ⟨fun _ => .inr hsvp, fun _ => rfl⟩
  · exact ⟨nofun, fun h => absurd h (not_or.2 ⟨hclear, hsvp⟩)⟩

variable (memory) in
theorem taInvokeCryptoCipherProcess_ok_iff (last : Bool) {command : SaCryptoCipherProcessS} :
    (∃ call, taInvokeCryptoCipherProcess params memory last command = .ok call) ↔
      AcceptsCryptoCipherProcess params command := by
  simp only [taInvokeCryptoCipherProcess, refuse_bind_eq_ok, bne_eq_false_iff_eq]
  constructor
  · rintro ⟨call, htypes, href, hversion, hcall⟩
    refine ⟨htypes, Option.isNone_eq_false_iff.1 href, hversion, fun hsvp => ?_⟩
    by_contra hsome
    have hnull : (params 1).memRef.isNone = true := by simpa using hsome
    rw [hsvp, taBuffer_null hnull] at hcall
    cases hcall
  · intro h
    rw [taBuffer_eq h.out, taBuffer_eq fun _ => h.ref]
    cases last with
    | false => exact ⟨_, h.types, Option.isNone_eq_false_iff.2 h.ref, h.version, rfl⟩
    | true => exact ⟨_, h.types, Option.isNone_eq_false_iff.2 h.ref, h.version, rfl⟩

theorem taInvokeSvpKeyCheck_eq_ok {command : SaSvpKeyCheckS} {call : TaSaCall α} :
    taInvokeSvpKeyCheck params memory command = .ok call ↔
      AcceptsSvpKeyCheck params command ∧ svpKeyCheckCall params memory command = call := by
  simp only [taInvokeSvpKeyCheck, refuse_bind_eq_ok, bne_eq_false_iff_eq]
  have hsome (hrefs : ((params 1).memRef.isNone || (params 1).memRefSize == 0 ||
      (params 2).memRef.isNone || (params 2).memRefSize == 0) = false) :
      (params 1).memRef.isSome := by
    simp only [Bool.or_eq_false_iff, Option.isNone_eq_false_iff] at hrefs
    exact hrefs.1.1.1
  constructor
  · rintro ⟨htypes, hrefs, hversion, hcall⟩
    rw [taBuffer_eq fun _ => hsome hrefs] at hcall
    exact ⟨⟨htypes, hrefs, hversion⟩, Except.ok.inj hcall⟩
  · rintro ⟨h, rfl⟩
    rw [taBuffer_eq fun _ => hsome h.refs]
    exact ⟨h.types, h.refs, h.version, rfl⟩

theorem taInvokeProcessCommonEncryption_ok_iff {command : SaProcessCommonEncryptionS} :
    (∃ call, taInvokeProcessCommonEncryption params memory command = .ok call) ↔
      AcceptsSubsamples params command ∧
        command.subsampleCount * Struct.size SaSubsampleLength < 2 ^ 64 := by
  constructor
  · rintro ⟨call, hcall⟩
    simp only [taInvokeProcessCommonEncryption, refuse_bind_eq_ok, bne_eq_false_iff_eq] at hcall
    obtain ⟨htypes, hrefs, hsizes, hversion, hlengths, hcall⟩ := hcall
    refine ⟨⟨htypes, hrefs, hsizes, hversion, hlengths⟩, ?_⟩
    by_contra hwrap
    have hpos : 0 < 2 ^ 64 := by decide
    have hshort := Nat.mod_lt (command.subsampleCount * Struct.size SaSubsampleLength) hpos
    have hbehind : command.subsampleCount * Struct.size SaSubsampleLength % 2 ^ 64 <
        (0 + command.subsampleCount) * Struct.size SaSubsampleLength := by
      rw [Nat.zero_add]
      omega
    rw [copySubsampleLengths_undefined memory hbehind (by omega)] at hcall
    cases hcall
  · rintro ⟨haccepts, hcount⟩
    obtain ⟨sample, hcall, _⟩ := haccepts.call memory hcount
    exact ⟨_, hcall⟩

theorem processCommonEncryptionCall_eq_ok {command : SaProcessCommonEncryptionS}
    {call : TaSaCall α} :
    processCommonEncryptionCall params memory allocated command = .ok call ↔
      taInvokeProcessCommonEncryption params memory command = .ok call ∧ allocated = true := by
  rw [processCommonEncryptionCall]
  cases taInvokeProcessCommonEncryption params memory command with
  | error stop =>
    cases stop with
    | status => exact ⟨nofun, nofun⟩
    | undefined =>
      cases allocated with
      | false => exact ⟨nofun, nofun⟩
      | true => exact ⟨nofun, nofun⟩
  | ok call' =>
    cases allocated with
    | false => exact ⟨nofun, nofun⟩
    | true => exact ⟨fun h => ⟨h, rfl⟩, fun h => h.1⟩

theorem cipherProcess_reports_iff {command : SaCryptoCipherProcessS} :
    HandledAs taSa (taInvokeCryptoCipherProcess params memory last command)
        (cipherProcessHandled params memory locals taSa last command) command
        (CipherProcessReports params locals command) ↔
      (AcceptsCryptoCipherProcess params command →
        IsBufferType command.inBufferType ∧
        ((params 1).memRef.isSome → IsBufferType command.outBufferType)) := by
  rw [cipherProcessHandled, handledAs_iff, ← taInvokeCryptoCipherProcess_ok_iff memory last,
    exists_imp]
  refine forall_congr' fun call => forall_congr' fun hcall => ?_
  constructor
  · intro h
    refine ⟨SaBufferUnion.selected_offset_iff.1 h.inp, fun hsome => ?_⟩
    have hout := h.out hsome
    dsimp only at hout
    rw [if_pos hsome] at hout
    exact SaBufferUnion.selected_offset_iff.1 hout
  · rintro ⟨hinp, hout⟩
    constructor
    · rfl
    · intro hsome
      dsimp only
      rw [if_pos hsome]
      exact SaBufferUnion.selected_offset_iff.2 (hout hsome)
    · intro hnone
      exact if_neg fun hsome => absurd hsome (by rw [Option.isNone_iff_eq_none.1 hnone]; nofun)
    · exact SaBufferUnion.selected_offset_iff.2 hinp

theorem processCommonEncryption_reports_iff {command : SaProcessCommonEncryptionS} :
    HandledAs taSa (processCommonEncryptionCall params memory allocated command)
        (processCommonEncryptionHandled params memory locals taSa allocated command) command
        (ProcessCommonEncryptionReports params locals command) ↔
      (AcceptsSubsamples params command →
        command.subsampleCount * Struct.size SaSubsampleLength < 2 ^ 64 → allocated = true →
        IsBufferType command.inBufferType ∧ IsBufferType command.outBufferType) := by
  rw [processCommonEncryptionHandled, handledAs_iff]
  simp only [processCommonEncryptionCall_eq_ok, and_imp]
  rw [← and_imp, ← taInvokeProcessCommonEncryption_ok_iff, exists_imp]
  refine forall_congr' fun call => forall_congr' fun hcall => forall_congr' fun hallocated => ?_
  constructor
  · intro h
    exact ⟨SaBufferUnion.selected_offset_iff.1 h.inp, SaBufferUnion.selected_offset_iff.1 h.out⟩
  · rintro ⟨hinp, hout⟩
    exact ⟨rfl, SaBufferUnion.selected_offset_iff.2 hout, SaBufferUnion.selected_offset_iff.2 hinp⟩

/-- When the second assignment of `ta_invoke_svp_key_check` writes what is there: the offset that
was left in a clear buffer is 0, or that in an SVP buffer and the 32 bits of the word behind it are
1. -/
def KeyCheckKept (locals : BufferLocals) (bufferType : Nat) (result : TaSaResult) : Prop :=
  bufferType = saBufferTypeClear ∧ result.inOffset = 0 ∨
  bufferType = saBufferTypeSvp ∧ result.inOffset = 1 ∧ locals.inp.third % 2 ^ 32 = 1

theorem inAfter_clear {result : TaSaResult} :
    inAfter params locals i saBufferTypeClear offset result =
      ⟨(params i).memRefSize, result.inOffset⟩ := rfl

theorem inAfter_svp {result : TaSaResult} :
    inAfter params locals i saBufferTypeSvp offset result =
      ⟨result.inOffset, locals.inp.third⟩ := rfl

theorem svpKeyCheck_reports_iff {command : SaSvpKeyCheckS} :
    HandledAs taSa (taInvokeSvpKeyCheck params memory command)
        (svpKeyCheckHandled params memory locals taSa command) command
        (SvpKeyCheckReports params locals command) ↔
      (AcceptsSvpKeyCheck params command →
        KeyCheckKept locals command.inBufferType
          (taSa (svpKeyCheckCall params memory command))) := by
  rw [svpKeyCheckHandled, handledAs_iff]
  simp only [taInvokeSvpKeyCheck_eq_ok, and_imp]
  rw [forall_comm]
  refine forall_congr' fun haccepts => ?_
  rw [forall_eq']
  generalize svpKeyCheckCall params memory command = call
  obtain ⟨apiVersion, key, bufferType, offset, bytesToProcess⟩ := command
  constructor
  · intro h
    have htype := congrArg SaSvpKeyCheckS.inBufferType h.frame
    have hinp := h.inp
    dsimp only at htype hinp
    rcases eq_or_ne bufferType saBufferTypeClear with rfl | hclear
    · have hoffset : (taSa call).inOffset = (taSa call).inOffset % 2 ^ 32 := Option.some.inj hinp
      exact .inl ⟨rfl, hoffset.trans htype⟩
    rcases eq_or_ne bufferType saBufferTypeSvp with rfl | hsvp
    · have hoffset : (taSa call).inOffset = locals.inp.third % 2 ^ 32 := Option.some.inj hinp
      exact .inr ⟨rfl, hoffset.trans htype, htype⟩
    · rw [SaBufferUnion.selected, if_neg hclear, if_neg hsvp] at hinp
      cases hinp
  · intro h
    dsimp only at h
    cases h with
    | inl h =>
      obtain ⟨rfl, hzero⟩ := h
      dsimp only
      rw [inAfter_clear, hzero]
      exact ⟨rfl, congrArg some hzero⟩
    | inr h =>
      obtain ⟨rfl, hone, hthird⟩ := h
      dsimp only
      rw [inAfter_svp, hthird]
      exact ⟨rfl, congrArg some hone⟩

/-- The three handlers report the offsets of their buffers and nothing else, if and only if the
buffers of a command that they accept have types and the second assignment of the key check writes
what is there. -/
theorem bufferCommands_report_iff (params : Fin 4 → TaParam α) (memory : TaMemory)
    (locals : BufferLocals) (taSa : TaSaCall α → TaSaResult) (last allocated : Bool)
    (cipherProcess : SaCryptoCipherProcessS) (svpKeyCheck : SaSvpKeyCheckS)
    (processCommonEncryption : SaProcessCommonEncryptionS) :
    (HandledAs taSa (taInvokeCryptoCipherProcess params memory last cipherProcess)
        (cipherProcessHandled params memory locals taSa last cipherProcess) cipherProcess
        (CipherProcessReports params locals cipherProcess) ↔
      (AcceptsCryptoCipherProcess params cipherProcess →
        IsBufferType cipherProcess.inBufferType ∧
        ((params 1).memRef.isSome → IsBufferType cipherProcess.outBufferType))) ∧
    (HandledAs taSa (taInvokeSvpKeyCheck params memory svpKeyCheck)
        (svpKeyCheckHandled params memory locals taSa svpKeyCheck) svpKeyCheck
        (SvpKeyCheckReports params locals svpKeyCheck) ↔
      (AcceptsSvpKeyCheck params svpKeyCheck →
        KeyCheckKept locals svpKeyCheck.inBufferType
          (taSa (svpKeyCheckCall params memory svpKeyCheck)))) ∧
    (HandledAs taSa (processCommonEncryptionCall params memory allocated processCommonEncryption)
        (processCommonEncryptionHandled params memory locals taSa allocated
          processCommonEncryption) processCommonEncryption
        (ProcessCommonEncryptionReports params locals processCommonEncryption) ↔
      (AcceptsSubsamples params processCommonEncryption →
        processCommonEncryption.subsampleCount * Struct.size SaSubsampleLength < 2 ^ 64 →
        allocated = true →
        IsBufferType processCommonEncryption.inBufferType ∧
        IsBufferType processCommonEncryption.outBufferType)) :=
  ⟨cipherProcess_reports_iff, svpKeyCheck_reports_iff, processCommonEncryption_reports_iff⟩

end Rules

/-- The parameters of an SVP key check with 32 bytes to check against 16. -/
def keyCheckParams : Fin 4 → TaParam Unit
  | 0 => inoutParam 40 (by decide)
  | 1 => inputParam 32 (by decide)
  | 2 => inputParam 16 block_lt
  | 3 => noParam

def keyCheckCommand : SaSvpKeyCheckS := ⟨apiVersion, 0, saBufferTypeClear, 16, 16⟩

/-- The function leaves the offset as it was sent, and the type of the buffer becomes 16. -/
theorem keyCheck_not_reported :
    ¬ ∀ (params : Fin 4 → TaParam Unit) (memory : TaMemory) (locals : BufferLocals)
      (taSa : TaSaCall Unit → TaSaResult) (command : SaSvpKeyCheckS),
      IsBufferType command.inBufferType →
      HandledAs taSa (taInvokeSvpKeyCheck params memory command)
        (svpKeyCheckHandled params memory locals taSa command) command
        (SvpKeyCheckReports params locals command) := by
  intro h
  have hreports := h keyCheckParams hkdfMemory ⟨⟨0, 0⟩, ⟨0, 0⟩⟩ (fun _ => ⟨.ok, 0, 16, 0⟩)
    keyCheckCommand (.inl rfl)
  have hkept := svpKeyCheck_reports_iff.1 hreports ⟨by decide, by decide, rfl⟩
  rcases hkept with ⟨_, hzero⟩ | ⟨hsvp, _⟩
  · cases hzero
  · cases hsvp

end TaSecureApi
