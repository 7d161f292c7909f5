import TaSecureApi.RemoteParams
import TaSecureApi.SubsampleCounts

namespace TaSecureApi
set_option autoImplicit true
open Layout ClientImpl

section Buffers

variable {c : ClientMemory α} {uuid : SaUuid} {locals : Nat → UInt8} {t : TaSaCall α}

attribute [local simp] wrong_eq SaCall.remote SaCall.request Arrives bind_eq_ok ready_iff and_assoc
  taInvoke_command command_memRefSize TaMemory.read Request.taParams Request.client Request.params
  taInvokeCommand Option.isSome_iff_exists Option.bind_eq_some_iff
  Struct.assigned Struct.read Struct.members Struct.size sizeof extent endOf alignof alignUp nested
  size_saRights align_saRights List.replicate aesBlockSize_eq gcmIvLength maxGcmTagLength
  chacha20CounterLength chacha20NonceLength chacha20TagLength ClientMemory.read uint8Array uint8
  uint32 uint64 Field.toNumber Field.toBytes apiVersion

theorem isClear_iff {buffer : Buffer α} :
    buffer.isClear = true ↔ buffer.bufferType.toNat = saBufferTypeClear := beq_iff_eq

theorem isSvp_iff {buffer : Buffer α} :
    buffer.isSvp = true ↔ buffer.bufferType.toNat = saBufferTypeSvp := beq_iff_eq

/-- What the TA finds where the client sent a buffer. -/
structure BufferSent (c : ClientMemory α) (paramType : Nat) (buffer : Buffer α)
    (sent : BufferParam α) (b : TaBuffer α) (n : Nat) : Prop where
  offset : sent.offset = .number n
  offset_lt : n < 2 ^ 64
  notNull : sent.param.memRef.isSome
  type : sent.param.paramType = paramType ∨ sent.param.paramType = taParamIn
  read : ∀ (params : Fin 4 → TaParam α) (memory : TaMemory) (i : Fin 4),
    params i = sent.param.taParam → memory.client i = sent.param.bytes →
      taBuffer params memory i buffer.bufferType.toNat n = .ok b

theorem clearParam_sent (hclear : buffer.isClear = true)
    (h : clearParam c type buffer = .ok sent) :
    ∃ b, buffer.stands c = some b ∧ BufferSent c type buffer sent b 0 ∧
      (sent.param.memRefSize = 0 ↔ buffer.clear.length - buffer.clear.offset = 0) := by
  simp [clearParam] at h
  obtain ⟨pointer, hpointer, hle, rfl⟩ := h
  refine ⟨.clear (some (c.add pointer buffer.clear.offset))
    (buffer.clear.length - buffer.clear.offset).toNat 0, ?_, ⟨rfl, by decide, rfl, .inl rfl, ?_⟩,
    Iff.rfl⟩
  · rw [Buffer.stands, if_pos hclear, if_pos hle, hpointer]
    rfl
  · intro params memory i hparam _
    rw [taBuffer, if_pos (isClear_iff.mp hclear), hparam]
    rfl

theorem svpParam_sent (c : ClientMemory α) (type : Nat) {buffer : Buffer α}
    (hclear : buffer.isClear = false) :
    ∃ b, buffer.stands c = some b ∧
      BufferSent c type buffer (svpParam c buffer) b buffer.svp.offset.toNat := by
  have hnot : buffer.bufferType.toNat ≠ saBufferTypeClear := by
    rwa [Ne, ← isClear_iff, Bool.not_eq_true]
  cases hsvp : buffer.isSvp with
  | true =>
    refine ⟨.svp (numberOf (c.read buffer.svp.pointer 8)) buffer.svp.offset.toNat, ?_,
      ⟨rfl, UInt64.toNat_lt _, rfl, .inr rfl, ?_⟩⟩
    · simp [Buffer.stands, hclear, hsvp]
    · intro params memory i hparam hbytes
      simp only [taBuffer, isSvp_iff.mp hsvp, readSvpBuffer, hparam, hbytes]
      rfl
  | false =>
    refine ⟨.other buffer.bufferType.toNat, ?_, ⟨rfl, UInt64.toNat_lt _, rfl, .inr rfl, ?_⟩⟩
    · simp [Buffer.stands, hclear, hsvp]
    · intro params memory i hparam hbytes
      have hnotSvp : buffer.bufferType.toNat ≠ saBufferTypeSvp := by
        rw [Ne, ← isSvp_iff, hsvp]
        decide
      rw [taBuffer, if_neg hnot, if_neg hnotSvp]

theorem bufferParam_sent (h : bufferParam c type buffer = .ok sent) :
    ∃ b n, buffer.stands c = some b ∧ BufferSent c type buffer sent b n := by
  unfold bufferParam at h
  split_ifs at h with hclear
  · obtain ⟨b, hstands, hsent, -⟩ := clearParam_sent hclear h
    exact ⟨b, 0, hstands, hsent⟩
  · cases h
    obtain ⟨b, hstands, hsent⟩ := svpParam_sent c _ (Bool.eq_false_iff.mpr hclear)
    exact ⟨b, _, hstands, hsent⟩

theorem bufferParam_of_stands (type : Nat) (h : buffer.stands c = some b) :
    ∃ sent n, bufferParam c type buffer = .ok sent ∧ BufferSent c type buffer sent b n := by
  have hsent : ∃ sent, bufferParam c type buffer = .ok sent := by
    unfold bufferParam clearParam
    unfold Buffer.stands at h
    split_ifs with hclear
    · rw [if_pos hclear] at h
      split_ifs at h with hle
      obtain ⟨pointer, hpointer, -⟩ := Option.map_eq_some_iff.mp h
      simp [hpointer, hle]
    · exact ⟨_, rfl⟩
  obtain ⟨sent, hsent⟩ := hsent
  obtain ⟨b', n, hstands, hb⟩ := bufferParam_sent hsent
  rw [h, Option.some.injEq] at hstands
  subst hstands
  exact ⟨sent, n, hsent, hb⟩

/-- What the TA finds where the client sent an output. -/
structure OutSent (bufferType : Nat) (sent : BufferParam α) (b : Option (TaBuffer α)) : Prop where
  offset : sent.offset = .unassigned ∨ ∃ n < 2 ^ 64, sent.offset = .number n
  type : (checkTaParamInout sent.param.taParam && checkNotTaParamNull sent.param.taParam) = false
  read : ∀ (params : Fin 4 → TaParam α) (memory : TaMemory) (i : Fin 4) (n : Nat),
    params i = sent.param.taParam → memory.client i = sent.param.bytes →
      sent.offset = .unassigned ∨ sent.offset = .number n →
        ∃ b', taBuffer params memory i bufferType n = .ok b' ∧
          (if sent.param.memRef.isNone then none else some b') = b

theorem BufferSent.outSent (h : BufferSent c taParamOut buffer sent b n) :
    OutSent buffer.bufferType.toNat sent (some b) := by
  refine ⟨.inr ⟨n, h.offset_lt, h.offset⟩, ?_, ?_⟩
  · have htype : checkTaParamInout sent.param.taParam = false := by
      unfold checkTaParamInout SentParam.taParam
      rcases h.type with htype | htype <;> rw [htype] <;> rfl
    rw [htype, Bool.false_and]
  · rintro params memory i m hparam hbytes (hoff | hoff)
    · rw [h.offset] at hoff
      cases hoff
    · rw [h.offset, Field.number.injEq] at hoff
      subst hoff
      refine ⟨b, h.read params memory i hparam hbytes, ?_⟩
      rw [Option.isNone_eq_false_iff.mpr h.notNull]
      rfl

theorem noOut_sent (c : ClientMemory α) :
    OutSent saBufferTypeClear ⟨.number 0, c.nullParam⟩ none := by
  refine ⟨.inr ⟨0, by decide, rfl⟩, rfl, ?_⟩
  rintro params memory i n - - -
  exact ⟨_, if_pos rfl, rfl⟩

theorem processCommand_read {param1 param2 : BufferParam α} {out : Option (Buffer α)}
    {inp : Buffer α} {context n : UInt64} {s : SaCryptoCipherProcessS}
    (hs : s = Struct.read
      (processCommand c pointer out context inp n param1.offset param2.offset).bytes)
    (hout : param1.offset = .unassigned ∨ ∃ o < 2 ^ 64, param1.offset = .number o)
    (hin : param2.offset = .number o) (ho : o < 2 ^ 64) :
    s.apiVersion = apiVersion ∧ s.context = context.toNat ∧ s.bytesToProcess = n.toNat ∧
      s.outBufferType = (out.elim saBufferTypeClear fun out => out.bufferType.toNat) ∧
      (param1.offset = .unassigned ∨ param1.offset = .number s.outOffset) ∧
      s.inBufferType = inp.bufferType.toNat ∧ s.inOffset = o := by
  have hmod : o % 18446744073709551616 = o := Nat.mod_eq_of_lt ho
  have htype : (out.elim saBufferTypeClear fun out => out.bufferType.toNat) % 4294967296 =
      out.elim saBufferTypeClear fun out => out.bufferType.toNat := by
    cases out <;> simp [saBufferTypeClear]
  subst hs
  rcases hout with hout | ⟨o1, ho1, hout⟩
  · simp [processCommand, hout, hin, hmod, htype]
  · have hmod1 : o1 % 18446744073709551616 = o1 := Nat.mod_eq_of_lt ho1
    simp [processCommand, hout, hin, hmod, hmod1, htype]

theorem taInvokeCryptoCipherProcess_sent {id : SaCommandId} {param1 param2 : BufferParam α}
    {param3 : SentParam α} {out : Option (Buffer α)} {inp : Buffer α} {context n : UInt64}
    (hout : OutSent (out.elim saBufferTypeClear fun out => out.bufferType.toNat) param1 b1)
    (hin : BufferSent c taParamIn inp param2 b2 o)
    (h3 : wrong checkNotTaParamInout param3.taParam = false) :
    taInvokeCryptoCipherProcess
        (Request.taParams ⟨id, processCommand c pointer out context inp n param1.offset
          param2.offset, param1.param, param2.param, param3⟩)
        ⟨Request.client ⟨id, processCommand c pointer out context inp n param1.offset
          param2.offset, param1.param, param2.param, param3⟩, locals⟩ last
        (Struct.read (processCommand c pointer out context inp n param1.offset
          param2.offset).bytes) =
      .ok (if last then
          .cryptoCipherProcessLast b1 context.toNat b2 n.toNat
            (if param3.memRef.isNone then none else some param3.taParam.data)
        else .cryptoCipherProcess b1 context.toNat b2 n.toNat) := by
  generalize hs : (Struct.read (processCommand c pointer out context inp n param1.offset
    param2.offset).bytes : SaCryptoCipherProcessS) = s
  obtain ⟨hversion, hcontext, hn, htype1, hoff1, htype2, hoff2⟩ :=
    processCommand_read hs.symm hout.offset hin.offset hin.offset_lt
  generalize hr : (⟨id, processCommand c pointer out context inp n param1.offset
    param2.offset, param1.param, param2.param, param3⟩ : Request α) = r
  have hp0 : r.taParams 0 = (processCommand c pointer out context inp n param1.offset
    param2.offset).taParam := by rw [← hr]; rfl
  have hp1 : r.taParams 1 = param1.param.taParam := by rw [← hr]; rfl
  have hp2 : r.taParams 2 = param2.param.taParam := by rw [← hr]; rfl
  have hp3 : r.taParams 3 = param3.taParam := by rw [← hr]; rfl
  obtain ⟨b', hb', hif⟩ := hout.read r.taParams ⟨r.client, locals⟩ 1 s.outOffset hp1
    (by rw [← hr]; rfl) hoff1
  have hb2 := hin.read r.taParams ⟨r.client, locals⟩ 2 hp2 (by rw [← hr]; rfl)
  have hin2 : checkNotTaParamIn param2.param.taParam = false := by
    have htype := or_self_iff.mp hin.type
    simp [checkNotTaParamIn, SentParam.taParam, htype, taParamIn]
  have hwrong : wrongCryptoCipherProcessParams r.taParams = false := by
    simp only [wrongCryptoCipherProcessParams, hp0, hp1, hp2, hp3, hout.type, hin2]
    simp [processCommand, h3]
  have hnull : param2.param.taParam.memRef.isNone = false :=
    Option.isNone_eq_false_iff.mpr hin.notNull
  have hmem1 : param1.param.taParam.memRef = param1.param.memRef := rfl
  have hmem3 : param3.taParam.memRef = param3.memRef := rfl
  simp only [taInvokeCryptoCipherProcess, hwrong, hp1, hp2, hp3, hnull, hversion, htype1, htype2,
    hb', hoff2, hb2, refuse_false, ok_bind, bne_self_eq_false, hmem1, hif, hcontext, hn, hmem3]
  cases last <;> rfl

theorem processOut_sent (h : processOut c out = .ok sent) :
    ∃ b, outStands c out = some b ∧
      OutSent (out.elim saBufferTypeClear fun out => out.bufferType.toNat) sent b := by
  cases out with
  | none =>
    cases h
    exact ⟨none, rfl, noOut_sent c⟩
  | some out =>
    obtain ⟨b, n, hstands, hsent⟩ := bufferParam_sent h
    exact ⟨some b, by simp [outStands, hstands], hsent.outSent⟩

theorem processOut_of_stands (h : outStands c out = some b) :
    ∃ sent, processOut c out = .ok sent ∧
      OutSent (out.elim saBufferTypeClear fun out => out.bufferType.toNat) sent b := by
  cases out with
  | none =>
    cases h
    exact ⟨_, rfl, noOut_sent c⟩
  | some out =>
    obtain ⟨b, hstands, rfl⟩ := Option.map_eq_some_iff.mp h
    obtain ⟨sent, n, hsent, hb⟩ := bufferParam_of_stands taParamOut hstands
    exact ⟨sent, hsent, hb.outSent⟩

theorem taInvoke_process {id : SaCommandId} {param1 param2 : BufferParam α}
    {param3 : SentParam α} {out : Option (Buffer α)} {inp : Buffer α} {context n : UInt64}
    (hid : ∀ (params : Fin 4 → TaParam α) (memory : TaMemory),
      taInvokeCommand params memory (some id) =
      taInvokeCryptoCipherProcess params memory last (memory.read _ 0)) :
    taInvoke uuid locals ⟨id, processCommand c pointer out context inp n param1.offset
        param2.offset, param1.param, param2.param, param3⟩ =
      taInvokeCryptoCipherProcess (Request.taParams ⟨id, processCommand c pointer out context inp n
          param1.offset param2.offset, param1.param, param2.param, param3⟩)
        ⟨Request.client ⟨id, processCommand c pointer out context inp n param1.offset
          param2.offset, param1.param, param2.param, param3⟩, locals⟩ last
        (Struct.read (processCommand c pointer out context inp n param1.offset
          param2.offset).bytes) :=
  (taInvoke_command (by decide) (by decide) (.inr rfl)).trans (hid _ _)

def staleOut (c : ClientMemory α) : BufferParam α :=
  ⟨.unassigned, ⟨c.staleType, none, c.staleSize 1, c.null⟩⟩

theorem processLastOut_of_taken {out : Buffer α} (h : out.isClear ∨ out.isSvp) :
    processLastOut c (some out) = bufferParam c taParamOut out := by
  cases hclear : out.isClear <;> simp_all [processLastOut, bufferParam]

theorem processLastOut_sent (h : processLastOut c out = .ok sent) :
    (processOut c out = .ok sent ∧ ∀ out' ∈ out, out'.isClear ∨ out'.isSvp) ∨
      ∃ out', out = some out' ∧ ¬ out'.isClear ∧ ¬ out'.isSvp ∧
        sent = staleOut c := by
  cases out with
  | none => exact .inl ⟨h, by simp⟩
  | some out =>
    by_cases htaken : out.isClear ∨ out.isSvp
    · rw [processLastOut_of_taken htaken] at h
      exact .inl ⟨h, by simpa using htaken⟩
    · obtain ⟨hclear, hsvp⟩ := not_or.mp htaken
      rw [processLastOut, if_neg hclear, if_neg hsvp] at h
      cases h
      exact .inr ⟨out, rfl, hclear, hsvp, rfl⟩

theorem staleOut_sent {out : Buffer α} (hclear : ¬ out.isClear) (hsvp : ¬ out.isSvp)
    (hinout : c.staleType ≠ teecMemrefTempInout) (hinout' : c.staleType ≠ teecMemrefPartialInout) :
    OutSent ((some out).elim saBufferTypeClear fun out => out.bufferType.toNat) (staleOut c)
      none := by
  refine ⟨.inl rfl, ?_, ?_⟩
  · simp [staleOut, checkTaParamInout, SentParam.taParam, hinout, hinout']
  · rintro params memory i n - - -
    rw [isClear_iff] at hclear
    rw [isSvp_iff] at hsvp
    exact ⟨.other out.bufferType.toNat, by rw [Option.elim_some, taBuffer, if_neg hclear,
      if_neg hsvp], rfl⟩

theorem staleOut_type (h : wrongCryptoCipherProcessParams params = false)
    (hparam : params 1 = (staleOut c).param.taParam) :
    c.staleType ≠ teecMemrefTempInout ∧ c.staleType ≠ teecMemrefPartialInout := by
  simp only [wrongCryptoCipherProcessParams, Bool.or_eq_false_iff] at h
  have htype := h.1.1.2
  rw [hparam] at htype
  constructor <;>
  · intro hstale
    simp [staleOut, SentParam.taParam, checkTaParamInout, checkNotTaParamNull, hstale,
      teecMemrefTempInout, teecMemrefPartialInout, teecNone] at htype

theorem processLastIn_of_taken (h : inp.isClear ∨ ∃ out' ∈ out, out'.isSvp) :
    processLastIn c out inp = bufferParam c taParamIn inp := by
  unfold processLastIn bufferParam
  split_ifs with hclear
  · rfl
  · obtain hclear' | ⟨out', hout', hsvp⟩ := h
    · exact absurd hclear' hclear
    · cases hout'
      exact if_pos hsvp

theorem processLastIn_sent (h : processLastIn c out inp = .ok sent) :
    (bufferParam c taParamIn inp = .ok sent ∧ (inp.isClear ∨ ∃ out' ∈ out, out'.isSvp)) ∨
      sent.param.memRef = none := by
  by_cases htaken : inp.isClear ∨ ∃ out' ∈ out, out'.isSvp
  · rw [processLastIn_of_taken htaken] at h
    exact .inl ⟨h, htaken⟩
  · obtain ⟨hclear, hsvp⟩ := not_or.mp htaken
    cases out with
    | none =>
      rw [processLastIn, if_neg hclear] at h
      cases h
    | some out =>
      rw [processLastIn, if_neg hclear, if_neg (fun hout => hsvp ⟨out, rfl, hout⟩)] at h
      cases h
      exact .inr rfl

theorem tagParam_sent : tagParam c tag = .ok sent ↔ (∀ tag' ∈ tag, tag'.pointer.isSome) ∧
    sent = tag.elim c.nullParam fun tag' => c.param taParamInout tag'.pointer tag'.length := by
  cases tag <;> simp [tagParam, @eq_comm _ sent]

theorem wrong_tagParam (tag : Option (ClientData α)) : wrong checkNotTaParamInout
    (tag.elim c.nullParam fun tag' => c.param taParamInout tag'.pointer tag'.length).taParam =
      false := by
  cases tag <;> rfl

theorem data_tagParam {tag : Option (ClientData α)} {sent : SentParam α}
    (h : ∀ tag' ∈ tag, tag'.pointer.isSome)
    (hsent : sent = tag.elim c.nullParam fun tag' => c.param taParamInout tag'.pointer tag'.length)
      :
    (if sent.memRef.isNone then none else some sent.taParam.data) = tag.map ClientData.taData := by
  subst hsent
  cases tag with
  | none => rfl
  | some tag =>
    have hsome : tag.pointer.isNone = false := Option.isNone_eq_false_iff.mpr (h tag rfl)
    simp only [Option.elim_some, ClientMemory.param, hsome]
    rfl

theorem taInvokeCryptoCipherProcess_checks
    (h : taInvokeCryptoCipherProcess params memory last s = .ok t) :
    wrongCryptoCipherProcessParams params = false ∧ (params 2).memRef.isSome := by
  simp only [taInvokeCryptoCipherProcess, refuse_bind_eq_ok] at h
  exact ⟨h.1, Option.isNone_eq_false_iff.mp h.2.1⟩

theorem size_saSvpOffsetS : Struct.size SaSvpOffsetS = 24 := by decide

def offsetsSent (c : ClientMemory α) (i : Fin 4) (os : Nat → SaSvpOffset) (n : UInt64)
    (pointer : α) : SentParam α :=
  ⟨taParamIn, some pointer, n * UInt64.ofNat (Struct.size SaSvpOffsetS),
    Struct.assignArray SaSvpOffsetS (c.allocated i) n.toNat fun j => (os j).fields⟩

@[simp] theorem offsetsSent_in : checkNotTaParamIn (offsetsSent c i os n pointer).taParam = false :=
  rfl

@[simp] theorem offsetsSent_memRef : (offsetsSent c i os n pointer).taParam.memRef = some pointer :=
  rfl

theorem offsetsSent_memRefSize {n : UInt64} (h : n.toNat * 24 < 2 ^ 64) :
    (offsetsSent c i os n pointer).taParam.memRefSize = n.toNat * 24 :=
  (UInt64.toNat_mul n _).trans (Nat.mod_eq_of_lt h)

theorem offsetsParam_eq_ok {n : UInt64} : offsetsParam c i os n = .ok param ↔
    ∃ pointer, c.malloc i = some pointer ∧ n.toNat * 24 < 2 ^ 64 ∧
      param = offsetsSent c i os n pointer := by
  have hmul : (n * UInt64.ofNat (Struct.size SaSvpOffsetS)).toNat = n.toNat * 24 % 2 ^ 64 :=
    UInt64.toNat_mul n _
  have hwrap : (n * UInt64.ofNat (Struct.size SaSvpOffsetS)).toNat <
      n.toNat * Struct.size SaSvpOffsetS ↔ ¬ n.toNat * 24 < 2 ^ 64 := by
    rw [hmul, size_saSvpOffsetS]
    omega
  simp only [offsetsParam, bind_eq_ok, demandSome_eq_ok]
  by_cases hfits : n.toNat * 24 < 2 ^ 64
  · simp only [if_neg (hwrap.not_left.mpr hfits), Except.ok.injEq, hfits, true_and,
      @eq_comm _ param]
    rfl
  · simp only [if_pos (hwrap.mpr hfits), hfits, false_and, and_false, exists_false, reduceCtorEq]

theorem svpOffsets_sent {params : Fin 4 → TaParam α} {memory : TaMemory} {n : UInt64}
    (hlt : n.toNat * 24 < 2 ^ 64) (hparam : params i = (offsetsSent c j os n pointer).taParam)
    (hbytes : memory.client i = (offsetsSent c j os n pointer).bytes) :
    svpOffsets params memory i = (List.range n.toNat).map fun k => (os k).stands := by
  rw [svpOffsets, hparam, offsetsSent_memRefSize hlt, size_saSvpOffsetS,
    Nat.mul_div_cancel _ (by decide), TaMemory.readArray, hbytes]
  apply List.map_congr_left
  intro k hk
  rw [offsetsSent, Struct.read_assignArray (List.mem_range.mp hk)]
  simp [SaSvpOffset.fields, SaSvpOffset.stands]

theorem svpOffsets_param1 {id : SaCommandId} {n : UInt64} (hlt : n.toNat * 24 < 2 ^ 64) :
    svpOffsets (Request.taParams ⟨id, param0, offsetsSent c i os n pointer, param2, param3⟩)
        ⟨Request.client ⟨id, param0, offsetsSent c i os n pointer, param2, param3⟩, locals⟩ 1 =
      (List.range n.toNat).map fun k => (os k).stands :=
  svpOffsets_sent hlt rfl rfl

theorem svpOffsets_param2 {id : SaCommandId} {n : UInt64} (hlt : n.toNat * 24 < 2 ^ 64) :
    svpOffsets (Request.taParams ⟨id, param0, param1, offsetsSent c i os n pointer, param3⟩)
        ⟨Request.client ⟨id, param0, param1, offsetsSent c i os n pointer, param3⟩, locals⟩ 2 =
      (List.range n.toNat).map fun k => (os k).stands :=
  svpOffsets_sent hlt rfl rfl

theorem offsetsStand_eq_some {n : UInt64} : offsetsStand c i os n = some s ↔
    (∃ pointer, c.malloc i = some pointer) ∧ n ≠ 0 ∧ n.toNat * 24 < 2 ^ 64 ∧
      (List.range n.toNat).map (fun k => (os k).stands) = s := by
  simp only [offsetsStand, size_saSvpOffsetS, Option.ite_none_right_eq_some,
    Option.isSome_iff_exists, and_assoc, Option.some.injEq]

/-- What is sent of a buffer is only empty for a clear one that ends at its offset. -/
theorem bufferParam_size (h : bufferParam c type buffer = .ok sent) :
    sent.param.memRefSize ≠ 0 ↔ (buffer.isClear → buffer.clear.offset < buffer.clear.length) := by
  unfold bufferParam at h
  split_ifs at h with hclear
  · simp [clearParam] at h
    obtain ⟨pointer, -, hle, rfl⟩ := h
    have hsub : buffer.clear.length - buffer.clear.offset = 0 ↔
        ¬ buffer.clear.offset < buffer.clear.length := by
      rw [← UInt64.toNat_inj, UInt64.toNat_sub_of_le _ _ hle, UInt64.lt_iff_toNat_lt]
      rw [UInt64.le_iff_toNat_le] at hle
      simp only [UInt64.toNat_zero]
      omega
    simp only [ClientMemory.param, hclear, forall_const, ne_eq, hsub, not_not]
  · cases h
    simp [svpParam, hclear, ClientMemory.param]

theorem subsamplesParam_eq_ok {n : UInt64} : subsamplesParam c lengths n = .ok param ↔
    (∃ pointer, c.malloc 1 = some pointer) ∧ n.toNat * 16 < 2 ^ 64 ∧
      param = c.param taParamIn (some lengths)
        (n * UInt64.ofNat (Struct.size SaSubsampleLength)) := by
  have hwrap : (n * UInt64.ofNat (Struct.size SaSubsampleLength)).toNat <
      n.toNat * Struct.size SaSubsampleLength ↔ ¬ n.toNat * 16 < 2 ^ 64 := by
    have hmul : (n * UInt64.ofNat (Struct.size SaSubsampleLength)).toNat = n.toNat * 16 % 2 ^ 64 :=
      UInt64.toNat_mul n _
    rw [hmul, size_saSubsampleLength]
    omega
  simp only [subsamplesParam, bind_eq_ok, demandSome_eq_ok]
  by_cases hfits : n.toNat * 16 < 2 ^ 64
  · simp only [if_neg (hwrap.not_left.mpr hfits), Except.ok.injEq, hfits, true_and,
      @eq_comm _ param,
      exists_and_right]
  · simp only [if_pos (hwrap.mpr hfits), hfits, false_and, and_false, exists_false, reduceCtorEq]

theorem subsamplesStand_eq_some {n : UInt64} : subsamplesStand c lengths n = some s ↔
    (∃ pointer, c.malloc 1 = some pointer) ∧ n ≠ 0 ∧ n.toNat * 16 < 2 ^ 64 ∧
      ((List.range n.toNat).map fun j => Struct.read fun k =>
        c.bytes lengths (j * Struct.size SaSubsampleLength + k)) = s := by
  simp only [subsamplesStand, size_saSubsampleLength, Option.ite_none_right_eq_some,
    Option.isSome_iff_exists, and_assoc, Option.some.injEq]

section Sample

variable {sample : ClientSample α} {iv lengths pointer : α} {out inp : Buffer α}
  {param1 : SentParam α} {param2 param3 : BufferParam α}

def sampleCommand (c : ClientMemory α) (pointer : α) (sample : ClientSample α) (iv : α)
    (out inp : Buffer α) (outOffset inOffset : Field) : SentParam α :=
  c.command SaProcessCommonEncryptionS 0 pointer taParamInout
    [.number apiVersion, .bytes (c.read iv 16), .number sample.cryptByteBlock.toNat,
      .number sample.skipByteBlock.toNat, .number sample.subsampleCount.toNat,
      .number sample.context.toNat, .number out.bufferType.toNat, outOffset,
      .number inp.bufferType.toNat, inOffset]

theorem sampleCommand_read (hout : param2.offset = .number o2) (ho2 : o2 < 2 ^ 64)
    (hin : param3.offset = .number o3) (ho3 : o3 < 2 ^ 64) :
    (Struct.read (sampleCommand c pointer sample iv out inp param2.offset param3.offset).bytes :
      SaProcessCommonEncryptionS) =
      ⟨apiVersion, c.read iv 16, sample.cryptByteBlock.toNat, sample.skipByteBlock.toNat,
        sample.subsampleCount.toNat, sample.context.toNat, out.bufferType.toNat, o2,
        inp.bufferType.toNat, o3⟩ := by
  have hmod2 : o2 % 18446744073709551616 = o2 := Nat.mod_eq_of_lt ho2
  have hmod3 : o3 % 18446744073709551616 = o3 := Nat.mod_eq_of_lt ho3
  simp [sampleCommand, hout, hin, hmod2, hmod3]

theorem taInvokeProcessCommonEncryption_sent {id : SaCommandId} (hfits :
    sample.subsampleCount.toNat * 16 < 2 ^ 64)
    (hparam1 : param1 = c.param taParamIn (some lengths)
      (sample.subsampleCount * UInt64.ofNat (Struct.size SaSubsampleLength)))
    (hout : BufferSent c taParamOut out param2 b2 o2)
    (hin : BufferSent c taParamIn inp param3 b3 o3) :
    taInvokeProcessCommonEncryption
        (Request.taParams ⟨id, sampleCommand c pointer sample iv out inp param2.offset
          param3.offset, param1, param2.param, param3.param⟩)
        ⟨Request.client ⟨id, sampleCommand c pointer sample iv out inp param2.offset
          param3.offset, param1, param2.param, param3.param⟩, locals⟩
        (Struct.read (sampleCommand c pointer sample iv out inp param2.offset
          param3.offset).bytes) = .ok t ↔
      sample.subsampleCount ≠ 0 ∧ param2.param.memRefSize ≠ 0 ∧ param3.param.memRefSize ≠ 0 ∧
        t = .processCommonEncryption ⟨c.read iv 16, sample.cryptByteBlock.toNat,
          sample.skipByteBlock.toNat, (List.range sample.subsampleCount.toNat).map fun j =>
            Struct.read fun k => c.bytes lengths (j * Struct.size SaSubsampleLength + k),
          sample.context.toNat, b2, b3⟩ := by
  rw [sampleCommand_read hout.offset hout.offset_lt hin.offset hin.offset_lt]
  generalize hr : (⟨id, sampleCommand c pointer sample iv out inp param2.offset
    param3.offset, param1, param2.param, param3.param⟩ : Request α) = r
  have hp0 : r.taParams 0 = (sampleCommand c pointer sample iv out inp param2.offset
    param3.offset).taParam := by rw [← hr]; rfl
  have hp1 : r.taParams 1 = param1.taParam := by rw [← hr]; rfl
  have hp2 : r.taParams 2 = param2.param.taParam := by rw [← hr]; rfl
  have hp3 : r.taParams 3 = param3.param.taParam := by rw [← hr]; rfl
  have hb2 := hout.read r.taParams ⟨r.client, locals⟩ 2 hp2 (by rw [← hr]; rfl)
  have hb3 := hin.read r.taParams ⟨r.client, locals⟩ 3 hp3 (by rw [← hr]; rfl)
  have hbytes : r.client 1 = c.bytes lengths := by rw [← hr, hparam1]; rfl
  have hcopy : copySubsampleLengths ⟨r.client, locals⟩ (sample.subsampleCount.toNat * 16) 0
      sample.subsampleCount.toNat = .ok ((List.range sample.subsampleCount.toNat).map fun j =>
        Struct.read fun k => c.bytes lengths (j * 16 + k)) := by
    rw [copySubsampleLengths_eq _ (by rw [Nat.zero_add, size_saSubsampleLength])]
    simp only [hbytes, Nat.zero_add, size_saSubsampleLength]
  have hsize1 : (r.taParams 1).memRefSize = sample.subsampleCount.toNat * 16 := by
    rw [hp1, hparam1]
    exact (UInt64.toNat_mul _ _).trans (Nat.mod_eq_of_lt hfits)
  have hwrong : wrongProcessCommonEncryptionParams r.taParams = false := by
    have htype3 := or_self_iff.mp hin.type
    have htype2 : (checkNotTaParamIn param2.param.taParam &&
        checkNotTaParamOut param2.param.taParam) = false := by
      rcases hout.type with htype | htype <;>
      simp [checkNotTaParamIn, checkNotTaParamOut, SentParam.taParam, htype, taParamIn, taParamOut]
    have hin3 : checkNotTaParamIn param3.param.taParam = false := by
      simp [checkNotTaParamIn, SentParam.taParam, htype3, taParamIn]
    simp only [wrongProcessCommonEncryptionParams, hp0, hp1, hp2, hp3, htype2, hin3, hparam1]
    simp [sampleCommand]
  have hnull2 : (r.taParams 2).memRef.isNone = false := by
    rw [hp2]
    exact Option.isNone_eq_false_iff.mpr hout.notNull
  have hnull3 : (r.taParams 3).memRef.isNone = false := by
    rw [hp3]
    exact Option.isNone_eq_false_iff.mpr hin.notNull
  have hnull1 : (r.taParams 1).memRef.isNone = false := by rw [hp1, hparam1]; rfl
  have hsize2 : (r.taParams 2).memRefSize = 0 ↔ param2.param.memRefSize = 0 := by
    rw [hp2]
    exact toNat_eq_zero
  have hsize3 : (r.taParams 3).memRefSize = 0 ↔ param3.param.memRefSize = 0 := by
    rw [hp3]
    exact toNat_eq_zero
  have hmod : sample.subsampleCount.toNat * 16 % 2 ^ 64 = sample.subsampleCount.toNat * 16 :=
    Nat.mod_eq_of_lt hfits
  have hcount : sample.subsampleCount.toNat * 16 = 0 ↔ sample.subsampleCount = 0 := by
    rw [← toNat_eq_zero]
    omega
  simp only [taInvokeProcessCommonEncryption, refuse_bind_eq_ok, hwrong, hnull1, hnull2, hnull3,
    Bool.or_eq_false_iff, beq_eq_false_iff_ne, ne_eq, hsize1, hsize2, hsize3, hb2, hb3, ok_bind,
    size_saSubsampleLength, hmod, hcopy, hcount, true_and, and_assoc, bne_self_eq_false,
    Except.ok.injEq, @eq_comm _ t]

theorem bytesStand_eq_some : bytesStand c data n = some b ↔
    ∃ pointer, data.pointer = some pointer ∧ data.length = n ∧ c.read pointer n.toNat = b := by
  simp only [bytesStand, Option.bind_eq_bind, Option.bind_eq_some_iff,
    Option.ite_none_right_eq_some, Option.some.injEq]

theorem sampleStands_eq_some : sampleStands c sample = some s ↔
    ∃ bytes, bytesStand c sample.iv 16 = some bytes ∧ ∃ lengths,
      sample.subsampleLengths = some lengths ∧ ∃ out, sample.out = some out ∧ ∃ inp,
      sample.inp = some inp ∧ ∃ ls, subsamplesStand c lengths sample.subsampleCount = some ls ∧
      ∃ b2, out.stands c = some b2 ∧ ∃ b3, inp.stands c = some b3 ∧
      ((out.isClear ∨ out.isSvp) ∧ (inp.isClear ∨ inp.isSvp) ∧
        (out.isClear → out.clear.offset < out.clear.length) ∧
        (inp.isClear → inp.clear.offset < inp.clear.length)) ∧
      ⟨bytes, sample.cryptByteBlock.toNat, sample.skipByteBlock.toNat, ls,
        sample.context.toNat, b2, b3⟩ = s := by
  simp only [sampleStands, Option.bind_eq_bind, Option.bind_eq_some_iff,
    Option.ite_none_right_eq_some, Option.some.injEq]

theorem exactly_eq_ok : exactly data n = .ok pointer ↔
    data.pointer = some pointer ∧ data.length = n := by
  simp [exactly]

theorem neither_eq_false {buffer : Buffer α} :
    (!buffer.isClear && !buffer.isSvp) = false ↔ buffer.isClear ∨ buffer.isSvp := by
  cases buffer.isClear <;> cases buffer.isSvp <;> simp

theorem taInvoke_sample :
    taInvoke uuid locals ⟨.processCommonEncryption, sampleCommand c pointer sample iv out inp
        param2.offset param3.offset, param1, param2.param, param3.param⟩ =
      taInvokeProcessCommonEncryption
        (Request.taParams ⟨.processCommonEncryption, sampleCommand c pointer sample iv out inp
          param2.offset param3.offset, param1, param2.param, param3.param⟩)
        ⟨Request.client ⟨.processCommonEncryption, sampleCommand c pointer sample iv out inp
          param2.offset param3.offset, param1, param2.param, param3.param⟩, locals⟩
        (Struct.read (sampleCommand c pointer sample iv out inp param2.offset
          param3.offset).bytes) :=
  taInvoke_command (by decide) (by decide) (.inr rfl)

end Sample

end Buffers

end TaSecureApi
