import TaSecureApi.ClientCalls

namespace TaSecureApi
set_option autoImplicit true
open Layout ClientImpl

section Params

variable {c : ClientMemory α} {uuid : SaUuid} {locals : Nat → UInt8}

@[simp] theorem clientSession_eq_ok {u : Unit} : c.clientSession = .ok u ↔ c.session = true := by
  simp [ClientMemory.clientSession]

@[simp] theorem createCommand_eq_ok {i : Fin 4} {pointer : α} :
    c.createCommand i = .ok pointer ↔ c.malloc i = some pointer := by
  simp [ClientMemory.createCommand]

@[simp] theorem toNat_eq_zero {n : UInt64} : n.toNat = 0 ↔ n = 0 := by
  rw [← UInt64.toNat_inj]
  rfl

theorem ready_iff : Ready c ↔ c.session = true ∧ ∃ pointer, c.malloc 0 = some pointer := by
  simp [Ready, Option.isSome_iff_exists]

@[simp] theorem nullParam_accepted : checkNotTaParamNull c.nullParam.taParam = false := rfl

@[simp] theorem nullParam_memRef : c.nullParam.taParam.memRef = none := rfl

@[simp] theorem nullParam_notIn : checkTaParamIn c.nullParam.taParam = false := rfl

@[simp] theorem param_memRef : (c.param t pointer n).taParam.memRef = pointer := rfl

@[simp] theorem param_memRefSize : (c.param t pointer n).taParam.memRefSize = n.toNat := rfl

@[simp] theorem param_bytes {pointer : α} : (c.param t (some pointer) n).bytes = c.bytes pointer :=
  rfl

@[simp] theorem param_in : checkNotTaParamIn (c.param taParamIn pointer n).taParam = false := rfl

@[simp] theorem param_out : checkNotTaParamOut (c.param taParamOut pointer n).taParam = false := rfl

@[simp] theorem optionalParam_memRef : (c.optionalParam t pointer n).taParam.memRef = pointer := by
  cases pointer <;> rfl

def wrong (isNot : TaParam α → Bool) (param : TaParam α) : Bool :=
  isNot param && checkNotTaParamNull param

theorem wrong_eq (isNot : TaParam α → Bool) (param : TaParam α) :
    (isNot param && checkNotTaParamNull param) = wrong isNot param := rfl

@[simp] theorem wrong_nullParam (isNot : TaParam α → Bool) :
    wrong isNot c.nullParam.taParam = false := Bool.and_false _

@[simp] theorem wrong_param_in :
    wrong checkNotTaParamIn (c.param taParamIn pointer n).taParam = false := rfl

@[simp] theorem optionalParam_in :
    wrong checkNotTaParamIn (c.optionalParam taParamIn pointer n).taParam = false := by
  cases pointer <;> rfl

@[simp] theorem optionalParam_out :
    wrong checkNotTaParamOut (c.optionalParam taParamOut pointer n).taParam = false := by
  cases pointer <;> rfl

@[simp] theorem optionalParam_memRefSize :
    (c.optionalParam t (some pointer) n).taParam.memRefSize = n.toNat := rfl

@[simp] theorem param_checkIn : checkTaParamIn (c.param taParamIn pointer n).taParam = true := rfl

@[simp] theorem optionalParam_some :
    c.optionalParam t (some pointer) n = c.param t (some pointer) n := rfl

@[simp] theorem optionalParam_length :
    (checkNotTaParamNull (c.optionalParam taParamOut pointer n).taParam &&
      (c.optionalParam taParamOut pointer n).taParam.memRefSize != n.toNat) = false := by
  cases pointer with
  | none => rfl
  | some pointer => simp [ClientMemory.optionalParam]

theorem wrong_noData : wrong checkNotTaParamIn (c.param teecNone none 0).taParam = false := rfl

theorem sizeofSaHeaderS_lt : sizeofSaHeaderS < 18446744073709551616 := by decide

theorem optionalParam_data {data : ClientData α} (h : data.isMissing = false) :
    (c.optionalParam taParamIn data.pointer data.length).taParam.data = data.taData := by
  cases hp : data.pointer with
  | none =>
    have hlen : data.length = 0 := by simpa [ClientData.isMissing, hp] using h
    simp [TaParam.data, ClientData.taData, hp, hlen, ClientMemory.optionalParam]
    rfl
  | some pointer => simp [TaParam.data, ClientData.taData, hp, ClientMemory.optionalParam]

@[simp] theorem param_data {data : ClientData α} :
    (c.param t data.pointer data.length).taParam.data = data.taData := rfl

section Command

variable {σ : Type} [Struct σ] {i : Fin 4} {pointer : α}

@[simp] theorem command_memRef : (c.command σ i pointer n fs).taParam.memRef = some pointer := rfl

@[simp] theorem command_bytes :
    (c.command σ i pointer n fs).bytes = Struct.assigned σ (c.allocated i) fs := rfl

@[simp] theorem command_in :
    checkNotTaParamIn (c.command σ i pointer taParamIn fs).taParam = false := rfl

@[simp] theorem wrong_command_in :
    wrong checkNotTaParamIn (c.command σ i pointer taParamIn fs).taParam = false := rfl

@[simp] theorem wrong_command_inout :
    wrong checkNotTaParamInout (c.command σ i pointer taParamInout fs).taParam = false := rfl

@[simp] theorem command_inout :
    checkNotTaParamInout (c.command σ i pointer taParamInout fs).taParam = false := rfl

theorem command_memRefSize (hlt : Struct.size σ < 2 ^ 64) :
    (c.command σ i pointer n fs).taParam.memRefSize = Struct.size σ :=
  UInt64.toNat_ofNat_of_lt hlt

theorem taInvoke_command {id : SaCommandId} {param1 param2 param3 : SentParam α}
    (hpos : 0 < Struct.size σ) (hlt : Struct.size σ < 2 ^ 64)
    (hin : t = taParamIn ∨ t = taParamInout) :
    taInvoke uuid locals ⟨id, c.command σ i pointer t fs, param1, param2, param3⟩ =
      taInvokeCommand (Request.taParams ⟨id, c.command σ i pointer t fs, param1, param2, param3⟩)
        ⟨Request.client ⟨id, c.command σ i pointer t fs, param1, param2, param3⟩, locals⟩
        (some id) := by
  have hsize : (Struct.size σ == 0) = false := by
    rw [beq_eq_false_iff_ne]
    omega
  have hnull : checkTaParamNull (c.command σ i pointer t fs).taParam = false := by
    have hsome : ((c.command σ i pointer t fs).taParam.paramType == teecNone) = false := by
      rcases hin with rfl | rfl <;> rfl
    simp [checkTaParamNull, command_memRefSize hlt, hsize, hsome]
  have htype : (checkNotTaParamIn (c.command σ i pointer t fs).taParam &&
      checkNotTaParamInout (c.command σ i pointer t fs).taParam) = false := by
    rcases hin with rfl | rfl <;> rfl
  simp [taInvoke, taInvokeCommandHandler, liftStatus, Request.taParams, Request.params, hnull,
    htype]

theorem copied_full {memory : TaMemory} (h : n = Struct.size σ) :
    memory.copied σ i n = Struct.read (memory.client i) := by
  subst h
  apply Struct.read_congr
  intro k hk
  exact if_pos (Nat.lt_of_lt_of_le hk (extent_le_sizeof _))

theorem copyExactly_param2 {id : SaCommandId} {param0 param1 param3 : SentParam α}
    (hlt : Struct.size σ < 2 ^ 64) :
    copyExactly (Request.taParams ⟨id, param0, param1, c.command σ i pointer n fs, param3⟩)
        ⟨Request.client ⟨id, param0, param1, c.command σ i pointer n fs, param3⟩, locals⟩ σ 2 =
      .ok (Struct.read (Struct.assigned σ (c.allocated i) fs)) := by
  simp [copyExactly, Request.taParams, Request.params, command_memRefSize hlt, copied_full,
    Request.client]

theorem copyExactly_param1 {id : SaCommandId} {param0 param2 param3 : SentParam α}
    (hlt : Struct.size σ < 2 ^ 64) :
    copyExactly (Request.taParams ⟨id, param0, c.command σ i pointer n fs, param2, param3⟩)
        ⟨Request.client ⟨id, param0, c.command σ i pointer n fs, param2, param3⟩, locals⟩ σ 1 =
      .ok (Struct.read (Struct.assigned σ (c.allocated i) fs)) := by
  simp [copyExactly, Request.taParams, Request.params, command_memRefSize hlt, copied_full,
    Request.client]

theorem copyAtMost_param1 {id : SaCommandId} {param0 param2 param3 : SentParam α}
    (hlt : Struct.size σ < 2 ^ 64) :
    copyAtMost (Request.taParams ⟨id, param0, c.command σ i pointer n fs, param2, param3⟩)
        ⟨Request.client ⟨id, param0, c.command σ i pointer n fs, param2, param3⟩, locals⟩ σ 1 =
      .ok (Struct.read (Struct.assigned σ (c.allocated i) fs)) := by
  simp [copyAtMost, Request.taParams, Request.params, command_memRefSize hlt, copied_full,
    Request.client]

end Command

end Params

section Switches

variable {c : ClientMemory α} {uuid : SaUuid} {locals : Nat → UInt8}

@[simp] theorem wrong_socParam {c : ClientMemory α} :
    wrong checkNotTaParamIn (socParam c parameters).taParam = false := by
  cases parameters <;> rfl

@[simp] theorem toNat_bool (b : Bool) : (b.toNat % 256 != 0) = b := by
  cases b <;> rfl

theorem size_saRights : saRights.size = 608 := by decide

theorem align_saRights : saRights.align = 8 := by decide

theorem aesBlockSize_eq : aesBlockSize = 16 := rfl

attribute [local simp] wrong_eq SaCall.remote SaCall.request Arrives bind_eq_ok ready_iff and_assoc
  taInvoke_command command_memRefSize TaMemory.read Request.taParams Request.client Request.params
  taInvokeCommand Option.isSome_iff_exists Option.bind_eq_some_iff
  Struct.assigned Struct.read Struct.members Struct.size sizeof extent endOf alignof alignUp nested
  size_saRights align_saRights List.replicate aesBlockSize_eq gcmIvLength maxGcmTagLength
  chacha20CounterLength chacha20NonceLength chacha20TagLength ClientMemory.read uint8Array uint8
  uint32 uint64 Field.toNumber Field.toBytes apiVersion

theorem tag_assigned (c : ClientMemory α) (iv tag : α) {n : UInt64} (htag : n ≤ 16) :
    (Struct.assigned SaUnwrapParametersAesGcmS (c.allocated 2)
      [.bytes (c.read iv 12), .number 12, .bytes (c.read tag n.toNat), .number n.toNat]).bytes 2 =
      tagMember c tag n := by
  have hlen : (c.read tag n.toNat).length = n.toNat := length_bytesAt
  have hle : n.toNat ≤ 16 := UInt64.le_iff_toNat_le.mp htag
  have hbytes : (Struct.assigned SaUnwrapParametersAesGcmS (c.allocated 2)
      [.bytes (c.read iv 12), .number 12, .bytes (c.read tag n.toNat), .number n.toNat]).bytes 2 =
      bytesAt (storeBytes (c.allocated 2) 24 (c.read tag n.toNat)) 24 16 :=
    @Object.bytes_assign_of_fit (Struct.members SaUnwrapParametersAesGcmS) _ (c.allocated 2) 2
      (uint8Array 16) (.bytes (c.read tag n.toNat)) 24
      (by simp [AllFit, Field.Fits, Struct.members, uint8Array, gcmIvLength, maxGcmTagLength,
        ClientMemory.read, hle]) rfl rfl rfl
  rw [hbytes, bytesAt_storeBytes (hlen.trans_le hle), hlen]
  rfl

theorem releaseSize (memory : Nat → UInt8) (b : Nat) :
    (Struct.assigned SaSvpBufferReleaseS memory
      [.number apiVersion, .unassigned, .unassigned, .number b]).number 2 =
      numberOf (bytesAt memory 16 8) := by
  have hbytes : (Struct.assigned SaSvpBufferReleaseS memory
      [.number apiVersion, .unassigned, .unassigned, .number b]).bytes 2 = bytesAt memory 16 8 :=
    @Object.bytes_assign_of_fit (Struct.members SaSvpBufferReleaseS) _ memory 2 uint64 .unassigned
      16
      (by simp [AllFit, Field.Fits, Struct.members]) rfl rfl rfl
  rw [Object.number, hbytes]

theorem exchangeParameters_sent {id : SaCommandId} {param0 param1 : SentParam α} :
    (∃ param2, exchangeParam c algorithm parameters = .ok param2 ∧
      wrong checkNotTaParamInout param2.taParam = false ∧
      exchangeParameters (Request.taParams ⟨id, param0, param1, param2, c.nullParam⟩)
        ⟨Request.client ⟨id, param0, param1, param2, c.nullParam⟩, locals⟩
        ⟨apiVersion, rights, algorithm.toNat, privateKey⟩ = .ok s) ↔
      exchangeStands c algorithm parameters = some s := by
  by_cases halgorithm : algorithm.toNat = saKeyExchangeAlgorithmNetflixAuthenticatedDh
  · cases parameters with
    | none => simp [exchangeParam, exchangeStands, halgorithm]
    | some parameters =>
      simp [exchangeParam, exchangeParameters, exchangeStands, halgorithm, copyExactly_param2]
  · simp [exchangeParam, exchangeParameters, exchangeStands, halgorithm]

theorem kdfParameters_sent {id : SaCommandId} {param0 : SentParam α} (algorithm : Option
    SaKdfAlgorithm) :
    (∃ chosen, deriveParams c parameters algorithm = .ok chosen ∧
      wrong checkNotTaParamIn chosen.param1.taParam = false ∧
      wrong checkNotTaParamIn chosen.param2.taParam = false ∧
      wrong checkNotTaParamIn chosen.param3.taParam = false ∧
      kdfParameters (Request.taParams ⟨id, param0, chosen.param1, chosen.param2, chosen.param3⟩)
        ⟨Request.client ⟨id, param0, chosen.param1, chosen.param2, chosen.param3⟩,
          locals⟩ algorithm = .ok s) ↔
      deriveStands c parameters algorithm = some s ∧ ∃ pointer, c.malloc 1 = some pointer := by
  cases algorithm with
  | none => simp [deriveParams, deriveStands]
  | some algorithm =>
    cases parameters with
    | none => cases algorithm <;> simp [deriveParams, deriveStands]
    | some parameters =>
      cases hmalloc : c.malloc 1 with
      | none => cases algorithm <;> simp [deriveParams, deriveCommand, infoParams, hmalloc]
      | some pointer =>
        cases algorithm with
        | rootKeyLadder | commonRootKeyLadder | netflix =>
          simp [deriveParams, deriveStands, deriveCommand, kdfParameters, copyAtMost_param1,
            exactly, bytesStand, hmalloc]
        | hkdf | cmac | concat | ansiX963 =>
          simp [deriveParams, deriveStands, deriveCommand, kdfParameters, copyAtMost_param1,
            infoParams, infoStands, hmalloc]
          simp +contextual [optionalParam_data]

theorem unwrapParameters_sent {id : SaCommandId} {param0 param1 : SentParam α}
    (algorithm : Option SaCipherAlgorithm) :
    (∃ chosen, unwrapParams c parameters algorithm = .ok chosen ∧
      wrong checkNotTaParamIn chosen.param2.taParam = false ∧
      wrong checkNotTaParamIn chosen.param3.taParam = false ∧
      unwrapParameters (Request.taParams ⟨id, param0, param1, chosen.param2, chosen.param3⟩)
        ⟨Request.client ⟨id, param0, param1, chosen.param2, chosen.param3⟩, locals⟩ algorithm =
          .ok s) ↔
      unwrapStandsFor c parameters algorithm = some s := by
  cases parameters with
  | none =>
    cases algorithm with
    | none => simp [unwrapParams, unwrapStands, unwrapStandsFor]
    | some algorithm =>
      cases algorithm <;>
      simp [unwrapParams, unwrapParameters, unwrapStands, unwrapStandsFor]
  | some parameters =>
    cases hmalloc : c.malloc 2 <;> cases algorithm with
    | none => simp [unwrapParams, unwrapStands, unwrapStandsFor]
    | some algorithm =>
      cases algorithm with
      | aesEcb | aesEcbPkcs7 | rsaPkcs1v15 =>
        simp [unwrapParams, unwrapParameters, unwrapStandsFor]
      | aesCbc | aesCbcPkcs7 | aesCtr | chacha20 | ecElgamal =>
        simp [unwrapParams, unwrapCommand, unwrapParameters, unwrapStandsFor, unwrapStands,
          copyExactly_param2, exactly, bytesStand, hmalloc]
      | rsaOaep =>
        cases hlabel : parameters.rsaOaep.label.isMissing with
        | true => simp [unwrapParams, unwrapStandsFor, unwrapStands, hlabel]
        | false =>
          simp [unwrapParams, unwrapCommand, unwrapParameters, unwrapStandsFor, unwrapStands,
            copyExactly_param2, hmalloc, hlabel, optionalParam_data hlabel]
      | chacha20Poly1305 =>
        cases haad : parameters.chacha20Poly1305.aad.pointer <;>
        simp [unwrapParams, unwrapCommand, unwrapParameters, unwrapStandsFor, unwrapStands,
          copyExactly_param2, exactly, bytesStand, hmalloc, haad, ClientData.isMissing,
          ClientData.taData, TaParam.data]
      | aesGcm =>
        by_cases htag : parameters.aesGcm.tag.length ≤ 16
        · have hmember := fun iv tag => tag_assigned c iv tag htag
          simp at hmember
          cases haad : parameters.aesGcm.aad.pointer <;>
          simp [unwrapParams, unwrapCommand, unwrapParameters, unwrapStandsFor, unwrapStands,
            copyExactly_param2, exactly, bytesStand, hmalloc, haad, ClientData.isMissing,
            ClientData.taData, TaParam.data, htag, hmember]
        · simp [unwrapParams, unwrapStandsFor, unwrapStands, htag]

theorem importParametersSoc_sent {id : SaCommandId} {param0 param1 param3 : SentParam α} :
    importParametersSoc (Request.taParams ⟨id, param0, param1, socParam c parameters, param3⟩)
        ⟨Request.client ⟨id, param0, param1, socParam c parameters, param3⟩, locals⟩ = .ok s ↔
      socStands c parameters = some s ∨ ∃ soc, socGarbled c locals parameters = some soc ∧ s = some
        soc := by
  cases parameters with
  | none => simp [importParametersSoc, socParam, socStands, socGarbled]
  | some pointer =>
    rcases lt_trichotomy (declaredLength c pointer).toNat (Struct.size SocParameters) with h | h | h
    · have hne : (declaredLength c pointer).toNat ≠ Struct.size SocParameters := h.ne
      have hle := h.le
      simp at h hne hle
      simp [importParametersSoc, socParam, socStands, socGarbled, h, hne, hle, @eq_comm _ s,
        TaMemory.copied]
    · have hzero : declaredLength c pointer ≠ 0 := by
        rintro hzero
        simp [hzero] at h
      simp at h
      simp [importParametersSoc, socParam, socStands, socGarbled, h, copied_full, hzero,
        @eq_comm _ s]
    · have hne : (declaredLength c pointer).toNat ≠ Struct.size SocParameters := h.ne'
      have hlt := h.asymm
      simp at h hne hlt
      simp [importParametersSoc, socParam, socStands, socGarbled, h, hne, hlt, @eq_comm _ s]

theorem importParameters_sent {id : SaCommandId} {param0 : Chosen α → SentParam α}
    {param1 : SentParam α}
    (format : Option SaKeyFormat) :
    (∃ chosen, importParams c parameters format = .ok chosen ∧
      wrong checkNotTaParamIn chosen.param2.taParam = false ∧
      importParameters (Request.taParams ⟨id, param0 chosen, param1, chosen.param2, c.nullParam⟩)
        ⟨Request.client ⟨id, param0 chosen, param1, chosen.param2, c.nullParam⟩, locals⟩
          ⟨apiVersion, keyFormat, chosen.number % 2 ^ 32⟩ format = .ok s) ↔
      importStands c parameters format = some s ∨ format = some .soc ∧ 
        ∃ soc, socGarbled c locals (parameters.map ImportArgument.pointer) = some soc ∧ s = some
          (.soc soc) := by
  cases format with
  | none => simp [importParams, importStands]
  | some format =>
    cases format with
    | provisionTa => simp [importParams, importStands]
    | soc =>
      simp [importParams, importStands, importParameters, importParametersSoc_sent,
        or_and_right, exists_or, @eq_comm _ s]
    | exported =>
      simp [importParams, importStands, importParameters]
    | typej =>
      simp [importParams, importStands, importParameters, copied_full]
    | symmetricBytes =>
      cases parameters with
      | none => simp [importParams, importStands]
      | some parameters =>
        cases hrights : parameters.symmetricRights <;>
        simp [importParams, importStands, importParameters, rightsParam, importRights, hrights]
    | rsaPrivateKeyInfo =>
      cases parameters with
      | none => simp [importParams, importStands]
      | some parameters =>
        cases hrights : parameters.rsaRights <;>
        simp [importParams, importStands, importParameters, rightsParam, importRights, hrights]
    | ecPrivateBytes =>
      cases parameters with
      | none => simp [importParams, importStands]
      | some parameters =>
        cases hrights : parameters.ecPrivateBytes.rights <;>
        simp [importParams, importStands, importParameters, rightsParam, importRights, hrights]

theorem cipherParameters_sent {id : SaCommandId} {param0 : SentParam α}
    (algorithm : Option SaCipherAlgorithm) :
    (∃ chosen, initParams c parameters algorithm = .ok chosen ∧
      wrong checkNotTaParamIn chosen.param1.taParam = false ∧
      wrong checkNotTaParamIn chosen.param2.taParam = false ∧
      cipherParameters (Request.taParams ⟨id, param0, chosen.param1, chosen.param2, c.nullParam⟩)
        ⟨Request.client ⟨id, param0, chosen.param1, chosen.param2, c.nullParam⟩, locals⟩ algorithm =
          .ok s) ↔
      initStands c parameters algorithm = some s := by
  cases algorithm with
  | none => simp [initParams, initStands]
  | some algorithm =>
    cases parameters with
    | none => cases algorithm <;> simp [initParams, cipherParameters, initStands]
    | some parameters =>
      cases algorithm with
      | aesEcb | aesEcbPkcs7 | rsaPkcs1v15 | ecElgamal =>
        simp [initParams, cipherParameters, initStands]
      | aesCbc | aesCbcPkcs7 | aesCtr | chacha20 =>
        simp +contextual [initParams, dataParam, cipherParameters, initStands]
      | aesGcm | chacha20Poly1305 =>
        simp [initParams, dataParam, cipherParameters, initStands]
        simp +contextual [optionalParam_data]
      | rsaOaep =>
        simp [initParams, cipherParameters, initStands, copyExactly_param1]
        simp +contextual [optionalParam_data]

theorem provision_parameters (h : saKeyProvisionPreprocessing type inp n parameters = .ok u) :
    (∃ inp', inp = some inp') ∧ n ≠ 0 := by
  simp [saKeyProvisionPreprocessing] at h
  obtain ⟨inp', hinp, -, hn, -⟩ := h
  exact ⟨⟨inp', hinp⟩, hn⟩

theorem taKeyType_sent {id : SaCommandId} {param0 param1 param2 : SentParam α} {type : UInt32} :
    taKeyType (Request.taParams ⟨id, param0, param1, param2, ⟨taParamIn, some pointer, 4,
        storeBytes memory 0 (bytesOf 4 type.toNat)⟩⟩)
      ⟨Request.client ⟨id, param0, param1, param2, ⟨taParamIn, some pointer, 4,
        storeBytes memory 0 (bytesOf 4 type.toNat)⟩⟩, locals⟩ = .ok type.toNat := by
  simp [taKeyType, SentParam.taParam, checkTaParamIn, taParamIn, bytesAt_storeBytes_bytesOf,
    numberOf_bytesOf]

theorem number_provisionTa : SaKeyFormat.ofNumber 6 = some .provisionTa := by decide

theorem wrong_keyType {bytes : Nat → UInt8} :
    wrong checkNotTaParamIn (SentParam.taParam ⟨taParamIn, some pointer, 4, bytes⟩) = false := rfl

end Switches

end TaSecureApi
