import TaSecureApi.RemoteBuffers

namespace TaSecureApi
set_option autoImplicit true
open Layout ClientImpl

section Calls

variable {c : ClientMemory α} {uuid : SaUuid} {locals : Nat → UInt8} {t : TaSaCall α}

attribute [local simp] wrong_eq SaCall.remote SaCall.request Arrives bind_eq_ok ready_iff and_assoc
  taInvoke_command command_memRefSize TaMemory.read Request.taParams Request.client Request.params
  taInvokeCommand Option.isSome_iff_exists Option.bind_eq_some_iff
  Struct.assigned Struct.read Struct.members Struct.size sizeof extent endOf alignof alignUp nested
  size_saRights align_saRights List.replicate aesBlockSize_eq gcmIvLength maxGcmTagLength
  chacha20CounterLength chacha20NonceLength chacha20TagLength ClientMemory.read uint8Array uint8
  uint32 uint64 Field.toNumber Field.toBytes apiVersion

theorem getVersion_arrives :
    (SaCall.getVersion version).remote c uuid locals = .ok t ↔
      Arrives c t (.getVersion version) := by
  simp [saGetVersion, taInvokeGetVersion, @eq_comm _ t]

theorem getName_arrives :
    (SaCall.getName name n).remote c uuid locals = .ok t ↔ Arrives c t (.getName name n) := by
  simp [saGetName, taInvokeGetName, @eq_comm _ t]

theorem getDeviceId_arrives (id : Option UInt64) :
    (SaCall.getDeviceId id).remote c uuid locals = .ok t ↔ Arrives c t (.getDeviceId id) := by
  simp [saGetDeviceId, taInvokeGetDeviceId, @eq_comm _ t]

theorem getTaUuid_arrives (id : Option α) :
    (SaCall.getTaUuid id).remote c uuid locals = .ok t ↔ Arrives c t (.getTaUuid id) := by
  simp [saGetTaUuid, taInvokeGetTaUuid, @eq_comm _ t]

theorem keyExport_arrives :
    (SaCall.keyExport out n mixin key).remote c uuid locals = .ok t ↔
      Arrives c t (.keyExport out n mixin key) := by
  cases hmixin : mixin.pointer with
  | none =>
    by_cases hlen : mixin.length = 0
    · simp [saKeyExport, taInvokeKeyExport, @eq_comm _ t, hmixin, hlen, ClientData.isMissing,
        ClientData.taData, TaParam.data, wrong_noData]
    · simp [saKeyExport, hmixin, hlen, ClientData.isMissing]
  | some pointer =>
    simp [saKeyExport, taInvokeKeyExport, @eq_comm _ t, hmixin, ClientData.taData, TaParam.data]

theorem keyGetPublic_arrives :
    (SaCall.keyGetPublic out n key).remote c uuid locals = .ok t ↔
      Arrives c t (.keyGetPublic out n key) := by
  simp [saKeyGetPublic, taInvokeKeyGetPublic, @eq_comm _ t]

theorem keyRelease_arrives :
    (SaCall.keyRelease key).remote c uuid locals = .ok t ↔ Arrives c t (.keyRelease key) := by
  simp [saKeyRelease, taInvokeKeyRelease, @eq_comm _ t]

theorem keyHeader_arrives :
    (SaCall.keyHeader header key).remote c uuid locals = .ok t ↔
      Arrives c t (.keyHeader header key) := by
  simp [saKeyHeader, taInvokeKeyHeader, @eq_comm _ t, wrongKeyHeaderParams, sizeofSaHeaderS_lt]

theorem keyDigest_arrives :
    (SaCall.keyDigest out n key digest).remote c uuid locals = .ok t ↔
      Arrives c t (.keyDigest out n key digest) := by
  simp [saKeyDigest, taInvokeKeyDigest, @eq_comm _ t]

theorem cryptoRandom_arrives :
    (SaCall.cryptoRandom out).remote c uuid locals = .ok t ↔ Arrives c t (.cryptoRandom out) := by
  simp [saCryptoRandom, taInvokeCryptoRandom, @eq_comm _ t]
  tauto

theorem cryptoCipherUpdateIv_arrives :
    (SaCall.cryptoCipherUpdateIv context iv).remote c uuid locals = .ok t ↔
      Arrives c t (.cryptoCipherUpdateIv context iv) := by
  simp [saCryptoCipherUpdateIv, taInvokeCryptoCipherUpdateIv, @eq_comm _ t]
  tauto

theorem cryptoCipherRelease_arrives :
    (SaCall.cryptoCipherRelease context).remote c uuid locals = .ok t ↔
      Arrives c t (.cryptoCipherRelease context) := by
  simp [saCryptoCipherRelease, taInvokeCryptoCipherRelease, @eq_comm _ t]

theorem cryptoMacProcess_arrives :
    (SaCall.cryptoMacProcess context inp).remote c uuid locals = .ok t ↔
      Arrives c t (.cryptoMacProcess context inp) := by
  cases hinp : inp.isMissing with
  | true => simp [saCryptoMacProcess, hinp]
  | false =>
    simp [saCryptoMacProcess, taInvokeCryptoMacProcess, @eq_comm _ t, hinp, optionalParam_data hinp]

theorem cryptoMacProcessKey_arrives :
    (SaCall.cryptoMacProcessKey context key).remote c uuid locals = .ok t ↔
      Arrives c t (.cryptoMacProcessKey context key) := by
  simp [saCryptoMacProcessKey, taInvokeCryptoMacProcessKey, @eq_comm _ t]

theorem cryptoMacCompute_arrives :
    (SaCall.cryptoMacCompute out n context).remote c uuid locals = .ok t ↔
      Arrives c t (.cryptoMacCompute out n context) := by
  simp [saCryptoMacCompute, taInvokeCryptoMacCompute, @eq_comm _ t]

theorem cryptoMacRelease_arrives :
    (SaCall.cryptoMacRelease context).remote c uuid locals = .ok t ↔
      Arrives c t (.cryptoMacRelease context) := by
  simp [saCryptoMacRelease, taInvokeCryptoMacRelease, @eq_comm _ t]

theorem svpSupported_arrives :
    (SaCall.svpSupported).remote c uuid locals = .ok t ↔ Arrives c t .svpSupported := by
  simp [saSvpSupported, taInvokeSvpSupported, @eq_comm _ t]

theorem svpBufferCreate_arrives :
    (SaCall.svpBufferCreate b m n).remote c uuid locals = .ok t ↔
      Arrives c t (.svpBufferCreate b m n) := by
  simp [saSvpBufferCreate, taInvokeSvpBufferCreate, @eq_comm _ t]

theorem svpBufferCheck_arrives (hash : ClientData α) :
    (SaCall.svpBufferCheck b m n d hash).remote c uuid locals = .ok t ↔
      Arrives c t (.svpBufferCheck b m n d hash) := by
  simp [saSvpBufferCheck, taInvokeSvpBufferCheck, @eq_comm _ t]
  tauto

theorem keyGenerate_arrives :
    (SaCall.keyGenerate key rights keyType parameters).remote c uuid locals = .ok t ↔
      Arrives c t (.keyGenerate key rights keyType parameters) := by
  cases hkey : SaKeyType.ofNumber keyType.toNat with
  | none => simp [saKeyGenerate, generateParams, generateStands, hkey]
  | some type =>
    cases type with
    | symmetric | ec | rsa =>
      simp [saKeyGenerate, taInvokeKeyGenerate, @eq_comm _ t, generateParams, generateParameters,
        generateStands, hkey]
    | dh =>
      simp [saKeyGenerate, taInvokeKeyGenerate, @eq_comm _ t, generateParams, generateParameters,
        generateStands, hkey]
      tauto

theorem cryptoMacInit_arrives :
    (SaCall.cryptoMacInit context macAlgorithm key parameters).remote c uuid locals = .ok t ↔
      Arrives c t (.cryptoMacInit context macAlgorithm key parameters) := by
  by_cases hmac : macAlgorithm.toNat = saMacAlgorithmHmac
  · simp [saCryptoMacInit, taInvokeCryptoMacInit, @eq_comm _ t, macDigest, hmac]
    cases parameters <;> simp [saMacAlgorithmHmac]
  · simp [saCryptoMacInit, taInvokeCryptoMacInit, @eq_comm _ t, macDigest, hmac]

theorem cryptoSign_arrives :
    (SaCall.cryptoSign out n algorithm key inp parameters).remote c uuid locals = .ok t ↔
      Arrives c t (.cryptoSign out n algorithm key inp parameters) := by
  cases hinp : inp.isMissing with
  | true => simp [saCryptoSign, hinp]
  | false =>
    cases halgorithm : SaSignatureAlgorithm.ofNumber algorithm.toNat with
    | none =>
      simp [saCryptoSign, taInvokeCryptoSign, @eq_comm _ t, signMembers, signParameters, signStands,
        hinp, optionalParam_data hinp, halgorithm]
    | some signature =>
      cases signature <;>
      simp [saCryptoSign, taInvokeCryptoSign, @eq_comm _ t, signMembers, signParameters, signStands,
        hinp, optionalParam_data hinp, halgorithm]

theorem svpBufferRelease_arrives :
    (SaCall.svpBufferRelease m n b).remote c uuid locals = .ok t ↔
      Arrives c t (.svpBufferRelease m n b) := by
  have hsize := releaseSize (c.allocated 0) b.toNat
  simp at hsize
  simp [saSvpBufferRelease, taInvokeSvpBufferRelease, @eq_comm _ t, hsize]

theorem keyExchange_arrives :
    (SaCall.keyExchange key rights algorithm privateKey other parameters).remote c uuid locals =
        .ok t ↔
      Arrives c t (.keyExchange key rights algorithm privateKey other parameters) := by
  simp [saKeyExchange, taInvokeKeyExchange, @eq_comm _ t]
  constructor
  · rintro ⟨k, hk, r, hr, hother, hsession, p, hp, param, hparam, htype, -, hlen, s, hs, rfl⟩
    exact ⟨⟨k, hk⟩, r, hr, hother, hsession, ⟨p, hp⟩, s,
      exchangeParameters_sent.mp ⟨param, hparam, htype, hs⟩, hlen, rfl⟩
  · rintro ⟨⟨k, hk⟩, r, hr, hother, hsession, ⟨p, hp⟩, s, hs, hlen, rfl⟩
    obtain ⟨param, hparam, htype, hs⟩ := exchangeParameters_sent.mpr hs
    exact ⟨k, hk, r, hr, hother, hsession, p, hp, param, hparam, htype, hother, hlen, s, hs, rfl⟩

theorem keyDerive_arrives :
    (SaCall.keyDerive key rights algorithm parameters).remote c uuid locals = .ok t ↔
      Arrives c t (.keyDerive key rights algorithm parameters) := by
  simp [saKeyDerive, taInvokeKeyDerive, @eq_comm _ t, wrongKeyDeriveParams]
  constructor
  · rintro ⟨k, hk, r, hr, hsession, p, hp, chosen, hchosen, h1, h2, h3, s, hs, rfl⟩
    obtain ⟨hstands, hmalloc⟩ := (kdfParameters_sent _).mp ⟨chosen, hchosen, h1, h2, h3, hs⟩
    exact ⟨⟨k, hk⟩, r, hr, hsession, ⟨p, hp⟩, s, hstands, hmalloc, rfl⟩
  · rintro ⟨⟨k, hk⟩, r, hr, hsession, ⟨p, hp⟩, s, hs, hmalloc, rfl⟩
    obtain ⟨chosen, hchosen, h1, h2, h3, hs⟩ := (kdfParameters_sent _).mpr ⟨hs, hmalloc⟩
    exact ⟨k, hk, r, hr, hsession, p, hp, chosen, hchosen, h1, h2, h3, s, hs, rfl⟩

theorem keyImport_arrives :
    (SaCall.keyImport key format inp parameters).remote c uuid locals = .ok t ↔
      Arrives c t (.keyImport key format inp parameters) ∨
        Garbled c locals t (.keyImport key format inp parameters) := by
  cases hinp : inp.pointer with
  | none => simp [saKeyImport, taInvokeKeyImport, wrongKeyImportParams, Garbled, hinp]
  | some pointer =>
    simp [saKeyImport, taInvokeKeyImport, @eq_comm _ t, wrongKeyImportParams, Garbled, hinp,
      ClientData.isMissing, TaParam.data, ClientData.taData]
    have hsent := fun (k : UInt64) (p : α) (s : Option SaImportParameters) =>
      @importParameters_sent α c locals parameters format.toNat s .keyImport
        (fun chosen => c.command SaKeyImportS 0 p taParamInout
          [.number 1, .number k.toNat, .number format.toNat, .number chosen.number])
        (c.param taParamIn (some pointer) inp.length) (SaKeyFormat.ofNumber format.toNat)
    constructor
    · rintro ⟨k, hk, hsession, p, hp, chosen, hchosen, htype, hlen, s, hs, rfl⟩
      rcases (hsent k p s).mp ⟨chosen, hchosen, htype, hs⟩ with
        hstands | ⟨hsoc, soc, hgarbled, rfl⟩
      · exact .inl ⟨⟨k, hk⟩, hlen, hsession, ⟨p, hp⟩, s, hstands, rfl⟩
      · exact .inr ⟨hsoc, ⟨k, hk⟩, hlen, hsession, ⟨p, hp⟩, soc, hgarbled, rfl⟩
    · rintro (⟨⟨k, hk⟩, hlen, hsession, ⟨p, hp⟩, s, hs, rfl⟩ |
        ⟨hsoc, ⟨k, hk⟩, hlen, hsession, ⟨p, hp⟩, soc, hs, rfl⟩)
      · obtain ⟨chosen, hchosen, htype, hs⟩ := (hsent k p s).mpr (.inl hs)
        exact ⟨k, hk, hsession, p, hp, chosen, hchosen, htype, hlen, s, hs, rfl⟩
      · obtain ⟨chosen, hchosen, htype, hs⟩ := (hsent k p _).mpr (.inr ⟨hsoc, soc, hs, rfl⟩)
        exact ⟨k, hk, hsession, p, hp, chosen, hchosen, htype, hlen, some (.soc soc), hs, rfl⟩

theorem keyProvisionTa_arrives :
    (SaCall.keyProvisionTa type inp n parameters).remote c uuid locals = .ok t ↔
      Arrives c t (.keyProvisionTa type inp n parameters) ∨
        Garbled c locals t (.keyProvisionTa type inp n parameters) := by
  cases hmalloc : c.malloc 0 with
  | none => simp [saKeyProvisionTa, Garbled, hmalloc]
  | some pointer =>
    by_cases hpre : saKeyProvisionPreprocessing type inp n parameters = .ok ()
    · obtain ⟨⟨inp, rfl⟩, hn⟩ := provision_parameters hpre
      simp [saKeyProvisionTa, taInvokeKeyProvision, @eq_comm _ t, wrongKeyProvisionParams, Garbled,
        hmalloc, hpre, hn, taKeyType_sent, importParametersSoc_sent, number_provisionTa,
          wrong_keyType, TaParam.data]
      simp only [or_and_right, exists_or]
      aesop
    · simp [saKeyProvisionTa, Garbled, hmalloc, hpre]

theorem elGamal_stands {call : SaCall α} (h : call.request c = .ok request) :
    ElGamalStands c request call := by
  cases call with
  | keyUnwrap key rights type ps algorithm parameters wrappingKey inp =>
    intro halgorithm
    simp only [SaCall.request, saKeyUnwrap, halgorithm, bind_eq_ok] at h
    obtain ⟨k, -, r, -, -, -, -, -, keyUnwrap, -, curve, -, chosen, hchosen, hrequest⟩ := h
    cases hrequest
    simp only [unwrapParams, unwrapCommand, bind_eq_ok] at hchosen
    obtain ⟨parameters', hparameters, pointer, hpointer, hcommand⟩ := hchosen
    cases hcommand
    exact ⟨parameters', demandSome_eq_ok.1 hparameters, (createCommand_eq_ok.1 hpointer).symm, by
      simp⟩
  | _ => trivial

theorem keyUnwrap_arrives :
    (SaCall.keyUnwrap key rights type ps algorithm parameters wrappingKey inp).remote c uuid locals
      = .ok t ↔
      Arrives c t (.keyUnwrap key rights type ps algorithm parameters wrappingKey inp) := by
  cases hinp : inp.isMissing with
  | true => simp [saKeyUnwrap, hinp]
  | false =>
    by_cases htype : SaKeyType.ofNumber type.toNat = some .ec
    · simp [saKeyUnwrap, taInvokeKeyUnwrap, @eq_comm _ t, hinp, htype, unwrapCurve,
        optionalParam_data hinp]
      constructor
      · rintro ⟨k, hk, r, hr, hsession, p, hp, curve, rfl, chosen, hchosen, h2, h3, s, hs, rfl⟩
        exact ⟨⟨k, hk⟩, r, hr, hsession, ⟨p, hp⟩, ⟨curve, rfl⟩, s,
          (unwrapParameters_sent _).mp ⟨chosen, hchosen, h2, h3, hs⟩, rfl⟩
      · rintro ⟨⟨k, hk⟩, r, hr, hsession, ⟨p, hp⟩, ⟨curve, rfl⟩, s, hs, rfl⟩
        obtain ⟨chosen, hchosen, h2, h3, hs⟩ := (unwrapParameters_sent _).mpr hs
        exact ⟨k, hk, r, hr, hsession, p, hp, curve, rfl, chosen, hchosen, h2, h3, s, hs, rfl⟩
    · simp [saKeyUnwrap, taInvokeKeyUnwrap, @eq_comm _ t, hinp, htype, unwrapCurve,
        optionalParam_data hinp]
      constructor
      · rintro ⟨k, hk, r, hr, hsession, p, hp, chosen, hchosen, h2, h3, s, hs, rfl⟩
        exact ⟨⟨k, hk⟩, r, hr, hsession, ⟨p, hp⟩, s,
          (unwrapParameters_sent _).mp ⟨chosen, hchosen, h2, h3, hs⟩, rfl⟩
      · rintro ⟨⟨k, hk⟩, r, hr, hsession, ⟨p, hp⟩, s, hs, rfl⟩
        obtain ⟨chosen, hchosen, h2, h3, hs⟩ := (unwrapParameters_sent _).mpr hs
        exact ⟨k, hk, r, hr, hsession, p, hp, chosen, hchosen, h2, h3, s, hs, rfl⟩

theorem cryptoCipherInit_arrives :
    (SaCall.cryptoCipherInit context algorithm mode key parameters).remote c uuid locals = .ok t ↔
      Arrives c t (.cryptoCipherInit context algorithm mode key parameters) := by
  simp [saCryptoCipherInit, taInvokeCryptoCipherInit, @eq_comm _ t]
  constructor
  · rintro ⟨k, hk, hsession, p, hp, chosen, hchosen, h1, h2, s, hs, rfl⟩
    exact ⟨⟨k, hk⟩, hsession, ⟨p, hp⟩, s,
      (cipherParameters_sent _).mp ⟨chosen, hchosen, h1, h2, hs⟩, rfl⟩
  · rintro ⟨⟨k, hk⟩, hsession, ⟨p, hp⟩, s, hs, rfl⟩
    obtain ⟨chosen, hchosen, h1, h2, hs⟩ := (cipherParameters_sent _).mpr hs
    exact ⟨k, hk, hsession, p, hp, chosen, hchosen, h1, h2, s, hs, rfl⟩

theorem cryptoCipherProcess_arrives :
    (SaCall.cryptoCipherProcess out context inp n).remote c uuid locals = .ok t ↔
      Arrives c t (.cryptoCipherProcess out context inp n) := by
  simp only [SaCall.remote, SaCall.request, saCryptoCipherProcess, bind_eq_ok, demandSome_eq_ok,
    clientSession_eq_ok, createCommand_eq_ok, Except.ok.injEq, Arrives]
  constructor
  · rintro ⟨_, ⟨inp, rfl, n, rfl, -, hsession, p, hp, param1, h1, param2, h2, rfl⟩, hcall⟩
    obtain ⟨b1, hout, hsent1⟩ := processOut_sent h1
    obtain ⟨b2, o, hin, hsent2⟩ := bufferParam_sent h2
    rw [taInvoke_process fun _ _ => rfl, taInvokeCryptoCipherProcess_sent hsent1 hsent2
      (wrong_nullParam _)] at hcall
    cases hcall
    exact ⟨inp, n, b1, b2, rfl, rfl, ready_iff.mpr ⟨hsession, p, hp⟩, hout, hin, rfl⟩
  · rintro ⟨inp, n, b1, b2, rfl, rfl, hready, hout, hin, rfl⟩
    obtain ⟨hsession, p, hp⟩ := ready_iff.mp hready
    obtain ⟨param1, h1, hsent1⟩ := processOut_of_stands hout
    obtain ⟨param2, o, h2, hsent2⟩ := bufferParam_of_stands taParamIn hin
    refine ⟨_, ⟨inp, rfl, n, rfl, (), hsession, p, hp, param1, h1, param2, h2, rfl⟩, ?_⟩
    rw [taInvoke_process fun _ _ => rfl, taInvokeCryptoCipherProcess_sent hsent1 hsent2
      (wrong_nullParam _)]
    rfl

theorem cryptoCipherProcessLast_arrives :
    (SaCall.cryptoCipherProcessLast out context inp n tag).remote c uuid locals = .ok t ↔
      Arrives c t (.cryptoCipherProcessLast out context inp n tag) ∨
        Garbled c locals t (.cryptoCipherProcessLast out context inp n tag) := by
  simp only [SaCall.remote, SaCall.request, saCryptoCipherProcessLast, bind_eq_ok, demandSome_eq_ok,
    clientSession_eq_ok, createCommand_eq_ok, Except.ok.injEq, Arrives, Garbled, tagParam_sent]
  constructor
  · rintro ⟨_, ⟨inp, rfl, n, rfl, -, hsession, p, hp, param1, h1, param2, h2, param3,
      ⟨htag, h3⟩, rfl⟩, hcall⟩
    have hready : Ready c := ready_iff.mpr ⟨hsession, p, hp⟩
    have hwrong3 : wrong checkNotTaParamInout param3.taParam = false := h3 ▸ wrong_tagParam tag
    rw [taInvoke_process fun _ _ => rfl] at hcall
    obtain ⟨hparams, hnull⟩ := taInvokeCryptoCipherProcess_checks hcall
    rcases processLastIn_sent h2 with ⟨h2, htaken⟩ | hnone
    · obtain ⟨b2, o, hin, hsent2⟩ := bufferParam_sent h2
      rcases processLastOut_sent h1 with ⟨h1, htypes⟩ | ⟨out, rfl, hclear, hsvp, rfl⟩
      · obtain ⟨b1, hout, hsent1⟩ := processOut_sent h1
        rw [taInvokeCryptoCipherProcess_sent hsent1 hsent2 hwrong3, data_tagParam htag h3] at hcall
        cases hcall
        exact .inl ⟨inp, n, b1, b2, rfl, rfl, hready, hout, hin, htypes, htaken, htag, rfl⟩
      · have hclear2 : inp.isClear := by
          rcases htaken with hclear2 | ⟨out', hout', hsvp'⟩
          · exact hclear2
          · cases hout'
            exact absurd hsvp' hsvp
        have hinout := staleOut_type hparams rfl
        rw [taInvokeCryptoCipherProcess_sent (staleOut_sent hclear hsvp hinout.1 hinout.2) hsent2
          hwrong3, data_tagParam htag h3] at hcall
        cases hcall
        exact .inr ⟨out, inp, n, b2, rfl, rfl, rfl, hready, hclear, hsvp, hclear2, hin, htag,
          hinout.1, hinout.2, rfl⟩
    · have hsome : param2.param.memRef.isSome := hnull
      rw [hnone] at hsome
      cases hsome
  · rintro (⟨inp, n, b1, b2, rfl, rfl, hready, hout, hin, htypes, htaken, htag, rfl⟩ |
      ⟨out, inp, n, b2, rfl, rfl, rfl, hready, hclear, hsvp, hclear2, hin, htag, hinout, hinout',
        rfl⟩)
    · obtain ⟨hsession, p, hp⟩ := ready_iff.mp hready
      obtain ⟨param1, h1, hsent1⟩ := processOut_of_stands hout
      obtain ⟨param2, o, h2, hsent2⟩ := bufferParam_of_stands taParamIn hin
      rw [← processLastIn_of_taken htaken] at h2
      have h1 : processLastOut c out = .ok param1 := by
        cases out with
        | none => exact h1
        | some out => rw [processLastOut_of_taken (htypes out rfl)]; exact h1
      refine ⟨_, ⟨inp, rfl, n, rfl, (), hsession, p, hp, param1, h1, param2, h2, _, ⟨htag, rfl⟩,
        rfl⟩, ?_⟩
      rw [taInvoke_process fun _ _ => rfl, taInvokeCryptoCipherProcess_sent hsent1 hsent2
        (wrong_tagParam tag), data_tagParam htag rfl]
      rfl
    · obtain ⟨hsession, p, hp⟩ := ready_iff.mp hready
      have hsent1 := staleOut_sent hclear hsvp hinout hinout'
      obtain ⟨param2, o, h2, hsent2⟩ := bufferParam_of_stands taParamIn hin
      have h1 : processLastOut c (some out) = .ok (staleOut c) := by
        rw [processLastOut, if_neg hclear, if_neg hsvp]
        rfl
      rw [← processLastIn_of_taken (.inl hclear2)] at h2
      refine ⟨_, ⟨inp, rfl, n, rfl, (), hsession, p, hp, _, h1, param2, h2, _, ⟨htag, rfl⟩, rfl⟩,
        ?_⟩
      rw [taInvoke_process fun _ _ => rfl, taInvokeCryptoCipherProcess_sent hsent1 hsent2
        (wrong_tagParam tag), data_tagParam htag rfl]
      rfl

theorem svpBufferCopy_arrives :
    (SaCall.svpBufferCopy out inp os n).remote c uuid locals = .ok t ↔
      Arrives c t (.svpBufferCopy out inp os n) := by
  cases os with
  | none => simp [saSvpBufferCopy]
  | some os =>
    by_cases hfits : n.toNat * 24 < 18446744073709551616
    · simp [saSvpBufferCopy, taInvokeSvpBufferCopy, @eq_comm _ t, offsetsParam_eq_ok,
        offsetsStand_eq_some, offsetsSent_memRefSize hfits, svpOffsets_param1 hfits, hfits]
    · simp [saSvpBufferCopy, offsetsParam_eq_ok, offsetsStand_eq_some, hfits]

theorem svpBufferWrite_arrives :
    (SaCall.svpBufferWrite out inp os n).remote c uuid locals = .ok t ↔
      Arrives c t (.svpBufferWrite out inp os n) ∨
        Garbled c locals t (.svpBufferWrite out inp os n) := by
  cases os with
  | none => simp [saSvpBufferWrite, Garbled]
  | some os =>
    by_cases hfits : n.toNat * 24 < 18446744073709551616
    · by_cases hsame : ∀ j < n.toNat, os j = os 0
      · have hmap : (List.range n.toNat).map (fun k => (os k).stands) =
            List.replicate n.toNat (os 0).stands := by
          rw [List.map_congr_left fun j hj => by rw [hsame j (List.mem_range.mp hj)],
            List.map_const',
            List.length_range]
        have hnot : ¬ ∃ j < n.toNat, ¬ os j = os 0 := by simpa using hsame
        simp [saSvpBufferWrite, taInvokeSvpBufferWrite, @eq_comm _ t, offsetsParam_eq_ok,
          offsetsStand_eq_some, offsetsSent_memRefSize hfits, svpOffsets_param2 hfits, hfits,
          Garbled, hmap, hnot]
        tauto
      · have hdiff : ∃ j < n.toNat, ¬ os j = os 0 := by simpa using hsame
        simp [saSvpBufferWrite, taInvokeSvpBufferWrite, @eq_comm _ t, offsetsParam_eq_ok,
          offsetsStand_eq_some, offsetsSent_memRefSize hfits, svpOffsets_param2 hfits, hfits,
          Garbled, hsame, hdiff]
        tauto
    · simp [saSvpBufferWrite, offsetsParam_eq_ok, offsetsStand_eq_some, hfits, Garbled]

theorem svpKeyCheck_arrives :
    (SaCall.svpKeyCheck key inp n expected).remote c uuid locals = .ok t ↔
      Arrives c t (.svpKeyCheck key inp n expected) := by
  cases inp with
  | none => simp [saSvpKeyCheck]
  | some inp =>
    cases hclear : inp.isClear with
    | true =>
      have htype := isClear_iff.mp hclear
      cases hexpected : expected.pointer with
      | none => simp [saSvpKeyCheck, hexpected]
      | some pointer =>
        cases hbuffer : inp.clear.buffer with
        | none => simp [saSvpKeyCheck, checkParam, Buffer.standsWhole, hclear, hbuffer]
        | some buffer =>
          simp [saSvpKeyCheck, taInvokeSvpKeyCheck, @eq_comm _ t, wrongSvpKeyCheckParams,
            checkParam,
            Buffer.standsWhole, hclear, htype, taBuffer, hexpected, hbuffer, saBufferTypeClear,
              TaParam.data, ClientData.taData]
          tauto
    | false =>
      obtain ⟨b, hstands, hsent⟩ := svpParam_sent c taParamIn hclear
      cases hexpected : expected.pointer with
      | none => simp [saSvpKeyCheck, hexpected]
      | some pointer =>
        have hread := fun (param0 param2 : SentParam α) => hsent.read
          (Request.taParams ⟨.svpKeyCheck, param0, c.param taParamIn (some inp.svp.pointer) 8,
            param2,
            c.nullParam⟩)
          ⟨Request.client ⟨.svpKeyCheck, param0, c.param taParamIn (some inp.svp.pointer) 8, param2,
            c.nullParam⟩, locals⟩ 1 rfl rfl
        simp [saSvpKeyCheck, taInvokeSvpKeyCheck, @eq_comm _ t, wrongSvpKeyCheckParams, checkParam,
          Buffer.standsWhole, hclear, hstands, hexpected, svpParam, TaParam.data, ClientData.taData,
          hread]
        tauto

theorem processSample_arrives :
    (SaCall.processSample sample).remote c uuid locals = .ok t ↔
      Arrives c t (.processSample sample) := by
  simp only [SaCall.remote, SaCall.request, saProcessSample, bind_eq_ok, demandSome_eq_ok,
    clientSession_eq_ok, createCommand_eq_ok, Except.ok.injEq, Arrives, refuse_eq_ok,
    subsamplesParam_eq_ok, exactly_eq_ok, neither_eq_false, sampleStands_eq_some,
    subsamplesStand_eq_some, bytesStand_eq_some]
  constructor
  · rintro ⟨_, ⟨-, hsession, p, hp, iv, ⟨hiv, hivlen⟩, lengths, hlengths, out, hout, inp, hinp,
      -, htype2, -, htype3, param1, ⟨hmalloc, hfits, h1⟩, param2, h2, param3, h3, rfl⟩, hcall⟩
    obtain ⟨b2, o2, hstands2, hsent2⟩ := bufferParam_sent h2
    obtain ⟨b3, o3, hstands3, hsent3⟩ := bufferParam_sent h3
    obtain ⟨hcount, hsize2, hsize3, rfl⟩ :=
      (taInvokeProcessCommonEncryption_sent hfits h1 hsent2 hsent3).mp
        (taInvoke_sample.symm.trans hcall)
    exact ⟨ready_iff.mpr ⟨hsession, p, hp⟩, _, ⟨_, ⟨iv, hiv, hivlen, rfl⟩, lengths, hlengths, out,
      hout, inp, hinp, _, ⟨hmalloc, hcount, hfits, rfl⟩, b2, hstands2, b3, hstands3,
      ⟨htype2, htype3, (bufferParam_size h2).mp hsize2, (bufferParam_size h3).mp hsize3⟩, rfl⟩, rfl⟩
  · rintro ⟨hready, _, ⟨_, ⟨iv, hiv, hivlen, rfl⟩, lengths, hlengths, out, hout, inp, hinp, _,
      ⟨hmalloc, hcount, hfits, rfl⟩, b2, hstands2, b3, hstands3,
      ⟨htype2, htype3, hsize2, hsize3⟩, rfl⟩, rfl⟩
    obtain ⟨hsession, p, hp⟩ := ready_iff.mp hready
    obtain ⟨param2, o2, h2, hsent2⟩ := bufferParam_of_stands taParamOut hstands2
    obtain ⟨param3, o3, h3, hsent3⟩ := bufferParam_of_stands taParamIn hstands3
    refine ⟨_, ⟨(), hsession, p, hp, iv, ⟨hiv, hivlen⟩, lengths, hlengths, out, hout, inp, hinp,
      (), htype2, (), htype3, _, ⟨hmalloc, hfits, rfl⟩, param2, h2, param3, h3, rfl⟩, ?_⟩
    exact taInvoke_sample.trans ((taInvokeProcessCommonEncryption_sent hfits rfl hsent2 hsent3).mpr
      ⟨hcount, (bufferParam_size h2).mpr hsize2, (bufferParam_size h3).mpr hsize3, rfl⟩)

/-- A call makes a call of the TA where this is the call that it stands for, or where one of the
four functions that do not send all that they are given sends something else. -/
theorem remote_arrives (c : ClientMemory α) (uuid : SaUuid) (locals : Nat → UInt8)
    (call : SaCall α) (t : TaSaCall α) :
    call.remote c uuid locals = .ok t ↔ Arrives c t call ∨ Garbled c locals t call := by
  cases call with
  | getVersion => exact getVersion_arrives.trans (iff_of_eq (or_false _)).symm
  | getName => exact getName_arrives.trans (iff_of_eq (or_false _)).symm
  | getDeviceId => exact (getDeviceId_arrives _).trans (iff_of_eq (or_false _)).symm
  | getTaUuid => exact (getTaUuid_arrives _).trans (iff_of_eq (or_false _)).symm
  | keyGenerate => exact keyGenerate_arrives.trans (iff_of_eq (or_false _)).symm
  | keyExport => exact keyExport_arrives.trans (iff_of_eq (or_false _)).symm
  | keyImport => exact keyImport_arrives
  | keyProvisionTa => exact keyProvisionTa_arrives
  | keyUnwrap => exact keyUnwrap_arrives.trans (iff_of_eq (or_false _)).symm
  | keyGetPublic => exact keyGetPublic_arrives.trans (iff_of_eq (or_false _)).symm
  | keyDerive => exact keyDerive_arrives.trans (iff_of_eq (or_false _)).symm
  | keyExchange => exact keyExchange_arrives.trans (iff_of_eq (or_false _)).symm
  | keyRelease => exact keyRelease_arrives.trans (iff_of_eq (or_false _)).symm
  | keyHeader => exact keyHeader_arrives.trans (iff_of_eq (or_false _)).symm
  | keyDigest => exact keyDigest_arrives.trans (iff_of_eq (or_false _)).symm
  | cryptoRandom => exact cryptoRandom_arrives.trans (iff_of_eq (or_false _)).symm
  | cryptoCipherInit => exact cryptoCipherInit_arrives.trans (iff_of_eq (or_false _)).symm
  | cryptoCipherUpdateIv => exact cryptoCipherUpdateIv_arrives.trans (iff_of_eq (or_false _)).symm
  | cryptoCipherProcess => exact cryptoCipherProcess_arrives.trans (iff_of_eq (or_false _)).symm
  | cryptoCipherProcessLast => exact cryptoCipherProcessLast_arrives
  | cryptoCipherRelease => exact cryptoCipherRelease_arrives.trans (iff_of_eq (or_false _)).symm
  | cryptoMacInit => exact cryptoMacInit_arrives.trans (iff_of_eq (or_false _)).symm
  | cryptoMacProcess => exact cryptoMacProcess_arrives.trans (iff_of_eq (or_false _)).symm
  | cryptoMacProcessKey => exact cryptoMacProcessKey_arrives.trans (iff_of_eq (or_false _)).symm
  | cryptoMacCompute => exact cryptoMacCompute_arrives.trans (iff_of_eq (or_false _)).symm
  | cryptoMacRelease => exact cryptoMacRelease_arrives.trans (iff_of_eq (or_false _)).symm
  | cryptoSign => exact cryptoSign_arrives.trans (iff_of_eq (or_false _)).symm
  | svpSupported => exact svpSupported_arrives.trans (iff_of_eq (or_false _)).symm
  | svpBufferCreate => exact svpBufferCreate_arrives.trans (iff_of_eq (or_false _)).symm
  | svpBufferRelease => exact svpBufferRelease_arrives.trans (iff_of_eq (or_false _)).symm
  | svpBufferWrite => exact svpBufferWrite_arrives
  | svpBufferCopy => exact svpBufferCopy_arrives.trans (iff_of_eq (or_false _)).symm
  | svpKeyCheck => exact svpKeyCheck_arrives.trans (iff_of_eq (or_false _)).symm
  | svpBufferCheck => exact (svpBufferCheck_arrives _).trans (iff_of_eq (or_false _)).symm
  | processSample => exact processSample_arrives.trans (iff_of_eq (or_false _)).symm

/-- What the TA is called with for a call of an application, and what there is at the pointer that
it is called with for ElGamal. -/
theorem remote_eq_ok_iff (c : ClientMemory α) (uuid : SaUuid) (locals : Nat → UInt8)
    (call : SaCall α) (t : TaSaCall α) :
    (call.remote c uuid locals = .ok t ↔ Arrives c t call ∨ Garbled c locals t call) ∧
      ∀ request, call.request c = .ok request → ElGamalStands c request call :=
  ⟨remote_arrives c uuid locals call t, fun _ => elGamal_stands⟩

end Calls

end TaSecureApi
