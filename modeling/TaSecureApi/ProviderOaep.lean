import TaSecureApi.ProviderAsymCipher

namespace TaSecureApi
set_option autoImplicit true

/-- The parameters that were set, whichever context has them. -/
structure OaepSettings where
  paddingMode : Int
  digest : Option EvpDigest
  mgf1Digest : Option EvpDigest
  label : List UInt8

structure OaepRunParameters where
  md : EvpDigest
  mgf1Md : EvpDigest
  label : List UInt8

namespace OaepSettings

variable {PublicKey : Type} (library : AsymLibrary PublicKey) (given : OaepSettings)

def unset : OaepSettings := ⟨rsaPkcs1Padding, none, none, []⟩

/-- The defaults: SHA-1, the digest for the mask, and the empty label. -/
def parameters : OaepRunParameters :=
  let md := given.digest.getD (.sa .sha1)
  ⟨md, given.mgf1Digest.getD md, given.label⟩

def record : AsymSetting → OaepSettings
  | .padMode (.value mode) => { given with paddingMode := mode.value }
  | .oaepDigest (.value name) properties => { given with digest := library.fetched name properties }
  | .mgf1Digest (.value name) properties =>
    { given with mgf1Digest := library.fetched name properties }
  | .oaepLabel (.value label) => { given with label := label }
  | _ => given

/-- What was set by a call, up to the first parameter that could not be set. -/
def recordAll (c : ProviderAsymCipherContext PublicKey) (given : OaepSettings) :
    List AsymSetting → OaepSettings
  | [] => given
  | setting :: settings =>
    let set := c.set library setting
    if set.result then recordAll set.context (given.record library setting) settings else given

theorem parameters_mgf1Md :
    given.parameters.mgf1Md = given.mgf1Digest.getD given.parameters.md := rfl

def SharesDigest : Prop :=
  match given.mgf1Digest with
  | none => given.digest ≠ none
  | some md => md = given.parameters.md

/-- One digest is used for both, which is one of those of the TA, and the length of the label is an
`int`. -/
def Usable : Prop :=
  (∃ digest, given.parameters.md = .sa digest) ∧ given.SharesDigest ∧ given.label.length < 2 ^ 31

theorem SharesDigest.mgf1Md_eq {given : OaepSettings} (h : given.SharesDigest) :
    given.parameters.mgf1Md = given.parameters.md := by
  rw [SharesDigest] at h
  rw [parameters_mgf1Md]
  split at h
  next hnone => rw [hnone, Option.getD_none]
  next md hsome =>
    rw [hsome, Option.getD_some]
    exact h

end OaepSettings

/-- The calls on a context, of which a copy is followed on; a copy gets memory with some bytes. -/
inductive AsymStep (PublicKey : Type)
  | init (provkey : Option (Option PublicKey × SaKey)) (params : Option AsymCtxParams)
  | setParams (params : Option AsymCtxParams)
  | duplicate (memory : Nat → UInt8)

def AsymSetting.Finds {PublicKey : Type} (library : AsymLibrary PublicKey) : AsymSetting → Prop
  | .oaepDigest (.value name) properties | .mgf1Digest (.value name) properties =>
    properties = .invalid ∨ library.fetched name properties ≠ none
  | _ => True

section Runs

variable {PublicKey : Type} (library : AsymLibrary PublicKey)

abbrev AsymHistory (PublicKey : Type) := ProviderAsymCipherContext PublicKey × OaepSettings

def asymSettings (params : Option AsymCtxParams) : List AsymSetting :=
  (params.map AsymCtxParams.settings).getD []

/-- One call; nothing is left where there is no copy. -/
def AsymStep.apply (h : AsymHistory PublicKey) : AsymStep PublicKey → Option (AsymHistory PublicKey)
  | .init none params => some ((h.1.encryptInit library none params).context, h.2)
  | .init (some provkey) params =>
    let c := { h.1 with publicKey := provkey.1, privateKey := provkey.2 }
    some ((h.1.encryptInit library (some provkey) params).context,
      h.2.recordAll library c (asymSettings params))
  | .setParams params => some ((h.1.setCtxParams library params).context,
      h.2.recordAll library h.1 (asymSettings params))
  | .duplicate memory =>
    match h.1.dupctx library memory with
    | .derived copy => some (copy, h.2)
    | _ => none

def followAsym (h : AsymHistory PublicKey) : List (AsymStep PublicKey) →
    Option (AsymHistory PublicKey)
  | [] => some h
  | step :: steps => (step.apply library h).bind (followAsym · steps)

/-- All digests of a call can be fetched, and the memory for a copy has the label in it. -/
def AsymStep.Sound (h : AsymHistory PublicKey) : AsymStep PublicKey → Prop
  | .init none _ => True
  | .init (some _) params | .setParams params =>
    ∀ setting ∈ asymSettings params, setting.Finds library
  | .duplicate memory =>
    (List.range (h.1.oaepLabel.getD []).length).map memory = h.1.oaepLabel.getD []

/-- All calls of the sequence are sound. -/
def SoundSteps (h : AsymHistory PublicKey) : List (AsymStep PublicKey) → Prop
  | [] => True
  | step :: steps =>
    step.Sound library h ∧ ∀ h', step.apply library h = some h' → SoundSteps h' steps

/-- Encryption and decryption are asked for OAEP with the parameters that were set. -/
def RunsAsGiven (c : ProviderAsymCipherContext PublicKey) (given : OaepSettings) : Prop :=
  let parameters := given.parameters
  c.encryptOaep library = some ⟨some parameters.md, some parameters.mgf1Md, parameters.label,
      parameters.label.length⟩ ∧
    ∃ digest mgf1Digest, parameters.md = .sa digest ∧ parameters.mgf1Md = .sa mgf1Digest ∧
      c.decryptOaep library = some ⟨some digest, some mgf1Digest, parameters.label⟩

end Runs

section Proofs

variable {PublicKey : Type} {library : AsymLibrary PublicKey}
  {c : ProviderAsymCipherContext PublicKey} {given : OaepSettings}

structure KeepsSettings (c : ProviderAsymCipherContext PublicKey)
    (given : OaepSettings) : Prop where
  paddingMode : c.paddingMode = given.paddingMode
  digest : c.oaepMd = given.digest
  mgf1Digest : c.oaepMgf1Md = given.mgf1Digest
  label : c.oaepLabel.getD [] = given.label

/-- A fetched digest reaches the context, and a name that cannot be fetched is excluded. -/
theorem setMd_keeps {update : Option EvpDigest → ProviderAsymCipherContext PublicKey}
    {record : Option EvpDigest → OaepSettings} (h : KeepsSettings c given)
    (hupdate : ∀ md, KeepsSettings (update md) (record md))
    (hfinds : properties = .invalid ∨ library.fetched name properties ≠ none) :
    let set := c.setMd library update properties (.value name)
    KeepsSettings set.context
      (if set.result then record (library.fetched name properties) else given) := by
  intro set
  cases properties with
  | invalid => exact h
  | absent | value =>
    obtain ⟨md, hmd⟩ := Option.ne_none_iff_exists'.1 (hfinds.resolve_left nofun)
    have hset : set = .success (update (some md)) := by
      simp only [set, ProviderAsymCipherContext.setMd, hmd]
    rw [hset, hmd]
    exact hupdate (some md)

theorem set_keeps (h : KeepsSettings c given) (hfinds : setting.Finds library) :
    KeepsSettings (c.set library setting).context
      (if (c.set library setting).result then given.record library setting else given) := by
  cases setting with
  | oaepDigest name properties =>
    cases name with
    | absent | invalid => exact h
    | value name =>
      have hupdate (md : Option EvpDigest) :
          KeepsSettings { c with oaepMd := md } { given with digest := md } :=
        ⟨h.paddingMode, rfl, h.mgf1Digest, h.label⟩
      exact setMd_keeps h hupdate hfinds
  | padMode mode =>
    cases mode with
    | absent | invalid => exact h
    | value mode => exact ⟨rfl, h.digest, h.mgf1Digest, h.label⟩
  | mgf1Digest name properties =>
    cases name with
    | absent | invalid => exact h
    | value name =>
      have hupdate (md : Option EvpDigest) :
          KeepsSettings { c with oaepMgf1Md := md } { given with mgf1Digest := md } :=
        ⟨h.paddingMode, h.digest, rfl, h.label⟩
      exact setMd_keeps h hupdate hfinds
  | oaepLabel label =>
    cases label with
    | absent | wrongType | noData => exact h
    | value label =>
      rw [ProviderAsymCipherContext.set]
      split
      · exact ⟨h.paddingMode, h.digest, h.mgf1Digest, rfl⟩
      · exact h

theorem setAll_keeps (settings : List AsymSetting) (h : KeepsSettings c given)
    (hfinds : ∀ setting ∈ settings, setting.Finds library) :
    KeepsSettings (c.setAll library settings).context (given.recordAll library c settings) := by
  induction settings generalizing c given with
  | nil => exact h
  | cons setting settings ih =>
    obtain ⟨hfirst, hrest⟩ := List.forall_mem_cons.1 hfinds
    have hset := set_keeps h hfirst
    rw [ProviderAsymCipherContext.setAll, ProviderResult.andThen, OaepSettings.recordAll]
    dsimp only
    split_ifs at hset ⊢
    · exact ih hset hrest
    · exact hset

theorem setCtxParams_keeps (params : Option AsymCtxParams) (h : KeepsSettings c given)
    (hfinds : ∀ setting ∈ asymSettings params, setting.Finds library) :
    KeepsSettings (c.setCtxParams library params).context
      (given.recordAll library c (asymSettings params)) := by
  cases params with
  | none => exact h
  | some params => exact setAll_keeps params.settings h hfinds

theorem step_keeps {step : AsymStep PublicKey} (h : KeepsSettings c given)
    (hsound : step.Sound library (c, given))
    (happly : step.apply library (c, given) = some (c', g')) :
    KeepsSettings c' g' := by
  cases step with
  | init provkey params =>
    cases provkey with
    | none =>
      cases happly
      exact h
    | some provkey =>
      cases happly
      exact setCtxParams_keeps params ⟨h.paddingMode, h.digest, h.mgf1Digest, h.label⟩ hsound
  | setParams params =>
    cases happly
    exact setCtxParams_keeps params h hsound
  | duplicate memory =>
    simp only [AsymStep.apply, ProviderAsymCipherContext.dupctx] at happly
    split_ifs at happly
    cases happly
    exact ⟨h.paddingMode, h.digest, h.mgf1Digest, hsound.trans h.label⟩

theorem follow_keeps (steps : List (AsymStep PublicKey)) (h : KeepsSettings c given)
    (hsound : SoundSteps library (c, given) steps)
    (hfollow : followAsym library (c, given) steps = some (c', g')) : KeepsSettings c' g' := by
  induction steps generalizing c given with
  | nil =>
    cases hfollow
    exact h
  | cons step steps ih =>
    obtain ⟨hstep, hrest⟩ := hsound
    rw [followAsym] at hfollow
    obtain ⟨⟨c₁, g₁⟩, happly, hfollow⟩ := Option.bind_eq_some_iff.1 hfollow
    exact ih (step_keeps h hstep happly) (hrest _ happly) hfollow

theorem KeepsSettings.resolvedMd_eq (h : KeepsSettings c given) :
    c.resolvedMd library = some given.parameters.md := by
  rw [ProviderAsymCipherContext.resolvedMd, h.digest, OaepSettings.parameters]
  cases given.digest with
  | none => exact library.mdFetch_sha1
  | some md => rfl

theorem KeepsSettings.resolvedMgf1Md_iff (h : KeepsSettings c given) :
    c.resolvedMgf1Md library = some given.parameters.mgf1Md ↔ given.SharesDigest := by
  rw [ProviderAsymCipherContext.resolvedMgf1Md, h.resolvedMd_eq, h.mgf1Digest, h.digest,
    OaepSettings.SharesDigest, given.parameters_mgf1Md]
  cases given.mgf1Digest with
  | none => cases hdigest : given.digest <;> simp [OaepSettings.parameters, hdigest]
  | some md => simp [eq_comm]

theorem KeepsSettings.runsAsGiven_iff (h : KeepsSettings c given)
    (hoaep : given.paddingMode = rsaPkcs1OaepPadding) :
    RunsAsGiven library c given ↔ given.Usable := by
  have hmode : c.paddingMode = rsaPkcs1OaepPadding := h.paddingMode.trans hoaep
  have hlabel : given.label = given.parameters.label := rfl
  rw [RunsAsGiven, ProviderAsymCipherContext.encryptOaep, ProviderAsymCipherContext.decryptOaep,
    if_pos hmode, if_pos hmode, h.resolvedMd_eq, h.label, hlabel]
  constructor
  · rintro ⟨hencrypt, digest, mgf1Digest, hmd, -, -⟩
    injection hencrypt with hencrypt
    injection hencrypt with _ hmgf1Md _ hlength
    exact ⟨⟨digest, hmd⟩, h.resolvedMgf1Md_iff.1 hmgf1Md, castInt_eq_iff.1 hlength⟩
  · rintro ⟨⟨digest, hmd⟩, hshares, hlength⟩
    have hmgf1Md : c.resolvedMgf1Md library = some given.parameters.mgf1Md :=
      h.resolvedMgf1Md_iff.2 hshares
    have hsame := hshares.mgf1Md_eq
    have hcast : castInt given.parameters.label.length = given.parameters.label.length :=
      castInt_of_lt hlength
    rw [hmgf1Md, hcast]
    refine ⟨rfl, digest, digest, hmd, hsame.trans hmd, ?_⟩
    rw [hsame, hmd, digestAlgorithmFromMd]

end Proofs

namespace ProviderAsymCipherContext

/-- Along the runs where every digest is found and every copy has its label: OAEP is run with what
was set just when one digest is used for both. -/
theorem oaep_runsAsGiven_iff {PublicKey : Type} (library : AsymLibrary PublicKey)
    (steps : List (AsymStep PublicKey)) (c : ProviderAsymCipherContext PublicKey)
    (given : OaepSettings) (hsound : SoundSteps library (asymCipherNewctx, .unset) steps)
    (hfollow : followAsym library (asymCipherNewctx, .unset) steps = some (c, given))
    (hoaep : given.paddingMode = rsaPkcs1OaepPadding) :
    RunsAsGiven library c given ↔ given.Usable := by
  have hnew : KeepsSettings (@asymCipherNewctx PublicKey) .unset := ⟨rfl, rfl, rfl, rfl⟩
  exact (follow_keeps steps hnew hsound hfollow).runsAsGiven_iff hoaep

/-- OpenSSL with the digests of the TA, and with a key that is too short for OAEP. -/
def shaLibrary : AsymLibrary Unit where
  mdFetch name _ := (digestAlgorithmFromName name).map .sa
  mdFetch_sha1 := by decide
  allocates _ := true
  pkeyEncrypt _ _ _ _ := none
  saCryptoDecrypt _ _ _ := .error .invalidParameter

/-- Initialization for OAEP with a digest, and perhaps another one for the mask. -/
def initOaep (digest : String) (mgf1Digest : OsslParam String) : AsymStep Unit :=
  .init (some (some (), 1)) (some
    { oaepDigest := .value digest
      oaepDigestProps := .absent
      padMode := .value (.name "oaep")
      mgf1Digest := mgf1Digest
      mgf1DigestProps := .absent
      oaepLabel := .value [7] })

/-- The context and the settings after such an initialization. -/
def afterInitOaep (digest : String) (mgf1Digest : OsslParam String) : AsymHistory Unit :=
  ((initOaep digest mgf1Digest).apply shaLibrary (asymCipherNewctx, .unset)).getD
    (asymCipherNewctx, .unset)

theorem shaLibrary_fetched (h : digestAlgorithmFromName name ≠ none) :
    shaLibrary.fetched name .absent ≠ none :=
  fun hnone => h (Option.map_eq_none_iff.1 hnone)

theorem initOaep_sound (hdigest : digestAlgorithmFromName digest ≠ none)
    (hmgf1Digest : digestAlgorithmFromName mgf1Digest ≠ none) :
    (initOaep digest (.value mgf1Digest)).Sound shaLibrary (asymCipherNewctx, .unset) := by
  intro setting hsetting
  rcases setting with _ | _ | _ | _
  all_goals simp [asymSettings, AsymCtxParams.settings] at hsetting
  case oaepDigest =>
    obtain ⟨rfl, rfl⟩ := hsetting
    exact .inr (shaLibrary_fetched hdigest)
  case mgf1Digest =>
    obtain ⟨rfl, rfl⟩ := hsetting
    exact .inr (shaLibrary_fetched hmgf1Digest)
  all_goals trivial

theorem oaep_runsAsGiven_sha256 :
    RunsAsGiven shaLibrary (afterInitOaep "SHA256" (.value "SHA256")).1
        (afterInitOaep "SHA256" (.value "SHA256")).2 ↔
      (afterInitOaep "SHA256" (.value "SHA256")).2.Usable :=
  oaep_runsAsGiven_iff shaLibrary [initOaep "SHA256" (.value "SHA256"), .duplicate fun _ => 7] _ _
    ⟨initOaep_sound (by decide +kernel) (by decide +kernel),
      fun _ happly => ⟨by cases happly; rfl, fun _ _ => trivial⟩⟩
    rfl (by decide +kernel)

/-- With SHA-1, the digest for the mask is not the one that was set. -/
theorem oaep_not_runsAsGiven :
    ¬ ∀ (steps : List (AsymStep Unit)) (c : ProviderAsymCipherContext Unit) (given : OaepSettings),
        followAsym shaLibrary (asymCipherNewctx, .unset) steps = some (c, given) →
          given.paddingMode = rsaPkcs1OaepPadding → RunsAsGiven shaLibrary c given := by
  intro h
  have hruns := h [initOaep "SHA1" (.value "SHA256")] (afterInitOaep "SHA1" (.value "SHA256")).1
    (afterInitOaep "SHA1" (.value "SHA256")).2 rfl (by decide +kernel)
  have hset : (afterInitOaep "SHA1" (.value "SHA256")).2.parameters.mgf1Md = .sa .sha256 := by
    decide +kernel
  have hmask : ((afterInitOaep "SHA1" (.value "SHA256")).1.encryptOaep shaLibrary).bind
      OaepRequest.mgf1Md = some (.sa .sha1) := by decide +kernel
  rw [hruns.1, Option.bind_some, hset] at hmask
  cases hmask

end ProviderAsymCipherContext

end TaSecureApi
