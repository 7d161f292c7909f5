import TaSecureApi.ContainerResults

namespace TaSecureApi
set_option autoImplicit true

inductive SaKeyTypeTa
  | widevineOemProvisioning
  | playreadyModelProvisioning
  | appleMfiProvisioning
  | appleFairplayProvisioning
  | netflixProvisioning
  deriving DecidableEq

def SaKeyTypeTa.ofNumber : Nat → Option SaKeyTypeTa
  | 0 => some widevineOemProvisioning
  | 1 => some playreadyModelProvisioning
  | 2 => some appleMfiProvisioning
  | 3 => some appleFairplayProvisioning
  | 4 => some netflixProvisioning
  | _ => none

/-- The member with the key container, when the memory at `in` is read as
`WidevineOemProvisioning`, as `PlayReadyProvisioning` and as `NetflixProvisioning`. -/
structure ProvisioningObject where
  oemDevicePrivateKey : Option (List UInt8)
  privateKey : Option (List UInt8)
  encryptionKey : Option (List UInt8)

def ProvisioningObject.containers (object : ProvisioningObject) : List (List UInt8) :=
  [object.oemDevicePrivateKey, object.privateKey, object.encryptionKey].filterMap id

/-- The status that is returned, and the container that `soc_kc_unwrap` accepted, with the key that
it made of it; `none` is undefined behaviour of the parser. -/
structure Provisioned where
  status : SaStatus
  unwrapped : Option (List UInt8 × Option StoredKey)

section Provisioning

variable (libraries : Libraries) (unwritten : Unwritten)

/-- The form of the functions for the types of keys, with the member that has the container. -/
def provisionMember (member : ProvisioningObject → Option (List UInt8))
    (inp : Option ProvisioningObject) (parameters : Option SaImportParametersSoc) (client : Bool)
    (callerUuid : Option SaUuid) : Option Provisioned :=
  match inp, parameters with
  | none, _ => some ⟨.nullParameter, none⟩
  | some _, none => some ⟨.nullParameter, none⟩
  | some object, some parameters =>
    if client = false ∨ callerUuid = none then some ⟨.nullParameter, none⟩
    else match member object with
      | none => some ⟨.nullParameter, none⟩
      | some container =>
        (socKcUnwrap libraries unwritten container (some parameters)).map fun (status, storedKey) =>
          ⟨status, if status = .ok then some (container, storedKey) else none⟩

def taSaKeyProvisionWidevine :=
  provisionMember libraries unwritten ProvisioningObject.oemDevicePrivateKey

def taSaKeyProvisionPlayready := provisionMember libraries unwritten ProvisioningObject.privateKey

def taSaKeyProvisionNetflix := provisionMember libraries unwritten ProvisioningObject.encryptionKey

/-- The arguments of `ta_sa_key_provision`, and the status of `client_store_acquire`. -/
structure ProvisionCall where
  taKeyType : Nat
  inp : Option ProvisioningObject
  inLength : Nat
  parameters : Option SaImportParametersSoc
  callerUuid : Option SaUuid
  acquired : SaStatus

/-- `ta_sa_key_provision`; an unknown type leaves the status of `client_store_acquire`. -/
def taSaKeyProvision (call : ProvisionCall) : Option Provisioned :=
  if call.inp.isNone ∨ call.inLength = 0 then some ⟨.nullParameter, none⟩
  else if call.callerUuid = none then some ⟨.nullParameter, none⟩
  else if call.acquired ≠ .ok then some ⟨call.acquired, none⟩
  else
    match SaKeyTypeTa.ofNumber call.taKeyType with
    | some .widevineOemProvisioning =>
      taSaKeyProvisionWidevine libraries unwritten call.inp call.parameters true call.callerUuid
    | some .playreadyModelProvisioning =>
      taSaKeyProvisionPlayready libraries unwritten call.inp call.parameters true call.callerUuid
    | some .netflixProvisioning =>
      taSaKeyProvisionNetflix libraries unwritten call.inp call.parameters true call.callerUuid
    | _ => some ⟨call.acquired, none⟩

/-- `SA_STATUS_OK` comes only with a container of the input that has the whole tag and was unwrapped
to a key. -/
def ProvisionsAuthentic (call : ProvisionCall) : Prop :=
  ∀ unwrapped, taSaKeyProvision libraries unwritten call = some ⟨.ok, unwrapped⟩ →
    ∃ object container key, call.inp = some object ∧ container ∈ object.containers ∧
      unwrapped = some (container, some key) ∧ SocKeyOf libraries unwritten container key

end Provisioning

def provisionedMember : SaKeyTypeTa → Option (ProvisioningObject → Option (List UInt8))
  | .widevineOemProvisioning => some ProvisioningObject.oemDevicePrivateKey
  | .playreadyModelProvisioning => some ProvisioningObject.privateKey
  | .netflixProvisioning => some ProvisioningObject.encryptionKey
  | _ => none

def ProvisionCall.member (call : ProvisionCall) :
    Option (ProvisioningObject → Option (List UInt8)) :=
  (SaKeyTypeTa.ofNumber call.taKeyType).bind provisionedMember

/-- The call does not get to the type of the key. -/
def ProvisionCall.Refused (call : ProvisionCall) : Prop :=
  call.inp = none ∨ call.inLength = 0 ∨ call.callerUuid = none ∨ call.acquired ≠ .ok

/-- The call has a type with a function, and no container that `soc_kc_unwrap` accepts with the
beginning of its tag or without a key. -/
def ProvisionCall.Sound (libraries : Libraries) (unwritten : Unwritten) (call : ProvisionCall) :
    Prop :=
  ∃ member, call.member = some member ∧
    ∀ object container, call.inp = some object → member object = some container →
      ∀ parameters, call.parameters = some parameters →
        ¬SocShortTag libraries unwritten container (some parameters) ∧
          ¬SocForeignKey libraries unwritten container (some parameters)

section Calls

variable {libraries : Libraries} {unwritten : Unwritten} {call : ProvisionCall}

theorem taSaKeyProvision_eq (h : ¬call.Refused) : taSaKeyProvision libraries unwritten call =
    match call.member with
    | some member =>
      provisionMember libraries unwritten member call.inp call.parameters true call.callerUuid
    | none => some ⟨.ok, none⟩ := by
  simp only [ProvisionCall.Refused, not_or, not_not] at h
  obtain ⟨hinp, hlength, hcaller, hacquired⟩ := h
  have hpresent : ¬(call.inp.isNone ∨ call.inLength = 0) := by
    rw [Option.isNone_iff_eq_none]
    exact not_or.2 ⟨hinp, hlength⟩
  rw [taSaKeyProvision, if_neg hpresent, if_neg hcaller, if_neg (not_not_intro hacquired)]
  rw [ProvisionCall.member, hacquired]
  cases SaKeyTypeTa.ofNumber call.taKeyType with
  | none => rfl
  | some keyType =>
    cases keyType with
    | widevineOemProvisioning => rfl
    | playreadyModelProvisioning => rfl
    | appleMfiProvisioning => rfl
    | appleFairplayProvisioning => rfl
    | netflixProvisioning => rfl

theorem taSaKeyProvision_refused (h : call.Refused) :
    ∃ status, taSaKeyProvision libraries unwritten call = some ⟨status, none⟩ ∧ status ≠ .ok := by
  unfold taSaKeyProvision
  split
  · exact ⟨.nullParameter, rfl, nofun⟩
  next hpresent =>
    split
    · exact ⟨.nullParameter, rfl, nofun⟩
    next hcaller =>
      rw [Option.isNone_iff_eq_none, not_or] at hpresent
      have hacquired : call.acquired ≠ .ok :=
        ((h.resolve_left hpresent.1).resolve_left hpresent.2).resolve_left hcaller
      rw [if_pos hacquired]
      exact ⟨call.acquired, rfl, hacquired⟩

theorem provisionedMember_mem {object : ProvisioningObject}
    (h : provisionedMember keyType = some member) (hcontainer : member object = some container) :
    container ∈ object.containers := by
  apply List.mem_filterMap.2
  refine ⟨some container, ?_, rfl⟩
  rw [← hcontainer]
  cases keyType with
  | widevineOemProvisioning =>
    cases h
    exact .head _
  | playreadyModelProvisioning =>
    cases h
    exact .tail _ (.head _)
  | netflixProvisioning =>
    cases h
    exact .tail _ (.tail _ (.head _))
  | appleMfiProvisioning => nomatch h
  | appleFairplayProvisioning => nomatch h

/-- A function for a type of key succeeds exactly where `soc_kc_unwrap` accepts the container. -/
theorem provisionMember_eq_ok (hcaller : callerUuid ≠ none) :
    provisionMember libraries unwritten member inp parameters true callerUuid =
        some ⟨.ok, unwrapped⟩ ↔
      ∃ object parametersSoc container storedKey, inp = some object ∧
        parameters = some parametersSoc ∧ member object = some container ∧
        socKcUnwrap libraries unwritten container (some parametersSoc) = some (.ok, storedKey) ∧
        unwrapped = some (container, storedKey) := by
  unfold provisionMember
  cases inp with
  | none => exact iff_of_false nofun nofun
  | some object =>
    cases parameters with
    | none => exact iff_of_false nofun nofun
    | some parametersSoc =>
      have hpresent : ¬(true = false ∨ callerUuid = none) := not_or.2 ⟨by decide, hcaller⟩
      dsimp only
      rw [if_neg hpresent]
      cases hcontainer : member object with
      | none =>
        refine iff_of_false nofun ?_
        intro ⟨_, _, _, _, hobject, _, hmember, _⟩
        cases hobject
        nomatch hcontainer.symm.trans hmember
      | some container =>
        rw [Option.map_eq_some_iff]
        constructor
        · intro ⟨(status, storedKey), hunwrap, hresult⟩
          obtain ⟨rfl, hunwrapped⟩ := Provisioned.mk.inj hresult
          exact ⟨object, parametersSoc, container, storedKey, rfl, rfl, hcontainer, hunwrap,
            hunwrapped.symm⟩
        · intro ⟨_, _, container', storedKey, hobject, hparameters, hmember, hunwrap, hunwrapped⟩
          cases hobject
          cases hparameters
          cases hcontainer.symm.trans hmember
          exact ⟨(.ok, storedKey), hunwrap, by rw [hunwrapped]; rfl⟩

/-- A provisioning that succeeds comes from an authentic container unless the type of key is an
unknown one, or `soc_kc_unwrap` itself accepts what it should not. -/
theorem provisionsAuthentic_iff (libraries : Libraries) (unwritten : Unwritten)
    (call : ProvisionCall) : ProvisionsAuthentic libraries unwritten call ↔
      call.Refused ∨ call.Sound libraries unwritten := by
  by_cases hrefused : call.Refused
  · refine iff_of_true (fun unwrapped h => ?_) (.inl hrefused)
    obtain ⟨status, hresult, hstatus⟩ := taSaKeyProvision_refused hrefused
    rw [hresult] at h
    cases h
    exact absurd rfl hstatus
  · rw [or_iff_right hrefused, ProvisionsAuthentic, taSaKeyProvision_eq hrefused]
    have hcaller : call.callerUuid ≠ none := fun h => hrefused (.inr (.inr (.inl h)))
    unfold ProvisionCall.Sound
    cases hmember : call.member with
    | none =>
      refine iff_of_false (fun h => ?_) nofun
      obtain ⟨_, _, _, -, -, hunwrapped, -⟩ := h none rfl
      nomatch hunwrapped
    | some member =>
      have hkeyType : ∃ keyType, provisionedMember keyType = some member := by
        obtain ⟨keyType, -, hkeyType⟩ := Option.bind_eq_some_iff.1 hmember
        exact ⟨keyType, hkeyType⟩
      obtain ⟨keyType, hkeyType⟩ := hkeyType
      constructor
      · intro h
        refine ⟨member, rfl, fun object container hinp hcontainer parameters hparameters => ?_⟩
        apply socKcUnwrap_keyOf.1
        intro storedKey hunwrap
        obtain ⟨_, _, key, -, -, hunwrapped, hkey⟩ := h (some (container, storedKey))
          ((provisionMember_eq_ok hcaller).2
            ⟨object, parameters, container, storedKey, hinp, hparameters, hcontainer, hunwrap, rfl⟩)
        cases hunwrapped
        exact ⟨key, rfl, hkey⟩
      · intro ⟨_, hsame, hsound⟩ unwrapped hok
        cases hsame
        obtain ⟨object, parameters, container, storedKey, hinp, hparameters, hcontainer, hunwrap,
          rfl⟩ := (provisionMember_eq_ok hcaller).1 hok
        obtain ⟨key, rfl, hkey⟩ := socKcUnwrap_keyOf.2
          (hsound object container hinp hcontainer parameters hparameters) storedKey hunwrap
        exact ⟨object, container, key, hinp, provisionedMember_mem hkeyType hcontainer, rfl, hkey⟩

/-- A key type without a function is provisioned without a container. -/
theorem provisionsAuthentic_unknown : ¬∀ (libraries : Libraries) (unwritten : Unwritten)
    (call : ProvisionCall), ProvisionsAuthentic libraries unwritten call := by
  intro h
  let object : ProvisioningObject := ⟨some [], some [], some []⟩
  let call : ProvisionCall := ⟨2, some object, 1, none, some (.ofByte 1), .ok⟩
  have hresult : taSaKeyProvision (plainLibraries [] fun _ => none) zeroMemory call =
      some ⟨.ok, none⟩ := rfl
  obtain ⟨_, _, _, -, -, hunwrapped, -⟩ := h _ _ call none hresult
  nomatch hunwrapped

end Calls

end TaSecureApi
