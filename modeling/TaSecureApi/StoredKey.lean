import TaSecureApi.Command
import TaSecureApi.ObjectStore

namespace TaSecureApi
set_option autoImplicit true
open Wp

structure StoredKey where
  header : SaHeader
  key : List UInt8
  deriving DecidableEq

def keyOnlyMask : BitVec 64 := ~~~saUsageBitMask .unwrap &&& saKeyUsageMask

/-- `restrict_child_rights`; a key made without a parent has no root rights. -/
def restrictChildRights (rights : SaRights) : Option SaRights → SaRights
  | none => rights
  | some rootrights =>
    if rootrights.usageFlags &&& keyOnlyMask ≠ 0 ∨ rootrights.childUsageFlags = 0 then
      let disallowed := ~~~rootrights.usageFlags &&& saUsageOutputProtectionsMask
      { rights with usageFlags := rights.usageFlags &&& ~~~disallowed }
    else
      let disallowed := ~~~rootrights.childUsageFlags &&& saKeyUsageMask
      { rights with usageFlags := rights.usageFlags &&& ~~~disallowed }

def storedKeyCreate (rights : SaRights) (parentRights : Option SaRights) (keyType : SaKeyType)
    (typeParameters : SaTypeParameters) (size : Nat) (inp : List UInt8) :
    Except SaStatus StoredKey := do
  require (keyTypeSupportsAny keyType typeParameters size) .invalidParameter
  require (rightsValidateFormat rights) .invalidParameter
  pure {
    header := {
      rights := restrictChildRights rights parentRights
      type := keyType
      typeParameters := typeParameters
      size := size }
    key := inp }

def storedKeyImport (rights : SaRights) (keyType : SaKeyType) (typeParameters : SaTypeParameters)
    (size : Nat) (inp : List UInt8) : Except SaStatus StoredKey :=
  storedKeyCreate rights none keyType typeParameters size inp

theorem storedKeyCreate_ok
    (h : storedKeyCreate rights parentRights keyType typeParameters size inp = .ok storedKey) :
    keyTypeSupportsAny keyType typeParameters size = true ∧ rightsValidateFormat rights = true ∧
      storedKey = ⟨⟨restrictChildRights rights parentRights, keyType, typeParameters, size⟩,
        inp⟩ := by
  simp only [storedKeyCreate, bind_eq_ok, require_eq_ok, exists_const] at h
  obtain ⟨hs, hf, h⟩ := h
  cases h
  exact ⟨hs, hf, rfl⟩

/-- The key store as its callers see it: keys behind handles. -/
abbrev KeyStore := ObjectStore StoredKey

/-- `object_store_remove` between the commands, when no object is referenced: one pass of its loop.
-/
def objectStoreRemove {Obj : Type} (store : ObjectStore Obj) (slot : Nat) (callerUuid : SaUuid) :
    SaStatus × ObjectStore Obj :=
  if slot ≥ store.slotCount then (.invalidParameter, store)
  else
    match storeRemoveLocked store slot (some callerUuid) with
    | (.wait, _) => (.internalError, store)
    | (.leave status _, store) => (status, store)

/-- `object_store_remove` fails and changes nothing, or takes out an object of the caller. -/
theorem objectStoreRemove_cases {Obj : Type} (store : ObjectStore Obj) (slot : Nat) (u : SaUuid) :
    (∃ status, objectStoreRemove store slot u = (status, store) ∧ status ≠ .ok ∧
      (store.slotCount ≤ slot ∨ (store.objects slot).object = none ∨
        (store.objects slot).ownerUuid ≠ u ∨ (store.objects slot).referenceCount ≠ 0)) ∨
    ∃ o store', objectStoreRemove store slot u = (.ok, store') ∧ slot < store.slotCount ∧
      (store.objects slot).ownerUuid = u ∧ Deletes store slot o store' := by
  unfold objectStoreRemove
  split_ifs with hslot
  · exact .inl ⟨_, rfl, by simp, .inl hslot⟩
  · rcases storeRemoveLocked_cases store slot (some u) with ⟨status, h, hne, hcause⟩ | ⟨o, h, -, -,
      hcount⟩ | ⟨o, store', h, howner, hd⟩
    · rw [h]
      refine .inl ⟨status, rfl, hne, .inr ?_⟩
      rcases hcause with hnone | ⟨u', hu, howner⟩
      · exact .inl hnone
      · cases hu
        exact .inr (.inl howner)
    · rw [h]
      exact .inl ⟨_, rfl, by simp, .inr (.inr (.inr hcount))⟩
    · rw [h]
      exact .inr ⟨o, store', rfl, by omega, howner u rfl, hd⟩

def keyStoreRemove : KeyStore → Nat → SaUuid → SaStatus × KeyStore := objectStoreRemove

def keyStoreUnwrap (world : World) (store : KeyStore) (key : Nat) (callerUuid : SaUuid) :
    Command StoredKey :=
  match objectStoreAcquire store key (some callerUuid) with
  | (.ok, some storedKey, _) => do
    let reading ← poll world
    check (keyStoreAllowed storedKey.header.rights callerUuid reading) .operationNotAllowed
    pure storedKey
  | (status, _, _) => throw status

theorem wp_keyStoreUnwrap {world : World} {store : KeyStore} {s : CommandState}
    {Q : StoredKey → CommandState → Prop} {F : SaStatus → CommandState → Prop}
    (hok : ∀ storedKey, (store.objects key).object = some storedKey →
      (store.objects key).ownerUuid = callerUuid →
      keyStoreAllowed storedKey.header.rights callerUuid (world s.clock) = true →
      Q storedKey { s with clock := s.clock + 1 })
    (herror : ∀ e clock, F e { s with clock := clock }) :
    wp (keyStoreUnwrap world store key callerUuid) Q F s := by
  unfold keyStoreUnwrap
  rcases objectStoreAcquire_cases store key (some callerUuid) with
    ⟨status, ha, hne⟩ | ⟨o, u, hu, -, -, ho, howner, ha⟩
  · rw [ha]
    cases status with
    | ok => exact absurd rfl hne
    | _ => exact herror _ s.clock
  · cases hu
    rw [ha]
    simp only [wp_bind, wp_poll, wp_check, wp_pure]
    exact ⟨hok o ho howner, fun _ => herror _ _⟩

/-- `key_store_import_stored_key`, which keeps a copy of the key. -/
def keyStoreImportStoredKey (store : KeyStore) (storedKey : StoredKey) (callerUuid : SaUuid) :
    SaStatus × Nat × KeyStore :=
  if ¬ rightsValidateFormat storedKey.header.rights ∨ ¬ keyTypeSupportsAny storedKey.header.type
      storedKey.header.typeParameters storedKey.header.size then
    (.invalidKeyFormat, slotInvalid, store)
  else objectStoreAdd store (some storedKey) (some callerUuid)

end TaSecureApi
