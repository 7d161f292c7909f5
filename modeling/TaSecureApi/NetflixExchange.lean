import TaSecureApi.KeyAncestry
import TaSecureApi.StoreInvariant

namespace TaSecureApi
set_option autoImplicit true
open Wp

variable {Obj : Type}

/-- The handles that the exchange of Netflix gives out. -/
inductive NetflixOut
  | key
  | ke
  | kh
  deriving DecidableEq

/-- What is behind a pointer to a handle: what the caller has put there, or what a call has written.
-/
inductive OutHandle
  | sent (handle : Nat)
  | returned (handle : Nat)
  deriving DecidableEq

def OutHandle.value : OutHandle → Nat
  | sent handle | returned handle => handle

/-- The client's key store, the readings that were made, and `*key`, `*out_ke` and `*out_kh`. -/
structure ExchangeState where
  command : CommandState
  store : KeyStore
  handles : NetflixOut → OutHandle

def ExchangeState.withStore (σ : ExchangeState) (store : KeyStore) : ExchangeState :=
  { σ with store := store }

def ExchangeState.returning (σ : ExchangeState) (out : NetflixOut) (handle : Nat) : ExchangeState :=
  { σ with handles := Function.update σ.handles out (.returned handle) }

/-- `sa_key_exchange_parameters_netflix_authenticated_dh`; a pointer that is `NULL` is `none`, or
`false` for one to a handle. -/
structure NetflixParameters where
  inKw : Nat
  outKe : Bool
  rightsKe : Option SaRights
  outKh : Bool
  rightsKh : Option SaRights

/-- The arguments of `ta_sa_key_exchange`, with what `client_store_acquire` comes to. -/
structure NetflixArguments where
  key : Bool
  rights : Option SaRights
  privateKey : Nat
  otherPublic : Bool
  parameters : Option NetflixParameters
  callerUuid : Option SaUuid
  acquired : Except SaStatus Unit

/-- What the libraries come to: OpenSSL, and for each key the random bytes and the wrapping. -/
structure NetflixLibraries where
  kdf : NetflixKdf
  wraps : NetflixOut → Bool

abbrev Exchange (α : Type) := Prog ExchangeState SaStatus α

def onCommand (command : Command α) : Exchange α :=
  ExceptT.mk fun σ =>
    match command.run.run σ.command with
    | (result, command) => (result, { σ with command := command })

def nonNull : Option α → Exchange α
  | none => throw .nullParameter
  | some a => pure a

def isNonNull (pointer : Bool) : Exchange Unit :=
  if pointer then pure () else throw .nullParameter

def returnHandle (out : NetflixOut) (handle : Nat) : Exchange Unit :=
  modify (·.returning out handle)

/-- `key_store_import_stored_key`, which fails where the key is not wrapped. -/
def importWrapped (wraps : Bool) (store : KeyStore) (storedKey : StoredKey) (callerUuid : SaUuid) :
    SaStatus × Nat × KeyStore :=
  if wraps then keyStoreImportStoredKey store storedKey callerUuid
  else if rightsValidateFormat storedKey.header.rights ∧ keyTypeSupportsAny storedKey.header.type
      storedKey.header.typeParameters storedKey.header.size then
    (.internalError, slotInvalid, store)
  else (.invalidKeyFormat, slotInvalid, store)

def importNetflixKey (out : NetflixOut) (wraps : Bool) (storedKey : StoredKey)
    (callerUuid : SaUuid) : Exchange Unit := do
  let σ ← get
  match importWrapped wraps σ.store storedKey callerUuid with
  | (status, handle, store) =>
    set ((σ.withStore store).returning out handle)
    if status = .ok then pure () else throw status

def removeNetflixKey (out : NetflixOut) (callerUuid : SaUuid) : Exchange Unit := do
  let σ ← get
  if (σ.handles out).value ≠ slotInvalid then
    set (σ.withStore (keyStoreRemove σ.store (σ.handles out).value callerUuid).2)

/-- The exchange of Netflix as far as the two keys for encryption and authentication, with the
rights that restrict the third. -/
def netflixSecretKeys (world : World) (store : KeyStore) (callerUuid : SaUuid)
    (request : NetflixRequest) (kdf : NetflixKdf) :
    Command (SaRights × StoredKey × StoredKey) := do
  let storedKeyIn ← keyStoreUnwrap world store request.inKw callerUuid
  let inHeader := storedKeyIn.header
  checkDerive world inHeader.rights
  check (inHeader.type = .symmetric) .invalidKeyType
  let storedKeyPrivate ← keyStoreUnwrap world store request.privateKey callerUuid
  let privateHeader := storedKeyPrivate.header
  checkExchange world privateHeader.rights
  check (keyTypeSupportsDh privateHeader.type privateHeader.size) .invalidKeyType
  useKey .keyExchange privateHeader.rights
  let sharedSecret ← ofExcept ((computeSharedSecret inHeader.rights storedKeyPrivate
    kdf.derive).mapError fun _ => .invalidParameter)
  useKey .derive inHeader.rights
  let keys ← ofExcept (kdfNetflixSharedSecret request.rightsKe request.rightsKh storedKeyIn
    sharedSecret kdf.sharedSecret)
  let (enc, hmac) ← ofExcept (keys.elim (.error .nullParameter) .ok)
  pure (inHeader.rights, enc, hmac)

/-- The loop of `ta_sa_key_exchange_netflix_dh`, which is run once. -/
def netflixDhLoop (world : World) (callerUuid : SaUuid) (request : NetflixRequest)
    (libraries : NetflixLibraries) : Exchange Unit := do
  let σ ← get
  let (parentRights, enc, hmac) ← onCommand
    (netflixSecretKeys world σ.store callerUuid request libraries.kdf)
  importNetflixKey .ke (libraries.wraps .ke) enc callerUuid
  importNetflixKey .kh (libraries.wraps .kh) hmac callerUuid
  let wrap ← onCommand (ofExcept
    (kdfNetflixWrapping request.rights parentRights enc hmac libraries.kdf.wrapping))
  importNetflixKey .key (libraries.wraps .key) wrap callerUuid

/-- `ta_sa_key_exchange_netflix_dh`, with the pointers that its caller has checked. -/
def netflixDh (world : World) (callerUuid : SaUuid) (rights : SaRights) (privateKey : Nat)
    (parameters : NetflixParameters) (libraries : NetflixLibraries) : Exchange Unit := do
  returnHandle .key slotInvalid
  isNonNull parameters.outKe
  returnHandle .ke slotInvalid
  let rightsKe ← nonNull parameters.rightsKe
  isNonNull parameters.outKh
  returnHandle .kh slotInvalid
  let rightsKh ← nonNull parameters.rightsKh
  match ← outcome (netflixDhLoop world callerUuid ⟨rights, rightsKe, rightsKh, parameters.inKw,
    privateKey⟩ libraries) with
  | .ok () => pure ()
  | .error status =>
    removeNetflixKey .ke callerUuid
    removeNetflixKey .kh callerUuid
    removeNetflixKey .key callerUuid
    throw status

/-- `ta_sa_key_exchange`, for the exchange of Netflix. -/
def netflixExchange (world : World) (arguments : NetflixArguments)
    (libraries : NetflixLibraries) : Exchange Unit := do
  let callerUuid ← nonNull arguments.callerUuid
  isNonNull arguments.key
  let rights ← nonNull arguments.rights
  isNonNull arguments.otherPublic
  onCommand (ofExcept arguments.acquired)
  let parameters ← nonNull arguments.parameters
  netflixDh world callerUuid rights arguments.privateKey parameters libraries

theorem taSaKeyExchangeNetflixDh_eq : taSaKeyExchangeNetflixDh world store callerUuid request kdf =
    (do
      let (parentRights, enc, hmac) ← netflixSecretKeys world store callerUuid request kdf
      let wrap ← ofExcept (kdfNetflixWrapping request.rights parentRights enc hmac kdf.wrapping)
      pure ⟨enc, hmac, wrap⟩) := by
  simp only [taSaKeyExchangeNetflixDh, netflixSecretKeys, bind_assoc, pure_bind]

/-- Between the calls a free slot has no object and no references. -/
structure ObjectStore.Sound (store : ObjectStore Obj) : Prop where
  bits : BitsMatch store
  unreferenced : ∀ slot < store.slotCount, store.slots.isAllocated slot = false →
    (store.objects slot).referenceCount = 0

theorem StoreState.StoreInv.sound {σ : StoreState Obj} (h : σ.StoreInv) : σ.store.Sound where
  bits := h.table.bits
  unreferenced slot hlt hfree := by
    rw [h.hold.notHeld hlt]
    rintro held hmem rfl
    obtain ⟨-, hobject, -, -⟩ := h.hold.held held hmem
    have hbit := h.table.bits held.slot hlt
    rw [hfree, hobject] at hbit
    cases hbit

/-- A store holds what another one holds, and objects of a caller in some slots that were free. -/
structure Added (store : ObjectStore Obj) (slots : List Nat) (owner : SaUuid)
    (store' : ObjectStore Obj) : Prop where
  frame : SameFrame store store'
  allocated : ∀ s, store'.slots.isAllocated s = (decide (s ∈ slots) || store.slots.isAllocated s)
  fresh : ∀ s ∈ slots, s < store.slotCount ∧ store.slots.isAllocated s = false
  added : ∀ s ∈ slots, ∃ object, store'.objects s = ⟨some object, 0, owner⟩
  counts : ∀ s, (store'.objects s).referenceCount = (store.objects s).referenceCount
  objects : ∀ s ∉ slots, (store'.objects s).object = (store.objects s).object
  owners : ∀ s ∉ slots, (store.objects s).object.isSome →
    (store'.objects s).ownerUuid = (store.objects s).ownerUuid

/-- Two stores hold the same objects, with the same handles, owners and references, and have the
same free slots. -/
structure SameKeys (store store' : ObjectStore Obj) : Prop where
  frame : SameFrame store store'
  allocated : ∀ s, store'.slots.isAllocated s = store.slots.isAllocated s
  counts : ∀ s, (store'.objects s).referenceCount = (store.objects s).referenceCount
  objects : ∀ s, (store'.objects s).object = (store.objects s).object
  owners : ∀ s, (store.objects s).object.isSome →
    (store'.objects s).ownerUuid = (store.objects s).ownerUuid

/-- There is an object behind the handle. -/
def ObjectStore.Denotes (store : ObjectStore Obj) (handle : Nat) : Prop :=
  handle < store.slotCount ∧ (store.objects handle).object.isSome

section Adds

variable {store store' store'' : ObjectStore Obj} {slots : List Nat} {owner : SaUuid}

theorem ObjectStore.Sound.empty (h : store.Sound) (hlt : slot < store.slotCount)
    (hfree : store.slots.isAllocated slot = false) : (store.objects slot).object = none := by
  have hbit := h.bits slot hlt
  rw [hfree] at hbit
  exact Option.not_isSome_iff_eq_none.1 fun hsome => absurd (hbit.trans hsome) Bool.false_ne_true

theorem Added.refl (store : ObjectStore Obj) (owner : SaUuid) : Added store [] owner store where
  frame := ⟨rfl, rfl, rfl⟩
  allocated s := by simp
  fresh := by simp
  added := by simp
  counts _ := rfl
  objects _ _ := rfl
  owners _ _ _ := rfl

theorem Added.fill (h : Added store slots owner store') (hsound : store.Sound)
    (hfills : Fills store' slot object owner store'') :
    slot ∉ slots ∧ Added store (slot :: slots) owner store'' := by
  have hfree := hfills.free
  rw [h.allocated, Bool.or_eq_false_iff, decide_eq_false_iff_not] at hfree
  have hlt : slot < store.slotCount := h.frame.slotCount ▸ hfills.lt
  have hcount : (store'.objects slot).referenceCount = 0 :=
    (h.counts slot).trans (hsound.unreferenced slot hlt hfree.2)
  refine ⟨hfree.1, ?_⟩
  constructor
  · exact ⟨hfills.frame.slotCount.trans h.frame.slotCount,
      hfills.frame.isShuttingDown.trans h.frame.isShuttingDown,
      hfills.frame.releaseCount.trans h.frame.releaseCount⟩
  · intro s
    rw [hfills.allocated, h.allocated]
    simp [Bool.or_assoc]
  · intro s hs
    rcases List.mem_cons.1 hs with rfl | hs
    · exact ⟨hlt, hfree.2⟩
    · exact h.fresh s hs
  · intro s hs
    rw [hfills.objects, Function.update_apply]
    split_ifs with he
    · exact ⟨object, by rw [hcount]⟩
    · exact h.added s ((List.mem_cons.1 hs).resolve_left he)
  · intro s
    rw [hfills.objects, Function.update_apply]
    split_ifs with he
    · rw [he]
      exact h.counts slot
    · exact h.counts s
  · intro s hs
    rw [List.mem_cons, not_or] at hs
    rw [hfills.objects, Function.update_of_ne hs.1]
    exact h.objects s hs.2
  · intro s hs hsome
    rw [List.mem_cons, not_or] at hs
    rw [hfills.objects, Function.update_of_ne hs.1]
    exact h.owners s hs.2 hsome

theorem Added.remove (h : Added store slots owner store') (hsound : store.Sound)
    (hmem : slot ∈ slots) :
    Added store (slots.filter (· ≠ slot)) owner (objectStoreRemove store' slot owner).2 := by
  obtain ⟨hlt, hfree⟩ := h.fresh slot hmem
  obtain ⟨object, hobject⟩ := h.added slot hmem
  have hempty := hsound.empty hlt hfree
  rcases objectStoreRemove_cases store' slot owner with ⟨status, -, -, hcause⟩ |
    ⟨o, store'', hremove, hlt', -, hdeletes⟩
  · rw [hobject, h.frame.slotCount] at hcause
    rcases hcause with hge | hnone | howner | hcount
    · omega
    · cases hnone
    · exact absurd rfl howner
    · exact absurd rfl hcount
  · rw [hremove]
    have hmem_filter : ∀ s, s ∈ slots.filter (· ≠ slot) ↔ s ∈ slots ∧ s ≠ slot := by
      intro s
      rw [List.mem_filter, decide_eq_true_iff]
    constructor
    · exact ⟨hdeletes.frame.slotCount.trans h.frame.slotCount,
        hdeletes.frame.isShuttingDown.trans h.frame.isShuttingDown,
        hdeletes.frame.releaseCount.trans h.frame.releaseCount⟩
    · intro s
      rw [hdeletes.slots, slotsFree_isAllocated (store'.slots_slotCount ▸ hlt'), h.allocated]
      by_cases hs : s = slot
      · simp [hs, hfree]
      · simp [hs]
    · intro s hs
      exact h.fresh s ((hmem_filter s).1 hs).1
    · intro s hs
      obtain ⟨hs, hne⟩ := (hmem_filter s).1 hs
      rw [hdeletes.objects, Function.update_of_ne hne]
      exact h.added s hs
    · intro s
      rw [hdeletes.objects, Function.update_apply]
      split_ifs with hs
      · rw [hs, ← h.counts slot, hobject]
      · exact h.counts s
    · intro s hs
      rw [hdeletes.objects, Function.update_apply]
      split_ifs with he
      · rw [he, hempty]
      · exact h.objects s fun hin => hs ((hmem_filter s).2 ⟨hin, he⟩)
    · intro s hs hsome
      rw [hdeletes.objects, Function.update_apply]
      split_ifs with he
      · rw [he, hempty] at hsome
        cases hsome
      · exact h.owners s (fun hin => hs ((hmem_filter s).2 ⟨hin, he⟩)) hsome

theorem Added.sameKeys (h : Added store [] owner store') : SameKeys store store' where
  frame := h.frame
  allocated s := by
    rw [h.allocated]
    rfl
  counts := h.counts
  objects s := h.objects s List.not_mem_nil
  owners s := h.owners s List.not_mem_nil

theorem SameKeys.not_denotes (h : SameKeys store store') (hsound : store.Sound)
    (hfree : store.slots.isAllocated slot = false) : ¬ store'.Denotes slot := by
  rintro ⟨hlt, hsome⟩
  rw [h.frame.slotCount] at hlt
  rw [h.objects, hsound.empty hlt hfree] at hsome
  cases hsome

theorem not_denotes_slotInvalid (store : ObjectStore Obj) : ¬ store.Denotes slotInvalid :=
  fun h => Nat.lt_asymm h.1 store.slotCount_le

end Adds

section Rules

variable {σ : ExchangeState} {owner : SaUuid}

@[simp] theorem wp_onCommand {command : Command α} {Q : α → ExchangeState → Prop}
    {F : SaStatus → ExchangeState → Prop} : wp (onCommand command) Q F σ ↔
      wp command (fun a s => Q a { σ with command := s }) (fun e s => F e { σ with command := s })
        σ.command := by
  have hrun : (onCommand command).run.run σ = ((command.run.run σ.command).1,
      { σ with command := (command.run.run σ.command).2 }) := rfl
  unfold wp
  rw [hrun]
  generalize command.run.run σ.command = r
  obtain ⟨a | e, s⟩ := r <;> rfl

@[simp] theorem wp_nonNull {pointer : Option α} {Q : α → ExchangeState → Prop}
    {F : SaStatus → ExchangeState → Prop} : wp (nonNull pointer) Q F σ ↔
      (∀ a, pointer = some a → Q a σ) ∧ (pointer = none → F .nullParameter σ) := by
  cases pointer with
  | none => simp [nonNull]
  | some a => simp [nonNull]

@[simp] theorem wp_isNonNull {Q : Unit → ExchangeState → Prop}
    {F : SaStatus → ExchangeState → Prop} : wp (isNonNull pointer) Q F σ ↔
      (pointer = true → Q () σ) ∧ (¬ pointer = true → F .nullParameter σ) := by
  rw [isNonNull, wp_ite, wp_pure, wp_throw]

@[simp] theorem wp_returnHandle {Q : Unit → ExchangeState → Prop}
    {F : SaStatus → ExchangeState → Prop} : wp (returnHandle out handle) Q F σ ↔
      Q () (σ.returning out handle) := Iff.rfl

theorem importWrapped_cases (wraps : Bool) (store : KeyStore) (storedKey : StoredKey)
    (callerUuid : SaUuid) :
    (∃ status, importWrapped wraps store storedKey callerUuid = (status, slotInvalid, store) ∧
      status ≠ .ok) ∨
    ∃ slot store', importWrapped wraps store storedKey callerUuid = (.ok, slot, store') ∧
      keyStoreImportStoredKey store storedKey callerUuid = (.ok, slot, store') ∧
      Fills store slot storedKey callerUuid store' := by
  unfold importWrapped
  split_ifs with hwraps hformat
  · unfold keyStoreImportStoredKey
    split_ifs with hrefused
    · exact .inl ⟨_, rfl, nofun⟩
    · rcases objectStoreAdd_cases store (some storedKey) (some callerUuid) with
        ⟨status, slot, hadd, hne⟩ | ⟨o, u, slot, store', ho, hu, hadd, -, -, hfills⟩
      · rw [hadd, (objectStoreAdd_slot hadd hne).1]
        exact .inl ⟨status, rfl, hne⟩
      · cases ho
        cases hu
        exact .inr ⟨slot, store', hadd, hadd, hfills⟩
  · exact .inl ⟨_, rfl, nofun⟩
  · exact .inl ⟨_, rfl, nofun⟩

theorem wp_importNetflixKey {Q : Unit → ExchangeState → Prop}
    {F : SaStatus → ExchangeState → Prop}
    (hfills : ∀ slot store', keyStoreImportStoredKey σ.store storedKey owner = (.ok, slot, store') →
      Fills σ.store slot storedKey owner store' → Q () ((σ.withStore store').returning out slot))
    (hfails : ∀ status, F status (σ.returning out slotInvalid)) :
    wp (importNetflixKey out wraps storedKey owner) Q F σ := by
  simp only [importNetflixKey, wp_bind, wp_get]
  rcases importWrapped_cases wraps σ.store storedKey owner with ⟨status, himport, hne⟩ |
    ⟨slot, store', himport, hstored, hfill⟩
  · rw [himport]
    simp only [wp_set, wp_ite, wp_throw]
    exact ⟨fun h => absurd h hne, fun _ => hfails status⟩
  · rw [himport]
    simp only [wp_set, wp_ite, wp_pure, not_true, false_implies, and_true]
    exact fun _ => hfills slot store' hstored hfill

theorem wp_removeNetflixKey_slot {store : KeyStore} {Q : Unit → ExchangeState → Prop}
    {F : SaStatus → ExchangeState → Prop} (hhandle : σ.handles out = .returned slot)
    (hslot : slot < store.slotCount) : wp (removeNetflixKey out owner) Q F σ ↔
      Q () (σ.withStore (keyStoreRemove σ.store slot owner).2) := by
  have hne : slot ≠ slotInvalid := Nat.ne_of_lt (Nat.lt_trans hslot store.slotCount_le)
  simp only [removeNetflixKey, wp_bind, wp_get, wp_ite, wp_set, wp_pure, hhandle, OutHandle.value,
    hne, ne_eq, not_false_eq_true, true_implies, not_true, false_implies, and_true]

theorem wp_removeNetflixKey_invalid {Q : Unit → ExchangeState → Prop}
    {F : SaStatus → ExchangeState → Prop} (hhandle : σ.handles out = .returned slotInvalid) :
    wp (removeNetflixKey out owner) Q F σ ↔ Q () σ := by
  simp only [removeNetflixKey, wp_bind, wp_get, wp_ite, wp_set, wp_pure, hhandle, OutHandle.value,
    ne_eq, not_true, false_implies, not_false_eq_true, true_implies, true_and]

/-- What the loop leaves behind where it fails: the keys that it has imported are in slots that were
free, and their handles are returned. -/
inductive Pending (store : KeyStore) (owner : SaUuid) (σ : ExchangeState) : Prop
  | none (hkey : σ.handles .key = .returned slotInvalid)
      (hke : σ.handles .ke = .returned slotInvalid) (hkh : σ.handles .kh = .returned slotInvalid)
      (h : Added store [] owner σ.store)
  | ke (hkey : σ.handles .key = .returned slotInvalid) (hke : σ.handles .ke = .returned slotKe)
      (hkh : σ.handles .kh = .returned slotInvalid) (h : Added store [slotKe] owner σ.store)
  | both (hkey : σ.handles .key = .returned slotInvalid) (hke : σ.handles .ke = .returned slotKe)
      (hkh : σ.handles .kh = .returned slotKh) (hne : slotKh ≠ slotKe)
      (h : Added store [slotKh, slotKe] owner σ.store)

theorem netflixDhLoop_pending (hsound : σ.store.Sound)
    (hreturned : ∀ out, σ.handles out = .returned slotInvalid) :
    wp (netflixDhLoop world owner request libraries) (fun _ _ => True)
      (fun _ σ' => Pending σ.store owner σ') σ := by
  simp only [netflixDhLoop, wp_bind, wp_get, wp_onCommand]
  have hstart := Added.refl σ.store owner
  apply wp_of_forall
  · rintro ⟨parentRights, enc, hmac⟩ command
    apply wp_importNetflixKey
    · intro slotKe store₁ _ hfills₁
      obtain ⟨-, hadded₁⟩ := hstart.fill hsound hfills₁
      rw [wp_bind]
      apply wp_importNetflixKey
      · intro slotKh store₂ _ hfills₂
        obtain ⟨hne, hadded₂⟩ := hadded₁.fill hsound hfills₂
        rw [List.mem_singleton] at hne
        simp only [wp_bind, wp_onCommand]
        apply wp_of_forall
        · intro wrap command
          apply wp_importNetflixKey
          · exact fun _ _ _ _ => trivial
          · exact fun _ => .both rfl rfl rfl hne hadded₂
        · exact fun _ _ => .both (hreturned .key) rfl rfl hne hadded₂
      · exact fun _ => .ke (hreturned .key) rfl rfl hadded₁
    · exact fun _ => .none (hreturned .key) rfl (hreturned .kh) hstart
  · exact fun _ _ => .none (hreturned .key) (hreturned .ke) (hreturned .kh) hstart

theorem netflixDhLoop_imports : wp (netflixDhLoop world owner request libraries)
    (fun _ σ' => ∃ keys,
      (taSaKeyExchangeNetflixDh world σ.store owner request libraries.kdf).run.run σ.command =
        (.ok keys, σ'.command) ∧ KeyState.importNetflix σ.store owner keys = (true, σ'.store))
    (fun _ _ => True) σ := by
  simp only [netflixDhLoop, wp_bind, wp_get, wp_onCommand]
  apply (wp_run _ _).mono
  · rintro ⟨parentRights, enc, hmac⟩ command hsecret
    apply wp_importNetflixKey
    · intro slotKe store₁ hke _
      rw [wp_bind]
      apply wp_importNetflixKey
      · intro slotKh store₂ hkh _
        simp only [wp_bind, wp_onCommand]
        apply (wp_run _ _).mono
        · intro wrap command' hwrap
          apply wp_importNetflixKey
          · intro slot store₃ hkey _
            refine ⟨⟨enc, hmac, wrap⟩, ?_, ?_⟩
            · rw [taSaKeyExchangeNetflixDh_eq, run_bind_of_ok hsecret]
              exact run_bind_of_ok hwrap
            · change keyStoreImportStoredKey σ.store enc owner = _ at hke
              change keyStoreImportStoredKey store₁ hmac owner = _ at hkh
              change keyStoreImportStoredKey store₂ wrap owner = _ at hkey
              simp only [KeyState.importNetflix, hke, hkh, hkey]
              rfl
          · exact fun _ => trivial
        · exact fun _ _ _ => trivial
      · exact fun _ => trivial
    · exact fun _ => trivial
  · exact fun _ _ _ => trivial

/-- The store is as before, and no handle that was returned denotes a key. -/
structure Undone (store : KeyStore) (σ : ExchangeState) : Prop where
  keys : SameKeys store σ.store
  handles : ∀ out handle, σ.handles out = .returned handle → ¬ σ.store.Denotes handle

def AllReturned (σ : ExchangeState) : Prop := ∀ out, ∃ handle, σ.handles out = .returned handle

def FreeSlot (store : KeyStore) (handle : Nat) : Prop :=
  handle = slotInvalid ∨ store.slots.isAllocated handle = false

theorem undone_of_free (hsound : store.Sound) (hkeys : SameKeys store σ.store)
    (hkey : σ.handles .key = .returned slotInvalid) (hke : σ.handles .ke = .returned slotKe)
    (hkh : σ.handles .kh = .returned slotKh) (hfreeKe : FreeSlot store slotKe)
    (hfreeKh : FreeSlot store slotKh) : Undone store σ where
  keys := hkeys
  handles out handle hhandle := by
    have hfree : FreeSlot store handle := by
      cases out with
      | key =>
        cases hkey.symm.trans hhandle
        exact .inl rfl
      | ke =>
        cases hke.symm.trans hhandle
        exact hfreeKe
      | kh =>
        cases hkh.symm.trans hhandle
        exact hfreeKh
    rcases hfree with rfl | hfree
    · exact not_denotes_slotInvalid σ.store
    · exact hkeys.not_denotes hsound hfree

theorem Pending.allReturned (h : Pending store owner σ) : AllReturned σ := by
  intro out
  cases h with
  | none hkey hke hkh | ke hkey hke hkh | both hkey hke hkh =>
    cases out with
    | key => exact ⟨_, hkey⟩
    | ke => exact ⟨_, hke⟩
    | kh => exact ⟨_, hkh⟩

theorem Pending.undone (h : Pending store owner σ) (hsound : store.Sound) :
    wp (do
      removeNetflixKey .ke owner
      removeNetflixKey .kh owner
      removeNetflixKey .key owner
      throw status : Exchange Unit) (fun _ _ => True)
      (fun _ σ' => Undone store σ' ∧ AllReturned σ') σ := by
  have hall := h.allReturned
  cases h with
  | none hkey hke hkh h =>
    rw [wp_bind, wp_removeNetflixKey_invalid hke, wp_bind, wp_removeNetflixKey_invalid hkh, wp_bind,
      wp_removeNetflixKey_invalid hkey, wp_throw]
    exact ⟨undone_of_free hsound h.sameKeys hkey hke hkh (.inl rfl) (.inl rfl), hall⟩
  | @ke slotKe hkey hke hkh h =>
    have hmem := List.mem_singleton_self slotKe
    obtain ⟨hlt, hfree⟩ := h.fresh slotKe hmem
    have hkey₁ : (σ.withStore (keyStoreRemove σ.store slotKe owner).2).handles .key = _ := hkey
    have hkh₁ : (σ.withStore (keyStoreRemove σ.store slotKe owner).2).handles .kh = _ := hkh
    rw [wp_bind, wp_removeNetflixKey_slot hke hlt, wp_bind, wp_removeNetflixKey_invalid hkh₁,
      wp_bind,
      wp_removeNetflixKey_invalid hkey₁, wp_throw]
    have hremoved := h.remove hsound hmem
    have hnone : [slotKe].filter (· ≠ slotKe) = [] := by simp
    rw [hnone] at hremoved
    exact ⟨undone_of_free hsound hremoved.sameKeys hkey hke hkh (.inr hfree) (.inl rfl), hall⟩
  | @both slotKe slotKh hkey hke hkh hne h =>
    have hmemKe : slotKe ∈ [slotKh, slotKe] := by simp
    have hmemKh : slotKh ∈ [slotKh, slotKe].filter (· ≠ slotKe) := by simp [hne]
    obtain ⟨hltKe, hfreeKe⟩ := h.fresh slotKe hmemKe
    obtain ⟨hltKh, hfreeKh⟩ := h.fresh slotKh List.mem_cons_self
    let σ₁ := σ.withStore (keyStoreRemove σ.store slotKe owner).2
    have hkh₁ : σ₁.handles .kh = _ := hkh
    have hkey₂ : (σ₁.withStore (keyStoreRemove σ₁.store slotKh owner).2).handles .key = _ := hkey
    rw [wp_bind, wp_removeNetflixKey_slot hke hltKe, wp_bind, wp_removeNetflixKey_slot hkh₁ hltKh,
      wp_bind, wp_removeNetflixKey_invalid hkey₂, wp_throw]
    have hremoved := (h.remove hsound hmemKe).remove hsound hmemKh
    have hnone : ([slotKh, slotKe].filter (· ≠ slotKe)).filter (· ≠ slotKh) = [] := by simp [hne]
    rw [hnone] at hremoved
    exact ⟨undone_of_free hsound hremoved.sameKeys hkey hke hkh (.inr hfreeKe) (.inr hfreeKh), hall⟩

def NoneReturned (σ : ExchangeState) : Prop :=
  ∀ out handle, σ.handles out = .returned handle → handle = slotInvalid

theorem NoneReturned.undone (h : NoneReturned σ) : Undone σ.store σ where
  keys := (Added.refl σ.store ⟨.replicate 16 0⟩).sameKeys
  handles out handle hhandle := by
    rw [h out handle hhandle]
    exact not_denotes_slotInvalid σ.store

theorem NoneReturned.returning (h : NoneReturned σ) (out : NetflixOut) :
    NoneReturned (σ.returning out slotInvalid) := by
  intro out' handle hhandle
  simp only [ExchangeState.returning, Function.update_apply] at hhandle
  split_ifs at hhandle
  · cases hhandle
    rfl
  · exact h out' handle hhandle

/-- No pointer of the parameters is `NULL`. -/
structure NetflixParameters.Given (parameters : NetflixParameters) : Prop where
  outKe : parameters.outKe
  rightsKe : parameters.rightsKe ≠ none
  outKh : parameters.outKh
  rightsKh : parameters.rightsKh ≠ none

theorem netflixDh_undone (hsound : σ.store.Sound) (hnone : NoneReturned σ) :
    wp (netflixDh world owner rights privateKey parameters libraries) (fun _ _ => True)
      (fun _ σ' => Undone σ.store σ' ∧ (parameters.Given → AllReturned σ')) σ := by
  have hnone₁ := hnone.returning .key
  have hnone₂ := hnone₁.returning .ke
  have hnone₃ := hnone₂.returning .kh
  simp only [netflixDh, wp_bind, wp_returnHandle, wp_isNonNull, wp_nonNull, wp_outcome]
  refine ⟨fun _ => ⟨fun rightsKe _ => ⟨fun _ => ⟨fun rightsKh _ => ?_, fun hnull => ?_⟩,
    fun hnull => ?_⟩, fun hnull => ?_⟩, fun hnull => ?_⟩
  · let σ₃ := ((σ.returning .key slotInvalid).returning .ke slotInvalid).returning .kh slotInvalid
    have hsound₃ : σ₃.store.Sound := hsound
    have hall : ∀ out, σ₃.handles out = .returned slotInvalid := by
      intro out
      cases out with
      | key | ke | kh => rfl
    apply (netflixDhLoop_pending hsound₃ hall).mono
    · exact fun _ _ _ => trivial
    · intro status σ' hpending
      apply (hpending.undone hsound).mono
      · exact fun _ _ _ => trivial
      · exact fun _ _ h => ⟨h.1, fun _ => h.2⟩
  · exact ⟨hnone₃.undone, fun h => absurd hnull h.rightsKh⟩
  · exact ⟨hnone₂.undone, fun h => absurd h.outKh hnull⟩
  · exact ⟨hnone₂.undone, fun h => absurd hnull h.rightsKe⟩
  · exact ⟨hnone₁.undone, fun h => absurd h.outKe hnull⟩

/-- No pointer of the arguments is `NULL`, and the client is there. -/
structure NetflixArguments.Complete (arguments : NetflixArguments) : Prop where
  callerUuid : arguments.callerUuid ≠ none
  key : arguments.key
  rights : arguments.rights ≠ none
  otherPublic : arguments.otherPublic
  acquired : arguments.acquired = .ok ()
  parameters : ∃ parameters, arguments.parameters = some parameters ∧ parameters.Given

/-- Where the exchange of Netflix fails, the store is as before and no handle that it has written
denotes a key. -/
theorem netflixExchange_undone (hsound : σ.store.Sound) (hnone : NoneReturned σ) :
    wp (netflixExchange world arguments libraries) (fun _ _ => True)
      (fun _ σ' => Undone σ.store σ' ∧ (arguments.Complete → AllReturned σ')) σ := by
  simp only [netflixExchange, wp_bind, wp_isNonNull, wp_nonNull, wp_onCommand, wp_ofExcept]
  refine ⟨fun callerUuid _ => ⟨fun _ => ⟨fun rights _ => ⟨fun _ => ⟨fun _ _ =>
    ⟨fun parameters hparameters => ?_, fun hnull => ?_⟩, fun status hfails => ?_⟩, fun hnull => ?_⟩,
    fun hnull => ?_⟩, fun hnull => ?_⟩, fun hnull => ?_⟩
  · apply (netflixDh_undone hsound hnone).mono
    · exact fun _ _ _ => trivial
    · rintro status σ' ⟨hundone, hall⟩
      refine ⟨hundone, fun hcomplete => hall ?_⟩
      obtain ⟨parameters', hparameters', hgiven⟩ := hcomplete.parameters
      cases hparameters.symm.trans hparameters'
      exact hgiven
  · refine ⟨hnone.undone, fun hcomplete => ?_⟩
    obtain ⟨parameters, hparameters, -⟩ := hcomplete.parameters
    cases hnull.symm.trans hparameters
  · refine ⟨hnone.undone, fun hcomplete => ?_⟩
    cases hfails.symm.trans hcomplete.acquired
  · exact ⟨hnone.undone, fun hcomplete => absurd hcomplete.otherPublic hnull⟩
  · exact ⟨hnone.undone, fun hcomplete => absurd hnull hcomplete.rights⟩
  · exact ⟨hnone.undone, fun hcomplete => absurd hcomplete.key hnull⟩
  · exact ⟨hnone.undone, fun hcomplete => absurd hnull hcomplete.callerUuid⟩

end Rules

/-- The arguments that `ta_invoke_key_exchange` passes on: the addresses of the handle and the
rights in the command, and of those in its copy of the parameters, which goes back to the client. -/
def invokeArguments (callerUuid : SaUuid) (request : NetflixRequest)
    (acquired : Except SaStatus Unit) : NetflixArguments where
  key := true
  rights := some request.rights
  privateKey := request.privateKey
  otherPublic := true
  parameters := some ⟨request.inKw, true, some request.rightsKe, true, some request.rightsKh⟩
  callerUuid := some callerUuid
  acquired := acquired

theorem invokeArguments_complete (h : acquired = .ok ()) :
    (invokeArguments callerUuid request acquired).Complete where
  callerUuid := nofun
  key := rfl
  rights := nofun
  otherPublic := rfl
  acquired := h
  parameters := ⟨_, rfl, rfl, nofun, rfl, nofun⟩

/-- The exchange of Netflix is atomic: where it fails, the key store of the client is as before, and
no handle that it has returned denotes a key. Of the handles that go back to the client none does.
-/
theorem netflixExchange_atomic {store : KeyStore} {σ : StoreState StoredKey}
    (hinit : objectStoreInit count = some store)
    (hrun : Transition.exec StoreState.next (.init store) actions = some σ)
    (world : World) (command : CommandState) (sent : NetflixOut → Nat)
    (libraries : NetflixLibraries) :
    (∀ arguments, wp (netflixExchange world arguments libraries) (fun _ _ => True)
      (fun _ σ' => Undone σ.store σ') ⟨command, σ.store, fun out => .sent (sent out)⟩) ∧
    ∀ callerUuid request acquired,
      wp (netflixExchange world (invokeArguments callerUuid request acquired) libraries)
        (fun _ _ => True)
        (fun _ σ' => Undone σ.store σ' ∧ (acquired = .ok () →
          ∀ out, ¬ σ'.store.Denotes (σ'.handles out).value))
        ⟨command, σ.store, fun out => .sent (sent out)⟩ := by
  have hsound : σ.store.Sound := ((StoreState.StoreInv.init hinit).exec hrun).sound
  have hnone : NoneReturned ⟨command, σ.store, fun out => .sent (sent out)⟩ := by
    intro out handle hhandle
    cases hhandle
  constructor
  · intro arguments
    apply (netflixExchange_undone hsound hnone).mono
    · exact fun _ _ _ => trivial
    · exact fun _ _ h => h.1
  · intro callerUuid request acquired
    apply (netflixExchange_undone hsound hnone).mono
    · exact fun _ _ _ => trivial
    · rintro status σ' ⟨hundone, hall⟩
      refine ⟨hundone, fun hacquired out => ?_⟩
      obtain ⟨handle, hhandle⟩ := hall (invokeArguments_complete hacquired) out
      rw [hhandle]
      exact hundone.handles out handle hhandle

def dhPrivateKey (usageFlags : BitVec 64) : StoredKey :=
  ⟨⟨(aesKey usageFlags 0).header.rights, .dh, .zero, 256⟩, List.replicate 256 7⟩

/-- The keys that an exchange of Netflix is made with are put into the store. -/
def netflixStoreRun : List (Action StoredKey) :=
  [.add ⟨.ofByte 1, 0⟩ (some (aesKey (saUsageBitMask .derive) 0)),
    .add ⟨.ofByte 1, 0⟩ (some (dhPrivateKey (saUsageBitMask .keyExchange)))]

/-- Libraries of which all but the wrapping of the third key succeed. -/
def lastWrapFails : NetflixLibraries where
  kdf := ⟨fun _ => .ok (List.replicate 256 1), fun _ _ => .ok (some (.replicate 48 2)),
    fun _ _ => .ok (.replicate 32 3)⟩
  wraps out := out ≠ .key

/-- The exchange of the two keys, which stops when the other two are in the store. -/
def failingExchange : Exchange Unit :=
  netflixExchange (fun _ => noOutputs) (invokeArguments (.ofByte 1)
    ⟨(aesKey 0 0).header.rights, (aesKey 0 0).header.rights, (aesKey 0 0).header.rights, 31, 30⟩
    (.ok ())) lastWrapFails

/-- Both keys are put into free slots, and removed where the third one is not wrapped. -/
theorem netflixExchange_atomic_lastWrap : ∃ σ σ',
    Transition.exec StoreState.next (.init noKeys) netflixStoreRun = some σ ∧
      failingExchange.run.run ⟨⟨0, []⟩, σ.store, fun _ => .sent 7⟩ = (.error .internalError, σ') ∧
      σ.store.Denotes 31 ∧ σ.store.Denotes 30 ∧ σ'.handles .ke = .returned 29 ∧
      σ'.handles .kh = .returned 28 ∧ Undone σ.store σ' ∧
      ∀ out, ¬ σ'.store.Denotes (σ'.handles out).value := by
  have hinit : objectStoreInit 32 = some noKeys := (Option.some_get _).symm
  have hends : (Transition.exec StoreState.next (.init noKeys) netflixStoreRun).any (fun σ =>
      let ended := failingExchange.run.run ⟨⟨0, []⟩, σ.store, fun _ => .sent 7⟩
      decide (ended.1 = .error .internalError ∧ ended.2.handles .ke = .returned 29 ∧
        ended.2.handles .kh = .returned 28 ∧ σ.store.slotCount = 32 ∧
        (σ.store.objects 31).object.isSome ∧ (σ.store.objects 30).object.isSome)) = true := by
    decide +kernel
  obtain ⟨σ, hrun, hended⟩ := (Option.any_eq_true _ _).1 hends
  obtain ⟨hfails, hke, hkh, hcount, h31, h30⟩ := of_decide_eq_true hended
  have hatomic := (netflixExchange_atomic hinit hrun (fun _ => noOutputs) ⟨0, []⟩ (fun _ => 7)
    lastWrapFails).2 (.ofByte 1) ⟨(aesKey 0 0).header.rights, (aesKey 0 0).header.rights,
      (aesKey 0 0).header.rights, 31, 30⟩ (.ok ())
  change wp failingExchange _ _ _ at hatomic
  unfold wp at hatomic
  generalize hrest : failingExchange.run.run ⟨⟨0, []⟩, σ.store, fun _ => .sent 7⟩ = ended at *
  obtain ⟨result, σ'⟩ := ended
  obtain rfl : result = .error .internalError := hfails
  exact ⟨σ, σ', hrun, hrest, ⟨by omega, h31⟩, ⟨by omega, h30⟩, hke, hkh, hatomic.1, hatomic.2 rfl⟩

end TaSecureApi
