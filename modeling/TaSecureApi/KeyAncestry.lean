import TaSecureApi.KeyRuns
import TaSecureApi.CommonEncryption
import TaSecureApi.Lib.Transition

namespace TaSecureApi
set_option autoImplicit true
open Wp Transition

/-- The output protections of some usage flags that other usage flags do not have. -/
def excessOutputs (usageFlags parentFlags : BitVec 64) : BitVec 64 :=
  usageFlags &&& saUsageOutputProtectionsMask &&& ~~~parentFlags

/-- The output protections of the rights are a subset of those of other rights. -/
def SaRights.OutputsWithin (rights parentRights : SaRights) : Prop :=
  excessOutputs rights.usageFlags parentRights.usageFlags = 0

/-- A key that can do nothing but unwrap, and says what the unwrapped keys can do. -/
def SaRights.UnwrapOnly (rights : SaRights) : Prop :=
  rights.usageFlags &&& keyOnlyMask = 0 ∧ rights.childUsageFlags ≠ 0

instance : Decidable (SaRights.OutputsWithin rights parentRights) := by
  unfold SaRights.OutputsWithin
  infer_instance

instance : Decidable (SaRights.UnwrapOnly rights) := by
  unfold SaRights.UnwrapOnly
  infer_instance

namespace Creation

/-- The keys that were used as the parent, the wrapping or the private key. -/
def uses (c : Creation) : List StoredKey := c.parent.toList ++ c.other.toList

/-- What is asked for, of what the code does not restrict: by a wrapping key that can only unwrap
and has child usage flags, all output protections; by the second of two keys, those that the first
one has. -/
structure Tight (c : Creation) : Prop where
  parent : ∀ p ∈ c.parent, p.header.rights.UnwrapOnly →
    c.requested.OutputsWithin p.header.rights
  other : ∀ p ∈ c.parent, ∀ o ∈ c.other,
    excessOutputs (c.requested.usageFlags &&& p.header.rights.usageFlags)
      o.header.rights.usageFlags = 0

/-- How the code restricts the rights of a created key. -/
structure Restricted (c : Creation) : Prop where
  child : c.child.header.rights =
    restrictChildRights c.requested (c.parent.map fun p => p.header.rights)
  other : c.other.isSome → ∃ p ∈ c.parent, ¬ p.header.rights.UnwrapOnly

end Creation

/-- The first branch of `restrict_child_rights` takes the output protections away that the parent
does not have. -/
theorem excessOutputs_restrict (rights : SaRights) {p : SaRights} (h : ¬ p.UnwrapOnly)
    (flags : BitVec 64) : excessOutputs (restrictChildRights rights (some p)).usageFlags flags =
      excessOutputs (rights.usageFlags &&& p.usageFlags) flags := by
  have hbranch : p.usageFlags &&& keyOnlyMask ≠ 0 ∨ p.childUsageFlags = 0 := by
    by_contra hn
    rw [not_or, not_not] at hn
    exact h hn
  simp only [restrictChildRights, if_pos hbranch, excessOutputs]
  apply BitVec.eq_of_getLsbD_eq
  intro i hi
  simp only [BitVec.getLsbD_and, BitVec.getLsbD_not, hi, decide_true, Bool.true_and]
  cases rights.usageFlags.getLsbD i <;> cases p.usageFlags.getLsbD i <;>
    cases saUsageOutputProtectionsMask.getLsbD i <;> cases flags.getLsbD i <;> rfl

theorem excessOutputs_restrict_unwrapOnly (rights : SaRights) {p : SaRights} (h : p.UnwrapOnly)
    (flags : BitVec 64) : excessOutputs (restrictChildRights rights (some p)).usageFlags flags =
      excessOutputs rights.usageFlags flags := by
  have hbranch : ¬ (p.usageFlags &&& keyOnlyMask ≠ 0 ∨ p.childUsageFlags = 0) := by
    rw [not_or, not_not]
    exact h
  simp only [restrictChildRights, if_neg hbranch, excessOutputs]
  apply BitVec.eq_of_getLsbD_eq
  intro i hi
  have hdisjoint : (saUsageOutputProtectionsMask &&& saKeyUsageMask).getLsbD i = false := by
    have hzero : saUsageOutputProtectionsMask &&& saKeyUsageMask = 0#64 := by decide
    rw [hzero, BitVec.getLsbD_zero]
  rw [BitVec.getLsbD_and] at hdisjoint
  simp only [BitVec.getLsbD_and, BitVec.getLsbD_not, hi, decide_true, Bool.true_and]
  revert hdisjoint
  cases rights.usageFlags.getLsbD i <;> cases saKeyUsageMask.getLsbD i <;>
    cases saUsageOutputProtectionsMask.getLsbD i <;> cases flags.getLsbD i <;>
    cases p.childUsageFlags.getLsbD i <;> simp

theorem excessOutputs_and_self (a b : BitVec 64) : excessOutputs (a &&& b) b = 0 := by
  unfold excessOutputs
  apply BitVec.eq_of_getLsbD_eq
  intro i hi
  simp only [BitVec.getLsbD_and, BitVec.getLsbD_not, hi, decide_true, Bool.true_and,
    BitVec.ofNat_eq_ofNat, BitVec.getLsbD_zero]
  cases a.getLsbD i <;> cases b.getLsbD i <;> simp

theorem Creation.Restricted.tight_iff {c : Creation} (h : c.Restricted) :
    (∀ u ∈ c.uses, c.child.header.rights.OutputsWithin u.header.rights) ↔ c.Tight := by
  obtain ⟨requested, parent, other, child⟩ := c
  have hchild := h.child
  have hother := h.other
  dsimp only at hchild hother
  cases parent with
  | none =>
    cases other with
    | none => exact ⟨fun _ => ⟨by simp, by simp⟩, fun _ => by simp [Creation.uses]⟩
    | some o =>
      obtain ⟨p, hp, -⟩ := hother rfl
      cases hp
  | some p =>
    simp only [Option.map_some] at hchild
    have hparent : child.header.rights.OutputsWithin p.header.rights ↔
        (p.header.rights.UnwrapOnly → requested.OutputsWithin p.header.rights) := by
      by_cases hu : p.header.rights.UnwrapOnly
      · simp only [SaRights.OutputsWithin, hchild, excessOutputs_restrict_unwrapOnly _ hu, hu,
          forall_const]
      · simp only [SaRights.OutputsWithin, hchild, excessOutputs_restrict _ hu,
          excessOutputs_and_self, hu, false_implies]
    cases other with
    | none =>
      constructor
      · intro hw
        refine ⟨?_, by simp⟩
        rintro _ ⟨⟩
        exact hparent.1 (hw p (by simp [Creation.uses]))
      · intro ht u hu
        simp only [Creation.uses, Option.toList_some, Option.toList_none, List.append_nil,
          List.mem_singleton] at hu
        subst hu
        exact hparent.2 (ht.parent u rfl)
    | some o =>
      obtain ⟨_, ⟨⟩, hu⟩ := hother rfl
      have hsecond : child.header.rights.OutputsWithin o.header.rights ↔
          excessOutputs (requested.usageFlags &&& p.header.rights.usageFlags)
            o.header.rights.usageFlags = 0 := by
        rw [SaRights.OutputsWithin, hchild, excessOutputs_restrict _ hu]
      constructor
      · intro hw
        constructor
        · rintro _ ⟨⟩
          exact hparent.1 (hw p (by simp [Creation.uses]))
        · rintro _ ⟨⟩ _ ⟨⟩
          exact hsecond.1 (hw o (by simp [Creation.uses]))
      · intro ht u huses
        simp only [Creation.uses, Option.toList_some, List.cons_append, List.nil_append,
          List.mem_cons, List.not_mem_nil, or_false] at huses
        rcases huses with rfl | rfl
        · exact hparent.2 (ht.parent _ rfl)
        · exact hsecond.2 (ht.other p rfl _ rfl)

/-- The key is created with the requested rights as the rights of the parent restrict them. -/
def StoredKey.CreatedFrom (child : StoredKey) (requested : SaRights) (parent : StoredKey) : Prop :=
  child.header.rights = restrictChildRights requested (some parent.header.rights)

theorem storedKeyCreate_rights
    (h : storedKeyCreate rights parentRights keyType typeParameters size inp = .ok storedKey) :
    storedKey.header.rights = restrictChildRights rights parentRights := by
  obtain ⟨-, -, rfl⟩ := storedKeyCreate_ok h
  rfl

theorem importKey_rights
    (h : importKey pkcs8 rights wrappingKeyRights keyType parameters inp = .ok storedKey) :
    storedKey.header.rights = restrictChildRights rights (some wrappingKeyRights) := by
  unfold importKey at h
  split at h
  · cases h
  · cases h
  · dsimp only at h
    split_ifs at h
    exact storedKeyCreate_rights h
  · dsimp only at h
    split_ifs at h
    exact storedKeyCreate_rights h
  · exact storedKeyCreate_rights h

theorem unwrapEc_rights {wrapping : StoredKey} {opened : List UInt8 → Except SaStatus (List UInt8)}
    (h : unwrapEc pkcs8 rights wrapping inLength offset keyLength opened = .ok storedKey) :
    storedKey.CreatedFrom rights wrapping := by
  simp only [unwrapEc, bind_eq_ok, require_eq_ok, exists_const] at h
  obtain ⟨-, -, _, -, -, -, _, -, -, h⟩ := h
  exact importKey_rights h

theorem computeSharedSecret_rights
    (h : computeSharedSecret rights parent derive = .ok storedKey) :
    storedKey.CreatedFrom rights parent := by
  simp only [computeSharedSecret, bind_eq_ok] at h
  obtain ⟨_, -, h⟩ := h
  exact storedKeyCreate_rights h

theorem kdfNetflixWrapping_rights
    (h : kdfNetflixWrapping rights parentRights enc hmac kdf = .ok storedKey) :
    storedKey.header.rights = restrictChildRights rights (some parentRights) := by
  simp only [kdfNetflixWrapping, bind_eq_ok, require_eq_ok, exists_const] at h
  obtain ⟨-, -, _, -, h⟩ := h
  exact storedKeyCreate_rights h

theorem kdfNetflixSharedSecret_rights {storedKeyIn : StoredKey}
    (h : kdfNetflixSharedSecret rightsEnc rightsHmac storedKeyIn sharedSecret kdf =
      .ok (some (enc, hmac))) :
    enc.CreatedFrom rightsEnc storedKeyIn ∧ hmac.CreatedFrom rightsHmac storedKeyIn := by
  simp only [kdfNetflixSharedSecret, bind_eq_ok, require_eq_ok, exists_const] at h
  obtain ⟨-, keyBytes, -, h⟩ := h
  cases keyBytes with
  | none => cases h
  | some keyBytes =>
    simp only [bind_eq_ok] at h
    obtain ⟨enc', henc, hmac', hhmac, h⟩ := h
    cases h
    exact ⟨storedKeyCreate_rights henc, storedKeyCreate_rights hhmac⟩

theorem some_of_elim {α : Type} {o : Option α} {status : SaStatus} {a : α}
    (h : o.elim (.error status) .ok = (.ok a : Except SaStatus α)) : o = some a := by
  cases o with
  | none => cases h
  | some a' =>
    cases h
    rfl

theorem not_unwrapOnly_of_derive (h : rightsAllowedDerive rights reading = true) :
    ¬ rights.UnwrapOnly := by
  rintro ⟨hmask, -⟩
  have hbit := (rightsAllowedUsage_iff.1 h).1
  rw [saUsageBitTest_eq] at hbit
  have hflag := congrArg (fun b => BitVec.getLsbD b SaUsageFlag.derive.bit) hmask
  have hkey : keyOnlyMask.getLsbD SaUsageFlag.derive.bit = true := by decide
  simp only [BitVec.getLsbD_and, hkey, hbit] at hflag
  cases hflag

section Specifications

variable {world : World} {store : KeyStore} {s : CommandState} {pkcs8 : Pkcs8}
  {opened : List UInt8 → Except SaStatus (List UInt8)}

def CreatesFrom (store : KeyStore) (requested : SaRights) (parent : Nat)
    (command : Command StoredKey) (s : CommandState) : Prop :=
  wp command (fun child _ => ∃ p, (store.objects parent).object = some p ∧
    child.CreatedFrom requested p) (fun _ _ => True) s

theorem keyDeriveFrom_creates : CreatesFrom store rights parent
    (keyDeriveFrom supports world store callerUuid rights parent parameters kdf) s := by
  simp only [CreatesFrom, keyDeriveFrom, wp_bind, wp_ofExcept, implies_true, and_true]
  intro _ _
  apply wp_keyStoreUnwrap
  · intro p hp _ _
    simp only [wp_bind, checkDerive, wp_checkRights, wp_check, wp_useKey, wp_ofExcept,
      implies_true, and_true]
    intro _ _ _ _ _ child hchild
    exact ⟨p, hp, storedKeyCreate_rights hchild⟩
  · intro _ _
    trivial

theorem keyUnwrapWith_creates : CreatesFrom store request.rights request.wrappingKey
    (keyUnwrapWith supports world store pkcs8 callerUuid request parameters opened) s := by
  simp only [CreatesFrom, keyUnwrapWith, wp_bind, wp_ofExcept, implies_true, and_true]
  intro _ _
  apply wp_keyStoreUnwrap
  · intro p hp _ _
    simp only [wp_bind, checkUnwrap, wp_checkRights, wp_check, wp_useKey, wp_ofExcept,
      implies_true, and_true]
    intro _ _ _ _ child hchild
    exact ⟨p, hp, importKey_rights hchild⟩
  · intro _ _
    trivial

theorem taSaKeyUnwrapRsa_creates : CreatesFrom store request.rights request.wrappingKey
    (taSaKeyUnwrapRsa world store pkcs8 callerUuid request inLength opened) s := by
  simp only [CreatesFrom, taSaKeyUnwrapRsa, wp_bind, wp_check, implies_true, and_true]
  intro _
  apply wp_keyStoreUnwrap
  · intro p hp _ _
    simp only [wp_bind, checkUnwrap, wp_checkRights, wp_check, wp_useKey, wp_ofExcept,
      implies_true, and_true]
    intro _ _ _ _ _ child hchild
    exact ⟨p, hp, importKey_rights hchild⟩
  · intro _ _
    trivial

theorem taSaKeyUnwrapEc_creates : CreatesFrom store request.rights request.wrappingKey
    (taSaKeyUnwrapEc world store pkcs8 callerUuid request parameters inLength offset keyLength
      opened) s := by
  simp only [CreatesFrom, taSaKeyUnwrapEc, wp_bind, wp_check, wp_ofExcept, implies_true, and_true]
  intro _ _ _
  apply wp_keyStoreUnwrap
  · intro p hp _ _
    simp only [wp_bind, checkUnwrap, wp_checkRights, wp_check, wp_useKey, wp_ofExcept,
      implies_true, and_true]
    intro _ _ child hchild
    exact ⟨p, hp, unwrapEc_rights hchild⟩
  · intro _ _
    trivial

theorem keyExchangeWith_creates : CreatesFrom store rights privateKey
    (keyExchangeWith supports world store callerUuid rights privateKey derive) s := by
  simp only [CreatesFrom, keyExchangeWith, wp_bind]
  apply wp_keyStoreUnwrap
  · intro p hp _ _
    simp only [wp_bind, checkExchange, wp_checkRights, wp_check, wp_useKey, wp_ofExcept,
      implies_true, and_true]
    intro _ _ child hchild
    exact ⟨p, hp, computeSharedSecret_rights hchild⟩
  · intro _ _
    trivial

/-- What the derivation of Netflix makes: the rights of the second key do not come in. -/
theorem taSaKeyDeriveNetflix_creates :
    wp (taSaKeyDeriveNetflix world store callerUuid rights kenc khmac kdf)
      (fun child _ => ∃ enc, (store.objects kenc).object = some enc ∧
        ¬ enc.header.rights.UnwrapOnly ∧ child.CreatedFrom rights enc) (fun _ _ => True) s := by
  simp only [taSaKeyDeriveNetflix, wp_bind]
  apply wp_keyStoreUnwrap
  · intro enc henc _ _
    simp only [wp_bind, checkDerive, wp_checkRights, wp_check, implies_true, and_true]
    intro hderive _
    apply wp_keyStoreUnwrap
    · intro hmac _ _ _
      simp only [wp_bind, wp_checkRights, wp_check, wp_useKey, wp_ofExcept, implies_true, and_true]
      intro _ _ child hchild
      exact ⟨enc, henc, not_unwrapOnly_of_derive hderive, kdfNetflixWrapping_rights hchild⟩
    · intro _ _
      trivial
  · intro _ _
    trivial

/-- What the exchange of Netflix makes: the rights of the private key do not come in. -/
theorem taSaKeyExchangeNetflixDh_creates :
    wp (taSaKeyExchangeNetflixDh world store callerUuid request kdf)
      (fun keys _ => ∃ p, (store.objects request.inKw).object = some p ∧
        ¬ p.header.rights.UnwrapOnly ∧ keys.enc.CreatedFrom request.rightsKe p ∧
        keys.hmac.CreatedFrom request.rightsKh p ∧ keys.wrap.CreatedFrom request.rights p)
      (fun _ _ => True) s := by
  simp only [taSaKeyExchangeNetflixDh, wp_bind]
  apply wp_keyStoreUnwrap
  · intro p hp _ _
    simp only [wp_bind, checkDerive, wp_checkRights, wp_check, implies_true, and_true]
    intro hderive _
    apply wp_keyStoreUnwrap
    · intro privateKey _ _ _
      simp only [wp_bind, checkExchange, wp_checkRights, wp_check, wp_useKey, wp_ofExcept,
        wp_pure, implies_true, and_true]
      intro _ _ sharedSecret _ made hmade keys hkeys wrap hwrap
      rw [some_of_elim hkeys] at hmade
      obtain ⟨henc, hhmac⟩ := kdfNetflixSharedSecret_rights hmade
      exact ⟨p, hp, not_unwrapOnly_of_derive hderive, henc, hhmac,
        kdfNetflixWrapping_rights hwrap⟩
    · intro _ _
      trivial
  · intro _ _
    trivial

end Specifications

section Runs

variable {world : World} {σ σ' : KeyState} {pkcs8 : Pkcs8}

/-- Every key that a run has created is restricted by its first parent only. -/
def KeyState.AllRestricted (σ : KeyState) : Prop := ∀ c ∈ σ.created, c.Restricted

theorem KeyState.create_restricted (hI : σ.AllRestricted)
    (h : wp command (fun child _ =>
        (⟨requested, parent.bind σ.keyAt, other.bind σ.keyAt, child⟩ : Creation).Restricted)
      (fun _ _ => True) ⟨σ.clock, []⟩) :
    (σ.create command callerUuid requested parent other).AllRestricted := by
  unfold create
  split
  · exact hI
  · rename_i child s hrun
    split
    · intro c hc
      rcases List.mem_cons.1 hc with rfl | hc
      · exact h.of_ok hrun
      · exact hI c hc
    · exact hI

theorem KeyState.create_restricted_of_createsFrom (hI : σ.AllRestricted)
    (h : CreatesFrom σ.store requested parent command ⟨σ.clock, []⟩) :
    (σ.create command callerUuid requested (some parent) none).AllRestricted := by
  apply create_restricted hI
  apply wp.mono h
  · rintro child s ⟨p, hp, hchild⟩
    constructor
    · simp only [Option.bind_some, keyAt, hp, Option.map_some]
      exact hchild
    · rintro ⟨⟩
  · intro _ _ _
    trivial

theorem KeyState.exchangeNetflixDh_restricted (hI : σ.AllRestricted) :
    (σ.exchangeNetflixDh world callerUuid request kdf).AllRestricted := by
  unfold exchangeNetflixDh
  dsimp only
  split
  · exact hI
  · rename_i keys s hrun
    obtain ⟨p, hp, hu, henc, hhmac, hwrap⟩ := taSaKeyExchangeNetflixDh_creates.of_ok hrun
    have hrestricted : ∀ {requested child}, child.CreatedFrom requested p →
        (⟨requested, σ.keyAt request.inKw, σ.keyAt request.privateKey, child⟩ :
          Creation).Restricted := by
      intro requested child hchild
      constructor
      · simp only [keyAt, hp, Option.map_some]
        exact hchild
      · intro _
        exact ⟨p, hp, hu⟩
    split
    · intro c hc
      simp only [List.mem_cons] at hc
      rcases hc with rfl | rfl | rfl | hc
      · exact hrestricted hwrap
      · exact hrestricted hhmac
      · exact hrestricted henc
      · exact hI c hc
    · exact hI

theorem KeyState.step_restricted (hI : σ.AllRestricted) (h : step pkcs8 world σ a = some σ') :
    σ'.AllRestricted := by
  cases a with
  | add callerUuid storedKey =>
    cases h
    exact hI
  | remove callerUuid key =>
    cases h
    exact hI
  | deriveRootKeyLadder callerUuid rights parameters ladder =>
    cases h
    apply create_restricted hI
    simp only [taSaKeyDeriveRootKeyLadder, wp_bind, wp_ofExcept, implies_true, and_true]
    intro _ _ _ _ child hchild
    exact ⟨storedKeyCreate_rights hchild, by rintro ⟨⟩⟩
  | deriveAnsiX963 | deriveConcat | deriveCmac | deriveHkdf =>
    cases h
    exact create_restricted_of_createsFrom hI keyDeriveFrom_creates
  | deriveNetflix callerUuid rights kenc khmac kdf =>
    cases h
    apply create_restricted hI
    apply wp.mono taSaKeyDeriveNetflix_creates
    · rintro child s ⟨enc, henc, hu, hchild⟩
      constructor
      · simp only [Option.bind_some, keyAt, henc, Option.map_some]
        exact hchild
      · intro _
        exact ⟨enc, henc, hu⟩
    · intro _ _ _
      trivial
  | unwrapAes | unwrapChacha20 =>
    cases h
    exact create_restricted_of_createsFrom hI keyUnwrapWith_creates
  | unwrapRsa =>
    cases h
    exact create_restricted_of_createsFrom hI taSaKeyUnwrapRsa_creates
  | unwrapEc =>
    cases h
    exact create_restricted_of_createsFrom hI taSaKeyUnwrapEc_creates
  | exchangeDh | exchangeEcdh =>
    cases h
    exact create_restricted_of_createsFrom hI keyExchangeWith_creates
  | exchangeNetflixDh =>
    cases h
    exact exchangeNetflixDh_restricted hI

end Runs

/-- After every run of key commands: the output protections of all created keys are among those of
the keys they were created with if and only if every creation asked for as much as the code
restricts, or for less. -/
theorem keyAncestry_outputs (pkcs8 : Pkcs8) (world : World) (store : KeyStore)
    (actions : List KeyAction) (σ : KeyState)
    (hrun : exec (KeyState.step pkcs8 world) (.start store) actions = some σ) :
    (∀ c ∈ σ.created, ∀ u ∈ c.uses, c.child.header.rights.OutputsWithin u.header.rights) ↔
      ∀ c ∈ σ.created, c.Tight := by
  have hI : σ.AllRestricted := by
    apply exec_invariant_of_step (fun s a s' hI ha => KeyState.step_restricted hI ha) _ hrun
    intro c hc
    cases hc
  constructor
  · intro h c hc
    exact (hI c hc).tight_iff.1 (h c hc)
  · intro h c hc
    exact (hI c hc).tight_iff.2 (h c hc)

def noKeys : KeyStore := (objectStoreInit 32).get objectStoreInit_isSome

def aesKey (usageFlags childUsageFlags : BitVec 64) : StoredKey :=
  ⟨⟨{ allRights with usageFlags := usageFlags, childUsageFlags := childUsageFlags }, .symmetric,
    .zero, 16⟩, List.replicate 16 7⟩

/-- A key that can only unwrap, without output protections, and the request for a key that can
decrypt with the output protections. -/
def unwrapOnlyRun (outputs : BitVec 64) : List KeyAction :=
  [.add (.ofByte 1) (aesKey (saUsageBitMask .unwrap) (saUsageBitMask .decrypt)),
    .unwrapAes (.ofByte 1) ⟨(aesKey (saUsageBitMask .decrypt ||| outputs) 0).header.rights,
      .symmetric, none, 31⟩ (.ok ()) fun _ => .ok (List.replicate 16 9)]

/-- What a derivation of Netflix gets from a first key that has `SVP_OPTIONAL` and a second one that
has not. -/
def netflixRun : List KeyAction :=
  [.add (.ofByte 1) (aesKey (saUsageBitMask .derive ||| saUsageBitMask .svpOptional) 0),
    .add (.ofByte 1) ⟨⟨(aesKey (saUsageBitMask .derive) 0).header.rights, .symmetric, .zero, 32⟩,
      List.replicate 32 7⟩,
    .deriveNetflix (.ofByte 1) (aesKey (saUsageBitMask .svpOptional) 0).header.rights 31 30
      fun _ _ => .ok (.replicate 32 9)]

/-- Some key that a run created has output protections that a key it was made with has not. -/
def loosens (σ : KeyState) : Bool :=
  σ.created.any fun c => c.uses.any fun u =>
    !decide (c.child.header.rights.OutputsWithin u.header.rights)

theorem exists_of_loosens {σ : KeyState} (h : loosens σ = true) :
    ∃ c ∈ σ.created, ∃ u ∈ c.uses, ¬ c.child.header.rights.OutputsWithin u.header.rights := by
  obtain ⟨c, hc, h⟩ := List.any_eq_true.1 h
  obtain ⟨u, hu, h⟩ := List.any_eq_true.1 h
  exact ⟨c, hc, u, hu, by simpa using h⟩

/-- The unwrapped key, and the derived one, need no SVP although a key they were made with does. -/
theorem keyAncestry_loosens :
    (∃ σ, exec (KeyState.step (fun _ => none) fun _ => noOutputs) (.start noKeys)
        (unwrapOnlyRun (saUsageBitMask .svpOptional)) = some σ ∧
      ∃ c ∈ σ.created, ∃ u ∈ c.uses, ¬ c.child.header.rights.OutputsWithin u.header.rights) ∧
    ∃ σ, exec (KeyState.step (fun _ => none) fun _ => noOutputs) (.start noKeys) netflixRun =
        some σ ∧
      ∃ c ∈ σ.created, ∃ u ∈ c.uses, ¬ c.child.header.rights.OutputsWithin u.header.rights := by
  have hunwrap : (exec (KeyState.step (fun _ => none) fun _ => noOutputs) (.start noKeys)
      (unwrapOnlyRun (saUsageBitMask .svpOptional))).any loosens = true := by
    decide +kernel
  have hnetflix : (exec (KeyState.step (fun _ => none) fun _ => noOutputs) (.start noKeys)
      netflixRun).any loosens = true := by
    decide +kernel
  obtain ⟨σ, hrun, h⟩ := Option.any_eq_true .. |>.1 hunwrap
  obtain ⟨σ', hrun', h'⟩ := Option.any_eq_true .. |>.1 hnetflix
  exact ⟨⟨σ, hrun, exists_of_loosens h⟩, ⟨σ', hrun', exists_of_loosens h'⟩⟩

theorem keyAncestry_outputs_unwrap :
    ∃ σ, exec (KeyState.step (fun _ => none) fun _ => noOutputs) (.start noKeys)
        (unwrapOnlyRun 0#64) = some σ ∧ σ.created ≠ [] ∧
      ((∀ c ∈ σ.created, ∀ u ∈ c.uses, c.child.header.rights.OutputsWithin u.header.rights) ↔
        ∀ c ∈ σ.created, c.Tight) := by
  have h : (exec (KeyState.step (fun _ => none) fun _ => noOutputs) (.start noKeys)
      (unwrapOnlyRun 0#64)).any (fun σ => !σ.created.isEmpty) = true := by
    decide +kernel
  obtain ⟨σ, hrun, h⟩ := Option.any_eq_true .. |>.1 h
  refine ⟨σ, hrun, ?_, keyAncestry_outputs _ _ noKeys _ σ hrun⟩
  intro hnil
  rw [hnil] at h
  cases h

end TaSecureApi
