import TaSecureApi.Lib.Ledger
import TaSecureApi.Lib.Transition
import TaSecureApi.CommonEncryption
import TaSecureApi.CryptoCommands
import TaSecureApi.StoreInvariant

namespace TaSecureApi
set_option autoImplicit true
open Ledger

/-- The parameters of RSA-OAEP, in a cipher or as they are given. -/
structure OaepParameters where
  digestAlgorithm : SaDigestAlgorithm
  mgf1DigestAlgorithm : SaDigestAlgorithm
  label : Option (List UInt8)
  deriving DecidableEq

/-- What `cipher_alloc` leaves: zeros. -/
def OaepParameters.zero : OaepParameters := ⟨.sha1, .sha1, none⟩

/-- `struct cipher_s`, whose stored keys are numbered as they are unwrapped, beside the parameters
that the request for it was given. -/
structure CreatedCipher where
  cipherAlgorithm : SaCipherAlgorithm
  storedKey : Nat
  oaep : OaepParameters
  holder : Option Nat
  given : OaepParameters

/-- A call of `ta_sa_crypto_cipher_init` whose key was unwrapped, with its header. `created` is what
the checks of the parameters and the creation of a context of OpenSSL come to. -/
structure CipherInitRequest where
  header : SaHeader
  cipherAlgorithm : SaCipherAlgorithm
  cipherMode : SaCipherMode
  reading : Reading
  created : Except SaStatus Unit
  oaep : OaepParameters
  created_ne_ok : created ≠ .error .ok

def CipherInitRequest.checks (request : CipherInitRequest) : Except SaStatus Unit := do
  require (rightsAllowedMode request.cipherMode request.header.rights request.header.type
    request.reading) .operationNotAllowed
  cipherInitAlgorithm request.header request.cipherAlgorithm request.cipherMode request.created

theorem require_bind_ne_ok {condition : Prop} [Decidable condition] {next : Except SaStatus Unit}
    (hs : status ≠ .ok) (hnext : next ≠ .error .ok) :
    (do require condition status; next) ≠ .error .ok := by
  unfold require
  split_ifs
  · exact hnext
  · intro h
    exact hs (Except.error.inj h)

theorem CipherInitRequest.checks_ne_ok (request : CipherInitRequest) :
    request.checks ≠ .error .ok := by
  unfold checks
  refine require_bind_ne_ok (by decide) ?_
  have hcreated := request.created_ne_ok
  unfold cipherInitAlgorithm
  cases request.cipherAlgorithm with
  | rsaOaep =>
    cases h : request.created with
    | error status =>
      intro he
      cases he
      exact hcreated h
    | ok => exact require_bind_ne_ok (by decide) (require_bind_ne_ok (by decide) nofun)
  | rsaPkcs1v15 => exact require_bind_ne_ok (by decide) (require_bind_ne_ok (by decide) hcreated)
  | ecElgamal =>
    exact require_bind_ne_ok (by decide) (require_bind_ne_ok (by decide)
      (require_bind_ne_ok (by decide) hcreated))
  | _ => exact require_bind_ne_ok (by decide) hcreated

def CipherInitRequest.cipher (request : CipherInitRequest) (key : Nat) : CreatedCipher where
  cipherAlgorithm := request.cipherAlgorithm
  storedKey := key
  oaep := .zero
  holder := none
  given := request.oaep

/-- What a call returned, with the value of `*context` and the key that it had unwrapped. -/
structure CipherInitReturn where
  status : SaStatus
  context : Nat
  key : Nat
  deriving DecidableEq

/-- Where a request of the client is: in the creation of a cipher, in a command that decrypts, or in
a removal that has taken a cipher out of the store. -/
inductive RequestPc
  | idle
  | creating (request : CipherInitRequest) (key : Nat)
  | added (request : CipherInitRequest) (key slot : Nat)
  | initLocking (request : CipherInitRequest) (key slot cipher : Nat)
  | setting (request : CipherInitRequest) (key slot cipher : Nat)
  | initUnlocking (key slot cipher : Nat) (status : SaStatus)
  | initReleasing (key slot cipher : Nat) (status : SaStatus)
  | locking (slot cipher : Nat)
  | decrypting (slot cipher : Nat)
  | releasing (slot cipher : Nat)
  | freeing (cipher : Nat)

/-- The cipher store of a client, its ciphers in the order of their allocation, and the requests.
`freed` has the keys that went to `stored_key_free`, and `decrypted` the parameters that ciphers
were used with. -/
structure CreationState where
  store : ObjectStore Nat
  ciphers : List CreatedCipher
  keys : Nat
  pc : Nat → RequestPc
  freed : List Nat
  returned : List CipherInitReturn
  decrypted : List (Nat × OaepParameters)

/-- The steps of a request. -/
inductive CreationAction
  | init (request : CipherInitRequest)
  | add
  | acquire
  | lock (succeeds : Bool)
  | set (allocated : Bool)
  | unlock
  | release
  | process (context : Nat)
  | decrypt
  | remove (context : Nat)
  | free

namespace CreationState

variable (uuid : SaUuid) (s : CreationState)

def setPc (t : Nat) (pc : RequestPc) : CreationState := { s with pc := Function.update s.pc t pc }

/-- The end of `ta_sa_crypto_cipher_init`, which frees the key unless the status is
`SA_STATUS_OK`. -/
def finish (t key : Nat) (status : SaStatus) (context : Nat) : CreationState :=
  { s.setPc t .idle with
    freed := if status = .ok then s.freed else key :: s.freed
    returned := ⟨status, context, key⟩ :: s.returned }

def modifyCipher (n : Nat) (f : CreatedCipher → CreatedCipher) : CreationState :=
  { s with ciphers := s.ciphers.modify n f }

/-- `cipher_store_add_symmetric_context` and `cipher_store_add_asymmetric_key`. A cipher that is not
added gives the key back. -/
def addCipher (t : Nat) (request : CipherInitRequest) (key : Nat) : CreationState :=
  match request.checks with
  | .error status => s.finish t key status slotInvalid
  | .ok () =>
    match objectStoreAdd s.store (some s.ciphers.length) (some uuid) with
    | (.ok, slot, store) =>
      let s := { s with
        store := store
        ciphers := s.ciphers ++ [request.cipher key] }
      if request.cipherAlgorithm = .rsaOaep then s.setPc t (.added request key slot)
      else s.finish t key .ok slot
    | (status, slot, store) => { s with store := store }.finish t key status slot

/-- `cipher_set_oaep_parameters`; a label whose memory is not allocated stays as it was. -/
def setOaep (n : Nat) (parameters : OaepParameters) (allocated : Bool) : CreationState :=
  s.modifyCipher n fun cipher => { cipher with
    oaep := { parameters with
      label := if parameters.label.isSome ∧ ¬allocated then cipher.oaep.label
        else parameters.label } }

/-- `object_store_acquire`, with where the request goes on. -/
def acquire (t slot : Nat) (next : Nat → RequestPc) (fails : SaStatus → CreationState) :
    CreationState :=
  match objectStoreAcquire s.store slot (some uuid) with
  | (.ok, some n, store) => { s with store := store }.setPc t (next n)
  | (status, _, _) => fails status

/-- `cipher_lock`, which waits for a cipher that another request holds. -/
def lock (t n : Nat) (next : RequestPc) : Option CreationState :=
  if (s.ciphers[n]?.bind CreatedCipher.holder).isNone then
    some ((s.modifyCipher n fun cipher => { cipher with holder := some t }).setPc t next)
  else none

/-- `cipher_unlock`. -/
def unlock (t n : Nat) (next : RequestPc) : CreationState :=
  (s.modifyCipher n fun cipher => { cipher with holder := none }).setPc t next

/-- `object_store_release`, whose status is not looked at. -/
def release (slot n : Nat) : CreationState :=
  { s with store := (objectStoreRelease s.store slot (some n) (some uuid)).2 }

/-- A pass of the loop of `object_store_remove`. -/
def remove (t context : Nat) : CreationState :=
  match storeRemoveLocked s.store context (some uuid) with
  | (.leave _ (some n), store) => { s with store := store }.setPc t (.freeing n)
  | _ => s

/-- The step of a request. A failed lock goes on to the release of the cipher. -/
def step (s : CreationState) : Nat × CreationAction → Option CreationState
  | (t, action) =>
    match s.pc t, action with
    | .idle, .init request =>
      some ({ s with keys := s.keys + 1 }.setPc t (.creating request s.keys))
    | .creating request key, .add => some (s.addCipher uuid t request key)
    | .added request key slot, .acquire =>
      some (s.acquire uuid t slot (.initLocking request key slot) fun status =>
        s.finish t key status slot)
    | .initLocking request key slot n, .lock succeeds =>
      if succeeds then s.lock t n (.setting request key slot n)
      else some (s.setPc t (.initReleasing key slot n .internalError))
    | .setting request key slot n, .set allocated =>
      some ((s.setOaep n request.oaep allocated).setPc t (.initUnlocking key slot n
        (if request.oaep.label.isSome ∧ ¬allocated then .internalError else .ok)))
    | .initUnlocking key slot n status, .unlock =>
      some (s.unlock t n (.initReleasing key slot n status))
    | .initReleasing key slot n status, .release =>
      some ((s.release uuid slot n).finish t key status slot)
    | .idle, .process context =>
      some (s.acquire uuid t context (.locking context) fun _ => s)
    | .locking slot n, .lock succeeds =>
      if succeeds then s.lock t n (.decrypting slot n)
      else some (s.setPc t (.releasing slot n))
    | .decrypting _ n, .decrypt =>
      some { s with
        decrypted := (s.ciphers[n]?.map fun cipher => (n, cipher.oaep)).toList ++ s.decrypted }
    | .decrypting slot n, .unlock => some (s.unlock t n (.releasing slot n))
    | .releasing slot n, .release => some ((s.release uuid slot n).setPc t .idle)
    | .idle, .remove context => some (s.remove uuid t context)
    | .freeing n, .free =>
      some ({ s with freed := (s.ciphers[n]?.map CreatedCipher.storedKey).toList ++ s.freed }.setPc
        t .idle)
    | _, _ => none

/-- The store of a client that has just come. -/
def start (store : ObjectStore Nat) : CreationState where
  store := store
  ciphers := []
  keys := 0
  pc _ := .idle
  freed := []
  returned := []
  decrypted := []

def keyOf (n : Nat) : Option Nat := s.ciphers[n]?.map CreatedCipher.storedKey

end CreationState

/-- Where a stored key is: with the call that has unwrapped it, with a cipher in the store or on its
way out, or freed. -/
inductive KeyPlace
  | creating (t : Nat)
  | stored (slot : Nat)
  | freeing (t : Nat)
  | freed

namespace CreationState

def InPlace (s : CreationState) : KeyPlace → Nat → Prop
  | .creating t, key => ∃ request, s.pc t = .creating request key
  | .stored slot, key => ∃ n, (s.store.objects slot).object = some n ∧ s.keyOf n = some key
  | .freeing t, key => ∃ n, s.pc t = .freeing n ∧ s.keyOf n = some key
  | .freed, key => key ∈ s.freed

/-- Every call that has returned an error has left no context, no handle and a key that was freed
once; the key of every other one belongs to the store alone; and RSA-OAEP was used with the
parameters that were given only. -/
structure CreatesAtomically (s : CreationState) : Prop where
  failed : ∀ r ∈ s.returned, r.status ≠ .ok → r.context = slotInvalid ∧
    s.freed.count r.key = 1 ∧ ∀ place, s.InPlace place r.key → place = .freed
  succeeded : ∀ r ∈ s.returned, r.status = .ok → s.freed.count r.key ≤ 1 ∧
    ∃ place, s.InPlace place r.key ∧ (∀ t, place ≠ .creating t) ∧
      ∀ place', s.InPlace place' r.key → place' = place
  given : ∀ d ∈ s.decrypted, ∃ cipher, s.ciphers[d.1]? = some cipher ∧
    (cipher.cipherAlgorithm = .rsaOaep → d.2 = cipher.given)

/-- A call has still to lock the cipher `n` that it made, and the parameters for it are not zeros.
-/
def Unset (s : CreationState) (n : Nat) : RequestPc → Prop
  | .added request _ slot => (s.store.objects slot).object = some n ∧ request.oaep ≠ .zero
  | .initLocking request _ _ n' => n' = n ∧ request.oaep ≠ .zero
  | _ => False

/-- The steps that leave the creation of RSA-OAEP contexts alone: its lock and the memory for the
label do not fail, no context is removed before its call has acquired it again, and none is locked
by a command before its call has locked it. -/
def Undisturbed (s : CreationState) : Nat × CreationAction → Prop
  | (t, action) =>
    match s.pc t, action with
    | .initLocking .., .lock succeeds => succeeds = true
    | .setting request .., .set allocated => request.oaep.label.isSome → allocated = true
    | .locking _ n, .lock _ => ∀ t', ¬s.Unset n (s.pc t')
    | .idle, .remove context => ∀ t' request key, s.pc t' ≠ .added request key context
    | _, _ => True

section Invariant

variable {s s' : CreationState} {uuid : SaUuid} {pc : RequestPc}

def Left (s : CreationState) (key : Nat) : Prop :=
  key < s.keys ∧ ∀ t, ¬s.InPlace (.creating t) key

/-- The cipher `n` is locked by the request `t`. -/
def Holds (s : CreationState) (t n : Nat) : Prop :=
  ∃ cipher, s.ciphers[n]? = some cipher ∧ cipher.holder = some t

def PcInv (s : CreationState) (t : Nat) : RequestPc → Prop
  | .added request key slot => s.Left key ∧ ∃ n cipher, (s.store.objects slot).object = some n ∧
      s.ciphers[n]? = some cipher ∧ cipher.given = request.oaep
  | .initLocking request key _ n => s.Left key ∧
      ∃ cipher, s.ciphers[n]? = some cipher ∧ cipher.given = request.oaep
  | .setting request key _ n => s.Left key ∧
      ∃ cipher, s.ciphers[n]? = some cipher ∧ cipher.given = request.oaep ∧ cipher.holder = some t
  | .initUnlocking key _ n status => s.Left key ∧ status = .ok ∧ s.Holds t n
  | .initReleasing key _ _ status => s.Left key ∧ status = .ok
  | .decrypting _ n => ∃ cipher, s.ciphers[n]? = some cipher ∧ cipher.holder = some t ∧
      (cipher.cipherAlgorithm = .rsaOaep → cipher.oaep = cipher.given)
  | .locking _ n | .freeing n => n < s.ciphers.length
  | _ => True

/-- The request makes the cipher `n`, whose parameters it has still to set. -/
def Awaits (s : CreationState) (n : Nat) (c : CreatedCipher) : RequestPc → Prop
  | .added request _ slot => (s.store.objects slot).object = some n ∧ request.oaep = c.given
  | .initLocking request _ _ n' => n' = n ∧ request.oaep = c.given
  | .setting _ _ _ n' => n' = n
  | _ => False

/-- RSA-OAEP has its parameters, or zeros that some request will replace. -/
def Settled (s : CreationState) (n : Nat) (c : CreatedCipher) : Prop :=
  c.cipherAlgorithm = .rsaOaep →
    c.oaep = c.given ∨ (c.oaep = .zero ∧ ∃ t, s.Awaits n c (s.pc t))

structure ReturnInv (s : CreationState) (r : CipherInitReturn) : Prop where
  failed : r.status ≠ .ok → r.context = slotInvalid ∧ r.key ∈ s.freed
  succeeded : r.status = .ok → s.Left r.key

def DecryptInv (s : CreationState) (d : Nat × OaepParameters) : Prop :=
  ∃ cipher, s.ciphers[d.1]? = some cipher ∧
    (cipher.cipherAlgorithm = .rsaOaep → d.2 = cipher.given)

/-- Every key is in one place, and the requests are where they can be. -/
structure Inv (uuid : SaUuid) (s : CreationState) : Prop where
  exact : Exact s.InPlace (· < s.keys) id
  nodup : s.freed.Nodup
  bits : BitsMatch s.store
  running : s.store.isShuttingDown = false
  stored : ∀ slot n, (s.store.objects slot).object = some n → n < s.ciphers.length ∧
    (s.store.objects slot).ownerUuid = uuid ∧ slot < s.store.slotCount
  requests : ∀ t, s.PcInv t (s.pc t)
  settled : ∀ (n : Nat) (c : CreatedCipher), s.ciphers[n]? = some c → s.Settled n c
  returns : ∀ r ∈ s.returned, s.ReturnInv r
  decrypts : ∀ d ∈ s.decrypted, s.DecryptInv d

/-- A cipher that a step of `t` has not replaced: it keeps its key, what it was given and the lock
of another request, and it gets no parameters but those. -/
structure Kept (t : Nat) (c c' : CreatedCipher) : Prop where
  given : c'.given = c.given
  cipherAlgorithm : c'.cipherAlgorithm = c.cipherAlgorithm
  storedKey : c'.storedKey = c.storedKey
  oaep : c'.oaep = c.oaep ∨ c'.oaep = c.given
  holder : ∀ t' ≠ t, c.holder = some t' → c'.holder = some t'

theorem Kept.refl (t : Nat) (c : CreatedCipher) : Kept t c c :=
  ⟨rfl, rfl, rfl, .inl rfl, fun _ _ h => h⟩

theorem Kept.set {c c' : CreatedCipher} (hk : Kept t c c') (h : c.oaep = c.given) :
    c'.oaep = c'.given :=
  (hk.oaep.elim (·.trans h) id).trans hk.given.symm

/-- What no step of `t` takes back. -/
structure Frame (t : Nat) (s s' : CreationState) : Prop where
  ciphers : ∀ (n : Nat) (c : CreatedCipher), s.ciphers[n]? = some c →
    ∃ c', s'.ciphers[n]? = some c' ∧ Kept t c c'
  keys : s.keys ≤ s'.keys
  creating : ∀ t key, key < s.keys → s'.InPlace (.creating t) key → s.InPlace (.creating t) key
  freed : ∀ key ∈ s.freed, key ∈ s'.freed

theorem Frame.left (hf : Frame t s s') (h : s.Left key) : s'.Left key :=
  ⟨Nat.lt_of_lt_of_le h.1 hf.keys, fun t ht => h.2 t (hf.creating t key h.1 ht)⟩

theorem Frame.length (hf : Frame t s s') : s.ciphers.length ≤ s'.ciphers.length := by
  by_contra hlt
  obtain ⟨c', hc', -⟩ := hf.ciphers s'.ciphers.length _
    (List.getElem?_eq_getElem (Nat.lt_of_not_le hlt))
  rw [List.getElem?_eq_none (Nat.le_refl _)] at hc'
  cases hc'

theorem Frame.pcInv (hf : Frame t s s') (ht : t' ≠ t)
    (hadded : ∀ request key slot, pc = .added request key slot →
      (s'.store.objects slot).object = (s.store.objects slot).object)
    (h : s.PcInv t' pc) : s'.PcInv t' pc := by
  cases pc with
  | added request key slot =>
    obtain ⟨hleft, n, cipher, hobject, hcipher, hgiven⟩ := h
    obtain ⟨c', hc', hk⟩ := hf.ciphers n cipher hcipher
    exact ⟨hf.left hleft, n, c', (hadded request key slot rfl).trans hobject, hc',
      hk.given.trans hgiven⟩
  | initLocking request key slot n =>
    obtain ⟨hleft, cipher, hcipher, hgiven⟩ := h
    obtain ⟨c', hc', hk⟩ := hf.ciphers n cipher hcipher
    exact ⟨hf.left hleft, c', hc', hk.given.trans hgiven⟩
  | setting request key slot n =>
    obtain ⟨hleft, cipher, hcipher, hgiven, hholder⟩ := h
    obtain ⟨c', hc', hk⟩ := hf.ciphers n cipher hcipher
    exact ⟨hf.left hleft, c', hc', hk.given.trans hgiven, hk.holder t' ht hholder⟩
  | initUnlocking key slot n status =>
    obtain ⟨hleft, hstatus, cipher, hcipher, hholder⟩ := h
    obtain ⟨c', hc', hk⟩ := hf.ciphers n cipher hcipher
    exact ⟨hf.left hleft, hstatus, c', hc', hk.holder t' ht hholder⟩
  | initReleasing key slot n status => exact ⟨hf.left h.1, h.2⟩
  | decrypting slot n =>
    obtain ⟨cipher, hcipher, hholder, hoaep⟩ := h
    obtain ⟨c', hc', hk⟩ := hf.ciphers n cipher hcipher
    exact ⟨c', hc', hk.holder t' ht hholder,
      fun h => hk.set (hoaep (hk.cipherAlgorithm.symm.trans h))⟩
  | locking slot n | freeing n => exact Nat.lt_of_lt_of_le h hf.length
  | _ => trivial

theorem Frame.returnInv (hf : Frame t s s') (h : s.ReturnInv r) : s'.ReturnInv r :=
  ⟨fun hne => ⟨(h.failed hne).1, hf.freed _ (h.failed hne).2⟩,
    fun hok => hf.left (h.succeeded hok)⟩

theorem Frame.decryptInv (hf : Frame t s s') (h : s.DecryptInv d) : s'.DecryptInv d := by
  obtain ⟨cipher, hcipher, hgiven⟩ := h
  obtain ⟨c', hc', hk⟩ := hf.ciphers d.1 cipher hcipher
  exact ⟨c', hc', fun h => (hgiven (hk.cipherAlgorithm.symm.trans h)).trans hk.given.symm⟩

theorem Awaits.of_given {c c' : CreatedCipher} (hgiven : c'.given = c.given)
    (hadded : ∀ request key slot, pc = .added request key slot →
      (s'.store.objects slot).object = (s.store.objects slot).object)
    (h : s.Awaits n c pc) : s'.Awaits n c' pc := by
  cases pc with
  | added request key slot =>
    exact ⟨(hadded request key slot rfl).trans h.1, h.2.trans hgiven.symm⟩
  | initLocking request key slot m => exact ⟨h.1, h.2.trans hgiven.symm⟩
  | setting request key slot m => exact h
  | _ => exact h.elim

/-- A cipher whose parameters a step has not set is settled as before, unless the request has
stopped to make it. -/
theorem Settled.kept {c c' : CreatedCipher} (hk : Kept t c c') (h : s.Settled n c)
    (hothers : ∀ t' ≠ t, s'.pc t' = s.pc t')
    (hadded : ∀ t' request key slot, t' ≠ t → s.pc t' = .added request key slot →
      (s'.store.objects slot).object = (s.store.objects slot).object)
    (hself : s.Awaits n c (s.pc t) → c'.oaep = c'.given ∨ s'.Awaits n c' (s'.pc t)) :
    s'.Settled n c' := by
  intro halg
  rcases h (hk.cipherAlgorithm.symm.trans halg) with hset | ⟨hzero, t', ht'⟩
  · exact .inl (hk.set hset)
  · rcases hk.oaep with hoaep | hoaep
    · by_cases ht : t' = t
      · subst ht
        rcases hself ht' with hset | hawaits
        · exact .inl hset
        · exact .inr ⟨hoaep.trans hzero, t', hawaits⟩
      · refine .inr ⟨hoaep.trans hzero, t', ?_⟩
        rw [hothers t' ht]
        exact ht'.of_given hk.given fun request key slot h => hadded t' request key slot ht h
    · exact .inl (hoaep.trans hk.given.symm)

theorem Inv.step_of_frame (hi : Inv uuid s) (hf : Frame t s s')
    (hexact : Exact s'.InPlace (· < s'.keys) id) (hnodup : s'.freed.Nodup)
    (hbits : BitsMatch s'.store) (hrunning : s'.store.isShuttingDown = false)
    (hstored : ∀ slot n, (s'.store.objects slot).object = some n → n < s'.ciphers.length ∧
      (s'.store.objects slot).ownerUuid = uuid ∧ slot < s'.store.slotCount)
    (hadded : ∀ t' request key slot, t' ≠ t → s.pc t' = .added request key slot →
      (s'.store.objects slot).object = (s.store.objects slot).object)
    (hothers : ∀ t', t' ≠ t → s'.pc t' = s.pc t') (hpc : s'.PcInv t (s'.pc t))
    (hsettled : ∀ (n : Nat) (c' : CreatedCipher), s'.ciphers[n]? = some c' → s'.Settled n c')
    (hreturned : ∀ r ∈ s'.returned, r ∈ s.returned ∨ s'.ReturnInv r)
    (hdecrypted : ∀ d ∈ s'.decrypted, d ∈ s.decrypted ∨ s'.DecryptInv d) : Inv uuid s' where
  exact := hexact
  nodup := hnodup
  bits := hbits
  running := hrunning
  stored := hstored
  requests t' := by
    by_cases ht : t' = t
    · rw [ht]
      exact hpc
    · rw [hothers t' ht]
      exact hf.pcInv ht (fun request key slot h => hadded t' request key slot ht h)
        (hi.requests t')
  settled := hsettled
  returns r hr := (hreturned r hr).elim (fun h => hf.returnInv (hi.returns r h)) id
  decrypts d hd := (hdecrypted d hd).elim (fun h => hf.decryptInv (hi.decrypts d h)) id

def HoldsKey : RequestPc → Prop
  | .creating _ _ | .freeing _ => True
  | _ => False

def SameObjects (store store' : ObjectStore Nat) : Prop :=
  (∀ slot, (store'.objects slot).object = (store.objects slot).object ∧
    (store'.objects slot).ownerUuid = (store.objects slot).ownerUuid) ∧
    store'.slots = store.slots ∧ SameFrame store store'

theorem sameObjects_refl (store : ObjectStore Nat) : SameObjects store store :=
  ⟨fun _ => ⟨rfl, rfl⟩, rfl, rfl, rfl, rfl⟩

theorem sameObjects_count (store : ObjectStore Nat) (slot count : Nat) :
    SameObjects store { store with
      objects := Function.update store.objects slot
        { store.objects slot with referenceCount := count } } := by
  refine ⟨fun slot' => ?_, rfl, rfl, rfl, rfl⟩
  by_cases h : slot' = slot
  · subst h
    simp
  · simp [h]

/-- Ciphers, objects and freed keys as before, and a request that holds a key neither before nor
afterwards: every key is where it was. -/
theorem inPlace_same (hobject : ∀ slot, (s'.store.objects slot).object =
      (s.store.objects slot).object)
    (hkey : ∀ n, s'.keyOf n = s.keyOf n) (hfreed : s'.freed = s.freed)
    (hpc : s'.pc = Function.update s.pc t pc) (hold : ¬HoldsKey (s.pc t)) (hnew : ¬HoldsKey pc)
    (place : KeyPlace) (key : Nat) : s'.InPlace place key ↔ s.InPlace place key := by
  cases place with
  | creating t' =>
    by_cases ht : t' = t
    · subst ht
      constructor
      · intro ⟨request, h⟩
        rw [hpc, Function.update_self] at h
        rw [h] at hnew
        exact absurd trivial hnew
      · intro ⟨request, h⟩
        rw [h] at hold
        exact absurd trivial hold
    · simp only [InPlace, hpc, Function.update_of_ne ht]
  | stored slot => simp only [InPlace, hobject, hkey]
  | freeing t' =>
    by_cases ht : t' = t
    · subst ht
      constructor
      · intro ⟨n, h, _⟩
        rw [hpc, Function.update_self] at h
        rw [h] at hnew
        exact absurd trivial hnew
      · intro ⟨n, h, _⟩
        rw [h] at hold
        exact absurd trivial hold
    · simp only [InPlace, hpc, Function.update_of_ne ht, hkey]
  | freed => simp only [InPlace, hfreed]

/-- A step of a request that leaves every key where it is, with changes of references and of a
cipher only. -/
theorem Inv.step_same {f : CreatedCipher → CreatedCipher} (hi : Inv uuid s)
    (hciphers : s'.ciphers = s.ciphers.modify n f)
    (hkept : ∀ c, s.ciphers[n]? = some c → Kept t c (f c)) (hkeys : s'.keys = s.keys)
    (hstore : SameObjects s.store s'.store) (hfreed : s'.freed = s.freed)
    (hpc : s'.pc = Function.update s.pc t pc) (hold : ¬HoldsKey (s.pc t)) (hnew : ¬HoldsKey pc)
    (hinv : Frame t s s' → s'.PcInv t pc)
    (hself : ∀ (m : Nat) (c c' : CreatedCipher), s.ciphers[m]? = some c →
      s'.ciphers[m]? = some c' → Kept t c c' → s.Awaits m c (s.pc t) →
      c'.oaep = c'.given ∨ s'.Awaits m c' pc)
    (hreturned : ∀ r ∈ s'.returned, r ∈ s.returned ∨ (Frame t s s' → s'.ReturnInv r))
    (hdecrypted : ∀ d ∈ s'.decrypted, d ∈ s.decrypted ∨ (Frame t s s' → s'.DecryptInv d)) :
    Inv uuid s' := by
  have hget : ∀ (m : Nat) (c : CreatedCipher), s.ciphers[m]? = some c →
      ∃ c' : CreatedCipher, s'.ciphers[m]? = some c' ∧ Kept t c c' := by
    intro m c hc
    rw [hciphers, List.getElem?_modify, hc]
    by_cases hm : n = m
    · subst hm
      exact ⟨f c, by simp, hkept c hc⟩
    · exact ⟨c, by simp [hm], Kept.refl t c⟩
  have hlength : s'.ciphers.length = s.ciphers.length := by rw [hciphers, List.length_modify]
  have hkey : ∀ m, s'.keyOf m = s.keyOf m := by
    intro m
    unfold keyOf
    cases hc : s.ciphers[m]? with
    | none => simp [hciphers, List.getElem?_modify, hc]
    | some c =>
      obtain ⟨c', hc', hk⟩ := hget m c hc
      rw [hc', Option.map_some, Option.map_some, hk.storedKey]
  obtain ⟨hobjects, hslots, hframe⟩ := hstore
  have hplace := inPlace_same (fun slot => (hobjects slot).1) hkey hfreed hpc hold hnew
  have hf : Frame t s s' := ⟨hget, hkeys.ge, fun t key _ => (hplace (.creating t) key).1,
    fun key h => hfreed ▸ h⟩
  have hothers : ∀ t', t' ≠ t → s'.pc t' = s.pc t' := fun t' ht => by
    rw [hpc, Function.update_of_ne ht]
  refine hi.step_of_frame hf ?_ ?_ ?_ ?_ ?_ (fun _ _ _ slot _ _ => (hobjects slot).1) hothers ?_ ?_
    (fun r hr => (hreturned r hr).imp_right (· hf))
    (fun d hd => (hdecrypted d hd).imp_right (· hf))
  · exact hi.exact.congr (fun key => by rw [hkeys]) hplace
  · rw [hfreed]
    exact hi.nodup
  · intro slot hlt
    rw [hslots, (hobjects slot).1]
    exact hi.bits slot (hframe.slotCount ▸ hlt)
  · rw [hframe.isShuttingDown]
    exact hi.running
  · intro slot m h
    rw [(hobjects slot).1] at h
    rw [(hobjects slot).2, hframe.slotCount, hlength]
    exact hi.stored slot m h
  · rw [hpc, Function.update_self]
    exact hinv hf
  · intro m c' hc'
    have hlt : m < s.ciphers.length := hlength ▸ (List.getElem?_eq_some_iff.1 hc').1
    obtain ⟨c'', hc'', hk⟩ := hget m _ (List.getElem?_eq_getElem hlt)
    cases hc'.symm.trans hc''
    refine (hi.settled m _ (List.getElem?_eq_getElem hlt)).kept hk hothers
      (fun _ _ _ slot _ _ => (hobjects slot).1) fun h => ?_
    rw [hpc, Function.update_self]
    exact hself m _ c' (List.getElem?_eq_getElem hlt) hc' hk h

theorem objectStoreAdd_fails {store store' : ObjectStore Nat} {object : Option Nat}
    (h : objectStoreAdd store object (some uuid) = (status, slot, store')) (hs : status ≠ .ok) :
    slot = slotInvalid ∧ store' = store := by
  cases object with
  | none =>
    cases h
    exact ⟨rfl, rfl⟩
  | some o =>
    unfold objectStoreAdd at h
    dsimp only at h
    split_ifs at h with hshut hslot
    · cases h
      exact ⟨rfl, rfl⟩
    · rcases objectStoreAdd_cases store (some o) (some uuid) with
        ⟨status', slot', ha, -⟩ | ⟨_, _, slot', store', -, -, ha, -⟩
      · unfold objectStoreAdd at ha
        dsimp only at ha
        rw [if_neg hshut, if_pos hslot] at ha
        rw [ha] at h
        cases h
        exact ⟨(Prod.mk.inj (Prod.mk.inj ha).2).1.symm.trans hslot, rfl⟩
      · unfold objectStoreAdd at ha
        dsimp only at ha
        rw [if_neg hshut, if_pos hslot] at ha
        cases (Prod.mk.inj ha).1
    · exact absurd (Prod.mk.inj h).1.symm hs

theorem objectStoreRelease_same (store : ObjectStore Nat) :
    SameObjects store (objectStoreRelease store slot object (some uuid)).2 := by
  rcases objectStoreRelease_cases store slot object (some uuid) with
    ⟨status, h, -⟩ | ⟨o, u, -, -, -, -, -, -, h⟩
  · rw [h]
    exact sameObjects_refl store
  · rw [h]
    exact sameObjects_count store slot _

theorem Inv.init (hi : Inv uuid s) (hpc : s.pc t = .idle) (request : CipherInitRequest) :
    Inv uuid ({ s with keys := s.keys + 1 }.setPc t (.creating request s.keys)) := by
  have hplace : ∀ place key,
      ({ s with keys := s.keys + 1 }.setPc t (.creating request s.keys)).InPlace place key ↔
        (place = .creating t ∧ key = s.keys) ∨ s.InPlace place key := by
    intro place key
    cases place with
    | creating t' =>
      by_cases ht : t' = t
      · subst ht
        simp [InPlace, setPc, hpc, eq_comm]
      · simp [InPlace, setPc, ht]
    | freeing t' =>
      by_cases ht : t' = t
      · subst ht
        simp [InPlace, setPc, hpc]
      · simp [InPlace, setPc, ht, keyOf]
    | stored slot => simp [InPlace, setPc, keyOf]
    | freed => simp [InPlace, setPc]
  have hothers : ∀ t', t' ≠ t →
      ({ s with keys := s.keys + 1 }.setPc t (.creating request s.keys)).pc t' = s.pc t' :=
    fun t' ht => Function.update_of_ne ht _ _
  refine hi.step_of_frame ⟨fun n c hc => ⟨c, hc, .refl t c⟩, Nat.le_succ _,
    fun t' key hlt h => ?_, fun _ h => h⟩ ?_ hi.nodup hi.bits hi.running hi.stored
    (fun _ _ _ _ _ _ => rfl) hothers ?_
    (fun n c hc => (hi.settled n c hc).kept (.refl t c) hothers (fun _ _ _ _ _ _ => rfl)
      fun h => ?_)
    (fun r hr => .inl hr) (fun d hd => .inl hd)
  · rcases (hplace _ key).1 h with ⟨-, rfl⟩ | h
    · exact absurd hlt (Nat.lt_irrefl _)
    · exact h
  · exact hi.exact.issue (fun key hlt => Nat.ne_of_lt hlt)
      (fun key => by simp only [setPc, Nat.lt_succ_iff_lt_or_eq]; exact or_comm) hplace
  · simp only [setPc, Function.update_self]
    trivial
  · rw [hpc] at h
    exact h.elim

theorem creating_inPlace (hpc : s.pc t = .creating request key) (key' : Nat) :
    s.InPlace (.creating t) key' ↔ key' = key := by
  simp [InPlace, hpc, eq_comm]

theorem Inv.fail (hi : Inv uuid s) (hpc : s.pc t = .creating request key) (hs : status ≠ .ok) :
    Inv uuid (s.finish t key status slotInvalid) := by
  have hfree : key ∉ s.freed := fun hfreed => by
    cases (hi.exact.unique (.creating t) .freed key key
      ((creating_inPlace hpc key).2 rfl) hfreed rfl).1
  have hplace : ∀ place key', (s.finish t key status slotInvalid).InPlace place key' ↔
      (place = .freed ∧ key' = key) ∨ (place ≠ .creating t ∧ s.InPlace place key') := by
    intro place key'
    cases place with
    | creating t' =>
      by_cases ht : t' = t
      · subst ht
        simp [InPlace, finish, setPc]
      · simp [InPlace, finish, setPc, ht]
    | freeing t' =>
      by_cases ht : t' = t
      · subst ht
        simp [InPlace, finish, setPc, hpc]
      · simp [InPlace, finish, setPc, ht, keyOf]
    | stored slot => simp [InPlace, finish, setPc, keyOf]
    | freed => simp [InPlace, finish, if_neg hs]
  have hothers : ∀ t', t' ≠ t → (s.finish t key status slotInvalid).pc t' = s.pc t' :=
    fun t' ht => Function.update_of_ne ht _ _
  refine hi.step_of_frame ⟨fun n c hc => ⟨c, hc, .refl t c⟩, Nat.le_refl _,
    fun t' key' _ h => ?_, fun key' h => ?_⟩ ?_ ?_ hi.bits hi.running hi.stored
    (fun _ _ _ _ _ _ => rfl) hothers ?_
    (fun n c hc => (hi.settled n c hc).kept (.refl t c) hothers (fun _ _ _ _ _ _ => rfl)
      fun h => ?_)
    (fun r hr => ?_) (fun d hd => .inl hd)
  · rcases (hplace _ key').1 h with ⟨h, -⟩ | ⟨-, h⟩
    · cases h
    · exact h
  · simp only [finish, if_neg hs]
    exact List.mem_cons_of_mem _ h
  · exact hi.exact.move (creating_inPlace hpc) hplace
  · simp only [finish, if_neg hs]
    exact List.nodup_cons.2 ⟨hfree, hi.nodup⟩
  · simp only [finish, setPc, Function.update_self]
    trivial
  · rw [hpc] at h
    exact h.elim
  · rcases List.mem_cons.1 hr with rfl | hr
    · refine .inr ⟨fun _ => ⟨rfl, ?_⟩, fun h => absurd h hs⟩
      simp only [finish, if_neg hs]
      exact List.mem_cons_self
    · exact .inl hr

theorem Inv.fill (hi : Inv uuid s) (hpc : s.pc t = .creating request key)
    (hfill : Fills s.store slot s.ciphers.length uuid s'.store)
    (hciphers : s'.ciphers = s.ciphers ++ [request.cipher key]) (hkeys : s'.keys = s.keys)
    (hfreed : s'.freed = s.freed) (hpc' : s'.pc = Function.update s.pc t pc)
    (hnew : ¬HoldsKey pc) (hinv : s'.Left key → s'.PcInv t pc)
    (hawaits : request.cipherAlgorithm = .rsaOaep →
      s'.Awaits s.ciphers.length (request.cipher key) pc)
    (hreturned : ∀ r ∈ s'.returned, r ∈ s.returned ∨ (s'.Left key → s'.ReturnInv r))
    (hdecrypted : s'.decrypted = s.decrypted) : Inv uuid s' := by
  have hslot : (s'.store.objects slot).object = some s.ciphers.length := by
    rw [hfill.objects, Function.update_self]
  have hother : ∀ slot', slot' ≠ slot → s'.store.objects slot' = s.store.objects slot' :=
    fun slot' h => by rw [hfill.objects, Function.update_of_ne h]
  have hget : ∀ (n : Nat) (c : CreatedCipher), s.ciphers[n]? = some c → s'.ciphers[n]? = some c :=
    fun n c hc => by
      rw [hciphers, List.getElem?_append_left (List.getElem?_eq_some_iff.1 hc).1, hc]
  have hlast : s'.ciphers[s.ciphers.length]? = some (request.cipher key) := by
    rw [hciphers, List.getElem?_concat_length]
  have hkey : ∀ n < s.ciphers.length, s'.keyOf n = s.keyOf n := by
    intro n hn
    rw [keyOf, keyOf, hget n _ (List.getElem?_eq_getElem hn), List.getElem?_eq_getElem hn]
  have hothers : ∀ t', t' ≠ t → s'.pc t' = s.pc t' := fun t' ht => by
    rw [hpc', Function.update_of_ne ht]
  have hempty := hfill.empty hi.bits
  have hplace : ∀ place key', s'.InPlace place key' ↔
      (place = .stored slot ∧ key' = key) ∨ (place ≠ .creating t ∧ s.InPlace place key') := by
    intro place key'
    cases place with
    | creating t' =>
      by_cases ht : t' = t
      · subst ht
        constructor
        · intro ⟨request', h⟩
          rw [hpc', Function.update_self] at h
          rw [h] at hnew
          exact absurd trivial hnew
        · intro h
          simp at h
      · simp [InPlace, hothers t' ht, ht]
    | freeing t' =>
      by_cases ht : t' = t
      · subst ht
        constructor
        · intro ⟨n, h, _⟩
          rw [hpc', Function.update_self] at h
          rw [h] at hnew
          exact absurd trivial hnew
        · intro h
          simp [InPlace, hpc] at h
      · have hpcs := hi.requests t'
        constructor
        · intro ⟨n, h, hn⟩
          rw [hothers t' ht] at h
          rw [h] at hpcs
          exact .inr ⟨KeyPlace.noConfusion, n, h, (hkey n hpcs).symm.trans hn⟩
        · intro h
          obtain ⟨n, h, hn⟩ := (h.resolve_left fun h => KeyPlace.noConfusion h.1).2
          rw [h] at hpcs
          exact ⟨n, (hothers t' ht).trans h, (hkey n hpcs).trans hn⟩
    | stored slot' =>
      by_cases hs : slot' = slot
      · subst hs
        simp only [InPlace, hslot, hempty, keyOf, hlast, Option.some.injEq, exists_eq_left',
          Option.map_some, CipherInitRequest.cipher]
        simp [eq_comm]
      · constructor
        · intro ⟨n, h, hn⟩
          rw [hother slot' hs] at h
          exact .inr ⟨KeyPlace.noConfusion, n, h,
            (hkey n (hi.stored slot' n h).1).symm.trans hn⟩
        · intro h
          obtain ⟨n, h, hn⟩ :=
            (h.resolve_left fun h => hs (KeyPlace.stored.inj h.1)).2
          exact ⟨n, (congrArg StoreObject.object (hother slot' hs)).trans h,
            (hkey n (hi.stored slot' n h).1).trans hn⟩
    | freed => simp [InPlace, hfreed]
  have hleft : s'.Left key := by
    refine ⟨hkeys ▸ hi.exact.issued _ key ((creating_inPlace hpc key).2 rfl), fun t' h => ?_⟩
    rcases (hplace _ key).1 h with ⟨h, -⟩ | ⟨hne, h⟩
    · exact KeyPlace.noConfusion h
    · exact hne (hi.exact.unique _ _ key key h ((creating_inPlace hpc key).2 rfl) rfl).1
  have hadded : ∀ t' request' key' slot', t' ≠ t → s.pc t' = .added request' key' slot' →
      (s'.store.objects slot').object = (s.store.objects slot').object := by
    intro t' request' key' slot' _ h
    have hpcs := hi.requests t'
    rw [h] at hpcs
    obtain ⟨-, n, -, hn, -⟩ := hpcs
    by_cases hs : slot' = slot
    · rw [hs, hempty] at hn
      cases hn
    · rw [hother slot' hs]
  refine hi.step_of_frame ⟨fun n c hc => ⟨c, hget n c hc, .refl t c⟩, hkeys.ge,
    fun t' key' _ h => ?_, fun key' h => hfreed ▸ h⟩ ?_ (hfreed ▸ hi.nodup)
    (hfill.bitsMatch hi.bits) (hfill.frame.isShuttingDown.trans hi.running) ?_ hadded hothers ?_ ?_
    (fun r hr => (hreturned r hr).imp_right (· hleft)) (fun d hd => .inl (hdecrypted ▸ hd))
  · rcases (hplace _ key').1 h with ⟨h, -⟩ | ⟨-, h⟩
    · exact KeyPlace.noConfusion h
    · exact h
  · exact (hi.exact.move (creating_inPlace hpc) hplace).congr (fun key => by rw [hkeys])
      fun _ _ => Iff.rfl
  · intro slot' n h
    rw [hciphers, List.length_append, List.length_singleton, hfill.frame.slotCount]
    by_cases hs : slot' = slot
    · subst hs
      rw [hslot] at h
      cases h
      refine ⟨Nat.lt_succ_self _, ?_, hfill.lt⟩
      rw [hfill.objects, Function.update_self]
    · rw [hother slot' hs] at h ⊢
      exact ⟨Nat.lt_succ_of_lt (hi.stored slot' n h).1, (hi.stored slot' n h).2⟩
  · rw [hpc', Function.update_self]
    exact hinv hleft
  · intro n c' hc'
    by_cases hn : n < s.ciphers.length
    · have hc := List.getElem?_eq_getElem hn
      cases hc'.symm.trans (hget n _ hc)
      refine (hi.settled n _ hc).kept (.refl t _) hothers hadded fun h => ?_
      rw [hpc] at h
      exact h.elim
    · have hlt := (List.getElem?_eq_some_iff.1 hc').1
      rw [hciphers, List.length_append, List.length_singleton] at hlt
      cases Nat.le_antisymm (Nat.le_of_lt_succ hlt) (Nat.le_of_not_lt hn)
      cases hc'.symm.trans hlast
      intro halg
      refine .inr ⟨rfl, t, ?_⟩
      rw [hpc', Function.update_self]
      exact hawaits halg

theorem Inv.addCipher (hi : Inv uuid s) (hpc : s.pc t = .creating request key) :
    Inv uuid (s.addCipher uuid t request key) := by
  unfold CreationState.addCipher
  split
  · rename_i status hchecks
    apply hi.fail hpc
    rintro rfl
    exact request.checks_ne_ok hchecks
  · split
    · rename_i slot store hadd
      rcases objectStoreAdd_cases s.store (some s.ciphers.length) (some uuid) with
        ⟨status, slot', ha, hne⟩ | ⟨o, u, slot', store', ho, hu, ha, -, -, hfill⟩
      · cases (Prod.mk.inj (ha.symm.trans hadd)).1
        exact absurd rfl hne
      · cases ho
        cases hu
        cases ha.symm.trans hadd
        dsimp only
        split_ifs with halg
        · refine hi.fill hpc hfill rfl rfl rfl rfl id (fun hleft => ⟨hleft, s.ciphers.length,
            request.cipher key, ?_, List.getElem?_concat_length .., rfl⟩) (fun _ => ⟨?_, rfl⟩)
            (fun r hr => .inl hr) rfl
          · simp only [setPc, hfill.objects, Function.update_self]
          · simp only [setPc, hfill.objects, Function.update_self]
        · refine hi.fill hpc hfill rfl rfl ?_ rfl (id : ¬HoldsKey .idle) (fun _ => trivial)
            (fun h => absurd h halg) (fun r hr => ?_) rfl
          · simp only [finish, setPc, if_true]
          rcases List.mem_cons.1 hr with rfl | hr
          · exact .inr fun hleft => ⟨fun hne => absurd rfl hne, fun _ => hleft⟩
          · exact .inl hr
    · rename_i status slot store hne hadd
      have hs : status ≠ .ok := fun h => hne h
      obtain ⟨rfl, rfl⟩ := objectStoreAdd_fails hadd hs
      exact hi.fail hpc hs

theorem objectStoreAcquire_stored (hi : Inv uuid s) (h : (s.store.objects slot).object = some n) :
    ∃ store', objectStoreAcquire s.store slot (some uuid) = (.ok, some n, store') ∧
      SameObjects s.store store' := by
  obtain ⟨-, howner, hlt⟩ := hi.stored slot n h
  rcases objectStoreAcquire_cases s.store slot (some uuid) with
    ⟨status, ha, hne⟩ | ⟨o, u, -, -, -, ho, -, ha⟩
  · unfold objectStoreAcquire at ha
    simp only [Nat.not_le.2 hlt, hi.running, h, howner, if_false, ne_eq,
      not_true_eq_false, Bool.false_eq_true] at ha
    cases ha
  · cases h.symm.trans ho
    exact ⟨_, ha, sameObjects_count s.store slot _⟩

theorem Inv.initAcquire (hi : Inv uuid s) (hpc : s.pc t = .added request key slot)
    (fails : SaStatus → CreationState) :
    Inv uuid (s.acquire uuid t slot (.initLocking request key slot) fails) := by
  have hinv := hi.requests t
  rw [hpc] at hinv
  obtain ⟨hleft, n, cipher, hobject, hcipher, hgiven⟩ := hinv
  obtain ⟨store', ha, hsame⟩ := objectStoreAcquire_stored hi hobject
  rw [acquire, ha]
  refine hi.step_same (n := 0) (f := id) (List.modify_id _ _).symm (fun c _ => .refl t c) rfl hsame
    rfl rfl (by rw [hpc]; exact id) id (fun hf => ?_) (fun m c c' _ _ hk h => .inr ?_)
    (fun r hr => .inl hr) (fun d hd => .inl hd)
  · obtain ⟨c', hc', hk⟩ := hf.ciphers n cipher hcipher
    exact ⟨hf.left hleft, c', hc', hk.given.trans hgiven⟩
  · rw [hpc] at h
    cases hobject.symm.trans h.1
    exact ⟨rfl, h.2.trans hk.given.symm⟩

theorem Inv.process (hi : Inv uuid s) (hpc : s.pc t = .idle) (context : Nat) :
    Inv uuid (s.acquire uuid t context (.locking context) fun _ => s) := by
  rcases objectStoreAcquire_cases s.store context (some uuid) with
    ⟨status, ha, -⟩ | ⟨o, u, -, -, -, ho, -, ha⟩
  · rw [acquire, ha]
    split
    · rename_i h
      cases (Prod.mk.inj (Prod.mk.inj h).2).1
    · exact hi
  · rw [acquire, ha]
    exact hi.step_same (n := 0) (f := id) (List.modify_id _ _).symm (fun c _ => .refl t c) rfl
      (sameObjects_count s.store context _) rfl rfl (by rw [hpc]; exact id) id
      (fun hf => Nat.lt_of_lt_of_le (hi.stored context o ho).1 hf.length)
      (fun m c c' _ _ _ h => by rw [hpc] at h; exact h.elim)
      (fun r hr => .inl hr) (fun d hd => .inl hd)

theorem lock_some (h : s.lock t n pc = some s') :
    (∀ c, s.ciphers[n]? = some c → c.holder = none) ∧
      s' = (s.modifyCipher n fun cipher => { cipher with holder := some t }).setPc t pc := by
  unfold lock at h
  split_ifs at h with hfree
  cases h
  refine ⟨fun c hc => ?_, rfl⟩
  rw [hc] at hfree
  exact Option.isNone_iff_eq_none.1 hfree

theorem kept_lock {c : CreatedCipher} (h : c.holder = none) :
    Kept t c { c with holder := some t } :=
  ⟨rfl, rfl, rfl, .inl rfl, fun _ _ ht => by rw [h] at ht; cases ht⟩

theorem kept_unlock {c : CreatedCipher} (h : c.holder = some t) :
    Kept t c { c with holder := none } :=
  ⟨rfl, rfl, rfl, .inl rfl, fun _ hne ht => by rw [h] at ht; cases ht; exact absurd rfl hne⟩

theorem modifyCipher_get (hc : s.ciphers[n]? = some c) (f : CreatedCipher → CreatedCipher) :
    ((s.modifyCipher n f).setPc t pc).ciphers[n]? = some (f c) := by
  simp only [setPc, modifyCipher, List.getElem?_modify_eq, hc, Option.map_eq_map, Option.map_some]

theorem Inv.initLock (hi : Inv uuid s) (hpc : s.pc t = .initLocking request key slot n)
    (h : s.lock t n (.setting request key slot n) = some s') : Inv uuid s' := by
  have hinv := hi.requests t
  rw [hpc] at hinv
  obtain ⟨hleft, cipher, hcipher, hgiven⟩ := hinv
  obtain ⟨hfree, rfl⟩ := lock_some h
  refine hi.step_same rfl (fun c hc => kept_lock (hfree c hc)) rfl (sameObjects_refl _) rfl rfl
    (by rw [hpc]; exact id) id (fun hf => ?_) (fun m c c' _ _ _ h => .inr ?_)
    (fun r hr => .inl hr) (fun d hd => .inl hd)
  · exact ⟨hf.left hleft, _, modifyCipher_get hcipher _, hgiven, rfl⟩
  · rw [hpc] at h
    exact h.1

theorem Inv.set (hi : Inv uuid s) (hpc : s.pc t = .setting request key slot n)
    (hallocated : request.oaep.label.isSome → allocated = true) :
    Inv uuid ((s.setOaep n request.oaep allocated).setPc t (.initUnlocking key slot n
      (if request.oaep.label.isSome ∧ ¬allocated then .internalError else .ok))) := by
  have hinv := hi.requests t
  rw [hpc] at hinv
  obtain ⟨hleft, cipher, hcipher, hgiven, hholder⟩ := hinv
  have hno : ¬(request.oaep.label.isSome ∧ ¬allocated) := fun h => h.2 (hallocated h.1)
  unfold setOaep
  simp only [if_neg hno]
  refine hi.step_same rfl (fun c hc => ?_) rfl (sameObjects_refl _) rfl rfl
    (by rw [hpc]; exact id) id (fun hf => ?_) (fun m c c' hc hc' hk h => .inl ?_)
    (fun r hr => .inl hr) (fun d hd => .inl hd)
  · cases hc.symm.trans hcipher
    exact ⟨rfl, rfl, rfl, .inr hgiven.symm, fun _ _ h => h⟩
  · exact ⟨hf.left hleft, rfl, _, modifyCipher_get hcipher _, hholder⟩
  · rw [hpc] at h
    cases h
    cases hc.symm.trans hcipher
    cases hc'.symm.trans (modifyCipher_get hcipher _)
    exact hgiven.symm

theorem Inv.unlocks (hi : Inv uuid s) (hold : ¬HoldsKey (s.pc t)) (hnew : ¬HoldsKey pc)
    (hlocked : s.Holds t n) (hawaits : ∀ m c, ¬s.Awaits m c (s.pc t))
    (hinv : Frame t s (s.unlock t n pc) → (s.unlock t n pc).PcInv t pc) :
    Inv uuid (s.unlock t n pc) := by
  obtain ⟨cipher, hcipher, hholder⟩ := hlocked
  refine hi.step_same rfl (fun c hc => ?_) rfl (sameObjects_refl _) rfl rfl hold hnew hinv
    (fun m c c' _ _ _ h => absurd h (hawaits m c)) (fun r hr => .inl hr) (fun d hd => .inl hd)
  cases hc.symm.trans hcipher
  exact kept_unlock hholder

theorem Inv.initUnlock (hi : Inv uuid s) (hpc : s.pc t = .initUnlocking key slot n status) :
    Inv uuid (s.unlock t n (.initReleasing key slot n status)) := by
  have hinv := hi.requests t
  rw [hpc] at hinv
  obtain ⟨hleft, hstatus, hlocked⟩ := hinv
  exact hi.unlocks (by rw [hpc]; exact id) id hlocked (fun m c => by rw [hpc]; exact id)
    fun hf => ⟨hf.left hleft, hstatus⟩

theorem Inv.initRelease (hi : Inv uuid s) (hpc : s.pc t = .initReleasing key slot n status) :
    Inv uuid ((s.release uuid slot n).finish t key status slot) := by
  have hinv := hi.requests t
  rw [hpc] at hinv
  obtain ⟨hleft, rfl⟩ := hinv
  refine hi.step_same (n := 0) (f := id) (List.modify_id _ _).symm (fun c _ => .refl t c) rfl
    (objectStoreRelease_same s.store) ?_ rfl (by rw [hpc]; exact id) (id : ¬HoldsKey .idle)
    (fun _ => trivial) (fun m c c' _ _ _ h => by rw [hpc] at h; exact h.elim) (fun r hr => ?_)
    (fun d hd => .inl hd)
  · simp only [finish, setPc, if_true, release]
  · rcases List.mem_cons.1 hr with rfl | hr
    · exact .inr fun hf => ⟨fun hne => absurd rfl hne, fun _ => hf.left hleft⟩
    · exact .inl hr

theorem Inv.unlocked (hi : Inv uuid s) (hunset : ∀ t, ¬s.Unset n (s.pc t))
    (hc : s.ciphers[n]? = some c) (hfree : c.holder = none)
    (halg : c.cipherAlgorithm = .rsaOaep) : c.oaep = c.given := by
  rcases hi.settled n c hc halg with h | ⟨hzero, t, ht⟩
  · exact h
  · have hnot := hunset t
    have hinv := hi.requests t
    cases hpc : s.pc t with
    | added request key slot =>
      rw [hpc] at ht hnot
      by_contra hne
      exact hnot ⟨ht.1, fun h => hne (hzero.trans (h.symm.trans ht.2))⟩
    | initLocking request key slot m =>
      rw [hpc] at ht hnot
      by_contra hne
      exact hnot ⟨ht.1.symm ▸ rfl, fun h => hne (hzero.trans (h.symm.trans ht.2))⟩
    | setting request key slot m =>
      rw [hpc] at ht hinv
      cases ht
      obtain ⟨-, cipher, hcipher, -, hholder⟩ := hinv
      cases hc.symm.trans hcipher
      rw [hfree] at hholder
      cases hholder
    | _ =>
      rw [hpc] at ht
      exact ht.elim

theorem Inv.processLock (hi : Inv uuid s) (hpc : s.pc t = .locking slot n)
    (hunset : ∀ t, ¬s.Unset n (s.pc t)) (h : s.lock t n (.decrypting slot n) = some s') :
    Inv uuid s' := by
  have hinv := hi.requests t
  rw [hpc] at hinv
  have hcipher := List.getElem?_eq_getElem hinv
  obtain ⟨hfree, rfl⟩ := lock_some h
  refine hi.step_same rfl (fun c hc => kept_lock (hfree c hc)) rfl (sameObjects_refl _) rfl rfl
    (by rw [hpc]; exact id) id (fun _ => ?_) (fun m c c' _ _ _ h => by rw [hpc] at h; exact h.elim)
    (fun r hr => .inl hr) (fun d hd => .inl hd)
  have hset := hi.unlocked hunset hcipher (hfree _ hcipher)
  exact ⟨_, modifyCipher_get hcipher _, rfl, hset⟩

theorem Inv.goOn (hi : Inv uuid s) (hold : ¬HoldsKey (s.pc t)) (hnew : ¬HoldsKey pc)
    (hawaits : ∀ m c, ¬s.Awaits m c (s.pc t)) (hinv : Frame t s (s.setPc t pc) →
      (s.setPc t pc).PcInv t pc) : Inv uuid (s.setPc t pc) :=
  hi.step_same (n := 0) (f := id) (List.modify_id _ _).symm (fun c _ => .refl t c) rfl
    (sameObjects_refl _) rfl rfl hold hnew hinv (fun m c _ _ _ _ h => absurd h (hawaits m c))
    (fun _ hr => .inl hr) (fun _ hd => .inl hd)

theorem Inv.decrypt (hi : Inv uuid s) (hpc : s.pc t = .decrypting slot n) :
    Inv uuid { s with decrypted :=
      (s.ciphers[n]?.map fun cipher => (n, cipher.oaep)).toList ++ s.decrypted } := by
  have hinv := hi.requests t
  rw [hpc] at hinv
  obtain ⟨cipher, hcipher, hholder, hoaep⟩ := hinv
  rw [hcipher]
  refine hi.step_same (t := t) (n := 0) (f := id)
    (List.modify_id _ _).symm (fun c _ => .refl t c) rfl (sameObjects_refl _) rfl ?_
    (by rw [hpc]; exact id) (id : ¬HoldsKey (.decrypting slot n))
    (fun _ => ⟨cipher, hcipher, hholder, hoaep⟩)
    (fun m c c' _ _ _ h => by rw [hpc] at h; exact h.elim) (fun r hr => .inl hr) (fun d hd => ?_)
  · rw [← hpc, Function.update_eq_self]
  · rcases List.mem_cons.1 hd with rfl | hd
    · exact .inr fun _ => ⟨cipher, hcipher, hoaep⟩
    · exact .inl hd

theorem Inv.processUnlock (hi : Inv uuid s) (hpc : s.pc t = .decrypting slot n) :
    Inv uuid (s.unlock t n (.releasing slot n)) := by
  have hinv := hi.requests t
  rw [hpc] at hinv
  obtain ⟨cipher, hcipher, hholder, -⟩ := hinv
  exact hi.unlocks (by rw [hpc]; exact id) id ⟨cipher, hcipher, hholder⟩
    (fun m c => by rw [hpc]; exact id) fun _ => trivial

theorem Inv.processRelease (hi : Inv uuid s) (hpc : s.pc t = .releasing slot n) :
    Inv uuid ((s.release uuid slot n).setPc t .idle) :=
  hi.step_same (n := 0) (f := id) (List.modify_id _ _).symm (fun c _ => .refl t c) rfl
    (objectStoreRelease_same s.store) rfl rfl (by rw [hpc]; exact id) id (fun _ => trivial)
    (fun m c c' _ _ _ h => by rw [hpc] at h; exact h.elim) (fun r hr => .inl hr)
    (fun d hd => .inl hd)

/-- The pass that takes a cipher out of the store leaves its key with the request. -/
theorem Inv.delete (hi : Inv uuid s) (hpc : s.pc t = .idle)
    (hdel : Deletes s.store context n store') (hadded : ∀ t' request key,
      s.pc t' ≠ .added request key context) :
    Inv uuid ({ s with store := store' }.setPc t (.freeing n)) := by
  obtain ⟨hlt, -, hcontext⟩ := hi.stored context n hdel.object
  have hkey : s.keyOf n = some (s.ciphers[n]).storedKey := by
    rw [keyOf, List.getElem?_eq_getElem hlt]
    rfl
  have hempty : (store'.objects context).object = none := by
    rw [hdel.objects, Function.update_self]
  have hother : ∀ slot ≠ context, store'.objects slot = s.store.objects slot :=
    fun slot h => by rw [hdel.objects, Function.update_of_ne h]
  have hold : ∀ key, s.InPlace (.stored context) key ↔ key = (s.ciphers[n]).storedKey := by
    intro key
    simp only [InPlace, hdel.object, Option.some.injEq, exists_eq_left', hkey]
    exact eq_comm
  have hplace : ∀ place key, ({ s with store := store' }.setPc t (.freeing n)).InPlace place key ↔
      (place = .freeing t ∧ key = (s.ciphers[n]).storedKey) ∨
        (place ≠ .stored context ∧ s.InPlace place key) := by
    intro place key
    cases place with
    | creating t' =>
      by_cases ht : t' = t
      · subst ht
        simp [InPlace, setPc, hpc]
      · simp [InPlace, setPc, ht]
    | freeing t' =>
      by_cases ht : t' = t
      · subst ht
        have hkey' : ({ s with store := store' }.setPc t' (.freeing n)).keyOf n =
            some (s.ciphers[n]).storedKey := hkey
        have hnow : ({ s with store := store' }.setPc t' (.freeing n)).pc t' = .freeing n :=
          Function.update_self ..
        simp only [InPlace, hnow, hkey', hpc, RequestPc.freeing.injEq, exists_eq_left',
          Option.some.injEq, reduceCtorEq, false_and, exists_false, and_false, or_false, true_and]
        exact eq_comm
      · simp [InPlace, setPc, ht, keyOf]
    | stored slot =>
      by_cases hs : slot = context
      · subst hs
        simp [InPlace, setPc, hempty]
      · simp [InPlace, setPc, keyOf, hother slot hs, hs]
    | freed => simp [InPlace, setPc]
  have hobject : ∀ t' request key slot, t' ≠ t → s.pc t' = .added request key slot →
      (store'.objects slot).object = (s.store.objects slot).object := by
    intro t' request key slot _ h
    rw [hother slot]
    rintro rfl
    exact hadded t' request key h
  have hothers : ∀ t', t' ≠ t →
      ({ s with store := store' }.setPc t (.freeing n)).pc t' = s.pc t' :=
    fun t' ht => Function.update_of_ne ht _ _
  refine hi.step_of_frame ⟨fun n c hc => ⟨c, hc, .refl t c⟩, Nat.le_refl _,
    fun t' key _ h => ?_, fun _ h => h⟩ (hi.exact.move hold hplace) hi.nodup
    (hdel.bitsMatch hcontext hi.bits) (hdel.frame.isShuttingDown.trans hi.running) ?_ hobject
    hothers ?_
    (fun n c hc => (hi.settled n c hc).kept (.refl t c) hothers hobject fun h => ?_)
    (fun r hr => .inl hr) (fun d hd => .inl hd)
  · rcases (hplace _ key).1 h with ⟨h, -⟩ | ⟨-, h⟩
    · cases h
    · exact h
  · intro slot m h
    simp only [setPc] at h ⊢
    by_cases hs : slot = context
    · rw [hs, hempty] at h
      cases h
    · rw [hother slot hs] at h ⊢
      rw [hdel.frame.slotCount]
      exact hi.stored slot m h
  · simp only [setPc, Function.update_self]
    exact hlt
  · rw [hpc] at h
    exact h.elim

theorem Inv.remove (hi : Inv uuid s) (hpc : s.pc t = .idle)
    (hadded : ∀ t' request key, s.pc t' ≠ .added request key context) :
    Inv uuid (s.remove uuid t context) := by
  unfold CreationState.remove
  rcases storeRemoveLocked_cases s.store context (some uuid) with
    ⟨status, h, -⟩ | ⟨o, h, -⟩ | ⟨o, store', h, -, hdel⟩
  · rw [h]
    exact hi
  · rw [h]
    exact hi
  · rw [h]
    exact hi.delete hpc hdel hadded

theorem Inv.free (hi : Inv uuid s) (hpc : s.pc t = .freeing n) :
    Inv uuid ({ s with freed :=
      (s.ciphers[n]?.map CreatedCipher.storedKey).toList ++ s.freed }.setPc t .idle) := by
  have hinv := hi.requests t
  rw [hpc] at hinv
  have hlt : n < s.ciphers.length := hinv
  have hcipher := List.getElem?_eq_getElem hlt
  rw [hcipher]
  have hold : ∀ key, s.InPlace (.freeing t) key ↔ key = (s.ciphers[n]).storedKey := by
    intro key
    simp only [InPlace, hpc, RequestPc.freeing.injEq, exists_eq_left', keyOf, hcipher,
      Option.map_some, Option.some.injEq]
    exact eq_comm
  have hfresh : (s.ciphers[n]).storedKey ∉ s.freed := fun hfreed => by
    cases (hi.exact.unique (.freeing t) .freed _ _ ((hold _).2 rfl) hfreed rfl).1
  have hplace : ∀ place key, ({ s with freed :=
      ((some s.ciphers[n]).map CreatedCipher.storedKey).toList ++ s.freed }.setPc t .idle).InPlace
        place key ↔ (place = .freed ∧ key = (s.ciphers[n]).storedKey) ∨
        (place ≠ .freeing t ∧ s.InPlace place key) := by
    intro place key
    cases place with
    | creating t' =>
      by_cases ht : t' = t
      · subst ht
        simp [InPlace, setPc, hpc]
      · simp [InPlace, setPc, ht]
    | freeing t' =>
      by_cases ht : t' = t
      · subst ht
        simp [InPlace, setPc]
      · simp [InPlace, setPc, ht, keyOf]
    | stored slot => simp [InPlace, setPc, keyOf]
    | freed => simp [InPlace, setPc]
  have hothers : ∀ t', t' ≠ t → ({ s with freed :=
      ((some s.ciphers[n]).map CreatedCipher.storedKey).toList ++ s.freed }.setPc t .idle).pc t' =
        s.pc t' := fun t' ht => Function.update_of_ne ht _ _
  refine hi.step_of_frame ⟨fun n c hc => ⟨c, hc, .refl t c⟩, Nat.le_refl _,
    fun t' key _ h => ?_, fun _ h => List.mem_cons_of_mem _ h⟩ (hi.exact.move hold hplace)
    (List.nodup_cons.2 ⟨hfresh, hi.nodup⟩) hi.bits hi.running hi.stored (fun _ _ _ _ _ _ => rfl)
    hothers ?_
    (fun n c hc => (hi.settled n c hc).kept (.refl t c) hothers (fun _ _ _ _ _ _ => rfl)
      fun h => ?_)
    (fun r hr => .inl hr) (fun d hd => .inl hd)
  · rcases (hplace _ key).1 h with ⟨h, -⟩ | ⟨-, h⟩
    · cases h
    · exact h
  · simp only [setPc, Function.update_self]
    trivial
  · rw [hpc] at h
    exact h.elim

theorem Inv.step (hi : Inv uuid s) (hc : s.Undisturbed (t, action))
    (h : s.step uuid (t, action) = some s') : Inv uuid s' := by
  unfold CreationState.step at h
  unfold Undisturbed at hc
  dsimp only at h hc
  split at h
  case h_1 request hpc =>
    cases h
    exact hi.init hpc request
  case h_2 request key hpc =>
    cases h
    exact hi.addCipher hpc
  case h_3 request key slot hpc =>
    cases h
    exact hi.initAcquire hpc _
  case h_4 request key slot n succeeds hpc =>
    rw [hpc] at hc
    dsimp only at hc
    rw [if_pos hc] at h
    exact hi.initLock hpc h
  case h_5 request key slot n allocated hpc =>
    rw [hpc] at hc
    cases h
    exact hi.set hpc hc
  case h_6 key slot n status hpc =>
    cases h
    exact hi.initUnlock hpc
  case h_7 key slot n status hpc =>
    cases h
    exact hi.initRelease hpc
  case h_8 context hpc =>
    cases h
    exact hi.process hpc context
  case h_9 slot n succeeds hpc =>
    rw [hpc] at hc
    split_ifs at h
    · exact hi.processLock hpc hc h
    · cases h
      exact hi.goOn (by rw [hpc]; exact id) id (fun m c => by rw [hpc]; exact id) fun _ => trivial
  case h_10 slot n hpc =>
    cases h
    exact hi.decrypt hpc
  case h_11 slot n hpc =>
    cases h
    exact hi.processUnlock hpc
  case h_12 slot n hpc =>
    cases h
    exact hi.processRelease hpc
  case h_13 context hpc =>
    rw [hpc] at hc
    cases h
    exact hi.remove hpc hc
  case h_14 n hpc =>
    cases h
    exact hi.free hpc
  case h_15 => cases h

theorem Inv.start {store : ObjectStore Nat} (h : objectStoreInit count = some store) :
    Inv uuid (start store) := by
  obtain ⟨hbits, hzero, -, hrunning, -⟩ := objectStoreInit_spec h
  have hnowhere : ∀ place key, ¬(CreationState.start store).InPlace place key := by
    intro place key
    cases place <;> simp [InPlace, CreationState.start, hzero, StoreObject.zero]
  exact {
    exact := ⟨fun key h => absurd h (Nat.not_lt_zero _), fun p key h => absurd h (hnowhere p key),
      fun p q key key' h => absurd h (hnowhere p key)⟩
    nodup := List.nodup_nil
    bits := hbits
    running := hrunning
    stored := fun slot n h => by simp [CreationState.start, hzero, StoreObject.zero] at h
    requests := fun t => trivial
    settled := fun n c h => by simp [CreationState.start] at h
    returns := by simp [CreationState.start]
    decrypts := by simp [CreationState.start] }

theorem Inv.createsAtomically (hi : Inv uuid s) : s.CreatesAtomically where
  failed r hr hne := by
    obtain ⟨hcontext, hfreed⟩ := (hi.returns r hr).failed hne
    refine ⟨hcontext, List.count_eq_one_of_mem hi.nodup hfreed, fun place hplace => ?_⟩
    exact (hi.exact.unique place .freed r.key r.key hplace hfreed rfl).1
  succeeded r hr hok := by
    obtain ⟨hlt, hleft⟩ := (hi.returns r hr).succeeded hok
    obtain ⟨place, hplace⟩ := hi.exact.total r.key hlt
    refine ⟨List.nodup_iff_count_le_one.1 hi.nodup r.key, place, hplace, ?_, fun place' h =>
      (hi.exact.unique place' place r.key r.key h hplace rfl).1⟩
    rintro t rfl
    exact hleft t hplace
  given := hi.decrypts

end Invariant

/-- In every run whose steps leave the creations of RSA-OAEP contexts alone, the creation of a
cipher context is atomic in every state reached. -/
theorem cipherCreation_atomic (uuid : SaUuid) (count : UInt64) (store : ObjectStore Nat)
    (labels : List (Nat × CreationAction)) (s : CreationState)
    (hstore : objectStoreInit count = some store)
    (hlabels : Transition.Meets (step uuid) Undisturbed (start store) labels)
    (hrun : Transition.exec (step uuid) (start store) labels = some s) : s.CreatesAtomically := by
  have hstep : ∀ s (a : Nat × CreationAction) s', Inv uuid s → Undisturbed s a →
      s.step uuid a = some s' → Inv uuid s' := fun _ _ _ hi hc h => hi.step hc h
  have hi : Inv uuid s := Transition.exec_invariant hstep (.start hstore) hlabels hrun
  exact hi.createsAtomically

def oaepRequest : CipherInitRequest where
  header := ⟨allRights, .rsa, .zero, 256⟩
  cipherAlgorithm := .rsaOaep
  cipherMode := .decrypt
  reading := noOutputs
  created := .ok ()
  oaep := ⟨.sha256, .sha256, some [1]⟩
  created_ne_ok := nofun

/-- The steps of the call, with or without the memory for the label. -/
def oaepCreation (allocated : Bool) : List (Nat × CreationAction) :=
  [(0, .init oaepRequest), (0, .add), (0, .acquire), (0, .lock true), (0, .set allocated),
    (0, .unlock), (0, .release)]

def creationStep (s : CreationState) : Nat × CreationAction → Bool
  | (t, action) =>
    match s.pc t, action with
    | .initLocking .., .lock succeeds | .setting .., .set succeeds => succeeds
    | .locking .., .lock _ | .idle, .remove _ => false
    | _, _ => true

theorem undisturbed_of_creationStep (s : CreationState) (label : Nat × CreationAction)
    (h : creationStep s label = true) : s.Undisturbed label := by
  obtain ⟨t, action⟩ := label
  unfold creationStep at h
  unfold Undisturbed
  dsimp only at h ⊢
  generalize s.pc t = pc at h ⊢
  cases pc <;> cases action <;> first | trivial | exact h | exact fun _ => h

theorem cipherCreation_atomic_oaep : ∃ store s,
    objectStoreInit 32 = some store ∧
    Transition.exec (step (.ofByte 1)) (start store) (oaepCreation true) = some s ∧
    s.returned = [⟨.ok, 31, 0⟩] ∧ s.CreatesAtomically := by
  obtain ⟨store, hstore, hmeets, hrun⟩ : ∃ store : ObjectStore Nat,
      objectStoreInit 32 = some store ∧
      Transition.Meets (step (.ofByte 1)) (fun s a => creationStep s a = true) (start store)
        (oaepCreation true) ∧
      (Transition.exec (step (.ofByte 1)) (start store) (oaepCreation true)).map
        CreationState.returned = some [⟨.ok, 31, 0⟩] :=
    ⟨_, rfl, by decide +kernel, by decide +kernel⟩
  obtain ⟨s, hs, hreturned⟩ := Option.map_eq_some_iff.1 hrun
  exact ⟨store, s, hstore, hs, hreturned, cipherCreation_atomic (.ofByte 1) 32 store
    (oaepCreation true) s hstore (hmeets.imp undisturbed_of_creationStep) hs⟩

/-- Without the memory for the label the call fails, and its context stays in the store with a key
that is freed. -/
theorem cipherCreation_not_atomic : ¬∀ (uuid : SaUuid) (count : UInt64) (store : ObjectStore Nat)
    (labels : List (Nat × CreationAction)) (s : CreationState),
    objectStoreInit count = some store →
    Transition.exec (step uuid) (start store) labels = some s → s.CreatesAtomically := by
  intro h
  obtain ⟨store, hstore, hrun⟩ : ∃ store : ObjectStore Nat, objectStoreInit 32 = some store ∧
      (Transition.exec (step (.ofByte 1)) (start store) (oaepCreation false)).map
        CreationState.returned = some [⟨.internalError, 31, 0⟩] :=
    ⟨_, rfl, by decide +kernel⟩
  obtain ⟨s, hs, hreturned⟩ := Option.map_eq_some_iff.1 hrun
  have hfailed := (h (.ofByte 1) 32 store (oaepCreation false) s hstore hs).failed
    ⟨.internalError, 31, 0⟩ (hreturned ▸ List.mem_cons_self) nofun
  exact absurd hfailed.1 (by decide)

end CreationState

end TaSecureApi
