import TaSecureApi.TaReferences

namespace TaSecureApi
set_option autoImplicit true
open Programs StoreCalls Function

/-- Where a client is: in a slot, taken out of it by a remove, made by a thread that has not added
it, or with a thread that shuts down its stores. -/
inductive ClientPlace
  | slot (slot : Nat)
  | remover (c : Caller)
  | made (c : Caller)
  | gone (c : Caller)
  deriving DecidableEq

def clientAt (st : StoreState Nat) : ClientPlace → Option Nat
  | .slot slot => (st.store.objects slot).object
  | .remover c => (st.removes c).objectToFree.map Prod.fst
  | .made _ | .gone _ => none

def Serves (st : StoreState Nat) : Prop :=
  st.destroyed = false ∧ st.shutdown = .idle ∧ st.store.isShuttingDown = false

/-- The store of the clients, and the stores of a client that is not being freed. -/
def Alive (place : Nat → Option ClientPlace) (store : StoreId) : Prop :=
  ∀ client ∈ store.client, ∃ p, place client = some p ∧ ∀ c, p ≠ .gone c

/-- Every client is in one place, and its stores are there until they are shut down. -/
structure Clients (stores : StoreId → StoreState Nat) (objects : Nat)
    (holds : Caller → List Holding) (place : Nat → Option ClientPlace) : Prop where
  stored : ∀ p client, clientAt (stores .clients) p = some client → place client = some p
  made : ∀ c client, (holds c).count (.made client) ≠ 0 →
    (holds c).count (.made client) = 1 ∧ place client = some (.made c)
  gone : ∀ c store, (holds c).count (.gone store) ≠ 0 → (holds c).count (.gone store) = 1 ∧
    (∃ client, store.client = some client ∧ place client = some (.gone c)) ∧
    (stores store).destroyed = false
  serves : ∀ store, Alive place store → Serves (stores store)
  unmade : ∀ store client, store.client = some client → place client = none →
    stores store = { newStore with destroyed := true }
  fresh : ∀ client, objects ≤ client → place client = none

/-- Only the calls that wait are in the middle of something, and none has used a freed store. -/
structure CallsInv (stores : StoreId → StoreState Nat) (waiting : Caller → Option StoreCall)
    (holds : Caller → List Holding) : Prop where
  busy : ∀ store c, (stores store).removes c ≠ .idle → ∃ slot, waiting c = some (.remove store slot)
  reach : ∀ c store slot, waiting c = some (.remove store slot) → ReachesStore (holds c) store
  log : ∀ store caller o, .useAfterDestroy caller o ∉ (stores store).log
  done : ∀ store, (stores store).shutdown = .done → (stores store).destroyed = true

section Sections

variable {stores : StoreId → StoreState Nat} {waiting : Caller → Option StoreCall}
  {holds : Caller → List Holding} {place : Nat → Option ClientPlace} {c : Caller} {store : StoreId}
  {call : StoreCall} {answer : Option call.Answer} {st st' : StoreState Nat}
  {hand left : List Holding} {objects : Nat}

theorem Section.removes (h : Section st c store call st' answer) :
    (∀ c', c' ≠ c → st'.removes c' = st.removes c') ∧ (st'.removes c ≠ .idle →
      (st.removes c ≠ .idle ∧ ∀ slot, call ≠ .remove store slot) ∨
        ∃ slot, call = .remove store slot ∧ unanswered call answer = some call) := by
  cases h with
  | removeFails hpc => exact ⟨fun _ _ => rfl, fun hne => absurd hpc hne⟩
  | removeGoesOn | removeDeletes =>
    exact ⟨fun c' hc => by simp [hc], fun _ => .inr ⟨_, rfl, rfl⟩⟩
  | removeEnds => exact ⟨fun c' hc => by simp [hc], fun hne => absurd (by simp) hne⟩
  | _ => exact ⟨fun _ _ => rfl, fun hne => .inl ⟨hne, by simp⟩⟩

theorem Section.log (h : Section st c store call st' answer)
    (hlog : ∀ caller o, .useAfterDestroy caller o ∉ st.log) (caller : Caller)
    (o : Option (Nat × Nat)) : .useAfterDestroy caller o ∉ st'.log := by
  cases h with
  | adds _ hevent =>
    rw [List.mem_cons, not_or]
    exact ⟨(hevent caller o).symm, hlog caller o⟩
  | removeDeletes _ _ he | removeEnds he | shutdownGoesOn _ _ _ he | shutdownDeletes _ _ he =>
    rw [StoreState.record_log, List.mem_append]
    exact fun hmem => hmem.elim (he caller o) (hlog caller o)
  | _ => exact hlog caller o

theorem Section.done (h : Section st c store call st' answer)
    (hdone : st.shutdown = .done → st.destroyed = true) :
    st'.shutdown = .done → st'.destroyed = true := by
  cases h with
  | shutdownGoesOn _ _ hpc | shutdownDeletes _ hpc => exact fun h => absurd h hpc
  | shutdownCloses => exact fun _ => rfl
  | _ => exact hdone

theorem Section.serves (h : Section st c store call st' answer)
    (hcall : ∀ store, call ≠ .shutdown store) (hserves : Serves st) : Serves st' := by
  obtain ⟨hd, hpc, hshutting⟩ := hserves
  cases h with
  | shutdownGoesOn | shutdownDeletes | shutdownCloses => exact absurd rfl (hcall store)
  | adds hfills => exact ⟨hd, hpc, hfills.frame.isShuttingDown.trans hshutting⟩
  | removeGoesOn _ _ hsame => exact ⟨hd, hpc, hsame.trans hshutting⟩
  | removeDeletes _ hdel => exact ⟨hd, hpc, hdel.frame.isShuttingDown.trans hshutting⟩
  | _ => exact ⟨hd, hpc, hshutting⟩

theorem CallsInv.section (h : CallsInv stores waiting holds) (hallows : Allows hand call)
    (hop : ∀ op' ∈ waiting c, op' = call)
    (hsec : Section (stores store) c store call st' answer) :
    CallsInv (update stores store st') (update waiting c (unanswered call answer))
      (update holds c (taContract.next hand call answer ++ left)) := by
  constructor
  · intro store' c' hpc
    by_cases hs : store' = store
    · subst hs
      rw [update_self] at hpc
      by_cases hc : c' = c
      · subst hc
        rw [update_self]
        rcases hsec.removes.2 hpc with ⟨hbusy, hcall⟩ | ⟨slot, rfl, hunanswered⟩
        · obtain ⟨slot, hslot⟩ := h.busy store' c' hbusy
          exact absurd (hop _ hslot).symm (hcall slot)
        · exact ⟨slot, hunanswered⟩
      · rw [update_of_ne hc]
        rw [hsec.removes.1 c' hc] at hpc
        exact h.busy store' c' hpc
    · rw [update_of_ne hs] at hpc
      obtain ⟨slot, hslot⟩ := h.busy store' c' hpc
      by_cases hc : c' = c
      · subst hc
        obtain rfl := hop _ hslot
        cases hsec <;> exact absurd rfl hs
      · rw [update_of_ne hc]
        exact ⟨slot, hslot⟩
  · intro c' store' slot hwaiting
    by_cases hc : c' = c
    · subst hc
      rw [update_self] at hwaiting ⊢
      cases answer with
      | some answer => cases hwaiting
      | none =>
        obtain rfl := Option.some.inj hwaiting
        intro client hclient
        obtain ⟨slot', hmem⟩ := hallows.1 client hclient
        exact ⟨slot', List.mem_append_left _ hmem⟩
    · rw [update_of_ne hc] at hwaiting ⊢
      exact h.reach c' store' slot hwaiting
  · intro store' caller o
    by_cases hs : store' = store
    · subst hs
      rw [update_self]
      exact hsec.log (h.log store') caller o
    · rw [update_of_ne hs]
      exact h.log store' caller o
  · intro store'
    by_cases hs : store' = store
    · subst hs
      rw [update_self]
      exact hsec.done (h.done store')
    · rw [update_of_ne hs]
      exact h.done store'

theorem CallsInv.called (h : CallsInv stores waiting holds) (answer : Option call.Answer)
    (hop : ∀ op' ∈ waiting c, op' = call) (hcall : ∀ store slot, call ≠ .remove store slot) :
    CallsInv stores (update waiting c (unanswered call answer)) (update holds c hand) := by
  constructor
  · intro store' c' hpc
    obtain ⟨slot, hslot⟩ := h.busy store' c' hpc
    by_cases hc : c' = c
    · subst hc
      exact absurd (hop _ hslot).symm (hcall store' slot)
    · rw [update_of_ne hc]
      exact ⟨slot, hslot⟩
  · intro c' store' slot hwaiting
    by_cases hc : c' = c
    · subst hc
      rw [update_self] at hwaiting
      cases answer with
      | some answer => cases hwaiting
      | none => exact absurd (Option.some.inj hwaiting) (hcall store' slot)
    · rw [update_of_ne hc] at hwaiting ⊢
      exact h.reach c' store' slot hwaiting
  · exact h.log
  · exact h.done

def SamePlaces (hand hand' : List Holding) : Prop :=
  (∀ client, hand'.count (.made client) = hand.count (.made client)) ∧
    ∀ store, hand'.count (.gone store) = hand.count (.gone store)

theorem Clients.not_alive (h : Clients stores objects holds place)
    (hgone : (holds c).count (.gone store) ≠ 0) : ¬ Alive place store := by
  obtain ⟨-, ⟨client, hclient, hplace⟩, -⟩ := h.gone c store hgone
  intro halive
  obtain ⟨p, hp, hne⟩ := halive client hclient
  rw [hplace] at hp
  cases hp
  exact hne c rfl

theorem Clients.stay (h : Clients stores objects holds place) (hhand : SamePlaces (holds c) hand)
    (hat : store = .clients → ∀ p, clientAt st' p = clientAt (stores store) p)
    (hserves : Alive place store → Serves st') (hd : st'.destroyed = (stores store).destroyed)
    (hmade : ∀ client ∈ store.client, place client ≠ none) :
    Clients (update stores store st') objects (update holds c hand) place := by
  have hstore (store' : StoreId) :
      (update stores store st' store').destroyed = (stores store').destroyed := by
    by_cases hs : store' = store
    · subst hs
      rw [update_self, hd]
    · rw [update_of_ne hs]
  have hcount (c' : Caller) : SamePlaces (holds c') (update holds c hand c') := by
    by_cases hc : c' = c
    · subst hc
      rwa [update_self]
    · rw [update_of_ne hc]
      exact ⟨fun _ => rfl, fun _ => rfl⟩
  constructor
  · intro p client hp
    by_cases hs : store = .clients
    · subst hs
      rw [update_self, hat rfl] at hp
      exact h.stored p client hp
    · rw [update_of_ne (Ne.symm hs)] at hp
      exact h.stored p client hp
  · intro c' client
    rw [(hcount c').1]
    exact h.made c' client
  · intro c' store'
    rw [(hcount c').2, hstore]
    exact h.gone c' store'
  · intro store' halive
    by_cases hs : store' = store
    · subst hs
      rw [update_self]
      exact hserves halive
    · rw [update_of_ne hs]
      exact h.serves store' halive
  · intro store' client hclient hplace
    by_cases hs : store' = store
    · subst hs
      exact absurd hplace (hmade client hclient)
    · rw [update_of_ne hs]
      exact h.unmade store' client hclient hplace
  · exact h.fresh

theorem Clients.close (h : Clients stores objects holds place)
    (hgone : .gone store ∈ holds c) :
    Clients (update stores store { stores store with destroyed := true, shutdown := .done }) objects
      (update holds c ((holds c).erase (.gone store))) place := by
  have hcount : (holds c).count (.gone store) ≠ 0 :=
    (List.count_pos_iff.2 hgone).ne'
  obtain ⟨hone, ⟨client, hclient, hplace⟩, -⟩ := h.gone c store hcount
  have hclients : store ≠ .clients := by
    rintro rfl
    cases hclient
  constructor
  · intro p client' hp
    rw [update_of_ne hclients.symm] at hp
    exact h.stored p client' hp
  · intro c' client'
    by_cases hc : c' = c
    · subst hc
      rw [update_self, List.count_erase_of_ne (by simp)]
      exact h.made c' client'
    · rw [update_of_ne hc]
      exact h.made c' client'
  · intro c' store' hne
    by_cases hs : store' = store
    · subst hs
      by_cases hc : c' = c
      · subst hc
        simp [hone] at hne
      · rw [update_of_ne hc] at hne
        obtain ⟨-, ⟨client', hclient', hplace'⟩, -⟩ := h.gone c' store' hne
        rw [hclient] at hclient'
        cases hclient'
        rw [hplace] at hplace'
        cases hplace'
        exact absurd rfl hc
    · rw [update_of_ne hs]
      by_cases hc : c' = c
      · subst hc
        rw [update_self, List.count_erase_of_ne (by simpa using hs)] at hne ⊢
        exact h.gone c' store' hne
      · rw [update_of_ne hc] at hne ⊢
        exact h.gone c' store' hne
  · intro store' halive
    by_cases hs : store' = store
    · subst hs
      exact absurd halive (h.not_alive hcount)
    · rw [update_of_ne hs]
      exact h.serves store' halive
  · intro store' client' hclient' hplace'
    by_cases hs : store' = store
    · subst hs
      rw [hclient] at hclient'
      cases hclient'
      rw [hplace] at hplace'
      cases hplace'
    · rw [update_of_ne hs]
      exact h.unmade store' client' hclient' hplace'
  · exact h.fresh

theorem Clients.move (h : Clients stores objects holds place) {client : Nat} {p r : ClientPlace}
    (hplace : place client = some p) (hp : ∀ c, p ≠ .gone c)
    (hat : ∀ q client', clientAt st' q = some client' →
      (client' = client ∧ q = r) ∨ (clientAt (stores .clients) q = some client' ∧ q ≠ p))
    (hserves : Serves st')
    (hmade : ∀ client', hand.count (.made client') = if client' = client then 0
      else (holds c).count (.made client'))
    (hothers : ∀ c', p = .made c' → c' = c)
    (hgone : ∀ store, hand.count (.gone store) = (holds c).count (.gone store) +
      if store.client = some client ∧ r = .gone c then 1 else 0) :
    Clients (update stores .clients st') objects (update holds c hand)
      (update place client (some r)) := by
  have halive (store : StoreId) (hclient : store.client = some client) : Alive place store := by
    intro client' hclient'
    rw [hclient] at hclient'
    cases hclient'
    exact ⟨p, hplace, hp⟩
  have hnone (c' : Caller) {store : StoreId} (hclient : store.client = some client) :
      (holds c').count (.gone store) = 0 := by
    by_contra hne
    exact h.not_alive hne (halive store hclient)
  constructor
  · intro q client' hq
    rw [update_self] at hq
    rcases hat q client' hq with ⟨rfl, rfl⟩ | ⟨hq, hne⟩
    · rw [update_self]
    · have hstored := h.stored q client' hq
      rw [update_of_ne]
      · exact hstored
      · rintro rfl
        rw [hplace] at hstored
        cases hstored
        exact hne rfl
  · intro c' client' hne
    by_cases hc : c' = c
    · subst hc
      rw [update_self, hmade] at hne ⊢
      split_ifs at hne ⊢ with hclient
      · exact absurd rfl hne
      · rw [update_of_ne hclient]
        exact h.made c' client' hne
    · rw [update_of_ne hc] at hne ⊢
      obtain ⟨hone, hplace'⟩ := h.made c' client' hne
      rw [update_of_ne]
      · exact ⟨hone, hplace'⟩
      · rintro rfl
        rw [hplace] at hplace'
        cases hplace'
        exact hc (hothers c' rfl)
  · intro c' store hne
    by_cases hclient : store.client = some client
    · have hc : c' = c := by
        by_contra hc
        rw [update_of_ne hc] at hne
        exact hne (hnone c' hclient)
      subst hc
      rw [update_self, hgone, hnone c' hclient] at hne ⊢
      have hr : r = .gone c' := by
        by_contra hr
        simp [hr] at hne
      have hstore : store ≠ .clients := by
        rintro rfl
        cases hclient
      refine ⟨by simp [hclient, hr], ⟨client, hclient, ?_⟩, ?_⟩
      · rw [update_self, hr]
      · rw [update_of_ne hstore]
        exact (h.serves store (halive store hclient)).1
    · have hcount : (update holds c hand c').count (.gone store) =
          (holds c').count (.gone store) := by
        by_cases hc : c' = c
        · subst hc
          rw [update_self, hgone]
          simp [hclient]
        · rw [update_of_ne hc]
      rw [hcount] at hne ⊢
      obtain ⟨hone, ⟨client', hclient', hplace'⟩, hd⟩ := h.gone c' store hne
      refine ⟨hone, ⟨client', hclient', ?_⟩, ?_⟩
      · rw [update_of_ne]
        · exact hplace'
        · rintro rfl
          exact hclient hclient'
      · rw [update_of_ne]
        · exact hd
        · rintro rfl
          cases hclient'
  · intro store halive'
    by_cases hs : store = .clients
    · subst hs
      rw [update_self]
      exact hserves
    · rw [update_of_ne hs]
      apply h.serves store
      intro client' hclient'
      by_cases hc : client' = client
      · subst hc
        exact ⟨p, hplace, hp⟩
      · obtain ⟨q, hq, hne⟩ := halive' client' hclient'
        rw [update_of_ne hc] at hq
        exact ⟨q, hq, hne⟩
  · intro store client' hclient' hplace'
    have hs : store ≠ .clients := by
      rintro rfl
      cases hclient'
    rw [update_of_ne hs]
    apply h.unmade store client' hclient'
    by_cases hc : client' = client
    · subst hc
      rw [update_self] at hplace'
      cases hplace'
    · rwa [update_of_ne hc] at hplace'
  · intro client' hle
    have hfresh := h.fresh client' hle
    rw [update_of_ne]
    · exact hfresh
    · rintro rfl
      rw [hplace] at hfresh
      cases hfresh

theorem SamePlaces.refl (hand : List Holding) : SamePlaces hand hand := ⟨fun _ => rfl, fun _ => rfl⟩

theorem SamePlaces.append {hand hand' : List Holding} (h : SamePlaces hand hand')
    (left : List Holding) : SamePlaces (hand ++ left) (hand' ++ left) := by
  constructor
  · intro client
    rw [List.count_append, List.count_append, h.1]
  · intro store
    rw [List.count_append, List.count_append, h.2]

theorem samePlaces_cons (hmade : ∀ client, x ≠ .made client) (hgone : ∀ store, x ≠ .gone store) :
    SamePlaces hand (x :: hand) := by
  constructor
  · intro client
    exact List.count_cons_of_ne (hmade client)
  · intro store
    exact List.count_cons_of_ne (hgone store)

theorem samePlaces_erase (hmade : ∀ client, x ≠ .made client) (hgone : ∀ store, x ≠ .gone store) :
    SamePlaces hand (hand.erase x) := by
  constructor
  · intro client
    exact List.count_erase_of_ne (hmade client).symm
  · intro store
    exact List.count_erase_of_ne (hgone store).symm

theorem count_made_clientStores : (clientStores client).count (.made client') = 0 := by
  simp [clientStores]

theorem count_gone_clientStores :
    (clientStores client).count (.gone store) = if store.client = some client then 1 else 0 := by
  cases store with
  | clients => simp [clientStores, StoreId.client]
  | keys k | ciphers k | macs k | svps k =>
    by_cases hk : k = client
    · simp [clientStores, StoreId.client, hk]
    · simp [clientStores, StoreId.client, hk, Ne.symm hk]

theorem Clients.alive_of_reaches (h : Clients stores objects holds place)
    (hrefs : ReferencesInv stores holds) (hreach : ReachesStore (holds c) store) :
    Alive place store := by
  intro client hclient
  obtain ⟨slot, hmem⟩ := hreach client hclient
  obtain ⟨-, hobject, -⟩ := hrefs.stands c .clients slot client hmem
  exact ⟨.slot slot, h.stored (.slot slot) client hobject, by simp⟩

theorem ReachesStore.append (h : ReachesStore hand store) (left : List Holding) :
    ReachesStore (hand ++ left) store := by
  intro client hclient
  obtain ⟨slot, hmem⟩ := h client hclient
  exact ⟨slot, List.mem_append_left _ hmem⟩

theorem Clients.add (h : Clients stores objects holds place) {client : Nat}
    {answer : Option (StoreCall.add .clients client).Answer}
    (hholds : holds c = hand ++ left) (hmem : .made client ∈ hand)
    (hsec : Section (stores .clients) c .clients (.add .clients client) st' answer) :
    ∃ place', Clients (update stores .clients st') objects
      (update holds c (taContract.next hand (.add .clients client) answer ++ left)) place' := by
  have hserves := hsec.serves (by simp) (h.serves .clients (by intro _ h; cases h))
  have hcount : (holds c).count (.made client) ≠ 0 := by
    rw [hholds]
    exact (List.count_pos_iff.2 (List.mem_append_left _ hmem)).ne'
  obtain ⟨hone, hplace⟩ := h.made c client hcount
  have herase (client' : Nat) : (hand.erase (.made client) ++ left).count (.made client') =
      if client' = client then 0 else (holds c).count (.made client') := by
    rw [← List.erase_append_left _ hmem, ← hholds]
    split_ifs with he
    · rw [he, List.count_erase_self, hone]
    · exact List.count_erase_of_ne (by simpa using he)
  have hgone (store : StoreId) : (hand.erase (.made client) ++ left).count (.gone store) =
      (holds c).count (.gone store) := by
    rw [← List.erase_append_left _ hmem, ← hholds]
    exact List.count_erase_of_ne (by simp)
  cases hsec with
  | addFails =>
    refine ⟨_, h.move (r := .gone c) hplace (by simp) ?_ hserves ?_ ?_ ?_⟩
    · intro q client' hq
      refine .inr ⟨hq, ?_⟩
      rintro rfl
      cases hq
    · intro client'
      change (clientStores client ++ hand.erase (.made client) ++ left).count _ = _
      rw [List.append_assoc, List.count_append, count_made_clientStores, herase, Nat.zero_add]
    · intro c' hc
      cases hc
      rfl
    · intro store
      change (clientStores client ++ hand.erase (.made client) ++ left).count _ = _
      rw [List.append_assoc, List.count_append, count_gone_clientStores, hgone, Nat.add_comm]
      simp
  | @adds _ slot store' _ _ _ hfills =>
    refine ⟨_, h.move (r := .slot slot) hplace (by simp) ?_ hserves herase ?_ ?_⟩
    · intro q client' hq
      cases q with
      | slot s =>
        simp only [clientAt, hfills.objects, update_apply] at hq
        split_ifs at hq with hs
        · cases hq
          exact .inl ⟨rfl, by rw [hs]⟩
        · exact .inr ⟨hq, by simp⟩
      | remover c' => exact .inr ⟨hq, by simp⟩
      | made c' | gone c' => cases hq
    · intro c' hc
      cases hc
      rfl
    · intro store
      exact (hgone store).trans (by simp)

theorem Clients.remove (h : Clients stores objects holds place)
    {answer : Option (StoreCall.remove .clients slot).Answer} (hholds : holds c = hand ++ left)
    (hsec : Section (stores .clients) c .clients (.remove .clients slot) st' answer) :
    ∃ place', Clients (update stores .clients st') objects
      (update holds c (taContract.next hand (.remove .clients slot) answer ++ left)) place' := by
  have halive : Alive place .clients := by
    intro client hclient
    cases hclient
  have hserves := hsec.serves (by simp) (h.serves .clients halive)
  have hsame : SamePlaces (holds c) (hand ++ left) := by
    rw [hholds]
    exact .refl _
  cases hsec with
  | removeFails =>
    exact ⟨place, h.stay hsame (fun _ _ => rfl) (fun _ => hserves) rfl (by rintro _ ⟨⟩)⟩
  | removeGoesOn _ hobjects _ hfree =>
    refine ⟨place, h.stay hsame (fun _ p => ?_) (fun _ => hserves) rfl (by rintro _ ⟨⟩)⟩
    cases p with
    | slot s => exact congrArg (fun objects => (objects s).object) hobjects
    | remover c' =>
      by_cases hc : c' = c
      · subst hc
        simp [clientAt, hfree]
      · simp [clientAt, hc]
    | made c' | gone c' => rfl
  | @removeDeletes _ slot' client store' _ _ _ hdel =>
    have hplace := h.stored (.slot slot') client hdel.object
    refine ⟨_, h.move (r := .remover c) hplace (by simp) ?_ hserves ?_ (by simp) ?_⟩
    · intro q client' hq
      cases q with
      | slot s =>
        simp only [clientAt, StoreState.record_store, StoreState.setRemove_store, hdel.objects,
          update_apply] at hq
        split_ifs at hq with hs
        exact .inr ⟨hq, by simpa using hs⟩
      | remover c' =>
        by_cases hc : c' = c
        · subst hc
          simp only [clientAt, StoreState.record_removes, StoreState.setRemove_removes,
            update_self] at hq
          cases hq
          exact .inl ⟨rfl, rfl⟩
        · simp only [clientAt, StoreState.record_removes, StoreState.setRemove_removes,
            update_of_ne hc] at hq
          exact .inr ⟨hq, by simp⟩
      | made c' | gone c' => cases hq
    · intro client'
      change (hand ++ left).count _ = _
      rw [← hholds]
      split_ifs with he
      · by_contra hne
        rw [he] at hne
        have hmade := (h.made c client hne).2
        rw [hplace] at hmade
        cases hmade
      · rfl
    · intro store
      exact (hsame.2 store).trans (by simp)
  | @removeEnds _ e =>
    have hidle : (RemovePc.idle : RemovePc Nat).objectToFree = none := rfl
    cases hfree : ((stores .clients).removes c).objectToFree with
    | none =>
      refine ⟨place, h.stay ?_ (fun _ p => ?_) (fun _ => hserves) rfl (by rintro _ ⟨⟩)⟩
      · exact hsame
      · cases p with
        | slot s => rfl
        | remover c' =>
          by_cases hc : c' = c
          · subst hc
            simp [clientAt, hfree, hidle]
          · simp [clientAt, hc]
        | made c' | gone c' => rfl
    | some o =>
      have hplace := h.stored (.remover c) o.1 (by rw [clientAt, hfree]; rfl)
      refine ⟨_, h.move (r := .gone c) hplace (by simp) ?_ hserves ?_ (by simp) ?_⟩
      · intro q client' hq
        refine .inr ?_
        cases q with
        | slot s => exact ⟨hq, by simp⟩
        | remover c' =>
          by_cases hc : c' = c
          · subst hc
            simp [clientAt, hidle] at hq
          · simp only [clientAt, StoreState.record_removes, StoreState.setRemove_removes,
              update_of_ne hc] at hq
            exact ⟨hq, by simpa using hc⟩
        | made c' | gone c' => cases hq
      · intro client'
        change (clientStores o.1 ++ hand ++ left).count _ = _
        rw [List.append_assoc, List.count_append, count_made_clientStores, ← hholds, Nat.zero_add]
        split_ifs with he
        · by_contra hne
          rw [he] at hne
          have hmade := (h.made c o.1 hne).2
          rw [hplace] at hmade
          cases hmade
        · rfl
      · intro store
        change (clientStores o.1 ++ hand ++ left).count _ = _
        rw [List.append_assoc, List.count_append, count_gone_clientStores, ← hholds, Nat.add_comm]
        simp

theorem Clients.section (h : Clients stores objects holds place)
    (hrefs : ReferencesInv stores holds) (hholds : holds c = hand ++ left)
    (hallows : Allows hand call)
    (hsec : Section (stores store) c store call st' answer) :
    ∃ place', Clients (update stores store st') objects
      (update holds c (taContract.next hand call answer ++ left)) place' := by
  have hsame : SamePlaces (holds c) (hand ++ left) := by
    rw [hholds]
    exact .refl _
  have halive (hreach : ReachesStore hand store) : Alive place store := by
    apply h.alive_of_reaches (c := c) hrefs
    rw [hholds]
    exact hreach.append left
  have hne (hreach : ReachesStore hand store) : ∀ client ∈ store.client, place client ≠ none := by
    intro client hclient hnone
    obtain ⟨p, hp, -⟩ := halive hreach client hclient
    rw [hnone] at hp
    cases hp
  have hgone (hmem : .gone store ∈ hand) : ¬ Alive place store ∧
      ∀ client ∈ store.client, place client ≠ none := by
    have hcount : (holds c).count (.gone store) ≠ 0 := by
      rw [hholds]
      exact (List.count_pos_iff.2 (List.mem_append_left _ hmem)).ne'
    refine ⟨h.not_alive hcount, fun client hclient hnone => ?_⟩
    obtain ⟨-, ⟨client', hclient', hplace⟩, -⟩ := h.gone c store hcount
    rw [hclient] at hclient'
    cases hclient'
    rw [hnone] at hplace
    cases hplace
  have hstay {new : List Holding} (hreach : ReachesStore hand store)
      (hcall : ∀ store, call ≠ .shutdown store) (hnew : SamePlaces hand new)
      (hat : store = .clients → ∀ p, clientAt st' p = clientAt (stores store) p)
      (hd : st'.destroyed = (stores store).destroyed) :
      ∃ place', Clients (update stores store st') objects (update holds c (new ++ left))
        place' := by
    refine ⟨place, h.stay ?_ hat ?_ hd (hne hreach)⟩
    · rw [hholds]
      exact hnew.append left
    · intro halive
      exact hsec.serves hcall (h.serves store halive)
  have hcount {store' : ObjectStore Nat} {slot n : Nat} (p : ClientPlace)
      (hstore : store' = (stores store).store.setCount slot n) {holds' : List (Hold Nat)} :
      clientAt { stores store with store := store', holds := holds' } p =
        clientAt (stores store) p := by
    cases p with
    | slot s =>
      rw [hstore]
      exact StoreState.setCount_object _ _ _ s
    | remover | made | gone => rfl
  cases hsec with
  | acquireFails => exact hstay hallows (by simp) (.refl _) (fun _ _ => rfl) rfl
  | acquires =>
    exact hstay hallows (by simp) (samePlaces_cons (by simp) (by simp)) (fun _ p => hcount p rfl)
      rfl
  | releaseFails =>
    exact hstay hallows.1 (by simp) (samePlaces_erase (by simp) (by simp)) (fun _ _ => rfl) rfl
  | releases =>
    exact hstay hallows.1 (by simp) (samePlaces_erase (by simp) (by simp)) (fun _ p => hcount p rfl)
      rfl
  | addFails =>
    cases store with
    | clients => exact h.add hholds hallows .addFails
    | keys | ciphers | macs | svps => exact hstay hallows (by simp) (.refl _) (by rintro ⟨⟩) rfl
  | adds hfills hevent =>
    cases store with
    | clients => exact h.add hholds hallows (.adds hfills hevent)
    | keys | ciphers | macs | svps => exact hstay hallows (by simp) (.refl _) (by rintro ⟨⟩) rfl
  | removeFails hpc =>
    cases store with
    | clients => exact h.remove hholds (.removeFails hpc)
    | keys | ciphers | macs | svps => exact hstay hallows.1 (by simp) (.refl _) (by rintro ⟨⟩) rfl
  | removeGoesOn hslots hobjects hshutting hfree =>
    cases store with
    | clients => exact h.remove hholds (.removeGoesOn hslots hobjects hshutting hfree)
    | keys | ciphers | macs | svps => exact hstay hallows.1 (by simp) (.refl _) (by rintro ⟨⟩) rfl
  | removeDeletes hfree hdel he =>
    cases store with
    | clients => exact h.remove hholds (.removeDeletes hfree hdel he)
    | keys | ciphers | macs | svps => exact hstay hallows.1 (by simp) (.refl _) (by rintro ⟨⟩) rfl
  | removeEnds he =>
    cases store with
    | clients => exact h.remove hholds (.removeEnds he)
    | keys | ciphers | macs | svps => exact hstay hallows.1 (by simp) (.refl _) (by rintro ⟨⟩) rfl
  | shutdownGoesOn | shutdownDeletes =>
    obtain ⟨halive, hplaced⟩ := hgone hallows
    refine ⟨place, h.stay hsame ?_ (fun h => absurd h halive) rfl hplaced⟩
    rintro rfl
    exact absurd (by rintro _ ⟨⟩) halive
  | shutdownCloses =>
    have hmem : .gone store ∈ holds c := by
      rw [hholds]
      exact List.mem_append_left _ hallows
    have hclose := h.close hmem
    rw [hholds, List.erase_append_left _ hallows] at hclose
    exact ⟨place, hclose⟩

end Sections

end TaSecureApi
