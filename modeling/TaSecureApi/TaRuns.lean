import TaSecureApi.TaClients

namespace TaSecureApi
set_option autoImplicit true
open Programs StoreCalls Function Transition

def StoreCalls.StoreCall.store : StoreCall → Option StoreId
  | .acquire store _ | .release store _ _ | .add store _ | .remove store _ | .shutdown store
  | .lock store _ | .unlock store _ => some store
  | .create | .clientInit | .check => none

structure TaInv (σ : TaEnv) (waiting : Caller → Option StoreCall)
    (holds : Caller → List Holding) : Prop where
  references : ReferencesInv σ.stores holds
  mutexes : Mutexes σ.mutexes holds
  clients : ∃ place, Clients σ.stores σ.objects holds place
  calls : CallsInv σ.stores waiting holds

section Calls

variable {σ σ' : TaEnv} {waiting : Caller → Option StoreCall} {holds : Caller → List Holding}
  {c : Caller} {hand left : List Holding}

theorem taInv_init : TaInv .init (fun _ => none) fun _ => [] where
  references := .init
  mutexes _ _ _ := rfl
  clients := by
    refine ⟨fun _ => none, fun p client hp => ?_, fun _ _ hne => absurd rfl hne,
      fun _ _ hne => absurd rfl hne, fun store halive => ?_, fun store client hclient _ => ?_,
      fun _ _ => rfl⟩
    · have hnew := (objectStoreInit_spec (Option.some_get objectStoreInit_numSlots).symm).2.1
      cases p with
      | slot s =>
        have hobject := congrArg StoreObject.object (hnew s)
        exact absurd (hobject.symm.trans hp) (by simp [StoreObject.zero])
      | remover | made | gone => cases hp
    · cases store with
      | clients => exact ⟨rfl, rfl, rfl⟩
      | keys client | ciphers client | macs client | svps client =>
        obtain ⟨p, hp, -⟩ := halive client rfl
        cases hp
    · cases store with
      | clients => cases hclient
      | keys | ciphers | macs | svps => rfl
  calls := by
    refine ⟨fun store c hpc => ?_, fun _ _ _ h => ?_, fun store caller o hmem => ?_,
      fun store hdone => ?_⟩
    · obtain ⟨d, hd⟩ := TaEnv.init_stores store
      rw [hd] at hpc
      exact absurd rfl hpc
    · cases h
    · obtain ⟨d, hd⟩ := TaEnv.init_stores store
      rw [hd] at hmem
      cases hmem
    · obtain ⟨d, hd⟩ := TaEnv.init_stores store
      rw [hd] at hdone
      cases hdone

theorem TaInv.live {call : StoreCall} (h : TaInv σ waiting holds) (hholds : holds c = hand ++ left)
    (hallows : Allows hand call) (hstore : store ∈ call.store) :
    (σ.stores store).destroyed = false := by
  obtain ⟨place, hclients⟩ := h.clients
  have hreaches (hreach : ReachesStore hand store) : (σ.stores store).destroyed = false := by
    refine (hclients.serves store (hclients.alive_of_reaches h.references (c := c) ?_)).1
    rw [hholds]
    exact hreach.append left
  cases call with
  | acquire =>
    cases hstore
    exact hreaches hallows
  | release | remove | lock | unlock =>
    cases hstore
    exact hreaches hallows.1
  | add =>
    cases hstore
    cases store with
    | clients => exact hreaches reaches_clients
    | keys | ciphers | macs | svps => exact hreaches hallows
  | shutdown =>
    cases hstore
    apply (hclients.gone c store ?_).2.2
    rw [hholds]
    exact (List.count_pos_iff.2 (List.mem_append_left _ hallows)).ne'
  | create | clientInit | check => cases hstore

theorem TaInv.section {call : StoreCall} {answer : Option call.Answer} (h : TaInv σ waiting holds)
    (hholds : holds c = hand ++ left) (hallows : Allows hand call)
    (hop : ∀ op' ∈ waiting c, op' = call)
    (hlock : ∀ store object, call ≠ .lock store object)
    (hunlock : ∀ store object, call ≠ .unlock store object)
    (hsec : RunsSection σ c store call σ' answer) :
    TaInv σ' (update waiting c (unanswered call answer))
      (update holds c (taContract.next hand call answer ++ left)) := by
  obtain ⟨place, hclients⟩ := h.clients
  have hrefs := h.references.section hholds hallows hsec
  obtain ⟨a, st', hnext, rfl, hsec⟩ := hsec
  refine ⟨hrefs, h.mutexes.same fun store' object => ?_, ?_, h.calls.section hallows hop hsec⟩
  · rw [hholds, List.count_append, List.count_append, count_locked_next hlock hunlock]
  · exact hclients.section h.references hholds hallows hsec

theorem Clients.same (h : Clients stores objects holds place) (hhand : SamePlaces (holds c) hand) :
    Clients stores objects (update holds c hand) place := by
  have hstay : Clients (update stores .clients (stores .clients)) objects (update holds c hand)
      place := h.stay hhand (fun _ _ => rfl) (h.serves .clients) rfl (by rintro _ ⟨⟩)
  rwa [update_eq_self] at hstay

theorem TaInv.called {new : List Holding} {mutexes : StoreId → Nat → Option (Caller × Nat)}
    (h : TaInv σ waiting holds) (call : StoreCall) (answer : Option call.Answer)
    (hop : ∀ op' ∈ waiting c, op' = call) (hcall : ∀ store slot, call ≠ .remove store slot)
    (hrefs : SameReferences (holds c) new) (hplaces : SamePlaces (holds c) new)
    (hmutexes : Mutexes mutexes (update holds c new)) :
    TaInv { σ with mutexes := mutexes } (update waiting c (unanswered call answer))
      (update holds c new) := by
  obtain ⟨place, hclients⟩ := h.clients
  exact ⟨h.references.same hrefs, hmutexes, ⟨place, hclients.same hplaces⟩,
    h.calls.called answer hop hcall⟩

theorem Mutexes.set (h : Mutexes σ.mutexes holds) {new : List Holding} {n : Option (Caller × Nat)}
    (hothers : ∀ store' object', (store', object') ≠ (store, object) →
      new.count (.locked store' object') = (holds c).count (.locked store' object'))
    (hself : new.count (.locked store object) = timesLocked n c)
    (hn : ∀ c', c' ≠ c → timesLocked n c' = timesLocked (σ.mutexes store object) c') :
    Mutexes (σ.setMutex store object n).mutexes (update holds c new) := by
  have hmutex (store' : StoreId) (object' : Nat) :
      (σ.setMutex store object n).mutexes store' object' =
        if (store', object') = (store, object) then n else σ.mutexes store' object' := by
    by_cases hs : store' = store
    · subst hs
      by_cases ho : object' = object
      · simp [TaEnv.setMutex, ho]
      · simp [TaEnv.setMutex, ho]
    · simp [TaEnv.setMutex, hs]
  intro c' store' object'
  rw [hmutex]
  by_cases hc : c' = c
  · subst hc
    rw [update_self]
    by_cases he : (store', object') = (store, object)
    · rw [if_pos he]
      cases he
      exact hself
    · rw [if_neg he, hothers store' object' he]
      exact h c' store' object'
  · rw [update_of_ne hc]
    by_cases he : (store', object') = (store, object)
    · rw [if_pos he]
      cases he
      rw [hn c' hc]
      exact h c' store object
    · rw [if_neg he]
      exact h c' store' object'

theorem lock_preserved {answer : Option (StoreCall.lock store object).Answer}
    (h : TaInv σ waiting holds) (hholds : holds c = hand ++ left)
    (hop : ∀ op' ∈ waiting c, op' = .lock store object)
    (hs : σ.lock c store object = some (σ', answer)) :
    TaInv σ' (update waiting c (unanswered (.lock store object) answer))
      (update holds c (taContract.next hand (.lock store object) answer ++ left)) := by
  have hlocked {n : Option (Caller × Nat)}
      (hself : timesLocked n c = timesLocked (σ.mutexes store object) c + 1)
      (hn : ∀ c', c' ≠ c → timesLocked n c' = timesLocked (σ.mutexes store object) c') :
      TaInv (σ.setMutex store object n) (update waiting c none)
        (update holds c (.locked store object :: (hand ++ left))) := by
    rw [← hholds]
    apply h.called (.lock store object) (some ()) hop (by simp)
      (sameReferences_cons rfl) (samePlaces_cons (by simp) (by simp))
    apply h.mutexes.set
    · intro store' object' hne
      exact List.count_cons_of_ne (by simpa [eq_comm] using hne)
    · rw [List.count_cons_self, h.mutexes, hself]
    · exact hn
  unfold TaEnv.lock at hs
  split at hs
  · next hfree =>
    cases hs
    apply hlocked
    · simp [timesLocked, hfree]
    · intro c' hc
      simp [timesLocked, hfree, hc.symm]
  · next owner again hown =>
    split_ifs at hs with hc
    · cases hs
      subst hc
      apply hlocked
      · simp [timesLocked, hown]
      · intro c' hc
        simp [timesLocked, hown, hc.symm]
    · cases hs
      change TaInv σ _ (update holds c (hand ++ left))
      rw [← hholds]
      exact h.called (.lock store object) none hop (by simp) (.refl _) (.refl _)
        (h.mutexes.same fun _ _ => rfl)

theorem unlock_preserved {answer : Option (StoreCall.unlock store object).Answer}
    (h : TaInv σ waiting holds) (hholds : holds c = hand ++ left)
    (hmem : .locked store object ∈ hand) (hop : ∀ op' ∈ waiting c, op' = .unlock store object)
    (hs : σ.unlock c store object = some (σ', answer)) :
    TaInv σ' (update waiting c (unanswered (.unlock store object) answer))
      (update holds c (taContract.next hand (.unlock store object) answer ++ left)) := by
  unfold TaEnv.unlock at hs
  split at hs
  · cases hs
  · next owner again hown =>
    by_cases hc : owner = c
    · rw [if_pos hc] at hs
      cases hs
      subst hc
      change TaInv _ _ (update holds owner (hand.erase _ ++ left))
      rw [← List.erase_append_left _ hmem, ← hholds]
      apply h.called (.unlock store object) (some ()) hop (by simp)
        (sameReferences_erase rfl) (samePlaces_erase (by simp) (by simp))
      apply h.mutexes.set
      · intro store' object' hne
        exact List.count_erase_of_ne (by simpa [eq_comm] using hne)
      · rw [List.count_erase_self, h.mutexes, hown]
        cases again with
        | zero => simp [timesLocked]
        | succ again => simp [timesLocked]
      · intro c' hc
        rw [hown]
        cases again with
        | zero => simp [timesLocked, hc.symm]
        | succ again => simp [timesLocked, hc.symm]
    · rw [if_neg hc] at hs
      cases hs

theorem StoreState.TableInv.destroyed {st : StoreState Nat} (h : st.TableInv) (d : Bool) :
    StoreState.TableInv { st with destroyed := d } :=
  ⟨h.bits, h.polling⟩

theorem ReferencesInv.destroyed {stores stores' : StoreId → StoreState Nat}
    (h : ReferencesInv stores holds)
    (hstores : ∀ store, ∃ d, stores' store = { stores store with destroyed := d }) :
    ReferencesInv stores' holds := by
  constructor
  · intro store
    obtain ⟨d, hd⟩ := hstores store
    rw [hd]
    exact (h.table store).destroyed d
  · intro store slot
    obtain ⟨d, hd⟩ := hstores store
    rw [hd]
    exact h.counts store slot
  · intro c store slot object hmem
    obtain ⟨d, hd⟩ := hstores store
    rw [hd]
    exact h.stands c store slot object hmem

theorem Clients.clientInit_destroyed (h : Clients σ.stores σ.objects holds place)
    (store : StoreId) :
    ∃ d, σ.clientInit.stores store = { σ.stores store with destroyed := d } := by
  by_cases hclient : store.client = some σ.objects
  · rw [h.unmade store σ.objects hclient (h.fresh σ.objects le_rfl)]
    exact ⟨false, if_pos hclient⟩
  · exact ⟨(σ.stores store).destroyed, if_neg hclient⟩

theorem Clients.clientInit (h : Clients σ.stores σ.objects holds place) :
    Clients σ.clientInit.stores (σ.objects + 1) (update holds c (.made σ.objects :: holds c))
      (update place σ.objects (some (.made c))) := by
  have hnone : place σ.objects = none := h.fresh σ.objects le_rfl
  have hplace {client : Nat} {p : ClientPlace} (hp : place client = some p) :
      update place σ.objects (some (.made c)) client = some p := by
    rw [update_of_ne]
    · exact hp
    · rintro rfl
      rw [hnone] at hp
      cases hp
  have hgone (c' : Caller) (store : StoreId) :
      (update holds c (.made σ.objects :: holds c) c').count (.gone store) =
        (holds c').count (.gone store) := by
    by_cases hc : c' = c
    · subst hc
      rw [update_self, List.count_cons_of_ne (by simp)]
    · rw [update_of_ne hc]
  constructor
  · intro p client hp
    exact hplace (h.stored p client hp)
  · intro c' client hne
    by_cases hclient : client = σ.objects
    · subst hclient
      have hmade (c' : Caller) : (holds c').count (.made σ.objects) = 0 := by
        by_contra hne
        have hplace' := (h.made c' σ.objects hne).2
        rw [hnone] at hplace'
        cases hplace'
      by_cases hc : c' = c
      · subst hc
        rw [update_self, List.count_cons_self, hmade, update_self]
        exact ⟨rfl, rfl⟩
      · rw [update_of_ne hc, hmade] at hne
        exact absurd rfl hne
    · have hcount : (update holds c (.made σ.objects :: holds c) c').count (.made client) =
          (holds c').count (.made client) := by
        by_cases hc : c' = c
        · subst hc
          rw [update_self, List.count_cons_of_ne (by simpa using Ne.symm hclient)]
        · rw [update_of_ne hc]
      rw [hcount] at hne ⊢
      exact (h.made c' client hne).imp_right hplace
  · intro c' store hne
    rw [hgone] at hne ⊢
    obtain ⟨hone, ⟨client, hclient, hp⟩, hd⟩ := h.gone c' store hne
    refine ⟨hone, ⟨client, hclient, hplace hp⟩, ?_⟩
    rw [TaEnv.clientInit_stores]
    split_ifs
    · rfl
    · exact hd
  · intro store halive
    by_cases hclient : store.client = some σ.objects
    · rw [TaEnv.clientInit_stores, if_pos hclient]
      exact ⟨rfl, rfl, rfl⟩
    · rw [TaEnv.clientInit_stores, if_neg hclient]
      apply h.serves store
      intro client hclient'
      obtain ⟨p, hp, hne⟩ := halive client hclient'
      rw [update_of_ne] at hp
      · exact ⟨p, hp, hne⟩
      · rintro rfl
        exact hclient hclient'
  · intro store client hclient hp
    have hne : client ≠ σ.objects := by
      rintro rfl
      rw [update_self] at hp
      cases hp
    rw [update_of_ne hne] at hp
    rw [TaEnv.clientInit_stores, if_neg]
    · exact h.unmade store client hclient hp
    · rw [hclient]
      simpa using hne
  · intro client hle
    rw [update_of_ne (by omega)]
    exact h.fresh client (by omega)

theorem CallsInv.clientInit (h : CallsInv σ.stores waiting holds)
    (hstores : ∀ store, ∃ d, σ.clientInit.stores store = { σ.stores store with destroyed := d }) :
    CallsInv σ.clientInit.stores waiting holds := by
  constructor
  · intro store c hpc
    obtain ⟨d, hd⟩ := hstores store
    rw [hd] at hpc
    exact h.busy store c hpc
  · exact h.reach
  · intro store caller o
    obtain ⟨d, hd⟩ := hstores store
    rw [hd]
    exact h.log store caller o
  · intro store hdone
    rw [TaEnv.clientInit_stores] at hdone ⊢
    split_ifs at hdone ⊢ with hclient
    · cases hdone
    · exact h.done store hdone

theorem taInv_preserved : Pool.Preserved taContract TaEnv.perform TaInv := by
  intro σ waiting holds c call choice hand left σ' answer h hholds hallows hop hperform
  have hasks : Allows hand call := hallows
  have hlive {store : StoreId} (hstore : store ∈ call.store) : (σ.stores store).destroyed = false :=
    h.live hholds hasks hstore
  have hcalled {call : StoreCall} {answer : Option call.Answer}
      (hop : ∀ op' ∈ waiting c, op' = call) (hcall : ∀ store slot, call ≠ .remove store slot) :
      TaInv σ (update waiting c (unanswered call answer)) (update holds c (hand ++ left)) := by
    rw [← hholds]
    exact h.called _ _ hop hcall (.refl _) (.refl _) (h.mutexes.same fun _ _ => rfl)
  cases call with
  | acquire store slot =>
    exact h.section hholds hallows hop (by simp) (by simp)
      (acquire_section (hlive rfl) hperform)
  | release store slot object =>
    exact h.section hholds hallows hop (by simp) (by simp)
      (release_section (hlive rfl) hperform)
  | add store object =>
    exact h.section hholds hallows hop (by simp) (by simp)
      (add_section (hlive rfl) hperform)
  | remove store slot =>
    exact h.section hholds hallows hop (by simp) (by simp)
      (remove_section (hlive rfl) hperform)
  | shutdown store =>
    exact h.section hholds hallows hop (by simp) (by simp) (shutdown_section hperform)
  | lock store object => exact lock_preserved h hholds hop hperform
  | unlock store object => exact unlock_preserved h hholds hallows.2.1 hop hperform
  | check =>
    cases hperform
    exact hcalled hop (by simp)
  | create =>
    cases choice with
    | false =>
      cases hperform
      exact hcalled hop (by simp)
    | true =>
      cases hperform
      obtain ⟨place, hclients⟩ := h.clients
      change TaInv _ _ (update holds c (hand ++ left))
      rw [← hholds, update_eq_self]
      have hfresh (client : Nat) (hle : σ.objects + 1 ≤ client) : place client = none :=
        hclients.fresh client (by omega)
      refine ⟨h.references, h.mutexes, ⟨place, { hclients with fresh := hfresh }⟩, ?_⟩
      have hcalls : CallsInv σ.stores (update waiting c none) (update holds c (holds c)) :=
        h.calls.called (some (some σ.objects)) hop (by simp)
      rwa [update_eq_self] at hcalls
  | clientInit =>
    cases choice with
    | false =>
      cases hperform
      exact hcalled hop (by simp)
    | true =>
      cases hperform
      obtain ⟨place, hclients⟩ := h.clients
      have hstores := hclients.clientInit_destroyed
      change TaInv _ _ (update holds c (.made σ.objects :: (hand ++ left)))
      rw [← hholds]
      refine ⟨?_, ?_, ⟨_, hclients.clientInit⟩, ?_⟩
      · exact (h.references.destroyed hstores).same (sameReferences_cons rfl)
      · exact h.mutexes.same fun _ _ => List.count_cons_of_ne (by simp)
      · exact (h.calls.clientInit hstores).called (some (some σ.objects)) hop (by simp)

end Calls

end TaSecureApi
