import TaSecureApi.TaSystem

namespace TaSecureApi
set_option autoImplicit true
open Programs StoreCalls

/-- How a part of a command ends: with what the thread had before it, or with a return out of the
block, and with more than that. -/
def Ends (mayReturn : Prop) (hand : List Holding) (leave : Leave) (hand' : List Holding) : Prop :=
  (leave = .breaks ∧ hand' = hand) ∨ (leave = .returns ∧ mayReturn ∧ hand <:+ hand')

/-- The part of a command asks for what it can have, and ends in one of these ways. -/
abbrev Kept (mayReturn : Prop) (hand : List Holding) (part : Calls Leave) : Prop :=
  Adheres taContract (Ends mayReturn hand) hand part

abbrev Balanced (hand : List Holding) (part : Calls α) : Prop :=
  Adheres taContract (fun _ hand' => hand' = hand) hand part

section Parts

variable {m : Prop} {hand : List Holding} {body : Calls Leave} {store : StoreId}

theorem ReachesStore.cons (h : ReachesStore hand store) (x : Holding) :
    ReachesStore (x :: hand) store := by
  intro client hclient
  obtain ⟨slot, hslot⟩ := h client hclient
  exact ⟨slot, List.mem_cons_of_mem _ hslot⟩

theorem reaches_clients : ReachesStore hand .clients := by
  intro client hclient
  cases hclient

theorem reaches_referenced (h : store.client = some client) :
    ReachesStore [.reference .clients slot client] store := by
  intro client' hclient
  rw [h] at hclient
  cases hclient
  exact ⟨slot, List.mem_singleton_self _⟩

theorem kept_breaks : Kept m hand (pure .breaks) := keeps_pure (.inl ⟨rfl, rfl⟩)

theorem kept_returns (h : m) : Kept m hand (pure .returns) :=
  keeps_pure (.inr ⟨rfl, h, List.suffix_rfl⟩)

theorem kept_checked (h : Kept m hand body) : Kept m hand (checked body) := by
  apply keeps_request trivial
  intro passes
  cases passes with
  | false => exact kept_breaks
  | true => exact h

theorem Balanced.kept {part : Calls α} (h : Balanced hand part) {next : α → Calls Leave}
    (hnext : ∀ a, Kept m hand (next a)) : Kept m hand (part >>= next) := by
  apply h.bind
  rintro a _ rfl
  exact hnext a

theorem keeps_release {Q : α → List Holding → Prop} {next : Unit → Calls α}
    (h : ReachesStore hand store) (hnext : Adheres taContract Q hand (next ())) :
    Adheres taContract Q (.reference store slot object :: hand)
      (release store slot object >>= next) := by
  apply keeps_request
  · exact ⟨h.cons _, List.mem_cons_self⟩
  · intro _
    have hreleased : taContract.after (.reference store slot object :: hand)
        (.release store slot object) () = hand := List.erase_cons_head _ _
    rw [hreleased]
    exact hnext

theorem keeps_unlock_release {Q : α → List Holding → Prop} {next : Unit → Calls α}
    (h : ReachesStore hand store) (hnext : Adheres taContract Q hand (next ())) :
    Adheres taContract Q (.locked store object :: .reference store slot object :: hand)
      (unlock store object >>= fun _ => release store slot object >>= next) := by
  apply keeps_request
  · exact ⟨(h.cons _).cons _, List.mem_cons_self, slot,
      List.mem_cons_of_mem _ List.mem_cons_self⟩
  · intro _
    have hunlocked : taContract.after (.locked store object :: .reference store slot object :: hand)
        (.unlock store object) () = .reference store slot object :: hand :=
      List.erase_cons_head _ _
    rw [hunlocked]
    exact keeps_release h hnext

theorem balanced_keyStoreUnwrap (h : ReachesStore hand (.keys client)) :
    Balanced hand (StoreCalls.keyStoreUnwrap client key) := by
  apply keeps_request trivial
  intro passes
  cases passes with
  | false => exact keeps_pure rfl
  | true =>
    apply keeps_request h
    intro wrappedKey
    cases wrappedKey with
    | none => exact keeps_pure rfl
    | some wrappedKey =>
      apply keeps_request trivial
      intro unwrapped
      exact keeps_release h (keeps_pure rfl)

theorem allows_add (hclient : store.client = some client) (h : ReachesStore hand store) :
    Allows hand (.add store object) := by
  cases store with
  | clients => cases hclient
  | keys | ciphers | macs | svps => exact h

theorem handAfter_add (hclient : store.client = some client) :
    handAfter hand (.add store object) slot = hand := by
  cases store with
  | clients => cases hclient
  | keys | ciphers | macs | svps => rfl

theorem balanced_storeAdd (hclient : store.client = some client) (h : ReachesStore hand store) :
    Balanced hand (storeAdd store) := by
  apply keeps_request trivial
  intro passes
  cases passes with
  | false => exact keeps_pure rfl
  | true =>
    apply keeps_request trivial
    intro object
    cases object with
    | none => exact keeps_pure rfl
    | some object =>
      apply Adheres.call (allows_add hclient h)
      intro slot
      exact .done (handAfter_add hclient)

theorem kept_addTo (hclient : store.client = some client) (h : ReachesStore hand store) :
    Kept m hand (addTo store) :=
  (balanced_storeAdd hclient h).kept fun _ => kept_breaks

theorem handAfter_remove (hclient : store.client = some client) :
    handAfter hand (.remove store slot) freed = hand := by
  cases store with
  | clients => cases hclient
  | keys | ciphers | macs | svps => rfl

theorem balanced_remove (hclient : store.client = some client) (h : ReachesStore hand store)
    (hfree : ∀ object, .reference store slot object ∉ hand) : Balanced hand (remove store slot) :=
  .call ⟨h, hfree⟩ fun _ => .done (handAfter_remove hclient)

theorem kept_withExclusive (h : ReachesStore hand store)
    (hbody : ∀ object,
      Kept m (.locked store object :: .reference store handle object :: hand) body) :
    Kept m hand (withExclusive store handle body) := by
  apply keeps_request h
  intro object
  cases object with
  | none => exact kept_breaks
  | some object =>
    apply keeps_request
    · exact ⟨h.cons _, handle, List.mem_cons_self⟩
    · intro _
      apply (hbody object).bind
      rintro leave hand' (⟨rfl, rfl⟩ | ⟨rfl, hm, hsuffix⟩)
      · exact keeps_unlock_release h kept_breaks
      · apply keeps_pure
        exact .inr ⟨rfl, hm, ((List.suffix_cons _ _).trans (List.suffix_cons _ _)).trans hsuffix⟩

theorem kept_convertBuffer (h : ReachesStore hand (.svps client))
    (hclear : Kept m hand body)
    (hsvp : ∀ svpBuffer object, Kept m
      (.locked (.svps client) object :: .reference (.svps client) svpBuffer object :: hand) body) :
    Kept m hand (StoreCalls.convertBuffer client buffer body) := by
  cases buffer with
  | clear => exact kept_checked hclear
  | svp svpBuffer => exact kept_withExclusive h fun object => kept_checked (hsvp svpBuffer object)
  | other => exact kept_breaks

theorem kept_convertBoth (h : ReachesStore hand (.svps client)) :
    Kept m hand (StoreCalls.convertBuffer client out
      (StoreCalls.convertBuffer client inp (checked (pure .breaks)))) := by
  have hinp {hand : List Holding} (h : ReachesStore hand (.svps client)) :
      Kept m hand (StoreCalls.convertBuffer client inp (checked (pure .breaks))) :=
    kept_convertBuffer h (kept_checked kept_breaks) fun _ _ => kept_checked kept_breaks
  exact kept_convertBuffer h (hinp h) fun _ _ => hinp ((h.cons _).cons _)

theorem kept_useKeys (h : ReachesStore hand (.keys client)) (hbody : Kept m hand body) :
    Kept m hand (useKeys client keys body) := by
  induction keys with
  | nil => exact hbody
  | cons key keys ih =>
    apply (balanced_keyStoreUnwrap h).kept
    intro unwrapped
    cases unwrapped with
    | false => exact kept_breaks
    | true => exact kept_checked ih

theorem balanced_removeAll (hclient : store.client = some client) (h : ReachesStore hand store)
    (hfree : ∀ slot object, .reference store slot object ∉ hand) :
    Balanced hand (removeAll store keys) := by
  induction keys with
  | nil => exact keeps_pure rfl
  | cons key keys ih =>
    apply (balanced_remove hclient h (hfree key)).bind
    rintro _ _ rfl
    exact ih

theorem kept_forSamples {each : SampleArgument → Calls Leave}
    (h : ∀ sample, Kept m hand (each sample)) : Kept m hand (forSamples each samples) := by
  induction samples with
  | nil => exact kept_breaks
  | cons sample samples ih =>
    apply (h sample).bind
    rintro leave hand' (⟨rfl, rfl⟩ | ⟨rfl, hm, hsuffix⟩)
    · exact kept_checked ih
    · exact keeps_pure (.inr ⟨rfl, hm, hsuffix⟩)

theorem kept_cencProcessSample (hciphers : ReachesStore hand (.ciphers client))
    (hsvps : ReachesStore hand (.svps client)) :
    Kept m hand (StoreCalls.cencProcessSample client sample) :=
  kept_withExclusive hciphers fun _ => kept_checked (kept_convertBoth ((hsvps.cons _).cons _))

theorem reference_notMem (hclient : store.client = some client) (object : Nat) :
    .reference store handle object ∉ [Holding.reference .clients slot client'] := by
  intro hmem
  cases List.mem_singleton.1 hmem
  cases hclient

theorem keeps_shutdown {Q : α → List Holding → Prop} {next : Unit → Calls α}
    (hnext : Adheres taContract Q hand (next ())) :
    Adheres taContract Q (.gone store :: hand) (shutdown store >>= next) := by
  apply keeps_request
  · exact List.mem_cons_self
  · intro _
    have hgone : taContract.after (.gone store :: hand) (.shutdown store) () = hand :=
      List.erase_cons_head _ _
    rw [hgone]
    exact hnext

end Parts

/-- The commands that can end with a return out of their block. -/
def StoreCalls.TaCommand.mayReturn : TaCommand → Bool
  | .cryptoCipherProcess _ _ (some out) inp | .cryptoCipherProcessLast _ _ (some out) inp =>
    out = .other ∨ inp = .other
  | .svpBufferRelease .. => true
  | _ => false

def Holding.isReference : Holding → Bool
  | .reference _ _ _ => true
  | _ => false

/-- How a command ends: with nothing, or with a return that leaves a reference behind. -/
def CommandEnds (mayReturn : Prop) (leave : Leave) (hand : List Holding) : Prop :=
  (leave = .breaks ∧ hand = []) ∨ (leave = .returns ∧ mayReturn ∧ ∃ x ∈ hand, x.isReference)

section Commands

variable {m : Prop} {body : Nat → Calls Leave} {store : Nat → StoreId}

theorem keeps_breaks : Adheres taContract (CommandEnds m) [] (pure .breaks : Calls Leave) :=
  keeps_pure (.inl ⟨rfl, rfl⟩)

theorem keeps_withClient
    (hbody : ∀ client, Kept m [.reference .clients slot client] (body client)) :
    Adheres taContract (CommandEnds m) [] (withClient slot body) := by
  apply keeps_request trivial
  intro passes
  cases passes with
  | false => exact keeps_breaks
  | true =>
    apply keeps_request reaches_clients
    intro client
    cases client with
    | none => exact keeps_breaks
    | some client =>
      apply (hbody client).bind
      rintro leave hand (⟨rfl, rfl⟩ | ⟨rfl, hm, hsuffix⟩)
      · exact keeps_release reaches_clients keeps_breaks
      · apply keeps_pure
        exact .inr ⟨rfl, hm, _, hsuffix.subset (List.mem_singleton_self _), rfl⟩

theorem keeps_removing (hclient : ∀ client, (store client).client = some client) :
    Adheres taContract (CommandEnds m) [] (withClient slot fun client => do
      let _ ← remove (store client) handle
      pure .breaks) := by
  apply keeps_withClient
  intro client
  apply (balanced_remove (hclient client) (reaches_referenced (hclient client)) ?_).kept
  · intro _
    exact kept_breaks
  · exact reference_notMem (hclient client)

theorem keeps_adding (hclient : ∀ client, (store client).client = some client) :
    Adheres taContract (CommandEnds m) []
      (withClient slot fun client => useKeys client keys (addTo (store client))) := by
  apply keeps_withClient
  intro client
  apply kept_useKeys (reaches_referenced rfl)
  exact kept_addTo (hclient client) (reaches_referenced (hclient client))

theorem keeps_usingKey : Adheres taContract (CommandEnds m) [] (usingKey slot key) :=
  keeps_withClient fun _ => kept_useKeys (reaches_referenced rfl) kept_breaks

theorem keeps_exclusive (hclient : ∀ client, (store client).client = some client)
    {body : Nat → Calls Leave}
    (hbody : ∀ client object, Kept m [.locked (store client) object,
      .reference (store client) handle object, .reference .clients slot client] (body client)) :
    Adheres taContract (CommandEnds m) []
      (withClient slot fun client => withExclusive (store client) handle (body client)) :=
  keeps_withClient fun client =>
    kept_withExclusive (reaches_referenced (hclient client)) (hbody client)

theorem keeps_clientFree {next : Calls Leave} (h : Adheres taContract (CommandEnds m) [] next) :
    Adheres taContract (CommandEnds m) (clientStores client)
      (clientFree client >>= fun _ => next) := by
  apply keeps_shutdown
  apply keeps_shutdown
  apply keeps_shutdown
  exact keeps_shutdown h

theorem keeps_taSaInit : Adheres taContract (CommandEnds m) [] taSaInit := by
  apply keeps_request trivial
  intro passes
  cases passes with
  | false => exact keeps_breaks
  | true =>
    apply keeps_request trivial
    intro client
    cases client with
    | none => exact keeps_breaks
    | some client =>
      apply keeps_request
      · exact List.mem_singleton_self _
      · intro slot
        have hadded {hand : List Holding} :
            hand ++ [Holding.made client].erase (.made client) = hand := by
          rw [List.erase_cons_head, List.append_nil]
        cases slot with
        | none =>
          change Adheres taContract _ (clientStores client ++ [Holding.made client].erase _) _
          rw [hadded]
          exact keeps_clientFree keeps_breaks
        | some slot =>
          change Adheres taContract _ ([] ++ [Holding.made client].erase _) _
          rw [hadded]
          exact keeps_breaks

theorem keeps_taSaClose : Adheres taContract (CommandEnds m) [] (taSaClose slot) := by
  apply keeps_request
  · exact ⟨reaches_clients, fun _ => List.not_mem_nil⟩
  · intro client
    cases client with
    | none => exact keeps_breaks
    | some client => exact keeps_clientFree keeps_breaks

theorem keeps_taSaKeyExchangeNetflixDh :
    Adheres taContract (CommandEnds m) []
      (StoreCalls.taSaKeyExchangeNetflixDh slot inKw privateKey) := by
  apply keeps_withClient
  intro client
  have hreach : ReachesStore [.reference .clients slot client] (.keys client) :=
    reaches_referenced rfl
  have hremoveAll {keys : List Nat} : Kept m [.reference .clients slot client]
      (removeAll (.keys client) keys >>= fun _ => pure .breaks) :=
    (balanced_removeAll rfl hreach fun _ => reference_notMem rfl).kept fun _ => kept_breaks
  apply kept_useKeys hreach
  apply (balanced_storeAdd rfl hreach).kept
  intro outKe
  cases outKe with
  | none => exact kept_breaks
  | some outKe =>
    apply (balanced_storeAdd rfl hreach).kept
    intro outKh
    cases outKh with
    | none => exact hremoveAll
    | some outKh =>
      apply (balanced_storeAdd rfl hreach).kept
      intro key
      cases key with
      | none => exact hremoveAll
      | some key => exact kept_breaks

theorem keeps_taSaCryptoCipherInitRsaOaep :
    Adheres taContract (CommandEnds m) [] (taSaCryptoCipherInitRsaOaep slot key) := by
  apply keeps_withClient
  intro client
  apply kept_useKeys (reaches_referenced rfl)
  apply (balanced_storeAdd rfl (reaches_referenced rfl)).kept
  intro context
  cases context with
  | none => exact kept_breaks
  | some context =>
    exact kept_withExclusive (reaches_referenced rfl) fun _ => kept_checked kept_breaks

theorem keeps_taSaCryptoCipherProcess
    (hm : ∀ buffer, out = some buffer → buffer = .other ∨ inp = .other → m) :
    Adheres taContract (CommandEnds m) []
      (StoreCalls.taSaCryptoCipherProcess slot context out inp) := by
  apply keeps_exclusive fun _ => rfl
  intro client object
  cases out with
  | none => exact kept_breaks
  | some out =>
    dsimp only
    split_ifs with hout hinp
    · exact kept_returns (hm out rfl (.inl hout))
    · exact kept_returns (hm out rfl (.inr hinp))
    · exact kept_checked (kept_convertBoth (((reaches_referenced rfl).cons _).cons _))

theorem keeps_svpStoreRelease (h : ReachesStore hand (.svps client))
    (hfree : ∀ svp, .reference (.svps client) svpBuffer svp ∉ hand) :
    Adheres taContract (fun leave hand' => (leave = .breaks ∧ hand' = hand) ∨
      (leave = .returns ∧ ∃ svp, hand' = .locked (.svps client) svp ::
        .reference (.svps client) svpBuffer svp :: hand)) hand
        (svpStoreRelease client svpBuffer) := by
  apply keeps_request trivial
  intro passes
  cases passes with
  | false => exact keeps_pure (.inl ⟨rfl, rfl⟩)
  | true =>
    apply keeps_request h
    intro svp
    cases svp with
    | none => exact keeps_pure (.inl ⟨rfl, rfl⟩)
    | some svp =>
      apply keeps_request
      · exact ⟨h.cons _, svpBuffer, List.mem_cons_self⟩
      · intro _
        apply keeps_request trivial
        intro released
        cases released with
        | false => exact keeps_pure (.inr ⟨rfl, svp, rfl⟩)
        | true =>
          apply keeps_unlock_release h
          apply (balanced_remove rfl h hfree).bind
          rintro _ _ rfl
          exact keeps_pure (.inl ⟨rfl, rfl⟩)

theorem keeps_taSaSvpBufferRelease (hm : m) :
    Adheres taContract (CommandEnds m) [] (taSaSvpBufferRelease slot svpBuffer) := by
  apply keeps_request trivial
  intro passes
  cases passes with
  | false => exact keeps_breaks
  | true =>
    apply keeps_request reaches_clients
    intro client
    cases client with
    | none => exact keeps_breaks
    | some client =>
      apply (keeps_svpStoreRelease (reaches_referenced rfl) (reference_notMem rfl)).bind
      rintro leave hand (⟨rfl, rfl⟩ | ⟨rfl, svp, rfl⟩)
      · exact keeps_release reaches_clients keeps_breaks
      · apply keeps_request
        · refine ⟨reaches_clients, ?_⟩
          simp
        · intro _
          apply keeps_pure
          refine .inr ⟨rfl, hm, .reference (.svps client) svpBuffer svp, ?_, rfl⟩
          change _ ∈ List.erase _ _
          rw [List.mem_erase_of_ne (by simp)]
          exact List.mem_cons_of_mem _ List.mem_cons_self

/-- Every command asks for what it can have, and ends with nothing or with a return. -/
theorem taCommand_keeps (command : TaCommand) :
    Adheres taContract (CommandEnds command.mayReturn) [] command.calls := by
  cases command with
  | init => exact keeps_taSaInit
  | close => exact keeps_taSaClose
  | keyGenerate | keyImport | keyDeriveRootKeyLadder | svpBufferCreate => 
    exact keeps_withClient fun _ => kept_addTo rfl (reaches_referenced rfl)
  | keyImportTypej | keyUnwrap | keyDerive | keyDeriveNetflix | keyExchange | cryptoCipherInit
  | cryptoMacInit => exact keeps_adding fun _ => rfl
  | keyProvision => exact keeps_withClient fun _ => kept_checked kept_breaks
  | keyExchangeNetflixDh => exact keeps_taSaKeyExchangeNetflixDh
  | keyRelease | cryptoCipherRelease | cryptoMacRelease => exact keeps_removing fun _ => rfl
  | keyExport | keyHeader =>
    exact keeps_withClient fun _ =>
      (balanced_keyStoreUnwrap (reaches_referenced rfl)).kept fun _ => kept_breaks
  | keyGetPublic | keyDigest | cryptoSign => exact keeps_usingKey
  | cryptoCipherInitRsaOaep => exact keeps_taSaCryptoCipherInitRsaOaep
  | cryptoCipherUpdateIv | cryptoMacProcess | cryptoMacCompute | svpBufferWrite | svpBufferCheck =>
    exact keeps_exclusive (fun _ => rfl) fun _ _ => kept_checked kept_breaks
  | cryptoCipherProcess | cryptoCipherProcessLast =>
    apply keeps_taSaCryptoCipherProcess
    rintro buffer rfl hother
    exact decide_eq_true hother
  | cryptoMacProcessKey =>
    exact keeps_exclusive (fun _ => rfl) fun _ _ =>
      kept_useKeys (((reaches_referenced rfl).cons _).cons _) kept_breaks
  | svpBufferRelease => exact keeps_taSaSvpBufferRelease rfl
  | svpBufferCopy =>
    exact keeps_exclusive (fun _ => rfl) fun _ _ =>
      kept_withExclusive (((reaches_referenced rfl).cons _).cons _) fun _ =>
        kept_checked kept_breaks
  | svpKeyCheck =>
    exact keeps_withClient fun _ => kept_useKeys (reaches_referenced rfl)
      (kept_convertBuffer (reaches_referenced rfl) (kept_checked kept_breaks)
        fun _ _ => kept_checked kept_breaks)
  | processCommonEncryption =>
    apply keeps_withClient
    intro client
    apply (kept_forSamples fun sample => kept_checked (kept_cencProcessSample
      (reaches_referenced rfl) (reaches_referenced rfl))).bind
    rintro leave hand' (⟨rfl, rfl⟩ | ⟨rfl, hm, hsuffix⟩)
    · exact kept_checked (kept_forSamples fun sample => kept_cencProcessSample
        (reaches_referenced rfl) (reaches_referenced rfl))
    · exact keeps_pure (.inr ⟨rfl, hm, hsuffix⟩)

end Commands

end TaSecureApi
