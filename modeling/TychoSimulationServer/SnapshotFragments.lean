import Mathlib.Data.List.Nodup
import TychoSimulationServer.MapFold
import TychoSimulationServer.SnapshotSplit

/-!
# Fragments carry all entries of a message

A message is seen as the set of its *entries*: one for each binding of each of its maps, with the
slots of a VM account as entries of their own. A fragment `Carries` a list of entries of the message
it was cut from, and a list of fragments `Cuts` a message when together they carry every entry and
no entry twice, up to the accounts, which are repeated in front of each range of slots.

The splitter fills one fragment at a time by single insertions, so its correctness comes down to
one fact per kind of entry: inserting an entry adds that entry and no other (`Adds`).
-/

namespace TychoSimulationServer

open Fallible

variable {Sim : Type}

/-! ## Entries

A message is a set of entries: the bindings of its maps and the items of its lists. The cut of a
message is stated about these entries, without the maps they come from. -/

/-- One binding of one of the maps of a `BlockChanges`. -/
inductive DeltaEntry where
  | newToken (address : Bytes) (token : Carried)
  | stateUpdate (componentId : String) (delta : ProtocolStateDelta)
  | accountUpdate (address : Bytes) (update : AccountUpdate)
  | componentBalances (componentId : String) (balances : FinMap Bytes ComponentBalance)
  | accountBalances (address : Bytes) (balances : FinMap Bytes AccountBalance)
  | componentTvl (componentId : String) (tvl : Carried)
  | newProtocolComponent (componentId : String) (component : Carried)
  | deletedProtocolComponent (componentId : String) (component : Carried)
  | newEntrypoints (componentId : String) (entrypoints : Finset EntryPoint)
  | newEntrypointParams (entrypointId : String) (params : Finset (Carried × String))
  | traceResult (entrypointId : String) (result : Carried)
deriving DecidableEq

/-- The block changes have this binding. -/
def BlockChanges.Holds (deltas : BlockChanges) : DeltaEntry → Prop
  | .newToken k v => deltas.newTokens[k]? = some v
  | .stateUpdate k v => deltas.stateUpdates[k]? = some v
  | .accountUpdate k v => deltas.accountUpdates[k]? = some v
  | .componentBalances k v => deltas.componentBalances[k]? = some v
  | .accountBalances k v => deltas.accountBalances[k]? = some v
  | .componentTvl k v => deltas.componentTvl[k]? = some v
  | .newProtocolComponent k v => deltas.newProtocolComponents[k]? = some v
  | .deletedProtocolComponent k v => deltas.deletedProtocolComponents[k]? = some v
  | .newEntrypoints k v => deltas.dciUpdate.newEntrypoints[k]? = some v
  | .newEntrypointParams k v => deltas.dciUpdate.newEntrypointParams[k]? = some v
  | .traceResult k v => deltas.dciUpdate.traceResults[k]? = some v

/-- The bindings of one map, each under its constructor. -/
def bindings {κ υ ε : Type} [Ord κ] [Std.TransOrd κ] (mk : κ → υ → ε) (m : FinMap κ υ) : List ε :=
  m.toList.map fun p => mk p.1 p.2

/-- All bindings, in the order in which the tail of a message is cut. -/
def BlockChanges.entries (deltas : BlockChanges) : List DeltaEntry :=
  bindings .newToken deltas.newTokens ++
  bindings .stateUpdate deltas.stateUpdates ++
  bindings .accountUpdate deltas.accountUpdates ++
  bindings .componentBalances deltas.componentBalances ++
  bindings .accountBalances deltas.accountBalances ++
  bindings .componentTvl deltas.componentTvl ++
  bindings .newProtocolComponent deltas.newProtocolComponents ++
  bindings .deletedProtocolComponent deltas.deletedProtocolComponents ++
  bindings .newEntrypoints deltas.dciUpdate.newEntrypoints ++
  bindings .newEntrypointParams deltas.dciUpdate.newEntrypointParams ++
  bindings .traceResult deltas.dciUpdate.traceResults

/-- One entry of a message. -/
inductive SnapshotEntry where
  | state (componentId : String) (state : ComponentWithState)
  | account (address : Bytes) (metadata : ResponseAccount)
  | slot (address slot value : Bytes)
  | delta (entry : DeltaEntry)
  | removed (componentId : String) (component : Carried)
deriving DecidableEq

/-- The message has this entry. An account without its slots is an entry; so is each slot. -/
def BroadcasterProtocolMessage.Holds (message : BroadcasterProtocolMessage) : SnapshotEntry → Prop
  | .state k v => message.message.snapshots.states[k]? = some v
  | .account address metadata =>
    ∃ account, message.message.snapshots.vmStorage[address]? = some account ∧
      responseAccountWithSlots account ∅ = metadata
  | .slot address slot value =>
    ∃ account, message.message.snapshots.vmStorage[address]? = some account ∧
      account.slots[slot]? = some value
  | .delta entry => ∃ deltas, message.message.deltas = some deltas ∧ deltas.Holds entry
  | .removed k v => message.message.removedComponents[k]? = some v

/-- Entries that may stand in one fragment only. An account is repeated in front of each range of
its slots, and slots that agree may be repeated too. -/
def SnapshotEntry.exclusive : SnapshotEntry → Bool
  | .account _ _ | .slot _ _ _ => false
  | _ => true

/-- The entries of a message that the splitter cuts first. -/
def BroadcasterProtocolMessage.stateEntries (message : BroadcasterProtocolMessage) :
    List SnapshotEntry :=
  bindings .state message.message.snapshots.states

/-- The deltas of a message. -/
def BroadcasterProtocolMessage.deltaEntries (message : BroadcasterProtocolMessage) :
    List SnapshotEntry :=
  match message.message.deltas with
  | some deltas => deltas.entries.map .delta
  | none => []

/-- The entries of a message that the splitter cuts last. -/
def BroadcasterProtocolMessage.tailEntries (message : BroadcasterProtocolMessage) :
    List SnapshotEntry :=
  message.deltaEntries ++ bindings .removed message.message.removedComponents

/-- The entries of a list of slots of one account, with the account in front. -/
def accountEntries (address : Bytes) (account : ResponseAccount) (slots : List (Bytes × Bytes)) :
    List SnapshotEntry :=
  .account address (responseAccountWithSlots account ∅) ::
    slots.map fun p => .slot address p.1 p.2

section

variable {κ υ ε : Type} [Ord κ] [Std.TransOrd κ] [Std.LawfulEqOrd κ] {mk : κ → υ → ε}
  {m : FinMap κ υ}

theorem mem_bindings {e : ε} : e ∈ bindings mk m ↔ ∃ k v, m[k]? = some v ∧ mk k v = e := by
  simp only [bindings, List.mem_map, Prod.exists, Std.ExtTreeMap.mem_toList_iff_getElem?_eq_some]

theorem nodup_bindings (h : ∀ k v k' v', mk k v = mk k' v' → k = k' ∧ v = v') :
    (bindings mk m).Nodup :=
  MapFold.nodup_map_toList (fun _ _ heq => Prod.ext_iff.mpr (h _ _ _ _ heq)) m

/-- Bindings under different constructors have nothing in common. -/
theorem disjoint_bindings {κ' υ' : Type} [Ord κ'] [Std.TransOrd κ'] [Std.LawfulEqOrd κ']
    {mk' : κ' → υ' → ε} {m' : FinMap κ' υ'} (h : ∀ k v k' v', mk k v ≠ mk' k' v') :
    (bindings mk m).Disjoint (bindings mk' m') := by
  intro e he he'
  obtain ⟨k, v, -, rfl⟩ := mem_bindings.mp he
  obtain ⟨k', v', -, heq⟩ := mem_bindings.mp he'
  exact h k v k' v' heq.symm

end

/-- The listed entries are the ones that are held. -/
theorem BlockChanges.mem_entries {deltas : BlockChanges} {e : DeltaEntry} :
    e ∈ deltas.entries ↔ deltas.Holds e := by
  simp only [BlockChanges.entries, List.mem_append, mem_bindings]
  cases e <;> simp [BlockChanges.Holds]

theorem BlockChanges.nodup_entries (deltas : BlockChanges) : deltas.entries.Nodup := by
  simp [BlockChanges.entries, List.nodup_append', nodup_bindings, disjoint_bindings]

/-- The entries of the component snapshots. -/
theorem mem_stateEntries {message : BroadcasterProtocolMessage} {e : SnapshotEntry} :
    e ∈ message.stateEntries ↔
      ∃ k v, message.message.snapshots.states[k]? = some v ∧ .state k v = e := by
  rw [BroadcasterProtocolMessage.stateEntries, mem_bindings]

theorem mem_deltaEntries {message : BroadcasterProtocolMessage} {e : SnapshotEntry} :
    e ∈ message.deltaEntries ↔ ∃ entry, message.Holds (.delta entry) ∧ .delta entry = e := by
  unfold BroadcasterProtocolMessage.deltaEntries BroadcasterProtocolMessage.Holds
  rcases message.message.deltas with _ | deltas
  · simp
  · simp [BlockChanges.mem_entries]

/-- The entries behind the snapshots: changes, then removals. -/
theorem mem_tailEntries {message : BroadcasterProtocolMessage} {e : SnapshotEntry} :
    e ∈ message.tailEntries ↔
      (∃ entry, message.Holds (.delta entry) ∧ .delta entry = e) ∨
      ∃ k v, message.message.removedComponents[k]? = some v ∧ .removed k v = e := by
  rw [BroadcasterProtocolMessage.tailEntries, List.mem_append, mem_deltaEntries, mem_bindings]

/-- No entry of the snapshots or of the tail occurs twice. -/
theorem nodup_stateEntries_tailEntries (message : BroadcasterProtocolMessage) :
    (message.stateEntries ++ message.tailEntries).Nodup := by
  have hdelta : message.deltaEntries.Nodup := by
    unfold BroadcasterProtocolMessage.deltaEntries
    rcases message.message.deltas with _ | deltas
    · exact List.nodup_nil
    · exact deltas.nodup_entries.map fun _ _ heq => by simpa using heq
  have htail : message.tailEntries.Nodup := by
    refine List.nodup_append'.mpr ⟨hdelta, nodup_bindings (by simp), fun e he he' => ?_⟩
    obtain ⟨entry, -, rfl⟩ := mem_deltaEntries.mp he
    simp [mem_bindings] at he'
  refine List.nodup_append'.mpr ⟨nodup_bindings (by simp), htail, fun e he he' => ?_⟩
  obtain ⟨k, v, -, rfl⟩ := mem_stateEntries.mp he
  simp [mem_tailEntries] at he'

/-! ## Fragments

A fragment carries some of the entries of a message, under the same protocol and header. -/

/-- `fragment` is cut from `message` and carries exactly `entries` of it. -/
structure Carries (message fragment : BroadcasterProtocolMessage) (entries : List SnapshotEntry) :
    Prop where
  protocol : fragment.protocol = message.protocol
  syncState : fragment.syncState = message.syncState
  header : fragment.message.header = message.message.header
  deltas : fragment.message.deltas ≠ none → message.message.deltas ≠ none
  subset : ∀ e ∈ entries, message.Holds e
  holds : ∀ e, fragment.Holds e ↔ e ∈ entries

/-- The fragments carry every entry of the message, and the exclusive ones once only. -/
def Cuts (message : BroadcasterProtocolMessage) (fragments : List BroadcasterProtocolMessage) :
    Prop :=
  ∃ segments, List.Forall₂ (Carries message) fragments segments ∧
    (∀ e, message.Holds e → e ∈ segments.flatten) ∧
    (segments.flatten.filter (·.exclusive)).Nodup

/-- Inserting adds the entry `e` to a fragment, and no other. -/
def Adds (message : BroadcasterProtocolMessage)
    (insert : BroadcasterProtocolMessage → BroadcasterProtocolMessage) (e : SnapshotEntry) : Prop :=
  ∀ fragment entries, Carries message fragment entries →
    Carries message (insert fragment) (entries ++ [e])

theorem carries_emptyProtocolFragment (message : BroadcasterProtocolMessage) :
    Carries message (emptyProtocolFragment message false) [] where
  protocol := rfl
  syncState := rfl
  header := rfl
  deltas h := absurd rfl h
  subset _ h := by cases h
  holds e := by cases e <;> simp [emptyProtocolFragment, BroadcasterProtocolMessage.Holds]

theorem holds_emptyBlockChangesFragment (source : BlockChanges) (e : DeltaEntry) :
    ¬(emptyBlockChangesFragment source).Holds e := by
  cases e <;> simp [emptyBlockChangesFragment, DciUpdate.empty, BlockChanges.Holds]

theorem carries_freshTailFragment (message : BroadcasterProtocolMessage) :
    Carries message (freshTailFragment message) [] := by
  unfold freshTailFragment
  rcases h : message.message.deltas with _ | source
  · exact carries_emptyProtocolFragment message
  · exact
      { protocol := rfl
        syncState := rfl
        header := rfl
        deltas := by simp [h]
        subset := by simp
        holds := fun e => by
          cases e <;> simp [emptyProtocolFragment, BroadcasterProtocolMessage.Holds,
            holds_emptyBlockChangesFragment] }

/-- A fragment changed only by one more entry of the message. -/
theorem Carries.extend {message fragment fragment' : BroadcasterProtocolMessage}
    {entries : List SnapshotEntry} {e : SnapshotEntry} (hc : Carries message fragment entries)
    (he : message.Holds e) (protocol : fragment'.protocol = fragment.protocol)
    (syncState : fragment'.syncState = fragment.syncState)
    (header : fragment'.message.header = fragment.message.header)
    (deltas : fragment'.message.deltas ≠ none → message.message.deltas ≠ none)
    (holds : ∀ e', fragment'.Holds e' ↔ fragment.Holds e' ∨ e' = e) :
    Carries message fragment' (entries ++ [e]) := by
  refine ⟨protocol.trans hc.protocol, syncState.trans hc.syncState, header.trans hc.header, deltas,
    fun e' he' => ?_, fun e' => ?_⟩
  · rcases List.mem_append.mp he' with he' | he'
    · exact hc.subset e' he'
    · rw [List.mem_singleton.mp he']
      exact he
  · rw [holds e', hc.holds, List.mem_append, List.mem_singleton]

theorem adds_insertState {message : BroadcasterProtocolMessage} {componentId : String}
    {state : ComponentWithState} (h : message.Holds (.state componentId state)) :
    Adds message (·.insertState componentId state) (.state componentId state) := by
  intro fragment entries hc
  -- what the fragment holds under this id is what the message holds
  have agree : ∀ w, fragment.message.snapshots.states[componentId]? = some w → w = state := by
    intro w hw
    have hm := hc.subset _ ((hc.holds (.state componentId w)).mp hw)
    exact Option.some.inj (hm.symm.trans h)
  refine hc.extend h rfl rfl rfl hc.deltas fun e => ?_
  cases e
  case state k v =>
    simp only [BroadcasterProtocolMessage.insertState, BroadcasterProtocolMessage.Holds,
      MapFold.getElem?_insert_eq_some agree, SnapshotEntry.state.injEq]
  all_goals simp [BroadcasterProtocolMessage.insertState, BroadcasterProtocolMessage.Holds]

theorem adds_insertRemoved {message : BroadcasterProtocolMessage} {componentId : String}
    {component : Carried} (h : message.Holds (.removed componentId component)) :
    Adds message (·.insertRemoved componentId component) (.removed componentId component) := by
  intro fragment entries hc
  have agree : ∀ w, fragment.message.removedComponents[componentId]? = some w → w = component := by
    intro w hw
    have hm := hc.subset _ ((hc.holds (.removed componentId w)).mp hw)
    exact Option.some.inj (hm.symm.trans h)
  refine hc.extend h rfl rfl rfl hc.deltas fun e => ?_
  cases e
  case removed k v =>
    simp only [BroadcasterProtocolMessage.insertRemoved, BroadcasterProtocolMessage.Holds,
      MapFold.getElem?_insert_eq_some agree, SnapshotEntry.removed.injEq]
  all_goals simp [BroadcasterProtocolMessage.insertRemoved, BroadcasterProtocolMessage.Holds]

/-- Inserting adds the binding `e` to block changes that hold bindings of `source` only. -/
def AddsDelta (source : BlockChanges) (insert : BlockChanges → BlockChanges) (e : DeltaEntry) :
    Prop :=
  ∀ deltas : BlockChanges, (∀ e', deltas.Holds e' → source.Holds e') →
    ∀ e', (insert deltas).Holds e' ↔ deltas.Holds e' ∨ e' = e

/-- Inserting a change adds its entry, if it is one of the source. -/
theorem adds_insertDelta {message : BroadcasterProtocolMessage} {source : BlockChanges}
    {insert : BlockChanges → BlockChanges} {e : DeltaEntry}
    (hsource : message.message.deltas = some source) (he : source.Holds e)
    (h : AddsDelta source insert e) :
    Adds message (.insertDelta (emptyBlockChangesFragment source) insert) (.delta e) := by
  intro fragment entries hc
  -- the deltas the entry is inserted into, whether the fragment had any or not
  have hsub : ∀ e', (fragment.message.deltas.getD (emptyBlockChangesFragment source)).Holds e' ↔
      fragment.Holds (.delta e') := by
    intro e'
    unfold BroadcasterProtocolMessage.Holds
    rcases fragment.message.deltas with _ | deltas
    · simp [holds_emptyBlockChangesFragment]
    · simp
  have hin : ∀ e', fragment.Holds (.delta e') → source.Holds e' := by
    intro e' he'
    obtain ⟨deltas, hdeltas, hh⟩ := hc.subset _ ((hc.holds _).mp he')
    rw [hsource, Option.some.injEq] at hdeltas
    exact hdeltas ▸ hh
  refine hc.extend ⟨source, hsource, he⟩ rfl rfl rfl (fun _ => by simp [hsource]) fun e' => ?_
  cases e'
  case delta e' =>
    have hadd := h _ (fun e' he' => hin e' ((hsub e').mp he')) e'
    rw [hsub] at hadd
    simpa [BroadcasterProtocolMessage.insertDelta, BroadcasterProtocolMessage.Holds] using hadd
  all_goals simp [BroadcasterProtocolMessage.insertDelta, BroadcasterProtocolMessage.Holds]

/-- Inserting into one of the maps of a `BlockChanges`, whichever map it is. -/
theorem addsDelta_insert {κ υ : Type} [Ord κ] [Std.TransOrd κ] [Std.LawfulEqOrd κ]
    {map : BlockChanges → FinMap κ υ} {mk : κ → υ → DeltaEntry}
    {insert : BlockChanges → κ → υ → BlockChanges}
    (own : ∀ deltas k v, deltas.Holds (mk k v) ↔ (map deltas)[k]? = some v)
    (inserted : ∀ deltas k v e, (insert deltas k v).Holds e ↔
      (∃ k' v', e = mk k' v' ∧ ((map deltas).insert k v)[k']? = some v') ∨
      ((∀ k' v', e ≠ mk k' v') ∧ deltas.Holds e))
    {source : BlockChanges} {k : κ} {v : υ} (h : source.Holds (mk k v)) :
    AddsDelta source (insert · k v) (mk k v) := by
  intro deltas hsub e
  -- the source has one value under the key, so inserting it again is harmless
  have agree : ∀ w, (map deltas)[k]? = some w → w = v := by
    intro w hw
    have hw' := hsub _ ((own deltas k w).mpr hw)
    rw [own] at h hw'
    exact Option.some.inj (hw'.symm.trans h)
  rw [inserted]
  by_cases he : ∃ k' v', e = mk k' v'
  · obtain ⟨k', v', rfl⟩ := he
    constructor
    · rintro (⟨k'', v'', heq, hins⟩ | ⟨hne, -⟩)
      · rw [heq, own]
        rcases (MapFold.getElem?_insert_eq_some agree).mp hins with hold | ⟨rfl, rfl⟩
        · exact .inl hold
        · exact .inr rfl
      · exact absurd rfl (hne k' v')
    · rintro (hold | heq)
      · exact .inl ⟨k', v', rfl,
          (MapFold.getElem?_insert_eq_some agree).mpr (.inl ((own _ _ _).mp hold))⟩
      · exact .inl ⟨k, v, heq, (MapFold.getElem?_insert_eq_some agree).mpr (.inr ⟨rfl, rfl⟩)⟩
  · have hne : ∀ k' v', e ≠ mk k' v' := fun k' v' heq => he ⟨k', v', heq⟩
    constructor
    · rintro (⟨k', v', heq, -⟩ | ⟨-, hold⟩)
      · exact absurd heq (hne k' v')
      · exact .inl hold
    · rintro (hold | heq)
      · exact .inr ⟨hne, hold⟩
      · exact absurd heq (hne k v)

/-! ## Filling fragment after fragment

The builders all work alike: they insert an entry into the current fragment, and close it when it
has become too large. What is closed and what is current together carry the entries so far. -/

/-- The fragments are closed and carry `done` between them. -/
def Closed (message : BroadcasterProtocolMessage) (fragments : List BroadcasterProtocolMessage)
    (done : List SnapshotEntry) : Prop :=
  ∃ segments, List.Forall₂ (Carries message) fragments segments ∧ segments.flatten = done

/-- The closed fragments and the current one carry `done` between them. -/
def Filling (message : BroadcasterProtocolMessage) (fragments : List BroadcasterProtocolMessage)
    (current : BroadcasterProtocolMessage) (currentHasPayload : Bool)
    (done : List SnapshotEntry) : Prop :=
  ∃ segments segment, List.Forall₂ (Carries message) fragments segments ∧
    Carries message current segment ∧ (currentHasPayload = false → segment = []) ∧
    segments.flatten ++ segment = done

section

variable {message : BroadcasterProtocolMessage} {fragments : List BroadcasterProtocolMessage}
  {current fresh : BroadcasterProtocolMessage} {currentHasPayload : Bool}
  {done : List SnapshotEntry} {e : SnapshotEntry}
  {insert : BroadcasterProtocolMessage → BroadcasterProtocolMessage}

/-- Nothing has been filled in at the start. -/
theorem filling_start (message : BroadcasterProtocolMessage) :
    Filling message [] (emptyProtocolFragment message false) false [] :=
  ⟨[], [], .nil, carries_emptyProtocolFragment message, fun _ => rfl, rfl⟩

/-- The entry went into the current fragment. -/
theorem Filling.add (h : Filling message fragments current currentHasPayload done)
    (hadd : Adds message insert e) :
    Filling message fragments (insert current) true (done ++ [e]) := by
  obtain ⟨segments, segment, hfrags, hcur, -, rfl⟩ := h
  exact ⟨segments, segment ++ [e], hfrags, hadd _ _ hcur, by simp, by simp⟩

/-- The current fragment was closed. -/
theorem Filling.close (h : Filling message fragments current true done) :
    Closed message (fragments ++ [current]) done := by
  obtain ⟨segments, segment, hfrags, hcur, -, rfl⟩ := h
  exact ⟨segments ++ [segment], List.rel_append hfrags (.cons hcur .nil), by simp⟩

/-- The current fragment never received anything and was dropped. -/
theorem Filling.drop (h : Filling message fragments current false done) :
    Closed message fragments done := by
  obtain ⟨segments, segment, hfrags, -, hempty, rfl⟩ := h
  exact ⟨segments, hfrags, by simp [hempty rfl]⟩

/-- A new fragment was started over the closed ones. -/
theorem Closed.restart (h : Closed message fragments done) (hfresh : Carries message fresh []) :
    Filling message fragments fresh false done := by
  obtain ⟨segments, hfrags, rfl⟩ := h
  exact ⟨segments, [], hfrags, hfresh, fun _ => rfl, by simp⟩

end

section

variable {serialisedLen : SerialisedLen Sim} {ctx : SnapshotChunkBuildContext}
  {message : BroadcasterProtocolMessage} {syncStatuses : SyncStatuses}

/-- The invariant of the tail builder. -/
def ProtocolTailFragmentBuilder.Filled (builder : ProtocolTailFragmentBuilder)
    (message : BroadcasterProtocolMessage) (done : List SnapshotEntry) : Prop :=
  Filling message builder.fragments builder.current builder.currentHasPayload done

/-- Closing the current fragment leaves all entries in closed ones. -/
theorem closeCurrent_closed {builder builder' : ProtocolTailFragmentBuilder}
    {done : List SnapshotEntry} (hfill : builder.Filled message done)
    (h : builder.closeCurrent serialisedLen ctx message syncStatuses = .ok builder') :
    Closed message builder'.fragments done := by
  unfold ProtocolTailFragmentBuilder.Filled at hfill
  unfold ProtocolTailFragmentBuilder.closeCurrent at h
  cases hp : builder.currentHasPayload with
  | true =>
    rw [hp] at h hfill
    simp only [if_true, check_bind_eq_ok, pure_eq_ok] at h
    obtain ⟨-, rfl⟩ := h
    exact hfill.close
  | false =>
    rw [hp] at h hfill
    simp only [Bool.false_eq_true, if_false, pure_eq_ok] at h
    obtain rfl := h
    exact hfill.drop

/-- An entry that does not fit begins the next fragment. -/
theorem replaceCurrent_filled {builder builder' : ProtocolTailFragmentBuilder}
    {done : List SnapshotEntry} {e : SnapshotEntry} {kind key : String}
    {insert : BroadcasterProtocolMessage → BroadcasterProtocolMessage}
    (hclosed : Closed message builder.fragments done) (hadd : Adds message insert e)
    (h : builder.replaceCurrent serialisedLen ctx message syncStatuses kind key insert =
      .ok builder') :
    builder'.Filled message (done ++ [e]) := by
  unfold ProtocolTailFragmentBuilder.replaceCurrent at h
  obtain ⟨fits, -, h⟩ := bind_eq_ok.mp h
  cases fits with
  | true =>
    simp only [if_true, pure_eq_ok] at h
    obtain rfl := h
    exact (hclosed.restart (carries_freshTailFragment message)).add hadd
  | false =>
    -- the entry is too large for any fragment
    simp only [Bool.false_eq_true, if_false] at h
    obtain ⟨size, -, h⟩ := bind_eq_ok.mp h
    cases h

/-- **An entry is appended**, to the current fragment or to the next one. -/
theorem appendNamed_filled {builder builder' : ProtocolTailFragmentBuilder}
    {done : List SnapshotEntry} {e : SnapshotEntry} {kind key : String}
    {insert : BroadcasterProtocolMessage → BroadcasterProtocolMessage}
    (hfill : builder.Filled message done) (hadd : Adds message insert e)
    (h : builder.appendNamed serialisedLen ctx message syncStatuses kind key insert =
      .ok builder') :
    builder'.Filled message (done ++ [e]) := by
  unfold ProtocolTailFragmentBuilder.appendNamed at h
  obtain ⟨fits, -, h⟩ := bind_eq_ok.mp h
  cases fits with
  | true =>
    simp only [if_true, pure_eq_ok] at h
    obtain rfl := h
    exact hfill.add hadd
  | false =>
    simp only [Bool.false_eq_true, if_false] at h
    obtain ⟨closed, hclosed, h⟩ := bind_eq_ok.mp h
    exact replaceCurrent_filled (closeCurrent_closed hfill hclosed) hadd h

/-- All entries of one map of changes are appended. -/
theorem appendDeltaEntries_filled {κ υ : Type} [Ord κ] [Std.TransOrd κ] [Std.LawfulEqOrd κ]
    (map : BlockChanges → FinMap κ υ) (mk : κ → υ → DeltaEntry)
    {insert : BlockChanges → κ → υ → BlockChanges} {debug : κ → String} {kind : String}
    (own : ∀ deltas k v, deltas.Holds (mk k v) ↔ (map deltas)[k]? = some v)
    (inserted : ∀ deltas k v e, (insert deltas k v).Holds e ↔
      (∃ k' v', e = mk k' v' ∧ ((map deltas).insert k v)[k']? = some v') ∨
      ((∀ k' v', e ≠ mk k' v') ∧ deltas.Holds e))
    {source : BlockChanges} {builder builder' : ProtocolTailFragmentBuilder}
    {done : List SnapshotEntry} (hsource : message.message.deltas = some source)
    (hfill : builder.Filled message done)
    (h : builder.appendDeltaEntries serialisedLen ctx message syncStatuses debug kind (map source)
      insert = .ok builder') :
    builder'.Filled message (done ++ (bindings mk (map source)).map .delta) := by
  unfold ProtocolTailFragmentBuilder.appendDeltaEntries at h
  rw [hsource] at h
  rw [bindings, List.map_map]
  refine foldlM_induction (fun pre c => c.Filled message
    (done ++ pre.map (SnapshotEntry.delta ∘ fun p => mk p.1 p.2))) (by simpa using hfill) ?_ h
  intro pre entry c c' hmem hc hstep
  have hentry : source.Holds (mk entry.1 entry.2) :=
    (own _ _ _).mpr (Std.ExtTreeMap.mem_toList_iff_getElem?_eq_some.mp hmem)
  have hnext := appendNamed_filled hc
    (adds_insertDelta hsource hentry (addsDelta_insert own inserted hentry)) hstep
  simpa [List.append_assoc] using hnext

/-- The eleven loops over the maps of the deltas. -/
theorem appendDeltas_filled {source : BlockChanges}
    {builder builder' : ProtocolTailFragmentBuilder} {done : List SnapshotEntry}
    (hsource : message.message.deltas = some source) (hfill : builder.Filled message done)
    (h : appendDeltas serialisedLen ctx message syncStatuses source builder = .ok builder') :
    builder'.Filled message (done ++ message.deltaEntries) := by
  unfold appendDeltas at h
  simp only [bind_eq_ok] at h
  obtain ⟨b₁, h₁, b₂, h₂, b₃, h₃, b₄, h₄, b₅, h₅, b₆, h₆, b₇, h₇, b₈, h₈, b₉, h₉, b₁₀, h₁₀, h₁₁⟩ := h
  have f₁ := appendDeltaEntries_filled (·.newTokens) .newToken (fun _ _ _ => Iff.rfl)
    (fun _ _ _ e => by cases e <;> simp [BlockChanges.Holds]) hsource hfill h₁
  have f₂ := appendDeltaEntries_filled (·.stateUpdates) .stateUpdate (fun _ _ _ => Iff.rfl)
    (fun _ _ _ e => by cases e <;> simp [BlockChanges.Holds]) hsource f₁ h₂
  have f₃ := appendDeltaEntries_filled (·.accountUpdates) .accountUpdate (fun _ _ _ => Iff.rfl)
    (fun _ _ _ e => by cases e <;> simp [BlockChanges.Holds]) hsource f₂ h₃
  have f₄ := appendDeltaEntries_filled (·.componentBalances) .componentBalances (fun _ _ _ => Iff.rfl)
    (fun _ _ _ e => by cases e <;> simp [BlockChanges.Holds]) hsource f₃ h₄
  have f₅ := appendDeltaEntries_filled (·.accountBalances) .accountBalances (fun _ _ _ => Iff.rfl)
    (fun _ _ _ e => by cases e <;> simp [BlockChanges.Holds]) hsource f₄ h₅
  have f₆ := appendDeltaEntries_filled (·.componentTvl) .componentTvl (fun _ _ _ => Iff.rfl)
    (fun _ _ _ e => by cases e <;> simp [BlockChanges.Holds]) hsource f₅ h₆
  have f₇ := appendDeltaEntries_filled (·.newProtocolComponents) .newProtocolComponent (fun _ _ _ => Iff.rfl)
    (fun _ _ _ e => by cases e <;> simp [BlockChanges.Holds]) hsource f₆ h₇
  have f₈ := appendDeltaEntries_filled (·.deletedProtocolComponents) .deletedProtocolComponent (fun _ _ _ => Iff.rfl)
    (fun _ _ _ e => by cases e <;> simp [BlockChanges.Holds]) hsource f₇ h₈
  have f₉ := appendDeltaEntries_filled (·.dciUpdate.newEntrypoints) .newEntrypoints (fun _ _ _ => Iff.rfl)
    (fun _ _ _ e => by cases e <;> simp [BlockChanges.Holds]) hsource f₈ h₉
  have f₁₀ := appendDeltaEntries_filled (·.dciUpdate.newEntrypointParams) .newEntrypointParams (fun _ _ _ => Iff.rfl)
    (fun _ _ _ e => by cases e <;> simp [BlockChanges.Holds]) hsource f₉ h₁₀
  have f₁₁ := appendDeltaEntries_filled (·.dciUpdate.traceResults) .traceResult (fun _ _ _ => Iff.rfl)
    (fun _ _ _ e => by cases e <;> simp [BlockChanges.Holds]) hsource f₁₀ h₁₁
  have hentries : message.deltaEntries = source.entries.map .delta := by
    rw [BroadcasterProtocolMessage.deltaEntries, hsource]
  simpa only [hentries, BlockChanges.entries, List.map_append, List.append_assoc] using f₁₁

/-- The changes are appended to a new builder. -/
theorem appendSourceDeltas_filled {builder' : ProtocolTailFragmentBuilder}
    {includeSyncStatuses : Bool}
    (h : appendSourceDeltas serialisedLen ctx message syncStatuses
      (.new message includeSyncStatuses) = .ok builder') :
    builder'.Filled message message.deltaEntries := by
  have hstart : (ProtocolTailFragmentBuilder.new message includeSyncStatuses).Filled message [] :=
    filling_start message
  unfold appendSourceDeltas at h
  rcases hsource : message.message.deltas with _ | source
  · rw [hsource, pure_eq_ok] at h
    obtain rfl := h
    rw [BroadcasterProtocolMessage.deltaEntries, hsource]
    exact hstart
  · rw [hsource] at h
    exact appendDeltas_filled hsource hstart h

theorem finish_closed {builder : ProtocolTailFragmentBuilder}
    {fragments : List BroadcasterProtocolMessage} {done : List SnapshotEntry}
    (hfill : builder.Filled message done)
    (h : builder.finish serialisedLen ctx message syncStatuses = .ok fragments) :
    Closed message fragments done := by
  unfold ProtocolTailFragmentBuilder.Filled at hfill
  unfold ProtocolTailFragmentBuilder.finish at h
  cases hp : builder.currentHasPayload with
  | true =>
    rw [hp] at h hfill
    simp only [if_true, check_bind_eq_ok, pure_eq_ok] at h
    obtain ⟨-, rfl⟩ := h
    exact hfill.close
  | false =>
    rw [hp] at h hfill
    simp only [Bool.false_eq_true, if_false, pure_eq_ok] at h
    obtain rfl := h
    exact hfill.drop

/-- **The tail is cut completely.** -/
theorem splitProtocolTail_closed {fragments : List BroadcasterProtocolMessage}
    {includeSyncStatuses : Bool}
    (h : splitProtocolTailForSnapshot serialisedLen ctx message syncStatuses includeSyncStatuses =
      .ok fragments) :
    Closed message fragments message.tailEntries := by
  unfold splitProtocolTailForSnapshot at h
  split at h
  case isTrue hnone =>
    -- neither deltas nor removals
    rw [pure_eq_ok] at h
    obtain rfl := h
    have hremoved : bindings SnapshotEntry.removed message.message.removedComponents = [] := by
      rw [Std.ExtTreeMap.isEmpty_iff.mp hnone.2]
      simp [bindings]
    refine ⟨[], .nil, ?_⟩
    simp [BroadcasterProtocolMessage.tailEntries, BroadcasterProtocolMessage.deltaEntries, hnone.1,
      hremoved]
  case isFalse =>
    simp only [bind_eq_ok] at h
    obtain ⟨b₁, hdeltas, b₂, hremoved, hfinish⟩ := h
    have hfill₁ := appendSourceDeltas_filled hdeltas
    refine finish_closed ?_ hfinish
    refine foldlM_induction (fun pre c => c.Filled message
      (message.deltaEntries ++ pre.map fun p => .removed p.1 p.2)) (by simpa using hfill₁) ?_ hremoved
    intro pre entry c c' hmem hc hstep
    have hnext := appendNamed_filled hc (adds_insertRemoved
      (Std.ExtTreeMap.mem_toList_iff_getElem?_eq_some.mp hmem)) hstep
    simpa [List.append_assoc] using hnext

/-! ## Component snapshots -/

theorem appendState_filling {buffer buffer' : SnapshotFragmentBuffer} {done : List SnapshotEntry}
    {entry : String × ComponentWithState} (hentry : message.Holds (.state entry.1 entry.2))
    (hfill : Filling message buffer.fragments buffer.current buffer.currentHasPayload done)
    (h : buffer.appendState serialisedLen ctx message syncStatuses entry = .ok buffer') :
    Filling message buffer'.fragments buffer'.current buffer'.currentHasPayload
      (done ++ [.state entry.1 entry.2]) := by
  unfold SnapshotFragmentBuffer.appendState at h
  obtain ⟨fits, -, h⟩ := bind_eq_ok.mp h
  have hadd := adds_insertState hentry
  cases fits with
  | true =>
    simp only [if_true, pure_eq_ok] at h
    obtain rfl := h
    exact hfill.add hadd
  | false =>
    simp only [Bool.false_eq_true, if_false] at h
    obtain ⟨hpayload, h⟩ := check_bind_eq_ok.mp h
    obtain ⟨fits', -, h⟩ := bind_eq_ok.mp h
    obtain ⟨-, h⟩ := check_bind_eq_ok.mp h
    rw [pure_eq_ok] at h
    obtain rfl := h
    rw [ensure_eq_ok] at hpayload
    rw [hpayload] at hfill
    exact (hfill.close.restart (carries_emptyProtocolFragment message)).add hadd

/-! ## VM accounts

An account may be cut by itself, into ranges of its slots; each fragment repeats the rest of the
account. -/

/-- A fragment with some of the slots of an account. -/
theorem carries_slotRange {address : Bytes} {account : ResponseAccount}
    {slots : List (Bytes × Bytes)}
    (haccount : message.message.snapshots.vmStorage[address]? = some account)
    (hslots : slots.Sublist account.slots.toList) :
    Carries message (vmStorageAccountFragmentForSlotRange message address account slots)
      (accountEntries address account slots) := by
  have hdistinct : slots.Pairwise (fun a b => a.1 ≠ b.1) :=
    (MapFold.pairwise_ne_toList account.slots).sublist hslots
  have hlookup : ∀ k v, (Std.ExtTreeMap.ofList slots)[k]? = some v ↔ (k, v) ∈ slots :=
    fun k v => MapFold.getElem?_ofList_eq_some hdistinct
  refine ⟨rfl, rfl, rfl, fun h => absurd rfl h, fun e he => ?_, fun e => ?_⟩
  · rcases List.mem_cons.mp he with rfl | he
    · exact ⟨account, haccount, rfl⟩
    · obtain ⟨p, hp, rfl⟩ := List.mem_map.mp he
      exact ⟨account, haccount,
        Std.ExtTreeMap.mem_toList_iff_getElem?_eq_some.mp (hslots.mem hp)⟩
  · have hvm : ∀ address', (vmStorageAccountFragmentForSlotRange message address account
        slots).message.snapshots.vmStorage[address']? =
        if address = address' then some { account with slots := .ofList slots } else none := by
      intro address'
      simp [vmStorageAccountFragmentForSlotRange, vmStorageAccountFragment, emptyProtocolFragment,
        responseAccountWithSlots, Std.ExtTreeMap.getElem?_insert]
    simp only [accountEntries, List.mem_cons, List.mem_map]
    cases e with
    | account address' metadata =>
      simp only [BroadcasterProtocolMessage.Holds, hvm, responseAccountWithSlots]
      by_cases haddr : address = address' <;> simp [haddr, eq_comm]
    | slot address' slot value =>
      simp only [BroadcasterProtocolMessage.Holds, hvm]
      by_cases haddr : address = address' <;> simp [haddr, hlookup]
    | _ =>
      simp [BroadcasterProtocolMessage.Holds, vmStorageAccountFragmentForSlotRange,
        vmStorageAccountFragment, emptyProtocolFragment]

/-- The fragments hold consecutive ranges of the slots, whatever the measurements were. -/
theorem splitSlots_ranges {address : Bytes} {account : ResponseAccount}
    {includeSyncStatuses : Bool} {slots : List (Bytes × Bytes)}
    {fragments : List BroadcasterProtocolMessage}
    (h : splitSlots serialisedLen ctx message syncStatuses address account includeSyncStatuses
      slots = .ok fragments) :
    ∃ ranges : List (List (Bytes × Bytes)), ranges.flatten = slots ∧
      fragments = ranges.map (vmStorageAccountFragmentForSlotRange message address account) := by
  induction includeSyncStatuses, slots using splitSlots.induct generalizing fragments with
  | case1 includeSyncStatuses =>
    rw [splitSlots, pure_eq_ok] at h
    exact ⟨[], rfl, h.symm⟩
  | case2 includeSyncStatuses slot rest ih =>
    rw [splitSlots] at h
    simp only [bind_eq_ok, pure_eq_ok] at h
    obtain ⟨extra, -, later, hlater, rfl⟩ := h
    obtain ⟨ranges, hranges, rfl⟩ := ih extra hlater
    refine ⟨(slot :: rest.take extra) :: ranges, ?_, rfl⟩
    rw [List.flatten_cons, hranges, List.cons_append, List.take_append_drop]

/-- An account is cut into ranges that together are its slots. -/
theorem splitVmStorageAccount_ranges {address : Bytes} {account : ResponseAccount}
    {includeSyncStatuses : Bool} {fragments : List BroadcasterProtocolMessage}
    (h : splitVmStorageAccountForSnapshot serialisedLen ctx message syncStatuses address account
      includeSyncStatuses = .ok fragments) :
    ∃ ranges : List (List (Bytes × Bytes)), ranges ≠ [] ∧ ranges.flatten = account.slots.toList ∧
      fragments = ranges.map (vmStorageAccountFragmentForSlotRange message address account) := by
  unfold splitVmStorageAccountForSnapshot at h
  dsimp only at h
  split at h
  case isTrue hempty =>
    simp only [bind_eq_ok, pure_eq_ok] at h
    obtain ⟨fits, -, _, -, rfl⟩ := h
    exact ⟨[[]], by simp, by simp [hempty], rfl⟩
  case isFalse hne =>
    obtain ⟨ranges, hranges, rfl⟩ := splitSlots_ranges h
    refine ⟨ranges, ?_, hranges, rfl⟩
    rintro rfl
    exact hne hranges.symm

/-- **An account is cut completely**: its fragments carry its metadata and every slot, and nothing
that is exclusive. -/
theorem splitVmStorageAccount_carries {address : Bytes} {account : ResponseAccount}
    {includeSyncStatuses : Bool} {fragments : List BroadcasterProtocolMessage}
    (haccount : message.message.snapshots.vmStorage[address]? = some account)
    (h : splitVmStorageAccountForSnapshot serialisedLen ctx message syncStatuses address account
      includeSyncStatuses = .ok fragments) :
    ∃ segments, List.Forall₂ (Carries message) fragments segments ∧
      (∀ e ∈ segments.flatten, e.exclusive = false) ∧
      ∀ e ∈ accountEntries address account account.slots.toList, e ∈ segments.flatten := by
  obtain ⟨ranges, hne, hflat, rfl⟩ := splitVmStorageAccount_ranges h
  refine ⟨ranges.map (accountEntries address account), ?_, fun e he => ?_, fun e he => ?_⟩
  · rw [List.forall₂_map_left_iff, List.forall₂_map_right_iff, List.forall₂_same]
    intro range hrange
    refine carries_slotRange haccount ?_
    rw [← hflat]
    exact List.sublist_flatten_of_mem hrange
  · obtain ⟨_, hseg, he⟩ := List.mem_flatten.mp he
    obtain ⟨range, -, rfl⟩ := List.mem_map.mp hseg
    rcases List.mem_cons.mp he with rfl | he
    · rfl
    · obtain ⟨p, -, rfl⟩ := List.mem_map.mp he
      rfl
  · -- the metadata stands in every range, a slot in the range it fell into
    rw [List.mem_flatten]
    rcases List.mem_cons.mp he with rfl | he
    · obtain ⟨range, hrange⟩ := List.exists_mem_of_ne_nil ranges hne
      exact ⟨_, List.mem_map_of_mem hrange, List.mem_cons_self⟩
    · obtain ⟨p, hp, rfl⟩ := List.mem_map.mp he
      rw [← hflat] at hp
      obtain ⟨range, hrange, hp⟩ := List.mem_flatten.mp hp
      exact ⟨_, List.mem_map_of_mem hrange, List.mem_cons_of_mem _ (List.mem_map_of_mem hp)⟩

/-- The fragments cut before the accounts, followed by the fragments of the accounts in `accounts`. -/
def AccountsCut (message : BroadcasterProtocolMessage)
    (before fragments : List BroadcasterProtocolMessage) (accounts : List (Bytes × ResponseAccount)) :
    Prop :=
  ∃ cut segments, fragments = before ++ cut ∧ List.Forall₂ (Carries message) cut segments ∧
    (∀ e ∈ segments.flatten, e.exclusive = false) ∧
    ∀ a ∈ accounts, ∀ e ∈ accountEntries a.1 a.2 a.2.slots.toList, e ∈ segments.flatten

/-- After a flush the current fragment is empty. -/
theorem flush_currentHasPayload (buffer : SnapshotFragmentBuffer)
    (message : BroadcasterProtocolMessage) :
    (buffer.flush message).currentHasPayload = false := by
  unfold SnapshotFragmentBuffer.flush
  cases hp : buffer.currentHasPayload with
  | true => rfl
  | false => exact hp

/-- There is nothing to flush in an empty fragment. -/
theorem flush_of_no_payload {buffer : SnapshotFragmentBuffer}
    (message : BroadcasterProtocolMessage) (h : buffer.currentHasPayload = false) :
    buffer.flush message = buffer := by
  simp [SnapshotFragmentBuffer.flush, h]

/-- One more account is put into the current fragment, or is cut by itself. -/
theorem appendAccount_cut {buffer buffer' : SnapshotFragmentBuffer}
    {before : List BroadcasterProtocolMessage} {pre : List (Bytes × ResponseAccount)}
    {entry : Bytes × ResponseAccount}
    (hentry : message.message.snapshots.vmStorage[entry.1]? = some entry.2)
    (hcut : AccountsCut message before (buffer.flush message).fragments pre)
    (h : buffer.appendAccount serialisedLen ctx message syncStatuses entry = .ok buffer') :
    AccountsCut message before (buffer'.flush message).fragments (pre ++ [entry]) := by
  unfold SnapshotFragmentBuffer.appendAccount at h
  simp only [bind_eq_ok, pure_eq_ok] at h
  obtain ⟨added, hadded, rfl⟩ := h
  obtain ⟨segments', hcarries', hshared', hall'⟩ := splitVmStorageAccount_carries hentry hadded
  obtain ⟨cut, segments, heq, hcarries, hshared, hall⟩ := hcut
  refine ⟨cut ++ added, segments ++ segments', ?_, List.rel_append hcarries hcarries',
    fun e he => ?_, fun a ha e he => ?_⟩
  · rw [flush_of_no_payload message]
    · rw [heq, List.append_assoc]
    · exact flush_currentHasPayload buffer message
  · rw [List.flatten_append, List.mem_append] at he
    exact he.elim (hshared e) (hshared' e)
  · rw [List.flatten_append, List.mem_append]
    rcases List.mem_append.mp ha with ha | ha
    · exact .inl (hall a ha e he)
    · rw [List.mem_singleton.mp ha] at he
      exact .inr (hall' e he)

/-- **The snapshots are cut completely**: first the components, then the accounts. -/
theorem splitSnapshots_cut {fragments : List BroadcasterProtocolMessage}
    (h : splitSnapshots serialisedLen ctx message syncStatuses = .ok fragments) :
    ∃ before, Closed message before message.stateEntries ∧
      AccountsCut message before fragments message.message.snapshots.vmStorage.toList := by
  unfold splitSnapshots at h
  simp only [bind_eq_ok, pure_eq_ok] at h
  obtain ⟨b₁, hstates, b₂, haccounts, rfl⟩ := h
  have hfill : Filling message b₁.fragments b₁.current b₁.currentHasPayload
      message.stateEntries := by
    refine foldlM_induction (fun pre c => Filling message c.fragments c.current c.currentHasPayload
      (pre.map fun p => .state p.1 p.2)) (filling_start message) ?_ hstates
    intro pre entry c c' hmem hc hstep
    have hnext := appendState_filling (Std.ExtTreeMap.mem_toList_iff_getElem?_eq_some.mp hmem) hc
      hstep
    simpa using hnext
  have hclosed : Closed message (b₁.flush message).fragments message.stateEntries := by
    unfold SnapshotFragmentBuffer.flush
    cases hp : b₁.currentHasPayload with
    | true =>
      rw [hp] at hfill
      exact hfill.close
    | false =>
      rw [hp] at hfill
      exact hfill.drop
  refine ⟨(b₁.flush message).fragments, hclosed, ?_⟩
  refine foldlM_induction (fun pre c => AccountsCut message (b₁.flush message).fragments
    (c.flush message).fragments pre) ⟨[], [], by simp, .nil, by simp, by simp⟩ ?_ haccounts
  intro pre entry c c' hmem hc hstep
  exact appendAccount_cut (Std.ExtTreeMap.mem_toList_iff_getElem?_eq_some.mp hmem) hc hstep

/-! ## Messages

The parts of a message in the order they are cut: accounts, states, then the tail of deltas and
removals. -/

/-- All entries of a message. -/
def BroadcasterProtocolMessage.entries (message : BroadcasterProtocolMessage) :
    List SnapshotEntry :=
  message.stateEntries ++
    message.message.snapshots.vmStorage.toList.flatMap
      (fun a => accountEntries a.1 a.2 a.2.slots.toList) ++
    message.tailEntries

/-- The entries of a message are the ones it holds. -/
theorem mem_entries {e : SnapshotEntry} : e ∈ message.entries ↔ message.Holds e := by
  simp only [BroadcasterProtocolMessage.entries, List.mem_append, mem_stateEntries,
    mem_tailEntries, List.mem_flatMap, accountEntries, List.mem_cons, List.mem_map, Prod.exists,
    Std.ExtTreeMap.mem_toList_iff_getElem?_eq_some]
  cases e <;> simp [BroadcasterProtocolMessage.Holds, eq_comm]

/-- States are carried by one fragment only. -/
theorem exclusive_of_mem_stateEntries {e : SnapshotEntry} (h : e ∈ message.stateEntries) :
    e.exclusive = true := by
  obtain ⟨k, v, -, rfl⟩ := mem_stateEntries.mp h
  rfl

theorem exclusive_of_mem_tailEntries {e : SnapshotEntry} (h : e ∈ message.tailEntries) :
    e.exclusive = true := by
  obtain ⟨entry, -, rfl⟩ | ⟨k, v, -, rfl⟩ := mem_tailEntries.mp h
  · rfl
  · rfl

/-- States first, accounts next, the tail last: the exclusive entries of such a list are those of
the states and of the tail. -/
theorem nodup_filter_exclusive {shared : List SnapshotEntry}
    (hshared : ∀ e ∈ shared, e.exclusive = false) :
    ((message.stateEntries ++ shared ++ message.tailEntries).filter (·.exclusive)).Nodup := by
  have hstates : message.stateEntries.filter (·.exclusive) = message.stateEntries :=
    List.filter_eq_self.mpr fun e => exclusive_of_mem_stateEntries
  have htail : message.tailEntries.filter (·.exclusive) = message.tailEntries :=
    List.filter_eq_self.mpr fun e => exclusive_of_mem_tailEntries
  have hnone : shared.filter (·.exclusive) = [] :=
    List.filter_eq_nil_iff.mpr fun e he => by simp [hshared e he]
  rw [List.filter_append, List.filter_append, hstates, htail, hnone, List.append_nil]
  exact nodup_stateEntries_tailEntries message

/-- **The fragments of a message carry all of it.** -/
theorem splitProtocolMessage_cuts {fragments : List BroadcasterProtocolMessage}
    (h : splitProtocolMessageForSnapshot serialisedLen ctx message syncStatuses = .ok fragments) :
    Cuts message fragments := by
  unfold splitProtocolMessageForSnapshot at h
  obtain ⟨whole, -, h⟩ := bind_eq_ok.mp h
  cases whole with
  | true =>
    simp only [if_true, check_bind_eq_ok, pure_eq_ok] at h
    obtain ⟨-, rfl⟩ := h
    have hself : Carries message message message.entries :=
      ⟨rfl, rfl, rfl, id, fun e he => mem_entries.mp he, fun e => mem_entries.symm⟩
    refine ⟨[message.entries], .cons hself .nil, fun e he => by simpa using mem_entries.mpr he, ?_⟩
    rw [List.flatten_singleton]
    refine nodup_filter_exclusive fun e he => ?_
    obtain ⟨a, -, he⟩ := List.mem_flatMap.mp he
    rcases List.mem_cons.mp he with rfl | he
    · rfl
    · obtain ⟨p, -, rfl⟩ := List.mem_map.mp he
      rfl
  | false =>
    simp only [Bool.false_eq_true, if_false, bind_eq_ok, pure_eq_ok] at h
    obtain ⟨snapshots, hsnapshots, tail, htail, _, -, rfl⟩ := h
    obtain ⟨before, ⟨stateSegs, hstates, hstatesFlat⟩, cut, vmSegs, rfl, hvm, hshared, hall⟩ :=
      splitSnapshots_cut hsnapshots
    obtain ⟨tailSegs, htails, htailFlat⟩ := splitProtocolTail_closed htail
    refine ⟨stateSegs ++ vmSegs ++ tailSegs,
      List.rel_append (List.rel_append hstates hvm) htails, fun e he => ?_, ?_⟩
    · rw [List.flatten_append, List.flatten_append, hstatesFlat, htailFlat]
      rw [← mem_entries, BroadcasterProtocolMessage.entries, List.mem_append, List.mem_append] at he
      rcases he with (he | he) | he
      · exact List.mem_append_left _ (List.mem_append_left _ he)
      · obtain ⟨a, ha, he⟩ := List.mem_flatMap.mp he
        exact List.mem_append_left _ (List.mem_append_right _ (hall a ha e he))
      · exact List.mem_append_right _ he
    · rw [List.flatten_append, List.flatten_append, hstatesFlat, htailFlat]
      exact nodup_filter_exclusive hshared

/-! ## Blank messages

A message without entries is cut into no fragments at all, and its header is lost with it. -/

/-- Block changes without a binding in any map. -/
def BlockChanges.isBlank (deltas : BlockChanges) : Bool :=
  deltas.newTokens.isEmpty && deltas.stateUpdates.isEmpty && deltas.accountUpdates.isEmpty &&
  deltas.componentBalances.isEmpty && deltas.accountBalances.isEmpty &&
  deltas.componentTvl.isEmpty && deltas.newProtocolComponents.isEmpty &&
  deltas.deletedProtocolComponents.isEmpty && deltas.dciUpdate.newEntrypoints.isEmpty &&
  deltas.dciUpdate.newEntrypointParams.isEmpty && deltas.dciUpdate.traceResults.isEmpty

/-- A message that has a header and nothing else. -/
def BroadcasterProtocolMessage.isBlank (message : BroadcasterProtocolMessage) : Bool :=
  message.message.snapshots.states.isEmpty && message.message.snapshots.vmStorage.isEmpty &&
  message.message.deltas.all (·.isBlank) && message.message.removedComponents.isEmpty

theorem isBlank_deltas_of_forall {deltas : BlockChanges} (h : ∀ e, ¬deltas.Holds e) :
    deltas.isBlank = true := by
  have hempty : ∀ {κ υ : Type} [Ord κ] [Std.TransOrd κ] [Std.LawfulEqOrd κ] (m : FinMap κ υ)
      (mk : κ → υ → DeltaEntry), (∀ k v, m[k]? = some v → deltas.Holds (mk k v)) →
      m.isEmpty = true := by
    intro κ υ _ _ _ m mk hm
    rw [Std.ExtTreeMap.isEmpty_iff]
    refine Std.ExtTreeMap.ext_getElem? fun k => ?_
    rcases hk : m[k]? with _ | v
    · simp
    · exact absurd (hm k v hk) (h _)
  simp only [BlockChanges.isBlank, Bool.and_eq_true]
  exact ⟨⟨⟨⟨⟨⟨⟨⟨⟨⟨hempty _ .newToken fun _ _ => id, hempty _ .stateUpdate fun _ _ => id⟩,
    hempty _ .accountUpdate fun _ _ => id⟩, hempty _ .componentBalances fun _ _ => id⟩,
    hempty _ .accountBalances fun _ _ => id⟩, hempty _ .componentTvl fun _ _ => id⟩,
    hempty _ .newProtocolComponent fun _ _ => id⟩,
    hempty _ .deletedProtocolComponent fun _ _ => id⟩, hempty _ .newEntrypoints fun _ _ => id⟩,
    hempty _ .newEntrypointParams fun _ _ => id⟩, hempty _ .traceResult fun _ _ => id⟩

/-- A message that holds no entry is blank. -/
theorem isBlank_of_forall (h : ∀ e, ¬message.Holds e) : message.isBlank = true := by
  have hstates : message.message.snapshots.states = ∅ := by
    refine Std.ExtTreeMap.ext_getElem? fun k => ?_
    rcases hk : message.message.snapshots.states[k]? with _ | v
    · simp
    · exact absurd hk (h (.state k v))
  have hvm : message.message.snapshots.vmStorage = ∅ := by
    refine Std.ExtTreeMap.ext_getElem? fun k => ?_
    rcases hk : message.message.snapshots.vmStorage[k]? with _ | account
    · simp
    · exact absurd ⟨account, hk, rfl⟩ (h (.account k _))
  have hremoved : message.message.removedComponents = ∅ := by
    refine Std.ExtTreeMap.ext_getElem? fun k => ?_
    rcases hk : message.message.removedComponents[k]? with _ | v
    · simp
    · exact absurd hk (h (.removed k v))
  have hdeltas : message.message.deltas.all (·.isBlank) = true := by
    rcases hd : message.message.deltas with _ | deltas
    · rfl
    · exact isBlank_deltas_of_forall fun e he => h (.delta e) ⟨deltas, hd, he⟩
  simp [BroadcasterProtocolMessage.isBlank, hstates, hvm, hdeltas, hremoved]

/-- An empty map leaves the tail builder alone. -/
theorem appendDeltaEntries_of_isEmpty {κ υ : Type} [Ord κ] [Std.TransOrd κ] {debug : κ → String}
    {kind : String} {entries : FinMap κ υ} {insert : BlockChanges → κ → υ → BlockChanges}
    {source : BlockChanges} {builder : ProtocolTailFragmentBuilder}
    (hsource : message.message.deltas = some source) (hempty : entries.isEmpty = true) :
    builder.appendDeltaEntries serialisedLen ctx message syncStatuses debug kind entries insert =
      .ok builder := by
  rw [Std.ExtTreeMap.isEmpty_iff, ← Std.ExtTreeMap.toList_eq_nil_iff] at hempty
  simp [ProtocolTailFragmentBuilder.appendDeltaEntries, hsource, hempty, pure, Except.pure]

theorem splitProtocolTail_of_isBlank {includeSyncStatuses : Bool} (h : message.isBlank = true) :
    splitProtocolTailForSnapshot serialisedLen ctx message syncStatuses includeSyncStatuses =
      .ok [] := by
  simp only [BroadcasterProtocolMessage.isBlank, Bool.and_eq_true] at h
  obtain ⟨⟨-, hdeltas⟩, hremoved⟩ := h
  have hlist := Std.ExtTreeMap.toList_eq_nil_iff.mpr (Std.ExtTreeMap.isEmpty_iff.mp hremoved)
  unfold splitProtocolTailForSnapshot appendSourceDeltas
  rcases hd : message.message.deltas with _ | source
  · simp [hremoved, pure, Except.pure]
  · rw [hd] at hdeltas
    simp only [Option.all_some, BlockChanges.isBlank, Bool.and_eq_true] at hdeltas
    simp [appendDeltas, appendDeltaEntries_of_isEmpty hd, hdeltas, hlist,
      ProtocolTailFragmentBuilder.finish, ProtocolTailFragmentBuilder.new, pure, Except.pure, bind,
      Except.bind]

theorem splitSnapshots_of_isBlank (h : message.isBlank = true) :
    splitSnapshots serialisedLen ctx message syncStatuses = .ok [] := by
  simp only [BroadcasterProtocolMessage.isBlank, Bool.and_eq_true, Std.ExtTreeMap.isEmpty_iff,
    ← Std.ExtTreeMap.toList_eq_nil_iff] at h
  obtain ⟨⟨⟨hstates, hvm⟩, -⟩, -⟩ := h
  rw [splitSnapshots, hstates, hvm]
  rfl

/-- **A message vanishes** exactly when it is blank and does not fit. -/
theorem splitProtocolMessage_eq_nil {fragments : List BroadcasterProtocolMessage}
    (h : splitProtocolMessageForSnapshot serialisedLen ctx message syncStatuses = .ok fragments) :
    fragments = [] ↔ message.isBlank = true ∧
      ctx.messagesFit serialisedLen worstCaseSnapshotChunkIndex [message] syncStatuses =
        .ok false := by
  have hfits : message.isBlank = true → fitsWhole serialisedLen ctx message syncStatuses =
      ctx.messagesFit serialisedLen worstCaseSnapshotChunkIndex [message] syncStatuses := by
    intro hblank
    simp only [BroadcasterProtocolMessage.isBlank, Bool.and_eq_true] at hblank
    rw [fitsWhole, if_pos hblank.1.1.2]
  have hcuts := splitProtocolMessage_cuts h
  unfold splitProtocolMessageForSnapshot at h
  obtain ⟨whole, hwhole, h⟩ := bind_eq_ok.mp h
  constructor
  · rintro rfl
    have hblank : message.isBlank = true := by
      obtain ⟨segments, hcarries, hall, -⟩ := hcuts
      obtain rfl := List.forall₂_nil_left_iff.mp hcarries
      exact isBlank_of_forall fun e he => by simpa using hall e he
    cases whole with
    | true => simp only [if_true, check_bind_eq_ok, pure_eq_ok, reduceCtorEq, and_false] at h
    | false => exact ⟨hblank, hfits hblank ▸ hwhole⟩
  · rintro ⟨hblank, hfit⟩
    rw [hfits hblank, hfit, Except.ok.injEq] at hwhole
    subst hwhole
    simp only [Bool.false_eq_true, if_false, splitSnapshots_of_isBlank hblank,
      splitProtocolTail_of_isBlank hblank, bind_eq_ok, Except.ok.injEq, pure_eq_ok] at h
    obtain ⟨_, rfl, _, rfl, _, -, rfl⟩ := h
    rfl

end

end TychoSimulationServer
