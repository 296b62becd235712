import TychoSimulationServer.RawCompaction

/-!
# The component history of a protocol

A protocol's messages arrive one block after the other. The *plain replay* of their components keeps
a map of component states: each message brings its snapshots, takes the components out that it
removes, and applies its changes to the components that are there. The broadcaster keeps one stored
message instead, and this module compares the two.

They part in two places. A change of a component that has no snapshot waits in the stored message,
and is folded into whatever snapshot arrives next, over values that are newer than it. And a
component that is taken out through `removed_components` leaves its entry points behind.
`FoldsComponents` says that a message meets neither, and `components_replayed` that the stored
message then is the replayed history.
-/

namespace TychoSimulationServer

open Fallible MapFold

/-! ## The plain replay

The replay takes in the snapshots of a message, drops what the message removes, and applies its
changes to the components that are there. -/

/-- One message of the plain replay: its snapshots come in, the components it removes go, and its
changes are applied to the components that are there. -/
def replayComponents (states : FinMap String ComponentWithState) (message : StateSyncMessage) :
    FinMap String ComponentWithState :=
  let states := withoutKeys (states ∪ message.snapshots.states) message.removes
  let states := foldChanges applyProtocolDeltaToSnapshot (message.changes (·.stateUpdates)) states
  let states := foldChanges applyComponentBalances (message.changes (·.componentBalances)) states
  foldChanges (fun component tvl => { component with componentTvl := some tvl })
    (message.changes (·.componentTvl)) states

theorem getElem?_replayComponents (states : FinMap String ComponentWithState)
    (message : StateSyncMessage) (id : String) :
    (replayComponents states message)[id]? =
      if message.removes id then none
      else (message.snapshots.states[id]?.or states[id]?).map (message.applyComponent id) := by
  simp only [replayComponents, getElem?_foldChanges, getElem?_withoutKeys,
    Std.ExtTreeMap.getElem?_union]
  cases message.removes id with
  | true => rfl
  | false =>
    rcases message.snapshots.states[id]?.or states[id]? with _ | component
    · rfl
    · rfl

/-- The component occurs in the messages, and the last one that mentions it removes it. -/
def RemovedLast (messages : List BroadcasterProtocolMessage) (id : String) : Prop :=
  ∃ before message after, messages = before ++ message :: after ∧
    message.message.removes id = true ∧ ∀ later ∈ after, later.message.mentions id = false

/-- The last message removes the component, or it does not mention a component that was removed
before. -/
theorem RemovedLast.of_concat {messages : List BroadcasterProtocolMessage}
    {message : BroadcasterProtocolMessage} {id : String}
    (h : RemovedLast (messages ++ [message]) id) :
    message.message.removes id = true ∨
      (RemovedLast messages id ∧ message.message.mentions id = false) := by
  obtain ⟨before, removing, after, heq, hremoves, hafter⟩ := h
  rcases List.eq_nil_or_concat after with rfl | ⟨init, last, rfl⟩
  · obtain ⟨rfl, hlast⟩ := List.append_inj' heq rfl
    cases hlast
    exact .inl hremoves
  · have hassoc : before ++ removing :: (init ++ [last]) = (before ++ removing :: init) ++ [last] := by
      simp
    rw [List.concat_eq_append] at heq hafter
    rw [hassoc] at heq
    obtain ⟨rfl, hlast⟩ := List.append_inj' heq rfl
    cases hlast
    refine .inr ⟨⟨before, removing, init, rfl, hremoves, fun later hlater => ?_⟩, ?_⟩
    · exact hafter later (List.mem_append_left _ hlater)
    · exact hafter message (List.mem_append_right _ (List.mem_singleton_self _))

/-! ## One message

A stored message holds the components that the replay has, as long as changes find their
component. -/

/-- The stored message holds the replayed components, and what it still waits with belongs to
components it does not hold. -/
structure HoldsComponents (stored : StateSyncMessage)
    (states : FinMap String ComponentWithState) : Prop where
  states : ∀ id : String, stored.snapshots.states[id]? = states[id]?
  waiting : ∀ id : String, stored.snapshots.states.contains id = true →
    stored.changesComponent id = false
  removedComponents : stored.removedComponents = ∅
  deleted : ∀ id : String, (stored.changes (·.deletedProtocolComponents)).contains id = false

/-- A message that is folded without meeting what the stored message waits with: it brings no
snapshot of a component with a waiting change, unless it removes it again, and it takes no component
out that has entry points. -/
structure FoldsComponents (stored : List BroadcasterProtocolMessage)
    (incoming : BroadcasterProtocolMessage) : Prop where
  snapshots : ∀ existing ∈ stored, ∀ id ∈ incoming.message.snapshots.states.keys,
    incoming.message.removes id = false → existing.message.changesComponent id = false
  removed : ∀ id ∈ incoming.message.removedComponents.keys,
    incoming.message.hasEntrypoints id = false ∧
      ∀ existing ∈ stored, existing.message.hasEntrypoints id = false

/-- A compacted message holds what it was compacted to. -/
theorem compact_holdsComponents (message : StateSyncMessage)
    {states : FinMap String ComponentWithState}
    (h : ∀ id, (if message.removes id then none
      else message.snapshots.states[id]?.map (message.applyComponent id)) = states[id]?) :
    HoldsComponents (compactRawStateSyncMessage message) states := by
  refine ⟨fun id => (compact_states message id).trans (h id), fun id hid => ?_,
    compact_removedComponents message, fun id => ?_⟩
  · rw [Std.ExtTreeMap.contains_eq_isSome_getElem?, compact_states] at hid
    rw [compact_changesComponent, Std.ExtTreeMap.contains_eq_isSome_getElem?]
    rcases hremoves : message.removes id with _ | _
    · rw [hremoves, if_neg Bool.false_ne_true, Option.isSome_map] at hid
      rw [hid]
      rfl
    · rfl
  · have hremoves := compact_removes message id
    rw [StateSyncMessage.removes, Bool.or_eq_false_iff] at hremoves
    exact hremoves.2

/-- **One message**: a message that is folded into the stored one is replayed. -/
theorem mergedWith_holdsComponents {merge : StateSyncMerge} (laws : MergesUpdates merge)
    {stored incoming : StateSyncMessage} {states : FinMap String ComponentWithState}
    (hstored : HoldsComponents stored states)
    (hfolds : ∀ id : String, incoming.snapshots.states.contains id = true →
      incoming.removes id = false → stored.changesComponent id = false) :
    HoldsComponents (compactRawStateSyncMessage (stored.mergedWith merge incoming))
      (replayComponents states incoming) := by
  refine compact_holdsComponents _ fun id => ?_
  have hremoves : (stored.mergedWith merge incoming).removes id = incoming.removes id := by
    rw [StateSyncMessage.removes, StateSyncMessage.removes,
      mergedWith_removedComponents laws stored incoming id hstored.removedComponents,
      mergedWith_deletedProtocolComponents laws, hstored.deleted, Bool.false_or]
  rw [getElem?_replayComponents, hremoves, mergedWith_states laws, hstored.states]
  rcases hr : incoming.removes id with _ | _
  · have hremoved : incoming.removedComponents.contains id = false := by
      rw [StateSyncMessage.removes, Bool.or_eq_false_iff] at hr
      exact hr.1
    rw [hremoved, if_neg Bool.false_ne_true, if_neg Bool.false_ne_true]
    rcases hcomponent : incoming.snapshots.states[id]?.or states[id]? with _ | component
    · rfl
    · -- the component is there, so nothing that waited for it is merged into the incoming change
      have hwaiting : stored.changesComponent id = false := by
        rcases Option.or_eq_some_iff.mp hcomponent with hin | ⟨-, hold⟩
        · refine hfolds id ?_ hr
          rw [Std.ExtTreeMap.contains_eq_isSome_getElem?, hin]
          rfl
        · refine hstored.waiting id ?_
          rw [Std.ExtTreeMap.contains_eq_isSome_getElem?, hstored.states, hold]
          rfl
      rw [mergedWith_applyComponent laws stored incoming id hwaiting, if_neg Bool.false_ne_true]
  · rfl

/-- A component the message removes is gone from every map, entry points included if it has
none. -/
theorem compact_mentions_of_removes {message : StateSyncMessage} {id : String}
    (h : message.removes id = true)
    (hentry : message.removedComponents.contains id = true → message.hasEntrypoints id = false) :
    (compactRawStateSyncMessage message).mentions id = false := by
  have hstates : (compactRawStateSyncMessage message).snapshots.states.contains id = false := by
    rw [Std.ExtTreeMap.contains_eq_isSome_getElem?, compact_states, h]
    rfl
  have hentrypoints : (compactRawStateSyncMessage message).hasEntrypoints id = false := by
    rw [compact_hasEntrypoints]
    rcases hremoved : message.removedComponents.contains id with _ | _
    · rw [StateSyncMessage.removes, hremoved, Bool.false_or] at h
      rw [h, Bool.false_or, Bool.not_true, Bool.and_false]
    · rw [hentry hremoved, Bool.false_and]
  rw [StateSyncMessage.mentions, hstates, hentrypoints, compact_removes, compact_changesComponent,
    compact_newProtocolComponents, h]
  rfl

/-- A component the message does not mention does not appear by itself. -/
theorem compact_mentions_of_not {message : StateSyncMessage} {id : String}
    (h : message.mentions id = false) : (compactRawStateSyncMessage message).mentions id = false := by
  simp only [StateSyncMessage.mentions, Bool.or_eq_false_iff] at h
  obtain ⟨⟨⟨⟨hstates, hremoves⟩, hchanges⟩, hnew⟩, hentry⟩ := h
  have hcompact : (compactRawStateSyncMessage message).snapshots.states.contains id = false := by
    rw [Std.ExtTreeMap.contains_eq_isSome_getElem?] at hstates ⊢
    rw [compact_states, hremoves, if_neg Bool.false_ne_true, Option.isSome_map, hstates]
  rw [StateSyncMessage.mentions, hcompact, compact_removes, compact_changesComponent,
    compact_newProtocolComponents, compact_hasEntrypoints, hchanges, hnew, hentry]
  simp

/-- A component that neither message mentions is not mentioned. -/
theorem mergedWith_mentions {merge : StateSyncMerge} (laws : MergesUpdates merge)
    {stored incoming : StateSyncMessage} {id : String} (hremoved : stored.removedComponents = ∅)
    (hstored : stored.mentions id = false) (hincoming : incoming.mentions id = false) :
    (stored.mergedWith merge incoming).mentions id = false := by
  simp only [StateSyncMessage.mentions, StateSyncMessage.removes, Bool.or_eq_false_iff] at *
  obtain ⟨⟨⟨⟨hstates, -, hdeleted⟩, hchanges⟩, hnew⟩, hentry⟩ := hstored
  obtain ⟨⟨⟨⟨hstates', hremoved', hdeleted'⟩, hchanges'⟩, hnew'⟩, hentry'⟩ := hincoming
  rw [mergedWith_removedComponents laws stored incoming id hremoved,
    mergedWith_deletedProtocolComponents laws, mergedWith_changesComponent laws,
    mergedWith_newProtocolComponents laws, mergedWith_hasEntrypoints laws,
    Std.ExtTreeMap.contains_eq_isSome_getElem?, mergedWith_states laws, hremoved']
  rw [Std.ExtTreeMap.contains_eq_isSome_getElem?] at hstates hstates'
  simp [*]

/-! ## All messages of a protocol -/

/-- The stored message of a protocol is the plain replay of its messages: it holds the replayed
components, and a component whose last mention removes it is left in none of its maps. -/
def ComponentsReplayed (merge : StateSyncMerge) (messages : List BroadcasterProtocolMessage) :
    Prop :=
  ∃ stored, messages.foldl (mergeRawMessage merge) [] = [stored] ∧
    stored.message.snapshots.states = (messages.map (·.message)).foldl replayComponents ∅ ∧
    ∀ id, RemovedLast messages id → stored.message.mentions id = false

/-- **All messages**: what holds of the stored message after every run. -/
theorem foldl_mergeRawMessage_components {merge : StateSyncMerge} (laws : MergesUpdates merge)
    {protocol : String} (messages : List BroadcasterProtocolMessage)
    (hprotocol : ∀ message ∈ messages, message.protocol = protocol)
    (hfolds : Meets merge FoldsComponents messages) (hne : messages ≠ []) :
    ∃ stored, messages.foldl (mergeRawMessage merge) [] = [stored] ∧ stored.protocol = protocol ∧
      HoldsComponents stored.message ((messages.map (·.message)).foldl replayComponents ∅) ∧
      ∀ id, RemovedLast messages id → stored.message.mentions id = false := by
  induction messages using List.reverseRecOn with
  | nil => exact absurd rfl hne
  | append_singleton messages message ih =>
    have hmessage : message.protocol = protocol :=
      hprotocol message (List.mem_append_right _ (List.mem_singleton_self _))
    obtain ⟨hbefore, hfold⟩ := hfolds.of_concat
    rw [List.foldl_concat, List.map_append, List.map_singleton, List.foldl_concat]
    rcases eq_or_ne messages [] with rfl | hmessages
    · -- the first message is compacted as it is
      refine ⟨_, mergeRawMessage_nil merge message, hmessage, ?_, fun id hid => ?_⟩
      · refine compact_holdsComponents _ fun id => ?_
        rw [getElem?_replayComponents]
        simp
      · rcases hid.of_concat with hremoves | ⟨hnone, -⟩
        · refine compact_mentions_of_removes hremoves fun hremoved => ?_
          exact (hfold.removed id (Std.ExtTreeMap.mem_keys.mpr hremoved)).1
        · obtain ⟨before, _, after, heq, -⟩ := hnone
          cases before <;> cases heq
    · obtain ⟨stored, hstored, hname, hholds, hgone⟩ := ih
        (fun m hm => hprotocol m (List.mem_append_left _ hm)) hbefore hmessages
      rw [hstored] at hfold
      have hexisting : stored ∈ [stored] := List.mem_singleton_self _
      refine ⟨mergeStored merge stored message, ?_, hname, ?_, fun id hid => ?_⟩
      · rw [hstored, mergeRawMessage_singleton merge (hname.trans hmessage.symm)]
      · rw [mergeStored_message]
        exact mergedWith_holdsComponents laws hholds fun id hid =>
          hfold.snapshots stored hexisting id (Std.ExtTreeMap.mem_keys.mpr hid)
      · rw [mergeStored_message]
        rcases hid.of_concat with hremoves | ⟨hlast, hmentions⟩
        · refine compact_mentions_of_removes ?_ fun hremoved => ?_
          · rw [StateSyncMessage.removes, mergedWith_removedComponents laws _ _ _
              hholds.removedComponents, mergedWith_deletedProtocolComponents laws, hholds.deleted,
              Bool.false_or]
            exact hremoves
          · rw [mergedWith_removedComponents laws _ _ _ hholds.removedComponents] at hremoved
            obtain ⟨hin, hold⟩ := hfold.removed id (Std.ExtTreeMap.mem_keys.mpr hremoved)
            rw [mergedWith_hasEntrypoints laws, hin, hold stored hexisting]
            rfl
        · exact compact_mentions_of_not
            (mergedWith_mentions laws hholds.removedComponents (hgone id hlast) hmentions)

/-- **The component history of a protocol.** As long as no message brings the snapshot of a
component with a waiting change, and none takes a component with entry points out through
`removed_components`, the stored message is the plain replay of all messages so far. -/
theorem components_replayed (merge : StateSyncMerge) (laws : MergesUpdates merge)
    (protocol : String) (messages : List BroadcasterProtocolMessage)
    (hprotocol : ∀ message ∈ messages, message.protocol = protocol) (hne : messages ≠ [])
    (hfolds : Meets merge FoldsComponents messages) : ComponentsReplayed merge messages := by
  obtain ⟨stored, hstored, -, hholds, hgone⟩ :=
    foldl_mergeRawMessage_components laws messages hprotocol hfolds hne
  exact ⟨stored, hstored, Std.ExtTreeMap.ext_getElem? hholds.states, hgone⟩

/-! ## A pool whose fee changes

The fee of a pool changes behind its snapshot. A change that comes before the snapshot waits and is
put on top of it, which the replay does not do. -/

/-- The fee of the pool. -/
def poolFee (states : FinMap String ComponentWithState) : Option Bytes :=
  states["pool"]?.bind (·.state.attributes["fee"]?)

/-- A snapshot of the pool with a fee. -/
def poolSnapshot (fee : Bytes) : Snapshot :=
  { states := (∅ : FinMap String ComponentWithState).insert "pool"
      { state :=
          { componentId := "pool", attributes := (∅ : FinMap String Bytes).insert "fee" fee
            balances := ∅ }
        component := "", componentTvl := none, entrypoints := "" }
    vmStorage := ∅ }

/-- Block changes that set the fee of the pool. -/
def feeChange (fee : Bytes) : BlockChanges :=
  { noChanges with
    stateUpdates := (∅ : FinMap String ProtocolStateDelta).insert "pool"
      { componentId := "pool", updatedAttributes := (∅ : FinMap String Bytes).insert "fee" fee
        deletedAttributes := ∅ } }

/-- Block changes that delete the pool. -/
def poolDeletion : BlockChanges :=
  { noChanges with
    deletedProtocolComponents := (∅ : FinMap String Carried).insert "pool" "" }

/-- The pool appears, its fee changes, and it is deleted. -/
def poolHistory : List BroadcasterProtocolMessage :=
  [messageAt "uniswap_v2" 1 (poolSnapshot [1]) none] ++
    [messageAt "uniswap_v2" 2 ⟨∅, ∅⟩ (some (feeChange [2]))] ++
    [messageAt "uniswap_v2" 3 ⟨∅, ∅⟩ (some poolDeletion)]

/-- The pool's messages meet the condition. -/
theorem components_replayed_pool :
    Meets overlayMerge FoldsComponents poolHistory ∧ ComponentsReplayed overlayMerge poolHistory := by
  have hmeets : Meets overlayMerge FoldsComponents poolHistory :=
    .concat (.concat (.concat (.nil _ _) ⟨by decide, by decide⟩) ⟨by decide, by decide⟩)
      ⟨by decide, by decide⟩
  exact ⟨hmeets, components_replayed overlayMerge mergesUpdates_overlayMerge "uniswap_v2"
    poolHistory (by decide) (by decide) hmeets⟩

/-- A fee change of block 1 waits for the pool, and overrides the fee in the pool's snapshot of
block 2. -/
theorem waiting_change_overrides_snapshot :
    ¬∀ merge, MergesUpdates merge → ∀ (protocol : String)
      (messages : List BroadcasterProtocolMessage),
      (∀ message ∈ messages, message.protocol = protocol) →
      messages.Pairwise (fun a b => a.message.header.number < b.message.header.number) →
      messages ≠ [] → ComponentsReplayed merge messages := by
  intro h
  obtain ⟨stored, hstored, hstates, -⟩ := h overlayMerge mergesUpdates_overlayMerge "uniswap_v2"
    [messageAt "uniswap_v2" 1 ⟨∅, ∅⟩ (some (feeChange [1])),
      messageAt "uniswap_v2" 2 (poolSnapshot [2]) none] (by decide) (by decide) (by decide)
  have hfee := congrArg (fun stored : List BroadcasterProtocolMessage =>
    stored.map (poolFee ·.message.snapshots.states)) hstored
  rw [List.map_singleton, hstates] at hfee
  exact absurd hfee (by decide +kernel)

/-- The pool's entry points of block 1 are still there when block 2 has removed the pool. -/
example :
    let entrypoints := { noChanges with
      dciUpdate.newEntrypoints := (∅ : FinMap String (Finset EntryPoint)).insert "pool" ∅ }
    let removal := messageAt "uniswap_v2" 2 ⟨∅, ∅⟩ none
    let removal := { removal with
      message.removedComponents := (∅ : FinMap String Carried).insert "pool" "" }
    ([messageAt "uniswap_v2" 1 (poolSnapshot [1]) (some entrypoints), removal].foldl
      (mergeRawMessage overlayMerge) []).map (·.message.hasEntrypoints "pool") = [true] := by
  decide +kernel

end TychoSimulationServer
