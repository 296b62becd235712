import TychoSimulationServer.RawPartition

/-!
# Compaction

The broadcaster does not keep the history of a protocol. `merge_raw_message` folds each message of
the protocol into the one stored message as it arrives, and keeps a change only while there is
nothing to fold it into. This module reads the stored message key by key: what it holds of one
component, or of one account, is told by what the old stored message and the incoming one hold of
it, and by nothing else.

The merge of the feed library comes first and the compaction second. What is assumed of the merge is
`MergesUpdates`; `compact_states` and its companions say what the compaction makes of the result.
-/

namespace TychoSimulationServer

open Fallible MapFold

/-! ## Lookups -/

section Lookups

variable {κ υ δ : Type} [Ord κ] [Std.TransOrd κ] [Std.LawfulEqOrd κ]

theorem getElem?_withoutKeys (map : FinMap κ υ) (drop : κ → Bool) (key : κ) :
    (withoutKeys map drop)[key]? = if drop key then none else map[key]? := by
  rw [withoutKeys, Std.ExtTreeMap.getElem?_filter']
  cases drop key <;> cases map[key]? <;> rfl

theorem contains_withoutKeys (map : FinMap κ υ) (drop : κ → Bool) (key : κ) :
    (withoutKeys map drop).contains key = (!drop key && map.contains key) := by
  rw [Std.ExtTreeMap.contains_eq_isSome_getElem?, Std.ExtTreeMap.contains_eq_isSome_getElem?,
    getElem?_withoutKeys]
  cases drop key <;> rfl

/-- A folded change is seen at its own key only. -/
theorem getElem?_foldChanges (apply : υ → δ → υ) (changes : FinMap κ δ) (targets : FinMap κ υ)
    (key : κ) :
    (foldChanges apply changes targets)[key]? =
      targets[key]?.map fun target => changes[key]?.elim target (apply target) := by
  rw [foldChanges, foldl_toList_view (fun targets key => targets[key]?)
    (fun _ change old => old.map (apply · change)) ?other ?own]
  · rcases changes[key]? with _ | change
    · exact Option.map_id'.symm
    · rfl
  case other =>
    intro targets k change k' hne
    rw [Std.ExtTreeMap.getElem?_modify, if_neg fun h =>
      hne (Std.LawfulEqCmp.eq_of_compare h).symm]
  case own =>
    intro targets k change
    rw [Std.ExtTreeMap.getElem?_modify, if_pos Std.ReflCmp.compare_self]

/-- The changes that are left are those without a target. -/
theorem getElem?_residualChanges (changes : FinMap κ δ) (targets : FinMap κ υ) (key : κ) :
    (residualChanges changes targets)[key]? =
      if targets.contains key then none else changes[key]? :=
  getElem?_withoutKeys changes targets.contains key

omit [Std.LawfulEqOrd κ] in
/-- An extended map, key by key. -/
theorem getElem?_union_eq_merge {merged older newer : FinMap κ υ} (h : merged = older ∪ newer) :
    ∃ combine : υ → υ → υ, ∀ key : κ, merged[key]? = Option.merge combine older[key]? newer[key]? := by
  refine ⟨fun _ newer => newer, fun key => ?_⟩
  rw [h, Std.ExtTreeMap.getElem?_union]
  cases older[key]? <;> cases newer[key]? <;> rfl

omit [Std.LawfulEqOrd κ] in
/-- Combined maps have the keys of both. -/
theorem contains_of_merge {merged older newer : FinMap κ υ}
    {combine : υ → υ → υ} {key : κ}
    (h : merged[key]? = Option.merge combine older[key]? newer[key]?) :
    merged.contains key = (older.contains key || newer.contains key) := by
  simp only [Std.ExtTreeMap.contains_eq_isSome_getElem?, h]
  cases older[key]? <;> cases newer[key]? <;> rfl

end Lookups

/-- A map of the deltas of a message; a message without deltas changes nothing. -/
def StateSyncMessage.changes {κ υ : Type} [Ord κ] [Std.TransOrd κ] (message : StateSyncMessage)
    (field : BlockChanges → FinMap κ υ) : FinMap κ υ :=
  (message.deltas.map field).getD ∅

/-! ## The merge of the feed library

How the library merges two messages is stated by its documented effect on each map; an
implementation that overlays map by map has it. -/

/-- `AccountUpdate::merge`: the newer values win, and a creation stays one. -/
def AccountUpdate.overlay (older newer : AccountUpdate) : AccountUpdate :=
  { newer with
    slots := older.slots ∪ newer.slots
    balance := newer.balance <|> older.balance
    code := newer.code <|> older.code
    change := if older.change = .creation then .creation else newer.change }

/-- What `BlockChanges::merge` makes of older and newer changes. How two changes of one component
become one is left open; nothing here depends on it. -/
structure BlockChanges.MergeOf (merged older newer : BlockChanges) : Prop where
  newTokens : merged.newTokens = older.newTokens
  dciUpdate : merged.dciUpdate = older.dciUpdate
  newProtocolComponents :
    merged.newProtocolComponents = older.newProtocolComponents ∪ newer.newProtocolComponents
  deletedProtocolComponents : merged.deletedProtocolComponents =
    older.deletedProtocolComponents ∪ newer.deletedProtocolComponents
  stateUpdates : ∃ combine, ∀ id : String, merged.stateUpdates[id]? =
    Option.merge combine older.stateUpdates[id]? newer.stateUpdates[id]?
  componentBalances : ∃ combine, ∀ id : String, merged.componentBalances[id]? =
    Option.merge combine older.componentBalances[id]? newer.componentBalances[id]?
  componentTvl : merged.componentTvl = older.componentTvl ∪ newer.componentTvl
  accountUpdates : ∀ address : Bytes, merged.accountUpdates[address]? =
    Option.merge AccountUpdate.overlay older.accountUpdates[address]? newer.accountUpdates[address]?
  accountBalances : ∀ address : Bytes, merged.accountBalances[address]? =
    Option.merge (· ∪ ·) older.accountBalances[address]? newer.accountBalances[address]?

/-- **What the cache relies on**: in a merge the incoming header and snapshots win, components that
the incoming message removes or announces are dropped from the older one, and its changes overlay
the older ones. -/
structure MergesUpdates (merge : StateSyncMerge) : Prop where
  header : ∀ older newer, (merge older newer).header = newer.header
  states : ∀ older newer, (merge older newer).snapshots.states =
    withoutKeys older.snapshots.states newer.removedComponents.contains ∪ newer.snapshots.states
  vmStorage : ∀ older newer, (merge older newer).snapshots.vmStorage =
    older.snapshots.vmStorage ∪ newer.snapshots.vmStorage
  removed : ∀ older newer, (merge older newer).removedComponents =
    withoutKeys older.removedComponents newer.snapshots.states.contains ∪ newer.removedComponents
  deltasOlder : ∀ older newer, newer.deltas = none → (merge older newer).deltas = older.deltas
  deltasNewer : ∀ older newer, older.deltas = none → (merge older newer).deltas = newer.deltas
  deltasBoth : ∀ older newer (o n : BlockChanges), older.deltas = some o → newer.deltas = some n →
    ∃ merged : BlockChanges, (merge older newer).deltas = some merged ∧ merged.MergeOf o n

/-- Overlay one map by another, combining the values of common keys. -/
def overlayMap {κ υ : Type} [Ord κ] [Std.TransOrd κ] (combine : υ → υ → υ)
    (older newer : FinMap κ υ) : FinMap κ υ :=
  newer.toList.foldl (fun map entry => map.insert entry.1
    (map[entry.1]?.elim entry.2 (combine · entry.2))) older

/-- An overlay combines what both maps have. -/
theorem getElem?_overlayMap {κ υ : Type} [Ord κ] [Std.TransOrd κ] [Std.LawfulEqOrd κ]
    (combine : υ → υ → υ) (older newer : FinMap κ υ) (key : κ) :
    (overlayMap combine older newer)[key]? = Option.merge combine older[key]? newer[key]? := by
  rw [overlayMap, foldl_toList_view (fun map key => map[key]?)
    (fun _ value old => some (old.elim value (combine · value))) ?other ?own]
  · cases older[key]? <;> cases newer[key]? <;> rfl
  case other =>
    intro map k value k' hne
    rw [Std.ExtTreeMap.getElem?_insert, if_neg fun h =>
      hne (Std.LawfulEqCmp.eq_of_compare h).symm]
  case own =>
    intro map k value
    rw [Std.ExtTreeMap.getElem?_insert, if_pos Std.ReflCmp.compare_self]

/-- `ProtocolStateDelta::merge`: an attribute is set or deleted as the newer delta has it. -/
def ProtocolStateDelta.overlay (older newer : ProtocolStateDelta) : ProtocolStateDelta :=
  { older with
    updatedAttributes :=
      withoutKeys older.updatedAttributes (· ∈ newer.deletedAttributes) ∪ newer.updatedAttributes
    deletedAttributes :=
      older.deletedAttributes.filter (newer.updatedAttributes.contains · = false) ∪
        newer.deletedAttributes }

/-- Changes overlaid by newer ones. -/
def BlockChanges.overlay (older newer : BlockChanges) : BlockChanges :=
  { older with
    accountUpdates := overlayMap AccountUpdate.overlay older.accountUpdates newer.accountUpdates
    stateUpdates := overlayMap ProtocolStateDelta.overlay older.stateUpdates newer.stateUpdates
    newProtocolComponents := older.newProtocolComponents ∪ newer.newProtocolComponents
    deletedProtocolComponents := older.deletedProtocolComponents ∪ newer.deletedProtocolComponents
    componentBalances := overlayMap (· ∪ ·) older.componentBalances newer.componentBalances
    accountBalances := overlayMap (· ∪ ·) older.accountBalances newer.accountBalances
    componentTvl := older.componentTvl ∪ newer.componentTvl
    revert := newer.revert
    block := newer.block }

/-- A merge that does what is assumed of the one of the feed library. -/
def overlayMerge (older newer : StateSyncMessage) : StateSyncMessage :=
  { header := newer.header
    snapshots :=
      { states := withoutKeys older.snapshots.states newer.removedComponents.contains ∪
          newer.snapshots.states
        vmStorage := older.snapshots.vmStorage ∪ newer.snapshots.vmStorage }
    deltas := Option.merge BlockChanges.overlay older.deltas newer.deltas
    removedComponents :=
      withoutKeys older.removedComponents newer.snapshots.states.contains ∪
        newer.removedComponents }

/-- **Overlaying map by map** is a merge as documented. -/
theorem mergesUpdates_overlayMerge : MergesUpdates overlayMerge where
  header _ _ := rfl
  states _ _ := rfl
  vmStorage _ _ := rfl
  removed _ _ := rfl
  deltasOlder older newer h := by simp [overlayMerge, h]
  deltasNewer older newer h := by simp [overlayMerge, h]
  deltasBoth older newer o n ho hn := by
    refine ⟨o.overlay n, by simp [overlayMerge, ho, hn], ?_⟩
    exact
      { newTokens := rfl
        dciUpdate := rfl
        newProtocolComponents := rfl
        deletedProtocolComponents := rfl
        stateUpdates := ⟨_, getElem?_overlayMap _ _ _⟩
        componentBalances := ⟨_, getElem?_overlayMap _ _ _⟩
        componentTvl := rfl
        accountUpdates := getElem?_overlayMap _ _ _
        accountBalances := getElem?_overlayMap _ _ _ }

/-! ## What a message says of a component

Seen from one id: whether the message removes it, changes it, or has a snapshot of it, and what the
changes make of a snapshot. -/

namespace StateSyncMessage

variable (message : StateSyncMessage) (id : String)

/-- The message removes the component, by either of its two lists. -/
def removes : Bool :=
  message.removedComponents.contains id ||
    (message.changes (·.deletedProtocolComponents)).contains id

/-- The message has a change of the component's state, balances or value. -/
def changesComponent : Bool :=
  (message.changes (·.stateUpdates)).contains id ||
    (message.changes (·.componentBalances)).contains id ||
    (message.changes (·.componentTvl)).contains id

/-- The message has entry points of the component. -/
def hasEntrypoints : Bool :=
  (message.changes (·.dciUpdate.newEntrypoints)).contains id

/-- The component occurs in the message. -/
def mentions : Bool :=
  message.snapshots.states.contains id || message.removes id || message.changesComponent id ||
    (message.changes (·.newProtocolComponents)).contains id || message.hasEntrypoints id

/-- The component after the changes of the message. -/
def applyComponent (component : ComponentWithState) : ComponentWithState :=
  let component := (message.changes (·.stateUpdates))[id]?.elim component
    (applyProtocolDeltaToSnapshot component)
  let component := (message.changes (·.componentBalances))[id]?.elim component
    (applyComponentBalances component)
  (message.changes (·.componentTvl))[id]?.elim component
    fun tvl => { component with componentTvl := some tvl }

end StateSyncMessage

/-- Without residue, every map of the block changes is empty. -/
theorem empty_of_no_residue {deltas : BlockChanges}
    (h : blockChangesHasBootstrapResidue deltas = false) :
    deltas.accountUpdates = ∅ ∧ deltas.stateUpdates = ∅ ∧ deltas.newProtocolComponents = ∅ ∧
      deltas.deletedProtocolComponents = ∅ ∧ deltas.componentBalances = ∅ ∧
      deltas.accountBalances = ∅ ∧ deltas.componentTvl = ∅ ∧
      deltas.dciUpdate.newEntrypoints = ∅ := by
  simp only [blockChangesHasBootstrapResidue, Bool.or_eq_false_iff, Bool.not_eq_false',
    Std.ExtTreeMap.isEmpty_iff] at h
  grind

/-! ## What the compaction keeps

Changes of a component with a snapshot are gone from the changes and are in the snapshot. Everything
else stays. -/

section Compact

variable (message : StateSyncMessage) (id : String)

/-- The snapshots of a compacted message: those the changes were folded into. -/
theorem compact_snapshots :
    (compactRawStateSyncMessage message).snapshots =
      message.dropRemoved.deltas.elim message.dropRemoved.snapshots
        fun deltas => (foldBlockChangesIntoSnapshot message.dropRemoved.snapshots deltas).1 := by
  rw [compactRawStateSyncMessage]
  rcases h : message.dropRemoved.deltas with _ | deltas
  · rfl
  · rfl

/-- The changes of a compacted message: what was left after folding. Deltas that are dropped
altogether had nothing left. -/
theorem compact_changes {κ υ : Type} [Ord κ] [Std.TransOrd κ] {field : BlockChanges → FinMap κ υ}
    (hfield : ∀ deltas, blockChangesHasBootstrapResidue deltas = false → field deltas = ∅) :
    (compactRawStateSyncMessage message).changes field =
      message.dropRemoved.changes fun deltas =>
        field (foldBlockChangesIntoSnapshot message.dropRemoved.snapshots deltas).2 := by
  rw [compactRawStateSyncMessage, StateSyncMessage.changes, StateSyncMessage.changes]
  rcases h : message.dropRemoved.deltas with _ | deltas
  · simp only [h, Option.map_none]
  · simp only [Option.map_some, Option.getD_some]
    rcases hres : blockChangesHasBootstrapResidue
        (foldBlockChangesIntoSnapshot message.dropRemoved.snapshots deltas).2 with _ | _
    · rw [if_neg Bool.false_ne_true, hfield _ hres]
      rfl
    · rfl

/-- A stored message removes nothing: what it removed is gone. -/
@[simp] theorem compact_removedComponents :
    (compactRawStateSyncMessage message).removedComponents = ∅ := by
  rw [compactRawStateSyncMessage]
  rcases h : message.dropRemoved.deltas with _ | deltas
  · rfl
  · rfl

@[simp] theorem compact_header :
    (compactRawStateSyncMessage message).header = message.header := by
  rw [compactRawStateSyncMessage]
  rcases h : message.dropRemoved.deltas with _ | deltas
  · rfl
  · rfl

/-- **A compacted component**: gone if the message removes it, and otherwise its snapshot with the
changes of the message. -/
theorem compact_states :
    (compactRawStateSyncMessage message).snapshots.states[id]? =
      if message.removes id then none
      else message.snapshots.states[id]?.map (message.applyComponent id) := by
  rw [compact_snapshots]
  rcases h : message.deltas with _ | deltas
  · have happly : message.applyComponent id = fun component => component := by
      funext component
      simp [StateSyncMessage.applyComponent, StateSyncMessage.changes, h]
    simp only [StateSyncMessage.dropRemoved, h, StateSyncMessage.removes, StateSyncMessage.changes,
      happly, getElem?_withoutKeys, Option.map_none, Option.elim_none, Option.getD_none,
      Std.ExtTreeMap.contains_empty, Bool.or_false, Option.map_id']
  · simp only [StateSyncMessage.dropRemoved, h, StateSyncMessage.removes, StateSyncMessage.changes,
      Option.map_some, Option.elim_some, Option.getD_some, foldBlockChangesIntoSnapshot,
      foldDeletedComponents, foldComponentChanges, foldAccountChanges, getElem?_foldChanges,
      getElem?_withoutKeys, contains_withoutKeys]
    rcases hremoved : message.removedComponents.contains id with _ | _
    · rcases hdeleted : deltas.deletedProtocolComponents.contains id with _ | _
      · rcases message.snapshots.states[id]? with _ | component
        · rfl
        · simp [StateSyncMessage.applyComponent, StateSyncMessage.changes, h]
      · rfl
    · simp

/-- **A residual change** is one of a component that the message neither removes nor knows. -/
theorem compact_changesComponent :
    (compactRawStateSyncMessage message).changesComponent id =
      (!message.removes id && !message.snapshots.states.contains id &&
        message.changesComponent id) := by
  simp only [StateSyncMessage.changesComponent]
  rw [compact_changes message fun deltas h => (empty_of_no_residue h).2.1,
    compact_changes message fun deltas h => (empty_of_no_residue h).2.2.2.2.1,
    compact_changes message fun deltas h => (empty_of_no_residue h).2.2.2.2.2.2.1]
  rcases h : message.deltas with _ | deltas
  · simp [StateSyncMessage.dropRemoved, h, StateSyncMessage.changes]
  · simp only [StateSyncMessage.dropRemoved, h, StateSyncMessage.removes, StateSyncMessage.changes,
      Option.map_some, Option.getD_some, foldBlockChangesIntoSnapshot, foldDeletedComponents,
      foldComponentChanges, foldAccountChanges, retainActiveEntrypoints, residualChanges,
      contains_withoutKeys]
    cases message.removedComponents.contains id <;>
      cases deltas.deletedProtocolComponents.contains id <;>
      cases message.snapshots.states.contains id <;> simp

/-- A new component is kept until there is a snapshot of it. -/
theorem compact_newProtocolComponents :
    ((compactRawStateSyncMessage message).changes (·.newProtocolComponents)).contains id =
      (!message.removes id && !message.snapshots.states.contains id &&
        (message.changes (·.newProtocolComponents)).contains id) := by
  rw [compact_changes message fun deltas h => (empty_of_no_residue h).2.2.1]
  rcases h : message.deltas with _ | deltas
  · simp [StateSyncMessage.dropRemoved, h, StateSyncMessage.changes]
  · simp only [StateSyncMessage.dropRemoved, h, StateSyncMessage.removes, StateSyncMessage.changes,
      Option.map_some, Option.getD_some, foldBlockChangesIntoSnapshot, foldDeletedComponents,
      foldComponentChanges, foldAccountChanges, retainActiveEntrypoints, contains_withoutKeys]
    cases message.removedComponents.contains id <;>
      cases deltas.deletedProtocolComponents.contains id <;>
      cases message.snapshots.states.contains id <;> simp

/-- No component is removed by a stored message. -/
@[simp] theorem compact_removes : (compactRawStateSyncMessage message).removes id = false := by
  rw [StateSyncMessage.removes, compact_removedComponents,
    compact_changes message fun deltas h => (empty_of_no_residue h).2.2.2.1]
  rcases h : message.dropRemoved.deltas with _ | deltas
  · simp [StateSyncMessage.changes, h]
  · simp [StateSyncMessage.changes, h, foldBlockChangesIntoSnapshot, foldDeletedComponents,
      foldComponentChanges, foldAccountChanges, retainActiveEntrypoints]

/-- The entry points of a component go only when it is deleted and not also removed. -/
theorem compact_hasEntrypoints :
    (compactRawStateSyncMessage message).hasEntrypoints id =
      (message.hasEntrypoints id && (message.removedComponents.contains id ||
        !(message.changes (·.deletedProtocolComponents)).contains id)) := by
  rw [StateSyncMessage.hasEntrypoints, StateSyncMessage.hasEntrypoints,
    compact_changes message fun deltas h => (empty_of_no_residue h).2.2.2.2.2.2.2]
  rcases h : message.deltas with _ | deltas
  · simp [StateSyncMessage.dropRemoved, h, StateSyncMessage.changes]
  · simp only [StateSyncMessage.dropRemoved, h, StateSyncMessage.changes,
      Option.map_some, Option.getD_some, foldBlockChangesIntoSnapshot, foldDeletedComponents,
      foldComponentChanges, foldAccountChanges, retainActiveEntrypoints, contains_withoutKeys]
    cases message.removedComponents.contains id <;>
      cases deltas.deletedProtocolComponents.contains id <;> simp

end Compact

/-! ## What the merge hands to the compaction -/

/-- The merge of a stored and an incoming message, as `merge_raw_message` hands it on. -/
def StateSyncMessage.mergedWith (merge : StateSyncMerge) (stored incoming : StateSyncMessage) :
    StateSyncMessage :=
  let merged := merge stored incoming.withoutBootstrap
  { merged with
    deltas := merged.deltas.map fun deltas =>
      let extended := deltas.extendBootstrap ((incoming.deltas.map (·.newTokens)).getD ∅)
        ((incoming.deltas.map (·.dciUpdate)).getD .empty)
      { extended with
        accountUpdates := extended.accountUpdates ∪
          (incoming.deltas.map (accountLifecycle ·.accountUpdates)).getD ∅ } }

/-- A stored message is a merged one, compacted. -/
theorem mergeStored_message (merge : StateSyncMerge) (stored incoming : BroadcasterProtocolMessage) :
    (mergeStored merge stored incoming).message =
      compactRawStateSyncMessage (stored.message.mergedWith merge incoming.message) := rfl

/-- The deltas that a merge can yield, by the deltas it was given. -/
inductive MergedDeltas : Option BlockChanges → Option BlockChanges → Option BlockChanges → Prop
  | neither : MergedDeltas none none none
  | newer (newer : BlockChanges) : MergedDeltas none (some newer) (some newer.withoutBootstrap)
  | older (older : BlockChanges) : MergedDeltas (some older) none (some older)
  | both (older newer merged : BlockChanges) (h : merged.MergeOf older newer.withoutBootstrap) :
      MergedDeltas (some older) (some newer) (some merged)

section Merged

variable {merge : StateSyncMerge} (laws : MergesUpdates merge)
  (stored incoming : StateSyncMessage) (id : String)

include laws

/-- The changes of the merged message are the merged changes. -/
theorem merge_deltas :
    MergedDeltas stored.deltas incoming.deltas (merge stored incoming.withoutBootstrap).deltas := by
  have hnew : incoming.withoutBootstrap.deltas = incoming.deltas.map (·.withoutBootstrap) := rfl
  rcases hold : stored.deltas with _ | older
  · rw [laws.deltasNewer _ _ hold, hnew]
    rcases incoming.deltas with _ | newer
    · exact .neither
    · exact .newer newer
  · rcases h : incoming.deltas with _ | newer
    · rw [laws.deltasOlder _ _ (by rw [hnew, h]; rfl), hold]
      exact .older older
    · obtain ⟨merged, hmerged, hof⟩ := laws.deltasBoth stored incoming.withoutBootstrap older
        newer.withoutBootstrap hold (by rw [hnew, h]; rfl)
      rw [hmerged]
      exact .both older newer merged hof

/-- A snapshot of the incoming message replaces the stored one; a removal drops it. -/
theorem mergedWith_states :
    (stored.mergedWith merge incoming).snapshots.states[id]? =
      incoming.snapshots.states[id]?.or
        (if incoming.removedComponents.contains id then none else stored.snapshots.states[id]?) := by
  rw [StateSyncMessage.mergedWith, laws.states, Std.ExtTreeMap.getElem?_union,
    getElem?_withoutKeys]
  rfl

/-- The removals are those of the incoming message. -/
theorem mergedWith_removedComponents (h : stored.removedComponents = ∅) :
    (stored.mergedWith merge incoming).removedComponents.contains id =
      incoming.removedComponents.contains id := by
  rw [StateSyncMessage.mergedWith, laws.removed, Std.ExtTreeMap.contains_union,
    contains_withoutKeys, h]
  simp [StateSyncMessage.withoutBootstrap]

/-- A map of the merged deltas, for a map that the bootstrap values and the account lifecycle do
not touch: older and newer changes are combined key by key. -/
theorem mergedWith_changes {κ υ : Type} [Ord κ] [Std.TransOrd κ]
    (field : BlockChanges → FinMap κ υ)
    (hkeep : ∀ deltas newTokens dciUpdate lifecycle, field
      { BlockChanges.extendBootstrap newTokens dciUpdate deltas with
        accountUpdates := (BlockChanges.extendBootstrap newTokens dciUpdate deltas).accountUpdates ∪
          lifecycle } = field deltas)
    (htake : ∀ deltas, field (BlockChanges.withoutBootstrap deltas) = field deltas)
    (hmerge : ∀ merged older newer, BlockChanges.MergeOf merged older newer →
      ∃ combine, ∀ key : κ, (field merged)[key]? =
        Option.merge combine (field older)[key]? (field newer)[key]?) :
    ∃ combine, ∀ key : κ, ((stored.mergedWith merge incoming).changes field)[key]? =
      Option.merge combine (stored.changes field)[key]? (incoming.changes field)[key]? := by
  simp only [StateSyncMessage.mergedWith, StateSyncMessage.changes, Option.map_map,
    Function.comp_def, hkeep]
  have hcases := merge_deltas laws stored incoming
  generalize stored.deltas = old, incoming.deltas = new,
    (merge stored incoming.withoutBootstrap).deltas = result at hcases ⊢
  rcases hcases with _ | newer | older | ⟨older, newer, merged, h⟩
  · exact ⟨fun _ newer => newer, fun key => by simp⟩
  · exact ⟨fun _ newer => newer, fun key => by simp [htake]⟩
  · exact ⟨fun older _ => older, fun key => by simp⟩
  · obtain ⟨combine, hcombine⟩ := hmerge _ _ _ h
    exact ⟨combine, fun key => by simp [hcombine, htake]⟩

/-- The state changes of both are combined. -/
theorem mergedWith_stateUpdates : ∃ combine, ∀ id : String,
    ((stored.mergedWith merge incoming).changes (·.stateUpdates))[id]? = Option.merge combine
      (stored.changes (·.stateUpdates))[id]? (incoming.changes (·.stateUpdates))[id]? :=
  mergedWith_changes laws stored incoming (·.stateUpdates) (by intros; rfl) (by intros; rfl)
    fun _ _ _ h => h.stateUpdates

theorem mergedWith_componentBalances : ∃ combine, ∀ id : String,
    ((stored.mergedWith merge incoming).changes (·.componentBalances))[id]? = Option.merge combine
      (stored.changes (·.componentBalances))[id]? (incoming.changes (·.componentBalances))[id]? :=
  mergedWith_changes laws stored incoming (·.componentBalances) (by intros; rfl) (by intros; rfl)
    fun _ _ _ h => h.componentBalances

theorem mergedWith_componentTvl : ∃ combine, ∀ id : String,
    ((stored.mergedWith merge incoming).changes (·.componentTvl))[id]? = Option.merge combine
      (stored.changes (·.componentTvl))[id]? (incoming.changes (·.componentTvl))[id]? :=
  mergedWith_changes laws stored incoming (·.componentTvl) (by intros; rfl)
    (by intros; rfl) fun _ _ _ h => getElem?_union_eq_merge h.componentTvl

/-- A component is deleted when either says so. -/
theorem mergedWith_deletedProtocolComponents :
    ((stored.mergedWith merge incoming).changes (·.deletedProtocolComponents)).contains id =
      ((stored.changes (·.deletedProtocolComponents)).contains id ||
        (incoming.changes (·.deletedProtocolComponents)).contains id) := by
  obtain ⟨combine, h⟩ := mergedWith_changes laws stored incoming (·.deletedProtocolComponents) (by intros; rfl)
    (by intros; rfl) fun _ _ _ h => getElem?_union_eq_merge h.deletedProtocolComponents
  exact contains_of_merge (h id)

/-- A component is new when either says so. -/
theorem mergedWith_newProtocolComponents :
    ((stored.mergedWith merge incoming).changes (·.newProtocolComponents)).contains id =
      ((stored.changes (·.newProtocolComponents)).contains id ||
        (incoming.changes (·.newProtocolComponents)).contains id) := by
  obtain ⟨combine, h⟩ := mergedWith_changes laws stored incoming (·.newProtocolComponents) (by intros; rfl)
    (by intros; rfl) fun _ _ _ h => getElem?_union_eq_merge h.newProtocolComponents
  exact contains_of_merge (h id)

/-- A component is changed when either changes it. -/
theorem mergedWith_changesComponent :
    (stored.mergedWith merge incoming).changesComponent id =
      (stored.changesComponent id || incoming.changesComponent id) := by
  obtain ⟨_, hstates⟩ := mergedWith_stateUpdates laws stored incoming
  obtain ⟨_, hbalances⟩ := mergedWith_componentBalances laws stored incoming
  obtain ⟨_, htvl⟩ := mergedWith_componentTvl laws stored incoming
  simp only [StateSyncMessage.changesComponent, contains_of_merge (hstates id),
    contains_of_merge (hbalances id), contains_of_merge (htvl id)]
  grind

/-- Where the stored message has no change, the merged change is the incoming one. -/
theorem mergedWith_applyComponent (h : stored.changesComponent id = false) :
    (stored.mergedWith merge incoming).applyComponent id = incoming.applyComponent id := by
  obtain ⟨_, hstates⟩ := mergedWith_stateUpdates laws stored incoming
  obtain ⟨_, hbalances⟩ := mergedWith_componentBalances laws stored incoming
  obtain ⟨_, htvl⟩ := mergedWith_componentTvl laws stored incoming
  simp only [StateSyncMessage.changesComponent, Bool.or_eq_false_iff,
    Std.ExtTreeMap.contains_eq_isSome_getElem?, Option.isSome_eq_false_iff,
    Option.isNone_iff_eq_none] at h
  obtain ⟨⟨hs, hb⟩, ht⟩ := h
  funext component
  simp only [StateSyncMessage.applyComponent, hstates, hbalances, htvl, hs, hb, ht,
    Option.merge_none_left]

/-- Entry points are only ever added by a merge. -/
theorem mergedWith_hasEntrypoints :
    (stored.mergedWith merge incoming).hasEntrypoints id =
      (stored.hasEntrypoints id || incoming.hasEntrypoints id) := by
  have hextend : ∀ existing new : FinMap String (Finset EntryPoint),
      (extendSets existing new).contains id = (existing.contains id || new.contains id) := by
    intro existing new
    simp only [Std.ExtTreeMap.contains_eq_isSome_getElem?, getElem?_extendSets]
    cases existing[id]? <;> cases new[id]? <;> rfl
  simp only [StateSyncMessage.hasEntrypoints, StateSyncMessage.mergedWith,
    StateSyncMessage.changes, Option.map_map, Function.comp_def, BlockChanges.extendBootstrap]
  have hcases := merge_deltas laws stored incoming
  generalize stored.deltas = old, incoming.deltas = new,
    (merge stored incoming.withoutBootstrap).deltas = result at hcases ⊢
  rcases hcases with _ | newer | older | ⟨older, newer, merged, h⟩
  · rfl
  · simp [BlockChanges.withoutBootstrap, DciUpdate.empty, hextend]
  · simp [DciUpdate.empty, hextend]
  · simp only [Option.map_some, Option.getD_some, h.dciUpdate, hextend]

end Merged

/-! ## Messages of one protocol

The list of stored messages has one message for a protocol, so a run of one protocol's messages is a
fold over a single message. -/

/-- The header of a block. -/
def headerAt (number : UInt64) : BlockHeader :=
  { hash := [number.toUInt8], number, parentHash := [number.toUInt8 - 1], revert := false
    timestamp := number, partialBlockIndex := none }

/-- Block changes that change nothing. -/
def noChanges : BlockChanges :=
  { extractor := "uniswap_v2", chain := "ethereum", block := "", finalizedBlockHeight := 0
    revert := false, newTokens := ∅, accountUpdates := ∅, stateUpdates := ∅
    newProtocolComponents := ∅, deletedProtocolComponents := ∅, componentBalances := ∅
    accountBalances := ∅, componentTvl := ∅, dciUpdate := .empty, partialBlockIndex := none }

/-- A message of a block. -/
def messageAt (protocol : String) (number : UInt64) (snapshots : Snapshot)
    (deltas : Option BlockChanges) : BroadcasterProtocolMessage :=
  { protocol
    syncState := .ready (headerAt number)
    message := { header := headerAt number, snapshots, deltas, removedComponents := ∅ } }

/-- The messages of one protocol are kept as one. -/
theorem mergeRawMessage_singleton (merge : StateSyncMerge)
    {existing incoming : BroadcasterProtocolMessage} (h : existing.protocol = incoming.protocol) :
    mergeRawMessage merge [existing] incoming = [mergeStored merge existing incoming] := by
  simp [mergeRawMessage, h, sortByProtocol]

/-- The first message of a protocol is compacted by itself. -/
theorem mergeRawMessage_nil (merge : StateSyncMerge) (incoming : BroadcasterProtocolMessage) :
    mergeRawMessage merge [] incoming =
      [{ incoming with message := compactRawStateSyncMessage incoming.message }] := by
  simp [mergeRawMessage, sortByProtocol]

/-- Every message meets a condition in the stored state it finds. -/
def Meets (merge : StateSyncMerge)
    (condition : List BroadcasterProtocolMessage → BroadcasterProtocolMessage → Prop)
    (messages : List BroadcasterProtocolMessage) : Prop :=
  ∀ before message after, messages = before ++ message :: after →
    condition (before.foldl (mergeRawMessage merge) []) message

/-- A run that meets the condition does so up to each of its messages. -/
theorem Meets.of_concat {merge : StateSyncMerge}
    {condition : List BroadcasterProtocolMessage → BroadcasterProtocolMessage → Prop}
    {messages : List BroadcasterProtocolMessage} {message : BroadcasterProtocolMessage}
    (h : Meets merge condition (messages ++ [message])) :
    Meets merge condition messages ∧
      condition (messages.foldl (mergeRawMessage merge) []) message := by
  refine ⟨fun before earlier after heq => ?_, h messages message [] rfl⟩
  refine h before earlier (after ++ [message]) ?_
  rw [heq, List.append_assoc]
  rfl

/-- There is no condition on the empty run. -/
theorem Meets.nil (merge : StateSyncMerge)
    (condition : List BroadcasterProtocolMessage → BroadcasterProtocolMessage → Prop) :
    Meets merge condition [] := by
  intro before message after h
  cases before <;> cases h

/-- A run is extended by a message that meets the condition behind it. -/
theorem Meets.concat {merge : StateSyncMerge}
    {condition : List BroadcasterProtocolMessage → BroadcasterProtocolMessage → Prop}
    {messages : List BroadcasterProtocolMessage} {message : BroadcasterProtocolMessage}
    (h : Meets merge condition messages)
    (hlast : condition (messages.foldl (mergeRawMessage merge) []) message) :
    Meets merge condition (messages ++ [message]) := by
  intro before earlier after heq
  rcases List.eq_nil_or_concat after with rfl | ⟨init, last, rfl⟩
  · obtain ⟨rfl, hmessage⟩ := List.append_inj' heq rfl
    cases hmessage
    exact hlast
  · rw [List.concat_eq_append, ← List.cons_append, ← List.append_assoc] at heq
    obtain ⟨rfl, -⟩ := List.append_inj' heq rfl
    exact h before earlier init rfl

end TychoSimulationServer
