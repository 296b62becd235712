import Mathlib.Data.Finset.Lattice.Lemmas
import TychoSimulationServer.SnapshotFragments

/-!
# Reassembling a snapshot

A consumer that boots from a snapshot pushes the raw messages of all chunks, in order, into a
`RawSnapshotReassembly` and takes the reassembled messages out when the snapshot is complete. The
fragments of one protocol are merged into the first one; a fragment that contradicts what arrived
before is an error.

The merge of two `StateSyncMessage`s belongs to the feed library, so it is a parameter, and
`MergesDisjoint` states what the broadcaster relies on. The main result says when the reassembled
messages are the ones the snapshot was cut from.
-/

namespace TychoSimulationServer

open Fallible MapFold

variable {Sim : Type}

/-! ## The merge of the feed library

How the library merges two messages whose maps have no common key: nothing is lost and nothing is
made up. -/

/-- `StateSyncMessage::merge`: the left message is older, the right one incoming. -/
abbrev StateSyncMerge := StateSyncMessage → StateSyncMessage → StateSyncMessage

/-- No component of one message occurs in the other. -/
structure StateSyncMessage.Apart (left right : StateSyncMessage) : Prop where
  states : KeysApart left.snapshots.states right.snapshots.states
  removed : KeysApart left.removedComponents right.removedComponents
  statesRemoved : KeysApart left.snapshots.states right.removedComponents
  removedStates : KeysApart left.removedComponents right.snapshots.states

/-- No key occurs in a map of both block changes. -/
structure BlockChanges.Apart (left right : BlockChanges) : Prop where
  accountUpdates : KeysApart left.accountUpdates right.accountUpdates
  stateUpdates : KeysApart left.stateUpdates right.stateUpdates
  newProtocolComponents : KeysApart left.newProtocolComponents right.newProtocolComponents
  deletedProtocolComponents :
    KeysApart left.deletedProtocolComponents right.deletedProtocolComponents
  componentBalances : KeysApart left.componentBalances right.componentBalances
  accountBalances : KeysApart left.accountBalances right.accountBalances
  componentTvl : KeysApart left.componentTvl right.componentTvl

/-- What `BlockChanges::merge` makes of block changes without a common key: the entries of both,
except for the new tokens and the indexer's update, which stay the left ones. -/
structure BlockChanges.JoinOf (joined left right : BlockChanges) : Prop where
  newTokens : joined.newTokens = left.newTokens
  accountUpdates : joined.accountUpdates = left.accountUpdates ∪ right.accountUpdates
  stateUpdates : joined.stateUpdates = left.stateUpdates ∪ right.stateUpdates
  newProtocolComponents :
    joined.newProtocolComponents = left.newProtocolComponents ∪ right.newProtocolComponents
  deletedProtocolComponents : joined.deletedProtocolComponents =
    left.deletedProtocolComponents ∪ right.deletedProtocolComponents
  componentBalances : joined.componentBalances = left.componentBalances ∪ right.componentBalances
  accountBalances : joined.accountBalances = left.accountBalances ∪ right.accountBalances
  componentTvl : joined.componentTvl = left.componentTvl ∪ right.componentTvl
  dciUpdate : joined.dciUpdate = left.dciUpdate

/-- **What the broadcaster relies on**: a merge takes the incoming header and keeps the entries of
both sides when their keys are disjoint. -/
structure MergesDisjoint (merge : StateSyncMerge) : Prop where
  header : ∀ left right, (merge left right).header = right.header
  states : ∀ left right : StateSyncMessage, left.Apart right →
    (merge left right).snapshots.states = left.snapshots.states ∪ right.snapshots.states
  removed : ∀ left right : StateSyncMessage, left.Apart right →
    (merge left right).removedComponents = left.removedComponents ∪ right.removedComponents
  deltasLeft : ∀ left right, right.deltas = none → (merge left right).deltas = left.deltas
  deltasRight : ∀ left right, left.deltas = none → (merge left right).deltas = right.deltas
  deltasBoth : ∀ left right (l r : BlockChanges), left.deltas = some l → right.deltas = some r →
    l.Apart r → ∃ joined : BlockChanges, (merge left right).deltas = some joined ∧
      joined.JoinOf l r

/-! ## Checks on fragments

A fragment is refused when it contradicts what has been put together so far. -/

/-- The debug form of a block header. -/
def BlockHeader.debug (header : BlockHeader) : String :=
  "BlockHeader \x7b hash: " ++ header.hash.debug ++ ", number: " ++ toString header.number ++
  ", parent_hash: " ++ header.parentHash.debug ++ ", revert: " ++ toString header.revert ++
  ", timestamp: " ++ toString header.timestamp ++ ", partial_block_index: " ++
  (match header.partialBlockIndex with
    | none => "None"
    | some index => "Some(" ++ toString index ++ ")") ++ " \x7d"

/-- The debug form of a synchronizer state. -/
def SynchronizerState.debug : SynchronizerState → String
  | .started => "Started"
  | .ready header => "Ready(" ++ header.debug ++ ")"
  | .delayed header => "Delayed(" ++ header.debug ++ ")"
  | .stale header => "Stale(" ++ header.debug ++ ")"
  | .advanced header => "Advanced(" ++ header.debug ++ ")"
  | .ended reason => "Ended(" ++ reason.quote ++ ")"

/-- `ensure_raw_snapshot_fragment_identity`. -/
def ensureRawSnapshotFragmentIdentity (existing incoming : BroadcasterProtocolMessage) :
    Except SnapshotError Unit := do
  let protocol := existing.protocol
  let (expected, found) := (existing.message.header.debug, incoming.message.header.debug)
  ensure (existing.message.header = incoming.message.header) (.text
    s!"broadcaster snapshot raw fragment header mismatch for protocol {protocol}: expected {expected}, got {found}")
  let (expected, found) := (existing.syncState.debug, incoming.syncState.debug)
  ensure (existing.syncState = incoming.syncState) (.text
    s!"broadcaster snapshot raw fragment sync_state mismatch for protocol {protocol}: expected {expected}, got {found}")

/-- `ensure_no_duplicate_ids`. -/
def ensureNoDuplicateIds {υ : Type} (protocol : String) (existing incoming : FinMap String υ)
    (kind : String) : Except SnapshotError Unit :=
  forM incoming.keys fun componentId =>
    ensure (existing.contains componentId = false) (.text
      s!"broadcaster snapshot raw fragment duplicate {kind} for protocol {protocol}: {componentId}")

/-- `ensure_no_snapshot_removal_overlap`. -/
def ensureNoSnapshotRemovalOverlap {υ υ' : Type} (protocol : String) (snapshots : FinMap String υ)
    (removals : FinMap String υ') : Except SnapshotError Unit :=
  forM snapshots.keys fun componentId =>
    ensure (removals.contains componentId = false) (.text
      s!"broadcaster snapshot raw fragment snapshot/removal overlap for protocol {protocol}: {componentId}")

/-- `ensure_raw_snapshot_fragment_conflicts`. -/
def ensureRawSnapshotFragmentConflicts (existing incoming : BroadcasterProtocolMessage) :
    Except SnapshotError Unit := do
  ensureNoDuplicateIds existing.protocol existing.message.snapshots.states
    incoming.message.snapshots.states "snapshot state"
  ensureNoDuplicateIds existing.protocol existing.message.removedComponents
    incoming.message.removedComponents "removed component"
  ensureNoSnapshotRemovalOverlap existing.protocol existing.message.snapshots.states
    existing.message.removedComponents
  ensureNoSnapshotRemovalOverlap existing.protocol incoming.message.snapshots.states
    incoming.message.removedComponents
  ensureNoSnapshotRemovalOverlap existing.protocol existing.message.snapshots.states
    incoming.message.removedComponents
  ensureNoSnapshotRemovalOverlap existing.protocol incoming.message.snapshots.states
    existing.message.removedComponents

/-! ## VM accounts

Fragments of one account agree in everything but the slots, which are joined. -/

/-- The first field in which the metadata of two accounts differs. -/
def vmAccountMetadataMismatch (existing incoming : ResponseAccount) : Option String :=
  if existing.chain ≠ incoming.chain then some "chain"
  else if existing.address ≠ incoming.address then some "address"
  else if existing.title ≠ incoming.title then some "title"
  else if existing.nativeBalance ≠ incoming.nativeBalance then some "native_balance"
  else if existing.tokenBalances ≠ incoming.tokenBalances then some "token_balances"
  else if existing.code ≠ incoming.code then some "code"
  else if existing.codeHash ≠ incoming.codeHash then some "code_hash"
  else if existing.balanceModifyTx ≠ incoming.balanceModifyTx then some "balance_modify_tx"
  else if existing.codeModifyTx ≠ incoming.codeModifyTx then some "code_modify_tx"
  else if existing.creationTx ≠ incoming.creationTx then some "creation_tx"
  else none

/-- `ensure_vm_account_metadata_matches`. -/
def ensureVmAccountMetadataMatches (address : Bytes) (existing incoming : ResponseAccount) :
    Except SnapshotError Unit :=
  match vmAccountMetadataMismatch existing incoming with
  | some field =>
    let account := address.display
    .error (.text
      s!"broadcaster snapshot VM storage metadata mismatch for account {account} field {field}")
  | none => .ok ()

/-- A slot that arrives twice has to have the same value. -/
def mergeVmStorageSlot (address slot : Bytes) (existing : Option Bytes) (value : Bytes) :
    Except SnapshotError Bytes :=
  match existing with
  | none => .ok value
  | some held =>
    if held = value then .ok held
    else
      let (account, key) := (address.display, slot.display)
      .error (.text
        s!"broadcaster snapshot VM storage slot mismatch for account {account} slot {key}")

/-- `merge_vm_storage_account`. -/
def mergeVmStorageAccount (address : Bytes) (existing : Option ResponseAccount)
    (incoming : ResponseAccount) : Except SnapshotError ResponseAccount :=
  match existing with
  | none => .ok incoming
  | some held => do
    ensureVmAccountMetadataMatches address held incoming
    let slots ← mergeInto (mergeVmStorageSlot address) incoming.slots held.slots
    return { held with slots }

/-- `merge_vm_storage`. -/
def mergeVmStorage (existing incoming : FinMap Bytes ResponseAccount) :
    Except SnapshotError (FinMap Bytes ResponseAccount) :=
  mergeInto mergeVmStorageAccount incoming existing

/-! ## Messages

The reassembly keeps one message for each protocol, in the order the protocols came. -/

/-- The deltas of a fragment after the new tokens and the indexer's update were taken out. -/
def BlockChanges.withoutBootstrap (deltas : BlockChanges) : BlockChanges :=
  { deltas with newTokens := ∅, dciUpdate := .empty }

/-- `entry(key).or_default().extend(set)`. -/
def extendSet {α : Type} [DecidableEq α] (sets : FinMap String (Finset α))
    (entry : String × Finset α) : FinMap String (Finset α) :=
  sets.insert entry.1 (sets[entry.1]?.getD ∅ ∪ entry.2)

/-- Extend the sets of one map by the sets of another, key by key. -/
def extendSets {α : Type} [DecidableEq α] (existing incoming : FinMap String (Finset α)) :
    FinMap String (Finset α) :=
  incoming.toList.foldl extendSet existing

/-- Put the new tokens and the indexer's update of a fragment back in. -/
def BlockChanges.extendBootstrap (newTokens : FinMap Bytes Carried) (dciUpdate : DciUpdate)
    (deltas : BlockChanges) : BlockChanges :=
  { deltas with
    newTokens := deltas.newTokens ∪ newTokens
    dciUpdate :=
      { newEntrypoints := extendSets deltas.dciUpdate.newEntrypoints dciUpdate.newEntrypoints
        newEntrypointParams :=
          extendSets deltas.dciUpdate.newEntrypointParams dciUpdate.newEntrypointParams
        traceResults := deltas.dciUpdate.traceResults ∪ dciUpdate.traceResults } }

section

variable (merge : StateSyncMerge)

/-- A message whose VM accounts were taken out. -/
def StateSyncMessage.withoutVmStorage (message : StateSyncMessage) : StateSyncMessage :=
  { message with snapshots.vmStorage := ∅ }

/-- The deltas of a message without what `BlockChanges::merge` would lose. -/
def StateSyncMessage.withoutBootstrap (message : StateSyncMessage) : StateSyncMessage :=
  { message with deltas := message.deltas.map (·.withoutBootstrap) }

/-- The part of `merge_snapshot_protocol_message` after the checks and the merge of the accounts. -/
def mergeChecked (existing incoming : StateSyncMessage)
    (mergedVmStorage : FinMap Bytes ResponseAccount) : StateSyncMessage :=
  let incomingNewTokens := (incoming.deltas.map (·.newTokens)).getD ∅
  let incomingDciUpdate := (incoming.deltas.map (·.dciUpdate)).getD .empty
  let merged := merge existing.withoutVmStorage incoming.withoutVmStorage.withoutBootstrap
  { merged with
    snapshots.vmStorage := mergedVmStorage
    deltas := merged.deltas.map (·.extendBootstrap incomingNewTokens incomingDciUpdate) }

/-- `merge_snapshot_protocol_message`. -/
def mergeSnapshotProtocolMessage (existing incoming : BroadcasterProtocolMessage) :
    Except SnapshotError BroadcasterProtocolMessage := do
  let (expected, found) := (existing.protocol, incoming.protocol)
  ensure (existing.protocol = incoming.protocol) (.text
    s!"broadcaster snapshot protocol mismatch: expected {expected}, got {found}")
  ensureRawSnapshotFragmentIdentity existing incoming
  ensureRawSnapshotFragmentConflicts existing incoming
  let mergedVmStorage ← mergeVmStorage existing.message.snapshots.vmStorage
    incoming.message.snapshots.vmStorage
  return { existing with
    message := mergeChecked merge existing.message incoming.message mergedVmStorage }

/-- `RawSnapshotReassembly`: one message per protocol. -/
abbrev RawSnapshotReassembly := FinMap String BroadcasterProtocolMessage

/-- `RawSnapshotReassembly::push`. -/
def RawSnapshotReassembly.push (reassembly : RawSnapshotReassembly)
    (message : BroadcasterProtocolMessage) : Except SnapshotError RawSnapshotReassembly :=
  match reassembly[message.protocol]? with
  | none => return reassembly.insert message.protocol message
  | some existing => do
    let merged ← mergeSnapshotProtocolMessage merge existing message
    return reassembly.insert message.protocol merged

/-- `RawSnapshotReassembly::take_messages`: the messages in protocol order. -/
def RawSnapshotReassembly.takeMessages (reassembly : RawSnapshotReassembly) :
    List BroadcasterProtocolMessage :=
  reassembly.toList.map (·.2)

/-- Push the messages of all chunks in order, then take the reassembled ones. -/
def reassembleChunks (chunks : List (BroadcasterSnapshotChunk Sim)) :
    Except SnapshotError (List BroadcasterProtocolMessage) := do
  let reassembly ← (chunkMessages chunks).foldlM (RawSnapshotReassembly.push merge)
    (∅ : RawSnapshotReassembly)
  return RawSnapshotReassembly.takeMessages reassembly

end

/-! ## Checks that pass

On the fragments of one cut the checks pass, since no exclusive entry is in two of them. -/

/-- Maps without a common key have no duplicate. -/
theorem ensureNoDuplicateIds_eq_ok {υ : Type} {protocol kind : String}
    {existing incoming : FinMap String υ} (h : KeysApart existing incoming) :
    ensureNoDuplicateIds protocol existing incoming kind = .ok () := by
  refine forM_eq_ok.mpr fun componentId hmem => ensure_eq_ok.mpr ?_
  exact h.symm.contains_eq_false (Std.ExtTreeMap.mem_keys.mp hmem)

/-- Nothing is both in a snapshot and removed. -/
theorem ensureNoSnapshotRemovalOverlap_eq_ok {υ υ' : Type} {protocol : String}
    {snapshots : FinMap String υ} {removals : FinMap String υ'} (h : KeysApart snapshots removals) :
    ensureNoSnapshotRemovalOverlap protocol snapshots removals = .ok () := by
  refine forM_eq_ok.mpr fun componentId hmem => ensure_eq_ok.mpr ?_
  exact h.contains_eq_false (Std.ExtTreeMap.mem_keys.mp hmem)

/-- Accounts that agree once their slots are taken away have the same metadata. -/
theorem ensureVmAccountMetadataMatches_eq_ok {address : Bytes} {existing incoming : ResponseAccount}
    (h : responseAccountWithSlots existing ∅ = responseAccountWithSlots incoming ∅) :
    ensureVmAccountMetadataMatches address existing incoming = .ok () := by
  simp only [responseAccountWithSlots, ResponseAccount.mk.injEq] at h
  simp [ensureVmAccountMetadataMatches, vmAccountMetadataMismatch, h]

/-- Two copies of an account that agree on their metadata and on common slots merge into one with
the slots of both. -/
theorem mergeVmStorageAccount_some {address : Bytes} {held incoming : ResponseAccount}
    (hmeta : responseAccountWithSlots held ∅ = responseAccountWithSlots incoming ∅)
    (hslots : ∀ slot v v' : Bytes, held.slots[slot]? = some v → incoming.slots[slot]? = some v' → v = v') :
    mergeVmStorageAccount address (some held) incoming =
      .ok { held with slots := held.slots ∪ incoming.slots } := by
  have hok : ∀ slot v : Bytes, incoming.slots[slot]? = some v →
      mergeVmStorageSlot address slot held.slots[slot]? v = .ok v := by
    intro slot v hv
    rcases hheld : held.slots[slot]? with _ | w
    · rfl
    · rw [mergeVmStorageSlot, if_pos (hslots slot w v hheld hv), hslots slot w v hheld hv]
  obtain ⟨slots, hmerge, hview⟩ := mergeInto_eq_ok hok
  have hunion : slots = held.slots ∪ incoming.slots := by
    refine Std.ExtTreeMap.ext_getElem? fun slot => ?_
    rw [hview, Std.ExtTreeMap.getElem?_union]
    rcases incoming.slots[slot]? with _ | v <;> rfl
  rw [mergeVmStorageAccount, ensureVmAccountMetadataMatches_eq_ok hmeta, hmerge, hunion]
  rfl

/-- **Accounts merge** when every account that is on both sides agrees. -/
theorem mergeVmStorage_eq_ok {existing incoming : FinMap Bytes ResponseAccount}
    (h : ∀ (address : Bytes) (held account : ResponseAccount), existing[address]? = some held →
      incoming[address]? = some account →
      responseAccountWithSlots held ∅ = responseAccountWithSlots account ∅ ∧
      ∀ slot v v' : Bytes, held.slots[slot]? = some v → account.slots[slot]? = some v' → v = v') :
    ∃ merged, mergeVmStorage existing incoming = .ok merged ∧
      ∀ address : Bytes, merged[address]? = match existing[address]?, incoming[address]? with
        | held, none => held
        | none, some account => some account
        | some held, some account =>
          some { held with slots := held.slots ∪ account.slots } := by
  have hok : ∀ (address : Bytes) (account : ResponseAccount), incoming[address]? = some account →
      mergeVmStorageAccount address existing[address]? account =
        .ok (match existing[address]? with
          | none => account
          | some held => { held with slots := held.slots ∪ account.slots }) := by
    intro address account haccount
    rcases hheld : existing[address]? with _ | held
    · rfl
    · obtain ⟨hmeta, hslots⟩ := h address held account hheld haccount
      exact mergeVmStorageAccount_some hmeta hslots
  obtain ⟨merged, hmerge, hview⟩ := mergeInto_eq_ok hok
  refine ⟨merged, hmerge, fun address => ?_⟩
  rw [hview]
  rcases incoming[address]? with _ | account
  · rcases existing[address]? with _ | held <;> rfl
  · rcases existing[address]? with _ | held <;> rfl

theorem getElem?_extendSets {α : Type} [DecidableEq α] (existing incoming : FinMap String (Finset α))
    (k : String) :
    (extendSets existing incoming)[k]? = match incoming[k]? with
      | some v => some (existing[k]?.getD ∅ ∪ v)
      | none => existing[k]? := by
  have other : ∀ (sets : FinMap String (Finset α)) (k : String) (v : Finset α) (k' : String),
      k' ≠ k → (extendSet sets (k, v))[k']? = sets[k']? := by
    intro sets k v k' hne
    rw [extendSet, Std.ExtTreeMap.getElem?_insert, if_neg fun heq =>
      hne (Std.LawfulEqCmp.eq_of_compare heq).symm]
  have own : ∀ (sets : FinMap String (Finset α)) (k : String) (v : Finset α),
      (extendSet sets (k, v))[k]? = some (sets[k]?.getD ∅ ∪ v) := by
    intro sets k v
    rw [extendSet, Std.ExtTreeMap.getElem?_insert, if_pos Std.ReflCmp.compare_self]
  rw [extendSets, foldl_toList_view (fun sets k => sets[k]?) (fun _ v old => some (old.getD ∅ ∪ v))
    other own incoming existing k]
  rcases incoming[k]? with _ | v <;> rfl

/-- Sets without a common key are extended by plain union. -/
theorem getElem?_extendSets_of_apart {α : Type} [DecidableEq α]
    {existing incoming : FinMap String (Finset α)} (h : KeysApart existing incoming) {k : String}
    {v : Finset α} :
    (extendSets existing incoming)[k]? = some v ↔
      existing[k]? = some v ∨ incoming[k]? = some v := by
  rw [getElem?_extendSets]
  rcases hin : incoming[k]? with _ | w
  · simp
  · rcases hex : existing[k]? with _ | w'
    · simp
    · exact absurd hin (h k w' w hex)

/-! ## Deltas that are put together again

The changes of the fragments are changes of one source without a common key, so that the merge is
their union. -/

/-- No key occurs in a map of both block changes, the new tokens and the indexer's maps included. -/
structure BlockChanges.FullyApart (left right : BlockChanges) : Prop
    extends BlockChanges.Apart left right where
  newTokens : KeysApart left.newTokens right.newTokens
  newEntrypoints : KeysApart left.dciUpdate.newEntrypoints right.dciUpdate.newEntrypoints
  newEntrypointParams :
    KeysApart left.dciUpdate.newEntrypointParams right.dciUpdate.newEntrypointParams
  traceResults : KeysApart left.dciUpdate.traceResults right.dciUpdate.traceResults

/-- An empty map has no key in common with another. -/
theorem keysApart_empty_left {κ υ υ' : Type} [Ord κ] [Std.TransOrd κ] (m : FinMap κ υ') :
    KeysApart (∅ : FinMap κ υ) m := by
  intro k v v' h
  simp at h

theorem keysApart_empty_right {κ υ υ' : Type} [Ord κ] [Std.TransOrd κ] (m : FinMap κ υ') :
    KeysApart m (∅ : FinMap κ υ) :=
  (keysApart_empty_left m).symm

/-- Both sides have deltas. -/
theorem holds_join {joined left right : BlockChanges} (hapart : left.FullyApart right)
    (hjoin : joined.JoinOf left right.withoutBootstrap) (e : DeltaEntry) :
    (joined.extendBootstrap right.newTokens right.dciUpdate).Holds e ↔
      left.Holds e ∨ right.Holds e := by
  cases e <;>
    simp only [BlockChanges.Holds, BlockChanges.extendBootstrap, BlockChanges.withoutBootstrap,
      hjoin.newTokens, hjoin.accountUpdates, hjoin.stateUpdates, hjoin.newProtocolComponents,
      hjoin.deletedProtocolComponents, hjoin.componentBalances, hjoin.accountBalances,
      hjoin.componentTvl, hjoin.dciUpdate, hapart.newTokens.getElem?_union,
      hapart.accountUpdates.getElem?_union, hapart.stateUpdates.getElem?_union,
      hapart.newProtocolComponents.getElem?_union,
      hapart.deletedProtocolComponents.getElem?_union, hapart.componentBalances.getElem?_union,
      hapart.accountBalances.getElem?_union, hapart.componentTvl.getElem?_union,
      hapart.traceResults.getElem?_union, getElem?_extendSets_of_apart hapart.newEntrypoints,
      getElem?_extendSets_of_apart hapart.newEntrypointParams]

/-- Only the incoming side has deltas. -/
theorem holds_withoutBootstrap_extend (right : BlockChanges) (e : DeltaEntry) :
    (right.withoutBootstrap.extendBootstrap right.newTokens right.dciUpdate).Holds e ↔
      right.Holds e := by
  cases e <;>
    simp [BlockChanges.Holds, BlockChanges.extendBootstrap, BlockChanges.withoutBootstrap,
      DciUpdate.empty, (keysApart_empty_left _).getElem?_union,
      getElem?_extendSets_of_apart (keysApart_empty_left _)]

/-- Only the existing side has deltas. -/
theorem holds_extendBootstrap_empty (left : BlockChanges) (e : DeltaEntry) :
    (left.extendBootstrap ∅ .empty).Holds e ↔ left.Holds e := by
  cases e <;>
    simp [BlockChanges.Holds, BlockChanges.extendBootstrap, DciUpdate.empty,
      (keysApart_empty_right _).getElem?_union,
      getElem?_extendSets_of_apart (keysApart_empty_right _)]

/-! ## One more fragment

What has been put together so far carries the entries of the fragments so far. -/

section

variable {message existing incoming : BroadcasterProtocolMessage}
  {done segment : List SnapshotEntry}

/-- Entries that may not be repeated have different keys in the two fragments. -/
theorem keysApart_of_exclusive {κ υ : Type} [Ord κ] [Std.TransOrd κ] {m m' : FinMap κ υ}
    (mk : κ → υ → SnapshotEntry) (hexisting : Carries message existing done)
    (hincoming : Carries message incoming segment)
    (hdisjoint : ∀ e ∈ done, e.exclusive = true → e ∉ segment)
    (hexclusive : ∀ k v, (mk k v).exclusive = true)
    (unique : ∀ k v v', message.Holds (mk k v) → message.Holds (mk k v') → v = v')
    (hm : ∀ k v, m[k]? = some v → existing.Holds (mk k v))
    (hm' : ∀ k v, m'[k]? = some v → incoming.Holds (mk k v)) : KeysApart m m' := by
  intro k v v' hv hv'
  have hin := (hexisting.holds _).mp (hm k v hv)
  have hin' := (hincoming.holds _).mp (hm' k v' hv')
  have heq := unique k v v' (hexisting.subset _ hin) (hincoming.subset _ hin')
  subst heq
  exact hdisjoint _ hin (hexclusive k v) hin'

/-- Two fragments have no change in common. -/
theorem keysApart_deltas {κ υ : Type} [Ord κ] [Std.TransOrd κ] (map : BlockChanges → FinMap κ υ)
    (mk : κ → υ → DeltaEntry)
    (own : ∀ deltas k v, deltas.Holds (mk k v) ↔ (map deltas)[k]? = some v)
    (hexisting : Carries message existing done) (hincoming : Carries message incoming segment)
    (hdisjoint : ∀ e ∈ done, e.exclusive = true → e ∉ segment) {left right : BlockChanges}
    (hleft : existing.message.deltas = some left) (hright : incoming.message.deltas = some right) :
    KeysApart (map left) (map right) := by
  refine keysApart_of_exclusive (fun k v => .delta (mk k v)) hexisting hincoming hdisjoint
    (fun _ _ => rfl) ?_ (fun k v h => ⟨left, hleft, (own _ _ _).mpr h⟩)
    (fun k v h => ⟨right, hright, (own _ _ _).mpr h⟩)
  rintro k v v' ⟨source, hsource, h⟩ ⟨source', hsource', h'⟩
  rw [hsource, Option.some.injEq] at hsource'
  subst hsource'
  exact Option.some.inj (((own _ _ _).mp h).symm.trans ((own _ _ _).mp h'))

theorem fullyApart_of_carries (hexisting : Carries message existing done)
    (hincoming : Carries message incoming segment)
    (hdisjoint : ∀ e ∈ done, e.exclusive = true → e ∉ segment) {left right : BlockChanges}
    (hleft : existing.message.deltas = some left) (hright : incoming.message.deltas = some right) :
    left.FullyApart right := by
  have apart := fun {κ υ : Type} [Ord κ] [Std.TransOrd κ] (map : BlockChanges → FinMap κ υ) mk own =>
    keysApart_deltas map mk own hexisting hincoming hdisjoint hleft hright
  exact
    { accountUpdates := apart (·.accountUpdates) .accountUpdate fun _ _ _ => Iff.rfl
      stateUpdates := apart (·.stateUpdates) .stateUpdate fun _ _ _ => Iff.rfl
      newProtocolComponents :=
        apart (·.newProtocolComponents) .newProtocolComponent fun _ _ _ => Iff.rfl
      deletedProtocolComponents :=
        apart (·.deletedProtocolComponents) .deletedProtocolComponent fun _ _ _ => Iff.rfl
      componentBalances := apart (·.componentBalances) .componentBalances fun _ _ _ => Iff.rfl
      accountBalances := apart (·.accountBalances) .accountBalances fun _ _ _ => Iff.rfl
      componentTvl := apart (·.componentTvl) .componentTvl fun _ _ _ => Iff.rfl
      newTokens := apart (·.newTokens) .newToken fun _ _ _ => Iff.rfl
      newEntrypoints := apart (·.dciUpdate.newEntrypoints) .newEntrypoints fun _ _ _ => Iff.rfl
      newEntrypointParams :=
        apart (·.dciUpdate.newEntrypointParams) .newEntrypointParams fun _ _ _ => Iff.rfl
      traceResults := apart (·.dciUpdate.traceResults) .traceResult fun _ _ _ => Iff.rfl }

/-- No component of the message is both in its snapshots and removed by it. -/
def BroadcasterProtocolMessage.SnapshotsKept (message : BroadcasterProtocolMessage) : Prop :=
  KeysApart message.message.snapshots.states message.message.removedComponents

/-- The components of two fragments of a message never meet. -/
theorem apart_of_carries (hkept : message.SnapshotsKept)
    (hexisting : Carries message existing done) (hincoming : Carries message incoming segment)
    (hdisjoint : ∀ e ∈ done, e.exclusive = true → e ∉ segment) :
    existing.message.Apart incoming.message where
  states := keysApart_of_exclusive .state hexisting hincoming hdisjoint (fun _ _ => rfl)
    (fun _ _ _ h h' => Option.some.inj (h.symm.trans h')) (fun _ _ => id) fun _ _ => id
  removed := keysApart_of_exclusive .removed hexisting hincoming hdisjoint (fun _ _ => rfl)
    (fun _ _ _ h h' => Option.some.inj (h.symm.trans h')) (fun _ _ => id) fun _ _ => id
  statesRemoved k v v' hv hv' := hkept k v v'
    (hexisting.subset _ ((hexisting.holds (.state k v)).mp hv))
    (hincoming.subset _ ((hincoming.holds (.removed k v')).mp hv'))
  removedStates k v v' hv hv' := hkept k v' v
    (hincoming.subset _ ((hincoming.holds (.state k v')).mp hv'))
    (hexisting.subset _ ((hexisting.holds (.removed k v)).mp hv))

/-- What is kept in the message is kept in what has been put together. -/
theorem snapshotsKept_of_carries (hkept : message.SnapshotsKept)
    (hexisting : Carries message existing done) : existing.SnapshotsKept :=
  fun k v v' hv hv' => hkept k v v'
    (hexisting.subset _ ((hexisting.holds (.state k v)).mp hv))
    (hexisting.subset _ ((hexisting.holds (.removed k v')).mp hv'))

/-- Fragments of one message have one header. -/
theorem ensureRawSnapshotFragmentIdentity_eq_ok (hexisting : Carries message existing done)
    (hincoming : Carries message incoming segment) :
    ensureRawSnapshotFragmentIdentity existing incoming = .ok () := by
  simp only [ensureRawSnapshotFragmentIdentity, check_bind_eq_ok, ensure_eq_ok]
  exact ⟨hexisting.header.trans hincoming.header.symm,
    hexisting.syncState.trans hincoming.syncState.symm⟩

/-- **Fragments of one cut** do not contradict each other. -/
theorem ensureRawSnapshotFragmentConflicts_eq_ok (hkept : message.SnapshotsKept)
    (hexisting : Carries message existing done) (hincoming : Carries message incoming segment)
    (hdisjoint : ∀ e ∈ done, e.exclusive = true → e ∉ segment) :
    ensureRawSnapshotFragmentConflicts existing incoming = .ok () := by
  have hapart := apart_of_carries hkept hexisting hincoming hdisjoint
  simp only [ensureRawSnapshotFragmentConflicts, check_bind_eq_ok]
  exact ⟨ensureNoDuplicateIds_eq_ok hapart.states, ensureNoDuplicateIds_eq_ok hapart.removed,
    ensureNoSnapshotRemovalOverlap_eq_ok (snapshotsKept_of_carries hkept hexisting),
    ensureNoSnapshotRemovalOverlap_eq_ok (snapshotsKept_of_carries hkept hincoming),
    ensureNoSnapshotRemovalOverlap_eq_ok hapart.statesRemoved,
    ensureNoSnapshotRemovalOverlap_eq_ok hapart.removedStates.symm⟩

/-- Copies of an account in two fragments are parts of the same account. -/
theorem accounts_agree (hexisting : Carries message existing done)
    (hincoming : Carries message incoming segment) (address : Bytes)
    (held account : ResponseAccount)
    (hheld : existing.message.snapshots.vmStorage[address]? = some held)
    (haccount : incoming.message.snapshots.vmStorage[address]? = some account) :
    responseAccountWithSlots held ∅ = responseAccountWithSlots account ∅ ∧
      ∀ slot v v' : Bytes, held.slots[slot]? = some v → account.slots[slot]? = some v' →
        v = v' := by
  have hleft : ∀ e, existing.Holds e → message.Holds e :=
    fun e he => hexisting.subset e ((hexisting.holds e).mp he)
  have hright : ∀ e, incoming.Holds e → message.Holds e :=
    fun e he => hincoming.subset e ((hincoming.holds e).mp he)
  constructor
  · obtain ⟨full, hfull, hmeta⟩ := hleft (.account address _) ⟨held, hheld, rfl⟩
    obtain ⟨full', hfull', hmeta'⟩ := hright (.account address _) ⟨account, haccount, rfl⟩
    rw [hfull, Option.some.injEq] at hfull'
    rw [← hmeta, ← hmeta', hfull']
  · intro slot v v' hv hv'
    obtain ⟨full, hfull, hslot⟩ := hleft (.slot address slot v) ⟨held, hheld, hv⟩
    obtain ⟨full', hfull', hslot'⟩ := hright (.slot address slot v') ⟨account, haccount, hv'⟩
    rw [hfull, Option.some.injEq] at hfull'
    rw [hfull', hslot', Option.some.injEq] at hslot
    exact hslot.symm

/-- The merged accounts have the metadata and the slots of both sides. -/
theorem holds_merged_accounts {existingVm incomingVm merged : FinMap Bytes ResponseAccount}
    (hview : ∀ address : Bytes, merged[address]? = match existingVm[address]?, incomingVm[address]? with
        | held, none => held
        | none, some account => some account
        | some held, some account => some { held with slots := held.slots ∪ account.slots })
    (hagree : ∀ (address : Bytes) (held account : ResponseAccount),
      existingVm[address]? = some held → incomingVm[address]? = some account →
      responseAccountWithSlots held ∅ = responseAccountWithSlots account ∅ ∧
      ∀ slot v v' : Bytes, held.slots[slot]? = some v → account.slots[slot]? = some v' → v = v')
    (address : Bytes) :
    (∀ metadata, (∃ account, merged[address]? = some account ∧
        responseAccountWithSlots account ∅ = metadata) ↔
      (∃ account, existingVm[address]? = some account ∧
        responseAccountWithSlots account ∅ = metadata) ∨
      (∃ account, incomingVm[address]? = some account ∧
        responseAccountWithSlots account ∅ = metadata)) ∧
    ∀ slot value : Bytes, (∃ account, merged[address]? = some account ∧
        account.slots[slot]? = some value) ↔
      (∃ account, existingVm[address]? = some account ∧ account.slots[slot]? = some value) ∨
      (∃ account, incomingVm[address]? = some account ∧ account.slots[slot]? = some value) := by
  rw [hview]
  rcases hheld : existingVm[address]? with _ | held
  · rcases incomingVm[address]? with _ | account <;> simp
  · rcases haccount : incomingVm[address]? with _ | account
    · simp
    · obtain ⟨hmeta, hslots⟩ := hagree address held account hheld haccount
      constructor
      · intro metadata
        simp only [Option.some.injEq, exists_eq_left', ← hmeta, or_self]
        rfl
      · intro slot value
        simp only [Option.some.injEq, exists_eq_left', Std.ExtTreeMap.getElem?_union,
          Option.or_eq_some_iff]
        constructor
        · rintro (h | ⟨-, h⟩)
          · exact .inr h
          · exact .inl h
        · rintro (h | h)
          · rcases haccount' : account.slots[slot]? with _ | value'
            · exact .inr ⟨rfl, h⟩
            · rw [hslots slot value value' h haccount']
              exact .inl rfl
          · exact .inl h

/-- The deltas of the merged message hold what the deltas of both sides held. -/
theorem holds_merged_deltas {merge : StateSyncMerge} (laws : MergesDisjoint merge)
    (hexisting : Carries message existing done) (hincoming : Carries message incoming segment)
    (hdisjoint : ∀ e ∈ done, e.exclusive = true → e ∉ segment)
    (mergedVm : FinMap Bytes ResponseAccount) (e : DeltaEntry) :
    (∃ deltas, (mergeChecked merge existing.message incoming.message mergedVm).deltas =
        some deltas ∧ deltas.Holds e) ↔
      existing.Holds (.delta e) ∨ incoming.Holds (.delta e) := by
  have hleft' : existing.message.withoutVmStorage.deltas = existing.message.deltas := rfl
  have hright' : incoming.message.withoutVmStorage.withoutBootstrap.deltas =
    incoming.message.deltas.map (·.withoutBootstrap) := rfl
  simp only [BroadcasterProtocolMessage.Holds, mergeChecked]
  rcases hright : incoming.message.deltas with _ | right
  · rw [hright, Option.map_none] at hright'
    rw [laws.deltasLeft _ _ hright', hleft']
    rcases existing.message.deltas with _ | left
    · simp
    · simp [holds_extendBootstrap_empty]
  · rw [hright, Option.map_some] at hright'
    rcases hleft : existing.message.deltas with _ | left
    · rw [laws.deltasRight _ _ (hleft'.trans hleft), hright']
      simp [holds_withoutBootstrap_extend]
    · have hapart := fullyApart_of_carries hexisting hincoming hdisjoint hleft hright
      obtain ⟨joined, hjoined, hjoin⟩ := laws.deltasBoth _ _ left right.withoutBootstrap
        (hleft'.trans hleft) hright' { hapart.toApart with }
      rw [hjoined]
      simp [holds_join hapart hjoin]

/-- Merging deltas does not make them up. -/
theorem mergeChecked_deltas_ne_none {merge : StateSyncMerge} (laws : MergesDisjoint merge)
    (hexisting : Carries message existing done) (hincoming : Carries message incoming segment)
    {mergedVm : FinMap Bytes ResponseAccount}
    (h : (mergeChecked merge existing.message incoming.message mergedVm).deltas ≠ none) :
    message.message.deltas ≠ none := by
  by_cases hleft : existing.message.deltas = none
  · refine hincoming.deltas fun hright => h ?_
    have hnone : existing.message.withoutVmStorage.deltas = none := hleft
    have hnone' : incoming.message.withoutVmStorage.withoutBootstrap.deltas = none := by
      simp [StateSyncMessage.withoutBootstrap, StateSyncMessage.withoutVmStorage, hright]
    rw [mergeChecked, laws.deltasRight _ _ hnone, hnone', Option.map_none]
  · exact hexisting.deltas hleft

/-- **One more fragment.** Merging the next fragment of a message succeeds and adds its entries. -/
theorem mergeSnapshotProtocolMessage_carries {merge : StateSyncMerge} (laws : MergesDisjoint merge)
    (hkept : message.SnapshotsKept) (hexisting : Carries message existing done)
    (hincoming : Carries message incoming segment)
    (hdisjoint : ∀ e ∈ done, e.exclusive = true → e ∉ segment) :
    ∃ merged, mergeSnapshotProtocolMessage merge existing incoming = .ok merged ∧
      Carries message merged (done ++ segment) := by
  have hagree := accounts_agree hexisting hincoming
  have hapart := apart_of_carries hkept hexisting hincoming hdisjoint
  -- accounts are merged apart from the rest, since they may have slots on both sides
  have hapart' : existing.message.withoutVmStorage.Apart
      incoming.message.withoutVmStorage.withoutBootstrap :=
    { hapart with }
  obtain ⟨mergedVm, hvm, hview⟩ := mergeVmStorage_eq_ok hagree
  refine ⟨{ existing with
    message := mergeChecked merge existing.message incoming.message mergedVm }, ?_, ?_⟩
  · have hprotocol : existing.protocol = incoming.protocol :=
      hexisting.protocol.trans hincoming.protocol.symm
    rw [mergeSnapshotProtocolMessage, check_bind_eq_ok, check_bind_eq_ok, check_bind_eq_ok,
      bind_eq_ok]
    exact ⟨ensure_eq_ok.mpr hprotocol, ensureRawSnapshotFragmentIdentity_eq_ok hexisting hincoming,
      ensureRawSnapshotFragmentConflicts_eq_ok hkept hexisting hincoming hdisjoint,
      mergedVm, hvm, rfl⟩
  · refine ⟨hexisting.protocol, hexisting.syncState, ?_, ?_, fun e he => ?_, fun e => ?_⟩
    · exact (laws.header _ _).trans hincoming.header
    · exact mergeChecked_deltas_ne_none laws hexisting hincoming
    · rcases List.mem_append.mp he with he | he
      · exact hexisting.subset e he
      · exact hincoming.subset e he
    · rw [List.mem_append, ← hexisting.holds, ← hincoming.holds]
      have haccounts := holds_merged_accounts hview hagree
      cases e with
      | state k v =>
        simp only [BroadcasterProtocolMessage.Holds, mergeChecked]
        rw [laws.states _ _ hapart']
        exact hapart.states.getElem?_union
      | account address metadata => exact (haccounts address).1 metadata
      | slot address slot value => exact (haccounts address).2 slot value
      | delta e => exact holds_merged_deltas laws hexisting hincoming hdisjoint mergedVm e
      | removed k v =>
        simp only [BroadcasterProtocolMessage.Holds, mergeChecked]
        rw [laws.removed _ _ hapart']
        exact hapart.removed.getElem?_union

end

end TychoSimulationServer
