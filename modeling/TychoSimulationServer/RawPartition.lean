import TychoSimulationServer.SnapshotReassembly

/-!
# Raw partitions

The cache of the broadcaster keeps, for every backend that is fed raw messages, one message per
protocol: its snapshots hold the current state of all components and VM accounts, and its deltas
hold only what could not be folded into a snapshot yet. This module is the code that folds an
incoming message into that state.

A VM account may be held by several protocols, and all holders are meant to hold the same copy.
Every incoming message is therefore *propagated*: the copies held by messages of its block are
merged, and the result is written to every holder. Before any of this happens an update is
*validated* by projecting the accounts it touches and merging the projections.

`StateSyncMessage::merge` of the feed library is a parameter, as in the reassembly of snapshots.
-/

namespace TychoSimulationServer

open Fallible

variable {Sim : Type}

/-! ## Folding changes into snapshots

A stored message is a snapshot with changes that have no snapshot to go into. When changes and
snapshot meet, the changes are folded in and dropped. -/

/-- `map.retain(|key, _| !drop(key))`. -/
def withoutKeys {κ υ : Type} [Ord κ] [Std.TransOrd κ] (map : FinMap κ υ) (drop : κ → Bool) :
    FinMap κ υ :=
  map.filter fun key _ => !drop key

/-- Apply each change to the target of the same key; a change without a target does nothing. -/
def foldChanges {κ υ δ : Type} [Ord κ] [Std.TransOrd κ] (apply : υ → δ → υ)
    (changes : FinMap κ δ) (targets : FinMap κ υ) : FinMap κ υ :=
  changes.toList.foldl (fun targets change => targets.modify change.1 (apply · change.2)) targets

/-- The changes that have no target. -/
def residualChanges {κ υ δ : Type} [Ord κ] [Std.TransOrd κ] (changes : FinMap κ δ)
    (targets : FinMap κ υ) : FinMap κ δ :=
  withoutKeys changes targets.contains

/-- `apply_protocol_delta_to_snapshot`. -/
def applyProtocolDeltaToSnapshot (component : ComponentWithState) (delta : ProtocolStateDelta) :
    ComponentWithState :=
  { component with
    state.attributes :=
      withoutKeys component.state.attributes (· ∈ delta.deletedAttributes) ∪
        delta.updatedAttributes }

/-- The component balances of a block replace those of the snapshot. -/
def applyComponentBalances (component : ComponentWithState)
    (balances : FinMap Bytes ComponentBalance) : ComponentWithState :=
  { component with
    state.balances := component.state.balances ∪ balances.map fun _ balance => balance.balance }

/-- `fold_account_update_into_snapshot`. -/
def foldAccountUpdateIntoSnapshot (account : ResponseAccount) (update : AccountUpdate) :
    ResponseAccount :=
  { account with
    slots := account.slots ∪ update.slots
    nativeBalance := update.balance.getD account.nativeBalance
    code := update.code.getD account.code }

/-- The account balances of a block replace those of the snapshot. -/
def applyAccountBalances (account : ResponseAccount) (balances : FinMap Bytes AccountBalance) :
    ResponseAccount :=
  { account with
    tokenBalances := account.tokenBalances ∪ balances.map fun _ balance => balance.balance }

/-- The addresses an update of the given kind names. -/
def changedBy (updates : FinMap Bytes AccountUpdate) (change : ChangeType) (address : Bytes) :
    Bool :=
  updates[address]?.any (·.change = change)

/-- The components a message deletes are taken out of its snapshots and deltas. -/
def foldDeletedComponents (snapshots : Snapshot) (deltas : BlockChanges) :
    Snapshot × BlockChanges :=
  let deleted := deltas.deletedProtocolComponents.contains
  let snapshots := { snapshots with states := withoutKeys snapshots.states deleted }
  let newProtocolComponents := withoutKeys deltas.newProtocolComponents deleted
  (snapshots,
    { deltas with
      newTokens := ∅
      stateUpdates := withoutKeys deltas.stateUpdates deleted
      componentBalances := withoutKeys deltas.componentBalances deleted
      componentTvl := withoutKeys deltas.componentTvl deleted
      newProtocolComponents := withoutKeys newProtocolComponents snapshots.states.contains
      dciUpdate.newEntrypoints := withoutKeys deltas.dciUpdate.newEntrypoints deleted
      deletedProtocolComponents := ∅ })

/-- Component states, balances and values are folded where there is a snapshot. -/
def foldComponentChanges (snapshots : Snapshot) (deltas : BlockChanges) :
    Snapshot × BlockChanges :=
  let states := snapshots.states
  let folded := foldChanges applyProtocolDeltaToSnapshot deltas.stateUpdates states
  let folded := foldChanges applyComponentBalances deltas.componentBalances folded
  let folded := foldChanges (fun component tvl => { component with componentTvl := some tvl })
    deltas.componentTvl folded
  ({ snapshots with states := folded },
    { deltas with
      stateUpdates := residualChanges deltas.stateUpdates states
      componentBalances := residualChanges deltas.componentBalances states
      componentTvl := residualChanges deltas.componentTvl states })

/-- Account changes: a deletion takes the account out, a creation takes it out and waits for the
next bootstrap, anything else is folded where there is a snapshot. -/
def foldAccountChanges (snapshots : Snapshot) (deltas : BlockChanges) :
    Snapshot × BlockChanges :=
  let deleted := changedBy deltas.accountUpdates .deletion
  let created := changedBy deltas.accountUpdates .creation
  let vmStorage := withoutKeys snapshots.vmStorage fun address => deleted address || created address
  let accountBalances := withoutKeys deltas.accountBalances deleted
  let accountUpdates := withoutKeys deltas.accountUpdates deleted
  let folded := foldChanges foldAccountUpdateIntoSnapshot accountUpdates vmStorage
  ({ snapshots with vmStorage := foldChanges applyAccountBalances accountBalances folded },
    { deltas with
      accountUpdates := residualChanges accountUpdates vmStorage
      accountBalances := residualChanges accountBalances vmStorage })

/-- Parameters and traces of entry points that no component uses any more are dropped. -/
def retainActiveEntrypoints (deltas : BlockChanges) : BlockChanges :=
  let active (entrypointId : String) : Bool :=
    deltas.dciUpdate.newEntrypoints.toList.any fun (_, entrypoints) =>
      decide (∃ entrypoint ∈ entrypoints, entrypoint.externalId = entrypointId)
  { deltas with
    dciUpdate.newEntrypointParams := withoutKeys deltas.dciUpdate.newEntrypointParams (!active ·)
    dciUpdate.traceResults := withoutKeys deltas.dciUpdate.traceResults (!active ·) }

/-- `fold_block_changes_into_snapshot`. -/
def foldBlockChangesIntoSnapshot (snapshots : Snapshot) (deltas : BlockChanges) :
    Snapshot × BlockChanges :=
  let (snapshots, deltas) := foldDeletedComponents snapshots deltas
  let (snapshots, deltas) := foldComponentChanges snapshots deltas
  let (snapshots, deltas) := foldAccountChanges snapshots deltas
  (snapshots, retainActiveEntrypoints deltas)

/-- `block_changes_has_bootstrap_residue`. -/
def blockChangesHasBootstrapResidue (deltas : BlockChanges) : Bool :=
  !deltas.newTokens.isEmpty || !deltas.accountUpdates.isEmpty || !deltas.stateUpdates.isEmpty
    || !deltas.newProtocolComponents.isEmpty || !deltas.deletedProtocolComponents.isEmpty
    || !deltas.componentBalances.isEmpty || !deltas.accountBalances.isEmpty
    || !deltas.componentTvl.isEmpty || !deltas.dciUpdate.newEntrypoints.isEmpty
    || !deltas.dciUpdate.newEntrypointParams.isEmpty || !deltas.dciUpdate.traceResults.isEmpty

/-- Removed components are taken out of a message before its changes are folded. -/
def StateSyncMessage.dropRemoved (message : StateSyncMessage) : StateSyncMessage :=
  let removed := message.removedComponents.contains
  { message with
    removedComponents := ∅
    snapshots.states := withoutKeys message.snapshots.states removed
    deltas := message.deltas.map fun deltas =>
      { deltas with
        stateUpdates := withoutKeys deltas.stateUpdates removed
        componentBalances := withoutKeys deltas.componentBalances removed
        componentTvl := withoutKeys deltas.componentTvl removed
        newProtocolComponents := withoutKeys deltas.newProtocolComponents removed
        deletedProtocolComponents := withoutKeys deltas.deletedProtocolComponents removed } }

/-- `compact_raw_state_sync_message`. -/
def compactRawStateSyncMessage (message : StateSyncMessage) : StateSyncMessage :=
  let message := message.dropRemoved
  match message.deltas with
  | none => message
  | some deltas =>
    let (snapshots, deltas) := foldBlockChangesIntoSnapshot message.snapshots deltas
    { message with
      snapshots
      deltas := if blockChangesHasBootstrapResidue deltas then some deltas else none }

/-! ## Messages

A message is merged with the stored one of its protocol, and what comes out is compacted. -/

section

variable (merge : StateSyncMerge)

/-- The account creations and deletions among some updates. -/
def accountLifecycle (updates : FinMap Bytes AccountUpdate) : FinMap Bytes AccountUpdate :=
  updates.filter fun _ update => update.change = .creation || update.change = .deletion

/-- What `merge_raw_message` makes of the stored message of a protocol and the incoming one. -/
def mergeStored (existing incoming : BroadcasterProtocolMessage) : BroadcasterProtocolMessage :=
  let newTokens := (incoming.message.deltas.map (·.newTokens)).getD ∅
  let dciUpdate := (incoming.message.deltas.map (·.dciUpdate)).getD .empty
  let lifecycle := (incoming.message.deltas.map (accountLifecycle ·.accountUpdates)).getD ∅
  let merged := merge existing.message incoming.message.withoutBootstrap
  -- the newest creation or deletion has to win over the merged update
  let deltas := merged.deltas.map fun deltas =>
    let extended := deltas.extendBootstrap newTokens dciUpdate
    { extended with accountUpdates := extended.accountUpdates ∪ lifecycle }
  { existing with
    syncState := incoming.syncState
    message := compactRawStateSyncMessage { merged with deltas } }

/-- Sort messages by protocol. -/
def sortByProtocol (messages : List BroadcasterProtocolMessage) : List BroadcasterProtocolMessage :=
  messages.insertionSort fun left right => (compare left.protocol right.protocol).isLE

/-- `merge_raw_message`. -/
def mergeRawMessage (messages : List BroadcasterProtocolMessage)
    (incoming : BroadcasterProtocolMessage) : List BroadcasterProtocolMessage :=
  match messages.find? (·.protocol = incoming.protocol) with
  | some existing =>
    sortByProtocol
      (messages.eraseP (·.protocol = incoming.protocol) ++ [mergeStored merge existing incoming])
  | none =>
    sortByProtocol
      (messages ++ [{ incoming with message := compactRawStateSyncMessage incoming.message }])

end

/-! ## Shared VM accounts

Several protocols may hold one account. Their copies are made equal: merged where they agree,
refused where they contradict. -/

/-- `deterministic_account_title`. -/
def deterministicAccountTitle (left right : String) : String :=
  if left.isEmpty && !right.isEmpty then right
  else if !left.isEmpty && right.isEmpty || left.isEmpty && right.isEmpty then left
  else if (compare left right).isLE then left else right

/-- `merge_vm_account_map`: the entries of the target win. -/
def mergeVmAccountMap (target incoming : FinMap Bytes Bytes) : FinMap Bytes Bytes :=
  incoming ∪ target

/-- The fields on which two copies of an account have to agree. -/
def ResponseAccount.Agrees (left right : ResponseAccount) : Prop :=
  left.chain = right.chain ∧ left.address = right.address ∧
    left.nativeBalance = right.nativeBalance ∧ left.code = right.code ∧
    left.codeHash = right.codeHash ∧ left.balanceModifyTx = right.balanceModifyTx ∧
    left.codeModifyTx = right.codeModifyTx ∧ left.creationTx = right.creationTx

instance (left right : ResponseAccount) : Decidable (left.Agrees right) :=
  inferInstanceAs (Decidable (_ ∧ _))

/-- The error for copies of an account that contradict each other. -/
def conflictingVmAccount (address : Bytes) (blockNumber : UInt64) : SnapshotError :=
  let account := address.display
  .text s!"conflicting VM account {account} values at block {blockNumber}"

/-- `merge_shared_vm_accounts`. -/
def mergeSharedVmAccounts (left right : ResponseAccount) (blockNumber : UInt64) :
    Except SnapshotError ResponseAccount := do
  ensure (left.Agrees right) (conflictingVmAccount left.address blockNumber)
  return { left with
    slots := mergeVmAccountMap left.slots right.slots
    tokenBalances := mergeVmAccountMap left.tokenBalances right.tokenBalances
    title := deterministicAccountTitle left.title right.title }

/-- The `try_fold` over the copies of an account: the first one, merged with all others. -/
def mergeCopies (blockNumber : UInt64) (copies : List ResponseAccount) :
    Except SnapshotError (Option ResponseAccount) :=
  copies.foldlM (fun canonical account =>
    match canonical with
    | none => .ok (some account)
    | some canonical => (mergeSharedVmAccounts canonical account blockNumber).map some) none

/-- The copies of an account that messages of one block hold, in protocol order. -/
def copiesAt (messages : List BroadcasterProtocolMessage) (blockNumber : UInt64)
    (address : Bytes) : List ResponseAccount :=
  (sortByProtocol (messages.filter (·.message.header.number = blockNumber))).filterMap
    (·.message.snapshots.vmStorage[address]?)

/-- The message holds the account. -/
def BroadcasterProtocolMessage.holds (message : BroadcasterProtocolMessage) (address : Bytes) :
    Bool :=
  message.message.snapshots.vmStorage.contains address

/-- Write an account to every message that holds it. -/
def writeToHolders (messages : List BroadcasterProtocolMessage) (address : Bytes)
    (account : ResponseAccount) : List BroadcasterProtocolMessage :=
  messages.map fun message =>
    if message.holds address then
      { message with
        message.snapshots.vmStorage := message.message.snapshots.vmStorage.insert address account }
    else message

/-- Take an account out of every message. -/
def removeFromHolders (messages : List BroadcasterProtocolMessage) (address : Bytes) :
    List BroadcasterProtocolMessage :=
  messages.map fun message =>
    { message with
      message.snapshots.vmStorage := message.message.snapshots.vmStorage.erase address }

/-- Write the merged copies of one block to every holder, if there is any copy. -/
def unifyCopies (messages : List BroadcasterProtocolMessage) (blockNumber : UInt64)
    (address : Bytes) : Except SnapshotError (List BroadcasterProtocolMessage) := do
  match ← mergeCopies blockNumber (copiesAt messages blockNumber address) with
  | none => return messages
  | some canonical => return writeToHolders messages address canonical

/-- `touched_vm_addresses`. -/
def touchedVmAddresses (message : BroadcasterProtocolMessage) : FinSet Bytes :=
  let touched := Std.ExtTreeSet.ofList message.message.snapshots.vmStorage.keys
  match message.message.deltas with
  | none => touched
  | some changes =>
    (touched.insertMany changes.accountUpdates.keys).insertMany changes.accountBalances.keys

/-- The message deletes the account. -/
def BroadcasterProtocolMessage.deletes (message : BroadcasterProtocolMessage) (address : Bytes) :
    Bool :=
  message.message.deltas.any (changedBy ·.accountUpdates .deletion address)

/-- The body of the loop of `propagate_touched_vm_accounts`. -/
def propagateVmAccount (incoming : BroadcasterProtocolMessage)
    (messages : List BroadcasterProtocolMessage) (address : Bytes) :
    Except SnapshotError (List BroadcasterProtocolMessage) :=
  if incoming.deletes address then .ok (removeFromHolders messages address)
  else unifyCopies messages incoming.message.header.number address

/-- `propagate_touched_vm_accounts`. -/
def propagateTouchedVmAccounts (messages : List BroadcasterProtocolMessage)
    (incoming : BroadcasterProtocolMessage) :
    Except SnapshotError (List BroadcasterProtocolMessage) :=
  (touchedVmAddresses incoming).toList.foldlM (propagateVmAccount incoming) messages

/-- The newest block of the messages that hold an account. -/
def latestBlock (messages : List BroadcasterProtocolMessage) (address : Bytes) : UInt64 :=
  ((messages.filter (·.holds address)).map (·.message.header.number)).foldl max 0

/-- The addresses of all accounts that some message holds. -/
def heldAddresses (messages : List BroadcasterProtocolMessage) : FinSet Bytes :=
  .ofList (messages.flatMap (·.message.snapshots.vmStorage.keys))

/-- `canonicalize_shared_vm_accounts`. -/
def canonicalizeSharedVmAccounts (messages : List BroadcasterProtocolMessage) :
    Except SnapshotError (List BroadcasterProtocolMessage) :=
  (heldAddresses messages).toList.foldlM
    (fun messages address => unifyCopies messages (latestBlock messages address) address) messages

/-! ## Applying an update

The messages of an update are applied in order, and the accounts they touched are made equal at the
end. -/

/-- The partitions of a cache. -/
abbrev Partitions (Sim : Type) := FinMap BroadcasterBackend (BroadcasterPartitionState Sim)

section

variable (merge : StateSyncMerge)

/-- Merge one incoming message and propagate the accounts it touches. -/
def applyRawMessage (messages : List BroadcasterProtocolMessage)
    (incoming : BroadcasterProtocolMessage) :
    Except SnapshotError (List BroadcasterProtocolMessage) :=
  propagateTouchedVmAccounts (mergeRawMessage merge messages incoming) incoming

/-- The messages of a partition after an update. -/
def applyRawMessages (messages incoming : List BroadcasterProtocolMessage) :
    Except SnapshotError (List BroadcasterProtocolMessage) := do
  let messages ← (sortByProtocol incoming).foldlM (applyRawMessage merge) messages
  canonicalizeSharedVmAccounts messages

/-- One turn of the loop of `apply_raw_update_message`. -/
def applyRawPartition (partitions : Partitions Sim) (partition : BroadcasterUpdatePartition Sim) :
    Except SnapshotError (Partitions Sim) := do
  let state := partitions[partition.backend]?.getD .empty
  let messages ← applyRawMessages merge state.messages partition.messages
  return partitions.insert partition.backend
    { state with
      blockNumber := some partition.blockNumber
      syncStatuses := partition.syncStatuses
      messages }

/-- `apply_raw_update_message`. -/
def applyRawUpdateMessage (partitions : Partitions Sim) (message : BroadcasterUpdateMessage Sim) :
    Except SnapshotError (Partitions Sim) :=
  message.partitions.foldlM (applyRawPartition merge) partitions

end

/-! ## Validating an update

Validation runs the same merges on a projection of the accounts, and writes nothing. -/

/-- `ProjectedVmAccount`: what an incoming message makes of an account. -/
inductive ProjectedVmAccount where
  | materialized (account : Option ResponseAccount)
  | residual (update : Option AccountUpdate) (balances : FinMap Bytes AccountBalance)
deriving DecidableEq

/-- `merge_projected_vm_accounts`. -/
def mergeProjectedVmAccounts (left right : ProjectedVmAccount) (address : Bytes)
    (blockNumber : UInt64) : Except SnapshotError ProjectedVmAccount :=
  match left, right with
  | .materialized (some left), .materialized (some right) =>
    (mergeSharedVmAccounts left right blockNumber).map fun account => .materialized (some account)
  | .materialized none, .materialized none => .ok (.materialized none)
  | .residual leftUpdate leftBalances, .residual rightUpdate rightBalances =>
    if leftUpdate = rightUpdate ∧ leftBalances = rightBalances then
      .ok (.residual leftUpdate leftBalances)
    else .error (conflictingVmAccount address blockNumber)
  | _, _ => .error (conflictingVmAccount address blockNumber)

/-- The account a projection starts from: the incoming snapshot, the copy stored for the protocol,
or the first copy stored at all. -/
def projectionBase (stored : List BroadcasterProtocolMessage)
    (incoming : BroadcasterProtocolMessage) (address : Bytes) : Option ResponseAccount :=
  incoming.message.snapshots.vmStorage[address]? <|>
  ((stored.find? (·.protocol = incoming.protocol)).bind
    (·.message.snapshots.vmStorage[address]?)) <|>
  stored.findSome? (·.message.snapshots.vmStorage[address]?)

/-- `project_vm_account`, with the messages stored for the backend. -/
def projectVmAccount (stored : List BroadcasterProtocolMessage)
    (incoming : BroadcasterProtocolMessage) (address : Bytes) : ProjectedVmAccount :=
  let update := incoming.message.deltas.bind (·.accountUpdates[address]?)
  let balances := (incoming.message.deltas.bind (·.accountBalances[address]?)).getD ∅
  if update.any (·.change = .deletion) then .materialized none
  else if update.any (·.change = .creation) then .residual update balances
  else
    match projectionBase stored incoming address with
    | none => .residual update balances
    | some account =>
      let account := update.elim account (foldAccountUpdateIntoSnapshot account)
      .materialized (some (applyAccountBalances account balances))

/-- Add a line of context in front of an error. -/
def withContext {α : Type} (context : String) : Except SnapshotError α → Except SnapshotError α
  | .ok a => .ok a
  | .error (.text message) => .error (.text (context ++ ": " ++ message))
  | .error e => .error e

/-- Merge the copy another message of the block holds into a projection. -/
def reconcileWith (incoming : BroadcasterProtocolMessage) (address : Bytes)
    (projected : ProjectedVmAccount) (existing : BroadcasterProtocolMessage) :
    Except SnapshotError ProjectedVmAccount :=
  match existing.message.snapshots.vmStorage[address]? with
  | none => .ok projected
  | some account =>
    let (left, right) := (incoming.protocol, existing.protocol)
    withContext s!"while reconciling VM protocols {left} and {right}"
      (mergeProjectedVmAccounts projected (.materialized (some account)) address
        incoming.message.header.number)

/-- The projection of one touched account, merged with all copies of its block. -/
def reconciledProjection (stored messages : List BroadcasterProtocolMessage)
    (incoming : BroadcasterProtocolMessage) (address : Bytes) :
    Except SnapshotError ProjectedVmAccount :=
  ((stored ++ messages).filter fun message =>
    message.protocol ≠ incoming.protocol ∧
      message.message.header.number = incoming.message.header.number).foldlM
    (reconcileWith incoming address) (projectVmAccount stored incoming address)

/-- The projections made so far, by block and address, with the protocol that made the first. -/
abbrev Projections := FinMap UInt64 (FinMap Bytes (String × ProjectedVmAccount))

/-- Record a projection, merging it into one of the same block and address. -/
def Projections.record (projections : Projections) (incoming : BroadcasterProtocolMessage)
    (address : Bytes) (projected : ProjectedVmAccount) : Except SnapshotError Projections :=
  let block := incoming.message.header.number
  let atBlock := projections[block]?.getD ∅
  match atBlock[address]? with
  | none =>
    return projections.insert block (atBlock.insert address (incoming.protocol, projected))
  | some (protocol, previous) => do
    let (account, other) := (address.display, incoming.protocol)
    let merged ← withContext
      s!"conflicting VM account {account} values from protocols {protocol} and {other}"
      (mergeProjectedVmAccounts previous projected address block)
    return projections.insert block (atBlock.insert address (protocol, merged))

/-- Project the accounts that one incoming message touches. -/
def projectTouched (stored messages : List BroadcasterProtocolMessage) (projections : Projections)
    (incoming : BroadcasterProtocolMessage) : Except SnapshotError Projections :=
  (touchedVmAddresses incoming).toList.foldlM (fun projections address => do
    let projected ← reconciledProjection stored messages incoming address
    projections.record incoming address projected) projections

/-- The body of the loop of `validate_raw_update_message`. -/
def validateRawMessages (stored messages : List BroadcasterProtocolMessage) :
    Except SnapshotError Unit := do
  let _ ← (sortByProtocol messages).foldlM (projectTouched stored messages) ∅

/-- `validate_raw_update_message`. -/
def validateRawUpdateMessage (partitions : Partitions Sim) (update : BroadcasterUpdateMessage Sim) :
    Except SnapshotError Unit :=
  forM update.partitions fun partition =>
    validateRawMessages ((partitions[partition.backend]?.map (·.messages)).getD [])
      partition.messages

end TychoSimulationServer
