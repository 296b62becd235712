import TychoSimulationServer.RawPartition
import TychoSimulationServer.StateStore

/-!
# The snapshot cache

The broadcaster caches the state it has published, so that a new consumer can be given a snapshot.
The cache is fed decoded updates or raw feed messages. Every update goes through two steps: it is
*staged*, which turns it into the message to publish and checks that it can be applied, and, once
it was published, *committed*. After the upstream stream broke, raw messages build up a
replacement next to the cached state until all protocols are aligned on one block.

The cache is *ready* when every configured backend has been given a block.
-/

namespace TychoSimulationServer

open Fallible

variable {Sim : Type}

/-! ## Updates and their published form

What the feed hands over is split by backend: each pool, state, removal and sync status goes into
the partition of the backend it classifies to. -/

/-- The decoded update of the upstream library, with its synchronizer states. -/
structure TychoUpdate (Sim : Type) extends Update Sim where
  syncStates : FinMap String SynchronizerState

/-- A raw message of the upstream feed. -/
structure FeedMessage where
  stateMsgs : FinMap String StateSyncMessage
  syncStates : FinMap String SynchronizerState

/-- `BroadcasterUpdatePartition::new`. -/
def BroadcasterUpdatePartition.new (backend : BroadcasterBackend) (blockNumber : UInt64)
    (newPairs : List (BroadcasterStateEntry Sim)) (updatedStates : List (BroadcasterStateDelta Sim))
    (removedPairs : List BroadcasterRemovedPair) (syncStatuses : SyncStatuses) :
    BroadcasterUpdatePartition Sim :=
  { backend, blockNumber, syncStatuses
    messages := []
    newPairs := newPairs.insertionSort fun a b => (compare a.componentId b.componentId).isLE
    updatedStates :=
      updatedStates.insertionSort fun a b => (compare a.componentId b.componentId).isLE
    removedPairs :=
      removedPairs.insertionSort fun a b => (compare a.componentId b.componentId).isLE }

/-- `BroadcasterUpdatePartition::with_messages`. -/
def BroadcasterUpdatePartition.withMessages (backend : BroadcasterBackend) (blockNumber : UInt64)
    (messages : List BroadcasterProtocolMessage) (syncStatuses : SyncStatuses) :
    BroadcasterUpdatePartition Sim :=
  { backend, blockNumber, messages, syncStatuses
    newPairs := [], updatedStates := [], removedPairs := [] }

/-- `BroadcasterUpdateMessage::new`. -/
def BroadcasterUpdateMessage.new (partitions : List (BroadcasterUpdatePartition Sim)) :
    Except BroadcasterContractError (BroadcasterUpdateMessage Sim) := do
  let partitions := partitions.insertionSort fun a b => (compare a.backend b.backend).isLE
  validateUpdatePartitions partitions
  return { partitions }

/-- `UpdatePartitionBuilder`. -/
structure UpdatePartitionBuilder (Sim : Type) where
  newPairs : List (BroadcasterStateEntry Sim) := []
  updatedStates : List (BroadcasterStateDelta Sim) := []
  removedPairs : List BroadcasterRemovedPair := []
  syncStatuses : SyncStatuses := ∅

/-- `UpdatePartitionBuilder::is_empty`. -/
def UpdatePartitionBuilder.isEmpty (builder : UpdatePartitionBuilder Sim) : Bool :=
  builder.newPairs.isEmpty && builder.updatedStates.isEmpty && builder.removedPairs.isEmpty
    && builder.syncStatuses.isEmpty

/-- The partitions of an update that is being split by backend. -/
abbrev UpdatePartitionBuilders (Sim : Type) :=
  FinMap BroadcasterBackend (UpdatePartitionBuilder Sim)

/-- `partitions.entry(backend).or_default()`, edited. -/
def UpdatePartitionBuilders.edit (builders : UpdatePartitionBuilders Sim)
    (backend : BroadcasterBackend) (f : UpdatePartitionBuilder Sim → UpdatePartitionBuilder Sim) :
    UpdatePartitionBuilders Sim :=
  builders.insert backend (f (builders[backend]?.getD {}))

section

variable (update : TychoUpdate Sim) (knownBackends : FinMap String BroadcasterBackend)

/-- A new pair goes to the backend of its component, with its state. -/
def splitNewPair (builders : UpdatePartitionBuilders Sim) (entry : String × ProtocolComponent) :
    Except BroadcasterContractError (UpdatePartitionBuilders Sim) :=
  match update.states[entry.1]? with
  | none => .error (.newPairMissingState entry.1)
  | some state => do
    let backend ← backendForComponent entry.1 entry.2
    return builders.edit backend fun builder =>
      { builder with newPairs := builder.newPairs ++ [⟨entry.1, entry.2, state⟩] }

/-- A state that belongs to no new pair goes to the backend its component is known under. -/
def splitState (builders : UpdatePartitionBuilders Sim) (entry : String × Sim) :
    Except BroadcasterContractError (UpdatePartitionBuilders Sim) :=
  if update.newPairs.contains entry.1 then .ok builders
  else
    match knownBackends[entry.1]? with
    | none => .error (.stateBackendMissing entry.1)
    | some backend => .ok (builders.edit backend fun builder =>
      { builder with updatedStates := builder.updatedStates ++ [⟨entry.1, backend, entry.2⟩] })

/-- A removed pair goes to the backend of its component. -/
def splitRemovedPair (builders : UpdatePartitionBuilders Sim)
    (entry : String × ProtocolComponent) :
    Except BroadcasterContractError (UpdatePartitionBuilders Sim) := do
  let backend ← backendForComponent entry.1 entry.2
  return builders.edit backend fun builder =>
    { builder with removedPairs := builder.removedPairs ++ [⟨entry.1, entry.2⟩] }

/-- A synchronizer state goes to the backend of its protocol. -/
def splitSyncState (builders : UpdatePartitionBuilders Sim) (entry : String × SynchronizerState) :
    Except BroadcasterContractError (UpdatePartitionBuilders Sim) := do
  let backend ← backendForSyncState entry.1
  return builders.edit backend fun builder =>
    { builder with
      syncStatuses := builder.syncStatuses.insert entry.1 (.fromSynchronizerState entry.2) }

/-- `BroadcasterUpdateMessage::from_tycho_update`. -/
def BroadcasterUpdateMessage.fromTychoUpdate :
    Except BroadcasterContractError (BroadcasterUpdateMessage Sim) := do
  let builders ← update.newPairs.toList.foldlM (splitNewPair update) ∅
  let builders ← update.states.toList.foldlM (splitState update knownBackends) builders
  let builders ← update.removedPairs.toList.foldlM splitRemovedPair builders
  let builders ← update.syncStates.toList.foldlM splitSyncState builders
  BroadcasterUpdateMessage.new ((builders.toList.filter fun entry => !entry.2.isEmpty).map
    fun (backend, builder) => .new backend update.blockNumberOrTimestamp builder.newPairs
      builder.updatedStates builder.removedPairs builder.syncStatuses)

end

/-- `sync_state_block_number`. -/
def syncStateBlockNumber : SynchronizerState → Option UInt64
  | .ready header | .delayed header | .stale header | .advanced header =>
    some header.blockNumberOrTimestamp
  | .started | .ended _ => none

/-- What a feed message holds for one backend. -/
structure FeedPartition where
  messages : List BroadcasterProtocolMessage := []
  syncStatuses : SyncStatuses := ∅
  blockNumber : Option UInt64 := none

/-- Add the synchronizer state of one protocol. -/
def splitFeedSyncState (partitions : FinMap BroadcasterBackend FeedPartition)
    (entry : String × SynchronizerState) :
    Except BroadcasterContractError (FinMap BroadcasterBackend FeedPartition) := do
  let backend ← backendForSyncState entry.1
  let partition := partitions[backend]?.getD {}
  return partitions.insert backend
    { partition with
      syncStatuses := partition.syncStatuses.insert entry.1 (.fromSynchronizerState entry.2)
      blockNumber :=
        match partition.blockNumber, syncStateBlockNumber entry.2 with
        | some current, some blockNumber => some (max current blockNumber)
        | none, found => found
        | current, none => current }

/-- Add the message of one protocol. -/
def splitFeedMessage (feed : FeedMessage) (partitions : FinMap BroadcasterBackend FeedPartition)
    (entry : String × StateSyncMessage) :
    Except BroadcasterContractError (FinMap BroadcasterBackend FeedPartition) := do
  let backend ← backendForSyncState entry.1
  let partition := partitions[backend]?.getD {}
  return partitions.insert backend
    { partition with
      messages := partition.messages ++
        [{ protocol := entry.1
           syncState := feed.syncStates[entry.1]?.getD .started
           message := entry.2 }] }

/-- The newest header of a partition, or the newest block its synchronizers name. -/
def FeedPartition.headBlock (partition : FeedPartition) : UInt64 :=
  ((partition.messages.map (·.message.header.blockNumberOrTimestamp)).max? <|>
    partition.blockNumber).getD 0

/-- `BroadcasterUpdateMessage::from_tycho_feed_message`. -/
def BroadcasterUpdateMessage.fromTychoFeedMessage (feed : FeedMessage) :
    Except BroadcasterContractError (BroadcasterUpdateMessage Sim) := do
  let partitions ← feed.syncStates.toList.foldlM splitFeedSyncState ∅
  let partitions ← feed.stateMsgs.toList.foldlM (splitFeedMessage feed) partitions
  BroadcasterUpdateMessage.new
    ((partitions.toList.filter fun entry =>
      !(entry.2.messages.isEmpty && entry.2.syncStatuses.isEmpty)).map
    fun (backend, partition) =>
      .withMessages backend partition.headBlock partition.messages partition.syncStatuses)

/-! ## The cache

The cache keeps one partition per backend, raw or decoded by its configuration, and the numbers that
name the next snapshot. While a backend is being replaced its incoming messages are collected beside
the partition. -/

/-- `UpstreamReplacementState`. -/
structure UpstreamReplacementState (Sim : Type) where
  id : UInt64
  candidates : Partitions Sim

/-- `BroadcasterSnapshotCacheData`. -/
structure BroadcasterSnapshotCacheData (Sim : Type) where
  generation : UInt64
  streamId : String
  snapshotId : String
  partitions : Partitions Sim
  knownBackends : FinMap String BroadcasterBackend
  expectedProtocols : FinSet String
  replacement : Option (UpstreamReplacementState Sim)
  nextRecoveryId : UInt64

/-- `BroadcasterSnapshotCache`. The configured backends are sorted and free of duplicates. -/
structure BroadcasterSnapshotCache (Sim : Type) where
  chainId : UInt64
  configuredBackends : List BroadcasterBackend
  nodup : configuredBackends.Nodup
  inner : BroadcasterSnapshotCacheData Sim

/-- `format_stream_id`. -/
def formatStreamId (chainId generation : UInt64) : String :=
  s!"chain-{chainId}-stream-{generation}"

/-- `format_snapshot_id`. -/
def formatSnapshotId (chainId generation : UInt64) : String :=
  s!"chain-{chainId}-snapshot-{generation}"

/-- `configured_backends.sort()` and `dedup()`. -/
def sortedBackends (backends : List BroadcasterBackend) : List BroadcasterBackend :=
  (backends.insertionSort fun a b => (compare a b).isLE).dedup

namespace BroadcasterSnapshotCache

/-- `new_with_initial_generation`. -/
def newWithInitialGeneration (chainId : UInt64) (configuredBackends : List BroadcasterBackend)
    (generation : UInt64) : BroadcasterSnapshotCache Sim :=
  { chainId
    configuredBackends := sortedBackends configuredBackends
    nodup := List.nodup_dedup _
    inner :=
      { generation := max generation 1
        streamId := formatStreamId chainId (max generation 1)
        snapshotId := formatSnapshotId chainId (max generation 1)
        partitions := ∅
        knownBackends := ∅
        expectedProtocols := ∅
        replacement := none
        nextRecoveryId := 1 } }

/-- `BroadcasterSnapshotCache::new`. -/
def new (chainId : UInt64) (configuredBackends : List BroadcasterBackend) :
    BroadcasterSnapshotCache Sim :=
  newWithInitialGeneration chainId configuredBackends 1

/-- `reset_same_generation`. -/
def resetSameGeneration (cache : BroadcasterSnapshotCache Sim) : BroadcasterSnapshotCache Sim :=
  { cache with
    inner.partitions := ∅
    inner.knownBackends := ∅
    inner.expectedProtocols := ∅
    inner.replacement := none }

/-- `relabel_generation`. -/
def relabelGeneration (cache : BroadcasterSnapshotCache Sim) (generation : UInt64) :
    BroadcasterSnapshotCache Sim :=
  { cache with
    inner.generation := max generation 1
    inner.streamId := formatStreamId cache.chainId (max generation 1)
    inner.snapshotId := formatSnapshotId cache.chainId (max generation 1) }

/-- Start a replacement from the given candidates. -/
def startReplacement (cache : BroadcasterSnapshotCache Sim) (candidates : Partitions Sim) :
    BroadcasterSnapshotCache Sim :=
  { cache with
    inner.replacement := some { id := cache.inner.nextRecoveryId, candidates }
    inner.nextRecoveryId := saturatingSucc cache.inner.nextRecoveryId }

/-- `begin_same_generation_recovery`: candidates of an earlier connection are dropped. -/
def beginSameGenerationRecovery (cache : BroadcasterSnapshotCache Sim) :
    BroadcasterSnapshotCache Sim :=
  cache.startReplacement ∅

/-- `begin_same_generation_recovery_from_current`. -/
def beginSameGenerationRecoveryFromCurrent (cache : BroadcasterSnapshotCache Sim) :
    BroadcasterSnapshotCache Sim :=
  if cache.inner.replacement.isSome then cache
  else cache.startReplacement cache.inner.partitions

/-- `is_ready_locked`. -/
def isReady (cache : BroadcasterSnapshotCache Sim) : Bool :=
  cache.configuredBackends.all fun backend =>
    (cache.inner.partitions[backend]?.bind (·.blockNumber)).isSome

end BroadcasterSnapshotCache

/-! ## Checks before staging

An update is checked against the cache before anything of it is applied, so that a refused update
leaves no half of it. -/

/-- `ensure_configured_update_backends`. -/
def ensureConfiguredUpdateBackends (message : BroadcasterUpdateMessage Sim)
    (configuredBackends : List BroadcasterBackend) : Except SnapshotError Unit :=
  forM message.partitions fun partition =>
    let backend := partition.backend.asStr
    ensure (partition.backend ∈ configuredBackends)
      (.text s!"update partition backend {backend} is not configured")

/-- `validate_update_message_applicable`. -/
def validateUpdateMessageApplicable (partitions : Partitions Sim)
    (message : BroadcasterUpdateMessage Sim) : Except SnapshotError Unit :=
  forM message.partitions fun partition =>
    forM partition.updatedStates fun delta => do
      let (id, expected, found) := (delta.componentId, partition.backend.asStr, delta.backend.asStr)
      ensure (delta.backend = partition.backend)
        (.text s!"backend mismatch for {id}: expected {expected}, found {found}")
      ensure (partitions[partition.backend]?.any (·.states.contains delta.componentId) ∨
          partition.newPairs.any (·.componentId = delta.componentId))
        (.text s!"missing tracked broadcaster state for {id} on backend {expected}")

/-- All raw messages of some partitions, in backend order. -/
def rawMessages (partitions : Partitions Sim) : List BroadcasterProtocolMessage :=
  partitions.toList.flatMap (·.2.messages)

/-- `raw_header_is_discontinuous`. -/
def rawHeaderIsDiscontinuous (previous incoming : BlockHeader) : Bool :=
  incoming.hash ≠ previous.hash && incoming.parentHash ≠ previous.hash

/-- `raw_message_has_header_gap`. -/
def rawMessageHasHeaderGap (partitions : Partitions Sim) (update : BroadcasterUpdateMessage Sim) :
    Bool :=
  update.partitions.any fun partition =>
    partition.messages.any fun incoming =>
      ((rawMessages partitions).find? (·.protocol = incoming.protocol)).any fun previous =>
        rawHeaderIsDiscontinuous previous.message.header incoming.message.header &&
          (!incoming.message.snapshots.states.isEmpty ||
            !incoming.message.snapshots.vmStorage.isEmpty)

/-! ## Replacements

A replacement is ready when every expected protocol has a message, all of one and the same block. -/

/-- `observe` of `complete_broadcaster_partition_block`: the header is of the block, complete, and
has the hash seen before. -/
def observeBlockHeader (blockNumber : UInt64) (expectedHash : Option Bytes) (header : BlockHeader) :
    Option (Option Bytes) :=
  if header.number ≠ blockNumber ∨ header.partialBlockIndex.isSome then none
  else
    match expectedHash with
    | some expected => if expected = header.hash then some (some expected) else none
    | none => some (some header.hash)

/-- `complete_broadcaster_partition_block`. -/
def completeBroadcasterPartitionBlock (blockNumber : UInt64)
    (messages : List BroadcasterProtocolMessage) (syncStatuses : SyncStatuses) : Option UInt64 :=
  if messages.isEmpty && syncStatuses.isEmpty then none
  else do
    let expectedHash ← messages.foldlM (fun expectedHash message => do
      let expectedHash ← observeBlockHeader blockNumber expectedHash message.message.header
      match message.syncState with
      | .ready header => observeBlockHeader blockNumber expectedHash header
      | _ => none) none
    let _ ← syncStatuses.toList.foldlM (fun expectedHash entry =>
      if entry.2.kind ≠ .ready then none
      else entry.2.block.bind (observeBlockHeader blockNumber expectedHash)) expectedHash
    return blockNumber

/-- `replacement_is_aligned`. -/
def replacementIsAligned (candidates : Partitions Sim) (expectedProtocols : FinSet String) : Bool :=
  let messages := rawMessages candidates
  if expectedProtocols.isEmpty || messages.length != expectedProtocols.size
      || messages.any (fun message => !expectedProtocols.contains message.protocol)
      || candidates.toList.any (fun (_, partition) => partition.blockNumber.all fun blockNumber =>
        completeBroadcasterPartitionBlock blockNumber partition.messages partition.syncStatuses
          != some blockNumber) then
    false
  else
    match messages with
    | [] => false
    | first :: _ => messages.all fun message =>
      message.message.header.number = first.message.header.number &&
        message.message.header.hash = first.message.header.hash

/-- Edit the first raw message of a protocol. -/
def editRawProtocolMessage (partitions : Partitions Sim) (protocol : String)
    (f : BroadcasterProtocolMessage → BroadcasterProtocolMessage) : Partitions Sim :=
  match partitions.toList.find? fun entry => entry.2.messages.any (·.protocol = protocol) with
  | none => partitions
  | some (backend, partition) =>
    partitions.insert backend
      { partition with
        messages := partition.messages.modify
          (partition.messages.findIdx (·.protocol = protocol)) f }

/-- Take over the synchronizer state of a protocol, and its header when it sent no message. -/
def adoptSyncState (feed : FeedMessage) (candidates : Partitions Sim)
    (entry : String × SynchronizerState) : Partitions Sim :=
  editRawProtocolMessage candidates entry.1 fun candidate =>
    let candidate := { candidate with syncState := entry.2 }
    match feed.stateMsgs.contains entry.1, entry.2 with
    | false, .ready header => { candidate with message.header := header }
    | _, _ => candidate

section

variable (merge : StateSyncMerge)

/-- `apply_replacement_feed_message`. -/
def applyReplacementFeedMessage (candidates : Partitions Sim)
    (update : BroadcasterUpdateMessage Sim) (feed : FeedMessage) :
    Except SnapshotError (Partitions Sim) := do
  ensure (rawMessageHasHeaderGap candidates update = false)
    (.text "fresh Tycho replacement became discontinuous before it aligned")
  validateRawUpdateMessage candidates update
  let candidates ← applyRawUpdateMessage merge candidates update
  let candidates := feed.syncStates.toList.foldl (adoptSyncState feed) candidates
  return candidates.map fun _ partition =>
    { partition with
      messages := sortByProtocol partition.messages
      blockNumber := (partition.messages.map (·.message.header.number)).max? }

end

/-! ## Staging and committing

Staging checks an update and says how it is to be applied; committing applies it. In between the
update is published. -/

/-- `BroadcasterStagedUpdateApplyMode`. -/
inductive BroadcasterStagedUpdateApplyMode (Sim : Type) where
  | decoded
  | rawNormal (expectedProtocols : FinSet String) (nextRecoveryId : UInt64)
  | replacement (partitions : Partitions Sim) (expectedProtocols : FinSet String)
      (pending : Option (UpstreamReplacementState Sim)) (nextRecoveryId : UInt64)

/-- `BroadcasterStagedUpdate`. -/
structure BroadcasterStagedUpdate (Sim : Type) where
  message : Option (BroadcasterUpdateMessage Sim)
  applyMode : BroadcasterStagedUpdateApplyMode Sim
  replacementReady : Bool
  recoveryId : Option UInt64

namespace BroadcasterSnapshotCache

/-- `stage_update`. -/
def stageUpdate (cache : BroadcasterSnapshotCache Sim) (update : TychoUpdate Sim) :
    Except SnapshotError (BroadcasterStagedUpdate Sim) := do
  let message ← (BroadcasterUpdateMessage.fromTychoUpdate update cache.inner.knownBackends).mapError
    .contract
  ensureConfiguredUpdateBackends message cache.configuredBackends
  validateUpdateMessageApplicable cache.inner.partitions message
  return { message := some message, applyMode := .decoded, replacementReady := false
           recoveryId := none }

section

variable (merge : StateSyncMerge)

/-- Stage a raw message that builds up a replacement. -/
def stageReplacement (cache : BroadcasterSnapshotCache Sim)
    (message : BroadcasterUpdateMessage Sim) (feed : FeedMessage)
    (expectedProtocols : FinSet String) (pending : UpstreamReplacementState Sim) :
    Except SnapshotError (BroadcasterStagedUpdate Sim) := do
  let candidates ← applyReplacementFeedMessage merge pending.candidates message feed
  if replacementIsAligned candidates expectedProtocols then
    return { message := none
             applyMode := .replacement candidates expectedProtocols none cache.inner.nextRecoveryId
             replacementReady := true
             recoveryId := some pending.id }
  return { message := none
           applyMode := .replacement cache.inner.partitions expectedProtocols
             (some { pending with candidates }) cache.inner.nextRecoveryId
           replacementReady := false
           recoveryId := none }

/-- `stage_feed_message`. -/
def stageFeedMessage (cache : BroadcasterSnapshotCache Sim) (feed : FeedMessage) :
    Except SnapshotError (BroadcasterStagedUpdate Sim) := do
  let message ← (BroadcasterUpdateMessage.fromTychoFeedMessage feed).mapError .contract
  ensureConfiguredUpdateBackends message cache.configuredBackends
  let expectedProtocols := cache.inner.expectedProtocols.insertMany feed.syncStates.keys
  ensure (¬(cache.inner.replacement.isNone ∧
      rawMessageHasHeaderGap cache.inner.partitions message))
    (.text "Tycho header gap requires reconnect and a fresh authoritative replacement")
  match cache.inner.replacement with
  | some pending => cache.stageReplacement merge message feed expectedProtocols pending
  | none => do
    validateRawUpdateMessage cache.inner.partitions message
    return { message := some message
             applyMode := .rawNormal expectedProtocols cache.inner.nextRecoveryId
             replacementReady := false
             recoveryId := none }

end

end BroadcasterSnapshotCache

/-- `apply_state_delta`. -/
def applyStateDelta (backend : BroadcasterBackend) (states : FinMap String (BroadcasterStateEntry Sim))
    (delta : BroadcasterStateDelta Sim) :
    Except SnapshotError (FinMap String (BroadcasterStateEntry Sim)) := do
  let (id, backendName) := (delta.componentId, backend.asStr)
  ensure (delta.backend = backend)
    (.panicked s!"staged broadcaster delta backend mismatch for {id}")
  ensure (states.contains delta.componentId) (.panicked
    s!"staged broadcaster delta missing tracked state for {id} on backend {backendName}")
  return states.modify delta.componentId ({ · with state := delta.state })

/-- The states of a backend and the backends of all components, while an update is applied. -/
structure DecodedStates (Sim : Type) where
  knownBackends : FinMap String BroadcasterBackend
  states : FinMap String (BroadcasterStateEntry Sim)

/-- Announce the new pairs of a partition. -/
def DecodedStates.insertNew (decoded : DecodedStates Sim) (backend : BroadcasterBackend)
    (entry : BroadcasterStateEntry Sim) : DecodedStates Sim :=
  { knownBackends := decoded.knownBackends.insert entry.componentId backend
    states := decoded.states.insert entry.componentId entry }

/-- Drop a removed pair. -/
def DecodedStates.remove (decoded : DecodedStates Sim) (removed : BroadcasterRemovedPair) :
    DecodedStates Sim :=
  { knownBackends := decoded.knownBackends.erase removed.componentId
    states := decoded.states.erase removed.componentId }

/-- One turn of the loop of `apply_update_message`. -/
def applyUpdatePartition (data : BroadcasterSnapshotCacheData Sim)
    (partition : BroadcasterUpdatePartition Sim) :
    Except SnapshotError (BroadcasterSnapshotCacheData Sim) := do
  let state := data.partitions[partition.backend]?.getD .empty
  let decoded : DecodedStates Sim :=
    { knownBackends := data.knownBackends, states := state.states }
  let decoded := partition.newPairs.foldl (·.insertNew partition.backend) decoded
  let states ← partition.updatedStates.foldlM (applyStateDelta partition.backend) decoded.states
  let decoded := partition.removedPairs.foldl DecodedStates.remove { decoded with states }
  return { data with
    knownBackends := decoded.knownBackends
    partitions := data.partitions.insert partition.backend
      { state with
        blockNumber := some partition.blockNumber
        syncStatuses := partition.syncStatuses
        states := decoded.states } }

/-- `apply_update_message`. -/
def applyUpdateMessage (data : BroadcasterSnapshotCacheData Sim)
    (message : BroadcasterUpdateMessage Sim) :
    Except SnapshotError (BroadcasterSnapshotCacheData Sim) :=
  message.partitions.foldlM applyUpdatePartition data

namespace BroadcasterSnapshotCache

section

variable (merge : StateSyncMerge)

/-- Apply the raw message of a staged update, if it has one. -/
def commitRaw (cache : BroadcasterSnapshotCache Sim)
    (message : Option (BroadcasterUpdateMessage Sim)) : Except SnapshotError (Partitions Sim) :=
  match message with
  | none => .ok cache.inner.partitions
  | some message => applyRawUpdateMessage merge cache.inner.partitions message

/-- Apply the decoded message of a staged update, if it has one. -/
def commitDecoded (cache : BroadcasterSnapshotCache Sim)
    (message : Option (BroadcasterUpdateMessage Sim)) :
    Except SnapshotError (BroadcasterSnapshotCacheData Sim) :=
  match message with
  | none => .ok cache.inner
  | some message => applyUpdateMessage cache.inner message

/-- `commit_staged_update`. -/
def commitStagedUpdate (cache : BroadcasterSnapshotCache Sim)
    (staged : BroadcasterStagedUpdate Sim) : Except SnapshotError (BroadcasterSnapshotCache Sim) :=
  match staged.applyMode with
  | .decoded => do
    let inner ← cache.commitDecoded staged.message
    return { cache with inner }
  | .rawNormal expectedProtocols nextRecoveryId => do
    let partitions ← cache.commitRaw merge staged.message
    return { cache with
      inner.partitions := partitions
      inner.expectedProtocols := expectedProtocols
      inner.nextRecoveryId := nextRecoveryId }
  | .replacement partitions expectedProtocols pending nextRecoveryId =>
    .ok { cache with
      inner.partitions := partitions
      inner.expectedProtocols := expectedProtocols
      inner.replacement := pending
      inner.nextRecoveryId := nextRecoveryId }

/-- `apply_update`: stage and commit in one go. -/
def applyUpdate (cache : BroadcasterSnapshotCache Sim) (update : TychoUpdate Sim) :
    Except SnapshotError (BroadcasterSnapshotCache Sim × BroadcasterUpdateMessage Sim) := do
  let staged ← cache.stageUpdate update
  match staged.message with
  | none => .error (.text "decoded staged update is missing its Redis payload")
  | some message => return (← cache.commitStagedUpdate merge staged, message)

end

end BroadcasterSnapshotCache

end TychoSimulationServer
