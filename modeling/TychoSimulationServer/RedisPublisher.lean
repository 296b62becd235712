import TychoSimulationServer.RecoveryChunks
import TychoSimulationServer.StreamReader

/-!
# The Redis publisher

One publisher appends the updates of all services to the Redis stream, under numbers of its own: a
*message number* per entry and a *state version* per update and per recovery. Two things stand in
front of the stream.

* The **recovery gate** is open from the reservation of a recovery until everything accepted
  meanwhile is appended; what is accepted while it is open waits in its queue.
* The **startup handoff** keeps what is accepted after a startup snapshot was captured, until the
  publisher is promoted.

This module is the publisher's own state with what the single steps do to it. Counters, metrics and
the id of the latest entry, which no step reads, are left out; time enters as arguments.
-/

namespace TychoSimulationServer

open Fallible

variable {Sim : Type}

/-! ## State

The publisher keeps its place in the stream: the next number, the last committed and the next state
version. An error makes it unhealthy or retires it, depending on what Redis said. -/

/-- `BroadcasterRedisPublisherMode`. -/
inductive BroadcasterRedisPublisherMode where
  | passive
  | active
  | retired
  | unhealthy
deriving DecidableEq, Repr

/-- `StartupHandoffBuffer`. -/
structure StartupHandoffBuffer (Sim : Type) where
  id : UInt64
  payloads : List (BroadcasterPayload Sim)
  completeNativeBlocks : FinSet UInt64
  cancelled : Bool
  frozen : Bool

/-- `BroadcasterRedisPublisherState`. -/
structure BroadcasterRedisPublisherState (Sim : Type) where
  mode : BroadcasterRedisPublisherMode
  generation : UInt64
  streamId : String
  snapshotId : String
  nextMessageSeq : UInt64
  committedStateVersion : UInt64
  nextStateVersion : UInt64
  lastError : Option String
  startupHandoff : Option (StartupHandoffBuffer Sim)

/-- `PublisherRecoveryGate`. The flag that cancels the open recovery is shared with its service. -/
structure PublisherRecoveryGate (Sim : Type) where
  openRecoveryId : Option String
  cancelled : Bool
  completeNativeBlocks : FinSet UInt64
  pendingPayloads : List (BroadcasterPayload Sim)

/-- `PublisherRecoveryGate::default`. -/
def PublisherRecoveryGate.closed : PublisherRecoveryGate Sim :=
  { openRecoveryId := none, cancelled := false, completeNativeBlocks := ∅, pendingPayloads := [] }

/-- `STALE_WRITER_MESSAGE`. -/
def staleWriterMessage : String := "stale Redis broadcaster writer"

/-- `is_stale_writer_error`, on the text of an error. -/
def isStaleWriterError (message : String) : Bool :=
  decide (staleWriterMessage.toList <:+: message.toList)

/-- `LIVE_REDIS_ENTRY_MAX_BYTES`. -/
def liveRedisEntryMaxBytes : Nat := 8 * 1024 * 1024

/-- `MAX_PENDING_RECOVERY_PAYLOADS`. -/
def maxPendingRecoveryPayloads : Nat := 1024

/-- `format_redis_snapshot_id`. -/
def formatRedisSnapshotId (chainId generation : UInt64) : String :=
  "chain-" ++ u64ToString chainId ++ "-snapshot-" ++ u64ToString generation

/-- `state_version_base`. -/
def stateVersionBase (generation : UInt64) : UInt64 :=
  .ofNat (min (generation.toNat * 2 ^ 48) (2 ^ 64 - 1))

namespace BroadcasterRedisPublisherState

/-- `record_append_success`. -/
def recordAppendSuccess (state : BroadcasterRedisPublisherState Sim) (nextMessageSeq : UInt64) :
    BroadcasterRedisPublisherState Sim :=
  { state with nextMessageSeq, lastError := none }

/-- `record_unhealthy`. -/
def recordUnhealthy (state : BroadcasterRedisPublisherState Sim) (lastError : String) :
    BroadcasterRedisPublisherState Sim :=
  { state with mode := .unhealthy, lastError := some lastError }

/-- `record_retired`. -/
def recordRetired (state : BroadcasterRedisPublisherState Sim) (lastError : String) :
    BroadcasterRedisPublisherState Sim :=
  { state with mode := .retired, lastError := some lastError }

/-- `record_publisher_error`. -/
def recordPublisherError (state : BroadcasterRedisPublisherState Sim) (message : String) :
    BroadcasterRedisPublisherState Sim :=
  if isStaleWriterError message then state.recordRetired message
  else state.recordUnhealthy message

/-- `activate_generation`. -/
def activateGeneration (state : BroadcasterRedisPublisherState Sim) (chainId generation : UInt64) :
    BroadcasterRedisPublisherState Sim :=
  { state with
    mode := .active
    generation
    streamId := formatRedisStreamId chainId generation
    snapshotId := formatRedisSnapshotId chainId generation
    nextMessageSeq := 2
    committedStateVersion := stateVersionBase generation
    nextStateVersion := stateVersionBase generation
    lastError := none }

/-- `allocate_state_version`. -/
def allocateStateVersion (state : BroadcasterRedisPublisherState Sim) :
    Except PublishError (UInt64 × BroadcasterRedisPublisherState Sim) :=
  if state.nextStateVersion.toNat + 1 < 2 ^ 64 then
    .ok (state.nextStateVersion + 1,
      { state with nextStateVersion := state.nextStateVersion + 1 })
  else .error (.text "Redis broadcaster state version overflow")

/-- The publisher may append: `ensure_active_publisher`. -/
def IsActive (state : BroadcasterRedisPublisherState Sim) : Prop :=
  state.mode = .active ∧ state.lastError = none

instance (state : BroadcasterRedisPublisherState Sim) : Decidable state.IsActive :=
  inferInstanceAs (Decidable (_ ∧ _))

/-- `replay_boundary_locked`. -/
def replayBoundary (streamKey : String) (state : BroadcasterRedisPublisherState Sim) :
    Except BroadcasterContractError BroadcasterRedisReplayBoundary :=
  BroadcasterRedisReplayBoundary.new streamKey state.streamId state.snapshotId state.generation
    (state.nextMessageSeq - 1) state.committedStateVersion

end BroadcasterRedisPublisherState

/-! ## Payloads

Before it is sent a live payload is normalised: checks are run, and the ids of the generation are
filled in. -/

/-- `BroadcasterHeartbeat::new`. -/
def BroadcasterHeartbeat.new (chainId : UInt64) (snapshotId : String)
    (backendHeads : List BroadcasterBackendHead) :
    Except BroadcasterContractError BroadcasterHeartbeat := do
  let backendHeads := backendHeads.insertionSort fun a b => (compare a.backend b.backend).isLE
  validateHeartbeatBackendHeads backendHeads
  return { chainId, snapshotId, backendHeads }

/-- `BroadcasterProgress::new`. The reason a progress message carries is not empty. -/
def BroadcasterProgress.new (chainId : UInt64) (snapshotId : String)
    (backends : List BroadcasterBackend) (reason : String) :
    Except PublishError BroadcasterProgress := do
  let backends := backends.insertionSort fun a b => (compare a b).isLE
  (validateProgressBackends backends).mapError .contract
  ensure (rustTrim reason ≠ "") (.text "progress reason must not be empty")
  return { chainId, snapshotId, backends, reason }

/-- `normalize_live_payload`. -/
def normalizeLivePayload (payload : BroadcasterPayload Sim) (snapshotId : String) :
    Except PublishError (BroadcasterPayload Sim) :=
  match payload with
  | .update _ => .ok payload
  | .heartbeat heartbeat =>
    ((BroadcasterHeartbeat.new heartbeat.chainId snapshotId heartbeat.backendHeads).mapError
      .contract).map .heartbeat
  | .progress progress =>
    (BroadcasterProgress.new progress.chainId snapshotId progress.backends progress.reason).map
      .progress
  | .snapshotStart _ | .snapshotChunk _ | .snapshotEnd _ | .recoveryStart _ | .recoveryChunk _
  | .recoveryCatchUp _ | .recoveryCommit _ =>
    .error (.text "Redis broadcaster live payload cannot be a snapshot or recovery message")

/-- `BroadcasterUpdateMessage::complete_native_block`. -/
def BroadcasterUpdateMessage.completeNativeBlock (update : BroadcasterUpdateMessage Sim) :
    Option UInt64 :=
  (update.partitions.find? (·.backend = .native)).bind fun partition =>
    completeBroadcasterPartitionBlock partition.blockNumber partition.messages
      partition.syncStatuses

/-- `complete_native_block`. -/
def BroadcasterPayload.completeNativeBlock : BroadcasterPayload Sim → Option UInt64
  | .update message => message.completeNativeBlock
  | _ => none

/-- The payload is an update. -/
def BroadcasterPayload.advancesState : BroadcasterPayload Sim → Bool
  | .update _ => true
  | _ => false

/-- What is left of a queued payload when some backends are replaced. -/
def trimTargetBackends (backends : List BroadcasterBackend) :
    BroadcasterPayload Sim → Option (BroadcasterPayload Sim)
  | .update update =>
    let partitions := update.partitions.filter fun partition => !backends.contains partition.backend
    if partitions.isEmpty then none else some (.update { partitions })
  | payload => some payload

/-- `trim_queued_target_backends`. -/
def trimQueuedTargetBackends (pendingPayloads : List (BroadcasterPayload Sim))
    (backends : List BroadcasterBackend) : List (BroadcasterPayload Sim) :=
  pendingPayloads.filterMap (trimTargetBackends backends)

/-- `queued_complete_native_blocks`. -/
def queuedCompleteNativeBlocks (pendingPayloads : List (BroadcasterPayload Sim)) : FinSet UInt64 :=
  .ofList (pendingPayloads.filterMap (·.completeNativeBlock))

/-! ## The gate

While a recovery is open, payloads wait in a queue. The queue is bounded by a number of payloads and
by a number of native blocks, and what concerns the backends that are recovered is taken out of
it. -/

namespace PublisherRecoveryGate

/-- `begin_recovery`, with the reservation's id and its flag. -/
def beginRecovery (gate : PublisherRecoveryGate Sim) (maxBufferedNativeBlocks : Nat)
    (backends : List BroadcasterBackend) (recoveryId : String) (cancelled : Bool) :
    PublisherRecoveryGate Sim :=
  let pendingPayloads :=
    if gate.openRecoveryId = none then gate.pendingPayloads
    else trimQueuedTargetBackends gate.pendingPayloads backends
  let completeNativeBlocks := queuedCompleteNativeBlocks pendingPayloads
  { openRecoveryId := some recoveryId
    cancelled := cancelled || decide (maxBufferedNativeBlocks ≤ completeNativeBlocks.size)
    completeNativeBlocks, pendingPayloads }

/-- `publish_accepted_payload` at an open gate. -/
def accept (gate : PublisherRecoveryGate Sim) (maxBufferedNativeBlocks : Nat)
    (payload : BroadcasterPayload Sim) : Except PublishError Unit × PublisherRecoveryGate Sim :=
  match payload with
  | .heartbeat _ => (.ok (), gate)
  | payload =>
    let completeNativeBlocks :=
      payload.completeNativeBlock.elim gate.completeNativeBlocks gate.completeNativeBlocks.insert
    let full := decide (maxBufferedNativeBlocks ≤ completeNativeBlocks.size)
    let gate := { gate with
      completeNativeBlocks
      cancelled := gate.cancelled || payload.completeNativeBlock.isSome && full }
    if gate.pendingPayloads.length < maxPendingRecoveryPayloads then
      (.ok (), { gate with pendingPayloads := gate.pendingPayloads ++ [payload] })
    else (.error (.text "Redis broadcaster recovery payload queue is full"), gate)

end PublisherRecoveryGate

/-- `publish_accepted_payload` of a passive publisher. The buffer is `late` after
`STARTUP_HANDOFF_ABORT_AFTER`. -/
def StartupHandoffBuffer.accept (buffer : StartupHandoffBuffer Sim)
    (maxBufferedNativeBlocks : Nat) (late : Bool) (payload : BroadcasterPayload Sim) :
    Except PublishError (StartupHandoffBuffer Sim) := do
  ensure (buffer.frozen = false)
    (.text "startup handoff cannot accept publications after it is frozen")
  let completeNativeBlocks :=
    payload.completeNativeBlock.elim buffer.completeNativeBlocks buffer.completeNativeBlocks.insert
  let buffer := { buffer with completeNativeBlocks }
  if late || decide (maxBufferedNativeBlocks ≤ completeNativeBlocks.size) then
    return { buffer with cancelled := true, payloads := [] }
  else if buffer.cancelled then return buffer
  else return { buffer with payloads := buffer.payloads ++ [payload] }

/-! ## Entries of a live payload

A live payload that changes state gets the next version, others the one that is committed. -/

section

variable (json : EnvelopeJson Sim) (config : BroadcasterRedisPublisherConfig)

/-- An entry ready to be appended, with the state version it moves to. -/
structure PreparedPayload where
  entry : BroadcasterRedisStreamEntry
  stateVersion : Option UInt64

/-- The entry of a live payload. -/
def liveEntry (state : BroadcasterRedisPublisherState Sim) (payload : BroadcasterPayload Sim)
    (currentTimeMs stateVersion : UInt64) : Except PublishError BroadcasterRedisStreamEntry := do
  let entry ← recoveryEntry json config state.streamId state.nextMessageSeq payload currentTimeMs
    stateVersion
  let limit := if entry.kind.isRecovery then recoveryRedisEntryMaxBytes else liveRedisEntryMaxBytes
  let _ ← ensureRedisEntrySize config entry limit
  return entry

/-- `append_live_payload_locked` before its append. A version stays allocated when the entry cannot
be built. -/
def prepareLivePayload (state : BroadcasterRedisPublisherState Sim)
    (payload : BroadcasterPayload Sim) (currentTimeMs : UInt64) :
    Except PublishError PreparedPayload × BroadcasterRedisPublisherState Sim :=
  if payload.advancesState then
    match state.allocateStateVersion with
    | .error error => (.error error, state)
    | .ok (stateVersion, state) =>
      ((liveEntry json config state payload currentTimeMs stateVersion).map fun entry =>
        { entry, stateVersion := some stateVersion }, state)
  else
    ((liveEntry json config state payload currentTimeMs state.committedStateVersion).map fun entry =>
      { entry, stateVersion := none }, state)

end

/-! ## Entries of a recovery

All entries of a recovery are built before the first one is sent. They have one target version and
numbers in a row: the start, the chunks, the updates of Buffer A, and the commit. -/

/-- `BroadcasterRecoveryTransaction`. -/
structure BroadcasterRecoveryTransaction (Sim : Type) where
  recoveryId : String
  backends : List BroadcasterBackend
  replacementJson : String
  bufferA : List (BroadcasterUpdateMessage Sim)

/-- The times at which the entries of a recovery are built. -/
structure RecoveryClock where
  start : UInt64
  chunk : Nat → Nat → UInt64
  catchUp : Nat → UInt64
  commit : UInt64

/-- `BroadcasterRecoveryManifest::new`. -/
def BroadcasterRecoveryManifest.new (recoveryId : String) (targetStateVersion : UInt64)
    (backends : List BroadcasterBackend) (replacementEncodedBytes : UInt64)
    (chunkEncodedBytes : List UInt64) (chunkDigests : List String) (replacementDigest : String)
    (bufferACount : UInt32) (commitWatermark : UInt64) :
    Except BroadcasterContractError BroadcasterRecoveryManifest := do
  ensure (chunkEncodedBytes.length < 2 ^ 32) (recoveryError "chunk count exceeds u32")
  let manifest : BroadcasterRecoveryManifest :=
    { recoveryId, targetStateVersion
      backends := backends.insertionSort fun a b => (compare a b).isLE
      chunkCount := .ofNat chunkEncodedBytes.length, replacementEncodedBytes, chunkEncodedBytes
      chunkDigests, replacementDigest, bufferACount, commitWatermark }
  validateRecoveryManifest manifest
  return manifest

/-- `BroadcasterRecoveryStart::new`. -/
def BroadcasterRecoveryStart.new (manifest : BroadcasterRecoveryManifest) :
    Except BroadcasterContractError BroadcasterRecoveryStart := do
  validateRecoveryManifest manifest
  return { manifest }

/-- `BroadcasterRecoveryCatchUp::new`. -/
def BroadcasterRecoveryCatchUp.new (recoveryId : String) (targetStateVersion : UInt64)
    (blockIndex : UInt32) (update : BroadcasterUpdateMessage Sim) :
    Except BroadcasterContractError (BroadcasterRecoveryCatchUp Sim) := do
  let catchUp : BroadcasterRecoveryCatchUp Sim :=
    { recoveryId, targetStateVersion, blockIndex, update }
  validateRecoveryCatchUp catchUp
  return catchUp

/-- `BroadcasterRecoveryCommit::new`. -/
def BroadcasterRecoveryCommit.new (recoveryId : String) (targetStateVersion : UInt64)
    (backends : List BroadcasterBackend) (replacementDigest : String) (bufferACount : UInt32)
    (commitWatermark : UInt64) : Except BroadcasterContractError BroadcasterRecoveryCommit := do
  let commit : BroadcasterRecoveryCommit :=
    { recoveryId, targetStateVersion
      backends := backends.insertionSort fun a b => (compare a b).isLE
      replacementDigest, bufferACount, commitWatermark }
  validateRecoveryCommit commit
  return commit

section

variable (json : EnvelopeJson Sim) (config : BroadcasterRedisPublisherConfig)
  (digestBytes : String → String) (streamId : String) (nextMessageSeq targetStateVersion : UInt64)

/-- The number of the commit: it follows the start, the chunks and Buffer A. -/
def commitWatermark (chunkCount bufferACount : Nat) : Except PublishError UInt64 := do
  ensure (nextMessageSeq.toNat + chunkCount + bufferACount + 1 < 2 ^ 64)
    (.text "Redis broadcaster recovery message_seq overflow")
  return .ofNat (nextMessageSeq.toNat + chunkCount + bufferACount + 1)

/-- The entry that opens a recovery. -/
def recoveryStartEntry (transaction : BroadcasterRecoveryTransaction Sim)
    (fragments : List PreparedRecoveryFragment) (chunkEncodedBytes : List Nat)
    (commitWatermark currentTimeMs : UInt64) : Except PublishError BroadcasterRedisStreamEntry := do
  ensure (transaction.bufferA.length < 2 ^ 32)
    (.text "out of range integral type conversion attempted")
  let manifest ← (BroadcasterRecoveryManifest.new transaction.recoveryId targetStateVersion
    transaction.backends (.ofNat transaction.replacementJson.utf8ByteSize)
    (chunkEncodedBytes.map .ofNat) (fragments.map (·.digest))
    (digestBytes transaction.replacementJson) (.ofNat transaction.bufferA.length)
    commitWatermark).mapError .contract
  let start ← (BroadcasterRecoveryStart.new manifest).mapError .contract
  let entry ← recoveryEntry json config streamId nextMessageSeq (.recoveryStart start) currentTimeMs
    targetStateVersion
  let _ ← ensureRedisEntrySize config entry recoveryRedisEntryMaxBytes
  return entry

/-- The entry of an update of Buffer A. -/
def recoveryCatchUpEntry (transaction : BroadcasterRecoveryTransaction Sim) (chunkCount : Nat)
    (blockIndex : Nat) (update : BroadcasterUpdateMessage Sim) (currentTimeMs : UInt64) :
    Except PublishError BroadcasterRedisStreamEntry := do
  ensure (nextMessageSeq.toNat + 1 + chunkCount + blockIndex < 2 ^ 64)
    (.text "Redis broadcaster Buffer A sequence overflow")
  ensure (blockIndex < 2 ^ 32) (.text "out of range integral type conversion attempted")
  let catchUp ← (BroadcasterRecoveryCatchUp.new transaction.recoveryId targetStateVersion
    (.ofNat blockIndex) update).mapError .contract
  let entry ← recoveryEntry json config streamId
    (.ofNat (nextMessageSeq.toNat + 1 + chunkCount + blockIndex)) (.recoveryCatchUp catchUp)
    currentTimeMs targetStateVersion
  let _ ← ensureRedisEntrySize config entry recoveryRedisEntryMaxBytes
  return entry

/-- The entry that makes a recovery visible. -/
def recoveryCommitEntry (transaction : BroadcasterRecoveryTransaction Sim)
    (commitWatermark currentTimeMs : UInt64) : Except PublishError BroadcasterRedisStreamEntry := do
  let commit ← (BroadcasterRecoveryCommit.new transaction.recoveryId targetStateVersion
    transaction.backends (digestBytes transaction.replacementJson)
    (.ofNat transaction.bufferA.length) commitWatermark).mapError .contract
  let entry ← recoveryEntry json config streamId commitWatermark (.recoveryCommit commit)
    currentTimeMs targetStateVersion
  let _ ← ensureRedisEntrySize config entry recoveryRedisEntryMaxBytes
  return entry

/-- The entries `publish_recovery` builds before it appends the first one. -/
def recoveryEntries (transaction : BroadcasterRecoveryTransaction Sim) (clock : RecoveryClock) :
    Except PublishError (List BroadcasterRedisStreamEntry) := do
  let fragments ← prepareRecoveryFragments digestBytes transaction.replacementJson
  let chunkCount := fragments.length
  let commitWatermark ← commitWatermark nextMessageSeq chunkCount transaction.bufferA.length
  let chunks ← recoveryChunkEntries json config streamId nextMessageSeq
    ⟨transaction.recoveryId, targetStateVersion, transaction.backends⟩ fragments clock.chunk
  let start ← recoveryStartEntry json config digestBytes streamId nextMessageSeq targetStateVersion
    transaction fragments (chunks.map (·.2)) commitWatermark clock.start
  let catchUps ← transaction.bufferA.zipIdx.mapM fun (update, blockIndex) =>
    recoveryCatchUpEntry json config streamId nextMessageSeq targetStateVersion transaction
      chunkCount blockIndex update (clock.catchUp blockIndex)
  let commit ← recoveryCommitEntry json config digestBytes streamId targetStateVersion transaction
    commitWatermark clock.commit
  let entries := start :: (chunks.map (·.1) ++ catchUps ++ [commit])
  let _ ← entries.foldlM (fun total entry => do
    let size ← redisEntryEncodedSize config entry
    ensure (total + size < 2 ^ 64) (.text "recovery byte count overflow")
    return total + size) 0
  return entries

end

/-! ## What is built -/

/-- The numbers an entry was built with. -/
structure NumberedEntry (entry : BroadcasterRedisStreamEntry) (messageSeq : Nat)
    (stateVersion : UInt64) (kind : BroadcasterMessageKind) : Prop where
  messageSeq : entry.messageSeq.toNat = messageSeq
  stateVersion : entry.stateVersion = stateVersion
  kind : entry.kind = kind

/-- The entries that are left of a recovery, numbered from the given one on. -/
inductive RecoveryTail (targetStateVersion : UInt64) :
    Nat → List BroadcasterRedisStreamEntry → Prop where
  | commit {messageSeq : Nat} {entry : BroadcasterRedisStreamEntry} :
    NumberedEntry entry messageSeq targetStateVersion .recoveryCommit →
    RecoveryTail targetStateVersion messageSeq [entry]
  | inside {messageSeq : Nat} {kind : BroadcasterMessageKind} {entry : BroadcasterRedisStreamEntry}
      {rest : List BroadcasterRedisStreamEntry} :
    kind.isInside = true → NumberedEntry entry messageSeq targetStateVersion kind →
    RecoveryTail targetStateVersion (messageSeq + 1) rest →
    RecoveryTail targetStateVersion messageSeq (entry :: rest)

/-- Entries inside a recovery, in front of a tail of it. -/
theorem RecoveryTail.append {targetStateVersion : UInt64} {messageSeq : Nat}
    {entries rest : List BroadcasterRedisStreamEntry}
    (h : ∀ i entry, entries[i]? = some entry → ∃ kind : BroadcasterMessageKind,
      kind.isInside = true ∧ NumberedEntry entry (messageSeq + i) targetStateVersion kind)
    (hrest : RecoveryTail targetStateVersion (messageSeq + entries.length) rest) :
    RecoveryTail targetStateVersion messageSeq (entries ++ rest) := by
  induction entries generalizing messageSeq with
  | nil => exact hrest
  | cons entry entries ih =>
    obtain ⟨kind, hkind, hentry⟩ := h 0 entry rfl
    refine .inside hkind hentry (ih (fun i entry hi => ?_) ?_)
    · obtain ⟨kind, hkind, hentry⟩ := h (i + 1) entry hi
      exact ⟨kind, hkind, by rwa [Nat.add_assoc, Nat.add_comm 1 i]⟩
    · rwa [Nat.add_assoc, Nat.add_comm 1 entries.length]

section

variable {json : EnvelopeJson Sim} {config : BroadcasterRedisPublisherConfig} {streamId : String}

/-- An entry has the number, the version and the kind it was built with. -/
theorem recoveryEntry_numbered {messageSeq currentTimeMs stateVersion : UInt64}
    {payload : BroadcasterPayload Sim} {entry : BroadcasterRedisStreamEntry}
    (h : recoveryEntry json config streamId messageSeq payload currentTimeMs stateVersion =
      .ok entry) : NumberedEntry entry messageSeq.toNat stateVersion payload.kind := by
  rw [recoveryEntry, mapError_eq_ok, fromEnvelopeAt, check_bind_eq_ok] at h
  obtain ⟨-, h⟩ := h
  obtain ⟨_, -, h⟩ := bind_eq_ok.mp h
  obtain ⟨_, -, h⟩ := bind_eq_ok.mp h
  obtain ⟨_, -, h⟩ := bind_eq_ok.mp h
  obtain ⟨_, -, h⟩ := bind_eq_ok.mp h
  rw [check_bind_eq_ok, pure_eq_ok] at h
  obtain ⟨-, rfl⟩ := h
  exact ⟨rfl, rfl, rfl⟩

/-- An entry that is measured and returned. -/
theorem sized_numbered {messageSeq currentTimeMs stateVersion : UInt64}
    {payload : BroadcasterPayload Sim} {limit : BroadcasterRedisStreamEntry → Nat}
    {entry : BroadcasterRedisStreamEntry}
    (h : (do
      let entry ← recoveryEntry json config streamId messageSeq payload currentTimeMs stateVersion
      let _ ← ensureRedisEntrySize config entry (limit entry)
      return entry) = Except.ok entry) :
    NumberedEntry entry messageSeq.toNat stateVersion payload.kind := by
  obtain ⟨built, hbuilt, h⟩ := bind_eq_ok.mp h
  obtain ⟨_, -, h⟩ := bind_eq_ok.mp h
  obtain rfl := pure_eq_ok.mp h
  exact recoveryEntry_numbered hbuilt

/-- The entry of a chunk has its number, whatever size it ends up with. -/
theorem buildFrom_numbered {messageSeq : UInt64} {scope : RecoveryEntryScope} {chunkIndex : Nat}
    {fragment : PreparedRecoveryFragment} {clock : Nat → UInt64} {attempts encodedBytes : Nat}
    {built : BroadcasterRedisStreamEntry × Nat}
    (h : buildFrom json config streamId messageSeq scope chunkIndex fragment clock attempts
      encodedBytes = .ok built) :
    NumberedEntry built.1 messageSeq.toNat scope.targetStateVersion .recoveryChunk := by
  induction attempts generalizing encodedBytes with
  | zero => cases h
  | succ attempts ih =>
    rw [buildFrom, check_bind_eq_ok] at h
    obtain ⟨-, h⟩ := h
    obtain ⟨chunk, -, h⟩ := bind_eq_ok.mp h
    obtain ⟨entry, hentry, h⟩ := bind_eq_ok.mp h
    obtain ⟨measured, -, h⟩ := bind_eq_ok.mp h
    split at h
    case isFalse => exact ih h
    case isTrue =>
      obtain ⟨_, -, h⟩ := bind_eq_ok.mp h
      obtain rfl := pure_eq_ok.mp h
      exact recoveryEntry_numbered hentry

variable {digestBytes : String → String} {nextMessageSeq targetStateVersion : UInt64}
  {transaction : BroadcasterRecoveryTransaction Sim}

theorem recoveryStartEntry_numbered {fragments : List PreparedRecoveryFragment}
    {chunkEncodedBytes : List Nat} {commitWatermark currentTimeMs : UInt64}
    {entry : BroadcasterRedisStreamEntry}
    (h : recoveryStartEntry json config digestBytes streamId nextMessageSeq targetStateVersion
      transaction fragments chunkEncodedBytes commitWatermark currentTimeMs = .ok entry) :
    NumberedEntry entry nextMessageSeq.toNat targetStateVersion .recoveryStart := by
  rw [recoveryStartEntry, check_bind_eq_ok] at h
  obtain ⟨-, h⟩ := h
  obtain ⟨_, -, h⟩ := bind_eq_ok.mp h
  obtain ⟨start, -, h⟩ := bind_eq_ok.mp h
  exact sized_numbered h

theorem recoveryCatchUpEntry_numbered {chunkCount blockIndex : Nat}
    {update : BroadcasterUpdateMessage Sim} {currentTimeMs : UInt64}
    {entry : BroadcasterRedisStreamEntry}
    (h : recoveryCatchUpEntry json config streamId nextMessageSeq targetStateVersion transaction
      chunkCount blockIndex update currentTimeMs = .ok entry) :
    NumberedEntry entry (nextMessageSeq.toNat + 1 + chunkCount + blockIndex) targetStateVersion
      .recoveryCatchUp := by
  rw [recoveryCatchUpEntry, check_bind_eq_ok, ensure_eq_ok, check_bind_eq_ok] at h
  obtain ⟨hlt, -, h⟩ := h
  obtain ⟨_, -, h⟩ := bind_eq_ok.mp h
  have hentry := sized_numbered h
  rwa [UInt64.toNat_ofNat_of_lt' hlt] at hentry

/-- The commit has the number that the start promised. -/
theorem recoveryCommitEntry_numbered {commitWatermark currentTimeMs : UInt64}
    {entry : BroadcasterRedisStreamEntry}
    (h : recoveryCommitEntry json config digestBytes streamId targetStateVersion transaction
      commitWatermark currentTimeMs = .ok entry) :
    NumberedEntry entry commitWatermark.toNat targetStateVersion .recoveryCommit := by
  rw [recoveryCommitEntry] at h
  obtain ⟨_, -, h⟩ := bind_eq_ok.mp h
  exact sized_numbered h

theorem recoveryChunkEntries_numbered {scope : RecoveryEntryScope}
    {fragments : List PreparedRecoveryFragment} {clock : Nat → Nat → UInt64}
    {chunks : List (BroadcasterRedisStreamEntry × Nat)}
    (h : recoveryChunkEntries json config streamId nextMessageSeq scope fragments clock =
      .ok chunks) :
    chunks.length = fragments.length ∧ ∀ i chunk, chunks[i]? = some chunk →
      NumberedEntry chunk.1 (nextMessageSeq.toNat + 1 + i) scope.targetStateVersion
        .recoveryChunk := by
  obtain ⟨hlength, hchunks⟩ := mapM_zipIdx_eq_ok h
  refine ⟨hlength, fun i chunk hi => ?_⟩
  obtain ⟨fragment, -, hchunk⟩ := hchunks i chunk hi
  rw [check_bind_eq_ok, ensure_eq_ok] at hchunk
  have hentry := buildFrom_numbered hchunk.2
  rwa [UInt64.toNat_ofNat_of_lt' hchunk.1] at hentry

/-- **The entries of a recovery**: a start, and what is left of it after that. -/
theorem recoveryEntries_numbered {clock : RecoveryClock} {entries : List BroadcasterRedisStreamEntry}
    (h : recoveryEntries json config digestBytes streamId nextMessageSeq targetStateVersion
      transaction clock = .ok entries) :
    ∃ start rest, entries = start :: rest ∧
      NumberedEntry start nextMessageSeq.toNat targetStateVersion .recoveryStart ∧
      RecoveryTail targetStateVersion (nextMessageSeq.toNat + 1) rest := by
  obtain ⟨fragments, -, h⟩ := bind_eq_ok.mp h
  obtain ⟨watermark, hwatermark, h⟩ := bind_eq_ok.mp h
  obtain ⟨chunks, hchunks, h⟩ := bind_eq_ok.mp h
  obtain ⟨start, hstart, h⟩ := bind_eq_ok.mp h
  obtain ⟨catchUps, hcatchUps, h⟩ := bind_eq_ok.mp h
  obtain ⟨commit, hcommit, h⟩ := bind_eq_ok.mp h
  obtain ⟨_, -, h⟩ := bind_eq_ok.mp h
  obtain rfl := pure_eq_ok.mp h
  obtain ⟨hchunkCount, hchunks⟩ := recoveryChunkEntries_numbered hchunks
  obtain ⟨hcatchUpCount, hcatchUps⟩ := mapM_zipIdx_eq_ok hcatchUps
  rw [commitWatermark, check_bind_eq_ok, ensure_eq_ok, pure_eq_ok] at hwatermark
  obtain ⟨hlt, rfl⟩ := hwatermark
  refine ⟨start, _, rfl, recoveryStartEntry_numbered hstart, ?_⟩
  rw [List.append_assoc]
  refine .append (fun i entry hi => ?_) (.append (fun i entry hi => ?_) (.commit ?_))
  · rw [List.getElem?_map, Option.map_eq_some_iff] at hi
    obtain ⟨chunk, hi, rfl⟩ := hi
    exact ⟨_, rfl, hchunks i chunk hi⟩
  · obtain ⟨update, -, hentry⟩ := hcatchUps i entry hi
    rw [List.length_map, hchunkCount]
    exact ⟨_, rfl, recoveryCatchUpEntry_numbered hentry⟩
  · have hentry := recoveryCommitEntry_numbered hcommit
    rw [UInt64.toNat_ofNat_of_lt' hlt] at hentry
    rw [List.length_map, hchunkCount, hcatchUpCount]
    convert hentry using 1
    omega

/-- A live entry has the next number and its kind. -/
theorem liveEntry_numbered {state : BroadcasterRedisPublisherState Sim}
    {payload : BroadcasterPayload Sim} {currentTimeMs stateVersion : UInt64}
    {entry : BroadcasterRedisStreamEntry}
    (h : liveEntry json config state payload currentTimeMs stateVersion = .ok entry) :
    NumberedEntry entry state.nextMessageSeq.toNat stateVersion payload.kind :=
  sized_numbered h

end

end TychoSimulationServer
