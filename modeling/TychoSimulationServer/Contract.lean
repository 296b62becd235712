import Mathlib.Data.Finset.Basic
import TychoSimulationServer.Feed
import TychoSimulationServer.Fallible

/-!
# The broadcaster contract

The payloads a broadcaster publishes and the checks both sides of the wire run on them. A payload
is made of partitions, one per backend; a partition may hold raw protocol messages, decoded states
and sync statuses, and every one of them must classify to the partition's own backend.

The state of a pool is an opaque simulator object in the source, so it is a type parameter `Sim`.
-/

namespace TychoSimulationServer

open Fallible

variable {Sim : Type}

/-! ## Payloads

A recovery is sent as four kinds of messages: a start with the manifest, the chunks of the
replacement, the updates accepted meanwhile, and a commit. The other kinds are the snapshot of a
bootstrap and the live messages behind it. -/

/-- `BroadcasterMessageKind`. -/
inductive BroadcasterMessageKind where
  | snapshotStart
  | snapshotChunk
  | snapshotEnd
  | recoveryStart
  | recoveryChunk
  | recoveryCatchUp
  | recoveryCommit
  | update
  | heartbeat
  | progress
deriving DecidableEq, Repr

/-- `BroadcasterMessageKind::as_str`, which is also how serde writes a kind. -/
def BroadcasterMessageKind.asStr : BroadcasterMessageKind → String
  | .snapshotStart => "snapshot_start"
  | .snapshotChunk => "snapshot_chunk"
  | .snapshotEnd => "snapshot_end"
  | .recoveryStart => "recovery_start"
  | .recoveryChunk => "recovery_chunk"
  | .recoveryCatchUp => "recovery_catch_up"
  | .recoveryCommit => "recovery_commit"
  | .update => "update"
  | .heartbeat => "heartbeat"
  | .progress => "progress"

/-- The kind serde reads from a text. -/
def BroadcasterMessageKind.fromStr : String → Option BroadcasterMessageKind
  | "snapshot_start" => some .snapshotStart
  | "snapshot_chunk" => some .snapshotChunk
  | "snapshot_end" => some .snapshotEnd
  | "recovery_start" => some .recoveryStart
  | "recovery_chunk" => some .recoveryChunk
  | "recovery_catch_up" => some .recoveryCatchUp
  | "recovery_commit" => some .recoveryCommit
  | "update" => some .update
  | "heartbeat" => some .heartbeat
  | "progress" => some .progress
  | _ => none

theorem BroadcasterMessageKind.fromStr_asStr (kind : BroadcasterMessageKind) :
    fromStr kind.asStr = some kind := by
  cases kind <;> rfl

/-- A decoded pool: its component and its simulator state. -/
structure BroadcasterStateEntry (Sim : Type) where
  componentId : String
  component : ProtocolComponent
  state : Sim
deriving DecidableEq

/-- A new state of a pool the consumer knows already. -/
structure BroadcasterStateDelta (Sim : Type) where
  componentId : String
  backend : BroadcasterBackend
  state : Sim
deriving DecidableEq

/-- A pool that is gone. -/
structure BroadcasterRemovedPair where
  componentId : String
  component : ProtocolComponent
deriving DecidableEq

/-- One backend's share of a snapshot chunk. -/
structure BroadcasterSnapshotPartition (Sim : Type) where
  backend : BroadcasterBackend
  blockNumber : UInt64
  messages : List BroadcasterProtocolMessage
  states : List (BroadcasterStateEntry Sim)
  syncStatuses : FinMap String BroadcasterProtocolSyncStatus
deriving DecidableEq

/-- One backend's share of an update. -/
structure BroadcasterUpdatePartition (Sim : Type) where
  backend : BroadcasterBackend
  blockNumber : UInt64
  messages : List BroadcasterProtocolMessage
  newPairs : List (BroadcasterStateEntry Sim)
  updatedStates : List (BroadcasterStateDelta Sim)
  removedPairs : List BroadcasterRemovedPair
  syncStatuses : FinMap String BroadcasterProtocolSyncStatus
deriving DecidableEq

/-- `BroadcasterUpdatePartition::is_empty`. -/
def BroadcasterUpdatePartition.isEmpty (partition : BroadcasterUpdatePartition Sim) : Bool :=
  partition.messages.isEmpty && partition.newPairs.isEmpty && partition.updatedStates.isEmpty
    && partition.removedPairs.isEmpty && partition.syncStatuses.isEmpty

/-- Opens a snapshot and declares its backends and its number of chunks. -/
structure BroadcasterSnapshotStart where
  snapshotId : String
  chainId : UInt64
  backends : List BroadcasterBackend
  totalChunks : UInt32
deriving DecidableEq, Repr

/-- One chunk of a snapshot. -/
structure BroadcasterSnapshotChunk (Sim : Type) where
  snapshotId : String
  chunkIndex : UInt32
  partitions : List (BroadcasterSnapshotPartition Sim)
deriving DecidableEq

/-- Closes a snapshot. -/
structure BroadcasterSnapshotEnd where
  snapshotId : String
deriving DecidableEq, Repr

/-- What a recovery transaction promises before it sends anything else. -/
structure BroadcasterRecoveryManifest where
  recoveryId : String
  targetStateVersion : UInt64
  backends : List BroadcasterBackend
  chunkCount : UInt32
  replacementEncodedBytes : UInt64
  chunkEncodedBytes : List UInt64
  chunkDigests : List String
  replacementDigest : String
  bufferACount : UInt32
  commitWatermark : UInt64
deriving DecidableEq, Repr

/-- Opens a recovery transaction. -/
structure BroadcasterRecoveryStart where
  manifest : BroadcasterRecoveryManifest
deriving DecidableEq, Repr

/-- A fragment of the replacement snapshot of a recovery. -/
structure BroadcasterRecoveryChunk where
  recoveryId : String
  targetStateVersion : UInt64
  backends : List BroadcasterBackend
  chunkIndex : UInt32
  encodedBytes : UInt64
  digest : String
  payloadFragment : String
deriving DecidableEq, Repr

/-- `BroadcasterUpdateMessage`. -/
structure BroadcasterUpdateMessage (Sim : Type) where
  partitions : List (BroadcasterUpdatePartition Sim)
deriving DecidableEq

/-- An update accepted while the replacement was being built. -/
structure BroadcasterRecoveryCatchUp (Sim : Type) where
  recoveryId : String
  targetStateVersion : UInt64
  blockIndex : UInt32
  update : BroadcasterUpdateMessage Sim
deriving DecidableEq

/-- Makes a recovery transaction visible. -/
structure BroadcasterRecoveryCommit where
  recoveryId : String
  targetStateVersion : UInt64
  backends : List BroadcasterBackend
  replacementDigest : String
  bufferACount : UInt32
  commitWatermark : UInt64
deriving DecidableEq, Repr

/-- The head of one backend. -/
structure BroadcasterBackendHead where
  backend : BroadcasterBackend
  blockNumber : UInt64
deriving DecidableEq, Repr

/-- A sign of life with the heads of all backends. -/
structure BroadcasterHeartbeat where
  chainId : UInt64
  snapshotId : String
  backendHeads : List BroadcasterBackendHead
deriving DecidableEq, Repr

/-- A sign of life while some backends are being rebuilt. -/
structure BroadcasterProgress where
  chainId : UInt64
  snapshotId : String
  backends : List BroadcasterBackend
  reason : String
deriving DecidableEq, Repr

/-- `BroadcasterPayload`. -/
inductive BroadcasterPayload (Sim : Type) where
  | snapshotStart (start : BroadcasterSnapshotStart)
  | snapshotChunk (chunk : BroadcasterSnapshotChunk Sim)
  | snapshotEnd (finish : BroadcasterSnapshotEnd)
  | recoveryStart (start : BroadcasterRecoveryStart)
  | recoveryChunk (chunk : BroadcasterRecoveryChunk)
  | recoveryCatchUp (catchUp : BroadcasterRecoveryCatchUp Sim)
  | recoveryCommit (commit : BroadcasterRecoveryCommit)
  | update (update : BroadcasterUpdateMessage Sim)
  | heartbeat (heartbeat : BroadcasterHeartbeat)
  | progress (progress : BroadcasterProgress)
deriving DecidableEq

/-- `BroadcasterPayload::kind`. -/
def BroadcasterPayload.kind : BroadcasterPayload Sim → BroadcasterMessageKind
  | .snapshotStart _ => .snapshotStart
  | .snapshotChunk _ => .snapshotChunk
  | .snapshotEnd _ => .snapshotEnd
  | .recoveryStart _ => .recoveryStart
  | .recoveryChunk _ => .recoveryChunk
  | .recoveryCatchUp _ => .recoveryCatchUp
  | .recoveryCommit _ => .recoveryCommit
  | .update _ => .update
  | .heartbeat _ => .heartbeat
  | .progress _ => .progress

/-- A payload with its place in a stream. -/
structure BroadcasterEnvelope (Sim : Type) where
  streamId : String
  messageSeq : UInt64
  payload : BroadcasterPayload Sim
deriving DecidableEq

/-- `BroadcasterEnvelope::kind`. -/
def BroadcasterEnvelope.kind (envelope : BroadcasterEnvelope Sim) : BroadcasterMessageKind :=
  envelope.payload.kind

/-! ## Errors -/

/-- `BroadcasterContractError`, with the variants the modelled code raises. -/
inductive BroadcasterContractError where
  | expectedSnapshotStart (found : BroadcasterMessageKind)
  | unexpectedStreamId (expected found : String)
  | unexpectedChainId (expected found : UInt64)
  | unexpectedMessageSeq (expected found : UInt64)
  | messageSequenceOverflow (messageSeq : UInt64)
  | unexpectedSnapshotStart (state : String)
  | unexpectedSnapshotChunk
  | unexpectedSnapshotEnd
  | unexpectedRecoveryMessage (kind : BroadcasterMessageKind)
  | unexpectedSnapshotId (expected found : String)
  | unexpectedChunkIndex (expected found : UInt32)
  | extraSnapshotChunk (totalChunks found : UInt32)
  | snapshotIncomplete (expectedChunks observedChunks : UInt32)
  | missingDeclaredSnapshotBackends (missing : List BroadcasterBackend)
  | updateBeforeSnapshotComplete
  | heartbeatBeforeSnapshotComplete
  | progressBeforeSnapshotComplete
  | redisReplayBoundaryBeforeSnapshotComplete (state : String)
  | emptyUpdate
  | recoveryManifestInvalid (reason : String)
  | emptyUpdatePartition (backend : BroadcasterBackend)
  | duplicateBackendEntry (context : String) (backend : BroadcasterBackend)
  | undeclaredBackendEntry (context : String) (backend : BroadcasterBackend)
  | newPairMissingState (componentId : String)
  | stateBackendMissing (componentId : String)
  | unknownComponentProtocol (componentId : String)
  | unknownSyncStateProtocol (protocol : String)
  | partitionContentBackendMismatch (context entry : String)
      (partitionBackend entryBackend : BroadcasterBackend)
  | redisPayloadJsonInvalid (message : String)
  | redisEntryEmptyField (field : String)
  | redisEntryUnexpectedField (field : String)
  | redisUnsupportedSchemaVersion (found : String)
  | redisMessageSequenceZero
  | redisSnapshotPayloadUnsupported (kind : BroadcasterMessageKind)
  | redisEntryMissingSnapshotId (kind : BroadcasterMessageKind)
  | redisPayloadKindMismatch (expected found : BroadcasterMessageKind)
  | redisBackendScopeInvalid (backendScope : String)
  | redisBlockNumberMismatch (entryBlockNumber payloadBlockNumber : UInt64)
  | redisObservedTimestampMismatch (entryObservedTimestampMs payloadObservedTimestampMs : UInt64)
  | invalidRedisEntryId (entryId : String)
deriving DecidableEq, Repr

/-! ## Classification -/

/-- `backend_for_component`. -/
def backendForComponent (componentId : String) (component : ProtocolComponent) :
    Except BroadcasterContractError BroadcasterBackend :=
  match ProtocolKind.fromComponent component with
  | none => .error (.unknownComponentProtocol componentId)
  | some kind => .ok (backendForKind kind)

/-- `backend_for_sync_state`. -/
def backendForSyncState (protocol : String) :
    Except BroadcasterContractError BroadcasterBackend :=
  match ProtocolKind.fromSyncStateKey protocol with
  | none => .error (.unknownSyncStateProtocol protocol)
  | some kind => .ok (backendForKind kind)

/-! ## Identity checks -/

/-- `ensure_stream_id`. -/
def ensureStreamId (expected found : String) : Except BroadcasterContractError Unit :=
  ensure (expected = found) (.unexpectedStreamId expected found)

/-- `ensure_chain_id`. -/
def ensureChainId (expected found : UInt64) : Except BroadcasterContractError Unit :=
  ensure (expected = found) (.unexpectedChainId expected found)

/-- `ensure_snapshot_id`. -/
def ensureSnapshotId (expected found : String) : Except BroadcasterContractError Unit :=
  ensure (expected = found) (.unexpectedSnapshotId expected found)

/-- `ensure_message_seq`. -/
def ensureMessageSeq (expected : Option UInt64) (found : UInt64) :
    Except BroadcasterContractError Unit :=
  ensure (expected = some found) (.unexpectedMessageSeq (expected.getD found) found)

/-- `next_message_seq`: `checked_add(1)`. -/
def nextMessageSeq (messageSeq : UInt64) : Except BroadcasterContractError UInt64 :=
  if messageSeq.toNat + 1 < 2 ^ 64 then .ok (messageSeq + 1)
  else .error (.messageSequenceOverflow messageSeq)

/-- A number has a successor unless it is the last one. -/
theorem nextMessageSeq_eq_ok {seq next : UInt64} :
    nextMessageSeq seq = .ok next ↔ seq.toNat + 1 < 2 ^ 64 ∧ next.toNat = seq.toNat + 1 := by
  unfold nextMessageSeq
  split
  case isTrue h =>
    have hseq : (seq + 1).toNat = seq.toNat + 1 := by
      rw [UInt64.toNat_add]
      exact Nat.mod_eq_of_lt h
    rw [Except.ok.injEq]
    constructor
    · rintro rfl
      exact ⟨h, hseq⟩
    · intro hnext
      exact UInt64.toNat_inj.mp (by rw [hseq, hnext.2])
  case isFalse h =>
    simp only [reduceCtorEq, false_iff]
    exact fun hlt => h hlt.1

/-! ## Backend checks

Two loops over the backends named by a payload: none may occur twice, and all must have been
declared. Each payload runs them under its own context string. -/

/-- The loop of `validate_unique_backend_entries`, with the backends seen so far. -/
def validateUniqueFrom (context : String) :
    Finset BroadcasterBackend → List BroadcasterBackend → Except BroadcasterContractError Unit
  | _, [] => .ok ()
  | seen, backend :: rest =>
    if backend ∈ seen then .error (.duplicateBackendEntry context backend)
    else validateUniqueFrom context (insert backend seen) rest

/-- `validate_unique_backend_entries`. -/
def validateUniqueBackendEntries (context : String) (backends : List BroadcasterBackend) :
    Except BroadcasterContractError Unit :=
  validateUniqueFrom context ∅ backends

/-- The loop passes when no backend occurs twice, counting those seen before. -/
theorem validateUniqueFrom_eq_ok {context : String} {backends : List BroadcasterBackend}
    {seen : Finset BroadcasterBackend} :
    validateUniqueFrom context seen backends = .ok () ↔
      backends.Nodup ∧ ∀ b ∈ backends, b ∉ seen := by
  induction backends generalizing seen with
  | nil => simp [validateUniqueFrom]
  | cons backend rest ih =>
    unfold validateUniqueFrom
    split
    case isTrue h => simp [h]
    case isFalse h =>
      rw [ih, List.nodup_cons]
      simp only [Finset.mem_insert, not_or, List.mem_cons, forall_eq_or_imp]
      constructor
      · rintro ⟨hnd, hrest⟩
        exact ⟨⟨fun hm => (hrest backend hm).1 rfl, hnd⟩, h, fun b hb => (hrest b hb).2⟩
      · rintro ⟨⟨hnm, hnd⟩, -, hrest⟩
        exact ⟨hnd, fun b hb => ⟨fun heq => hnm (heq ▸ hb), hrest b hb⟩⟩

/-- The check for repeated backends passes when there are none. -/
theorem validateUniqueBackendEntries_eq_ok {context : String}
    {backends : List BroadcasterBackend} :
    validateUniqueBackendEntries context backends = .ok () ↔ backends.Nodup := by
  unfold validateUniqueBackendEntries
  rw [validateUniqueFrom_eq_ok]
  simp

/-- `validate_declared_backend_entries`. -/
def validateDeclaredBackendEntries (context : String) (backends : List BroadcasterBackend)
    (declared : Finset BroadcasterBackend) : Except BroadcasterContractError Unit :=
  forM backends fun backend =>
    ensure (backend ∈ declared) (.undeclaredBackendEntry context backend)

/-- The check against the declared backends passes when all are declared. -/
theorem validateDeclaredBackendEntries_eq_ok {context : String}
    {backends : List BroadcasterBackend} {declared : Finset BroadcasterBackend} :
    validateDeclaredBackendEntries context backends declared = .ok () ↔
      ∀ b ∈ backends, b ∈ declared := by
  unfold validateDeclaredBackendEntries
  rw [forM_eq_ok]
  simp

/-- `ensure_all_declared_backends_observed`: the difference of the two sets, sorted. -/
def ensureAllDeclaredBackendsObserved (declared observed : Finset BroadcasterBackend) :
    Except BroadcasterContractError Unit :=
  let missing := BroadcasterBackend.all.filter (· ∈ declared \ observed)
  ensure (missing = []) (.missingDeclaredSnapshotBackends missing)

/-- A snapshot may end when every declared backend has been seen. -/
theorem ensureAllDeclaredBackendsObserved_eq_ok {declared observed : Finset BroadcasterBackend} :
    ensureAllDeclaredBackendsObserved declared observed = .ok () ↔ declared ⊆ observed := by
  unfold ensureAllDeclaredBackendsObserved
  rw [ensure_eq_ok, List.filter_eq_nil_iff]
  simp [Finset.subset_iff]

/-! ## Content checks

Each entry of a partition is classified on its own and compared with the partition's backend. -/

/-- `validate_partition_content_backend`. -/
def validatePartitionContentBackend (context entry : String)
    (partitionBackend entryBackend : BroadcasterBackend) : Except BroadcasterContractError Unit :=
  ensure (partitionBackend = entryBackend)
    (.partitionContentBackendMismatch context entry partitionBackend entryBackend)

/-- Classify one entry, then compare: the body shared by all content loops. -/
def validateContent (context entry : String) (partitionBackend : BroadcasterBackend)
    (classified : Except BroadcasterContractError BroadcasterBackend) :
    Except BroadcasterContractError Unit := do
  let backend ← classified
  validatePartitionContentBackend context entry partitionBackend backend

/-- An entry passes when it classifies to the backend of its partition. -/
theorem validateContent_eq_ok {context entry : String} {partitionBackend : BroadcasterBackend}
    {classified : Except BroadcasterContractError BroadcasterBackend} :
    validateContent context entry partitionBackend classified = .ok () ↔
      classified = .ok partitionBackend := by
  unfold validateContent validatePartitionContentBackend
  rw [bind_eq_ok]
  simp only [ensure_eq_ok]
  constructor
  · rintro ⟨backend, hb, rfl⟩
    exact hb
  · intro h
    exact ⟨partitionBackend, h, rfl⟩

/-- `validate_snapshot_partition_contents`. -/
def validateSnapshotPartitionContents (partitions : List (BroadcasterSnapshotPartition Sim)) :
    Except BroadcasterContractError Unit :=
  forM partitions fun partition => do
    forM partition.messages fun message =>
      validateContent "snapshot_chunk.partitions.messages" message.protocol partition.backend
        (backendForSyncState message.protocol)
    forM partition.states fun state =>
      validateContent "snapshot_chunk.partitions.states" state.componentId partition.backend
        (backendForComponent state.componentId state.component)
    forM partition.syncStatuses.keys fun protocol =>
      validateContent "snapshot_chunk.partitions.sync_statuses" protocol partition.backend
        (backendForSyncState protocol)

/-- `validate_update_partition_contents`. State deltas name their backend themselves. -/
def validateUpdatePartitionContents (partitions : List (BroadcasterUpdatePartition Sim)) :
    Except BroadcasterContractError Unit :=
  forM partitions fun partition => do
    forM partition.messages fun message =>
      validateContent "update.partitions.messages" message.protocol partition.backend
        (backendForSyncState message.protocol)
    forM partition.newPairs fun state =>
      validateContent "update.partitions.new_pairs" state.componentId partition.backend
        (backendForComponent state.componentId state.component)
    forM partition.updatedStates fun state =>
      validateContent "update.partitions.updated_states" state.componentId partition.backend
        (.ok state.backend)
    forM partition.removedPairs fun removed =>
      validateContent "update.partitions.removed_pairs" removed.componentId partition.backend
        (backendForComponent removed.componentId removed.component)
    forM partition.syncStatuses.keys fun protocol =>
      validateContent "update.partitions.sync_statuses" protocol partition.backend
        (backendForSyncState protocol)

/-- Everything in a snapshot partition classifies to the partition's backend. -/
structure BroadcasterSnapshotPartition.WellPlaced (partition : BroadcasterSnapshotPartition Sim) :
    Prop where
  messages : ∀ m ∈ partition.messages, backendForSyncState m.protocol = .ok partition.backend
  states : ∀ s ∈ partition.states,
    backendForComponent s.componentId s.component = .ok partition.backend
  syncStatuses : ∀ protocol ∈ partition.syncStatuses,
    backendForSyncState protocol = .ok partition.backend

/-- Everything in an update partition classifies to the partition's backend. -/
structure BroadcasterUpdatePartition.WellPlaced (partition : BroadcasterUpdatePartition Sim) :
    Prop where
  messages : ∀ m ∈ partition.messages, backendForSyncState m.protocol = .ok partition.backend
  newPairs : ∀ s ∈ partition.newPairs,
    backendForComponent s.componentId s.component = .ok partition.backend
  updatedStates : ∀ s ∈ partition.updatedStates, s.backend = partition.backend
  removedPairs : ∀ r ∈ partition.removedPairs,
    backendForComponent r.componentId r.component = .ok partition.backend
  syncStatuses : ∀ protocol ∈ partition.syncStatuses,
    backendForSyncState protocol = .ok partition.backend

/-- The content loops over a snapshot chunk pass when all partitions are well placed. -/
theorem validateSnapshotPartitionContents_eq_ok
    {partitions : List (BroadcasterSnapshotPartition Sim)} :
    validateSnapshotPartitionContents partitions = .ok () ↔ ∀ p ∈ partitions, p.WellPlaced := by
  unfold validateSnapshotPartitionContents
  rw [forM_eq_ok]
  refine forall_congr' fun p => imp_congr_right fun _ => ?_
  simp only [check_bind_eq_ok, forM_eq_ok, validateContent_eq_ok, Std.ExtTreeMap.mem_keys]
  exact ⟨fun ⟨hm, hs, hy⟩ => ⟨hm, hs, hy⟩, fun h => ⟨h.messages, h.states, h.syncStatuses⟩⟩

/-- The content loops over an update pass when all partitions are well placed. -/
theorem validateUpdatePartitionContents_eq_ok
    {partitions : List (BroadcasterUpdatePartition Sim)} :
    validateUpdatePartitionContents partitions = .ok () ↔ ∀ p ∈ partitions, p.WellPlaced := by
  unfold validateUpdatePartitionContents
  rw [forM_eq_ok]
  refine forall_congr' fun p => imp_congr_right fun _ => ?_
  simp only [check_bind_eq_ok, forM_eq_ok, validateContent_eq_ok, Std.ExtTreeMap.mem_keys,
    Except.ok.injEq]
  constructor
  · rintro ⟨hm, hn, hu, hr, hy⟩
    exact ⟨hm, hn, hu, hr, hy⟩
  · intro h
    exact ⟨h.messages, h.newPairs, h.updatedStates, h.removedPairs, h.syncStatuses⟩

/-! ## Payload checks

What the constructor of a payload runs before it hands the payload out, and the decoder again on
what it has read. -/

/-- `validate_snapshot_start_backends`. -/
def validateSnapshotStartBackends (backends : List BroadcasterBackend) :
    Except BroadcasterContractError Unit :=
  validateUniqueBackendEntries "snapshot_start.backends" backends

/-- `validate_snapshot_chunk_partitions`. -/
def validateSnapshotChunkPartitions (partitions : List (BroadcasterSnapshotPartition Sim)) :
    Except BroadcasterContractError Unit := do
  validateUniqueBackendEntries "snapshot_chunk.partitions" (partitions.map (·.backend))
  validateSnapshotPartitionContents partitions

/-- `validate_non_empty_update_partitions`. -/
def validateNonEmptyUpdatePartitions (partitions : List (BroadcasterUpdatePartition Sim)) :
    Except BroadcasterContractError Unit :=
  forM partitions fun partition =>
    ensure (partition.isEmpty = false) (.emptyUpdatePartition partition.backend)

/-- `validate_update_partitions`. -/
def validateUpdatePartitions (partitions : List (BroadcasterUpdatePartition Sim)) :
    Except BroadcasterContractError Unit := do
  ensure (partitions ≠ []) .emptyUpdate
  validateUniqueBackendEntries "update.partitions" (partitions.map (·.backend))
  validateNonEmptyUpdatePartitions partitions
  validateUpdatePartitionContents partitions

/-- `validate_heartbeat_backend_heads`. -/
def validateHeartbeatBackendHeads (heads : List BroadcasterBackendHead) :
    Except BroadcasterContractError Unit :=
  validateUniqueBackendEntries "heartbeat.backend_heads" (heads.map (·.backend))

/-- `validate_progress_backends`. -/
def validateProgressBackends (backends : List BroadcasterBackend) :
    Except BroadcasterContractError Unit :=
  validateUniqueBackendEntries "progress.backends" backends

/-- **A snapshot chunk is accepted** when its backends differ and its partitions are well placed. It
may be empty. -/
theorem validateSnapshotChunkPartitions_eq_ok
    {partitions : List (BroadcasterSnapshotPartition Sim)} :
    validateSnapshotChunkPartitions partitions = .ok () ↔
      (partitions.map (·.backend)).Nodup ∧ ∀ p ∈ partitions, p.WellPlaced := by
  unfold validateSnapshotChunkPartitions
  rw [check_bind_eq_ok, validateUniqueBackendEntries_eq_ok, validateSnapshotPartitionContents_eq_ok]

/-- **An update is accepted** when it has partitions, none of them empty, of different backends,
each well placed. -/
theorem validateUpdatePartitions_eq_ok {partitions : List (BroadcasterUpdatePartition Sim)} :
    validateUpdatePartitions partitions = .ok () ↔
      (partitions ≠ [] ∧ ∀ p ∈ partitions, p.isEmpty = false) ∧
      (partitions.map (·.backend)).Nodup ∧ ∀ p ∈ partitions, p.WellPlaced := by
  unfold validateUpdatePartitions validateNonEmptyUpdatePartitions
  simp only [check_bind_eq_ok, ensure_eq_ok, validateUniqueBackendEntries_eq_ok, forM_eq_ok,
    validateUpdatePartitionContents_eq_ok]
  constructor
  · rintro ⟨hne, hnd, hfull, hwell⟩
    exact ⟨⟨hne, hfull⟩, hnd, hwell⟩
  · rintro ⟨⟨hne, hfull⟩, hnd, hwell⟩
    exact ⟨hne, hnd, hfull, hwell⟩

/-! ## Recovery messages

Each message of a recovery names the recovery and its target version; the checks refuse blank texts,
a zero where a number must be positive, and lists whose lengths contradict each other. -/

/-- `recovery_error`. -/
def recoveryError (reason : String) : BroadcasterContractError := .recoveryManifestInvalid reason

/-- `require_recovery_text`. -/
def requireRecoveryText (field value : String) : Except BroadcasterContractError Unit :=
  ensure (rustTrim value ≠ "") (recoveryError s!"{field} must not be empty")

/-- `require_recovery_version`. -/
def requireRecoveryVersion (targetStateVersion : UInt64) : Except BroadcasterContractError Unit :=
  ensure (targetStateVersion ≠ 0) (recoveryError "target_state_version must be greater than zero")

/-- `validate_recovery_backends`. -/
def validateRecoveryBackends (backends : List BroadcasterBackend) :
    Except BroadcasterContractError Unit := do
  ensure (backends ≠ []) (recoveryError "backends must not be empty")
  validateUniqueBackendEntries "recovery.backends" backends

/-- `validate_recovery_manifest`. -/
def validateRecoveryManifest (manifest : BroadcasterRecoveryManifest) :
    Except BroadcasterContractError Unit := do
  requireRecoveryText "recovery_id" manifest.recoveryId
  requireRecoveryVersion manifest.targetStateVersion
  validateRecoveryBackends manifest.backends
  ensure (manifest.chunkCount ≠ 0) (recoveryError "chunk_count must be greater than zero")
  ensure (manifest.chunkCount.toNat = manifest.chunkEncodedBytes.length)
    (recoveryError "chunk_count does not match chunk_encoded_bytes")
  ensure (manifest.chunkCount.toNat = manifest.chunkDigests.length)
    (recoveryError "chunk_count does not match chunk_digests")
  ensure (manifest.replacementEncodedBytes ≠ 0)
    (recoveryError "replacement_encoded_bytes must be greater than zero")
  ensure (0 ∉ manifest.chunkEncodedBytes)
    (recoveryError "chunk_encoded_bytes values must be greater than zero")
  forM manifest.chunkDigests (requireRecoveryText "chunk_digest")
  requireRecoveryText "replacement_digest" manifest.replacementDigest
  ensure (manifest.commitWatermark ≠ 0) (recoveryError "commit_watermark must be greater than zero")

/-- `validate_recovery_chunk`. -/
def validateRecoveryChunk (chunk : BroadcasterRecoveryChunk) :
    Except BroadcasterContractError Unit := do
  requireRecoveryText "recovery_id" chunk.recoveryId
  requireRecoveryVersion chunk.targetStateVersion
  validateRecoveryBackends chunk.backends
  ensure (chunk.encodedBytes ≠ 0) (recoveryError "encoded_bytes must be greater than zero")
  requireRecoveryText "digest" chunk.digest
  requireRecoveryText "payload_fragment" chunk.payloadFragment

/-- `validate_recovery_catch_up`. -/
def validateRecoveryCatchUp (catchUp : BroadcasterRecoveryCatchUp Sim) :
    Except BroadcasterContractError Unit := do
  requireRecoveryText "recovery_id" catchUp.recoveryId
  requireRecoveryVersion catchUp.targetStateVersion
  validateUpdatePartitions catchUp.update.partitions

/-- `validate_recovery_commit`. -/
def validateRecoveryCommit (commit : BroadcasterRecoveryCommit) :
    Except BroadcasterContractError Unit := do
  requireRecoveryText "recovery_id" commit.recoveryId
  requireRecoveryVersion commit.targetStateVersion
  validateRecoveryBackends commit.backends
  requireRecoveryText "replacement_digest" commit.replacementDigest
  ensure (commit.commitWatermark ≠ 0) (recoveryError "commit_watermark must be greater than zero")

end TychoSimulationServer
