import TychoSimulationServer.DecodedReplica
import TychoSimulationServer.ReplayClient

/-!
# Recovery on the consumer

A consumer that has booted follows the Redis stream with one processor per backend. A *recovery*
replaces the states of some backends: the stream carries a `RecoveryStart` with a manifest, the
replacement snapshot in chunks, the updates that were accepted while the replacement was built, and
a `RecoveryCommit`. The consumer assembles all of it in private and exposes nothing before the
commit.

The commit builds a candidate store per backend, publishes the candidates one after the other, and
then moves every processor behind the transaction. Publishing and moving can fail, and both happen
when the first candidate is already visible.
-/

namespace TychoSimulationServer

open Fallible

variable {Sim : Type}

/-! ## Errors and parameters

The digest and the JSON of a replacement are not the repository's and are given. -/

/-- An error of a subscription: a text, or an error of another layer with the text in front of it. -/
inductive SubscriptionError where
  | text (message : String)
  | contract (context : String) (error : BroadcasterContractError)
  | snapshot (error : SnapshotError)
deriving DecidableEq, Repr

/-- What the consumer takes from other libraries: the digest of a text, the JSON decoder of a
replacement snapshot, and the merge of raw messages. -/
structure RecoveryCodec (Sim : Type) where
  /-- `recovery_digest`, on the bytes of a text -/
  recoveryDigest : String → String
  /-- `serde_json::from_str::<Vec<BroadcasterEnvelope>>` -/
  decodeReplacement : String → Except String (List (BroadcasterEnvelope Sim))
  /-- `StateSyncMessage::merge` -/
  merge : StateSyncMerge

/-! ## The size of an entry -/

/-- `decimal_digits`. -/
def decimalDigits (value : Nat) : Nat := value.repr.length

/-- `resp_bulk_string_size`. -/
def respBulkStringSize (length : Nat) : Nat := 1 + decimalDigits length + 2 + length + 2

/-- `resp_array_size`. -/
def respArraySize (arguments : List String) : Nat :=
  arguments.foldl (fun total argument =>
    saturatingAdd total (respBulkStringSize argument.utf8ByteSize))
    (1 + decimalDigits arguments.length + 2)

/-- `replay_entry_encoded_size`: the length of the command that adds the entry. -/
def replayEntryEncodedSize (streamKey : String) (maxlen : Option UInt64)
    (entry : BroadcasterRedisStreamEntry) : Except String Nat := do
  let entryId ← redisEntryId entry
  let limit := match maxlen with
    | none => []
    | some maxlen => ["MAXLEN", "~", u64ToString maxlen]
  return respArraySize (["XADD", streamKey] ++ limit ++ [entryId] ++
    (redisEntryFields entry).flatMap fun (field, value) => [field, value])

/-! ## Boundaries

A boundary names a place in a stream: the stream, the snapshot it goes on from, its generation, and
the last number that is in it. -/

/-- `redis_boundary_generation`. -/
def redisBoundaryGeneration (generation : UInt64) : Except BroadcasterContractError UInt64 := do
  ensure (generation ≠ 0) (.invalidRedisEntryId s!"{generation}-0")
  return generation

/-- `BroadcasterRedisReplayBoundary::new`. -/
def BroadcasterRedisReplayBoundary.new (streamKey streamId snapshotId : String)
    (generation exclusiveMessageSeq stateVersion : UInt64) :
    Except BroadcasterContractError BroadcasterRedisReplayBoundary := do
  let streamKey ← requiredRedisField "stream_key" streamKey
  let streamId ← requiredRedisField "stream_id" streamId
  let snapshotId ← requiredRedisField "snapshot_id" snapshotId
  let generation ← redisBoundaryGeneration generation
  return { streamKey, streamId, snapshotId, generation, exclusiveMessageSeq, stateVersion }

/-- `align_live_replay_boundary`. -/
def alignLiveReplayBoundary (tracker : BroadcasterSubscriptionTracker)
    (boundary : BroadcasterRedisReplayBoundary) :
    Except BroadcasterContractError BroadcasterSubscriptionTracker :=
  match tracker.state with
  | .live streamId _ snapshotId _ => do
    ensureStreamId streamId boundary.streamId
    ensureSnapshotId snapshotId boundary.snapshotId
    let next ← nextMessageSeq boundary.exclusiveMessageSeq
    return { tracker with nextMessageSeq := some next }
  | state => .error (.redisReplayBoundaryBeforeSnapshotComplete state.label)

/-- `skip_live_delta`. -/
def skipLiveDelta (tracker : BroadcasterSubscriptionTracker) (envelope : BroadcasterEnvelope Sim) :
    Except BroadcasterContractError BroadcasterSubscriptionTracker :=
  match tracker.state with
  | .live streamId _ _ _ => do
    ensureStreamId streamId envelope.streamId
    ensureMessageSeq tracker.nextMessageSeq envelope.messageSeq
    let next ← nextMessageSeq envelope.messageSeq
    match envelope.payload with
    | .snapshotStart _ => .error (.unexpectedSnapshotStart tracker.state.label)
    | .snapshotChunk _ => .error .unexpectedSnapshotChunk
    | .snapshotEnd _ => .error .unexpectedSnapshotEnd
    | .recoveryStart _ | .recoveryChunk _ | .recoveryCatchUp _ | .recoveryCommit _ =>
      .error (.unexpectedRecoveryMessage envelope.kind)
    | .update _ | .heartbeat _ | .progress _ =>
      return { tracker with nextMessageSeq := some next }
  | state => .error (.redisReplayBoundaryBeforeSnapshotComplete state.label)

/-! ## Processors -/

/-- `redis_entry_scope_contains`. -/
def redisEntryScopeContains (entry : BroadcasterRedisStreamEntry) (backend : BroadcasterBackend) :
    Bool :=
  (splitCommas entry.backendScope).contains backend.asStr

/-- `BroadcasterSubscriptionProcessor`: what follows the stream for one backend. `backend` is the
one of the wire partitions it reads, and the tokens are those of the shared token store. -/
structure BroadcasterSubscriptionProcessor (Sim : Type) where
  expectedChainId : UInt64
  backend : BroadcasterBackend
  backendLabel : String
  decoder : UpdateDecoder Sim
  tokenSnapshot : FinMap Bytes Token
  wrappedNativeToken : Option Bytes
  store : PublishedStateStore Sim
  tracker : BroadcasterSubscriptionTracker
  rawSnapshot : RawSnapshotReassembly
  bootstrapRedisReplayBoundary : Option BroadcasterRedisReplayBoundary

namespace BroadcasterSubscriptionProcessor

variable (processor : BroadcasterSubscriptionProcessor Sim)

/-- `ensure_snapshot_chain_id`. -/
def ensureSnapshotChainId (chainId : UInt64) : Except SubscriptionError Unit :=
  let (label, expected) := (processor.backendLabel, processor.expectedChainId)
  ensure (chainId = processor.expectedChainId) (.text
    s!"broadcaster chain id mismatch for {label} subscription: expected {expected}, got {chainId}")

/-- `ensure_snapshot_includes_backend`. -/
def ensureSnapshotIncludesBackend (start : BroadcasterSnapshotStart) :
    Except SubscriptionError Unit :=
  let (id, backend) := (start.snapshotId, processor.backend.asStr)
  ensure (processor.backend ∈ start.backends) (.text
    s!"broadcaster snapshot start {id} does not include {backend} backend")

/-- `buffer_snapshot_partition`: decoded states are applied, raw messages wait for the end. -/
def bufferPartition (merge : StateSyncMerge) (partition : BroadcasterSnapshotPartition Sim) :
    Except SubscriptionError (BroadcasterSubscriptionProcessor Sim) :=
  if partition.messages.isEmpty then
    .ok { processor with
      store := (applyUpdate processor.store (snapshotPartitionUpdate partition)).1 }
  else do
    (ensureRawMessagesSupported processor.backend).mapError .text
    let rawSnapshot ← (partition.messages.foldlM (RawSnapshotReassembly.push merge)
      processor.rawSnapshot).mapError .snapshot
    return { processor with rawSnapshot }

/-- The body of the loop over the partitions of a chunk. -/
def observePartition (merge : StateSyncMerge) (partition : BroadcasterSnapshotPartition Sim) :
    Except SubscriptionError (BroadcasterSubscriptionProcessor Sim) :=
  if partition.backend = processor.backend then processor.bufferPartition merge partition
  else .ok processor

/-- `apply_reassembled_snapshot_messages`. -/
def applyReassembledSnapshotMessages :
    Except SubscriptionError (BroadcasterSubscriptionProcessor Sim) := do
  let messages := RawSnapshotReassembly.takeMessages processor.rawSnapshot
  let update ← (processor.decoder.decodeProtocolMessages messages).mapError .text
  return { processor with
    rawSnapshot := ∅
    store := update.elim processor.store fun update => (applyUpdate processor.store update).1 }

/-- The branch for the end of a snapshot. -/
def finishSnapshot : Except SubscriptionError (BroadcasterSubscriptionProcessor Sim) := do
  let processor ← processor.applyReassembledSnapshotMessages
  match processor.bootstrapRedisReplayBoundary with
  | none => throw (.text "HTTP snapshot completed without Redis replay boundary")
  | some boundary =>
    return { processor with
      store := alignBootstrapStateVersion processor.store boundary.stateVersion }

/-- `apply_live_update` on the processor's store. -/
def applyUpdateMessage (update : BroadcasterUpdateMessage Sim) (stateVersion : Option UInt64) :
    Except SubscriptionError (BroadcasterSubscriptionProcessor Sim) :=
  match exec (applyLiveUpdate processor.decoder processor.backend update stateVersion)
      processor.store with
  | (.ok _, store) => .ok { processor with store }
  | (.error error, _) => .error (.text error)

/-- What a payload does after the tracker accepted it. -/
def applyPayload (merge : StateSyncMerge) (stateVersion : Option UInt64) :
    BroadcasterPayload Sim → Except SubscriptionError (BroadcasterSubscriptionProcessor Sim)
  | .snapshotStart _ => .ok { processor with rawSnapshot := ∅ }
  | .snapshotChunk chunk =>
    chunk.partitions.foldlM (observePartition · merge ·) processor
  | .snapshotEnd _ => processor.finishSnapshot
  | .update update => processor.applyUpdateMessage update stateVersion
  | .heartbeat _ | .progress _ => .ok processor
  | .recoveryStart _ | .recoveryChunk _ | .recoveryCatchUp _ | .recoveryCommit _ =>
    .error (.text "Redis recovery payload reached a backend processor before commit")

/-- The checks that come before the tracker. -/
def checkSnapshotStart : BroadcasterPayload Sim → Except SubscriptionError Unit
  | .snapshotStart start => do
    processor.ensureSnapshotChainId start.chainId
    processor.ensureSnapshotIncludesBackend start
  | _ => .ok ()

/-- `observe_with_state_version`. -/
def observe (merge : StateSyncMerge) (envelope : BroadcasterEnvelope Sim)
    (stateVersion : Option UInt64) :
    Except SubscriptionError (BroadcasterSubscriptionProcessor Sim) := do
  processor.checkSnapshotStart envelope.payload
  match exec (TychoSimulationServer.observe envelope) processor.tracker with
  | (.ok _, tracker) =>
    applyPayload { processor with tracker } merge stateVersion envelope.payload
  | (.error error, _) => throw (.contract "invalid broadcaster envelope" error)

/-- `observe_redis_delta`. -/
def observeRedisDelta (merge : StateSyncMerge) (entry : BroadcasterRedisStreamEntry)
    (envelope : BroadcasterEnvelope Sim) :
    Except SubscriptionError (BroadcasterSubscriptionProcessor Sim) :=
  if redisEntryScopeContains entry processor.backend then
    processor.observe merge envelope (some entry.stateVersion)
  else do
    let tracker ← (skipLiveDelta processor.tracker envelope).mapError
      (.contract "invalid skipped broadcaster Redis envelope")
    return { processor with tracker }

/-- `bootstrap_complete`. -/
def bootstrapComplete : Bool :=
  match processor.tracker.state with
  | .live _ _ _ _ => true
  | _ => false

/-- `align_redis_replay_boundary`. -/
def alignRedisReplayBoundary (boundary : BroadcasterRedisReplayBoundary) :
    Except SubscriptionError (BroadcasterSubscriptionProcessor Sim) := do
  let tracker ← (alignLiveReplayBoundary processor.tracker boundary).mapError
    (.contract "invalid broadcaster Redis replay boundary")
  return { processor with tracker }

/-- `recovery_copy`: a processor of its own on an empty private store. -/
def recoveryCopy (boundary : BroadcasterRedisReplayBoundary) :
    BroadcasterSubscriptionProcessor Sim :=
  { processor with
    store := .empty processor.tokenSnapshot processor.wrappedNativeToken
    tracker := .new
    rawSnapshot := ∅
    bootstrapRedisReplayBoundary := some boundary }

/-- The candidate of a commit: a copy that observes the replacement and applies the catch-ups. -/
def recoveryCandidate (merge : StateSyncMerge) (boundary : BroadcasterRedisReplayBoundary)
    (snapshot : List (BroadcasterEnvelope Sim)) (catchUps : List (BroadcasterRecoveryCatchUp Sim)) :
    Except SubscriptionError (PublishedStateStore Sim) := do
  let candidate ← snapshot.foldlM (fun candidate envelope => candidate.observe merge envelope none)
    (processor.recoveryCopy boundary)
  let backend := processor.backend.asStr
  ensure (candidate.bootstrapComplete = true)
    (.text s!"recovery replacement did not complete {backend} snapshot bootstrap")
  let candidate ← catchUps.foldlM
    (fun candidate catchUp => candidate.applyUpdateMessage catchUp.update none) candidate
  return candidate.store

end BroadcasterSubscriptionProcessor

/-! ## Subscriptions

A recovery is collected until its commit: the manifest first, then chunks and catch-ups in the order
their indexes say. -/

/-- `RecoveryAssembly`. Chunks and catch-ups are accepted in the order of their indices only, so
each is a list. -/
structure RecoveryAssembly (Sim : Type) where
  manifest : BroadcasterRecoveryManifest
  chunks : List BroadcasterRecoveryChunk
  bufferA : List (BroadcasterRecoveryCatchUp Sim)

/-- `PreparedRedisProcessor`. -/
structure PreparedRedisProcessor (Sim : Type) where
  processor : BroadcasterSubscriptionProcessor Sim
  replayBoundary : BroadcasterRedisReplayBoundary

/-- `PreparedBroadcasterRedisSubscription`. -/
structure PreparedBroadcasterRedisSubscription (Sim : Type) where
  processors : List (PreparedRedisProcessor Sim)
  replayBoundary : BroadcasterRedisReplayBoundary
  recovery : Option (RecoveryAssembly Sim)
  redisMaxlen : Option UInt64

section

variable (codec : RecoveryCodec Sim)

/-- `bootstrap_pending_processors` and what is made of its processors: every processor observes the
payloads of a snapshot session, has to be live after them, and is moved to the session's replay
boundary. -/
def prepareBroadcasterRedisSubscription
    (processors : List (BroadcasterSubscriptionProcessor Sim))
    (boundary : BroadcasterRedisReplayBoundary) (payloads : List (BroadcasterEnvelope Sim))
    (redisMaxlen : Option UInt64) :
    Except SubscriptionError (PreparedBroadcasterRedisSubscription Sim) := do
  ensure (processors ≠ []) (.text "no broadcaster backends were prepared")
  let started := processors.map fun processor =>
    { processor with
      tracker := .new
      rawSnapshot := ∅
      bootstrapRedisReplayBoundary := some boundary }
  let observed ← payloads.foldlM (fun processors envelope =>
    processors.mapM (·.observe codec.merge envelope none)) started
  let aligned ← observed.mapM fun processor => do
    let label := processor.backendLabel
    ensure (processor.bootstrapComplete = true)
      (.text s!"broadcaster HTTP snapshot session ended before {label} bootstrap completed")
    processor.alignRedisReplayBoundary boundary
  return { processors := aligned.map fun processor => { processor, replayBoundary := boundary }
           replayBoundary := boundary, recovery := none, redisMaxlen }

/-- `validate_recovery_identity`. -/
def validateRecoveryIdentity (manifest : BroadcasterRecoveryManifest) (recoveryId : String)
    (targetStateVersion : UInt64) : Except SubscriptionError Unit :=
  ensure (recoveryId = manifest.recoveryId ∧ targetStateVersion = manifest.targetStateVersion)
    (.text "recovery identity does not match the active manifest")

/-- The watermark that the manifest of a start has to name: the commit follows the chunks and the
catch-ups. -/
def expectedCommit (messageSeq : UInt64) (manifest : BroadcasterRecoveryManifest) :
    Except SubscriptionError UInt64 := do
  let expected := messageSeq.toNat + manifest.chunkCount.toNat + manifest.bufferACount.toNat + 1
  ensure (expected < 2 ^ 64) (.text "recovery commit watermark overflow")
  return .ofNat expected

/-- The loop of a `RecoveryStart` over the processors: those the manifest names have to be older
than it, and their readers are fenced off. -/
def startRecovery (manifest : BroadcasterRecoveryManifest) (prepared : PreparedRedisProcessor Sim) :
    Except SubscriptionError (PreparedRedisProcessor Sim) :=
  let processor := prepared.processor
  if processor.backend ∈ manifest.backends then do
    let (target, label, current) :=
      (manifest.targetStateVersion, processor.backendLabel, processor.store.version)
    ensure (processor.store.version < manifest.targetStateVersion) (.text
      s!"recovery target state version {target} must be newer than published {label} state version {current}")
    return { prepared with processor := { processor with store := fenceRequests processor.store } }
  else .ok prepared

/-- The branch for a `RecoveryStart`. -/
def applyRecoveryStart (prepared : PreparedBroadcasterRedisSubscription Sim)
    (entry : BroadcasterRedisStreamEntry) (manifest : BroadcasterRecoveryManifest) :
    Except SubscriptionError (PreparedBroadcasterRedisSubscription Sim) := do
  (validateRecoveryManifest manifest).mapError (.contract "")
  let expected ← expectedCommit entry.messageSeq manifest
  let (id, found) := (manifest.recoveryId, manifest.commitWatermark)
  ensure (expected = manifest.commitWatermark) (.text
    s!"recovery {id} commit watermark mismatch: expected {expected}, got {found}")
  ensure (prepared.recovery.all (·.manifest ≠ manifest))
    (.text s!"recovery {id} repeated RecoveryStart in the stream")
  let processors ← prepared.processors.mapM (startRecovery manifest)
  return { prepared with
    processors
    recovery := some { manifest, chunks := [], bufferA := [] } }

/-- The checks on a `RecoveryChunk`. -/
def checkRecoveryChunk (prepared : PreparedBroadcasterRedisSubscription Sim)
    (recovery : RecoveryAssembly Sim) (entry : BroadcasterRedisStreamEntry)
    (chunk : BroadcasterRecoveryChunk) : Except SubscriptionError Unit := do
  validateRecoveryIdentity recovery.manifest chunk.recoveryId chunk.targetStateVersion
  ensure (chunk.backends = recovery.manifest.backends)
    (.text "recovery chunk backend set does not match manifest")
  let (index, held) := (chunk.chunkIndex, recovery.chunks.length)
  ensure (chunk.chunkIndex.toNat = recovery.chunks.length)
    (.text s!"recovery chunk arrived out of order: expected {held}, got {index}")
  let count := recovery.manifest.chunkCount
  ensure (chunk.chunkIndex.toNat < recovery.manifest.chunkCount.toNat)
    (.text s!"recovery chunk index {index} is outside manifest count {count}")
  ensure (recovery.manifest.chunkEncodedBytes[chunk.chunkIndex.toNat]? = some chunk.encodedBytes)
    (.text s!"recovery chunk {index} encoded size does not match manifest")
  let size ← (replayEntryEncodedSize prepared.replayBoundary.streamKey prepared.redisMaxlen
    entry).mapError .text
  ensure (chunk.encodedBytes.toNat = size)
    (.text s!"recovery chunk {index} encoded size does not match its Redis entry")
  let digest := codec.recoveryDigest chunk.payloadFragment
  ensure (digest = chunk.digest ∧
    recovery.manifest.chunkDigests[chunk.chunkIndex.toNat]? = some digest)
    (.text s!"recovery chunk {index} digest does not match manifest")

/-- The branch for a `RecoveryChunk`. -/
def applyRecoveryChunk (prepared : PreparedBroadcasterRedisSubscription Sim)
    (entry : BroadcasterRedisStreamEntry) (chunk : BroadcasterRecoveryChunk) :
    Except SubscriptionError (PreparedBroadcasterRedisSubscription Sim) := do
  (validateRecoveryChunk chunk).mapError (.contract "")
  match prepared.recovery with
  | none => throw (.text "recovery chunk arrived before RecoveryStart")
  | some recovery =>
    checkRecoveryChunk codec prepared recovery entry chunk
    return { prepared with recovery := some { recovery with chunks := recovery.chunks ++ [chunk] } }

/-- The checks on a `RecoveryCatchUp`. -/
def checkRecoveryCatchUp (recovery : RecoveryAssembly Sim)
    (catchUp : BroadcasterRecoveryCatchUp Sim) : Except SubscriptionError Unit := do
  validateRecoveryIdentity recovery.manifest catchUp.recoveryId catchUp.targetStateVersion
  let (index, count, held) :=
    (catchUp.blockIndex, recovery.manifest.bufferACount, recovery.bufferA.length)
  ensure (catchUp.blockIndex < recovery.manifest.bufferACount)
    (.text s!"recovery catch-up index {index} is outside manifest count {count}")
  ensure (recovery.chunks.length = recovery.manifest.chunkCount.toNat ∧
    catchUp.blockIndex.toNat = recovery.bufferA.length)
    (.text s!"recovery catch-up arrived out of order: expected {held}, got {index}")

/-- The branch for a `RecoveryCatchUp`. -/
def applyRecoveryCatchUp (prepared : PreparedBroadcasterRedisSubscription Sim)
    (catchUp : BroadcasterRecoveryCatchUp Sim) :
    Except SubscriptionError (PreparedBroadcasterRedisSubscription Sim) := do
  (validateRecoveryCatchUp catchUp).mapError (.contract "")
  match prepared.recovery with
  | none => throw (.text "recovery catch-up arrived before RecoveryStart")
  | some recovery =>
    checkRecoveryCatchUp recovery catchUp
    return { prepared with
      recovery := some { recovery with bufferA := recovery.bufferA ++ [catchUp] } }

/-! ## The commit

The replacement is put together, compared with its digest, and decoded. Every named backend is
bootstrapped from it and brought up to date by the catch-ups, in a copy. -/

/-- The checks of a commit against what was assembled. -/
def checkRecoveryCommit (recovery : RecoveryAssembly Sim) (commitMessageSeq : UInt64)
    (commit : BroadcasterRecoveryCommit) : Except SubscriptionError Unit := do
  validateRecoveryIdentity recovery.manifest commit.recoveryId commit.targetStateVersion
  ensure (commit.backends = recovery.manifest.backends ∧
    commit.replacementDigest = recovery.manifest.replacementDigest ∧
    commit.bufferACount = recovery.manifest.bufferACount ∧
    commit.commitWatermark = recovery.manifest.commitWatermark ∧
    commitMessageSeq = commit.commitWatermark)
    (.text "RecoveryCommit does not match the active recovery manifest")
  let id := recovery.manifest.recoveryId
  ensure (recovery.chunks.length = recovery.manifest.chunkCount.toNat ∧
    recovery.bufferA.length = recovery.manifest.bufferACount.toNat)
    (.text s!"recovery {id} committed before every declared fragment arrived")

/-- The text of the replacement snapshot, put together from the chunks. -/
def RecoveryAssembly.replacementJson (recovery : RecoveryAssembly Sim) : String :=
  String.join (recovery.chunks.map (·.payloadFragment))

/-- The replacement snapshot of an assembly. -/
def RecoveryAssembly.replacement (recovery : RecoveryAssembly Sim) :
    Except SubscriptionError (List (BroadcasterEnvelope Sim)) := do
  let id := recovery.manifest.recoveryId
  ensure (recovery.replacementJson.utf8ByteSize = recovery.manifest.replacementEncodedBytes.toNat ∧
    codec.recoveryDigest recovery.replacementJson = recovery.manifest.replacementDigest)
    (.text s!"recovery {id} replacement bytes do not match the manifest")
  (codec.decodeReplacement recovery.replacementJson).mapError fun error =>
    .text ("failed to decode recovery replacement snapshot: " ++ error)

/-- The boundary behind a transaction. -/
def commitBoundary (current : BroadcasterRedisReplayBoundary) (commitMessageSeq : UInt64)
    (manifest : BroadcasterRecoveryManifest) :
    Except SubscriptionError BroadcasterRedisReplayBoundary :=
  (BroadcasterRedisReplayBoundary.new current.streamKey current.streamId current.snapshotId
    current.generation commitMessageSeq manifest.targetStateVersion).mapError (.contract "")

/-- The candidates of a commit, with the positions of their processors. -/
def recoveryCandidates (processors : List (PreparedRedisProcessor Sim))
    (boundary : BroadcasterRedisReplayBoundary) (snapshot : List (BroadcasterEnvelope Sim))
    (recovery : RecoveryAssembly Sim) :
    Except SubscriptionError (List (Nat × PublishedStateStore Sim)) :=
  (processors.zipIdx.filter (·.1.processor.backend ∈ recovery.manifest.backends)).mapM
    fun (prepared, index) => do
      let candidate ← prepared.processor.recoveryCandidate codec.merge boundary snapshot
        recovery.bufferA
      return (index, candidate)

/-- A subscription in the middle of a commit. -/
abbrev Commit (Sim : Type) :=
  Stateful SubscriptionError (PreparedBroadcasterRedisSubscription Sim)

/-- Publish one candidate to its live store. -/
def publishRecovered (targetStateVersion : UInt64) (candidate : Nat × PublishedStateStore Sim) :
    Commit Sim Unit := do
  let prepared ← get
  match prepared.processors[candidate.1]? with
  | none => throw (.text "recovery candidate lost its live backend")
  | some live =>
    match exec (publishCandidate candidate.2 targetStateVersion) live.processor.store with
    | (.ok _, store) =>
      set { prepared with
        processors := prepared.processors.set candidate.1
          { live with processor := { live.processor with store } } }
    | (.error error, _) => throw (.text error)

/-- Move one processor behind the transaction. -/
def alignProcessor (boundary : BroadcasterRedisReplayBoundary) (index : Nat) : Commit Sim Unit := do
  let prepared ← get
  match prepared.processors[index]? with
  | none => pure ()
  | some live => do
    let processor ← check (live.processor.alignRedisReplayBoundary boundary)
    set { prepared with
      processors := prepared.processors.set index { processor, replayBoundary := boundary } }

/-- `commit_recovery`. -/
def commitRecovery (commitMessageSeq : UInt64) (commit : BroadcasterRecoveryCommit) :
    Commit Sim Unit := do
  let prepared ← get
  match prepared.recovery with
  | none => throw (.text "RecoveryCommit arrived before RecoveryStart")
  | some recovery => do
    set { prepared with recovery := none }
    check (checkRecoveryCommit recovery commitMessageSeq commit)
    let snapshot ← check (recovery.replacement codec)
    let boundary ← check (commitBoundary prepared.replayBoundary commitMessageSeq recovery.manifest)
    let candidates ← check
      (recoveryCandidates codec prepared.processors boundary snapshot recovery)
    candidates.forM (publishRecovered recovery.manifest.targetStateVersion)
    (List.range prepared.processors.length).forM (alignProcessor boundary)
    modify ({ · with replayBoundary := boundary })

/-! ## Replaying a message

Messages of a recovery are collected, all others are observed by the processors they concern. -/

/-- The branch for a `RecoveryCommit`. -/
def applyRecoveryCommit (prepared : PreparedBroadcasterRedisSubscription Sim)
    (entry : BroadcasterRedisStreamEntry) (commit : BroadcasterRecoveryCommit) :
    Except SubscriptionError (PreparedBroadcasterRedisSubscription Sim) := do
  (validateRecoveryCommit commit).mapError (.contract "")
  match exec (commitRecovery codec entry.messageSeq commit) prepared with
  | (.ok _, prepared) => return prepared
  | (.error error, _) => throw error

/-- `apply_recovery_message`. -/
def applyRecoveryMessage (prepared : PreparedBroadcasterRedisSubscription Sim)
    (message : ReplayMessage Sim) :
    Except SubscriptionError (PreparedBroadcasterRedisSubscription Sim) :=
  match message.envelope.payload with
  | .recoveryStart start => applyRecoveryStart prepared message.entry start.manifest
  | .recoveryChunk chunk => applyRecoveryChunk codec prepared message.entry chunk
  | .recoveryCatchUp catchUp => applyRecoveryCatchUp prepared catchUp
  | .recoveryCommit commit => applyRecoveryCommit codec prepared message.entry commit
  | _ => .error (.text "ordinary broadcaster payload interleaved inside a recovery transaction")

/-- The payload belongs to a recovery transaction. -/
def BroadcasterPayload.isRecovery : BroadcasterPayload Sim → Bool
  | .recoveryStart _ | .recoveryChunk _ | .recoveryCatchUp _ | .recoveryCommit _ => true
  | _ => false

/-- An ordinary message for one processor, which skips what its snapshot already has. -/
def observeOrdinary (message : ReplayMessage Sim) (prepared : PreparedRedisProcessor Sim) :
    Except SubscriptionError (PreparedRedisProcessor Sim) :=
  if message.entry.messageSeq ≤ prepared.replayBoundary.exclusiveMessageSeq then .ok prepared
  else do
    let processor ← prepared.processor.observeRedisDelta codec.merge message.entry message.envelope
    return { prepared with processor }

/-- The body of the loop of `apply_replay_batch`. -/
def applyReplayMessage (prepared : PreparedBroadcasterRedisSubscription Sim)
    (message : ReplayMessage Sim) :
    Except SubscriptionError (PreparedBroadcasterRedisSubscription Sim) :=
  if message.envelope.payload.isRecovery || prepared.recovery.isSome then
    applyRecoveryMessage codec prepared message
  else do
    let processors ← prepared.processors.mapM (observeOrdinary codec message)
    return { prepared with processors }

end

end TychoSimulationServer
