import TychoSimulationServer.Machine
import TychoSimulationServer.RedisPublisher

/-!
# Recovery in the service

When a replacement of the upstream state is ready, the service publishes it as a recovery. A
*worker* serialises the replacement while the feed goes on: updates that arrive meanwhile are kept
in *Buffer A*, and follow the replacement in the same transaction. Once the transaction is handed
to the publisher, updates go to the publisher again, which keeps them behind the transaction.

* **Locks.** The feed holds the lifecycle gate while it applies a message; a worker takes it to pin
  a new source. The recovery state has its own lock, and every worker looks at the work id again
  when it has taken it.
* **Attempts.** A recovery that fails by itself is tried once more. One that fails at the publisher
  waits for the writer. Both start over from a source that is pinned then.
* **Cancelling.** A disconnect moves to the next work id, and what an older worker finds out no
  longer matters.
-/

namespace TychoSimulationServer

open Fallible

variable {Sim : Type}

/-! ## The recovery state

The state of the recovery is under a lock of its own: its phase, the work id of its worker, and the
updates that are buffered. -/

/-- `RecoveryPublicationPhase`. -/
inductive RecoveryPublicationPhase where
  | idle
  | building
  | publishing
  | draining
  | fatal
deriving DecidableEq, Repr

/-- `is_active`. -/
def RecoveryPublicationPhase.isActive : RecoveryPublicationPhase → Bool
  | .building | .publishing | .draining => true
  | .idle | .fatal => false

/-- The `last_outcome` of a recovery. -/
inductive RecoveryOutcome where
  | aborted
  | committed
  | failed
deriving DecidableEq, Repr

/-- `RecoveryPublicationState`. The flag is the one of the current attempt. -/
structure RecoveryPublicationState (Sim : Type) where
  workId : UInt64
  phase : RecoveryPublicationPhase
  localFailures : Nat
  completeNativeBlocks : FinSet UInt64
  bufferA : List (BroadcasterUpdateMessage Sim)
  cancelled : Bool
  publisherRecoveryId : Option String
  fatalError : Option String
  lastOutcome : Option RecoveryOutcome

/-- `RECOVERY_MAX_LOCAL_FAILURES`. -/
def recoveryMaxLocalFailures : Nat := 1

namespace RecoveryPublicationState

/-- The default. -/
def new : RecoveryPublicationState Sim :=
  { workId := 0, phase := .idle, localFailures := 0, completeNativeBlocks := ∅, bufferA := []
    cancelled := false, publisherRecoveryId := none, fatalError := none, lastOutcome := none }

variable (recovery : RecoveryPublicationState Sim)

/-- `cancel_recovery_publication_locked`. -/
def cancelPublication : RecoveryPublicationState Sim :=
  { recovery with
    workId := saturatingSucc recovery.workId
    phase := .idle
    lastOutcome := if recovery.phase.isActive then some .aborted else recovery.lastOutcome
    cancelled := true
    bufferA := []
    publisherRecoveryId := none
    completeNativeBlocks := ∅
    fatalError := none }

/-- The first part of `start_recovery_publication`. -/
def startPublication : RecoveryPublicationState Sim :=
  { workId := saturatingSucc recovery.workId, phase := .building, localFailures := 0
    completeNativeBlocks := ∅, bufferA := [], cancelled := false, publisherRecoveryId := none
    fatalError := none, lastOutcome := none }

/-- `prepare_recovery_retry_locked`. -/
def prepareRetry : RecoveryPublicationState Sim :=
  { recovery with
    phase := .building
    completeNativeBlocks := ∅
    bufferA := []
    cancelled := false
    publisherRecoveryId := none }

/-- The reservation of the publisher. It raises the flag when too many native blocks wait there. -/
def reserve (recoveryId : String) (full : Bool) : RecoveryPublicationState Sim :=
  { recovery with
    publisherRecoveryId := some recoveryId
    cancelled := recovery.cancelled || full }

/-- `buffer_recovery_update`: whether Buffer A takes the update. The recovery is `late` after
`RECOVERY_ABORT_AFTER`. -/
def bufferUpdate (maxBufferedNativeBlocks : Nat) (late : Bool)
    (update : BroadcasterUpdateMessage Sim) :
    Except String (Bool × RecoveryPublicationState Sim) :=
  let completeNativeBlocks :=
    update.completeNativeBlock.elim recovery.completeNativeBlocks
      recovery.completeNativeBlocks.insert
  let full := decide (maxBufferedNativeBlocks ≤ completeNativeBlocks.size)
  let counted := { recovery with
    completeNativeBlocks, cancelled := recovery.cancelled || late || full }
  match recovery.phase with
  | .fatal => .error ("broadcaster recovery worker terminated: " ++
      recovery.fatalError.getD "unknown recovery failure")
  | .idle => .ok (false, recovery)
  | .building => .ok (true, { counted with bufferA := recovery.bufferA ++ [update] })
  | .publishing | .draining => .ok (false, counted)

/-- The recovery has failed for good. -/
def fail (reason : String) : RecoveryPublicationState Sim :=
  { recovery with
    cancelled := true
    phase := .fatal
    fatalError := some reason
    lastOutcome := some .failed }

/-- `finish_recovery_publication`. -/
def finish : RecoveryPublicationState Sim :=
  { recovery with
    phase := .idle
    publisherRecoveryId := none
    completeNativeBlocks := ∅
    lastOutcome := some .committed }

end RecoveryPublicationState

/-! ## The service

Feed and workers take steps in any order. Those that need the gate wait until it is free. -/

/-- What the feed is doing. -/
inductive FeedTask (Sim : Type) where
  | idle
  /-- in front of the lifecycle gate -/
  | entered (feed : FeedMessage)
  /-- `begin_recovery` runs for a new work id -/
  | starting (workId : UInt64) (source : BroadcasterRecoverySource Sim)
  /-- `publish_accepted_payload` runs -/
  | publishing (staged : BroadcasterStagedUpdate Sim) (message : BroadcasterUpdateMessage Sim)
  /-- Buffer A or the publisher has the update; it is committed next -/
  | committing (staged : BroadcasterStagedUpdate Sim)
  /-- the stream has ended -/
  | failed

/-- The feed holds the lifecycle gate. -/
def FeedTask.holdsGate : FeedTask Sim → Bool
  | .idle | .entered _ | .failed => false
  | .starting _ _ | .publishing _ _ | .committing _ => true

/-- What a worker is doing. -/
inductive WorkerTask (Sim : Type) where
  /-- `serialize_recovery_source` runs -/
  | serializing (source : BroadcasterRecoverySource Sim)
  /-- `publish_recovery` runs -/
  | publishing (transaction : BroadcasterRecoveryTransaction Sim)
  /-- the transaction is committed -/
  | published
  /-- in front of `finish_recovery_publication` -/
  | draining
  /-- in front of `handle_local_recovery_failure` -/
  | failedLocally (reason : String)
  /-- in the loop of `handle_external_recovery_failure` -/
  | waiting
  /-- in front of `capture_retry_source` -/
  | retrying (retryId : UInt64)
  /-- `begin_recovery` runs for a source that is pinned; this holds the lifecycle gate -/
  | reserving (source : BroadcasterRecoverySource Sim)

/-- A transaction that was handed to the publisher, with the source of its replacement. -/
structure RecoveryHandover (Sim : Type) where
  source : BroadcasterRecoverySource Sim
  transaction : BroadcasterRecoveryTransaction Sim

/-- How the cached state goes on without the transaction that was handed over last. -/
inductive SupersededBy where
  /-- the next replacement is ready, and its recovery begins -/
  | replacement
  /-- the recovery starts over from a source of its own -/
  | attempt
  /-- an update is too large for an entry, and is kept for the next replacement -/
  | oversized
  /-- a disconnect resets a cache that holds requests for quotes only -/
  | reset
deriving DecidableEq, Repr

/-- A service with its feed and its workers. -/
structure ServiceWorld (Sim : Type) where
  cache : BroadcasterSnapshotCache Sim
  recovery : RecoveryPublicationState Sim
  nextRecoverySourceId : UInt64
  feed : FeedTask Sim
  workers : UInt64 → Option (WorkerTask Sim)
  /-- the last transaction that was handed over -/
  handover : Option (RecoveryHandover Sim)
  /-- what has last superseded it -/
  superseded : Option SupersededBy
  /-- the updates that the publisher has accepted since the handover -/
  live : List (BroadcasterUpdateMessage Sim)
  /-- an update could not be committed since the source was taken -/
  interrupted : Bool

/-- Nobody holds the lifecycle gate. -/
def ServiceWorld.GateIsFree (w : ServiceWorld Sim) : Prop :=
  w.feed.holdsGate = false ∧ ∀ workId source, w.workers workId ≠ some (.reserving source)

namespace ServiceWorld

section

variable (merge : StateSyncMerge) (maxBufferedNativeBlocks : Nat) (w : ServiceWorld Sim)

/-! ### The feed

The feed stages a message behind the gate; then it is committed silently, published, or starts a
recovery. -/

/-- `apply_feed_message_with_progress`, in front of the gate. -/
def enterFeed (feed : FeedMessage) : ServiceWorld Sim :=
  if w.recovery.phase = .fatal ∧ w.recovery.fatalError.isSome then { w with feed := .failed }
  else { w with feed := .entered feed }

/-- `recovery_source`. -/
def recoverySource (staged : BroadcasterStagedUpdate Sim) :
    Option (BroadcasterRecoverySource Sim) :=
  match staged.applyMode, staged.recoveryId with
  | .replacement partitions _ none _, some recoveryId =>
    if staged.replacementReady then some { recoveryId, partitions } else none
  | _, _ => none

/-- Commit a message that only goes on with a replacement. -/
def commitSilently (staged : BroadcasterStagedUpdate Sim) : ServiceWorld Sim :=
  match w.cache.commitStagedUpdate merge staged with
  | .error _ => { w with feed := .failed }
  | .ok cache => { w with cache, feed := .idle }

/-- A replacement is ready: it is committed, and its publication starts. -/
def startRecovery (staged : BroadcasterStagedUpdate Sim) : ServiceWorld Sim :=
  match recoverySource staged, w.cache.commitStagedUpdate merge staged with
  | some source, .ok cache =>
    let recovery := w.recovery.startPublication
    { w with
      cache, recovery, feed := .starting recovery.workId source
      superseded := some .replacement, interrupted := false }
  | _, _ => { w with feed := .failed }

/-- An update goes to Buffer A, or to the publisher. -/
def passOn (late : Bool) (staged : BroadcasterStagedUpdate Sim)
    (message : BroadcasterUpdateMessage Sim) : ServiceWorld Sim :=
  match w.recovery.bufferUpdate maxBufferedNativeBlocks late message with
  | .error _ => { w with feed := .failed }
  | .ok (true, recovery) => { w with recovery, feed := .committing staged }
  | .ok (false, recovery) => { w with recovery, feed := .publishing staged message }

/-- `apply_feed_message_with_progress`, behind the gate. -/
def applyFeed (feed : FeedMessage) (late : Bool) : ServiceWorld Sim :=
  match w.cache.stageFeedMessage merge feed with
  | .error _ => { w with feed := .failed }
  | .ok staged =>
    if staged.replacementReady then w.startRecovery merge staged
    else
      match staged.message with
      | some message => w.passOn maxBufferedNativeBlocks late staged message
      | none => w.commitSilently merge staged

/-- The end of `start_recovery_publication`: the worker is spawned. -/
def spawnWorker (workId : UInt64) (source : BroadcasterRecoverySource Sim) (recoveryId : String)
    (full : Bool) : ServiceWorld Sim :=
  if w.recovery.workId ≠ workId ∨ w.recovery.phase ≠ .building then { w with feed := .idle }
  else
    { w with
      recovery := w.recovery.reserve recoveryId full
      feed := .idle
      workers := Function.update w.workers workId (some (.serializing source)) }

/-- The publisher has accepted an update. -/
def accept (staged : BroadcasterStagedUpdate Sim) (message : BroadcasterUpdateMessage Sim) :
    ServiceWorld Sim :=
  { w with live := w.live ++ [message], feed := .committing staged }

/-- An update that is too large for an entry is kept for the next replacement. -/
def retainOversized (cache : BroadcasterSnapshotCache Sim) : ServiceWorld Sim :=
  { w with
    cache := cache.beginSameGenerationRecoveryFromCurrent, feed := .idle
    superseded := some .oversized }

/-- A commit fails half-way. -/
def leaveHalf (partitions : Partitions Sim) : ServiceWorld Sim :=
  { w with cache.inner.partitions := partitions, feed := .failed, interrupted := true }

/-- `mark_stream_disconnected`. -/
def disconnect : ServiceWorld Sim :=
  if w.cache.configuredBackends.any (· ≠ .rfq) then
    { w with
      cache := w.cache.beginSameGenerationRecovery, recovery := w.recovery.cancelPublication
      feed := .idle }
  else
    { w with
      cache := w.cache.resetSameGeneration, recovery := w.recovery.cancelPublication
      feed := .idle, superseded := some .reset }

/-! ### The workers

A worker serialises the cache, hands the recovery over, waits for its publication, and drains what
was queued meanwhile. It checks its work id whenever it takes the lock. -/

/-- A worker goes on with another task. -/
def setWorker (workId : UInt64) (task : WorkerTask Sim) : ServiceWorld Sim :=
  { w with workers := Function.update w.workers workId (some task) }

/-- A worker is done. -/
def endWorker (workId : UInt64) : ServiceWorld Sim :=
  { w with workers := Function.update w.workers workId none }

/-- `handle_recovery_worker_termination`. -/
def terminateWorker (workId : UInt64) (reason : String) : ServiceWorld Sim :=
  if w.recovery.workId = workId ∧ w.recovery.phase.isActive = true then
    { w with recovery := w.recovery.fail reason }.endWorker workId
  else w.endWorker workId

/-- A replacement is serialised: its publication starts, with Buffer A. -/
def takeOver (workId : UInt64) (source : BroadcasterRecoverySource Sim)
    (replacementJson : String) : ServiceWorld Sim :=
  if w.recovery.workId ≠ workId ∨ w.recovery.phase ≠ .building then w.endWorker workId
  else if w.recovery.cancelled then
    w.setWorker workId
      (.failedLocally "recovery exceeded its Buffer A bounds before publication")
  else
    let w' := { w with recovery.phase := .publishing, recovery.bufferA := [] }
    match w.recovery.publisherRecoveryId with
    | none => w'.terminateWorker workId "recovery publication has no publisher reservation"
    | some recoveryId =>
      let transaction : BroadcasterRecoveryTransaction Sim :=
        { recoveryId, backends := w.cache.configuredBackends, replacementJson
          bufferA := w.recovery.bufferA }
      { w' with
        handover := some { source, transaction }, superseded := none, live := [] }.setWorker workId
        (.publishing transaction)

/-- `publish_recovery` has committed the transaction. -/
def startDraining (workId : UInt64) : ServiceWorld Sim :=
  if w.recovery.workId ≠ workId then w.endWorker workId
  else { w with recovery.phase := .draining }.setWorker workId .draining

/-- `finish_recovery_publication`. -/
def finishRecovery (workId : UInt64) : ServiceWorld Sim :=
  if w.recovery.workId ≠ workId ∨ w.recovery.phase ≠ .draining then w.endWorker workId
  else { w with recovery := w.recovery.finish }.endWorker workId

/-- Another attempt. -/
def retry (workId : UInt64) : ServiceWorld Sim :=
  { w with
    recovery := w.recovery.prepareRetry
    nextRecoverySourceId := w.nextRecoverySourceId + 1
    superseded := some .attempt }.setWorker workId (.retrying w.nextRecoverySourceId)

/-- `handle_local_recovery_failure`. -/
def handleLocalFailure (workId : UInt64) (reason : String) : ServiceWorld Sim :=
  if w.recovery.workId ≠ workId then w.endWorker workId
  else if recoveryMaxLocalFailures ≤ w.recovery.localFailures then
    { w with recovery := w.recovery.fail reason }.endWorker workId
  else { w with recovery.localFailures := w.recovery.localFailures + 1 }.retry workId

/-- `handle_external_recovery_failure` finds the recovery cancelled. -/
def abandon (workId : UInt64) : ServiceWorld Sim :=
  if w.recovery.workId ≠ workId then w.endWorker workId
  else { w with recovery := w.recovery.cancelPublication }.endWorker workId

/-- `handle_external_recovery_failure` finds the publisher retired. -/
def giveUp (workId : UInt64) : ServiceWorld Sim :=
  if w.recovery.workId ≠ workId then w.endWorker workId
  else
    { w with
      recovery.phase := .fatal
      recovery.fatalError := some "active Redis writer fence was lost during recovery"
      }.endWorker workId

/-- `handle_external_recovery_failure` has renewed the lease. -/
def resume (workId : UInt64) : ServiceWorld Sim :=
  if w.recovery.workId ≠ workId then w.endWorker workId else w.retry workId

/-- `capture_retry_source`, up to the reservation at the publisher. -/
def pinSource (workId retryId : UInt64) : ServiceWorld Sim :=
  if w.recovery.workId ≠ workId ∨ w.recovery.phase ≠ .building then w.endWorker workId
  else
    { w with recovery.bufferA := [], interrupted := false }.setWorker workId
      (.reserving { recoveryId := retryId, partitions := w.cache.inner.partitions })

/-- The end of `capture_retry_source`. -/
def reserveSource (workId : UInt64) (source : BroadcasterRecoverySource Sim)
    (recoveryId : String) (full : Bool) : ServiceWorld Sim :=
  if w.recovery.workId ≠ workId ∨ w.recovery.phase ≠ .building then w.endWorker workId
  else { w with recovery := w.recovery.reserve recoveryId full }.setWorker workId
    (.serializing source)

end

end ServiceWorld

section

variable (merge : StateSyncMerge) (serialisedLen : SerialisedLen Sim)
  (toJson : List (BroadcasterEnvelope Sim) → Except String String)
  (maxPayloadBytes maxBufferedNativeBlocks : Nat)

/-- One step of the service. -/
inductive ServiceStep (w : ServiceWorld Sim) : ServiceWorld Sim → Prop where
  /-- the upstream stream ends, or may not be read while the feeds are paused -/
  | streamEnded : w.feed = .idle → ServiceStep w { w with feed := .failed }
  | feedEntered (feed : FeedMessage) : w.feed = .idle → ServiceStep w (w.enterFeed feed)
  | feedApplied {feed : FeedMessage} (late : Bool) : w.feed = .entered feed → w.GateIsFree →
    ServiceStep w (w.applyFeed merge maxBufferedNativeBlocks feed late)
  | workerSpawned {workId : UInt64} {source : BroadcasterRecoverySource Sim} (recoveryId : String)
      (full : Bool) : w.feed = .starting workId source →
    ServiceStep w (w.spawnWorker workId source recoveryId full)
  | accepted {staged : BroadcasterStagedUpdate Sim} {message : BroadcasterUpdateMessage Sim} :
    w.feed = .publishing staged message → ServiceStep w (w.accept staged message)
  | oversized {staged : BroadcasterStagedUpdate Sim} {message : BroadcasterUpdateMessage Sim}
      {cache : BroadcasterSnapshotCache Sim} : w.feed = .publishing staged message →
    w.cache.commitStagedUpdate merge staged = .ok cache →
    ServiceStep w (w.retainOversized cache)
  | refused {staged : BroadcasterStagedUpdate Sim} {message : BroadcasterUpdateMessage Sim} :
    w.feed = .publishing staged message → ServiceStep w { w with feed := .failed }
  | committed {staged : BroadcasterStagedUpdate Sim} {cache : BroadcasterSnapshotCache Sim} :
    w.feed = .committing staged → w.cache.commitStagedUpdate merge staged = .ok cache →
    ServiceStep w { w with cache, feed := .idle }
  | notCommitted {staged : BroadcasterStagedUpdate Sim} {error : SnapshotError}
      (partitions : Partitions Sim) :
    w.feed = .committing staged ∨ (∃ message, w.feed = .publishing staged message) →
    w.cache.commitStagedUpdate merge staged = .error error →
    ServiceStep w (w.leaveHalf partitions)
  | disconnected : w.feed = .failed → w.GateIsFree → ServiceStep w w.disconnect
  /-- `recover_shared_publisher_when_paused` -/
  | relabelled (generation : UInt64) : w.GateIsFree →
    ServiceStep w { w with cache := w.cache.relabelGeneration generation }
  /-- the bounds monitor, or the publisher at too many native blocks -/
  | bounded : w.recovery.phase.isActive = true →
    ServiceStep w { w with recovery.cancelled := true }
  | serialised {workId : UInt64} {source : BroadcasterRecoverySource Sim}
      {replacementJson : String} : w.workers workId = some (.serializing source) →
    w.cache.serializeRecoverySource serialisedLen toJson source maxPayloadBytes =
      .ok replacementJson →
    ServiceStep w (w.takeOver workId source replacementJson)
  /-- the replacement cannot be serialised -/
  | notSerialised {workId : UInt64} {source : BroadcasterRecoverySource Sim} (reason : String) :
    w.workers workId = some (.serializing source) →
    ServiceStep w (w.setWorker workId (.failedLocally reason))
  | published {workId : UInt64} {transaction : BroadcasterRecoveryTransaction Sim} :
    w.workers workId = some (.publishing transaction) →
    ServiceStep w (w.setWorker workId .published)
  /-- the publication was cancelled, or an entry is too large -/
  | notPublished {workId : UInt64} {transaction : BroadcasterRecoveryTransaction Sim}
      (reason : String) : w.workers workId = some (.publishing transaction) →
    ServiceStep w (w.setWorker workId (.failedLocally reason))
  /-- another error of the publisher -/
  | publisherFailed {workId : UInt64} {transaction : BroadcasterRecoveryTransaction Sim} :
    w.workers workId = some (.publishing transaction) →
    ServiceStep w (w.setWorker workId .waiting)
  /-- a commit that may have landed, or a panic -/
  | terminated {workId : UInt64} {task : WorkerTask Sim} (reason : String) :
    w.workers workId = some task → ServiceStep w (w.terminateWorker workId reason)
  | draining {workId : UInt64} : w.workers workId = some .published →
    ServiceStep w (w.startDraining workId)
  | finished {workId : UInt64} : w.workers workId = some .draining →
    ServiceStep w (w.finishRecovery workId)
  | localFailure {workId : UInt64} {reason : String} :
    w.workers workId = some (.failedLocally reason) →
    ServiceStep w (w.handleLocalFailure workId reason)
  | abandoned {workId : UInt64} : w.workers workId = some .waiting →
    w.recovery.cancelled = true → ServiceStep w (w.abandon workId)
  | gaveUp {workId : UInt64} : w.workers workId = some .waiting → ServiceStep w (w.giveUp workId)
  | resumed {workId : UInt64} : w.workers workId = some .waiting → ServiceStep w (w.resume workId)
  | pinned {workId retryId : UInt64} : w.workers workId = some (.retrying retryId) →
    w.GateIsFree → ServiceStep w (w.pinSource workId retryId)
  | reserved {workId : UInt64} {source : BroadcasterRecoverySource Sim} (recoveryId : String)
      (full : Bool) : w.workers workId = some (.reserving source) →
    ServiceStep w (w.reserveSource workId source recoveryId full)

/-- A service before its first recovery. -/
structure ServiceInit (w : ServiceWorld Sim) : Prop where
  recovery : w.recovery = .new
  feed : w.feed = .idle
  workers : ∀ workId, w.workers workId = none
  handover : w.handover = none

/-- The machine of a service. -/
def serviceMachine : Machine (ServiceWorld Sim) where
  init := ServiceInit
  step := ServiceStep merge serialisedLen toJson maxPayloadBytes maxBufferedNativeBlocks

end

end TychoSimulationServer
