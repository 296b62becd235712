import TychoSimulationServer.Machine
import TychoSimulationServer.RedisPublisher

/-!
# Runs of one publisher

Inside one generation a publisher is a machine: its own state, the gate, the task that holds its
lock, and the entries of the generation. A step is what happens between two waits.

* **Appends** fail before their entry landed or after. A lost reply leaves the publisher one number
  behind the stream, until a renewal of the lease reads the end of the stream.
* **Versions** are allocated before the append and never given back.
* **Recoveries** are cancelled between two appends; the gate stays open until one is committed and
  everything that waits in the queue is appended.

After a promotion the callers hold their own lock until the handoff is drained, or the gate is
reset, so that nothing else is published before.

A trace that no function reads follows the updates of each backend since its last recovery began.
-/

namespace TychoSimulationServer

open Fallible

variable {Sim : Type}

/-! ## State

A task of the publisher holds locks across awaits, so what it is doing is part of the state. The log
is what Redis has; a reply to an append may get lost. -/

/-- `FrozenStartupHandoff`. -/
structure FrozenStartupHandoff (Sim : Type) where
  id : UInt64
  payloads : List (BroadcasterPayload Sim)

/-- Who appends a live payload. -/
inductive LiveOrigin (Sim : Type) where
  /-- `publish_accepted_payload` -/
  | accepted
  /-- `drain_startup_handoff`, with what it appends afterwards -/
  | handoff (rest : List (BroadcasterPayload Sim))
  /-- `drain_pending_payloads_locked` -/
  | queued

/-- What is going on in the publisher. -/
inductive PublisherTask (Sim : Type) where
  /-- promoted; the handoff is drained next -/
  | promoted (handoff : FrozenStartupHandoff Sim)
  /-- promoted again after a lost fence; the gate is reset next -/
  | recovering
  /-- between two payloads of the handoff -/
  | handoff (payloads : List (BroadcasterPayload Sim))
  /-- in front of the append of a live payload -/
  | append (prepared : PreparedPayload) (payload : BroadcasterPayload Sim)
      (origin : LiveOrigin Sim)
  /-- in front of the append of the next entry of a recovery -/
  | recovery (entries : List BroadcasterRedisStreamEntry) (targetStateVersion : UInt64)
  /-- between two payloads of the queue -/
  | draining

/-- The publisher's lock is free. -/
def lockIsFree : Option (PublisherTask Sim) → Bool
  | none | some (.promoted _) | some .recovering => true
  | _ => false

/-- No recovery is being published. -/
def coordinatorIsFree : Option (PublisherTask Sim) → Bool
  | some (.append _ _ .queued) | some (.recovery _ _) | some .draining => false
  | _ => true

/-- The live payloads of a task, from the one that is appended on. -/
def PublisherTask.payloads : PublisherTask Sim → List (BroadcasterPayload Sim)
  | .promoted frozen => frozen.payloads
  | .handoff payloads => payloads
  | .append _ payload (.handoff rest) => payload :: rest
  | .append _ payload _ => [payload]
  | .recovering | .recovery _ _ | .draining => []

/-- The partitions of a backend in a payload. -/
def BroadcasterPayload.partitionsOf (backend : BroadcasterBackend) :
    BroadcasterPayload Sim → List (BroadcasterUpdatePartition Sim)
  | .update message => message.partitions.filter fun partition => partition.backend = backend
  | _ => []

/-- The partitions of a backend in some payloads. -/
def partitionsOf (backend : BroadcasterBackend) (payloads : List (BroadcasterPayload Sim)) :
    List (BroadcasterUpdatePartition Sim) :=
  payloads.flatMap (·.partitionsOf backend)

/-- What became of the updates of each backend since its last recovery began. -/
structure PublisherTrace (Sim : Type) where
  /-- accepted, or on their way to the stream -/
  accepted : BroadcasterBackend → List (BroadcasterUpdatePartition Sim)
  /-- in the stream for certain, with the numbers of their entries -/
  sent : BroadcasterBackend → List (BroadcasterUpdatePartition Sim × UInt64)
  /-- some were refused or given up -/
  lost : BroadcasterBackend → Bool

namespace PublisherTrace

variable (trace : PublisherTrace Sim)

/-- Nothing is sent yet. -/
def start (waiting : List (BroadcasterPayload Sim)) : PublisherTrace Sim :=
  { accepted := fun backend => partitionsOf backend waiting, sent := fun _ => []
    lost := fun _ => false }

/-- A payload is accepted. -/
def accept (payload : BroadcasterPayload Sim) : PublisherTrace Sim :=
  { trace with accepted := fun backend =>
      trace.accepted backend ++ payload.partitionsOf backend }

/-- A payload is in the stream. -/
def send (payload : BroadcasterPayload Sim) (messageSeq : UInt64) : PublisherTrace Sim :=
  { trace with sent := fun backend =>
      trace.sent backend ++ (payload.partitionsOf backend).map (·, messageSeq) }

/-- Payloads are refused or given up. -/
def lose (payloads : List (BroadcasterPayload Sim)) : PublisherTrace Sim :=
  { trace with lost := fun backend =>
      trace.lost backend || !(partitionsOf backend payloads).isEmpty }

/-- Some backends start over, with what waits for them outside of the queue. -/
def replace (backends : List BroadcasterBackend) (waiting : List (BroadcasterPayload Sim)) :
    PublisherTrace Sim :=
  { accepted := fun backend =>
      if backend ∈ backends then partitionsOf backend waiting else trace.accepted backend
    sent := fun backend => if backend ∈ backends then [] else trace.sent backend
    lost := fun backend => if backend ∈ backends then false else trace.lost backend }

end PublisherTrace

/-- A publisher with the stream of its generation. -/
structure PublisherWorld (Sim : Type) where
  guard : BroadcasterRedisPublisherState Sim
  gate : PublisherRecoveryGate Sim
  nextRecoveryId : UInt64
  task : Option (PublisherTask Sim)
  /-- the entries of the generation, trimmed ones included -/
  log : List BroadcasterRedisStreamEntry
  /-- the replay boundaries that were handed out -/
  boundaries : List BroadcasterRedisReplayBoundary
  trace : PublisherTrace Sim

/-- The live payloads that wait for the stream, in order. -/
def PublisherWorld.waiting (w : PublisherWorld Sim) : List (BroadcasterPayload Sim) :=
  w.task.elim [] (·.payloads) ++ w.gate.pendingPayloads

/-- How an append ended: whether the entry landed, and the error that was reported. -/
structure AppendReply where
  lands : Bool
  error : Option String
deriving DecidableEq

/-- What Redis can answer: an entry lands behind all others, and a success means that it landed or
that it was there, with these fields. -/
structure AppendReply.Possible (log : List BroadcasterRedisStreamEntry)
    (entry : BroadcasterRedisStreamEntry) (reply : AppendReply) : Prop where
  behind : reply.lands = true → ∀ earlier ∈ log, earlier.messageSeq < entry.messageSeq
  found : reply.error = none → reply.lands = true ∨ entry ∈ log

/-! ## Steps -/

/-- `resync_stream_tail_locked`: the number after the last entry, if that is further. -/
def resyncStreamTail (state : BroadcasterRedisPublisherState Sim)
    (log : List BroadcasterRedisStreamEntry) :
    Except String (BroadcasterRedisPublisherState Sim) :=
  match log.getLast? with
  | none => .ok state
  | some last =>
    if last.messageSeq < state.nextMessageSeq then .ok state
    else if last.messageSeq.toNat + 1 < 2 ^ 64 then
      .ok { state with nextMessageSeq := last.messageSeq + 1 }
    else .error "Redis broadcaster message_seq overflow during tail resync"

namespace PublisherWorld

section

variable (json : EnvelopeJson Sim) (config : BroadcasterRedisPublisherConfig)
  (digestBytes : String → String) (maxBufferedNativeBlocks : Nat)
  (errorText : PublishError → String) (w : PublisherWorld Sim)

/-- `append_entry_locked`. -/
def appendEntry (entry : BroadcasterRedisStreamEntry) (reply : AppendReply) :
    Except String Unit × PublisherWorld Sim :=
  let (expected, found) := (w.guard.nextMessageSeq, entry.messageSeq)
  if found ≠ expected then
    (.error (s!"Redis broadcaster prepared entry sequence mismatch: expected {expected}, found "
      ++ s!"{found}"), w)
  else if found.toNat + 1 < 2 ^ 64 then
    let w := if reply.lands then { w with log := w.log ++ [entry] } else w
    match reply.error with
    | some error =>
      (.error (s!"failed to append Redis broadcaster message_seq {found}: " ++ error), w)
    | none => (.ok (), { w with guard := w.guard.recordAppendSuccess (found + 1) })
  else (.error "Redis broadcaster message_seq overflow", w)

/-- `begin_recovery`. -/
def beginRecovery (backends : List BroadcasterBackend) (cancelled : Bool) : PublisherWorld Sim :=
  { w with
    gate := w.gate.beginRecovery maxBufferedNativeBlocks backends
      ("recovery-" ++ u64ToString w.nextRecoveryId) cancelled
    nextRecoveryId := w.nextRecoveryId + 1
    trace := w.trace.replace backends (w.task.elim [] (·.payloads)) }

/-- `publish_accepted_payload` at an open gate. -/
def queue (payload : BroadcasterPayload Sim) : PublisherWorld Sim :=
  let (result, gate) := w.gate.accept maxBufferedNativeBlocks payload
  match result with
  | .ok () => { w with gate, trace := w.trace.accept payload }
  | .error _ => { w with gate }

/-- The end of `append_live_payload_locked`, and what its callers make of it. -/
def appendLive (prepared : PreparedPayload) (payload : BroadcasterPayload Sim)
    (origin : LiveOrigin Sim) (reply : AppendReply) : PublisherWorld Sim :=
  let (result, w) := w.appendEntry prepared.entry reply
  match result with
  | .ok () =>
    let committed := prepared.stateVersion.getD w.guard.committedStateVersion
    let task := match origin with
      | .accepted => none
      | .handoff rest => some (.handoff rest)
      | .queued => some .draining
    { w with
      guard.committedStateVersion := committed, task
      trace := w.trace.send payload prepared.entry.messageSeq }
  | .error message =>
    match origin with
    | .accepted =>
      { w with
        guard := w.guard.recordPublisherError message, task := none
        trace := w.trace.lose [payload] }
    | .handoff rest =>
      { w with
        guard := w.guard.recordRetired message, task := none
        trace := w.trace.lose (payload :: rest) }
    | .queued =>
      { w with gate.pendingPayloads := payload :: w.gate.pendingPayloads, task := none }

/-- `publish_accepted_payload` at a closed gate, up to its append. -/
def publishAccepted (payload : BroadcasterPayload Sim) (currentTimeMs : UInt64) (late : Bool) :
    PublisherWorld Sim :=
  match w.guard.mode with
  | .passive =>
    { w with guard.startupHandoff := w.guard.startupHandoff.map fun buffer =>
        (buffer.accept maxBufferedNativeBlocks late payload).toOption.getD buffer }
  | .retired | .unhealthy => w
  | .active =>
    if w.guard.lastError ≠ none then w
    else
      match normalizeLivePayload payload w.guard.snapshotId with
      | .error _ => w
      | .ok payload =>
        match prepareLivePayload json config w.guard payload currentTimeMs with
        | (.ok prepared, guard) =>
          { w with
            guard, task := some (.append prepared payload .accepted)
            trace := w.trace.accept payload }
        | (.error (.oversized ..), guard) => { w with guard }
        | (.error error, guard) => { w with guard := guard.recordPublisherError (errorText error) }

/-- `drain_startup_handoff`, up to its first payload. -/
def drainStartupHandoff (handoff : FrozenStartupHandoff Sim) : PublisherWorld Sim :=
  if w.guard.mode = .active ∧ w.guard.startupHandoff.any (fun buffer =>
      buffer.id = handoff.id && buffer.frozen) then
    { w with task := some (.handoff handoff.payloads) }
  else { w with task := none, trace := w.trace.lose handoff.payloads }

/-- The next payload of `drain_startup_handoff`. -/
def drainHandoffNext (payloads : List (BroadcasterPayload Sim)) (currentTimeMs : UInt64) :
    PublisherWorld Sim :=
  match payloads with
  | [] => { w with guard.startupHandoff := none, task := none }
  | payload :: rest =>
    match normalizeLivePayload payload w.guard.snapshotId with
    | .error _ => { w with task := none, trace := w.trace.lose (payload :: rest) }
    | .ok payload =>
      match prepareLivePayload json config w.guard payload currentTimeMs with
      | (.ok prepared, guard) =>
        { w with guard, task := some (.append prepared payload (.handoff rest)) }
      | (.error error, guard) =>
        { w with
          guard := guard.recordRetired (errorText error), task := none
          trace := w.trace.lose (payload :: rest) }

/-- `publish_recovery`, up to its first append. -/
def startRecovery (transaction : BroadcasterRecoveryTransaction Sim) (clock : RecoveryClock) :
    PublisherWorld Sim :=
  if w.gate.openRecoveryId = some transaction.recoveryId ∧ w.gate.cancelled = false ∧
      w.guard.IsActive ∧ transaction.replacementJson ≠ "" then
    match w.guard.allocateStateVersion with
    | .error _ => w
    | .ok (targetStateVersion, guard) =>
      match recoveryEntries json config digestBytes guard.streamId guard.nextMessageSeq
        targetStateVersion transaction clock with
      | .error _ => { w with guard }
      | .ok entries => { w with guard, task := some (.recovery entries targetStateVersion) }
  else w

/-- The append of the next entry of `publish_recovery`. -/
def appendRecovery (entry : BroadcasterRedisStreamEntry) (rest : List BroadcasterRedisStreamEntry)
    (targetStateVersion : UInt64) (reply : AppendReply) : PublisherWorld Sim :=
  let (result, w) := w.appendEntry entry reply
  match result, rest with
  | .error message, _ => { w with guard := w.guard.recordPublisherError message, task := none }
  | .ok (), [] =>
    { w with guard.committedStateVersion := targetStateVersion, task := some .draining }
  | .ok (), rest => { w with task := some (.recovery rest targetStateVersion) }

/-- Hand out `replay_boundary_locked`. -/
def takeBoundary : PublisherWorld Sim :=
  { w with
    boundaries := w.boundaries ++ (w.guard.replayBoundary config.streamKey).toOption.toList }

/-- The next payload of `drain_pending_payloads_locked`; after the last one the gate is closed, and
`publish_recovery` returns a boundary. -/
def drainQueueNext (currentTimeMs : UInt64) : PublisherWorld Sim :=
  match w.gate.pendingPayloads with
  | [] =>
    let gate := { w.gate with openRecoveryId := none, cancelled := false, completeNativeBlocks := ∅ }
    ({ w with gate, task := none } : PublisherWorld Sim).takeBoundary config
  | payload :: rest =>
    match normalizeLivePayload payload w.guard.snapshotId with
    | .error _ => { w with gate.pendingPayloads := rest, task := none }
    | .ok payload =>
      match prepareLivePayload json config w.guard payload currentTimeMs with
      | (.ok prepared, guard) =>
        { w with guard, gate.pendingPayloads := rest
                 task := some (.append prepared payload .queued) }
      | (.error _, guard) => { w with guard, gate.pendingPayloads := payload :: rest, task := none }

/-- `verify_writer_fence_locked`, with what Redis says. -/
def verifyWriterFence (verified : Option String) : PublisherWorld Sim :=
  if w.guard.IsActive then
    match verified with
    | some message => { w with guard := w.guard.recordPublisherError message }
    | none => { w with guard.lastError := none }
  else w

/-- `renew_lease`, with what Redis says to the renewal and to the inspection. -/
def renewLease (renewed inspected : Option String) : PublisherWorld Sim :=
  match w.guard.mode with
  | .passive | .retired => w
  | .active => w.verifyWriterFence renewed
  | .unhealthy =>
    match renewed, inspected with
    | some message, _ =>
      if isStaleWriterError message then { w with guard := w.guard.recordRetired message } else w
    | none, some _ => w
    | none, none =>
      match resyncStreamTail w.guard w.log with
      | .error _ => w
      | .ok guard => { w with guard := { guard with mode := .active, lastError := none } }

end

end PublisherWorld

section

variable (json : EnvelopeJson Sim) (config : BroadcasterRedisPublisherConfig)
  (digestBytes : String → String) (maxBufferedNativeBlocks : Nat)
  (errorText : PublishError → String)

/-- One step of the publisher. -/
inductive PublisherStep (w : PublisherWorld Sim) : PublisherWorld Sim → Prop where
  | beginRecovery (backends : List BroadcasterBackend) (cancelled : Bool) :
    coordinatorIsFree w.task = true →
    PublisherStep w (w.beginRecovery maxBufferedNativeBlocks backends cancelled)
  /-- the service of the open recovery cancels it -/
  | cancel : PublisherStep w { w with gate.cancelled := true }
  | queue (payload : BroadcasterPayload Sim) : w.gate.openRecoveryId ≠ none →
    PublisherStep w (w.queue maxBufferedNativeBlocks payload)
  /-- `publish_accepted_payload` at a closed gate -/
  | publish (payload : BroadcasterPayload Sim) (currentTimeMs : UInt64) (late : Bool) :
    w.gate.openRecoveryId = none → w.task = none → PublisherStep w
      (w.publishAccepted json config maxBufferedNativeBlocks errorText payload currentTimeMs late)
  /-- a live payload was appended, or not -/
  | appended {prepared : PreparedPayload} {payload : BroadcasterPayload Sim}
      {origin : LiveOrigin Sim} (reply : AppendReply) :
    w.task = some (.append prepared payload origin) → reply.Possible w.log prepared.entry →
    PublisherStep w (w.appendLive prepared payload origin reply)
  /-- `drain_startup_handoff` -/
  | drainHandoff {handoff : FrozenStartupHandoff Sim} : w.task = some (.promoted handoff) →
    PublisherStep w (w.drainStartupHandoff handoff)
  | handoffNext {payloads : List (BroadcasterPayload Sim)} (currentTimeMs : UInt64) :
    w.task = some (.handoff payloads) →
    PublisherStep w (w.drainHandoffNext json config errorText payloads currentTimeMs)
  /-- `recover_writer` resets the gate -/
  | resetGate : w.task = some .recovering →
    PublisherStep w { w with gate := .closed, task := none, trace := .start [] }
  /-- `publish_recovery` -/
  | startRecovery (transaction : BroadcasterRecoveryTransaction Sim) (clock : RecoveryClock) :
    w.task = none → PublisherStep w (w.startRecovery json config digestBytes transaction clock)
  | recovered {entry : BroadcasterRedisStreamEntry} {rest : List BroadcasterRedisStreamEntry}
      {targetStateVersion : UInt64} (reply : AppendReply) :
    w.task = some (.recovery (entry :: rest) targetStateVersion) → w.gate.cancelled = false →
    reply.Possible w.log entry →
    PublisherStep w (w.appendRecovery entry rest targetStateVersion reply)
  | cancelled {entries : List BroadcasterRedisStreamEntry} {targetStateVersion : UInt64} :
    w.task = some (.recovery entries targetStateVersion) → w.gate.cancelled = true →
    PublisherStep w { w with task := none }
  | queueNext (currentTimeMs : UInt64) : w.task = some .draining →
    PublisherStep w (w.drainQueueNext json config currentTimeMs)
  /-- `renew_lease` -/
  | renewLease (renewed inspected : Option String) : lockIsFree w.task = true →
    PublisherStep w (w.renewLease renewed inspected)
  /-- `verify_active_writer`, and the verification of a status -/
  | verify (verified : Option String) : lockIsFree w.task = true →
    PublisherStep w (w.verifyWriterFence verified)
  /-- `replay_boundary` and `status_snapshot` -/
  | boundary : lockIsFree w.task = true → w.guard.IsActive →
    PublisherStep w (w.takeBoundary config)
  /-- `self_fence` -/
  | selfFence (reason : String) : lockIsFree w.task = true →
    PublisherStep w { w with guard := w.guard.recordRetired reason }

/-- A generation starts with its marker, and with the boundary that `promote` returns. The gate is
as it was; nothing waits behind a closed one. -/
structure PublisherInit (w : PublisherWorld Sim) : Prop where
  guard : ∃ (before : BroadcasterRedisPublisherState Sim) (generation : UInt64),
    w.guard = before.activateGeneration config.chainId generation
  marker : ∃ (marker : BroadcasterRedisStreamEntry) (stateVersion : UInt64), w.log = [marker] ∧
    NumberedEntry marker 1 stateVersion .progress
  task : w.task = some .recovering ∨
    ∃ handoff : FrozenStartupHandoff Sim, w.task = some (.promoted handoff)
  boundaries : w.boundaries = (w.guard.replayBoundary config.streamKey).toOption.toList
  gate : w.gate.openRecoveryId = none → w.gate.pendingPayloads = []
  trace : w.trace = .start w.waiting

/-- **The publisher of one generation.** -/
def publisherMachine : Machine (PublisherWorld Sim) where
  init := PublisherInit config
  step := PublisherStep json config digestBytes maxBufferedNativeBlocks errorText

end

end TychoSimulationServer
