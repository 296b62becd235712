import Mathlib.Data.Finset.Lattice.Lemmas
import TychoSimulationServer.Contract

/-!
# The subscription tracker

A consumer feeds every envelope it receives to a `BroadcasterSubscriptionTracker` before it acts on
it. The tracker is a three-state machine: it waits for a `SnapshotStart`, counts the chunks of the
snapshot, and is live once the `SnapshotEnd` arrived. Each state accepts a few payload kinds only,
and an envelope that is not accepted must leave no trace.

The results are about whole runs. The *session grammar* says position by position what a sequence
of envelopes has to look like; the tracker accepts a sequence exactly when it follows the grammar
and its partitions have valid contents.
-/

namespace TychoSimulationServer

open Fallible

variable {Sim : Type}

/-! ## The machine -/

/-- What the tracker remembers while a snapshot is arriving. -/
structure SnapshotObservationState where
  streamId : String
  chainId : UInt64
  snapshotId : String
  declaredBackends : Finset BroadcasterBackend
  observedBackends : Finset BroadcasterBackend
  nextChunkIndex : UInt32
  totalChunks : UInt32
deriving DecidableEq

/-- `BroadcasterSubscriptionState`. -/
inductive BroadcasterSubscriptionState where
  | awaitingSnapshot
  | snapshot (snapshot : SnapshotObservationState)
  | live (streamId : String) (chainId : UInt64) (snapshotId : String)
      (declaredBackends : Finset BroadcasterBackend)
deriving DecidableEq

/-- `BroadcasterSubscriptionState::label`. -/
def BroadcasterSubscriptionState.label : BroadcasterSubscriptionState → String
  | .awaitingSnapshot => "awaiting_snapshot"
  | .snapshot _ => "snapshot"
  | .live _ _ _ _ => "live"

/-- `BroadcasterSubscriptionEvent`. -/
inductive BroadcasterSubscriptionEvent where
  | snapshotStarted (snapshotId : String)
  | snapshotChunkAccepted (snapshotId : String) (chunkIndex : UInt32)
  | snapshotCompleted (snapshotId : String)
  | updateAccepted
  | heartbeatAccepted
  | progressAccepted
deriving DecidableEq, Repr

/-- `BroadcasterSubscriptionTracker`. -/
structure BroadcasterSubscriptionTracker where
  state : BroadcasterSubscriptionState
  nextMessageSeq : Option UInt64
deriving DecidableEq

/-- `BroadcasterSubscriptionTracker::new`. -/
def BroadcasterSubscriptionTracker.new : BroadcasterSubscriptionTracker :=
  { state := .awaitingSnapshot, nextMessageSeq := none }

/-- A method of the tracker: it may fail, and it may have written before it failed. -/
abbrev Observe := Stateful BroadcasterContractError BroadcasterSubscriptionTracker

/-- `observe_awaiting_snapshot`. -/
def observeAwaitingSnapshot (envelope : BroadcasterEnvelope Sim) :
    Observe BroadcasterSubscriptionEvent :=
  match envelope.payload with
  | .snapshotStart start => do
    check (validateSnapshotStartBackends start.backends)
    let nextSeq ← check (nextMessageSeq envelope.messageSeq)
    set
      { state := .snapshot
          { streamId := envelope.streamId
            chainId := start.chainId
            snapshotId := start.snapshotId
            declaredBackends := start.backends.toFinset
            observedBackends := ∅
            nextChunkIndex := 0
            totalChunks := start.totalChunks }
        nextMessageSeq := some nextSeq : BroadcasterSubscriptionTracker }
    pure (.snapshotStarted start.snapshotId)
  | _ => throw (.expectedSnapshotStart envelope.kind)

/-- `observe_snapshot`. -/
def observeSnapshot (envelope : BroadcasterEnvelope Sim) (snapshot : SnapshotObservationState) :
    Observe BroadcasterSubscriptionEvent := do
  let tracker ← get
  check (ensureStreamId snapshot.streamId envelope.streamId)
  check (ensureMessageSeq tracker.nextMessageSeq envelope.messageSeq)
  let nextSeq ← check (nextMessageSeq envelope.messageSeq)
  match envelope.payload with
  | .snapshotStart _ => throw (.unexpectedSnapshotStart tracker.state.label)
  | .snapshotChunk chunk => do
    check (ensureSnapshotId snapshot.snapshotId chunk.snapshotId)
    check (ensure (snapshot.nextChunkIndex < snapshot.totalChunks)
      (.extraSnapshotChunk snapshot.totalChunks chunk.chunkIndex))
    check (validateSnapshotChunkPartitions chunk.partitions)
    check (validateDeclaredBackendEntries "snapshot_chunk.partitions"
      (chunk.partitions.map (·.backend)) snapshot.declaredBackends)
    check (ensure (chunk.chunkIndex = snapshot.nextChunkIndex)
      (.unexpectedChunkIndex snapshot.nextChunkIndex chunk.chunkIndex))
    set
      { state := .snapshot
          { snapshot with
            observedBackends :=
              snapshot.observedBackends ∪ (chunk.partitions.map (·.backend)).toFinset
            nextChunkIndex := snapshot.nextChunkIndex + 1 }
        nextMessageSeq := some nextSeq : BroadcasterSubscriptionTracker }
    pure (.snapshotChunkAccepted chunk.snapshotId chunk.chunkIndex)
  | .snapshotEnd finish => do
    check (ensureSnapshotId snapshot.snapshotId finish.snapshotId)
    check (ensure (snapshot.nextChunkIndex = snapshot.totalChunks)
      (.snapshotIncomplete snapshot.totalChunks snapshot.nextChunkIndex))
    check (ensureAllDeclaredBackendsObserved snapshot.declaredBackends snapshot.observedBackends)
    set
      { state := .live snapshot.streamId snapshot.chainId snapshot.snapshotId
          snapshot.declaredBackends
        nextMessageSeq := some nextSeq : BroadcasterSubscriptionTracker }
    pure (.snapshotCompleted finish.snapshotId)
  | .recoveryStart _ | .recoveryChunk _ | .recoveryCatchUp _ | .recoveryCommit _ =>
    throw (.unexpectedRecoveryMessage envelope.kind)
  | .update _ => throw .updateBeforeSnapshotComplete
  | .heartbeat _ => throw .heartbeatBeforeSnapshotComplete
  | .progress _ => throw .progressBeforeSnapshotComplete

/-- `observe_live`. -/
def observeLive (envelope : BroadcasterEnvelope Sim) (streamId : String) (chainId : UInt64)
    (snapshotId : String) (declaredBackends : Finset BroadcasterBackend) :
    Observe BroadcasterSubscriptionEvent := do
  let tracker ← get
  check (ensureStreamId streamId envelope.streamId)
  check (ensureMessageSeq tracker.nextMessageSeq envelope.messageSeq)
  let nextSeq ← check (nextMessageSeq envelope.messageSeq)
  match envelope.payload with
  | .snapshotStart _ => throw (.unexpectedSnapshotStart tracker.state.label)
  | .snapshotChunk _ => throw .unexpectedSnapshotChunk
  | .snapshotEnd _ => throw .unexpectedSnapshotEnd
  | .recoveryStart _ | .recoveryChunk _ | .recoveryCatchUp _ | .recoveryCommit _ =>
    throw (.unexpectedRecoveryMessage envelope.kind)
  | .update update => do
    check (validateUpdatePartitions update.partitions)
    check (validateDeclaredBackendEntries "update.partitions"
      (update.partitions.map (·.backend)) declaredBackends)
    set { tracker with nextMessageSeq := some nextSeq }
    pure .updateAccepted
  | .heartbeat heartbeat => do
    check (validateHeartbeatBackendHeads heartbeat.backendHeads)
    check (validateDeclaredBackendEntries "heartbeat.backend_heads"
      (heartbeat.backendHeads.map (·.backend)) declaredBackends)
    check (ensureChainId chainId heartbeat.chainId)
    check (ensureSnapshotId snapshotId heartbeat.snapshotId)
    set { tracker with nextMessageSeq := some nextSeq }
    pure .heartbeatAccepted
  | .progress progress => do
    check (validateProgressBackends progress.backends)
    check (validateDeclaredBackendEntries "progress.backends" progress.backends declaredBackends)
    check (ensureChainId chainId progress.chainId)
    check (ensureSnapshotId snapshotId progress.snapshotId)
    set { tracker with nextMessageSeq := some nextSeq }
    pure .progressAccepted

/-- `BroadcasterSubscriptionTracker::observe`. -/
def observe (envelope : BroadcasterEnvelope Sim) : Observe BroadcasterSubscriptionEvent := do
  let tracker ← get
  match tracker.state with
  | .awaitingSnapshot => observeAwaitingSnapshot envelope
  | .snapshot snapshot => observeSnapshot envelope snapshot
  | .live streamId chainId snapshotId declaredBackends =>
    observeLive envelope streamId chainId snapshotId declaredBackends

/-- Observe envelopes one after the other until one is rejected. -/
def observeAll (tracker : BroadcasterSubscriptionTracker) :
    List (BroadcasterEnvelope Sim) →
      Except BroadcasterContractError BroadcasterSubscriptionTracker
  | [] => .ok tracker
  | envelope :: rest =>
    match exec (observe envelope) tracker with
    | (.ok _, tracker') => observeAll tracker' rest
    | (.error e, _) => .error e

/-! ## Rejection

Every method checks what it has to check before it writes, so an error means that nothing was
written. -/

theorem observeAwaitingSnapshot_atomic (envelope : BroadcasterEnvelope Sim) :
    FailureAtomic (observeAwaitingSnapshot envelope) := by
  unfold observeAwaitingSnapshot
  split
  · exact .check_bind fun _ => .check_bind fun _ => .set_pure _ _
  · exact .throw _

theorem observeSnapshot_atomic (envelope : BroadcasterEnvelope Sim)
    (snapshot : SnapshotObservationState) : FailureAtomic (observeSnapshot envelope snapshot) := by
  refine .get_bind fun _ => .check_bind fun _ => .check_bind fun _ => .check_bind fun _ => ?_
  split
  case h_2 =>
    exact .check_bind fun _ => .check_bind fun _ => .check_bind fun _ => .check_bind fun _ =>
      .check_bind fun _ => .set_pure _ _
  case h_3 => exact .check_bind fun _ => .check_bind fun _ => .check_bind fun _ => .set_pure _ _
  all_goals exact .throw _

theorem observeLive_atomic (envelope : BroadcasterEnvelope Sim) (streamId : String)
    (chainId : UInt64) (snapshotId : String) (declaredBackends : Finset BroadcasterBackend) :
    FailureAtomic (observeLive envelope streamId chainId snapshotId declaredBackends) := by
  refine .get_bind fun _ => .check_bind fun _ => .check_bind fun _ => .check_bind fun _ => ?_
  split
  case h_8 => exact .check_bind fun _ => .check_bind fun _ => .set_pure _ _
  case h_9 | h_10 =>
    exact .check_bind fun _ => .check_bind fun _ => .check_bind fun _ => .check_bind fun _ =>
      .set_pure _ _
  all_goals exact .throw _

/-- **A rejected envelope leaves no trace**, whatever state the tracker is in. -/
theorem observe_atomic (envelope : BroadcasterEnvelope Sim) : FailureAtomic (observe envelope) := by
  refine .get_bind fun tracker => ?_
  split
  · exact observeAwaitingSnapshot_atomic envelope
  · exact observeSnapshot_atomic envelope _
  · exact observeLive_atomic envelope _ _ _ _

/-! ## The session grammar

The grammar speaks of positions: what the first envelope is, which chunk an envelope behind it has
to be, and what may follow the last chunk. It knows nothing of the tracker's states. -/

/-- The contents of a payload's partitions are valid: no backend twice, and every entry under the
backend it classifies to. -/
def BroadcasterPayload.ValidContents : BroadcasterPayload Sim → Prop
  | .snapshotChunk chunk =>
    (chunk.partitions.map (·.backend)).Nodup ∧ ∀ p ∈ chunk.partitions, p.WellPlaced
  | .update message =>
    (message.partitions.map (·.backend)).Nodup ∧ ∀ p ∈ message.partitions, p.WellPlaced
  | .heartbeat beat => (beat.backendHeads.map (·.backend)).Nodup
  | .progress report => report.backends.Nodup
  | _ => True

/-- The backends a snapshot chunk has partitions for. -/
def BroadcasterPayload.chunkBackends : BroadcasterPayload Sim → Finset BroadcasterBackend
  | .snapshotChunk chunk => (chunk.partitions.map (·.backend)).toFinset
  | _ => ∅

/-- Chunk number `index` of the snapshot, with declared backends only. -/
def BroadcasterPayload.IsChunk (snapshotId : String) (declared : Finset BroadcasterBackend)
    (totalChunks index : Nat) (payload : BroadcasterPayload Sim) : Prop :=
  ∃ chunk, payload = .snapshotChunk chunk ∧ chunk.snapshotId = snapshotId ∧
    chunk.chunkIndex.toNat = index ∧ index < totalChunks ∧
    ∀ p ∈ chunk.partitions, p.backend ∈ declared

/-- A payload of a live session: a non-empty update, a heartbeat or a progress message, for
declared backends only and carrying the session's chain and snapshot id. -/
def BroadcasterPayload.IsLive (chainId : UInt64) (snapshotId : String)
    (declared : Finset BroadcasterBackend) : BroadcasterPayload Sim → Prop
  | .update message =>
    (message.partitions ≠ [] ∧ ∀ p ∈ message.partitions, p.isEmpty = false) ∧
      ∀ p ∈ message.partitions, p.backend ∈ declared
  | .heartbeat beat =>
    beat.chainId = chainId ∧ beat.snapshotId = snapshotId ∧
      ∀ head ∈ beat.backendHeads, head.backend ∈ declared
  | .progress report =>
    report.chainId = chainId ∧ report.snapshotId = snapshotId ∧
      ∀ b ∈ report.backends, b ∈ declared
  | _ => False

/-- The envelopes of one stream, numbered from `first` on by steps of one, none at `u64::MAX`. -/
def Numbered (streamId : String) (first : Nat) (envelopes : List (BroadcasterEnvelope Sim)) :
    Prop :=
  ∀ i e, envelopes[i]? = some e →
    e.streamId = streamId ∧ e.messageSeq.toNat = first + i ∧ e.messageSeq.toNat ≠ 2 ^ 64 - 1

/-- The chunks of a snapshot from number `index` on. -/
def IsChunkRun (snapshotId : String) (declared : Finset BroadcasterBackend)
    (totalChunks index : Nat) (chunks : List (BroadcasterEnvelope Sim)) : Prop :=
  ∀ i (e : BroadcasterEnvelope Sim), chunks[i]? = some e →
    e.payload.IsChunk snapshotId declared totalChunks (index + i)

/-- The backends a run of chunks has partitions for. -/
def observedIn (chunks : List (BroadcasterEnvelope Sim)) : Finset BroadcasterBackend :=
  chunks.foldr (fun e observed => e.payload.chunkBackends ∪ observed) ∅

/-- A backend has been observed when some chunk has a partition for it. -/
theorem mem_observedIn {chunks : List (BroadcasterEnvelope Sim)} {b : BroadcasterBackend} :
    b ∈ observedIn chunks ↔ ∃ e ∈ chunks, b ∈ e.payload.chunkBackends := by
  induction chunks with
  | nil => simp [observedIn]
  | cons e rest ih =>
    rw [observedIn, List.foldr_cons, Finset.mem_union, ← observedIn, ih]
    simp

/-- What may follow the chunks: nothing yet, or the end of the snapshot and live payloads. -/
def IsTail (chainId : UInt64) (snapshotId : String) (declared : Finset BroadcasterBackend)
    (complete : Prop) (tail : List (BroadcasterEnvelope Sim)) : Prop :=
  tail = [] ∨ ∃ finish live, tail = finish :: live ∧
    finish.payload = .snapshotEnd { snapshotId := snapshotId } ∧ complete ∧
    ∀ e ∈ live, e.payload.IsLive chainId snapshotId declared

/-- **The session grammar.** A prefix of a session: one `SnapshotStart` with duplicate-free
backends; the chunks `0, 1, ..` of its snapshot; once all of them arrived and every declared
backend appeared, its `SnapshotEnd`; then live payloads. All envelopes are of one stream and
numbered without gap. -/
def SessionGrammar (envelopes : List (BroadcasterEnvelope Sim)) : Prop :=
  envelopes = [] ∨ ∃ first start chunks tail,
    envelopes = first :: (chunks ++ tail) ∧
    first.payload = .snapshotStart start ∧
    start.backends.Nodup ∧
    Numbered first.streamId first.messageSeq.toNat envelopes ∧
    IsChunkRun start.snapshotId start.backends.toFinset start.totalChunks.toNat 0 chunks ∧
    IsTail start.chainId start.snapshotId start.backends.toFinset
      (chunks.length = start.totalChunks.toNat ∧ start.backends.toFinset ⊆ observedIn chunks) tail

theorem numbered_cons {streamId : String} {first : Nat} {e : BroadcasterEnvelope Sim}
    {rest : List (BroadcasterEnvelope Sim)} :
    Numbered streamId first (e :: rest) ↔
      (e.streamId = streamId ∧ e.messageSeq.toNat = first ∧ e.messageSeq.toNat ≠ 2 ^ 64 - 1) ∧
      Numbered streamId (first + 1) rest := by
  constructor
  · intro h
    refine ⟨h 0 e rfl, fun i e' he' => ?_⟩
    obtain ⟨hs, hn, hm⟩ := h (i + 1) e' he'
    exact ⟨hs, by omega, hm⟩
  · rintro ⟨h0, hrest⟩ i e' he'
    rcases i with _ | i
    · simp only [List.getElem?_cons_zero, Option.some.injEq] at he'
      subst he'
      exact h0
    · obtain ⟨hs, hn, hm⟩ := hrest i e' he'
      exact ⟨hs, by omega, hm⟩

theorem isChunkRun_cons {snapshotId : String} {declared : Finset BroadcasterBackend}
    {totalChunks index : Nat} {e : BroadcasterEnvelope Sim}
    {rest : List (BroadcasterEnvelope Sim)} :
    IsChunkRun snapshotId declared totalChunks index (e :: rest) ↔
      e.payload.IsChunk snapshotId declared totalChunks index ∧
      IsChunkRun snapshotId declared totalChunks (index + 1) rest := by
  constructor
  · intro h
    refine ⟨h 0 e rfl, fun i e' he' => ?_⟩
    have hi := h (i + 1) e' he'
    rwa [show index + (i + 1) = index + 1 + i by omega] at hi
  · rintro ⟨h0, hrest⟩ i e' he'
    rcases i with _ | i
    · simp only [List.getElem?_cons_zero, Option.some.injEq] at he'
      subst he'
      exact h0
    · have hi := hrest i e' he'
      rwa [show index + 1 + i = index + (i + 1) by omega] at hi

/-! ## One step

Which envelopes a state accepts, and the state it moves to. Everything about runs is derived from
these three lemmas. -/

/-- The envelope that continues a stream at `next`. -/
def Continues (streamId : String) (next : UInt64) (e : BroadcasterEnvelope Sim) : Prop :=
  e.streamId = streamId ∧ e.messageSeq = next ∧ e.messageSeq.toNat ≠ 2 ^ 64 - 1

/-- Where a number has a successor, adding one does not wrap. -/
theorem nextMessageSeq_eq_ok_add {seq next : UInt64} :
    nextMessageSeq seq = .ok next ↔ seq.toNat ≠ 2 ^ 64 - 1 ∧ next = seq + 1 := by
  have hlt := seq.toNat_lt
  rw [nextMessageSeq_eq_ok]
  constructor
  · rintro ⟨h, hn⟩
    refine ⟨by omega, UInt64.toNat_inj.mp ?_⟩
    rw [hn, UInt64.toNat_add]
    exact (Nat.mod_eq_of_lt h).symm
  · rintro ⟨h, rfl⟩
    have h' : seq.toNat + 1 < 2 ^ 64 := by omega
    refine ⟨h', ?_⟩
    rw [UInt64.toNat_add]
    exact Nat.mod_eq_of_lt h'

/-- Advancing the sequence number in front of an operation. -/
theorem exec_nextMessageSeq_bind_eq_ok {α : Type} {seq : UInt64} {f : UInt64 → Observe α}
    {tracker tracker' : BroadcasterSubscriptionTracker} {a : α} :
    exec (check (nextMessageSeq seq) >>= f) tracker = (.ok a, tracker') ↔
      seq.toNat ≠ 2 ^ 64 - 1 ∧ exec (f (seq + 1)) tracker = (.ok a, tracker') := by
  rw [exec_check_bind_eq_ok]
  simp only [nextMessageSeq_eq_ok_add]
  constructor
  · rintro ⟨_, ⟨hm, rfl⟩, h⟩
    exact ⟨hm, h⟩
  · rintro ⟨hm, h⟩
    exact ⟨_, ⟨hm, rfl⟩, h⟩

/-- Awaiting: a `SnapshotStart` with duplicate-free backends opens the snapshot. -/
theorem observe_awaiting_ok {e : BroadcasterEnvelope Sim} {seq : Option UInt64}
    {tracker' : BroadcasterSubscriptionTracker} :
    (∃ event, exec (observe e) ⟨.awaitingSnapshot, seq⟩ = (.ok event, tracker')) ↔
      ∃ start, e.payload = .snapshotStart start ∧ start.backends.Nodup ∧
        e.messageSeq.toNat ≠ 2 ^ 64 - 1 ∧
        tracker' =
          { state := .snapshot
              { streamId := e.streamId, chainId := start.chainId, snapshotId := start.snapshotId
                declaredBackends := start.backends.toFinset, observedBackends := ∅
                nextChunkIndex := 0, totalChunks := start.totalChunks }
            nextMessageSeq := some (e.messageSeq + 1) } := by
  unfold observe observeAwaitingSnapshot validateSnapshotStartBackends
  rw [exec_get_bind]
  rcases e with ⟨streamId, messageSeq, payload⟩
  cases payload
  case snapshotStart start =>
    simp only [exec_check_unit_bind_eq_ok, exec_nextMessageSeq_bind_eq_ok, exec_set_bind, exec_pure,
      validateUniqueBackendEntries_eq_ok, Prod.mk.injEq,
      BroadcasterPayload.snapshotStart.injEq, Except.ok.injEq]
    constructor
    · rintro ⟨_, hnd, hm, -, rfl⟩
      exact ⟨start, rfl, hnd, hm, rfl⟩
    · rintro ⟨_, rfl, hnd, hm, rfl⟩
      exact ⟨_, hnd, hm, rfl, rfl⟩
  all_goals simp

/-- Snapshot: the next chunk counts up, the end of a complete snapshot makes the session live. -/
theorem observe_snapshot_ok {e : BroadcasterEnvelope Sim} {s : SnapshotObservationState}
    {next : UInt64} {tracker' : BroadcasterSubscriptionTracker} :
    (∃ event, exec (observe e) ⟨.snapshot s, some next⟩ = (.ok event, tracker')) ↔
      Continues s.streamId next e ∧
      ((e.payload.IsChunk s.snapshotId s.declaredBackends s.totalChunks.toNat
          s.nextChunkIndex.toNat ∧ e.payload.ValidContents ∧
        tracker' =
          { state := .snapshot
              { s with
                observedBackends := s.observedBackends ∪ e.payload.chunkBackends
                nextChunkIndex := s.nextChunkIndex + 1 }
            nextMessageSeq := some (next + 1) }) ∨
      (e.payload = .snapshotEnd { snapshotId := s.snapshotId } ∧
        s.nextChunkIndex = s.totalChunks ∧ s.declaredBackends ⊆ s.observedBackends ∧
        tracker' =
          { state := .live s.streamId s.chainId s.snapshotId s.declaredBackends
            nextMessageSeq := some (next + 1) })) := by
  unfold observe observeSnapshot ensureStreamId ensureMessageSeq ensureSnapshotId Continues
  rcases e with ⟨streamId, messageSeq, payload⟩
  cases payload
  case snapshotChunk chunk =>
    simp only [exec_get_bind, exec_check_unit_bind_eq_ok, exec_nextMessageSeq_bind_eq_ok, exec_set_bind,
      exec_pure, ensure_eq_ok, validateSnapshotChunkPartitions_eq_ok,
      validateDeclaredBackendEntries_eq_ok, BroadcasterPayload.IsChunk, Prod.mk.injEq,
      BroadcasterPayload.ValidContents, BroadcasterPayload.chunkBackends, reduceCtorEq,
      BroadcasterPayload.snapshotChunk.injEq, false_and, or_false, Option.some.injEq,
      List.mem_map, forall_exists_index, and_imp, forall_apply_eq_imp_iff₂, Except.ok.injEq]
    constructor
    · rintro ⟨_, rfl, rfl, hm, hid, hlt, hcontents, hdecl, hidx, -, rfl⟩
      exact ⟨⟨rfl, rfl, hm⟩, ⟨chunk, rfl, hid.symm, by rw [hidx], hlt, hdecl⟩, hcontents, rfl⟩
    · rintro ⟨⟨rfl, rfl, hm⟩, ⟨_, rfl, hid, hidx, hlt, hdecl⟩, hcontents, rfl⟩
      exact ⟨_, rfl, rfl, hm, hid.symm, hlt, hcontents, hdecl,
        UInt32.toNat_inj.mp hidx, rfl, rfl⟩
  case snapshotEnd finish =>
    rcases finish with ⟨snapshotId⟩
    simp only [exec_get_bind, exec_check_unit_bind_eq_ok, exec_nextMessageSeq_bind_eq_ok, exec_set_bind,
      exec_pure, ensure_eq_ok, Prod.mk.injEq, Option.some.injEq,
      ensureAllDeclaredBackendsObserved_eq_ok, BroadcasterPayload.IsChunk, reduceCtorEq,
      false_and, exists_false, false_or, BroadcasterPayload.snapshotEnd.injEq,
      BroadcasterSnapshotEnd.mk.injEq, Except.ok.injEq]
    constructor
    · rintro ⟨_, rfl, rfl, hm, rfl, htotal, hsub, -, rfl⟩
      exact ⟨⟨rfl, rfl, hm⟩, rfl, htotal, hsub, rfl⟩
    · rintro ⟨⟨rfl, rfl, hm⟩, rfl, htotal, hsub, rfl⟩
      exact ⟨_, rfl, rfl, hm, rfl, htotal, hsub, rfl, rfl⟩
  -- any other payload is refused while a snapshot is open
  all_goals
    simp [exec_check_unit_bind_eq_ok, exec_nextMessageSeq_bind_eq_ok, BroadcasterPayload.IsChunk]

/-- Live: updates, heartbeats and progress messages move the sequence number only. -/
theorem observe_live_ok {e : BroadcasterEnvelope Sim} {streamId : String} {chainId : UInt64}
    {snapshotId : String} {declared : Finset BroadcasterBackend} {next : UInt64}
    {tracker' : BroadcasterSubscriptionTracker} :
    (∃ event, exec (observe e) ⟨.live streamId chainId snapshotId declared, some next⟩ =
        (.ok event, tracker')) ↔
      Continues streamId next e ∧ e.payload.IsLive chainId snapshotId declared ∧
      e.payload.ValidContents ∧
      tracker' = ⟨.live streamId chainId snapshotId declared, some (next + 1)⟩ := by
  unfold observe observeLive ensureStreamId ensureMessageSeq ensureChainId ensureSnapshotId
    validateHeartbeatBackendHeads validateProgressBackends Continues
  rcases e with ⟨streamId', messageSeq, payload⟩
  cases payload
  case update update =>
    simp only [exec_get_bind, exec_check_unit_bind_eq_ok, exec_nextMessageSeq_bind_eq_ok, exec_set_bind,
      exec_pure, ensure_eq_ok, validateUpdatePartitions_eq_ok,
      validateDeclaredBackendEntries_eq_ok, BroadcasterPayload.IsLive, Prod.mk.injEq,
      BroadcasterPayload.ValidContents, Option.some.injEq, List.mem_map, forall_exists_index,
      and_imp, forall_apply_eq_imp_iff₂, Except.ok.injEq]
    constructor
    · rintro ⟨_, rfl, rfl, hm, ⟨hne, hcontents⟩, hdecl, -, rfl⟩
      exact ⟨⟨rfl, rfl, hm⟩, ⟨hne, hdecl⟩, hcontents, rfl⟩
    · rintro ⟨⟨rfl, rfl, hm⟩, ⟨hne, hdecl⟩, hcontents, rfl⟩
      exact ⟨_, rfl, rfl, hm, ⟨hne, hcontents⟩, hdecl, rfl, rfl⟩
  case heartbeat heartbeat =>
    simp only [exec_get_bind, exec_check_unit_bind_eq_ok, exec_nextMessageSeq_bind_eq_ok, exec_set_bind,
      exec_pure, ensure_eq_ok, validateUniqueBackendEntries_eq_ok,
      validateDeclaredBackendEntries_eq_ok, BroadcasterPayload.IsLive, Prod.mk.injEq,
      BroadcasterPayload.ValidContents, Option.some.injEq, List.mem_map, forall_exists_index,
      and_imp, forall_apply_eq_imp_iff₂, Except.ok.injEq]
    constructor
    · rintro ⟨_, rfl, rfl, hm, hnd, hdecl, rfl, rfl, -, rfl⟩
      exact ⟨⟨rfl, rfl, hm⟩, ⟨rfl, rfl, hdecl⟩, hnd, rfl⟩
    · rintro ⟨⟨rfl, rfl, hm⟩, ⟨rfl, rfl, hdecl⟩, hnd, rfl⟩
      exact ⟨_, rfl, rfl, hm, hnd, hdecl, rfl, rfl, rfl, rfl⟩
  case progress progress =>
    simp only [exec_get_bind, exec_check_unit_bind_eq_ok, exec_nextMessageSeq_bind_eq_ok, exec_set_bind,
      exec_pure, ensure_eq_ok, validateUniqueBackendEntries_eq_ok,
      validateDeclaredBackendEntries_eq_ok, BroadcasterPayload.IsLive, Prod.mk.injEq,
      BroadcasterPayload.ValidContents, Option.some.injEq, Except.ok.injEq]
    constructor
    · rintro ⟨_, rfl, rfl, hm, hnd, hdecl, rfl, rfl, -, rfl⟩
      exact ⟨⟨rfl, rfl, hm⟩, ⟨rfl, rfl, hdecl⟩, hnd, rfl⟩
    · rintro ⟨⟨rfl, rfl, hm⟩, ⟨rfl, rfl, hdecl⟩, hnd, rfl⟩
      exact ⟨_, rfl, rfl, hm, hnd, hdecl, rfl, rfl, rfl, rfl⟩
  all_goals
    simp [exec_check_unit_bind_eq_ok, exec_nextMessageSeq_bind_eq_ok, BroadcasterPayload.IsLive]

/-! ## Runs

From a state in the middle of a session the tracker accepts the rests of sessions. The induction is
on the envelopes, with the state general. -/

/-- A run takes its first envelope, and goes on from there. -/
theorem observeAll_cons_ok {tracker tracker' : BroadcasterSubscriptionTracker}
    {e : BroadcasterEnvelope Sim} {rest : List (BroadcasterEnvelope Sim)} :
    observeAll tracker (e :: rest) = .ok tracker' ↔
      ∃ tracker₁, (∃ event, exec (observe e) tracker = (.ok event, tracker₁)) ∧
        observeAll tracker₁ rest = .ok tracker' := by
  rw [observeAll]
  rcases exec (observe e) tracker with ⟨_ | event, tracker₁⟩ <;> simp

theorem toNat_succ_of_continues {streamId : String} {next : UInt64} {e : BroadcasterEnvelope Sim}
    (h : Continues streamId next e) : (next + 1).toNat = next.toNat + 1 := by
  obtain ⟨-, rfl, hm⟩ := h
  exact (nextMessageSeq_eq_ok.mp (nextMessageSeq_eq_ok_add.mpr ⟨hm, rfl⟩)).2

/-- To continue a stream is to be numbered from its next number on. -/
theorem continues_iff {streamId : String} {next : UInt64} {e : BroadcasterEnvelope Sim} :
    Continues streamId next e ↔
      e.streamId = streamId ∧ e.messageSeq.toNat = next.toNat ∧
        e.messageSeq.toNat ≠ 2 ^ 64 - 1 := by
  rw [Continues, UInt64.toNat_inj]

/-- **Live runs.** From a live state the tracker accepts exactly the numbered live payloads with
valid contents, and stays live. -/
theorem observeAll_live {envelopes : List (BroadcasterEnvelope Sim)} {streamId : String}
    {chainId : UInt64} {snapshotId : String} {declared : Finset BroadcasterBackend}
    {next : UInt64} :
    (∃ tracker', observeAll ⟨.live streamId chainId snapshotId declared, some next⟩ envelopes =
        .ok tracker') ↔
      Numbered streamId next.toNat envelopes ∧
      (∀ e ∈ envelopes, e.payload.ValidContents) ∧
      ∀ e ∈ envelopes, e.payload.IsLive chainId snapshotId declared := by
  induction envelopes generalizing next with
  | nil => simp [observeAll, Numbered]
  | cons e rest ih =>
    simp only [observeAll_cons_ok, observe_live_ok, numbered_cons, ← continues_iff,
      List.mem_cons, forall_eq_or_imp]
    constructor
    · rintro ⟨tracker', _, ⟨hcont, hlive, hcontents, rfl⟩, hrest⟩
      obtain ⟨hnum, hvalid, hall⟩ := ih.mp ⟨tracker', hrest⟩
      rw [toNat_succ_of_continues hcont] at hnum
      exact ⟨⟨hcont, hnum⟩, ⟨hcontents, hvalid⟩, hlive, hall⟩
    · rintro ⟨⟨hcont, hnum⟩, ⟨hcontents, hvalid⟩, hlive, hall⟩
      rw [← toNat_succ_of_continues hcont] at hnum
      obtain ⟨tracker', hrest⟩ := ih.mpr ⟨hnum, hvalid, hall⟩
      exact ⟨tracker', _, ⟨hcont, hlive, hcontents, rfl⟩, hrest⟩

/-- What the rest of a session looks like to a tracker in the middle of a snapshot. -/
def IsSnapshotRest (s : SnapshotObservationState) (envelopes : List (BroadcasterEnvelope Sim)) :
    Prop :=
  ∃ chunks tail, envelopes = chunks ++ tail ∧
    IsChunkRun s.snapshotId s.declaredBackends s.totalChunks.toNat s.nextChunkIndex.toNat chunks ∧
    IsTail s.chainId s.snapshotId s.declaredBackends
      (s.nextChunkIndex.toNat + chunks.length = s.totalChunks.toNat ∧
        s.declaredBackends ⊆ s.observedBackends ∪ observedIn chunks) tail

/-- The state after a chunk was counted. -/
def SnapshotObservationState.afterChunk (s : SnapshotObservationState)
    (payload : BroadcasterPayload Sim) : SnapshotObservationState :=
  { s with
    observedBackends := s.observedBackends ∪ payload.chunkBackends
    nextChunkIndex := s.nextChunkIndex + 1 }

/-- Counting a chunk does not wrap: its number is below the declared total. -/
theorem toNat_nextChunkIndex_afterChunk {s : SnapshotObservationState}
    {payload : BroadcasterPayload Sim}
    (h : payload.IsChunk s.snapshotId s.declaredBackends s.totalChunks.toNat
      s.nextChunkIndex.toNat) :
    (s.afterChunk payload).nextChunkIndex.toNat = s.nextChunkIndex.toNat + 1 := by
  obtain ⟨-, -, -, -, hlt, -⟩ := h
  have htotal := s.totalChunks.toNat_lt
  change (s.nextChunkIndex + 1).toNat = _
  rw [UInt32.toNat_add]
  exact Nat.mod_eq_of_lt (by change _ + 1 < _; omega)

/-- The rest of a session starts with a chunk and continues from the state after it, or starts
with the end of the complete snapshot and continues live. -/
theorem isSnapshotRest_cons {s : SnapshotObservationState} {e : BroadcasterEnvelope Sim}
    {rest : List (BroadcasterEnvelope Sim)} :
    IsSnapshotRest s (e :: rest) ↔
      (e.payload.IsChunk s.snapshotId s.declaredBackends s.totalChunks.toNat
          s.nextChunkIndex.toNat ∧ IsSnapshotRest (s.afterChunk e.payload) rest) ∨
      (e.payload = .snapshotEnd { snapshotId := s.snapshotId } ∧
        s.nextChunkIndex = s.totalChunks ∧ s.declaredBackends ⊆ s.observedBackends ∧
        ∀ e' ∈ rest, e'.payload.IsLive s.chainId s.snapshotId s.declaredBackends) := by
  constructor
  · rintro ⟨chunks, tail, heq, hrun, htail⟩
    rcases chunks with _ | ⟨c, chunks⟩
    · -- no chunk left: the tail begins with the end of the snapshot
      right
      rw [List.nil_append] at heq
      rcases htail with rfl | ⟨finish, live, rfl, hpay, ⟨hlen, hsub⟩, hlive⟩
      · cases heq
      · cases heq
        refine ⟨hpay, UInt32.toNat_inj.mp (by simpa using hlen), ?_, hlive⟩
        simpa [observedIn] using hsub
    · left
      rw [List.cons_append] at heq
      cases heq
      rw [isChunkRun_cons] at hrun
      obtain ⟨hchunk, hrun⟩ := hrun
      refine ⟨hchunk, chunks, tail, rfl, ?_, ?_⟩
      · rw [toNat_nextChunkIndex_afterChunk hchunk]
        exact hrun
      · rw [toNat_nextChunkIndex_afterChunk hchunk]
        have hlen : s.nextChunkIndex.toNat + 1 + chunks.length =
            s.nextChunkIndex.toNat + (chunks.length + 1) := by omega
        simpa [SnapshotObservationState.afterChunk, observedIn, hlen, Finset.union_assoc]
          using htail
  · rintro (⟨hchunk, chunks, tail, rfl, hrun, htail⟩ | ⟨hpay, htotal, hsub, hlive⟩)
    · refine ⟨e :: chunks, tail, rfl, isChunkRun_cons.mpr ⟨hchunk, ?_⟩, ?_⟩
      · rw [← toNat_nextChunkIndex_afterChunk hchunk]
        exact hrun
      · rw [toNat_nextChunkIndex_afterChunk hchunk] at htail
        have hlen : s.nextChunkIndex.toNat + 1 + chunks.length =
            s.nextChunkIndex.toNat + (chunks.length + 1) := by omega
        simpa [SnapshotObservationState.afterChunk, observedIn, hlen, Finset.union_assoc]
          using htail
    · refine ⟨[], e :: rest, rfl, fun i e' he' => by simp at he', .inr ?_⟩
      refine ⟨e, rest, rfl, hpay, ⟨by simp [htotal], ?_⟩, hlive⟩
      simpa [observedIn] using hsub

/-- **Snapshot runs.** In the middle of a snapshot the tracker accepts exactly the numbered rests
of the session with valid contents. -/
theorem observeAll_snapshot {envelopes : List (BroadcasterEnvelope Sim)}
    {s : SnapshotObservationState} {next : UInt64} :
    (∃ tracker', observeAll ⟨.snapshot s, some next⟩ envelopes = .ok tracker') ↔
      Numbered s.streamId next.toNat envelopes ∧
      (∀ e ∈ envelopes, e.payload.ValidContents) ∧ IsSnapshotRest s envelopes := by
  induction envelopes generalizing s next with
  | nil =>
    simp only [observeAll, Except.ok.injEq, exists_eq', true_iff]
    refine ⟨fun i e he => by simp at he, fun e he => by simp at he, [], [], rfl, ?_, .inl rfl⟩
    exact fun i e he => by simp at he
  | cons e rest ih =>
    simp only [observeAll_cons_ok, observe_snapshot_ok, numbered_cons, ← continues_iff,
      List.mem_cons, forall_eq_or_imp, isSnapshotRest_cons]
    constructor
    · rintro ⟨tracker', _, ⟨hcont, ⟨hchunk, hcontents, rfl⟩ | ⟨hpay, htotal, hsub, rfl⟩⟩, hrest⟩
      · obtain ⟨hnum, hvalid, hsnap⟩ :=
          (ih (s := s.afterChunk e.payload)).mp ⟨tracker', hrest⟩
        rw [toNat_succ_of_continues hcont] at hnum
        exact ⟨⟨hcont, hnum⟩, ⟨hcontents, hvalid⟩, .inl ⟨hchunk, hsnap⟩⟩
      · obtain ⟨hnum, hvalid, hlive⟩ := observeAll_live.mp ⟨tracker', hrest⟩
        rw [toNat_succ_of_continues hcont] at hnum
        have hcontents : e.payload.ValidContents := by
          rw [hpay]
          trivial
        exact ⟨⟨hcont, hnum⟩, ⟨hcontents, hvalid⟩, .inr ⟨hpay, htotal, hsub, hlive⟩⟩
    · rintro ⟨⟨hcont, hnum⟩, ⟨hcontents, hvalid⟩, ⟨hchunk, hsnap⟩ | ⟨hpay, htotal, hsub, hlive⟩⟩
      · rw [← toNat_succ_of_continues hcont] at hnum
        obtain ⟨tracker', hrest⟩ :=
          (ih (s := s.afterChunk e.payload)).mpr ⟨hnum, hvalid, hsnap⟩
        exact ⟨tracker', _, ⟨hcont, .inl ⟨hchunk, hcontents, rfl⟩⟩, hrest⟩
      · rw [← toNat_succ_of_continues hcont] at hnum
        obtain ⟨tracker', hrest⟩ := observeAll_live.mpr ⟨hnum, hvalid, hlive⟩
        exact ⟨tracker', _, ⟨hcont, .inr ⟨hpay, htotal, hsub, rfl⟩⟩, hrest⟩

/-! ## Where a run ends -/

/-- A live session stays live. -/
theorem observeAll_live_state {envelopes : List (BroadcasterEnvelope Sim)} {streamId : String}
    {chainId : UInt64} {snapshotId : String} {declared : Finset BroadcasterBackend}
    {next : UInt64} {tracker' : BroadcasterSubscriptionTracker}
    (h : observeAll ⟨.live streamId chainId snapshotId declared, some next⟩ envelopes =
      .ok tracker') :
    tracker'.state = .live streamId chainId snapshotId declared := by
  induction envelopes generalizing next with
  | nil =>
    cases h
    rfl
  | cons e rest ih =>
    obtain ⟨tracker₁, hstep, hrest⟩ := observeAll_cons_ok.mp h
    obtain ⟨-, -, -, rfl⟩ := observe_live_ok.mp hstep
    exact ih hrest

/-- **A completed snapshot is live**, with the ids and the backends its start declared. -/
theorem observeAll_snapshot_state {envelopes : List (BroadcasterEnvelope Sim)}
    {s : SnapshotObservationState} {next : UInt64} {tracker' : BroadcasterSubscriptionTracker}
    (h : observeAll ⟨.snapshot s, some next⟩ envelopes = .ok tracker')
    (hend : ∃ e ∈ envelopes, ∃ finish, e.payload = .snapshotEnd finish) :
    tracker'.state = .live s.streamId s.chainId s.snapshotId s.declaredBackends := by
  induction envelopes generalizing s next with
  | nil =>
    obtain ⟨e, he, -⟩ := hend
    cases he
  | cons e rest ih =>
    obtain ⟨tracker₁, hstep, hrest⟩ := observeAll_cons_ok.mp h
    obtain ⟨-, ⟨⟨chunk, hchunk, -⟩, -, rfl⟩ | ⟨-, -, -, rfl⟩⟩ := observe_snapshot_ok.mp hstep
    · refine ih (s := s.afterChunk e.payload) hrest ?_
      obtain ⟨e', he', finish, hfinish⟩ := hend
      rcases List.mem_cons.mp he' with rfl | he'
      · rw [hchunk] at hfinish
        cases hfinish
      · exact ⟨e', he', finish, hfinish⟩
    · exact observeAll_live_state hrest

/-- The rest of a session that is made of chunks and then the end. -/
theorem isSnapshotRest_append_end {s : SnapshotObservationState}
    {chunks : List (BroadcasterEnvelope Sim)} {finish : BroadcasterEnvelope Sim}
    (hchunks : ∀ e ∈ chunks, ∃ chunk, e.payload = .snapshotChunk chunk)
    (hfinish : finish.payload = .snapshotEnd { snapshotId := s.snapshotId }) :
    IsSnapshotRest s (chunks ++ [finish]) ↔
      IsChunkRun s.snapshotId s.declaredBackends s.totalChunks.toNat s.nextChunkIndex.toNat
          chunks ∧
        s.nextChunkIndex.toNat + chunks.length = s.totalChunks.toNat ∧
        s.declaredBackends ⊆ s.observedBackends ∪ observedIn chunks := by
  constructor
  · intro h
    induction chunks generalizing s with
    | nil =>
      obtain ⟨⟨chunk, hchunk, -⟩, -⟩ | ⟨-, htotal, hsub, -⟩ := isSnapshotRest_cons.mp h
      · rw [hfinish] at hchunk
        cases hchunk
      · refine ⟨fun i e he => by simp at he, by simp [htotal], ?_⟩
        simpa [observedIn] using hsub
    | cons e rest ih =>
      obtain ⟨hchunk, hrest⟩ | ⟨hend, -⟩ := isSnapshotRest_cons.mp h
      · obtain ⟨hrun, hlen, hsub⟩ :=
          ih (s := s.afterChunk e.payload) (fun e' he' => hchunks e' (List.mem_cons_of_mem _ he'))
            hfinish hrest
        rw [toNat_nextChunkIndex_afterChunk hchunk] at hrun hlen
        refine ⟨isChunkRun_cons.mpr ⟨hchunk, hrun⟩, ?_, ?_⟩
        · have htotal : (s.afterChunk e.payload).totalChunks = s.totalChunks := rfl
          rw [htotal] at hlen
          rw [List.length_cons, ← hlen]
          exact (Nat.succ_add_eq_add_succ _ _).symm
        · simpa [SnapshotObservationState.afterChunk, observedIn, Finset.union_assoc] using hsub
      · obtain ⟨chunk, hchunk⟩ := hchunks e List.mem_cons_self
        rw [hchunk] at hend
        cases hend
  · rintro ⟨hrun, hlen, hsub⟩
    exact ⟨chunks, [finish], rfl, hrun, .inr ⟨finish, [], rfl, hfinish, ⟨hlen, hsub⟩, by simp⟩⟩

/-- **The tracker accepts exactly the session grammar**, and a rejected envelope changes neither
its state nor the sequence number it expects. -/
theorem tracker_accepts_session_grammar :
    (∀ envelopes : List (BroadcasterEnvelope Sim),
      (∃ tracker', observeAll .new envelopes = .ok tracker') ↔
        (∀ e ∈ envelopes, e.payload.ValidContents) ∧ SessionGrammar envelopes) ∧
    ∀ (tracker tracker' : BroadcasterSubscriptionTracker) (e : BroadcasterEnvelope Sim)
      (err : BroadcasterContractError),
      exec (observe e) tracker = (.error err, tracker') →
        tracker'.state = tracker.state ∧ tracker'.nextMessageSeq = tracker.nextMessageSeq := by
  refine ⟨fun envelopes => ?_, fun tracker tracker' e err h => ?_⟩
  · rcases envelopes with _ | ⟨e, rest⟩
    · simp [observeAll, SessionGrammar]
    · simp only [BroadcasterSubscriptionTracker.new, observeAll_cons_ok, observe_awaiting_ok,
        SessionGrammar, reduceCtorEq, false_or, List.mem_cons, forall_eq_or_imp]
      constructor
      · rintro ⟨tracker', _, ⟨start, hpay, hnd, hm, rfl⟩, hrest⟩
        obtain ⟨hnum, hvalid, chunks, tail, rfl, hrun, htail⟩ :=
          observeAll_snapshot.mp ⟨tracker', hrest⟩
        have hcont : Continues e.streamId e.messageSeq e := ⟨rfl, rfl, hm⟩
        rw [toNat_succ_of_continues hcont] at hnum
        refine ⟨⟨by rw [hpay]; trivial, hvalid⟩, e, start, chunks, tail, rfl, hpay, hnd,
          numbered_cons.mpr ⟨continues_iff.mp hcont, hnum⟩, hrun, ?_⟩
        simpa using htail
      · rintro ⟨⟨-, hvalid⟩, _, start, chunks, tail, heq, hpay, hnd, hnum, hrun, htail⟩
        cases heq
        rw [numbered_cons, ← continues_iff] at hnum
        obtain ⟨hcont, hnum⟩ := hnum
        rw [← toNat_succ_of_continues hcont] at hnum
        obtain ⟨tracker', hrest⟩ := (observeAll_snapshot
          (s := ⟨e.streamId, start.chainId, start.snapshotId, start.backends.toFinset, ∅, 0,
            start.totalChunks⟩)).mpr
          ⟨hnum, hvalid, chunks, tail, rfl, hrun, by simpa using htail⟩
        exact ⟨tracker', _, ⟨start, hpay, hnd, hcont.2.2, rfl⟩, hrest⟩
  · rw [observe_atomic e tracker err tracker' h]
    exact ⟨rfl, rfl⟩

/-- A session of one chunk, with a heartbeat behind it. -/
def rfqSession : List (BroadcasterEnvelope Unit) :=
  [⟨"stream", 7, .snapshotStart ⟨"snapshot", 1, [.rfq], 1⟩⟩,
    ⟨"stream", 8, .snapshotChunk ⟨"snapshot", 0, [⟨.rfq, 2, [], [],
      .ofList [("rfq:hashflow", BroadcasterProtocolSyncStatus.fromSynchronizerState .started)]⟩]⟩⟩,
    ⟨"stream", 9, .snapshotEnd ⟨"snapshot"⟩⟩,
    ⟨"stream", 10, .heartbeat ⟨1, "snapshot", [⟨.rfq, 3⟩]⟩⟩]

/-- An end in front of the chunk. -/
def earlyEnd : BroadcasterEnvelope Unit := ⟨"stream", 8, .snapshotEnd ⟨"snapshot"⟩⟩

/-- The session is accepted. In the middle of its snapshot an end is rejected, and the tracker goes
on from where it was. -/
theorem tracker_accepts_session_grammar_session :
    SessionGrammar rfqSession ∧ ∃ midway err rejected,
      observeAll .new (rfqSession.take 1) = .ok midway ∧
      exec (observe earlyEnd) midway = (.error err, rejected) ∧
      rejected.state = midway.state ∧ rejected.nextMessageSeq = midway.nextMessageSeq ∧
      ∃ live, observeAll rejected (rfqSession.drop 1) = .ok live :=
  ⟨((tracker_accepts_session_grammar.1 rfqSession).mp ⟨_, rfl⟩).2, _, _, _, rfl, rfl,
    (tracker_accepts_session_grammar.2 _ _ earlyEnd _ rfl).1,
    (tracker_accepts_session_grammar.2 _ _ earlyEnd _ rfl).2, _, rfl⟩

end TychoSimulationServer
