import TychoSimulationServer.PublisherTransactions

/-!
# The order of one publisher

A live payload waits in the startup handoff, in the recovery queue or in front of its append. None
of them changes the order of the updates of a backend, and each is in the stream once at most for
every time it was accepted, as far as the publisher knows.

* **Kept**: what was sent, with what waits behind it, is what was accepted, less what was lost.
* **Replaced**: the reservation of a recovery takes the updates of its backends out of the queue,
  and their order starts over.
* **A lost reply** at the queue puts a payload back that the stream may have. The trace does not
  count it as sent.

The invariant is about the trace and the queues only. The numbers of the entries come from
`PublisherStream`.
-/

namespace TychoSimulationServer

open Fallible

variable {Sim : Type}

/-! ## Deliveries

What was accepted is what was sent and what waits, in order. Once something is dropped on purpose
the rest may have holes, but keeps its order. -/

/-- What was accepted was sent, waits, or was lost. -/
structure Delivery {α : Type} (accepted sent waiting : List α) (lost : Bool) : Prop where
  order : (sent ++ waiting).Sublist accepted
  all : lost = false → accepted = sent ++ waiting

namespace Delivery

variable {α : Type} {accepted sent waiting gone new : List α} {lost : Bool}

/-- Nothing has been accepted yet but what waits. -/
theorem start : Delivery waiting [] waiting false :=
  ⟨.refl _, fun _ => rfl⟩

/-- What is accepted waits behind the others. -/
theorem accept (h : Delivery accepted sent waiting lost) :
    Delivery (accepted ++ new) sent (waiting ++ new) lost := by
  refine ⟨?_, fun hlost => ?_⟩
  · rw [← List.append_assoc]
    exact h.order.append (.refl new)
  · rw [h.all hlost, List.append_assoc]

/-- What is sent is the first of what waits. -/
theorem send (h : Delivery accepted sent (new ++ waiting) lost) :
    Delivery accepted (sent ++ new) waiting lost := by
  refine ⟨?_, fun hlost => ?_⟩
  · rw [List.append_assoc]
    exact h.order
  · rw [List.append_assoc]
    exact h.all hlost

/-- What is dropped is the first of what waits. -/
theorem lose (h : Delivery accepted sent (gone ++ waiting) lost) :
    Delivery accepted sent waiting (lost || !gone.isEmpty) := by
  refine ⟨((List.Sublist.refl sent).append (List.sublist_append_right gone waiting)).trans h.order,
    fun hlost => ?_⟩
  obtain ⟨hlost, hgone⟩ := Bool.or_eq_false_iff.mp hlost
  have hnil : gone = [] := by simpa using hgone
  rw [h.all hlost, hnil, List.nil_append]

end Delivery

/-! ## Partitions of a backend

The order is that of the partitions of one backend. Normalising keeps them; the trim of a recovery
takes out those of its backends. -/

section

variable (backend : BroadcasterBackend)

@[simp] theorem partitionsOf_nil : partitionsOf backend ([] : List (BroadcasterPayload Sim)) = [] :=
  rfl

@[simp] theorem partitionsOf_cons (payload : BroadcasterPayload Sim)
    (payloads : List (BroadcasterPayload Sim)) :
    partitionsOf backend (payload :: payloads) =
      payload.partitionsOf backend ++ partitionsOf backend payloads :=
  rfl

@[simp] theorem partitionsOf_append (payloads payloads' : List (BroadcasterPayload Sim)) :
    partitionsOf backend (payloads ++ payloads') =
      partitionsOf backend payloads ++ partitionsOf backend payloads' :=
  List.flatMap_append

variable {backend}

/-- A partition of a backend comes from an update. -/
theorem BroadcasterPayload.mem_partitionsOf {partition : BroadcasterUpdatePartition Sim}
    {payload : BroadcasterPayload Sim} (h : partition ∈ payload.partitionsOf backend) :
    partition.backend = backend ∧
      ∃ update, payload = .update update ∧ partition ∈ update.partitions := by
  cases payload with
  | update update =>
    obtain ⟨hmem, hbackend⟩ := List.mem_filter.mp h
    exact ⟨by simpa using hbackend, update, rfl, hmem⟩
  | _ => cases h

/-- Heartbeats and progress messages get the snapshot of the generation. -/
theorem normalizeLivePayload_partitionsOf {payload normalized : BroadcasterPayload Sim}
    {snapshotId : String} (h : normalizeLivePayload payload snapshotId = .ok normalized) :
    normalized.partitionsOf backend = payload.partitionsOf backend := by
  cases payload with
  | update update =>
    obtain rfl := Except.ok.inj h
    rfl
  | heartbeat heartbeat =>
    obtain ⟨_, -, rfl⟩ := map_eq_ok.mp h
    rfl
  | progress progress =>
    obtain ⟨_, -, rfl⟩ := map_eq_ok.mp h
    rfl
  | _ => cases h

/-- An update is never refused. -/
theorem normalizeLivePayload_error {payload : BroadcasterPayload Sim} {snapshotId : String}
    {error : PublishError} (h : normalizeLivePayload payload snapshotId = .error error) :
    payload.partitionsOf backend = [] := by
  cases payload with
  | update update => cases h
  | _ => rfl

variable {backends : List BroadcasterBackend}

/-- The trim takes out the backends of the recovery, and no other. -/
theorem trimTargetBackends_partitionsOf (payload : BroadcasterPayload Sim) :
    partitionsOf backend (trimTargetBackends backends payload).toList =
      if backend ∈ backends then [] else payload.partitionsOf backend := by
  cases payload with
  | update update =>
    have hfilter : (update.partitions.filter fun partition =>
          !backends.contains partition.backend).filter (fun partition => partition.backend = backend) =
        if backend ∈ backends then [] else (BroadcasterPayload.update update).partitionsOf backend := by
      rw [List.filter_filter]
      split
      case isTrue hmem =>
        refine List.filter_eq_nil_iff.mpr fun partition _ => ?_
        simp only [Bool.and_eq_true, decide_eq_true_eq, Bool.not_eq_true', not_and]
        rintro rfl
        simpa using hmem
      case isFalse hmem =>
        refine List.filter_congr fun partition _ => ?_
        by_cases hbackend : partition.backend = backend
        · subst hbackend
          simpa using hmem
        · simp [hbackend]
    rw [trimTargetBackends]
    split
    case isTrue hempty =>
      -- nothing is left of the update, so that it had nothing for the backend
      rw [List.isEmpty_iff.mp hempty] at hfilter
      exact hfilter
    case isFalse =>
      rw [Option.toList_some, partitionsOf_cons, partitionsOf_nil, List.append_nil]
      exact hfilter
  | _ => exact (ite_self _).symm

/-- **Replaced backends** leave the queue, the others stay as they are. -/
theorem trimQueuedTargetBackends_partitionsOf (payloads : List (BroadcasterPayload Sim)) :
    partitionsOf backend (trimQueuedTargetBackends payloads backends) =
      if backend ∈ backends then [] else partitionsOf backend payloads := by
  induction payloads with
  | nil => exact (ite_self _).symm
  | cons payload payloads ih =>
    have hcons : trimQueuedTargetBackends (payload :: payloads) backends =
        (trimTargetBackends backends payload).toList ++ trimQueuedTargetBackends payloads backends := by
      rw [trimQueuedTargetBackends, List.filterMap_cons]
      cases trimTargetBackends backends payload <;> rfl
    rw [hcons, partitionsOf_append, trimTargetBackends_partitionsOf, ih]
    split
    · rfl
    · rfl

end

/-! ## The invariant

What was sent stands in the log, in numbers that grow; what is being sent is the first of what
waits. -/

section

variable (json : EnvelopeJson Sim)

/-- The entry carries the payload. -/
def EntryCarries (entry : BroadcasterRedisStreamEntry) (payload : BroadcasterPayload Sim) : Prop :=
  ∃ envelope : BroadcasterEnvelope Sim, envelope.messageSeq = entry.messageSeq ∧
    envelope.payload = payload ∧ json.toString envelope = .ok entry.payloadJson

/-- What was sent for a backend, with the numbers it was sent under. -/
structure SentInOrder (backend : BroadcasterBackend) (log : List BroadcasterRedisStreamEntry)
    (nextMessageSeq : UInt64) (sent : List (BroadcasterUpdatePartition Sim × UInt64)) : Prop where
  numbers : (sent.map Prod.snd).Pairwise (· ≤ ·)
  older : ∀ item ∈ sent, item.2 < nextMessageSeq
  landed : ∀ item ∈ sent, item.1.backend = backend ∧ ∃ entry ∈ log, entry.messageSeq = item.2 ∧
    ∃ update, EntryCarries json entry (.update update) ∧ item.1 ∈ update.partitions

/-- What is about to be appended. -/
def AppendCarries (gateOpen : Prop) : Option (PublisherTask Sim) → Prop
  | some (.append prepared payload origin) =>
    EntryCarries json prepared.entry payload ∧ (origin = .queued → gateOpen)
  | _ => True

/-- **The invariant.** -/
structure PublisherOrder (w : PublisherWorld Sim) : Prop where
  gate : w.gate.openRecoveryId = none → w.gate.pendingPayloads = []
  task : AppendCarries json (w.gate.openRecoveryId ≠ none) w.task
  delivery : ∀ backend, Delivery (w.trace.accepted backend)
    ((w.trace.sent backend).map Prod.fst) (partitionsOf backend w.waiting) (w.trace.lost backend)
  sent : ∀ backend,
    SentInOrder json backend w.log w.guard.nextMessageSeq (w.trace.sent backend)

end

section

variable {json : EnvelopeJson Sim} {w w' : PublisherWorld Sim} {backend : BroadcasterBackend}
  {log : List BroadcasterRedisStreamEntry} {nextMessageSeq : UInt64}
  {sent : List (BroadcasterUpdatePartition Sim × UInt64)}

theorem SentInOrder.nil : SentInOrder json backend log nextMessageSeq ([] : List
    (BroadcasterUpdatePartition Sim × UInt64)) :=
  ⟨.nil, by rintro _ ⟨⟩, by rintro _ ⟨⟩⟩

theorem SentInOrder.mono (h : SentInOrder json backend log nextMessageSeq sent)
    {log' : List BroadcasterRedisStreamEntry} {nextMessageSeq' : UInt64}
    (hlog : ∀ entry ∈ log, entry ∈ log') (hseq : nextMessageSeq ≤ nextMessageSeq') :
    SentInOrder json backend log' nextMessageSeq' sent where
  numbers := h.numbers
  older item hmem := UInt64.lt_of_lt_of_le (h.older item hmem) hseq
  landed item hmem := by
    obtain ⟨hbackend, entry, hentry, hcarries⟩ := h.landed item hmem
    exact ⟨hbackend, entry, hlog entry hentry, hcarries⟩

/-- A payload is sent behind the others. -/
theorem SentInOrder.send (h : SentInOrder json backend log nextMessageSeq sent)
    {entry : BroadcasterRedisStreamEntry} {payload : BroadcasterPayload Sim} (hentry : entry ∈ log)
    (hcarries : EntryCarries json entry payload) (hseq : nextMessageSeq = entry.messageSeq + 1)
    (hroom : entry.messageSeq < entry.messageSeq + 1)
    (holder : ∀ item ∈ sent, item.2 < entry.messageSeq) :
    SentInOrder json backend log nextMessageSeq
      (sent ++ (payload.partitionsOf backend).map (·, entry.messageSeq)) where
  numbers := by
    rw [List.map_append, List.map_map, List.pairwise_append]
    refine ⟨h.numbers, ?_, ?_⟩
    · exact List.pairwise_map.mpr (List.pairwise_of_forall fun _ _ => UInt64.le_refl _)
    · intro number hsent number' hnew
      obtain ⟨item, hmem, rfl⟩ := List.mem_map.mp hsent
      obtain ⟨partition, -, rfl⟩ := List.mem_map.mp hnew
      exact UInt64.le_of_lt (holder item hmem)
  older := by
    intro item hmem
    rcases List.mem_append.mp hmem with hmem | hmem
    · exact h.older item hmem
    · obtain ⟨partition, -, rfl⟩ := List.mem_map.mp hmem
      rw [hseq]
      exact hroom
  landed := by
    intro item hmem
    rcases List.mem_append.mp hmem with hmem | hmem
    · exact h.landed item hmem
    · obtain ⟨partition, hpartition, rfl⟩ := List.mem_map.mp hmem
      obtain ⟨hbackend, update, rfl, hin⟩ := BroadcasterPayload.mem_partitionsOf hpartition
      exact ⟨hbackend, entry, hentry, rfl, update, hcarries, hin⟩

/-- **Steps that the trace does not see.** -/
theorem PublisherOrder.frame (h : PublisherOrder json w) (htrace : w'.trace = w.trace)
    (hlog : ∀ entry ∈ w.log, entry ∈ w'.log)
    (hseq : w.guard.nextMessageSeq ≤ w'.guard.nextMessageSeq)
    (hgate : w'.gate.openRecoveryId = none → w'.gate.pendingPayloads = [])
    (htask : AppendCarries json (w'.gate.openRecoveryId ≠ none) w'.task)
    (hwaiting : ∀ backend, partitionsOf backend w'.waiting = partitionsOf backend w.waiting) :
    PublisherOrder json w' where
  gate := hgate
  task := htask
  delivery backend := by
    rw [htrace, hwaiting]
    exact h.delivery backend
  sent backend := by
    rw [htrace]
    exact (h.sent backend).mono hlog hseq

/-- **Steps that give payloads up**, which waited in front of the others. -/
theorem PublisherOrder.lose (h : PublisherOrder json w) (gone : List (BroadcasterPayload Sim))
    (htrace : w'.trace = w.trace.lose gone) (hlog : ∀ entry ∈ w.log, entry ∈ w'.log)
    (hseq : w'.guard.nextMessageSeq = w.guard.nextMessageSeq) (hgate : w'.gate = w.gate)
    (htask : AppendCarries json (w'.gate.openRecoveryId ≠ none) w'.task)
    (hwaiting : ∀ backend, partitionsOf backend w.waiting =
      partitionsOf backend gone ++ partitionsOf backend w'.waiting) :
    PublisherOrder json w' where
  gate := by
    rw [hgate]
    exact h.gate
  task := htask
  delivery backend := by
    have hdelivery := h.delivery backend
    rw [hwaiting] at hdelivery
    rw [htrace]
    exact hdelivery.lose
  sent backend := by
    rw [htrace, hseq]
    exact (h.sent backend).mono hlog (UInt64.le_refl _)

/-- **Steps that accept a payload**, behind the others. -/
theorem PublisherOrder.accept (h : PublisherOrder json w) {payload : BroadcasterPayload Sim}
    (htrace : w'.trace = w.trace.accept payload) (hlog : w'.log = w.log)
    (hseq : w'.guard.nextMessageSeq = w.guard.nextMessageSeq)
    (hgate : w'.gate.openRecoveryId = none → w'.gate.pendingPayloads = [])
    (htask : AppendCarries json (w'.gate.openRecoveryId ≠ none) w'.task)
    (hwaiting : ∀ backend, partitionsOf backend w'.waiting =
      partitionsOf backend w.waiting ++ payload.partitionsOf backend) :
    PublisherOrder json w' where
  gate := hgate
  task := htask
  delivery backend := by
    rw [htrace, hwaiting]
    exact (h.delivery backend).accept
  sent backend := by
    rw [htrace, hlog, hseq]
    exact h.sent backend

/-- An append that may be under way may be so when the gate opens. -/
theorem AppendCarries.opens {gateOpen gateOpen' : Prop} {task : Option (PublisherTask Sim)}
    (h : AppendCarries json gateOpen task) (hgate : gateOpen → gateOpen') :
    AppendCarries json gateOpen' task := by
  cases task with
  | none => trivial
  | some task =>
    cases task with
    | append prepared payload origin => exact ⟨h.1, fun hqueued => hgate (h.2 hqueued)⟩
    | _ => trivial

end

/-! ## Payloads on their way -/

section

variable {json : EnvelopeJson Sim} {config : BroadcasterRedisPublisherConfig}
  {state : BroadcasterRedisPublisherState Sim} {payload : BroadcasterPayload Sim}

/-- An entry carries the payload it was made of. -/
theorem recoveryEntry_carries {streamId : String} {messageSeq currentTimeMs stateVersion : UInt64}
    {entry : BroadcasterRedisStreamEntry}
    (h : recoveryEntry json config streamId messageSeq payload currentTimeMs stateVersion =
      .ok entry) : EntryCarries json entry payload := by
  have hseq : messageSeq = entry.messageSeq :=
    UInt64.toNat_inj.mp (recoveryEntry_numbered h).messageSeq.symm
  rw [recoveryEntry, mapError_eq_ok] at h
  exact ⟨_, hseq, rfl, (fromEnvelopeAt_spec h).2⟩

theorem liveEntry_carries {currentTimeMs stateVersion : UInt64} {entry : BroadcasterRedisStreamEntry}
    (h : liveEntry json config state payload currentTimeMs stateVersion = .ok entry) :
    EntryCarries json entry payload := by
  obtain ⟨built, hbuilt, h⟩ := bind_eq_ok.mp h
  obtain ⟨_, -, h⟩ := bind_eq_ok.mp h
  obtain rfl := pure_eq_ok.mp h
  exact recoveryEntry_carries hbuilt

/-- A prepared payload carries what was normalised. -/
theorem prepareLivePayload_carries {currentTimeMs : UInt64} {prepared : PreparedPayload}
    {state' : BroadcasterRedisPublisherState Sim}
    (h : prepareLivePayload json config state payload currentTimeMs = (.ok prepared, state')) :
    EntryCarries json prepared.entry payload := by
  rw [prepareLivePayload] at h
  split at h
  case isFalse =>
    obtain ⟨entry, hentry, rfl⟩ := map_eq_ok.mp (congrArg Prod.fst h)
    exact liveEntry_carries hentry
  case isTrue =>
    split at h
    case h_1 => cases h
    case h_2 =>
      obtain ⟨entry, hentry, rfl⟩ := map_eq_ok.mp (congrArg Prod.fst h)
      exact liveEntry_carries hentry

end

section

variable {json : EnvelopeJson Sim} {w : PublisherWorld Sim} {entry : BroadcasterRedisStreamEntry}
  {reply : AppendReply}

/-- What is known after an append: an error leaves the numbers as they are, a success means that
the entry is in the stream under the last number. -/
inductive AppendKnown (w : PublisherWorld Sim) (entry : BroadcasterRedisStreamEntry) :
    Except String Unit × PublisherWorld Sim → Prop
  | failed (message : String) (log : List BroadcasterRedisStreamEntry) : (∀ e ∈ w.log, e ∈ log) →
    AppendKnown w entry (.error message, { w with log })
  | done (log : List BroadcasterRedisStreamEntry) : (∀ e ∈ w.log, e ∈ log) → entry ∈ log →
    entry.messageSeq = w.guard.nextMessageSeq → entry.messageSeq < entry.messageSeq + 1 →
    AppendKnown w entry
      (.ok (), { w with log, guard := w.guard.recordAppendSuccess (entry.messageSeq + 1) })

/-- An append leaves the log as it was or adds the entry, and says which, if the reply arrives. -/
theorem appendEntry_known (hreply : reply.Possible w.log entry) :
    AppendKnown w entry (w.appendEntry entry reply) := by
  have hgrows : ∀ e ∈ w.log, e ∈ w.log ++ [entry] := fun e hmem => List.mem_append_left _ hmem
  rw [PublisherWorld.appendEntry]
  split
  case isTrue => exact .failed _ _ fun e hmem => hmem
  case isFalse hseq =>
    have hseq := not_not.mp hseq
    split
    case isFalse => exact .failed _ _ fun e hmem => hmem
    case isTrue hlt =>
      have hroom : entry.messageSeq < entry.messageSeq + 1 := by
        rw [UInt64.lt_iff_toNat_lt, UInt64.toNat_add, UInt64.toNat_one, Nat.mod_eq_of_lt hlt]
        exact Nat.lt_succ_self _
      cases hlands : reply.lands with
      | true =>
        cases herror : reply.error with
        | some message => exact .failed _ _ hgrows
        | none => exact .done _ hgrows (List.mem_append_right _ (List.mem_singleton.mpr rfl)) hseq hroom
      | false =>
        cases herror : reply.error with
        | some message => exact .failed _ _ fun e hmem => hmem
        | none =>
          have hfound := (hreply.found herror).resolve_left (by rw [hlands]; exact Bool.false_ne_true)
          exact .done _ (fun e hmem => hmem) hfound hseq hroom

/-- **The append of a live payload.** -/
theorem PublisherOrder.appendLive (h : PublisherOrder json w) {prepared : PreparedPayload}
    {payload : BroadcasterPayload Sim} {origin : LiveOrigin Sim}
    (htask : w.task = some (.append prepared payload origin))
    (hreply : reply.Possible w.log prepared.entry) :
    PublisherOrder json (w.appendLive prepared payload origin reply) := by
  have hcarries := h.task
  rw [htask] at hcarries
  obtain ⟨hcarries, hqueued⟩ := hcarries
  rw [PublisherWorld.appendLive.eq_def]
  generalize happended : w.appendEntry prepared.entry reply = appended
  have hknown := appendEntry_known hreply
  rw [happended] at hknown
  cases hknown with
  | done log hgrows hentry hseq hroom =>
    have holder : ∀ backend, ∀ item ∈ w.trace.sent backend, item.2 < prepared.entry.messageSeq := by
      intro backend item hmem
      rw [hseq]
      exact (h.sent backend).older item hmem
    refine { gate := h.gate, task := ?_, delivery := fun backend => ?_, sent := fun backend => ?_ }
    · cases origin <;> trivial
    · have hdelivery := h.delivery backend
      rw [PublisherWorld.waiting, htask] at hdelivery
      simp only [PublisherTrace.send, List.map_append, List.map_map]
      rw [show ((payload.partitionsOf backend).map (Prod.fst ∘ (·, prepared.entry.messageSeq))) =
        payload.partitionsOf backend from List.map_id _]
      refine Delivery.send ?_
      cases origin with
      | accepted => simpa [PublisherTask.payloads, PublisherWorld.waiting] using hdelivery
      | handoff rest => simpa [PublisherTask.payloads, PublisherWorld.waiting] using hdelivery
      | queued => simpa [PublisherTask.payloads, PublisherWorld.waiting] using hdelivery
    · refine SentInOrder.send ((h.sent backend).mono hgrows ?_) hentry hcarries rfl hroom
        (holder backend)
      rw [← hseq]
      exact UInt64.le_of_lt hroom
  | failed message log hgrows =>
    cases origin with
    | accepted =>
      refine h.lose [payload] rfl hgrows (by simp) rfl trivial fun backend => ?_
      simp [PublisherWorld.waiting, PublisherTask.payloads, htask]
    | handoff rest =>
      refine h.lose (payload :: rest) rfl hgrows rfl rfl trivial fun backend => ?_
      simp [PublisherWorld.waiting, PublisherTask.payloads, htask]
    | queued =>
      -- the payload is back in front of the queue
      refine h.frame rfl hgrows (UInt64.le_refl _) (fun hclosed => absurd hclosed (hqueued rfl))
        trivial fun backend => ?_
      simp [PublisherWorld.waiting, PublisherTask.payloads, htask]

end

/-! ## Steps -/

section

variable {json : EnvelopeJson Sim} {config : BroadcasterRedisPublisherConfig}
  {digestBytes : String → String} {maxBufferedNativeBlocks : Nat}
  {errorText : PublishError → String} {w w' : PublisherWorld Sim}

/-- **The reservation of a recovery**: the order of its backends starts over with what waits outside
of the queue. -/
theorem PublisherOrder.beginRecovery (h : PublisherOrder json w) (backends : List BroadcasterBackend)
    (cancelled : Bool) :
    PublisherOrder json (w.beginRecovery maxBufferedNativeBlocks backends cancelled) := by
  have hpending : ∀ backend,
      partitionsOf backend (w.gate.beginRecovery maxBufferedNativeBlocks backends
        ("recovery-" ++ u64ToString w.nextRecoveryId) cancelled).pendingPayloads =
      if backend ∈ backends then [] else partitionsOf backend w.gate.pendingPayloads := by
    intro backend
    rw [PublisherRecoveryGate.beginRecovery]
    dsimp only
    split
    case isTrue hclosed =>
      -- nothing waits behind a closed gate
      rw [h.gate hclosed]
      exact (ite_self _).symm
    case isFalse => exact trimQueuedTargetBackends_partitionsOf _
  refine { gate := by rintro ⟨⟩, task := h.task.opens fun _ => Option.some_ne_none _
           delivery := fun backend => ?_, sent := fun backend => ?_ }
  · have hdelivery := h.delivery backend
    simp only [PublisherWorld.beginRecovery, PublisherTrace.replace, PublisherWorld.waiting,
      partitionsOf_append, hpending] at hdelivery ⊢
    split
    case isTrue =>
      rw [List.append_nil]
      exact .start
    case isFalse => exact hdelivery
  · simp only [PublisherWorld.beginRecovery, PublisherTrace.replace]
    split
    case isTrue => exact .nil
    case isFalse => exact h.sent backend

/-- Accepting a payload leaves the gate open or closed. -/
theorem accept_openRecoveryId (gate : PublisherRecoveryGate Sim) (maxBufferedNativeBlocks : Nat)
    (payload : BroadcasterPayload Sim) :
    (gate.accept maxBufferedNativeBlocks payload).2.openRecoveryId = gate.openRecoveryId := by
  rw [PublisherRecoveryGate.accept.eq_def]
  split
  · rfl
  · dsimp only
    split <;> rfl

/-- What is accepted comes last in the queue. -/
theorem accept_pendingPayloads (gate : PublisherRecoveryGate Sim) (maxBufferedNativeBlocks : Nat)
    (payload : BroadcasterPayload Sim) (backend : BroadcasterBackend) :
    partitionsOf backend (gate.accept maxBufferedNativeBlocks payload).2.pendingPayloads =
      partitionsOf backend gate.pendingPayloads ++
        if (gate.accept maxBufferedNativeBlocks payload).1.isOk then payload.partitionsOf backend
        else [] := by
  rw [PublisherRecoveryGate.accept.eq_def]
  split
  case h_1 => exact (List.append_nil _).symm
  case h_2 =>
    dsimp only
    split
    · simp [Except.isOk, Except.toBool]
    · simp [Except.isOk, Except.toBool]

theorem PublisherOrder.queue (h : PublisherOrder json w) (hgate : w.gate.openRecoveryId ≠ none)
    (payload : BroadcasterPayload Sim) :
    PublisherOrder json (w.queue maxBufferedNativeBlocks payload) := by
  have hopen : (w.gate.accept maxBufferedNativeBlocks payload).2.openRecoveryId =
      w.gate.openRecoveryId := accept_openRecoveryId _ _ _
  have hpending := accept_pendingPayloads w.gate maxBufferedNativeBlocks payload
  rw [PublisherWorld.queue]
  generalize w.gate.accept maxBufferedNativeBlocks payload = accepted at hopen hpending
  obtain ⟨result, gate⟩ := accepted
  have hstill : gate.openRecoveryId ≠ none := by rwa [hopen]
  have htask := h.task.opens (fun _ => hstill)
  cases result with
  | error error =>
    refine h.frame rfl (fun _ hmem => hmem) (UInt64.le_refl _) (fun hclosed => absurd hclosed hstill)
      htask fun backend => ?_
    simp [PublisherWorld.waiting, hpending backend, Except.isOk, Except.toBool]
  | ok _ =>
    refine h.accept rfl rfl rfl (fun hclosed => absurd hclosed hstill) htask fun backend => ?_
    simp [PublisherWorld.waiting, hpending backend, Except.isOk, Except.toBool]

/-- A payload is prepared and sent at once. -/
theorem PublisherOrder.publishAccepted (h : PublisherOrder json w)
    (hgate : w.gate.openRecoveryId = none) (htask : w.task = none) (payload : BroadcasterPayload Sim)
    (currentTimeMs : UInt64) (late : Bool) :
    PublisherOrder json (w.publishAccepted json config maxBufferedNativeBlocks errorText payload
      currentTimeMs late) := by
  have hunprepared : ∀ guard : BroadcasterRedisPublisherState Sim,
      guard.nextMessageSeq = w.guard.nextMessageSeq → PublisherOrder json { w with guard } :=
    fun guard hseq => h.frame rfl (fun _ hmem => hmem) (UInt64.le_of_eq hseq.symm) h.gate h.task
      fun _ => rfl
  rw [PublisherWorld.publishAccepted.eq_def]
  split
  case h_1 => exact hunprepared _ rfl
  case h_2 => exact h
  case h_3 => exact h
  case h_4 =>
    split
    case isTrue => exact h
    case isFalse =>
      split
      case h_1 => exact h
      case h_2 normalized hnormalized =>
        split
        case h_1 prepared guard hprepare =>
          have hseq := (prepareLivePayload_prepares hprepare).messageSeq
          refine h.accept rfl rfl hseq h.gate ⟨prepareLivePayload_carries hprepare, by rintro ⟨⟩⟩
            fun backend => ?_
          -- the gate is closed, so that nothing else waits
          simp [PublisherWorld.waiting, PublisherTask.payloads, htask, h.gate hgate]
        case h_2 guard hprepare => exact hunprepared _ (prepareLivePayload_prepares hprepare).messageSeq
        case h_3 error guard _ hprepare =>
          refine hunprepared _ ?_
          rw [BroadcasterRedisPublisherState.recordPublisherError_nextMessageSeq]
          exact (prepareLivePayload_prepares hprepare).messageSeq

/-- The payloads of the startup are taken over. -/
theorem PublisherOrder.drainStartupHandoff (h : PublisherOrder json w)
    {handoff : FrozenStartupHandoff Sim} (htask : w.task = some (.promoted handoff)) :
    PublisherOrder json (w.drainStartupHandoff handoff) := by
  rw [PublisherWorld.drainStartupHandoff]
  split
  · refine h.frame rfl (fun _ hmem => hmem) (UInt64.le_refl _) h.gate trivial fun backend => ?_
    simp [PublisherWorld.waiting, PublisherTask.payloads, htask]
  · refine h.lose handoff.payloads rfl (fun _ hmem => hmem) rfl rfl trivial fun backend => ?_
    simp [PublisherWorld.waiting, PublisherTask.payloads, htask]

theorem PublisherOrder.drainHandoffNext (h : PublisherOrder json w)
    {payloads : List (BroadcasterPayload Sim)} (htask : w.task = some (.handoff payloads))
    (currentTimeMs : UInt64) :
    PublisherOrder json (w.drainHandoffNext json config errorText payloads currentTimeMs) := by
  rw [PublisherWorld.drainHandoffNext.eq_def]
  split
  case h_1 =>
    refine h.frame rfl (fun _ hmem => hmem) (UInt64.le_refl _) h.gate trivial fun backend => ?_
    simp [PublisherWorld.waiting, PublisherTask.payloads, htask]
  case h_2 payload rest =>
    split
    case h_1 =>
      refine h.lose (payload :: rest) rfl (fun _ hmem => hmem) rfl rfl trivial fun backend => ?_
      simp [PublisherWorld.waiting, PublisherTask.payloads, htask]
    case h_2 normalized hnormalized =>
      split
      case h_1 prepared guard hprepare =>
        have hseq := (prepareLivePayload_prepares hprepare).messageSeq
        refine h.frame rfl (fun _ hmem => hmem) (UInt64.le_of_eq hseq.symm) h.gate
          ⟨prepareLivePayload_carries hprepare, by rintro ⟨⟩⟩ fun backend => ?_
        simp [PublisherWorld.waiting, PublisherTask.payloads, htask,
          normalizeLivePayload_partitionsOf hnormalized]
      case h_2 error guard hprepare =>
        have hseq := (prepareLivePayload_prepares hprepare).messageSeq
        refine h.lose (normalized :: rest) rfl (fun _ hmem => hmem) hseq rfl trivial fun backend => ?_
        simp [PublisherWorld.waiting, PublisherTask.payloads, htask,
          normalizeLivePayload_partitionsOf hnormalized]

/-- The next payload of the queue is prepared. -/
theorem PublisherOrder.drainQueueNext (h : PublisherOrder json w) (htask : w.task = some .draining)
    (currentTimeMs : UInt64) :
    PublisherOrder json (w.drainQueueNext json config currentTimeMs) := by
  rw [PublisherWorld.drainQueueNext.eq_def]
  split
  case h_1 hpending =>
    refine h.frame rfl (fun _ hmem => hmem) (UInt64.le_refl _) (fun _ => hpending) trivial
      fun backend => ?_
    simp [PublisherWorld.waiting, PublisherTask.payloads, PublisherWorld.takeBoundary, htask]
  case h_2 payload rest hpending =>
    -- only an open recovery lets payloads queue up
    have hopen : w.gate.openRecoveryId ≠ none := by
      intro hclosed
      rw [h.gate hclosed] at hpending
      cases hpending
    split
    case h_1 =>
      rename_i hrefused
      refine h.frame rfl (fun _ hmem => hmem) (UInt64.le_refl _) (fun hclosed => absurd hclosed hopen)
        trivial fun backend => ?_
      simp [PublisherWorld.waiting, PublisherTask.payloads, htask, hpending,
        normalizeLivePayload_error hrefused]
    case h_2 normalized hnormalized =>
      split
      case h_1 prepared guard hprepare =>
        have hseq := (prepareLivePayload_prepares hprepare).messageSeq
        refine h.frame rfl (fun _ hmem => hmem) (UInt64.le_of_eq hseq.symm)
          (fun hclosed => absurd hclosed hopen)
          ⟨prepareLivePayload_carries hprepare, fun _ => hopen⟩ fun backend => ?_
        simp [PublisherWorld.waiting, PublisherTask.payloads, htask, hpending,
          normalizeLivePayload_partitionsOf hnormalized]
      case h_2 error guard hprepare =>
        have hseq := (prepareLivePayload_prepares hprepare).messageSeq
        refine h.frame rfl (fun _ hmem => hmem) (UInt64.le_of_eq hseq.symm)
          (fun hclosed => absurd hclosed hopen) trivial fun backend => ?_
        simp [PublisherWorld.waiting, PublisherTask.payloads, htask, hpending,
          normalizeLivePayload_partitionsOf hnormalized]

theorem PublisherOrder.startRecovery (h : PublisherOrder json w) (htask : w.task = none)
    (transaction : BroadcasterRecoveryTransaction Sim) (clock : RecoveryClock) :
    PublisherOrder json (w.startRecovery json config digestBytes transaction clock) := by
  rw [PublisherWorld.startRecovery.eq_def]
  split
  case isFalse => exact h
  case isTrue =>
    split
    case h_1 => exact h
    case h_2 targetStateVersion guard hallocate =>
      obtain ⟨rfl, -⟩ := allocateStateVersion_eq_ok hallocate
      split
      case h_1 =>
        exact h.frame rfl (fun _ hmem => hmem) (UInt64.le_refl _) h.gate h.task fun _ => rfl
      case h_2 =>
        refine h.frame rfl (fun _ hmem => hmem) (UInt64.le_refl _) h.gate trivial fun backend => ?_
        simp [PublisherWorld.waiting, PublisherTask.payloads, htask]

theorem PublisherOrder.appendRecovery (h : PublisherOrder json w)
    {entry : BroadcasterRedisStreamEntry} {rest : List BroadcasterRedisStreamEntry}
    {targetStateVersion : UInt64} {reply : AppendReply}
    (htask : w.task = some (.recovery (entry :: rest) targetStateVersion))
    (hreply : reply.Possible w.log entry) :
    PublisherOrder json (w.appendRecovery entry rest targetStateVersion reply) := by
  rw [PublisherWorld.appendRecovery.eq_def]
  generalize happended : w.appendEntry entry reply = appended
  have hknown := appendEntry_known hreply
  rw [happended] at hknown
  cases hknown with
  | failed message log hgrows =>
    refine h.frame rfl hgrows (UInt64.le_of_eq ?_) h.gate trivial fun backend => ?_
    · exact (BroadcasterRedisPublisherState.recordPublisherError_nextMessageSeq _ _).symm
    · simp [PublisherWorld.waiting, PublisherTask.payloads, htask]
  | done log hgrows hentry hseq hroom =>
    have hle : w.guard.nextMessageSeq ≤ entry.messageSeq + 1 := by
      rw [← hseq]
      exact UInt64.le_of_lt hroom
    cases rest with
    | nil =>
      refine h.frame rfl hgrows hle h.gate trivial fun backend => ?_
      simp [PublisherWorld.waiting, PublisherTask.payloads, htask]
    | cons next rest =>
      refine h.frame rfl hgrows hle h.gate trivial fun backend => ?_
      simp [PublisherWorld.waiting, PublisherTask.payloads, htask]

theorem PublisherOrder.verifyWriterFence (h : PublisherOrder json w) (verified : Option String) :
    PublisherOrder json (w.verifyWriterFence verified) := by
  rw [PublisherWorld.verifyWriterFence.eq_def]
  split
  case isFalse => exact h
  case isTrue =>
    cases verified with
    | none => exact h.frame rfl (fun _ hmem => hmem) (UInt64.le_refl _) h.gate h.task fun _ => rfl
    | some message =>
      refine h.frame rfl (fun _ hmem => hmem) (UInt64.le_of_eq ?_) h.gate h.task fun _ => rfl
      exact (BroadcasterRedisPublisherState.recordPublisherError_nextMessageSeq _ _).symm

/-- The end of the stream is never before the publisher's own number. -/
theorem resyncStreamTail_nextMessageSeq {state state' : BroadcasterRedisPublisherState Sim}
    {log : List BroadcasterRedisStreamEntry} (h : resyncStreamTail state log = .ok state') :
    state.nextMessageSeq ≤ state'.nextMessageSeq := by
  rw [resyncStreamTail.eq_def] at h
  split at h
  case h_1 =>
    obtain rfl := Except.ok.inj h
    exact UInt64.le_refl _
  case h_2 last hlast =>
    split at h
    case isTrue =>
      obtain rfl := Except.ok.inj h
      exact UInt64.le_refl _
    case isFalse hge =>
      split at h
      case isFalse => cases h
      case isTrue hlt =>
        obtain rfl := Except.ok.inj h
        rw [UInt64.lt_iff_toNat_lt, not_lt] at hge
        rw [UInt64.le_iff_toNat_le]
        refine le_trans hge ?_
        rw [UInt64.toNat_add, UInt64.toNat_one, Nat.mod_eq_of_lt hlt]
        exact Nat.le_succ _

/-- The lease is renewed, and the tail read again if it was in doubt. -/
theorem PublisherOrder.renewLease (h : PublisherOrder json w) (renewed inspected : Option String) :
    PublisherOrder json (w.renewLease renewed inspected) := by
  rw [PublisherWorld.renewLease.eq_def]
  split
  case h_1 => exact h
  case h_2 => exact h
  case h_3 => exact h.verifyWriterFence renewed
  case h_4 =>
    split
    case h_1 =>
      split
      · exact h.frame rfl (fun _ hmem => hmem) (UInt64.le_refl _) h.gate h.task fun _ => rfl
      · exact h
    case h_2 => exact h
    case h_3 =>
      split
      case h_1 => exact h
      case h_2 guard hresync =>
        have hle := resyncStreamTail_nextMessageSeq hresync
        exact h.frame rfl (fun _ hmem => hmem) hle h.gate h.task fun _ => rfl

/-! ## Runs -/

/-- A publisher that was promoted has sent nothing. -/
theorem PublisherOrder.init (h : PublisherInit config w) : PublisherOrder json w where
  gate := h.gate
  task := by
    rcases h.task with htask | ⟨handoff, htask⟩ <;> rw [htask] <;> trivial
  delivery backend := by
    rw [h.trace]
    exact .start
  sent backend := by
    rw [h.trace]
    exact .nil

/-- **One step.** -/
theorem PublisherOrder.step (h : PublisherOrder json w)
    (hstep : PublisherStep json config digestBytes maxBufferedNativeBlocks errorText w w') :
    PublisherOrder json w' := by
  have hframe : ∀ {w' : PublisherWorld Sim}, w'.trace = w.trace → w'.log = w.log →
      w'.guard.nextMessageSeq = w.guard.nextMessageSeq →
      w'.gate.openRecoveryId = w.gate.openRecoveryId →
      w'.gate.pendingPayloads = w.gate.pendingPayloads → w'.task = w.task →
      PublisherOrder json w' := by
    intro w' htrace hlog hseq hopen hpending htask
    refine h.frame htrace (fun _ hmem => hlog ▸ hmem) (UInt64.le_of_eq hseq.symm) ?_ ?_ fun _ => ?_
    · rw [hopen, hpending]
      exact h.gate
    · rw [hopen, htask]
      exact h.task
    · rw [PublisherWorld.waiting, PublisherWorld.waiting, htask, hpending]
  cases hstep with
  | beginRecovery backends cancelled _ => exact h.beginRecovery backends cancelled
  | cancel => exact hframe rfl rfl rfl rfl rfl rfl
  | queue payload hgate => exact h.queue hgate payload
  | publish payload currentTimeMs late hgate htask =>
    exact h.publishAccepted hgate htask payload currentTimeMs late
  | appended reply htask hreply => exact h.appendLive htask hreply
  | drainHandoff htask => exact h.drainStartupHandoff htask
  | handoffNext currentTimeMs htask => exact h.drainHandoffNext htask currentTimeMs
  | resetGate _ =>
    exact { gate := fun _ => rfl, task := trivial, delivery := fun _ => .start, sent := fun _ => .nil }
  | startRecovery transaction clock htask => exact h.startRecovery htask transaction clock
  | recovered reply htask _ hreply => exact h.appendRecovery htask hreply
  | cancelled htask _ =>
    refine h.frame rfl (fun _ hmem => hmem) (UInt64.le_refl _) h.gate trivial fun backend => ?_
    simp [PublisherWorld.waiting, PublisherTask.payloads, htask]
  | queueNext currentTimeMs htask => exact h.drainQueueNext htask currentTimeMs
  | renewLease renewed inspected _ => exact h.renewLease renewed inspected
  | verify verified _ => exact h.verifyWriterFence verified
  | boundary _ _ => exact hframe rfl rfl rfl rfl rfl rfl
  | selfFence reason _ => exact hframe rfl rfl rfl rfl rfl rfl

/-- **The order of a backend.** In every state of every run what was sent for a backend since its
last recovery began, followed by what waits, is what was accepted for it in that order, less what
was refused or given up. What was sent stands in the stream in that order. -/
theorem publisher_keeps_order
    (h : (publisherMachine json config digestBytes maxBufferedNativeBlocks errorText).Reachable w)
    (backend : BroadcasterBackend) :
    Delivery (w.trace.accepted backend) ((w.trace.sent backend).map Prod.fst)
        (partitionsOf backend w.waiting) (w.trace.lost backend) ∧
      ((w.trace.sent backend).map Prod.snd).Pairwise (· ≤ ·) ∧
      ∀ item ∈ w.trace.sent backend, ∃ entry, w.log[item.2.toNat - 1]? = some entry ∧
        entry.messageSeq = item.2 ∧ ∃ update, EntryCarries json entry (.update update) ∧
          item.1 ∈ update.partitions.filter (fun partition => partition.backend = backend) := by
  have horder : PublisherOrder json w := h.invariant (fun w hinit => .init hinit)
    fun w w' hw hstep => hw.step hstep
  obtain ⟨cursor, hinvariant⟩ := h.invariant (P := fun w => ∃ cursor, PublisherInvariant w cursor)
    (fun w hinit => ⟨_, .init hinit⟩) fun w w' hw hstep => hw.elim fun _ hw => hw.step hstep
  have hsent := horder.sent backend
  refine ⟨horder.delivery backend, hsent.numbers, fun item hmem => ?_⟩
  obtain ⟨hbackend, entry, hentry, hseq, update, hcarries, hin⟩ := hsent.landed item hmem
  obtain ⟨i, hi⟩ := List.mem_iff_getElem?.mp hentry
  have hnumber := (accepted_of_readAll hinvariant.read).1.numbered i entry hi
  refine ⟨entry, ?_, hseq, update, hcarries, List.mem_filter.mpr ⟨hin, by simpa using hbackend⟩⟩
  rw [← hseq, hnumber]
  exact hi

end

/-! ## A run

A native update is being appended when a recovery of another backend is opened; the next update
waits behind it. -/

/-- A new state of a native pool, at a block. -/
def nativeChange (blockNumber : UInt64) : BroadcasterUpdatePartition Unit :=
  { backend := .native, blockNumber, messages := [], newPairs := []
    updatedStates := [{ componentId := "pool", backend := .native, state := () }]
    removedPairs := [], syncStatuses := ∅ }

/-- serde on the update of block 7, in front of the first entry. -/
def firstUpdateJson : EnvelopeJson Unit where
  toString envelope :=
    if envelope = ⟨"chain-1-stream-5", 2, .update ⟨[nativeChange 7]⟩⟩ then .ok "update"
    else .error "not in this sample"
  fromStr text :=
    if text = "update" then .ok ⟨"chain-1-stream-5", 2, .update ⟨[nativeChange 7]⟩⟩
    else .error "not in this sample"

/-- The publisher in front of the append of block 7. -/
def firstUpdateAppend : PublisherWorld Unit :=
  ((promotedPublisher.drainStartupHandoff ⟨1, []⟩).drainHandoffNext firstUpdateJson sampleConfig
    (fun _ => "oversized") [] 1000).publishAccepted firstUpdateJson sampleConfig 4
    (fun _ => "oversized") (.update ⟨[nativeChange 7]⟩) 1000 false

/-- Block 7 is in the stream; block 8 waits for a recovery of the VM pools. -/
def secondUpdateQueued (prepared : PreparedPayload) : PublisherWorld Unit :=
  ((firstUpdateAppend.appendLive prepared (.update ⟨[nativeChange 7]⟩) .accepted
    ⟨true, none⟩).beginRecovery 4 [.vm] false).queue 4 (.update ⟨[nativeChange 8]⟩)

set_option maxRecDepth 4000 in
theorem secondUpdateQueued_trace : ∃ prepared : PreparedPayload,
    firstUpdateAppend.task = some (.append prepared (.update ⟨[nativeChange 7]⟩) .accepted) ∧
      prepared.entry.messageSeq = 2 ∧
      firstUpdateAppend.log = (promotedPublisher : PublisherWorld Unit).log ∧
      (let w := firstUpdateAppend.appendLive prepared (.update ⟨[nativeChange 7]⟩) .accepted
         ⟨true, none⟩
       coordinatorIsFree w.task = true) ∧
      (let w := secondUpdateQueued prepared
       w.trace.sent .native = [(nativeChange 7, 2)] ∧
         partitionsOf .native w.waiting = [nativeChange 8]) :=
  ⟨_, rfl, rfl, rfl, rfl, rfl, rfl⟩

set_option maxRecDepth 4000 in
/-- A recovery of the VM pools leaves the native updates in their order. -/
theorem publisher_keeps_order_other_recovery : ∃ w : PublisherWorld Unit,
    (publisherMachine firstUpdateJson sampleConfig (fun _ => "digest") 4
      fun _ => "oversized").Reachable w ∧
      w.trace.sent .native = [(nativeChange 7, 2)] ∧
      Delivery (w.trace.accepted .native) [nativeChange 7] [nativeChange 8] (w.trace.lost .native) ∧
      ∃ entry, w.log[1]? = some entry ∧ entry.messageSeq = 2 := by
  obtain ⟨prepared, htask, hseq, hlog, hlock, hsent, hwaiting⟩ := secondUpdateQueued_trace
  have hreachable : (publisherMachine firstUpdateJson sampleConfig (fun _ => "digest") 4
      fun _ => "oversized").Reachable firstUpdateAppend := by
    refine ⟨promotedPublisher, promotedPublisher_init, ?_⟩
    refine .tail (.tail (.tail .refl (.drainHandoff rfl)) (.handoffNext 1000 rfl))
      (.publish (.update ⟨[nativeChange 7]⟩) 1000 false rfl rfl)
  have hrun : (publisherMachine firstUpdateJson sampleConfig (fun _ => "digest") 4
      fun _ => "oversized").Reachable (secondUpdateQueued prepared) := by
    refine hreachable.steps (.tail (.tail (.tail .refl (.appended ⟨true, none⟩ htask ?_))
      (.beginRecovery [.vm] false hlock))
      (.queue (.update ⟨[nativeChange 8]⟩) (Option.some_ne_none _)))
    refine ⟨fun _ earlier hmem => ?_, fun _ => .inl rfl⟩
    rw [hlog] at hmem
    rw [hseq]
    obtain rfl := List.mem_singleton.mp hmem
    decide
  obtain ⟨hdelivery, -, hlanded⟩ := publisher_keeps_order hrun .native
  rw [hsent, hwaiting] at hdelivery
  obtain ⟨entry, hentry, hnumber, -⟩ := hlanded (nativeChange 7, 2) (by simp [hsent])
  exact ⟨_, hrun, hsent, hdelivery, entry, hentry, hnumber⟩

end TychoSimulationServer
