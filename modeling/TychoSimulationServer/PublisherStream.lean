import TychoSimulationServer.PublisherRun
import TychoSimulationServer.RecoveryCommit

/-!
# The stream of one publisher

Whatever happens to a publisher, the readers of its generation accept the stream, and every replay
boundary it hands out stays one they can start from.

The invariant ties the publisher to a reader that has read the whole stream: what the task at hand
appends next is what this reader takes next.

* **Synced**: the publisher's next number is the one after the stream.
* **One behind**: a reply was lost, and the entry is there. Either the publisher does not take
  itself for active, or the entry was a queued one and the gate is open. The start of a recovery,
  which is all that can be tried then, fails.
-/

namespace TychoSimulationServer

open Fallible

variable {Sim : Type}

/-! ## The invariant

The log can be read to its end, and the publisher's numbers agree with the reader's, or are one
behind when a reply was lost. -/

section

variable (guard : BroadcasterRedisPublisherState Sim)
  (boundaries : List BroadcasterRedisReplayBoundary) (cursor : StreamCursor)

/-- The publisher's next number is the one after the stream. -/
def Synced : Prop := guard.nextMessageSeq.toNat = cursor.messageSeq + 1

/-- A version that nothing carries yet: it was allocated last. -/
structure FreshVersion (stateVersion : UInt64) : Prop where
  allocated : stateVersion = guard.nextStateVersion
  committed : guard.committedStateVersion < stateVersion
  boundary : ∀ boundary ∈ boundaries, boundary.stateVersion < stateVersion

/-- An entry that a reader takes next. -/
structure PreparedFits (prepared : PreparedPayload) : Prop where
  messageSeq : prepared.entry.messageSeq.toNat = cursor.messageSeq + 1
  live : prepared.entry.kind.isLive = true
  quiet : prepared.stateVersion = none → prepared.entry.kind ≠ .update
  update : ∀ stateVersion, prepared.stateVersion = some stateVersion →
    prepared.entry.kind = .update ∧ prepared.entry.stateVersion = stateVersion ∧
      FreshVersion guard boundaries stateVersion ∧ cursor.stateVersion < stateVersion.toNat

/-- The rest of a recovery: all of it, or what follows the entries the reader has seen. -/
inductive RecoveryFits (targetStateVersion : UInt64) :
    List BroadcasterRedisStreamEntry → Prop where
  | all {start : BroadcasterRedisStreamEntry} {rest : List BroadcasterRedisStreamEntry} :
    NumberedEntry start guard.nextMessageSeq.toNat targetStateVersion .recoveryStart →
    RecoveryTail targetStateVersion (guard.nextMessageSeq.toNat + 1) rest →
    cursor.stateVersion < targetStateVersion.toNat →
    RecoveryFits targetStateVersion (start :: rest)
  | rest {entries : List BroadcasterRedisStreamEntry} :
    Synced guard cursor → cursor.inTransaction = true →
    cursor.stateVersion = targetStateVersion.toNat →
    RecoveryTail targetStateVersion (cursor.messageSeq + 1) entries →
    (∀ boundary ∈ boundaries, boundary.exclusiveMessageSeq.toNat < cursor.messageSeq) →
    RecoveryFits targetStateVersion entries

/-- What the reader has to do with the task at hand. -/
def TaskFits (gateOpen : Prop) : Option (PublisherTask Sim) → Prop
  | none => True
  | some .recovering | some (.promoted _) | some (.handoff _) =>
    cursor.inTransaction = false ∧ Synced guard cursor
  | some (.append prepared _ origin) =>
    cursor.inTransaction = false ∧ Synced guard cursor ∧
      PreparedFits guard boundaries cursor prepared ∧ (origin = .queued → gateOpen)
  | some (.recovery entries targetStateVersion) =>
    gateOpen ∧ guard.mode = .active ∧ FreshVersion guard boundaries targetStateVersion ∧
      RecoveryFits guard boundaries cursor targetStateVersion entries
  | some .draining => cursor.inTransaction = false ∧ Synced guard cursor ∧ gateOpen

/-- A lost reply: the last entry landed, and the publisher does not know. While it still takes
itself for active the entry was a queued one, so the gate is open. -/
structure OneBehind (gateOpen : Prop) (log : List BroadcasterRedisStreamEntry) : Prop where
  messageSeq : guard.nextMessageSeq.toNat = cursor.messageSeq
  landed : 0 < cursor.messageSeq
  queued : guard.mode = .active → gateOpen ∧ ∃ last : BroadcasterRedisStreamEntry,
    log.getLast? = some last ∧ last.kind.isLive = true ∧
      (last.kind = .update → guard.committedStateVersion < last.stateVersion)

end

/-- **The invariant**: a reader has read the whole stream. -/
structure PublisherInvariant (w : PublisherWorld Sim) (cursor : StreamCursor) : Prop where
  read : StreamCursor.readAll w.log = some cursor
  version : cursor.stateVersion ≤ w.guard.nextStateVersion.toNat
  committed : w.guard.committedStateVersion.toNat ≤ w.guard.nextStateVersion.toNat
  gate : w.gate.openRecoveryId = none → cursor.inTransaction = false
  task : TaskFits w.guard w.boundaries cursor (w.gate.openRecoveryId ≠ none) w.task
  tail : Synced w.guard cursor ∨
    OneBehind w.guard cursor (w.gate.openRecoveryId ≠ none) w.log
  kept : ∀ boundary ∈ w.boundaries, BoundaryKept w.log boundary
  older : ∀ boundary ∈ w.boundaries, boundary.stateVersion.toNat ≤ w.guard.nextStateVersion.toNat

section

variable {w w' : PublisherWorld Sim} {cursor : StreamCursor}

/-- The reader stands at the end of the log. -/
theorem PublisherInvariant.at (h : PublisherInvariant w cursor) : CursorAt w.log cursor :=
  (accepted_of_readAll h.read).2

/-- **Steps that leave the stream alone.** -/
theorem PublisherInvariant.frame (h : PublisherInvariant w cursor) (hlog : w'.log = w.log)
    (hboundaries : w'.boundaries = w.boundaries)
    (hseq : w'.guard.nextMessageSeq = w.guard.nextMessageSeq)
    (hcommitted : w'.guard.committedStateVersion = w.guard.committedStateVersion)
    (hversion : w.guard.nextStateVersion.toNat ≤ w'.guard.nextStateVersion.toNat)
    (hmode : w'.guard.mode = .active → w.guard.mode = .active)
    (hgate : w'.gate.openRecoveryId = none → w.gate.openRecoveryId = none)
    (htask : TaskFits w'.guard w'.boundaries cursor (w'.gate.openRecoveryId ≠ none) w'.task) :
    PublisherInvariant w' cursor where
  read := by rw [hlog]; exact h.read
  version := le_trans h.version hversion
  committed := by rw [hcommitted]; exact le_trans h.committed hversion
  gate := fun hclosed => h.gate (hgate hclosed)
  task := htask
  tail := by
    rcases h.tail with hsynced | ⟨hbehind, hlanded, hqueued⟩
    · left
      rw [Synced, hseq]
      exact hsynced
    · refine .inr ⟨by rw [hseq]; exact hbehind, hlanded, fun hactive => ?_⟩
      obtain ⟨hgateOpen, last, hlast, hlive, hupdate⟩ := hqueued (hmode hactive)
      rw [hlog, hcommitted]
      exact ⟨mt hgate hgateOpen, last, hlast, hlive, hupdate⟩
  kept := by rw [hlog, hboundaries]; exact h.kept
  older := by
    rw [hboundaries]
    exact fun boundary hmem => le_trans (h.older boundary hmem) hversion

/-- An open gate allows what a closed one does. -/
theorem TaskFits.opens {guard : BroadcasterRedisPublisherState Sim}
    {boundaries : List BroadcasterRedisReplayBoundary} {gateOpen gateOpen' : Prop}
    {task : Option (PublisherTask Sim)} (h : TaskFits guard boundaries cursor gateOpen task)
    (hgate : gateOpen → gateOpen') : TaskFits guard boundaries cursor gateOpen' task := by
  cases task with
  | none => trivial
  | some task =>
    cases task with
    | recovering => exact h
    | promoted _ => exact h
    | handoff _ => exact h
    | draining => exact ⟨h.1, h.2.1, hgate h.2.2⟩
    | append prepared payload origin =>
      exact ⟨h.1, h.2.1, h.2.2.1, fun hqueued => hgate (h.2.2.2 hqueued)⟩
    | recovery entries targetStateVersion => exact ⟨hgate h.1, h.2⟩

/-- Whoever gets the lock leaves the task at hand alone, if the numbers stay. -/
theorem TaskFits.unlocked {guard guard' : BroadcasterRedisPublisherState Sim}
    {boundaries boundaries' : List BroadcasterRedisReplayBoundary} {gateOpen gateOpen' : Prop}
    {task : Option (PublisherTask Sim)} (h : TaskFits guard boundaries cursor gateOpen task)
    (hlock : lockIsFree task = true)
    (hsync : Synced guard cursor → Synced guard' cursor) :
    TaskFits guard' boundaries' cursor gateOpen' task := by
  cases task with
  | none => trivial
  | some task =>
    cases task with
    | recovering => exact ⟨h.1, hsync h.2⟩
    | promoted _ => exact ⟨h.1, hsync h.2⟩
    | _ => cases hlock

end

/-! ## What a step of the state leaves alone -/

namespace BroadcasterRedisPublisherState

variable (state : BroadcasterRedisPublisherState Sim) (message : String)

@[simp] theorem recordPublisherError_nextMessageSeq :
    (state.recordPublisherError message).nextMessageSeq = state.nextMessageSeq := by
  rw [recordPublisherError]
  split <;> rfl

@[simp] theorem recordPublisherError_committedStateVersion :
    (state.recordPublisherError message).committedStateVersion = state.committedStateVersion := by
  rw [recordPublisherError]
  split <;> rfl

@[simp] theorem recordPublisherError_nextStateVersion :
    (state.recordPublisherError message).nextStateVersion = state.nextStateVersion := by
  rw [recordPublisherError]
  split <;> rfl

/-- After an error the publisher is not active. -/
theorem recordPublisherError_mode :
    (state.recordPublisherError message).mode ≠ .active := by
  rw [recordPublisherError]
  split
  · simp [recordRetired]
  · simp [recordUnhealthy]

end BroadcasterRedisPublisherState

/-! ## Appends

An append that reaches Redis adds the prepared entry; whether the publisher learns of it is another
matter. -/

/-- **An append**: the entry is there and the publisher knows, or does not know, or it is not. -/
inductive Appended (w : PublisherWorld Sim) (entry : BroadcasterRedisStreamEntry) :
    Except String Unit × PublisherWorld Sim → Prop
  | landed : entry.messageSeq.toNat + 1 < 2 ^ 64 → Appended w entry
    (.ok (), { w with log := w.log ++ [entry]
                      guard := w.guard.recordAppendSuccess (entry.messageSeq + 1) })
  | lost (message : String) : Appended w entry
    (.error message, { w with log := w.log ++ [entry] })
  | failed (message : String) : Appended w entry (.error message, w)

section

variable {w : PublisherWorld Sim} {cursor : StreamCursor} {entry : BroadcasterRedisStreamEntry}
  {reply : AppendReply}

/-- No entry has a number beyond the end of the log. -/
theorem CursorAt.messageSeq_le {log : List BroadcasterRedisStreamEntry}
    (haccepted : StreamAccepted log) (h : CursorAt log cursor) (hmem : entry ∈ log) :
    entry.messageSeq.toNat ≤ cursor.messageSeq := by
  obtain ⟨i, hi⟩ := List.mem_iff_getElem?.mp hmem
  have hlt := (List.getElem?_eq_some_iff.mp hi).1
  rw [haccepted.numbered i entry hi, h.messageSeq]
  exact hlt

/-- The next entry of the stream. -/
theorem PublisherInvariant.append (h : PublisherInvariant w cursor)
    (hseq : entry.messageSeq.toNat = cursor.messageSeq + 1) (hreply : reply.Possible w.log entry) :
    Appended w entry (w.appendEntry entry reply) := by
  rw [PublisherWorld.appendEntry]
  split
  case isTrue => exact .failed _
  case isFalse =>
    split
    case isFalse => exact .failed _
    case isTrue hlt =>
      cases hlands : reply.lands with
      | true =>
        cases herror : reply.error with
        | some message => exact .lost _
        | none => exact .landed hlt
      | false =>
        cases herror : reply.error with
        | some message => exact .failed _
        | none =>
          -- no entry of the stream has this number
          have hfound := (hreply.found herror).resolve_left (by rw [hlands]; exact Bool.false_ne_true)
          have hle := h.at.messageSeq_le (accepted_of_readAll h.read).1 hfound
          omega

/-- An entry under a number that is taken, and that is not the entry there. -/
theorem PublisherInvariant.append_taken (h : PublisherInvariant w cursor)
    {last : BroadcasterRedisStreamEntry} (hlast : w.log.getLast? = some last)
    (hseq : entry.messageSeq.toNat = cursor.messageSeq) (hne : entry.kind ≠ last.kind)
    (hreply : reply.Possible w.log entry) :
    ∃ message, w.appendEntry entry reply = (.error message, w) := by
  have haccepted := (accepted_of_readAll h.read).1
  rw [List.getLast?_eq_getElem?] at hlast
  have hnumber := haccepted.numbered _ last hlast
  have hlength := (List.getElem?_eq_some_iff.mp hlast).1
  have hat := h.at.messageSeq
  have hlands : reply.lands = false := by
    refine Bool.eq_false_of_not_eq_true fun hlands => ?_
    have hlt := hreply.behind hlands last (List.mem_of_getElem? hlast)
    rw [UInt64.lt_iff_toNat_lt] at hlt
    omega
  have herror : reply.error ≠ none := by
    intro herror
    have hfound := (hreply.found herror).resolve_left (by rw [hlands]; exact Bool.false_ne_true)
    obtain ⟨i, hi⟩ := List.mem_iff_getElem?.mp hfound
    have hentry := haccepted.numbered i entry hi
    obtain rfl : i = w.log.length - 1 := by omega
    rw [hlast] at hi
    obtain rfl := Option.some.inj hi
    exact hne rfl
  obtain ⟨message, herror⟩ := Option.ne_none_iff_exists'.mp herror
  rw [PublisherWorld.appendEntry, hlands, herror]
  split
  · exact ⟨_, rfl⟩
  · split <;> exact ⟨_, rfl⟩

/-- A boundary stays valid when the entry behind it is a live one or the start of a recovery. -/
theorem BoundaryKept.snoc {log : List BroadcasterRedisStreamEntry}
    {boundary : BroadcasterRedisReplayBoundary} (h : BoundaryKept log boundary)
    (hnext : boundary.exclusiveMessageSeq.toNat = log.length →
      entry.kind.isLive = true ∨ entry.kind = .recoveryStart)
    (hnewer : entry.kind.advances = true → boundary.stateVersion < entry.stateVersion) :
    BoundaryKept (log ++ [entry]) boundary := by
  refine ⟨?_, fun e hi => ?_, fun i e hle hi hadvances => ?_⟩
  · rw [List.length_append]
    exact le_trans h.inside (Nat.le_add_right _ _)
  · rcases getElem?_snoc.mp hi with hi | ⟨hlength, rfl⟩
    · exact h.next e hi
    · exact hnext hlength
  · rcases getElem?_snoc.mp hi with hi | ⟨-, rfl⟩
    · exact h.newer i e hle hi hadvances
    · exact hnewer hadvances

/-- **Steps after which the stream has one more entry.** -/
theorem PublisherInvariant.snoc {w' : PublisherWorld Sim} {next : StreamCursor}
    (h : PublisherInvariant w cursor) (hread : cursor.read entry = some next)
    (hlog : w'.log = w.log ++ [entry]) (hboundaries : w'.boundaries = w.boundaries)
    (hversion : w'.guard.nextStateVersion = w.guard.nextStateVersion)
    (hnewest : next.stateVersion ≤ w.guard.nextStateVersion.toNat)
    (hcommitted : w'.guard.committedStateVersion.toNat ≤ w.guard.nextStateVersion.toNat)
    (hkind : ∀ boundary ∈ w.boundaries,
      boundary.exclusiveMessageSeq.toNat = w.log.length →
      entry.kind.isLive = true ∨ entry.kind = .recoveryStart)
    (hnewer : entry.kind.advances = true →
      ∀ boundary ∈ w.boundaries, boundary.stateVersion < entry.stateVersion)
    (hgate : w'.gate.openRecoveryId = none → next.inTransaction = false)
    (htask : TaskFits w'.guard w'.boundaries next (w'.gate.openRecoveryId ≠ none) w'.task)
    (htail : Synced w'.guard next ∨
      OneBehind w'.guard next (w'.gate.openRecoveryId ≠ none) w'.log) :
    PublisherInvariant w' next where
  read := by rw [hlog]; exact StreamCursor.readAll_append h.read hread
  version := by rw [hversion]; exact hnewest
  committed := by rw [hversion]; exact hcommitted
  gate := hgate
  task := htask
  tail := htail
  kept := by
    intro boundary hmem
    rw [hboundaries] at hmem
    rw [hlog]
    exact (h.kept boundary hmem).snoc (hkind boundary hmem)
      fun hadvances => hnewer hadvances boundary hmem
  older := by rw [hversion, hboundaries]; exact h.older

end

/-! ## Live payloads -/

section

variable {json : EnvelopeJson Sim} {config : BroadcasterRedisPublisherConfig}
  {state : BroadcasterRedisPublisherState Sim} {payload : BroadcasterPayload Sim}

theorem allocateStateVersion_eq_ok {stateVersion : UInt64}
    {state' : BroadcasterRedisPublisherState Sim}
    (h : state.allocateStateVersion = .ok (stateVersion, state')) :
    state' = { state with nextStateVersion := stateVersion } ∧
      stateVersion.toNat = state.nextStateVersion.toNat + 1 := by
  rw [BroadcasterRedisPublisherState.allocateStateVersion] at h
  split at h
  case isFalse => cases h
  case isTrue hlt =>
    simp only [Except.ok.injEq, Prod.mk.injEq] at h
    obtain ⟨rfl, rfl⟩ := h
    refine ⟨rfl, ?_⟩
    rw [UInt64.toNat_add, UInt64.toNat_one, Nat.mod_eq_of_lt hlt]

/-- What `append_live_payload_locked` has done when it comes to its append, or gives up. -/
structure Prepares (state : BroadcasterRedisPublisherState Sim) (payload : BroadcasterPayload Sim)
    (result : Except PublishError PreparedPayload) (state' : BroadcasterRedisPublisherState Sim) :
    Prop where
  mode : state'.mode = state.mode
  messageSeq : state'.nextMessageSeq = state.nextMessageSeq
  committed : state'.committedStateVersion = state.committedStateVersion
  version : state.nextStateVersion.toNat ≤ state'.nextStateVersion.toNat
  entry : ∀ prepared, result = .ok prepared →
    prepared.entry.messageSeq.toNat = state.nextMessageSeq.toNat ∧
      prepared.entry.kind = payload.kind
  quiet : ∀ prepared, result = .ok prepared → prepared.stateVersion = none →
    payload.kind ≠ .update
  update : ∀ prepared stateVersion, result = .ok prepared →
    prepared.stateVersion = some stateVersion → payload.kind = .update ∧
      prepared.entry.stateVersion = stateVersion ∧ stateVersion = state'.nextStateVersion ∧
      stateVersion.toNat = state.nextStateVersion.toNat + 1

/-- What preparing a payload does to the state. -/
theorem prepareLivePayload_prepares {currentTimeMs : UInt64}
    {result : Except PublishError PreparedPayload}
    {state' : BroadcasterRedisPublisherState Sim}
    (h : prepareLivePayload json config state payload currentTimeMs = (result, state')) :
    Prepares state payload result state' := by
  rw [prepareLivePayload] at h
  split at h
  case isFalse hquiet =>
    simp only [Prod.mk.injEq] at h
    obtain ⟨rfl, rfl⟩ := h
    refine ⟨rfl, rfl, rfl, le_rfl, fun prepared h => ?_, fun prepared h _ => ?_,
      fun prepared stateVersion h hsome => ?_⟩
    · obtain ⟨entry, hentry, rfl⟩ := map_eq_ok.mp h
      exact ⟨(liveEntry_numbered hentry).messageSeq, (liveEntry_numbered hentry).kind⟩
    · cases payload <;> simp_all [BroadcasterPayload.advancesState, BroadcasterPayload.kind]
    · obtain ⟨entry, -, rfl⟩ := map_eq_ok.mp h
      cases hsome
  case isTrue hadvances =>
    split at h
    case h_1 =>
      simp only [Prod.mk.injEq] at h
      obtain ⟨rfl, rfl⟩ := h
      exact ⟨rfl, rfl, rfl, le_rfl, by rintro _ ⟨⟩, by rintro _ ⟨⟩, by rintro _ _ ⟨⟩⟩
    case h_2 stateVersion allocated hallocate =>
      obtain ⟨rfl, hversion⟩ := allocateStateVersion_eq_ok hallocate
      simp only [Prod.mk.injEq] at h
      obtain ⟨rfl, rfl⟩ := h
      refine ⟨rfl, rfl, rfl, hversion ▸ Nat.le_succ _, fun prepared h => ?_, fun prepared h hnone => ?_,
        fun prepared stateVersion h hsome => ?_⟩
      · obtain ⟨entry, hentry, rfl⟩ := map_eq_ok.mp h
        exact ⟨(liveEntry_numbered hentry).messageSeq, (liveEntry_numbered hentry).kind⟩
      · obtain ⟨entry, -, rfl⟩ := map_eq_ok.mp h
        cases hnone
      · obtain ⟨entry, hentry, rfl⟩ := map_eq_ok.mp h
        obtain rfl := Option.some.inj hsome
        refine ⟨?_, (liveEntry_numbered hentry).stateVersion, rfl, hversion⟩
        cases payload <;> simp_all [BroadcasterPayload.advancesState, BroadcasterPayload.kind]

theorem normalizeLivePayload_isLive {snapshotId : String} {normalized : BroadcasterPayload Sim}
    (h : normalizeLivePayload payload snapshotId = .ok normalized) :
    normalized.kind.isLive = true := by
  cases payload with
  | update update =>
    obtain rfl := Except.ok.inj h
    rfl
  | heartbeat heartbeat =>
    obtain ⟨_, -, rfl⟩ := map_eq_ok.mp h
    rfl
  | progress progress =>
    obtain ⟨_, -, rfl⟩ := map_eq_ok.mp h
    rfl
  | _ => cases h

end

/-! ## Steps of live payloads -/

section

variable {json : EnvelopeJson Sim} {config : BroadcasterRedisPublisherConfig}
  {digestBytes : String → String} {maxBufferedNativeBlocks : Nat}
  {errorText : PublishError → String} {w : PublisherWorld Sim} {cursor : StreamCursor}
  {guard : BroadcasterRedisPublisherState Sim} {payload : BroadcasterPayload Sim}

/-- A version that is allocated now is newer than everything. -/
theorem PublisherInvariant.fresh (h : PublisherInvariant w cursor) {stateVersion : UInt64}
    (hversion : stateVersion.toNat = w.guard.nextStateVersion.toNat + 1)
    (hallocated : stateVersion = guard.nextStateVersion)
    (hcommitted : guard.committedStateVersion = w.guard.committedStateVersion) :
    FreshVersion guard w.boundaries stateVersion ∧ cursor.stateVersion < stateVersion.toNat := by
  have hnewer : ∀ earlier : UInt64, earlier.toNat ≤ w.guard.nextStateVersion.toNat →
      earlier < stateVersion := by
    intro earlier hle
    rw [UInt64.lt_iff_toNat_lt, hversion]
    exact Nat.lt_succ_of_le hle
  refine ⟨⟨hallocated, ?_, fun boundary hmem => hnewer _ (h.older boundary hmem)⟩, ?_⟩
  · rw [hcommitted]
    exact hnewer _ h.committed
  · rw [hversion]
    exact Nat.lt_succ_of_le h.version

/-- A payload that is prepared at the end of the stream is what the reader takes next. -/
theorem PublisherInvariant.prepared (h : PublisherInvariant w cursor) (hsync : Synced w.guard cursor)
    (hlive : payload.kind.isLive = true) {prepared : PreparedPayload}
    (hprepares : Prepares w.guard payload (.ok prepared) guard) :
    PreparedFits guard w.boundaries cursor prepared := by
  obtain ⟨hseq, hkind⟩ := hprepares.entry prepared rfl
  refine ⟨hseq.trans hsync, by rw [hkind]; exact hlive,
    fun hnone => by rw [hkind]; exact hprepares.quiet prepared rfl hnone,
    fun stateVersion hsome => ?_⟩
  obtain ⟨hupdate, hentry, hallocated, hversion⟩ := hprepares.update prepared stateVersion rfl hsome
  obtain ⟨hfresh, hlt⟩ := h.fresh hversion hallocated hprepares.committed
  exact ⟨by rw [hkind]; exact hupdate, hentry, hfresh, hlt⟩

/-- A reader takes a prepared payload. -/
theorem PreparedFits.read {boundaries : List BroadcasterRedisReplayBoundary}
    {prepared : PreparedPayload} (h : PreparedFits guard boundaries cursor prepared)
    (hclosed : cursor.inTransaction = false) :
    ∃ next : StreamCursor, cursor.read prepared.entry = some next ∧
      next.messageSeq = cursor.messageSeq + 1 ∧ next.inTransaction = false ∧
      next.stateVersion = prepared.stateVersion.elim cursor.stateVersion (·.toNat) := by
  have hseq := h.messageSeq
  have hlive := h.live
  rw [StreamCursor.read, if_neg (not_not.mpr hseq)]
  cases hversion : prepared.stateVersion with
  | none =>
    have hkind := h.quiet hversion
    refine ⟨{ cursor with messageSeq := cursor.messageSeq + 1 }, ?_, rfl, hclosed, rfl⟩
    cases hentry : prepared.entry.kind <;> rw [hentry] at hlive hkind <;>
      first | contradiction | simp only [if_pos hclosed]
  | some stateVersion =>
    obtain ⟨hkind, hentry, -, hlt⟩ := h.update stateVersion hversion
    refine ⟨{ cursor with messageSeq := cursor.messageSeq + 1, stateVersion := stateVersion.toNat },
      ?_, rfl, hclosed, rfl⟩
    rw [hkind, hentry]
    exact if_pos ⟨hclosed, hlt⟩

/-- A prepared entry with a version of its own is an update under a fresh version. -/
theorem PreparedFits.advances {boundaries : List BroadcasterRedisReplayBoundary}
    {prepared : PreparedPayload} (h : PreparedFits guard boundaries cursor prepared)
    (hadvances : prepared.entry.kind.advances = true) :
    FreshVersion guard boundaries prepared.entry.stateVersion := by
  have hlive := h.live
  have hupdate : prepared.entry.kind = .update := by
    cases hkind : prepared.entry.kind <;> rw [hkind] at hadvances hlive <;> first | rfl | contradiction
  cases hversion : prepared.stateVersion with
  | none => exact absurd hupdate (h.quiet hversion)
  | some stateVersion =>
    obtain ⟨-, hentry, hfresh, -⟩ := h.update stateVersion hversion
    rw [hentry]
    exact hfresh

/-- **The append of a live payload.** -/
theorem PublisherInvariant.appendLive (h : PublisherInvariant w cursor) {prepared : PreparedPayload}
    {payload : BroadcasterPayload Sim} {origin : LiveOrigin Sim} {reply : AppendReply}
    (htask : w.task = some (.append prepared payload origin))
    (hreply : reply.Possible w.log prepared.entry) :
    ∃ next, PublisherInvariant (w.appendLive prepared payload origin reply) next := by
  have hfits := h.task
  rw [htask] at hfits
  obtain ⟨hclosed, hsync, hprepared, horigin⟩ := hfits
  obtain ⟨next, hread, hnext, hstill, hversion⟩ := hprepared.read hclosed
  have hnewest : next.stateVersion ≤ w.guard.nextStateVersion.toNat := by
    rw [hversion]
    cases hsome : prepared.stateVersion with
    | none => exact h.version
    | some stateVersion =>
      obtain ⟨-, -, hfresh, -⟩ := hprepared.update stateVersion hsome
      exact le_of_eq (congrArg UInt64.toNat hfresh.allocated)
  have hkind : ∀ boundary ∈ w.boundaries,
      boundary.exclusiveMessageSeq.toNat = w.log.length →
      prepared.entry.kind.isLive = true ∨ prepared.entry.kind = .recoveryStart :=
    fun _ _ _ => .inl hprepared.live
  have hnewer : prepared.entry.kind.advances = true →
      ∀ boundary ∈ w.boundaries, boundary.stateVersion < prepared.entry.stateVersion :=
    fun hadvances => (hprepared.advances hadvances).boundary
  rw [PublisherWorld.appendLive.eq_def]
  generalize happended : w.appendEntry prepared.entry reply = appended
  have hcases := h.append hprepared.messageSeq hreply
  rw [happended] at hcases
  -- the entry is in the log, or in the log behind a lost reply, or was refused
  cases hcases with
  | landed hlt =>
    have hsynced : (prepared.entry.messageSeq + 1).toNat = next.messageSeq + 1 := by
      rw [UInt64.toNat_add, UInt64.toNat_one, Nat.mod_eq_of_lt hlt, hprepared.messageSeq, hnext]
    refine ⟨next, h.snoc hread rfl rfl rfl hnewest ?_ hkind hnewer (fun _ => hstill) ?_
      (.inl hsynced)⟩
    · cases hsome : prepared.stateVersion with
      | none => exact h.committed
      | some stateVersion =>
        obtain ⟨-, -, hfresh, -⟩ := hprepared.update stateVersion hsome
        exact le_of_eq (congrArg UInt64.toNat hfresh.allocated)
    · cases origin with
      | accepted => trivial
      | handoff rest => exact ⟨hstill, hsynced⟩
      | queued => exact ⟨hstill, hsynced, horigin rfl⟩
  | lost message =>
    have hbehind : w.guard.nextMessageSeq.toNat = next.messageSeq := hsync.trans hnext.symm
    have hlanded : 0 < next.messageSeq := by omega
    refine ⟨next, ?_⟩
    cases origin with
    | accepted =>
      refine h.snoc hread rfl rfl (by simp) hnewest (by simpa using h.committed) hkind hnewer
        (fun _ => hstill) trivial (.inr ⟨by simpa using hbehind, hlanded, fun hactive => ?_⟩)
      exact absurd hactive (w.guard.recordPublisherError_mode _)
    | handoff rest =>
      exact h.snoc hread rfl rfl rfl hnewest h.committed hkind hnewer (fun _ => hstill) trivial
        (.inr ⟨hbehind, hlanded, by rintro ⟨⟩⟩)
    | queued =>
      refine h.snoc hread rfl rfl rfl hnewest h.committed hkind hnewer (fun _ => hstill) trivial
        (.inr ⟨hbehind, hlanded, fun _ => ⟨horigin rfl, prepared.entry, List.getLast?_concat,
          hprepared.live, fun hupdate => ?_⟩⟩)
      exact (hprepared.advances (by rw [hupdate]; rfl)).committed
  | failed message =>
    refine ⟨cursor, ?_⟩
    cases origin with
    | accepted =>
      exact h.frame rfl rfl (by simp) (by simp) (by simp)
        (fun hactive => absurd hactive (w.guard.recordPublisherError_mode _)) id trivial
    | handoff rest => exact h.frame rfl rfl rfl rfl le_rfl (by rintro ⟨⟩) id trivial
    | queued => exact h.frame rfl rfl rfl rfl le_rfl id id trivial

/-- While the gate is closed an active publisher knows the end of the stream. -/
theorem PublisherInvariant.synced (h : PublisherInvariant w cursor) (hactive : w.guard.mode = .active)
    (hgate : w.gate.openRecoveryId = none) : Synced w.guard cursor := by
  refine h.tail.resolve_right fun hbehind => ?_
  exact (hbehind.queued hactive).1 hgate

/-- `append_live_payload_locked` gave up before its append. -/
theorem PublisherInvariant.unprepared (h : PublisherInvariant w cursor)
    {result : Except PublishError PreparedPayload} {task : Option (PublisherTask Sim)}
    {gate : PublisherRecoveryGate Sim} (hprepares : Prepares w.guard payload result guard)
    (hgate : gate.openRecoveryId = w.gate.openRecoveryId) (htask : task = none) :
    PublisherInvariant { w with guard, task, gate } cursor := by
  subst htask
  exact h.frame rfl rfl hprepares.messageSeq hprepares.committed hprepares.version
    (fun hactive => hprepares.mode ▸ hactive) (fun hclosed => hgate ▸ hclosed) trivial

/-- `append_live_payload_locked` came to its append. -/
theorem PublisherInvariant.atAppend (h : PublisherInvariant w cursor)
    (hsync : Synced w.guard cursor) (hclosed : cursor.inTransaction = false)
    (hlive : payload.kind.isLive = true) {prepared : PreparedPayload} {origin : LiveOrigin Sim}
    {gate : PublisherRecoveryGate Sim} {trace : PublisherTrace Sim}
    (hprepares : Prepares w.guard payload (.ok prepared) guard)
    (hgate : gate.openRecoveryId = w.gate.openRecoveryId)
    (horigin : origin = .queued → w.gate.openRecoveryId ≠ none) :
    PublisherInvariant
      { w with guard, gate, task := some (.append prepared payload origin), trace } cursor := by
  have hsynced : Synced guard cursor := by
    rw [Synced, hprepares.messageSeq]
    exact hsync
  refine h.frame rfl rfl hprepares.messageSeq hprepares.committed hprepares.version
    (fun hactive => hprepares.mode ▸ hactive) (fun hclosed => hgate ▸ hclosed)
    ⟨hclosed, hsynced, h.prepared hsync hlive hprepares, fun hqueued => ?_⟩
  change gate.openRecoveryId ≠ none
  rw [hgate]
  exact horigin hqueued

theorem PublisherInvariant.publishAccepted (h : PublisherInvariant w cursor)
    (hgate : w.gate.openRecoveryId = none) (htask : w.task = none) (payload : BroadcasterPayload Sim)
    (currentTimeMs : UInt64) (late : Bool) :
    PublisherInvariant (w.publishAccepted json config maxBufferedNativeBlocks errorText payload
      currentTimeMs late) cursor := by
  rw [PublisherWorld.publishAccepted.eq_def]
  split
  case h_1 =>
    exact h.frame rfl rfl rfl rfl le_rfl id id (by rw [htask]; trivial)
  case h_2 => exact h
  case h_3 => exact h
  case h_4 hactive =>
    split
    case isTrue => exact h
    case isFalse =>
      split
      case h_1 => exact h
      case h_2 normalized hnormalized =>
        split
        case h_1 prepared guard hprepare =>
          exact h.atAppend (h.synced hactive hgate) (h.gate hgate)
            (normalizeLivePayload_isLive hnormalized) (prepareLivePayload_prepares hprepare) rfl
            (by rintro ⟨⟩)
        case h_2 guard hprepare =>
          exact h.unprepared (prepareLivePayload_prepares hprepare) rfl htask
        case h_3 error guard _ hprepare =>
          have hprepares := prepareLivePayload_prepares hprepare
          refine h.frame rfl rfl (by simpa using hprepares.messageSeq)
            (by simpa using hprepares.committed) (by simpa using hprepares.version) ?_ id
            (by rw [htask]; trivial)
          exact fun hactive => absurd hactive (guard.recordPublisherError_mode _)

/-- The payloads of the startup are taken over. -/
theorem PublisherInvariant.drainStartupHandoff (h : PublisherInvariant w cursor)
    {handoff : FrozenStartupHandoff Sim} (htask : w.task = some (.promoted handoff)) :
    PublisherInvariant (w.drainStartupHandoff handoff) cursor := by
  have hfits := h.task
  rw [htask] at hfits
  rw [PublisherWorld.drainStartupHandoff]
  split
  · exact h.frame rfl rfl rfl rfl le_rfl id id hfits
  · exact h.frame rfl rfl rfl rfl le_rfl id id trivial

theorem PublisherInvariant.drainHandoffNext (h : PublisherInvariant w cursor)
    {payloads : List (BroadcasterPayload Sim)} (htask : w.task = some (.handoff payloads))
    (currentTimeMs : UInt64) :
    PublisherInvariant (w.drainHandoffNext json config errorText payloads currentTimeMs) cursor := by
  have hfits := h.task
  rw [htask] at hfits
  obtain ⟨hclosed, hsync⟩ := hfits
  cases payloads with
  | nil => exact h.frame rfl rfl rfl rfl le_rfl id id trivial
  | cons payload rest =>
    rw [PublisherWorld.drainHandoffNext]
    split
    case h_1 => exact h.frame rfl rfl rfl rfl le_rfl id id trivial
    case h_2 normalized hnormalized =>
      split
      case h_1 prepared guard hprepare =>
        exact h.atAppend hsync hclosed (normalizeLivePayload_isLive hnormalized)
          (prepareLivePayload_prepares hprepare) rfl (by rintro ⟨⟩)
      case h_2 error guard hprepare =>
        have hprepares := prepareLivePayload_prepares hprepare
        exact h.frame rfl rfl hprepares.messageSeq hprepares.committed hprepares.version
          (by rintro ⟨⟩) id trivial

/-- **Boundaries** are handed out at the end of the stream, or in front of a queued payload whose
reply was lost. -/
theorem PublisherInvariant.takeBoundary (h : PublisherInvariant w cursor)
    (htask : lockIsFree w.task = true)
    (hboundary : Synced w.guard cursor ∨ w.guard.mode = .active ∧
      OneBehind w.guard cursor (w.gate.openRecoveryId ≠ none) w.log) :
    PublisherInvariant (w.takeBoundary config) cursor := by
  have hnew : ∀ boundary, w.guard.replayBoundary config.streamKey = .ok boundary →
      BoundaryKept w.log boundary ∧
        boundary.stateVersion.toNat ≤ w.guard.nextStateVersion.toNat := by
    intro boundary hnew
    rw [BroadcasterRedisPublisherState.replayBoundary, boundary_new_eq_ok] at hnew
    obtain ⟨-, -, -, -, rfl⟩ := hnew
    refine ⟨?_, h.committed⟩
    have hat := h.at.messageSeq
    -- either the tail is known, or the log ends with one live entry the publisher is unsure of
    rcases hboundary with hsync | ⟨hactive, hbehind⟩
    · rw [Synced] at hsync
      have hexclusive : (w.guard.nextMessageSeq - 1).toNat = w.log.length := by
        rw [UInt64.toNat_sub_of_le _ _ (by rw [UInt64.le_iff_toNat_le, hsync]; simp), hsync, hat]
        rfl
      refine ⟨le_of_eq hexclusive, fun entry hi => ?_, fun i entry hle hi => ?_⟩
      · rw [hexclusive, List.getElem?_eq_none le_rfl] at hi
        cases hi
      · rw [hexclusive] at hle
        rw [List.getElem?_eq_none hle] at hi
        cases hi
    · obtain ⟨-, last, hlast, hlive, hupdate⟩ := hbehind.queued hactive
      rw [List.getLast?_eq_getElem?] at hlast
      have hlt := (List.getElem?_eq_some_iff.mp hlast).1
      have hseq := hbehind.messageSeq
      have hexclusive : (w.guard.nextMessageSeq - 1).toNat = w.log.length - 1 := by
        rw [UInt64.toNat_sub_of_le _ _ (by rw [UInt64.le_iff_toNat_le, hseq, hat]; simp; omega),
          hseq, hat]
        rfl
      refine ⟨le_trans (le_of_eq hexclusive) (Nat.sub_le _ _), fun entry hi => ?_,
        fun i entry hle hi hadvances => ?_⟩
      · rw [hexclusive, hlast] at hi
        obtain rfl := Option.some.inj hi
        exact .inl hlive
      · have hi' := (List.getElem?_eq_some_iff.mp hi).1
        obtain rfl : i = w.log.length - 1 := by rw [hexclusive] at hle; omega
        rw [hlast] at hi
        obtain rfl := Option.some.inj hi
        refine hupdate ?_
        cases hkind : last.kind <;> rw [hkind] at hlive hadvances <;> first | rfl | contradiction
  have hmem : ∀ boundary ∈ (w.takeBoundary config).boundaries, boundary ∈ w.boundaries ∨
      w.guard.replayBoundary config.streamKey = .ok boundary := by
    intro boundary hmem
    rw [PublisherWorld.takeBoundary, List.mem_append] at hmem
    refine hmem.imp id fun hmem => ?_
    cases hnew : w.guard.replayBoundary config.streamKey with
    | error _ => rw [hnew] at hmem; cases hmem
    | ok b =>
      rw [hnew] at hmem
      obtain rfl := List.mem_singleton.mp hmem
      rfl
  exact {
    read := h.read
    version := h.version
    committed := h.committed
    gate := h.gate
    task := h.task.unlocked htask id
    tail := h.tail
    kept := fun boundary hin => (hmem boundary hin).elim (h.kept boundary) fun h => (hnew _ h).1
    older := fun boundary hin => (hmem boundary hin).elim (h.older boundary) fun h => (hnew _ h).2 }

/-- The next payload of the queue is prepared. -/
theorem PublisherInvariant.drainQueueNext (h : PublisherInvariant w cursor)
    (htask : w.task = some .draining) (currentTimeMs : UInt64) :
    PublisherInvariant (w.drainQueueNext json config currentTimeMs) cursor := by
  have hfits := h.task
  rw [htask] at hfits
  obtain ⟨hclosed, hsync, hgate⟩ := hfits
  rw [PublisherWorld.drainQueueNext]
  split
  case h_1 =>
    refine PublisherInvariant.takeBoundary ?_ rfl (.inl hsync)
    exact { read := h.read, version := h.version, committed := h.committed, gate := fun _ => hclosed
            task := trivial, tail := .inl hsync, kept := h.kept, older := h.older }
  case h_2 payload rest hpending =>
    split
    case h_1 => exact h.frame rfl rfl rfl rfl le_rfl id id trivial
    case h_2 normalized hnormalized =>
      split
      case h_1 prepared guard hprepare =>
        exact h.atAppend hsync hclosed (normalizeLivePayload_isLive hnormalized)
          (prepareLivePayload_prepares hprepare) rfl fun _ => hgate
      case h_2 error guard hprepare =>
        exact h.unprepared (prepareLivePayload_prepares hprepare) rfl rfl

end

/-! ## Steps of a recovery -/

section

variable {json : EnvelopeJson Sim} {config : BroadcasterRedisPublisherConfig}
  {digestBytes : String → String} {w : PublisherWorld Sim} {cursor : StreamCursor}
  {guard : BroadcasterRedisPublisherState Sim}

theorem PublisherInvariant.startRecovery (h : PublisherInvariant w cursor) (htask : w.task = none)
    (transaction : BroadcasterRecoveryTransaction Sim) (clock : RecoveryClock) :
    PublisherInvariant (w.startRecovery json config digestBytes transaction clock) cursor := by
  rw [PublisherWorld.startRecovery]
  split
  case isFalse => exact h
  case isTrue hstart =>
    obtain ⟨hgate, -, ⟨hactive, -⟩, -⟩ := hstart
    split
    case h_1 => exact h
    case h_2 targetStateVersion allocated hallocate =>
      obtain ⟨rfl, hversion⟩ := allocateStateVersion_eq_ok hallocate
      have hle : w.guard.nextStateVersion.toNat ≤ targetStateVersion.toNat :=
        hversion ▸ Nat.le_succ _
      split
      case h_1 => exact h.frame rfl rfl rfl rfl hle id id (by rw [htask]; trivial)
      case h_2 entries hentries =>
        obtain ⟨start, rest, rfl, hstart, htail⟩ := recoveryEntries_numbered hentries
        let guard : BroadcasterRedisPublisherState Sim :=
          { w.guard with nextStateVersion := targetStateVersion }
        have hnext : targetStateVersion = guard.nextStateVersion := rfl
        obtain ⟨hfresh, hlt⟩ := h.fresh hversion hnext rfl
        exact h.frame rfl rfl rfl rfl hle id id
          ⟨by rw [hgate]; exact Option.some_ne_none _, hactive, hfresh, .all hstart htail hlt⟩

/-- A reader takes the next entry of a recovery. -/
theorem RecoveryFits.read {boundaries : List BroadcasterRedisReplayBoundary}
    {targetStateVersion : UInt64} {entry : BroadcasterRedisStreamEntry}
    {rest : List BroadcasterRedisStreamEntry}
    (h : RecoveryFits guard boundaries cursor targetStateVersion (entry :: rest))
    (hsync : Synced guard cursor)
    (hkept : ∀ boundary ∈ boundaries, boundary.exclusiveMessageSeq.toNat ≤ cursor.messageSeq) :
    entry.messageSeq.toNat = cursor.messageSeq + 1 ∧ entry.stateVersion = targetStateVersion ∧
      (∀ boundary ∈ boundaries, boundary.exclusiveMessageSeq.toNat = cursor.messageSeq →
        entry.kind = .recoveryStart) ∧
      ∃ next : StreamCursor, cursor.read entry = some next ∧
        next.messageSeq = cursor.messageSeq + 1 ∧ next.stateVersion = targetStateVersion.toNat ∧
        (rest = [] ∧ next.inTransaction = false ∨
          rest ≠ [] ∧ ∀ guard' : BroadcasterRedisPublisherState Sim, Synced guard' next →
            RecoveryFits guard' boundaries next targetStateVersion rest) := by
  cases h with
  | all hstart htail hlt =>
    rw [hsync] at hstart htail
    refine ⟨hstart.messageSeq, hstart.stateVersion, fun _ _ _ => hstart.kind,
      { messageSeq := cursor.messageSeq + 1, stateVersion := targetStateVersion.toNat
        inTransaction := true }, ?_, rfl, rfl, .inr ⟨?_, fun guard' hsynced => ?_⟩⟩
    · rw [StreamCursor.read, if_neg (not_not.mpr hstart.messageSeq), hstart.kind,
        hstart.stateVersion]
      exact if_pos hlt
    · cases htail <;> exact List.cons_ne_nil _ _
    · exact .rest hsynced rfl rfl htail fun boundary hmem => Nat.lt_succ_of_le (hkept boundary hmem)
  | rest _ hopen heq htail hbefore =>
    -- every boundary lies before the start, which has been read
    have hnever : ∀ boundary ∈ boundaries,
        boundary.exclusiveMessageSeq.toNat = cursor.messageSeq → entry.kind = .recoveryStart :=
      fun boundary hmem hexclusive => absurd hexclusive (Nat.ne_of_lt (hbefore boundary hmem))
    cases htail with
    | commit hcommit =>
      refine ⟨hcommit.messageSeq, hcommit.stateVersion, hnever,
        { cursor with messageSeq := cursor.messageSeq + 1, inTransaction := false }, ?_, rfl, heq,
        .inl ⟨rfl, rfl⟩⟩
      rw [StreamCursor.read, if_neg (not_not.mpr hcommit.messageSeq), hcommit.kind,
        hcommit.stateVersion]
      exact if_pos ⟨hopen, heq⟩
    | inside hkind hentry htail =>
      refine ⟨hentry.messageSeq, hentry.stateVersion, hnever,
        { cursor with messageSeq := cursor.messageSeq + 1 }, ?_, rfl, heq,
        .inr ⟨?_, fun guard' hsynced => ?_⟩⟩
      · rw [StreamCursor.read, if_neg (not_not.mpr hentry.messageSeq), hentry.kind,
          hentry.stateVersion]
        rename_i kind
        cases kind <;> first | contradiction | exact if_pos ⟨hopen, heq⟩
      · cases htail <;> exact List.cons_ne_nil _ _
      · exact .rest hsynced hopen heq htail
          fun boundary hmem => Nat.lt_succ_of_lt (hbefore boundary hmem)

/-- One behind, only the start of a recovery is ever appended, and that fails. -/
theorem PublisherInvariant.append_behind (h : PublisherInvariant w cursor)
    {entry : BroadcasterRedisStreamEntry} {rest : List BroadcasterRedisStreamEntry}
    {targetStateVersion : UInt64} {reply : AppendReply}
    (htask : w.task = some (.recovery (entry :: rest) targetStateVersion))
    (hbehind : OneBehind w.guard cursor (w.gate.openRecoveryId ≠ none) w.log)
    (hreply : reply.Possible w.log entry) :
    ∃ message, w.appendEntry entry reply = (.error message, w) := by
  have hfits := h.task
  rw [htask] at hfits
  obtain ⟨-, hactive, -, hentries⟩ := hfits
  obtain ⟨-, last, hlast, hlive, -⟩ := hbehind.queued hactive
  cases hentries with
  | rest hsync =>
    rw [Synced, hbehind.messageSeq] at hsync
    omega
  | all hstart htail hlt =>
    have hne : entry.kind ≠ last.kind := by
      intro heq
      rw [← heq, hstart.kind] at hlive
      cases hlive
    exact h.append_taken hlast (hstart.messageSeq.trans hbehind.messageSeq) hne hreply

/-- An entry of a recovery is appended behind the stream, or it is not. -/
theorem PublisherInvariant.appended_recovery (h : PublisherInvariant w cursor)
    {entry : BroadcasterRedisStreamEntry} {rest : List BroadcasterRedisStreamEntry}
    {targetStateVersion : UInt64} {reply : AppendReply}
    (htask : w.task = some (.recovery (entry :: rest) targetStateVersion))
    (hreply : reply.Possible w.log entry) : Appended w entry (w.appendEntry entry reply) := by
  rcases h.tail with hsync | hbehind
  case inl =>
    have hfits := h.task
    rw [htask] at hfits
    obtain ⟨-, -, -, hentries⟩ := hfits
    refine h.append (hentries.read hsync fun boundary hmem => ?_).1 hreply
    rw [h.at.messageSeq]
    exact (h.kept boundary hmem).inside
  case inr =>
    obtain ⟨message, happend⟩ := h.append_behind htask hbehind hreply
    rw [happend]
    exact .failed message

/-- **The append of an entry of a recovery.** -/
theorem PublisherInvariant.appendRecovery (h : PublisherInvariant w cursor)
    {entry : BroadcasterRedisStreamEntry} {rest : List BroadcasterRedisStreamEntry}
    {targetStateVersion : UInt64} {reply : AppendReply}
    (htask : w.task = some (.recovery (entry :: rest) targetStateVersion))
    (hreply : reply.Possible w.log entry) :
    ∃ next, PublisherInvariant (w.appendRecovery entry rest targetStateVersion reply) next := by
  have hfits := h.task
  rw [htask] at hfits
  obtain ⟨hgate, hactive, hfresh, hentries⟩ := hfits
  have hfailed : ∀ message, PublisherInvariant
      { w with guard := w.guard.recordPublisherError message, task := none } cursor := by
    intro message
    exact h.frame rfl rfl (by simp) (by simp) (by simp)
      (fun hactive => absurd hactive (w.guard.recordPublisherError_mode _)) id trivial
  rw [PublisherWorld.appendRecovery.eq_def]
  -- the number is taken already when the log is one entry ahead of the publisher
  rcases h.tail with hsync | hbehind
  case inr =>
    obtain ⟨message, happend⟩ := h.append_behind htask hbehind hreply
    rw [happend]
    exact ⟨cursor, hfailed message⟩
  case inl =>
    have hkept : ∀ boundary ∈ w.boundaries,
        boundary.exclusiveMessageSeq.toNat ≤ cursor.messageSeq := by
      intro boundary hmem
      rw [h.at.messageSeq]
      exact (h.kept boundary hmem).inside
    obtain ⟨hseq, hversion, hstart, next, hread, hnext, hnextVersion, hrest⟩ :=
      hentries.read hsync hkept
    have hnewest : next.stateVersion ≤ w.guard.nextStateVersion.toNat := by
      rw [hnextVersion, hfresh.allocated]
    have hkind : ∀ boundary ∈ w.boundaries,
        boundary.exclusiveMessageSeq.toNat = w.log.length →
        entry.kind.isLive = true ∨ entry.kind = .recoveryStart := by
      intro boundary hmem hexclusive
      exact .inr (hstart boundary hmem (hexclusive.trans h.at.messageSeq.symm))
    have hnewer : entry.kind.advances = true →
        ∀ boundary ∈ w.boundaries, boundary.stateVersion < entry.stateVersion :=
      fun _ => hversion ▸ hfresh.boundary
    generalize happended : w.appendEntry entry reply = appended
    have hcases := h.append hseq hreply
    rw [happended] at hcases
    cases hcases with
    | failed message => exact ⟨cursor, hfailed message⟩
    | lost message =>
      refine ⟨next, h.snoc hread rfl rfl (by simp) hnewest (by simpa using h.committed) hkind
        hnewer (fun hclosed => absurd hclosed hgate) trivial
        (.inr ⟨by simpa using hsync.trans hnext.symm, by omega, fun hactive => ?_⟩)⟩
      exact absurd hactive (w.guard.recordPublisherError_mode _)
    | landed hlt =>
      have hsynced : (entry.messageSeq + 1).toNat = next.messageSeq + 1 := by
        rw [UInt64.toNat_add, UInt64.toNat_one, Nat.mod_eq_of_lt hlt, hseq, hnext]
      -- after the last entry the recovery is committed, before it the next one is due
      rcases hrest with ⟨rfl, hclosed⟩ | ⟨hne, hrest⟩
      · exact ⟨next, h.snoc hread rfl rfl rfl hnewest
          (le_of_eq (congrArg UInt64.toNat hfresh.allocated)) hkind hnewer (fun _ => hclosed)
          ⟨hclosed, hsynced, hgate⟩ (.inl hsynced)⟩
      · obtain ⟨second, rest, rfl⟩ := List.exists_cons_of_ne_nil hne
        exact ⟨next, h.snoc hread rfl rfl rfl hnewest h.committed hkind hnewer
          (fun hclosed => absurd hclosed hgate)
          ⟨hgate, hactive, ⟨hfresh.allocated, hfresh.committed, hfresh.boundary⟩,
            hrest _ hsynced⟩ (.inl hsynced)⟩

end

/-! ## Steps of the lease -/

section

variable {w : PublisherWorld Sim} {cursor : StreamCursor}

theorem PublisherInvariant.verifyWriterFence (h : PublisherInvariant w cursor)
    (hlock : lockIsFree w.task = true) (verified : Option String) :
    PublisherInvariant (w.verifyWriterFence verified) cursor := by
  rw [PublisherWorld.verifyWriterFence.eq_def]
  split
  case isFalse => exact h
  case isTrue hactive =>
    cases verified with
    | none => exact h.frame rfl rfl rfl rfl le_rfl id id (h.task.unlocked hlock id)
    | some message =>
      refine h.frame rfl rfl (by simp) (by simp) (by simp) (fun _ => hactive.1) id
        (h.task.unlocked hlock fun hsync => ?_)
      simpa [Synced] using hsync

/-- **The end of the stream** is adopted: a lost reply is made up for. -/
theorem PublisherInvariant.resync (h : PublisherInvariant w cursor)
    {guard : BroadcasterRedisPublisherState Sim}
    (hresync : resyncStreamTail w.guard w.log = .ok guard) :
    Synced guard cursor ∧ guard.committedStateVersion = w.guard.committedStateVersion ∧
      guard.nextStateVersion = w.guard.nextStateVersion := by
  rw [resyncStreamTail] at hresync
  have hlength := h.at.messageSeq
  cases hlast : w.log.getLast? with
  | none =>
    rw [hlast] at hresync
    obtain rfl := Except.ok.inj hresync
    refine ⟨h.tail.resolve_right fun hbehind => ?_, rfl, rfl⟩
    have hlanded := hbehind.landed
    rw [hlength, List.getLast?_eq_none_iff.mp hlast] at hlanded
    cases hlanded
  | some last =>
    simp only [hlast] at hresync
    rw [List.getLast?_eq_getElem?] at hlast
    have hlt := (List.getElem?_eq_some_iff.mp hlast).1
    have hseq := (accepted_of_readAll h.read).1.numbered _ last hlast
    -- the last entry of the log is older than the next number, or it is the unknown one
    rcases h.tail with hsync | hbehind
    · rw [if_pos (by rw [UInt64.lt_iff_toNat_lt, hsync]; omega)] at hresync
      obtain rfl := Except.ok.inj hresync
      exact ⟨hsync, rfl, rfl⟩
    · have hnext := hbehind.messageSeq
      rw [if_neg (by rw [UInt64.lt_iff_toNat_lt, hnext]; omega)] at hresync
      split at hresync
      case isFalse => cases hresync
      case isTrue hroom =>
        obtain rfl := Except.ok.inj hresync
        refine ⟨?_, rfl, rfl⟩
        rw [Synced, UInt64.toNat_add, UInt64.toNat_one, Nat.mod_eq_of_lt hroom]
        omega

/-- The lease is renewed, and the tail read again if it was in doubt. -/
theorem PublisherInvariant.renewLease (h : PublisherInvariant w cursor)
    (hlock : lockIsFree w.task = true) (renewed inspected : Option String) :
    PublisherInvariant (w.renewLease renewed inspected) cursor := by
  rw [PublisherWorld.renewLease.eq_def]
  split
  case h_1 => exact h
  case h_2 => exact h
  case h_3 => exact h.verifyWriterFence hlock renewed
  case h_4 hunhealthy =>
    split
    case h_1 message =>
      split
      · exact h.frame rfl rfl rfl rfl le_rfl (by rintro ⟨⟩) id (h.task.unlocked hlock id)
      · exact h
    case h_2 => exact h
    case h_3 =>
      split
      case h_1 => exact h
      case h_2 guard hresync =>
        obtain ⟨hsync, hcommitted, hversion⟩ := h.resync hresync
        exact { read := h.read
                version := hversion ▸ h.version
                committed := hcommitted ▸ hversion ▸ h.committed
                gate := h.gate
                task := h.task.unlocked hlock fun _ => hsync
                tail := .inl hsync
                kept := h.kept
                older := hversion ▸ h.older }

end

/-! ## Runs -/

section

variable {json : EnvelopeJson Sim} {config : BroadcasterRedisPublisherConfig}
  {digestBytes : String → String} {maxBufferedNativeBlocks : Nat}
  {errorText : PublishError → String} {w w' : PublisherWorld Sim} {cursor : StreamCursor}

/-- The promotion has written the first entry. -/
theorem PublisherInvariant.init (h : PublisherInit config w) :
    PublisherInvariant w { messageSeq := 1, stateVersion := 0, inTransaction := false } := by
  obtain ⟨before, generation, hguard⟩ := h.guard
  obtain ⟨marker, stateVersion, hlog, hmarker⟩ := h.marker
  have hread : StreamCursor.readAll w.log =
      some { messageSeq := 1, stateVersion := 0, inTransaction := false } := by
    have hkind : StreamCursor.start.read marker =
        some { messageSeq := 1, stateVersion := 0, inTransaction := false } := by
      have hseq : marker.messageSeq.toNat = StreamCursor.start.messageSeq + 1 := hmarker.messageSeq
      rw [StreamCursor.read, if_neg (not_not.mpr hseq), hmarker.kind]
      rfl
    rw [hlog]
    exact StreamCursor.readAll_append (show StreamCursor.readAll [] = _ from rfl) hkind
  have hsync : Synced w.guard { messageSeq := 1, stateVersion := 0, inTransaction := false } := by
    rw [hguard]
    rfl
  -- before its first boundary, which is taken like every later one
  have hstart : PublisherInvariant { w with boundaries := [], task := none }
      { messageSeq := 1, stateVersion := 0, inTransaction := false } :=
    { read := hread
      version := Nat.zero_le _
      committed := by rw [hguard]; exact le_rfl
      gate := fun _ => rfl
      task := trivial
      tail := .inl hsync
      kept := by rintro _ ⟨⟩
      older := by rintro _ ⟨⟩ }
  have hboundary := (hstart.takeBoundary rfl (.inl hsync) :
    PublisherInvariant (PublisherWorld.takeBoundary config _) _)
  exact { read := hread
          version := Nat.zero_le _
          committed := hstart.committed
          gate := fun _ => rfl
          task := by
            rcases h.task with htask | ⟨handoff, htask⟩ <;> rw [htask]
            · exact ⟨rfl, hsync⟩
            · exact ⟨rfl, hsync⟩
          tail := .inl hsync
          kept := by rw [h.boundaries]; exact hboundary.kept
          older := by rw [h.boundaries]; exact hboundary.older }

/-- **One step.** -/
theorem PublisherInvariant.step (h : PublisherInvariant w cursor)
    (hstep : PublisherStep json config digestBytes maxBufferedNativeBlocks errorText w w') :
    ∃ next, PublisherInvariant w' next := by
  cases hstep with
  | beginRecovery backends cancelled hcoordinator =>
    exact ⟨cursor, h.frame rfl rfl rfl rfl le_rfl id (by rintro ⟨⟩)
      (h.task.opens fun _ => Option.some_ne_none _)⟩
  | cancel => exact ⟨cursor, h.frame rfl rfl rfl rfl le_rfl id id h.task⟩
  | queue payload hgate =>
    have hopen : (w.gate.accept maxBufferedNativeBlocks payload).2.openRecoveryId =
        w.gate.openRecoveryId := by
      rw [PublisherRecoveryGate.accept.eq_def]
      split
      · rfl
      · dsimp only
        split <;> rfl
    rw [PublisherWorld.queue]
    generalize w.gate.accept maxBufferedNativeBlocks payload = accepted at hopen
    obtain ⟨_ | _, gate⟩ := accepted
    all_goals
      exact ⟨cursor, h.frame rfl rfl rfl rfl le_rfl id (fun hclosed => hopen ▸ hclosed)
        (h.task.opens fun hgate => by rw [hopen]; exact hgate)⟩
  | publish payload currentTimeMs late hgate htask =>
    exact ⟨cursor, h.publishAccepted hgate htask payload currentTimeMs late⟩
  | appended reply htask hreply => exact h.appendLive htask hreply
  | drainHandoff htask => exact ⟨cursor, h.drainStartupHandoff htask⟩
  | handoffNext currentTimeMs htask => exact ⟨cursor, h.drainHandoffNext htask currentTimeMs⟩
  | resetGate htask =>
    have hfits := h.task
    rw [htask] at hfits
    exact ⟨cursor, { read := h.read, version := h.version, committed := h.committed
                     gate := fun _ => hfits.1, task := trivial, tail := .inl hfits.2, kept := h.kept
                     older := h.older }⟩
  | startRecovery transaction clock htask =>
    exact ⟨cursor, h.startRecovery htask transaction clock⟩
  | recovered reply htask _ hreply => exact h.appendRecovery htask hreply
  | cancelled htask _ => exact ⟨cursor, h.frame rfl rfl rfl rfl le_rfl id id trivial⟩
  | queueNext currentTimeMs htask => exact ⟨cursor, h.drainQueueNext htask currentTimeMs⟩
  | renewLease renewed inspected hlock => exact ⟨cursor, h.renewLease hlock renewed inspected⟩
  | verify verified hlock => exact ⟨cursor, h.verifyWriterFence hlock verified⟩
  | boundary hlock hactive =>
    exact ⟨cursor, h.takeBoundary hlock (h.tail.imp id fun hbehind => ⟨hactive.1, hbehind⟩)⟩
  | selfFence reason hlock =>
    exact ⟨cursor, h.frame rfl rfl rfl rfl le_rfl (by rintro ⟨⟩) id (h.task.unlocked hlock id)⟩

end

end TychoSimulationServer
