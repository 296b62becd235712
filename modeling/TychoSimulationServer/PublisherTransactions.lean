import TychoSimulationServer.PublisherStream
import TychoSimulationServer.RecoveryTransaction

/-!
# The transactions of one publisher

All entries of a recovery are built before the first one is appended, and they are appended in
order. A recovery may stop anywhere: it is cancelled, or an append fails. So what a reader finds in
the stream is the first entries of transactions, and it must not take the first entries for all.

* **Sent**: in front of any entry of a recovery stand the entries of its transaction that come
  before it, and nothing else, back to the start.
* **Whole**: a commit stands behind all other entries of its transaction: a start, a chunk for each
  fragment of the replacement, and a catch-up for each update of Buffer A.

The invariant carries what the task at hand has appended. It needs nothing of the numbers: that an
append lands where the publisher believes is the business of the stream's own invariant.
-/

namespace TychoSimulationServer

open Fallible

variable {Sim : Type}

/-! ## Transactions in a stream

A commit in the log closes the entries of one transaction, all of them and in a row. That is said of
lists, so that appends can only break it at the end. -/

section

variable (json : EnvelopeJson Sim) (config : BroadcasterRedisPublisherConfig)
  (digestBytes : String → String) (streamId : String)

/-- A stream ends with the first entries that were built for a transaction. -/
def EndsWithSent (log sent rest : List BroadcasterRedisStreamEntry) : Prop :=
  ∃ (messageSeq targetStateVersion : UInt64) (transaction : BroadcasterRecoveryTransaction Sim)
    (clock : RecoveryClock),
    recoveryEntries json config digestBytes streamId messageSeq targetStateVersion transaction clock =
      .ok (sent ++ rest) ∧ sent <:+ log

/-- **Whole transactions.** Up to an entry of a recovery the stream ends with the first entries of
its transaction; up to a commit it ends with all of them. -/
def WholeTransactions (log : List BroadcasterRedisStreamEntry) : Prop :=
  ∀ (i : Nat) (entry : BroadcasterRedisStreamEntry), log[i]? = some entry →
    entry.kind.isRecovery = true → ∃ sent rest : List BroadcasterRedisStreamEntry,
      EndsWithSent json config digestBytes streamId (log.take (i + 1)) (sent ++ [entry]) rest ∧
      (entry.kind = .recoveryCommit ↔ rest = [])

/-- A stream ends with all that was built for a transaction: its start, a chunk for each fragment of
the replacement, a catch-up for each update of Buffer A, and its commit. -/
def ClosesTransaction (log : List BroadcasterRedisStreamEntry) : Prop :=
  ∃ (messageSeq targetStateVersion : UInt64) (transaction : BroadcasterRecoveryTransaction Sim)
    (fragments : List PreparedRecoveryFragment) (built : List (BroadcasterRedisStreamEntry × Nat))
    (commitWatermark : UInt64) (start : BroadcasterRedisStreamEntry)
    (caughtUp : List BroadcasterRedisStreamEntry) (commit : BroadcasterRedisStreamEntry),
    EntriesBuilt json config digestBytes streamId messageSeq targetStateVersion transaction fragments
      built commitWatermark start caughtUp commit ∧
    start :: (built.map (·.1) ++ caughtUp) ++ [commit] <:+ log

/-- **The invariant**: the entries that the task at hand has appended end the stream. -/
structure TransactionsKept (w : PublisherWorld Sim) : Prop where
  stream : w.guard.streamId = streamId
  whole : WholeTransactions json config digestBytes streamId w.log
  sent : ∀ entries targetStateVersion, w.task = some (.recovery entries targetStateVersion) →
    ∃ sent, EndsWithSent json config digestBytes streamId w.log sent entries

end

/-- No entry of a recovery is appended next. -/
def PublisherWorld.NotRecovering (w : PublisherWorld Sim) : Prop :=
  ∀ entries targetStateVersion, w.task ≠ some (.recovery entries targetStateVersion)

section

variable {json : EnvelopeJson Sim} {config : BroadcasterRedisPublisherConfig}
  {digestBytes : String → String} {streamId : String} {maxBufferedNativeBlocks : Nat}
  {errorText : PublishError → String} {w w' : PublisherWorld Sim} {cursor : StreamCursor}

/-- Only the commit is the last entry of a recovery. -/
theorem RecoveryTail.commit_iff {targetStateVersion : UInt64} {messageSeq : Nat}
    {before rest : List BroadcasterRedisStreamEntry} {entry : BroadcasterRedisStreamEntry}
    (h : RecoveryTail targetStateVersion messageSeq (before ++ entry :: rest)) :
    entry.kind = .recoveryCommit ↔ rest = [] := by
  induction before generalizing messageSeq with
  | nil =>
    cases h with
    | commit hentry => exact ⟨fun _ => rfl, fun _ => hentry.kind⟩
    | inside hkind hentry hrest =>
      refine ⟨fun hcommit => ?_, fun hnil => ?_⟩
      · rw [← hentry.kind, hcommit] at hkind
        cases hkind
      · rw [hnil] at hrest
        cases hrest
  | cons first before ih =>
    rw [List.cons_append] at h
    generalize htail : before ++ entry :: rest = tail at h
    cases h with
    | commit => exact absurd htail (by simp)
    | inside _ _ hrest => exact ih (htail ▸ hrest)

/-- The entries of a transaction, with its commit at the end. -/
theorem recoveryEntries_commit_iff {messageSeq targetStateVersion : UInt64}
    {transaction : BroadcasterRecoveryTransaction Sim} {clock : RecoveryClock}
    {sent rest : List BroadcasterRedisStreamEntry} {entry : BroadcasterRedisStreamEntry}
    (h : recoveryEntries json config digestBytes streamId messageSeq targetStateVersion transaction
      clock = .ok (sent ++ entry :: rest)) :
    entry.kind = .recoveryCommit ↔ rest = [] := by
  obtain ⟨start, tail, hentries, hstart, htail⟩ := recoveryEntries_numbered h
  cases sent with
  | nil =>
    obtain ⟨rfl, rfl⟩ := List.cons_eq_cons.mp hentries
    refine ⟨fun hcommit => ?_, fun hnil => ?_⟩
    · rw [hstart.kind] at hcommit
      cases hcommit
    · rw [hnil] at htail
      cases htail
  | cons first sent =>
    obtain ⟨-, rfl⟩ := List.cons_eq_cons.mp hentries
    exact htail.commit_iff

/-- What stands in front of a commit is a whole transaction. -/
theorem WholeTransactions.closes {log : List BroadcasterRedisStreamEntry}
    (h : WholeTransactions json config digestBytes streamId log) {i : Nat}
    {entry : BroadcasterRedisStreamEntry} (hi : log[i]? = some entry)
    (hcommit : entry.kind = .recoveryCommit) :
    ClosesTransaction json config digestBytes streamId (log.take (i + 1)) := by
  obtain ⟨sent, rest, ⟨_, _, transaction, _, hentries, hends⟩, hlast⟩ :=
    h i entry hi (by rw [hcommit]; rfl)
  obtain rfl := hlast.mp hcommit
  rw [List.append_nil] at hentries
  obtain ⟨_, _, _, _, _, _, heq, hbuilt⟩ := recoveryEntries_built hentries
  exact ⟨_, _, transaction, _, _, _, _, _, _, hbuilt, heq ▸ hends⟩

/-! ## Steps -/

/-- The stream has one more entry. -/
theorem WholeTransactions.snoc {log : List BroadcasterRedisStreamEntry}
    {entry : BroadcasterRedisStreamEntry}
    (h : WholeTransactions json config digestBytes streamId log)
    (hentry : entry.kind.isRecovery = true → ∃ sent rest,
      EndsWithSent json config digestBytes streamId (log ++ [entry]) (sent ++ [entry]) rest) :
    WholeTransactions json config digestBytes streamId (log ++ [entry]) := by
  intro i e hi hkind
  rcases getElem?_snoc.mp hi with hi | ⟨rfl, rfl⟩
  · have hlt : i + 1 ≤ log.length := (List.getElem?_eq_some_iff.mp hi).1
    rw [List.take_append_of_le_length hlt]
    exact h i e hi hkind
  · obtain ⟨sent, rest, hends⟩ := hentry hkind
    rw [List.take_of_length_le (by rw [List.length_append, List.length_singleton])]
    refine ⟨sent, rest, hends, ?_⟩
    obtain ⟨messageSeq, targetStateVersion, transaction, clock, hentries, -⟩ := hends
    rw [List.append_assoc, List.singleton_append] at hentries
    exact recoveryEntries_commit_iff hentries

/-- **Steps that append nothing** and begin no transaction. -/
theorem TransactionsKept.frame (h : TransactionsKept json config digestBytes streamId w)
    (hlog : w'.log = w.log) (hstream : w'.guard.streamId = w.guard.streamId)
    (htask : w'.task = w.task ∨ w'.NotRecovering) :
    TransactionsKept json config digestBytes streamId w' where
  stream := hstream.trans h.stream
  whole := by
    rw [hlog]
    exact h.whole
  sent := by
    intro entries targetStateVersion hrecovery
    rcases htask with hsame | hnot
    · rw [hlog]
      exact h.sent entries targetStateVersion (hsame.symm.trans hrecovery)
    · exact absurd hrecovery (hnot entries targetStateVersion)

@[simp] theorem recordPublisherError_streamId (state : BroadcasterRedisPublisherState Sim)
    (message : String) : (state.recordPublisherError message).streamId = state.streamId := by
  rw [BroadcasterRedisPublisherState.recordPublisherError]
  split <;> rfl

theorem prepareLivePayload_streamId {state state' : BroadcasterRedisPublisherState Sim}
    {payload : BroadcasterPayload Sim} {currentTimeMs : UInt64}
    {result : Except PublishError PreparedPayload}
    (h : prepareLivePayload json config state payload currentTimeMs = (result, state')) :
    state'.streamId = state.streamId := by
  rw [prepareLivePayload] at h
  split at h
  case isFalse =>
    simp only [Prod.mk.injEq] at h
    rw [← h.2]
  case isTrue =>
    split at h
    case h_1 =>
      simp only [Prod.mk.injEq] at h
      rw [← h.2]
    case h_2 stateVersion allocated hallocate =>
      obtain ⟨rfl, -⟩ := allocateStateVersion_eq_ok hallocate
      simp only [Prod.mk.injEq] at h
      rw [← h.2]

/-- **The append of a live payload.** -/
theorem TransactionsKept.appendLive (h : TransactionsKept json config digestBytes streamId w)
    (hinvariant : PublisherInvariant w cursor) {prepared : PreparedPayload}
    {payload : BroadcasterPayload Sim} {origin : LiveOrigin Sim} {reply : AppendReply}
    (htask : w.task = some (.append prepared payload origin))
    (hreply : reply.Possible w.log prepared.entry) :
    TransactionsKept json config digestBytes streamId
      (w.appendLive prepared payload origin reply) := by
  have hfits := hinvariant.task
  rw [htask] at hfits
  obtain ⟨-, -, hprepared, -⟩ := hfits
  have hgrown : WholeTransactions json config digestBytes streamId (w.log ++ [prepared.entry]) := by
    refine h.whole.snoc fun hrecovery => ?_
    have hlive := hprepared.live
    cases hkind : prepared.entry.kind <;> rw [hkind] at hlive hrecovery <;> contradiction
  rw [PublisherWorld.appendLive.eq_def]
  generalize happended : w.appendEntry prepared.entry reply = appended
  have hcases := hinvariant.append hprepared.messageSeq hreply
  rw [happended] at hcases
  cases hcases with
  | landed hlt =>
    refine ⟨h.stream, hgrown, ?_⟩
    cases origin <;> rintro _ _ ⟨⟩
  | lost message =>
    cases origin with
    | accepted => exact ⟨(recordPublisherError_streamId _ _).trans h.stream, hgrown, by rintro _ _ ⟨⟩⟩
    | handoff rest => exact ⟨h.stream, hgrown, by rintro _ _ ⟨⟩⟩
    | queued => exact ⟨h.stream, hgrown, by rintro _ _ ⟨⟩⟩
  | failed message =>
    cases origin with
    | accepted => exact h.frame rfl (recordPublisherError_streamId _ _) (.inr (by rintro _ _ ⟨⟩))
    | handoff rest => exact h.frame rfl rfl (.inr (by rintro _ _ ⟨⟩))
    | queued => exact h.frame rfl rfl (.inr (by rintro _ _ ⟨⟩))

theorem TransactionsKept.publishAccepted (h : TransactionsKept json config digestBytes streamId w)
    (payload : BroadcasterPayload Sim) (currentTimeMs : UInt64) (late : Bool) :
    TransactionsKept json config digestBytes streamId (w.publishAccepted json config
      maxBufferedNativeBlocks errorText payload currentTimeMs late) := by
  rw [PublisherWorld.publishAccepted.eq_def]
  split
  case h_1 => exact h.frame rfl rfl (.inl rfl)
  case h_2 => exact h
  case h_3 => exact h
  case h_4 =>
    split
    case isTrue => exact h
    case isFalse =>
      split
      case h_1 => exact h
      case h_2 =>
        split
        case h_1 hprepare =>
          exact h.frame rfl (prepareLivePayload_streamId hprepare) (.inr (by rintro _ _ ⟨⟩))
        case h_2 hprepare => exact h.frame rfl (prepareLivePayload_streamId hprepare) (.inl rfl)
        case h_3 hprepare =>
          refine h.frame rfl ?_ (.inl rfl)
          rw [recordPublisherError_streamId]
          exact prepareLivePayload_streamId hprepare

theorem TransactionsKept.drainHandoffNext (h : TransactionsKept json config digestBytes streamId w)
    (payloads : List (BroadcasterPayload Sim)) (currentTimeMs : UInt64) :
    TransactionsKept json config digestBytes streamId
      (w.drainHandoffNext json config errorText payloads currentTimeMs) := by
  rw [PublisherWorld.drainHandoffNext.eq_def]
  split
  case h_1 => exact h.frame rfl rfl (.inr (by rintro _ _ ⟨⟩))
  case h_2 =>
    split
    case h_1 => exact h.frame rfl rfl (.inr (by rintro _ _ ⟨⟩))
    case h_2 =>
      split
      all_goals
        rename_i hprepare
        have hstream := prepareLivePayload_streamId hprepare
        exact h.frame rfl hstream (.inr (by rintro _ _ ⟨⟩))

theorem TransactionsKept.drainQueueNext (h : TransactionsKept json config digestBytes streamId w)
    (currentTimeMs : UInt64) :
    TransactionsKept json config digestBytes streamId
      (w.drainQueueNext json config currentTimeMs) := by
  rw [PublisherWorld.drainQueueNext.eq_def]
  split
  case h_1 => exact h.frame rfl rfl (.inr (by rintro _ _ ⟨⟩))
  case h_2 =>
    split
    case h_1 => exact h.frame rfl rfl (.inr (by rintro _ _ ⟨⟩))
    case h_2 =>
      split
      all_goals
        rename_i hprepare
        exact h.frame rfl (prepareLivePayload_streamId hprepare) (.inr (by rintro _ _ ⟨⟩))

/-- All entries of a transaction are built, and none is appended. -/
theorem TransactionsKept.startRecovery (h : TransactionsKept json config digestBytes streamId w)
    (transaction : BroadcasterRecoveryTransaction Sim) (clock : RecoveryClock) :
    TransactionsKept json config digestBytes streamId
      (w.startRecovery json config digestBytes transaction clock) := by
  rw [PublisherWorld.startRecovery.eq_def]
  split
  case isFalse => exact h
  case isTrue =>
    split
    case h_1 => exact h
    case h_2 targetStateVersion guard hallocate =>
      obtain ⟨rfl, -⟩ := allocateStateVersion_eq_ok hallocate
      split
      case h_1 => exact h.frame rfl rfl (.inl rfl)
      case h_2 entries hentries =>
        refine ⟨h.stream, h.whole, ?_⟩
        rintro _ _ ⟨⟩
        exact ⟨[], _, _, transaction, clock, h.stream ▸ hentries, List.nil_suffix⟩

/-- **The append of an entry of a recovery.** -/
theorem TransactionsKept.appendRecovery (h : TransactionsKept json config digestBytes streamId w)
    (hinvariant : PublisherInvariant w cursor) {entry : BroadcasterRedisStreamEntry}
    {rest : List BroadcasterRedisStreamEntry} {targetStateVersion : UInt64} {reply : AppendReply}
    (htask : w.task = some (.recovery (entry :: rest) targetStateVersion))
    (hreply : reply.Possible w.log entry) :
    TransactionsKept json config digestBytes streamId
      (w.appendRecovery entry rest targetStateVersion reply) := by
  obtain ⟨sent, messageSeq, version, transaction, clock, hentries, hsent⟩ := h.sent _ _ htask
  have hends : EndsWithSent json config digestBytes streamId (w.log ++ [entry]) (sent ++ [entry])
      rest := by
    refine ⟨messageSeq, version, transaction, clock, ?_, ?_⟩
    · rw [List.append_assoc, List.singleton_append]
      exact hentries
    · obtain ⟨before, hbefore⟩ := hsent
      exact ⟨before, by rw [← List.append_assoc, hbefore]⟩
  have hgrown : WholeTransactions json config digestBytes streamId (w.log ++ [entry]) :=
    h.whole.snoc fun _ => ⟨sent, rest, hends⟩
  rw [PublisherWorld.appendRecovery.eq_def]
  generalize happended : w.appendEntry entry reply = appended
  have hcases := hinvariant.appended_recovery htask hreply
  rw [happended] at hcases
  cases hcases with
  | failed message => exact h.frame rfl (recordPublisherError_streamId _ _) (.inr (by rintro _ _ ⟨⟩))
  | lost message => exact ⟨(recordPublisherError_streamId _ _).trans h.stream, hgrown, by rintro _ _ ⟨⟩⟩
  | landed hlt =>
    cases rest with
    | nil => exact ⟨h.stream, hgrown, by rintro _ _ ⟨⟩⟩
    | cons next rest =>
      refine ⟨h.stream, hgrown, ?_⟩
      rintro _ _ ⟨⟩
      exact ⟨_, hends⟩

theorem TransactionsKept.verifyWriterFence (h : TransactionsKept json config digestBytes streamId w)
    (verified : Option String) :
    TransactionsKept json config digestBytes streamId (w.verifyWriterFence verified) := by
  rw [PublisherWorld.verifyWriterFence.eq_def]
  split
  case isFalse => exact h
  case isTrue =>
    cases verified with
    | none => exact h.frame rfl rfl (.inl rfl)
    | some message => exact h.frame rfl (recordPublisherError_streamId _ _) (.inl rfl)

theorem resyncStreamTail_streamId {state state' : BroadcasterRedisPublisherState Sim}
    {log : List BroadcasterRedisStreamEntry} (h : resyncStreamTail state log = .ok state') :
    state'.streamId = state.streamId := by
  rw [resyncStreamTail.eq_def] at h
  split at h
  case h_1 =>
    obtain rfl := Except.ok.inj h
    rfl
  case h_2 =>
    split at h
    case isTrue =>
      obtain rfl := Except.ok.inj h
      rfl
    case isFalse =>
      split at h
      case isFalse => cases h
      case isTrue =>
        obtain rfl := Except.ok.inj h
        rfl

theorem TransactionsKept.renewLease (h : TransactionsKept json config digestBytes streamId w)
    (renewed inspected : Option String) :
    TransactionsKept json config digestBytes streamId (w.renewLease renewed inspected) := by
  rw [PublisherWorld.renewLease.eq_def]
  split
  case h_1 => exact h
  case h_2 => exact h
  case h_3 => exact h.verifyWriterFence renewed
  case h_4 =>
    split
    case h_1 =>
      split
      · exact h.frame rfl rfl (.inl rfl)
      · exact h
    case h_2 => exact h
    case h_3 =>
      split
      case h_1 => exact h
      case h_2 guard hresync =>
        have hstream := resyncStreamTail_streamId hresync
        exact h.frame rfl hstream (.inl rfl)

/-! ## Runs -/

/-- A generation starts without a recovery. -/
theorem TransactionsKept.init (h : PublisherInit config w) :
    TransactionsKept json config digestBytes w.guard.streamId w := by
  obtain ⟨marker, stateVersion, hlog, hmarker⟩ := h.marker
  refine ⟨rfl, fun i entry hi hrecovery => ?_, fun entries targetStateVersion htask => ?_⟩
  · rw [hlog] at hi
    obtain rfl := List.mem_singleton.mp (List.mem_of_getElem? hi)
    rw [hmarker.kind] at hrecovery
    cases hrecovery
  · rcases h.task with hrecovering | ⟨handoff, hpromoted⟩
    · cases htask.symm.trans hrecovering
    · cases htask.symm.trans hpromoted

/-- **One step.** -/
theorem TransactionsKept.step (h : TransactionsKept json config digestBytes streamId w)
    (hinvariant : PublisherInvariant w cursor)
    (hstep : PublisherStep json config digestBytes maxBufferedNativeBlocks errorText w w') :
    TransactionsKept json config digestBytes streamId w' := by
  cases hstep with
  | beginRecovery backends cancelled hcoordinator => exact h.frame rfl rfl (.inl rfl)
  | cancel => exact h.frame rfl rfl (.inl rfl)
  | queue payload hgate =>
    rw [PublisherWorld.queue]
    generalize w.gate.accept maxBufferedNativeBlocks payload = accepted
    obtain ⟨_ | _, gate⟩ := accepted
    · exact h.frame rfl rfl (.inl rfl)
    · exact h.frame rfl rfl (.inl rfl)
  | publish payload currentTimeMs late hgate htask => exact h.publishAccepted payload currentTimeMs late
  | appended reply htask hreply => exact h.appendLive hinvariant htask hreply
  | drainHandoff htask =>
    rw [PublisherWorld.drainStartupHandoff]
    split
    · exact h.frame rfl rfl (.inr (by rintro _ _ ⟨⟩))
    · exact h.frame rfl rfl (.inr (by rintro _ _ ⟨⟩))
  | handoffNext currentTimeMs htask => exact h.drainHandoffNext _ currentTimeMs
  | resetGate htask => exact h.frame rfl rfl (.inr (by rintro _ _ ⟨⟩))
  | startRecovery transaction clock htask => exact h.startRecovery transaction clock
  | recovered reply htask _ hreply => exact h.appendRecovery hinvariant htask hreply
  | cancelled htask _ => exact h.frame rfl rfl (.inr (by rintro _ _ ⟨⟩))
  | queueNext currentTimeMs htask => exact h.drainQueueNext currentTimeMs
  | renewLease renewed inspected hlock => exact h.renewLease renewed inspected
  | verify verified hlock => exact h.verifyWriterFence verified
  | boundary hlock hactive => exact h.frame rfl rfl (.inl rfl)
  | selfFence reason hlock => exact h.frame rfl rfl (.inl rfl)

/-- **The stream of one publisher.** In every state of every run the readers of the generation
accept the stream, what it has of a recovery are the first entries of one transaction, a commit
closes a whole transaction, and every replay boundary that was handed out is kept. -/
theorem publisher_stream_accepted
    (h : (publisherMachine json config digestBytes maxBufferedNativeBlocks errorText).Reachable w) :
    StreamAccepted w.log ∧
      WholeTransactions json config digestBytes w.guard.streamId w.log ∧
      (∀ (i : Nat) (entry : BroadcasterRedisStreamEntry), w.log[i]? = some entry →
        entry.kind = .recoveryCommit →
        ClosesTransaction json config digestBytes w.guard.streamId (w.log.take (i + 1))) ∧
      ∀ boundary ∈ w.boundaries, BoundaryKept w.log boundary := by
  have hrun : (∃ cursor, PublisherInvariant w cursor) ∧
      ∃ streamId, TransactionsKept json config digestBytes streamId w := by
    refine h.invariant (P := fun w => (∃ cursor, PublisherInvariant w cursor) ∧
      ∃ streamId, TransactionsKept json config digestBytes streamId w)
      (fun w hinit => ⟨⟨_, .init hinit⟩, _, .init hinit⟩) ?_
    rintro w w' ⟨⟨cursor, hinvariant⟩, streamId, hkept⟩ hstep
    exact ⟨hinvariant.step hstep, streamId, hkept.step hinvariant hstep⟩
  obtain ⟨⟨cursor, hinvariant⟩, streamId, hkept⟩ := hrun
  have hwhole := hkept.stream ▸ hkept.whole
  exact ⟨(accepted_of_readAll hinvariant.read).1, hwhole, fun _ _ => hwhole.closes, hinvariant.kept⟩

end

/-!
## A run

A publisher of a fresh generation sends the recovery with the book. The reply to its commit is lost,
so the publisher reports an error; but the transaction is whole in the stream, and the renewal of the
lease finds its end there.
-/

section

variable {json : EnvelopeJson Sim} {config : BroadcasterRedisPublisherConfig}
  {digestBytes : String → String} {maxBufferedNativeBlocks : Nat}
  {errorText : PublishError → String} {w : PublisherWorld Sim}

/-- The entries of an allowed recovery are built. -/
theorem startRecovery_eq {transaction : BroadcasterRecoveryTransaction Sim} {clock : RecoveryClock}
    {targetStateVersion : UInt64} {guard : BroadcasterRedisPublisherState Sim}
    {entries : List BroadcasterRedisStreamEntry}
    (hopen : w.gate.openRecoveryId = some transaction.recoveryId)
    (hcancelled : w.gate.cancelled = false) (hactive : w.guard.IsActive)
    (hnamed : transaction.replacementJson ≠ "")
    (hversion : w.guard.allocateStateVersion = .ok (targetStateVersion, guard))
    (hentries : recoveryEntries json config digestBytes guard.streamId guard.nextMessageSeq
      targetStateVersion transaction clock = .ok entries) :
    w.startRecovery json config digestBytes transaction clock =
      { w with guard, task := some (.recovery entries targetStateVersion) } := by
  rw [PublisherWorld.startRecovery, if_pos ⟨hopen, hcancelled, hactive, hnamed⟩, hversion]
  simp only [hentries]

/-- Redis answers the append of an entry, and it is not the last one. -/
theorem appendRecovery_lands {entry : BroadcasterRedisStreamEntry}
    {rest : List BroadcasterRedisStreamEntry} {targetStateVersion : UInt64} (hrest : rest ≠ [])
    (hseq : entry.messageSeq = w.guard.nextMessageSeq) (hlt : entry.messageSeq.toNat + 1 < 2 ^ 64) :
    w.appendRecovery entry rest targetStateVersion ⟨true, none⟩ =
      { w with
        guard := w.guard.recordAppendSuccess (w.guard.nextMessageSeq + 1)
        log := w.log ++ [entry], task := some (.recovery rest targetStateVersion) } := by
  obtain ⟨next, rest, rfl⟩ := List.exists_cons_of_ne_nil hrest
  rw [PublisherWorld.appendRecovery, PublisherWorld.appendEntry, if_neg (not_not.mpr hseq),
    if_pos hlt, hseq]
  rfl

/-- Redis answers the appends of some entries of a recovery, and more are to come. -/
theorem recovered_steps {sent rest : List BroadcasterRedisStreamEntry} {targetStateVersion : UInt64}
    (htask : w.task = some (.recovery (sent ++ rest) targetStateVersion)) (hrest : rest ≠ [])
    (hcancelled : w.gate.cancelled = false) (herror : w.guard.lastError = none)
    (hseqs : sent.map (·.messageSeq) =
      (List.range sent.length).map fun i => w.guard.nextMessageSeq + .ofNat i)
    (hroom : w.guard.nextMessageSeq.toNat + sent.length < 2 ^ 64)
    (hbehind : ∀ earlier ∈ w.log, earlier.messageSeq < w.guard.nextMessageSeq) :
    (publisherMachine json config digestBytes maxBufferedNativeBlocks errorText).Steps w
      { w with
        guard := w.guard.recordAppendSuccess (w.guard.nextMessageSeq + .ofNat sent.length)
        log := w.log ++ sent, task := some (.recovery rest targetStateVersion) } := by
  induction sent generalizing w with
  | nil =>
    obtain ⟨guard, gate, nextRecoveryId, task, log, boundaries, trace⟩ := w
    obtain rfl : task = _ := htask
    have hguard : guard.recordAppendSuccess (guard.nextMessageSeq + 0) = guard := by
      rw [BroadcasterRedisPublisherState.recordAppendSuccess, UInt64.add_zero, ← herror]
    rw [List.append_nil]
    exact hguard.symm ▸ .refl
  | cons entry sent ih =>
    rw [List.length_cons] at hroom
    rw [List.map_cons, List.length_cons, List.range_succ_eq_map, List.map_cons, List.map_map,
      List.cons_eq_cons] at hseqs
    have hseq : entry.messageSeq = w.guard.nextMessageSeq := hseqs.1.trans (UInt64.add_zero _)
    have hnext : (w.guard.nextMessageSeq + 1).toNat = w.guard.nextMessageSeq.toNat + 1 := by
      rw [UInt64.toNat_add, UInt64.toNat_one, Nat.mod_eq_of_lt (by omega)]
    have hadd : ∀ i : Nat, w.guard.nextMessageSeq + 1 + .ofNat i =
        w.guard.nextMessageSeq + .ofNat (i + 1) := fun i => by
      rw [UInt64.ofNat_add, UInt64.add_assoc, UInt64.add_comm (.ofNat i)]
      rfl
    set w' : PublisherWorld Sim := { w with
      guard := w.guard.recordAppendSuccess (w.guard.nextMessageSeq + 1)
      log := w.log ++ [entry], task := some (.recovery (sent ++ rest) targetStateVersion) } with hw'
    have hstep : PublisherStep json config digestBytes maxBufferedNativeBlocks errorText w w' := by
      rw [hw', ← appendRecovery_lands (List.append_ne_nil_of_right_ne_nil _ hrest) hseq
        (by rw [hseq]; omega)]
      exact .recovered ⟨true, none⟩ htask hcancelled
        ⟨fun _ earlier hmem => hseq ▸ hbehind earlier hmem, fun _ => .inl rfl⟩
    have hrun := ih (w := w') rfl hcancelled rfl
      (hseqs.2.trans (List.map_congr_left fun i _ => (hadd i).symm))
      (show (w.guard.nextMessageSeq + 1).toNat + sent.length < 2 ^ 64 by omega) ?_
    · rw [show w'.guard.nextMessageSeq + .ofNat sent.length = _ from hadd sent.length,
        show w'.log ++ sent = _ from List.append_assoc ..] at hrun
      exact .head hstep hrun
    · intro earlier hmem
      rw [UInt64.lt_iff_toNat_lt]
      refine lt_of_le_of_lt ?_ (hnext ▸ Nat.lt_succ_self _ : w.guard.nextMessageSeq.toNat < _)
      rcases List.mem_append.mp hmem with hmem | hmem
      · exact le_of_lt (UInt64.lt_iff_toNat_lt.mp (hbehind earlier hmem))
      · rw [List.mem_singleton.mp hmem, hseq]

end

/-- A publisher that was promoted to the fifth generation, with nothing to hand off. -/
def promotedPublisher : PublisherWorld Sim :=
  let guard : BroadcasterRedisPublisherState Sim :=
    { mode := .passive, generation := 0, streamId := "", snapshotId := "", nextMessageSeq := 1
      committedStateVersion := 0, nextStateVersion := 0, lastError := none
      startupHandoff := some ⟨1, [], ∅, false, true⟩ }
  let guard := guard.activateGeneration 1 5
  { guard, gate := .closed, nextRecoveryId := 1, task := some (.promoted ⟨1, []⟩)
    log := [
      { schemaVersion := redisStreamSchemaVersion, chainId := 1, streamId := "chain-1-stream-5"
        messageSeq := 1, stateVersion := stateVersionBase 5, kind := .progress
        snapshotId := some "chain-1-snapshot-5", backendScope := "native", blockNumber := none
        observedTimestampMs := none, publishedAtMs := 1000, payloadJson := "progress" }]
    boundaries := (guard.replayBoundary "deltas").toOption.toList
    trace := .start [] }

theorem promotedPublisher_init :
    PublisherInit sampleConfig (promotedPublisher : PublisherWorld Sim) where
  guard := ⟨_, 5, rfl⟩
  marker := ⟨_, _, rfl, rfl, rfl, rfl⟩
  task := .inr ⟨_, rfl⟩
  boundaries := rfl
  gate := fun _ => rfl
  trace := rfl

/-- The machine of that publisher. -/
def bookMachine : Machine (PublisherWorld String) :=
  publisherMachine bookJson sampleConfig bookCodec.recoveryDigest 4 fun _ => "oversized"

/-- The publisher in front of its first recovery. -/
def bookOpened : PublisherWorld String :=
  ((promotedPublisher.drainStartupHandoff ⟨1, []⟩).drainHandoffNext bookJson sampleConfig
    (fun _ => "oversized") [] 1000).beginRecovery 4 [.rfq] false

/-- The clock of the recovery. -/
def bookClock : RecoveryClock :=
  ⟨1700000000000, fun _ _ => 1700000000000, fun _ => 1700000000000, 1700000000000⟩

/-- The publisher in front of the first append of the recovery. -/
def bookStarted : PublisherWorld String :=
  { bookOpened with
    guard := { bookOpened.guard with nextStateVersion := bookTarget }
    task := some (.recovery (bookMessages.map (·.entry)) bookTarget) }

/-- The entries in front of the commit. -/
def bookUncommitted : List BroadcasterRedisStreamEntry :=
  (bookMessages.map (·.entry)).take 4

/-- The entry of the commit. -/
def bookCommitEntry : BroadcasterRedisStreamEntry :=
  bookEntry 6 (.recoveryCommit bookCommit) bookCommitJson

/-- The publisher in front of the append of the commit. -/
def bookSent : PublisherWorld String :=
  { bookStarted with
    guard := bookStarted.guard.recordAppendSuccess
      (bookStarted.guard.nextMessageSeq + .ofNat bookUncommitted.length)
    log := bookStarted.log ++ bookUncommitted
    task := some (.recovery [bookCommitEntry] bookTarget) }

theorem bookTarget_eq : stateVersionBase 5 + 1 = bookTarget := by
  decide

theorem bookOpened_ready : bookOpened.gate.openRecoveryId = some bookTransaction.recoveryId ∧
    bookOpened.gate.cancelled = false ∧ bookOpened.guard.mode = .active ∧
    bookOpened.guard.lastError = none ∧ bookOpened.guard.nextStateVersion = stateVersionBase 5 ∧
    bookOpened.guard.streamId = formatRedisStreamId sampleConfig.chainId 5 ∧
    bookOpened.guard.nextMessageSeq = 2 := by
  refine ⟨?_, ?_, ?_, ?_, ?_, ?_, ?_⟩
  · rfl
  · rfl
  · rfl
  · rfl
  · rfl
  · rfl
  · rfl

theorem bookStarted_eq :
    bookOpened.startRecovery bookJson sampleConfig bookCodec.recoveryDigest bookTransaction
      bookClock = bookStarted := by
  obtain ⟨hopen, hcancelled, hmode, herror, hnext, hstream, hseq⟩ := bookOpened_ready
  have hnamed : bookTransaction.replacementJson ≠ "" := by
    intro h
    have hbytes := bookReplacement_bytes
    rw [show bookReplacement = "" from h] at hbytes
    cases hbytes
  have hversion : bookOpened.guard.allocateStateVersion =
      .ok (bookTarget, { bookOpened.guard with nextStateVersion := bookTarget }) := by
    rw [BroadcasterRedisPublisherState.allocateStateVersion, hnext, bookTarget_eq,
      if_pos (by decide)]
  have hentries : recoveryEntries bookJson sampleConfig bookCodec.recoveryDigest
      bookOpened.guard.streamId bookOpened.guard.nextMessageSeq bookTarget bookTransaction
      bookClock = .ok (bookMessages.map (·.entry)) := by
    rw [hstream, hseq]
    exact book_entries
  exact startRecovery_eq hopen hcancelled ⟨hmode, herror⟩ hnamed hversion hentries

/-- The publisher gets as far as the commit. -/
theorem bookSent_reachable : bookMachine.Reachable bookSent := by
  have hopened : bookMachine.Reachable bookOpened := by
    refine ⟨promotedPublisher, promotedPublisher_init, ?_⟩
    exact .tail (.tail (.tail .refl (.drainHandoff rfl)) (.handoffNext 1000 rfl))
      (.beginRecovery [.rfq] false rfl)
  have hstarted : bookMachine.Steps bookOpened bookStarted :=
    .single (bookStarted_eq ▸ .startRecovery bookTransaction bookClock rfl)
  have hsent : bookMachine.Steps bookStarted bookSent := by
    unfold bookMachine bookSent
    refine recovered_steps rfl (List.cons_ne_nil _ _) rfl rfl rfl (by decide) ?_
    intro earlier hmem
    obtain rfl := List.mem_singleton.mp hmem
    decide
  exact (hopened.steps hstarted).steps hsent

/-- The commit is in the stream, but its reply is lost. -/
def bookUnsure : PublisherWorld String :=
  bookSent.appendRecovery bookCommitEntry [] bookTarget ⟨true, some "timeout"⟩

/-- The renewal of the lease finds it, and a boundary is handed out. -/
def bookRenewed : PublisherWorld String :=
  (bookUnsure.renewLease none none).takeBoundary sampleConfig

set_option maxRecDepth 4000 in
theorem bookRenewed_stream : bookUnsure.task = none ∧ bookUnsure.guard.mode = .unhealthy ∧
    (bookUnsure.renewLease none none).task = none ∧
    (bookUnsure.renewLease none none).guard.IsActive ∧
    bookRenewed.log = bookSent.log ++ [bookCommitEntry] ∧
    bookRenewed.boundaries.map (·.exclusiveMessageSeq) = [1, 6] :=
  ⟨rfl, rfl, rfl, ⟨rfl, rfl⟩, rfl, rfl⟩

/-- The reply to a commit is lost. The transaction is whole in the stream nevertheless, and the next
boundary stands behind it. -/
theorem publisher_stream_accepted_lost_commit :
    bookUnsure.guard.mode = .unhealthy ∧ bookMachine.Reachable bookRenewed ∧
      StreamAccepted bookRenewed.log ∧
      WholeTransactions bookJson sampleConfig bookCodec.recoveryDigest bookRenewed.guard.streamId
        bookRenewed.log ∧
      bookRenewed.log[5]? = some bookCommitEntry ∧
      ClosesTransaction bookJson sampleConfig bookCodec.recoveryDigest bookRenewed.guard.streamId
        bookRenewed.log ∧
      bookRenewed.boundaries.map (·.exclusiveMessageSeq) = [1, 6] ∧
      ∀ boundary ∈ bookRenewed.boundaries, BoundaryKept bookRenewed.log boundary := by
  obtain ⟨htask, hunsure, hfree, hactive, hlog, hboundaries⟩ := bookRenewed_stream
  have hpossible : AppendReply.Possible bookSent.log bookCommitEntry ⟨true, some "timeout"⟩ := by
    have hseqs : bookSent.log.map (·.messageSeq.toNat) = [1, 2, 3, 4, 5] := rfl
    constructor
    · intro _ earlier hmem
      have hseq : earlier.messageSeq.toNat ∈ bookSent.log.map (·.messageSeq.toNat) :=
        List.mem_map.mpr ⟨earlier, hmem, rfl⟩
      rw [hseqs] at hseq
      have hlt : earlier.messageSeq.toNat < 6 :=
        (by decide : ∀ seq ∈ [1, 2, 3, 4, 5], seq < 6) _ hseq
      exact UInt64.lt_iff_toNat_lt.mpr hlt
    · intro herror
      cases herror
  have happended : bookMachine.step bookSent bookUnsure :=
    .recovered ⟨true, some "timeout"⟩ rfl rfl hpossible
  have hrenewed : bookMachine.step bookUnsure (bookUnsure.renewLease none none) :=
    .renewLease none none (by rw [htask]; rfl)
  have hboundary : bookMachine.step (bookUnsure.renewLease none none) bookRenewed :=
    .boundary (by rw [hfree]; rfl) hactive
  have hrun : bookMachine.Reachable bookRenewed :=
    bookSent_reachable.steps (.tail (.tail (.single happended) hrenewed) hboundary)
  have hcommit : bookRenewed.log[5]? = some bookCommitEntry := by
    rw [hlog]
    rfl
  obtain ⟨haccepted, hwhole, hcloses, hkept⟩ := publisher_stream_accepted hrun
  have hclosed := hcloses 5 bookCommitEntry hcommit rfl
  rw [List.take_of_length_le (by rw [hlog]; decide)] at hclosed
  exact ⟨hunsure, hrun, haccepted, hwhole, hcommit, hclosed, hboundaries, hkept⟩

end TychoSimulationServer
