import Mathlib.Data.List.TakeWhile
import TychoSimulationServer.RecoveryConsumer

/-!
# A recovery commits as a whole

`commit_recovery` publishes one candidate after the other, and then moves every processor behind the
transaction; a failure in between would leave some backends recovered and others not. Two facts keep
that from happening, and both are established long before the commit. The start of the recovery
checked that every store it names is older than the target version, and nothing is applied to a
store until the commit. And every tracker has been live on the subscription's stream and snapshot
since the bootstrap.

One step is left that can fail: the sequence number behind the commit has to exist. A commit at the
last sequence number fails after all its candidates have been published.
-/

namespace TychoSimulationServer

open Fallible

variable {Sim : Type}

/-! ## Runs of a subscription

A subscription is prepared and then reads messages, while other tasks move what belongs to them. -/

/-- The decoders and the token store change between messages: other parties write to them. -/
def SurroundingsMove (prepared prepared' : PreparedBroadcasterRedisSubscription Sim) : Prop :=
  ∃ (decoders : Nat → UpdateDecoder Sim) (tokens : FinMap Bytes Token),
    prepared' = { prepared with
      processors := prepared.processors.mapIdx fun index live =>
        { live with
          processor := { live.processor with decoder := decoders index, tokenSnapshot := tokens } } }

/-- The subscriptions that can be reached by replaying messages after a bootstrap. -/
def subscriptionMachine (codec : RecoveryCodec Sim) :
    Machine (PreparedBroadcasterRedisSubscription Sim) where
  init prepared := ∃ processors boundary payloads redisMaxlen,
    prepareBroadcasterRedisSubscription codec processors boundary payloads redisMaxlen =
      .ok prepared
  step prepared prepared' :=
    (∃ message, applyReplayMessage codec prepared message = .ok prepared') ∨
      SurroundingsMove prepared prepared'

/-- The tracker is live on the stream and the snapshot of a boundary. -/
def BroadcasterSubscriptionTracker.LiveOn (tracker : BroadcasterSubscriptionTracker)
    (boundary : BroadcasterRedisReplayBoundary) : Prop :=
  ∃ chainId declared,
    tracker.state = .live boundary.streamId chainId boundary.snapshotId declared

/-- What holds of every subscription. -/
structure SubscriptionInvariant (prepared : PreparedBroadcasterRedisSubscription Sim) : Prop where
  live : ∀ live ∈ prepared.processors, live.processor.tracker.LiveOn prepared.replayBoundary
  older : ∀ recovery, prepared.recovery = some recovery → ∀ live ∈ prepared.processors,
    live.processor.backend ∈ recovery.manifest.backends →
      live.processor.store.version < recovery.manifest.targetStateVersion

/-! ## Trackers

A live tracker stands where the boundary stands: same stream, same snapshot, next number. -/

/-- **Moving a tracker** succeeds when it is live on the boundary and there is a next number. -/
theorem alignLiveReplayBoundary_eq_ok {tracker tracker' : BroadcasterSubscriptionTracker}
    {boundary : BroadcasterRedisReplayBoundary} :
    alignLiveReplayBoundary tracker boundary = .ok tracker' ↔
      tracker.LiveOn boundary ∧ boundary.exclusiveMessageSeq.toNat ≠ 2 ^ 64 - 1 ∧
      tracker' = { tracker with nextMessageSeq := some (boundary.exclusiveMessageSeq + 1) } := by
  rw [alignLiveReplayBoundary, BroadcasterSubscriptionTracker.LiveOn]
  rcases hstate : tracker.state with _ | _ | ⟨streamId, chainId, snapshotId, declared⟩
  · simp
  · simp
  · simp only [ensureStreamId, ensureSnapshotId, check_bind_eq_ok, ensure_eq_ok]
    rw [bind_eq_ok]
    simp only [nextMessageSeq_eq_ok_add, pure_eq_ok, BroadcasterSubscriptionState.live.injEq]
    constructor
    · rintro ⟨hstream, hsnapshot, next, ⟨hseq, rfl⟩, htracker⟩
      exact ⟨⟨chainId, declared, hstream, rfl, hsnapshot, rfl⟩, hseq, htracker.symm⟩
    · rintro ⟨⟨_, _, hstream, -, hsnapshot, -⟩, hseq, rfl⟩
      exact ⟨hstream, hsnapshot, _, ⟨hseq, rfl⟩, rfl⟩

/-- A live tracker stays live on the same stream and snapshot. -/
theorem observe_liveOn {tracker tracker' : BroadcasterSubscriptionTracker}
    {envelope : BroadcasterEnvelope Sim} {event : BroadcasterSubscriptionEvent}
    {boundary : BroadcasterRedisReplayBoundary} (hlive : tracker.LiveOn boundary)
    (h : exec (observe envelope) tracker = (.ok event, tracker')) : tracker'.LiveOn boundary := by
  obtain ⟨state, nextSeq⟩ := tracker
  obtain ⟨chainId, declared, rfl⟩ := hlive
  rcases nextSeq with _ | next
  · rw [observe, exec_get_bind] at h
    change exec (observeLive envelope _ _ _ _) _ = _ at h
    rw [observeLive, exec_get_bind, exec_check_unit_bind_eq_ok, exec_check_unit_bind_eq_ok,
      ensureMessageSeq, ensure_eq_ok] at h
    cases h.2.1
  · obtain ⟨-, -, -, rfl⟩ := observe_live_ok.mp ⟨event, h⟩
    exact ⟨chainId, declared, rfl⟩

/-- A tracker that skips a message moves on by one. -/
theorem skipLiveDelta_liveOn {tracker tracker' : BroadcasterSubscriptionTracker}
    {envelope : BroadcasterEnvelope Sim} {boundary : BroadcasterRedisReplayBoundary}
    (hlive : tracker.LiveOn boundary) (h : skipLiveDelta tracker envelope = .ok tracker') :
    tracker'.LiveOn boundary := by
  obtain ⟨chainId, declared, hstate⟩ := hlive
  rw [skipLiveDelta, hstate] at h
  simp only [check_bind_eq_ok] at h
  obtain ⟨-, -, h⟩ := h
  obtain ⟨next, -, h⟩ := bind_eq_ok.mp h
  rcases hpayload : envelope.payload with _ | _ | _ | _ | _ | _ | _ | _ | _ | _ <;>
    simp only [hpayload, reduceCtorEq, pure_eq_ok] at h
  all_goals
    rw [← h]
    exact ⟨chainId, declared, rfl⟩

/-! ## Processors -/

namespace BroadcasterSubscriptionProcessor

variable {processor processor' : BroadcasterSubscriptionProcessor Sim} {merge : StateSyncMerge}

/-- Buffering a partition leaves the tracker alone. -/
theorem bufferPartition_tracker {partition : BroadcasterSnapshotPartition Sim}
    (h : processor.bufferPartition merge partition = .ok processor') :
    processor'.tracker = processor.tracker := by
  rw [bufferPartition] at h
  split at h
  · rw [Except.ok.injEq] at h
    rw [← h]
  · rw [check_bind_eq_ok] at h
    obtain ⟨rawSnapshot, -, h⟩ := bind_eq_ok.mp h.2
    rw [pure_eq_ok] at h
    rw [← h]

/-- What a payload does leaves the tracker alone. -/
theorem applyPayload_tracker {stateVersion : Option UInt64} {payload : BroadcasterPayload Sim}
    (h : processor.applyPayload merge stateVersion payload = .ok processor') :
    processor'.tracker = processor.tracker := by
  cases payload with
  | snapshotStart start =>
    rw [applyPayload, Except.ok.injEq] at h
    rw [← h]
  | snapshotChunk chunk =>
    -- each partition is buffered by itself
    refine foldlM_induction (fun _ current => current.tracker = processor.tracker) rfl ?_ h
    intro _ partition current current' _ hcurrent hstep
    rw [observePartition] at hstep
    split at hstep
    · rw [bufferPartition_tracker hstep, hcurrent]
    · rw [Except.ok.injEq] at hstep
      rw [← hstep, hcurrent]
  | snapshotEnd finish =>
    rw [applyPayload, finishSnapshot] at h
    obtain ⟨applied, happlied, h⟩ := bind_eq_ok.mp h
    obtain ⟨update, -, happlied⟩ := bind_eq_ok.mp happlied
    rw [pure_eq_ok] at happlied
    split at h
    · cases h
    · rw [pure_eq_ok] at h
      rw [← h, ← happlied]
  | update update =>
    rw [applyPayload, applyUpdateMessage] at h
    split at h
    · rw [Except.ok.injEq] at h
      rw [← h]
    · cases h
  | heartbeat _ | progress _ =>
    rw [applyPayload, Except.ok.injEq] at h
    rw [← h]
  | recoveryStart _ | recoveryChunk _ | recoveryCatchUp _ | recoveryCommit _ => cases h

/-- **A live processor stays live** on its stream and snapshot, whatever it observes. -/
theorem observeRedisDelta_liveOn {entry : BroadcasterRedisStreamEntry}
    {envelope : BroadcasterEnvelope Sim} {boundary : BroadcasterRedisReplayBoundary}
    (hlive : processor.tracker.LiveOn boundary)
    (h : processor.observeRedisDelta merge entry envelope = .ok processor') :
    processor'.tracker.LiveOn boundary := by
  rw [observeRedisDelta] at h
  split at h
  · rw [observe, check_bind_eq_ok] at h
    obtain ⟨-, h⟩ := h
    rcases hobserve : exec (TychoSimulationServer.observe envelope) processor.tracker with
      ⟨_ | event, tracker⟩
    · rw [hobserve] at h
      cases h
    · rw [hobserve] at h
      rw [applyPayload_tracker h]
      exact observe_liveOn hlive hobserve
  · obtain ⟨tracker, htracker, h⟩ := bind_eq_ok.mp h
    rw [pure_eq_ok] at h
    rw [← h]
    exact skipLiveDelta_liveOn hlive (mapError_eq_ok.mp htracker)

/-- A tracker is aligned when it is live on the boundary and not at its end. -/
theorem alignRedisReplayBoundary_eq_ok {boundary : BroadcasterRedisReplayBoundary} :
    processor.alignRedisReplayBoundary boundary = .ok processor' ↔
      processor.tracker.LiveOn boundary ∧ boundary.exclusiveMessageSeq.toNat ≠ 2 ^ 64 - 1 ∧
      processor' = { processor with
        tracker.nextMessageSeq := some (boundary.exclusiveMessageSeq + 1) } := by
  rw [alignRedisReplayBoundary, bind_eq_ok]
  simp only [mapError_eq_ok, alignLiveReplayBoundary_eq_ok, pure_eq_ok]
  constructor
  · rintro ⟨_, ⟨hlive, hseq, rfl⟩, rfl⟩
    exact ⟨hlive, hseq, rfl⟩
  · rintro ⟨hlive, hseq, rfl⟩
    exact ⟨_, ⟨hlive, hseq, rfl⟩, rfl⟩

end BroadcasterSubscriptionProcessor

/-! ## The invariant before a commit

Until a recovery is committed only readiness changes: the trackers move with the boundary, and the
stores keep their contents. -/

section

variable {codec : RecoveryCodec Sim} {prepared prepared' : PreparedBroadcasterRedisSubscription Sim}

/-- A subscription starts with every processor live, and with no recovery. -/
theorem invariant_prepare {processors : List (BroadcasterSubscriptionProcessor Sim)}
    {boundary : BroadcasterRedisReplayBoundary} {payloads : List (BroadcasterEnvelope Sim)}
    {redisMaxlen : Option UInt64}
    (h : prepareBroadcasterRedisSubscription codec processors boundary payloads redisMaxlen =
      .ok prepared) : SubscriptionInvariant prepared := by
  rw [prepareBroadcasterRedisSubscription, check_bind_eq_ok] at h
  obtain ⟨observed, -, h⟩ := bind_eq_ok.mp h.2
  obtain ⟨aligned, haligned, h⟩ := bind_eq_ok.mp h
  rw [pure_eq_ok] at h
  subst h
  refine ⟨fun live hlive => ?_, fun _ => nofun⟩
  obtain ⟨processor, hprocessor, rfl⟩ := List.mem_map.mp hlive
  obtain ⟨started, -, hstarted⟩ := forall₂_exists_left (mapM_eq_ok.mp haligned) hprocessor
  rw [check_bind_eq_ok, BroadcasterSubscriptionProcessor.alignRedisReplayBoundary_eq_ok] at hstarted
  obtain ⟨-, hon, -, rfl⟩ := hstarted
  exact hon

/-- An ordinary message moves the trackers, and comes only when no recovery is open. -/
theorem invariant_ordinary {message : ReplayMessage Sim}
    {processors : List (PreparedRedisProcessor Sim)} (hinv : SubscriptionInvariant prepared)
    (hnone : prepared.recovery = none)
    (h : prepared.processors.mapM (observeOrdinary codec message) = .ok processors) :
    SubscriptionInvariant { prepared with processors } := by
  refine ⟨fun live hlive => ?_, fun recovery hrecovery => ?_⟩
  · obtain ⟨before, hbefore, hobserve⟩ := forall₂_exists_left (mapM_eq_ok.mp h) hlive
    rw [observeOrdinary] at hobserve
    split at hobserve
    · rw [Except.ok.injEq] at hobserve
      exact hobserve ▸ hinv.live before hbefore
    · obtain ⟨processor, hprocessor, hobserve⟩ := bind_eq_ok.mp hobserve
      rw [pure_eq_ok] at hobserve
      rw [← hobserve]
      exact BroadcasterSubscriptionProcessor.observeRedisDelta_liveOn
        (hinv.live before hbefore) hprocessor
  · rw [hnone] at hrecovery
    cases hrecovery

/-- What a `RecoveryStart` does to one processor: its tracker and its version stay, and it is older
than the target if the manifest names it. -/
theorem startRecovery_eq_ok {manifest : BroadcasterRecoveryManifest}
    {live live' : PreparedRedisProcessor Sim} (h : startRecovery manifest live = .ok live') :
    live'.processor.tracker = live.processor.tracker ∧
      (live'.processor.backend ∈ manifest.backends →
        live'.processor.store.version < manifest.targetStateVersion) := by
  rw [startRecovery] at h
  split at h
  case isTrue hnamed =>
    rw [check_bind_eq_ok, ensure_eq_ok, pure_eq_ok] at h
    obtain ⟨holder, rfl⟩ := h
    exact ⟨rfl, fun _ => holder⟩
  case isFalse hother =>
    rw [Except.ok.injEq] at h
    subst h
    exact ⟨rfl, fun hnamed => absurd hnamed hother⟩

theorem invariant_recoveryStart {entry : BroadcasterRedisStreamEntry}
    {manifest : BroadcasterRecoveryManifest} (hinv : SubscriptionInvariant prepared)
    (h : applyRecoveryStart prepared entry manifest = .ok prepared') :
    SubscriptionInvariant prepared' := by
  rw [applyRecoveryStart, check_bind_eq_ok] at h
  obtain ⟨expected, -, h⟩ := bind_eq_ok.mp h.2
  rw [check_bind_eq_ok, check_bind_eq_ok] at h
  obtain ⟨processors, hprocessors, h⟩ := bind_eq_ok.mp h.2.2
  rw [pure_eq_ok] at h
  subst h
  have hstart := fun {live} (hlive : live ∈ processors) =>
    forall₂_exists_left (mapM_eq_ok.mp hprocessors) hlive
  refine ⟨fun live hlive => ?_, ?_⟩
  · obtain ⟨before, hbefore, hstarted⟩ := hstart hlive
    rw [(startRecovery_eq_ok hstarted).1]
    exact hinv.live before hbefore
  · rintro recovery ⟨⟩ live hlive hnamed
    obtain ⟨before, -, hstarted⟩ := hstart hlive
    exact (startRecovery_eq_ok hstarted).2 hnamed

/-- A fragment of a recovery is collected and nothing else. -/
theorem SubscriptionInvariant.collect {recovery recovery' : RecoveryAssembly Sim}
    (hinv : SubscriptionInvariant prepared) (hrecovery : prepared.recovery = some recovery)
    (hmanifest : recovery'.manifest = recovery.manifest) :
    SubscriptionInvariant { prepared with recovery := some recovery' } := by
  refine ⟨hinv.live, ?_⟩
  rintro _ ⟨⟩ live hlive hnamed
  rw [hmanifest] at hnamed ⊢
  exact hinv.older recovery hrecovery live hlive hnamed

theorem invariant_recoveryChunk {entry : BroadcasterRedisStreamEntry}
    {chunk : BroadcasterRecoveryChunk} (hinv : SubscriptionInvariant prepared)
    (h : applyRecoveryChunk codec prepared entry chunk = .ok prepared') :
    SubscriptionInvariant prepared' := by
  rw [applyRecoveryChunk, check_bind_eq_ok] at h
  rcases hrecovery : prepared.recovery with _ | recovery
  · rw [hrecovery] at h
    cases h.2
  · rw [hrecovery] at h
    obtain ⟨-, h⟩ := h
    simp only [check_bind_eq_ok, pure_eq_ok] at h
    rw [← h.2]
    exact hinv.collect hrecovery rfl

theorem invariant_recoveryCatchUp {catchUp : BroadcasterRecoveryCatchUp Sim}
    (hinv : SubscriptionInvariant prepared)
    (h : applyRecoveryCatchUp prepared catchUp = .ok prepared') :
    SubscriptionInvariant prepared' := by
  rw [applyRecoveryCatchUp, check_bind_eq_ok] at h
  rcases hrecovery : prepared.recovery with _ | recovery
  · rw [hrecovery] at h
    cases h.2
  · rw [hrecovery] at h
    obtain ⟨-, h⟩ := h
    simp only [check_bind_eq_ok, pure_eq_ok] at h
    rw [← h.2]
    exact hinv.collect hrecovery rfl

theorem invariant_surroundings (hinv : SubscriptionInvariant prepared)
    (h : SurroundingsMove prepared prepared') : SubscriptionInvariant prepared' := by
  obtain ⟨decoders, tokens, rfl⟩ := h
  have hmoved : ∀ live ∈ prepared.processors.mapIdx (fun index live =>
      { live with processor := { live.processor with
          decoder := decoders index, tokenSnapshot := tokens } }),
      ∃ before ∈ prepared.processors, live.processor.tracker = before.processor.tracker ∧
        live.processor.backend = before.processor.backend ∧
        live.processor.store = before.processor.store := by
    intro live hlive
    obtain ⟨index, hindex, rfl⟩ := List.mem_mapIdx.mp hlive
    exact ⟨prepared.processors[index], List.getElem_mem _, rfl, rfl, rfl⟩
  refine ⟨fun live hlive => ?_, fun recovery hrecovery live hlive hnamed => ?_⟩
  · obtain ⟨before, hbefore, htracker, -, -⟩ := hmoved live hlive
    rw [htracker]
    exact hinv.live before hbefore
  · obtain ⟨before, hbefore, -, hbackend, hstore⟩ := hmoved live hlive
    rw [hstore]
    exact hinv.older recovery hrecovery before hbefore (hbackend ▸ hnamed)

end

/-! ## Candidates

A commit first builds a store for each named backend, in a list of numbered candidates. -/

section

variable {codec : RecoveryCodec Sim} {processors : List (PreparedRedisProcessor Sim)}
  {boundary : BroadcasterRedisReplayBoundary} {snapshot : List (BroadcasterEnvelope Sim)}
  {recovery : RecoveryAssembly Sim} {candidates : List (Nat × PublishedStateStore Sim)}

/-- A loop over labelled items, each label once, has the result of an item at its label. -/
theorem lookup_of_mapM {ε α β : Type} {f : α → Except ε β} {items : List (α × Nat)}
    {results : List (Nat × β)} (hnodup : (items.map (·.2)).Nodup)
    (h : items.mapM (fun (item, index) => do return (index, ← f item)) = .ok results)
    {item : α} {index : Nat} (hitem : (item, index) ∈ items) :
    ∃ result, f item = .ok result ∧ results.lookup index = some result := by
  have hforall := mapM_eq_ok.mp h
  clear h
  induction hforall with
  | nil => cases hitem
  | @cons head result items results hhead _ ih =>
    obtain ⟨computed, hcomputed, hresult⟩ := bind_eq_ok.mp hhead
    rw [pure_eq_ok] at hresult
    subst hresult
    rw [List.map_cons, List.nodup_cons] at hnodup
    rcases List.mem_cons.mp hitem with rfl | hitem
    · exact ⟨computed, hcomputed, List.lookup_cons_self⟩
    · have hother : (index == head.2) = false := by
        rw [beq_eq_false_iff_ne]
        rintro rfl
        exact hnodup.1 (List.mem_map.mpr ⟨(item, head.2), hitem, rfl⟩)
      obtain ⟨found, hfound, hlookup⟩ := ih hnodup.2 hitem
      exact ⟨found, hfound, by rw [List.lookup_cons, hother]; exact hlookup⟩

theorem nodup_map_snd_filter_zipIdx {α : Type} (items : List α) (keep : α × Nat → Bool) :
    ((items.zipIdx.filter keep).map (·.2)).Nodup := by
  refine List.Nodup.sublist (List.filter_sublist.map _) ?_
  rw [List.zipIdx_map_snd]
  exact List.nodup_range'

/-- The candidates are those of the named backends, in order. -/
theorem map_fst_recoveryCandidates
    (h : recoveryCandidates codec processors boundary snapshot recovery = .ok candidates) :
    candidates.map (·.1) = (processors.zipIdx.filter
      (·.1.processor.backend ∈ recovery.manifest.backends)).map (·.2) := by
  refine (map_eq_of_forall₂ (mapM_eq_ok.mp h) fun hitem => ?_).symm
  obtain ⟨candidate, -, hcandidate⟩ := bind_eq_ok.mp hitem
  rw [pure_eq_ok] at hcandidate
  rw [← hcandidate]

/-- The positions that have a candidate are those of the processors the manifest names. -/
theorem mem_map_fst_recoveryCandidates
    (h : recoveryCandidates codec processors boundary snapshot recovery = .ok candidates)
    {index : Nat} :
    index ∈ candidates.map (·.1) ↔ ∃ live, processors[index]? = some live ∧
      live.processor.backend ∈ recovery.manifest.backends := by
  rw [map_fst_recoveryCandidates h]
  simp only [List.mem_map, List.mem_filter, decide_eq_true_eq, List.mem_zipIdx_iff_getElem?]
  constructor
  · rintro ⟨⟨live, _⟩, ⟨hlive, hnamed⟩, rfl⟩
    exact ⟨live, hlive, hnamed⟩
  · rintro ⟨live, hlive, hnamed⟩
    exact ⟨(live, index), ⟨hlive, hnamed⟩, rfl⟩

/-- Without a named backend there is no candidate. -/
theorem candidates_eq_nil
    (h : recoveryCandidates codec processors boundary snapshot recovery = .ok candidates)
    (hnone : ∀ live ∈ processors, live.processor.backend ∉ recovery.manifest.backends) :
    candidates = [] := by
  rw [← List.map_eq_nil_iff (f := (·.1)), List.eq_nil_iff_forall_not_mem]
  intro index hindex
  obtain ⟨live, hlive, hnamed⟩ := (mem_map_fst_recoveryCandidates h).mp hindex
  exact hnone live (List.mem_of_getElem? hlive) hnamed

theorem nodup_map_fst_recoveryCandidates
    (h : recoveryCandidates codec processors boundary snapshot recovery = .ok candidates) :
    (candidates.map (·.1)).Nodup := by
  rw [map_fst_recoveryCandidates h]
  exact nodup_map_snd_filter_zipIdx _ _

/-- The candidate of a processor the manifest names. -/
theorem lookup_recoveryCandidates
    (h : recoveryCandidates codec processors boundary snapshot recovery = .ok candidates)
    {index : Nat} {live : PreparedRedisProcessor Sim} (hlive : processors[index]? = some live)
    (hnamed : live.processor.backend ∈ recovery.manifest.backends) :
    ∃ candidate, live.processor.recoveryCandidate codec.merge boundary snapshot recovery.bufferA =
      .ok candidate ∧ candidates.lookup index = some candidate := by
  refine lookup_of_mapM
    (f := fun live : PreparedRedisProcessor Sim =>
      live.processor.recoveryCandidate codec.merge boundary snapshot recovery.bufferA)
    (nodup_map_snd_filter_zipIdx _ _) h ?_
  rw [List.mem_filter, List.mem_zipIdx_iff_getElem?]
  exact ⟨hlive, decide_eq_true hnamed⟩

end

/-! ## Publication

Then the candidates are published one by one. A publication fails only if the store is not older
than the target. -/

section

variable {codec : RecoveryCodec Sim} {prepared prepared' : PreparedBroadcasterRedisSubscription Sim}
  {boundary : BroadcasterRedisReplayBoundary} {target : UInt64}
  {candidates : List (Nat × PublishedStateStore Sim)}

/-- A live store after its candidate was published. -/
def recovered (target : UInt64) (store candidate : PublishedStateStore Sim) :
    PublishedStateStore Sim :=
  publish store { candidate with version := target, requestsAllowed := candidate.ready }

/-- A processor after the publication of `candidates`. -/
def afterPublication (target : UInt64) (candidates : List (Nat × PublishedStateStore Sim))
    (index : Nat) (live : PreparedRedisProcessor Sim) : PreparedRedisProcessor Sim :=
  match candidates.lookup index with
  | some candidate =>
    { live with
      processor := { live.processor with store := recovered target live.processor.store candidate } }
  | none => live

/-- A processor behind a transaction. -/
def behind (boundary : BroadcasterRedisReplayBoundary) (live : PreparedRedisProcessor Sim) :
    PreparedRedisProcessor Sim where
  processor := { live.processor with
    tracker.nextMessageSeq := some (boundary.exclusiveMessageSeq + 1) }
  replayBoundary := boundary

/-- A candidate is published over an older store. -/
theorem exec_publishCandidate_of_older {store candidate : PublishedStateStore Sim}
    (h : store.version < target) :
    exec (publishCandidate candidate target) store = (.ok (), recovered target store candidate) := by
  rw [publishCandidate, exec_get_bind, ensure, if_pos h]
  rfl

/-- One candidate more is published. -/
theorem set_afterPublication {processors : List (PreparedRedisProcessor Sim)} {index : Nat}
    {live : PreparedRedisProcessor Sim} {candidate : PublishedStateStore Sim}
    (hlive : processors[index]? = some live) (hnew : candidates.lookup index = none) :
    (processors.mapIdx (afterPublication target candidates)).set index
        { live with
          processor := { live.processor with
            store := recovered target live.processor.store candidate } } =
      processors.mapIdx (afterPublication target (candidates ++ [(index, candidate)])) := by
  refine List.ext_getElem? fun position => ?_
  rw [List.getElem?_mapIdx]
  by_cases hposition : index = position
  · subst hposition
    have hlt : index < (processors.mapIdx (afterPublication target candidates)).length := by
      rw [List.length_mapIdx]
      exact (List.getElem?_eq_some_iff.mp hlive).1
    rw [List.getElem?_set_self hlt, hlive, Option.map_some, afterPublication, List.lookup_append,
      hnew, Option.none_or, List.lookup_cons_self]
  · rw [List.getElem?_set_ne hposition, List.getElem?_mapIdx]
    have hlookup : (candidates ++ [(index, candidate)]).lookup position =
        candidates.lookup position := by
      rw [List.lookup_append, List.lookup_cons, beq_eq_false_iff_ne.mpr (Ne.symm hposition)]
      exact Option.or_none
    refine congrArg (Option.map · _) (funext fun other => ?_)
    rw [afterPublication, afterPublication, hlookup]

/-- The subscription after the publication of `done`. -/
def PreparedBroadcasterRedisSubscription.published (s : PreparedBroadcasterRedisSubscription Sim)
    (target : UInt64) (done : List (Nat × PublishedStateStore Sim)) :
    PreparedBroadcasterRedisSubscription Sim :=
  { s with processors := s.processors.mapIdx (afterPublication target done) }

theorem published_nil (s : PreparedBroadcasterRedisSubscription Sim) :
    s.published target [] = s := by
  refine congrArg (fun list => { s with processors := list }) (List.ext_getElem? fun index => ?_)
  rw [List.getElem?_mapIdx]
  exact congrFun Option.map_id _

/-- **Publication does not fail**: every candidate has a live store, which is older than the
target, and no store is published to twice. -/
theorem exec_publishAll {s : PreparedBroadcasterRedisSubscription Sim}
    (hnodup : (candidates.map (·.1)).Nodup)
    (holder : ∀ index ∈ candidates.map (·.1), ∃ live, s.processors[index]? = some live ∧
      live.processor.store.version < target) :
    exec (candidates.forM (publishRecovered target)) s =
      (.ok (), s.published target candidates) := by
  suffices hstep : ∀ done entry rest t, candidates = done ++ entry :: rest →
      t = s.published target done → ∃ t', exec (publishRecovered target entry) t = (.ok (), t') ∧
        t' = s.published target (done ++ [entry]) by
    obtain ⟨s', hexec, rfl⟩ := exec_forM_of_invariant (fun done t => t = s.published target done)
      (published_nil s).symm hstep
    exact hexec
  rintro done ⟨index, candidate⟩ rest t rfl rfl
  obtain ⟨live, hlive, hversion⟩ := holder index (by simp)
  have hnew : done.lookup index = none := by
    rw [List.lookup_eq_none_iff]
    intro entry hentry
    rw [bne_iff_ne]
    rintro rfl
    rw [List.map_append, List.map_cons, List.nodup_append] at hnodup
    exact hnodup.2.2 _ (List.mem_map_of_mem hentry) _ List.mem_cons_self rfl
  refine ⟨_, ?_, rfl⟩
  rw [PreparedBroadcasterRedisSubscription.published,
    PreparedBroadcasterRedisSubscription.published, ← set_afterPublication hlive hnew,
    publishRecovered, exec_get_bind]
  simp only [List.getElem?_mapIdx, hlive, Option.map_some, afterPublication, hnew]
  rw [exec_publishCandidate_of_older hversion]
  rfl

/-- The subscription with the processors at `done` moved behind a transaction. -/
def PreparedBroadcasterRedisSubscription.moved (s : PreparedBroadcasterRedisSubscription Sim)
    (boundary : BroadcasterRedisReplayBoundary) (done : List Nat) :
    PreparedBroadcasterRedisSubscription Sim :=
  { s with
    processors := s.processors.mapIdx fun index live =>
      if index ∈ done then behind boundary live else live }

theorem moved_nil (s : PreparedBroadcasterRedisSubscription Sim) : s.moved boundary [] = s := by
  refine congrArg (fun list => { s with processors := list }) (List.ext_getElem? fun index => ?_)
  rw [List.getElem?_mapIdx]
  simp

theorem moved_concat {s : PreparedBroadcasterRedisSubscription Sim} {done : List Nat} {index : Nat}
    {live : PreparedRedisProcessor Sim} (hlive : s.processors[index]? = some live) :
    s.moved boundary (done ++ [index]) =
      { s.moved boundary done with
        processors := (s.moved boundary done).processors.set index (behind boundary live) } := by
  refine congrArg (fun list => { s with processors := list }) (List.ext_getElem? fun position => ?_)
  rw [List.getElem?_mapIdx]
  by_cases hposition : index = position
  · subst hposition
    have hlt : index < (s.moved boundary done).processors.length := by
      rw [PreparedBroadcasterRedisSubscription.moved, List.length_mapIdx]
      exact (List.getElem?_eq_some_iff.mp hlive).1
    rw [List.getElem?_set_self hlt, hlive]
    simp
  · rw [List.getElem?_set_ne hposition, PreparedBroadcasterRedisSubscription.moved,
      List.getElem?_mapIdx]
    have hmem : position ∈ done ++ [index] ↔ position ∈ done := by
      simp [Ne.symm hposition]
    simp only [hmem]

theorem moved_range (s : PreparedBroadcasterRedisSubscription Sim) :
    s.moved boundary (List.range s.processors.length) =
      { s with processors := s.processors.map (behind boundary) } := by
  refine congrArg (fun list => { s with processors := list }) (List.ext_getElem? fun index => ?_)
  rw [List.getElem?_mapIdx, List.getElem?_map]
  rcases hlive : s.processors[index]? with _ | live
  · rfl
  · have hindex := (List.getElem?_eq_some_iff.mp hlive).1
    rw [Option.map_some, Option.map_some, if_pos (List.mem_range.mpr hindex)]

/-- **Moving does not fail** when every tracker is live on the boundary, and there is a number
behind it. -/
theorem exec_alignAll {s : PreparedBroadcasterRedisSubscription Sim}
    (hlive : ∀ live ∈ s.processors, live.processor.tracker.LiveOn boundary)
    (hseq : s.processors ≠ [] → boundary.exclusiveMessageSeq.toNat ≠ 2 ^ 64 - 1) :
    exec ((List.range s.processors.length).forM (alignProcessor boundary)) s =
      (.ok (), { s with processors := s.processors.map (behind boundary) }) := by
  rw [← moved_range]
  suffices hstep : ∀ done index rest t, List.range s.processors.length = done ++ index :: rest →
      t = s.moved boundary done → ∃ t', exec (alignProcessor boundary index) t = (.ok (), t') ∧
        t' = s.moved boundary (done ++ [index]) by
    obtain ⟨s', hexec, rfl⟩ := exec_forM_of_invariant (fun done t => t = s.moved boundary done)
      (moved_nil s).symm hstep
    exact hexec
  rintro done index rest t hrange rfl
  have hindex : index < s.processors.length := by
    rw [← List.mem_range, hrange]
    exact List.mem_append_right _ List.mem_cons_self
  -- no index comes twice, so this processor is still as it was
  have hnew : index ∉ done := by
    have hnodup := hrange ▸ List.nodup_range (n := s.processors.length)
    rw [List.nodup_append] at hnodup
    exact fun hmem => hnodup.2.2 _ hmem _ List.mem_cons_self rfl
  have hget : s.processors[index]? = some s.processors[index] := List.getElem?_eq_getElem hindex
  have halign : s.processors[index].processor.alignRedisReplayBoundary boundary =
      .ok (behind boundary s.processors[index]).processor := by
    rw [BroadcasterSubscriptionProcessor.alignRedisReplayBoundary_eq_ok]
    exact ⟨hlive _ (List.getElem_mem hindex), hseq (List.ne_nil_of_length_pos (by omega)), rfl⟩
  refine ⟨_, ?_, rfl⟩
  have hcurrent : (s.moved boundary done).processors[index]? = some s.processors[index] := by
    rw [PreparedBroadcasterRedisSubscription.moved, List.getElem?_mapIdx, hget, Option.map_some,
      if_neg hnew]
  rw [moved_concat hget, alignProcessor, exec_get_bind]
  simp only [hcurrent]
  rw [exec_bind, exec_check, halign]
  rfl

end

/-! ## The commit

The commit is a plan, made without touching anything, and its execution. What can fail in the plan
fails before the first store is published. -/

section

variable {codec : RecoveryCodec Sim} {prepared prepared' : PreparedBroadcasterRedisSubscription Sim}
  {commitMessageSeq : UInt64} {commit : BroadcasterRecoveryCommit}

/-- What a commit computes before it publishes anything. -/
structure CommitPlan (Sim : Type) where
  recovery : RecoveryAssembly Sim
  snapshot : List (BroadcasterEnvelope Sim)
  boundary : BroadcasterRedisReplayBoundary
  candidates : List (Nat × PublishedStateStore Sim)

/-- The checks of a commit, and what they lead to. -/
def planCommit (codec : RecoveryCodec Sim) (prepared : PreparedBroadcasterRedisSubscription Sim)
    (commitMessageSeq : UInt64) (commit : BroadcasterRecoveryCommit) :
    Except SubscriptionError (CommitPlan Sim) :=
  match prepared.recovery with
  | none => .error (.text "RecoveryCommit arrived before RecoveryStart")
  | some recovery => do
    checkRecoveryCommit recovery commitMessageSeq commit
    let snapshot ← recovery.replacement codec
    let boundary ← commitBoundary prepared.replayBoundary commitMessageSeq recovery.manifest
    let candidates ← recoveryCandidates codec prepared.processors boundary snapshot recovery
    return { recovery, snapshot, boundary, candidates }

/-- What a commit does after its checks. -/
def publishPlan (prepared : PreparedBroadcasterRedisSubscription Sim) (plan : CommitPlan Sim) :
    Commit Sim Unit := do
  plan.candidates.forM (publishRecovered plan.recovery.manifest.targetStateVersion)
  (List.range prepared.processors.length).forM (alignProcessor plan.boundary)
  modify ({ · with replayBoundary := plan.boundary })

/-- A commit fails in its checks, or publishes its plan. -/
theorem exec_commitRecovery :
    exec (commitRecovery codec commitMessageSeq commit) prepared =
      match planCommit codec prepared commitMessageSeq commit with
      | .error error => (.error error, { prepared with recovery := none })
      | .ok plan => exec (publishPlan prepared plan) { prepared with recovery := none } := by
  rw [commitRecovery, exec_get_bind, planCommit]
  rcases hrecovery : prepared.recovery with _ | recovery
  · have hsame : prepared = { prepared with recovery := none } := by rw [← hrecovery]
    exact congrArg (Prod.mk _) hsame
  simp only [exec_set_bind]
  rcases checkRecoveryCommit recovery commitMessageSeq commit with _ | ⟨⟩
  · rfl
  rcases recovery.replacement codec with _ | snapshot
  · rfl
  rcases commitBoundary prepared.replayBoundary commitMessageSeq recovery.manifest with _ | boundary
  · rfl
  change exec (check (recoveryCandidates codec prepared.processors boundary snapshot recovery) >>= _)
    _ = _
  rcases hcandidates : recoveryCandidates codec prepared.processors boundary snapshot recovery
    with _ | candidates
  · simp only [bind, Except.bind, hcandidates]
    rfl
  · simp only [bind, Except.bind, hcandidates]
    rfl

/-- With a plan, the commit is its execution. -/
theorem exec_commitRecovery_of_plan {plan : CommitPlan Sim}
    (h : planCommit codec prepared commitMessageSeq commit = .ok plan) :
    exec (commitRecovery codec commitMessageSeq commit) prepared =
      exec (publishPlan prepared plan) { prepared with recovery := none } := by
  rw [exec_commitRecovery, h]

/-- What the checks of a commit establish. -/
theorem planCommit_eq_ok {plan : CommitPlan Sim} :
    planCommit codec prepared commitMessageSeq commit = .ok plan ↔
      prepared.recovery = some plan.recovery ∧
      checkRecoveryCommit plan.recovery commitMessageSeq commit = .ok () ∧
      plan.recovery.replacement codec = .ok plan.snapshot ∧
      commitBoundary prepared.replayBoundary commitMessageSeq plan.recovery.manifest =
        .ok plan.boundary ∧
      recoveryCandidates codec prepared.processors plan.boundary plan.snapshot plan.recovery =
        .ok plan.candidates := by
  rw [planCommit]
  rcases hrecovery : prepared.recovery with _ | recovery
  · simp
  simp only [check_bind_eq_ok, Option.some.injEq]
  constructor
  · rintro ⟨hcheck, h⟩
    obtain ⟨snapshot, hsnapshot, h⟩ := bind_eq_ok.mp h
    obtain ⟨boundary, hboundary, h⟩ := bind_eq_ok.mp h
    obtain ⟨candidates, hcandidates, h⟩ := bind_eq_ok.mp h
    rw [pure_eq_ok] at h
    subst h
    exact ⟨rfl, hcheck, hsnapshot, hboundary, hcandidates⟩
  · obtain ⟨recovery', snapshot, boundary, candidates⟩ := plan
    rintro ⟨rfl, hcheck, hsnapshot, hboundary, hcandidates⟩
    exact ⟨hcheck, bind_eq_ok.mpr ⟨snapshot, hsnapshot, bind_eq_ok.mpr ⟨boundary, hboundary,
      bind_eq_ok.mpr ⟨candidates, hcandidates, rfl⟩⟩⟩⟩

/-! ## Atomicity

The execution consists of the publications and the alignment of the trackers. Of these only the
alignment can fail, at the last number of a stream. -/

/-- What a commit leaves of one processor when it succeeds: the store of a backend it names holds
the replacement followed by all catch-ups, at the target version, every other store is as it was,
and the tracker waits for the message behind the commit. -/
structure Commits (codec : RecoveryCodec Sim) (plan : CommitPlan Sim)
    (commit : BroadcasterRecoveryCommit) (live live' : PreparedRedisProcessor Sim) : Prop where
  named : live.processor.backend ∈ plan.recovery.manifest.backends →
    ∃ bootstrapped caughtUp,
      plan.snapshot.foldlM (fun candidate envelope => candidate.observe codec.merge envelope none)
        (live.processor.recoveryCopy plan.boundary) = .ok bootstrapped ∧
      plan.recovery.bufferA.foldlM
        (fun candidate catchUp => candidate.applyUpdateMessage catchUp.update none)
        bootstrapped = .ok caughtUp ∧
      live'.processor.store = publish live.processor.store
        { caughtUp.store with
          version := commit.targetStateVersion, requestsAllowed := caughtUp.store.ready }
  other : live.processor.backend ∉ plan.recovery.manifest.backends →
    live'.processor.store = live.processor.store
  next : ∃ next, live'.processor.tracker.nextMessageSeq = some next ∧
    next.toNat = commit.commitWatermark.toNat + 1

/-- **A commit is atomic**: when it fails every live store is as it was, and when it succeeds it
commits on every processor. -/
def CommitAtomic (codec : RecoveryCodec Sim) (prepared : PreparedBroadcasterRedisSubscription Sim)
    (commitMessageSeq : UInt64) (commit : BroadcasterRecoveryCommit) : Prop :=
  match exec (commitRecovery codec commitMessageSeq commit) prepared with
  | (.error _, prepared') =>
    prepared'.processors.map (·.processor.store) = prepared.processors.map (·.processor.store)
  | (.ok _, prepared') => ∃ plan,
    planCommit codec prepared commitMessageSeq commit = .ok plan ∧
    plan.recovery.bufferA.length = commit.bufferACount.toNat ∧
    List.Forall₂ (Commits codec plan commit) prepared.processors prepared'.processors

theorem checkRecoveryCommit_eq_ok {recovery : RecoveryAssembly Sim}
    (h : checkRecoveryCommit recovery commitMessageSeq commit = .ok ()) :
    commit.targetStateVersion = recovery.manifest.targetStateVersion ∧
      commitMessageSeq = commit.commitWatermark ∧
      recovery.bufferA.length = commit.bufferACount.toNat := by
  rw [checkRecoveryCommit, check_bind_eq_ok, check_bind_eq_ok, validateRecoveryIdentity] at h
  simp only [ensure_eq_ok] at h
  obtain ⟨⟨-, htarget⟩, ⟨-, -, hcount, -, hwatermark⟩, -, hlength⟩ := h
  exact ⟨htarget, hwatermark, by rw [hlength, hcount]⟩

theorem requiredRedisField_eq_ok {field value text : String} :
    requiredRedisField field value = .ok text ↔ rustTrim value ≠ "" ∧ value = text := by
  rw [requiredRedisField, check_bind_eq_ok, ensure_eq_ok, pure_eq_ok]

/-- A boundary is built from its fields, unless one of them is empty. -/
theorem boundary_new_eq_ok {streamKey streamId snapshotId : String}
    {generation exclusiveMessageSeq stateVersion : UInt64}
    {boundary : BroadcasterRedisReplayBoundary} :
    BroadcasterRedisReplayBoundary.new streamKey streamId snapshotId generation exclusiveMessageSeq
        stateVersion = .ok boundary ↔
      rustTrim streamKey ≠ "" ∧ rustTrim streamId ≠ "" ∧ rustTrim snapshotId ≠ "" ∧
      generation ≠ 0 ∧ boundary =
        { streamKey, streamId, snapshotId, generation, exclusiveMessageSeq, stateVersion } := by
  rw [BroadcasterRedisReplayBoundary.new]
  simp only [bind_eq_ok, requiredRedisField_eq_ok, redisBoundaryGeneration, ensure_eq_ok, pure_eq_ok]
  constructor
  · rintro ⟨_, ⟨hkey, rfl⟩, _, ⟨hstream, rfl⟩, _, ⟨hsnapshot, rfl⟩, _, ⟨-, hne, rfl⟩, rfl⟩
    exact ⟨hkey, hstream, hsnapshot, hne, rfl⟩
  · rintro ⟨hkey, hstream, hsnapshot, hne, rfl⟩
    exact ⟨_, ⟨hkey, rfl⟩, _, ⟨hstream, rfl⟩, _, ⟨hsnapshot, rfl⟩, _, ⟨(), hne, rfl⟩, rfl⟩

/-- The boundary moves behind the commit, on the same stream. -/
theorem commitBoundary_eq_ok {current boundary : BroadcasterRedisReplayBoundary}
    {manifest : BroadcasterRecoveryManifest}
    (h : commitBoundary current commitMessageSeq manifest = .ok boundary) :
    boundary.streamId = current.streamId ∧ boundary.snapshotId = current.snapshotId ∧
      boundary.exclusiveMessageSeq = commitMessageSeq := by
  rw [commitBoundary, mapError_eq_ok, boundary_new_eq_ok] at h
  obtain ⟨-, -, -, -, rfl⟩ := h
  exact ⟨rfl, rfl, rfl⟩

/-- A tracker that was live is live on the boundary of the commit. -/
theorem liveOn_commitBoundary {tracker : BroadcasterSubscriptionTracker}
    {current boundary : BroadcasterRedisReplayBoundary} {manifest : BroadcasterRecoveryManifest}
    (h : commitBoundary current commitMessageSeq manifest = .ok boundary)
    (hlive : tracker.LiveOn current) : tracker.LiveOn boundary := by
  obtain ⟨hstream, hsnapshot, -⟩ := commitBoundary_eq_ok h
  rw [BroadcasterSubscriptionTracker.LiveOn, hstream, hsnapshot]
  exact hlive

/-- Every position a plan has a candidate for is one of an older store. -/
theorem older_of_plan {plan : CommitPlan Sim} (hinv : SubscriptionInvariant prepared)
    (h : planCommit codec prepared commitMessageSeq commit = .ok plan) :
    ∀ index ∈ plan.candidates.map (·.1), ∃ live, prepared.processors[index]? = some live ∧
      live.processor.store.version < plan.recovery.manifest.targetStateVersion := by
  obtain ⟨hrecovery, -, -, -, hcandidates⟩ := planCommit_eq_ok.mp h
  intro index hindex
  obtain ⟨live, hlive, hnamed⟩ := (mem_map_fst_recoveryCandidates hcandidates).mp hindex
  exact ⟨live, hlive, hinv.older _ hrecovery live (List.mem_of_getElem? hlive) hnamed⟩

/-- A publication leaves the tracker alone. -/
theorem afterPublication_tracker {target : UInt64}
    {candidates : List (Nat × PublishedStateStore Sim)} {index : Nat}
    {live : PreparedRedisProcessor Sim} :
    (afterPublication target candidates index live).processor.tracker = live.processor.tracker := by
  rw [afterPublication]
  split <;> rfl

/-- Publication leaves the trackers live. -/
theorem liveOn_published {plan : CommitPlan Sim} (hinv : SubscriptionInvariant prepared)
    (h : planCommit codec prepared commitMessageSeq commit = .ok plan) :
    ∀ live ∈ (prepared.published plan.recovery.manifest.targetStateVersion
      plan.candidates).processors, live.processor.tracker.LiveOn plan.boundary := by
  intro live hlive
  obtain ⟨-, -, -, hboundary, -⟩ := planCommit_eq_ok.mp h
  obtain ⟨index, hindex, rfl⟩ := List.mem_mapIdx.mp hlive
  rw [afterPublication_tracker]
  exact liveOn_commitBoundary hboundary (hinv.live _ (List.getElem_mem _))

/-- **The publication of a plan** succeeds when there is a number behind the commit, or no processor
to be moved there. -/
theorem exec_publishPlan {plan : CommitPlan Sim} (hinv : SubscriptionInvariant prepared)
    (h : planCommit codec prepared commitMessageSeq commit = .ok plan)
    (hseq : prepared.processors ≠ [] → commitMessageSeq.toNat ≠ 2 ^ 64 - 1) :
    exec (publishPlan prepared plan) { prepared with recovery := none } =
      (.ok (), { prepared with
        processors := (prepared.published plan.recovery.manifest.targetStateVersion
          plan.candidates).processors.map (behind plan.boundary)
        replayBoundary := plan.boundary
        recovery := none }) := by
  obtain ⟨-, -, -, hboundary, hcandidates⟩ := planCommit_eq_ok.mp h
  have holder := older_of_plan hinv h
  have hon := liveOn_published hinv h
  have hpublish := exec_publishAll (s := { prepared with recovery := none })
    (nodup_map_fst_recoveryCandidates hcandidates) holder
  have hnext : (prepared.published plan.recovery.manifest.targetStateVersion
      plan.candidates).processors ≠ [] → plan.boundary.exclusiveMessageSeq.toNat ≠ 2 ^ 64 - 1 := by
    intro hsome
    rw [(commitBoundary_eq_ok hboundary).2.2]
    exact hseq fun hnone => hsome (List.mapIdx_eq_nil_iff.mpr hnone)
  have halign := exec_alignAll (s := ({ prepared with recovery := none } :
    PreparedBroadcasterRedisSubscription Sim).published
      plan.recovery.manifest.targetStateVersion plan.candidates)
    hon hnext
  have hlength : (({ prepared with recovery := none } :
      PreparedBroadcasterRedisSubscription Sim).published
        plan.recovery.manifest.targetStateVersion plan.candidates).processors.length =
      prepared.processors.length := List.length_mapIdx
  rw [hlength] at halign
  rw [publishPlan, exec_bind, hpublish]
  simp only
  rw [exec_bind, halign]
  rfl

/-- **The publication of a plan at the last number** fails after every candidate is out. -/
theorem exec_publishPlan_last {plan : CommitPlan Sim} (hinv : SubscriptionInvariant prepared)
    (h : planCommit codec prepared commitMessageSeq commit = .ok plan)
    (hseq : commitMessageSeq.toNat = 2 ^ 64 - 1) (hsome : prepared.processors ≠ []) :
    ∃ error, exec (publishPlan prepared plan) { prepared with recovery := none } =
      (.error error, ({ prepared with recovery := none } :
        PreparedBroadcasterRedisSubscription Sim).published
          plan.recovery.manifest.targetStateVersion plan.candidates) := by
  obtain ⟨-, -, -, hboundary, hcandidates⟩ := planCommit_eq_ok.mp h
  have holder := older_of_plan hinv h
  have hpublish := exec_publishAll (s := { prepared with recovery := none })
    (nodup_map_fst_recoveryCandidates hcandidates) holder
  obtain ⟨first, rest, hfirst⟩ := List.exists_cons_of_ne_nil hsome
  have hrange : List.range prepared.processors.length =
      0 :: (List.range rest.length).map Nat.succ := by
    rw [hfirst, List.length_cons, List.range_succ_eq_map]
  -- behind the last number there is none, so the first processor cannot be aligned
  have hrefused : ∃ error, (afterPublication plan.recovery.manifest.targetStateVersion
      plan.candidates 0 first).processor.alignRedisReplayBoundary plan.boundary = .error error := by
    rcases halign : (afterPublication plan.recovery.manifest.targetStateVersion plan.candidates 0
      first).processor.alignRedisReplayBoundary plan.boundary with error | processor
    · exact ⟨error, rfl⟩
    · obtain ⟨-, hnext, -⟩ :=
        BroadcasterSubscriptionProcessor.alignRedisReplayBoundary_eq_ok.mp halign
      rw [(commitBoundary_eq_ok hboundary).2.2] at hnext
      exact absurd hseq hnext
  obtain ⟨error, hrefused⟩ := hrefused
  refine ⟨error, ?_⟩
  rw [publishPlan, exec_bind, hpublish]
  simp only
  rw [exec_bind, hrange, exec_forM_cons_error (e := error)]
  rw [alignProcessor, exec_get_bind]
  simp only [PreparedBroadcasterRedisSubscription.published, hfirst, List.mapIdx_cons,
    List.getElem?_cons_zero]
  rw [exec_bind, exec_check, hrefused]

/-- A published plan commits on every processor. -/
theorem commits_of_plan {plan : CommitPlan Sim}
    (h : planCommit codec prepared commitMessageSeq commit = .ok plan)
    (hseq : prepared.processors ≠ [] → commitMessageSeq.toNat ≠ 2 ^ 64 - 1) :
    List.Forall₂ (Commits codec plan commit) prepared.processors
      ((prepared.published plan.recovery.manifest.targetStateVersion
        plan.candidates).processors.map (behind plan.boundary)) := by
  obtain ⟨-, hcheck, -, hboundary, hcandidates⟩ := planCommit_eq_ok.mp h
  obtain ⟨htarget, hwatermark, -⟩ := checkRecoveryCommit_eq_ok hcheck
  rw [List.forall₂_iff_get]
  refine ⟨by simp [PreparedBroadcasterRedisSubscription.published], fun index hindex _ => ?_⟩
  have hget : prepared.processors[index]? = some prepared.processors[index] :=
    List.getElem?_eq_getElem hindex
  simp only [List.get_eq_getElem, PreparedBroadcasterRedisSubscription.published,
    List.getElem_map, List.getElem_mapIdx]
  refine ⟨fun hnamed => ?_, fun hother => ?_, ?_⟩
  · obtain ⟨candidate, hcandidate, hlookup⟩ :=
      lookup_recoveryCandidates hcandidates hget hnamed
    rw [BroadcasterSubscriptionProcessor.recoveryCandidate] at hcandidate
    obtain ⟨bootstrapped, hbootstrapped, hcandidate⟩ := bind_eq_ok.mp hcandidate
    rw [check_bind_eq_ok] at hcandidate
    obtain ⟨caughtUp, hcaughtUp, hcandidate⟩ := bind_eq_ok.mp hcandidate.2
    rw [pure_eq_ok] at hcandidate
    refine ⟨bootstrapped, caughtUp, hbootstrapped, hcaughtUp, ?_⟩
    rw [behind, afterPublication, hlookup, ← hcandidate, htarget]
    rfl
  · -- a backend that the recovery does not name has no candidate
    have hnone : plan.candidates.lookup index = none := by
      rw [List.lookup_eq_none_iff]
      intro entry hentry
      rw [bne_iff_ne]
      rintro rfl
      obtain ⟨live, hlive, hnamed⟩ := (mem_map_fst_recoveryCandidates hcandidates).mp
        (List.mem_map_of_mem hentry)
      rw [hget, Option.some.injEq] at hlive
      exact hother (hlive ▸ hnamed)
    rw [behind, afterPublication, hnone]
  · refine ⟨plan.boundary.exclusiveMessageSeq + 1, rfl, ?_⟩
    rw [(commitBoundary_eq_ok hboundary).2.2, ← hwatermark]
    have hlast := hseq (List.ne_nil_of_length_pos (by omega))
    have := commitMessageSeq.toNat_lt
    rw [UInt64.toNat_add]
    simp only [UInt64.reduceToNat]
    omega

/-! ## Runs -/

/-- A commit that succeeds leaves no recovery open, and every processor live behind it. -/
theorem invariant_recoveryCommit {entry : BroadcasterRedisStreamEntry}
    (hinv : SubscriptionInvariant prepared)
    (h : applyRecoveryCommit codec prepared entry commit = .ok prepared') :
    SubscriptionInvariant prepared' := by
  rw [applyRecoveryCommit, check_bind_eq_ok] at h
  obtain ⟨-, h⟩ := h
  rcases hexec : exec (commitRecovery codec entry.messageSeq commit) prepared with
    ⟨error | ⟨⟩, committed⟩
  · rw [hexec] at h
    cases h
  rw [hexec] at h
  obtain rfl : committed = prepared' := pure_eq_ok.mp h
  rcases hplan : planCommit codec prepared entry.messageSeq commit with error | plan
  · rw [exec_commitRecovery, hplan] at hexec
    cases hexec
  rw [exec_commitRecovery_of_plan hplan] at hexec
  by_cases hseq : prepared.processors ≠ [] → entry.messageSeq.toNat ≠ 2 ^ 64 - 1
  · rw [exec_publishPlan hinv hplan hseq, Prod.mk.injEq] at hexec
    rw [← hexec.2]
    refine ⟨fun live hlive => ?_, fun _ => nofun⟩
    obtain ⟨before, hbefore, rfl⟩ := List.mem_map.mp hlive
    exact liveOn_published hinv hplan before hbefore
  · push Not at hseq
    obtain ⟨error, hrefused⟩ := exec_publishPlan_last hinv hplan hseq.2 hseq.1
    rw [hrefused] at hexec
    cases hexec

/-- **Every message** keeps the invariant. -/
theorem invariant_applyReplayMessage {message : ReplayMessage Sim}
    (hinv : SubscriptionInvariant prepared)
    (h : applyReplayMessage codec prepared message = .ok prepared') :
    SubscriptionInvariant prepared' := by
  rw [applyReplayMessage] at h
  split at h
  · rw [applyRecoveryMessage] at h
    split at h
    · exact invariant_recoveryStart hinv h
    · exact invariant_recoveryChunk hinv h
    · exact invariant_recoveryCatchUp hinv h
    · exact invariant_recoveryCommit hinv h
    · cases h
  case isFalse hordinary =>
    obtain ⟨processors, hprocessors, h⟩ := bind_eq_ok.mp h
    rw [pure_eq_ok] at h
    rw [← h]
    refine invariant_ordinary hinv ?_ hprocessors
    rw [Bool.or_eq_true, not_or, Option.not_isSome_iff_eq_none] at hordinary
    exact hordinary.2

/-- **The invariant holds along every run** of a subscription. -/
theorem invariant_reachable (h : (subscriptionMachine codec).Reachable prepared) :
    SubscriptionInvariant prepared := by
  refine h.invariant (fun s hinit => ?_) (fun s s' hinv hstep => ?_)
  · obtain ⟨processors, boundary, payloads, redisMaxlen, hprepare⟩ := hinit
    exact invariant_prepare hprepare
  · rcases hstep with ⟨message, happly⟩ | hmove
    · exact invariant_applyReplayMessage hinv happly
    · exact invariant_surroundings hinv hmove

/-- The commit passes its checks, and names a backend of the subscription. -/
def Publishes (codec : RecoveryCodec Sim) (prepared : PreparedBroadcasterRedisSubscription Sim)
    (commitMessageSeq : UInt64) (commit : BroadcasterRecoveryCommit) : Prop :=
  ∃ plan, planCommit codec prepared commitMessageSeq commit = .ok plan ∧
    ∃ live ∈ prepared.processors, live.processor.backend ∈ plan.recovery.manifest.backends

/-- Publication changes the version of a backend that is named. -/
theorem published_stores_ne {plan : CommitPlan Sim} (hinv : SubscriptionInvariant prepared)
    (h : planCommit codec prepared commitMessageSeq commit = .ok plan)
    {live : PreparedRedisProcessor Sim} (hlive : live ∈ prepared.processors)
    (hnamed : live.processor.backend ∈ plan.recovery.manifest.backends) :
    (prepared.published plan.recovery.manifest.targetStateVersion
        plan.candidates).processors.map (·.processor.store) ≠
      prepared.processors.map (·.processor.store) := by
  intro hsame
  obtain ⟨hrecovery, -, -, -, hcandidates⟩ := planCommit_eq_ok.mp h
  obtain ⟨index, hindex⟩ := List.getElem?_of_mem hlive
  obtain ⟨candidate, -, hlookup⟩ := lookup_recoveryCandidates hcandidates hindex hnamed
  have hversion := congrArg (fun stores => stores[index]?.map (·.version)) hsame
  simp only [PreparedBroadcasterRedisSubscription.published, List.getElem?_map,
    List.getElem?_mapIdx, hindex, Option.map_some, afterPublication, hlookup,
    Option.some.injEq] at hversion
  have holder := hinv.older _ hrecovery live hlive hnamed
  rw [← hversion] at holder
  exact absurd holder (UInt64.lt_irrefl _)

/-- A commit on a sound subscription is atomic, except for one that publishes at the last number. -/
theorem commitAtomic_iff (hinv : SubscriptionInvariant prepared) :
    CommitAtomic codec prepared commitMessageSeq commit ↔
      ¬ (commitMessageSeq.toNat = 2 ^ 64 - 1 ∧
        Publishes codec prepared commitMessageSeq commit) := by
  rw [CommitAtomic]
  rcases hplan : planCommit codec prepared commitMessageSeq commit with error | plan
  · -- refused by the checks: nothing was touched
    rw [exec_commitRecovery, hplan]
    refine iff_of_true rfl ?_
    rintro ⟨-, plan, hother, -⟩
    rw [hplan] at hother
    cases hother
  rw [exec_commitRecovery_of_plan hplan]
  by_cases hseq : prepared.processors ≠ [] → commitMessageSeq.toNat ≠ 2 ^ 64 - 1
  · obtain ⟨-, hcheck, -, -, -⟩ := planCommit_eq_ok.mp hplan
    rw [exec_publishPlan hinv hplan hseq]
    refine iff_of_true ⟨plan, rfl, (checkRecoveryCommit_eq_ok hcheck).2.2,
      commits_of_plan hplan hseq⟩ ?_
    rintro ⟨hlast, _, -, live, hlive, -⟩
    exact hseq (List.ne_nil_of_mem hlive) hlast
  · push Not at hseq
    obtain ⟨error, hrefused⟩ := exec_publishPlan_last hinv hplan hseq.2 hseq.1
    rw [hrefused]
    by_cases hnamed : ∃ live ∈ prepared.processors,
        live.processor.backend ∈ plan.recovery.manifest.backends
    · obtain ⟨live, hlive, hbackend⟩ := hnamed
      have hchanged := published_stores_ne hinv hplan hlive hbackend
      exact iff_of_false hchanged
        (not_not.mpr ⟨hseq.2, plan, hplan, live, hlive, hbackend⟩)
    · -- no candidate: the failure comes after an empty publication
      refine iff_of_true ?_ ?_
      · have hnone := candidates_eq_nil (planCommit_eq_ok.mp hplan).2.2.2.2 fun live hlive hbackend =>
          hnamed ⟨live, hlive, hbackend⟩
        rw [hnone, published_nil]
      · rintro ⟨-, other, hother, hlive⟩
        rw [hplan, Except.ok.injEq] at hother
        exact hnamed (hother ▸ hlive)

/-- **A recovery commits as a whole**: in every subscription that replaying a stream can reach,
every commit is atomic, except for one that publishes at the last sequence number there is. -/
theorem recovery_commit_atomic_iff (h : (subscriptionMachine codec).Reachable prepared) :
    CommitAtomic codec prepared commitMessageSeq commit ↔
      ¬ (commitMessageSeq.toNat = 2 ^ 64 - 1 ∧
        Publishes codec prepared commitMessageSeq commit) :=
  commitAtomic_iff (invariant_reachable h)

end

/-! ## A recovery at a given place of the stream

A backend with nothing but a sync status, recovered at the messages behind a base. With the base
three below the end of the numbers, the commit has the last number. -/

/-- An RFQ backend that has one protocol and no pool. -/
def statusPartition : BroadcasterSnapshotPartition Unit :=
  .new .rfq 2 [] ((∅ : SyncStatuses).insert "rfq:hashflow" (.fromSynchronizerState .started))

/-- Its snapshot. -/
def statusSession (snapshotId : String) : List (BroadcasterEnvelope Unit) :=
  [⟨"chain-1-5", 1, .snapshotStart ⟨snapshotId, 1, [.rfq], 1⟩⟩,
   ⟨"chain-1-5", 2, .snapshotChunk ⟨snapshotId, 0, [statusPartition]⟩⟩,
   ⟨"chain-1-5", 3, .snapshotEnd ⟨snapshotId⟩⟩]

/-- The JSON of `statusSession "snap-2"`. -/
def statusReplacementJson : String :=
  "[" ++ ("\x7b\"stream_id\":\"chain-1-5\",\"message_seq\":1,\"kind\":\"snapshot_start\"," ++
    "\"snapshotId\":\"snap-2\",\"chainId\":1,\"backends\":[\"rfq\"],\"totalChunks\":1\x7d," ++
    "\x7b\"stream_id\":\"chain-1-5\",\"message_seq\":2,\"kind\":\"snapshot_chunk\"," ++
    "\"snapshotId\":\"snap-2\",\"chunkIndex\":0,\"partitions\":[\x7b\"backend\":\"rfq\"," ++
    "\"blockNumber\":2," ++
    "\"syncStatuses\":\x7b\"rfq:hashflow\":\x7b\"kind\":\"started\"\x7d\x7d\x7d]\x7d," ++
    "\x7b\"stream_id\":\"chain-1-5\",\"message_seq\":3,\"kind\":\"snapshot_end\"," ++
    "\"snapshotId\":\"snap-2\"\x7d]")

/-- Its digest. -/
def statusDigest : String :=
  "0" ++ "091b9e12f69723c4b93448d08a10a658028ded99f0942c33e098123e3ff9138"

/-- The digest and the JSON of that snapshot. -/
def statusCodec : RecoveryCodec Unit where
  recoveryDigest text := if text = statusReplacementJson then statusDigest else ""
  decodeReplacement text :=
    if text = statusReplacementJson then .ok (statusSession "snap-2") else .error "not in this sample"
  merge := keepIncoming

/-- The boundary of the bootstrap, behind message `base`. -/
def statusBoundary (base : UInt64) : BroadcasterRedisReplayBoundary :=
  { streamKey := "deltas", streamId := "chain-1-5", snapshotId := "snap-1", generation := 5
    exclusiveMessageSeq := base, stateVersion := 7 }

/-- The processor of the RFQ backend before its bootstrap. -/
def statusProcessor : BroadcasterSubscriptionProcessor Unit where
  expectedChainId := 1
  backend := .rfq
  backendLabel := "rfq"
  decoder := { merge := fun _ update => update, decodeProtocolMessages := fun _ => .ok none }
  tokenSnapshot := ∅
  wrappedNativeToken := none
  store := .empty ∅ none
  tracker := .new
  rawSnapshot := ∅
  bootstrapRedisReplayBoundary := none

/-- The manifest of a recovery that starts behind `base`, whose chunk takes `size` bytes. -/
def statusManifest (base size : UInt64) : BroadcasterRecoveryManifest :=
  { recoveryId := "recovery-1", targetStateVersion := 8, backends := [.rfq], chunkCount := 1
    replacementEncodedBytes := 425, chunkEncodedBytes := [size], chunkDigests := [statusDigest]
    replacementDigest := statusDigest, bufferACount := 0, commitWatermark := base + 3 }

/-- The only chunk. -/
def statusRecoveryChunk (size : UInt64) : BroadcasterRecoveryChunk :=
  { recoveryId := "recovery-1", targetStateVersion := 8, backends := [.rfq], chunkIndex := 0
    encodedBytes := size, digest := statusDigest, payloadFragment := statusReplacementJson }

/-- The commit. -/
def statusCommit (base : UInt64) : BroadcasterRecoveryCommit :=
  { recoveryId := "recovery-1", targetStateVersion := 8, backends := [.rfq]
    replacementDigest := statusDigest, bufferACount := 0, commitWatermark := base + 3 }

/-- The JSON of the start. -/
def statusStartJson (base size : UInt64) : String :=
  "\x7b\"stream_id\":\"chain-1-5\",\"message_seq\":" ++ u64ToString (base + 1) ++
  ",\"kind\":\"recovery_start\",\"manifest\":\x7b\"recoveryId\":\"recovery-1\"," ++
  "\"targetStateVersion\":8,\"backends\":[\"rfq\"],\"chunkCount\":1," ++
  "\"replacementEncodedBytes\":425,\"chunkEncodedBytes\":[" ++ u64ToString size ++
  "],\"chunkDigests\":[\"" ++ statusDigest ++ "\"],\"replacementDigest\":\"" ++ statusDigest ++
  "\",\"bufferACount\":0,\"commitWatermark\":" ++ u64ToString (base + 3) ++ "\x7d\x7d"

/-- The JSON of the chunk. -/
def statusChunkJson (base size : UInt64) : String :=
  "\x7b\"stream_id\":\"chain-1-5\",\"message_seq\":" ++ u64ToString (base + 2) ++
  ",\"kind\":\"recovery_chunk\",\"recoveryId\":\"recovery-1\",\"targetStateVersion\":8," ++
  "\"backends\":[\"rfq\"],\"chunkIndex\":0,\"encodedBytes\":" ++ u64ToString size ++
  ",\"digest\":\"" ++ statusDigest ++ "\",\"payloadFragment\":\"" ++
  "[\x7b\\\"stream_id\\\":\\\"chain-1-5\\\",\\\"message_seq\\\":1," ++
  "\\\"kind\\\":\\\"snapshot_start\\\",\\\"snapshotId\\\":\\\"snap-2\\\",\\\"chainId\\\":1," ++
  "\\\"backends\\\":[\\\"rfq\\\"],\\\"totalChunks\\\":1\x7d," ++
  "\x7b\\\"stream_id\\\":\\\"chain-1-5\\\",\\\"message_seq\\\":2," ++
  "\\\"kind\\\":\\\"snapshot_chunk\\\",\\\"snapshotId\\\":\\\"snap-2\\\"," ++
  "\\\"chunkIndex\\\":0,\\\"partitions\\\":[\x7b\\\"backend\\\":\\\"rfq\\\"," ++
  "\\\"blockNumber\\\":2," ++
  "\\\"syncStatuses\\\":\x7b\\\"rfq:hashflow\\\":\x7b\\\"kind\\\":\\\"started\\\"\x7d\x7d\x7d]\x7d," ++
  "\x7b\\\"stream_id\\\":\\\"chain-1-5\\\",\\\"message_seq\\\":3," ++
  "\\\"kind\\\":\\\"snapshot_end\\\",\\\"snapshotId\\\":\\\"snap-2\\\"\x7d]" ++ "\"\x7d"

/-- An entry of the recovery. -/
def statusEntry (seq : UInt64) (kind : BroadcasterMessageKind) (payloadJson : String) :
    BroadcasterRedisStreamEntry :=
  { schemaVersion := redisStreamSchemaVersion, chainId := 1, streamId := "chain-1-5"
    messageSeq := seq, stateVersion := 8, kind, snapshotId := none, backendScope := "rfq"
    blockNumber := none, observedTimestampMs := none, publishedAtMs := 1000, payloadJson }

/-- A message of the recovery. -/
def statusMessage (seq : UInt64) (payload : BroadcasterPayload Unit) (payloadJson : String) :
    ReplayMessage Unit :=
  { entryId := "5-" ++ u64ToString seq
    entry := statusEntry seq payload.kind payloadJson
    envelope := ⟨"chain-1-5", seq, payload⟩
    checkpointAfter := .new (statusBoundary seq) 1 }

/-- The processor after its bootstrap. -/
def statusLive (base : UInt64) : PreparedRedisProcessor Unit where
  processor := { statusProcessor with
    store := alignBootstrapStateVersion (applyUpdate (.empty ∅ none) (snapshotPartitionUpdate
      statusPartition)).1 7
    tracker := ⟨.live "chain-1-5" 1 "snap-1" ([.rfq] : List BroadcasterBackend).toFinset,
      some (base + 1)⟩
    bootstrapRedisReplayBoundary := some (statusBoundary base) }
  replayBoundary := statusBoundary base

/-- The subscription after the bootstrap. -/
def statusBooted (base : UInt64) : PreparedBroadcasterRedisSubscription Unit :=
  { processors := [statusLive base], replayBoundary := statusBoundary base, recovery := none
    redisMaxlen := none }

/-- The subscription after the start of the recovery, with the chunks that have arrived. -/
def statusAssembled (base size : UInt64) (chunks : List BroadcasterRecoveryChunk) :
    PreparedBroadcasterRedisSubscription Unit :=
  { statusBooted base with
    processors := [{ statusLive base with
      processor := { (statusLive base).processor with
        store := fenceRequests (statusLive base).processor.store } }]
    recovery := some { manifest := statusManifest base size, chunks, bufferA := [] } }

theorem rustTrim_statusDigest : rustTrim statusDigest ≠ "" := by
  refine rustTrim_ne_empty (c := '0') ?_ (by decide)
  rw [statusDigest, String.toList_append]
  exact List.mem_append_left _ (by decide)

theorem rustTrim_statusReplacementJson : rustTrim statusReplacementJson ≠ "" := by
  refine rustTrim_ne_empty (c := '[') ?_ (by decide)
  rw [statusReplacementJson, String.toList_append]
  exact List.mem_append_left _ (by decide)

theorem rustTrim_recoveryId : rustTrim "recovery-1" ≠ "" := by decide

theorem validate_statusManifest {base size : UInt64} (hsize : size ≠ 0) (hlast : base + 3 ≠ 0) :
    validateRecoveryManifest (statusManifest base size) = .ok () := by
  simp only [validateRecoveryManifest, requireRecoveryText, check_bind_eq_ok, ensure_eq_ok,
    forM_eq_ok]
  refine ⟨rustTrim_recoveryId, rfl, rfl, nofun, rfl, rfl, nofun, ?_, ?_, rustTrim_statusDigest, hlast⟩
  · exact fun hmem => hsize (List.mem_singleton.mp hmem).symm
  · intro digest hdigest
    rw [List.mem_singleton.mp hdigest]
    exact rustTrim_statusDigest

theorem validate_statusRecoveryChunk {size : UInt64} (hsize : size ≠ 0) :
    validateRecoveryChunk (statusRecoveryChunk size) = .ok () := by
  simp only [validateRecoveryChunk, requireRecoveryText, check_bind_eq_ok, ensure_eq_ok]
  exact ⟨rustTrim_recoveryId, rfl, rfl, hsize, rustTrim_statusDigest,
    rustTrim_statusReplacementJson⟩

theorem statusCodec_digest : statusCodec.recoveryDigest statusReplacementJson = statusDigest := by
  simp only [statusCodec, if_true]

theorem statusCodec_decode :
    statusCodec.decodeReplacement statusReplacementJson = .ok (statusSession "snap-2") := by
  simp only [statusCodec, if_true]

/-- The start of the recovery is accepted after the bootstrap. -/
theorem start_applies {base size : UInt64} (hsize : size ≠ 0) (hlast : base + 3 ≠ 0)
    (hcommit : expectedCommit (base + 1) (statusManifest base size) = .ok (base + 3)) :
    applyReplayMessage statusCodec (statusBooted base)
        (statusMessage (base + 1) (.recoveryStart ⟨statusManifest base size⟩)
          (statusStartJson base size)) =
      .ok (statusAssembled base size []) := by
  change applyRecoveryStart (statusBooted base) _ (statusManifest base size) = _
  rw [applyRecoveryStart, validate_statusManifest hsize hlast]
  change (expectedCommit (base + 1) (statusManifest base size) >>= _) = _
  rw [hcommit]
  change (ensure (base + 3 = base + 3) _ >>= _) = _
  rw [ensure, if_pos rfl]
  rfl

/-- The chunk passes, if it names its own size. -/
theorem check_statusRecoveryChunk {base size : UInt64}
    (hencoded : replayEntryEncodedSize "deltas" none
      (statusEntry (base + 2) .recoveryChunk (statusChunkJson base size)) = .ok size.toNat) :
    checkRecoveryChunk statusCodec (statusAssembled base size [])
      { manifest := statusManifest base size, chunks := [], bufferA := [] }
      (statusEntry (base + 2) .recoveryChunk (statusChunkJson base size))
      (statusRecoveryChunk size) = .ok () := by
  simp only [checkRecoveryChunk, validateRecoveryIdentity, check_bind_eq_ok, ensure_eq_ok]
  refine ⟨⟨rfl, rfl⟩, rfl, rfl, Nat.one_pos, rfl, bind_eq_ok.mpr ⟨size.toNat, ?_, ?_⟩⟩
  · exact mapError_eq_ok.mpr hencoded
  · rw [check_bind_eq_ok, ensure_eq_ok, ensure_eq_ok]
    exact ⟨rfl, statusCodec_digest, congrArg some statusCodec_digest.symm⟩

/-- Its chunk is accepted next. -/
theorem chunk_applies {base size : UInt64} (hsize : size ≠ 0)
    (hencoded : replayEntryEncodedSize "deltas" none
      (statusEntry (base + 2) .recoveryChunk (statusChunkJson base size)) = .ok size.toNat) :
    applyReplayMessage statusCodec (statusAssembled base size [])
        (statusMessage (base + 2) (.recoveryChunk (statusRecoveryChunk size))
          (statusChunkJson base size)) =
      .ok (statusAssembled base size [statusRecoveryChunk size]) := by
  change applyRecoveryChunk statusCodec (statusAssembled base size [])
    (statusEntry (base + 2) .recoveryChunk (statusChunkJson base size))
    (statusRecoveryChunk size) = _
  rw [applyRecoveryChunk, validate_statusRecoveryChunk hsize]
  change (checkRecoveryChunk statusCodec (statusAssembled base size []) _
    (statusEntry (base + 2) .recoveryChunk (statusChunkJson base size))
    (statusRecoveryChunk size) >>= fun _ => _) = _
  rw [check_statusRecoveryChunk hencoded]
  rfl

/-- The subscription that has the start and the chunk of the recovery can be reached. -/
theorem status_reachable (base size : UInt64)
    (hboot : prepareBroadcasterRedisSubscription statusCodec [statusProcessor]
      (statusBoundary base) (statusSession "snap-1") none = .ok (statusBooted base))
    (hsize : size ≠ 0) (hlast : base + 3 ≠ 0)
    (hcommit : expectedCommit (base + 1) (statusManifest base size) = .ok (base + 3))
    (hencoded : replayEntryEncodedSize "deltas" none
      (statusEntry (base + 2) .recoveryChunk (statusChunkJson base size)) = .ok size.toNat) :
    (subscriptionMachine statusCodec).Reachable
      (statusAssembled base size [statusRecoveryChunk size]) := by
  refine ⟨statusBooted base, ⟨_, _, _, _, hboot⟩, ?_⟩
  exact .tail (.tail .refl (.inl ⟨_, start_applies hsize hlast hcommit⟩))
    (.inl ⟨_, chunk_applies hsize hencoded⟩)

theorem statusReplacement {base size : UInt64} :
    RecoveryAssembly.replacement statusCodec
        { manifest := statusManifest base size, chunks := [statusRecoveryChunk size]
          bufferA := [] } =
      .ok (statusSession "snap-2") := by
  have hjoin : String.join [statusReplacementJson] = statusReplacementJson := by
    rw [String.join, List.foldl_cons, List.foldl_nil, String.empty_append]
  have hlength : statusReplacementJson.utf8ByteSize = 425 := by decide +kernel
  simp only [RecoveryAssembly.replacement, check_bind_eq_ok, ensure_eq_ok]
  refine ⟨⟨?_, ?_⟩, mapError_eq_ok.mpr ?_⟩
  · exact (congrArg String.utf8ByteSize hjoin).trans hlength
  · exact (congrArg statusCodec.recoveryDigest hjoin).trans statusCodec_digest
  · exact (congrArg statusCodec.decodeReplacement hjoin).trans statusCodec_decode

/-- The commit passes its checks, and names the backend of the subscription. -/
theorem status_publishes (base size : UInt64) {seq : UInt64} (hseq : seq = base + 3) :
    Publishes statusCodec (statusAssembled base size [statusRecoveryChunk size]) seq
      (statusCommit base) := by
  subst hseq
  obtain ⟨candidates, hcandidates⟩ : ∃ candidates, recoveryCandidates statusCodec
      (statusAssembled base size [statusRecoveryChunk size]).processors
      { statusBoundary (base + 3) with stateVersion := 8 } (statusSession "snap-2")
      { manifest := statusManifest base size, chunks := [statusRecoveryChunk size], bufferA := [] } =
        .ok candidates := ⟨_, rfl⟩
  refine ⟨⟨_, _, _, candidates⟩, planCommit_eq_ok.mpr
    ⟨rfl, ?_, statusReplacement, mapError_eq_ok.mpr (boundary_new_eq_ok.mpr ?_), hcandidates⟩,
    _, List.mem_singleton_self _, List.mem_singleton_self _⟩
  · simp only [checkRecoveryCommit, validateRecoveryIdentity, check_bind_eq_ok, ensure_eq_ok]
    exact ⟨⟨rfl, rfl⟩, ⟨rfl, rfl, rfl, rfl, rfl⟩, rfl, rfl⟩
  · refine ⟨?_, ?_, ?_, nofun, rfl⟩
    · exact (by decide : rustTrim "deltas" ≠ "")
    · exact (by decide : rustTrim "chain-1-5" ≠ "")
    · exact (by decide : rustTrim "snap-1" ≠ "")

/-- A recovery behind message 10 commits as a whole. -/
theorem recovery_commit_atomic_at_thirteen :
    (subscriptionMachine statusCodec).Reachable
        (statusAssembled 10 1047 [statusRecoveryChunk 1047]) ∧
      Publishes statusCodec (statusAssembled 10 1047 [statusRecoveryChunk 1047]) 13
        (statusCommit 10) ∧
      CommitAtomic statusCodec (statusAssembled 10 1047 [statusRecoveryChunk 1047]) 13
        (statusCommit 10) := by
  have hreachable := status_reachable 10 1047 rfl (by decide) (by decide) (by decide)
    (by decide +kernel)
  refine ⟨hreachable, status_publishes 10 1047 (by decide), ?_⟩
  rw [recovery_commit_atomic_iff hreachable]
  rintro ⟨hlast, -⟩
  simp at hlast

/-- **The last number.** The commit of a recovery that starts three messages before the last number
publishes its candidate, and then fails to move the processor behind itself. -/
theorem last_commit_exposes_and_fails : ∃ prepared,
    (subscriptionMachine statusCodec).Reachable prepared ∧
      ¬ CommitAtomic statusCodec prepared 18446744073709551615
        (statusCommit 18446744073709551612) := by
  have hreachable := status_reachable 18446744073709551612 1103 rfl (by decide) (by decide)
    (by decide) (by decide +kernel)
  refine ⟨_, hreachable, ?_⟩
  rw [commitAtomic_iff (invariant_reachable hreachable), not_not]
  exact ⟨by simp, status_publishes 18446744073709551612 1103 (by decide)⟩

end TychoSimulationServer
