import TychoSimulationServer.ServiceControl

/-!
# Nothing is lost around a recovery

Whatever the feed and the workers do, the transaction that was handed over last and the updates the
publisher has accepted since then add up to the cached state. Under control of the recovery state,
a source and Buffer A replay to the cached partitions from the pin to the handover, and the
transaction and the accepted updates do from there on.

An update counts as cached as soon as Buffer A or the publisher has it: between that and its commit
the feed holds the lifecycle gate, so nobody pins a source there.
-/

namespace TychoSimulationServer

open Fallible

variable {Sim : Type}

/-! ## What a consumer replays

A consumer decodes the replacement and applies the updates behind it, in order. That has to be what
the cache holds, whenever the updates it was given are all of them. -/

section

variable (merge : StateSyncMerge)

/-- A replacement, and the updates behind it. -/
def replay (source : BroadcasterRecoverySource Sim) (updates : List (BroadcasterUpdateMessage Sim)) :
    Except SnapshotError (Partitions Sim) :=
  updates.foldlM (applyRawUpdateMessage merge) source.partitions

/-- The cached partitions, as of the last update that was passed on. -/
def ServiceWorld.expected (w : ServiceWorld Sim) : Except SnapshotError (Partitions Sim) :=
  match w.feed with
  | .committing staged => w.cache.commitRaw merge staged.message
  | _ => .ok w.cache.inner.partitions

end

/-- The update the feed is busy with is an ordinary one. -/
def FeedTask.Ordinary : FeedTask Sim → Prop
  | .publishing staged message =>
    staged.message = some message ∧
      ∃ protocols nextId, staged.applyMode = .rawNormal protocols nextId
  | .committing staged => ∃ protocols nextId, staged.applyMode = .rawNormal protocols nextId
  | _ => True

/-- Buffer A spans fewer complete native blocks than the publisher keeps. -/
def WithinBounds (maxBufferedNativeBlocks : Nat) (blocks : FinSet UInt64)
    (updates : List (BroadcasterUpdateMessage Sim)) : Prop :=
  updates = [] ∨ blocks.size < maxBufferedNativeBlocks ∧
    ∀ update ∈ updates, ∀ block, update.completeNativeBlock = some block → block ∈ blocks

/-- A source is pinned, and its worker has not begun. -/
def ServiceWorld.Pinned (w : ServiceWorld Sim) (source : BroadcasterRecoverySource Sim) : Prop :=
  (∃ workId, w.feed = .starting workId source) ∨
    w.workers w.recovery.workId = some (.reserving source)

section

variable (merge : StateSyncMerge) (serialisedLen : SerialisedLen Sim)
  (toJson : List (BroadcasterEnvelope Sim) → Except String String)
  (maxPayloadBytes maxBufferedNativeBlocks : Nat)

/-- **Data.** -/
structure ServiceData (w : ServiceWorld Sim) : Prop where
  ordinary : w.feed.Ordinary
  pinned : ∀ source, w.Pinned source →
    w.recovery.bufferA = [] ∧ source.partitions = w.cache.inner.partitions
  serializing : ∀ source, w.workers w.recovery.workId = some (.serializing source) →
    w.interrupted = false → replay merge source w.recovery.bufferA = w.expected merge
  building : w.recovery.phase = .building → w.superseded ≠ none
  bounded : w.recovery.phase = .building → w.recovery.cancelled = false →
    WithinBounds maxBufferedNativeBlocks w.recovery.completeNativeBlocks w.recovery.bufferA
  handover : ∀ t, w.handover = some t → w.superseded = none → w.interrupted = false →
    replay merge t.source (t.transaction.bufferA ++ w.live) = w.expected merge
  text : ∀ t, w.handover = some t →
    t.transaction.backends = w.cache.configuredBackends ∧
      w.cache.serializeRecoverySource serialisedLen toJson t.source maxPayloadBytes =
        .ok t.transaction.replacementJson
  spans : ∀ t, w.handover = some t →
    ∃ blocks, WithinBounds maxBufferedNativeBlocks blocks t.transaction.bufferA

end

section

variable {merge : StateSyncMerge} {serialisedLen : SerialisedLen Sim}
  {toJson : List (BroadcasterEnvelope Sim) → Except String String}
  {maxPayloadBytes maxBufferedNativeBlocks : Nat} {w w' : ServiceWorld Sim} {workId : UInt64}

/-! ### Replaying and committing -/

/-- A further update is applied to what was replayed. -/
theorem replay_append {source : BroadcasterRecoverySource Sim}
    {updates : List (BroadcasterUpdateMessage Sim)} {partitions : Partitions Sim}
    (h : replay merge source updates = .ok partitions) (update : BroadcasterUpdateMessage Sim) :
    replay merge source (updates ++ [update]) = applyRawUpdateMessage merge partitions update := by
  rw [replay] at h ⊢
  rw [List.foldlM_append, h]
  change [update].foldlM (applyRawUpdateMessage merge) partitions = _
  rw [List.foldlM_cons]
  cases applyRawUpdateMessage merge partitions update <;> rfl

/-- What is written as a replacement does not depend on the cached state. -/
theorem serializeRecoverySource_congr {cache cache' : BroadcasterSnapshotCache Sim}
    (hchainId : cache'.chainId = cache.chainId)
    (hbackends : cache'.configuredBackends = cache.configuredBackends)
    (source : BroadcasterRecoverySource Sim) :
    cache'.serializeRecoverySource serialisedLen toJson source maxPayloadBytes =
      cache.serializeRecoverySource serialisedLen toJson source maxPayloadBytes := by
  rw [BroadcasterSnapshotCache.serializeRecoverySource,
    BroadcasterSnapshotCache.serializeRecoverySource, hchainId, hbackends]

/-- Buffer A takes an update while a replacement is built. -/
theorem bufferUpdate_taken {recovery recovery' : RecoveryPublicationState Sim} {late : Bool}
    {update : BroadcasterUpdateMessage Sim}
    (h : recovery.bufferUpdate maxBufferedNativeBlocks late update = .ok (true, recovery')) :
    recovery.phase = .building ∧ recovery'.workId = recovery.workId ∧
      recovery'.phase = .building ∧ recovery'.bufferA = recovery.bufferA ++ [update] ∧
      (recovery'.cancelled = false →
        (recovery.cancelled = false →
          WithinBounds maxBufferedNativeBlocks recovery.completeNativeBlocks recovery.bufferA) →
        WithinBounds maxBufferedNativeBlocks recovery'.completeNativeBlocks recovery'.bufferA) := by
  obtain ⟨hworkId, hphase', -, -, htaken, -⟩ := bufferUpdate_cases h
  obtain ⟨hphase, hbufferA⟩ := htaken rfl
  refine ⟨hphase, hworkId, hphase' ▸ hphase, hbufferA, fun hcancelled hbounded => ?_⟩
  rw [RecoveryPublicationState.bufferUpdate.eq_def] at h
  dsimp only at h
  rw [hphase] at h
  cases h
  rw [Bool.or_eq_false_iff, Bool.or_eq_false_iff, decide_eq_false_iff_not, not_le] at hcancelled
  obtain ⟨⟨hquiet, -⟩, hfew⟩ := hcancelled
  refine .inr ⟨hfew, fun other hother block hblock => ?_⟩
  rcases List.mem_append.mp hother with hbefore | hlast
  · rcases hbounded hquiet with hempty | ⟨-, hcounted⟩
    · rw [hempty] at hbefore
      cases hbefore
    · have hblockBefore := hcounted other hbefore block hblock
      cases update.completeNativeBlock with
      | none => exact hblockBefore
      | some last => exact Std.ExtTreeSet.mem_insert.mpr (.inr hblockBefore)
  · rw [List.mem_singleton.mp hlast] at hblock
    rw [hblock]
    exact Std.ExtTreeSet.mem_insert_self

/-- An ordinary update is committed by applying it. -/
theorem commitStagedUpdate_ordinary {cache cache' : BroadcasterSnapshotCache Sim}
    {staged : BroadcasterStagedUpdate Sim} {protocols : FinSet String} {nextId : UInt64}
    (hmode : staged.applyMode = .rawNormal protocols nextId)
    (h : cache.commitStagedUpdate merge staged = .ok cache') :
    cache.commitRaw merge staged.message = .ok cache'.inner.partitions ∧
      cache'.chainId = cache.chainId ∧ cache'.configuredBackends = cache.configuredBackends := by
  rw [BroadcasterSnapshotCache.commitStagedUpdate, hmode] at h
  obtain ⟨partitions, hcommit, h⟩ := bind_eq_ok.mp h
  obtain rfl := pure_eq_ok.mp h
  exact ⟨hcommit, rfl, rfl⟩

/-- A recovery from the current state keeps what the cache is configured for. -/
theorem beginSameGenerationRecoveryFromCurrent_config (cache : BroadcasterSnapshotCache Sim) :
    cache.beginSameGenerationRecoveryFromCurrent.chainId = cache.chainId ∧
      cache.beginSameGenerationRecoveryFromCurrent.configuredBackends =
        cache.configuredBackends := by
  rw [BroadcasterSnapshotCache.beginSameGenerationRecoveryFromCurrent]
  split
  · exact ⟨rfl, rfl⟩
  · exact ⟨rfl, rfl⟩

/-- Between two updates the cache is what is expected. -/
theorem expected_of_not_committing (h : ∀ staged, w.feed ≠ .committing staged) :
    w.expected merge = .ok w.cache.inner.partitions := by
  rw [ServiceWorld.expected]
  split
  case h_1 staged hfeed => exact absurd hfeed (h staged)
  case h_2 => rfl

/-- Off the gate, no update is on its way. -/
theorem expected_of_free (h : w.feed.holdsGate = false) :
    w.expected merge = .ok w.cache.inner.partitions :=
  expected_of_not_committing fun staged hfeed => by
    rw [hfeed] at h
    cases h

/-! ### Frames -/

/-- **Nothing moves**: a step that keeps what a consumer replays, and what it adds up to. -/
theorem ServiceData.frame
    (h : ServiceData merge serialisedLen toJson maxPayloadBytes maxBufferedNativeBlocks w)
    (hchainId : w'.cache.chainId = w.cache.chainId)
    (hbackends : w'.cache.configuredBackends = w.cache.configuredBackends)
    (hordinary : w'.feed.Ordinary)
    (hpinned : ∀ source, w'.Pinned source →
      w'.recovery.bufferA = [] ∧ source.partitions = w'.cache.inner.partitions)
    (hserializing : ∀ source, w'.workers w'.recovery.workId = some (.serializing source) →
      w.workers w.recovery.workId = some (.serializing source) ∧
        w'.recovery.bufferA = w.recovery.bufferA)
    (hbuilding : w'.recovery.phase = .building → w'.superseded ≠ none)
    (hbounded : w'.recovery.phase = .building → w'.recovery.cancelled = false →
      WithinBounds maxBufferedNativeBlocks w'.recovery.completeNativeBlocks w'.recovery.bufferA)
    (hhandover : w'.handover = w.handover)
    (hlive : w'.superseded = none → w.superseded = none ∧ w'.live = w.live)
    (hexpected : w'.interrupted = false →
      w.interrupted = false ∧ w'.expected merge = w.expected merge) :
    ServiceData merge serialisedLen toJson maxPayloadBytes maxBufferedNativeBlocks w' := by
  constructor
  case ordinary => exact hordinary
  case pinned => exact hpinned
  case serializing =>
    intro source hsource hinterrupted
    obtain ⟨hbefore, hbuffer⟩ := hserializing source hsource
    obtain ⟨hquiet, hsame⟩ := hexpected hinterrupted
    rw [hbuffer, hsame]
    exact h.serializing source hbefore hquiet
  case building => exact hbuilding
  case bounded => exact hbounded
  case handover =>
    intro t ht hsuperseded hinterrupted
    obtain ⟨hbefore, hsameLive⟩ := hlive hsuperseded
    obtain ⟨hquiet, hsame⟩ := hexpected hinterrupted
    rw [hsameLive, hsame]
    exact h.handover t (hhandover ▸ ht) hbefore hquiet
  case text =>
    intro t ht
    rw [hbackends, serializeRecoverySource_congr hchainId hbackends]
    exact h.text t (hhandover ▸ ht)
  case spans => exact fun t ht => h.spans t (hhandover ▸ ht)

/-- **A fresh start**: what was handed over is superseded, and nobody serialises. -/
theorem ServiceData.fresh
    (h : ServiceData merge serialisedLen toJson maxPayloadBytes maxBufferedNativeBlocks w)
    (hchainId : w'.cache.chainId = w.cache.chainId)
    (hbackends : w'.cache.configuredBackends = w.cache.configuredBackends)
    (hordinary : w'.feed.Ordinary)
    (hpinned : ∀ source, w'.Pinned source →
      w'.recovery.bufferA = [] ∧ source.partitions = w'.cache.inner.partitions)
    (hserializing : ∀ source, w'.workers w'.recovery.workId ≠ some (.serializing source))
    (hbounded : w'.recovery.phase = .building → w'.recovery.cancelled = false →
      WithinBounds maxBufferedNativeBlocks w'.recovery.completeNativeBlocks w'.recovery.bufferA)
    (hhandover : w'.handover = w.handover) (hsuperseded : w'.superseded ≠ none) :
    ServiceData merge serialisedLen toJson maxPayloadBytes maxBufferedNativeBlocks w' := by
  constructor
  case ordinary => exact hordinary
  case pinned => exact hpinned
  case serializing => exact fun source hsource => absurd hsource (hserializing source)
  case building => exact fun _ => hsuperseded
  case bounded => exact hbounded
  case handover => exact fun t _ hnone => absurd hnone hsuperseded
  case text =>
    intro t ht
    rw [hbackends, serializeRecoverySource_congr hchainId hbackends]
    exact h.text t (hhandover ▸ ht)
  case spans => exact fun t ht => h.spans t (hhandover ▸ ht)

/-- **A step of the feed** that leaves the recovery alone. -/
theorem ServiceData.feed
    (h : ServiceData merge serialisedLen toJson maxPayloadBytes maxBufferedNativeBlocks w)
    (hcontrol : ServiceControl w) (hchainId : w'.cache.chainId = w.cache.chainId)
    (hbackends : w'.cache.configuredBackends = w.cache.configuredBackends)
    (hworkers : w'.workers = w.workers) (hrecovery : w'.recovery = w.recovery)
    (hhandover : w'.handover = w.handover) (hsuperseded : w'.superseded = w.superseded)
    (hlive : w'.live = w.live) (hordinary : w'.feed.Ordinary)
    (hstarting : ∀ workId source, w'.feed ≠ .starting workId source)
    (hpartitions : w.feed.holdsGate = false →
      w'.cache.inner.partitions = w.cache.inner.partitions)
    (hexpected : w'.interrupted = false →
      w.interrupted = false ∧ w'.expected merge = w.expected merge) :
    ServiceData merge serialisedLen toJson maxPayloadBytes maxBufferedNativeBlocks w' := by
  refine h.frame hchainId hbackends hordinary ?_ ?_ ?_ ?_ hhandover ?_ hexpected
  · rintro source (⟨workId, hfeed⟩ | hreserving)
    · exact absurd hfeed (hstarting workId source)
    · rw [hworkers, hrecovery] at hreserving
      rw [hrecovery, hpartitions (hcontrol.gate _ source hreserving).1]
      exact h.pinned source (.inr hreserving)
  · rw [hworkers, hrecovery]
    exact fun source hsource => ⟨hsource, rfl⟩
  · rw [hrecovery, hsuperseded]
    exact h.building
  · rw [hrecovery]
    exact h.bounded
  · rw [hsuperseded]
    exact fun hnone => ⟨hnone, hlive⟩

/-- **A step of a worker** that pins nothing and serialises nothing next. Only the current worker
changes Buffer A. -/
theorem ServiceData.worker
    (h : ServiceData merge serialisedLen toJson maxPayloadBytes maxBufferedNativeBlocks w)
    (hcontrol : ServiceControl w) {old : WorkerTask Sim} {new : Option (WorkerTask Sim)}
    (hold : w.workers workId = some old)
    (hworkers : w'.workers = Function.update w.workers workId new)
    (hworkId : w'.recovery.workId = w.recovery.workId) (hfeed : w'.feed = w.feed)
    (hcache : w'.cache = w.cache)
    (hnew : ∀ source, new ≠ some (.serializing source) ∧ new ≠ some (.reserving source))
    (hbuffer : w.recovery.workId ≠ workId → w'.recovery.bufferA = w.recovery.bufferA)
    (hbuilding : w'.recovery.phase = .building → w'.superseded ≠ none)
    (hbounded : w'.recovery.phase = .building → w'.recovery.cancelled = false →
      WithinBounds maxBufferedNativeBlocks w'.recovery.completeNativeBlocks w'.recovery.bufferA)
    (hhandover : w'.handover = w.handover)
    (hlive : w'.superseded = none → w.superseded = none ∧ w'.live = w.live)
    (hinterrupted : w'.interrupted = w.interrupted) :
    ServiceData merge serialisedLen toJson maxPayloadBytes maxBufferedNativeBlocks w' := by
  have hexpected : w'.expected merge = w.expected merge := by
    rw [ServiceWorld.expected, ServiceWorld.expected, hfeed, hcache]
  -- a task of the current worker that needs Buffer A was there before
  have hkept : ∀ source task, task = .serializing source ∨ task = .reserving source →
      w'.workers w'.recovery.workId = some task →
      w.workers w.recovery.workId = some task ∧ w.recovery.workId ≠ workId := by
    intro source task htask hcurrent
    rw [hworkers, hworkId] at hcurrent
    by_cases hid : w.recovery.workId = workId
    · rw [hid, Function.update_self] at hcurrent
      rcases htask with rfl | rfl
      · exact absurd hcurrent (hnew source).1
      · exact absurd hcurrent (hnew source).2
    · rw [Function.update_of_ne hid] at hcurrent
      exact ⟨hcurrent, hid⟩
  refine h.frame (by rw [hcache]) (by rw [hcache]) (by rw [hfeed]; exact h.ordinary) ?_ ?_
    hbuilding hbounded hhandover hlive fun hquiet => ⟨by rw [← hinterrupted, hquiet], hexpected⟩
  · rw [hcache]
    rintro source (⟨id, hstarting⟩ | hreserving)
    · rw [hfeed] at hstarting
      obtain ⟨rfl, hnone, -⟩ := hcontrol.starting id source hstarting
      rw [hbuffer ?_]
      · exact h.pinned source (.inl ⟨_, hstarting⟩)
      · rintro rfl
        rw [hnone] at hold
        cases hold
    · obtain ⟨hbefore, hid⟩ := hkept source _ (.inr rfl) hreserving
      rw [hbuffer hid]
      exact h.pinned source (.inr hbefore)
  · intro source hsource
    obtain ⟨hbefore, hid⟩ := hkept source _ (.inl rfl) hsource
    exact ⟨hbefore, hbuffer hid⟩

/-- A worker ends, or goes on without a look at the recovery state. -/
theorem ServiceData.setWorker
    (h : ServiceData merge serialisedLen toJson maxPayloadBytes maxBufferedNativeBlocks w)
    (hcontrol : ServiceControl w) {old : WorkerTask Sim} {new : Option (WorkerTask Sim)}
    (hold : w.workers workId = some old)
    (hnew : ∀ source, new ≠ some (.serializing source) ∧ new ≠ some (.reserving source)) :
    ServiceData merge serialisedLen toJson maxPayloadBytes maxBufferedNativeBlocks
      { w with workers := Function.update w.workers workId new } :=
  h.worker hcontrol hold rfl rfl rfl rfl hnew (fun _ => rfl) h.building h.bounded
    rfl (fun hnone => ⟨hnone, rfl⟩) rfl

/-- A worker serialises the source that was pinned for it. -/
theorem ServiceData.serialize
    (h : ServiceData merge serialisedLen toJson maxPayloadBytes maxBufferedNativeBlocks w)
    {source : BroadcasterRecoverySource Sim} {recoveryId : String} {full : Bool}
    (hpinned : w.Pinned source) (hcache : w'.cache = w.cache)
    (hphase : w.recovery.phase = .building)
    (hrecovery : w'.recovery = w.recovery.reserve recoveryId full)
    (hcurrent : w'.workers w.recovery.workId = some (.serializing source))
    (hfeed : w'.feed.holdsGate = false) (hhandover : w'.handover = w.handover)
    (hsuperseded : w'.superseded = w.superseded) :
    ServiceData merge serialisedLen toJson maxPayloadBytes maxBufferedNativeBlocks w' := by
  obtain ⟨hbuffer, hpartitions⟩ := h.pinned source hpinned
  have hnotNone : w'.superseded ≠ none := hsuperseded ▸ h.building hphase
  have hempty : w'.recovery.bufferA = [] := by
    rw [hrecovery]
    exact hbuffer
  have hworkId : w'.recovery.workId = w.recovery.workId := by
    rw [hrecovery]
    rfl
  rw [← hworkId] at hcurrent
  constructor
  case ordinary =>
    cases hnext : w'.feed with
    | publishing staged message =>
      rw [hnext] at hfeed
      cases hfeed
    | committing staged =>
      rw [hnext] at hfeed
      cases hfeed
    | _ => trivial
  case pinned =>
    rintro source' (⟨id, hstarting⟩ | hreserving)
    · rw [hstarting] at hfeed
      cases hfeed
    · rw [hcurrent] at hreserving
      cases hreserving
  case serializing =>
    intro source' hsource _
    rw [hcurrent] at hsource
    cases hsource
    rw [expected_of_free hfeed, hempty, hcache, ← hpartitions]
    rfl
  case building => exact fun _ => hnotNone
  case bounded => exact fun _ _ => .inl hempty
  case handover => exact fun t _ hnone => absurd hnone hnotNone
  case text =>
    rw [hhandover, hcache]
    exact h.text
  case spans =>
    rw [hhandover]
    exact h.spans

/-! ### The feed

An update is committed behind the gate, and handed over, buffered or published first. -/

theorem ServiceData.enterFeed
    (h : ServiceData merge serialisedLen toJson maxPayloadBytes maxBufferedNativeBlocks w)
    (hcontrol : ServiceControl w) {feed : FeedMessage} (hidle : w.feed = .idle) :
    ServiceData merge serialisedLen toJson maxPayloadBytes maxBufferedNativeBlocks
      (w.enterFeed feed) := by
  have hbefore : w.expected merge = .ok w.cache.inner.partitions :=
    expected_of_free (by rw [hidle]; rfl)
  rw [ServiceWorld.enterFeed]
  split
  all_goals
    refine h.feed hcontrol rfl rfl rfl rfl rfl rfl rfl trivial (by rintro _ _ ⟨⟩) (fun _ => rfl) ?_
    exact fun hquiet => ⟨hquiet, hbefore.symm⟩

/-- The feed fails, and has changed nothing. -/
theorem ServiceData.failed
    (h : ServiceData merge serialisedLen toJson maxPayloadBytes maxBufferedNativeBlocks w)
    (hcontrol : ServiceControl w) (hfeed : ∀ staged, w.feed ≠ .committing staged) :
    ServiceData merge serialisedLen toJson maxPayloadBytes maxBufferedNativeBlocks
      { w with feed := .failed } := by
  refine h.feed hcontrol rfl rfl rfl rfl rfl rfl rfl trivial (by rintro _ _ ⟨⟩) (fun _ => rfl) ?_
  exact fun hquiet => ⟨hquiet, (expected_of_not_committing hfeed).symm⟩

/-- Buffer A takes an update. -/
theorem ServiceData.buffered
    (h : ServiceData merge serialisedLen toJson maxPayloadBytes maxBufferedNativeBlocks w)
    {late : Bool} {message : BroadcasterUpdateMessage Sim}
    {recovery : RecoveryPublicationState Sim} {protocols : FinSet String} {nextId : UInt64}
    (hfree : w.GateIsFree)
    (hbuffer : w.recovery.bufferUpdate maxBufferedNativeBlocks late message =
      .ok (true, recovery)) :
    ServiceData merge serialisedLen toJson maxPayloadBytes maxBufferedNativeBlocks
      { w with
        recovery
        feed := .committing ⟨some message, .rawNormal protocols nextId, false, none⟩ } := by
  obtain ⟨hphase, hworkId, hphase', hbufferA, hcounted⟩ := bufferUpdate_taken hbuffer
  constructor
  case ordinary => exact ⟨protocols, nextId, rfl⟩
  case pinned =>
    rintro source (⟨id, hstarting⟩ | hreserving)
    · cases hstarting
    · exact absurd hreserving (hfree.2 _ source)
  case serializing =>
    intro source hsource hquiet
    change w.workers recovery.workId = _ at hsource
    rw [hworkId] at hsource
    have hbefore := h.serializing source hsource hquiet
    rw [expected_of_free hfree.1] at hbefore
    change replay merge source recovery.bufferA = applyRawUpdateMessage merge _ message
    rw [hbufferA]
    exact replay_append hbefore message
  case building => exact fun _ => h.building hphase
  case bounded =>
    intro _ hcancelled
    exact hcounted hcancelled (h.bounded hphase)
  case handover => exact fun t _ hnone => absurd hnone (h.building hphase)
  case text => exact h.text
  case spans => exact h.spans

/-- Nobody has pinned a source when the feed goes on behind the gate. -/
theorem ServiceWorld.Pinned.not_held {source : BroadcasterRecoverySource Sim}
    (h : w'.Pinned source) (hcontrol : ServiceControl w) (hworkers : w'.workers = w.workers)
    (hworkId : w'.recovery.workId = w.recovery.workId)
    (hfeed : ∀ id source, w'.feed ≠ .starting id source) : w.feed.holdsGate ≠ true := by
  intro hheld
  rcases h with ⟨id, hstarting⟩ | hreserving
  · exact hfeed id source hstarting
  · rw [hworkers, hworkId] at hreserving
    have hfree := (hcontrol.gate _ source hreserving).1
    rw [hheld] at hfree
    cases hfree

/-- Nobody has pinned a source before there is a worker. -/
theorem ServiceWorld.Pinned.hasWorker {source : BroadcasterRecoverySource Sim}
    (h : w.Pinned source) (hfeed : ∀ id source, w.feed ≠ .starting id source) :
    w.workers w.recovery.workId ≠ none := by
  rcases h with ⟨id, hstarting⟩ | hreserving
  · exact absurd hstarting (hfeed id source)
  · rw [hreserving]
    rintro ⟨⟩

/-- A message **is staged**, and may start a recovery. -/
theorem ServiceData.applyFeed
    (h : ServiceData merge serialisedLen toJson maxPayloadBytes maxBufferedNativeBlocks w)
    (hcontrol : ServiceControl w) (hroom : w.HasRoom) {feed : FeedMessage} {late : Bool}
    (hentered : w.feed = .entered feed) (hfree : w.GateIsFree) :
    ServiceData merge serialisedLen toJson maxPayloadBytes maxBufferedNativeBlocks
      (w.applyFeed merge maxBufferedNativeBlocks feed late) := by
  have hbefore : w.expected merge = .ok w.cache.inner.partitions := expected_of_free hfree.1
  have hfailed := h.failed hcontrol (by rw [hentered]; rintro _ ⟨⟩)
  rw [ServiceWorld.applyFeed]
  cases hstaged : w.cache.stageFeedMessage merge feed with
  | error error => exact hfailed
  | ok staged =>
    cases stageFeedMessage_cases hstaged with
    | update message protocols nextId =>
      change ServiceData _ _ _ _ _ (w.passOn maxBufferedNativeBlocks late _ message)
      rw [ServiceWorld.passOn]
      cases hbuffer : w.recovery.bufferUpdate maxBufferedNativeBlocks late message with
      | error error => exact hfailed
      | ok result =>
        obtain ⟨taken, recovery⟩ := result
        cases taken with
        | true => exact h.buffered hfree hbuffer
        | false =>
          obtain ⟨hworkId, hphase, -, -, -, hdirect⟩ := bufferUpdate_cases hbuffer
          obtain ⟨hnotBuilding, hbufferA⟩ := hdirect rfl
          rw [← hphase] at hnotBuilding
          refine h.frame rfl rfl ⟨rfl, protocols, nextId, rfl⟩ ?_ ?_
            (fun hbuilding => absurd hbuilding hnotBuilding)
            (fun hbuilding => absurd hbuilding hnotBuilding) rfl (fun hnone => ⟨hnone, rfl⟩)
            (fun hquiet => ⟨hquiet, hbefore.symm⟩)
          · rintro source (⟨id, hstarting⟩ | hreserving)
            · cases hstarting
            · exact absurd hreserving (hfree.2 _ source)
          · intro source hsource
            change w.workers recovery.workId = _ at hsource
            rw [hworkId] at hsource
            exact ⟨hsource, hbufferA⟩
    | ready candidates protocols nextId recoveryId =>
      refine h.fresh rfl rfl trivial ?_ ?_ (fun _ _ => .inl rfl) rfl (by rintro ⟨⟩)
      · rintro source (⟨id, hstarting⟩ | hreserving)
        · cases hstarting
          exact ⟨rfl, rfl⟩
        · exact absurd hreserving (hfree.2 _ source)
      · intro source
        change w.workers (saturatingSucc w.recovery.workId) ≠ _
        rw [hcontrol.noWorker_next hroom]
        rintro ⟨⟩
    | waiting protocols pending nextId =>
      refine h.feed hcontrol rfl rfl rfl rfl rfl rfl rfl trivial (by rintro _ _ ⟨⟩) (fun _ => rfl) ?_
      exact fun hquiet => ⟨hquiet, hbefore.symm⟩

theorem ServiceData.spawnWorker
    (h : ServiceData merge serialisedLen toJson maxPayloadBytes maxBufferedNativeBlocks w)
    (hcontrol : ServiceControl w) {source : BroadcasterRecoverySource Sim} {recoveryId : String}
    {full : Bool} (hstarting : w.feed = .starting workId source) :
    ServiceData merge serialisedLen toJson maxPayloadBytes maxBufferedNativeBlocks
      (w.spawnWorker workId source recoveryId full) := by
  obtain ⟨rfl, -, hbuilding⟩ := hcontrol.starting workId source hstarting
  have hgo : ¬(w.recovery.workId ≠ w.recovery.workId ∨ w.recovery.phase ≠ .building) := by
    rw [not_or, not_not, not_not]
    exact ⟨rfl, hbuilding⟩
  rw [ServiceWorld.spawnWorker, if_neg hgo]
  exact h.serialize (.inl ⟨_, hstarting⟩) rfl hbuilding rfl (Function.update_self ..) rfl rfl rfl

/-- The publisher has an update: it counts as cached from here on. -/
theorem ServiceData.accept
    (h : ServiceData merge serialisedLen toJson maxPayloadBytes maxBufferedNativeBlocks w)
    (hcontrol : ServiceControl w) {staged : BroadcasterStagedUpdate Sim}
    {message : BroadcasterUpdateMessage Sim} (hpublishing : w.feed = .publishing staged message) :
    ServiceData merge serialisedLen toJson maxPayloadBytes maxBufferedNativeBlocks
      (w.accept staged message) := by
  have hordinary := h.ordinary
  rw [hpublishing] at hordinary
  obtain ⟨hmessage, hmode⟩ := hordinary
  have hbefore : w.expected merge = .ok w.cache.inner.partitions :=
    expected_of_not_committing (by rw [hpublishing]; rintro _ ⟨⟩)
  have hafter : (w.accept staged message).expected merge =
      applyRawUpdateMessage merge w.cache.inner.partitions message := by
    change w.cache.commitRaw merge staged.message = _
    rw [hmessage]
    rfl
  constructor
  case ordinary => exact hmode
  case pinned =>
    rintro source (⟨id, hstarting⟩ | hreserving)
    · cases hstarting
    · have hfree := (hcontrol.gate _ source hreserving).1
      rw [hpublishing] at hfree
      cases hfree
  case serializing =>
    exact fun source hsource => absurd hsource (hcontrol.publishing staged message hpublishing source)
  case building => exact h.building
  case bounded => exact h.bounded
  case handover =>
    intro t ht hnone hquiet
    have hreplay := h.handover t ht hnone hquiet
    rw [hbefore] at hreplay
    change replay merge t.source (t.transaction.bufferA ++ (w.live ++ [message])) = _
    rw [hafter, ← List.append_assoc]
    exact replay_append hreplay message
  case text => exact h.text
  case spans => exact h.spans

/-- An update that is too large is left to the next replacement. -/
theorem ServiceData.retainOversized
    (h : ServiceData merge serialisedLen toJson maxPayloadBytes maxBufferedNativeBlocks w)
    (hcontrol : ServiceControl w)
    {staged : BroadcasterStagedUpdate Sim} {message : BroadcasterUpdateMessage Sim}
    {cache : BroadcasterSnapshotCache Sim} (hpublishing : w.feed = .publishing staged message)
    (hcommit : w.cache.commitStagedUpdate merge staged = .ok cache) :
    ServiceData merge serialisedLen toJson maxPayloadBytes maxBufferedNativeBlocks
      (w.retainOversized cache) := by
  have hordinary := h.ordinary
  rw [hpublishing] at hordinary
  obtain ⟨-, protocols, nextId, hmode⟩ := hordinary
  obtain ⟨-, hchainId, hbackends⟩ := commitStagedUpdate_ordinary hmode hcommit
  obtain ⟨hsameChain, hsameBackends⟩ := beginSameGenerationRecoveryFromCurrent_config cache
  refine h.fresh (hsameChain.trans hchainId) (hsameBackends.trans hbackends) trivial
    (fun source hpinned => ?_)
    (hcontrol.publishing staged message hpublishing) h.bounded rfl (by rintro ⟨⟩)
  refine absurd ?_ (hpinned.not_held hcontrol rfl rfl (by rintro _ _ ⟨⟩))
  rw [hpublishing]
  rfl

/-- The update that was passed on is committed. -/
theorem ServiceData.commit
    (h : ServiceData merge serialisedLen toJson maxPayloadBytes maxBufferedNativeBlocks w)
    (hcontrol : ServiceControl w) {staged : BroadcasterStagedUpdate Sim}
    {cache : BroadcasterSnapshotCache Sim} (hcommitting : w.feed = .committing staged)
    (hcommit : w.cache.commitStagedUpdate merge staged = .ok cache) :
    ServiceData merge serialisedLen toJson maxPayloadBytes maxBufferedNativeBlocks
      { w with cache, feed := .idle } := by
  have hordinary := h.ordinary
  rw [hcommitting] at hordinary
  obtain ⟨protocols, nextId, hmode⟩ := hordinary
  obtain ⟨hraw, hchainId, hbackends⟩ := commitStagedUpdate_ordinary hmode hcommit
  refine h.feed hcontrol hchainId hbackends rfl rfl rfl rfl rfl trivial (by rintro _ _ ⟨⟩) ?_ ?_
  · rw [hcommitting]
    rintro ⟨⟩
  · refine fun hquiet => ⟨hquiet, ?_⟩
    rw [ServiceWorld.expected.eq_def _ w, hcommitting]
    exact hraw.symm

/-- A commit fails: nothing is promised until the next source is pinned. -/
theorem ServiceData.leaveHalf
    (h : ServiceData merge serialisedLen toJson maxPayloadBytes maxBufferedNativeBlocks w)
    (hcontrol : ServiceControl w) {partitions : Partitions Sim}
    (hheld : w.feed.holdsGate = true) :
    ServiceData merge serialisedLen toJson maxPayloadBytes maxBufferedNativeBlocks
      (w.leaveHalf partitions) := by
  refine h.feed hcontrol rfl rfl rfl rfl rfl rfl rfl trivial (by rintro _ _ ⟨⟩) ?_ (by rintro ⟨⟩)
  rw [hheld]
  rintro ⟨⟩

/-- The feed fails. With no backend but RFQ the cache is reset. -/
theorem ServiceData.disconnect
    (h : ServiceData merge serialisedLen toJson maxPayloadBytes maxBufferedNativeBlocks w)
    (hcontrol : ServiceControl w) (hroom : w.HasRoom) (hfailed : w.feed = .failed) :
    ServiceData merge serialisedLen toJson maxPayloadBytes maxBufferedNativeBlocks
      w.disconnect := by
  have hnone := hcontrol.noWorker_next hroom
  rw [ServiceWorld.disconnect]
  split
  · have hbefore : w.expected merge = .ok w.cache.inner.partitions :=
      expected_of_free (by rw [hfailed]; rfl)
    refine h.frame rfl rfl trivial ?_ ?_ (by rintro ⟨⟩) (by rintro ⟨⟩) rfl (fun hnone => ⟨hnone, rfl⟩)
      fun hquiet => ⟨hquiet, hbefore.symm⟩
    · exact fun source hpinned => absurd hnone (hpinned.hasWorker (by rintro _ _ ⟨⟩))
    · intro source hsource
      cases hnone.symm.trans hsource
  · refine h.fresh rfl rfl trivial ?_ ?_ (by rintro ⟨⟩) rfl (by rintro ⟨⟩)
    · exact fun source hpinned => absurd hnone (hpinned.hasWorker (by rintro _ _ ⟨⟩))
    · intro source hsource
      cases hnone.symm.trans hsource

/-! ### The workers

A worker that takes over hands the replacement and the buffer to the publisher at one instant. -/

theorem ServiceData.terminateWorker
    (h : ServiceData merge serialisedLen toJson maxPayloadBytes maxBufferedNativeBlocks w)
    (hcontrol : ServiceControl w) {task : WorkerTask Sim} {reason : String}
    (htask : w.workers workId = some task) :
    ServiceData merge serialisedLen toJson maxPayloadBytes maxBufferedNativeBlocks
      (w.terminateWorker workId reason) := by
  rw [ServiceWorld.terminateWorker]
  split
  · exact h.worker hcontrol htask rfl rfl rfl rfl (fun _ => ⟨by rintro ⟨⟩, by rintro ⟨⟩⟩)
      (fun _ => rfl) (by rintro ⟨⟩) (by rintro ⟨⟩) rfl (fun hnone => ⟨hnone, rfl⟩) rfl
  · exact h.setWorker hcontrol htask fun _ => ⟨by rintro ⟨⟩, by rintro ⟨⟩⟩

/-- **The handover.** Buffer A leaves with the transaction. -/
theorem ServiceData.takeOver
    (h : ServiceData merge serialisedLen toJson maxPayloadBytes maxBufferedNativeBlocks w)
    (hcontrol : ServiceControl w) {source : BroadcasterRecoverySource Sim}
    {replacementJson : String} (htask : w.workers workId = some (.serializing source))
    (hjson : w.cache.serializeRecoverySource serialisedLen toJson source maxPayloadBytes =
      .ok replacementJson) :
    ServiceData merge serialisedLen toJson maxPayloadBytes maxBufferedNativeBlocks
      (w.takeOver workId source replacementJson) := by
  rw [ServiceWorld.takeOver]
  split
  · exact h.setWorker hcontrol htask fun _ => ⟨by rintro ⟨⟩, by rintro ⟨⟩⟩
  case isFalse hgo =>
    rw [not_or, not_not, not_not] at hgo
    obtain ⟨rfl, hbuilding⟩ := hgo
    split
    · exact h.setWorker hcontrol htask fun _ => ⟨by rintro ⟨⟩, by rintro ⟨⟩⟩
    case isFalse hquietFlag =>
      rw [Bool.not_eq_true] at hquietFlag
      cases hreserved : w.recovery.publisherRecoveryId with
      | none =>
        change ServiceData _ _ _ _ _ (ServiceWorld.terminateWorker _ _ _)
        rw [ServiceWorld.terminateWorker, if_pos ⟨rfl, rfl⟩]
        exact h.worker hcontrol htask rfl rfl rfl rfl (fun _ => ⟨by rintro ⟨⟩, by rintro ⟨⟩⟩)
          (fun hne => absurd rfl hne) (by rintro ⟨⟩) (by rintro ⟨⟩) rfl (fun hnone => ⟨hnone, rfl⟩) rfl
      | some recoveryId =>
        -- the worker publishes now, so it neither serialises nor reserves
        have hnew : ∀ source' : BroadcasterRecoverySource Sim, ∀ task,
            task = WorkerTask.serializing source' ∨ task = .reserving source' →
            ∀ transaction, Function.update w.workers w.recovery.workId
              (some (.publishing transaction)) w.recovery.workId ≠ some task := by
          rintro source' task htask transaction
          rw [Function.update_self]
          rcases htask with rfl | rfl
          · rintro ⟨⟩
          · rintro ⟨⟩
        constructor
        case ordinary => exact h.ordinary
        case pinned =>
          rintro source' (⟨id, hstarting⟩ | hreserving)
          · obtain ⟨rfl, hnone, -⟩ := hcontrol.starting id source' hstarting
            rw [hnone] at htask
            cases htask
          · exact absurd hreserving (hnew source' _ (.inr rfl) _)
        case serializing => exact fun source' hsource => absurd hsource (hnew source' _ (.inl rfl) _)
        case building => rintro ⟨⟩
        case bounded => rintro ⟨⟩
        case handover =>
          -- nothing is live yet: the replay is the pinned cache with Buffer A, as while serialising
          rintro t ⟨⟩ - hquiet
          change replay merge source (w.recovery.bufferA ++ []) = _
          rw [List.append_nil]
          exact h.serializing source htask hquiet
        case text =>
          rintro t ⟨⟩
          exact ⟨rfl, hjson⟩
        case spans =>
          rintro t ⟨⟩
          exact ⟨_, h.bounded hbuilding hquietFlag⟩

theorem ServiceData.startDraining
    (h : ServiceData merge serialisedLen toJson maxPayloadBytes maxBufferedNativeBlocks w)
    (hcontrol : ServiceControl w) (htask : w.workers workId = some .published) :
    ServiceData merge serialisedLen toJson maxPayloadBytes maxBufferedNativeBlocks
      (w.startDraining workId) := by
  rw [ServiceWorld.startDraining]
  split
  · exact h.setWorker hcontrol htask fun _ => ⟨by rintro ⟨⟩, by rintro ⟨⟩⟩
  · exact h.worker hcontrol htask rfl rfl rfl rfl (fun _ => ⟨by rintro ⟨⟩, by rintro ⟨⟩⟩)
      (fun _ => rfl) (by rintro ⟨⟩) (by rintro ⟨⟩) rfl (fun hnone => ⟨hnone, rfl⟩) rfl

theorem ServiceData.finishRecovery
    (h : ServiceData merge serialisedLen toJson maxPayloadBytes maxBufferedNativeBlocks w)
    (hcontrol : ServiceControl w) (htask : w.workers workId = some .draining) :
    ServiceData merge serialisedLen toJson maxPayloadBytes maxBufferedNativeBlocks
      (w.finishRecovery workId) := by
  rw [ServiceWorld.finishRecovery]
  split
  · exact h.setWorker hcontrol htask fun _ => ⟨by rintro ⟨⟩, by rintro ⟨⟩⟩
  · exact h.worker hcontrol htask rfl rfl rfl rfl (fun _ => ⟨by rintro ⟨⟩, by rintro ⟨⟩⟩)
      (fun _ => rfl) (by rintro ⟨⟩) (by rintro ⟨⟩) rfl (fun hnone => ⟨hnone, rfl⟩) rfl

/-- The current worker starts over: what was handed over is superseded. -/
theorem ServiceData.retry
    (h : ServiceData merge serialisedLen toJson maxPayloadBytes maxBufferedNativeBlocks w)
    (hcontrol : ServiceControl w) {task : WorkerTask Sim} {localFailures : Nat}
    (htask : w.workers workId = some task) (hid : w.recovery.workId = workId) :
    ServiceData merge serialisedLen toJson maxPayloadBytes maxBufferedNativeBlocks
      ({ w with recovery.localFailures := localFailures }.retry workId) :=
  h.worker hcontrol htask rfl rfl rfl rfl (fun _ => ⟨by rintro ⟨⟩, by rintro ⟨⟩⟩)
    (fun hne => absurd hid hne) (by rintro - ⟨⟩) (fun _ _ => .inl rfl) rfl (by rintro ⟨⟩) rfl

theorem ServiceData.handleLocalFailure
    (h : ServiceData merge serialisedLen toJson maxPayloadBytes maxBufferedNativeBlocks w)
    (hcontrol : ServiceControl w) {reason : String}
    (htask : w.workers workId = some (.failedLocally reason)) :
    ServiceData merge serialisedLen toJson maxPayloadBytes maxBufferedNativeBlocks
      (w.handleLocalFailure workId reason) := by
  rw [ServiceWorld.handleLocalFailure]
  split
  · exact h.setWorker hcontrol htask fun _ => ⟨by rintro ⟨⟩, by rintro ⟨⟩⟩
  case isFalse hid =>
    split
    · exact h.worker hcontrol htask rfl rfl rfl rfl (fun _ => ⟨by rintro ⟨⟩, by rintro ⟨⟩⟩)
        (fun _ => rfl) (by rintro ⟨⟩) (by rintro ⟨⟩) rfl (fun hnone => ⟨hnone, rfl⟩) rfl
    · exact h.retry hcontrol htask (not_not.mp hid)

/-- A worker that waits finds the recovery cancelled. -/
theorem ServiceData.abandon
    (h : ServiceData merge serialisedLen toJson maxPayloadBytes maxBufferedNativeBlocks w)
    (hcontrol : ServiceControl w) (hroom : w.HasRoom) (htask : w.workers workId = some .waiting) :
    ServiceData merge serialisedLen toJson maxPayloadBytes maxBufferedNativeBlocks
      (w.abandon workId) := by
  rw [ServiceWorld.abandon]
  split
  · exact h.setWorker hcontrol htask fun _ => ⟨by rintro ⟨⟩, by rintro ⟨⟩⟩
  case isFalse hid =>
    rw [not_not] at hid
    subst hid
    have hnone : Function.update w.workers w.recovery.workId none
        (saturatingSucc w.recovery.workId) = none := by
      rw [Function.update_apply]
      split
      · rfl
      · exact hcontrol.noWorker_next hroom
    have hnotStarting : ∀ id source, w.feed ≠ .starting id source := by
      intro id source hstarting
      obtain ⟨rfl, hnotask, -⟩ := hcontrol.starting id source hstarting
      rw [hnotask] at htask
      cases htask
    refine h.frame rfl rfl h.ordinary ?_ ?_ (by rintro ⟨⟩) (by rintro ⟨⟩)
      rfl (fun hnone => ⟨hnone, rfl⟩) fun hquiet => ⟨hquiet, rfl⟩
    · exact fun source hpinned => absurd hnone (hpinned.hasWorker hnotStarting)
    · intro source hsource
      cases hnone.symm.trans hsource

/-- A worker that waits finds the publisher retired. -/
theorem ServiceData.giveUp
    (h : ServiceData merge serialisedLen toJson maxPayloadBytes maxBufferedNativeBlocks w)
    (hcontrol : ServiceControl w) (htask : w.workers workId = some .waiting) :
    ServiceData merge serialisedLen toJson maxPayloadBytes maxBufferedNativeBlocks
      (w.giveUp workId) := by
  rw [ServiceWorld.giveUp]
  split
  · exact h.setWorker hcontrol htask fun _ => ⟨by rintro ⟨⟩, by rintro ⟨⟩⟩
  · exact h.worker hcontrol htask rfl rfl rfl rfl (fun _ => ⟨by rintro ⟨⟩, by rintro ⟨⟩⟩)
      (fun _ => rfl) (by rintro ⟨⟩) (by rintro ⟨⟩) rfl (fun hnone => ⟨hnone, rfl⟩) rfl

/-- A worker has renewed the lease, and tries again. -/
theorem ServiceData.resume
    (h : ServiceData merge serialisedLen toJson maxPayloadBytes maxBufferedNativeBlocks w)
    (hcontrol : ServiceControl w) (htask : w.workers workId = some .waiting) :
    ServiceData merge serialisedLen toJson maxPayloadBytes maxBufferedNativeBlocks
      (w.resume workId) := by
  rw [ServiceWorld.resume]
  split
  · exact h.setWorker hcontrol htask fun _ => ⟨by rintro ⟨⟩, by rintro ⟨⟩⟩
  case isFalse hid => exact h.retry hcontrol htask (not_not.mp hid)

/-- A worker that retries pins the cache again. -/
theorem ServiceData.pinSource
    (h : ServiceData merge serialisedLen toJson maxPayloadBytes maxBufferedNativeBlocks w)
    (hcontrol : ServiceControl w) {retryId : UInt64}
    (htask : w.workers workId = some (.retrying retryId)) (hfree : w.GateIsFree) :
    ServiceData merge serialisedLen toJson maxPayloadBytes maxBufferedNativeBlocks
      (w.pinSource workId retryId) := by
  rw [ServiceWorld.pinSource]
  split
  · exact h.setWorker hcontrol htask fun _ => ⟨by rintro ⟨⟩, by rintro ⟨⟩⟩
  case isFalse hgo =>
    rw [not_or, not_not, not_not] at hgo
    obtain ⟨rfl, hbuilding⟩ := hgo
    refine h.fresh rfl rfl h.ordinary ?_ ?_ (fun _ _ => .inl rfl) rfl (h.building hbuilding)
    · rintro source (⟨id, hstarting⟩ | hreserving)
      · have hheld := hfree.1
        rw [show w.feed = _ from hstarting] at hheld
        cases hheld
      · change Function.update w.workers w.recovery.workId _ w.recovery.workId = _ at hreserving
        rw [Function.update_self] at hreserving
        cases hreserving
        exact ⟨rfl, rfl⟩
    · intro source
      change Function.update w.workers w.recovery.workId _ w.recovery.workId ≠ _
      rw [Function.update_self]
      rintro ⟨⟩

theorem ServiceData.reserveSource
    (h : ServiceData merge serialisedLen toJson maxPayloadBytes maxBufferedNativeBlocks w)
    (hcontrol : ServiceControl w) {source : BroadcasterRecoverySource Sim} {recoveryId : String}
    {full : Bool} (htask : w.workers workId = some (.reserving source)) :
    ServiceData merge serialisedLen toJson maxPayloadBytes maxBufferedNativeBlocks
      (w.reserveSource workId source recoveryId full) := by
  rw [ServiceWorld.reserveSource]
  split
  · exact h.setWorker hcontrol htask fun _ => ⟨by rintro ⟨⟩, by rintro ⟨⟩⟩
  case isFalse hgo =>
    rw [not_or, not_not, not_not] at hgo
    obtain ⟨rfl, hbuilding⟩ := hgo
    exact h.serialize (.inr htask) rfl hbuilding rfl (Function.update_self ..)
      (hcontrol.gate _ source htask).1 rfl rfl

/-! ### Runs -/

theorem ServiceData.init (h : ServiceInit w) :
    ServiceData merge serialisedLen toJson maxPayloadBytes maxBufferedNativeBlocks w := by
  obtain ⟨hrecovery, hfeed, hworkers, hhandover⟩ := h
  have hnothing : ∀ t, w.handover ≠ some t := by
    rw [hhandover]
    rintro t ⟨⟩
  constructor
  case ordinary =>
    rw [hfeed]
    trivial
  case pinned =>
    rintro source (⟨id, hstarting⟩ | hreserving)
    · rw [hfeed] at hstarting
      cases hstarting
    · rw [hworkers] at hreserving
      cases hreserving
  case serializing =>
    intro source
    rw [hworkers]
    rintro ⟨⟩
  case building =>
    rw [hrecovery]
    rintro ⟨⟩
  case bounded =>
    rw [hrecovery]
    rintro ⟨⟩
  case handover => exact fun t ht => absurd ht (hnothing t)
  case text => exact fun t ht => absurd ht (hnothing t)
  case spans => exact fun t ht => absurd ht (hnothing t)

/-- **Every step keeps the data.** -/
theorem ServiceData.step
    (h : ServiceData merge serialisedLen toJson maxPayloadBytes maxBufferedNativeBlocks w)
    (hcontrol : ServiceControl w) (hroom : w.HasRoom)
    (hstep : ServiceStep merge serialisedLen toJson maxPayloadBytes maxBufferedNativeBlocks w w') :
    ServiceData merge serialisedLen toJson maxPayloadBytes maxBufferedNativeBlocks w' := by
  cases hstep with
  | streamEnded hidle => exact h.failed hcontrol (by rw [hidle]; rintro _ ⟨⟩)
  | feedEntered feed hidle => exact h.enterFeed hcontrol hidle
  | feedApplied late hentered hfree => exact h.applyFeed hcontrol hroom hentered hfree
  | workerSpawned recoveryId full hstarting => exact h.spawnWorker hcontrol hstarting
  | accepted hpublishing => exact h.accept hcontrol hpublishing
  | oversized hpublishing hcommit => exact h.retainOversized hcontrol hpublishing hcommit
  | refused hpublishing => exact h.failed hcontrol (by rw [hpublishing]; rintro _ ⟨⟩)
  | committed hcommitting hcommit => exact h.commit hcontrol hcommitting hcommit
  | notCommitted partitions hfeed hcommit =>
    refine h.leaveHalf hcontrol ?_
    rcases hfeed with hcommitting | ⟨message, hpublishing⟩
    · rw [hcommitting]
      rfl
    · rw [hpublishing]
      rfl
  | disconnected hfailed hfree => exact h.disconnect hcontrol hroom hfailed
  | relabelled generation hfree =>
    refine h.frame rfl rfl h.ordinary h.pinned (fun _ hsource => ⟨hsource, rfl⟩) h.building
      h.bounded rfl (fun hnone => ⟨hnone, rfl⟩) fun hquiet => ⟨hquiet, ?_⟩
    rw [expected_of_free hfree.1]
    exact expected_of_free hfree.1
  | bounded hactive =>
    exact h.frame rfl rfl h.ordinary h.pinned (fun _ hsource => ⟨hsource, rfl⟩) h.building
      (by rintro - ⟨⟩) rfl (fun hnone => ⟨hnone, rfl⟩) fun hquiet => ⟨hquiet, rfl⟩
  | serialised hserializing hjson => exact h.takeOver hcontrol hserializing hjson
  | notSerialised reason hserializing =>
    exact h.setWorker hcontrol hserializing fun _ => ⟨by rintro ⟨⟩, by rintro ⟨⟩⟩
  | published hpublishing =>
    exact h.setWorker hcontrol hpublishing fun _ => ⟨by rintro ⟨⟩, by rintro ⟨⟩⟩
  | notPublished reason hpublishing =>
    exact h.setWorker hcontrol hpublishing fun _ => ⟨by rintro ⟨⟩, by rintro ⟨⟩⟩
  | publisherFailed hpublishing =>
    exact h.setWorker hcontrol hpublishing fun _ => ⟨by rintro ⟨⟩, by rintro ⟨⟩⟩
  | terminated reason htask => exact h.terminateWorker hcontrol htask
  | draining hpublished => exact h.startDraining hcontrol hpublished
  | finished hdraining => exact h.finishRecovery hcontrol hdraining
  | localFailure hfailed => exact h.handleLocalFailure hcontrol hfailed
  | abandoned hwaiting hcancelled => exact h.abandon hcontrol hroom hwaiting
  | gaveUp hwaiting => exact h.giveUp hcontrol hwaiting
  | resumed hwaiting => exact h.resume hcontrol hwaiting
  | pinned hretrying hfree => exact h.pinSource hcontrol hretrying hfree
  | reserved recoveryId full hreserving => exact h.reserveSource hcontrol hreserving

/-- **Data of a run.** -/
theorem ServiceData.of_reachable
    (h : (serviceMachine merge serialisedLen toJson maxPayloadBytes
      maxBufferedNativeBlocks).Reachable w) (hroom : w.HasRoom) :
    ServiceData merge serialisedLen toJson maxPayloadBytes maxBufferedNativeBlocks w := by
  -- control carries the data along, so both go through the induction
  suffices hboth : ServiceControl w ∧
      ServiceData merge serialisedLen toJson maxPayloadBytes maxBufferedNativeBlocks w from hboth.2
  refine h.invariant (P := fun v => v.HasRoom → ServiceControl v ∧
    ServiceData merge serialisedLen toJson maxPayloadBytes maxBufferedNativeBlocks v) ?_ ?_ hroom
  · exact fun v hinit _ => ⟨.init hinit, .init hinit⟩
  · intro v v' ih hstep hroom'
    have hbefore := hstep.hasRoom hroom'
    obtain ⟨hcontrol, hdata⟩ := ih hbefore
    exact ⟨hcontrol.step hbefore hstep, hdata.step hcontrol hbefore hstep⟩

/-- **Nothing is lost around a recovery.** The transaction that was handed over last holds the text
of its source and a Buffer A within bounds. As long as nothing has superseded it, and unless a commit
has failed half-way, its source, replayed with Buffer A and the updates the publisher has accepted
since, is the cached state. -/
theorem recovery_handover_replays
    (h : (serviceMachine merge serialisedLen toJson maxPayloadBytes
      maxBufferedNativeBlocks).Reachable w) (hroom : w.HasRoom) {t : RecoveryHandover Sim}
    (ht : w.handover = some t) :
    (t.transaction.backends = w.cache.configuredBackends ∧
      w.cache.serializeRecoverySource serialisedLen toJson t.source maxPayloadBytes =
        .ok t.transaction.replacementJson) ∧
      (∃ blocks, WithinBounds maxBufferedNativeBlocks blocks t.transaction.bufferA) ∧
      (w.superseded = none → w.interrupted = false →
        replay merge t.source (t.transaction.bufferA ++ w.live) = w.expected merge) := by
  have hdata := ServiceData.of_reachable h hroom
  exact ⟨hdata.text t ht, hdata.spans t ht, hdata.handover t ht⟩

end

/-! ### A handover between two updates -/

/-- The update that the feed is about to commit. -/
def FeedTask.toCommit : FeedTask Sim → Option (BroadcasterStagedUpdate Sim)
  | .committing staged => some staged
  | _ => none

theorem FeedTask.toCommit_eq_some {feed : FeedTask Sim} {staged : BroadcasterStagedUpdate Sim}
    (h : feed.toCommit = some staged) : feed = .committing staged := by
  cases feed <;> cases h
  rfl

/-- The update that the feed is about to publish. -/
def FeedTask.toPublish :
    FeedTask Sim → Option (BroadcasterStagedUpdate Sim × BroadcasterUpdateMessage Sim)
  | .publishing staged message => some (staged, message)
  | _ => none

theorem FeedTask.toPublish_eq_some {feed : FeedTask Sim}
    {update : BroadcasterStagedUpdate Sim × BroadcasterUpdateMessage Sim}
    (h : feed.toPublish = some update) : feed = .publishing update.1 update.2 := by
  cases feed <;> cases h
  rfl

theorem eq_ok_of_toOption {ε α : Type} {x : Except ε α} {a : α} (h : x.toOption = some a) :
    x = .ok a := by
  cases x <;> cases h
  rfl

/-- Block 6 goes to Buffer A. -/
def quietBuffered : ServiceWorld Unit :=
  (quietBuilding.enterFeed (quietFeed 6)).applyFeed quietMerge 6 (quietFeed 6) false

/-- The update of block 6. -/
def quietStaged : BroadcasterStagedUpdate Unit :=
  quietBuffered.feed.toCommit.getD ⟨none, .decoded, false, none⟩

/-- The replacement is handed over before block 6 is committed. -/
def quietHandedOver : ServiceWorld Unit :=
  quietBuffered.takeOver 1 quietStart.2 "[]"

/-- The cache with block 6. -/
def quietCache : BroadcasterSnapshotCache Unit :=
  (quietHandedOver.cache.commitStagedUpdate quietMerge quietStaged).toOption.getD
    quietHandedOver.cache

/-- Block 6 is committed. -/
def quietCommitted : ServiceWorld Unit :=
  { quietHandedOver with cache := quietCache, feed := .idle }

/-- Block 7 goes to the publisher. -/
def quietPublishing : ServiceWorld Unit :=
  (quietCommitted.enterFeed (quietFeed 7)).applyFeed quietMerge 6 (quietFeed 7) false

/-- The update of block 7. -/
def quietUpdate : BroadcasterStagedUpdate Unit × BroadcasterUpdateMessage Unit :=
  quietPublishing.feed.toPublish.getD (⟨none, .decoded, false, none⟩, ⟨[]⟩)

/-- The publisher has block 7. -/
def quietLive : ServiceWorld Unit :=
  quietPublishing.accept quietUpdate.1 quietUpdate.2

theorem quietLive_run :
    (quietBuilding.recovery.phase ≠ .fatal ∧ quietCommitted.recovery.phase ≠ .fatal) ∧
    (quietBuffered.feed.toCommit.isSome = true ∧
      (quietBuffered.cache.serializeRecoverySource (fun _ => .ok 1) (fun _ => .ok "[]")
        quietStart.2 1000).toOption = some "[]") ∧
    (quietBuffered.recovery.workId = 1 ∧ quietBuffered.recovery.phase = .building ∧
      quietBuffered.recovery.cancelled = false ∧
      quietBuffered.recovery.publisherRecoveryId = some "recovery-1") ∧
    ((quietHandedOver.cache.commitStagedUpdate quietMerge quietStaged).toOption.isSome = true ∧
      quietPublishing.feed.toPublish.isSome = true) ∧
    quietLive.recovery.workId = 1 ∧
    (quietLive.superseded = none ∧ quietLive.interrupted = false) ∧
    quietLive.handover.map (·.transaction.bufferA.length) = some 1 ∧ quietLive.live.length = 1 := by
  decide +kernel

theorem enterFeed_workers {w : ServiceWorld Sim} {feed : FeedMessage} :
    (w.enterFeed feed).workers = w.workers := by
  rw [ServiceWorld.enterFeed]
  split
  · rfl
  · rfl

theorem enterFeed_feed {w : ServiceWorld Sim} {feed : FeedMessage}
    (h : w.recovery.phase ≠ .fatal) : (w.enterFeed feed).feed = .entered feed := by
  rw [ServiceWorld.enterFeed, if_neg fun hfatal => h hfatal.1]

theorem applyFeed_workers {merge : StateSyncMerge} {maxBufferedNativeBlocks : Nat} {late : Bool}
    {w : ServiceWorld Sim} {feed : FeedMessage} :
    (w.applyFeed merge maxBufferedNativeBlocks feed late).workers = w.workers := by
  rw [ServiceWorld.applyFeed]
  cases hstaged : w.cache.stageFeedMessage merge feed with
  | error error => rfl
  | ok staged =>
    cases stageFeedMessage_cases hstaged with
    | update message protocols nextId =>
      change (w.passOn maxBufferedNativeBlocks late _ message).workers = _
      rw [ServiceWorld.passOn]
      cases w.recovery.bufferUpdate maxBufferedNativeBlocks late message with
      | error error => rfl
      | ok result =>
        obtain ⟨taken, recovery⟩ := result
        cases taken <;> rfl
    | ready candidates protocols nextId recoveryId => rfl
    | waiting protocols pending nextId => rfl

theorem quietBuffered_workers : quietBuffered.workers =
    Function.update (fun _ => none) 1 (some (.serializing quietStart.2)) := by
  rw [quietBuffered, applyFeed_workers, enterFeed_workers, quietBuilding_eq, quietReady,
    applyFeed_workers, enterFeed_workers]
  rfl

/-- The handover, with the gate still held by the feed. -/
theorem quietHandedOver_eq : ∃ transaction, quietHandedOver.feed = quietBuffered.feed ∧
    quietHandedOver.workers = Function.update (fun _ => none) 1 (some (.publishing transaction)) := by
  obtain ⟨-, -, ⟨hworkId, hphase, hquiet, hreserved⟩, -⟩ := quietLive_run
  have hgo : ¬(quietBuffered.recovery.workId ≠ 1 ∨ quietBuffered.recovery.phase ≠ .building) := by
    rw [hworkId, hphase, not_or, not_not, not_not]
    exact ⟨rfl, rfl⟩
  have hnot : ¬quietBuffered.recovery.cancelled = true := by
    rw [hquiet]
    rintro ⟨⟩
  rw [quietHandedOver, ServiceWorld.takeOver, if_neg hgo, if_neg hnot, hreserved]
  refine ⟨⟨"recovery-1", quietBuffered.cache.configuredBackends, "[]",
    quietBuffered.recovery.bufferA⟩, rfl, ?_⟩
  change Function.update quietBuffered.workers 1 _ = _
  rw [quietBuffered_workers, Function.update_idem]

/-- The gate is free in front of it when the only worker is busy elsewhere. -/
theorem gateIsFree_of_entered {w : ServiceWorld Sim} {feed : FeedMessage} {task : WorkerTask Sim}
    (hfeed : w.feed = .entered feed)
    (hworkers : w.workers = Function.update (fun _ => none) 1 (some task))
    (htask : ∀ source, task ≠ .reserving source) : w.GateIsFree := by
  refine ⟨by rw [hfeed]; rfl, fun workId source hreserving => ?_⟩
  rw [hworkers, Function.update_apply] at hreserving
  split at hreserving
  · exact htask source (Option.some.inj hreserving)
  · cases hreserving

theorem quietLive_reachable : quietMachine.Reachable quietLive := by
  obtain ⟨⟨hbuildingPhase, hcommittedPhase⟩, ⟨hcommits, htext⟩, -, ⟨hcommit, hpublishes⟩, -⟩ :=
    quietLive_run
  have hidle : quietBuilding.feed = .idle := by rw [quietBuilding_eq]
  have hentered : (quietBuilding.enterFeed (quietFeed 6)).feed = .entered (quietFeed 6) :=
    enterFeed_feed hbuildingPhase
  have hworkersBefore : (quietBuilding.enterFeed (quietFeed 6)).workers =
      Function.update (fun _ => none) 1 (some (.serializing quietStart.2)) := by
    rw [← quietBuffered_workers]
    exact applyFeed_workers.symm
  have hfree : (quietBuilding.enterFeed (quietFeed 6)).GateIsFree :=
    gateIsFree_of_entered hentered hworkersBefore (by rintro _ ⟨⟩)
  have htask : quietBuffered.workers 1 = some (.serializing quietStart.2) := by
    rw [quietBuffered_workers, Function.update_self]
  obtain ⟨transaction, hfeed, hworkers⟩ := quietHandedOver_eq
  have hcommitting : quietHandedOver.feed = .committing quietStaged := by
    rw [hfeed]
    exact FeedTask.toCommit_eq_some (eq_some_getD hcommits _)
  have hentered' : (quietCommitted.enterFeed (quietFeed 7)).feed = .entered (quietFeed 7) :=
    enterFeed_feed hcommittedPhase
  have hfree' : (quietCommitted.enterFeed (quietFeed 7)).GateIsFree :=
    gateIsFree_of_entered hentered' (enterFeed_workers.trans hworkers) (by rintro _ ⟨⟩)
  have hbuffered : quietMachine.Steps quietBuilding quietBuffered :=
    (Relation.ReflTransGen.single (.feedEntered (quietFeed 6) hidle)).tail
      (.feedApplied false hentered hfree)
  have hhandedOver : quietMachine.step quietBuffered quietHandedOver :=
    .serialised htask (eq_ok_of_toOption htext)
  have hcommitted : quietMachine.step quietHandedOver quietCommitted :=
    .committed hcommitting (eq_ok_of_toOption (eq_some_getD hcommit _))
  have hpublishing : quietMachine.Steps quietCommitted quietPublishing :=
    (Relation.ReflTransGen.single (.feedEntered (quietFeed 7) rfl)).tail
      (.feedApplied false hentered' hfree')
  have haccepted : quietMachine.step quietPublishing quietLive :=
    .accepted (FeedTask.toPublish_eq_some (eq_some_getD hpublishes _))
  exact quietBuilding_reachable.steps
    ((((hbuffered.tail hhandedOver).tail hcommitted).trans hpublishing).tail haccepted)

/-- One update is in Buffer A, and one behind the transaction. -/
theorem recovery_handover_replays_two : ∃ t, quietLive.handover = some t ∧
    t.transaction.bufferA.length = 1 ∧ quietLive.live.length = 1 ∧
    replay quietMerge t.source (t.transaction.bufferA ++ quietLive.live) =
      quietLive.expected quietMerge := by
  obtain ⟨-, -, -, -, hworkId, ⟨hnone, hquiet⟩, hhandover, hlive⟩ := quietLive_run
  have hroom : quietLive.HasRoom := by
    rw [ServiceWorld.HasRoom, hworkId]
    decide
  obtain ⟨t, ht, hbufferA⟩ := Option.map_eq_some_iff.mp hhandover
  exact ⟨t, ht, hbufferA, hlive,
    (recovery_handover_replays quietLive_reachable hroom ht).2.2 hnone hquiet⟩

end TychoSimulationServer
