import TychoSimulationServer.ServiceRecovery

/-!
# Who may change a recovery

The feed and every worker that was ever spawned share one recovery state. Control says who may
change what in it: an active phase has a worker under the current work id, and its task fits the
phase; whoever pins a source holds the lifecycle gate alone; and a worker of an older id finds
itself superseded.

Each kind of step has one lemma that keeps control (`worker`, `nextWork`, `feed`), and each function
of the service is one use of it. All of this needs room for the next work id: at the largest one,
the next recovery would share its id with the workers of the last.
-/

namespace TychoSimulationServer

open Fallible

variable {Sim : Type}

/-! ## Control

The service has one recovery at a time, and the worker that attends to it is known by its work id.
Workers of older recoveries may still be there, and find that they have been superseded. -/

/-- The tasks of a phase. -/
def WorkerTask.Fits : WorkerTask Sim → RecoveryPublicationPhase → Prop
  | .serializing _, phase | .retrying _, phase | .reserving _, phase => phase = .building
  | .publishing _, phase | .published, phase | .waiting, phase => phase = .publishing
  | .draining, phase => phase = .draining
  | .failedLocally _, phase => phase = .building ∨ phase = .publishing

/-- What the worker of the current work id may be in a phase. -/
def AllowsTask (phase : RecoveryPublicationPhase) : Option (WorkerTask Sim) → Prop
  | none => phase.isActive = false
  | some task => task.Fits phase

/-- There is room for the next work id. -/
def ServiceWorld.HasRoom (w : ServiceWorld Sim) : Prop :=
  w.recovery.workId.toNat + 1 < 2 ^ 64

/-- **Control.** -/
structure ServiceControl (w : ServiceWorld Sim) : Prop where
  older : ∀ workId task, w.workers workId = some task → workId ≤ w.recovery.workId
  starting : ∀ workId source, w.feed = .starting workId source →
    workId = w.recovery.workId ∧ w.workers workId = none ∧ w.recovery.phase = .building
  task : (∀ source, w.feed ≠ .starting w.recovery.workId source) →
    AllowsTask w.recovery.phase (w.workers w.recovery.workId)
  gate : ∀ workId source, w.workers workId = some (.reserving source) →
    w.feed.holdsGate = false ∧
      ∀ other source', w.workers other = some (.reserving source') → other = workId
  publishing : ∀ staged message, w.feed = .publishing staged message →
    ∀ source, w.workers w.recovery.workId ≠ some (.serializing source)
  failures : w.recovery.localFailures ≤ recoveryMaxLocalFailures
  fatal : w.recovery.phase = .fatal → w.recovery.fatalError.isSome = true

section

variable {w w' : ServiceWorld Sim} {workId : UInt64}

/-- **A step of a worker** under control: only the current one changes the recovery state, and only
to a phase that its next task fits. -/
theorem ServiceControl.worker (h : ServiceControl w) {old : WorkerTask Sim}
    {new : Option (WorkerTask Sim)} (hold : w.workers workId = some old)
    (hworkers : w'.workers = Function.update w.workers workId new) (hfeed : w'.feed = w.feed)
    (hworkId : w'.recovery.workId = w.recovery.workId)
    (hother : w.recovery.workId ≠ workId → w'.recovery.phase = w.recovery.phase)
    (hcurrent : w.recovery.workId = workId → AllowsTask w'.recovery.phase new)
    (hgate : ∀ source, new = some (.reserving source) → w.GateIsFree)
    (hserializing : ∀ source, new = some (.serializing source) → w.feed.holdsGate = false)
    (hfailures : w'.recovery.localFailures ≤ recoveryMaxLocalFailures)
    (hfatal : w'.recovery.phase = .fatal → w'.recovery.fatalError.isSome = true) :
    ServiceControl w' := by
  -- a recovery that starts has no worker yet, so it is not the one of this worker
  have hnotStarting : ∀ source, w.feed = .starting w.recovery.workId source →
      w.recovery.workId ≠ workId := by
    rintro source hstarting rfl
    rw [(h.starting _ source hstarting).2.1] at hold
    cases hold
  constructor
  case older =>
    intro id task htask
    rw [hworkId]
    by_cases hid : id = workId
    · rw [hid]
      exact h.older workId old hold
    · rw [hworkers, Function.update_of_ne hid] at htask
      exact h.older id task htask
  case starting =>
    intro id source hstarting
    rw [hfeed] at hstarting
    obtain ⟨rfl, hnone, hphase⟩ := h.starting id source hstarting
    have hne := hnotStarting source hstarting
    rw [hworkId, hworkers, Function.update_of_ne hne, hother hne]
    exact ⟨rfl, hnone, hphase⟩
  case task =>
    intro hstarting
    rw [hfeed, hworkId] at hstarting
    rw [hworkId, hworkers]
    by_cases hid : w.recovery.workId = workId
    · rw [hid, Function.update_self]
      exact hcurrent hid
    · rw [Function.update_of_ne hid, hother hid]
      exact h.task hstarting
  case gate =>
    intro id source hreserving
    rw [hfeed]
    rw [hworkers] at hreserving ⊢
    by_cases hid : id = workId
    · subst hid
      rw [Function.update_self] at hreserving
      obtain ⟨hgateFeed, hnobody⟩ := hgate source hreserving
      refine ⟨hgateFeed, fun other source' hother => ?_⟩
      by_contra hne
      rw [Function.update_of_ne hne] at hother
      exact hnobody other source' hother
    · rw [Function.update_of_ne hid] at hreserving
      obtain ⟨hgateFeed, hunique⟩ := h.gate id source hreserving
      refine ⟨hgateFeed, fun other source' hother => ?_⟩
      by_cases hne : other = workId
      · subst hne
        rw [Function.update_self] at hother
        exact absurd hreserving ((hgate source' hother).2 id source)
      · rw [Function.update_of_ne hne] at hother
        exact hunique other source' hother
  case publishing =>
    intro staged message hpublishing source
    rw [hfeed] at hpublishing
    rw [hworkId, hworkers]
    by_cases hid : w.recovery.workId = workId
    · rw [hid, Function.update_self]
      intro hnew
      have hheld := hserializing source hnew
      rw [hpublishing] at hheld
      cases hheld
    · rw [Function.update_of_ne hid]
      exact h.publishing staged message hpublishing source
  case failures => exact hfailures
  case fatal => exact hfatal

/-- The worker's task fits the phase of the recovery. -/
theorem ServiceControl.fits (h : ServiceControl w) {task : WorkerTask Sim}
    (htask : w.workers w.recovery.workId = some task) : task.Fits w.recovery.phase := by
  have hfits := h.task fun source hstarting => by
    rw [(h.starting _ source hstarting).2.1] at htask
    cases htask
  rw [htask] at hfits
  exact hfits

/-- With room the next work id is greater by one. -/
theorem toNat_saturatingSucc {n : UInt64} (h : n.toNat + 1 < 2 ^ 64) :
    (saturatingSucc n).toNat = n.toNat + 1 := by
  rw [saturatingSucc, if_pos h, UInt64.toNat_add, UInt64.toNat_one, Nat.mod_eq_of_lt h]

/-- The next work id has no worker yet. -/
theorem ServiceControl.noWorker_next (h : ServiceControl w) (hroom : w.HasRoom) :
    w.workers (saturatingSucc w.recovery.workId) = none := by
  cases hsome : w.workers (saturatingSucc w.recovery.workId) with
  | none => rfl
  | some task =>
    have hle := h.older _ task hsome
    rw [UInt64.le_iff_toNat_le, toNat_saturatingSucc hroom] at hle
    omega

/-- **The next work id** starts without a worker. -/
theorem ServiceControl.nextWork (h : ServiceControl w) (hroom : w.HasRoom)
    (hworkId : w'.recovery.workId = saturatingSucc w.recovery.workId)
    (hworkers : ∀ id task, w'.workers id = some task → w.workers id = some task)
    (hphase : (w'.recovery.phase.isActive = false ∧ ∀ id source, w'.feed ≠ .starting id source) ∨
      ∃ source, w'.feed = .starting w'.recovery.workId source ∧ w'.recovery.phase = .building)
    (hgate : ∀ id source, w.workers id = some (.reserving source) → w'.feed.holdsGate = false)
    (hfailures : w'.recovery.localFailures ≤ recoveryMaxLocalFailures)
    (hfatal : w'.recovery.phase = .fatal → w'.recovery.fatalError.isSome = true) :
    ServiceControl w' := by
  -- there is no worker of the next number yet
  have hnone : w'.workers w'.recovery.workId = none := by
    cases hsome : w'.workers w'.recovery.workId with
    | none => rfl
    | some task =>
      have hbefore := hworkers _ task hsome
      rw [hworkId, h.noWorker_next hroom] at hbefore
      cases hbefore
  constructor
  case older =>
    intro id task htask
    have hle := h.older id task (hworkers id task htask)
    rw [UInt64.le_iff_toNat_le] at hle ⊢
    rw [hworkId, toNat_saturatingSucc hroom]
    exact hle.trans (Nat.le_succ _)
  case starting =>
    intro id source hstarting
    rcases hphase with ⟨-, hnot⟩ | ⟨source', hfeed, hbuilding⟩
    · exact absurd hstarting (hnot id source)
    · rw [hfeed] at hstarting
      cases hstarting
      exact ⟨rfl, hnone, hbuilding⟩
  case task =>
    intro hnot
    rw [hnone]
    rcases hphase with ⟨hidle, -⟩ | ⟨source', hfeed, -⟩
    · exact hidle
    · exact absurd hfeed (hnot source')
  case gate =>
    intro id source hreserving
    have hbefore := hworkers id _ hreserving
    refine ⟨hgate id source hbefore, fun other source' hother => ?_⟩
    exact (h.gate id source hbefore).2 other source' (hworkers other _ hother)
  case publishing =>
    intro staged message _ source
    rw [hnone]
    exact fun h => by cases h
  case failures => exact hfailures
  case fatal => exact hfatal

/-- **A step of the feed** under control. -/
theorem ServiceControl.feed (h : ServiceControl w)
    (hworkers : w'.workers = w.workers) (hworkId : w'.recovery.workId = w.recovery.workId)
    (hphase : w'.recovery.phase = w.recovery.phase)
    (hbefore : ∀ id source, w.feed ≠ .starting id source)
    (hafter : ∀ id source, w'.feed ≠ .starting id source)
    (hgate : w'.feed.holdsGate = true → ∀ id source, w.workers id ≠ some (.reserving source))
    (hpublishing : ∀ staged message, w'.feed = .publishing staged message →
      w.recovery.phase ≠ .building)
    (hfailures : w'.recovery.localFailures = w.recovery.localFailures)
    (hfatal : w'.recovery.fatalError = w.recovery.fatalError) : ServiceControl w' := by
  constructor
  case older =>
    rw [hworkers, hworkId]
    exact h.older
  case starting => exact fun id source hstarting => absurd hstarting (hafter id source)
  case task =>
    rw [hworkers, hworkId, hphase]
    exact fun _ => h.task fun source => hbefore _ source
  case gate =>
    intro id source hreserving
    rw [hworkers] at hreserving ⊢
    refine ⟨?_, (h.gate id source hreserving).2⟩
    cases hheld : w'.feed.holdsGate with
    | false => rfl
    | true => exact absurd hreserving (hgate hheld id source)
  case publishing =>
    intro staged message hfeed source hserializing
    rw [hworkers, hworkId] at hserializing
    exact hpublishing staged message hfeed (h.fits hserializing)
  case failures =>
    rw [hfailures]
    exact h.failures
  case fatal =>
    rw [hphase, hfatal]
    exact h.fatal

/-- The feed goes on with a message, or fails. -/
theorem ServiceControl.goOn (h : ServiceControl w) (hworkers : w'.workers = w.workers)
    (hrecovery : w'.recovery = w.recovery) (hbefore : ∀ id source, w.feed ≠ .starting id source)
    (hafter : ∀ id source, w'.feed ≠ .starting id source)
    (hpublishing : ∀ staged message, w'.feed ≠ .publishing staged message)
    (hheld : w'.feed.holdsGate = true → w.feed.holdsGate = true) : ServiceControl w' := by
  refine h.feed hworkers (by rw [hrecovery]) (by rw [hrecovery]) hbefore hafter ?_
    (fun staged message hfeed => absurd hfeed (hpublishing staged message)) (by rw [hrecovery])
    (by rw [hrecovery])
  intro hgate id source hreserving
  have hfree := (h.gate id source hreserving).1
  rw [hheld hgate] at hfree
  cases hfree

/-- A worker that is superseded ends. -/
theorem ServiceControl.endWorker (h : ServiceControl w) {task : WorkerTask Sim}
    (htask : w.workers workId = some task)
    (hdone : w.recovery.workId = workId → w.recovery.phase.isActive = false) :
    ServiceControl (w.endWorker workId) :=
  h.worker htask rfl rfl rfl (fun _ => rfl) hdone (fun _ h => by cases h) (fun _ h => by cases h)
    h.failures h.fatal

/-- A worker goes on without a look at the recovery state. -/
theorem ServiceControl.setWorker (h : ServiceControl w) {task next : WorkerTask Sim}
    (htask : w.workers workId = some task)
    (hfits : task.Fits w.recovery.phase → next.Fits w.recovery.phase)
    (hgate : ∀ source, next ≠ .reserving source)
    (hserializing : ∀ source, next ≠ .serializing source) :
    ServiceControl (w.setWorker workId next) := by
  refine h.worker htask rfl rfl rfl (fun _ => rfl) ?_
    (fun source hnext => absurd (Option.some.inj hnext) (hgate source))
    (fun source hnext => absurd (Option.some.inj hnext) (hserializing source)) h.failures h.fatal
  rintro rfl
  exact hfits (h.fits htask)

end

/-! ### Every step -/

section

variable {merge : StateSyncMerge} {maxBufferedNativeBlocks : Nat} {w : ServiceWorld Sim}
  {workId : UInt64}

/-- What `buffer_recovery_update` does. -/
theorem bufferUpdate_cases {recovery recovery' : RecoveryPublicationState Sim} {late taken : Bool}
    {update : BroadcasterUpdateMessage Sim}
    (h : recovery.bufferUpdate maxBufferedNativeBlocks late update = .ok (taken, recovery')) :
    recovery'.workId = recovery.workId ∧ recovery'.phase = recovery.phase ∧
      recovery'.localFailures = recovery.localFailures ∧
      recovery'.fatalError = recovery.fatalError ∧
      (taken = true → recovery.phase = .building ∧
        recovery'.bufferA = recovery.bufferA ++ [update]) ∧
      (taken = false → recovery.phase ≠ .building ∧ recovery'.bufferA = recovery.bufferA) := by
  rw [RecoveryPublicationState.bufferUpdate.eq_def] at h
  dsimp only at h
  cases hphase : recovery.phase
  all_goals
    rw [hphase] at h
    cases h
  all_goals simp [hphase]

/-- What staging a message leads to: an update, a replacement that is ready, or one that waits. -/
inductive StagedFeed (cache : BroadcasterSnapshotCache Sim) : BroadcasterStagedUpdate Sim → Prop where
  | update (message : BroadcasterUpdateMessage Sim) (protocols : FinSet String) (nextId : UInt64) :
    StagedFeed cache ⟨some message, .rawNormal protocols nextId, false, none⟩
  | ready (candidates : Partitions Sim) (protocols : FinSet String) (nextId recoveryId : UInt64) :
    StagedFeed cache ⟨none, .replacement candidates protocols none nextId, true, some recoveryId⟩
  | waiting (protocols : FinSet String) (pending : UpstreamReplacementState Sim)
      (nextId : UInt64) : StagedFeed cache
      ⟨none, .replacement cache.inner.partitions protocols (some pending) nextId, false, none⟩

/-- A staged message is an update, a replacement that is ready, or a part of one that waits for
more. -/
theorem stageFeedMessage_cases {cache : BroadcasterSnapshotCache Sim} {feed : FeedMessage}
    {staged : BroadcasterStagedUpdate Sim} (h : cache.stageFeedMessage merge feed = .ok staged) :
    StagedFeed cache staged := by
  obtain ⟨message, -, h⟩ := bind_eq_ok.mp h
  rw [check_bind_eq_ok] at h
  obtain ⟨-, h⟩ := h
  rw [check_bind_eq_ok] at h
  obtain ⟨-, h⟩ := h
  cases hreplacement : cache.inner.replacement with
  | none =>
    rw [hreplacement, check_bind_eq_ok, pure_eq_ok] at h
    obtain ⟨-, rfl⟩ := h
    exact .update _ _ _
  | some pending =>
    rw [hreplacement] at h
    obtain ⟨candidates, -, h⟩ := bind_eq_ok.mp h
    split at h
    · obtain rfl := pure_eq_ok.mp h
      exact .ready _ _ _ _
    · obtain rfl := pure_eq_ok.mp h
      exact .waiting _ _ _

theorem ServiceControl.enterFeed (h : ServiceControl w) {feed : FeedMessage}
    (hidle : w.feed = .idle) : ServiceControl (w.enterFeed feed) := by
  have hbefore : ∀ id source, w.feed ≠ .starting id source := by
    rw [hidle]
    rintro _ _ ⟨⟩
  rw [ServiceWorld.enterFeed]
  split
  · exact h.feed rfl rfl rfl hbefore (by rintro _ _ ⟨⟩) (by rintro ⟨⟩) (by rintro _ _ ⟨⟩) rfl rfl
  · exact h.feed rfl rfl rfl hbefore (by rintro _ _ ⟨⟩) (by rintro ⟨⟩) (by rintro _ _ ⟨⟩) rfl rfl

/-- A message **is staged**, and may start a recovery. -/
theorem ServiceControl.applyFeed (h : ServiceControl w)
    (hroom : w.HasRoom) {feed : FeedMessage} {late : Bool}
    (hentered : w.feed = .entered feed) (hfree : w.GateIsFree) :
    ServiceControl (w.applyFeed merge maxBufferedNativeBlocks feed late) := by
  have hbefore : ∀ id source, w.feed ≠ .starting id source := by
    rw [hentered]
    rintro _ _ ⟨⟩
  have hfailed : ServiceControl { w with feed := .failed } :=
    h.feed rfl rfl rfl hbefore (by rintro _ _ ⟨⟩) (by rintro ⟨⟩) (by rintro _ _ ⟨⟩) rfl rfl
  rw [ServiceWorld.applyFeed]
  cases hstaged : w.cache.stageFeedMessage merge feed with
  | error error => exact hfailed
  | ok staged =>
    cases stageFeedMessage_cases hstaged with
    | update message protocols nextId =>
      change ServiceControl (w.passOn maxBufferedNativeBlocks late _ message)
      rw [ServiceWorld.passOn]
      cases hbuffer : w.recovery.bufferUpdate maxBufferedNativeBlocks late message with
      | error error => exact hfailed
      | ok result =>
        obtain ⟨taken, recovery⟩ := result
        obtain ⟨hworkId, hphase, hfailures, hfatal, -, hdirect⟩ := bufferUpdate_cases hbuffer
        cases taken with
        | true =>
          exact h.feed rfl hworkId hphase hbefore (by rintro _ _ ⟨⟩) (fun _ => hfree.2)
            (by rintro _ _ ⟨⟩) hfailures hfatal
        | false =>
          exact h.feed rfl hworkId hphase hbefore (by rintro _ _ ⟨⟩) (fun _ => hfree.2)
            (fun _ _ _ => (hdirect rfl).1) hfailures hfatal
    | ready candidates protocols nextId recoveryId =>
      refine h.nextWork hroom rfl (fun _ _ htask => htask) (.inr ⟨_, rfl, rfl⟩) ?_ (Nat.zero_le _)
        (by rintro ⟨⟩)
      exact fun id source hreserving => absurd hreserving (hfree.2 id source)
    | waiting protocols pending nextId =>
      exact h.feed rfl rfl rfl hbefore (by rintro _ _ ⟨⟩) (by rintro ⟨⟩) (by rintro _ _ ⟨⟩) rfl rfl

theorem ServiceControl.spawnWorker (h : ServiceControl w)
    {source : BroadcasterRecoverySource Sim} {recoveryId : String} {full : Bool}
    (hstarting : w.feed = .starting workId source) :
    ServiceControl (w.spawnWorker workId source recoveryId full) := by
  obtain ⟨rfl, hnone, hbuilding⟩ := h.starting workId source hstarting
  have hnobody : ∀ id source', w.workers id ≠ some (.reserving source') := by
    intro id source' hreserving
    have hheld := (h.gate id source' hreserving).1
    rw [hstarting] at hheld
    cases hheld
  have hgo : ¬(w.recovery.workId ≠ w.recovery.workId ∨ w.recovery.phase ≠ .building) := by
    rw [not_or, not_not, not_not]
    exact ⟨rfl, hbuilding⟩
  rw [ServiceWorld.spawnWorker, if_neg hgo]
  constructor
  case older =>
    intro id task htask
    by_cases hid : id = w.recovery.workId
    · rw [hid]
      exact UInt64.le_refl _
    · change Function.update _ _ _ id = _ at htask
      rw [Function.update_of_ne hid] at htask
      exact h.older id task htask
  case starting => rintro id source' ⟨⟩
  case task =>
    intro _
    change AllowsTask w.recovery.phase (Function.update w.workers w.recovery.workId
      (some (.serializing source)) w.recovery.workId)
    rw [Function.update_self]
    exact hbuilding
  case gate =>
    intro id source' hreserving
    change Function.update _ _ _ id = _ at hreserving
    by_cases hid : id = w.recovery.workId
    · rw [hid, Function.update_self] at hreserving
      cases hreserving
    · rw [Function.update_of_ne hid] at hreserving
      exact absurd hreserving (hnobody id source')
  case publishing => rintro staged message ⟨⟩
  case failures => exact h.failures
  case fatal => exact h.fatal

theorem ServiceControl.disconnect (h : ServiceControl w)
    (hroom : w.HasRoom) : ServiceControl w.disconnect := by
  rw [ServiceWorld.disconnect]
  split
  all_goals
    refine h.nextWork hroom rfl (fun _ _ htask => htask) (.inl ⟨rfl, ?_⟩) (fun _ _ _ => rfl)
      h.failures ?_
    · rintro _ _ ⟨⟩
    · rintro ⟨⟩

/-- The current worker gives up: the recovery is fatal, and has an error. -/
theorem ServiceControl.failed (h : ServiceControl w) {task : WorkerTask Sim}
    (htask : w.workers workId = some task) (hid : w.recovery.workId = workId)
    {recovery : RecoveryPublicationState Sim} (hworkId : recovery.workId = w.recovery.workId)
    (hphase : recovery.phase = .fatal) (hfailures : recovery.localFailures ≤ recoveryMaxLocalFailures)
    (herror : recovery.fatalError.isSome = true) :
    ServiceControl ({ w with recovery }.endWorker workId) :=
  h.worker htask rfl rfl hworkId (fun hne => absurd hid hne) (fun _ => by
    change recovery.phase.isActive = false
    rw [hphase]
    rfl) (by rintro _ ⟨⟩) (by rintro _ ⟨⟩) hfailures (fun _ => herror)

theorem ServiceControl.terminateWorker (h : ServiceControl w) {task : WorkerTask Sim}
    {reason : String} (htask : w.workers workId = some task) :
    ServiceControl (w.terminateWorker workId reason) := by
  rw [ServiceWorld.terminateWorker]
  split
  case isTrue hcurrent => exact h.failed htask hcurrent.1 rfl rfl h.failures rfl
  case isFalse hnot =>
    refine h.endWorker htask fun hid => ?_
    rw [not_and, Bool.not_eq_true] at hnot
    exact hnot hid

/-- The current worker starts over. -/
theorem ServiceControl.retry (h : ServiceControl w) {task : WorkerTask Sim}
    (htask : w.workers workId = some task) (hid : w.recovery.workId = workId)
    {localFailures : Nat} (hfailures : localFailures ≤ recoveryMaxLocalFailures) :
    ServiceControl ({ w with recovery.localFailures := localFailures }.retry workId) :=
  h.worker htask rfl rfl rfl (fun hne => absurd hid hne) (fun _ => rfl) (by rintro _ ⟨⟩)
    (by rintro _ ⟨⟩) hfailures (by rintro ⟨⟩)

/-- The replacement is serialised, and handed over with what was buffered. -/
theorem ServiceControl.takeOver (h : ServiceControl w)
    {source : BroadcasterRecoverySource Sim} {replacementJson : String}
    (htask : w.workers workId = some (.serializing source)) :
    ServiceControl (w.takeOver workId source replacementJson) := by
  rw [ServiceWorld.takeOver]
  split
  case isTrue hsuperseded =>
    refine h.endWorker htask fun hid => ?_
    subst hid
    exact absurd (h.fits htask) (hsuperseded.resolve_left (not_not.mpr rfl))
  case isFalse hgo =>
    rw [not_or, not_not, not_not] at hgo
    obtain ⟨rfl, hbuilding⟩ := hgo
    split
    · exact h.setWorker htask .inl (by rintro _ ⟨⟩) (by rintro _ ⟨⟩)
    · cases hreserved : w.recovery.publisherRecoveryId with
      | none =>
        -- the phase moves on before the reservation is found missing
        change ServiceControl (ServiceWorld.terminateWorker _ _ _)
        rw [ServiceWorld.terminateWorker, if_pos ⟨rfl, rfl⟩]
        exact h.failed htask rfl rfl rfl h.failures rfl
      | some recoveryId =>
        exact h.worker htask rfl rfl rfl (fun hne => absurd rfl hne) (fun _ => rfl)
          (by rintro _ ⟨⟩) (by rintro _ ⟨⟩) h.failures (by rintro ⟨⟩)

theorem ServiceControl.startDraining (h : ServiceControl w)
    (htask : w.workers workId = some .published) : ServiceControl (w.startDraining workId) := by
  rw [ServiceWorld.startDraining]
  split
  case isTrue hother => exact h.endWorker htask fun hid => absurd hid hother
  case isFalse hid =>
    exact h.worker htask rfl rfl rfl (fun hne => absurd hne hid) (fun _ => rfl) (by rintro _ ⟨⟩)
      (by rintro _ ⟨⟩) h.failures (by rintro ⟨⟩)

theorem ServiceControl.finishRecovery (h : ServiceControl w)
    (htask : w.workers workId = some .draining) : ServiceControl (w.finishRecovery workId) := by
  rw [ServiceWorld.finishRecovery]
  split
  case isTrue hsuperseded =>
    refine h.endWorker htask fun hid => ?_
    subst hid
    exact absurd (h.fits htask) (hsuperseded.resolve_left (not_not.mpr rfl))
  case isFalse hgo =>
    rw [not_or, not_not] at hgo
    exact h.worker htask rfl rfl rfl (fun hne => absurd hgo.1 hne) (fun _ => rfl) (by rintro _ ⟨⟩)
      (by rintro _ ⟨⟩) h.failures (by rintro ⟨⟩)

theorem ServiceControl.handleLocalFailure (h : ServiceControl w) {reason : String}
    (htask : w.workers workId = some (.failedLocally reason)) :
    ServiceControl (w.handleLocalFailure workId reason) := by
  rw [ServiceWorld.handleLocalFailure]
  split
  case isTrue hother => exact h.endWorker htask fun hid => absurd hid hother
  case isFalse hid =>
    rw [not_not] at hid
    split
    · exact h.failed htask hid rfl rfl h.failures rfl
    case isFalse hfew => exact h.retry htask hid (not_le.mp hfew)

/-- A worker that waits finds the recovery cancelled. -/
theorem ServiceControl.abandon (h : ServiceControl w) (hroom : w.HasRoom)
    (htask : w.workers workId = some .waiting) : ServiceControl (w.abandon workId) := by
  rw [ServiceWorld.abandon]
  split
  case isTrue hother => exact h.endWorker htask fun hid => absurd hid hother
  case isFalse hid =>
    rw [not_not] at hid
    subst hid
    have hnotStarting : ∀ id source, w.feed ≠ .starting id source := by
      intro id source hstarting
      obtain ⟨rfl, hnone, -⟩ := h.starting id source hstarting
      rw [hnone] at htask
      cases htask
    refine h.nextWork hroom rfl ?_ (.inl ⟨rfl, hnotStarting⟩)
      (fun id source hreserving => (h.gate id source hreserving).1) h.failures (by rintro ⟨⟩)
    intro id task hsome
    change Function.update w.workers _ _ id = _ at hsome
    by_cases hne : id = w.recovery.workId
    · rw [hne, Function.update_self] at hsome
      cases hsome
    · rwa [Function.update_of_ne hne] at hsome

/-- A worker that waits finds the publisher retired. -/
theorem ServiceControl.giveUp (h : ServiceControl w)
    (htask : w.workers workId = some .waiting) : ServiceControl (w.giveUp workId) := by
  rw [ServiceWorld.giveUp]
  split
  case isTrue hother => exact h.endWorker htask fun hid => absurd hid hother
  case isFalse hid => exact h.failed htask (not_not.mp hid) rfl rfl h.failures rfl

/-- A worker has renewed the lease, and tries again. -/
theorem ServiceControl.resume (h : ServiceControl w)
    (htask : w.workers workId = some .waiting) : ServiceControl (w.resume workId) := by
  rw [ServiceWorld.resume]
  split
  case isTrue hother => exact h.endWorker htask fun hid => absurd hid hother
  case isFalse hid => exact h.retry htask (not_not.mp hid) h.failures

/-- A worker that retries pins the cache again. -/
theorem ServiceControl.pinSource (h : ServiceControl w) {retryId : UInt64}
    (htask : w.workers workId = some (.retrying retryId)) (hfree : w.GateIsFree) :
    ServiceControl (w.pinSource workId retryId) := by
  rw [ServiceWorld.pinSource]
  split
  case isTrue hsuperseded =>
    refine h.endWorker htask fun hid => ?_
    subst hid
    exact absurd (h.fits htask) (hsuperseded.resolve_left (not_not.mpr rfl))
  case isFalse hgo =>
    rw [not_or, not_not, not_not] at hgo
    exact h.worker htask rfl rfl rfl (fun hne => absurd hgo.1 hne) (fun _ => hgo.2)
      (fun _ _ => hfree) (by rintro _ ⟨⟩) h.failures h.fatal

theorem ServiceControl.reserveSource (h : ServiceControl w)
    {source : BroadcasterRecoverySource Sim} {recoveryId : String} {full : Bool}
    (htask : w.workers workId = some (.reserving source)) :
    ServiceControl (w.reserveSource workId source recoveryId full) := by
  rw [ServiceWorld.reserveSource]
  split
  case isTrue hsuperseded =>
    refine h.endWorker htask fun hid => ?_
    subst hid
    exact absurd (h.fits htask) (hsuperseded.resolve_left (not_not.mpr rfl))
  case isFalse hgo =>
    rw [not_or, not_not, not_not] at hgo
    exact h.worker htask rfl rfl rfl (fun hne => absurd hgo.1 hne) (fun _ => hgo.2)
      (by rintro _ ⟨⟩) (fun _ _ => (h.gate _ _ htask).1) h.failures h.fatal

end

/-! ### Runs

The work id only grows, so a run that ends with room for another one had room all along. -/

section

variable {merge : StateSyncMerge} {serialisedLen : SerialisedLen Sim}
  {toJson : List (BroadcasterEnvelope Sim) → Except String String}
  {maxPayloadBytes maxBufferedNativeBlocks : Nat} {w w' : ServiceWorld Sim}

theorem le_saturatingSucc (n : UInt64) : n ≤ saturatingSucc n := by
  rw [saturatingSucc]
  split
  case isTrue h =>
    rw [UInt64.le_iff_toNat_le, UInt64.toNat_add, UInt64.toNat_one, Nat.mod_eq_of_lt h]
    exact Nat.le_succ _
  case isFalse => exact UInt64.le_refl n

/-- The work id goes up at most. -/
theorem applyFeed_workId_le {feed : FeedMessage} {late : Bool} :
    w.recovery.workId ≤
      (w.applyFeed merge maxBufferedNativeBlocks feed late).recovery.workId := by
  rw [ServiceWorld.applyFeed]
  cases hstaged : w.cache.stageFeedMessage merge feed with
  | error error => exact UInt64.le_refl _
  | ok staged =>
    cases stageFeedMessage_cases hstaged with
    | update message protocols nextId =>
      change _ ≤ (w.passOn maxBufferedNativeBlocks late _ message).recovery.workId
      rw [ServiceWorld.passOn]
      cases hbuffer : w.recovery.bufferUpdate maxBufferedNativeBlocks late message with
      | error error => exact UInt64.le_refl _
      | ok result =>
        obtain ⟨taken, recovery⟩ := result
        have hworkId := (bufferUpdate_cases hbuffer).1
        cases taken
        all_goals
          rw [← hworkId]
          exact UInt64.le_refl _
    | ready candidates protocols nextId recoveryId => exact le_saturatingSucc _
    | waiting protocols pending nextId => exact UInt64.le_refl _

theorem workId_le_ite {P : Prop} [Decidable P] {n : UInt64} {w₁ w₂ : ServiceWorld Sim}
    (h₁ : n ≤ w₁.recovery.workId) (h₂ : n ≤ w₂.recovery.workId) :
    n ≤ (if P then w₁ else w₂).recovery.workId := by
  split
  · exact h₁
  · exact h₂

theorem takeOver_workId_le {workId : UInt64} {source : BroadcasterRecoverySource Sim}
    {replacementJson : String} :
    w.recovery.workId ≤ (w.takeOver workId source replacementJson).recovery.workId := by
  rw [ServiceWorld.takeOver]
  refine workId_le_ite (UInt64.le_refl _) (workId_le_ite (UInt64.le_refl _) ?_)
  cases w.recovery.publisherRecoveryId with
  | none => exact workId_le_ite (UInt64.le_refl _) (UInt64.le_refl _)
  | some recoveryId => exact UInt64.le_refl _

/-- **The work id** never falls. -/
theorem ServiceStep.workId_le
    (h : ServiceStep merge serialisedLen toJson maxPayloadBytes maxBufferedNativeBlocks w w') :
    w.recovery.workId ≤ w'.recovery.workId := by
  cases h
  case feedApplied => exact applyFeed_workId_le
  case serialised => exact takeOver_workId_le
  case disconnected => exact workId_le_ite (le_saturatingSucc _) (le_saturatingSucc _)
  case abandoned => exact workId_le_ite (UInt64.le_refl _) (le_saturatingSucc _)
  case localFailure =>
    exact workId_le_ite (UInt64.le_refl _) (workId_le_ite (UInt64.le_refl _) (UInt64.le_refl _))
  case feedEntered => exact workId_le_ite (UInt64.le_refl _) (UInt64.le_refl _)
  case workerSpawned => exact workId_le_ite (UInt64.le_refl _) (UInt64.le_refl _)
  case terminated => exact workId_le_ite (UInt64.le_refl _) (UInt64.le_refl _)
  case draining => exact workId_le_ite (UInt64.le_refl _) (UInt64.le_refl _)
  case finished => exact workId_le_ite (UInt64.le_refl _) (UInt64.le_refl _)
  case gaveUp => exact workId_le_ite (UInt64.le_refl _) (UInt64.le_refl _)
  case resumed => exact workId_le_ite (UInt64.le_refl _) (UInt64.le_refl _)
  case pinned => exact workId_le_ite (UInt64.le_refl _) (UInt64.le_refl _)
  case reserved => exact workId_le_ite (UInt64.le_refl _) (UInt64.le_refl _)
  all_goals exact UInt64.le_refl _

theorem ServiceStep.hasRoom
    (h : ServiceStep merge serialisedLen toJson maxPayloadBytes maxBufferedNativeBlocks w w')
    (hroom : w'.HasRoom) : w.HasRoom := by
  have hle := UInt64.le_iff_toNat_le.mp h.workId_le
  rw [ServiceWorld.HasRoom] at hroom ⊢
  omega

theorem ServiceControl.init (h : ServiceInit w) : ServiceControl w := by
  obtain ⟨hrecovery, hfeed, hworkers, -⟩ := h
  constructor
  case older =>
    intro workId task htask
    rw [hworkers] at htask
    cases htask
  case starting =>
    intro workId source hstarting
    rw [hfeed] at hstarting
    cases hstarting
  case task =>
    intro _
    rw [hworkers, hrecovery]
    rfl
  case gate =>
    intro workId source hreserving
    rw [hworkers] at hreserving
    cases hreserving
  case publishing =>
    intro staged message _ source
    rw [hworkers]
    rintro ⟨⟩
  case failures =>
    rw [hrecovery]
    exact Nat.zero_le _
  case fatal =>
    rw [hrecovery]
    rintro ⟨⟩

/-- **Every step keeps control.** -/
theorem ServiceControl.step (h : ServiceControl w) (hroom : w.HasRoom)
    (hstep : ServiceStep merge serialisedLen toJson maxPayloadBytes maxBufferedNativeBlocks w w') :
    ServiceControl w' := by
  cases hstep with
  | streamEnded hidle =>
    exact h.goOn rfl rfl (by rw [hidle]; rintro _ _ ⟨⟩) (by rintro _ _ ⟨⟩) (by rintro _ _ ⟨⟩)
      (by rintro ⟨⟩)
  | feedEntered feed hidle => exact h.enterFeed hidle
  | feedApplied late hentered hfree => exact h.applyFeed hroom hentered hfree
  | workerSpawned recoveryId full hstarting => exact h.spawnWorker hstarting
  | accepted hpublishing =>
    exact h.goOn rfl rfl (by rw [hpublishing]; rintro _ _ ⟨⟩) (by rintro _ _ ⟨⟩)
      (by rintro _ _ ⟨⟩) (fun _ => by rw [hpublishing]; rfl)
  | oversized hpublishing hcommit =>
    exact h.goOn rfl rfl (by rw [hpublishing]; rintro _ _ ⟨⟩) (by rintro _ _ ⟨⟩)
      (by rintro _ _ ⟨⟩) (by rintro ⟨⟩)
  | refused hpublishing =>
    exact h.goOn rfl rfl (by rw [hpublishing]; rintro _ _ ⟨⟩) (by rintro _ _ ⟨⟩)
      (by rintro _ _ ⟨⟩) (by rintro ⟨⟩)
  | committed hcommitting hcommit =>
    exact h.goOn rfl rfl (by rw [hcommitting]; rintro _ _ ⟨⟩) (by rintro _ _ ⟨⟩)
      (by rintro _ _ ⟨⟩) (by rintro ⟨⟩)
  | notCommitted partitions hfeed hcommit =>
    refine h.goOn rfl rfl ?_ (by rintro _ _ ⟨⟩) (by rintro _ _ ⟨⟩) (by rintro ⟨⟩)
    rcases hfeed with hcommitting | ⟨message, hpublishing⟩
    · rw [hcommitting]
      rintro _ _ ⟨⟩
    · rw [hpublishing]
      rintro _ _ ⟨⟩
  | disconnected hfailed hfree => exact h.disconnect hroom
  | relabelled generation hfree =>
    exact ⟨h.older, h.starting, h.task, h.gate, h.publishing, h.failures, h.fatal⟩
  | bounded hactive =>
    exact ⟨h.older, h.starting, h.task, h.gate, h.publishing, h.failures, h.fatal⟩
  | serialised hserializing hjson => exact h.takeOver hserializing
  | notSerialised reason hserializing =>
    exact h.setWorker hserializing .inl (by rintro _ ⟨⟩) (by rintro _ ⟨⟩)
  | published hpublishing =>
    exact h.setWorker hpublishing id (by rintro _ ⟨⟩) (by rintro _ ⟨⟩)
  | notPublished reason hpublishing =>
    exact h.setWorker hpublishing .inr (by rintro _ ⟨⟩) (by rintro _ ⟨⟩)
  | publisherFailed hpublishing =>
    exact h.setWorker hpublishing id (by rintro _ ⟨⟩) (by rintro _ ⟨⟩)
  | terminated reason htask => exact h.terminateWorker htask
  | draining hpublished => exact h.startDraining hpublished
  | finished hdraining => exact h.finishRecovery hdraining
  | localFailure hfailed => exact h.handleLocalFailure hfailed
  | abandoned hwaiting hcancelled => exact h.abandon hroom hwaiting
  | gaveUp hwaiting => exact h.giveUp hwaiting
  | resumed hwaiting => exact h.resume hwaiting
  | pinned hretrying hfree => exact h.pinSource hretrying hfree
  | reserved recoveryId full hreserving => exact h.reserveSource hreserving

/-- **Control of a run.** -/
theorem ServiceControl.of_reachable (h : (serviceMachine merge serialisedLen toJson maxPayloadBytes
    maxBufferedNativeBlocks).Reachable w) (hroom : w.HasRoom) : ServiceControl w := by
  refine h.invariant (P := fun v => v.HasRoom → ServiceControl v) ?_ ?_ hroom
  · exact fun _ hinit _ => .init hinit
  · exact fun v v' ih hstep hroom' =>
      (ih (hstep.hasRoom hroom')).step (hstep.hasRoom hroom') hstep

theorem WorkerTask.Fits.isActive {task : WorkerTask Sim} {phase : RecoveryPublicationPhase}
    (h : task.Fits phase) : phase.isActive = true := by
  cases task <;> cases phase <;> first | rfl | (simp [WorkerTask.Fits] at h)

/-- **A recovery is never left alone.** While it is active, the feed is starting its worker or the
worker of its work id is at a task of its phase; otherwise that work id has no worker. At most one
worker holds the lifecycle gate, and the feed does not then; a recovery fails by itself at most once
before it is fatal, and a fatal one names its error. -/
theorem recovery_attended
    (h : (serviceMachine merge serialisedLen toJson maxPayloadBytes
      maxBufferedNativeBlocks).Reachable w) (hroom : w.HasRoom) :
    (w.recovery.phase.isActive = true →
      (∃ source, w.feed = .starting w.recovery.workId source ∧ w.recovery.phase = .building) ∨
        ∃ task, w.workers w.recovery.workId = some task ∧ task.Fits w.recovery.phase) ∧
      (w.recovery.phase.isActive = false → w.workers w.recovery.workId = none) ∧
      (∀ workId source, w.workers workId = some (.reserving source) →
        w.feed.holdsGate = false ∧
          ∀ other source', w.workers other = some (.reserving source') → other = workId) ∧
      w.recovery.localFailures ≤ recoveryMaxLocalFailures ∧
      (w.recovery.phase = .fatal → w.recovery.fatalError.isSome = true) := by
  have hcontrol := ServiceControl.of_reachable h hroom
  refine ⟨fun hactive => ?_, fun hidle => ?_, hcontrol.gate, hcontrol.failures, hcontrol.fatal⟩
  · by_cases hstarting : ∃ source, w.feed = .starting w.recovery.workId source
    · obtain ⟨source, hstarting⟩ := hstarting
      exact .inl ⟨source, hstarting, (hcontrol.starting _ source hstarting).2.2⟩
    · have hallowed := hcontrol.task fun source hfeed => hstarting ⟨source, hfeed⟩
      cases htask : w.workers w.recovery.workId with
      | none =>
        rw [htask] at hallowed
        change _ = false at hallowed
        rw [hallowed] at hactive
        cases hactive
      | some task => exact .inr ⟨task, rfl, hcontrol.fits htask⟩
  · cases htask : w.workers w.recovery.workId with
    | none => rfl
    | some task =>
      have hactive := (hcontrol.fits htask).isActive
      rw [hidle] at hactive
      cases hactive

end

/-! ### A first recovery

A service that waits for its first replacement reads the block that completes it, and starts a
recovery. -/

/-- A header of an empty block. -/
def quietHeader (number : UInt64) : BlockHeader :=
  { hash := [number.toUInt8], number, parentHash := [(number - 1).toUInt8], revert := false
    timestamp := 0, partialBlockIndex := none }

/-- An empty block of one protocol. -/
def quietFeed (number : UInt64) : FeedMessage :=
  { stateMsgs := (∅ : FinMap String StateSyncMessage).insert "uniswap_v2"
      { header := quietHeader number, snapshots := ⟨∅, ∅⟩, deltas := none, removedComponents := ∅ }
    syncStates := (∅ : FinMap String SynchronizerState).insert "uniswap_v2"
      (.ready (quietHeader number)) }

/-- The newer message counts. -/
def quietMerge : StateSyncMerge := fun _ incoming => incoming

/-- The machine of the runs below. -/
def quietMachine : Machine (ServiceWorld Unit) :=
  serviceMachine quietMerge (fun _ => .ok 1) (fun _ => .ok "[]") 1000 6

/-- A service that waits for its first replacement. -/
def quietInit : ServiceWorld Unit :=
  { cache := (BroadcasterSnapshotCache.new 1 [.native]).beginSameGenerationRecovery
    recovery := .new, nextRecoverySourceId := 1, feed := .idle, workers := fun _ => none
    handover := none, superseded := none, live := [], interrupted := false }

/-- Block 5 completes the replacement. -/
def quietReady : ServiceWorld Unit :=
  (quietInit.enterFeed (quietFeed 5)).applyFeed quietMerge 6 (quietFeed 5) false

/-- What the feed starts a recovery from. -/
def FeedTask.startingFrom : FeedTask Sim → Option (UInt64 × BroadcasterRecoverySource Sim)
  | .starting workId source => some (workId, source)
  | _ => none

theorem FeedTask.startingFrom_eq_some {feed : FeedTask Sim}
    {start : UInt64 × BroadcasterRecoverySource Sim} (h : feed.startingFrom = some start) :
    feed = .starting start.1 start.2 := by
  cases feed <;> cases h
  rfl

theorem eq_some_getD {α : Type} {o : Option α} (h : o.isSome = true) (d : α) :
    o = some (o.getD d) := by
  cases o
  · cases h
  · rfl

/-- The start of the first recovery. -/
def quietStart : UInt64 × BroadcasterRecoverySource Unit :=
  quietReady.feed.startingFrom.getD (0, ⟨0, ∅⟩)

/-- The first recovery is under way. -/
def quietBuilding : ServiceWorld Unit :=
  quietReady.spawnWorker quietStart.1 quietStart.2 "recovery-1" false

theorem quietBuilding_run : quietReady.feed.startingFrom.isSome = true ∧ quietStart.1 = 1 ∧
    quietReady.recovery.workId = 1 ∧ quietReady.recovery.phase = .building := by
  decide +kernel

theorem quietReady_feed : quietReady.feed = .starting quietStart.1 quietStart.2 :=
  FeedTask.startingFrom_eq_some (eq_some_getD quietBuilding_run.1 _)

theorem quietBuilding_eq : quietBuilding =
    { quietReady with
      recovery := quietReady.recovery.reserve "recovery-1" false
      feed := .idle
      workers := Function.update quietReady.workers 1 (some (.serializing quietStart.2)) } := by
  obtain ⟨-, hstart, hworkId, hphase⟩ := quietBuilding_run
  have hgo : ¬(quietReady.recovery.workId ≠ quietStart.1 ∨ quietReady.recovery.phase ≠ .building) := by
    rw [hstart, hworkId, hphase, not_or, not_not, not_not]
    exact ⟨rfl, rfl⟩
  rw [quietBuilding, ServiceWorld.spawnWorker, if_neg hgo, hstart]

theorem quietBuilding_reachable : quietMachine.Reachable quietBuilding := by
  refine ⟨quietInit, ⟨rfl, rfl, fun _ => rfl, rfl⟩, ?_⟩
  have hentered : quietMachine.step quietInit (quietInit.enterFeed (quietFeed 5)) :=
    .feedEntered _ rfl
  have happlied : quietMachine.step (quietInit.enterFeed (quietFeed 5)) quietReady :=
    .feedApplied false rfl ⟨rfl, by rintro _ _ ⟨⟩⟩
  have hspawned : quietMachine.step quietReady quietBuilding :=
    .workerSpawned "recovery-1" false quietReady_feed
  exact ((Relation.ReflTransGen.single hentered).tail happlied).tail hspawned

/-- The first recovery has a worker. -/
theorem recovery_attended_first : quietBuilding.recovery.phase = .building ∧
    ∃ task, quietBuilding.workers quietBuilding.recovery.workId = some task := by
  obtain ⟨-, -, hworkId, hphase⟩ := quietBuilding_run
  have hbuilding : quietBuilding.recovery.phase = .building := by
    rw [quietBuilding_eq]
    exact hphase
  have hroom : quietBuilding.HasRoom := by
    rw [ServiceWorld.HasRoom, quietBuilding_eq]
    change quietReady.recovery.workId.toNat + 1 < 2 ^ 64
    rw [hworkId]
    decide
  refine ⟨hbuilding, ?_⟩
  rcases (recovery_attended quietBuilding_reachable hroom).1 (by rw [hbuilding]; rfl) with
    ⟨source, hfeed, -⟩ | ⟨task, htask, -⟩
  · rw [quietBuilding_eq] at hfeed
    cases hfeed
  · exact ⟨task, htask⟩

end TychoSimulationServer
