import Mathlib.Algebra.Order.BigOperators.Group.Finset
import TychoSimulationServer.ChunkCaps
import TychoSimulationServer.Machine

/-!
# Snapshot sessions

A consumer boots from a session: it asks for one, is told how many payloads there are and where to
read on afterwards, and fetches the payloads one by one. Meanwhile newer snapshots are installed,
sessions run out of time, and the writer may lose its fence and close all of them.

* **One artifact**: a session holds on to the artifact it was made for; what it serves, and the
  boundary it named, come from that artifact.
* **Once closed, closed**: a number is given to one session only, and nothing is served after its
  time, nor after it was closed.
* **Bounds** on the sessions, on the fetches at work, and on the bytes of the artifacts that are held
  on to, each counted once however many sessions share it.

Several callers are at work: a session gets its number and its time before the table is locked, and
a fetch its permit. Numbers are of 64 bits and are given out in order; after the last one they begin
again, so a number belongs to one session as long as fewer than `2 ^ 64` were given. An artifact that
is held on to is known by its address.
-/

namespace TychoSimulationServer

open Fallible

variable {Sim : Type}

/-! ## The registry

A session pins the artifact it was opened for, until it expires, is replaced, or is closed. The
limits are on the number of sessions and on the bytes of the artifacts they hold together; an
artifact that several sessions hold counts once. -/

/-- `SnapshotSessionError`. -/
inductive SnapshotSessionError where
  | notFound
  | expired
  | payloadOutOfRange
  | busy
deriving DecidableEq

/-- `SessionCloseReason`. -/
inductive SessionCloseReason where
  | expired
  | writerFenceLost

/-- `SessionCloseReason::label`. -/
def SessionCloseReason.label : SessionCloseReason → String
  | .expired => "expired"
  | .writerFenceLost => "writer_fence_lost"

/-- `PendingSnapshotSession`. -/
structure PendingSnapshotSession where
  /-- the address of the artifact -/
  artifact : Nat
  expiresAt : Nat
deriving DecidableEq

/-- `PendingSnapshotSession::is_expired`. -/
def PendingSnapshotSession.isExpired (session : PendingSnapshotSession) (now : Nat) : Bool :=
  decide (session.expiresAt ≤ now)

/-- `BroadcasterSnapshotSessionRegistry`. -/
structure BroadcasterSnapshotSessionRegistry where
  nextSessionId : UInt64
  lastError : Option String
  pendingSessions : FinMap UInt64 PendingSnapshotSession
  /-- the permits that are free -/
  fetchPermits : Nat

/-- `BroadcasterSnapshotSessionResponse`. -/
structure BroadcasterSnapshotSessionResponse where
  chainId : UInt64
  sessionId : UInt64
  streamId : String
  snapshotId : String
  redisReplayBoundary : BroadcasterRedisReplayBoundary
  payloadCount : UInt32
  snapshotChunkCount : UInt32
  expiresInMs : Nat
deriving DecidableEq

/-- `MAX_SNAPSHOT_SESSIONS`. -/
def maxSnapshotSessions : Nat := 128

/-- `MAX_CONCURRENT_SNAPSHOT_FETCHES`. -/
def maxConcurrentSnapshotFetches : Nat := 64

/-- `MAX_RETAINED_SNAPSHOT_BYTES`. -/
def maxRetainedSnapshotBytes : Nat := 512 * 1024 * 1024

section

variable (artifacts : Nat → BroadcasterSnapshotArtifact Sim)

/-- Count the bytes of an artifact that was not counted yet. -/
def retainArtifact (retained : FinSet Nat × Nat) (artifact : Nat) : FinSet Nat × Nat :=
  if artifact ∈ retained.1 then retained
  else (retained.1.insert artifact, saturatingAdd retained.2 (artifacts artifact).encodedBytes)

/-- The bytes that are held on to with one more session. -/
def retainedBytes (sessions : FinMap UInt64 PendingSnapshotSession) (artifact : Nat) : Nat :=
  ((sessions.toList.map (·.2.artifact) ++ [artifact]).foldl (retainArtifact artifacts) (∅, 0)).2

/-- What the consumer is told about its session. -/
def sessionResponse (sessionId : UInt64) (artifact ttl : Nat) : BroadcasterSnapshotSessionResponse :=
  let snapshot := artifacts artifact
  { chainId := snapshot.chainId, sessionId, streamId := snapshot.streamId
    snapshotId := snapshot.snapshotId, redisReplayBoundary := snapshot.redisReplayBoundary
    payloadCount := .ofNat snapshot.payloads.length
    snapshotChunkCount := snapshot.snapshotChunkCount, expiresInMs := min ttl (2 ^ 64 - 1) }

namespace BroadcasterSnapshotSessionRegistry

/-- `BroadcasterSnapshotSessionRegistry::new`. -/
def new : BroadcasterSnapshotSessionRegistry :=
  { nextSessionId := 1, lastError := none, pendingSessions := ∅
    fetchPermits := maxConcurrentSnapshotFetches }

variable (registry : BroadcasterSnapshotSessionRegistry)

/-- The sessions whose time is not over, where the clock shows so much when each is looked at. -/
def unexpired (clock : UInt64 → Nat) : FinMap UInt64 PendingSnapshotSession :=
  registry.pendingSessions.filter fun sessionId session => !session.isExpired (clock sessionId)

/-- `create_snapshot_session` with the table locked. The clock is read once for each session. -/
def createSnapshotSession (sessionId : UInt64) (session : PendingSnapshotSession) (ttl : Nat)
    (clock : UInt64 → Nat) :
    Except String BroadcasterSnapshotSessionResponse × BroadcasterSnapshotSessionRegistry :=
  let sessions := registry.unexpired clock
  let registry := { registry with pendingSessions := sessions }
  if sessions.size < maxSnapshotSessions then
    if retainedBytes artifacts sessions session.artifact ≤ maxRetainedSnapshotBytes then
      (.ok (sessionResponse artifacts sessionId session.artifact ttl),
        { registry with pendingSessions := sessions.insert sessionId session })
    else (.error "snapshot artifact retention capacity reached", registry)
  else (.error "snapshot session capacity reached", registry)

/-- `record_session_closed`. -/
def recordSessionClosed (sessionId : UInt64) (reason : SessionCloseReason) :
    BroadcasterSnapshotSessionRegistry :=
  let (id, label) := (sessionId.toNat.repr, reason.label)
  { registry with lastError := some s!"snapshot session {id} closed: {label}" }

/-- `snapshot_payload` with the table locked. -/
def snapshotPayload (sessionId : UInt64) (index : UInt32) (now : Nat) :
    Except SnapshotSessionError (BroadcasterEnvelope Sim) × BroadcasterSnapshotSessionRegistry :=
  match registry.pendingSessions[sessionId]? with
  | none => (.error .notFound, registry)
  | some session =>
    if session.isExpired now then
      (.error .expired,
        ({ registry with pendingSessions := registry.pendingSessions.erase sessionId }
          : BroadcasterSnapshotSessionRegistry).recordSessionClosed sessionId .expired)
    else
      match (artifacts session.artifact).payloads[index.toNat]? with
      | none => (.error .payloadOutOfRange, registry)
      | some envelope => (.ok envelope, registry)

/-- `cleanup_expired_snapshot_sessions`. -/
def cleanupExpiredSnapshotSessions (now : Nat) : BroadcasterSnapshotSessionRegistry :=
  let expired := registry.pendingSessions.toList.filter (·.2.isExpired now)
  expired.foldl (fun registry entry => registry.recordSessionClosed entry.1 .expired)
    { registry with pendingSessions := registry.unexpired fun _ => now }

/-- `disconnect_all`. -/
def disconnectAll (reason : SessionCloseReason) : BroadcasterSnapshotSessionRegistry :=
  let label := reason.label
  { registry with
    pendingSessions := ∅, lastError := some s!"all snapshot sessions closed: {label}" }

end BroadcasterSnapshotSessionRegistry

end

/-! ## Callers

A request reserves a number and creates its session under a lock that it takes later, so requests
overlap. What has happened is kept as a history of events, by which the results are stated. -/

/-- A session that has its number and its time, and is not in the table yet. -/
structure SessionRequest where
  sessionId : UInt64
  session : PendingSnapshotSession
  ttl : Nat

/-- What consumers see, and what becomes of sessions. -/
inductive SessionEvent (Sim : Type) where
  | created (response : BroadcasterSnapshotSessionResponse) (session : PendingSnapshotSession)
  | closed (sessionId : UInt64)
  | served (sessionId : UInt64) (index : UInt32) (envelope : BroadcasterEnvelope Sim) (time : Nat)
deriving DecidableEq

/-- The registry with its callers. -/
structure SessionWorld (Sim : Type) where
  registry : BroadcasterSnapshotSessionRegistry
  now : Nat
  creating : List SessionRequest
  /-- the fetches that have a permit -/
  fetching : List (UInt64 × UInt32)
  /-- no function reads it -/
  history : List (SessionEvent Sim)
  /-- how many numbers were given so far; no function reads it -/
  given : Nat

/-- The sessions that are in a table and not in a later one. -/
def closedSessions (sessions sessions' : FinMap UInt64 PendingSnapshotSession) :
    List (SessionEvent Sim) :=
  (sessions.keys.filter (· ∉ sessions')).map .closed

section

variable (artifacts : Nat → BroadcasterSnapshotArtifact Sim)

namespace SessionWorld

variable (w : SessionWorld Sim)

/-- A step of the table, with the sessions it closes and what else happens. -/
def update (registry : BroadcasterSnapshotSessionRegistry) (events : List (SessionEvent Sim)) :
    SessionWorld Sim :=
  { w with
    registry
    history := w.history ++
      closedSessions w.registry.pendingSessions registry.pendingSessions ++ events }

/-- `create_snapshot_session`, up to the lock; `fetch_add` wraps around. -/
def reserve (artifact ttl : Nat) : SessionWorld Sim :=
  let sessionId := w.registry.nextSessionId
  let session : PendingSnapshotSession := { artifact, expiresAt := w.now + ttl }
  { w with
    registry.nextSessionId := sessionId + 1
    creating := w.creating ++ [{ sessionId, session, ttl }]
    given := w.given + 1 }

/-- `create_snapshot_session`, with the lock. -/
def create (request : SessionRequest) (creating : List SessionRequest) (clock : UInt64 → Nat) :
    SessionWorld Sim :=
  let (result, registry) :=
    w.registry.createSnapshotSession artifacts request.sessionId request.session request.ttl clock
  let events := match result with
    | .ok response => [.created response request.session]
    | .error _ => []
  { w.update registry events with creating }

/-- `snapshot_payload`, with the lock; the clock was read before. The permit is given back. -/
def fetch (request : UInt64 × UInt32) (fetching : List (UInt64 × UInt32)) (time : Nat) :
    SessionWorld Sim :=
  let (result, registry) := w.registry.snapshotPayload artifacts request.1 request.2 time
  let events := match result with
    | .ok envelope => [.served request.1 request.2 envelope time]
    | .error _ => []
  { w.update { registry with fetchPermits := registry.fetchPermits + 1 } events with fetching }

end SessionWorld

/-- One step of the registry or of a caller. -/
inductive SessionStep (w : SessionWorld Sim) : SessionWorld Sim → Prop where
  | tick (duration : Nat) : SessionStep w { w with now := w.now + duration }
  | reserve (artifact ttl : Nat) : SessionStep w (w.reserve artifact ttl)
  /-- the readings of the clock under the lock lie between two instants -/
  | create {before after : List SessionRequest} {request : SessionRequest} (locked : Nat)
    (clock : UInt64 → Nat) :
    w.creating = before ++ request :: after → locked ≤ w.now →
    (∀ sessionId, locked ≤ clock sessionId ∧ clock sessionId ≤ w.now) →
    SessionStep w (w.create artifacts request (before ++ after) clock)
  /-- the caller went away -/
  | abandonCreate {before after : List SessionRequest} {request : SessionRequest} :
    w.creating = before ++ request :: after →
    SessionStep w { w with creating := before ++ after }
  /-- `try_acquire`; without a permit the caller is told that the registry is busy -/
  | acquire (sessionId : UInt64) (index : UInt32) : 0 < w.registry.fetchPermits →
    SessionStep w { w with
      registry.fetchPermits := w.registry.fetchPermits - 1
      fetching := w.fetching ++ [(sessionId, index)] }
  | fetch {before after : List (UInt64 × UInt32)} {request : UInt64 × UInt32} (time : Nat) :
    w.fetching = before ++ request :: after → time ≤ w.now →
    SessionStep w (w.fetch artifacts request (before ++ after) time)
  | abandonFetch {before after : List (UInt64 × UInt32)} {request : UInt64 × UInt32} :
    w.fetching = before ++ request :: after →
    SessionStep w { w with
      registry.fetchPermits := w.registry.fetchPermits + 1, fetching := before ++ after }
  | cleanup (time : Nat) : time ≤ w.now → SessionStep w
    (w.update (w.registry.cleanupExpiredSnapshotSessions time) [])
  | disconnectAll (reason : SessionCloseReason) : SessionStep w
    (w.update (w.registry.disconnectAll reason) [])

/-- **The snapshot sessions of a broadcaster.** -/
def sessionMachine : Machine (SessionWorld Sim) where
  init w := w.registry = .new ∧ w.creating = [] ∧ w.fetching = [] ∧ w.history = [] ∧ w.given = 0
  step := SessionStep artifacts

end

/-! ## The table

The bytes that sessions hold are a sum over the artifacts, not over the sessions. -/

section

variable {artifacts : Nat → BroadcasterSnapshotArtifact Sim}
  {sessions sessions' : FinMap UInt64 PendingSnapshotSession}

/-- The artifacts the sessions of a table hold on to. -/
def heldArtifacts (sessions : FinMap UInt64 PendingSnapshotSession) : Finset Nat :=
  (sessions.toList.map (·.2.artifact)).toFinset

/-- The bytes of the artifacts that are held on to. -/
def heldBytes (artifacts : Nat → BroadcasterSnapshotArtifact Sim)
    (sessions : FinMap UInt64 PendingSnapshotSession) : Nat :=
  ∑ artifact ∈ heldArtifacts sessions, (artifacts artifact).encodedBytes

/-- An artifact is held when a session names it. -/
theorem mem_heldArtifacts {artifact : Nat} : artifact ∈ heldArtifacts sessions ↔
    ∃ (sessionId : UInt64) (session : PendingSnapshotSession),
      sessions[sessionId]? = some session ∧ session.artifact = artifact := by
  rw [heldArtifacts, List.mem_toFinset, List.mem_map]
  constructor
  · rintro ⟨⟨sessionId, session⟩, hmem, rfl⟩
    exact ⟨sessionId, session, Std.ExtTreeMap.mem_toList_iff_getElem?_eq_some.mp hmem, rfl⟩
  · rintro ⟨sessionId, session, hget, rfl⟩
    exact ⟨(sessionId, session), Std.ExtTreeMap.mem_toList_iff_getElem?_eq_some.mpr hget, rfl⟩

/-- Sessions may have gone. -/
def Remains (sessions' sessions : FinMap UInt64 PendingSnapshotSession) : Prop :=
  ∀ (sessionId : UInt64) (session : PendingSnapshotSession),
    sessions'[sessionId]? = some session → sessions[sessionId]? = some session

theorem Remains.heldBytes_le (h : Remains sessions' sessions) :
    heldBytes artifacts sessions' ≤ heldBytes artifacts sessions := by
  refine Finset.sum_le_sum_of_subset fun artifact hmem => ?_
  obtain ⟨sessionId, session, hget, hartifact⟩ := mem_heldArtifacts.mp hmem
  exact mem_heldArtifacts.mpr ⟨sessionId, session, h sessionId session hget, hartifact⟩

/-- There are no more sessions than before. -/
theorem Remains.size_le (h : Remains sessions' sessions) : sessions'.size ≤ sessions.size := by
  have hnodup : sessions'.toList.Nodup := by
    rw [← List.map_id sessions'.toList]
    exact MapFold.nodup_map_toList (fun _ _ heq => heq) sessions'
  have hsubset : sessions'.toList ⊆ sessions.toList := by
    rintro ⟨sessionId, session⟩ hmem
    rw [Std.ExtTreeMap.mem_toList_iff_getElem?_eq_some] at hmem ⊢
    exact h sessionId session hmem
  rw [← Std.ExtTreeMap.length_toList, ← Std.ExtTreeMap.length_toList]
  exact (hnodup.subperm hsubset).length_le

/-- Sessions that are kept by a test remain. -/
theorem remains_filter (p : UInt64 → PendingSnapshotSession → Bool) :
    Remains (sessions.filter p) sessions := by
  intro sessionId session hget
  rw [Std.ExtTreeMap.getElem?_filter'] at hget
  exact (Option.filter_eq_some_iff.mp hget).1

theorem remains_erase (sessionId : UInt64) : Remains (sessions.erase sessionId) sessions := by
  intro other session hget
  rw [Std.ExtTreeMap.getElem?_erase] at hget
  split at hget
  · cases hget
  · exact hget

theorem remains_empty : Remains ∅ sessions := by
  intro sessionId session hget
  rw [Std.ExtTreeMap.getElem?_empty] at hget
  cases hget

/-- A session is recorded as closed when it is gone. -/
theorem mem_closedSessions {sessionId : UInt64} :
    (.closed sessionId : SessionEvent Sim) ∈ closedSessions sessions sessions' ↔
      sessionId ∈ sessions ∧ sessionId ∉ sessions' := by
  simp [closedSessions]

theorem closed_of_mem_closedSessions {event : SessionEvent Sim}
    (h : event ∈ closedSessions sessions sessions') : ∃ sessionId, event = .closed sessionId := by
  obtain ⟨sessionId, -, rfl⟩ := List.mem_map.mp h
  exact ⟨sessionId, rfl⟩

/-- **The bytes are counted once for each artifact.** -/
theorem retainArtifact_foldl (artifacts : Nat → BroadcasterSnapshotArtifact Sim)
    (names : List Nat) (seen : FinSet Nat) (counted : Finset Nat)
    (hseen : ∀ artifact, artifact ∈ seen ↔ artifact ∈ counted) :
    (names.foldl (retainArtifact artifacts)
        (seen, min (∑ artifact ∈ counted, (artifacts artifact).encodedBytes) usizeMax)).2 =
      min (∑ artifact ∈ counted ∪ names.toFinset, (artifacts artifact).encodedBytes) usizeMax := by
  induction names generalizing seen counted with
  | nil => simp
  | cons artifact names ih =>
    rw [List.foldl_cons, retainArtifact]
    split
    case isTrue hmem =>
      rw [ih seen counted hseen, List.toFinset_cons, Finset.union_insert,
        Finset.insert_eq_self.mpr (Finset.mem_union_left _ ((hseen artifact).mp hmem))]
    case isFalse hmem =>
      have hnew : artifact ∉ counted := fun h => hmem ((hseen artifact).mpr h)
      have hsum : saturatingAdd
            (min (∑ artifact ∈ counted, (artifacts artifact).encodedBytes) usizeMax)
            (artifacts artifact).encodedBytes =
          min (∑ artifact ∈ insert artifact counted, (artifacts artifact).encodedBytes) usizeMax := by
        rw [Finset.sum_insert hnew, saturatingAdd]
        omega
      dsimp only
      rw [hsum, ih (seen.insert artifact) (insert artifact counted) fun other => ?_]
      · rw [List.toFinset_cons, Finset.union_insert, Finset.insert_union]
      · rw [Std.ExtTreeSet.mem_insert, Finset.mem_insert, hseen, Std.compare_eq_iff_eq, eq_comm]

/-- The bytes that would be held, with the artifact of the new session. -/
theorem retainedBytes_eq (artifact : Nat) : retainedBytes artifacts sessions artifact =
    min (∑ name ∈ insert artifact (heldArtifacts sessions), (artifacts name).encodedBytes)
      usizeMax := by
  have hfold := retainArtifact_foldl artifacts
    (sessions.toList.map (·.2.artifact) ++ [artifact]) ∅ ∅ (by simp)
  rw [retainedBytes]
  rw [Finset.sum_empty, Nat.zero_min] at hfold
  rw [hfold, Finset.empty_union, List.toFinset_append, heldArtifacts, Finset.insert_eq,
    Finset.union_comm]
  rfl

/-- **A session more**, if the bytes allow it. -/
theorem heldBytes_insert {sessionId : UInt64} {session : PendingSnapshotSession}
    (h : retainedBytes artifacts sessions session.artifact ≤ maxRetainedSnapshotBytes) :
    heldBytes artifacts (sessions.insert sessionId session) ≤ maxRetainedSnapshotBytes := by
  have hle : ∑ name ∈ insert session.artifact (heldArtifacts sessions),
      (artifacts name).encodedBytes ≤ maxRetainedSnapshotBytes := by
    rw [retainedBytes_eq, min_le_iff] at h
    exact h.resolve_right (by decide)
  refine le_trans (Finset.sum_le_sum_of_subset fun artifact hmem => ?_) hle
  obtain ⟨other, session', hget, rfl⟩ := mem_heldArtifacts.mp hmem
  rw [Std.ExtTreeMap.getElem?_insert] at hget
  split at hget
  · obtain rfl := Option.some.inj hget
    exact Finset.mem_insert_self _ _
  · exact Finset.mem_insert_of_mem (mem_heldArtifacts.mpr ⟨other, session', hget, rfl⟩)

end

/-! ## What the functions do to the table -/

namespace BroadcasterSnapshotSessionRegistry

variable {artifacts : Nat → BroadcasterSnapshotArtifact Sim}
  {registry : BroadcasterSnapshotSessionRegistry} {sessionId : UInt64}
  {session : PendingSnapshotSession} {index : UInt32} {ttl now : Nat} {clock : UInt64 → Nat}

/-- A session is refused, or added to what is left of the others. -/
inductive Creates (artifacts : Nat → BroadcasterSnapshotArtifact Sim)
    (registry : BroadcasterSnapshotSessionRegistry) (sessionId : UInt64)
    (session : PendingSnapshotSession) (ttl : Nat) :
    Except String BroadcasterSnapshotSessionResponse × BroadcasterSnapshotSessionRegistry → Prop
  | refused (message : String) (pendingSessions : FinMap UInt64 PendingSnapshotSession) :
    Remains pendingSessions registry.pendingSessions →
    Creates artifacts registry sessionId session ttl
      (.error message, { registry with pendingSessions })
  | created (sessions : FinMap UInt64 PendingSnapshotSession) :
    Remains sessions registry.pendingSessions → sessions.size < maxSnapshotSessions →
    retainedBytes artifacts sessions session.artifact ≤ maxRetainedSnapshotBytes →
    Creates artifacts registry sessionId session ttl
      (.ok (sessionResponse artifacts sessionId session.artifact ttl),
        { registry with pendingSessions := sessions.insert sessionId session })

variable (artifacts registry sessionId session index ttl now clock)

/-- **A session is created** as specified. -/
theorem createSnapshotSession_creates : Creates artifacts registry sessionId session ttl
    (registry.createSnapshotSession artifacts sessionId session ttl clock) := by
  have hremains : Remains (registry.unexpired clock) registry.pendingSessions := remains_filter _
  rw [createSnapshotSession]
  split
  case isFalse => exact .refused _ _ hremains
  case isTrue hsize =>
    split
    case isFalse => exact .refused _ _ hremains
    case isTrue hbytes => exact .created _ hremains hsize hbytes

variable {artifacts registry sessionId session index ttl now clock}

/-- A fetch is refused, and may take its session out, or it gets a payload of the artifact. -/
inductive Fetches (artifacts : Nat → BroadcasterSnapshotArtifact Sim)
    (registry : BroadcasterSnapshotSessionRegistry) (sessionId : UInt64) (index : UInt32)
    (now : Nat) :
    Except SnapshotSessionError (BroadcasterEnvelope Sim) × BroadcasterSnapshotSessionRegistry → Prop
  | refused (error : SnapshotSessionError) (registry' : BroadcasterSnapshotSessionRegistry) :
    Remains registry'.pendingSessions registry.pendingSessions →
    registry'.nextSessionId = registry.nextSessionId →
    registry'.fetchPermits = registry.fetchPermits →
    Fetches artifacts registry sessionId index now (.error error, registry')
  | served {session : PendingSnapshotSession} {envelope : BroadcasterEnvelope Sim} :
    registry.pendingSessions[sessionId]? = some session → now < session.expiresAt →
    (artifacts session.artifact).payloads[index.toNat]? = some envelope →
    Fetches artifacts registry sessionId index now (.ok envelope, registry)

variable (artifacts registry sessionId index now)

/-- **A payload is fetched** as specified. -/
theorem snapshotPayload_fetches : Fetches artifacts registry sessionId index now
    (registry.snapshotPayload artifacts sessionId index now) := by
  rw [snapshotPayload]
  split
  case h_1 => exact .refused _ _ (fun _ _ hget => hget) rfl rfl
  case h_2 session hsession =>
    split
    case isTrue => exact .refused _ _ (remains_erase sessionId) rfl rfl
    case isFalse hunexpired =>
      have hlt : now < session.expiresAt := by
        simpa [PendingSnapshotSession.isExpired] using hunexpired
      split
      case h_1 => exact .refused _ _ (fun _ _ hget => hget) rfl rfl
      case h_2 envelope henvelope => exact .served hsession hlt henvelope

/-- Notes about closed sessions do not touch the table. -/
theorem foldl_recordSessionClosed (entries : List (UInt64 × PendingSnapshotSession))
    (registry : BroadcasterSnapshotSessionRegistry) :
    let closed := entries.foldl (fun registry entry =>
      registry.recordSessionClosed entry.1 .expired) registry
    closed.pendingSessions = registry.pendingSessions ∧
      closed.nextSessionId = registry.nextSessionId ∧
      closed.fetchPermits = registry.fetchPermits := by
  induction entries generalizing registry with
  | nil => exact ⟨rfl, rfl, rfl⟩
  | cons entry entries ih => exact ih (registry.recordSessionClosed entry.1 .expired)

theorem cleanupExpired_remains :
    Remains (registry.cleanupExpiredSnapshotSessions now).pendingSessions registry.pendingSessions ∧
      (registry.cleanupExpiredSnapshotSessions now).nextSessionId = registry.nextSessionId ∧
      (registry.cleanupExpiredSnapshotSessions now).fetchPermits = registry.fetchPermits := by
  obtain ⟨hsessions, hnext, hpermits⟩ := foldl_recordSessionClosed
    (registry.pendingSessions.toList.filter (·.2.isExpired now))
    { registry with pendingSessions := registry.unexpired fun _ => now }
  refine ⟨?_, hnext, hpermits⟩
  rw [cleanupExpiredSnapshotSessions, hsessions]
  exact remains_filter _

end BroadcasterSnapshotSessionRegistry

/-! ## The history

A payload that was served came from a session that had been created and was not closed, and from the
artifact that session named. -/

/-- The numbers of the sessions that were made. -/
def createdIds (history : List (SessionEvent Sim)) : List UInt64 :=
  history.filterMap fun
    | .created response _ => some response.sessionId
    | _ => none

section

variable (artifacts : Nat → BroadcasterSnapshotArtifact Sim)

/-- A payload of the artifact of a session that was made, is not closed, and has time left. -/
def ServedFrom (past : List (SessionEvent Sim)) (sessionId : UInt64) (index : UInt32)
    (envelope : BroadcasterEnvelope Sim) (time : Nat) : Prop :=
  ∃ response session, .created response session ∈ past ∧ response.sessionId = sessionId ∧
    .closed sessionId ∉ past ∧ time < session.expiresAt ∧
    (artifacts session.artifact).payloads[index.toNat]? = some envelope

/-- What the history says about a table, and about the numbers that are reserved. -/
structure HistoryFits (history : List (SessionEvent Sim))
    (sessions : FinMap UInt64 PendingSnapshotSession) (given : Nat) (reserved : List UInt64) :
    Prop where
  distinct : (createdIds history ++ reserved).Nodup
  /-- they are among the numbers that were given -/
  numbered : ∀ sessionId ∈ createdIds history ++ reserved, ∃ n < given, sessionId = .ofNat (n + 1)
  closed : ∀ sessionId, .closed sessionId ∈ history → sessionId ∈ createdIds history
  listed : ∀ (sessionId : UInt64) (session : PendingSnapshotSession),
    sessions[sessionId]? = some session → .closed sessionId ∉ history ∧
      ∃ response, .created response session ∈ history ∧ response.sessionId = sessionId
  responses : ∀ response session, .created response session ∈ history →
    ∃ ttl, response = sessionResponse artifacts response.sessionId session.artifact ttl
  served : ∀ i sessionId index envelope time,
    history[i]? = some (.served sessionId index envelope time) →
    ServedFrom artifacts (history.take i) sessionId index envelope time

end

section

variable {artifacts : Nat → BroadcasterSnapshotArtifact Sim} {history : List (SessionEvent Sim)}
  {sessions sessions' : FinMap UInt64 PendingSnapshotSession} {given : Nat}
  {reserved : List UInt64}

@[simp] theorem createdIds_append (history history' : List (SessionEvent Sim)) :
    createdIds (history ++ history') = createdIds history ++ createdIds history' :=
  List.filterMap_append

theorem createdIds_closedSessions :
    createdIds (closedSessions sessions sessions' : List (SessionEvent Sim)) = [] := by
  refine List.filterMap_eq_nil_iff.mpr fun event hmem => ?_
  obtain ⟨sessionId, rfl⟩ := closed_of_mem_closedSessions hmem
  rfl

/-- A created session has been given its number. -/
theorem mem_createdIds {response : BroadcasterSnapshotSessionResponse}
    {session : PendingSnapshotSession} (h : .created response session ∈ history) :
    response.sessionId ∈ createdIds history :=
  List.mem_filterMap.mpr ⟨_, h, rfl⟩

/-- What was served before stays served from what was before. -/
theorem HistoryFits.served_append (h : HistoryFits artifacts history sessions given reserved)
    {events : List (SessionEvent Sim)}
    (hevents : ∀ i sessionId index envelope time,
      events[i]? = some (.served sessionId index envelope time) →
      ServedFrom artifacts (history ++ events.take i) sessionId index envelope time) :
    ∀ i sessionId index envelope time,
      (history ++ events)[i]? = some (.served sessionId index envelope time) →
      ServedFrom artifacts ((history ++ events).take i) sessionId index envelope time := by
  intro i sessionId index envelope time hget
  rcases Nat.lt_or_ge i history.length with hlt | hge
  · rw [List.getElem?_append_left hlt] at hget
    rw [List.take_append_of_le_length hlt.le]
    exact h.served i sessionId index envelope time hget
  · rw [List.getElem?_append_right hge] at hget
    obtain ⟨j, rfl⟩ := Nat.exists_eq_add_of_le hge
    rw [List.take_length_add_append]
    rw [Nat.add_sub_cancel_left] at hget
    exact hevents j sessionId index envelope time hget

/-- **Sessions are closed.** -/
theorem HistoryFits.close (h : HistoryFits artifacts history sessions given reserved)
    (hremains : Remains sessions' sessions) :
    HistoryFits artifacts (history ++ closedSessions sessions sessions') sessions' given reserved where
  distinct := by
    rw [createdIds_append, createdIds_closedSessions, List.append_nil]
    exact h.distinct
  numbered := by
    rw [createdIds_append, createdIds_closedSessions, List.append_nil]
    exact h.numbered
  closed sessionId hmem := by
    rw [createdIds_append, List.mem_append]
    rcases List.mem_append.mp hmem with hmem | hmem
    · exact .inl (h.closed sessionId hmem)
    · -- a session that is closed now was in the table, so it has been created
      obtain ⟨hin, -⟩ := mem_closedSessions.mp hmem
      rw [Std.ExtTreeMap.mem_iff_isSome_getElem?, Option.isSome_iff_exists] at hin
      obtain ⟨session, hsession⟩ := hin
      obtain ⟨-, response, hcreated, rfl⟩ := h.listed sessionId session hsession
      exact .inl (mem_createdIds hcreated)
  listed sessionId session hget := by
    obtain ⟨hopen, response, hcreated, hid⟩ := h.listed sessionId session (hremains _ _ hget)
    refine ⟨fun hmem => ?_, response, List.mem_append_left _ hcreated, hid⟩
    rcases List.mem_append.mp hmem with hmem | hmem
    · exact hopen hmem
    · refine (mem_closedSessions.mp hmem).2 ?_
      rw [Std.ExtTreeMap.mem_iff_isSome_getElem?, hget]
      rfl
  responses response session hmem := by
    rcases List.mem_append.mp hmem with hmem | hmem
    · exact h.responses response session hmem
    · obtain ⟨_, hclosed⟩ := closed_of_mem_closedSessions hmem
      cases hclosed
  served := by
    refine h.served_append fun i sessionId index envelope time hget => ?_
    obtain ⟨_, hclosed⟩ := closed_of_mem_closedSessions (List.mem_of_getElem? hget)
    cases hclosed

/-- **A session is made**, under a number that was reserved. -/
theorem HistoryFits.create {sessionId : UInt64} {before after : List UInt64}
    (session : PendingSnapshotSession) (ttl : Nat)
    (h : HistoryFits artifacts history sessions given (before ++ sessionId :: after)) :
    HistoryFits artifacts
      (history ++ [.created (sessionResponse artifacts sessionId session.artifact ttl) session])
      (sessions.insert sessionId session) given (before ++ after) where
  distinct := by
    rw [createdIds_append]
    refine List.Perm.nodup ?_ h.distinct
    have hid : createdIds [(.created (sessionResponse artifacts sessionId session.artifact ttl)
      session : SessionEvent Sim)] = [sessionId] := rfl
    rw [hid, List.append_assoc]
    exact List.Perm.append_left _ List.perm_middle
  numbered := by
    intro other hmem
    refine h.numbered other ?_
    rw [createdIds_append] at hmem
    have hid : createdIds [(.created (sessionResponse artifacts sessionId session.artifact ttl)
      session : SessionEvent Sim)] = [sessionId] := rfl
    rw [hid] at hmem
    simp only [List.mem_append, List.mem_cons, List.not_mem_nil, or_false] at hmem ⊢
    tauto
  closed other hmem := by
    rw [createdIds_append, List.mem_append]
    refine .inl (h.closed other ?_)
    simpa using hmem
  listed other session' hget := by
    -- a number that is given out now has not been closed before
    have hnew : (.closed sessionId : SessionEvent Sim) ∉ history := by
      intro hmem
      have hdistinct := h.distinct
      rw [List.nodup_append] at hdistinct
      exact hdistinct.2.2 sessionId (h.closed sessionId hmem) sessionId (by simp) rfl
    rw [Std.ExtTreeMap.getElem?_insert] at hget
    split at hget
    case isTrue heq =>
      obtain rfl := Option.some.inj hget
      obtain rfl := Std.LawfulEqCmp.eq_of_compare heq
      exact ⟨by simpa using hnew, _, List.mem_append_right _ (List.mem_singleton.mpr rfl), rfl⟩
    case isFalse =>
      obtain ⟨hopen, response, hcreated, hid⟩ := h.listed other session' hget
      exact ⟨by simpa using hopen, response, List.mem_append_left _ hcreated, hid⟩
  responses response session' hmem := by
    rcases List.mem_append.mp hmem with hmem | hmem
    · exact h.responses response session' hmem
    · rw [List.mem_singleton] at hmem
      cases hmem
      exact ⟨ttl, rfl⟩
  served := by
    refine h.served_append fun i sessionId index envelope time hget => ?_
    have hmem := List.mem_of_getElem? hget
    rw [List.mem_singleton] at hmem
    cases hmem

/-- **A payload is served.** -/
theorem HistoryFits.serve (h : HistoryFits artifacts history sessions given reserved)
    {sessionId : UInt64} {session : PendingSnapshotSession} {index : UInt32}
    {envelope : BroadcasterEnvelope Sim} {time : Nat} (hsession : sessions[sessionId]? = some session)
    (htime : time < session.expiresAt)
    (hpayload : (artifacts session.artifact).payloads[index.toNat]? = some envelope) :
    HistoryFits artifacts (history ++ [.served sessionId index envelope time]) sessions given reserved where
  distinct := by
    rw [createdIds_append]
    exact (List.append_nil (createdIds history)).symm ▸ h.distinct
  numbered := by
    rw [createdIds_append]
    exact (List.append_nil (createdIds history)).symm ▸ h.numbered
  closed other hmem := by
    rw [createdIds_append, List.mem_append]
    refine .inl (h.closed other ?_)
    simpa using hmem
  listed other session' hget := by
    obtain ⟨hopen, response, hcreated, hid⟩ := h.listed other session' hget
    exact ⟨by simpa using hopen, response, List.mem_append_left _ hcreated, hid⟩
  responses response session' hmem := by
    refine h.responses response session' ?_
    simpa using hmem
  served := by
    refine h.served_append fun i other index' envelope' time' hget => ?_
    obtain ⟨hopen, response, hcreated, hid⟩ := h.listed sessionId session hsession
    rw [List.getElem?_singleton] at hget
    split at hget
    case isFalse => cases hget
    case isTrue hi =>
      subst hi
      cases hget
      rw [List.take_zero, List.append_nil]
      exact ⟨response, session, hcreated, hid, hopen, htime, hpayload⟩

/-- **A number is given**, one that was not given before as long as they last. -/
theorem HistoryFits.reserve (h : HistoryFits artifacts history sessions given reserved)
    (hroom : given + 1 < 2 ^ 64) :
    HistoryFits artifacts history sessions (given + 1) (reserved ++ [.ofNat (given + 1)]) where
  distinct := by
    rw [← List.append_assoc]
    refine List.Nodup.append h.distinct (List.nodup_singleton _) fun other hmem hnew => ?_
    rw [List.mem_singleton.mp hnew] at hmem
    obtain ⟨n, hlt, heq⟩ := h.numbered _ hmem
    have hsame := congrArg UInt64.toNat heq
    rw [UInt64.toNat_ofNat', UInt64.toNat_ofNat'] at hsame
    omega
  numbered other hmem := by
    rw [← List.append_assoc, List.mem_append] at hmem
    rcases hmem with hmem | hmem
    · obtain ⟨n, hlt, heq⟩ := h.numbered other hmem
      exact ⟨n, hlt.trans (Nat.lt_succ_self _), heq⟩
    · exact ⟨given, Nat.lt_succ_self _, List.mem_singleton.mp hmem⟩
  closed := h.closed
  listed := h.listed
  responses := h.responses
  served := h.served

/-- A reservation is given up. -/
theorem HistoryFits.abandon {reserved' : List UInt64} (hsub : reserved'.Sublist reserved)
    (h : HistoryFits artifacts history sessions given reserved) :
    HistoryFits artifacts history sessions given reserved' where
  distinct := h.distinct.sublist ((List.Sublist.refl _).append hsub)
  numbered other hmem := h.numbered other (((List.Sublist.refl _).append hsub).subset hmem)
  closed := h.closed
  listed := h.listed
  responses := h.responses
  served := h.served

end

/-! ## Runs

Every event that is recorded is one the invariant allows, and the sessions in the table are the
created ones that are not closed. -/

section

/-- **The invariant.** The bounds hold whatever becomes of the numbers; the history is right while
the numbers last. -/
structure SessionInvariant (artifacts : Nat → BroadcasterSnapshotArtifact Sim)
    (w : SessionWorld Sim) : Prop where
  size : w.registry.pendingSessions.size ≤ maxSnapshotSessions
  bytes : heldBytes artifacts w.registry.pendingSessions ≤ maxRetainedSnapshotBytes
  permits : w.fetching.length + w.registry.fetchPermits = maxConcurrentSnapshotFetches
  next : w.registry.nextSessionId = .ofNat (w.given + 1)
  history : w.given < 2 ^ 64 → HistoryFits artifacts w.history w.registry.pendingSessions w.given
    (w.creating.map (·.sessionId))

variable {artifacts : Nat → BroadcasterSnapshotArtifact Sim} {w w' : SessionWorld Sim}

theorem closedSessions_self {sessions : FinMap UInt64 PendingSnapshotSession} :
    (closedSessions sessions sessions : List (SessionEvent Sim)) = [] := by
  simp [closedSessions]

/-- A new session closes no other one. -/
theorem closedSessions_insert {sessions sessions' : FinMap UInt64 PendingSnapshotSession}
    {sessionId : UInt64} {session : PendingSnapshotSession} (h : sessionId ∉ sessions) :
    (closedSessions sessions (sessions'.insert sessionId session) : List (SessionEvent Sim)) =
      closedSessions sessions sessions' := by
  rw [closedSessions, closedSessions]
  congr 1
  refine List.filter_congr fun other hmem => ?_
  have hne : sessionId ≠ other := by
    rintro rfl
    exact h (Std.ExtTreeMap.mem_keys.mp hmem)
  simp [Std.ExtTreeMap.mem_insert, hne]

/-- **Steps that only close sessions.** -/
theorem SessionInvariant.close (h : SessionInvariant artifacts w)
    {registry : BroadcasterSnapshotSessionRegistry}
    (hremains : Remains registry.pendingSessions w.registry.pendingSessions)
    (hnext : registry.nextSessionId = w.registry.nextSessionId)
    (hpermits : registry.fetchPermits = w.registry.fetchPermits) :
    SessionInvariant artifacts (w.update registry []) where
  size := hremains.size_le.trans h.size
  bytes := hremains.heldBytes_le.trans h.bytes
  permits := by
    rw [← h.permits, ← hpermits]
    rfl
  next := hnext.trans h.next
  history hgiven := by
    rw [SessionWorld.update, List.append_nil]
    exact (h.history hgiven).close hremains

theorem SessionInvariant.create (h : SessionInvariant artifacts w)
    {before after : List SessionRequest} {request : SessionRequest}
    (hcreating : w.creating = before ++ request :: after) (clock : UInt64 → Nat) :
    SessionInvariant artifacts (w.create artifacts request (before ++ after) clock) := by
  have hsub : ((before ++ after).map (·.sessionId)).Sublist (w.creating.map (·.sessionId)) := by
    rw [hcreating]
    exact ((List.Sublist.refl before).append (List.sublist_cons_self request after)).map _
  rw [SessionWorld.create]
  -- the clock may move while the table is cleaned, so it is asked once for each session
  generalize hresult : w.registry.createSnapshotSession artifacts request.sessionId request.session
    request.ttl clock = result
  have hcreates := w.registry.createSnapshotSession_creates artifacts request.sessionId
    request.session request.ttl clock
  rw [hresult] at hcreates
  cases hcreates with
  | refused message pendingSessions hremains =>
    have hclosed : SessionInvariant artifacts (w.update { w.registry with pendingSessions } []) :=
      h.close hremains rfl rfl
    exact { size := hclosed.size, bytes := hclosed.bytes, permits := hclosed.permits
            next := hclosed.next, history := fun hgiven => (hclosed.history hgiven).abandon hsub }
  | created sessions hremains hsize hbytes =>
    refine { size := ?_, bytes := heldBytes_insert hbytes, permits := h.permits, next := h.next
             history := fun hgiven => ?_ }
    · exact le_trans Std.ExtTreeMap.size_insert_le hsize
    · -- the number of the request is not in the table
      have hnew : request.sessionId ∉ w.registry.pendingSessions := by
        intro hmem
        rw [Std.ExtTreeMap.mem_iff_isSome_getElem?, Option.isSome_iff_exists] at hmem
        obtain ⟨session, hsession⟩ := hmem
        obtain ⟨-, response, hcreated, hid⟩ := (h.history hgiven).listed _ session hsession
        have hdistinct := (h.history hgiven).distinct
        rw [List.nodup_append] at hdistinct
        refine hdistinct.2.2 _ (mem_createdIds hcreated) request.sessionId ?_ hid
        rw [hcreating]
        simp
      have hclosed := (h.history hgiven).close hremains
      rw [hcreating, List.map_append, List.map_cons] at hclosed
      have hcreated := hclosed.create request.session request.ttl
      rw [← List.map_append] at hcreated
      simpa only [SessionWorld.update, closedSessions_insert hnew] using hcreated

/-- A request is served, or its session is closed. -/
theorem SessionInvariant.fetch (h : SessionInvariant artifacts w)
    {before after : List (UInt64 × UInt32)} {request : UInt64 × UInt32}
    (hfetching : w.fetching = before ++ request :: after) (time : Nat) :
    SessionInvariant artifacts (w.fetch artifacts request (before ++ after) time) := by
  have hpermits : (before ++ after).length + (w.registry.fetchPermits + 1) =
      maxConcurrentSnapshotFetches := by
    rw [← h.permits, hfetching]
    simp only [List.length_append, List.length_cons]
    omega
  rw [SessionWorld.fetch]
  generalize hresult : w.registry.snapshotPayload artifacts request.1 request.2 time = result
  have hfetches := w.registry.snapshotPayload_fetches artifacts request.1 request.2 time
  rw [hresult] at hfetches
  cases hfetches with
  | refused error registry hremains hnext hfree =>
    have hclosed : SessionInvariant artifacts (w.update registry []) := h.close hremains hnext hfree
    exact { size := hclosed.size, bytes := hclosed.bytes
            permits := by rw [← hfree] at hpermits; exact hpermits
            next := hclosed.next, history := hclosed.history }
  | served hsession htime hpayload =>
    refine { size := h.size, bytes := h.bytes, permits := hpermits, next := h.next
             history := fun hgiven => ?_ }
    have hserved := (h.history hgiven).serve hsession htime hpayload
    simpa only [SessionWorld.update, closedSessions_self, List.append_nil] using hserved

theorem SessionInvariant.init (h : (sessionMachine artifacts).init w) :
    SessionInvariant artifacts w := by
  obtain ⟨hregistry, hcreating, hfetching, hhistory, hgiven⟩ := h
  refine { size := ?_, bytes := ?_, permits := ?_, next := ?_, history := fun _ => ?_ }
  · rw [hregistry]
    exact Nat.zero_le _
  · rw [hregistry]
    exact Nat.zero_le _
  · rw [hregistry, hfetching]
    rfl
  · rw [hregistry, hgiven]
    rfl
  · rw [hregistry, hcreating, hhistory]
    refine ⟨List.nodup_nil, by rintro _ ⟨⟩, by rintro _ ⟨⟩, fun sessionId session hget => ?_,
      by rintro _ _ ⟨⟩, by rintro _ _ _ _ _ ⟨⟩⟩
    rw [BroadcasterSnapshotSessionRegistry.new, Std.ExtTreeMap.getElem?_empty] at hget
    cases hget

/-- **One step.** -/
theorem SessionInvariant.step (h : SessionInvariant artifacts w) (hstep : SessionStep artifacts w w') :
    SessionInvariant artifacts w' := by
  cases hstep with
  | tick duration => exact { size := h.size, bytes := h.bytes, permits := h.permits
                             next := h.next, history := h.history }
  | reserve artifact ttl =>
    refine { size := h.size, bytes := h.bytes, permits := h.permits, next := ?_
             history := fun hgiven => ?_ }
    · rw [SessionWorld.reserve, h.next]
      exact (UInt64.ofNat_add ..).symm
    · -- as long as numbers remain, the next one is new
      have hgiven : w.given + 1 < 2 ^ 64 := hgiven
      rw [SessionWorld.reserve, List.map_append, h.next]
      exact (h.history (Nat.lt_of_succ_lt hgiven)).reserve hgiven
  | create locked clock hcreating _ _ => exact h.create hcreating clock
  | @abandonCreate before after request hcreating =>
    refine { size := h.size, bytes := h.bytes, permits := h.permits, next := h.next
             history := fun hgiven => (h.history hgiven).abandon ?_ }
    rw [hcreating]
    exact ((List.Sublist.refl before).append (List.sublist_cons_self request after)).map _
  | acquire sessionId index hfree =>
    refine { size := h.size, bytes := h.bytes, permits := ?_, next := h.next
             history := h.history }
    rw [← h.permits]
    simp only [List.length_append, List.length_singleton]
    omega
  | fetch time hfetching _ => exact h.fetch hfetching time
  | abandonFetch hfetching =>
    refine { size := h.size, bytes := h.bytes, permits := ?_, next := h.next
             history := h.history }
    rw [← h.permits, hfetching]
    simp only [List.length_append, List.length_cons]
    omega
  | cleanup time _ =>
    obtain ⟨hremains, hnext, hpermits⟩ :=
      w.registry.cleanupExpired_remains time
    exact h.close hremains hnext hpermits
  | disconnectAll reason => exact h.close remains_empty rfl rfl

/-- **The sessions of a broadcaster.** In every state of every run there are at most 128 sessions and
64 fetches, and the artifacts held on to have at most 512 MiB. As long as fewer than `2 ^ 64` numbers
were given, no two sessions have one number, and a payload is served while its session has time left
and is not closed, and comes from the artifact whose boundary, ids and number of payloads the session
named. -/
theorem snapshot_sessions_serve (h : (sessionMachine artifacts).Reachable w) :
    (w.registry.pendingSessions.size ≤ maxSnapshotSessions ∧
      w.fetching.length ≤ maxConcurrentSnapshotFetches ∧
      heldBytes artifacts w.registry.pendingSessions ≤ maxRetainedSnapshotBytes) ∧
    (w.given < 2 ^ 64 →
      (createdIds w.history).Nodup ∧
      ∀ i sessionId index envelope time,
        w.history[i]? = some (.served sessionId index envelope time) →
        ∃ session ttl, .created (sessionResponse artifacts sessionId session.artifact ttl) session ∈
            w.history.take i ∧ .closed sessionId ∉ w.history.take i ∧ time < session.expiresAt ∧
          (artifacts session.artifact).payloads[index.toNat]? = some envelope) := by
  have hinvariant : SessionInvariant artifacts w :=
    h.invariant (fun _ hinit => .init hinit) fun _ _ hw hstep => hw.step hstep
  refine ⟨⟨hinvariant.size, ?_, hinvariant.bytes⟩, fun hgiven => ⟨?_, ?_⟩⟩
  · exact hinvariant.permits ▸ Nat.le_add_right _ _
  · exact (List.nodup_append.mp (hinvariant.history hgiven).distinct).1
  · intro i sessionId index envelope time hget
    obtain ⟨response, session, hcreated, rfl, hopen, htime, hpayload⟩ :=
      (hinvariant.history hgiven).served i sessionId index envelope time hget
    obtain ⟨ttl, hresponse⟩ :=
      (hinvariant.history hgiven).responses response session (List.mem_of_mem_take hcreated)
    exact ⟨session, ttl, hresponse ▸ hcreated, hopen, htime, hpayload⟩

end

/-! ## A run

Two sessions of one artifact: the first one is disconnected, and the second one is served. -/

/-- The artifact of a generation, with nothing but its end. -/
def endArtifact (generation : Nat) : BroadcasterSnapshotArtifact Unit :=
  let generation := UInt64.ofNat generation
  let streamId := formatStreamId 1 generation
  let snapshotId := formatSnapshotId 1 generation
  { chainId := 1, streamId, snapshotId
    redisReplayBoundary :=
      { streamKey := "deltas", streamId, snapshotId, generation, exclusiveMessageSeq := 1
        stateVersion := 0 }
    payloads := [⟨streamId, 1, .snapshotEnd ⟨snapshotId⟩⟩]
    snapshotChunkCount := 0, encodedBytes := 103 }

/-- A registry without sessions. -/
def noSessions : SessionWorld Unit :=
  { registry := .new, now := 0, creating := [], fetching := [], history := [], given := 0 }

/-- A request for a session of the fifth generation. -/
def sessionRequest (sessionId : UInt64) (ttl : Nat) : SessionRequest :=
  { sessionId, session := { artifact := 5, expiresAt := ttl }, ttl }

/-- Two sessions of the fifth generation are made, the second with more time. -/
def twoSessions : SessionWorld Unit :=
  let w := (noSessions.reserve 5 1000).create endArtifact (sessionRequest 1 1000) [] fun _ => 0
  (w.reserve 5 2000).create endArtifact (sessionRequest 2 2000) [] fun _ => 0

/-- The time of the first is over and it is taken out; the payload of the second is about to be
fetched. -/
def secondFetch : SessionWorld Unit :=
  let w : SessionWorld Unit := { twoSessions with now := twoSessions.now + 1000 }
  let w := w.update (w.registry.cleanupExpiredSnapshotSessions 1000) []
  { w with
    registry.fetchPermits := w.registry.fetchPermits - 1
    fetching := w.fetching ++ [(2, 0)] }

/-- The payload of the second was fetched. -/
def secondServed : SessionWorld Unit :=
  secondFetch.fetch endArtifact (2, 0) [] 1000

theorem secondServed_history : secondServed.history =
    [.created (sessionResponse endArtifact 1 5 1000) (sessionRequest 1 1000).session,
      .created (sessionResponse endArtifact 2 5 2000) (sessionRequest 2 2000).session, .closed 1,
      .served 2 0 ⟨"chain-1-stream-5", 1, .snapshotEnd ⟨"chain-1-snapshot-5"⟩⟩ 1000] := by
  decide +kernel

theorem secondServed_reachable : (sessionMachine endArtifact).Reachable secondServed := by
  refine ⟨noSessions, ⟨rfl, rfl, rfl, rfl, rfl⟩, ?_⟩
  have htwo : (sessionMachine endArtifact).Steps noSessions twoSessions :=
    .tail (.tail (.tail (.tail .refl (.reserve 5 1000))
      (@SessionStep.create Unit endArtifact _ [] [] (sessionRequest 1 1000) 0 (fun _ => 0) rfl
        (Nat.zero_le _) fun _ => ⟨Nat.zero_le _, Nat.zero_le _⟩)) (.reserve 5 2000))
      (@SessionStep.create Unit endArtifact _ [] [] (sessionRequest 2 2000) 0 (fun _ => 0) rfl
        (Nat.zero_le _) fun _ => ⟨Nat.zero_le _, Nat.zero_le _⟩)
  refine htwo.trans (.tail (.tail (.tail (.tail .refl (.tick 1000)) (.cleanup 1000 ?_))
    (.acquire 2 0 (by decide +kernel))) (@SessionStep.fetch Unit endArtifact _ [] [] (2, 0) 1000 rfl ?_))
  · exact Nat.le_refl _
  · exact Nat.le_refl _

/-- Two sessions share an artifact; when the first is closed, the second still serves it. -/
theorem snapshot_sessions_serve_second :
    (createdIds secondServed.history).Nodup ∧ .closed 1 ∈ secondServed.history ∧
      ∃ session : PendingSnapshotSession, 1000 < session.expiresAt ∧
        (endArtifact session.artifact).payloads[0]? = some
          ⟨"chain-1-stream-5", 1, .snapshotEnd ⟨"chain-1-snapshot-5"⟩⟩ := by
  obtain ⟨-, hhistory⟩ := snapshot_sessions_serve secondServed_reachable
  obtain ⟨hnodup, hserved⟩ := hhistory (by decide)
  have hevent : secondServed.history[3]? = some
      (.served 2 0 ⟨"chain-1-stream-5", 1, .snapshotEnd ⟨"chain-1-snapshot-5"⟩⟩ 1000) := by
    rw [secondServed_history]
    rfl
  obtain ⟨session, ttl, -, -, htime, hpayload⟩ := hserved 3 2 0 _ 1000 hevent
  refine ⟨hnodup, ?_, session, htime, hpayload⟩
  rw [secondServed_history]
  simp

end TychoSimulationServer
