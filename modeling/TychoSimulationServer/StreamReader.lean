import TychoSimulationServer.ReplayClient

/-!
# Readers of one generation

All entries of one generation of a stream come from one publisher, and its readers take them in
order. Three things have to hold for them to go on.

* **Numbers** follow each other from one on.
* **Versions** grow: an update, and a recovery, is newer than every update and recovery before it.
* A **recovery** is contiguous: nothing ordinary stands between its start and its commit. A recovery
  that is given up is followed by the start of the next one.

A *cursor* is a reader that checks all of this entry by entry; `accepted_of_readAll` says what it
means that a whole stream was read.
-/

namespace TychoSimulationServer

/-! ## Cursors

The cursor knows how far it has read and whether a recovery is open. It refuses a number out of
turn, a version that does not grow, a live entry inside a recovery and the rest of a recovery
outside of one. A start may cut off the recovery before it. -/

namespace BroadcasterMessageKind

/-- An entry of a recovery. -/
def isRecovery : BroadcasterMessageKind → Bool
  | .recoveryStart | .recoveryChunk | .recoveryCatchUp | .recoveryCommit => true
  | _ => false

/-- An entry of a recovery between its start and its commit. -/
def isInside : BroadcasterMessageKind → Bool
  | .recoveryChunk | .recoveryCatchUp => true
  | _ => false

/-- An entry that is not part of a recovery. -/
def isLive : BroadcasterMessageKind → Bool
  | .update | .heartbeat | .progress => true
  | _ => false

/-- An entry that carries a state version of its own. -/
def advances : BroadcasterMessageKind → Bool
  | .update => true
  | kind => kind.isRecovery

/-- An entry with which a state version appears. -/
def begins : BroadcasterMessageKind → Bool
  | .update | .recoveryStart => true
  | _ => false

end BroadcasterMessageKind

/-- How far a reader of one generation has come: the number of the last entry, the newest state
version, and whether a recovery is open. -/
structure StreamCursor where
  messageSeq : Nat
  stateVersion : Nat
  inTransaction : Bool
deriving DecidableEq

namespace StreamCursor

/-- A reader that has read nothing. -/
def start : StreamCursor := { messageSeq := 0, stateVersion := 0, inTransaction := false }

/-- Read one entry. -/
def read (cursor : StreamCursor) (entry : BroadcasterRedisStreamEntry) : Option StreamCursor :=
  if entry.messageSeq.toNat ≠ cursor.messageSeq + 1 then none
  else
    match entry.kind with
    | .update =>
      if cursor.inTransaction = false ∧ cursor.stateVersion < entry.stateVersion.toNat then
        some { cursor with messageSeq := cursor.messageSeq + 1, stateVersion := entry.stateVersion.toNat }
      else none
    | .heartbeat | .progress =>
      if cursor.inTransaction = false then
        some { cursor with messageSeq := cursor.messageSeq + 1 }
      else none
    | .recoveryStart =>
      if cursor.stateVersion < entry.stateVersion.toNat then
        some { messageSeq := cursor.messageSeq + 1, stateVersion := entry.stateVersion.toNat
               inTransaction := true }
      else none
    | .recoveryChunk | .recoveryCatchUp =>
      if cursor.inTransaction = true ∧ cursor.stateVersion = entry.stateVersion.toNat then
        some { cursor with messageSeq := cursor.messageSeq + 1 }
      else none
    | .recoveryCommit =>
      if cursor.inTransaction = true ∧ cursor.stateVersion = entry.stateVersion.toNat then
        some { cursor with messageSeq := cursor.messageSeq + 1, inTransaction := false }
      else none
    | .snapshotStart | .snapshotChunk | .snapshotEnd => none

/-- Read a stream from its first entry on. -/
def readAll (log : List BroadcasterRedisStreamEntry) : Option StreamCursor :=
  log.foldlM read start

theorem readAll_append {log : List BroadcasterRedisStreamEntry} {cursor next : StreamCursor}
    {entry : BroadcasterRedisStreamEntry} (h : readAll log = some cursor)
    (hentry : cursor.read entry = some next) : readAll (log ++ [entry]) = some next := by
  rw [readAll, List.foldlM_append, ← readAll, h]
  simpa using hentry

end StreamCursor

/-- **What the readers of a generation rely on.** -/
structure StreamAccepted (log : List BroadcasterRedisStreamEntry) : Prop where
  /-- the entries are numbered from one on, without a gap -/
  numbered : ∀ (i : Nat) (entry : BroadcasterRedisStreamEntry), log[i]? = some entry →
    entry.messageSeq.toNat = i + 1
  /-- an update or a recovery has a newer version than all updates and recoveries before it -/
  increasing : log.Pairwise fun earlier later => earlier.kind.advances = true →
    later.kind.begins = true → earlier.stateVersion < later.stateVersion
  /-- the entries of a recovery follow each other under one version -/
  contiguous : ∀ (i : Nat) (entry : BroadcasterRedisStreamEntry), log[i]? = some entry →
    (entry.kind.isInside = true ∨ entry.kind = .recoveryCommit) →
    ∃ (j : Nat) (before : BroadcasterRedisStreamEntry), i = j + 1 ∧ log[j]? = some before ∧
      (before.kind = .recoveryStart ∨ before.kind.isInside = true) ∧
      before.stateVersion = entry.stateVersion
  /-- nothing ordinary follows the start of a recovery before a commit -/
  fenced : ∀ (i j : Nat) (start live : BroadcasterRedisStreamEntry), i < j →
    log[i]? = some start → start.kind = .recoveryStart → log[j]? = some live →
    live.kind.isLive = true → ∃ (k : Nat) (commit : BroadcasterRedisStreamEntry), i < k ∧ k < j ∧
      log[k]? = some commit ∧ commit.kind = .recoveryCommit

/-- **What a replay boundary promises**: the entry after it is ordinary or opens a recovery, so that
a recovery which is open at the boundary is never completed, and the versions after it are newer. -/
structure BoundaryKept (log : List BroadcasterRedisStreamEntry)
    (boundary : BroadcasterRedisReplayBoundary) : Prop where
  inside : boundary.exclusiveMessageSeq.toNat ≤ log.length
  next : ∀ entry : BroadcasterRedisStreamEntry,
    log[boundary.exclusiveMessageSeq.toNat]? = some entry →
    entry.kind.isLive = true ∨ entry.kind = .recoveryStart
  newer : ∀ (i : Nat) (entry : BroadcasterRedisStreamEntry),
    boundary.exclusiveMessageSeq.toNat ≤ i → log[i]? = some entry → entry.kind.advances = true →
    boundary.stateVersion < entry.stateVersion

/-! ## What has been read -/

/-- Where the reader of an accepted stream stands. -/
structure CursorAt (log : List BroadcasterRedisStreamEntry) (cursor : StreamCursor) : Prop where
  messageSeq : cursor.messageSeq = log.length
  newest : ∀ entry ∈ log, entry.kind.advances = true → entry.stateVersion.toNat ≤ cursor.stateVersion
  opened : cursor.inTransaction = true → ∃ last : BroadcasterRedisStreamEntry,
    log.getLast? = some last ∧ (last.kind = .recoveryStart ∨ last.kind.isInside = true) ∧
    last.stateVersion.toNat = cursor.stateVersion
  closed : cursor.inTransaction = false → ∀ (i : Nat) (start : BroadcasterRedisStreamEntry),
    log[i]? = some start → start.kind = .recoveryStart →
    ∃ (k : Nat) (commit : BroadcasterRedisStreamEntry), i < k ∧ log[k]? = some commit ∧
      commit.kind = .recoveryCommit

/-- What reading an entry takes and gives. -/
inductive ReadCase (cursor : StreamCursor) (entry : BroadcasterRedisStreamEntry)
    (next : StreamCursor) : Prop where
  | update : entry.kind = .update → cursor.inTransaction = false →
    cursor.stateVersion < entry.stateVersion.toNat → next.stateVersion = entry.stateVersion.toNat →
    next.inTransaction = false → ReadCase cursor entry next
  | quiet : entry.kind = .heartbeat ∨ entry.kind = .progress → cursor.inTransaction = false →
    next.stateVersion = cursor.stateVersion → next.inTransaction = false →
    ReadCase cursor entry next
  | opens : entry.kind = .recoveryStart → cursor.stateVersion < entry.stateVersion.toNat →
    next.stateVersion = entry.stateVersion.toNat → next.inTransaction = true →
    ReadCase cursor entry next
  | inside : entry.kind.isInside = true → cursor.inTransaction = true →
    cursor.stateVersion = entry.stateVersion.toNat → next.stateVersion = cursor.stateVersion →
    next.inTransaction = true → ReadCase cursor entry next
  | commits : entry.kind = .recoveryCommit → cursor.inTransaction = true →
    cursor.stateVersion = entry.stateVersion.toNat → next.stateVersion = cursor.stateVersion →
    next.inTransaction = false → ReadCase cursor entry next

namespace StreamCursor

/-- An entry is read in one of five ways: as an update, a sign of life, the start of a recovery, an
entry inside one, or its commit. -/
theorem read_eq_some {cursor next : StreamCursor} {entry : BroadcasterRedisStreamEntry}
    (h : cursor.read entry = some next) :
    entry.messageSeq.toNat = cursor.messageSeq + 1 ∧ next.messageSeq = cursor.messageSeq + 1 ∧
      ReadCase cursor entry next := by
  rw [read] at h
  split at h
  case isTrue => cases h
  case isFalse hseq =>
    refine ⟨not_not.mp hseq, ?_⟩
    split at h
    all_goals simp only [Option.ite_none_right_eq_some, Option.some.injEq, reduceCtorEq] at h
    case h_1 hkind =>
      obtain ⟨⟨hclosed, hlt⟩, rfl⟩ := h
      exact ⟨rfl, .update hkind hclosed hlt rfl hclosed⟩
    case h_2 hkind =>
      obtain ⟨hclosed, rfl⟩ := h
      exact ⟨rfl, .quiet (.inl hkind) hclosed rfl hclosed⟩
    case h_3 hkind =>
      obtain ⟨hclosed, rfl⟩ := h
      exact ⟨rfl, .quiet (.inr hkind) hclosed rfl hclosed⟩
    case h_4 hkind =>
      obtain ⟨hlt, rfl⟩ := h
      exact ⟨rfl, .opens hkind hlt rfl rfl⟩
    case h_5 hkind =>
      obtain ⟨⟨hopen, heq⟩, rfl⟩ := h
      exact ⟨rfl, .inside (by rw [hkind]; rfl) hopen heq rfl hopen⟩
    case h_6 hkind =>
      obtain ⟨⟨hopen, heq⟩, rfl⟩ := h
      exact ⟨rfl, .inside (by rw [hkind]; rfl) hopen heq rfl hopen⟩
    case h_7 hkind =>
      obtain ⟨⟨hopen, heq⟩, rfl⟩ := h
      exact ⟨rfl, .commits hkind hopen heq rfl rfl⟩

end StreamCursor

/-- What is in a stream with one more entry. -/
theorem getElem?_snoc {log : List BroadcasterRedisStreamEntry} {last entry : BroadcasterRedisStreamEntry}
    {i : Nat} : (log ++ [last])[i]? = some entry ↔
      log[i]? = some entry ∨ i = log.length ∧ entry = last := by
  rw [List.getElem?_append]
  split
  case isTrue hlt =>
    exact ⟨.inl, fun h => h.resolve_right fun h => absurd h.1 (Nat.ne_of_lt hlt)⟩
  case isFalse hge =>
    rw [List.getElem?_eq_none (Nat.le_of_not_lt hge), List.getElem?_singleton]
    simp only [Option.ite_none_right_eq_some, Option.some.injEq, reduceCtorEq, false_or]
    exact and_congr (by omega) eq_comm

/-- The cursor is moved by the entry it has read. -/
theorem CursorAt.snoc {log : List BroadcasterRedisStreamEntry} {cursor next : StreamCursor}
    {entry : BroadcasterRedisStreamEntry} (h : CursorAt log cursor)
    (hnext : next.messageSeq = cursor.messageSeq + 1) (hread : ReadCase cursor entry next) :
    CursorAt (log ++ [entry]) next := by
  have hlength : next.messageSeq = (log ++ [entry]).length := by
    rw [hnext, h.messageSeq, List.length_append, List.length_singleton]
  have hlast : (log ++ [entry]).getLast? = some entry := List.getLast?_concat
  -- a version that does not go back keeps what was read before
  have hnewest : cursor.stateVersion ≤ next.stateVersion →
      (entry.kind.advances = true → entry.stateVersion.toNat ≤ next.stateVersion) →
      ∀ e ∈ log ++ [entry], e.kind.advances = true → e.stateVersion.toNat ≤ next.stateVersion := by
    intro hle hentry e hmem hadvances
    rcases List.mem_append.mp hmem with hmem | hmem
    · exact le_trans (h.newest e hmem hadvances) hle
    · obtain rfl := List.mem_singleton.mp hmem
      exact hentry hadvances
  have hkept : cursor.inTransaction = false → entry.kind ≠ .recoveryStart →
      ∀ (i : Nat) (start : BroadcasterRedisStreamEntry), (log ++ [entry])[i]? = some start →
      start.kind = .recoveryStart → ∃ (k : Nat) (commit : BroadcasterRedisStreamEntry), i < k ∧
        (log ++ [entry])[k]? = some commit ∧ commit.kind = .recoveryCommit := by
    intro hclosed hkind i start hi hstart
    rcases getElem?_snoc.mp hi with hi | ⟨-, rfl⟩
    · obtain ⟨k, commit, hlt, hk, hcommit⟩ := h.closed hclosed i start hi hstart
      exact ⟨k, commit, hlt, getElem?_snoc.mpr (.inl hk), hcommit⟩
    · exact absurd hstart hkind
  cases hread with
  | update hkind hclosed hlt hversion hstill =>
    refine ⟨hlength, hnewest (hversion ▸ le_of_lt hlt) (fun _ => le_of_eq hversion.symm), ?_,
      fun _ => hkept hclosed (by rw [hkind]; decide)⟩
    exact fun hopen => absurd (hstill.symm.trans hopen) Bool.false_ne_true
  | quiet hkind hclosed hversion hstill =>
    have hnot : entry.kind.advances = false ∧ entry.kind ≠ .recoveryStart := by
      rcases hkind with hkind | hkind <;> rw [hkind] <;> decide
    refine ⟨hlength, hnewest (le_of_eq hversion.symm) (fun hadvances => ?_), ?_,
      fun _ => hkept hclosed hnot.2⟩
    · exact absurd (hnot.1.symm.trans hadvances) Bool.false_ne_true
    · exact fun hopen => absurd (hstill.symm.trans hopen) Bool.false_ne_true
  | opens hkind hlt hversion hopen =>
    refine ⟨hlength, hnewest (hversion ▸ le_of_lt hlt) (fun _ => le_of_eq hversion.symm),
      fun _ => ⟨entry, hlast, .inl hkind, hversion.symm⟩, fun hclosed => ?_⟩
    exact absurd (hclosed.symm.trans hopen) Bool.false_ne_true
  | inside hkind _ heq hversion hopen =>
    refine ⟨hlength, hnewest (le_of_eq hversion.symm) (fun _ => (hversion.trans heq).ge),
      fun _ => ⟨entry, hlast, .inr hkind, (hversion.trans heq).symm⟩, fun hclosed => ?_⟩
    exact absurd (hclosed.symm.trans hopen) Bool.false_ne_true
  | commits hkind _ heq hversion hclosed =>
    refine ⟨hlength, hnewest (le_of_eq hversion.symm) (fun _ => (hversion.trans heq).ge), ?_, ?_⟩
    · exact fun hopen => absurd (hclosed.symm.trans hopen) Bool.false_ne_true
    · intro _ i start hi hstart
      rcases getElem?_snoc.mp hi with hi | ⟨-, rfl⟩
      · have hlt : i < log.length := (List.getElem?_eq_some_iff.mp hi).1
        exact ⟨log.length, entry, hlt, getElem?_snoc.mpr (.inr ⟨rfl, rfl⟩), hkind⟩
      · rw [hkind] at hstart
        cases hstart

/-- A log that was accepted, and an entry that can be read behind it. -/
theorem StreamAccepted.snoc {log : List BroadcasterRedisStreamEntry} {cursor next : StreamCursor}
    {entry : BroadcasterRedisStreamEntry} (h : StreamAccepted log) (hat : CursorAt log cursor)
    (hseq : entry.messageSeq.toNat = cursor.messageSeq + 1) (hread : ReadCase cursor entry next) :
    StreamAccepted (log ++ [entry]) := by
  -- an update or a start was read, so its version is new
  have hbegins : entry.kind.begins = true → cursor.stateVersion < entry.stateVersion.toNat := by
    intro hbegins
    cases hread with
    | update _ _ hlt => exact hlt
    | opens _ hlt => exact hlt
    | quiet hkind => rcases hkind with hkind | hkind <;> rw [hkind] at hbegins <;> cases hbegins
    | inside hkind => cases hentry : entry.kind <;> rw [hentry] at hbegins hkind <;> contradiction
    | commits hkind => rw [hkind] at hbegins; cases hbegins
  refine { numbered := ?_, increasing := ?_, contiguous := ?_, fenced := ?_ }
  · intro i e hi
    rcases getElem?_snoc.mp hi with hi | ⟨rfl, rfl⟩
    · exact h.numbered i e hi
    · rw [hseq, hat.messageSeq]
  · rw [List.pairwise_append]
    refine ⟨h.increasing, List.pairwise_singleton _ _, fun earlier hmem later hlater => ?_⟩
    obtain rfl := List.mem_singleton.mp hlater
    exact fun hadvances hlater =>
      UInt64.lt_iff_toNat_lt.mpr (lt_of_le_of_lt (hat.newest earlier hmem hadvances) (hbegins hlater))
  · intro i e hi hkind
    rcases getElem?_snoc.mp hi with hi | ⟨rfl, rfl⟩
    · obtain ⟨j, before, hij, hj, hbefore⟩ := h.contiguous i e hi hkind
      exact ⟨j, before, hij, getElem?_snoc.mpr (.inl hj), hbefore⟩
    · -- the reader has an open recovery, so the last entry belongs to it
      have hopen : cursor.inTransaction = true ∧ cursor.stateVersion = e.stateVersion.toNat := by
        cases hread with
        | inside _ hopen heq => exact ⟨hopen, heq⟩
        | commits _ hopen heq => exact ⟨hopen, heq⟩
        | update hupdate => rw [hupdate] at hkind; rcases hkind with hkind | hkind <;> cases hkind
        | opens hstart => rw [hstart] at hkind; rcases hkind with hkind | hkind <;> cases hkind
        | quiet hquiet =>
          rcases hquiet with hquiet | hquiet <;> rw [hquiet] at hkind <;>
            rcases hkind with hkind | hkind <;> cases hkind
      obtain ⟨last, hlast, hlastKind, hversion⟩ := hat.opened hopen.1
      rw [List.getLast?_eq_getElem?] at hlast
      have hlt := (List.getElem?_eq_some_iff.mp hlast).1
      exact ⟨log.length - 1, last, by omega, getElem?_snoc.mpr (.inl hlast), hlastKind,
        UInt64.toNat_inj.mp (hversion.trans hopen.2)⟩
  · intro i j start live hij hi hstart hj hlive
    rcases getElem?_snoc.mp hj with hj | ⟨rfl, rfl⟩
    · have hlt := (List.getElem?_eq_some_iff.mp hj).1
      have hi := (getElem?_snoc.mp hi).resolve_right fun h => by omega
      obtain ⟨k, commit, hik, hkj, hk, hcommit⟩ := h.fenced i j start live hij hi hstart hj hlive
      exact ⟨k, commit, hik, hkj, getElem?_snoc.mpr (.inl hk), hcommit⟩
    · have hi := (getElem?_snoc.mp hi).resolve_right fun h => by omega
      have hclosed : cursor.inTransaction = false := by
        cases hread with
        | update _ hclosed => exact hclosed
        | quiet _ hclosed => exact hclosed
        | opens hkind => rw [hkind] at hlive; cases hlive
        | inside hkind => cases hentry : live.kind <;> rw [hentry] at hlive hkind <;> contradiction
        | commits hkind => rw [hkind] at hlive; cases hlive
      obtain ⟨k, commit, hik, hk, hcommit⟩ := hat.closed hclosed i start hi hstart
      exact ⟨k, commit, hik, (List.getElem?_eq_some_iff.mp hk).1, getElem?_snoc.mpr (.inl hk),
        hcommit⟩

/-- **A stream that has been read** is one its readers accept. -/
theorem accepted_of_readAll {log : List BroadcasterRedisStreamEntry} {cursor : StreamCursor}
    (h : StreamCursor.readAll log = some cursor) : StreamAccepted log ∧ CursorAt log cursor := by
  induction log using List.reverseRecOn generalizing cursor with
  | nil =>
    obtain rfl := Option.some.inj h
    constructor
    · constructor <;> simp
    · constructor <;> simp [StreamCursor.start]
  | append_singleton log entry ih =>
    rw [StreamCursor.readAll, List.foldlM_append] at h
    obtain ⟨before, hbefore, h⟩ := Option.bind_eq_some_iff.mp h
    obtain ⟨haccepted, hat⟩ := ih hbefore
    have hread : before.read entry = some cursor := by simpa using h
    obtain ⟨hseq, hnext, hcase⟩ := StreamCursor.read_eq_some hread
    exact ⟨haccepted.snoc hat hseq hcase, hat.snoc hnext hcase⟩

end TychoSimulationServer
