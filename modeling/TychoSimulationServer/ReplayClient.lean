import TychoSimulationServer.RedisEntry
import TychoSimulationServer.WriterFence

/-!
# The replay client

A consumer that has applied a snapshot continues from the snapshot's *replay boundary*: it polls the
Redis stream for the entries after its checkpoint and applies them in order. One poll is up to two
commands. `XREAD` asks for the entries after the checkpoint; when there are none, `XINFO` tells
whether that means "caught up" or "lost".

`readNext` is a poll as a function of the replies to its two commands. The specifications below are
what the runs of `ReplayContinuity` need of it: what a batch holds, what each answer to an empty
read says about the stream, and that every refusal is a *gap*, the error which makes the consumer
start over from a snapshot.
-/

namespace TychoSimulationServer

open Fallible

variable {Sim : Type}

/-! ## Entry ids

An id is a pair of numbers with a dash between them, compared by the first and then by the second.
The client parses what it has printed. -/

/-- `BroadcasterRedisReplayBoundary`. -/
structure BroadcasterRedisReplayBoundary where
  streamKey : String
  streamId : String
  snapshotId : String
  generation : UInt64
  exclusiveMessageSeq : UInt64
  stateVersion : UInt64
deriving DecidableEq, Repr

/-- Why an entry or a payload could not be decoded. -/
inductive DecodeFailure where
  | entry (error : EntryDecodeError)
  | payload (entryId error : String)
deriving DecidableEq, Repr

/-- `BroadcasterReplayClientError`, as far as a poll raises it. -/
inductive BroadcasterReplayClientError where
  | redisRead (message : String)
  | redisInspect (message : String)
  | redisDecode (failure : DecodeFailure)
  /-- replay continuity checks failed and the caller should rebuild from a snapshot -/
  | redisGap (message : String)
deriving DecidableEq, Repr

/-- The error is a gap. -/
def BroadcasterReplayClientError.IsGap : BroadcasterReplayClientError → Prop
  | .redisGap _ => True
  | _ => False

/-- A poll or one of its checks. -/
abbrev Replay := Except BroadcasterReplayClientError

/-- `RedisEntryIdParts`. -/
structure RedisEntryIdParts where
  millis : UInt64
  sequence : UInt64
deriving DecidableEq, Repr

namespace RedisEntryIdParts

/-- The id as a pair of numbers. -/
def toEntryId (parts : RedisEntryIdParts) : EntryId :=
  ⟨parts.millis.toNat, parts.sequence.toNat⟩

instance : LT RedisEntryIdParts where
  lt a b := a.toEntryId < b.toEntryId

theorem lt_def {a b : RedisEntryIdParts} :
    a < b ↔ a.millis.toNat < b.millis.toNat ∨
      a.millis.toNat = b.millis.toNat ∧ a.sequence.toNat < b.sequence.toNat :=
  EntryId.lt_def

instance (a b : RedisEntryIdParts) : Decidable (a < b) :=
  decidable_of_iff _ lt_def.symm

theorem ext_toNat {a b : RedisEntryIdParts} (hmillis : a.millis.toNat = b.millis.toNat)
    (hsequence : a.sequence.toNat = b.sequence.toNat) : a = b := by
  obtain ⟨millis, sequence⟩ := a
  obtain ⟨millis', sequence'⟩ := b
  rw [mk.injEq]
  exact ⟨UInt64.toNat_inj.mp hmillis, UInt64.toNat_inj.mp hsequence⟩

theorem lt_or_eq_or_gt (a b : RedisEntryIdParts) : a < b ∨ a = b ∨ b < a := by
  by_cases heq : a.millis.toNat = b.millis.toNat ∧ a.sequence.toNat = b.sequence.toNat
  · exact .inr (.inl (ext_toNat heq.1 heq.2))
  · rw [lt_def, lt_def]
    omega

theorem lt_irrefl (a : RedisEntryIdParts) : ¬a < a := by
  rw [lt_def]
  omega

theorem lt_asymm {a b : RedisEntryIdParts} (h : a < b) : ¬b < a := by
  rw [lt_def] at *
  omega

theorem lt_trans {a b c : RedisEntryIdParts} (hab : a < b) (hbc : b < c) : a < c :=
  EntryId.lt_trans hab hbc

/-- `redis_entry_id(generation, message_seq)`, the text of an id. -/
def redisEntryId (parts : RedisEntryIdParts) : String :=
  u64ToString parts.millis ++ "-" ++ u64ToString parts.sequence

end RedisEntryIdParts

/-- The text of `ParseIntError`: the first thing that goes wrong from the left. -/
def parseIntErrorText (text : String) : String :=
  if text = "" then "cannot parse integer from empty string"
  else if unsignedDigits text = [] then "invalid digit found in string"
  else go 0 (unsignedDigits text)
where
  go (value : Nat) : List Char → String
    | [] => "number too large to fit in target type"
    | digit :: digits =>
      if ¬digit.isDigit then "invalid digit found in string"
      else
        let value := 10 * value + (digit.toNat - '0'.toNat)
        if 2 ^ 64 ≤ value then "number too large to fit in target type" else go value digits

/-- `str::split_once('-')`. -/
def splitOnceDash (text : String) : Option (String × String) :=
  if '-' ∈ text.toList then
    some (String.ofList (text.toList.takeWhile (· ≠ '-')),
      String.ofList (text.toList.dropWhile (· ≠ '-')).tail)
  else none

/-- One half of an entry id. -/
def parseEntryIdPart (entryId part : String) : Replay UInt64 :=
  match parseU64 part with
  | some value => .ok value
  | none =>
    .error (.redisGap s!"invalid Redis stream entry id {entryId}: {parseIntErrorText part}")

/-- `parse_redis_entry_id`. -/
def parseRedisEntryId (entryId : String) : Replay RedisEntryIdParts :=
  match splitOnceDash entryId with
  | none => .error (.redisGap s!"invalid Redis stream entry id: {entryId}")
  | some (millis, sequence) => do
    let millis ← parseEntryIdPart entryId millis
    let sequence ← parseEntryIdPart entryId sequence
    return { millis, sequence }

/-- The text of a pair of numbers. -/
def entryIdText (id : EntryId) : String :=
  id.generation.repr ++ "-" ++ id.seq.repr

/-- The client prints ids as the broadcaster does. -/
theorem redisEntryId_eq (parts : RedisEntryIdParts) :
    parts.redisEntryId = entryIdText parts.toEntryId :=
  rfl

theorem dash_not_mem_digits (n : Nat) : '-' ∉ Nat.toDigits 10 n := by
  intro hdash
  have hdigit := Nat.isDigit_of_mem_toDigits (by decide) (by decide) hdash
  exact absurd hdigit (by decide)

theorem splitOnceDash_entryIdText (id : EntryId) :
    splitOnceDash (entryIdText id) = some (id.generation.repr, id.seq.repr) := by
  have hlist : (entryIdText id).toList =
      Nat.toDigits 10 id.generation ++ '-' :: Nat.toDigits 10 id.seq := by
    rw [entryIdText, String.toList_append, String.toList_append, Nat.toList_repr, Nat.toList_repr]
    simp
  have hdigits : ∀ c ∈ Nat.toDigits 10 id.generation, (decide (c ≠ '-')) = true := by
    intro c hc
    rw [decide_eq_true_iff]
    rintro rfl
    exact dash_not_mem_digits _ hc
  rw [splitOnceDash, hlist, if_pos (by simp), List.takeWhile_append_of_pos hdigits,
    List.dropWhile_append_of_pos hdigits]
  simp only [ne_eq, not_true_eq_false, decide_false, Bool.false_eq_true,
    not_false_eq_true, List.takeWhile_cons_of_neg, List.append_nil, List.dropWhile_cons_of_neg,
    List.tail_cons, ← Nat.toList_repr, String.ofList_toList]

/-- Different numbers are printed differently. -/
theorem eq_of_repr_eq {m n : Nat} (h : m.repr = n.repr) : m = n := by
  have hvalue := congrArg (fun text : String => Nat.ofDigitChars 10 text.toList 0) h
  simp only [Nat.toList_repr, Nat.ofDigitChars_ten_toDigits] at hvalue
  exact hvalue

/-- Different ids have different texts. -/
theorem entryIdText_injective {a b : EntryId} (h : entryIdText a = entryIdText b) : a = b := by
  have hsplit := splitOnceDash_entryIdText a
  rw [h, splitOnceDash_entryIdText, Option.some.injEq, Prod.mk.injEq] at hsplit
  obtain ⟨generation, seq⟩ := a
  rw [EntryId.mk.injEq]
  exact ⟨eq_of_repr_eq hsplit.1.symm, eq_of_repr_eq hsplit.2.symm⟩

/-- **Ids survive as text.** -/
@[simp] theorem parseRedisEntryId_redisEntryId (parts : RedisEntryIdParts) :
    parseRedisEntryId parts.redisEntryId = .ok parts := by
  rw [parseRedisEntryId, redisEntryId_eq, splitOnceDash_entryIdText]
  have hmillis := parseU64_u64ToString parts.millis
  have hsequence := parseU64_u64ToString parts.sequence
  rw [u64ToString] at hmillis hsequence
  simp only [RedisEntryIdParts.toEntryId, parseEntryIdPart, hmillis, hsequence]
  rfl

/-! ## Checkpoints

A checkpoint knows the last message that was applied, and where the stream has to go on. -/

/-- `ReplayCheckpoint`: a position inside one generation of the stream. -/
structure ReplayCheckpoint where
  boundary : BroadcasterRedisReplayBoundary
  entryId : String
  lastMessageSeq : UInt64
  expectedChainId : UInt64
deriving DecidableEq, Repr

/-- `RedisStreamInfo`. -/
structure RedisStreamInfo where
  lastGeneratedEntryId : String
  firstEntryId : Option String
  lastEntryId : Option String
deriving DecidableEq, Repr

/-- `RedisEmptyPollAction`. -/
inductive RedisEmptyPollAction where
  | caughtUp
  | pending
deriving DecidableEq, Repr

namespace ReplayCheckpoint

/-- `ReplayCheckpoint::new`. -/
def new (boundary : BroadcasterRedisReplayBoundary) (expectedChainId : UInt64) :
    ReplayCheckpoint :=
  { entryId := RedisEntryIdParts.redisEntryId ⟨boundary.generation, boundary.exclusiveMessageSeq⟩
    lastMessageSeq := boundary.exclusiveMessageSeq
    boundary, expectedChainId }

/-- The sequence number after the last one, unless there is none. -/
def expectedSeq (checkpoint : ReplayCheckpoint) : Replay UInt64 :=
  if checkpoint.lastMessageSeq.toNat + 1 < 2 ^ 64 then .ok (checkpoint.lastMessageSeq + 1)
  else .error (.redisGap "Redis replay message_seq overflow")

/-- `ensure_next_message`. -/
def ensureNextMessage (checkpoint : ReplayCheckpoint) (message : RedisStreamMessage) :
    Replay Unit := do
  let boundary := checkpoint.boundary
  let entry := message.entry
  ensure (entry.streamId = boundary.streamId) (.redisGap
    s!"Redis replay gap: expected stream_id {boundary.streamId}, got {entry.streamId}")
  ensure (entry.chainId = checkpoint.expectedChainId) (.redisGap
    s!"Redis replay gap: expected chain_id {checkpoint.expectedChainId}, got {entry.chainId}")
  ensure (¬entry.messageSeq.toNat ≤ checkpoint.lastMessageSeq.toNat) (.redisGap
    s!"Redis replay gap: got stale message_seq {entry.messageSeq} after {checkpoint.entryId} at {message.entryId}")
  let expectedSeq ← checkpoint.expectedSeq
  ensure (entry.messageSeq = expectedSeq) (.redisGap
    s!"Redis replay gap: expected message_seq {expectedSeq} after {checkpoint.entryId}, got {entry.messageSeq} at {message.entryId}")
  let expectedEntryId := RedisEntryIdParts.redisEntryId ⟨boundary.generation, expectedSeq⟩
  ensure (message.entryId = expectedEntryId) (.redisGap
    s!"Redis replay gap: expected entry id {expectedEntryId}, got {message.entryId}")
  match entry.snapshotId with
  | some snapshotId =>
    ensure (snapshotId = boundary.snapshotId) (.redisGap
      s!"Redis replay gap: expected snapshot_id {boundary.snapshotId}, got {snapshotId}")
  | none => .ok ()

/-- `after_applied`. -/
def afterApplied (checkpoint : ReplayCheckpoint) (message : RedisStreamMessage) :
    ReplayCheckpoint :=
  { checkpoint with entryId := message.entryId, lastMessageSeq := message.entry.messageSeq }

end ReplayCheckpoint

/-- `redis_empty_poll_action`: what it means that nothing was read after the checkpoint. -/
def redisEmptyPollAction (checkpoint : ReplayCheckpoint) (streamInfo : Option RedisStreamInfo) :
    Replay RedisEmptyPollAction :=
  match streamInfo with
  | none =>
    if checkpoint.lastMessageSeq = 0 then .ok .caughtUp
    else .error (.redisGap
      s!"Redis replay gap: stream disappeared after checkpoint {checkpoint.entryId}")
  | some streamInfo => do
    let checkpointEntryId ← parseRedisEntryId checkpoint.entryId
    let lastGenerated := streamInfo.lastGeneratedEntryId
    let lastGeneratedEntryId ← parseRedisEntryId lastGenerated
    ensure (¬lastGeneratedEntryId < checkpointEntryId) (.redisGap
      s!"Redis replay gap: stream moved backwards from checkpoint {checkpoint.entryId} to last generated {lastGenerated}")
    if lastGeneratedEntryId = checkpointEntryId then return .caughtUp
    let expectedSeq ← checkpoint.expectedSeq
    let expectedEntryId :=
      RedisEntryIdParts.redisEntryId ⟨checkpoint.boundary.generation, expectedSeq⟩
    let expectedEntryIdParts ← parseRedisEntryId expectedEntryId
    match streamInfo.firstEntryId with
    | none => .error (.redisGap
        s!"Redis replay gap: stream generated {lastGenerated} after checkpoint {checkpoint.entryId} but retained no entries")
    | some firstEntryId =>
      match streamInfo.lastEntryId with
      | none => .error (.redisGap
          s!"Redis replay gap: stream generated {lastGenerated} after checkpoint {checkpoint.entryId} but retained no last entry")
      | some lastEntryId => do
        let firstEntryIdParts ← parseRedisEntryId firstEntryId
        ensure (¬expectedEntryIdParts < firstEntryIdParts) (.redisGap
          s!"Redis replay gap: first retained entry {firstEntryId} is after expected entry {expectedEntryId}")
        let lastEntryIdParts ← parseRedisEntryId lastEntryId
        ensure (checkpointEntryId < lastEntryIdParts) (.redisGap
          s!"Redis replay gap: stream generated {lastGenerated} after checkpoint {checkpoint.entryId} but last retained entry is {lastEntryId}")
        return .pending

/-! ## Replies of Redis -/

/-- `StreamInfoStreamReply`: an absent entry has an empty id. -/
structure StreamInfoStreamReply where
  length : Nat
  lastGeneratedId : String
  firstEntryId : String
  lastEntryId : String

/-- `redis_stream_info_entry_id`. -/
def redisStreamInfoEntryId (length : Nat) (entryId : String) : Replay (Option String) :=
  if length = 0 then .ok none
  else if entryId = "" then
    .error (.redisInspect "Redis XINFO STREAM omitted a retained entry id")
  else .ok (some entryId)

/-- `redis_stream_info_from_reply`. -/
def redisStreamInfoFromReply (reply : StreamInfoStreamReply) : Replay RedisStreamInfo := do
  let firstEntryId ← redisStreamInfoEntryId reply.length reply.firstEntryId
  let lastEntryId ← redisStreamInfoEntryId reply.length reply.lastEntryId
  return { lastGeneratedEntryId := reply.lastGeneratedId, firstEntryId, lastEntryId }

/-- `redis_stream_info`; Redis answers "no such key" when there is no stream. -/
def redisStreamInfo (reply : Option StreamInfoStreamReply) : Replay (Option RedisStreamInfo) :=
  match reply with
  | some reply => do
    let info ← redisStreamInfoFromReply reply
    return some info
  | none => .ok none

/-- `redis_stream_messages`: the entries of the reply, decoded. -/
def redisStreamMessages (json : EnvelopeJson Sim) (reply : List (String × FinMap String String)) :
    Replay (List RedisStreamMessage) :=
  reply.mapM fun (entryId, fields) =>
    (redisStreamMessage json entryId fields).mapError fun error => .redisDecode (.entry error)

/-! ## Polls

A poll reads some entries behind the checkpoint; when there are none, it asks for the state of the
stream and compares. -/

/-- `ReplayMessage`: an entry with the checkpoint after it. -/
structure ReplayMessage (Sim : Type) where
  entryId : String
  entry : BroadcasterRedisStreamEntry
  envelope : BroadcasterEnvelope Sim
  checkpointAfter : ReplayCheckpoint

/-- `ReplayBatch`. -/
structure ReplayBatch (Sim : Type) where
  items : List (ReplayMessage Sim)
  caughtUpAfterBatch : Bool

/-- `checkpoint_after`. -/
def ReplayBatch.checkpointAfter (batch : ReplayBatch Sim) : Option ReplayCheckpoint :=
  batch.items.getLast?.map (·.checkpointAfter)

/-- `ReplayPoll`. -/
inductive ReplayPoll (Sim : Type) where
  | batch (batch : ReplayBatch Sim)
  | caughtUp (checkpoint : ReplayCheckpoint)
  | pending

section Polls

variable (json : EnvelopeJson Sim)

/-- The loop of `build_replay_batch`. -/
def replayItems (nextCheckpoint : ReplayCheckpoint) :
    List RedisStreamMessage → Replay (List (ReplayMessage Sim))
  | [] => .ok []
  | message :: messages => do
    let envelope ← (json.fromStr message.entry.payloadJson).mapError
      fun error => .redisDecode (.payload message.entryId error)
    nextCheckpoint.ensureNextMessage message
    let checkpointAfter := nextCheckpoint.afterApplied message
    let items ← replayItems checkpointAfter messages
    return { entryId := message.entryId, entry := message.entry, envelope, checkpointAfter } :: items

/-- `build_replay_batch`. -/
def buildReplayBatch (checkpoint : ReplayCheckpoint) (messages : List RedisStreamMessage)
    (caughtUpAfterBatch : Bool) : Replay (ReplayBatch Sim) := do
  let items ← replayItems json checkpoint messages
  return { items, caughtUpAfterBatch }

/-- `read_next`, given the replies to its two commands; the second is sent, and its reply looked at,
only when the first found nothing. -/
def readNext (checkpoint : ReplayCheckpoint) (readCount : UInt64)
    (messages : Replay (List RedisStreamMessage)) (streamInfo : Replay (Option RedisStreamInfo)) :
    Replay (ReplayPoll Sim) := do
  let messages ← messages
  let caughtUpAfterBatch := decide (messages.length < readCount.toNat)
  if messages = [] then
    let streamInfo ← streamInfo
    match ← redisEmptyPollAction checkpoint streamInfo with
    | .caughtUp => return .caughtUp checkpoint
    | .pending => return .pending
  else
    let batch ← buildReplayBatch json checkpoint messages caughtUpAfterBatch
    return .batch batch

end Polls

/-! ## What a poll says -/

namespace ReplayCheckpoint

/-- The id of the last entry. -/
def position (checkpoint : ReplayCheckpoint) : RedisEntryIdParts :=
  ⟨checkpoint.boundary.generation, checkpoint.lastMessageSeq⟩

/-- The id of the entry that has to come next. -/
def nextId (checkpoint : ReplayCheckpoint) : EntryId :=
  ⟨checkpoint.boundary.generation.toNat, checkpoint.lastMessageSeq.toNat + 1⟩

/-- The stored text is that of the position. -/
def WellFormed (checkpoint : ReplayCheckpoint) : Prop :=
  checkpoint.entryId = checkpoint.position.redisEntryId

theorem expectedSeq_eq_ok {checkpoint : ReplayCheckpoint} {seq : UInt64}
    (h : checkpoint.expectedSeq = .ok seq) :
    seq.toNat = checkpoint.lastMessageSeq.toNat + 1 := by
  rw [expectedSeq] at h
  split at h
  case isTrue hlt =>
    rw [Except.ok.injEq] at h
    rw [← h, UInt64.toNat_add]
    exact Nat.mod_eq_of_lt hlt
  case isFalse => cases h

theorem expectedSeq_failsWith (checkpoint : ReplayCheckpoint) :
    FailsWith BroadcasterReplayClientError.IsGap checkpoint.expectedSeq := by
  rw [expectedSeq]
  split
  · exact .ok _
  · exact .error trivial

/-- **The next message** carries the next id. -/
theorem ensureNextMessage_spec {checkpoint : ReplayCheckpoint} {message : RedisStreamMessage}
    (h : checkpoint.ensureNextMessage message = .ok ()) :
    message.entry.messageSeq.toNat = checkpoint.lastMessageSeq.toNat + 1 ∧
      message.entryId = entryIdText checkpoint.nextId ∧
      (checkpoint.afterApplied message).WellFormed := by
  simp only [ensureNextMessage, check_bind_eq_ok, ensure_eq_ok] at h
  obtain ⟨-, -, -, h⟩ := h
  obtain ⟨seq, hseq, h⟩ := bind_eq_ok.mp h
  simp only [check_bind_eq_ok, ensure_eq_ok] at h
  obtain ⟨hmessage, hid, -⟩ := h
  have hnat := expectedSeq_eq_ok hseq
  refine ⟨by rw [hmessage, hnat], ?_, ?_⟩
  · rw [hid, redisEntryId_eq, RedisEntryIdParts.toEntryId, hnat, nextId]
  · rw [WellFormed, afterApplied, position, hmessage]
    exact hid

/-- Every other message is a gap. -/
theorem ensureNextMessage_failsWith (checkpoint : ReplayCheckpoint)
    (message : RedisStreamMessage) :
    FailsWith BroadcasterReplayClientError.IsGap (checkpoint.ensureNextMessage message) := by
  refine .bind (.ensure trivial) fun _ => .bind (.ensure trivial) fun _ =>
    .bind (.ensure trivial) fun _ => .bind (expectedSeq_failsWith checkpoint) fun _ =>
    .bind (.ensure trivial) fun _ => .bind (.ensure trivial) fun _ => ?_
  split
  · exact .ensure trivial
  · exact .ok ()

end ReplayCheckpoint

theorem parseRedisEntryId_failsWith (entryId : String) :
    FailsWith BroadcasterReplayClientError.IsGap (parseRedisEntryId entryId) := by
  have hpart : ∀ part, FailsWith BroadcasterReplayClientError.IsGap
      (parseEntryIdPart entryId part) := by
    intro part
    rw [parseEntryIdPart]
    split
    · exact .ok _
    · exact .error trivial
  rw [parseRedisEntryId]
  split
  · exact .error trivial
  · exact .bind (hpart _) fun _ => .bind (hpart _) fun _ => .ok _

/-- **An empty read that is refused is a gap.** -/
theorem redisEmptyPollAction_failsWith (checkpoint : ReplayCheckpoint)
    (streamInfo : Option RedisStreamInfo) :
    FailsWith BroadcasterReplayClientError.IsGap (redisEmptyPollAction checkpoint streamInfo) := by
  rw [redisEmptyPollAction.eq_def]
  split
  · split
    · exact .ok _
    · exact .error trivial
  · refine .bind (parseRedisEntryId_failsWith _) fun _ => .bind (parseRedisEntryId_failsWith _)
      fun _ => .bind (.ensure trivial) fun _ => ?_
    split
    · exact .ok _
    refine .bind (checkpoint.expectedSeq_failsWith) fun _ =>
      .bind (parseRedisEntryId_failsWith _) fun _ => ?_
    split
    · exact .error trivial
    split
    · exact .error trivial
    · exact .bind (parseRedisEntryId_failsWith _) fun _ => .bind (.ensure trivial) fun _ =>
        .bind (parseRedisEntryId_failsWith _) fun _ => .bind (.ensure trivial) fun _ => .ok _

/-- What a stream with these ids answers to `XINFO`. -/
def streamInfoOf (lastGenerated : RedisEntryIdParts) (first last : Option RedisEntryIdParts) :
    RedisStreamInfo :=
  { lastGeneratedEntryId := lastGenerated.redisEntryId
    firstEntryId := first.map (·.redisEntryId)
    lastEntryId := last.map (·.redisEntryId) }

/-- **An empty read that is accepted.** Either the checkpoint is the last id the stream generated,
or the stream went on in the meantime and still has what follows the checkpoint. -/
theorem redisEmptyPollAction_spec {checkpoint : ReplayCheckpoint} (hwf : checkpoint.WellFormed)
    {lastGenerated : RedisEntryIdParts} {first last : Option RedisEntryIdParts}
    {action : RedisEmptyPollAction}
    (h : redisEmptyPollAction checkpoint (some (streamInfoOf lastGenerated first last))
      = .ok action) :
    (action = .caughtUp ∧ lastGenerated = checkpoint.position) ∨
    (action = .pending ∧ checkpoint.position < lastGenerated ∧
      ∃ f l, first = some f ∧ last = some l ∧ ¬checkpoint.nextId < f.toEntryId ∧
        checkpoint.position < l) := by
  have hentry : checkpoint.entryId = checkpoint.position.redisEntryId := hwf
  rw [redisEmptyPollAction] at h
  simp only [streamInfoOf, hentry, parseRedisEntryId_redisEntryId] at h
  obtain ⟨position, hposition, h⟩ := bind_eq_ok.mp h
  obtain ⟨generated, hgenerated, h⟩ := bind_eq_ok.mp h
  obtain rfl := Except.ok.inj hposition
  obtain rfl := Except.ok.inj hgenerated
  rw [check_bind_eq_ok, ensure_eq_ok] at h
  obtain ⟨hforward, h⟩ := h
  split at h
  case isTrue heq =>
    rw [pure_eq_ok] at h
    exact .inl ⟨h.symm, heq⟩
  case isFalse hne =>
    -- the stream has generated an id behind the checkpoint
    have hgone : checkpoint.position < lastGenerated := by
      obtain hlt | heq | hgt := RedisEntryIdParts.lt_or_eq_or_gt checkpoint.position lastGenerated
      · exact hlt
      · exact absurd heq.symm hne
      · exact absurd hgt hforward
    obtain ⟨seq, hseq, h⟩ := bind_eq_ok.mp h
    obtain ⟨expected, hexpected, h⟩ := bind_eq_ok.mp h
    obtain rfl := Except.ok.inj hexpected
    cases first with
    | none => cases h
    | some f =>
      cases last with
      | none => cases h
      | some l =>
        simp only [Option.map_some, parseRedisEntryId_redisEntryId] at h
        obtain ⟨firstParts, hfirst, h⟩ := bind_eq_ok.mp h
        obtain rfl := Except.ok.inj hfirst
        rw [check_bind_eq_ok, ensure_eq_ok] at h
        obtain ⟨hexpectedFirst, h⟩ := h
        obtain ⟨lastParts, hlast, h⟩ := bind_eq_ok.mp h
        obtain rfl := Except.ok.inj hlast
        rw [check_bind_eq_ok, ensure_eq_ok, pure_eq_ok] at h
        obtain ⟨hafter, rfl⟩ := h
        refine .inr ⟨rfl, hgone, f, l, rfl, rfl, ?_, hafter⟩
        intro hlt
        apply hexpectedFirst
        rw [ReplayCheckpoint.nextId, ← ReplayCheckpoint.expectedSeq_eq_ok hseq] at hlt
        exact hlt

/-- The checkpoint after a batch. -/
def checkpointAfterItems (checkpoint : ReplayCheckpoint) (items : List (ReplayMessage Sim)) :
    ReplayCheckpoint :=
  (items.getLast?.map (·.checkpointAfter)).getD checkpoint

/-- The checkpoint is the one of the last item. -/
theorem checkpointAfterItems_cons (checkpoint : ReplayCheckpoint) (item : ReplayMessage Sim)
    (items : List (ReplayMessage Sim)) :
    checkpointAfterItems checkpoint (item :: items) =
      checkpointAfterItems item.checkpointAfter items := by
  rw [checkpointAfterItems, checkpointAfterItems, List.getLast?_cons]
  cases items.getLast? <;> rfl

section Polls

variable {json : EnvelopeJson Sim}

/-- The messages after `checkpoint`, one id after the other, and the checkpoint after them. -/
structure ItemsFollow (checkpoint : ReplayCheckpoint) (messages : List RedisStreamMessage)
    (items : List (ReplayMessage Sim)) (after : ReplayCheckpoint) : Prop where
  /-- the items are the messages -/
  messages_eq : items.map (fun item => ⟨item.entryId, item.entry⟩) = messages
  /-- their ids follow each other -/
  ids : items.map (·.entryId) = (List.range items.length).map fun k =>
    entryIdText ⟨checkpoint.boundary.generation.toNat, checkpoint.lastMessageSeq.toNat + 1 + k⟩
  /-- the checkpoint moved by as many -/
  seq : after.lastMessageSeq.toNat = checkpoint.lastMessageSeq.toNat + items.length
  boundary : after.boundary = checkpoint.boundary
  wellFormed : after.WellFormed

/-- **A batch** continues the checkpoint without a hole. -/
theorem replayItems_spec {checkpoint : ReplayCheckpoint} (hwf : checkpoint.WellFormed)
    {messages : List RedisStreamMessage} {items : List (ReplayMessage Sim)}
    (h : replayItems json checkpoint messages = .ok items) :
    ItemsFollow checkpoint messages items (checkpointAfterItems checkpoint items) := by
  induction messages generalizing checkpoint items with
  | nil =>
    obtain rfl := Except.ok.inj h
    exact { messages_eq := rfl, ids := rfl, seq := rfl, boundary := rfl, wellFormed := hwf }
  | cons message messages ih =>
    rw [replayItems] at h
    obtain ⟨envelope, -, h⟩ := bind_eq_ok.mp h
    rw [check_bind_eq_ok] at h
    obtain ⟨hnext, h⟩ := h
    obtain ⟨rest, hrest, h⟩ := bind_eq_ok.mp h
    obtain rfl := pure_eq_ok.mp h
    obtain ⟨hseq, hid, hafter⟩ := ReplayCheckpoint.ensureNextMessage_spec hnext
    have hrestFollow := ih hafter hrest
    have hlast : (checkpoint.afterApplied message).lastMessageSeq.toNat =
        checkpoint.lastMessageSeq.toNat + 1 := hseq
    rw [checkpointAfterItems_cons]
    refine { messages_eq := ?_, ids := ?_, seq := ?_, boundary := ?_, wellFormed := ?_ }
    · rw [List.map_cons, hrestFollow.messages_eq]
    · rw [List.map_cons, hrestFollow.ids, List.length_cons, List.range_succ_eq_map, List.map_cons,
        List.map_map, hid, hlast]
      refine congrArg₂ _ rfl (List.map_congr_left fun k _ => ?_)
      simp only [Function.comp_apply, ReplayCheckpoint.afterApplied, Nat.succ_eq_add_one]
      rw [Nat.add_assoc _ 1 k, Nat.add_comm 1 k]
    · rw [hrestFollow.seq, hlast, List.length_cons]
      omega
    · exact hrestFollow.boundary
    · exact hrestFollow.wellFormed

/-- **A batch that does not start with the next id** is refused as a gap. -/
theorem replayItems_gap {checkpoint : ReplayCheckpoint} {message : RedisStreamMessage}
    {messages : List RedisStreamMessage} {envelope : BroadcasterEnvelope Sim}
    (hpayload : json.fromStr message.entry.payloadJson = .ok envelope)
    (hid : message.entryId ≠ entryIdText checkpoint.nextId) :
    ∃ error, replayItems json checkpoint (message :: messages) = .error error ∧ error.IsGap := by
  have hrefused : ∀ u, checkpoint.ensureNextMessage message ≠ .ok u := fun u hok =>
    hid (ReplayCheckpoint.ensureNextMessage_spec hok).2.1
  obtain ⟨error, herror, hgap⟩ :=
    (checkpoint.ensureNextMessage_failsWith message).exists_error hrefused
  refine ⟨error, ?_, hgap⟩
  rw [replayItems, hpayload]
  simp only [Except.mapError, bind, Except.bind, herror]

end Polls

end TychoSimulationServer
