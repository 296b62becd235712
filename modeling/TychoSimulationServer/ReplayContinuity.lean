import TychoSimulationServer.Machine
import TychoSimulationServer.ReplayClient

/-!
# Continuity of a replay

The two commands of a poll are not atomic: between them, and between polls, the writer appends, old
entries are trimmed, another writer is promoted to a higher generation, or the whole stream is
deleted. A run of `replayMachine` interleaves all of that with the polls of one client, each poll
continuing from the checkpoint of the one before.

The ghost `log` of a stream holds every entry ever appended. Entries are `Lost` to a checkpoint when
the log has entries of its generation after it which are gone, or when its generation ended there.
The argument rests on two facts: what is retained is always a suffix of the log, so that one retained
entry vouches for all later ones, and a loss is final.

One answer is not about the log. A client which has not read anything yet takes a missing stream for
a stream that has not been created, and reports that it is caught up.
-/

namespace TychoSimulationServer

open Fallible

variable {Sim : Type}

/-! ## The stream

The stream as Redis keeps it: entries are appended with growing ids, trimmed from the front, or
deleted with the whole key. Ids that were given are not given again. -/

/-- An entry of the stream as it is stored. -/
structure StreamEntry where
  id : RedisEntryIdParts
  fields : FinMap String String

/-- A stream as Redis holds it. -/
structure RedisStream where
  /-- the entries not trimmed yet -/
  entries : List StreamEntry
  /-- `last-generated-id` -/
  lastGeneratedId : RedisEntryIdParts

/-- The stream key of a broadcaster. -/
structure StreamWorld where
  stream : Option RedisStream
  /-- ghost: every entry ever appended, oldest first -/
  log : List StreamEntry

namespace StreamWorld

/-- The entries that can still be read. -/
def retained (world : StreamWorld) : List StreamEntry :=
  match world.stream with
  | some stream => stream.entries
  | none => []

/-- `XADD`; it creates the stream when there is none. -/
def appended (world : StreamWorld) (entry : StreamEntry) : StreamWorld :=
  { stream := some { entries := world.retained ++ [entry], lastGeneratedId := entry.id }
    log := world.log ++ [entry] }

/-- The stream without its first `count` entries. -/
def trimmed (world : StreamWorld) (count : Nat) : StreamWorld :=
  { world with
    stream := world.stream.map fun stream => { stream with entries := stream.entries.drop count } }

/-- The key without its stream. -/
def deleted (world : StreamWorld) : StreamWorld :=
  { world with stream := none }

/-- An append adds the entry behind the others. -/
@[simp] theorem retained_appended (world : StreamWorld) (entry : StreamEntry) :
    (world.appended entry).retained = world.retained ++ [entry] := rfl

@[simp] theorem retained_trimmed (world : StreamWorld) (count : Nat) :
    (world.trimmed count).retained = world.retained.drop count := by
  obtain ⟨stream, log⟩ := world
  cases stream with
  | none => exact List.drop_nil.symm
  | some stream => rfl

@[simp] theorem retained_deleted (world : StreamWorld) : world.deleted.retained = [] := rfl

/-- `XREAD` with a count. Redis and the client write ids in the same way. -/
def xread (world : StreamWorld) (afterEntryId : String) (readCount : UInt64) :
    Replay (List (String × FinMap String String)) :=
  match parseRedisEntryId afterEntryId with
  | .ok after => .ok (((world.retained.filter fun entry => after < entry.id).take
      readCount.toNat).map fun entry => (entry.id.redisEntryId, entry.fields))
  | .error _ => .error (.redisRead "Invalid stream ID specified as stream command argument")

/-- `read_after`. -/
def readAfter (json : EnvelopeJson Sim) (world : StreamWorld) (afterEntryId : String)
    (readCount : UInt64) : Replay (List RedisStreamMessage) := do
  let reply ← world.xread afterEntryId readCount
  redisStreamMessages json reply

/-- `XINFO STREAM`. -/
def xinfo (world : StreamWorld) : Option StreamInfoStreamReply :=
  world.stream.map fun stream =>
    { length := stream.entries.length
      lastGeneratedId := stream.lastGeneratedId.redisEntryId
      firstEntryId := (stream.entries.head?.map (·.id.redisEntryId)).getD ""
      lastEntryId := (stream.entries.getLast?.map (·.id.redisEntryId)).getD "" }

/-- `stream_info`. -/
def streamInfo (world : StreamWorld) : Replay (Option RedisStreamInfo) :=
  redisStreamInfo world.xinfo

end StreamWorld

/-- The entry decodes. -/
def Published (json : EnvelopeJson Sim) (entry : StreamEntry) : Prop :=
  ∃ decoded, deserializeEntry json entry.fields = .ok decoded

/-- One step of the writers and of Redis. -/
inductive StreamStep (json : EnvelopeJson Sim) (world : StreamWorld) : StreamWorld → Prop where
  /-- the next entry of the current generation -/
  | append (last entry : StreamEntry) (hlast : world.log.getLast? = some last)
      (hgeneration : entry.id.millis = last.id.millis)
      (hseq : entry.id.sequence.toNat = last.id.sequence.toNat + 1)
      (hpublished : Published json entry) : StreamStep json world (world.appended entry)
  /-- the marker of a higher generation -/
  | promote (entry : StreamEntry)
      (hgeneration : ∀ earlier ∈ world.log, earlier.id.millis.toNat < entry.id.millis.toNat)
      (hseq : entry.id.sequence.toNat = 1)
      (hpublished : Published json entry) : StreamStep json world (world.appended entry)
  | trim (count : Nat) : StreamStep json world (world.trimmed count)
  | delete : StreamStep json world world.deleted

/-- **The shape of a stream.** -/
structure StreamInvariant (json : EnvelopeJson Sim) (world : StreamWorld) : Prop where
  /-- ids were appended in increasing order -/
  increasing : world.log.Pairwise fun a b => a.id < b.id
  /-- a generation has no holes and starts at one -/
  contiguous : ∀ entry ∈ world.log, ∀ seq, 1 ≤ seq → seq ≤ entry.id.sequence.toNat →
    ∃ earlier ∈ world.log, earlier.id.toEntryId = ⟨entry.id.millis.toNat, seq⟩
  published : ∀ entry ∈ world.log, Published json entry
  /-- only a beginning of the log is gone -/
  retained : world.retained <:+ world.log
  /-- a stream knows the last id of the log -/
  lastGenerated : ∀ stream, world.stream = some stream →
    ∃ last, world.log.getLast? = some last ∧ last.id = stream.lastGeneratedId

/-- A published entry is read as its envelope. -/
theorem Published.message {json : EnvelopeJson Sim} {entry : StreamEntry}
    (h : Published json entry) (entryId : String) :
    ∃ decoded envelope, redisStreamMessage json entryId entry.fields = .ok ⟨entryId, decoded⟩ ∧
      json.fromStr decoded.payloadJson = .ok envelope := by
  obtain ⟨decoded, hdecoded⟩ := h
  obtain ⟨hvalid, -⟩ := deserializeEntry_spec hdecoded
  obtain ⟨envelope, henvelope, -⟩ := validate_spec hvalid
  refine ⟨decoded, envelope, ?_, henvelope⟩
  rw [redisStreamMessage, hdecoded]
  rfl

section Stream

variable {json : EnvelopeJson Sim} {world world' : StreamWorld}

/-- **Adding an entry** above the log keeps the shape. -/
theorem StreamInvariant.appended (h : StreamInvariant json world) {entry : StreamEntry}
    (habove : ∀ earlier ∈ world.log, earlier.id < entry.id)
    (hearlier : ∀ seq, 1 ≤ seq → seq < entry.id.sequence.toNat →
      ∃ earlier ∈ world.log, earlier.id.toEntryId = ⟨entry.id.millis.toNat, seq⟩)
    (hpublished : Published json entry) : StreamInvariant json (world.appended entry) := by
  have hlog : (world.appended entry).log = world.log ++ [entry] := rfl
  refine
    { increasing := ?_, contiguous := ?_, published := ?_, retained := ?_, lastGenerated := ?_ }
  · rw [hlog, List.pairwise_append]
    refine ⟨h.increasing, List.pairwise_singleton _ _, ?_⟩
    intro a ha b hb
    rw [List.mem_singleton] at hb
    exact hb ▸ habove a ha
  · intro e he seq hpos hle
    rw [hlog, List.mem_append, List.mem_singleton] at he
    have hin : ∀ p, p ∈ world.log → p ∈ (world.appended entry).log := fun p hp =>
      List.mem_append_left _ hp
    obtain he | rfl := he
    · obtain ⟨p, hp, hid⟩ := h.contiguous e he seq hpos hle
      exact ⟨p, hin p hp, hid⟩
    · obtain hlt | heq := Nat.lt_or_eq_of_le hle
      · obtain ⟨p, hp, hid⟩ := hearlier seq hpos hlt
        exact ⟨p, hin p hp, hid⟩
      · exact ⟨e, List.mem_append_right _ (List.mem_singleton_self e), by rw [heq]; rfl⟩
  · intro e he
    rw [hlog, List.mem_append, List.mem_singleton] at he
    obtain he | rfl := he
    · exact h.published e he
    · exact hpublished
  · rw [StreamWorld.retained_appended, hlog]
    obtain ⟨gone, hgone⟩ := h.retained
    exact ⟨gone, by rw [← List.append_assoc, hgone]⟩
  · intro stream hstream
    obtain rfl := Option.some.inj hstream
    exact ⟨entry, by rw [hlog, List.getLast?_concat], rfl⟩

/-- Dropping the beginning keeps the shape. -/
theorem StreamInvariant.dropped (h : StreamInvariant json world) (hlog : world'.log = world.log)
    (hretained : world'.retained <:+ world.retained)
    (hstream : ∀ stream, world'.stream = some stream → ∃ stream₀, world.stream = some stream₀ ∧
      stream₀.lastGeneratedId = stream.lastGeneratedId) : StreamInvariant json world' := by
  refine { increasing := hlog ▸ h.increasing, contiguous := hlog ▸ h.contiguous
           published := hlog ▸ h.published
           retained := hlog ▸ hretained.trans h.retained, lastGenerated := ?_ }
  intro stream hsome
  obtain ⟨stream₀, hsome₀, heq⟩ := hstream stream hsome
  obtain ⟨last, hlast, hid⟩ := h.lastGenerated stream₀ hsome₀
  exact ⟨last, hlog ▸ hlast, hid.trans heq⟩

/-- In an increasing log nothing is above the last entry. -/
theorem StreamInvariant.le_last (h : StreamInvariant json world) {last entry : StreamEntry}
    (hlast : world.log.getLast? = some last) (hentry : entry ∈ world.log) :
    entry = last ∨ entry.id < last.id := by
  obtain ⟨init, hinit⟩ := List.getLast?_eq_some_iff.mp hlast
  rw [hinit, List.mem_append, List.mem_singleton] at hentry
  obtain hentry | heq := hentry
  · have hincreasing := h.increasing
    rw [hinit, List.pairwise_append] at hincreasing
    exact .inr (hincreasing.2.2 entry hentry last (List.mem_singleton_self last))
  · exact .inl heq

/-- The entry a step appends is above the log, and has its predecessors in it. -/
theorem StreamInvariant.above (h : StreamInvariant json world) {entry : StreamEntry} :
    (∃ last, world.log.getLast? = some last ∧ entry.id.millis = last.id.millis ∧
        entry.id.sequence.toNat = last.id.sequence.toNat + 1) ∨
      ((∀ earlier ∈ world.log, earlier.id.millis.toNat < entry.id.millis.toNat) ∧
        entry.id.sequence.toNat = 1) →
    (∀ earlier ∈ world.log, earlier.id < entry.id) ∧
      ∀ seq, 1 ≤ seq → seq < entry.id.sequence.toNat →
        ∃ earlier ∈ world.log, earlier.id.toEntryId = ⟨entry.id.millis.toNat, seq⟩ := by
  rintro (⟨last, hlast, hgeneration, hseq⟩ | ⟨hgeneration, hseq⟩)
  · have hmem : last ∈ world.log := List.mem_of_getLast? hlast
    have habove : last.id < entry.id := by
      rw [RedisEntryIdParts.lt_def, hgeneration]
      omega
    refine ⟨?_, ?_⟩
    · intro earlier hearlier
      obtain rfl | hlt := h.le_last hlast hearlier
      · exact habove
      · exact RedisEntryIdParts.lt_trans hlt habove
    · intro seq hpos hlt
      rw [hgeneration]
      exact h.contiguous last hmem seq hpos (by omega)
  · refine ⟨?_, ?_⟩
    · intro earlier hearlier
      exact RedisEntryIdParts.lt_def.mpr (.inl (hgeneration earlier hearlier))
    · intro seq hpos hlt
      omega

/-- **What a step does**: it appends above the log, or drops a beginning. -/
theorem StreamStep.cases (h : StreamInvariant json world) (hstep : StreamStep json world world') :
    (∃ entry, world' = world.appended entry ∧ (∀ earlier ∈ world.log, earlier.id < entry.id) ∧
      (∀ seq, 1 ≤ seq → seq < entry.id.sequence.toNat →
        ∃ earlier ∈ world.log, earlier.id.toEntryId = ⟨entry.id.millis.toNat, seq⟩) ∧
      Published json entry) ∨
    (world'.log = world.log ∧ world'.retained <:+ world.retained ∧
      ∀ stream, world'.stream = some stream → ∃ stream₀, world.stream = some stream₀ ∧
        stream₀.lastGeneratedId = stream.lastGeneratedId) := by
  cases hstep with
  | append last entry hlast hgeneration hseq hpublished =>
    obtain ⟨habove, hearlier⟩ := h.above (.inl ⟨last, hlast, hgeneration, hseq⟩)
    exact .inl ⟨entry, rfl, habove, hearlier, hpublished⟩
  | promote entry hgeneration hseq hpublished =>
    obtain ⟨habove, hearlier⟩ := h.above (.inr ⟨hgeneration, hseq⟩)
    exact .inl ⟨entry, rfl, habove, hearlier, hpublished⟩
  | trim count =>
    refine .inr ⟨rfl, ?_, ?_⟩
    · rw [StreamWorld.retained_trimmed]
      exact List.drop_suffix count _
    · intro stream hstream
      obtain ⟨stream₀, hstream₀, rfl⟩ := Option.map_eq_some_iff.mp hstream
      exact ⟨stream₀, hstream₀, rfl⟩
  | delete => exact .inr ⟨rfl, List.nil_suffix, nofun⟩

/-- **Every change** of the stream keeps ids growing. -/
theorem StreamInvariant.step (h : StreamInvariant json world)
    (hstep : StreamStep json world world') : StreamInvariant json world' := by
  obtain ⟨entry, rfl, habove, hearlier, hpublished⟩ | ⟨hlog, hretained, hstream⟩ :=
    hstep.cases h
  · exact h.appended habove hearlier hpublished
  · exact h.dropped hlog hretained hstream

/-- **A retained entry vouches for all later ones.** -/
theorem StreamInvariant.retained_of_not_lt (h : StreamInvariant json world)
    {first entry : StreamEntry} (hfirst : first ∈ world.retained) (hentry : entry ∈ world.log)
    (hnot : ¬entry.id < first.id) : entry ∈ world.retained := by
  obtain ⟨gone, hgone⟩ := h.retained
  have hincreasing := h.increasing
  rw [← hgone] at hentry hincreasing
  obtain hin | hin := List.mem_append.mp hentry
  · exact absurd ((List.pairwise_append.mp hincreasing).2.2 entry hin first hfirst) hnot
  · exact hin

/-- `world'` is a later state of the stream `world`. -/
structure Later (world world' : StreamWorld) : Prop where
  log : world.log <+: world'.log
  /-- what is gone stays gone -/
  kept : ∀ entry ∈ world.log, entry ∈ world'.retained → entry ∈ world.retained
  /-- what is new is above what was there -/
  above : ∀ entry ∈ world'.log, entry ∈ world.log ∨ ∀ earlier ∈ world.log, earlier.id < entry.id

theorem Later.refl (world : StreamWorld) : Later world world :=
  { log := List.prefix_rfl, kept := fun _ _ h => h, above := fun _ h => .inl h }

theorem Later.step {start : StreamWorld} (h : Later start world) (hworld : StreamInvariant json world)
    (hstep : StreamStep json world world') : Later start world' := by
  obtain ⟨entry, rfl, habove, -, -⟩ | ⟨hlog, hretained, -⟩ := hstep.cases hworld
  · refine { log := h.log.trans (List.prefix_append _ _), kept := ?_, above := ?_ }
    · intro e he hin
      rw [StreamWorld.retained_appended, List.mem_append, List.mem_singleton] at hin
      obtain hin | rfl := hin
      · exact h.kept e he hin
      · exact absurd (habove e (h.log.mem he)) (RedisEntryIdParts.lt_irrefl _)
    · intro e he
      obtain he | he := List.mem_append.mp he
      · exact h.above e he
      · rw [List.mem_singleton] at he
        exact .inr fun earlier hearlier => he ▸ habove earlier (h.log.mem hearlier)
  · exact { log := hlog ▸ h.log
            kept := fun e he hin => h.kept e he (hretained.mem hin)
            above := hlog ▸ h.above }

/-! ## Loss

What it means that entries behind a checkpoint are gone, and that this stays so. -/

/-- **Lost entries.** Some entry of the checkpoint's generation after the checkpoint is gone, or the
generation ended at the checkpoint. A generation that ended further on is not lost yet: the entries
up to its end can still be read. -/
def Lost (world : StreamWorld) (checkpoint : ReplayCheckpoint) : Prop :=
  (∃ entry ∈ world.log, entry.id.millis = checkpoint.boundary.generation ∧
    checkpoint.lastMessageSeq.toNat < entry.id.sequence.toNat ∧ entry ∉ world.retained) ∨
  ((∃ entry ∈ world.log, checkpoint.boundary.generation.toNat < entry.id.millis.toNat) ∧
    ∀ entry ∈ world.log, entry.id.toEntryId ≠ checkpoint.nextId)

variable {checkpoint : ReplayCheckpoint}

/-- The log went past the checkpoint. -/
theorem Lost.exists_after (h : Lost world checkpoint) :
    ∃ entry ∈ world.log, checkpoint.position < entry.id := by
  obtain ⟨entry, hentry, hgeneration, hseq, -⟩ | ⟨⟨entry, hentry, hgeneration⟩, -⟩ := h
  · refine ⟨entry, hentry, RedisEntryIdParts.lt_def.mpr (.inr ⟨?_, hseq⟩)⟩
    rw [hgeneration]
    rfl
  · exact ⟨entry, hentry, RedisEntryIdParts.lt_def.mpr (.inl hgeneration)⟩

/-- The next entry cannot be read. -/
theorem Lost.next_not_retained (h : Lost world checkpoint) (hworld : StreamInvariant json world) :
    ∀ entry ∈ world.retained, entry.id.toEntryId ≠ checkpoint.nextId := by
  intro first hfirst hnext
  obtain ⟨entry, hentry, hgeneration, hseq, hgone⟩ | ⟨-, hnever⟩ := h
  · -- the next entry would vouch for the one that is gone
    have hgenerationNat : entry.id.millis.toNat = checkpoint.boundary.generation.toNat := by
      rw [hgeneration]
    rw [RedisEntryIdParts.toEntryId, ReplayCheckpoint.nextId, EntryId.mk.injEq] at hnext
    refine hgone (hworld.retained_of_not_lt hfirst hentry ?_)
    rw [RedisEntryIdParts.lt_def]
    omega
  · exact hnever first (hworld.retained.mem hfirst) hnext

/-- **A loss is final.** -/
theorem Lost.later (h : Lost world checkpoint) (hlater : Later world world') :
    Lost world' checkpoint := by
  obtain ⟨entry, hentry, hgeneration, hseq, hgone⟩ | ⟨⟨entry, hentry, hgeneration⟩, hnever⟩ := h
  · exact .inl ⟨entry, hlater.log.mem hentry, hgeneration, hseq,
      fun hin => hgone (hlater.kept entry hentry hin)⟩
  · refine .inr ⟨⟨entry, hlater.log.mem hentry, hgeneration⟩, ?_⟩
    intro e he hnext
    obtain hin | habove := hlater.above e he
    · exact hnever e hin hnext
    · have hlt := habove entry hentry
      rw [RedisEntryIdParts.toEntryId, ReplayCheckpoint.nextId, EntryId.mk.injEq] at hnext
      rw [RedisEntryIdParts.lt_def] at hlt
      omega

/-- **After a loss that an empty read has seen**, everything retained later is beyond the next
entry. -/
theorem Lost.beyond (h : Lost world checkpoint) (hlater : Later world world')
    (hworld' : StreamInvariant json world')
    (hempty : ∀ entry ∈ world.retained, ¬checkpoint.position < entry.id) :
    ∀ first ∈ world'.retained, checkpoint.nextId < first.id.toEntryId := by
  intro first hfirst
  by_contra hnot
  have hne := (h.later hlater).next_not_retained hworld' first hfirst
  obtain ⟨entry, hentry, hafter⟩ := h.exists_after
  have hlt : first.id < entry.id := by
    rw [EntryId.lt_def, ReplayCheckpoint.nextId, RedisEntryIdParts.toEntryId] at hnot
    rw [ReplayCheckpoint.nextId, RedisEntryIdParts.toEntryId, ne_eq, EntryId.mk.injEq] at hne
    rw [RedisEntryIdParts.lt_def, ReplayCheckpoint.position] at hafter
    rw [RedisEntryIdParts.lt_def]
    dsimp only at hnot hne hafter ⊢
    omega
  have hin := hworld'.retained_of_not_lt hfirst (hlater.log.mem hentry)
    (RedisEntryIdParts.lt_asymm hlt)
  exact hempty entry (hlater.kept entry hentry hin) hafter

end Stream

/-! ## One poll

A poll reads and inspects at two instants, and the stream may change in between. Its outcome is
sound for the instants it has seen. -/

/-- The entries `XREAD` finds after the checkpoint. -/
def unread (world : StreamWorld) (checkpoint : ReplayCheckpoint) (readCount : UInt64) :
    List StreamEntry :=
  (world.retained.filter fun entry => checkpoint.position < entry.id).take readCount.toNat

/-- What a poll returns when its commands run at these two moments. -/
def pollOutcome (json : EnvelopeJson Sim) (readCount : UInt64) (checkpoint : ReplayCheckpoint)
    (readAt inspectedAt : StreamWorld) : Replay (ReplayPoll Sim) :=
  readNext json checkpoint readCount (readAt.readAfter json checkpoint.entryId readCount)
    inspectedAt.streamInfo

/-- The message is the entry. -/
def DecodesTo (json : EnvelopeJson Sim) (entry : StreamEntry) (message : RedisStreamMessage) :
    Prop :=
  message.entryId = entry.id.redisEntryId ∧
    deserializeEntry json entry.fields = .ok message.entry

/-- `XINFO` on a stream, as the client understands it. -/
def infoOf (world : StreamWorld) : Option RedisStreamInfo :=
  world.stream.map fun stream => streamInfoOf stream.lastGeneratedId
    (stream.entries.head?.map (·.id)) (stream.entries.getLast?.map (·.id))

theorem redisEntryId_ne_empty (parts : RedisEntryIdParts) : parts.redisEntryId ≠ "" := by
  intro h
  have hlist := congrArg String.toList h
  rw [RedisEntryIdParts.redisEntryId, String.toList_append, String.toList_append] at hlist
  simp at hlist

theorem streamInfo_eq (world : StreamWorld) : world.streamInfo = .ok (infoOf world) := by
  obtain ⟨stream, log⟩ := world
  cases stream with
  | none => rfl
  | some stream =>
    obtain ⟨entries, lastGeneratedId⟩ := stream
    cases entries with
    | nil => rfl
    | cons first entries =>
      obtain ⟨last, hlast⟩ : ∃ last, (first :: entries).getLast? = some last :=
        ⟨_, List.getLast?_cons⟩
      rw [StreamWorld.streamInfo, StreamWorld.xinfo, infoOf]
      simp only [Option.map_some, hlast, List.head?_cons, Option.getD_some, redisStreamInfo,
        redisStreamInfoFromReply, redisStreamInfoEntryId, List.length_cons, Nat.add_eq_zero_iff,
        Nat.one_ne_zero, and_false, if_false, redisEntryId_ne_empty]
      rfl

section Poll

variable {json : EnvelopeJson Sim} {readCount : UInt64} {checkpoint : ReplayCheckpoint}
  {readAt : StreamWorld}

/-- What is read lies behind the checkpoint. -/
theorem mem_unread {entry : StreamEntry} (h : entry ∈ unread readAt checkpoint readCount) :
    entry ∈ readAt.retained ∧ checkpoint.position < entry.id := by
  have hin := List.mem_filter.mp (List.mem_of_mem_take h)
  exact ⟨hin.1, of_decide_eq_true hin.2⟩

/-- Nothing was found because there is nothing. -/
theorem not_after_of_unread_eq_nil (hcount : 1 ≤ readCount.toNat)
    (h : unread readAt checkpoint readCount = []) :
    ∀ entry ∈ readAt.retained, ¬checkpoint.position < entry.id := by
  intro entry hentry hafter
  rw [unread, List.take_eq_nil_iff] at h
  obtain hzero | hnil := h
  · omega
  · have hin : entry ∈ readAt.retained.filter fun entry => checkpoint.position < entry.id :=
      List.mem_filter.mpr ⟨hentry, decide_eq_true hafter⟩
    rw [hnil] at hin
    cases hin

/-- **Reading** finds the entries after the checkpoint, and they decode. -/
theorem readAfter_eq (readCount : UInt64) (hwf : checkpoint.WellFormed)
    (hread : StreamInvariant json readAt) :
    ∃ messages, readAt.readAfter json checkpoint.entryId readCount = .ok messages ∧
      List.Forall₂ (DecodesTo json) (unread readAt checkpoint readCount) messages := by
  have hpublished : ∀ entry ∈ unread readAt checkpoint readCount, Published json entry :=
    fun entry hentry => hread.published entry (hread.retained.mem (mem_unread hentry).1)
  have hentry : checkpoint.entryId = checkpoint.position.redisEntryId := hwf
  have hxread : readAt.xread checkpoint.entryId readCount =
      .ok ((unread readAt checkpoint readCount).map fun entry =>
        (entry.id.redisEntryId, entry.fields)) := by
    rw [StreamWorld.xread, hentry, parseRedisEntryId_redisEntryId]
    rfl
  have hdecode : ∀ entries : List StreamEntry, (∀ entry ∈ entries, Published json entry) →
      ∃ messages, List.Forall₂ (DecodesTo json) entries messages ∧
        List.Forall₂ (fun (field : String × FinMap String String) message =>
          (redisStreamMessage json field.1 field.2).mapError
            (fun error => BroadcasterReplayClientError.redisDecode (.entry error)) = .ok message)
          (entries.map fun entry => (entry.id.redisEntryId, entry.fields)) messages := by
    intro entries hall
    induction entries with
    | nil => exact ⟨[], .nil, .nil⟩
    | cons entry entries ih =>
      obtain ⟨messages, hdecodes, hmessages⟩ :=
        ih fun e he => hall e (List.mem_cons_of_mem _ he)
      obtain ⟨decoded, hdecoded⟩ := hall entry List.mem_cons_self
      refine ⟨⟨entry.id.redisEntryId, decoded⟩ :: messages, .cons ⟨rfl, hdecoded⟩ hdecodes,
        .cons (mapError_eq_ok.mpr ?_) hmessages⟩
      rw [redisStreamMessage, hdecoded]
      rfl
  obtain ⟨messages, hdecodes, hmessages⟩ := hdecode _ hpublished
  refine ⟨messages, ?_, hdecodes⟩
  rw [StreamWorld.readAfter, hxread]
  exact mapM_eq_ok.mpr hmessages

/-- **A poll that found something** returns it as a batch or refuses it. -/
theorem pollOutcome_of_found (inspectedAt : StreamWorld) (hwf : checkpoint.WellFormed)
    (hread : StreamInvariant json readAt)
    (hfound : unread readAt checkpoint readCount ≠ []) :
    ∃ messages flag, List.Forall₂ (DecodesTo json) (unread readAt checkpoint readCount) messages ∧
      pollOutcome json readCount checkpoint readAt inspectedAt =
        (do let items ← replayItems json checkpoint messages
            pure (.batch { items, caughtUpAfterBatch := flag })) := by
  obtain ⟨messages, hmessages, hdecodes⟩ := readAfter_eq readCount hwf hread
  refine ⟨messages, decide (messages.length < readCount.toNat), hdecodes, ?_⟩
  have hne : messages ≠ [] := by
    rintro rfl
    exact hfound (List.forall₂_nil_right_iff.mp hdecodes)
  rw [pollOutcome, hmessages, readNext]
  simp only [bind, Except.bind, if_neg hne, buildReplayBatch]
  cases replayItems json checkpoint messages <;> rfl

/-- **A poll that found nothing** says what `XINFO` tells it. -/
theorem pollOutcome_of_nothing (inspectedAt : StreamWorld) (hwf : checkpoint.WellFormed)
    (hread : StreamInvariant json readAt)
    (hnothing : unread readAt checkpoint readCount = []) :
    pollOutcome json readCount checkpoint readAt inspectedAt =
      (do match ← redisEmptyPollAction checkpoint (infoOf inspectedAt) with
          | .caughtUp => pure (.caughtUp checkpoint)
          | .pending => pure .pending) := by
  obtain ⟨messages, hmessages, hdecodes⟩ := readAfter_eq readCount hwf hread
  rw [hnothing, List.forall₂_nil_left_iff] at hdecodes
  subst hdecodes
  rw [pollOutcome, hmessages, readNext, streamInfo_eq]
  rfl

end Poll

/-- A poll of a run, with the state of the stream when its commands ran. -/
structure PollRecord (Sim : Type) where
  checkpoint : ReplayCheckpoint
  readAt : StreamWorld
  /-- when `XINFO` ran, if it did -/
  inspectedAt : Option StreamWorld
  outcome : Replay (ReplayPoll Sim)

/-- The poll was refused with a gap. -/
def PollRecord.IsGap (poll : PollRecord Sim) : Prop :=
  ∃ error, poll.outcome = .error error ∧ error.IsGap

/-- The client has read nothing yet and finds no stream. -/
def PollRecord.Unborn (poll : PollRecord Sim) : Prop :=
  poll.checkpoint.lastMessageSeq = 0 ∧
    ∃ world, poll.inspectedAt = some world ∧ world.stream = none

/-- **What a poll may answer.** -/
structure PollSound (poll : PollRecord Sim) : Prop where
  /-- a batch is read before any loss -/
  batch : ∀ batch, poll.outcome = .ok (.batch batch) → ¬Lost poll.readAt poll.checkpoint
  /-- whoever is caught up has the whole log -/
  caughtUp : ∀ checkpoint, poll.outcome = .ok (.caughtUp checkpoint) → ¬poll.Unborn →
    ∃ world stream, poll.inspectedAt = some world ∧ world.stream = some stream ∧
      stream.lastGeneratedId = poll.checkpoint.position ∧
      ∀ entry ∈ world.log, ¬poll.checkpoint.position < entry.id
  /-- a loss before both commands is a gap -/
  lost : Lost poll.readAt poll.checkpoint → ¬poll.Unborn → poll.IsGap
  /-- a loss between the commands is a gap, or not noticed yet -/
  inspected : ∀ world, poll.inspectedAt = some world → Lost world poll.checkpoint →
    ¬poll.Unborn → poll.IsGap ∨ poll.outcome = .ok .pending
  /-- a missing stream that was never read counts as empty -/
  unborn : poll.Unborn → poll.outcome = .ok (.caughtUp poll.checkpoint)

/-- The record of a poll whose commands ran at these two moments. -/
def pollRecord (json : EnvelopeJson Sim) (readCount : UInt64) (checkpoint : ReplayCheckpoint)
    (readAt now : StreamWorld) : PollRecord Sim :=
  { checkpoint, readAt
    -- the second command is sent when the first found nothing
    inspectedAt := match readAt.readAfter json checkpoint.entryId readCount with
      | .ok [] => some now
      | _ => none
    outcome := pollOutcome json readCount checkpoint readAt now }

section Poll

variable {json : EnvelopeJson Sim} {readCount : UInt64} {checkpoint : ReplayCheckpoint}
  {readAt now : StreamWorld}

/-- A poll without entries has inspected the stream. -/
theorem inspectedAt_of_nothing (now : StreamWorld) (hwf : checkpoint.WellFormed)
    (hread : StreamInvariant json readAt)
    (hnothing : unread readAt checkpoint readCount = []) :
    (pollRecord json readCount checkpoint readAt now).inspectedAt = some now := by
  obtain ⟨messages, hmessages, hdecodes⟩ := readAfter_eq readCount hwf hread
  rw [hnothing, List.forall₂_nil_left_iff] at hdecodes
  subst hdecodes
  rw [pollRecord, hmessages]

theorem inspectedAt_of_found (now : StreamWorld) (hwf : checkpoint.WellFormed)
    (hread : StreamInvariant json readAt)
    (hfound : unread readAt checkpoint readCount ≠ []) :
    (pollRecord json readCount checkpoint readAt now).inspectedAt = none := by
  obtain ⟨messages, hmessages, hdecodes⟩ := readAfter_eq readCount hwf hread
  rw [pollRecord, hmessages]
  cases messages with
  | nil => exact absurd (List.forall₂_nil_right_iff.mp hdecodes) hfound
  | cons message messages => rfl

/-- **After a loss what is found is refused.** -/
theorem pollOutcome_gap_of_found (now : StreamWorld) (hwf : checkpoint.WellFormed)
    (hread : StreamInvariant json readAt) (hfound : unread readAt checkpoint readCount ≠ [])
    (hlost : Lost readAt checkpoint) :
    (pollRecord json readCount checkpoint readAt now).IsGap := by
  obtain ⟨messages, flag, hdecodes, houtcome⟩ := pollOutcome_of_found now hwf hread hfound
  obtain ⟨entry, entries, hentries⟩ := List.exists_cons_of_ne_nil hfound
  rw [hentries] at hdecodes
  cases hdecodes with
  | @cons _ message _ messages hmessage _ =>
    obtain ⟨hretained, -⟩ := mem_unread (hentries ▸ List.mem_cons_self)
    obtain ⟨hid, hentry⟩ := hmessage
    obtain ⟨envelope, henvelope, -⟩ := validate_spec (deserializeEntry_spec hentry).1
    have hne : message.entryId ≠ entryIdText checkpoint.nextId := by
      intro heq
      rw [hid, redisEntryId_eq] at heq
      exact hlost.next_not_retained hread entry hretained (entryIdText_injective heq)
    obtain ⟨error, herror, hgap⟩ := replayItems_gap henvelope hne
    refine ⟨error, ?_, hgap⟩
    rw [pollRecord, houtcome, herror]
    rfl

/-- **Whoever finds nothing and is told so** has the whole log. -/
theorem emptyPoll_caughtUp (hwf : checkpoint.WellFormed) (hnow : StreamInvariant json now)
    (h : redisEmptyPollAction checkpoint (infoOf now) = .ok .caughtUp) :
    (checkpoint.lastMessageSeq = 0 ∧ now.stream = none) ∨
    ∃ stream, now.stream = some stream ∧ stream.lastGeneratedId = checkpoint.position ∧
      ∀ entry ∈ now.log, ¬checkpoint.position < entry.id := by
  cases hstream : now.stream with
  | none =>
    rw [infoOf, hstream] at h
    refine .inl ⟨?_, rfl⟩
    by_contra hne
    rw [Option.map_none, redisEmptyPollAction, if_neg hne] at h
    cases h
  | some stream =>
    rw [infoOf, hstream] at h
    obtain ⟨-, hlast⟩ | ⟨hpending, -⟩ := redisEmptyPollAction_spec hwf h
    · refine .inr ⟨stream, rfl, hlast, ?_⟩
      intro entry hentry hafter
      obtain ⟨last, hgetLast, hid⟩ := hnow.lastGenerated stream hstream
      rw [← hlast, ← hid] at hafter
      obtain rfl | hlt := hnow.le_last hgetLast hentry
      · exact RedisEntryIdParts.lt_irrefl _ hafter
      · exact RedisEntryIdParts.lt_asymm hlt hafter
    · cases hpending

/-- A pending poll still sees the entry after its checkpoint, or one before it. -/
theorem emptyPoll_pending (hwf : checkpoint.WellFormed)
    (h : redisEmptyPollAction checkpoint (infoOf now) = .ok .pending) :
    ∃ first ∈ now.retained, ¬checkpoint.nextId < first.id.toEntryId := by
  cases hstream : now.stream with
  | none =>
    rw [infoOf, hstream, Option.map_none, redisEmptyPollAction] at h
    split at h <;> cases h
  | some stream =>
    rw [infoOf, hstream] at h
    obtain ⟨hcaughtUp, -⟩ | ⟨-, -, f, l, hfirst, -, hnot, -⟩ := redisEmptyPollAction_spec hwf h
    · cases hcaughtUp
    · obtain ⟨first, hhead, rfl⟩ := Option.map_eq_some_iff.mp hfirst
      refine ⟨first, ?_, hnot⟩
      rw [StreamWorld.retained, hstream]
      exact List.mem_of_head? hhead

/-- A poll that finds entries is sound. -/
theorem pollSound_of_found (hwf : checkpoint.WellFormed) (hread : StreamInvariant json readAt)
    (hfound : unread readAt checkpoint readCount ≠ []) :
    PollSound (pollRecord json readCount checkpoint readAt now) := by
  have hinspected := inspectedAt_of_found now hwf hread hfound
  have hborn : ¬(pollRecord json readCount checkpoint readAt now).Unborn := by
    rintro ⟨-, world, hworld, -⟩
    rw [hinspected] at hworld
    cases hworld
  obtain ⟨messages, flag, -, houtcome⟩ :=
    pollOutcome_of_found now hwf hread hfound
  refine { batch := ?_, caughtUp := ?_, lost := ?_, inspected := ?_, unborn := ?_ }
  · intro batch hbatch hlost
    obtain ⟨error, herror, -⟩ := pollOutcome_gap_of_found now hwf hread hfound hlost
    rw [herror] at hbatch
    cases hbatch
  · intro caught hcaught
    rw [pollRecord, houtcome] at hcaught
    obtain ⟨items, -, h⟩ := bind_eq_ok.mp hcaught
    cases h
  · intro hlost _
    exact pollOutcome_gap_of_found now hwf hread hfound hlost
  · intro world hworld
    rw [hinspected] at hworld
    cases hworld
  · exact fun hunborn => absurd hunborn hborn

/-- **Every poll is sound.** -/
theorem pollSound_pollRecord (hcount : 1 ≤ readCount.toNat) (hwf : checkpoint.WellFormed)
    (hread : StreamInvariant json readAt) (hnow : StreamInvariant json now)
    (hlater : Later readAt now) : PollSound (pollRecord json readCount checkpoint readAt now) := by
  by_cases hfound : unread readAt checkpoint readCount = []
  case neg => exact pollSound_of_found hwf hread hfound
  case pos =>
    -- nothing was read, so the poll asks Redis about the stream as it is now
    have hinspected := inspectedAt_of_nothing now hwf hread hfound
    have hempty := not_after_of_unread_eq_nil hcount hfound
    have houtcome : (pollRecord json readCount checkpoint readAt now).outcome = _ :=
      pollOutcome_of_nothing now hwf hread hfound
    have hunborn_iff : (pollRecord json readCount checkpoint readAt now).Unborn ↔
        checkpoint.lastMessageSeq = 0 ∧ now.stream = none := by
      rw [PollRecord.Unborn, hinspected]
      simp only [Option.some.injEq, exists_eq_left']
      rfl
    have hunborn : (pollRecord json readCount checkpoint readAt now).Unborn →
        redisEmptyPollAction checkpoint (infoOf now) = .ok .caughtUp := by
      intro hunborn
      obtain ⟨hzero, hnone⟩ := hunborn_iff.mp hunborn
      rw [infoOf, hnone, Option.map_none, redisEmptyPollAction, if_pos hzero]
    cases haction : redisEmptyPollAction checkpoint (infoOf now) with
    | error error =>
      have hgap : (pollRecord json readCount checkpoint readAt now).IsGap :=
        ⟨error, by rw [houtcome, haction]; rfl,
          redisEmptyPollAction_failsWith checkpoint _ error haction⟩
      have herror : ∀ poll, (pollRecord json readCount checkpoint readAt now).outcome ≠ .ok poll :=
        by
          rw [houtcome, haction]
          rintro poll ⟨⟩
      exact { batch := fun batch hbatch => absurd hbatch (herror _)
              caughtUp := fun caught hcaught => absurd hcaught (herror _)
              lost := fun _ _ => hgap
              inspected := fun _ _ _ _ => .inl hgap
              unborn := fun h => absurd ((hunborn h).symm.trans haction) (by rintro ⟨⟩) }
    | ok action =>
      cases action with
      | caughtUp =>
        have hcaught : (pollRecord json readCount checkpoint readAt now).outcome =
            .ok (.caughtUp checkpoint) := by
          rw [houtcome, haction]
          rfl
        have hwhole := emptyPoll_caughtUp hwf hnow haction
        rw [← hunborn_iff] at hwhole
        have hkept : ¬(pollRecord json readCount checkpoint readAt now).Unborn →
            ¬Lost now checkpoint := by
          intro hborn hlost
          obtain ⟨stream, -, -, hall⟩ := hwhole.resolve_left hborn
          obtain ⟨entry, hentry, hafter⟩ := hlost.exists_after
          exact hall entry hentry hafter
        refine { batch := ?_, caughtUp := ?_, lost := ?_, inspected := ?_, unborn := ?_ }
        · intro batch hbatch
          rw [hcaught] at hbatch
          cases hbatch
        · intro caught _ hborn
          obtain ⟨stream, hstream, hlast, hall⟩ := hwhole.resolve_left hborn
          exact ⟨now, stream, hinspected, hstream, hlast, hall⟩
        · exact fun hlost hborn => absurd (hlost.later hlater) (hkept hborn)
        · intro world hworld hlost hborn
          obtain rfl := Option.some.inj (hinspected.symm.trans hworld)
          exact absurd hlost (hkept hborn)
        · exact fun _ => hcaught
      -- entries were appended after the read; the next poll finds them
      | pending =>
        have hpending : (pollRecord json readCount checkpoint readAt now).outcome =
            .ok .pending := by
          rw [houtcome, haction]
          rfl
        refine { batch := ?_, caughtUp := ?_, lost := ?_, inspected := ?_, unborn := ?_ }
        · intro batch hbatch
          rw [hpending] at hbatch
          cases hbatch
        · intro caught hcaught
          rw [hpending] at hcaught
          cases hcaught
        · intro hlost _
          obtain ⟨first, hfirst, hnot⟩ := emptyPoll_pending hwf haction
          exact absurd (hlost.beyond hlater hnow hempty first hfirst) hnot
        · exact fun _ _ _ _ => .inr hpending
        · exact fun h => absurd ((hunborn h).symm.trans haction) (by rintro ⟨⟩)

end Poll

/-! ## Runs

Polls and changes of the stream in any order. The items that were replayed are contiguous, and a
loss is noticed by the first poll that could. -/

/-- A client among the other parties. -/
structure ReplayRun (Sim : Type) where
  world : StreamWorld
  checkpoint : ReplayCheckpoint
  /-- the poll under way: the stream as its `XREAD` found it -/
  reading : Option StreamWorld
  /-- ghost: all items returned so far -/
  delivered : List (ReplayMessage Sim)
  /-- ghost: all polls so far -/
  polls : List (PollRecord Sim)

/-- The items a poll returns. -/
def itemsOf : Replay (ReplayPoll Sim) → List (ReplayMessage Sim)
  | .ok (.batch batch) => batch.items
  | _ => []

/-- The checkpoint to continue from. -/
def continueFrom (checkpoint : ReplayCheckpoint) : Replay (ReplayPoll Sim) → ReplayCheckpoint
  | .ok (.batch batch) => batch.checkpointAfter.getD checkpoint
  | .ok (.caughtUp checkpoint) => checkpoint
  | _ => checkpoint

/-- The run after a poll. -/
def ReplayRun.polled (run : ReplayRun Sim) (poll : PollRecord Sim) : ReplayRun Sim :=
  { run with
    reading := none
    checkpoint := continueFrom run.checkpoint poll.outcome
    delivered := run.delivered ++ itemsOf poll.outcome
    polls := run.polls ++ [poll] }

/-- The item is an entry of the log. -/
def ItemFrom (json : EnvelopeJson Sim) (world : StreamWorld) (item : ReplayMessage Sim) : Prop :=
  ∃ entry ∈ world.log, DecodesTo json entry ⟨item.entryId, item.entry⟩

/-- **What was delivered**: the entries after the boundary, one id after the other. -/
structure Contiguous (json : EnvelopeJson Sim) (boundary : BroadcasterRedisReplayBoundary)
    (run : ReplayRun Sim) : Prop where
  ids : run.delivered.map (·.entryId) = (List.range run.delivered.length).map fun k =>
    entryIdText ⟨boundary.generation.toNat, boundary.exclusiveMessageSeq.toNat + 1 + k⟩
  entries : ∀ item ∈ run.delivered, ItemFrom json run.world item

/-- The poll did not notice a loss that had happened before its second command. -/
def PollRecord.Overlooked (poll : PollRecord Sim) : Prop :=
  poll.outcome = .ok .pending ∧
    ∃ world, poll.inspectedAt = some world ∧ Lost world poll.checkpoint

/-- A loss that `earlier` did not notice is a gap in `later`. -/
def NoticedBy (earlier later : PollRecord Sim) : Prop :=
  earlier.Overlooked → ¬later.Unborn → later.IsGap

/-- **The invariant of a run.** -/
structure ReplayInvariant (json : EnvelopeJson Sim) (boundary : BroadcasterRedisReplayBoundary)
    (run : ReplayRun Sim) : Prop where
  world : StreamInvariant json run.world
  reading : ∀ readAt, run.reading = some readAt →
    StreamInvariant json readAt ∧ Later readAt run.world
  wellFormed : run.checkpoint.WellFormed
  boundary_eq : run.checkpoint.boundary = boundary
  seq : run.checkpoint.lastMessageSeq.toNat =
    boundary.exclusiveMessageSeq.toNat + run.delivered.length
  contiguous : Contiguous json boundary run
  polls : ∀ poll ∈ run.polls, PollSound poll
  /-- an overlooked loss is there for the next poll to see -/
  overlooked : ∀ poll ∈ run.polls, poll.Overlooked → Lost run.world run.checkpoint ∧
    ∀ readAt, run.reading = some readAt → Lost readAt run.checkpoint
  noticed : run.polls.Pairwise NoticedBy

section Runs

variable {json : EnvelopeJson Sim} {readCount : UInt64}
  {boundary : BroadcasterRedisReplayBoundary} {chainId : UInt64} {run : ReplayRun Sim}

theorem ReplayInvariant.stream (h : ReplayInvariant json boundary run) {world : StreamWorld}
    (hstep : StreamStep json run.world world) :
    ReplayInvariant json boundary { run with world } := by
  have hlater := (Later.refl run.world).step h.world hstep
  refine { h with world := h.world.step hstep, reading := ?_, contiguous := ?_, overlooked := ?_ }
  · intro readAt hreading
    obtain ⟨hread, hreadLater⟩ := h.reading readAt hreading
    exact ⟨hread, hreadLater.step h.world hstep⟩
  · refine ⟨h.contiguous.ids, ?_⟩
    intro item hitem
    obtain ⟨entry, hentry, hdecodes⟩ := h.contiguous.entries item hitem
    exact ⟨entry, hlater.log.mem hentry, hdecodes⟩
  · intro poll hpoll hover
    obtain ⟨hlost, hreading⟩ := h.overlooked poll hpoll hover
    exact ⟨hlost.later hlater, hreading⟩

theorem ReplayInvariant.read (h : ReplayInvariant json boundary run) :
    ReplayInvariant json boundary { run with reading := some run.world } := by
  refine { h with reading := ?_, contiguous := ⟨h.contiguous.ids, h.contiguous.entries⟩
                  overlooked := ?_ }
  · intro readAt hreading
    obtain rfl := Option.some.inj hreading
    exact ⟨h.world, .refl _⟩
  · intro poll hpoll hover
    obtain ⟨hlost, -⟩ := h.overlooked poll hpoll hover
    refine ⟨hlost, fun readAt hreading => ?_⟩
    obtain rfl := Option.some.inj hreading
    exact hlost

theorem ReplayInvariant.fail (h : ReplayInvariant json boundary run) :
    ReplayInvariant json boundary { run with reading := none } := by
  refine { h with reading := nofun, contiguous := ⟨h.contiguous.ids, h.contiguous.entries⟩
                  overlooked := ?_ }
  intro poll hpoll hover
  exact ⟨(h.overlooked poll hpoll hover).1, nofun⟩

variable {checkpoint : ReplayCheckpoint} {readAt now : StreamWorld}

/-- A poll without items leaves the checkpoint alone. -/
theorem itemsFollow_nil (hwf : checkpoint.WellFormed) :
    ItemsFollow checkpoint [] ([] : List (ReplayMessage Sim)) checkpoint :=
  { messages_eq := rfl, ids := rfl, seq := rfl, boundary := rfl, wellFormed := hwf }

/-- **What a poll returns** continues its checkpoint with entries of the log. -/
theorem pollOutcome_items (readCount : UInt64) (now : StreamWorld) (hwf : checkpoint.WellFormed)
    (hread : StreamInvariant json readAt) :
    ∃ messages, ItemsFollow checkpoint messages
        (itemsOf (pollOutcome json readCount checkpoint readAt now))
        (continueFrom checkpoint (pollOutcome json readCount checkpoint readAt now)) ∧
      ∀ message ∈ messages, ∃ entry ∈ readAt.log, DecodesTo json entry message := by
  by_cases hfound : unread readAt checkpoint readCount = []
  · rw [pollOutcome_of_nothing now hwf hread hfound]
    refine ⟨[], ?_, fun _ hmessage => absurd hmessage List.not_mem_nil⟩
    cases redisEmptyPollAction checkpoint (infoOf now) with
    | error error => exact itemsFollow_nil hwf
    | ok action => cases action <;> exact itemsFollow_nil hwf
  · obtain ⟨messages, flag, hdecodes, houtcome⟩ := pollOutcome_of_found now hwf hread hfound
    rw [houtcome]
    cases hitems : replayItems json checkpoint messages with
    | error error =>
      exact ⟨[], itemsFollow_nil hwf, fun _ hmessage => absurd hmessage List.not_mem_nil⟩
    | ok items =>
      refine ⟨messages, replayItems_spec hwf hitems, ?_⟩
      intro message hmessage
      obtain ⟨entry, hentry, hdecode⟩ := forall₂_exists_left hdecodes hmessage
      exact ⟨entry, hread.retained.mem (mem_unread hentry).1, hdecode⟩

/-- Only a batch moves the checkpoint. -/
theorem continueFrom_eq (hnot : ∀ batch, pollOutcome json readCount checkpoint readAt now ≠
      .ok (.batch batch)) (hwf : checkpoint.WellFormed) (hread : StreamInvariant json readAt) :
    continueFrom checkpoint (pollOutcome json readCount checkpoint readAt now) = checkpoint := by
  by_cases hfound : unread readAt checkpoint readCount = []
  · rw [pollOutcome_of_nothing now hwf hread hfound]
    cases redisEmptyPollAction checkpoint (infoOf now) with
    | error error => rfl
    | ok action => cases action <;> rfl
  · obtain ⟨messages, flag, hdecodes, houtcome⟩ := pollOutcome_of_found now hwf hread hfound
    rw [houtcome] at hnot ⊢
    cases hitems : replayItems json checkpoint messages with
    | error error => rfl
    | ok items =>
      rw [hitems] at hnot
      exact absurd rfl (hnot _)

/-- **A poll ends**, with items or with an answer about the stream. -/
theorem ReplayInvariant.finish (hcount : 1 ≤ readCount.toNat)
    (h : ReplayInvariant json boundary run) (hreading : run.reading = some readAt) :
    ReplayInvariant json boundary
      (run.polled (pollRecord json readCount run.checkpoint readAt run.world)) := by
  obtain ⟨hread, hlater⟩ := h.reading readAt hreading
  have hsound := pollSound_pollRecord hcount h.wellFormed hread h.world hlater
  obtain ⟨messages, hfollow, hmessages⟩ :=
    pollOutcome_items readCount run.world h.wellFormed hread
  -- a poll that runs after a loss leaves the checkpoint where it is
  have hstays : Lost readAt run.checkpoint →
      continueFrom run.checkpoint
        (pollOutcome json readCount run.checkpoint readAt run.world) = run.checkpoint := by
    intro hlost
    exact continueFrom_eq (fun batch hbatch => hsound.batch batch hbatch hlost) h.wellFormed hread
  refine
    { world := h.world, reading := fun _ hnone => absurd hnone.symm (Option.some_ne_none _)
      wellFormed := hfollow.wellFormed
      boundary_eq := hfollow.boundary.trans h.boundary_eq, seq := ?_, contiguous := ⟨?_, ?_⟩
      polls := ?_, overlooked := ?_, noticed := ?_ }
  · refine hfollow.seq.trans ?_
    rw [h.seq, Nat.add_assoc, ← List.length_append]
    rfl
  · rw [ReplayRun.polled, List.map_append, h.contiguous.ids, pollRecord, hfollow.ids,
      List.length_append, List.range_add, List.map_append, List.map_map, h.seq, h.boundary_eq]
    refine congrArg₂ _ rfl (List.map_congr_left fun k _ => ?_)
    rw [Function.comp_apply, Nat.add_right_comm _ run.delivered.length, Nat.add_assoc]
  · intro item hitem
    obtain hitem | hitem := List.mem_append.mp hitem
    · exact h.contiguous.entries item hitem
    · have hmessage : (⟨item.entryId, item.entry⟩ : RedisStreamMessage) ∈ messages := by
        rw [← hfollow.messages_eq]
        exact List.mem_map_of_mem hitem
      obtain ⟨entry, hentry, hdecodes⟩ := hmessages _ hmessage
      exact ⟨entry, hlater.log.mem hentry, hdecodes⟩
  · intro poll hpoll
    obtain hpoll | hpoll := List.mem_append.mp hpoll
    · exact h.polls poll hpoll
    · exact List.mem_singleton.mp hpoll ▸ hsound
  · intro poll hpoll hover
    refine ⟨?_, fun _ hnone => absurd hnone.symm (Option.some_ne_none _)⟩
    obtain hpoll | hpoll := List.mem_append.mp hpoll
    · obtain ⟨hlost, hlostRead⟩ := h.overlooked poll hpoll hover
      change Lost run.world (continueFrom run.checkpoint (pollOutcome ..))
      rw [hstays (hlostRead readAt hreading)]
      exact hlost
    · rw [List.mem_singleton] at hpoll
      subst hpoll
      obtain ⟨hpending, world, hworld, hlost⟩ := hover
      change Lost run.world (continueFrom run.checkpoint _)
      rw [hpending]
      change (match StreamWorld.readAfter json readAt run.checkpoint.entryId readCount with
        | .ok [] => some run.world | _ => none) = some world at hworld
      split at hworld
      · obtain rfl := Option.some.inj hworld
        exact hlost
      · cases hworld
  · change (run.polls ++ [_]).Pairwise NoticedBy
    rw [List.pairwise_append]
    refine ⟨h.noticed, List.pairwise_singleton _ _, ?_⟩
    intro poll hpoll new hnew hover hborn
    rw [List.mem_singleton] at hnew
    subst hnew
    exact hsound.lost ((h.overlooked poll hpoll hover).2 readAt hreading) hborn

end Runs

end TychoSimulationServer
