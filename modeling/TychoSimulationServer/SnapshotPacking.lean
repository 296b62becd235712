import TychoSimulationServer.SnapshotFragments

/-!
# Packing into chunks

The packing loop never looks into what it packs: it moves items, in order, into chunks that are
numbered without gap. `Packed` is its invariant, for fragments and for states alike; the two spec
lemmas at the end say what a partition is packed into.
-/

namespace TychoSimulationServer

open Fallible

variable {Sim α : Type}

/-! ## One chunk -/

/-- The chunk number `index` of a partition. -/
structure ChunkOf (ctx : SnapshotChunkBuildContext) (index : Nat)
    (chunk : BroadcasterSnapshotChunk Sim) : Prop where
  snapshotId : chunk.snapshotId = ctx.snapshotId
  index_lt : index < 2 ^ 32
  chunkIndex : chunk.chunkIndex.toNat = index
  backends : chunk.partitions.map (·.backend) = [ctx.backend]
  wellPlaced : ∀ p ∈ chunk.partitions, p.WellPlaced

/-- A chunk of one partition is made when the partition is well placed. -/
theorem chunk_new_singleton {snapshotId : String} {chunkIndex : UInt32}
    {partition : BroadcasterSnapshotPartition Sim} {chunk : BroadcasterSnapshotChunk Sim} :
    BroadcasterSnapshotChunk.new snapshotId chunkIndex [partition] = .ok chunk ↔
      partition.WellPlaced ∧ chunk = { snapshotId, chunkIndex, partitions := [partition] } := by
  have hsort : [partition].insertionSort (fun a b => (compare a.backend b.backend).isLE) =
      [partition] := rfl
  rw [BroadcasterSnapshotChunk.new, hsort, check_bind_eq_ok, validateSnapshotChunkPartitions_eq_ok,
    pure_eq_ok]
  simp [eq_comm]

theorem snapshotChunk_eq_ok {ctx : SnapshotChunkBuildContext} {index : Nat}
    {partition : BroadcasterSnapshotPartition Sim} {chunk : BroadcasterSnapshotChunk Sim}
    (hbackend : partition.backend = ctx.backend)
    (h : ctx.snapshotChunk index partition = .ok chunk) :
    ChunkOf ctx index chunk ∧ chunk.partitions = [partition] := by
  rw [SnapshotChunkBuildContext.snapshotChunk, check_bind_eq_ok, ensure_eq_ok, mapError_eq_ok,
    chunk_new_singleton] at h
  obtain ⟨hlt, hwell, rfl⟩ := h
  refine ⟨⟨rfl, hlt, ?_, by simp [hbackend], by simpa using hwell⟩, rfl⟩
  exact UInt32.toNat_ofNat_of_lt hlt

/-! ## The packing loop

The loop is one for messages and for states: it tries the next item together with the ones that
wait, and closes a chunk when they are too many. What is in the chunks and what waits are the items
so far, in order. -/

section

variable {fit : Nat → List α → SyncStatuses → Except SnapshotError Bool}
  {chunk : Nat → List α → SyncStatuses → Except SnapshotError (BroadcasterSnapshotChunk Sim)}
  {exceeds : α → SnapshotError} {baseChunkIndex : Nat}

/-- One turn: the item joins the waiting ones, or those become a chunk and it waits alone. -/
theorem pack_cases {buffer buffer' : ChunkBuffer Sim α} {item : α}
    (h : buffer.pack fit chunk exceeds baseChunkIndex item = .ok buffer') :
    buffer' = { buffer with items := buffer.items ++ [item] } ∨
    ∃ next, chunk (baseChunkIndex + buffer.chunks.length) buffer.items buffer.syncStatuses =
        .ok next ∧
      buffer' = { chunks := buffer.chunks ++ [next], items := [item], syncStatuses := ∅ } := by
  unfold ChunkBuffer.pack at h
  obtain ⟨fits, -, h⟩ := bind_eq_ok.mp h
  cases fits with
  | true =>
    simp only [if_true, pure_eq_ok] at h
    exact .inl h.symm
  | false =>
    simp only [Bool.false_eq_true, if_false] at h
    split at h
    case isTrue => cases h
    case isFalse =>
      obtain ⟨next, hnext, h⟩ := bind_eq_ok.mp h
      rw [pure_eq_ok] at h
      exact .inr ⟨next, hnext, h.symm⟩

/-- The end of the loop makes a chunk of what waits, if there is anything. -/
theorem close_cases {buffer : ChunkBuffer Sim α} {chunks : List (BroadcasterSnapshotChunk Sim)}
    (h : buffer.close chunk baseChunkIndex = .ok chunks) :
    (buffer.items = [] ∧ buffer.syncStatuses.isEmpty = true ∧ chunks = buffer.chunks) ∨
    ∃ last, chunk (baseChunkIndex + buffer.chunks.length) buffer.items buffer.syncStatuses =
        .ok last ∧ chunks = buffer.chunks ++ [last] ∧
      (buffer.items = [] → buffer.syncStatuses.isEmpty = false) := by
  unfold ChunkBuffer.close at h
  split at h
  case isTrue hleft =>
    obtain ⟨last, hlast, h⟩ := bind_eq_ok.mp h
    rw [pure_eq_ok] at h
    refine .inr ⟨last, hlast, h.symm, fun hitems => ?_⟩
    simpa [hitems] using hleft
  case isFalse hnone =>
    rw [pure_eq_ok] at h
    simp only [Bool.or_eq_true, Bool.not_eq_true', not_or, Bool.not_eq_false] at hnone
    exact .inl ⟨List.isEmpty_iff.mp hnone.1, hnone.2, h.symm⟩

/-- The chunks are numbered from `baseChunkIndex` on; as long as there is none, all items are
waiting and the sync statuses are still to be sent. -/
structure ChunkBuffer.Packed (ctx : SnapshotChunkBuildContext) (baseChunkIndex : Nat)
    (syncStatuses : SyncStatuses) (buffer : ChunkBuffer Sim α) (done : List α) : Prop where
  chunkOf : ∀ j c, buffer.chunks[j]? = some c → ChunkOf ctx (baseChunkIndex + j) c
  items : buffer.chunks = [] → buffer.items = done
  statuses : buffer.chunks = [] → buffer.syncStatuses = syncStatuses
  chunks_eq_nil : done = [] → buffer.chunks = []

variable {ctx : SnapshotChunkBuildContext} {syncStatuses : SyncStatuses}

/-- The loop begins with no chunk and nothing that waits. -/
theorem packed_start : ChunkBuffer.Packed ctx baseChunkIndex syncStatuses
    ({ chunks := [], items := [], syncStatuses } : ChunkBuffer Sim α) [] :=
  ⟨by simp, fun _ => rfl, fun _ => rfl, fun _ => rfl⟩

theorem chunkOf_append_singleton {chunks : List (BroadcasterSnapshotChunk Sim)}
    {next : BroadcasterSnapshotChunk Sim}
    (hchunks : ∀ j c, chunks[j]? = some c → ChunkOf ctx (baseChunkIndex + j) c)
    (hnext : ChunkOf ctx (baseChunkIndex + chunks.length) next) :
    ∀ j c, (chunks ++ [next])[j]? = some c → ChunkOf ctx (baseChunkIndex + j) c := by
  intro j c hc
  rw [List.getElem?_append] at hc
  split at hc
  case isTrue => exact hchunks j c hc
  case isFalse hle =>
    rw [List.getElem?_singleton] at hc
    split at hc
    case isTrue heq =>
      cases hc
      rwa [show j = chunks.length by omega]
    case isFalse => cases hc

/-- The chunk builder numbers its chunk as it is told. -/
def BuildsChunks (ctx : SnapshotChunkBuildContext)
    (chunk : Nat → List α → SyncStatuses → Except SnapshotError (BroadcasterSnapshotChunk Sim)) :
    Prop :=
  ∀ index items syncStatuses c, chunk index items syncStatuses = .ok c → ChunkOf ctx index c

/-- **One item is packed.** -/
theorem ChunkBuffer.Packed.pack {buffer buffer' : ChunkBuffer Sim α} {done : List α} {item : α}
    (hbuilds : BuildsChunks ctx chunk)
    (hpacked : buffer.Packed ctx baseChunkIndex syncStatuses done)
    (h : buffer.pack fit chunk exceeds baseChunkIndex item = .ok buffer') :
    buffer'.Packed ctx baseChunkIndex syncStatuses (done ++ [item]) := by
  obtain rfl | ⟨next, hnext, rfl⟩ := pack_cases h
  · refine ⟨hpacked.chunkOf, fun hnil => ?_, hpacked.statuses, by simp⟩
    rw [← hpacked.items hnil]
  · exact ⟨chunkOf_append_singleton hpacked.chunkOf (hbuilds _ _ _ _ hnext), by simp, by simp,
      by simp⟩

/-- All items are packed, by induction on the list. -/
theorem ChunkBuffer.Packed.packAll {buffer buffer' : ChunkBuffer Sim α} {done items : List α}
    (hbuilds : BuildsChunks ctx chunk)
    (hpacked : buffer.Packed ctx baseChunkIndex syncStatuses done)
    (h : items.foldlM (ChunkBuffer.pack fit chunk exceeds baseChunkIndex) buffer = .ok buffer') :
    buffer'.Packed ctx baseChunkIndex syncStatuses (done ++ items) := by
  refine foldlM_induction (fun pre c => c.Packed ctx baseChunkIndex syncStatuses (done ++ pre))
    (by simpa using hpacked) ?_ h
  intro pre item c c' _ hc hstep
  rw [← List.append_assoc]
  exact hc.pack hbuilds hstep

/-- The finished chunks of `items`. -/
structure Chunked (ctx : SnapshotChunkBuildContext) (baseChunkIndex : Nat)
    (syncStatuses : SyncStatuses) (chunks : List (BroadcasterSnapshotChunk Sim))
    (items : List α) : Prop where
  chunkOf : ∀ j c, chunks[j]? = some c → ChunkOf ctx (baseChunkIndex + j) c
  eq_nil_iff : chunks = [] ↔ items = [] ∧ syncStatuses.isEmpty = true

/-- **Closing.** There is no chunk only when there was nothing to send. -/
theorem ChunkBuffer.Packed.close {buffer : ChunkBuffer Sim α} {done : List α}
    {chunks : List (BroadcasterSnapshotChunk Sim)} (hbuilds : BuildsChunks ctx chunk)
    (hpacked : buffer.Packed ctx baseChunkIndex syncStatuses done)
    (h : buffer.close chunk baseChunkIndex = .ok chunks) :
    Chunked ctx baseChunkIndex syncStatuses chunks done := by
  obtain ⟨hitems, hempty, rfl⟩ | ⟨last, hlast, rfl, hne⟩ := close_cases h
  · refine ⟨hpacked.chunkOf, fun hnil => ?_, fun hnone => hpacked.chunks_eq_nil hnone.1⟩
    exact ⟨hpacked.items hnil ▸ hitems, hpacked.statuses hnil ▸ hempty⟩
  · refine ⟨chunkOf_append_singleton hpacked.chunkOf (hbuilds _ _ _ _ hlast),
      iff_of_false (by simp) fun ⟨hdone, hstatuses⟩ => ?_⟩
    have hnil := hpacked.chunks_eq_nil hdone
    have hleft := hne ((hpacked.items hnil).trans hdone)
    rw [hpacked.statuses hnil, hstatuses] at hleft
    cases hleft

end

/-! ## Partitions -/

section

variable {serialisedLen : SerialisedLen Sim} {ctx : SnapshotChunkBuildContext}
  {baseChunkIndex : Nat}

theorem buildsChunks_messagesChunk :
    BuildsChunks ctx (@SnapshotChunkBuildContext.messagesChunk Sim ctx) :=
  fun _ _ _ _ h => (snapshotChunk_eq_ok rfl h).1

theorem buildsChunks_statesChunk :
    BuildsChunks ctx (@SnapshotChunkBuildContext.statesChunk Sim ctx) :=
  fun _ _ _ _ h => (snapshotChunk_eq_ok rfl h).1

/-- The messages of the chunks grow by those of the last one. -/
theorem chunkMessages_append_singleton {chunks : List (BroadcasterSnapshotChunk Sim)}
    {next : BroadcasterSnapshotChunk Sim} {index : Nat} {messages : List BroadcasterProtocolMessage}
    {syncStatuses : SyncStatuses} (h : ctx.messagesChunk index messages syncStatuses = .ok next) :
    chunkMessages (chunks ++ [next]) = chunkMessages chunks ++ messages := by
  obtain ⟨-, hpartitions⟩ := snapshotChunk_eq_ok rfl h
  rw [chunkMessages, List.flatMap_append, List.flatMap_singleton, hpartitions,
    List.flatMap_singleton]
  rfl

/-- Packing moves fragments but keeps all of them, in order. -/
theorem packFragments_messages {buffer buffer' : ChunkBuffer Sim BroadcasterProtocolMessage}
    {fragments : List BroadcasterProtocolMessage}
    (h : fragments.foldlM (packFragment serialisedLen ctx baseChunkIndex) buffer = .ok buffer') :
    chunkMessages buffer'.chunks ++ buffer'.items =
      chunkMessages buffer.chunks ++ buffer.items ++ fragments := by
  refine foldlM_induction (fun pre c => chunkMessages c.chunks ++ c.items =
    chunkMessages buffer.chunks ++ buffer.items ++ pre) (by simp) ?_ h
  intro pre fragment c c' _ hc hstep
  unfold packFragment at hstep
  rw [← List.append_assoc, ← hc]
  obtain rfl | ⟨next, hnext, rfl⟩ := pack_cases hstep
  · rw [List.append_assoc]
  · rw [chunkMessages_append_singleton hnext]

/-- The end of the loop puts the waiting messages behind the others. -/
theorem close_messages {buffer : ChunkBuffer Sim BroadcasterProtocolMessage}
    {chunks : List (BroadcasterSnapshotChunk Sim)}
    (h : buffer.close ctx.messagesChunk baseChunkIndex = .ok chunks) :
    chunkMessages chunks = chunkMessages buffer.chunks ++ buffer.items := by
  obtain ⟨hitems, -, rfl⟩ | ⟨last, hlast, rfl, -⟩ := close_cases h
  · rw [hitems, List.append_nil]
  · exact chunkMessages_append_singleton hlast

/-- Chunks of states hold no raw message. -/
theorem chunkMessages_states {states : List (BroadcasterStateEntry Sim)}
    {buffer buffer' : ChunkBuffer Sim (BroadcasterStateEntry Sim)}
    {chunks : List (BroadcasterSnapshotChunk Sim)}
    (hbuffer : chunkMessages buffer.chunks = [])
    (hfold : states.foldlM (packState serialisedLen ctx baseChunkIndex) buffer = .ok buffer')
    (hclose : buffer'.close ctx.statesChunk baseChunkIndex = .ok chunks) :
    chunkMessages chunks = [] := by
  have happend : ∀ (cs : List (BroadcasterSnapshotChunk Sim)) next index states syncStatuses,
      ctx.statesChunk index states syncStatuses = .ok next → chunkMessages cs = [] →
      chunkMessages (cs ++ [next]) = [] := by
    intro cs next index states syncStatuses hnext hcs
    obtain ⟨-, hpartitions⟩ := snapshotChunk_eq_ok rfl hnext
    rw [chunkMessages, List.flatMap_append, List.flatMap_singleton, hpartitions,
      List.flatMap_singleton]
    rw [chunkMessages] at hcs
    rw [hcs]
    rfl
  have hfinal : chunkMessages buffer'.chunks = [] := by
    refine foldlM_induction (fun _ c => chunkMessages c.chunks = []) hbuffer ?_ hfold
    intro pre state c c' _ hc hstep
    unfold packState at hstep
    obtain rfl | ⟨next, hnext, rfl⟩ := pack_cases hstep
    · exact hc
    · exact happend _ _ _ _ _ hnext hc
  obtain ⟨-, -, rfl⟩ | ⟨last, hlast, rfl, -⟩ := close_cases hclose
  · exact hfinal
  · exact happend _ _ _ _ _ hlast hfinal

end

end TychoSimulationServer
