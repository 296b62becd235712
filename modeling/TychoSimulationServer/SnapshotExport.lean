import TychoSimulationServer.SnapshotCache
import TychoSimulationServer.SnapshotPacking
import TychoSimulationServer.Tracker

/-!
# Exporting a snapshot

A ready cache is exported as a list of payloads: a `SnapshotStart` that declares the configured
backends and the number of chunks, the chunks, and a `SnapshotEnd`. The exports of several caches
are joined into one. A consumer boots from the payloads by feeding them, numbered from one on, to a
fresh tracker, and has to be live when the last one was observed.

The tracker insists on a partition of every declared backend. The exporter declares every
configured backend, but it writes a chunk only when there is something to write.
-/

namespace TychoSimulationServer

open Fallible

variable {Sim : Type}

/-! ## Export

An export turns a pinned copy of the partitions into a start, the chunks of the backends in order,
and an end. -/

/-- `BroadcasterSnapshotSource`. -/
structure BroadcasterSnapshotSource (Sim : Type) where
  streamId : String
  snapshotId : String
  partitions : Partitions Sim

/-- `BroadcasterSnapshotExport`. -/
structure BroadcasterSnapshotExport (Sim : Type) where
  streamId : String
  snapshotId : String
  maxPayloadBytes : Nat
  payloads : List (BroadcasterPayload Sim)
deriving DecidableEq

/-- What the cache exports. -/
def BroadcasterSnapshotCache.snapshotSource (cache : BroadcasterSnapshotCache Sim) :
    BroadcasterSnapshotSource Sim :=
  { streamId := cache.inner.streamId
    snapshotId := cache.inner.snapshotId
    partitions := cache.inner.partitions }

/-- `pin_snapshot_source`. -/
def BroadcasterSnapshotCache.pinSnapshotSource (cache : BroadcasterSnapshotCache Sim) :
    Option (BroadcasterSnapshotSource Sim) :=
  if cache.isReady then some cache.snapshotSource else none

section

variable (serialisedLen : SerialisedLen Sim)

/-- The context in which the chunks of one backend are built. -/
def BroadcasterSnapshotSource.chunkContext (source : BroadcasterSnapshotSource Sim)
    (backend : BroadcasterBackend) (partition : BroadcasterPartitionState Sim)
    (maxPayloadBytes : Nat) : SnapshotChunkBuildContext :=
  { streamId := source.streamId
    snapshotId := source.snapshotId
    backend
    blockNumber := partition.blockNumber.getD 0
    maxPayloadBytes }

/-- One turn of the loop of `build_snapshot_chunks`. -/
def appendBackendChunks (source : BroadcasterSnapshotSource Sim) (maxPayloadBytes : Nat)
    (chunks : List (BroadcasterSnapshotChunk Sim)) (backend : BroadcasterBackend) :
    Except SnapshotError (List (BroadcasterSnapshotChunk Sim)) :=
  match source.partitions[backend]? with
  | none => .ok chunks
  | some partition => do
    let more ← buildPartitionSnapshotChunks serialisedLen
      (source.chunkContext backend partition maxPayloadBytes) chunks.length partition
    return chunks ++ more

/-- `build_snapshot_chunks`. -/
def buildSnapshotChunks (source : BroadcasterSnapshotSource Sim)
    (configuredBackends : List BroadcasterBackend) (maxPayloadBytes : Nat) :
    Except SnapshotError (List (BroadcasterSnapshotChunk Sim)) :=
  configuredBackends.foldlM (appendBackendChunks serialisedLen source maxPayloadBytes) []

/-- A start, the chunks, and the end. -/
def snapshotPayloads (start : BroadcasterSnapshotStart)
    (chunks : List (BroadcasterSnapshotChunk Sim)) : List (BroadcasterPayload Sim) :=
  .snapshotStart start :: (chunks.map .snapshotChunk ++
    [.snapshotEnd { snapshotId := start.snapshotId }])

/-- `export_snapshot_source`. -/
def BroadcasterSnapshotCache.exportSnapshotSource (cache : BroadcasterSnapshotCache Sim)
    (source : BroadcasterSnapshotSource Sim) (maxPayloadBytes : Nat) :
    Except SnapshotError (BroadcasterSnapshotExport Sim) := do
  let chunks ← buildSnapshotChunks serialisedLen source cache.configuredBackends maxPayloadBytes
  let start ← (BroadcasterSnapshotStart.new source.snapshotId cache.chainId
    cache.configuredBackends (.ofNat chunks.length)).mapError .contract
  let payloads := snapshotPayloads start chunks
  forM payloads.zipIdx fun (payload, index) =>
    withContext s!"snapshot payload {index} exceeds byte cap"
      (ensurePayloadFits serialisedLen source.streamId (.ofNat (index + 1)) payload maxPayloadBytes)
  return { streamId := source.streamId, snapshotId := source.snapshotId, maxPayloadBytes, payloads }

end

/-! ## Joining exports

Exports of several caches are joined into one: the chunks are renumbered in a row, and one start
declares the backends of all. -/

/-- The backends and chunks collected from the exports so far. -/
structure SnapshotExportParts (Sim : Type) where
  backends : List BroadcasterBackend
  chunks : List (BroadcasterSnapshotChunk Sim)

/-- Collect one payload. -/
def SnapshotExportParts.collect (chainId : UInt64) (snapshotId : String)
    (parts : SnapshotExportParts Sim) (payload : BroadcasterPayload Sim) :
    Except SnapshotError (SnapshotExportParts Sim) :=
  match payload with
  | .snapshotStart start => do
    let (found, foundChain) := (start.snapshotId, start.chainId)
    ensure (start.snapshotId = snapshotId)
      (.text s!"snapshot_start id mismatch: expected {snapshotId}, found {found}")
    ensure (start.chainId = chainId)
      (.text s!"snapshot_start chain_id mismatch: expected {chainId}, found {foundChain}")
    return { parts with backends := parts.backends ++ start.backends }
  | .snapshotChunk chunk => do
    let found := chunk.snapshotId
    ensure (chunk.snapshotId = snapshotId)
      (.text s!"snapshot_chunk id mismatch: expected {snapshotId}, found {found}")
    return { parts with chunks := parts.chunks ++ [chunk] }
  | .snapshotEnd finish => do
    let found := finish.snapshotId
    ensure (finish.snapshotId = snapshotId)
      (.text s!"snapshot_end id mismatch: expected {snapshotId}, found {found}")
    return parts
  | other =>
    let kind := other.kind.asStr
    .error (.text s!"snapshot export contains non-snapshot payload {kind}")

/-- `collect_snapshot_export_parts`. -/
def collectSnapshotExportParts (chainId : UInt64) (first : BroadcasterSnapshotExport Sim)
    (parts : SnapshotExportParts Sim) (exported : BroadcasterSnapshotExport Sim) :
    Except SnapshotError (SnapshotExportParts Sim) := do
  let (expected, found) := (first.streamId, exported.streamId)
  ensure (exported.streamId = first.streamId)
    (.text s!"snapshot export stream_id mismatch: expected {expected}, found {found}")
  let (expected, found) := (first.snapshotId, exported.snapshotId)
  ensure (exported.snapshotId = first.snapshotId)
    (.text s!"snapshot export snapshot_id mismatch: expected {expected}, found {found}")
  let (expected, found) := (first.maxPayloadBytes, exported.maxPayloadBytes)
  ensure (exported.maxPayloadBytes = first.maxPayloadBytes)
    (.text s!"snapshot export max_payload_bytes mismatch: expected {expected}, found {found}")
  exported.payloads.foldlM (·.collect chainId first.snapshotId) parts

/-- Number the collected chunks anew, by their place in the joined snapshot. -/
def renumberChunks (snapshotId : String) (chunks : List (BroadcasterSnapshotChunk Sim)) :
    Except SnapshotError (List (BroadcasterSnapshotChunk Sim)) :=
  chunks.foldlM (fun renumbered chunk => do
    let next ← (BroadcasterSnapshotChunk.new snapshotId (.ofNat renumbered.length)
      chunk.partitions).mapError .contract
    return renumbered ++ [next]) []

/-- `combine_snapshot_exports`. -/
def combineSnapshotExports (chainId : UInt64) (exports : List (BroadcasterSnapshotExport Sim)) :
    Except SnapshotError (BroadcasterSnapshotExport Sim) :=
  match exports with
  | [] => .error (.text "cannot combine empty broadcaster snapshot export set")
  | first :: _ => do
    let parts ← exports.foldlM (collectSnapshotExportParts chainId first)
      { backends := [], chunks := [] }
    let start ← (BroadcasterSnapshotStart.new first.snapshotId chainId
      (sortedBackends parts.backends) (.ofNat parts.chunks.length)).mapError .contract
    let chunks ← renumberChunks first.snapshotId parts.chunks
    return { first with payloads := snapshotPayloads start chunks }

/-! ## Booting

An export boots a client when the tracker takes its payloads, numbered from one, to a live state.
That is a statement about positions, and about whether each declared backend has a chunk. -/

/-- The payloads as the envelopes number one, two, three and so on of a stream. -/
def numberPayloads (streamId : String) (payloads : List (BroadcasterPayload Sim)) :
    List (BroadcasterEnvelope Sim) :=
  payloads.zipIdx.map fun (payload, index) =>
    { streamId, messageSeq := .ofNat (index + 1), payload }

/-- A fresh tracker accepts all payloads and is live in the end, with the declared backends. -/
def BroadcasterSnapshotExport.Boots (exported : BroadcasterSnapshotExport Sim) (chainId : UInt64)
    (declared : List BroadcasterBackend) : Prop :=
  ∃ tracker, observeAll .new (numberPayloads exported.streamId exported.payloads) = .ok tracker ∧
    tracker.state = .live exported.streamId chainId exported.snapshotId declared.toFinset

/-- The backends that some chunks have partitions for. -/
def backendsOfChunks (chunks : List (BroadcasterSnapshotChunk Sim)) : List BroadcasterBackend :=
  chunks.flatMap fun chunk => chunk.partitions.map (·.backend)

/-- Chunks of one snapshot with valid partitions, numbered by their place as a `u32`. -/
def ChunksInOrder (snapshotId : String) (chunks : List (BroadcasterSnapshotChunk Sim)) : Prop :=
  ∀ j (chunk : BroadcasterSnapshotChunk Sim), chunks[j]? = some chunk →
    chunk.snapshotId = snapshotId ∧ chunk.chunkIndex = .ofNat j ∧
      (chunk.partitions.map (·.backend)).Nodup ∧ ∀ p ∈ chunk.partitions, p.WellPlaced

section

variable {start : BroadcasterSnapshotStart} {chunks : List (BroadcasterSnapshotChunk Sim)}
  {streamId : String}

/-- The envelope of a chunk. -/
def chunkEnvelope (streamId : String) (entry : BroadcasterSnapshotChunk Sim × Nat) :
    BroadcasterEnvelope Sim :=
  { streamId, messageSeq := .ofNat (entry.2 + 2), payload := .snapshotChunk entry.1 }

/-- The envelope of the end. -/
def endEnvelope (streamId : String) (snapshotId : String) (chunkCount : Nat) :
    BroadcasterEnvelope Sim :=
  { streamId, messageSeq := .ofNat (chunkCount + 2), payload := .snapshotEnd { snapshotId } }

/-- The start is number one, the chunks follow, the end is last. -/
theorem numberPayloads_snapshotPayloads :
    numberPayloads streamId (snapshotPayloads start chunks) =
      { streamId, messageSeq := 1, payload := .snapshotStart start } ::
      (chunks.zipIdx.map (chunkEnvelope streamId) ++
        [endEnvelope streamId start.snapshotId chunks.length]) := by
  unfold numberPayloads snapshotPayloads chunkEnvelope endEnvelope
  simp only [List.zipIdx_cons, List.zipIdx_append, List.zipIdx_map, List.length_map, List.map_cons,
    List.map_append, List.map_map, List.zipIdx_succ, Nat.zero_add]
  rfl

/-- The envelope at a place has the chunk of that place. -/
theorem getElem?_chunkEnvelopes {i : Nat} {e : BroadcasterEnvelope Sim} :
    (chunks.zipIdx.map (chunkEnvelope streamId))[i]? = some e ↔
      ∃ chunk, chunks[i]? = some chunk ∧ e = chunkEnvelope streamId (chunk, i) := by
  rw [List.getElem?_map, List.getElem?_zipIdx]
  rcases chunks[i]? with _ | chunk
  · simp
  · simp [eq_comm]

/-- The envelopes observe the backends of the chunks. -/
theorem mem_observedIn_chunkEnvelopes {b : BroadcasterBackend} :
    b ∈ observedIn (chunks.zipIdx.map (chunkEnvelope streamId)) ↔ b ∈ backendsOfChunks chunks := by
  rw [mem_observedIn, backendsOfChunks, List.mem_flatMap]
  constructor
  · rintro ⟨e, he, hb⟩
    obtain ⟨i, he⟩ := List.mem_iff_getElem?.mp he
    obtain ⟨chunk, hchunk, rfl⟩ := getElem?_chunkEnvelopes.mp he
    exact ⟨chunk, List.mem_of_getElem? hchunk, List.mem_toFinset.mp hb⟩
  · rintro ⟨chunk, hchunk, hb⟩
    obtain ⟨i, hi⟩ := List.mem_iff_getElem?.mp hchunk
    exact ⟨_, List.mem_of_getElem? (getElem?_chunkEnvelopes.mpr ⟨chunk, hi, rfl⟩),
      List.mem_toFinset.mpr hb⟩

/-- As long as there are fewer than `2 ^ 32` chunks, no sequence number wraps. -/
theorem numbered_chunkEnvelopes {snapshotId : String} (hlen : chunks.length < 2 ^ 32) :
    Numbered streamId 2 (chunks.zipIdx.map (chunkEnvelope streamId) ++
      [endEnvelope streamId snapshotId chunks.length]) := by
  have hseq : ∀ n, n ≤ chunks.length → (UInt64.ofNat (n + 2)).toNat = 2 + n := by
    intro n hn
    have hlt : n + 2 < 2 ^ 64 := by omega
    have hexact : (UInt64.ofNat (n + 2)).toNat = n + 2 := UInt64.toNat_ofNat_of_lt hlt
    rw [hexact, Nat.add_comm]
  intro i e he
  rw [List.getElem?_append] at he
  split at he
  case isTrue hi =>
    obtain ⟨chunk, hchunk, rfl⟩ := getElem?_chunkEnvelopes.mp he
    have hle : i ≤ chunks.length := (List.getElem?_eq_some_iff.mp hchunk).1.le
    refine ⟨rfl, hseq i hle, ?_⟩
    change (UInt64.ofNat (i + 2)).toNat ≠ _
    rw [hseq i hle]
    omega
  case isFalse hi =>
    rw [List.getElem?_singleton] at he
    split at he
    case isFalse => cases he
    case isTrue h0 =>
      cases he
      rw [List.length_map, List.length_zipIdx] at hi h0
      have heq : i = chunks.length := by omega
      subst heq
      refine ⟨rfl, hseq _ le_rfl, ?_⟩
      change (UInt64.ofNat (chunks.length + 2)).toNat ≠ _
      rw [hseq _ le_rfl]
      omega

/-- The chunks are the chunk run the start announces, unless their number wrapped. -/
theorem isChunkRun_chunkEnvelopes {declared : Finset BroadcasterBackend}
    (horder : ChunksInOrder start.snapshotId chunks)
    (hdeclared : ∀ b ∈ backendsOfChunks chunks, b ∈ declared) (hlen : chunks.length < 2 ^ 32) :
    IsChunkRun start.snapshotId declared chunks.length 0
      (chunks.zipIdx.map (chunkEnvelope streamId)) := by
  intro i e he
  obtain ⟨chunk, hchunk, rfl⟩ := getElem?_chunkEnvelopes.mp he
  obtain ⟨hid, hindex, -, -⟩ := horder i chunk hchunk
  have hlt : i < chunks.length := (List.getElem?_eq_some_iff.mp hchunk).1
  refine ⟨chunk, rfl, hid, ?_, by omega, fun p hp => hdeclared _ ?_⟩
  · rw [hindex, Nat.zero_add]
    exact UInt32.toNat_ofNat_of_lt (hlt.trans hlen)
  · exact List.mem_flatMap.mpr ⟨chunk, List.mem_of_getElem? hchunk, List.mem_map_of_mem hp⟩

/-- The payloads of an export: a start and its chunks. -/
structure SnapshotSession (exported : BroadcasterSnapshotExport Sim)
    (start : BroadcasterSnapshotStart) (chunks : List (BroadcasterSnapshotChunk Sim)) : Prop where
  payloads : exported.payloads = snapshotPayloads start chunks
  snapshotId : start.snapshotId = exported.snapshotId
  nodup : start.backends.Nodup
  totalChunks : start.totalChunks = .ofNat chunks.length
  inOrder : ChunksInOrder start.snapshotId chunks
  declared : ∀ b ∈ backendsOfChunks chunks, b ∈ start.backends

/-- What the tracker remembers after the start. -/
def startedState (streamId : String) (start : BroadcasterSnapshotStart) :
    SnapshotObservationState :=
  { streamId, chainId := start.chainId, snapshotId := start.snapshotId
    declaredBackends := start.backends.toFinset, observedBackends := ∅
    nextChunkIndex := 0, totalChunks := start.totalChunks }

/-- After the start, the tracker has the chunks and the end before it. -/
theorem observeAll_snapshotPayloads (hnodup : start.backends.Nodup)
    {tracker : BroadcasterSubscriptionTracker} :
    observeAll .new (numberPayloads streamId (snapshotPayloads start chunks)) = .ok tracker ↔
      observeAll ⟨.snapshot (startedState streamId start), some 2⟩
        (chunks.zipIdx.map (chunkEnvelope streamId) ++
          [endEnvelope streamId start.snapshotId chunks.length]) = .ok tracker := by
  rw [numberPayloads_snapshotPayloads, BroadcasterSubscriptionTracker.new, observeAll_cons_ok]
  simp only [observe_awaiting_ok, BroadcasterPayload.snapshotStart.injEq]
  constructor
  · rintro ⟨_, ⟨_, rfl, -, -, rfl⟩, hrest⟩
    exact hrest
  · intro hrest
    exact ⟨_, ⟨start, rfl, hnodup, by decide, rfl⟩, hrest⟩

/-- The envelopes of chunks in order have valid contents. -/
theorem validContents_chunkEnvelopes (horder : ChunksInOrder start.snapshotId chunks) :
    ∀ e ∈ chunks.zipIdx.map (chunkEnvelope streamId) ++
      [endEnvelope streamId start.snapshotId chunks.length], e.payload.ValidContents := by
  intro e he
  rcases List.mem_append.mp he with he | he
  · obtain ⟨i, he⟩ := List.mem_iff_getElem?.mp he
    obtain ⟨chunk, hchunk, rfl⟩ := getElem?_chunkEnvelopes.mp he
    exact (horder i chunk hchunk).2.2
  · obtain rfl := List.mem_singleton.mp he
    trivial

/-- **When a snapshot boots**: fewer than `2 ^ 32` chunks, and one of every declared backend. -/
theorem SnapshotSession.boots_iff {exported : BroadcasterSnapshotExport Sim}
    (session : SnapshotSession exported start chunks) :
    exported.Boots start.chainId start.backends ↔
      chunks.length < 2 ^ 32 ∧ ∀ b ∈ start.backends, b ∈ backendsOfChunks chunks := by
  have hchunks : ∀ e ∈ chunks.zipIdx.map (chunkEnvelope exported.streamId),
      ∃ chunk, e.payload = .snapshotChunk chunk := by
    intro e he
    obtain ⟨entry, -, rfl⟩ := List.mem_map.mp he
    exact ⟨entry.1, rfl⟩
  have hend : (endEnvelope exported.streamId start.snapshotId chunks.length :
      BroadcasterEnvelope Sim).payload = .snapshotEnd { snapshotId := start.snapshotId } := rfl
  have hrest := isSnapshotRest_append_end (s := startedState exported.streamId start) hchunks hend
  rw [BroadcasterSnapshotExport.Boots, session.payloads]
  simp only [observeAll_snapshotPayloads session.nodup]
  constructor
  · rintro ⟨tracker, hok, -⟩
    obtain ⟨-, -, hsession⟩ := observeAll_snapshot.mp ⟨tracker, hok⟩
    obtain ⟨-, hlen, hsub⟩ := hrest.mp hsession
    have hlt := start.totalChunks.toNat_lt
    rw [List.length_map, List.length_zipIdx] at hlen
    refine ⟨?_, fun b hb => ?_⟩
    · have hcount : 0 + chunks.length = start.totalChunks.toNat := hlen
      omega
    · have hb' := hsub (List.mem_toFinset.mpr hb)
      rw [startedState, Finset.empty_union] at hb'
      exact mem_observedIn_chunkEnvelopes.mp hb'
  · rintro ⟨hlen, hall⟩
    -- the count was not cut off, so the start announces all chunks
    have hexact : start.totalChunks.toNat = chunks.length := by
      rw [session.totalChunks]
      exact UInt32.toNat_ofNat_of_lt hlen
    have hrun : IsChunkRun start.snapshotId start.backends.toFinset start.totalChunks.toNat 0
        (chunks.zipIdx.map (chunkEnvelope exported.streamId)) := by
      rw [hexact]
      exact isChunkRun_chunkEnvelopes session.inOrder
        (fun b hb => List.mem_toFinset.mpr (session.declared b hb)) hlen
    have hsession := hrest.mpr ⟨hrun, by simp [startedState, hexact], fun b hb => by
      rw [startedState, Finset.empty_union]
      exact mem_observedIn_chunkEnvelopes.mpr (hall b (List.mem_toFinset.mp hb))⟩
    obtain ⟨tracker, hok⟩ : ∃ tracker, observeAll
        ⟨.snapshot (startedState exported.streamId start), some 2⟩
        (chunks.zipIdx.map (chunkEnvelope exported.streamId) ++
          [endEnvelope exported.streamId start.snapshotId chunks.length]) = .ok tracker :=
      observeAll_snapshot.mpr
        ⟨numbered_chunkEnvelopes hlen, validContents_chunkEnvelopes session.inOrder, hsession⟩
    refine ⟨tracker, hok, ?_⟩
    rw [observeAll_snapshot_state hok ⟨_, List.mem_append_right _ List.mem_cons_self, _, hend⟩,
      ← session.snapshotId]
    rfl

end

/-! ## What is exported

Each backend contributes its chunks; a backend that has nothing to send contributes none. -/

section

variable {serialisedLen : SerialisedLen Sim} {ctx : SnapshotChunkBuildContext}
  {baseChunkIndex : Nat} {partition : BroadcasterPartitionState Sim}
  {chunks : List (BroadcasterSnapshotChunk Sim)}

/-- There is nothing to send for the partition: no sync status, no decoded state unless there are
raw messages, and no raw message but blank ones that do not fit into a chunk. -/
structure Silent (serialisedLen : SerialisedLen Sim) (ctx : SnapshotChunkBuildContext)
    (partition : BroadcasterPartitionState Sim) : Prop where
  syncStatuses : partition.syncStatuses.isEmpty = true
  states : partition.messages = [] → partition.states.isEmpty = true
  messages : ∀ m ∈ partition.messages, m.isBlank = true ∧
    ctx.messagesFit serialisedLen worstCaseSnapshotChunkIndex [m] partition.syncStatuses = .ok false

/-- The loop over the messages packs the fragments of all of them; there is none exactly when all
messages vanish. -/
theorem packMessages_packed {messages : List BroadcasterProtocolMessage}
    {buffer : ChunkBuffer Sim BroadcasterProtocolMessage} {syncStatuses : SyncStatuses}
    (h : messages.foldlM (packMessage serialisedLen ctx baseChunkIndex)
      { chunks := [], items := [], syncStatuses } = .ok buffer) :
    ∃ fragments, buffer.Packed ctx baseChunkIndex syncStatuses fragments ∧
      (fragments = [] ↔ ∀ m ∈ messages, m.isBlank = true ∧
        ctx.messagesFit serialisedLen worstCaseSnapshotChunkIndex [m] syncStatuses = .ok false) := by
  refine foldlM_induction (fun pre held => ∃ fragments,
    ChunkBuffer.Packed ctx baseChunkIndex syncStatuses held fragments ∧
    (fragments = [] ↔ ∀ m ∈ pre, m.isBlank = true ∧
      ctx.messagesFit serialisedLen worstCaseSnapshotChunkIndex [m] syncStatuses = .ok false))
    ⟨[], packed_start, by simp⟩ ?_ h
  rintro pre message held held' - ⟨fragments, hpacked, hnil⟩ hstep
  obtain ⟨more, hsplit, hpack⟩ := bind_eq_ok.mp hstep
  refine ⟨fragments ++ more, hpacked.packAll buildsChunks_messagesChunk hpack, ?_⟩
  rw [List.append_eq_nil_iff, hnil, splitProtocolMessage_eq_nil hsplit, List.forall_mem_append,
    List.forall_mem_singleton]
  refine and_congr_right fun hall => ?_
  -- nothing was packed before, so the sync statuses are still waiting
  rw [hpacked.statuses (hpacked.chunks_eq_nil (hnil.mpr hall))]

/-- **The chunks of a partition**: numbered from the base on, and none when it is silent. -/
theorem buildPartition_chunked
    (h : buildPartitionSnapshotChunks serialisedLen ctx baseChunkIndex partition = .ok chunks) :
    (∀ j chunk, chunks[j]? = some chunk → ChunkOf ctx (baseChunkIndex + j) chunk) ∧
      (chunks = [] ↔ Silent serialisedLen ctx partition) := by
  unfold buildPartitionSnapshotChunks at h
  split at h
  case isTrue hnone =>
    obtain ⟨buffer, hfold, hclose⟩ := bind_eq_ok.mp h
    have hmessages := List.isEmpty_iff.mp hnone
    have hchunked := (packed_start.packAll buildsChunks_statesChunk hfold).close
      buildsChunks_statesChunk hclose
    refine ⟨hchunked.chunkOf, ?_⟩
    rw [hchunked.eq_nil_iff, List.nil_append, List.map_eq_nil_iff,
      Std.ExtTreeMap.toList_eq_nil_iff, ← Std.ExtTreeMap.isEmpty_iff]
    constructor
    · rintro ⟨hstates, hstatuses⟩
      exact ⟨hstatuses, fun _ => hstates, by simp [hmessages]⟩
    · intro hsilent
      exact ⟨hsilent.states hmessages, hsilent.syncStatuses⟩
  case isFalse hsome =>
    obtain ⟨buffer, hfold, hclose⟩ := bind_eq_ok.mp h
    obtain ⟨fragments, hpacked, hnil⟩ := packMessages_packed hfold
    have hchunked := hpacked.close buildsChunks_messagesChunk hclose
    refine ⟨hchunked.chunkOf, ?_⟩
    rw [hchunked.eq_nil_iff, hnil]
    constructor
    · rintro ⟨hall, hstatuses⟩
      exact ⟨hstatuses, fun hempty => absurd (List.isEmpty_iff.mpr hempty) hsome, hall⟩
    · intro hsilent
      exact ⟨hsilent.messages, hsilent.syncStatuses⟩

end

section

variable (serialisedLen : SerialisedLen Sim) (source : BroadcasterSnapshotSource Sim)
  (maxPayloadBytes : Nat)

/-- The source has something to send for the backend. -/
def BroadcasterSnapshotSource.Sends (backend : BroadcasterBackend) : Prop :=
  ∃ partition, source.partitions[backend]? = some partition ∧
    ¬Silent serialisedLen (source.chunkContext backend partition maxPayloadBytes) partition

end

section

variable {serialisedLen : SerialisedLen Sim} {source : BroadcasterSnapshotSource Sim}
  {maxPayloadBytes : Nat} {chunks : List (BroadcasterSnapshotChunk Sim)}
  {configuredBackends : List BroadcasterBackend}

/-- Chunks that are numbered on from others are in order behind them. -/
theorem chunksInOrder_append {snapshotId : String} {more : List (BroadcasterSnapshotChunk Sim)}
    {ctx : SnapshotChunkBuildContext} (hid : ctx.snapshotId = snapshotId)
    (hchunks : ChunksInOrder snapshotId chunks)
    (hmore : ∀ j chunk, more[j]? = some chunk → ChunkOf ctx (chunks.length + j) chunk) :
    ChunksInOrder snapshotId (chunks ++ more) := by
  intro j chunk hchunk
  rw [List.getElem?_append] at hchunk
  split at hchunk
  case isTrue => exact hchunks j chunk hchunk
  case isFalse hle =>
    have hof := hmore _ _ hchunk
    rw [Nat.add_sub_cancel' (Nat.le_of_not_lt hle)] at hof
    refine ⟨hof.snapshotId.trans hid, ?_, by simp [hof.backends], hof.wellPlaced⟩
    rw [← hof.chunkIndex, UInt32.ofNat_toNat]

/-- Chunks in a row have the backends of both parts. -/
theorem backendsOfChunks_append {more : List (BroadcasterSnapshotChunk Sim)} :
    backendsOfChunks (chunks ++ more) = backendsOfChunks chunks ++ backendsOfChunks more :=
  List.flatMap_append

/-- The chunks of one backend have that backend only. -/
theorem mem_backendsOfChunks_of_chunkOf {ctx : SnapshotChunkBuildContext} {base : Nat}
    {b : BroadcasterBackend}
    (h : ∀ j chunk, chunks[j]? = some chunk → ChunkOf ctx (base + j) chunk) :
    b ∈ backendsOfChunks chunks ↔ chunks ≠ [] ∧ b = ctx.backend := by
  rw [backendsOfChunks, List.mem_flatMap]
  constructor
  · rintro ⟨chunk, hchunk, hb⟩
    obtain ⟨j, hj⟩ := List.mem_iff_getElem?.mp hchunk
    rw [(h j chunk hj).backends, List.mem_singleton] at hb
    exact ⟨List.ne_nil_of_mem hchunk, hb⟩
  · rintro ⟨hne, rfl⟩
    obtain ⟨chunk, rest, rfl⟩ := List.exists_cons_of_ne_nil hne
    refine ⟨chunk, List.mem_cons_self, ?_⟩
    rw [(h 0 chunk rfl).backends]
    exact List.mem_singleton_self _

/-- **The chunks of a snapshot** are in order, and are of the backends that have something to
send. -/
theorem buildSnapshotChunks_spec
    (h : buildSnapshotChunks serialisedLen source configuredBackends maxPayloadBytes =
      .ok chunks) :
    ChunksInOrder source.snapshotId chunks ∧ ∀ b, b ∈ backendsOfChunks chunks ↔
      b ∈ configuredBackends ∧ source.Sends serialisedLen maxPayloadBytes b := by
  refine foldlM_induction (fun pre held => ChunksInOrder source.snapshotId held ∧
    ∀ b, b ∈ backendsOfChunks held ↔ b ∈ pre ∧ source.Sends serialisedLen maxPayloadBytes b)
    ⟨fun j chunk hchunk => by simp at hchunk, fun b => by simp [backendsOfChunks]⟩ ?_ h
  rintro pre backend held held' - ⟨horder, hmem⟩ hstep
  unfold appendBackendChunks at hstep
  rcases hpartition : source.partitions[backend]? with _ | partition
  · -- a backend without a partition has nothing to send
    rw [hpartition, Except.ok.injEq] at hstep
    subst hstep
    have hnone : ¬source.Sends serialisedLen maxPayloadBytes backend := by
      rintro ⟨partition, hsome, -⟩
      rw [hpartition] at hsome
      cases hsome
    refine ⟨horder, fun b => ?_⟩
    rw [hmem, List.mem_append, List.mem_singleton]
    constructor
    · rintro ⟨hb, hsends⟩
      exact ⟨.inl hb, hsends⟩
    · rintro ⟨hb | rfl, hsends⟩
      · exact ⟨hb, hsends⟩
      · exact absurd hsends hnone
  · rw [hpartition] at hstep
    obtain ⟨more, hbuild, hheld⟩ := bind_eq_ok.mp hstep
    rw [pure_eq_ok] at hheld
    subst hheld
    obtain ⟨hmore, hsilent⟩ := buildPartition_chunked hbuild
    -- a partition sends something exactly when it gives a chunk
    have hsends : source.Sends serialisedLen maxPayloadBytes backend ↔ more ≠ [] := by
      rw [ne_eq, hsilent]
      constructor
      · rintro ⟨other, hother, hloud⟩
        rw [hpartition, Option.some.injEq] at hother
        exact hother ▸ hloud
      · exact fun hloud => ⟨partition, hpartition, hloud⟩
    refine ⟨chunksInOrder_append rfl horder hmore, fun b => ?_⟩
    rw [backendsOfChunks_append, List.mem_append, hmem, mem_backendsOfChunks_of_chunkOf hmore,
      List.mem_append, List.mem_singleton, ← hsends, BroadcasterSnapshotSource.chunkContext]
    constructor
    · rintro (⟨hb, hb'⟩ | ⟨hb, rfl⟩)
      · exact ⟨.inl hb, hb'⟩
      · exact ⟨.inr rfl, hb⟩
    · rintro ⟨hb | rfl, hb'⟩
      · exact .inl ⟨hb, hb'⟩
      · exact .inr ⟨hb', rfl⟩

theorem snapshotStart_new_eq_ok {snapshotId : String} {chainId : UInt64}
    {backends : List BroadcasterBackend} {totalChunks : UInt32} {start : BroadcasterSnapshotStart}
    (h : BroadcasterSnapshotStart.new snapshotId chainId backends totalChunks = .ok start) :
    start.snapshotId = snapshotId ∧ start.chainId = chainId ∧ start.totalChunks = totalChunks ∧
      start.backends.Nodup ∧ ∀ b, b ∈ start.backends ↔ b ∈ backends := by
  rw [BroadcasterSnapshotStart.new, check_bind_eq_ok, validateSnapshotStartBackends,
    validateUniqueBackendEntries_eq_ok, pure_eq_ok] at h
  obtain ⟨hnodup, rfl⟩ := h
  exact ⟨rfl, rfl, rfl, hnodup, fun b => (List.perm_insertionSort _ _).mem_iff⟩

/-- **An export is a session** of the configured backends. -/
theorem exportSnapshotSource_session {cache : BroadcasterSnapshotCache Sim}
    {exported : BroadcasterSnapshotExport Sim}
    (h : cache.exportSnapshotSource serialisedLen source maxPayloadBytes = .ok exported) :
    ∃ start chunks, buildSnapshotChunks serialisedLen source cache.configuredBackends
        maxPayloadBytes = .ok chunks ∧
      SnapshotSession exported start chunks ∧ start.chainId = cache.chainId ∧
      (∀ b, b ∈ start.backends ↔ b ∈ cache.configuredBackends) ∧
      ∀ b, b ∈ backendsOfChunks chunks ↔
        b ∈ cache.configuredBackends ∧ source.Sends serialisedLen maxPayloadBytes b := by
  obtain ⟨chunks, hchunks, h⟩ := bind_eq_ok.mp h
  obtain ⟨start, hstart, h⟩ := bind_eq_ok.mp h
  rw [check_bind_eq_ok, pure_eq_ok] at h
  obtain ⟨-, rfl⟩ := h
  rw [mapError_eq_ok] at hstart
  obtain ⟨hid, hchain, htotal, hnodup, hbackends⟩ := snapshotStart_new_eq_ok hstart
  obtain ⟨horder, hmem⟩ := buildSnapshotChunks_spec hchunks
  refine ⟨start, chunks, hchunks, ⟨rfl, hid, hnodup, htotal, hid ▸ horder, fun b hb => ?_⟩, hchain,
    hbackends, hmem⟩
  exact (hbackends b).mpr ((hmem b).mp hb).1

end

/-! ## What is joined -/

section

variable {chainId : UInt64} {first exported : BroadcasterSnapshotExport Sim}
  {parts parts' : SnapshotExportParts Sim} {chunks : List (BroadcasterSnapshotChunk Sim)}

theorem collect_chunks {snapshotId : String}
    (h : (chunks.map BroadcasterPayload.snapshotChunk).foldlM (·.collect chainId snapshotId) parts =
      .ok parts') : parts' = { parts with chunks := parts.chunks ++ chunks } := by
  induction chunks generalizing parts with
  | nil =>
    cases h
    simp
  | cons chunk rest ih =>
    rw [List.map_cons, List.foldlM_cons, bind_eq_ok] at h
    obtain ⟨mid, hmid, hrest⟩ := h
    rw [SnapshotExportParts.collect, check_bind_eq_ok, pure_eq_ok] at hmid
    obtain ⟨-, rfl⟩ := hmid
    rw [ih hrest]
    simp

/-- Collecting an export adds its declared backends and its chunks. -/
theorem collectSnapshotExportParts_session {start : BroadcasterSnapshotStart}
    (session : SnapshotSession exported start chunks)
    (h : collectSnapshotExportParts chainId first parts exported = .ok parts') :
    exported.streamId = first.streamId ∧ start.chainId = chainId ∧
      parts' = { backends := parts.backends ++ start.backends, chunks := parts.chunks ++ chunks } := by
  rw [collectSnapshotExportParts, check_bind_eq_ok, check_bind_eq_ok, check_bind_eq_ok,
    ensure_eq_ok, session.payloads, snapshotPayloads, List.foldlM_cons] at h
  obtain ⟨hstream, -, -, h⟩ := h
  obtain ⟨opened, hopened, h⟩ := bind_eq_ok.mp h
  rw [List.foldlM_append] at h
  obtain ⟨filled, hfilled, hclosed⟩ := bind_eq_ok.mp h
  rw [SnapshotExportParts.collect, check_bind_eq_ok, check_bind_eq_ok, ensure_eq_ok, ensure_eq_ok,
    pure_eq_ok] at hopened
  obtain ⟨-, hchain, rfl⟩ := hopened
  obtain rfl := collect_chunks hfilled
  rw [List.foldlM_cons] at hclosed
  obtain ⟨closed, hcollect, hdone⟩ := bind_eq_ok.mp hclosed
  rw [SnapshotExportParts.collect, check_bind_eq_ok, pure_eq_ok] at hcollect
  rw [List.foldlM_nil, pure_eq_ok] at hdone
  obtain ⟨-, rfl⟩ := hcollect
  exact ⟨hstream, hchain, hdone.symm⟩

theorem snapshotChunk_new_eq_ok {snapshotId : String} {chunkIndex : UInt32}
    {partitions : List (BroadcasterSnapshotPartition Sim)} {chunk : BroadcasterSnapshotChunk Sim}
    (h : BroadcasterSnapshotChunk.new snapshotId chunkIndex partitions = .ok chunk) :
    chunk.snapshotId = snapshotId ∧ chunk.chunkIndex = chunkIndex ∧
      (chunk.partitions.map (·.backend)).Nodup ∧ (∀ p ∈ chunk.partitions, p.WellPlaced) ∧
      chunk.partitions.Perm partitions := by
  rw [BroadcasterSnapshotChunk.new, check_bind_eq_ok, validateSnapshotChunkPartitions_eq_ok,
    pure_eq_ok] at h
  obtain ⟨⟨hnodup, hwell⟩, rfl⟩ := h
  exact ⟨rfl, rfl, hnodup, hwell, List.perm_insertionSort _ _⟩

/-- Numbering the chunks anew puts them in order and keeps their backends. -/
theorem renumberChunks_spec {snapshotId : String}
    {renumbered : List (BroadcasterSnapshotChunk Sim)}
    (h : renumberChunks snapshotId chunks = .ok renumbered) :
    ChunksInOrder snapshotId renumbered ∧ renumbered.length = chunks.length ∧
      ∀ b, b ∈ backendsOfChunks renumbered ↔ b ∈ backendsOfChunks chunks := by
  refine foldlM_induction (fun pre held => ChunksInOrder snapshotId held ∧
    held.length = pre.length ∧ ∀ b, b ∈ backendsOfChunks held ↔ b ∈ backendsOfChunks pre)
    ⟨fun j chunk hchunk => by simp at hchunk, rfl, fun _ => Iff.rfl⟩ ?_ h
  rintro pre chunk held held' - ⟨horder, hlen, hmem⟩ hstep
  obtain ⟨next, hnext, hheld⟩ := bind_eq_ok.mp hstep
  rw [pure_eq_ok] at hheld
  subst hheld
  rw [mapError_eq_ok] at hnext
  obtain ⟨hid, hindex, hnodup, hwell, hperm⟩ := snapshotChunk_new_eq_ok hnext
  refine ⟨fun j other hother => ?_, by simp [hlen], fun b => ?_⟩
  · rw [List.getElem?_append] at hother
    split at hother
    case isTrue => exact horder j other hother
    case isFalse hle =>
      rw [List.getElem?_singleton] at hother
      split at hother
      case isFalse => cases hother
      case isTrue h0 =>
        cases hother
        have hj : j = held.length := by omega
        exact ⟨hid, hj ▸ hindex, hnodup, hwell⟩
  · rw [backendsOfChunks_append, backendsOfChunks_append, List.mem_append, List.mem_append, hmem]
    refine or_congr_right ?_
    simp only [backendsOfChunks, List.flatMap_singleton]
    exact (hperm.map _).mem_iff

end

/-! ## Ready caches

A cache that is ready has a block for each of its backends. That is not enough: a backend may be
ready with nothing in it. -/

section

variable (serialisedLen : SerialisedLen Sim)

/-- The cache has something to send for the backend. -/
def BroadcasterSnapshotCache.Sends (cache : BroadcasterSnapshotCache Sim) (maxPayloadBytes : Nat)
    (backend : BroadcasterBackend) : Prop :=
  cache.snapshotSource.Sends serialisedLen maxPayloadBytes backend

/-- The number of chunks the cached state is cut into. -/
def BroadcasterSnapshotCache.chunkCount (cache : BroadcasterSnapshotCache Sim)
    (maxPayloadBytes : Nat) : Nat :=
  match buildSnapshotChunks serialisedLen cache.snapshotSource cache.configuredBackends
    maxPayloadBytes with
  | .ok chunks => chunks.length
  | .error _ => 0

/-- A ready cache was exported, under some byte limit. -/
def ExportOf (member : BroadcasterSnapshotCache Sim × Nat)
    (exported : BroadcasterSnapshotExport Sim) : Prop :=
  ∃ source, member.1.pinSnapshotSource = some source ∧
    member.1.exportSnapshotSource serialisedLen source member.2 = .ok exported

end

section

variable {serialisedLen : SerialisedLen Sim}

/-- The session of a ready cache. -/
theorem ExportOf.session {member : BroadcasterSnapshotCache Sim × Nat}
    {exported : BroadcasterSnapshotExport Sim} (h : ExportOf serialisedLen member exported) :
    ∃ start chunks, SnapshotSession exported start chunks ∧ start.chainId = member.1.chainId ∧
      chunks.length = member.1.chunkCount serialisedLen member.2 ∧
      (∀ b, b ∈ start.backends ↔ b ∈ member.1.configuredBackends) ∧
      ∀ b, b ∈ backendsOfChunks chunks ↔
        b ∈ member.1.configuredBackends ∧ member.1.Sends serialisedLen member.2 b := by
  obtain ⟨source, hpin, hexport⟩ := h
  obtain rfl : member.1.snapshotSource = source := by
    unfold BroadcasterSnapshotCache.pinSnapshotSource at hpin
    split at hpin
    · exact Option.some.inj hpin
    · cases hpin
  obtain ⟨start, chunks, hbuild, hsession, hchain, hbackends, hmem⟩ :=
    exportSnapshotSource_session hexport
  refine ⟨start, chunks, hsession, hchain, ?_, hbackends, hmem⟩
  rw [BroadcasterSnapshotCache.chunkCount, hbuild]

/-- What the loop over the exports collects. -/
theorem collectAll_spec {chainId : UInt64} {first : BroadcasterSnapshotExport Sim}
    {members : List (BroadcasterSnapshotCache Sim × Nat)}
    {exports : List (BroadcasterSnapshotExport Sim)} {parts parts' : SnapshotExportParts Sim}
    (hexports : List.Forall₂ (ExportOf serialisedLen) members exports)
    (h : exports.foldlM (collectSnapshotExportParts chainId first) parts = .ok parts') :
    (∀ b, b ∈ parts'.backends ↔
      b ∈ parts.backends ∨ ∃ m ∈ members, b ∈ m.1.configuredBackends) ∧
    (∀ b, b ∈ backendsOfChunks parts'.chunks ↔ b ∈ backendsOfChunks parts.chunks ∨
      ∃ m ∈ members, b ∈ m.1.configuredBackends ∧ m.1.Sends serialisedLen m.2 b) ∧
    parts'.chunks.length =
      parts.chunks.length + (members.map fun m => m.1.chunkCount serialisedLen m.2).sum := by
  induction hexports generalizing parts with
  | nil =>
    cases h
    simp
  | @cons member exported members exports hexport _ ih =>
    rw [List.foldlM_cons] at h
    obtain ⟨mid, hmid, hrest⟩ := bind_eq_ok.mp h
    obtain ⟨start, chunks, hsession, -, hcount, hbackends, hmem⟩ := hexport.session
    obtain ⟨-, -, rfl⟩ := collectSnapshotExportParts_session hsession hmid
    obtain ⟨hall, hsent, hlen⟩ := ih hrest
    refine ⟨fun b => ?_, fun b => ?_, ?_⟩
    · rw [hall, List.mem_append, hbackends, or_assoc]
      simp
    · rw [hsent, backendsOfChunks_append, List.mem_append, hmem, or_assoc]
      simp
    · rw [hlen, List.length_append, hcount, List.map_cons, List.sum_cons, Nat.add_assoc]

theorem mem_sortedBackends {backends : List BroadcasterBackend} {b : BroadcasterBackend} :
    b ∈ sortedBackends backends ↔ b ∈ backends := by
  rw [sortedBackends, List.mem_dedup]
  exact (List.perm_insertionSort _ _).mem_iff

/-- Which list the declared backends are given by does not matter. -/
theorem boots_congr {exported : BroadcasterSnapshotExport Sim} {chainId : UInt64}
    {declared declared' : List BroadcasterBackend} (h : ∀ b, b ∈ declared ↔ b ∈ declared') :
    exported.Boots chainId declared ↔ exported.Boots chainId declared' := by
  have heq : declared.toFinset = declared'.toFinset := by
    ext b
    rw [List.mem_toFinset, List.mem_toFinset, h b]
  rw [BroadcasterSnapshotExport.Boots, BroadcasterSnapshotExport.Boots, heq]

/-- **Exported snapshots boot** exactly when something is sent for every declared backend and the
number of chunks fits into a `u32`: of one ready cache, and of several joined ones. -/
theorem exported_snapshot_boots (serialisedLen : SerialisedLen Sim) :
    (∀ (cache : BroadcasterSnapshotCache Sim) (source : BroadcasterSnapshotSource Sim)
      (maxPayloadBytes : Nat) (exported : BroadcasterSnapshotExport Sim),
      cache.pinSnapshotSource = some source →
      cache.exportSnapshotSource serialisedLen source maxPayloadBytes = .ok exported →
      (exported.Boots cache.chainId cache.configuredBackends ↔
        (∀ b ∈ cache.configuredBackends, cache.Sends serialisedLen maxPayloadBytes b) ∧
          cache.chunkCount serialisedLen maxPayloadBytes < 2 ^ 32)) ∧
    ∀ (chainId : UInt64) (members : List (BroadcasterSnapshotCache Sim × Nat))
      (exports : List (BroadcasterSnapshotExport Sim)) (combined : BroadcasterSnapshotExport Sim),
      List.Forall₂ (ExportOf serialisedLen) members exports →
      combineSnapshotExports chainId exports = .ok combined →
      (combined.Boots chainId (members.flatMap (·.1.configuredBackends)) ↔
        (∀ m ∈ members, ∀ b ∈ m.1.configuredBackends, ∃ m' ∈ members,
          b ∈ m'.1.configuredBackends ∧ m'.1.Sends serialisedLen m'.2 b) ∧
          (members.map fun m => m.1.chunkCount serialisedLen m.2).sum < 2 ^ 32) := by
  refine ⟨fun cache source maxPayloadBytes exported hpin hexport => ?_,
    fun chainId members exports combined hexports hcombine => ?_⟩
  · have hexported : ExportOf serialisedLen (cache, maxPayloadBytes) exported :=
      ⟨source, hpin, hexport⟩
    obtain ⟨start, chunks, hsession, hchain, hcount, hbackends, hmem⟩ := hexported.session
    rw [← boots_congr hbackends, ← hchain, hsession.boots_iff, hcount, and_comm]
    refine and_congr_left fun _ => ?_
    simp only [hbackends, hmem]
    exact forall₂_congr fun b hb => and_iff_right hb
  · -- there is nothing to join without an export
    rcases exports with _ | ⟨first, rest⟩
    · cases hcombine
    obtain ⟨parts, hparts, hcombine⟩ := bind_eq_ok.mp hcombine
    obtain ⟨start, hstart, hcombine⟩ := bind_eq_ok.mp hcombine
    obtain ⟨chunks, hchunks, hcombine⟩ := bind_eq_ok.mp hcombine
    rw [pure_eq_ok] at hcombine
    subst hcombine
    obtain ⟨hall, hsent, hlen⟩ := collectAll_spec hexports hparts
    rw [mapError_eq_ok] at hstart
    obtain ⟨hid, hchain, htotal, hnodup, hbackends⟩ := snapshotStart_new_eq_ok hstart
    obtain ⟨horder, hlen', hmem⟩ := renumberChunks_spec hchunks
    have hdeclared : ∀ b, b ∈ start.backends ↔ ∃ m ∈ members, b ∈ m.1.configuredBackends := by
      intro b
      rw [hbackends, mem_sortedBackends, hall]
      simp
    have hsends : ∀ b, b ∈ backendsOfChunks chunks ↔ ∃ m ∈ members,
        b ∈ m.1.configuredBackends ∧ m.1.Sends serialisedLen m.2 b := by
      intro b
      rw [hmem, hsent]
      simp [backendsOfChunks]
    -- the joined payloads are one session, whose backends are those of all members
    have hsession : SnapshotSession { first with payloads := snapshotPayloads start chunks } start
        chunks := by
      refine ⟨rfl, hid, hnodup, by rw [htotal, hlen'], hid ▸ horder, fun b hb => ?_⟩
      obtain ⟨m, hm, hb, -⟩ := (hsends b).mp hb
      exact (hdeclared b).mpr ⟨m, hm, hb⟩
    have hcongr : ∀ b, b ∈ start.backends ↔ b ∈ members.flatMap (·.1.configuredBackends) := by
      intro b
      rw [hdeclared, List.mem_flatMap]
    have hcount : chunks.length =
        (members.map fun m => m.1.chunkCount serialisedLen m.2).sum := by
      rw [hlen', hlen]
      exact Nat.zero_add _
    rw [← boots_congr hcongr, ← hchain, hsession.boots_iff, hcount, and_comm]
    refine and_congr_left fun _ => ?_
    simp only [hdeclared, hsends]
    exact ⟨fun h m hm b hb => h b ⟨m, hm, hb⟩, fun h b ⟨m, hm, hb⟩ => h m hm b hb⟩

end

/-- A pool of a request-for-quote protocol. -/
def hashflowPool : ProtocolComponent :=
  { id := [], protocolSystem := "rfq:hashflow", protocolTypeName := "hashflow_pool", tokens := [] }

/-- An update that announces the pool, with some synchronizer states. -/
def announcePool (syncStates : FinMap String SynchronizerState) : TychoUpdate Unit :=
  { blockNumberOrTimestamp := 1
    newPairs := (∅ : FinMap String ProtocolComponent).insert "pool" hashflowPool
    states := (∅ : FinMap String Unit).insert "pool" ()
    removedPairs := ∅
    syncStates }

/-- An update that removes the pool, with some synchronizer states. -/
def removePool (syncStates : FinMap String SynchronizerState) : TychoUpdate Unit :=
  { blockNumberOrTimestamp := 2
    newPairs := ∅
    states := ∅
    removedPairs := (∅ : FinMap String ProtocolComponent).insert "pool" hashflowPool
    syncStates }

/-- A merge for caches that are fed decoded updates only. -/
def keepIncoming : StateSyncMerge := fun _ incoming => incoming

/-- The cache of chain 1 after the pool was announced and removed again. -/
def emptiedCache (syncStates : FinMap String SynchronizerState) :
    Except SnapshotError (BroadcasterSnapshotCache Unit) := do
  let (cache, _) ← BroadcasterSnapshotCache.applyUpdate keepIncoming (.new 1 [.rfq])
    (announcePool syncStates)
  let (cache, _) ← cache.applyUpdate keepIncoming (removePool syncStates)
  return cache

/-- The lengths of the JSON texts of the payloads of `emptiedCache`. -/
def emptiedLen : SerialisedLen Unit
  | { payload := .snapshotStart _, .. } => .ok 153
  | { payload := .snapshotEnd _, .. } => .ok 104
  | { messageSeq, .. } => .ok (if messageSeq < 10 then 221 else 249)

/-- The exported snapshot of `emptiedCache`. -/
def emptiedExport (chunks : List (BroadcasterSnapshotChunk Unit)) : BroadcasterSnapshotExport Unit :=
  { streamId := "chain-1-stream-1"
    snapshotId := "chain-1-snapshot-1"
    maxPayloadBytes := 1000
    payloads := snapshotPayloads ⟨"chain-1-snapshot-1", 1, [.rfq], .ofNat chunks.length⟩ chunks }

/-- The chunk that carries the status of one protocol. -/
def statusChunk : BroadcasterSnapshotChunk Unit :=
  { snapshotId := "chain-1-snapshot-1", chunkIndex := 0
    partitions := [.new .rfq 2 [] ((∅ : SyncStatuses).insert "rfq:hashflow"
      (.fromSynchronizerState .started))] }

/-- With a synchronizer state the emptied backend still has something to send, and the snapshot
boots. -/
theorem exported_snapshot_boots_status : ∃ cache source,
    emptiedCache ((∅ : FinMap String SynchronizerState).insert "rfq:hashflow" .started) =
      .ok cache ∧
    cache.pinSnapshotSource = some source ∧
    cache.exportSnapshotSource emptiedLen source 1000 = .ok (emptiedExport [statusChunk]) ∧
    (emptiedExport [statusChunk]).Boots cache.chainId cache.configuredBackends := by
  refine ⟨_, _, rfl, rfl, by decide, ?_⟩
  refine ((exported_snapshot_boots emptiedLen).1 _ _ 1000 _ rfl (by decide)).mpr ⟨?_, by decide⟩
  intro b hb
  obtain rfl := List.mem_singleton.mp hb
  exact ⟨_, rfl, fun hsilent => absurd hsilent.syncStatuses (by decide)⟩

/-- Without one the backend is ready and declared, but the export has no chunk at all: the tracker
rejects its end. -/
theorem emptied_backend_not_bootable : ∃ cache source,
    emptiedCache ∅ = .ok cache ∧
    cache.isReady = true ∧ cache.pinSnapshotSource = some source ∧
    cache.exportSnapshotSource emptiedLen source 1000 = .ok (emptiedExport []) ∧
    observeAll .new (numberPayloads "chain-1-stream-1" (emptiedExport []).payloads) =
      .error (.missingDeclaredSnapshotBackends [.rfq]) ∧
    ¬(emptiedExport []).Boots cache.chainId cache.configuredBackends := by
  have hrejected : observeAll .new (numberPayloads "chain-1-stream-1" (emptiedExport []).payloads) =
      .error (.missingDeclaredSnapshotBackends [.rfq]) := by decide
  refine ⟨_, _, rfl, by decide, rfl, by decide, hrejected, ?_⟩
  rintro ⟨tracker, hok, -⟩
  rw [show (emptiedExport []).streamId = "chain-1-stream-1" from rfl, hrejected] at hok
  cases hok

end TychoSimulationServer
