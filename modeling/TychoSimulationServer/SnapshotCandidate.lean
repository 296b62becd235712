import TychoSimulationServer.ChunkCaps
import TychoSimulationServer.RedisPublisher

/-!
# The candidate of a promotion

A broadcaster that is about to be promoted prepares its snapshot before it knows its generation. The
payloads are measured under the ids of the last generation there can be; after the promotion they
get the ids they are published under, and nothing is measured again.

* **Sizes**: the ids of a generation take no more bytes than those of the last one, so that every
  payload keeps to the limit, and the bytes that are counted are enough.
* **Booting**: a consumer takes the snapshot under the new ids if it takes it under the old ones.
-/

namespace TychoSimulationServer

open Fallible

variable {Sim : Type}

/-! ## Ids

A candidate is built under ids of its own and published under those of the generation it is promoted
to. -/

/-- The payload belongs to a snapshot. -/
def BroadcasterPayload.isSnapshot : BroadcasterPayload Sim → Bool
  | .snapshotStart _ | .snapshotChunk _ | .snapshotEnd _ => true
  | _ => false

/-- The payload under another snapshot id. -/
def relabelSnapshotPayload (snapshotId : String) : BroadcasterPayload Sim → BroadcasterPayload Sim
  | .snapshotStart start => .snapshotStart { start with snapshotId }
  | .snapshotChunk chunk => .snapshotChunk { chunk with snapshotId }
  | .snapshotEnd finish => .snapshotEnd { finish with snapshotId }
  | payload => payload

/-- `relabel_snapshot_export`. -/
def relabelSnapshotExport (exported : BroadcasterSnapshotExport Sim)
    (streamId snapshotId : String) : BroadcasterSnapshotExport Sim :=
  { exported with
    streamId, snapshotId, payloads := exported.payloads.map (relabelSnapshotPayload snapshotId) }

/-! ## Candidates

The candidate is checked under the longest ids it may get, since it is not known yet which it will
be. -/

/-- `BroadcasterSnapshotCandidate`. -/
structure BroadcasterSnapshotCandidate (Sim : Type) where
  chainId : UInt64
  exported : BroadcasterSnapshotExport Sim
  baseHeads : List BroadcasterBackendHead
  capturedRecoveryWorkIds : List Nat
  handoffId : Nat
  snapshotChunkCount : UInt32
  encodedBytesUpperBound : Nat
  largestPayloadBytesUpperBound : Nat
  payloadDigests : List String

section

variable (serialisedLen : SerialisedLen Sim) (payloadDigest : BroadcasterEnvelope Sim → String)

/-- One turn of the loop that measures the payloads of the candidate. -/
def candidatePayloadSize (maxPayloadBytes : Nat) (entry : BroadcasterEnvelope Sim × Nat) :
    Except SnapshotError Nat := do
  let (envelope, index) := entry
  ensure (envelope.payload.isSnapshot = true)
    (.text "startup snapshot candidate contains a non-snapshot payload")
  let bytes ← serialisedLen envelope
  ensure (bytes ≤ maxPayloadBytes) (.text
    s!"startup snapshot payload {index} is {bytes} bytes, above configured max {maxPayloadBytes}")
  return bytes

/-- `build_snapshot_candidate`. -/
def buildSnapshotCandidate (chainId : UInt64) (exported : BroadcasterSnapshotExport Sim)
    (baseHeads : List BroadcasterBackendHead) (capturedRecoveryWorkIds : List Nat)
    (handoffId : Nat) : Except SnapshotError (BroadcasterSnapshotCandidate Sim) := do
  let lastGeneration := .ofNat (2 ^ 64 - 1)
  let exported := relabelSnapshotExport exported (formatRedisStreamId chainId lastGeneration)
    (formatRedisSnapshotId chainId lastGeneration)
  let payloads := artifactPayloads exported
  let sizes ← payloads.zipIdx.mapM (candidatePayloadSize serialisedLen exported.maxPayloadBytes)
  let chunkCount := payloads.countP fun envelope => envelope.kind = .snapshotChunk
  return { chainId, exported, baseHeads, capturedRecoveryWorkIds, handoffId
           snapshotChunkCount := .ofNat chunkCount
           encodedBytesUpperBound := sizes.foldl saturatingAdd 0
           largestPayloadBytesUpperBound := sizes.foldl max 0
           payloadDigests := payloads.map payloadDigest }

end

/-- `finalize_snapshot_candidate`. -/
def finalizeSnapshotCandidate (candidate : BroadcasterSnapshotCandidate Sim)
    (boundary : BroadcasterRedisReplayBoundary) : BroadcasterSnapshotArtifact Sim :=
  let exported :=
    relabelSnapshotExport candidate.exported boundary.streamId boundary.snapshotId
  { chainId := candidate.chainId, streamId := boundary.streamId, snapshotId := boundary.snapshotId
    redisReplayBoundary := boundary, payloads := artifactPayloads exported
    snapshotChunkCount := candidate.snapshotChunkCount
    encodedBytes := candidate.encodedBytesUpperBound }

/-! ## How much the ids take

An id without characters that have to be escaped takes its own length, wherever it stands. -/

/-- JSON writes the text as it is. -/
def PlainId (id : String) : Prop :=
  ∀ c ∈ id.toList, c.isAlphanum = true ∨ c = '-'

instance (id : String) : Decidable (PlainId id) :=
  List.decidableBAll _ id.toList

/-- How serde lays out a snapshot payload: the two ids take their characters. -/
structure IdLayout (serialisedLen : SerialisedLen Sim) : Prop where
  ids : ∀ (payload : BroadcasterPayload Sim) streamId streamId' snapshotId snapshotId' messageSeq
    size, payload.isSnapshot = true → PlainId streamId → PlainId streamId' → PlainId snapshotId →
    PlainId snapshotId' →
    serialisedLen ⟨streamId, messageSeq, relabelSnapshotPayload snapshotId payload⟩ = .ok size →
    ∃ size',
      serialisedLen ⟨streamId', messageSeq, relabelSnapshotPayload snapshotId' payload⟩ =
        .ok size' ∧
      size' + (streamId.length + snapshotId.length) = size + (streamId'.length + snapshotId'.length)

/-- Plain ids are plain one behind the other. -/
theorem PlainId.append {id id' : String} (h : PlainId id) (h' : PlainId id') :
    PlainId (id ++ id') := by
  intro c hc
  rw [String.toList_append, List.mem_append] at hc
  exact hc.elim (h c) (h' c)

theorem plainId_u64ToString (value : UInt64) : PlainId (u64ToString value) := by
  intro c hc
  have hdigit := isDigit_u64ToString hc
  exact .inl (by simp [Char.isAlphanum, hdigit])

theorem plainId_streamId (chainId generation : UInt64) :
    PlainId (formatRedisStreamId chainId generation) := by
  have hchain : PlainId "chain-" := by decide
  have hstream : PlainId "-stream-" := by decide
  exact ((hchain.append (plainId_u64ToString chainId)).append hstream).append
    (plainId_u64ToString generation)

theorem plainId_snapshotId (chainId generation : UInt64) :
    PlainId (formatRedisSnapshotId chainId generation) := by
  have hchain : PlainId "chain-" := by decide
  have hsnapshot : PlainId "-snapshot-" := by decide
  exact ((hchain.append (plainId_u64ToString chainId)).append hsnapshot).append
    (plainId_u64ToString generation)

/-- No generation has more digits than the last one. -/
theorem length_u64ToString_le (generation : UInt64) :
    (u64ToString generation).length ≤ (u64ToString (.ofNat (2 ^ 64 - 1))).length := by
  have hlast : (u64ToString (.ofNat (2 ^ 64 - 1))).length = 20 := by decide
  rw [hlast]
  exact decimalDigits_le (by decide) (generation.toNat_lt.trans (by decide))

/-- No generation has longer ids than the last one. -/
theorem length_ids_le (chainId generation : UInt64) :
    (formatRedisStreamId chainId generation).length +
        (formatRedisSnapshotId chainId generation).length ≤
      (formatRedisStreamId chainId (.ofNat (2 ^ 64 - 1))).length +
        (formatRedisSnapshotId chainId (.ofNat (2 ^ 64 - 1))).length := by
  have hle := length_u64ToString_le generation
  simp only [formatRedisStreamId, formatRedisSnapshotId, String.length_append]
  omega

/-! ## Relabelled exports -/

section

variable {exported : BroadcasterSnapshotExport Sim}
  {streamId streamId' snapshotId snapshotId' : String}

@[simp] theorem relabelSnapshotPayload_isSnapshot (payload : BroadcasterPayload Sim) :
    (relabelSnapshotPayload snapshotId payload).isSnapshot = payload.isSnapshot := by
  cases payload <;> rfl

@[simp] theorem relabelSnapshotPayload_kind (payload : BroadcasterPayload Sim) :
    (relabelSnapshotPayload snapshotId payload).kind = payload.kind := by
  cases payload <;> rfl

/-- The last label counts. -/
theorem relabelSnapshotExport_relabel :
    relabelSnapshotExport (relabelSnapshotExport exported streamId snapshotId) streamId'
      snapshotId' = relabelSnapshotExport exported streamId' snapshotId' := by
  have hpayload : relabelSnapshotPayload snapshotId' ∘ relabelSnapshotPayload snapshotId =
      (relabelSnapshotPayload snapshotId' : BroadcasterPayload Sim → BroadcasterPayload Sim) := by
    funext payload
    cases payload <;> rfl
  rw [relabelSnapshotExport, relabelSnapshotExport, relabelSnapshotExport, List.map_map, hpayload]

/-- The payloads of an artifact under some ids. -/
theorem artifactPayloads_relabel :
    artifactPayloads (relabelSnapshotExport exported streamId snapshotId) =
      exported.payloads.zipIdx.map fun entry =>
        ⟨streamId, .ofNat (min (entry.2 + 1) (2 ^ 64 - 1)),
          relabelSnapshotPayload snapshotId entry.1⟩ := by
  rw [artifactPayloads, relabelSnapshotExport, List.zipIdx_map, List.map_map]
  rfl

/-- There are as many payloads of each kind. -/
theorem countP_kind_relabel (kind : BroadcasterMessageKind) :
    (artifactPayloads (relabelSnapshotExport exported streamId snapshotId)).countP
        (fun envelope => envelope.kind = kind) =
      exported.payloads.zipIdx.countP fun entry => entry.1.kind = kind := by
  rw [artifactPayloads_relabel, List.countP_map]
  refine congrArg (fun p => List.countP p _) (funext fun entry => ?_)
  simp [BroadcasterEnvelope.kind]

end

/-! ## Sizes

Each payload under its new ids is no longer than it was under the longest ones. -/

section

variable {serialisedLen : SerialisedLen Sim}

/-- A payload is taken when it belongs to a snapshot and is within the limit. -/
theorem candidatePayloadSize_eq_ok {maxPayloadBytes bytes : Nat}
    {entry : BroadcasterEnvelope Sim × Nat} :
    candidatePayloadSize serialisedLen maxPayloadBytes entry = .ok bytes ↔
      entry.1.payload.isSnapshot = true ∧ serialisedLen entry.1 = .ok bytes ∧
        bytes ≤ maxPayloadBytes := by
  rw [candidatePayloadSize, check_bind_eq_ok, ensure_eq_ok, bind_eq_ok]
  simp only [check_bind_eq_ok, ensure_eq_ok, pure_eq_ok]
  constructor
  · rintro ⟨hsnapshot, size, hsize, hle, rfl⟩
    exact ⟨hsnapshot, hsize, hle⟩
  · rintro ⟨hsnapshot, hsize, hle⟩
    exact ⟨hsnapshot, bytes, hsize, hle, rfl⟩

/-- Sums with saturation grow with their parts. -/
theorem saturatingAdd_mono {a a' b b' : Nat} (ha : a ≤ a') (hb : b ≤ b') :
    saturatingAdd a b ≤ saturatingAdd a' b' :=
  min_le_min_right _ (Nat.add_le_add ha hb)

/-- Smaller sizes have a smaller saturating sum and a smaller maximum. -/
theorem foldl_le_of_forall₂ {f : Nat → Nat → Nat}
    (hf : ∀ {a a' b b'}, a ≤ a' → b ≤ b' → f a b ≤ f a' b') {sizes sizes' : List Nat}
    (h : List.Forall₂ (· ≤ ·) sizes sizes') {start start' : Nat} (hstart : start ≤ start') :
    sizes.foldl f start ≤ sizes'.foldl f start' := by
  induction h generalizing start start' with
  | nil => exact hstart
  | cons hle _ ih => exact ih (hf hstart hle)

/-- A maximum is within a limit when all numbers are. -/
theorem foldl_max_le {sizes : List Nat} {start limit : Nat} (hstart : start ≤ limit)
    (h : ∀ size ∈ sizes, size ≤ limit) : sizes.foldl max start ≤ limit := by
  induction sizes generalizing start with
  | nil => exact hstart
  | cons size sizes ih =>
    exact ih (max_le hstart (h size List.mem_cons_self))
      fun other hmem => h other (List.mem_cons_of_mem _ hmem)

/-- **A payload under the ids of a generation** is no larger than under those of the last one. -/
theorem IdLayout.relabelled (layout : IdLayout serialisedLen) {chainId messageSeq : UInt64}
    (generation : UInt64) {payload : BroadcasterPayload Sim} {size : Nat}
    (hsnapshot : payload.isSnapshot = true)
    (hsize : serialisedLen ⟨formatRedisStreamId chainId (.ofNat (2 ^ 64 - 1)), messageSeq,
      relabelSnapshotPayload (formatRedisSnapshotId chainId (.ofNat (2 ^ 64 - 1))) payload⟩ =
        .ok size) :
    ∃ size' ≤ size, serialisedLen ⟨formatRedisStreamId chainId generation, messageSeq,
      relabelSnapshotPayload (formatRedisSnapshotId chainId generation) payload⟩ = .ok size' := by
  obtain ⟨size', hsize', hids⟩ := layout.ids payload _ (formatRedisStreamId chainId generation) _
    (formatRedisSnapshotId chainId generation) messageSeq size hsnapshot (plainId_streamId _ _)
    (plainId_streamId _ _) (plainId_snapshotId _ _) (plainId_snapshotId _ _) hsize
  have hle := length_ids_le chainId generation
  exact ⟨size', by omega, hsize'⟩

/-- **Sizes of all payloads** under the ids of a generation. -/
theorem IdLayout.sizes (layout : IdLayout serialisedLen) {chainId : UInt64} (generation : UInt64)
    {exported : BroadcasterSnapshotExport Sim} {maxPayloadBytes : Nat} {sizes : List Nat}
    (hsizes : (artifactPayloads (relabelSnapshotExport exported
        (formatRedisStreamId chainId (.ofNat (2 ^ 64 - 1)))
        (formatRedisSnapshotId chainId (.ofNat (2 ^ 64 - 1))))).zipIdx.mapM
      (candidatePayloadSize serialisedLen maxPayloadBytes) = .ok sizes) :
    ∃ sizes', (artifactPayloads (relabelSnapshotExport exported
        (formatRedisStreamId chainId generation)
        (formatRedisSnapshotId chainId generation))).zipIdx.mapM
      (artifactPayloadSize serialisedLen maxPayloadBytes) = .ok sizes' ∧
      List.Forall₂ (· ≤ ·) sizes' sizes := by
  rw [artifactPayloads_relabel] at hsizes ⊢
  rw [List.zipIdx_map, List.mapM_map] at hsizes ⊢
  -- every entry has a size under either ids
  have hforall := mapM_eq_ok.mp hsizes
  have hentry : ∀ (entry : (BroadcasterPayload Sim × Nat) × Nat) (size : Nat),
      candidatePayloadSize serialisedLen maxPayloadBytes (Prod.map (fun entry =>
        (⟨formatRedisStreamId chainId (.ofNat (2 ^ 64 - 1)),
          .ofNat (min (entry.2 + 1) (2 ^ 64 - 1)),
          relabelSnapshotPayload (formatRedisSnapshotId chainId (.ofNat (2 ^ 64 - 1))) entry.1⟩ :
            BroadcasterEnvelope Sim)) id entry) = .ok size →
      ∃ size' ≤ size, artifactPayloadSize serialisedLen maxPayloadBytes (Prod.map (fun entry =>
        (⟨formatRedisStreamId chainId generation, .ofNat (min (entry.2 + 1) (2 ^ 64 - 1)),
          relabelSnapshotPayload (formatRedisSnapshotId chainId generation) entry.1⟩ :
            BroadcasterEnvelope Sim)) id entry) = .ok size' := by
    intro entry size hsize
    obtain ⟨hsnapshot, hlen, hle⟩ := candidatePayloadSize_eq_ok.mp hsize
    obtain ⟨size', hle', hsize'⟩ := layout.relabelled generation
      ((relabelSnapshotPayload_isSnapshot _).symm.trans hsnapshot) hlen
    exact ⟨size', hle', artifactPayloadSize_eq_ok.mpr ⟨hsize', hle'.trans hle⟩⟩
  clear hsizes
  generalize exported.payloads.zipIdx.zipIdx = entries at hforall
  induction hforall with
  | nil => exact ⟨[], rfl, .nil⟩
  | @cons entry size entries sizes hsize _ ih =>
    obtain ⟨size', hle, hsize'⟩ := hentry entry size hsize
    obtain ⟨sizes', hsizes', hforall⟩ := ih
    exact ⟨size' :: sizes', mapM_eq_ok.mpr (.cons hsize' (mapM_eq_ok.mp hsizes')),
      .cons hle hforall⟩

end

/-! ## Booting -/

section

variable {exported : BroadcasterSnapshotExport Sim} {start : BroadcasterSnapshotStart}
  {chunks : List (BroadcasterSnapshotChunk Sim)}

/-- The payloads under other ids are a start with its chunks again. -/
theorem SnapshotSession.relabel (session : SnapshotSession exported start chunks)
    (streamId snapshotId : String) :
    SnapshotSession (relabelSnapshotExport exported streamId snapshotId) { start with snapshotId }
      (chunks.map fun chunk => { chunk with snapshotId }) where
  payloads := by
    rw [relabelSnapshotExport, session.payloads]
    simp only [snapshotPayloads, List.map_cons, List.map_append, List.map_map, List.map_nil,
      relabelSnapshotPayload]
    rfl
  snapshotId := rfl
  nodup := session.nodup
  totalChunks := by
    rw [List.length_map]
    exact session.totalChunks
  inOrder j chunk hj := by
    rw [List.getElem?_map, Option.map_eq_some_iff] at hj
    obtain ⟨chunk, hchunk, rfl⟩ := hj
    obtain ⟨-, hindex, hvalid⟩ := session.inOrder j chunk hchunk
    exact ⟨rfl, hindex, hvalid⟩
  declared b hb := by
    rw [backendsOfChunks, List.flatMap_map] at hb
    exact session.declared b hb

/-- **Booting does not depend on the ids.** -/
theorem SnapshotSession.boots_relabel (session : SnapshotSession exported start chunks)
    (streamId snapshotId : String) :
    (relabelSnapshotExport exported streamId snapshotId).Boots start.chainId start.backends ↔
      exported.Boots start.chainId start.backends := by
  have hbackends : backendsOfChunks (chunks.map fun chunk => { chunk with snapshotId }) =
      backendsOfChunks chunks := by
    rw [backendsOfChunks, List.flatMap_map]
    rfl
  rw [session.boots_iff, (session.relabel streamId snapshotId).boots_iff, List.length_map,
    hbackends]

end

/-- The session of several joined exports. -/
theorem combineSnapshotExports_session {serialisedLen : SerialisedLen Sim} {chainId : UInt64}
    {members : List (BroadcasterSnapshotCache Sim × Nat)}
    {exports : List (BroadcasterSnapshotExport Sim)} {combined : BroadcasterSnapshotExport Sim}
    (hexports : List.Forall₂ (ExportOf serialisedLen) members exports)
    (hcombine : combineSnapshotExports chainId exports = .ok combined) :
    ∃ start chunks, SnapshotSession combined start chunks ∧ start.chainId = chainId ∧
      ∀ b, b ∈ start.backends ↔ b ∈ members.flatMap (·.1.configuredBackends) := by
  rcases exports with _ | ⟨first, rest⟩
  · cases hcombine
  obtain ⟨parts, hparts, hcombine⟩ := bind_eq_ok.mp hcombine
  obtain ⟨start, hstart, hcombine⟩ := bind_eq_ok.mp hcombine
  obtain ⟨chunks, hchunks, hcombine⟩ := bind_eq_ok.mp hcombine
  obtain rfl := pure_eq_ok.mp hcombine
  obtain ⟨hall, hsent, -⟩ := collectAll_spec hexports hparts
  obtain ⟨hid, hchain, htotal, hnodup, hbackends⟩ :=
    snapshotStart_new_eq_ok (mapError_eq_ok.mp hstart)
  obtain ⟨horder, hlength, hmem⟩ := renumberChunks_spec hchunks
  have hdeclared : ∀ b, b ∈ start.backends ↔ ∃ m ∈ members, b ∈ m.1.configuredBackends := by
    intro b
    rw [hbackends, mem_sortedBackends, hall]
    simp
  refine ⟨start, chunks, ⟨rfl, hid, hnodup, by rw [htotal, hlength], hid ▸ horder, fun b hb => ?_⟩,
    hchain, fun b => by rw [hdeclared, List.mem_flatMap]⟩
  rw [hmem, hsent] at hb
  rcases hb with hb | ⟨m, hm, hconfigured, -⟩
  · cases hb
  · exact (hdeclared b).mpr ⟨m, hm, hconfigured⟩

section

variable {serialisedLen : SerialisedLen Sim} {payloadDigest : BroadcasterEnvelope Sim → String}
  {chainId : UInt64} {exported : BroadcasterSnapshotExport Sim}
  {baseHeads : List BroadcasterBackendHead} {capturedRecoveryWorkIds : List Nat} {handoffId : Nat}
  {candidate : BroadcasterSnapshotCandidate Sim}

/-- What `build_snapshot_candidate` makes of the sizes under the ids of the last generation. -/
theorem buildSnapshotCandidate_eq_ok :
    let last := relabelSnapshotExport exported (formatRedisStreamId chainId (.ofNat (2 ^ 64 - 1)))
      (formatRedisSnapshotId chainId (.ofNat (2 ^ 64 - 1)))
    buildSnapshotCandidate serialisedLen payloadDigest chainId exported baseHeads
        capturedRecoveryWorkIds handoffId = .ok candidate ↔
      ∃ sizes, (artifactPayloads last).zipIdx.mapM
          (candidatePayloadSize serialisedLen exported.maxPayloadBytes) = .ok sizes ∧
        candidate =
          { chainId, exported := last, baseHeads, capturedRecoveryWorkIds, handoffId
            snapshotChunkCount := .ofNat ((artifactPayloads last).countP fun envelope =>
              envelope.kind = .snapshotChunk)
            encodedBytesUpperBound := sizes.foldl saturatingAdd 0
            largestPayloadBytesUpperBound := sizes.foldl max 0
            payloadDigests := (artifactPayloads last).map payloadDigest } := by
  intro last
  rw [buildSnapshotCandidate, bind_eq_ok]
  refine exists_congr fun sizes => and_congr_right fun _ => ?_
  rw [pure_eq_ok, eq_comm]

/-- But for the bytes that are counted, the artifact of a candidate is built under its final ids. -/
theorem finalizeSnapshotCandidate_built {boundary : BroadcasterRedisReplayBoundary}
    {sizes : List Nat}
    (hcandidate : buildSnapshotCandidate serialisedLen payloadDigest chainId exported baseHeads
      capturedRecoveryWorkIds handoffId = .ok candidate)
    (hsizes : (artifactPayloads (relabelSnapshotExport exported boundary.streamId
        boundary.snapshotId)).zipIdx.mapM
      (artifactPayloadSize serialisedLen exported.maxPayloadBytes) = .ok sizes) :
    buildSnapshotArtifact serialisedLen chainId
        (relabelSnapshotExport exported boundary.streamId boundary.snapshotId) boundary =
      .ok ({ finalizeSnapshotCandidate candidate boundary with
        encodedBytes := sizes.foldl saturatingAdd 0 }, sizes.foldl max 0) := by
  obtain ⟨measured, -, rfl⟩ := buildSnapshotCandidate_eq_ok.mp hcandidate
  rw [buildSnapshotArtifact, check_bind_eq_ok, check_bind_eq_ok, ensure_eq_ok, ensure_eq_ok]
  refine ⟨rfl, rfl, bind_eq_ok.mpr ⟨sizes, hsizes, ?_⟩⟩
  simp only [finalizeSnapshotCandidate, relabelSnapshotExport_relabel, countP_kind_relabel]
  rfl

end

/-- **A candidate may be published.** Whatever ready caches it was made of and whatever generation
it is promoted to, its artifact is the one that would be built and measured under the ids of that
generation, but for the bytes that are counted, which are no fewer. Every payload has its digest and
keeps to the limit, and consumers boot from the artifact if they boot from what the caches
exported. -/
theorem candidate_may_be_published {serialisedLen : SerialisedLen Sim}
    (layout : IdLayout serialisedLen) {payloadDigest : BroadcasterEnvelope Sim → String}
    {chainId generation : UInt64} {members : List (BroadcasterSnapshotCache Sim × Nat)}
    {exports : List (BroadcasterSnapshotExport Sim)} {combined : BroadcasterSnapshotExport Sim}
    {baseHeads : List BroadcasterBackendHead} {capturedRecoveryWorkIds : List Nat} {handoffId : Nat}
    {candidate : BroadcasterSnapshotCandidate Sim} {boundary : BroadcasterRedisReplayBoundary}
    (hexports : List.Forall₂ (ExportOf serialisedLen) members exports)
    (hcombine : combineSnapshotExports chainId exports = .ok combined)
    (hcandidate : buildSnapshotCandidate serialisedLen payloadDigest chainId combined baseHeads
      capturedRecoveryWorkIds handoffId = .ok candidate)
    (hstreamId : boundary.streamId = formatRedisStreamId chainId generation)
    (hsnapshotId : boundary.snapshotId = formatRedisSnapshotId chainId generation) :
    let artifact := finalizeSnapshotCandidate candidate boundary
    let published := relabelSnapshotExport combined boundary.streamId boundary.snapshotId
    (∃ measured largest,
      buildSnapshotArtifact serialisedLen chainId published boundary = .ok (measured, largest) ∧
      artifact = { measured with encodedBytes := artifact.encodedBytes } ∧
      measured.encodedBytes ≤ artifact.encodedBytes ∧
      largest ≤ candidate.largestPayloadBytesUpperBound) ∧
    candidate.payloadDigests.length = candidate.exported.payloads.length ∧
    candidate.largestPayloadBytesUpperBound ≤ combined.maxPayloadBytes ∧
    let declared := members.flatMap (·.1.configuredBackends)
    (published.Boots chainId declared ↔ combined.Boots chainId declared) := by
  obtain ⟨sizes, hsizes, rfl⟩ := buildSnapshotCandidate_eq_ok.mp hcandidate
  have hlimit : ∀ size ∈ sizes, size ≤ combined.maxPayloadBytes := by
    intro size hmem
    obtain ⟨entry, -, hsize⟩ := forall₂_exists_left (mapM_eq_ok.mp hsizes) hmem
    exact (candidatePayloadSize_eq_ok.mp hsize).2.2
  -- sizes under the final ids: no larger one by one, so neither is their sum nor their maximum
  obtain ⟨sizes', hsizes', hle⟩ := layout.sizes generation hsizes
  rw [← hstreamId, ← hsnapshotId] at hsizes'
  obtain ⟨start, chunks, hsession, rfl, hdeclared⟩ :=
    combineSnapshotExports_session hexports hcombine
  refine ⟨⟨_, _, finalizeSnapshotCandidate_built hcandidate hsizes', rfl, ?_, ?_⟩, ?_,
    foldl_max_le (Nat.zero_le _) hlimit, ?_⟩
  · exact foldl_le_of_forall₂ saturatingAdd_mono hle (Nat.le_refl 0)
  · exact foldl_le_of_forall₂ max_le_max hle (Nat.le_refl 0)
  · rw [List.length_map, artifactPayloads, List.length_map, List.length_zipIdx]
  · intro declared
    rw [boots_congr fun b => (hdeclared b).symm, hsession.boots_relabel, boots_congr hdeclared]

/-! ## A promotion

A cache of one backend is exported, and its candidate is promoted to the seventh generation. -/

/-- The lengths of the JSON texts of the payloads of `emptiedCache`, under any ids. -/
def labelledLen : SerialisedLen Unit
  | ⟨streamId, messageSeq, .snapshotStart start⟩ =>
    .ok (118 + streamId.length + start.snapshotId.length + decimalDigits messageSeq.toNat)
  | ⟨streamId, messageSeq, .snapshotChunk chunk⟩ =>
    .ok (185 + streamId.length + chunk.snapshotId.length + numberDigits messageSeq chunk.chunkIndex)
  | ⟨streamId, messageSeq, .snapshotEnd finish⟩ =>
    .ok (69 + streamId.length + finish.snapshotId.length + decimalDigits messageSeq.toNat)
  | _ => .ok 0

/-- The sample serialiser writes ids as serde does. -/
theorem labelledLen_layout : IdLayout labelledLen where
  ids payload streamId streamId' snapshotId snapshotId' messageSeq size hsnapshot _ _ _ _
      hsize := by
    cases payload <;> cases hsnapshot
    all_goals
      obtain rfl := Except.ok.inj hsize
      refine ⟨_, rfl, ?_⟩
      dsimp only
      omega

/-- The boundary of a first promotion. -/
def firstBoundary : BroadcasterRedisReplayBoundary :=
  { streamKey := "broadcaster", streamId := "chain-1-stream-7", snapshotId := "chain-1-snapshot-7"
    generation := 7, exclusiveMessageSeq := 1, stateVersion := stateVersionBase 7 }

theorem status_exported : ∃ cache source,
    emptiedCache ((∅ : FinMap String SynchronizerState).insert "rfq:hashflow" .started) =
      .ok cache ∧
    cache.pinSnapshotSource = some source ∧
    cache.exportSnapshotSource labelledLen source 1000 = .ok (emptiedExport [statusChunk]) :=
  ⟨_, _, rfl, rfl, by decide⟩

/-- The snapshot of `emptiedCache` is published under the ids of the seventh generation. -/
theorem candidate_may_be_published_seventh : ∃ candidate measured largest,
    buildSnapshotCandidate labelledLen (fun _ => "digest") 1 (emptiedExport [statusChunk]) [] [] 0 =
      .ok candidate ∧
    buildSnapshotArtifact labelledLen 1 (relabelSnapshotExport (emptiedExport [statusChunk])
      "chain-1-stream-7" "chain-1-snapshot-7") firstBoundary = .ok (measured, largest) ∧
    measured.encodedBytes ≤ candidate.encodedBytesUpperBound := by
  obtain ⟨cache, source, -, hpin, hexport⟩ := status_exported
  have hcandidate : buildSnapshotCandidate labelledLen (fun _ => "digest") 1
    (emptiedExport [statusChunk]) [] [] 0 = .ok _ := rfl
  obtain ⟨⟨measured, largest, hbuilt, -, hbytes, -⟩, -⟩ := candidate_may_be_published
    labelledLen_layout (@List.Forall₂.cons _ _ (ExportOf labelledLen) (cache, 1000) _ [] []
      ⟨source, hpin, hexport⟩ .nil) rfl hcandidate
    (show firstBoundary.streamId = formatRedisStreamId 1 7 by decide) (by decide)
  exact ⟨_, measured, largest, hcandidate, hbuilt, hbytes⟩

end TychoSimulationServer
