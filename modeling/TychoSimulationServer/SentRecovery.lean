import TychoSimulationServer.RedisPublisher
import TychoSimulationServer.RecoveryConsumer

/-!
# What is sent for a recovery

`publish_recovery` turns a transaction into entries, and a consumer turns the entries back into a
replacement and its catch-ups. The two meet at a *sent recovery*: a manifest, chunks, catch-ups and
a commit that agree with each other. The entries that the publisher builds carry one, and it
describes the transaction.
-/

namespace TychoSimulationServer

open Fallible JsonText

variable {Sim : Type}

/-! ## Messages

What a reader gets of a recovery: the manifest, the chunks, the catch-ups and the commit, as
payloads, with the entries they came in. -/

/-- serde reads back the envelopes that were written into these entries. -/
def ReadsBackAll (json : EnvelopeJson Sim) (entries : List BroadcasterRedisStreamEntry) : Prop :=
  ∀ entry ∈ entries, ∀ envelope, json.toString envelope = .ok entry.payloadJson →
    json.ReadsBack envelope

/-- The message that a reader makes of an entry. -/
structure ReadsAs (json : EnvelopeJson Sim) (entry : BroadcasterRedisStreamEntry)
    (message : ReplayMessage Sim) : Prop where
  same : message.entry = entry
  decoded : json.fromStr entry.payloadJson = .ok message.envelope

/-- What is sent for a recovery. -/
structure SentRecovery (Sim : Type) where
  manifest : BroadcasterRecoveryManifest
  chunks : List BroadcasterRecoveryChunk
  catchUps : List (BroadcasterRecoveryCatchUp Sim)
  commit : BroadcasterRecoveryCommit

/-- A chunk that its manifest declares at an index. -/
structure DeclaredChunk (digestBytes : String → String) (manifest : BroadcasterRecoveryManifest)
    (i : Nat) (chunk : BroadcasterRecoveryChunk) : Prop where
  valid : validateRecoveryChunk chunk = .ok ()
  recoveryId : chunk.recoveryId = manifest.recoveryId
  target : chunk.targetStateVersion = manifest.targetStateVersion
  backends : chunk.backends = manifest.backends
  index : chunk.chunkIndex.toNat = i
  size : manifest.chunkEncodedBytes[i]? = some chunk.encodedBytes
  digest : chunk.digest = digestBytes chunk.payloadFragment
  declared : manifest.chunkDigests[i]? = some chunk.digest

/-- A catch-up of a manifest at an index. -/
structure DeclaredCatchUp (manifest : BroadcasterRecoveryManifest) (i : Nat)
    (catchUp : BroadcasterRecoveryCatchUp Sim) : Prop where
  valid : validateRecoveryCatchUp catchUp = .ok ()
  recoveryId : catchUp.recoveryId = manifest.recoveryId
  target : catchUp.targetStateVersion = manifest.targetStateVersion
  index : catchUp.blockIndex.toNat = i

/-- The commit that belongs to a manifest. -/
structure DeclaredCommit (manifest : BroadcasterRecoveryManifest)
    (commit : BroadcasterRecoveryCommit) : Prop where
  valid : validateRecoveryCommit commit = .ok ()
  recoveryId : commit.recoveryId = manifest.recoveryId
  target : commit.targetStateVersion = manifest.targetStateVersion
  backends : commit.backends = manifest.backends
  digest : commit.replacementDigest = manifest.replacementDigest
  bufferACount : commit.bufferACount = manifest.bufferACount
  watermark : commit.commitWatermark = manifest.commitWatermark

/-- **A sent recovery that describes a transaction.** -/
structure SentRecovery.Describes (sent : SentRecovery Sim) (digestBytes : String → String)
    (transaction : BroadcasterRecoveryTransaction Sim) (targetStateVersion : UInt64) : Prop where
  valid : validateRecoveryManifest sent.manifest = .ok ()
  target : sent.manifest.targetStateVersion = targetStateVersion
  backends : ∀ backend, backend ∈ sent.manifest.backends ↔ backend ∈ transaction.backends
  chunkCount : sent.manifest.chunkCount.toNat = sent.chunks.length
  bufferACount : sent.manifest.bufferACount.toNat = sent.catchUps.length
  bytes : sent.manifest.replacementEncodedBytes = .ofNat transaction.replacementJson.utf8ByteSize
  digest : sent.manifest.replacementDigest = digestBytes transaction.replacementJson
  chunks : ∀ i chunk, sent.chunks[i]? = some chunk →
    DeclaredChunk digestBytes sent.manifest i chunk
  catchUps : ∀ i catchUp, sent.catchUps[i]? = some catchUp →
    DeclaredCatchUp sent.manifest i catchUp
  commit : DeclaredCommit sent.manifest sent.commit
  text : String.join (sent.chunks.map (·.payloadFragment)) = transaction.replacementJson
  updates : sent.catchUps.map (·.update) = transaction.bufferA

/-- The messages of a sent recovery, from its start to its commit. -/
structure SentMessages (config : BroadcasterRedisPublisherConfig) (sent : SentRecovery Sim)
    (first : ReplayMessage Sim) (chunks catchUps : List (ReplayMessage Sim))
    (last : ReplayMessage Sim) : Prop where
  start : first.envelope.payload = .recoveryStart { manifest := sent.manifest }
  watermark : expectedCommit first.entry.messageSeq sent.manifest =
    .ok sent.manifest.commitWatermark
  chunks : List.Forall₂ (fun chunk message => message.envelope.payload = .recoveryChunk chunk ∧
    replayEntryEncodedSize config.streamKey config.maxlen message.entry =
      .ok chunk.encodedBytes.toNat) sent.chunks chunks
  catchUps : List.Forall₂ (fun catchUp message =>
    message.envelope.payload = .recoveryCatchUp catchUp) sent.catchUps catchUps
  commit : last.envelope.payload = .recoveryCommit sent.commit
  commitSeq : last.entry.messageSeq = sent.manifest.commitWatermark

/-! ## The publisher -/

section

variable {json : EnvelopeJson Sim} {config : BroadcasterRedisPublisherConfig} {streamId : String}

/-- A reader of an entry that is read back gets what was put into it. -/
theorem recoveryEntry_read {entries : List BroadcasterRedisStreamEntry}
    (hserde : ReadsBackAll json entries) {messageSeq currentTimeMs stateVersion : UInt64}
    {payload : BroadcasterPayload Sim} {entry : BroadcasterRedisStreamEntry}
    {message : ReplayMessage Sim}
    (h : recoveryEntry json config streamId messageSeq payload currentTimeMs stateVersion =
      .ok entry) (hmem : entry ∈ entries) (hreads : ReadsAs json entry message) :
    message.envelope.payload = payload ∧ message.entry.messageSeq = messageSeq := by
  rw [recoveryEntry, mapError_eq_ok, fromEnvelopeAt, check_bind_eq_ok] at h
  obtain ⟨-, h⟩ := h
  obtain ⟨_, -, h⟩ := bind_eq_ok.mp h
  obtain ⟨payloadJson, hjson, h⟩ := bind_eq_ok.mp h
  obtain ⟨_, -, h⟩ := bind_eq_ok.mp h
  obtain ⟨_, -, h⟩ := bind_eq_ok.mp h
  rw [check_bind_eq_ok, pure_eq_ok] at h
  obtain ⟨-, rfl⟩ := h
  have henvelope := hreads.decoded
  have hwritten := mapError_eq_ok.mp hjson
  rw [hserde _ hmem _ hwritten _ hwritten, Except.ok.injEq] at henvelope
  rw [← henvelope, hreads.same]
  exact ⟨rfl, rfl⟩

/-- What a chunk entry was built from. -/
theorem buildFrom_chunk {messageSeq : UInt64} {scope : RecoveryEntryScope} {chunkIndex : Nat}
    {fragment : PreparedRecoveryFragment} {clock : Nat → UInt64} {attempts encodedBytes : Nat}
    {built : BroadcasterRedisStreamEntry × Nat}
    (h : buildFrom json config streamId messageSeq scope chunkIndex fragment clock attempts
      encodedBytes = .ok built) :
    chunkIndex < 2 ^ 32 ∧
      validateRecoveryChunk (scope.chunk chunkIndex fragment built.2) = .ok () ∧
      ∃ currentTimeMs, recoveryEntry json config streamId messageSeq
        (.recoveryChunk (scope.chunk chunkIndex fragment built.2)) currentTimeMs
        scope.targetStateVersion = .ok built.1 := by
  induction attempts generalizing encodedBytes with
  | zero => cases h
  | succ attempts ih =>
    rw [buildFrom, check_bind_eq_ok, ensure_eq_ok] at h
    obtain ⟨hindex, h⟩ := h
    obtain ⟨chunk, hchunk, h⟩ := bind_eq_ok.mp h
    obtain ⟨entry, hentry, h⟩ := bind_eq_ok.mp h
    obtain ⟨measured, -, h⟩ := bind_eq_ok.mp h
    split at h
    case isFalse => exact ih h
    case isTrue heq =>
      obtain ⟨_, -, h⟩ := bind_eq_ok.mp h
      obtain rfl := pure_eq_ok.mp h
      rw [mapError_eq_ok, recoveryChunk_new_eq_ok] at hchunk
      obtain ⟨hvalid, rfl⟩ := hchunk
      rw [heq]
      exact ⟨hindex, hvalid, _, hentry⟩

/-- What goes into an entry that is measured and returned. -/
theorem sized_built {messageSeq currentTimeMs stateVersion : UInt64}
    {payload : BroadcasterPayload Sim} {limit : BroadcasterRedisStreamEntry → Nat}
    {entry : BroadcasterRedisStreamEntry}
    (h : (do
      let entry ← recoveryEntry json config streamId messageSeq payload currentTimeMs stateVersion
      let _ ← ensureRedisEntrySize config entry (limit entry)
      return entry) = Except.ok entry) :
    recoveryEntry json config streamId messageSeq payload currentTimeMs stateVersion = .ok entry := by
  obtain ⟨built, hbuilt, h⟩ := bind_eq_ok.mp h
  obtain ⟨_, -, h⟩ := bind_eq_ok.mp h
  obtain rfl := pure_eq_ok.mp h
  exact hbuilt

variable {digestBytes : String → String} {nextMessageSeq targetStateVersion : UInt64}
  {transaction : BroadcasterRecoveryTransaction Sim}

/-- The manifest of a transaction. -/
def transactionManifest (digestBytes : String → String) (targetStateVersion : UInt64)
    (transaction : BroadcasterRecoveryTransaction Sim) (fragments : List PreparedRecoveryFragment)
    (chunkEncodedBytes : List Nat) (commitWatermark : UInt64) : BroadcasterRecoveryManifest :=
  { recoveryId := transaction.recoveryId, targetStateVersion
    backends := transaction.backends.insertionSort fun a b => (compare a b).isLE
    chunkCount := .ofNat (chunkEncodedBytes.map UInt64.ofNat).length
    replacementEncodedBytes := .ofNat transaction.replacementJson.utf8ByteSize
    chunkEncodedBytes := chunkEncodedBytes.map .ofNat, chunkDigests := fragments.map (·.digest)
    replacementDigest := digestBytes transaction.replacementJson
    bufferACount := .ofNat transaction.bufferA.length, commitWatermark }

theorem transactionManifest_chunkCount {fragments : List PreparedRecoveryFragment}
    {chunkEncodedBytes : List Nat} {commitWatermark : UInt64}
    (h : chunkEncodedBytes.length < 2 ^ 32) :
    (transactionManifest digestBytes targetStateVersion transaction fragments chunkEncodedBytes
      commitWatermark).chunkCount.toNat = chunkEncodedBytes.length := by
  change (UInt32.ofNat _).toNat = _
  rw [List.length_map, UInt32.toNat_ofNat_of_lt' h]

theorem transactionManifest_bufferACount {fragments : List PreparedRecoveryFragment}
    {chunkEncodedBytes : List Nat} {commitWatermark : UInt64}
    (h : transaction.bufferA.length < 2 ^ 32) :
    (transactionManifest digestBytes targetStateVersion transaction fragments chunkEncodedBytes
      commitWatermark).bufferACount.toNat = transaction.bufferA.length :=
  UInt32.toNat_ofNat_of_lt' h

/-- The watermark of a manifest is the one its readers expect. -/
theorem expectedCommit_transaction {fragments : List PreparedRecoveryFragment}
    {built : List (BroadcasterRedisStreamEntry × Nat)} (hlength : built.length = fragments.length)
    (hchunks : (built.map (·.2)).length < 2 ^ 32) (hbufferA : transaction.bufferA.length < 2 ^ 32)
    (hroom : nextMessageSeq.toNat + fragments.length + transaction.bufferA.length + 1 < 2 ^ 64) :
    let watermark :=
      .ofNat (nextMessageSeq.toNat + fragments.length + transaction.bufferA.length + 1)
    expectedCommit nextMessageSeq (transactionManifest digestBytes targetStateVersion transaction
      fragments (built.map (·.2)) watermark) = .ok watermark := by
  intro watermark
  rw [expectedCommit, transactionManifest_chunkCount hchunks,
    transactionManifest_bufferACount hbufferA, List.length_map, hlength, check_bind_eq_ok,
    ensure_eq_ok, pure_eq_ok]
  exact ⟨hroom, rfl⟩

/-- The start is made of the manifest, which passes its checks. -/
theorem recoveryStartEntry_built {fragments : List PreparedRecoveryFragment}
    {chunkEncodedBytes : List Nat} {commitWatermark currentTimeMs : UInt64}
    {entry : BroadcasterRedisStreamEntry}
    (h : recoveryStartEntry json config digestBytes streamId nextMessageSeq targetStateVersion
      transaction fragments chunkEncodedBytes commitWatermark currentTimeMs = .ok entry) :
    transaction.bufferA.length < 2 ^ 32 ∧ chunkEncodedBytes.length < 2 ^ 32 ∧
      validateRecoveryManifest (transactionManifest digestBytes targetStateVersion transaction
        fragments chunkEncodedBytes commitWatermark) = .ok () ∧
      recoveryEntry json config streamId nextMessageSeq
        (.recoveryStart ⟨transactionManifest digestBytes targetStateVersion transaction fragments
          chunkEncodedBytes commitWatermark⟩)
        currentTimeMs targetStateVersion = .ok entry := by
  rw [recoveryStartEntry, check_bind_eq_ok, ensure_eq_ok] at h
  obtain ⟨hbufferA, h⟩ := h
  obtain ⟨manifest, hmanifest, h⟩ := bind_eq_ok.mp h
  obtain ⟨start, hstart, h⟩ := bind_eq_ok.mp h
  rw [mapError_eq_ok, BroadcasterRecoveryManifest.new, check_bind_eq_ok, ensure_eq_ok,
    check_bind_eq_ok, pure_eq_ok] at hmanifest
  obtain ⟨hcount, hvalid, rfl⟩ := hmanifest
  rw [mapError_eq_ok, BroadcasterRecoveryStart.new, check_bind_eq_ok, pure_eq_ok] at hstart
  obtain ⟨-, rfl⟩ := hstart
  rw [List.length_map] at hcount
  exact ⟨hbufferA, hcount, hvalid, sized_built h⟩

/-- The catch-up of an update of Buffer A. -/
def transactionCatchUp (targetStateVersion : UInt64)
    (transaction : BroadcasterRecoveryTransaction Sim) (blockIndex : Nat)
    (update : BroadcasterUpdateMessage Sim) : BroadcasterRecoveryCatchUp Sim :=
  { recoveryId := transaction.recoveryId, targetStateVersion, blockIndex := .ofNat blockIndex
    update }

/-- A catch-up is made of an update of Buffer A. -/
theorem recoveryCatchUpEntry_built {chunkCount blockIndex : Nat}
    {update : BroadcasterUpdateMessage Sim} {currentTimeMs : UInt64}
    {entry : BroadcasterRedisStreamEntry}
    (h : recoveryCatchUpEntry json config streamId nextMessageSeq targetStateVersion transaction
      chunkCount blockIndex update currentTimeMs = .ok entry) :
    validateRecoveryCatchUp (transactionCatchUp targetStateVersion transaction blockIndex update) =
        .ok () ∧
      recoveryEntry json config streamId
        (.ofNat (nextMessageSeq.toNat + 1 + chunkCount + blockIndex))
        (.recoveryCatchUp (transactionCatchUp targetStateVersion transaction blockIndex update))
        currentTimeMs targetStateVersion = .ok entry := by
  rw [recoveryCatchUpEntry, check_bind_eq_ok, ensure_eq_ok, check_bind_eq_ok, ensure_eq_ok] at h
  obtain ⟨-, -, h⟩ := h
  obtain ⟨catchUp, hcatchUp, h⟩ := bind_eq_ok.mp h
  rw [mapError_eq_ok, BroadcasterRecoveryCatchUp.new, check_bind_eq_ok, pure_eq_ok] at hcatchUp
  obtain ⟨hvalid, rfl⟩ := hcatchUp
  exact ⟨hvalid, sized_built h⟩

/-- The commit of a transaction. -/
def transactionCommit (digestBytes : String → String) (targetStateVersion : UInt64)
    (transaction : BroadcasterRecoveryTransaction Sim) (commitWatermark : UInt64) :
    BroadcasterRecoveryCommit :=
  { recoveryId := transaction.recoveryId, targetStateVersion
    backends := transaction.backends.insertionSort fun a b => (compare a b).isLE
    replacementDigest := digestBytes transaction.replacementJson
    bufferACount := .ofNat transaction.bufferA.length, commitWatermark }

/-- The commit is made of the digest and the watermark. -/
theorem recoveryCommitEntry_built {commitWatermark currentTimeMs : UInt64}
    {entry : BroadcasterRedisStreamEntry}
    (h : recoveryCommitEntry json config digestBytes streamId targetStateVersion transaction
      commitWatermark currentTimeMs = .ok entry) :
    validateRecoveryCommit (transactionCommit digestBytes targetStateVersion transaction
        commitWatermark) = .ok () ∧
      recoveryEntry json config streamId commitWatermark (.recoveryCommit (transactionCommit
        digestBytes targetStateVersion transaction commitWatermark)) currentTimeMs
        targetStateVersion = .ok entry := by
  rw [recoveryCommitEntry] at h
  obtain ⟨commit, hcommit, h⟩ := bind_eq_ok.mp h
  rw [mapError_eq_ok, BroadcasterRecoveryCommit.new, check_bind_eq_ok, pure_eq_ok] at hcommit
  obtain ⟨hvalid, rfl⟩ := hcommit
  exact ⟨hvalid, sized_built h⟩

/-- The chunks of a transaction, with their measured sizes. -/
def transactionChunks (scope : RecoveryEntryScope) (fragments : List PreparedRecoveryFragment)
    (sizes : List Nat) : List BroadcasterRecoveryChunk :=
  fragments.mapIdx fun i fragment => scope.chunk i fragment (sizes.getD i 0)

/-- The catch-ups of a transaction. -/
def transactionCatchUps (targetStateVersion : UInt64)
    (transaction : BroadcasterRecoveryTransaction Sim) : List (BroadcasterRecoveryCatchUp Sim) :=
  transaction.bufferA.mapIdx (transactionCatchUp targetStateVersion transaction)

/-- The windows of a text, joined, are the text. -/
theorem join_windows (text : String) : String.join
    ((windows recoveryFragmentTargetBytes text.toList).map String.ofList) = text := by
  rw [← String.toList_inj, String.toList_join, List.flatMap_map]
  simp only [String.toList_ofList]
  rw [List.flatMap_id', flatten_windows (by decide)]

/-- What is sent for a transaction. -/
def transactionSent (digestBytes : String → String) (targetStateVersion : UInt64)
    (transaction : BroadcasterRecoveryTransaction Sim) (fragments : List PreparedRecoveryFragment)
    (sizes : List Nat) (commitWatermark : UInt64) : SentRecovery Sim where
  manifest :=
    transactionManifest digestBytes targetStateVersion transaction fragments sizes commitWatermark
  chunks := transactionChunks ⟨transaction.recoveryId, targetStateVersion, transaction.backends⟩
    fragments sizes
  catchUps := transactionCatchUps targetStateVersion transaction
  commit := transactionCommit digestBytes targetStateVersion transaction commitWatermark

/-- What the publisher has checked when it built the entries of a transaction. -/
structure TransactionBuilt (digestBytes : String → String) (targetStateVersion : UInt64)
    (transaction : BroadcasterRecoveryTransaction Sim) (fragments : List PreparedRecoveryFragment)
    (sizes : List Nat) (commitWatermark : UInt64) : Prop where
  prepared : prepareRecoveryFragments digestBytes transaction.replacementJson = .ok fragments
  length : sizes.length = fragments.length
  chunkCount : sizes.length < 2 ^ 32
  bufferA : transaction.bufferA.length < 2 ^ 32
  manifest : validateRecoveryManifest (transactionManifest digestBytes targetStateVersion
    transaction fragments sizes commitWatermark) = .ok ()
  chunk : ∀ (i : Nat) fragment size, fragments[i]? = some fragment → sizes[i]? = some size →
    i < 2 ^ 32 ∧ validateRecoveryChunk (RecoveryEntryScope.chunk
      ⟨transaction.recoveryId, targetStateVersion, transaction.backends⟩ i fragment size) = .ok ()
  catchUp : ∀ (i : Nat) update, transaction.bufferA[i]? = some update →
    validateRecoveryCatchUp (transactionCatchUp targetStateVersion transaction i update) = .ok ()
  commit : validateRecoveryCommit (transactionCommit digestBytes targetStateVersion transaction
    commitWatermark) = .ok ()

/-- **What is built** describes the transaction. -/
theorem TransactionBuilt.describes {fragments : List PreparedRecoveryFragment} {sizes : List Nat}
    {commitWatermark : UInt64} (h : TransactionBuilt digestBytes targetStateVersion transaction
      fragments sizes commitWatermark) :
    (transactionSent digestBytes targetStateVersion transaction fragments sizes
      commitWatermark).Describes digestBytes transaction targetStateVersion := by
  have hfragments := (prepareRecoveryFragments_eq_ok.mp h.prepared).2
  refine ⟨h.manifest, rfl, fun _ => (List.perm_insertionSort _ _).mem_iff, ?_, ?_, rfl, rfl, ?_, ?_,
    ⟨h.commit, rfl, rfl, rfl, rfl, rfl, rfl⟩, ?_, ?_⟩
  · change (transactionManifest _ _ _ _ _ _).chunkCount.toNat = (transactionChunks _ _ _).length
    rw [transactionManifest_chunkCount h.chunkCount, transactionChunks, List.length_mapIdx,
      h.length]
  · change (transactionManifest _ _ _ _ _ _).bufferACount.toNat = (transactionCatchUps _ _).length
    rw [transactionManifest_bufferACount h.bufferA, transactionCatchUps, List.length_mapIdx]
  · -- the chunks have the sizes, the windows and the digests of the fragments
    intro i chunk hi
    change (transactionChunks _ _ _)[i]? = _ at hi
    rw [transactionChunks, List.getElem?_mapIdx, Option.map_eq_some_iff] at hi
    obtain ⟨fragment, hfragment, rfl⟩ := hi
    have hlt := (List.getElem?_eq_some_iff.mp hfragment).1
    rw [← h.length] at hlt
    have hsize := List.getElem?_eq_getElem hlt
    obtain ⟨hindex, hvalid⟩ := h.chunk i fragment _ hfragment hsize
    rw [List.getD_eq_getElem?_getD, hsize, Option.getD_some]
    refine ⟨hvalid, rfl, rfl, rfl, UInt32.toNat_ofNat_of_lt' hindex, ?_, ?_, ?_⟩
    · change (sizes.map UInt64.ofNat)[i]? = _
      rw [List.getElem?_map, hsize]
      rfl
    · rw [hfragments, List.getElem?_map, Option.map_eq_some_iff] at hfragment
      obtain ⟨window, -, rfl⟩ := hfragment
      rfl
    · change (fragments.map (·.digest))[i]? = _
      rw [List.getElem?_map, hfragment]
      rfl
  · intro i catchUp hi
    change (transactionCatchUps _ _)[i]? = _ at hi
    rw [transactionCatchUps, List.getElem?_mapIdx, Option.map_eq_some_iff] at hi
    obtain ⟨update, hupdate, rfl⟩ := hi
    have hlt := (List.getElem?_eq_some_iff.mp hupdate).1
    exact ⟨h.catchUp i update hupdate, rfl, rfl,
      UInt32.toNat_ofNat_of_lt' (lt_trans hlt h.bufferA)⟩
  · -- the windows of the replacement are joined again
    change String.join ((transactionChunks _ _ _).map _) = _
    have hpayloads : (transactionChunks ⟨transaction.recoveryId, targetStateVersion,
        transaction.backends⟩ fragments sizes).map (·.payloadFragment) =
        fragments.map (·.payload) := by
      refine List.ext_getElem? fun i => ?_
      simp [transactionChunks, RecoveryEntryScope.chunk, Function.comp_def]
    have hwindows : fragments.map (·.payload) = (windows recoveryFragmentTargetBytes
        transaction.replacementJson.toList).map String.ofList := by
      rw [hfragments, List.map_map]
      rfl
    rw [hpayloads, hwindows, join_windows]
  · change (transactionCatchUps _ _).map _ = _
    refine List.ext_getElem? fun i => ?_
    simp [transactionCatchUps, transactionCatchUp, Function.comp_def]

/-- What is known of the entries of a transaction: what the publisher has checked, and what went into
each of them. -/
structure EntriesBuilt (json : EnvelopeJson Sim) (config : BroadcasterRedisPublisherConfig)
    (digestBytes : String → String) (streamId : String)
    (nextMessageSeq targetStateVersion : UInt64) (transaction : BroadcasterRecoveryTransaction Sim)
    (fragments : List PreparedRecoveryFragment) (built : List (BroadcasterRedisStreamEntry × Nat))
    (commitWatermark : UInt64) (start : BroadcasterRedisStreamEntry)
    (caughtUp : List BroadcasterRedisStreamEntry) (commit : BroadcasterRedisStreamEntry) :
    Prop where
  checked : TransactionBuilt digestBytes targetStateVersion transaction fragments
    (built.map (·.2)) commitWatermark
  watermark : expectedCommit nextMessageSeq (transactionManifest digestBytes targetStateVersion
    transaction fragments (built.map (·.2)) commitWatermark) = .ok commitWatermark
  start : ∃ currentTimeMs, recoveryEntry json config streamId nextMessageSeq
    (.recoveryStart ⟨transactionManifest digestBytes targetStateVersion transaction fragments
      (built.map (·.2)) commitWatermark⟩) currentTimeMs targetStateVersion = .ok start
  chunk : ∀ i b, built[i]? = some b → ∃ fragment messageSeq currentTimeMs,
    fragments[i]? = some fragment ∧ recoveryEntry json config streamId messageSeq
      (.recoveryChunk (RecoveryEntryScope.chunk
        ⟨transaction.recoveryId, targetStateVersion, transaction.backends⟩ i fragment b.2))
      currentTimeMs targetStateVersion = .ok b.1
  size : ∀ b ∈ built, redisEntryEncodedSize config b.1 = .ok b.2 ∧ b.2 < 2 ^ 64
  caughtUpLength : caughtUp.length = transaction.bufferA.length
  catchUp : ∀ i entry, caughtUp[i]? = some entry → ∃ update messageSeq currentTimeMs,
    transaction.bufferA[i]? = some update ∧ recoveryEntry json config streamId messageSeq
      (.recoveryCatchUp (transactionCatchUp targetStateVersion transaction i update))
      currentTimeMs targetStateVersion = .ok entry
  commit : ∃ currentTimeMs, recoveryEntry json config streamId commitWatermark
    (.recoveryCommit (transactionCommit digestBytes targetStateVersion transaction commitWatermark))
    currentTimeMs targetStateVersion = .ok commit

/-- A chunk entry of a transaction, and the checks it has passed. -/
theorem chunk_built {scope : RecoveryEntryScope} {fragments : List PreparedRecoveryFragment}
    {clock : Nat → Nat → UInt64} {built : List (BroadcasterRedisStreamEntry × Nat)}
    (h : recoveryChunkEntries json config streamId nextMessageSeq scope fragments clock = .ok built)
    {i : Nat} {b : BroadcasterRedisStreamEntry × Nat} (hi : built[i]? = some b) :
    ∃ fragment, fragments[i]? = some fragment ∧ i < 2 ^ 32 ∧
      validateRecoveryChunk (scope.chunk i fragment b.2) = .ok () ∧
      ∃ messageSeq currentTimeMs, recoveryEntry json config streamId messageSeq
        (.recoveryChunk (scope.chunk i fragment b.2)) currentTimeMs scope.targetStateVersion =
          .ok b.1 := by
  obtain ⟨fragment, hfragment, hbuild⟩ := (mapM_zipIdx_eq_ok h).2 i b hi
  rw [check_bind_eq_ok] at hbuild
  obtain ⟨hindex, hvalid, _, hentry⟩ := buildFrom_chunk hbuild.2
  exact ⟨fragment, hfragment, hindex, hvalid, _, _, hentry⟩

/-- **What the publisher builds** for a transaction. -/
theorem recoveryEntries_built {clock : RecoveryClock}
    {entries : List BroadcasterRedisStreamEntry}
    (h : recoveryEntries json config digestBytes streamId nextMessageSeq targetStateVersion
      transaction clock = .ok entries) :
    ∃ fragments built commitWatermark start caughtUp commit,
      entries = start :: (built.map (·.1) ++ caughtUp) ++ [commit] ∧
        EntriesBuilt json config digestBytes streamId nextMessageSeq targetStateVersion transaction
          fragments built commitWatermark start caughtUp commit := by
  -- one statement of the source after the other
  obtain ⟨fragments, hfragments, h⟩ := bind_eq_ok.mp h
  obtain ⟨watermark, hwatermark, h⟩ := bind_eq_ok.mp h
  obtain ⟨built, hbuilt, h⟩ := bind_eq_ok.mp h
  obtain ⟨start, hstart, h⟩ := bind_eq_ok.mp h
  obtain ⟨caughtUp, hcaughtUp, h⟩ := bind_eq_ok.mp h
  obtain ⟨commit, hcommit, h⟩ := bind_eq_ok.mp h
  obtain ⟨_, -, h⟩ := bind_eq_ok.mp h
  obtain rfl := pure_eq_ok.mp h
  rw [commitWatermark, check_bind_eq_ok, ensure_eq_ok, pure_eq_ok] at hwatermark
  obtain ⟨hroom, rfl⟩ := hwatermark
  obtain ⟨hbufferA, hchunkCount, hmanifest, hstart⟩ := recoveryStartEntry_built hstart
  obtain ⟨hvalidCommit, hcommit⟩ := recoveryCommitEntry_built hcommit
  obtain ⟨hcatchUpCount, hcaughtUp⟩ := mapM_zipIdx_eq_ok hcaughtUp
  have hlength := (mapM_zipIdx_eq_ok hbuilt).1
  -- the loop over Buffer A makes one entry for each update, at its index
  have hcatchUp : ∀ i entry, caughtUp[i]? = some entry → ∃ update, transaction.bufferA[i]? =
      some update ∧ _ :=
    fun i entry hi => (hcaughtUp i entry hi).imp fun _ hentry =>
      hentry.imp_right recoveryCatchUpEntry_built
  refine ⟨fragments, built,
    .ofNat (nextMessageSeq.toNat + fragments.length + transaction.bufferA.length + 1), start,
    caughtUp, commit, rfl, ?_⟩
  refine { checked := ?checked
           watermark := expectedCommit_transaction hlength hchunkCount hbufferA hroom
           start := ⟨_, hstart⟩, chunk := ?chunk, size := ?size, caughtUpLength := hcatchUpCount
           catchUp := ?catchUp, commit := ⟨_, hcommit⟩ }
  case checked =>
    refine { prepared := hfragments, length := by rw [List.length_map, hlength]
             chunkCount := hchunkCount, bufferA := hbufferA, manifest := hmanifest
             chunk := ?_, catchUp := ?_, commit := hvalidCommit }
    · intro i fragment size hfragment hsize
      rw [List.getElem?_map, Option.map_eq_some_iff] at hsize
      obtain ⟨b, hb, rfl⟩ := hsize
      obtain ⟨fragment', hfragment', hindex, hvalid, -⟩ := chunk_built hbuilt hb
      rw [hfragment] at hfragment'
      obtain rfl := Option.some.inj hfragment'
      exact ⟨hindex, hvalid⟩
    · intro i update hupdate
      have hlt := (List.getElem?_eq_some_iff.mp hupdate).1
      rw [← hcatchUpCount] at hlt
      obtain ⟨update', hupdate', hvalid, -⟩ := hcatchUp i _ (List.getElem?_eq_getElem hlt)
      rw [hupdate] at hupdate'
      obtain rfl := Option.some.inj hupdate'
      exact hvalid
  case chunk =>
    intro i b hi
    obtain ⟨fragment, hfragment, -, -, messageSeq, currentTimeMs, hentry⟩ := chunk_built hbuilt hi
    exact ⟨fragment, messageSeq, currentTimeMs, hfragment, hentry⟩
  case size =>
    intro b hb
    obtain ⟨hsize, hle⟩ := recoveryChunkEntries_size hbuilt b hb
    exact ⟨hsize, lt_of_le_of_lt hle (by decide)⟩
  case catchUp =>
    intro i entry hi
    obtain ⟨update, hupdate, -, hentry⟩ := hcatchUp i entry hi
    exact ⟨update, _, _, hupdate, hentry⟩

section

variable {fragments : List PreparedRecoveryFragment}
  {built : List (BroadcasterRedisStreamEntry × Nat)} {commitWatermark : UInt64}
  {start commit : BroadcasterRedisStreamEntry} {caughtUp entries : List BroadcasterRedisStreamEntry}

/-- The messages of the chunks. -/
theorem EntriesBuilt.chunkMessages (h : EntriesBuilt json config digestBytes streamId nextMessageSeq
      targetStateVersion transaction fragments built commitWatermark start caughtUp commit)
    (hserde : ReadsBackAll json entries) (hsub : built.map (·.1) ⊆ entries)
    {chunks : List (ReplayMessage Sim)}
    (hchunks : List.Forall₂ (ReadsAs json) (built.map (·.1)) chunks) :
    List.Forall₂ (fun chunk message => message.envelope.payload = .recoveryChunk chunk ∧
        replayEntryEncodedSize config.streamKey config.maxlen message.entry =
          .ok chunk.encodedBytes.toNat)
      (transactionChunks ⟨transaction.recoveryId, targetStateVersion, transaction.backends⟩
        fragments (built.map (·.2))) chunks := by
  refine forall₂_of_getElem? ?_ fun i chunk message hi hmessage => ?_
  · rw [transactionChunks, List.length_mapIdx, ← h.checked.length, ← hchunks.length_eq,
      List.length_map, List.length_map]
  · obtain ⟨entry, hentry, hreads⟩ := forall₂_getElem? hchunks hmessage
    have hmem := hsub (List.mem_of_getElem? hentry)
    rw [List.getElem?_map, Option.map_eq_some_iff] at hentry
    obtain ⟨b, hb, rfl⟩ := hentry
    obtain ⟨fragment, _, _, hfragment, hentry⟩ := h.chunk i b hb
    obtain ⟨hsize, hlt⟩ := h.size b (List.mem_of_getElem? hb)
    have hsizeAt : (built.map (·.2)).getD i 0 = b.2 := by
      rw [List.getD_eq_getElem?_getD, List.getElem?_map, hb]
      rfl
    rw [transactionChunks, List.getElem?_mapIdx, hfragment, Option.map_some, hsizeAt,
      Option.some.injEq] at hi
    subst hi
    refine ⟨(recoveryEntry_read hserde hentry hmem hreads).1, ?_⟩
    rw [hreads.same, ← mapError_eq_ok, ← redisEntryEncodedSize, hsize]
    exact congrArg Except.ok (UInt64.toNat_ofNat_of_lt' hlt).symm

/-- The messages of the catch-ups. -/
theorem EntriesBuilt.catchUpMessages (h : EntriesBuilt json config digestBytes streamId
      nextMessageSeq targetStateVersion transaction fragments built commitWatermark start caughtUp
      commit)
    (hserde : ReadsBackAll json entries) (hsub : caughtUp ⊆ entries)
    {catchUps : List (ReplayMessage Sim)}
    (hcatchUps : List.Forall₂ (ReadsAs json) caughtUp catchUps) :
    List.Forall₂ (fun catchUp message => message.envelope.payload = .recoveryCatchUp catchUp)
      (transactionCatchUps targetStateVersion transaction) catchUps := by
  refine forall₂_of_getElem? ?_ fun i catchUp message hi hmessage => ?_
  · rw [transactionCatchUps, List.length_mapIdx, ← h.caughtUpLength, hcatchUps.length_eq]
  · obtain ⟨entry, hentry, hreads⟩ := forall₂_getElem? hcatchUps hmessage
    obtain ⟨update, _, _, hupdate, hbuilt⟩ := h.catchUp i entry hentry
    rw [transactionCatchUps, List.getElem?_mapIdx, hupdate, Option.map_some,
      Option.some.injEq] at hi
    subst hi
    exact (recoveryEntry_read hserde hbuilt (hsub (List.mem_of_getElem? hentry)) hreads).1

end

/-- **The entries of a transaction** carry what describes it. -/
theorem recoveryEntries_sent {clock : RecoveryClock}
    {entries : List BroadcasterRedisStreamEntry} {messages : List (ReplayMessage Sim)}
    (h : recoveryEntries json config digestBytes streamId nextMessageSeq targetStateVersion
      transaction clock = .ok entries) (hserde : ReadsBackAll json entries)
    (hmessages : List.Forall₂ (ReadsAs json) entries messages) :
    ∃ (sent : SentRecovery Sim) (first last : ReplayMessage Sim)
      (chunks catchUps : List (ReplayMessage Sim)),
      messages = first :: (chunks ++ catchUps) ++ [last] ∧
        first.entry.messageSeq = nextMessageSeq ∧
        sent.Describes digestBytes transaction targetStateVersion ∧
        SentMessages config sent first chunks catchUps last := by
  obtain ⟨fragments, built, watermark, start, caughtUp, commit, rfl, hbuilt⟩ :=
    recoveryEntries_built h
  obtain ⟨first, _, hfirst, hmore, rfl⟩ := List.forall₂_cons_left_iff.mp hmessages
  obtain ⟨_, lasts, rfl, hinside, hlasts⟩ := forall₂_append_left hmore
  obtain ⟨chunks, catchUps, rfl, hchunks, hcatchUps⟩ := forall₂_append_left hinside
  obtain ⟨last, rest, hlast, hrest, rfl⟩ := List.forall₂_cons_left_iff.mp hlasts
  obtain rfl := List.forall₂_nil_left_iff.mp hrest
  obtain ⟨_, hstart⟩ := hbuilt.start
  obtain ⟨_, hcommit⟩ := hbuilt.commit
  obtain ⟨hstartPayload, hstartSeq⟩ := recoveryEntry_read hserde hstart (by simp) hfirst
  obtain ⟨hcommitPayload, hcommitSeq⟩ := recoveryEntry_read hserde hcommit (by simp) hlast
  refine ⟨_, first, last, chunks, catchUps, rfl, hstartSeq, hbuilt.checked.describes,
    ⟨hstartPayload, ?_, hbuilt.chunkMessages hserde ?_ hchunks,
      hbuilt.catchUpMessages hserde ?_ hcatchUps, hcommitPayload, hcommitSeq⟩⟩
  · rw [hstartSeq]
    exact hbuilt.watermark
  · intro entry hentry
    simp [hentry]
  · intro entry hentry
    simp [hentry]

end

end TychoSimulationServer
