import TychoSimulationServer.RecoveryChunks

/-!
# The size a chunk names

`build_recovery_chunk_entry` writes the size of an entry into the chunk inside it and measures the
entry again. Whether a round fails does not depend on the size it starts from, so either the first
round fails, or no round does and the sizes settle on one that its own entry has.
-/

namespace TychoSimulationServer

open Fallible JsonText SelfMeasure

variable {Sim : Type} {json : EnvelopeJson Sim} {config : BroadcasterRedisPublisherConfig}
  {streamId : String} {messageSeq : UInt64} {scope : RecoveryEntryScope} {chunkIndex : Nat}
  {fragment : PreparedRecoveryFragment} {clock : Nat → UInt64}

/-! ## One round

A round makes the entry of the chunk with some size written into it, and measures the entry. -/

/-- A round of the loop: the chunk that names `encodedBytes`, its entry, and the size of the
entry. -/
def measureChunk (json : EnvelopeJson Sim) (config : BroadcasterRedisPublisherConfig)
    (streamId : String) (messageSeq : UInt64) (scope : RecoveryEntryScope) (chunkIndex : Nat)
    (fragment : PreparedRecoveryFragment) (currentTimeMs : UInt64) (encodedBytes : Nat) :
    Except PublishError (BroadcasterRedisStreamEntry × Nat) := do
  ensure (chunkIndex < 2 ^ 32) (.text "out of range integral type conversion attempted")
  let chunk ← (BroadcasterRecoveryChunk.new scope.recoveryId scope.targetStateVersion
    scope.backends (.ofNat chunkIndex) (.ofNat encodedBytes) fragment.digest
    fragment.payload).mapError .contract
  let entry ← recoveryEntry json config streamId messageSeq (.recoveryChunk chunk)
    currentTimeMs scope.targetStateVersion
  let measured ← redisEntryEncodedSize config entry
  return (entry, measured)

theorem buildFrom_succ {attempts encodedBytes : Nat} :
    buildFrom json config streamId messageSeq scope chunkIndex fragment clock (attempts + 1)
      encodedBytes = (do
        let built ← measureChunk json config streamId messageSeq scope chunkIndex fragment
          (clock attempts) encodedBytes
        if built.2 = encodedBytes then do
          let _ ← ensureRedisEntrySize config built.1 recoveryRedisEntryMaxBytes
          return built
        else
          buildFrom json config streamId messageSeq scope chunkIndex fragment clock attempts
            built.2) := by
  simp only [buildFrom, measureChunk, bind_assoc, pure_bind]

/-- The error after the last round. -/
def notConverged : PublishError :=
  .text "broadcaster recovery chunk encoded size did not converge"

/-- A round never reports the error of the loop. -/
theorem measureChunk_failsWith {currentTimeMs : UInt64} {encodedBytes : Nat} :
    FailsWith (· ≠ notConverged) (measureChunk json config streamId messageSeq scope chunkIndex
      fragment currentTimeMs encodedBytes) := by
  have hcontract : ∀ {α : Type} (x : Except BroadcasterContractError α),
      FailsWith (· ≠ notConverged) (x.mapError PublishError.contract) := by
    intro α x
    cases x with
    | error e => exact .error (fun h => nomatch h)
    | ok a => exact .ok a
  have hsize : ∀ entry, FailsWith (· ≠ notConverged) (redisEntryEncodedSize config entry) := by
    intro entry
    -- an error about an id begins with a capital R, the error of the loop does not
    have hid : ∀ text, redisEntryId entry = .error text → text.toList.head? = some 'R' := by
      intro text htext
      rw [redisEntryId] at htext
      split at htext
      · cases htext
        decide
      · split at htext
        · cases htext
          rw [String.toList_append]
          rfl
        · cases htext
    intro e he hconverged
    subst hconverged
    cases hentry : redisEntryId entry with
    | ok entryId =>
      simp only [redisEntryEncodedSize, replayEntryEncodedSize, hentry] at he
      cases he
    | error text =>
      simp only [redisEntryEncodedSize, replayEntryEncodedSize, hentry] at he
      have hhead := hid text hentry
      cases he
      revert hhead
      decide
  refine .bind (.ensure (by decide)) fun _ => .bind (hcontract _) fun _ => .bind (hcontract _)
    fun _ => .bind (hsize _) fun _ => .ok _

/-! ## What a round needs

Whether a round can make its entry does not depend on the size that is written into it. So if one
round succeeds, so do all. -/

/-- What a round checks. The size it starts from is no part of it. -/
structure ChunkBuilds (streamId : String) (messageSeq : UInt64) (scope : RecoveryEntryScope)
    (chunkIndex : Nat) (fragment : PreparedRecoveryFragment) : Prop where
  index : chunkIndex < 2 ^ 32
  scope : scope.Valid
  digest : rustTrim fragment.digest ≠ ""
  payload : rustTrim fragment.payload ≠ ""
  streamId : rustTrim streamId ≠ ""
  messageSeq : messageSeq ≠ 0

/-- A chunk that passes its checks has a scope that its callers vouch for. -/
theorem scope_of_validate {encodedBytes : Nat}
    (h : validateRecoveryChunk (scope.chunk chunkIndex fragment encodedBytes) = .ok ()) :
    scope.Valid ∧ rustTrim fragment.digest ≠ "" ∧ rustTrim fragment.payload ≠ "" := by
  have hsort := List.perm_insertionSort (fun a b => (compare a b).isLE) scope.backends
  rw [validateRecoveryChunk, validateRecoveryBackends] at h
  simp only [check_bind_eq_ok, requireRecoveryText, requireRecoveryVersion, ensure_eq_ok,
    validateUniqueBackendEntries_eq_ok] at h
  obtain ⟨hrecovery, hversion, ⟨hsome, hnodup⟩, -, hdigest, hpayload⟩ := h
  refine ⟨⟨hrecovery, hversion, fun hnil => ?_, hsort.nodup_iff.mp hnodup⟩, hdigest, hpayload⟩
  apply hsome
  change scope.backends.insertionSort _ = []
  rw [hnil]
  rfl

/-- An entry that is made has a stream and a number. -/
theorem stream_of_recoveryEntry {payload : BroadcasterPayload Sim}
    {currentTimeMs stateVersion : UInt64} {entry : BroadcasterRedisStreamEntry}
    (h : recoveryEntry json config streamId messageSeq payload currentTimeMs stateVersion =
      .ok entry) : rustTrim streamId ≠ "" ∧ messageSeq ≠ 0 := by
  rw [recoveryEntry, mapError_eq_ok, fromEnvelopeAt, check_bind_eq_ok] at h
  obtain ⟨-, h⟩ := h
  obtain ⟨backends, -, h⟩ := bind_eq_ok.mp h
  obtain ⟨payloadJson, -, h⟩ := bind_eq_ok.mp h
  obtain ⟨stream, hstream, h⟩ := bind_eq_ok.mp h
  obtain ⟨scopeText, -, h⟩ := bind_eq_ok.mp h
  rw [check_bind_eq_ok, BroadcasterRedisStreamEntry.validate, check_bind_eq_ok] at h
  obtain ⟨⟨-, h⟩, -⟩ := h
  obtain ⟨_, -, h⟩ := bind_eq_ok.mp h
  obtain ⟨_, -, h⟩ := bind_eq_ok.mp h
  rw [check_bind_eq_ok, ensure_eq_ok] at h
  rw [requiredRedisField, check_bind_eq_ok, ensure_eq_ok] at hstream
  exact ⟨hstream.1, h.1⟩

/-- The size of the entry of a chunk whose size takes so many digits. -/
def roundBytes (config : BroadcasterRedisPublisherConfig) (streamId entryId : String)
    (messageSeq : UInt64) (scope : RecoveryEntryScope) (chunkIndex : Nat)
    (fragment : PreparedRecoveryFragment) (currentTimeMs : UInt64) (digits : Nat) : Nat :=
  let chunk := scope.chunk chunkIndex fragment 1
  min (commandBytes config streamId entryId messageSeq chunk currentTimeMs +
    respBulkStringSize (chunkFrameBytes streamId messageSeq chunk + digits +
      escapedSize fragment.payload)) usizeMax

/-- Clocks with as many digits measure the same. -/
theorem roundBytes_congr {entryId : String} {currentTimeMs other : UInt64}
    (h : decimalDigits other.toNat = decimalDigits currentTimeMs.toNat) :
    roundBytes config streamId entryId messageSeq scope chunkIndex fragment other =
      roundBytes config streamId entryId messageSeq scope chunkIndex fragment currentTimeMs := by
  funext digits
  rw [roundBytes, roundBytes, commandBytes_congr h]

/-- A size is positive and below the saturation of the sum. -/
theorem roundBytes_bounds {entryId : String} {currentTimeMs : UInt64} {digits : Nat} :
    0 < roundBytes config streamId entryId messageSeq scope chunkIndex fragment currentTimeMs
      digits ∧ roundBytes config streamId entryId messageSeq scope chunkIndex fragment currentTimeMs
        digits < 2 ^ 64 := by
  rw [roundBytes, commandBytes, usizeMax]
  omega

/-- A digit more makes the entry longer, by two bytes at most. -/
theorem growsSlowly_roundBytes {entryId : String} {currentTimeMs : UInt64} : GrowsSlowly
    (roundBytes config streamId entryId messageSeq scope chunkIndex fragment currentTimeMs) :=
  growsSlowly_argument _ _ _

/-- The entry of a round that can be built. -/
theorem recoveryEntry_of_builds (config : BroadcasterRedisPublisherConfig) (currentTimeMs : UInt64)
    (hbuilds : ChunkBuilds streamId messageSeq scope chunkIndex fragment) {encodedBytes : Nat}
    (hserde : SerdeChunk json streamId messageSeq (scope.chunk chunkIndex fragment encodedBytes))
    (hvalid : validateRecoveryChunk (scope.chunk chunkIndex fragment encodedBytes) = .ok ()) :
    recoveryEntry json config streamId messageSeq
      (.recoveryChunk (scope.chunk chunkIndex fragment encodedBytes)) currentTimeMs
      scope.targetStateVersion = .ok (chunkEntry config streamId messageSeq
        (scope.chunk chunkIndex fragment encodedBytes) currentTimeMs) := by
  obtain ⟨hsome, hnodup⟩ := hbuilds.scope.sorted
  exact recoveryEntry_of_valid hserde hvalid hbuilds.streamId hbuilds.messageSeq hsome hnodup

/-- **A round that can be built is built**, from whatever size it starts. -/
theorem measureChunk_of_builds (config : BroadcasterRedisPublisherConfig) (currentTimeMs : UInt64)
    (hbuilds : ChunkBuilds streamId messageSeq scope chunkIndex fragment) {encodedBytes : Nat}
    (hserde : validateRecoveryChunk (scope.chunk chunkIndex fragment encodedBytes) = .ok () →
      SerdeChunk json streamId messageSeq (scope.chunk chunkIndex fragment encodedBytes))
    {entryId : String} (hid : redisEntryId (chunkEntry config streamId messageSeq
      (scope.chunk chunkIndex fragment encodedBytes) currentTimeMs) = .ok entryId)
    (hpos : 0 < encodedBytes) (hlt : encodedBytes < 2 ^ 64) :
    measureChunk json config streamId messageSeq scope chunkIndex fragment currentTimeMs
      encodedBytes = .ok
        (chunkEntry config streamId messageSeq (scope.chunk chunkIndex fragment encodedBytes)
          currentTimeMs,
        roundBytes config streamId entryId messageSeq scope chunkIndex fragment currentTimeMs
          (digits encodedBytes)) := by
  have hvalid : validateRecoveryChunk (scope.chunk chunkIndex fragment encodedBytes) = .ok () :=
    (validate_chunk_iff hbuilds.scope hbuilds.digest hpos hlt).mpr hbuilds.payload
  have hentry := recoveryEntry_of_builds config currentTimeMs hbuilds (hserde hvalid) hvalid
  have hdigits : (scope.chunk chunkIndex fragment encodedBytes).encodedBytes.toNat = encodedBytes :=
    UInt64.toNat_ofNat_of_lt hlt
  have hmeasured := encodedSize_chunkEntry hid
  rw [utf8ByteSize_recoveryChunkJson, hdigits] at hmeasured
  rw [measureChunk, check_bind_eq_ok, ensure_eq_ok]
  refine ⟨hbuilds.index, bind_eq_ok.mpr ⟨_, mapError_eq_ok.mpr
    (recoveryChunk_new_eq_ok.mpr ⟨hvalid, rfl⟩), bind_eq_ok.mpr ⟨_, hentry, ?_⟩⟩⟩
  exact bind_eq_ok.mpr ⟨_, hmeasured, rfl⟩

/-- **A round that is built** had what it needs. -/
theorem builds_of_measureChunk {encodedBytes : Nat}
    (hserde : validateRecoveryChunk (scope.chunk chunkIndex fragment encodedBytes) = .ok () →
      SerdeChunk json streamId messageSeq (scope.chunk chunkIndex fragment encodedBytes))
    {currentTimeMs : UInt64} {built : BroadcasterRedisStreamEntry × Nat}
    (h : measureChunk json config streamId messageSeq scope chunkIndex fragment currentTimeMs
      encodedBytes = .ok built) :
    ChunkBuilds streamId messageSeq scope chunkIndex fragment ∧
      ∃ entryId, redisEntryId (chunkEntry config streamId messageSeq
        (scope.chunk chunkIndex fragment encodedBytes) currentTimeMs) = .ok entryId := by
  rw [measureChunk, check_bind_eq_ok, ensure_eq_ok] at h
  obtain ⟨hindex, h⟩ := h
  obtain ⟨chunk, hchunk, h⟩ := bind_eq_ok.mp h
  obtain ⟨entry, hentry, h⟩ := bind_eq_ok.mp h
  obtain ⟨measured, hmeasured, -⟩ := bind_eq_ok.mp h
  obtain ⟨hvalid, rfl⟩ := recoveryChunk_new_eq_ok.mp (mapError_eq_ok.mp hchunk)
  obtain ⟨hscope, hdigest, hpayload⟩ := scope_of_validate hvalid
  obtain ⟨hstream, hseq⟩ := stream_of_recoveryEntry hentry
  have hbuilds : ChunkBuilds streamId messageSeq scope chunkIndex fragment :=
    ⟨hindex, hscope, hdigest, hpayload, hstream, hseq⟩
  refine ⟨hbuilds, ?_⟩
  have hmade := recoveryEntry_of_builds config currentTimeMs hbuilds (hserde hvalid) hvalid
  obtain rfl := Except.ok.inj (hmade.symm.trans hentry)
  obtain ⟨entryId, hid, -⟩ := bind_eq_ok.mp (mapError_eq_ok.mp hmeasured)
  exact ⟨entryId, hid⟩

/-! ## The loop

The clock may move from round to round; the size of an entry depends on it through its digits
only. -/

/-- A round measures its entry. -/
theorem size_of_measureChunk {currentTimeMs : UInt64} {encodedBytes size : Nat}
    {entry : BroadcasterRedisStreamEntry}
    (h : measureChunk json config streamId messageSeq scope chunkIndex fragment currentTimeMs
      encodedBytes = .ok (entry, size)) : redisEntryEncodedSize config entry = .ok size := by
  rw [measureChunk, check_bind_eq_ok] at h
  obtain ⟨chunk, -, h⟩ := bind_eq_ok.mp h.2
  obtain ⟨made, -, h⟩ := bind_eq_ok.mp h
  obtain ⟨measured, hmeasured, h⟩ := bind_eq_ok.mp h
  obtain ⟨rfl, rfl⟩ := Prod.mk.inj (pure_eq_ok.mp h)
  exact hmeasured

/-- The size as the last step of the loop judges it. -/
def judgeSize (entry : BroadcasterRedisStreamEntry) (size : Nat) :
    Except PublishError (BroadcasterRedisStreamEntry × Nat) :=
  if size ≤ recoveryRedisEntryMaxBytes then .ok (entry, size)
  else .error (.oversized .recoveryChunk size recoveryRedisEntryMaxBytes)

theorem ensure_judges {entry : BroadcasterRedisStreamEntry} {size : Nat}
    (hkind : entry.kind = .recoveryChunk) (hsize : redisEntryEncodedSize config entry = .ok size) :
    (do
      let _ ← ensureRedisEntrySize config entry recoveryRedisEntryMaxBytes
      return (entry, size)) = judgeSize entry size := by
  rw [ensureRedisEntrySize, hsize, judgeSize, hkind]
  change (do ensure _ _; return _) >>= _ = _
  rw [ensure]
  split
  case isTrue => rfl
  case isFalse => rfl

/-- **The loop follows the sizes**: when they settle, a round that starts from the size it measures
is reached. -/
theorem buildFrom_of_settle (hbuilds : ChunkBuilds streamId messageSeq scope chunkIndex fragment)
    (hserde : ∀ encodedBytes,
      validateRecoveryChunk (scope.chunk chunkIndex fragment encodedBytes) = .ok () →
      SerdeChunk json streamId messageSeq (scope.chunk chunkIndex fragment encodedBytes))
    {currentTimeMs : UInt64}
    (hclock : ∀ attempt, decimalDigits (clock attempt).toNat = decimalDigits currentTimeMs.toNat)
    {entryId : String} (hid : redisEntryId (chunkEntry config streamId messageSeq
      (scope.chunk chunkIndex fragment 1) currentTimeMs) = .ok entryId)
    {attempts encodedBytes settled : Nat} (hpos : 0 < encodedBytes) (hlt : encodedBytes < 2 ^ 64)
    (h : settle (roundBytes config streamId entryId messageSeq scope chunkIndex fragment
      currentTimeMs) attempts encodedBytes = some settled) :
    ∃ attempt < attempts, ∃ entry,
      measureChunk json config streamId messageSeq scope chunkIndex fragment (clock attempt)
        settled = .ok (entry, settled) ∧
      buildFrom json config streamId messageSeq scope chunkIndex fragment clock attempts
        encodedBytes = judgeSize entry settled := by
  induction attempts generalizing encodedBytes with
  | zero => cases h
  | succ attempts ih =>
    have hround := measureChunk_of_builds config (clock attempts) hbuilds (hserde encodedBytes)
      hid hpos hlt
    rw [roundBytes_congr (hclock attempts)] at hround
    rw [settle] at h
    rw [buildFrom_succ, hround]
    split at h
    case isTrue hfixed =>
      obtain rfl := Option.some.inj h
      rw [hfixed] at hround
      refine ⟨attempts, Nat.lt_succ_self _, _, hround, ?_⟩
      change (if _ = _ then _ else _) = _
      rw [if_pos hfixed, hfixed]
      exact ensure_judges rfl (size_of_measureChunk hround)
    case isFalse hmoved =>
      obtain ⟨attempt, hlater, entry, hentry, hbuilt⟩ := ih roundBytes_bounds.1 roundBytes_bounds.2 h
      refine ⟨attempt, Nat.lt_succ_of_lt hlater, entry, hentry, ?_⟩
      change (if _ = _ then _ else _) = _
      rw [if_neg hmoved]
      exact hbuilt

/-- An entry of a chunk that names the size of the entry. -/
structure NamesItsSize (config : BroadcasterRedisPublisherConfig) (streamId : String)
    (messageSeq : UInt64) (chunk : BroadcasterRecoveryChunk) (entry : BroadcasterRedisStreamEntry)
    (size : Nat) : Prop where
  payload : entry.payloadJson = recoveryChunkJson streamId messageSeq chunk
  encodedBytes : chunk.encodedBytes.toNat = size
  encodedSize : replayEntryEncodedSize config.streamKey config.maxlen entry = .ok size

/-- A round that starts from the size it measures makes an entry that names its size. -/
theorem namesItsSize_of_fixed {currentTimeMs : UInt64} {entry : BroadcasterRedisStreamEntry}
    {size : Nat}
    (hserde : validateRecoveryChunk (scope.chunk chunkIndex fragment size) = .ok () →
      SerdeChunk json streamId messageSeq (scope.chunk chunkIndex fragment size))
    (hpos : 0 < size) (hlt : size < 2 ^ 64)
    (h : measureChunk json config streamId messageSeq scope chunkIndex fragment currentTimeMs
      size = .ok (entry, size)) :
    NamesItsSize config streamId messageSeq (scope.chunk chunkIndex fragment size) entry size := by
  obtain ⟨hbuilds, entryId, hid⟩ := builds_of_measureChunk hserde h
  have hmade := measureChunk_of_builds config currentTimeMs hbuilds hserde hid hpos hlt
  obtain ⟨hentry, -⟩ := Prod.mk.inj (Except.ok.inj (hmade.symm.trans h))
  refine ⟨?_, UInt64.toNat_ofNat_of_lt hlt, mapError_eq_ok.mp (size_of_measureChunk h)⟩
  rw [← hentry]
  rfl

/-- **The size converges.** Whatever the scope, the number and the fragment, the loop never runs out
of rounds: when its first round passes the checks, it reaches a round that starts from the size it
measures, and judges that size. What it returns is the entry that names its size. -/
theorem recovery_chunk_size_converges
    (hserde : ∀ encodedBytes,
      validateRecoveryChunk (scope.chunk chunkIndex fragment encodedBytes) = .ok () →
      SerdeChunk json streamId messageSeq (scope.chunk chunkIndex fragment encodedBytes))
    (hclock : ∀ attempt, decimalDigits (clock attempt).toNat = decimalDigits (clock 0).toNat) :
    buildRecoveryChunkEntry json config streamId messageSeq scope chunkIndex fragment clock ≠
      .error notConverged ∧
    (∀ first, measureChunk json config streamId messageSeq scope chunkIndex fragment (clock 3) 1 =
        .ok first →
      ∃ attempt < 4, ∃ entry size,
        measureChunk json config streamId messageSeq scope chunkIndex fragment (clock attempt)
          size = .ok (entry, size) ∧
        buildRecoveryChunkEntry json config streamId messageSeq scope chunkIndex fragment clock =
          judgeSize entry size) ∧
    ∀ entry size, buildRecoveryChunkEntry json config streamId messageSeq scope chunkIndex fragment
        clock = .ok (entry, size) →
      NamesItsSize config streamId messageSeq (scope.chunk chunkIndex fragment size) entry size := by
  -- a size with as many digits as the one before it is final, and four rounds reach one
  have hsettled : ∀ first, measureChunk json config streamId messageSeq scope chunkIndex fragment
        (clock 3) 1 = .ok first →
      ∃ attempt < 4, ∃ entry size, (0 < size ∧ size < 2 ^ 64) ∧
        measureChunk json config streamId messageSeq scope chunkIndex fragment (clock attempt)
          size = .ok (entry, size) ∧
        buildRecoveryChunkEntry json config streamId messageSeq scope chunkIndex fragment clock =
          judgeSize entry size := by
    intro first hfirst
    obtain ⟨hbuilds, entryId, hid⟩ := builds_of_measureChunk (hserde 1) hfirst
    have hgrows : GrowsSlowly (roundBytes config streamId entryId messageSeq scope chunkIndex
      fragment (clock 0)) := growsSlowly_roundBytes
    obtain ⟨size, hsize, hfixed⟩ := settles hgrows
    obtain ⟨attempt, hlt, entry, hround, hbuilt⟩ := buildFrom_of_settle hbuilds hserde hclock hid
      (by decide) (by decide) hsize
    refine ⟨attempt, hlt, entry, size, ?_, hround, hbuilt⟩
    rw [← hfixed]
    exact roundBytes_bounds
  cases hfirst : measureChunk json config streamId messageSeq scope chunkIndex fragment (clock 3)
      1 with
  | error e =>
    have hbuilt : buildRecoveryChunkEntry json config streamId messageSeq scope chunkIndex fragment
        clock = .error e := by
      rw [buildRecoveryChunkEntry, buildFrom_succ, hfirst]
      rfl
    have hother : e ≠ notConverged := measureChunk_failsWith e hfirst
    rw [hbuilt]
    exact ⟨fun h => hother (Except.error.inj h), by rintro _ ⟨⟩, by rintro _ _ ⟨⟩⟩
  | ok first =>
    obtain ⟨attempt, hlt, entry, size, hbounds, hround, hbuilt⟩ := hsettled first hfirst
    rw [hbuilt, judgeSize]
    refine ⟨?_, fun _ _ => ⟨attempt, hlt, entry, size, hround, rfl⟩, fun entry' size' h => ?_⟩
    · split
      case isTrue => rintro ⟨⟩
      case isFalse => exact fun h => by cases Except.error.inj h
    · split at h
      case isTrue =>
        obtain ⟨rfl, rfl⟩ := Prod.mk.inj (Except.ok.inj h)
        exact namesItsSize_of_fixed (hserde size) hbounds.1 hbounds.2 hround
      case isFalse => cases h

/-- A fragment of an ordinary replacement. -/
def poolFragment : PreparedRecoveryFragment := { payload := "[\"pool\"]", digest := poolDigest }

/-- The sample codec writes the chunk and reads it back. -/
theorem poolFragment_serde (encodedBytes : Nat) :
    SerdeChunk (chunkCodec (formatRedisStreamId 1 5) 8 (sampleScope.chunk 0 poolFragment 1))
      (formatRedisStreamId sampleConfig.chainId 5) 8
      (sampleScope.chunk 0 poolFragment encodedBytes) :=
  chunkCodec_serde (.ofNat encodedBytes)

theorem pool_fragment_fits : 0 < 2 ^ 32 ∧ rustTrim poolFragment.payload ≠ "" ∧
    chunkEntryBytes sampleConfig 5 8 sampleScope 0 poolFragment 1700000000000 7 ≤
      recoveryRedisEntryMaxBytes := by
  refine ⟨by decide, by decide, ?_⟩
  decide +kernel

/-- Its chunk, after the start number seven, names the size of its entry. -/
theorem recovery_chunk_size_converges_pool : ∃ entry size,
    buildRecoveryChunkEntry
      (chunkCodec (formatRedisStreamId 1 5) 8 (sampleScope.chunk 0 poolFragment 1)) sampleConfig
      (formatRedisStreamId sampleConfig.chainId 5) 8 sampleScope 0 poolFragment
      (fun _ => 1700000000000) = .ok (entry, size) ∧
      NamesItsSize sampleConfig (formatRedisStreamId sampleConfig.chainId 5) 8
        (sampleScope.chunk 0 poolFragment size) entry size := by
  have hclock : ∀ attempt : Nat, decimalDigits ((fun _ => 1700000000000 : Nat → UInt64) attempt).toNat =
      decimalDigits (1700000000000 : UInt64).toNat := fun _ => rfl
  obtain ⟨⟨entry, size⟩, hbuilt⟩ := (buildRecoveryChunkEntry_iff poolFragment_serde
    sampleScope_valid (by decide) rustTrim_poolDigest hclock).mpr pool_fragment_fits
  refine ⟨entry, size, hbuilt, ?_⟩
  exact (recovery_chunk_size_converges (fun size _ => poolFragment_serde size)
    hclock).2.2 entry size hbuilt

end TychoSimulationServer
