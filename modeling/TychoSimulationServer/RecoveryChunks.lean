import TychoSimulationServer.RecoveryPublication
import TychoSimulationServer.SelfMeasure

/-!
# Which replacements can be published

The loop of `build_recovery_chunk_entry` always settles on a size. So a fragment fails for one of two
reasons: it is **blank**, or its entry is **too large**, and the second depends on the fragment as it
is escaped in the entry. Both are decided window by window.

A window of quotes is as long as a window of letters, and takes twice the bytes in its entry.
-/

namespace TychoSimulationServer

open Fallible JsonText SelfMeasure

variable {Sim : Type}

/-! ## The chunks of a publication

The entry of a chunk is its frame, the digits of the size it names and the escaped payload. What is
measured is a function of the number of digits, and it grows slowly with it. -/

/-- `format_redis_stream_id`. -/
def formatRedisStreamId (chainId generation : UInt64) : String :=
  "chain-" ++ u64ToString chainId ++ "-stream-" ++ u64ToString generation

theorem isDigit_u64ToString {value : UInt64} {c : Char} (h : c ∈ (u64ToString value).toList) :
    c.isDigit = true := by
  rw [u64ToString, Nat.toList_repr] at h
  exact Nat.isDigit_of_mem_toDigits (by decide) (by decide) h

/-- The generation is what follows the last dash. -/
theorem afterLastDash_streamId (chainId generation : UInt64) :
    afterLastDash (formatRedisStreamId chainId generation) = some (u64ToString generation) := by
  have hdigits : ∀ c ∈ (u64ToString generation).toList.reverse, (decide (c ≠ '-')) = true := by
    intro c hc
    have hdigit := isDigit_u64ToString (List.mem_reverse.mp hc)
    rw [decide_eq_true_eq]
    rintro rfl
    cases hdigit
  have hsplit : (formatRedisStreamId chainId generation).toList =
      ("chain-" ++ u64ToString chainId ++ "-stream").toList ++
        '-' :: (u64ToString generation).toList := by
    rw [formatRedisStreamId]
    simp only [String.toList_append, List.append_assoc]
    rfl
  have hmem : '-' ∈ (formatRedisStreamId chainId generation).toList := by
    rw [hsplit]
    exact List.mem_append_right _ List.mem_cons_self
  rw [afterLastDash, if_pos hmem, hsplit, List.reverse_append, List.reverse_cons,
    List.append_assoc, List.takeWhile_append_of_pos hdigits, List.singleton_append,
    List.takeWhile_cons_of_neg (by decide), List.append_nil, List.reverse_reverse,
    String.ofList_toList]

theorem rustTrim_streamId (chainId generation : UInt64) :
    rustTrim (formatRedisStreamId chainId generation) ≠ "" := by
  refine rustTrim_ne_empty (c := 'c') ?_ (by decide)
  unfold formatRedisStreamId
  iterate 3 apply mem_toList_append
  decide

/-- What the callers of `build_recovery_chunk_entry` vouch for. -/
structure RecoveryEntryScope.Valid (scope : RecoveryEntryScope) : Prop where
  recoveryId : rustTrim scope.recoveryId ≠ ""
  targetStateVersion : scope.targetStateVersion ≠ 0
  some : scope.backends ≠ []
  nodup : scope.backends.Nodup

theorem RecoveryEntryScope.Valid.sorted {scope : RecoveryEntryScope} (h : scope.Valid) :
    scope.backends.insertionSort (fun a b => (compare a b).isLE) ≠ [] ∧
      (scope.backends.insertionSort fun a b => (compare a b).isLE).Nodup := by
  have hsort := List.perm_insertionSort (fun a b => (compare a b).isLE) scope.backends
  refine ⟨fun hnil => ?_, hsort.nodup_iff.mpr h.nodup⟩
  rw [hnil, List.nil_perm] at hsort
  exact h.some hsort

/-- The chunk of a fragment. -/
def RecoveryEntryScope.chunk (scope : RecoveryEntryScope) (chunkIndex : Nat)
    (fragment : PreparedRecoveryFragment) (encodedBytes : Nat) : BroadcasterRecoveryChunk :=
  { recoveryId := scope.recoveryId, targetStateVersion := scope.targetStateVersion
    backends := scope.backends.insertionSort fun a b => (compare a b).isLE
    chunkIndex := .ofNat chunkIndex, encodedBytes := .ofNat encodedBytes
    digest := fragment.digest, payloadFragment := fragment.payload }

/-- The bytes of the entry of a fragment whose encoded size takes so many digits. -/
def chunkEntryBytes (config : BroadcasterRedisPublisherConfig) (generation messageSeq : UInt64)
    (scope : RecoveryEntryScope) (chunkIndex : Nat) (fragment : PreparedRecoveryFragment)
    (currentTimeMs : UInt64) (digits : Nat) : Nat :=
  let streamId := formatRedisStreamId config.chainId generation
  let chunk := scope.chunk chunkIndex fragment 1
  commandBytes config streamId (u64ToString generation ++ "-" ++ u64ToString messageSeq) messageSeq
      chunk currentTimeMs +
    respBulkStringSize (chunkFrameBytes streamId messageSeq chunk + digits +
      escapedSize fragment.payload)

section

variable {json : EnvelopeJson Sim} {config : BroadcasterRedisPublisherConfig}
  {generation messageSeq : UInt64} {scope : RecoveryEntryScope} {chunkIndex : Nat}
  {fragment : PreparedRecoveryFragment} {clock : Nat → UInt64}

/-- A chunk is made when it passes its checks. -/
theorem recoveryChunk_new_eq_ok {encodedBytes : Nat} {chunk : BroadcasterRecoveryChunk} :
    BroadcasterRecoveryChunk.new scope.recoveryId scope.targetStateVersion scope.backends
      (.ofNat chunkIndex) (.ofNat encodedBytes) fragment.digest fragment.payload = .ok chunk ↔
    validateRecoveryChunk (scope.chunk chunkIndex fragment encodedBytes) = .ok () ∧
      scope.chunk chunkIndex fragment encodedBytes = chunk := by
  rw [BroadcasterRecoveryChunk.new, check_bind_eq_ok, pure_eq_ok]
  rfl

/-- Of what a chunk is checked for, only the fragment depends on the replacement. -/
theorem validate_chunk_iff (hscope : scope.Valid) (hdigest : rustTrim fragment.digest ≠ "")
    {encodedBytes : Nat} (hpos : 0 < encodedBytes) (hlt : encodedBytes < 2 ^ 64) :
    validateRecoveryChunk (scope.chunk chunkIndex fragment encodedBytes) = .ok () ↔
      rustTrim fragment.payload ≠ "" := by
  have hencoded : UInt64.ofNat encodedBytes ≠ 0 := by
    intro h
    have hexact : (UInt64.ofNat encodedBytes).toNat = encodedBytes := UInt64.toNat_ofNat_of_lt hlt
    rw [h] at hexact
    exact hpos.ne hexact
  obtain ⟨hsome, hnodup⟩ := hscope.sorted
  rw [validateRecoveryChunk, validateRecoveryBackends]
  simp only [check_bind_eq_ok, requireRecoveryText, requireRecoveryVersion, ensure_eq_ok,
    validateUniqueBackendEntries_eq_ok]
  constructor
  · exact fun h => h.2.2.2.2.2
  · intro hpayload
    exact ⟨hscope.recoveryId, hscope.targetStateVersion, ⟨hsome, hnodup⟩,
      hencoded, hdigest, hpayload⟩

/-- The size that is measured for a chunk. -/
def measuredBytes (config : BroadcasterRedisPublisherConfig) (generation messageSeq : UInt64)
    (scope : RecoveryEntryScope) (chunkIndex : Nat) (fragment : PreparedRecoveryFragment)
    (currentTimeMs : UInt64) (digits : Nat) : Nat :=
  min (chunkEntryBytes config generation messageSeq scope chunkIndex fragment currentTimeMs digits)
    usizeMax

/-- Digits inside an argument count twice at most: they may make the length of the argument longer
by a digit. -/
theorem growsSlowly_argument (around frame more : Nat) : GrowsSlowly fun digits =>
    min (around + respBulkStringSize (frame + digits + more)) usizeMax := by
  refine ⟨fun d => ?_, fun d => ?_⟩
  all_goals
    simp only [respBulkStringSize]
  · have hle : decimalDigits _ ≤ decimalDigits _ := digits_mono (Nat.le_succ (frame + d + more))
    rw [Nat.succ_eq_add_one, Nat.add_right_comm _ _ 1, Nat.add_assoc _ d 1] at hle
    omega
  · have hle : decimalDigits _ ≤ decimalDigits _ + 1 := digits_succ_le (frame + d + more)
    rw [Nat.add_right_comm _ _ 1, Nat.add_assoc _ d 1] at hle
    omega

/-- A digit more makes the entry longer, by two bytes at most. -/
theorem growsSlowly_measuredBytes (currentTimeMs : UInt64) : GrowsSlowly
    (measuredBytes config generation messageSeq scope chunkIndex fragment currentTimeMs) :=
  growsSlowly_argument _ _ _

/-- **One attempt** at a valid chunk: its entry is made, and measured with the digits of the size it
names. -/
theorem attempt_measures
    (hserde : ∀ encodedBytes, SerdeChunk json (formatRedisStreamId config.chainId generation)
      messageSeq (scope.chunk chunkIndex fragment encodedBytes))
    (hscope : scope.Valid) (hseq : messageSeq ≠ 0) (currentTimeMs : UInt64) {encodedBytes : Nat}
    (hlt : encodedBytes < 2 ^ 64)
    (hvalid : validateRecoveryChunk (scope.chunk chunkIndex fragment encodedBytes) = .ok ()) :
    recoveryEntry json config (formatRedisStreamId config.chainId generation) messageSeq
        (.recoveryChunk (scope.chunk chunkIndex fragment encodedBytes)) currentTimeMs
        scope.targetStateVersion =
      .ok (chunkEntry config (formatRedisStreamId config.chainId generation) messageSeq
        (scope.chunk chunkIndex fragment encodedBytes) currentTimeMs) ∧
      redisEntryEncodedSize config (chunkEntry config
          (formatRedisStreamId config.chainId generation) messageSeq
          (scope.chunk chunkIndex fragment encodedBytes) currentTimeMs) =
        .ok (measuredBytes config generation messageSeq scope chunkIndex fragment currentTimeMs
          (digits encodedBytes)) := by
  obtain ⟨hsome, hnodup⟩ := hscope.sorted
  have hstream := rustTrim_streamId config.chainId generation
  refine ⟨recoveryEntry_of_valid (hserde encodedBytes) hvalid hstream hseq hsome
    hnodup, ?_⟩
  have hid : redisEntryId (chunkEntry config (formatRedisStreamId config.chainId generation)
      messageSeq (scope.chunk chunkIndex fragment encodedBytes) currentTimeMs) =
      .ok (u64ToString generation ++ "-" ++ u64ToString messageSeq) := by
    rw [redisEntryId, chunkEntry]
    simp only [afterLastDash_streamId, parseU64_u64ToString]
  rw [encodedSize_chunkEntry hid, utf8ByteSize_recoveryChunkJson]
  have hdigits : (scope.chunk chunkIndex fragment encodedBytes).encodedBytes.toNat = encodedBytes :=
    UInt64.toNat_ofNat_of_lt hlt
  rw [hdigits]
  rfl

end

section

variable {json : EnvelopeJson Sim} {config : BroadcasterRedisPublisherConfig} {streamId : String}
  {generation messageSeq : UInt64} {scope : RecoveryEntryScope} {chunkIndex : Nat}
  {fragment : PreparedRecoveryFragment} {clock : Nat → UInt64}

/-- What is built names its size, and the size is within the limit. -/
theorem buildFrom_size {attempts encodedBytes : Nat} {built : BroadcasterRedisStreamEntry × Nat}
    (h : buildFrom json config streamId messageSeq scope chunkIndex fragment clock attempts
      encodedBytes = .ok built) :
    redisEntryEncodedSize config built.1 = .ok built.2 ∧ built.2 ≤ recoveryRedisEntryMaxBytes := by
  induction attempts generalizing encodedBytes with
  | zero => cases h
  | succ attempts ih =>
    rw [buildFrom, check_bind_eq_ok] at h
    obtain ⟨-, h⟩ := h
    obtain ⟨chunk, -, h⟩ := bind_eq_ok.mp h
    obtain ⟨entry, -, h⟩ := bind_eq_ok.mp h
    obtain ⟨measured, hmeasured, h⟩ := bind_eq_ok.mp h
    split at h
    case isFalse => exact ih h
    case isTrue =>
      obtain ⟨size, hsize, h⟩ := bind_eq_ok.mp h
      obtain rfl := pure_eq_ok.mp h
      obtain ⟨size', hsize', hle⟩ := bind_eq_ok.mp hsize
      obtain rfl := Except.ok.inj (hmeasured.symm.trans hsize')
      rw [check_bind_eq_ok, ensure_eq_ok] at hle
      exact ⟨hmeasured, hle.1⟩

/-- Clocks with as many digits measure the same. -/
theorem measuredBytes_congr {currentTimeMs other : UInt64}
    (h : decimalDigits other.toNat = decimalDigits currentTimeMs.toNat) :
    measuredBytes config generation messageSeq scope chunkIndex fragment other =
      measuredBytes config generation messageSeq scope chunkIndex fragment currentTimeMs := by
  funext digits
  rw [measuredBytes, measuredBytes, chunkEntryBytes, chunkEntryBytes, commandBytes_congr h]

/-- **A round of the loop**: it makes the entry that names the last size and measures it; the loop
ends when that is the size it measures. -/
theorem buildFrom_round
    (hserde : ∀ encodedBytes, SerdeChunk json (formatRedisStreamId config.chainId generation)
      messageSeq (scope.chunk chunkIndex fragment encodedBytes))
    (hscope : scope.Valid) (hseq : messageSeq ≠ 0) (hindex : chunkIndex < 2 ^ 32)
    (hdigest : rustTrim fragment.digest ≠ "") (hpayload : rustTrim fragment.payload ≠ "")
    {attempts encodedBytes measured : Nat} (hpos : 0 < encodedBytes) (hlt : encodedBytes < 2 ^ 64)
    (hmeasured : measuredBytes config generation messageSeq scope chunkIndex fragment
      (clock attempts) (digits encodedBytes) = measured) :
    buildFrom json config (formatRedisStreamId config.chainId generation) messageSeq scope
        chunkIndex fragment clock (attempts + 1) encodedBytes =
      if measured = encodedBytes then
        if measured ≤ recoveryRedisEntryMaxBytes then
          .ok (chunkEntry config (formatRedisStreamId config.chainId generation) messageSeq
            (scope.chunk chunkIndex fragment measured) (clock attempts), measured)
        else .error (.oversized .recoveryChunk measured recoveryRedisEntryMaxBytes)
      else buildFrom json config (formatRedisStreamId config.chainId generation) messageSeq scope
        chunkIndex fragment clock attempts measured := by
  have hvalid : validateRecoveryChunk (scope.chunk chunkIndex fragment encodedBytes) = .ok () :=
    (validate_chunk_iff hscope hdigest hpos hlt).mpr hpayload
  obtain ⟨hentry, hsize⟩ := attempt_measures hserde hscope hseq (clock attempts) hlt hvalid
  rw [hmeasured] at hsize
  have hnew := recoveryChunk_new_eq_ok.mpr ⟨hvalid, rfl⟩
  rw [buildFrom, ensure, if_pos hindex, hnew]
  change (recoveryEntry json config _ messageSeq _ _ _ >>= _) = _
  rw [hentry]
  change (redisEntryEncodedSize config _ >>= _) = _
  rw [hsize]
  -- the loop ends when a round measures the number that was written into it
  change (if measured = encodedBytes then _ else _) = _
  split
  case isFalse => rfl
  case isTrue heq =>
    rw [ensureRedisEntrySize, hsize, heq]
    change ((ensure (encodedBytes ≤ recoveryRedisEntryMaxBytes) _ >>= _) >>= _) = _
    rw [ensure]
    split <;> rfl

/-- **The loop settles**: the entry that is made names the size the loop settles on, if that is
within the limit. -/
theorem buildFrom_settles
    (hserde : ∀ encodedBytes, SerdeChunk json (formatRedisStreamId config.chainId generation)
      messageSeq (scope.chunk chunkIndex fragment encodedBytes))
    (hscope : scope.Valid) (hseq : messageSeq ≠ 0) (hindex : chunkIndex < 2 ^ 32)
    (hdigest : rustTrim fragment.digest ≠ "") (hpayload : rustTrim fragment.payload ≠ "")
    {currentTimeMs : UInt64}
    (hclock : ∀ attempt, decimalDigits (clock attempt).toNat = decimalDigits currentTimeMs.toNat)
    {attempts encodedBytes settled : Nat} (hpos : 0 < encodedBytes) (hlt : encodedBytes < 2 ^ 64)
    (hsettled : settle (measuredBytes config generation messageSeq scope chunkIndex fragment
      currentTimeMs) attempts encodedBytes = some settled) :
    ∃ attempt, buildFrom json config (formatRedisStreamId config.chainId generation) messageSeq
        scope chunkIndex fragment clock attempts encodedBytes =
      if settled ≤ recoveryRedisEntryMaxBytes then
        .ok (chunkEntry config (formatRedisStreamId config.chainId generation) messageSeq
          (scope.chunk chunkIndex fragment settled) (clock attempt), settled)
      else .error (.oversized .recoveryChunk settled recoveryRedisEntryMaxBytes) := by
  induction attempts generalizing encodedBytes with
  | zero => cases hsettled
  | succ attempts ih =>
    -- one round of the loop is one step of the iteration
    rw [buildFrom_round hserde hscope hseq hindex hdigest hpayload hpos hlt
      (congrFun (measuredBytes_congr (hclock attempts)) _)]
    rw [settle] at hsettled
    split at hsettled
    case isTrue heq =>
      obtain rfl := Option.some.inj hsettled
      rw [if_pos heq, heq]
      exact ⟨attempts, rfl⟩
    case isFalse hne =>
      rw [if_neg hne]
      refine ih ?_ ?_ hsettled
      all_goals
        rw [measuredBytes, chunkEntryBytes, commandBytes, usizeMax]
        omega

/-- **When the entry of a fragment is made**: the fragment is not blank, and with seven digits for
its size it keeps below the limit. -/
theorem buildRecoveryChunkEntry_iff
    (hserde : ∀ encodedBytes, SerdeChunk json (formatRedisStreamId config.chainId generation)
      messageSeq (scope.chunk chunkIndex fragment encodedBytes))
    (hscope : scope.Valid) (hseq : messageSeq ≠ 0) (hdigest : rustTrim fragment.digest ≠ "")
    {currentTimeMs : UInt64}
    (hclock : ∀ attempt, decimalDigits (clock attempt).toNat = decimalDigits currentTimeMs.toNat) :
    (∃ built, buildRecoveryChunkEntry json config (formatRedisStreamId config.chainId generation)
      messageSeq scope chunkIndex fragment clock = .ok built) ↔
    chunkIndex < 2 ^ 32 ∧ rustTrim fragment.payload ≠ "" ∧
      chunkEntryBytes config generation messageSeq scope chunkIndex fragment currentTimeMs 7 ≤
        recoveryRedisEntryMaxBytes := by
  have hgrows : GrowsSlowly (measuredBytes config generation messageSeq scope chunkIndex fragment
    currentTimeMs) := growsSlowly_measuredBytes currentTimeMs
  obtain ⟨settled, hsettled, hfixed⟩ := settles hgrows
  -- the settled size and the size with a seven-digit number lie on the same side of the limit
  have hdecides : settled ≤ recoveryRedisEntryMaxBytes ↔ measuredBytes config generation messageSeq
      scope chunkIndex fragment currentTimeMs 7 ≤ recoveryRedisEntryMaxBytes :=
    fixed_le_iff (k := 6) hgrows (by decide) (by decide) (by decide) hfixed
  have hseven : measuredBytes config generation messageSeq scope chunkIndex fragment currentTimeMs 7 ≤
      recoveryRedisEntryMaxBytes ↔ chunkEntryBytes config generation messageSeq scope chunkIndex
        fragment currentTimeMs 7 ≤ recoveryRedisEntryMaxBytes := by
    have hsmall : recoveryRedisEntryMaxBytes < usizeMax := by decide
    rw [measuredBytes]
    omega
  rw [buildRecoveryChunkEntry]
  constructor
  · rintro ⟨built, h⟩
    have hfirst := h
    rw [buildFrom, check_bind_eq_ok, ensure_eq_ok] at hfirst
    obtain ⟨hindex, hfirst⟩ := hfirst
    obtain ⟨chunk, hchunk, -⟩ := bind_eq_ok.mp hfirst
    obtain ⟨hvalid, -⟩ := recoveryChunk_new_eq_ok.mp (mapError_eq_ok.mp hchunk)
    have hpayload := (validate_chunk_iff hscope hdigest (by decide) (by decide)).mp hvalid
    obtain ⟨attempt, hbuild⟩ := buildFrom_settles hserde hscope hseq hindex hdigest hpayload hclock
      (by decide) (by decide) hsettled
    rw [hbuild] at h
    split at h
    case isTrue hle => exact ⟨hindex, hpayload, hseven.mp (hdecides.mp hle)⟩
    case isFalse => cases h
  · rintro ⟨hindex, hpayload, hle⟩
    obtain ⟨attempt, hbuild⟩ := buildFrom_settles hserde hscope hseq hindex hdigest hpayload hclock
      (by decide) (by decide) hsettled
    rw [if_pos (hdecides.mpr (hseven.mpr hle))] at hbuild
    exact ⟨_, hbuild⟩

end

/-! ## The replacement

The publication succeeds with its chunks when each window of the replacement makes an entry within
the limit, with the size in seven digits. -/

/-- serde handles the chunks of these fragments. -/
def SerdeChunks (json : EnvelopeJson Sim) (config : BroadcasterRedisPublisherConfig)
    (generation nextMessageSeq : UInt64) (scope : RecoveryEntryScope)
    (fragments : List PreparedRecoveryFragment) : Prop :=
  ∀ i fragment, fragments[i]? = some fragment → ∀ encodedBytes,
    SerdeChunk json (formatRedisStreamId config.chainId generation)
      (.ofNat (nextMessageSeq.toNat + 1 + i)) (scope.chunk i fragment encodedBytes)

/-- All fragments of the replacement become entries, which name their size and keep below the
limit. -/
def PublishesChunks (json : EnvelopeJson Sim) (config : BroadcasterRedisPublisherConfig)
    (generation nextMessageSeq : UInt64) (scope : RecoveryEntryScope) (clock : Nat → Nat → UInt64)
    (digestBytes : String → String) (replacementJson : String) : Prop :=
  ∃ fragments built, prepareRecoveryFragments digestBytes replacementJson = .ok fragments ∧
    recoveryChunkEntries json config (formatRedisStreamId config.chainId generation) nextMessageSeq
      scope fragments clock = .ok built ∧
    ∀ entry ∈ built, redisEntryEncodedSize config entry.1 = .ok entry.2 ∧
      entry.2 ≤ recoveryRedisEntryMaxBytes

/-- A window of the replacement fits: it has a number, it is not blank, and its entry, in which it
counts escaped, keeps below the limit with seven digits for its size. -/
structure WindowFits (config : BroadcasterRedisPublisherConfig)
    (generation nextMessageSeq : UInt64) (scope : RecoveryEntryScope)
    (digestBytes : String → String) (currentTimeMs : UInt64) (i : Nat) (window : List Char) :
    Prop where
  index : i < 2 ^ 32
  messageSeq : nextMessageSeq.toNat + 1 + i < 2 ^ 64
  text : rustTrim (String.ofList window) ≠ ""
  bytes : chunkEntryBytes config generation (.ofNat (nextMessageSeq.toNat + 1 + i)) scope i
    (fragmentOf digestBytes window) currentTimeMs 7 ≤ recoveryRedisEntryMaxBytes

/-- Every window fits. -/
def WindowsFit (config : BroadcasterRedisPublisherConfig) (generation nextMessageSeq : UInt64)
    (scope : RecoveryEntryScope) (digestBytes : String → String) (currentTimeMs : UInt64)
    (replacementJson : String) : Prop :=
  replacementJson ≠ "" ∧ ∀ (i : Nat) window,
    (windows recoveryFragmentTargetBytes replacementJson.toList)[i]? = some window →
      WindowFits config generation nextMessageSeq scope digestBytes currentTimeMs i window

section

variable {json : EnvelopeJson Sim} {config : BroadcasterRedisPublisherConfig}
  {generation nextMessageSeq currentTimeMs : UInt64} {scope : RecoveryEntryScope}
  {clock : Nat → Nat → UInt64} {digestBytes : String → String} {replacementJson : String}

theorem ofNat_seq_ne_zero {i : Nat} (hlt : nextMessageSeq.toNat + 1 + i < 2 ^ 64) :
    UInt64.ofNat (nextMessageSeq.toNat + 1 + i) ≠ 0 := by
  intro h
  have hexact : (UInt64.ofNat (nextMessageSeq.toNat + 1 + i)).toNat = nextMessageSeq.toNat + 1 + i :=
    UInt64.toNat_ofNat_of_lt hlt
  rw [h] at hexact
  have hzero : nextMessageSeq.toNat + 1 + i = 0 := hexact.symm
  omega

/-- Every entry that is made is within the limit. -/
theorem recoveryChunkEntries_size {streamId : String} {fragments : List PreparedRecoveryFragment}
    {built : List (BroadcasterRedisStreamEntry × Nat)}
    (h : recoveryChunkEntries json config streamId nextMessageSeq scope fragments clock = .ok built) :
    ∀ entry ∈ built, redisEntryEncodedSize config entry.1 = .ok entry.2 ∧
      entry.2 ≤ recoveryRedisEntryMaxBytes := by
  intro entry hmem
  obtain ⟨fragment, -, hentry⟩ := forall₂_exists_left (mapM_eq_ok.mp h) hmem
  rw [check_bind_eq_ok] at hentry
  exact buildFrom_size hentry.2

/-- **When a replacement can be published**: exactly when every window of it fits. -/
theorem recovery_chunks_publish_iff (hscope : scope.Valid)
    (hdigest : ∀ text, rustTrim (digestBytes text) ≠ "")
    (hserde : SerdeChunks json config generation nextMessageSeq scope
      ((windows recoveryFragmentTargetBytes replacementJson.toList).map (fragmentOf digestBytes)))
    (hclock : ∀ i attempt, decimalDigits (clock i attempt).toNat =
      decimalDigits currentTimeMs.toNat) :
    PublishesChunks json config generation nextMessageSeq scope clock digestBytes replacementJson ↔
      WindowsFit config generation nextMessageSeq scope digestBytes currentTimeMs
        replacementJson := by
  -- each window is built or not
  have hwindow : ∀ i window,
      (windows recoveryFragmentTargetBytes replacementJson.toList)[i]? = some window →
      ((∃ built, (do
        ensure (nextMessageSeq.toNat + 1 + i < 2 ^ 64)
          (PublishError.text "Redis broadcaster recovery chunk sequence overflow")
        buildRecoveryChunkEntry json config (formatRedisStreamId config.chainId generation)
          (.ofNat (nextMessageSeq.toNat + 1 + i)) scope i (fragmentOf digestBytes window)
          (clock i)) = .ok built) ↔
      WindowFits config generation nextMessageSeq scope digestBytes currentTimeMs i window) := by
    intro i window hi
    have hfragment : ((windows recoveryFragmentTargetBytes replacementJson.toList).map
        (fragmentOf digestBytes))[i]? = some (fragmentOf digestBytes window) := by
      rw [List.getElem?_map, hi]
      rfl
    have hbuild := fun hlt => buildRecoveryChunkEntry_iff (hserde i _ hfragment) hscope
      (ofNat_seq_ne_zero hlt) (hdigest _) (hclock i)
    simp only [check_bind_eq_ok, ensure_eq_ok]
    constructor
    · rintro ⟨built, hlt, hbuilt⟩
      obtain ⟨hindex, htext, hbytes⟩ := (hbuild hlt).mp ⟨built, hbuilt⟩
      exact ⟨hindex, hlt, htext, hbytes⟩
    · intro hfits
      obtain ⟨built, hbuilt⟩ := (hbuild hfits.messageSeq).mpr
        ⟨hfits.index, hfits.text, hfits.bytes⟩
      exact ⟨built, hfits.messageSeq, hbuilt⟩
  have hentries : (∃ built, recoveryChunkEntries json config
      (formatRedisStreamId config.chainId generation) nextMessageSeq scope
      ((windows recoveryFragmentTargetBytes replacementJson.toList).map (fragmentOf digestBytes))
      clock = .ok built) ↔ ∀ (i : Nat) window,
      (windows recoveryFragmentTargetBytes replacementJson.toList)[i]? = some window →
        WindowFits config generation nextMessageSeq scope digestBytes currentTimeMs i window := by
    rw [recoveryChunkEntries, exists_mapM_eq_ok]
    constructor
    · intro hall i window hi
      refine (hwindow i window hi).mp (hall (fragmentOf digestBytes window, i) ?_)
      rw [List.mem_zipIdx_iff_getElem?, List.getElem?_map, hi, Option.map_some]
    · rintro hall ⟨fragment, i⟩ hmem
      rw [List.mem_zipIdx_iff_getElem?, List.getElem?_map, Option.map_eq_some_iff] at hmem
      obtain ⟨window, hi, rfl⟩ := hmem
      exact (hwindow i window hi).mpr (hall i window hi)
  constructor
  · rintro ⟨fragments, built, hprepare, hbuilt, -⟩
    obtain ⟨hsome, rfl⟩ := prepareRecoveryFragments_eq_ok.mp hprepare
    exact ⟨hsome, hentries.mp ⟨built, hbuilt⟩⟩
  · rintro ⟨hsome, hfits⟩
    obtain ⟨built, hbuilt⟩ := hentries.mpr hfits
    refine ⟨_, built, prepareRecoveryFragments_eq_ok.mpr ⟨hsome, rfl⟩, hbuilt, ?_⟩
    exact recoveryChunkEntries_size hbuilt

end

/-! ## A replacement too dense to publish

The window is cut by bytes, and the entry measured after escaping. A pool whose name is full of
quotes is escaped twice, and its window exceeds the limit although every chunk of the snapshot is
small enough. -/

/-- A pool under some id. -/
def namedPool (id : String) : BroadcasterStateEntry String :=
  { componentId := id, component := hashflowPool, state := "\x7b\x7d" }

/-- The source with that pool. -/
def poolSource (id : String) : BroadcasterRecoverySource String :=
  { recoveryId := 1
    partitions := (∅ : Partitions String).insert .rfq
      { blockNumber := some 1, syncStatuses := ∅, messages := []
        states := (∅ : FinMap String (BroadcasterStateEntry String)).insert id (namedPool id) } }

/-- The chunk of its replacement. -/
def poolSourceChunk (id : String) : BroadcasterSnapshotChunk String :=
  { snapshotId := "chain-1-recovery-snapshot-1", chunkIndex := 0
    partitions := [.new .rfq 1 [namedPool id] ∅] }

/-- The envelopes of its replacement. -/
def poolEnvelopes (id : String) : List (BroadcasterEnvelope String) :=
  [⟨"chain-1-recovery-1", 1, .snapshotStart ⟨"chain-1-recovery-snapshot-1", 1, [.rfq], 1⟩⟩,
    ⟨"chain-1-recovery-1", 2, .snapshotChunk (poolSourceChunk id)⟩,
    ⟨"chain-1-recovery-1", 3, .snapshotEnd ⟨"chain-1-recovery-snapshot-1"⟩⟩]

/-- Their JSON up to the id. -/
def poolJsonFront : String :=
  "[\x7b\"stream_id\":\"chain-1-recovery-1\",\"message_seq\":1,\"kind\":\"snapshot_start\"," ++
  "\"snapshotId\":\"chain-1-recovery-snapshot-1\",\"chainId\":1,\"backends\":[\"rfq\"]," ++
  "\"totalChunks\":1\x7d,\x7b\"stream_id\":\"chain-1-recovery-1\",\"message_seq\":2," ++
  "\"kind\":\"snapshot_chunk\",\"snapshotId\":\"chain-1-recovery-snapshot-1\"," ++
  "\"chunkIndex\":0,\"partitions\":[\x7b\"backend\":\"rfq\",\"blockNumber\":1," ++
  "\"states\":[\x7b\"componentId\":"

/-- Their JSON after the id, with the fields of the pool that are modelled. -/
def poolJsonBack : String :=
  ",\"component\":\x7b\"id\":\"0x\",\"protocol_system\":\"rfq:hashflow\"," ++
  "\"protocol_type_name\":\"hashflow_pool\",\"tokens\":[]\x7d,\"state\":\x7b\x7d\x7d]\x7d]\x7d," ++
  "\x7b\"stream_id\":\"chain-1-recovery-1\",\"message_seq\":3,\"kind\":\"snapshot_end\"," ++
  "\"snapshotId\":\"chain-1-recovery-snapshot-1\"\x7d]"

/-- The JSON of those envelopes. -/
def poolJson (id : String) : String := poolJsonFront ++ quoted id ++ poolJsonBack

/-- The length of the JSON of the chunk under the longest sequence number. -/
def poolLen : SerialisedLen String
  | { payload := .snapshotChunk _, .. } => .ok 3000347
  | _ => .error (.text "not in this sample")

/-- serde on those envelopes. -/
def poolToJson (id : String) (envelopes : List (BroadcasterEnvelope String)) : Except String String :=
  if envelopes = poolEnvelopes id then .ok (poolJson id) else .error "not in this sample"

/-- The context in which the pool is packed. -/
def poolContext : SnapshotChunkBuildContext :=
  { streamId := "chain-1-recovery-1", snapshotId := "chain-1-recovery-snapshot-1", backend := .rfq
    blockNumber := 1, maxPayloadBytes := 8388608 }

theorem pool_chunk (id : String) : poolContext.statesChunk 0 [namedPool id] ∅ = .ok (poolSourceChunk id) := by
  rw [SnapshotChunkBuildContext.statesChunk, SnapshotChunkBuildContext.snapshotChunk,
    check_bind_eq_ok, mapError_eq_ok, chunk_new_singleton]
  refine ⟨ensure_eq_ok.mpr (by decide), ⟨?_, ?_, ?_⟩, rfl⟩
  · exact fun m hm => by cases hm
  · intro s hs
    obtain rfl : s = (namedPool id) := List.mem_singleton.mp hs
    have hbackend : (ProtocolKind.fromComponent hashflowPool).map backendForKind = some .rfq := by
      decide
    obtain ⟨kind, hkind, hrfq⟩ := Option.map_eq_some_iff.mp hbackend
    change backendForComponent id hashflowPool = .ok .rfq
    rw [backendForComponent, hkind, ← hrfq]
  · exact fun protocol hprotocol => absurd hprotocol Std.ExtTreeMap.not_mem_empty

theorem pool_chunks (id : String) :
    buildSnapshotChunks poolLen ⟨"chain-1-recovery-1", "chain-1-recovery-snapshot-1",
      (poolSource id).partitions⟩ [.rfq] 8388608 = .ok [poolSourceChunk id] := by
  have hfit : poolContext.statesFit poolLen 0 [namedPool id] ∅ = .ok true :=
    bind_eq_ok.mpr ⟨_, pool_chunk id, rfl⟩
  have hpack : packState poolLen poolContext 0 { chunks := [], items := [], syncStatuses := ∅ }
      (namedPool id) = .ok { chunks := [], items := [namedPool id], syncStatuses := ∅ } :=
    bind_eq_ok.mpr ⟨true, hfit, rfl⟩
  have hclose : ChunkBuffer.close poolContext.statesChunk 0
      { chunks := [], items := [namedPool id], syncStatuses := ∅ } = .ok [poolSourceChunk id] :=
    bind_eq_ok.mpr ⟨_, pool_chunk id, rfl⟩
  refine bind_eq_ok.mpr ⟨[poolSourceChunk id], bind_eq_ok.mpr ⟨[poolSourceChunk id], ?_, rfl⟩, rfl⟩
  exact bind_eq_ok.mpr ⟨_, bind_eq_ok.mpr ⟨_, hpack, rfl⟩, hclose⟩

/-- The replacement is serialised. -/
theorem pool_serialised (id : String) :
    BroadcasterSnapshotCache.serializeRecoverySource poolLen (poolToJson id) (.new 1 [.rfq])
      (poolSource id) 8388608 = .ok (poolJson id) := by
  unfold BroadcasterSnapshotCache.serializeRecoverySource
  dsimp only
  have hid : (poolSource id).recoveryId = 1 := rfl
  have hchain : (BroadcasterSnapshotCache.new 1 [.rfq] : BroadcasterSnapshotCache String).chainId =
    1 := rfl
  have hconfigured : (BroadcasterSnapshotCache.new 1 [.rfq] :
    BroadcasterSnapshotCache String).configuredBackends = [.rfq] := rfl
  have hstream : s!"chain-{(1 : UInt64)}-recovery-{(1 : UInt64)}" = "chain-1-recovery-1" := by
    decide
  have hsnapshot : s!"chain-{(1 : UInt64)}-recovery-snapshot-{(1 : UInt64)}" =
      "chain-1-recovery-snapshot-1" := by decide
  rw [hid, hchain, hconfigured, hstream, hsnapshot, pool_chunks]
  have hstart : BroadcasterSnapshotStart.new "chain-1-recovery-snapshot-1" 1 [.rfq]
      (.ofNat [poolSourceChunk id].length) =
      .ok ⟨"chain-1-recovery-snapshot-1", 1, [.rfq], 1⟩ := rfl
  have hcount : (1 : Nat) < 2 ^ 32 := by decide
  refine bind_eq_ok.mpr ⟨_, rfl, check_bind_eq_ok.mpr ⟨ensure_eq_ok.mpr hcount, ?_⟩⟩
  refine bind_eq_ok.mpr ⟨_, mapError_eq_ok.mpr hstart, ?_⟩
  exact mapError_eq_ok.mpr (if_pos rfl)

/-- serde on the chunks of one fragment, whatever size they name. -/
def chunkCodec (streamId : String) (messageSeq : UInt64) (chunk : BroadcasterRecoveryChunk) :
    EnvelopeJson String where
  toString
    | { streamId, messageSeq, payload := .recoveryChunk chunk } =>
      .ok (recoveryChunkJson streamId messageSeq chunk)
    | _ => .error "not in this sample"
  fromStr text :=
    let rest := text.toList.drop (chunkJsonHead streamId messageSeq chunk).length
    match parseU64 (String.ofList (rest.takeWhile Char.isDigit)) with
    | none => .error "not in this sample"
    | some encodedBytes =>
      if text = recoveryChunkJson streamId messageSeq { chunk with encodedBytes } then
        .ok { streamId, messageSeq, payload := .recoveryChunk { chunk with encodedBytes } }
      else .error "not in this sample"

/-- The codec of a chunk writes it with any size, and reads it back. -/
theorem chunkCodec_serde {streamId : String} {messageSeq : UInt64} {chunk : BroadcasterRecoveryChunk}
    (encodedBytes : UInt64) :
    SerdeChunk (chunkCodec streamId messageSeq chunk) streamId messageSeq
      { chunk with encodedBytes } := by
  refine ⟨rfl, ?_⟩
  generalize htext : recoveryChunkJson streamId messageSeq { chunk with encodedBytes } = text
  have hcomma : (chunkJsonDigest { chunk with encodedBytes }).toList = ',' :: ("\"digest\":".toList ++
      (quoted chunk.digest).toList ++ ",\"payloadFragment\":".toList) := by
    rw [chunkJsonDigest, String.toList_append, String.toList_append]
    rfl
  have hback : text.toList = (chunkJsonHead streamId messageSeq chunk).toList ++
      ((u64ToString encodedBytes).toList ++ ((chunkJsonDigest { chunk with encodedBytes }).toList ++
        ((quoted chunk.payloadFragment).toList ++ "\x7d".toList))) := by
    rw [← htext, recoveryChunkJson, String.toList_append, String.toList_append,
      String.toList_append, String.toList_append]
    simp only [List.append_assoc]
    rfl
  have hnumber : (text.toList.drop (chunkJsonHead streamId messageSeq chunk).length).takeWhile
      Char.isDigit = (u64ToString encodedBytes).toList := by
    rw [hback, ← String.length_toList, List.drop_left, List.takeWhile_append_of_pos
      (fun c hc => isDigit_u64ToString hc), hcomma, List.cons_append,
      List.takeWhile_cons_of_neg (by decide), List.append_nil]
  simp only [chunkCodec, hnumber, String.ofList_toList, parseU64_u64ToString, htext, if_true]

/-- A publisher of chain 1, in its fifth generation. -/
def sampleConfig : BroadcasterRedisPublisherConfig :=
  { chainId := 1, streamKey := "deltas", maxlen := none }

/-- The scope of a recovery of the pools. -/
def sampleScope : RecoveryEntryScope :=
  { recoveryId := "recovery-1", targetStateVersion := 7, backends := [.rfq] }

theorem sampleScope_valid : sampleScope.Valid :=
  ⟨by decide, by decide, by decide, by decide⟩

/-- serde on the only chunk of a text, which follows the start number seven. -/
def sampleCodec (digest text : String) : EnvelopeJson String :=
  chunkCodec (formatRedisStreamId 1 5) 8 (sampleScope.chunk 0
    (fragmentOf (fun _ => digest) text.toList) 1)

/-- A text that is small enough is one window. -/
theorem windows_single {text : String} (hne : text ≠ "")
    (hfits : text.utf8ByteSize ≤ recoveryFragmentTargetBytes) :
    windows recoveryFragmentTargetBytes text.toList = [text.toList] := by
  refine windows_of_fits (fun hnil => hne (String.toList_eq_nil_iff.mp hnil)) ?_
  rw [String.utf8Len_toList]
  exact hfits

/-- The codec of the sample knows its only chunk. -/
theorem sampleCodec_serde (digest : String) {text : String} (hne : text ≠ "")
    (hfits : text.utf8ByteSize ≤ recoveryFragmentTargetBytes) :
    SerdeChunks (sampleCodec digest text) sampleConfig 5 7 sampleScope
      ((windows recoveryFragmentTargetBytes text.toList).map (fragmentOf fun _ => digest)) := by
  rw [windows_single hne hfits]
  intro i fragment hi encodedBytes
  rw [List.map_singleton, List.getElem?_singleton] at hi
  split at hi
  case isFalse => cases hi
  case isTrue hzero =>
    subst hzero
    obtain rfl := Option.some.inj hi
    exact chunkCodec_serde (.ofNat encodedBytes)

theorem rustTrim_poolJson (id : String) : rustTrim (poolJson id) ≠ "" := by
  refine rustTrim_ne_empty (c := '[') ?_ (by decide)
  have hfront : '[' ∈ poolJsonFront.toList := by
    unfold poolJsonFront
    iterate 5 apply mem_toList_append
    decide
  rw [poolJson]
  exact mem_toList_append (mem_toList_append hfront)

theorem poolJson_ne (id : String) : poolJson id ≠ "" := by
  intro h
  refine rustTrim_poolJson id ?_
  rw [h]
  rfl

/-- The digest of the replacement with the pool `pool`. -/
def poolDigest : String := "676cc7f7b036d7f68252389c566765c69bea94515727e059d274110167bbac8a"

/-- The bytes of the replacement. -/
theorem utf8ByteSize_poolJson (id : String) :
    (poolJson id).utf8ByteSize = 611 + escapedSize id := by
  have hfront : poolJsonFront.utf8ByteSize = 370 := by decide +kernel
  have hback : poolJsonBack.utf8ByteSize = 239 := by decide +kernel
  rw [poolJson, String.utf8ByteSize_append, String.utf8ByteSize_append, utf8ByteSize_quoted, hfront,
    hback]
  omega

theorem utf8ByteSize_pool : (poolJson "pool").utf8ByteSize = 615 := by
  have hid : escapedSize "pool" = 4 := by decide +kernel
  rw [utf8ByteSize_poolJson, hid]

theorem pool_fits : (poolJson "pool").utf8ByteSize ≤ recoveryFragmentTargetBytes := by
  rw [utf8ByteSize_pool]
  decide

/-- The entry of the replacement fits, however much of it has to be escaped. -/
theorem pool_bytes : chunkEntryBytes sampleConfig 5 (.ofNat ((7 : UInt64).toNat + 1 + 0)) sampleScope
    0 (fragmentOf (fun _ => poolDigest) (poolJson "pool").toList) 1700000000000 7 ≤
    recoveryRedisEntryMaxBytes := by
  have hescaped := escapedSize_le (poolJson "pool")
  rw [utf8ByteSize_pool] at hescaped
  have hpayload : (fragmentOf (fun _ => poolDigest) (poolJson "pool").toList).payload =
      poolJson "pool" := String.ofList_toList
  have hcommand : commandBytes sampleConfig (formatRedisStreamId sampleConfig.chainId 5)
      (u64ToString 5 ++ "-" ++ u64ToString (.ofNat ((7 : UInt64).toNat + 1 + 0)))
      (.ofNat ((7 : UInt64).toNat + 1 + 0)) (sampleScope.chunk 0
        (fragmentOf (fun _ => poolDigest) (poolJson "pool").toList) 1) 1700000000000 = 296 := by
    decide +kernel
  have hframe : chunkFrameBytes (formatRedisStreamId sampleConfig.chainId 5) (.ofNat ((7 : UInt64).toNat + 1 + 0))
      (sampleScope.chunk 0 (fragmentOf (fun _ => poolDigest) (poolJson "pool").toList) 1) =
      268 := by decide +kernel
  have hlimit : recoveryRedisEntryMaxBytes = 4194304 := rfl
  have hdigits : decimalDigits (268 + 7 + escapedSize (poolJson "pool")) ≤ 5 :=
    (Nat.length_repr_le_iff (by decide)).mpr (by omega)
  rw [chunkEntryBytes, hpayload, hcommand, hframe, respBulkStringSize, hlimit]
  omega

theorem rustTrim_poolDigest : rustTrim poolDigest ≠ "" :=
  rustTrim_ne_empty (c := '6') (by decide +kernel) (by decide)

theorem pool_windowsFit :
    WindowsFit sampleConfig 5 7 sampleScope (fun _ => poolDigest) 1700000000000 (poolJson "pool") := by
  refine ⟨poolJson_ne _, fun i window hi => ?_⟩
  rw [windows_single (poolJson_ne _) pool_fits, List.getElem?_singleton] at hi
  split at hi
  case isFalse => cases hi
  case isTrue hzero =>
    subst hzero
    obtain rfl := Option.some.inj hi
    refine ⟨by decide, by decide, ?_, pool_bytes⟩
    rw [String.ofList_toList]
    exact rustTrim_poolJson _

/-- A replacement with an ordinary pool is published. -/
theorem recovery_chunks_publish_iff_pool :
    PublishesChunks (sampleCodec poolDigest (poolJson "pool")) sampleConfig 5 7 sampleScope
      (fun _ _ => 1700000000000) (fun _ => poolDigest) (poolJson "pool") :=
  (recovery_chunks_publish_iff sampleScope_valid (fun _ => rustTrim_poolDigest)
    (sampleCodec_serde _ (poolJson_ne _) pool_fits) (fun _ _ => rfl)).mpr pool_windowsFit

/-- An id of quotes. -/
def quotesId (n : Nat) : String := String.ofList (List.replicate n '"')

/-- The digest of the replacement with a million and a half of them. -/
def quotesDigest : String := "b5b1692511036464309e3e864475e4971ad2a03ae20daae6aca7ecef6609fa78"

theorem rustTrim_quotesDigest : rustTrim quotesDigest ≠ "" :=
  rustTrim_ne_empty (c := 'b') (by decide +kernel) (by decide)

/-- Up to 1700000 quotes, the replacement fits into a single window. -/
theorem quotes_fit {n : Nat} (hn : n ≤ 1700000) :
    (poolJson (quotesId n)).utf8ByteSize ≤ recoveryFragmentTargetBytes := by
  have hquote : String.utf8Len (escapeChar '"') = 2 := by decide
  have htarget : recoveryFragmentTargetBytes = 3500000 := rfl
  rw [utf8ByteSize_poolJson, htarget, escapedSize, quotesId, String.toList_ofList,
    utf8Len_escape_replicate, hquote]
  omega

/-- Escaped once more, each quote takes four bytes. -/
theorem quotes_escaped (n : Nat) : n * 4 ≤ escapedSize (poolJson (quotesId n)) := by
  have hquote : String.utf8Len (escape (escapeChar '"')) = 4 := by decide
  have hinner : escapedSize (String.ofList (escape (quotesId n).toList)) = n * 4 := by
    rw [escapedSize, String.toList_ofList, quotesId, String.toList_ofList,
      utf8Len_escape_escape_replicate, hquote]
  rw [poolJson, escapedSize_append, escapedSize_append, quoted, escapedSize_append,
    escapedSize_append, hinner]
  omega

/-- From 1100000 quotes on, the entry of that window is too large. -/
theorem quotes_not_published {n : Nat} (hlow : 1100000 ≤ n) (hhigh : n ≤ 1700000) :
    ¬PublishesChunks (sampleCodec quotesDigest (poolJson (quotesId n))) sampleConfig 5 7 sampleScope
      (fun _ _ => 1700000000000) (fun _ => quotesDigest) (poolJson (quotesId n)) := by
  rintro ⟨fragments, built, hprepare, hbuilt, -⟩
  obtain ⟨hne, rfl⟩ := prepareRecoveryFragments_eq_ok.mp hprepare
  have hfits := quotes_fit hhigh
  have hserde := sampleCodec_serde quotesDigest hne hfits
  rw [windows_single hne hfits, List.map_singleton] at hbuilt hserde
  obtain ⟨entry, hentry⟩ := exists_mapM_eq_ok.mp ⟨built, hbuilt⟩ (_, 0) List.mem_cons_self
  rw [check_bind_eq_ok] at hentry
  obtain ⟨-, -, hbytes⟩ := (buildRecoveryChunkEntry_iff (hserde 0 _ rfl) sampleScope_valid
    (by decide) rustTrim_quotesDigest (fun _ => rfl)).mp ⟨entry, hentry.2⟩
  have hescaped := quotes_escaped n
  have hlimit : recoveryRedisEntryMaxBytes = 4194304 := rfl
  have hpayload : (fragmentOf (fun _ => quotesDigest) (poolJson (quotesId n)).toList).payload =
      poolJson (quotesId n) := String.ofList_toList
  rw [hlimit, chunkEntryBytes, respBulkStringSize, hpayload] at hbytes
  omega

/-- **A dense replacement**, with a million and a half quotes in an id, is serialised but not
published. -/
theorem dense_replacement_refused :
    BroadcasterSnapshotCache.serializeRecoverySource poolLen (poolToJson (quotesId 1500000))
      (.new 1 [.rfq]) (poolSource (quotesId 1500000)) 8388608 =
      .ok (poolJson (quotesId 1500000)) ∧
    ¬PublishesChunks (sampleCodec quotesDigest (poolJson (quotesId 1500000))) sampleConfig 5 7
      sampleScope (fun _ _ => 1700000000000) (fun _ => quotesDigest)
      (poolJson (quotesId 1500000)) :=
  ⟨pool_serialised _, quotes_not_published (by omega) (by omega)⟩

end TychoSimulationServer
