import TychoSimulationServer.SnapshotRoundTrip

/-!
# Cutting an account at the byte limit

`split_vm_storage_account_for_snapshot` fills a fragment with as many slots as an estimate admits
and corrects the estimate by measuring. What the estimate is worth depends on how a map of slots is
serialised, so the layout of that map is the assumption here (`SlotLayout`); everything else about
the JSON text stays a parameter.

* The estimate counts a comma after **every** slot, the text has one **between** two slots. Below
  the end of `usize` the estimate is therefore one byte too long, and the correction never runs.
* A slot whose fragment has exactly the permitted length is refused (`slotRange_ok_iff`). It could
  not have joined the slots before it either, so it does not matter where the cuts before it fell.
-/

namespace TychoSimulationServer

open Fallible

variable {Sim : Type}

/-! ## The layout of a map of slots

What the cut relies on of serde: a map of slots adds, to the size of the fragment without slots, the
sizes of its entries and the commas between them. -/

/-- The envelope in which a fragment with some slots of an account is measured. -/
def fragmentEnvelope (ctx : SnapshotChunkBuildContext) (message : BroadcasterProtocolMessage)
    (syncStatuses : SyncStatuses) (address : Bytes) (account : ResponseAccount)
    (slots : List (Bytes × Bytes)) : BroadcasterEnvelope Sim :=
  { streamId := ctx.streamId
    messageSeq := .ofNat (2 ^ 64 - 1)
    payload := .snapshotChunk
      { snapshotId := ctx.snapshotId
        chunkIndex := .ofNat worstCaseSnapshotChunkIndex
        partitions := [.withMessages ctx.backend ctx.blockNumber
          [vmStorageAccountFragmentForSlotRange message address account slots] syncStatuses] } }

/-- How serde lays out a fragment: slots, here in order, add the entries of their map, and leaving out the sync
statuses does not make the text longer. -/
structure SlotLayout (serialisedLen : SerialisedLen Sim) : Prop where
  slots : ∀ ctx message syncStatuses address account slots size,
    slots.Pairwise (fun a b => compare a.1 b.1 = .lt) →
    serialisedLen (fragmentEnvelope ctx message syncStatuses address account []) = .ok size →
    serialisedLen (fragmentEnvelope ctx message syncStatuses address account slots) =
      .ok (size + slotsLen slots)
  withoutStatuses : ∀ ctx message syncStatuses address account size,
    serialisedLen (fragmentEnvelope ctx message syncStatuses address account []) = .ok size →
    ∃ bare ≤ size,
      serialisedLen (fragmentEnvelope ctx message ∅ address account []) = .ok bare

@[simp] theorem slotsLen_singleton (slot : Bytes × Bytes) : slotsLen [slot] = slotEntryLen slot := by
  simp [slotsLen]

theorem slotsLen_cons_cons (slot next : Bytes × Bytes) (rest : List (Bytes × Bytes)) :
    slotsLen (slot :: next :: rest) = slotEntryLen slot + 1 + slotsLen (next :: rest) := by
  simp only [slotsLen, List.map_cons, List.sum_cons, List.length_cons, Nat.add_sub_cancel]
  omega

theorem slotEntryLen_pos (slot : Bytes × Bytes) : 0 < slotEntryLen slot := by
  unfold slotEntryLen
  omega

/-- Every slot costs at least its own entry. -/
theorem slotEntryLen_le_slotsLen {slot : Bytes × Bytes} {slots : List (Bytes × Bytes)}
    (h : slot ∈ slots) : slotEntryLen slot ≤ slotsLen slots := by
  induction slots with
  | nil => cases h
  | cons first rest ih =>
    cases rest with
    | nil =>
      rw [List.mem_singleton.mp h, slotsLen_singleton]
    | cons next rest =>
      rw [slotsLen_cons_cons]
      rcases List.mem_cons.mp h with rfl | h
      · omega
      · exact (ih h).trans (Nat.le_add_left _ _)

/-- A slot after another one costs its entry and a comma more than nothing. -/
theorem slotEntryLen_lt_slotsLen (first : Bytes × Bytes) {slot : Bytes × Bytes} {rest : List (Bytes × Bytes)}
    (h : slot ∈ rest) : slotEntryLen slot < slotsLen (first :: rest) := by
  cases rest with
  | nil => cases h
  | cons next rest =>
    have hle := slotEntryLen_le_slotsLen h
    have hpos := slotEntryLen_pos first
    rw [slotsLen_cons_cons]
    omega

/-! ## The estimate

The estimate of an entry is its length without its comma, as long as nothing saturates. It is a hint
only: the range is measured before it is taken. -/

theorem saturatingAdd_le (a b : Nat) : saturatingAdd a b ≤ a + b :=
  Nat.min_le_left _ _

/-- The estimate of an entry is never more than the entry and a comma. -/
theorem estimatedSlotEntrySize_le (slot : Bytes × Bytes) :
    estimatedSlotEntrySize slot ≤ slotEntryLen slot + 1 := by
  unfold estimatedSlotEntrySize hexJsonStringSize slotEntryLen saturatingAdd saturatingMul
  omega

/-- It is exact as long as it stays inside `usize`. -/
theorem estimatedSlotEntrySize_eq {slot : Bytes × Bytes} (h : slotEntryLen slot < usizeMax) :
    estimatedSlotEntrySize slot = slotEntryLen slot + 1 := by
  unfold slotEntryLen at h
  unfold estimatedSlotEntrySize hexJsonStringSize slotEntryLen saturatingAdd saturatingMul
  omega

/-- No slot at all is admitted exactly when the first one is estimated above the limit. -/
theorem estimatedSlotCount_cons_eq_zero (limit size : Nat) (slot : Bytes × Bytes)
    (rest : List (Bytes × Bytes)) :
    estimatedSlotCount limit size (slot :: rest) = 0 ↔
      limit < saturatingAdd size (estimatedSlotEntrySize slot) := by
  rw [estimatedSlotCount]
  split
  case isTrue h => exact iff_of_true rfl h
  case isFalse h => exact iff_of_false (Nat.succ_ne_zero _) h

/-! ## Measuring a range of slots

A range fits when its measured fragment does. With the layout that is arithmetic on the sizes of the
slots. -/

section

variable {serialisedLen : SerialisedLen Sim} {ctx : SnapshotChunkBuildContext}
  {message : BroadcasterProtocolMessage} {syncStatuses : SyncStatuses} {address : Bytes}
  {account : ResponseAccount} {includeSyncStatuses : Bool}

/-- The measured size of a fragment with some slots of the account. -/
def slotRangeSize (serialisedLen : SerialisedLen Sim) (ctx : SnapshotChunkBuildContext)
    (message : BroadcasterProtocolMessage) (syncStatuses : SyncStatuses) (address : Bytes)
    (account : ResponseAccount) (includeSyncStatuses : Bool) (slots : List (Bytes × Bytes)) :
    Except SnapshotError Nat :=
  ctx.rawFragmentSize serialisedLen
    (vmStorageAccountFragmentForSlotRange message address account slots) syncStatuses
    includeSyncStatuses

/-- The message and the statuses measured with it belong to the backend. -/
def FragmentPlaced (ctx : SnapshotChunkBuildContext) (message : BroadcasterProtocolMessage)
    (syncStatuses : SyncStatuses) : Prop :=
  backendForSyncState message.protocol = .ok ctx.backend ∧
    ∀ protocol ∈ syncStatuses, backendForSyncState protocol = .ok ctx.backend

/-- A range is measured when its fragment is well placed and serde writes it. -/
theorem slotRangeSize_eq_ok {slots : List (Bytes × Bytes)} {size : Nat} :
    slotRangeSize serialisedLen ctx message syncStatuses address account includeSyncStatuses
        slots = .ok size ↔
      FragmentPlaced ctx message (if includeSyncStatuses then syncStatuses else ∅) ∧
        serialisedLen (fragmentEnvelope ctx message
          (if includeSyncStatuses then syncStatuses else ∅) address account slots) = .ok size := by
  have hindex : worstCaseSnapshotChunkIndex < 2 ^ 32 := by decide
  rw [slotRangeSize, SnapshotChunkBuildContext.rawFragmentSize,
    SnapshotChunkBuildContext.messagesSize, bind_eq_ok]
  simp only [SnapshotChunkBuildContext.messagesChunk, SnapshotChunkBuildContext.snapshotChunk,
    check_bind_eq_ok, ensure_eq_ok, mapError_eq_ok, chunk_new_singleton]
  constructor
  · rintro ⟨_, ⟨-, hplaced, rfl⟩, hsize⟩
    exact ⟨⟨hplaced.messages (vmStorageAccountFragmentForSlotRange message address account slots)
      (List.mem_singleton.mpr rfl), hplaced.syncStatuses⟩, hsize⟩
  · rintro ⟨⟨hprotocol, hstatuses⟩, hsize⟩
    refine ⟨_, ⟨hindex, ⟨fun m hm => ?_, by simp [BroadcasterSnapshotPartition.withMessages],
      hstatuses⟩, rfl⟩, hsize⟩
    rw [List.mem_singleton.mp hm]
    exact hprotocol

/-- The turn of the outer loop: measure the metadata, estimate, correct. -/
theorem slotRange_eq_ok {slots : List (Bytes × Bytes)} {extra : Nat} :
    slotRange serialisedLen ctx message syncStatuses address account includeSyncStatuses slots =
        .ok extra ↔
      ∃ base, slotRangeSize serialisedLen ctx message syncStatuses address account
          includeSyncStatuses [] = .ok base ∧
        base < ctx.maxPayloadBytes ∧
        ∃ estimated, estimatedSlotCount ctx.maxPayloadBytes base slots = estimated + 1 ∧
          shrinkSlotRange serialisedLen ctx message syncStatuses address account
            includeSyncStatuses slots estimated = .ok extra := by
  unfold slotRange slotRangeSize
  rw [bind_eq_ok]
  refine exists_congr fun base => and_congr_right fun _ => ?_
  rw [check_bind_eq_ok, ensure_eq_ok]
  refine and_congr_right fun _ => ?_
  generalize estimatedSlotCount ctx.maxPayloadBytes base slots = count
  cases count with
  | zero => simp
  | succ estimated => simp

/-- What the correcting loop keeps fits. -/
theorem shrinkSlotRange_fits {slots : List (Bytes × Bytes)} {extra kept : Nat}
    (h : shrinkSlotRange serialisedLen ctx message syncStatuses address account
      includeSyncStatuses slots extra = .ok kept) :
    ctx.rawFragmentFits serialisedLen
      (vmStorageAccountFragmentForSlotRange message address account (slots.take (kept + 1)))
      syncStatuses includeSyncStatuses = .ok true := by
  induction extra with
  | zero =>
    rw [shrinkSlotRange] at h
    obtain ⟨fits, hfits, h⟩ := bind_eq_ok.mp h
    cases fits with
    | true =>
      obtain rfl : 0 = kept := pure_eq_ok.mp h
      exact hfits
    | false => cases h
  | succ extra ih =>
    rw [shrinkSlotRange] at h
    obtain ⟨fits, hfits, h⟩ := bind_eq_ok.mp h
    cases fits with
    | true =>
      obtain rfl : extra + 1 = kept := pure_eq_ok.mp h
      exact hfits
    | false => exact ih h

theorem slotRange_fits {slot : Bytes × Bytes} {rest : List (Bytes × Bytes)} {extra : Nat}
    (h : slotRange serialisedLen ctx message syncStatuses address account includeSyncStatuses
      (slot :: rest) = .ok extra) :
    ctx.rawFragmentFits serialisedLen
      (vmStorageAccountFragmentForSlotRange message address account (slot :: rest.take extra))
      syncStatuses includeSyncStatuses = .ok true := by
  obtain ⟨_, _, _, _, _, hshrink⟩ := slotRange_eq_ok.mp h
  have hfits := shrinkSlotRange_fits hshrink
  rwa [List.take_succ_cons] at hfits

/-- A range fits, measured as the fragment of its place: the statuses go with the first one. -/
def RangesFit (serialisedLen : SerialisedLen Sim) (ctx : SnapshotChunkBuildContext)
    (message : BroadcasterProtocolMessage) (syncStatuses : SyncStatuses) (address : Bytes)
    (account : ResponseAccount) (includeSyncStatuses : Bool)
    (ranges : List (List (Bytes × Bytes))) : Prop :=
  ∀ i range, ranges[i]? = some range →
    ctx.rawFragmentFits serialisedLen
      (vmStorageAccountFragmentForSlotRange message address account range) syncStatuses
      (includeSyncStatuses && i == 0) = .ok true

/-- What the outer loop returns: ranges with slots in them, and each fits. -/
theorem splitSlots_fits {slots : List (Bytes × Bytes)} {fragments : List BroadcasterProtocolMessage}
    (h : splitSlots serialisedLen ctx message syncStatuses address account includeSyncStatuses
      slots = .ok fragments) :
    ∃ ranges : List (List (Bytes × Bytes)), ranges.flatten = slots ∧ (∀ range ∈ ranges, range ≠ []) ∧
      fragments = ranges.map (vmStorageAccountFragmentForSlotRange message address account) ∧
      RangesFit serialisedLen ctx message syncStatuses address account includeSyncStatuses
        ranges := by
  induction includeSyncStatuses, slots using splitSlots.induct generalizing fragments with
  | case1 includeSyncStatuses =>
    rw [splitSlots, pure_eq_ok] at h
    exact ⟨[], rfl, by simp, h.symm, by simp [RangesFit]⟩
  | case2 includeSyncStatuses slot rest ih =>
    rw [splitSlots] at h
    simp only [bind_eq_ok, pure_eq_ok] at h
    obtain ⟨extra, hrange, later, hlater, rfl⟩ := h
    obtain ⟨ranges, hranges, hfull, rfl, hfit⟩ := ih extra hlater
    refine ⟨(slot :: rest.take extra) :: ranges, ?_, ?_, rfl, ?_⟩
    · rw [List.flatten_cons, hranges, List.cons_append, List.take_append_drop]
    · rintro range (- | hmem)
      · exact List.cons_ne_nil _ _
      · exact hfull range ‹_›
    · rintro (- | i) range hi
      · obtain rfl := Option.some.inj hi
        rw [show (includeSyncStatuses && 0 == 0) = includeSyncStatuses by simp]
        exact slotRange_fits hrange
      · rw [show (includeSyncStatuses && i + 1 == 0) = (false && i == 0) by simp]
        exact hfit i range hi

variable (layout : SlotLayout serialisedLen)
include layout

/-- Slots add their entries to what the metadata takes. -/
theorem slotRangeSize_of_base {base : Nat} {slots : List (Bytes × Bytes)}
    (hbase : slotRangeSize serialisedLen ctx message syncStatuses address account
      includeSyncStatuses [] = .ok base)
    (hascending : slots.Pairwise fun a b => compare a.1 b.1 = .lt) :
    slotRangeSize serialisedLen ctx message syncStatuses address account includeSyncStatuses
      slots = .ok (base + slotsLen slots) := by
  obtain ⟨hplaced, hsize⟩ := slotRangeSize_eq_ok.mp hbase
  exact slotRangeSize_eq_ok.mpr ⟨hplaced, layout.slots _ _ _ _ _ _ _ hascending hsize⟩

/-- Without the sync statuses the metadata takes no more. -/
theorem slotRangeSize_without {base : Nat}
    (hbase : slotRangeSize serialisedLen ctx message syncStatuses address account
      includeSyncStatuses [] = .ok base) :
    ∃ bare ≤ base, slotRangeSize serialisedLen ctx message syncStatuses address account
      false [] = .ok bare := by
  cases includeSyncStatuses with
  | false => exact ⟨base, le_rfl, hbase⟩
  | true =>
    obtain ⟨⟨hprotocol, -⟩, hsize⟩ := slotRangeSize_eq_ok.mp hbase
    obtain ⟨bare, hle, hbare⟩ := layout.withoutStatuses _ _ _ _ _ _ hsize
    exact ⟨bare, hle, slotRangeSize_eq_ok.mpr
      ⟨⟨hprotocol, fun _ h => absurd h Std.ExtTreeMap.not_mem_empty⟩, hbare⟩⟩

/-- Whether a range fits is decided by its entries. -/
theorem rawFragmentFits_of_base {base : Nat} {slots : List (Bytes × Bytes)}
    (hbase : slotRangeSize serialisedLen ctx message syncStatuses address account
      includeSyncStatuses [] = .ok base)
    (hascending : slots.Pairwise fun a b => compare a.1 b.1 = .lt) :
    ctx.rawFragmentFits serialisedLen
        (vmStorageAccountFragmentForSlotRange message address account slots) syncStatuses
        includeSyncStatuses = .ok (decide (base + slotsLen slots ≤ ctx.maxPayloadBytes)) := by
  rw [SnapshotChunkBuildContext.rawFragmentFits, bind_eq_ok]
  exact ⟨_, slotRangeSize_of_base layout hbase hascending, rfl⟩

/-! ## One fragment

The code starts from its estimate and shrinks, so a fragment can be begun when it does not shrink to
nothing. -/

variable {base : Nat} {slot : Bytes × Bytes} {rest : List (Bytes × Bytes)}

/-- A range that fits is no longer than the limit. -/
theorem le_of_rawFragmentFits {slots : List (Bytes × Bytes)}
    (hbase : slotRangeSize serialisedLen ctx message syncStatuses address account
      includeSyncStatuses [] = .ok base)
    (hascending : slots.Pairwise fun a b => compare a.1 b.1 = .lt)
    (h : ctx.rawFragmentFits serialisedLen
      (vmStorageAccountFragmentForSlotRange message address account slots) syncStatuses
      includeSyncStatuses = .ok true) :
    base + slotsLen slots ≤ ctx.maxPayloadBytes := by
  rw [rawFragmentFits_of_base layout hbase hascending, Except.ok.injEq] at h
  exact of_decide_eq_true h

/-- It finds something to keep exactly when the first slot fits alone. -/
theorem shrinkSlotRange_ok_iff (extra : Nat)
    (hbase : slotRangeSize serialisedLen ctx message syncStatuses address account
      includeSyncStatuses [] = .ok base)
    (hascending : (slot :: rest).Pairwise fun a b => compare a.1 b.1 = .lt) :
    (∃ kept, shrinkSlotRange serialisedLen ctx message syncStatuses address account
      includeSyncStatuses (slot :: rest) extra = .ok kept) ↔
      base + slotEntryLen slot ≤ ctx.maxPayloadBytes := by
  have hfits := fun n => rawFragmentFits_of_base layout hbase
    (hascending.sublist (List.take_sublist n (slot :: rest)))
  constructor
  · rintro ⟨kept, h⟩
    have hle := le_of_rawFragmentFits layout hbase
      (hascending.sublist (List.take_sublist _ _)) (shrinkSlotRange_fits h)
    have hslot : slotEntryLen slot ≤ slotsLen ((slot :: rest).take (kept + 1)) :=
      slotEntryLen_le_slotsLen List.mem_cons_self
    omega
  · intro hle
    induction extra with
    | zero =>
      refine ⟨0, ?_⟩
      have hone : base + slotsLen ((slot :: rest).take 1) ≤ ctx.maxPayloadBytes := by
        simpa using hle
      rw [shrinkSlotRange, hfits 1, decide_eq_true hone]
      rfl
    | succ extra ih =>
      rw [shrinkSlotRange, hfits (extra + 2)]
      simp only [bind, Except.bind]
      split
      case isTrue => exact ⟨_, rfl⟩
      case isFalse => exact ih

/-- The first slot may start a fragment: its fragment is smaller than the limit, or as large and the
limit is the largest number there is. -/
def StartsFragment (maxPayloadBytes size : Nat) : Prop :=
  size < maxPayloadBytes ∨ size = maxPayloadBytes ∧ usizeMax ≤ maxPayloadBytes

/-- **When a slot is refused**: its fragment is too large, or it is exactly as large as permitted
and the comma of the estimate still counts. -/
theorem slotRange_ok_iff
    (hbase : slotRangeSize serialisedLen ctx message syncStatuses address account
      includeSyncStatuses [] = .ok base)
    (hascending : (slot :: rest).Pairwise fun a b => compare a.1 b.1 = .lt) :
    (∃ extra, slotRange serialisedLen ctx message syncStatuses address account
      includeSyncStatuses (slot :: rest) = .ok extra) ↔
      StartsFragment ctx.maxPayloadBytes (base + slotEntryLen slot) := by
  have hpos := slotEntryLen_pos slot
  have hestimate := estimatedSlotEntrySize_le slot
  have hzero := estimatedSlotCount_cons_eq_zero ctx.maxPayloadBytes base slot rest
  constructor
  · rintro ⟨extra, h⟩
    obtain ⟨base', hbase', hlt, estimated, hcount, hshrink⟩ := slotRange_eq_ok.mp h
    obtain rfl : base = base' := Except.ok.inj (hbase.symm.trans hbase')
    have hle := (shrinkSlotRange_ok_iff layout _ hbase hascending).mp ⟨extra, hshrink⟩
    rcases Nat.lt_or_eq_of_le hle with hsmall | hexact
    · exact .inl hsmall
    · refine .inr ⟨hexact, ?_⟩
      -- below the end of `usize` the estimate is one more than the limit, and admits nothing
      by_contra hbelow
      have hentry := estimatedSlotEntrySize_eq (by omega : slotEntryLen slot < usizeMax)
      have hnone := hzero.mpr (by rw [hentry, saturatingAdd]; omega)
      omega
  · intro hstarts
    have hle : base + slotEntryLen slot ≤ ctx.maxPayloadBytes := by
      rcases hstarts with hlt | ⟨heq, -⟩
      · exact hlt.le
      · exact heq.le
    have hsome : estimatedSlotCount ctx.maxPayloadBytes base (slot :: rest) ≠ 0 := by
      intro hnone
      have hover := hzero.mp hnone
      have hsum := saturatingAdd_le base (estimatedSlotEntrySize slot)
      have hcap : saturatingAdd base (estimatedSlotEntrySize slot) ≤ usizeMax :=
        Nat.min_le_right _ _
      rcases hstarts with hlt | ⟨-, hmax⟩
      · omega
      · omega
    obtain ⟨estimated, hcount⟩ := Nat.exists_eq_succ_of_ne_zero hsome
    obtain ⟨extra, hshrink⟩ :=
      (shrinkSlotRange_ok_iff layout estimated hbase hascending).mpr hle
    exact ⟨extra, slotRange_eq_ok.mpr ⟨base, hbase, by omega, estimated, hcount, hshrink⟩⟩

/-! ## All fragments -/

/-- Alone in the fragment of its place, the slot may start it. -/
def StartsAlone (serialisedLen : SerialisedLen Sim) (ctx : SnapshotChunkBuildContext)
    (message : BroadcasterProtocolMessage) (syncStatuses : SyncStatuses) (address : Bytes)
    (account : ResponseAccount) (includeSyncStatuses : Bool) (slot : Bytes × Bytes) : Prop :=
  ∃ size, slotRangeSize serialisedLen ctx message syncStatuses address account
    includeSyncStatuses [slot] = .ok size ∧ StartsFragment ctx.maxPayloadBytes size

/-- Whether a slot can begin a fragment, in numbers. -/
theorem startsAlone_iff
    (hbase : slotRangeSize serialisedLen ctx message syncStatuses address account
      includeSyncStatuses [] = .ok base) :
    StartsAlone serialisedLen ctx message syncStatuses address account includeSyncStatuses slot ↔
      StartsFragment ctx.maxPayloadBytes (base + slotEntryLen slot) := by
  have hsize := slotRangeSize_of_base layout hbase (List.pairwise_singleton _ slot)
  rw [slotsLen_singleton] at hsize
  rw [StartsAlone, hsize]
  constructor
  · rintro ⟨size, heq, hstarts⟩
    rwa [Except.ok.inj heq]
  · intro hstarts
    exact ⟨_, rfl, hstarts⟩

/-- **When an account is cut**: every slot could start a fragment, wherever the cuts fall. -/
theorem splitSlots_ok_iff {slots : List (Bytes × Bytes)}
    (hbase : slotRangeSize serialisedLen ctx message syncStatuses address account
      includeSyncStatuses [] = .ok base)
    (hascending : slots.Pairwise fun a b => compare a.1 b.1 = .lt) :
    (∃ fragments, splitSlots serialisedLen ctx message syncStatuses address account
      includeSyncStatuses slots = .ok fragments) ↔
      ∀ i slot, slots[i]? = some slot → StartsAlone serialisedLen ctx message syncStatuses address
        account (includeSyncStatuses && i == 0) slot := by
  induction includeSyncStatuses, slots using splitSlots.induct generalizing base with
  | case1 includeSyncStatuses =>
    rw [splitSlots]
    exact iff_of_true ⟨[], rfl⟩ (by simp)
  | case2 includeSyncStatuses slot rest ih =>
    obtain ⟨bare, hle, hbare⟩ := slotRangeSize_without layout hbase
    have hdrop := fun extra => hascending.of_cons.sublist (List.drop_sublist extra rest)
    have hfirst := slotRange_ok_iff layout hbase hascending
    rw [← startsAlone_iff layout hbase] at hfirst
    rw [splitSlots]
    simp only [bind_eq_ok, pure_eq_ok]
    constructor
    · rintro ⟨fragments, extra, hrange, later, hlater, -⟩ (- | i) next hi
      · obtain rfl := Option.some.inj hi
        simpa using hfirst.mp ⟨extra, hrange⟩
      · rw [show (includeSyncStatuses && i + 1 == 0) = false by simp]
        rw [List.getElem?_cons_succ] at hi
        rcases Nat.lt_or_ge i extra with hlt | hge
        · -- behind the first slot of a fragment that fits, a slot is far from the limit
          have hmem : next ∈ rest.take extra :=
            List.mem_of_getElem? (by rwa [List.getElem?_take_of_lt hlt])
          have hlen := slotEntryLen_lt_slotsLen slot hmem
          have hfits := le_of_rawFragmentFits layout hbase
            (hascending.sublist ((List.take_sublist extra rest).cons_cons slot))
            (slotRange_fits hrange)
          exact (startsAlone_iff layout hbare).mpr (.inl (by omega))
        · have hrest := (ih extra hbare (hdrop extra)).mp ⟨later, hlater⟩ (i - extra) next (by
            rwa [List.getElem?_drop, Nat.add_sub_cancel' hge])
          simpa using hrest
    · intro hall
      obtain ⟨extra, hrange⟩ := hfirst.mpr (by simpa using hall 0 slot rfl)
      obtain ⟨later, hlater⟩ := (ih extra hbare (hdrop extra)).mpr (by
        intro i next hi
        rw [List.getElem?_drop] at hi
        simpa using hall (extra + i + 1) next hi)
      exact ⟨_, extra, hrange, later, hlater, rfl⟩

/-! ## The cut of an account

An account that can be cut is cut into ranges that fit. The limits at which the code refuses
although a cut exists are those at which a single slot fits exactly. -/

/-- The fragment holds one account: the given one, with a range of its slots. -/
def HoldsRange (address : Bytes) (account : ResponseAccount)
    (fragment : BroadcasterProtocolMessage) (range : List (Bytes × Bytes)) : Prop :=
  ∃ held, fragment.message.snapshots.vmStorage.toList = [(address, held)] ∧
    held.slots.toList = range ∧ { held with slots := account.slots } = account

/-- **An exact cut**: the fragments hold the account's slots range by range, in order, none of them
is empty unless the account is, and each fits at the worst chunk index. -/
def ExactCut (serialisedLen : SerialisedLen Sim) (ctx : SnapshotChunkBuildContext)
    (syncStatuses : SyncStatuses) (address : Bytes) (account : ResponseAccount)
    (includeSyncStatuses : Bool) (fragments : List BroadcasterProtocolMessage) : Prop :=
  ∃ ranges : List (List (Bytes × Bytes)), ranges.flatten = account.slots.toList ∧
    (∀ range ∈ ranges, range = [] → account.slots.toList = []) ∧
    List.Forall₂ (HoldsRange address account) fragments ranges ∧
    ∀ i fragment, fragments[i]? = some fragment →
      ctx.rawFragmentFits serialisedLen fragment syncStatuses (includeSyncStatuses && i == 0) =
        .ok true

/-- The smallest ranges an account can be cut into: single slots, or nothing at all. -/
def smallestRanges (account : ResponseAccount) : List (List (Bytes × Bytes)) :=
  if account.slots.toList = [] then [[]] else account.slots.toList.map ([·])

/-- Even a smallest fragment exceeds the limit. -/
def SmallestExceeds (serialisedLen : SerialisedLen Sim) (ctx : SnapshotChunkBuildContext)
    (message : BroadcasterProtocolMessage) (syncStatuses : SyncStatuses) (address : Bytes)
    (account : ResponseAccount) (includeSyncStatuses : Bool) : Prop :=
  ∃ i range size, (smallestRanges account)[i]? = some range ∧
    slotRangeSize serialisedLen ctx message syncStatuses address account
      (includeSyncStatuses && i == 0) range = .ok size ∧ ctx.maxPayloadBytes < size

/-- The cut is exact, or there is none and a smallest fragment exceeds the limit. -/
def CutsOrExceeds (serialisedLen : SerialisedLen Sim) (ctx : SnapshotChunkBuildContext)
    (message : BroadcasterProtocolMessage) (syncStatuses : SyncStatuses) (address : Bytes)
    (account : ResponseAccount) (includeSyncStatuses : Bool) : Prop :=
  match splitVmStorageAccountForSnapshot serialisedLen ctx message syncStatuses address account
      includeSyncStatuses with
  | .ok fragments =>
    ExactCut serialisedLen ctx syncStatuses address account includeSyncStatuses fragments
  | .error _ =>
    SmallestExceeds serialisedLen ctx message syncStatuses address account includeSyncStatuses

/-- The metadata can be measured, and no single slot makes a fragment of exactly the limit. -/
structure NoExactFit (serialisedLen : SerialisedLen Sim) (ctx : SnapshotChunkBuildContext)
    (message : BroadcasterProtocolMessage) (syncStatuses : SyncStatuses) (address : Bytes)
    (account : ResponseAccount) (includeSyncStatuses : Bool) : Prop where
  measurable : ∃ size, slotRangeSize serialisedLen ctx message syncStatuses address account
    includeSyncStatuses [] = .ok size
  exact : ctx.maxPayloadBytes < usizeMax → ∀ i slot, account.slots.toList[i]? = some slot →
    slotRangeSize serialisedLen ctx message syncStatuses address account
      (includeSyncStatuses && i == 0) [slot] ≠ .ok ctx.maxPayloadBytes

omit layout in
/-- A fragment holds the slots of its range. -/
theorem holdsRange_fragment (message : BroadcasterProtocolMessage) (address : Bytes)
    (account : ResponseAccount) {range : List (Bytes × Bytes)}
    (hascending : range.Pairwise fun a b => compare a.1 b.1 = .lt) :
    HoldsRange address account (vmStorageAccountFragmentForSlotRange message address account range)
      range := by
  have hslots : (Std.ExtTreeMap.ofList range : FinMap Bytes Bytes).toList = range :=
    MapFold.toList_ofList_of_ascending hascending
  generalize hheld : (Std.ExtTreeMap.ofList range : FinMap Bytes Bytes) = held at hslots
  have hone : (Std.ExtTreeMap.ofList [(address, responseAccountWithSlots account held)] :
      FinMap Bytes ResponseAccount).toList = [(address, responseAccountWithSlots account held)] :=
    MapFold.toList_ofList_of_ascending (List.pairwise_singleton _ _)
  refine ⟨responseAccountWithSlots account held, ?_, hslots, rfl⟩
  rw [vmStorageAccountFragmentForSlotRange, hheld]
  exact hone

omit layout in
/-- The metadata was measured with the first fragment. -/
theorem base_of_splitSlots_ok {slots : List (Bytes × Bytes)}
    {fragments : List BroadcasterProtocolMessage} (hne : slots ≠ [])
    (h : splitSlots serialisedLen ctx message syncStatuses address account includeSyncStatuses
      slots = .ok fragments) :
    ∃ base, slotRangeSize serialisedLen ctx message syncStatuses address account
      includeSyncStatuses [] = .ok base := by
  cases slots with
  | nil => exact absurd rfl hne
  | cons slot rest =>
    rw [splitSlots] at h
    obtain ⟨extra, hrange, -⟩ := bind_eq_ok.mp h
    obtain ⟨base, hbase, -⟩ := slotRange_eq_ok.mp hrange
    exact ⟨base, hbase⟩

omit layout in
/-- Whatever is returned is an exact cut. -/
theorem exactCut_of_ok {fragments : List BroadcasterProtocolMessage}
    (h : splitVmStorageAccountForSnapshot serialisedLen ctx message syncStatuses address account
      includeSyncStatuses = .ok fragments) :
    ExactCut serialisedLen ctx syncStatuses address account includeSyncStatuses fragments := by
  have hascending : account.slots.toList.Pairwise fun a b => compare a.1 b.1 = .lt :=
    Std.ExtTreeMap.ordered_keys_toList
  unfold splitVmStorageAccountForSnapshot at h
  dsimp only at h
  split at h
  case isTrue hempty =>
    obtain ⟨fits, hfits, h⟩ := bind_eq_ok.mp h
    rw [check_bind_eq_ok, ensure_eq_ok, pure_eq_ok] at h
    obtain ⟨htrue, rfl⟩ := h
    refine ⟨[[]], by simp [hempty], fun _ _ _ => hempty, ?_, ?_⟩
    · exact .cons (holdsRange_fragment _ _ _ List.Pairwise.nil) .nil
    · rintro (- | i) fragment hi
      · obtain rfl := Option.some.inj hi
        rw [show (includeSyncStatuses && 0 == 0) = includeSyncStatuses by simp, hfits, htrue]
      · cases hi
  case isFalse hne =>
    obtain ⟨ranges, hflat, hfull, rfl, hfit⟩ := splitSlots_fits h
    refine ⟨ranges, hflat, fun range hmem hnil => absurd hnil (hfull range hmem), ?_, ?_⟩
    · rw [List.forall₂_map_left_iff, List.forall₂_same]
      intro range hmem
      refine holdsRange_fragment _ _ _ (hascending.sublist ?_)
      rw [← hflat]
      exact List.sublist_flatten_of_mem hmem
    · intro i fragment hi
      rw [List.getElem?_map, Option.map_eq_some_iff] at hi
      obtain ⟨range, hi, rfl⟩ := hi
      exact hfit i range hi

/-- Unless a smallest fragment exceeds the limit, the account is cut when there is no exact fit. -/
theorem split_ok_iff
    (hfits : ¬SmallestExceeds serialisedLen ctx message syncStatuses address account
      includeSyncStatuses) :
    (∃ fragments, splitVmStorageAccountForSnapshot serialisedLen ctx message syncStatuses address
      account includeSyncStatuses = .ok fragments) ↔
      NoExactFit serialisedLen ctx message syncStatuses address account includeSyncStatuses := by
  have hascending : account.slots.toList.Pairwise fun a b => compare a.1 b.1 = .lt :=
    Std.ExtTreeMap.ordered_keys_toList
  unfold splitVmStorageAccountForSnapshot
  dsimp only
  by_cases hempty : account.slots.toList = []
  · rw [if_pos hempty]
    have hsmallest : smallestRanges account = [[]] := if_pos hempty
    constructor
    · rintro ⟨fragments, h⟩
      obtain ⟨fits, hfits', -⟩ := bind_eq_ok.mp h
      obtain ⟨base, hbase, -⟩ := bind_eq_ok.mp hfits'
      exact ⟨⟨base, hbase⟩, fun _ i slot hi => by simp [hempty] at hi⟩
    · rintro ⟨⟨base, hbase⟩, -⟩
      have hle : base ≤ ctx.maxPayloadBytes := by
        by_contra hlarge
        refine hfits ⟨0, [], base, by rw [hsmallest]; rfl, ?_, by omega⟩
        simpa using hbase
      have hmeasured := rawFragmentFits_of_base layout hbase List.Pairwise.nil
      refine ⟨_, bind_eq_ok.mpr ⟨_, hmeasured, check_bind_eq_ok.mpr ⟨ensure_eq_ok.mpr ?_, rfl⟩⟩⟩
      exact decide_eq_true (by simpa [slotsLen] using hle)
  · rw [if_neg hempty]
    have hsmallest : smallestRanges account = account.slots.toList.map ([·]) := if_neg hempty
    -- below the limit every slot starts a fragment, at the limit only at the end of `usize`
    have hstarts : ∀ base, slotRangeSize serialisedLen ctx message syncStatuses address account
        includeSyncStatuses [] = .ok base →
        ((∀ i slot, account.slots.toList[i]? = some slot → StartsAlone serialisedLen ctx message
          syncStatuses address account (includeSyncStatuses && i == 0) slot) ↔
        (ctx.maxPayloadBytes < usizeMax → ∀ i slot, account.slots.toList[i]? = some slot →
          slotRangeSize serialisedLen ctx message syncStatuses address account
            (includeSyncStatuses && i == 0) [slot] ≠ .ok ctx.maxPayloadBytes)) := by
      intro base hbase
      constructor
      · intro hall hlt i slot hi hexact
        obtain ⟨size, hsize, hstart⟩ := hall i slot hi
        obtain rfl := Except.ok.inj (hsize.symm.trans hexact)
        rcases hstart with hsmall | ⟨-, hmax⟩
        · exact Nat.lt_irrefl _ hsmall
        · omega
      · intro hexact i slot hi
        obtain ⟨own, hown⟩ : ∃ own, slotRangeSize serialisedLen ctx message syncStatuses address
            account (includeSyncStatuses && i == 0) [] = .ok own := by
          rcases Nat.eq_zero_or_pos i with rfl | hpos
          · exact ⟨base, by simpa using hbase⟩
          · obtain ⟨bare, -, hbare⟩ := slotRangeSize_without layout hbase
            have hlater : (includeSyncStatuses && i == 0) = false := by
              rw [beq_false_of_ne (Nat.ne_of_gt hpos), Bool.and_false]
            exact ⟨bare, by rwa [hlater]⟩
        have hsize := slotRangeSize_of_base layout hown (List.pairwise_singleton _ slot)
        refine ⟨_, hsize, ?_⟩
        have hle : own + slotsLen [slot] ≤ ctx.maxPayloadBytes := by
          by_contra hlarge
          refine hfits ⟨i, [slot], _, ?_, hsize, by omega⟩
          rw [hsmallest, List.getElem?_map, hi]
          rfl
        rcases Nat.lt_or_eq_of_le hle with hsmall | heq
        · exact .inl hsmall
        · refine .inr ⟨heq, Nat.le_of_not_lt fun hlt => hexact hlt i slot hi ?_⟩
          rw [hsize, heq]
    constructor
    · rintro ⟨fragments, h⟩
      obtain ⟨base, hbase⟩ := base_of_splitSlots_ok hempty h
      exact ⟨⟨base, hbase⟩, (hstarts base hbase).mp
        ((splitSlots_ok_iff layout hbase hascending).mp ⟨fragments, h⟩)⟩
    · rintro ⟨⟨base, hbase⟩, hexact⟩
      exact (splitSlots_ok_iff layout hbase hascending).mpr ((hstarts base hbase).mpr hexact)

end

/-- **When the splitter is exact.** It cuts every account exactly or reports one that exceeds the
limit, but for two kinds of input: fragments that cannot be measured at all, and, below the end of
`usize`, a slot whose fragment takes exactly the limit. -/
theorem slot_split_exact_iff (serialisedLen : SerialisedLen Sim) (layout : SlotLayout serialisedLen)
    (ctx : SnapshotChunkBuildContext) (message : BroadcasterProtocolMessage)
    (syncStatuses : SyncStatuses) (address : Bytes) (account : ResponseAccount)
    (includeSyncStatuses : Bool) :
    CutsOrExceeds serialisedLen ctx message syncStatuses address account includeSyncStatuses ↔
      SmallestExceeds serialisedLen ctx message syncStatuses address account includeSyncStatuses ∨
        NoExactFit serialisedLen ctx message syncStatuses address account
          includeSyncStatuses := by
  unfold CutsOrExceeds
  by_cases hexceeds : SmallestExceeds serialisedLen ctx message syncStatuses address account
    includeSyncStatuses
  · refine iff_of_true ?_ (.inl hexceeds)
    split
    case h_1 fragments h => exact exactCut_of_ok h
    case h_2 => exact hexceeds
  · have hiff := split_ok_iff layout hexceeds
    split
    case h_1 fragments h =>
      exact iff_of_true (exactCut_of_ok h) (.inr (hiff.mp ⟨fragments, h⟩))
    case h_2 e h =>
      refine iff_of_false hexceeds ?_
      rintro (hexceeds' | hexact)
      · exact hexceeds hexceeds'
      · obtain ⟨fragments, hok⟩ := hiff.mpr hexact
        rw [h] at hok
        cases hok

theorem vaultLen_fragmentEnvelope (ctx : SnapshotChunkBuildContext)
    (message : BroadcasterProtocolMessage) (syncStatuses : SyncStatuses) (address : Bytes)
    (account : ResponseAccount) {slots : List (Bytes × Bytes)}
    (hascending : slots.Pairwise fun a b => compare a.1 b.1 = .lt) :
    vaultLen (fragmentEnvelope ctx message syncStatuses address account slots) =
      .ok (661 + 49 * syncStatuses.size + slotsLen slots) := by
  obtain ⟨held, hvm, hslots, -⟩ := holdsRange_fragment message address account hascending
  have hindex : ¬(UInt32.ofNat worstCaseSnapshotChunkIndex < 10) := by decide
  simp only [fragmentEnvelope, vaultLen, if_neg hindex, BroadcasterSnapshotPartition.withMessages,
    List.map_cons, List.map_nil, List.sum_cons, List.sum_nil, List.length_singleton, hvm, hslots]
  congr 1
  omega

/-- The sample serialiser lays slots out as serde does. -/
theorem vaultLen_layout : SlotLayout vaultLen where
  slots ctx message syncStatuses address account slots size hascending h := by
    rw [vaultLen_fragmentEnvelope ctx message syncStatuses address account List.Pairwise.nil] at h
    obtain rfl := Except.ok.inj h
    exact vaultLen_fragmentEnvelope ctx message syncStatuses address account hascending
  withoutStatuses ctx message syncStatuses address account size h := by
    rw [vaultLen_fragmentEnvelope ctx message syncStatuses address account List.Pairwise.nil] at h
    obtain rfl := Except.ok.inj h
    refine ⟨661, by omega, ?_⟩
    rw [vaultLen_fragmentEnvelope ctx message ∅ address account List.Pairwise.nil]
    rfl

theorem vault_base (maxPayloadBytes : Nat) :
    slotRangeSize vaultLen (firstContext maxPayloadBytes) blankMessage ∅ [10] vault false [] =
      .ok 661 := by
  have hprotocol : backendForSyncState "uniswap_v2" = .ok .native := by decide
  refine slotRangeSize_eq_ok.mpr
    ⟨⟨hprotocol, fun _ h => absurd h Std.ExtTreeMap.not_mem_empty⟩, ?_⟩
  exact vaultLen_fragmentEnvelope _ _ _ _ _ List.Pairwise.nil

theorem vault_slots : vault.slots.toList = [([1], [2])] := by decide

theorem vault_slot (maxPayloadBytes : Nat) :
    slotRangeSize vaultLen (firstContext maxPayloadBytes) blankMessage ∅ [10] vault false
      [([1], [2])] = .ok 674 :=
  slotRangeSize_of_base vaultLen_layout (vault_base maxPayloadBytes) (List.pairwise_singleton _ _)

/-- Nothing of the vault exceeds a limit of 674 bytes or more. -/
theorem vault_fits {maxPayloadBytes : Nat} (h : 674 ≤ maxPayloadBytes) :
    ¬SmallestExceeds vaultLen (firstContext maxPayloadBytes) blankMessage ∅ [10] vault false := by
  rintro ⟨i, range, size, hi, hsize, hlarge⟩
  have hsmallest : smallestRanges vault = [[([1], [2])]] := by
    rw [smallestRanges, vault_slots]
    rfl
  rw [hsmallest, List.getElem?_singleton] at hi
  split at hi
  case isTrue =>
    obtain rfl := Option.some.inj hi
    rw [Bool.false_and, vault_slot, Except.ok.injEq] at hsize
    change maxPayloadBytes < size at hlarge
    omega
  case isFalse => cases hi

/-- Under a limit of 675 bytes the vault is cut into one fragment. -/
theorem slot_split_exact_iff_vault :
    CutsOrExceeds vaultLen (firstContext 675) blankMessage ∅ [10] vault false := by
  refine (slot_split_exact_iff vaultLen vaultLen_layout (firstContext 675) blankMessage ∅ [10] vault
    false).mpr (.inr ⟨⟨661, vault_base 675⟩, fun _ i slot hi => ?_⟩)
  rw [vault_slots, List.getElem?_singleton] at hi
  split at hi
  case isTrue =>
    obtain rfl := Option.some.inj hi
    rw [Bool.false_and, vault_slot]
    decide
  case isFalse => cases hi

/-- Under a limit of 674 bytes, which its only fragment takes exactly, it is refused. -/
theorem exact_fit_refused :
    slotRangeSize vaultLen (firstContext 674) blankMessage ∅ [10] vault false vault.slots.toList =
      .ok 674 ∧
    (∃ e, splitVmStorageAccountForSnapshot vaultLen (firstContext 674) blankMessage ∅ [10] vault
      false = .error e) ∧
    ¬CutsOrExceeds vaultLen (firstContext 674) blankMessage ∅ [10] vault false := by
  have hfits := vault_fits (le_refl 674)
  have hiff := split_ok_iff vaultLen_layout hfits
  have hexact : ¬NoExactFit vaultLen (firstContext 674) blankMessage ∅ [10] vault false := by
    rintro ⟨-, hexact⟩
    exact hexact (by decide) 0 _ (by rw [vault_slots]; rfl) (vault_slot 674)
  refine ⟨by rw [vault_slots]; exact vault_slot 674, ?_, ?_⟩
  · cases h : splitVmStorageAccountForSnapshot vaultLen (firstContext 674) blankMessage ∅ [10] vault
      false with
    | ok fragments => exact absurd (hiff.mp ⟨fragments, h⟩) hexact
    | error e => exact ⟨e, rfl⟩
  · unfold CutsOrExceeds
    split
    case h_1 fragments h => exact absurd (hiff.mp ⟨fragments, h⟩) hexact
    case h_2 => exact hfits

end TychoSimulationServer
