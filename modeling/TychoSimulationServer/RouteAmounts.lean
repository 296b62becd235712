import TychoSimulationServer.RouteExecution

/-!
# Where the amounts of a route go

`allocate_amounts_by_bps` rounds every share down and gives the rest to the last one. Which lists of
shares it accepts is told by `PartsAllocate`; what it hands out is `shareFloors` and the rest. The
same allocation runs at the segments and at every hop, so no unit of the amount is lost at any level
of a resimulated route.
-/

namespace TychoSimulationServer

open Fallible

variable {Sim : Type}

/-! ## Allocation

Shares are given in basis points, and the part without a share gets the remainder. The condition for
success is exact: which part may be left open, and that no part comes out empty. -/

/-- The shares of an amount, rounded down. -/
def shareFloors (total : Nat) (parts : List Nat) : List Nat :=
  parts.map fun share => total * share / 10000

/-- Shares that leave a rest: each is a positive part of the amount, and together they are less than
the amount. -/
structure PartsAllocate (total : Nat) (parts : List Nat) : Prop where
  share : ∀ share ∈ parts, 1 ≤ share ∧ share ≤ 10000
  sum : parts.sum ≤ 10000
  floor : ∀ amount ∈ shareFloors total parts, 0 < amount
  rest : 0 < total - (shareFloors total parts).sum

theorem mulBps_eq (total share : Nat) : mulBps total share = total * share / 10000 := by
  rw [mulBps]
  split
  case isTrue hzero => rw [hzero, Nat.mul_zero, Nat.zero_div]
  case isFalse => rfl

theorem shareFloors_cons (total share : Nat) (rest : List Nat) :
    shareFloors total (share :: rest) = total * share / 10000 :: shareFloors total rest := rfl

/-- **No underflow**: shares of at most the whole take at most the amount. -/
theorem sum_shareFloors_le {total : Nat} {parts : List Nat} (h : parts.sum ≤ 10000) :
    (shareFloors total parts).sum ≤ total := by
  have hfloors : (shareFloors total parts).sum * 10000 ≤ total * parts.sum := by
    clear h
    induction parts with
    | nil =>
      rw [shareFloors, List.map_nil, List.sum_nil, Nat.zero_mul]
      exact Nat.zero_le _
    | cons share rest ih =>
      have hfloor : total * share / 10000 * 10000 ≤ total * share := Nat.div_mul_le_self _ _
      rw [shareFloors_cons, List.sum_cons, List.sum_cons, Nat.add_mul, Nat.mul_add]
      exact Nat.add_le_add hfloor ih
  have hwhole : total * parts.sum ≤ total * 10000 := Nat.mul_le_mul_left total h
  exact Nat.le_of_mul_le_mul_right (hfloors.trans hwhole) (by decide)

/-- What the loop of the allocation still needs when some shares are handled. -/
structure RestAllocates (total : Nat) (first : Bool) (sumBps allocated : Nat) (parts : List Nat) :
    Prop where
  share : ∀ share ∈ parts, 1 ≤ share
  sum : sumBps + parts.sum ≤ 10000
  floor : ∀ amount ∈ shareFloors total parts, 0 < amount
  rest : (first ∧ parts = []) ∨ 0 < total - (allocated + (shareFloors total parts).sum)

/-- **When the loop succeeds**, and with which amounts. -/
theorem allocateFrom_eq_ok_iff {total : Nat} {label fieldName : String} {first : Bool}
    {sumBps allocated : Nat} {shares amounts : List Nat} (hsum : sumBps ≤ 10000) :
    allocateFrom total label fieldName first sumBps allocated shares = .ok amounts ↔
      ∃ parts, shares = parts ++ [0] ∧ RestAllocates total first sumBps allocated parts ∧
        amounts = shareFloors total parts ++
          [total - (allocated + (shareFloors total parts).sum)] := by
  induction shares generalizing first sumBps allocated amounts with
  | nil =>
    constructor
    · intro h
      cases h
    · rintro ⟨parts, hshares, -⟩
      cases parts <;> cases hshares
  | cons share shares ih =>
    cases shares with
    | nil =>
      -- the last swap has share zero and takes what is left
      rw [allocateFrom, check_bind_eq_ok, check_bind_eq_ok, check_bind_eq_ok, ensure_eq_ok,
        ensure_eq_ok, ensure_eq_ok, pure_eq_ok]
      constructor
      · rintro ⟨-, rfl, hrest, rfl⟩
        refine ⟨[], rfl, ⟨by rintro _ ⟨⟩, hsum, by rintro _ ⟨⟩, ?_⟩, rfl⟩
        exact hrest.imp (fun hfirst => ⟨hfirst, rfl⟩) Nat.pos_of_ne_zero
      · rintro ⟨parts, hshares, hparts, rfl⟩
        obtain rfl : parts = [] := by
          cases parts with
          | nil => rfl
          | cons part parts => cases parts <;> cases hshares
        obtain rfl : share = 0 := (List.cons.inj hshares).1
        refine ⟨by decide, rfl, ?_, rfl⟩
        exact hparts.rest.imp And.left Nat.ne_of_gt
    | cons next shares =>
      -- a share is rounded down and subtracted before the next one is looked at
      have hstep : allocateFrom total label fieldName first sumBps allocated
          (share :: next :: shares) = .ok amounts ↔ share ≠ 0 ∧ sumBps + share ≤ 10000 ∧
            mulBps total share ≠ 0 ∧ ∃ rest, allocateFrom total label fieldName false
              (sumBps + share) (allocated + mulBps total share) (next :: shares) = .ok rest ∧
              mulBps total share :: rest = amounts := by
        simp only [allocateFrom, check_bind_eq_ok, ensure_eq_ok]
        rw [bind_eq_ok, bpsDenominator]
        simp only [pure_eq_ok]
        constructor
        · rintro ⟨-, hne, hle, hfloor, hrest⟩
          exact ⟨hne, hle, hfloor, hrest⟩
        · rintro ⟨hne, hle, hfloor, hrest⟩
          exact ⟨by omega, hne, hle, hfloor, hrest⟩
      rw [hstep, mulBps_eq]
      constructor
      · rintro ⟨hne, hle, hfloor, rest, hrest, rfl⟩
        obtain ⟨parts, hshares, hparts, rfl⟩ := (ih hle).mp hrest
        refine ⟨share :: parts, by rw [hshares, List.cons_append], ⟨?_, ?_, ?_, .inr ?_⟩, ?_⟩
        · exact List.forall_mem_cons.mpr ⟨Nat.pos_of_ne_zero hne, hparts.share⟩
        · rw [List.sum_cons, ← Nat.add_assoc]
          exact hparts.sum
        · exact List.forall_mem_cons.mpr ⟨Nat.pos_of_ne_zero hfloor, hparts.floor⟩
        · rw [shareFloors_cons, List.sum_cons, ← Nat.add_assoc]
          exact hparts.rest.resolve_left fun h => Bool.false_ne_true h.1
        · rw [shareFloors_cons, List.sum_cons, List.cons_append, Nat.add_assoc]
      · rintro ⟨parts, hshares, hparts, rfl⟩
        cases parts with
        | nil => cases hshares
        | cons part parts =>
          obtain ⟨rfl, hrest⟩ := List.cons.inj hshares
          obtain ⟨hpos, hshare⟩ := List.forall_mem_cons.mp hparts.share
          obtain ⟨hfloor, hfloors⟩ := List.forall_mem_cons.mp hparts.floor
          have hbound := hparts.sum
          have hleft := hparts.rest
          rw [List.sum_cons, ← Nat.add_assoc] at hbound
          rw [shareFloors_cons, List.sum_cons, ← Nat.add_assoc] at hleft
          refine ⟨Nat.ne_of_gt hpos, by omega, Nat.ne_of_gt hfloor, _, (ih (by omega)).mpr
            ⟨parts, hrest, ⟨hshare, hbound, hfloors, .inr ?_⟩, rfl⟩, ?_⟩
          · exact hleft.resolve_left fun h => absurd h.2 (List.cons_ne_nil _ _)
          · rw [shareFloors_cons, List.sum_cons, List.cons_append, Nat.add_assoc]

/-- **What is allocated**: the shares are positive parts with a zero behind them, and the amounts
are the parts rounded down with the rest behind them. -/
theorem allocateAmountsByBps_eq_ok_iff {total : Nat} {shares amounts : List Nat}
    {label fieldName : String} (htotal : 0 < total) :
    allocateAmountsByBps total shares label fieldName = .ok amounts ↔
      ∃ parts, shares = parts ++ [0] ∧ PartsAllocate total parts ∧
        amounts = shareFloors total parts ++ [total - (shareFloors total parts).sum] := by
  rw [allocateAmountsByBps, allocateFrom_eq_ok_iff (Nat.zero_le _)]
  refine exists_congr fun parts => and_congr_right fun _ => ?_
  rw [Nat.zero_add]
  refine and_congr_left fun _ => ?_
  constructor
  · intro h
    have hsum := h.sum
    rw [Nat.zero_add] at hsum
    refine ⟨fun share hshare => ⟨h.share share hshare, ?_⟩, hsum, h.floor, ?_⟩
    · exact (List.single_le_sum (fun _ _ => Nat.zero_le _) share hshare).trans hsum
    · rcases h.rest with ⟨-, rfl⟩ | hrest
      · exact htotal
      · rwa [Nat.zero_add] at hrest
  · intro h
    refine ⟨fun share hshare => (h.share share hshare).1, ?_, h.floor, .inr ?_⟩
    · rw [Nat.zero_add]
      exact h.sum
    · rw [Nat.zero_add]
      exact h.rest

/-- What is allocated sums up to the amount. -/
theorem PartsAllocate.sum_eq {total : Nat} {parts : List Nat} (h : PartsAllocate total parts) :
    (shareFloors total parts ++ [total - (shareFloors total parts).sum]).sum = total := by
  have hle : (shareFloors total parts).sum ≤ total := sum_shareFloors_le h.sum
  rw [List.sum_append, List.sum_singleton]
  omega

/-! ## Resimulated segments

What a hop gives is what the next one takes, and the last one's output is the segment's. -/

/-- What the swaps of a hop give out. -/
def ResimulatedHop.outputs (hop : ResimulatedHop Sim) : Nat :=
  (hop.swaps.map (·.expectedAmountOut)).sum

/-- What the last hop of a segment gives out. -/
def ResimulatedSegment.outputs (segment : ResimulatedSegment Sim) : Nat :=
  (segment.hops.getLast?.map (·.outputs)).getD 0

/-- A segment in which no amount is lost. -/
structure ResimulatedSegment.Conserves (segment : ResimulatedSegment Sim) : Prop where
  amountIn : 0 < segment.amountIn
  start : segment.hops.head?.map (·.amountIn) = some segment.amountIn
  next : ∀ k hop next, segment.hops[k]? = some hop → segment.hops[k + 1]? = some next →
    next.amountIn = hop.outputs
  swaps : ∀ hop ∈ segment.hops, 0 < hop.amountIn ∧
    (hop.swaps.map (·.amountIn)).sum = hop.amountIn
  positive : ∀ hop ∈ segment.hops, ∀ swap ∈ hop.swaps,
    0 < swap.amountIn ∧ 0 < swap.expectedAmountOut

theorem AmountChain.next {amountIn amountOut k : Nat} {hops : List (ResimulatedHop Sim)}
    {hop next : ResimulatedHop Sim} (h : AmountChain amountIn hops amountOut)
    (hhop : hops[k]? = some hop) (hnext : hops[k + 1]? = some next) :
    next.amountIn = hop.expectedAmountOut := by
  induction hops generalizing amountIn k with
  | nil => cases hhop
  | cons first rest ih =>
    cases k with
    | zero =>
      obtain rfl := Option.some.inj hhop
      cases rest with
      | nil => cases hnext
      | cons second rest =>
        obtain rfl := Option.some.inj hnext
        exact h.2.1
    | succ k => exact ih h.2 hhop hnext

section

variable {env : RouteEnv Sim} {tokenIn tokenOut : Bytes} {drafts : List SegmentDraft} {total : Nat}
  {normalized : List NormalizedSegment} {segments : List (ResimulatedSegment Sim)}

/-- Every hop of a normalised segment has a swap. -/
theorem swaps_of_normalizeSegment {draft : SegmentDraft} {segment : NormalizedSegment}
    {index amount : Nat}
    (h : normalizeSegment env tokenIn tokenOut draft index amount = .ok segment) :
    ∀ hop ∈ segment.hops, hop.swaps ≠ [] := by
  rw [normalizeSegment, check_bind_eq_ok, check_bind_eq_ok] at h
  obtain ⟨-, -, h⟩ := h
  obtain ⟨hops, hhops, h⟩ := bind_eq_ok.mp h
  rw [check_bind_eq_ok, pure_eq_ok] at h
  obtain ⟨-, rfl⟩ := h
  intro hop hhop hnil
  obtain ⟨draftHop, -, hnormal⟩ := forall₂_exists_left (mapM_eq_ok.mp hhops) hhop
  have hswaps := (normalizeHop_spec hnormal).swaps
  rw [normalizeHop, check_bind_eq_ok, ensure_eq_ok] at hnormal
  rw [hnil, List.forall₂_nil_right_iff] at hswaps
  exact hnormal.1 hswaps

theorem swaps_of_normalizeSegments {index : Nat} {amounts : List Nat}
    (h : normalizeSegments env tokenIn tokenOut index drafts amounts = .ok normalized) :
    ∀ segment ∈ normalized, ∀ hop ∈ segment.hops, hop.swaps ≠ [] := by
  induction drafts generalizing index amounts normalized with
  | nil =>
    cases h
    exact fun _ hsegment => nomatch hsegment
  | cons draft drafts ih =>
    cases amounts with
    | nil => cases h
    | cons amount amounts =>
      obtain ⟨segment, hsegment, h⟩ := bind_eq_ok.mp h
      obtain ⟨others, hothers, h⟩ := bind_eq_ok.mp h
      rw [pure_eq_ok] at h
      subst h
      exact List.forall_mem_cons.mpr ⟨swaps_of_normalizeSegment hsegment, ih hothers⟩

theorem swaps_of_normalizeRoute
    (h : normalizeRoute env drafts tokenIn tokenOut total = .ok normalized) :
    ∀ segment ∈ normalized, ∀ hop ∈ segment.hops, hop.swaps ≠ [] := by
  rw [normalizeRoute, check_bind_eq_ok, check_bind_eq_ok] at h
  obtain ⟨amounts, -, hsegments⟩ := bind_eq_ok.mp h.2.2
  exact swaps_of_normalizeSegments hsegments

/-- A hop with swaps takes a positive amount in. -/
theorem HopResimulates.amountIn_pos {hop : NormalizedHop} {resimulated : ResimulatedHop Sim}
    (h : HopResimulates hop resimulated) (hne : hop.swaps ≠ []) : 0 < resimulated.amountIn := by
  obtain ⟨source, rest, hswaps⟩ := List.exists_cons_of_ne_nil hne
  have hall := h.swaps
  rw [hswaps] at hall
  obtain ⟨swap, others, hswap, -, hresimulated⟩ := List.forall₂_cons_left_iff.mp hall
  rw [← h.amountIn, hresimulated, List.map_cons, List.sum_cons]
  exact Nat.add_pos_left (Nat.pos_of_ne_zero hswap.amountIn) _

/-- **A resimulated segment** loses nothing, and expects what its last hop gives out. -/
theorem conserves_of_resimulates {segment : NormalizedSegment}
    {resimulated : ResimulatedSegment Sim} (h : SegmentResimulates segment resimulated)
    (hne : segment.hops ≠ []) (hswaps : ∀ hop ∈ segment.hops, hop.swaps ≠ []) :
    resimulated.Conserves ∧ resimulated.expectedAmountOut = resimulated.outputs := by
  have hhop : ∀ hop ∈ resimulated.hops, 0 < hop.amountIn ∧
      (hop.swaps.map (·.amountIn)).sum = hop.amountIn ∧ hop.outputs = hop.expectedAmountOut := by
    intro hop hhop
    obtain ⟨source, hsource, hresim⟩ := forall₂_exists_left h.hops hhop
    exact ⟨hresim.amountIn_pos (hswaps source hsource), hresim.amountIn, hresim.amountOut⟩
  have hsome : resimulated.hops ≠ [] := by
    intro hnil
    have hhops := h.hops
    rw [hnil] at hhops
    exact hne (List.forall₂_nil_right_iff.mp hhops)
  obtain ⟨first, rest, hfirst⟩ := List.exists_cons_of_ne_nil hsome
  -- the first hop takes the amount of the segment
  have hstart : first.amountIn = resimulated.amountIn := by
    have hchain := h.chain
    rw [hfirst] at hchain
    exact hchain.1
  have hmem : first ∈ resimulated.hops := by
    rw [hfirst]
    exact List.mem_cons_self
  refine ⟨⟨?_, ?_, fun k hop next hk hnext => ?_, fun hop hmem => ?_, fun hop hmem swap hswap => ?_⟩,
    ?_⟩
  · rw [← hstart]
    exact (hhop first hmem).1
  · rw [hfirst, List.head?_cons, Option.map_some, hstart]
  · rw [(hhop hop (List.mem_of_getElem? hk)).2.2]
    exact h.chain.next hk hnext
  · exact ⟨(hhop hop hmem).1, (hhop hop hmem).2.1⟩
  · obtain ⟨source, -, hresim⟩ := forall₂_exists_left h.hops hmem
    obtain ⟨draft, -, hpositive⟩ := forall₂_exists_left hresim.swaps hswap
    exact ⟨Nat.pos_of_ne_zero hpositive.amountIn, Nat.pos_of_ne_zero hpositive.amountOut⟩
  · have hlast := List.getLast?_eq_some_getLast hsome
    rw [ResimulatedSegment.outputs, hlast, Option.map_some, Option.getD_some,
      (hhop _ (List.getLast_mem hsome)).2.2]
    exact (h.chain.getLast hlast).symm

end

/-- A route in which no amount is lost. -/
structure RouteConserves (total : Nat) (segments : List (ResimulatedSegment Sim)) : Prop where
  segment : ∀ segment ∈ segments, segment.Conserves
  amountIn : (segments.map (·.amountIn)).sum = total
  expectedTotal : computeExpectedTotal segments = (segments.map (·.outputs)).sum

/-- **Resimulation** conserves the amounts of a request. -/
theorem conserves_of_resimulated {env : RouteEnv Sim} {tokenIn tokenOut : Bytes}
    {drafts : List SegmentDraft} {total : Nat} {normalized : List NormalizedSegment}
    {segments : List (ResimulatedSegment Sim)}
    (hnormal : normalizeRoute env drafts tokenIn tokenOut total = .ok normalized)
    (hresim : resimulateRoute env normalized tokenIn tokenOut = .ok segments) :
    RouteConserves total segments := by
  have hswaps := swaps_of_normalizeRoute hnormal
  have hall := resimulateRoute_spec hresim
  obtain ⟨hdrafts, hsum⟩ := normalizeRoute_spec hnormal
  have hsegment : ∀ segment ∈ segments,
      segment.Conserves ∧ segment.expectedAmountOut = segment.outputs := by
    intro segment hsegment
    obtain ⟨source, hsource, hsegment⟩ := forall₂_exists_left hall hsegment
    obtain ⟨draft, -, hdraft⟩ := forall₂_exists_left hdrafts hsource
    exact conserves_of_resimulates hsegment hdraft.nonempty (hswaps source hsource)
  refine ⟨fun segment hmem => (hsegment segment hmem).1, ?_, ?_⟩
  · rw [← hsum]
    congr 1
    clear hsum hswaps hdrafts hresim hnormal hsegment
    induction hall with
    | nil => rfl
    | cons hfirst _ ih => rw [List.map_cons, List.map_cons, hfirst.amountIn, ih]
  · rw [computeExpectedTotal]
    congr 1
    exact List.map_congr_left fun segment hmem => (hsegment segment hmem).2

/-- **Amounts are conserved at every level.** An allocation succeeds exactly on positive parts with a
zero behind them that leave a rest, and hands out the parts rounded down and the rest; its
subtraction never underflows. So a resimulated route loses nothing between the amount of the request
and the outputs of its last hops. -/
theorem route_amounts_conserved :
    (∀ (total : Nat) (shares : List Nat) (label fieldName : String), 0 < total →
      ((∃ amounts, allocateAmountsByBps total shares label fieldName = .ok amounts) ↔
        ∃ parts, shares = parts ++ [0] ∧ PartsAllocate total parts) ∧
      ∀ amounts, allocateAmountsByBps total shares label fieldName = .ok amounts →
        amounts.dropLast = shareFloors total shares.dropLast ∧ amounts.sum = total) ∧
    (∀ (total : Nat) (parts : List Nat), parts.sum ≤ 10000 →
      (shareFloors total parts).sum ≤ total) ∧
    ∀ (env : RouteEnv Sim) (drafts : List SegmentDraft) (tokenIn tokenOut : Bytes) (total : Nat)
      (normalized : List NormalizedSegment) (segments : List (ResimulatedSegment Sim)),
      normalizeRoute env drafts tokenIn tokenOut total = .ok normalized →
      resimulateRoute env normalized tokenIn tokenOut = .ok segments →
        RouteConserves total segments := by
  refine ⟨fun total shares label fieldName htotal => ⟨?_, fun amounts h => ?_⟩,
    fun total parts h => sum_shareFloors_le h,
    fun env drafts tokenIn tokenOut total normalized segments hnormal hresim =>
      conserves_of_resimulated hnormal hresim⟩
  · simp only [allocateAmountsByBps_eq_ok_iff htotal]
    constructor
    · rintro ⟨amounts, parts, hshares, hparts, -⟩
      exact ⟨parts, hshares, hparts⟩
    · rintro ⟨parts, hshares, hparts⟩
      exact ⟨_, parts, hshares, hparts, rfl⟩
  · obtain ⟨parts, rfl, hparts, rfl⟩ := (allocateAmountsByBps_eq_ok_iff htotal).mp h
    rw [List.dropLast_concat, List.dropLast_concat]
    exact ⟨rfl, hparts.sum_eq⟩

/-- The two segments that share an amount of 100. -/
theorem route_amounts_conserved_disjoint : ∃ normalized segments,
    normalizeRoute evenEnv disjointSegments (List.replicate 20 0x11) (List.replicate 20 0x22) 100 =
      .ok normalized ∧
    resimulateRoute evenEnv normalized (List.replicate 20 0x11) (List.replicate 20 0x22) =
      .ok segments ∧ RouteConserves 100 segments :=
  ⟨_, _, rfl, rfl, route_amounts_conserved.2.2 _ _ _ _ _ _ _ (rfl : normalizeRoute evenEnv
    disjointSegments (List.replicate 20 0x11) (List.replicate 20 0x22) 100 = _) rfl⟩

end TychoSimulationServer
