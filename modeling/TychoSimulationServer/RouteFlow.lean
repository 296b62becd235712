import TychoSimulationServer.DepthOrder
import TychoSimulationServer.RouteEncode

/-!
# What a resimulated route looks like

The specifications of normalisation and resimulation. A normalised segment is a chain of hops from
the request's token in to its token out, and the segments share the whole amount. A resimulated
segment has the same hops, and the money flows through them without loss: each hop takes in what
the hop before gave out, and its swaps share exactly that.
-/

namespace TychoSimulationServer

open Fallible

variable {Sim : Type}

/-! ## Allocation -/

theorem mulBps_mul_le (total share : Nat) : mulBps total share * bpsDenominator ≤ total * share := by
  unfold mulBps
  split
  case isTrue h => simp
  case isFalse => exact Nat.div_mul_le_self _ _

/-- The loop hands out what is left; `spare` says that it never handed out more than there is. -/
theorem allocateFrom_spec {total : Nat} {label fieldName : String} {first : Bool}
    {sumBps allocated : Nat} {shares amounts : List Nat}
    (spare : allocated * bpsDenominator ≤ total * sumBps) (hsum : sumBps ≤ bpsDenominator)
    (h : allocateFrom total label fieldName first sumBps allocated shares = .ok amounts) :
    amounts.length = shares.length ∧ allocated + amounts.sum = total ∧
      (first = false ∨ total ≠ 0 → allocated < total ∨ first = false → ∀ a ∈ amounts, a ≠ 0) := by
  induction shares generalizing first sumBps allocated amounts with
  | nil => cases h
  | cons share rest ih =>
    -- rounding down never allocates more than the shares allow
    have hle : allocated ≤ total := by
      have hmul : total * sumBps ≤ total * bpsDenominator := Nat.mul_le_mul_left _ hsum
      exact Nat.le_of_mul_le_mul_right (spare.trans hmul) (by decide)
    cases rest with
    | nil =>
      rw [allocateFrom, check_bind_eq_ok, check_bind_eq_ok] at h
      obtain ⟨-, -, h⟩ := h
      rw [check_bind_eq_ok, ensure_eq_ok, pure_eq_ok] at h
      obtain ⟨hlast, rfl⟩ := h
      refine ⟨rfl, by simp only [List.sum_singleton]; omega, fun _ hpos a ha => ?_⟩
      obtain rfl := List.mem_singleton.mp ha
      rcases hpos with hlt | hfirst
      · omega
      · rcases hlast with htrue | hne
        · simp [hfirst] at htrue
        · exact hne
    | cons next rest =>
      simp only [allocateFrom, check_bind_eq_ok, ensure_eq_ok] at h
      rw [bind_eq_ok] at h
      obtain ⟨-, -, hsum', hne, amounts', hrest, h⟩ := h
      rw [pure_eq_ok] at h
      subst h
      have hspare : (allocated + mulBps total share) * bpsDenominator ≤
          total * (sumBps + share) := by
        rw [Nat.add_mul, Nat.mul_add]
        exact Nat.add_le_add spare (mulBps_mul_le total share)
      obtain ⟨hlen, htotal, hpos⟩ := ih hspare hsum' hrest
      refine ⟨by simp [hlen], by simp only [List.sum_cons]; omega, fun _ _ a ha => ?_⟩
      rcases List.mem_cons.mp ha with rfl | ha
      · exact hne
      · exact hpos (.inl rfl) (.inr rfl) a ha

/-- **Allocation** hands out the whole amount, and something to everyone. -/
theorem allocateAmountsByBps_spec {total : Nat} {shares amounts : List Nat}
    {label fieldName : String} (htotal : total ≠ 0)
    (h : allocateAmountsByBps total shares label fieldName = .ok amounts) :
    amounts.length = shares.length ∧ amounts.sum = total ∧ ∀ a ∈ amounts, a ≠ 0 := by
  obtain ⟨hlen, hsum, hpos⟩ := allocateFrom_spec (by simp) (by decide) h
  exact ⟨hlen, by omega, hpos (.inr htotal) (.inl (Nat.pos_of_ne_zero htotal))⟩

/-! ## Normalised routes -/

/-- Hops that lead from one token to another. -/
def HopChain (tokenOut : Bytes) : Bytes → List NormalizedHop → Prop
  | tokenIn, [] => tokenIn = tokenOut
  | tokenIn, hop :: rest => hop.tokenIn = tokenIn ∧ HopChain tokenOut hop.tokenOut rest

section

variable (env : RouteEnv Sim)

/-- The swap of a request that a normalised swap of some hop comes from. -/
structure SwapNormalizes (hop : NormalizedHop) (draft : PoolSwapDraft) (swap : NormalizedSwapDraft) :
    Prop where
  pool : swap.pool = draft.pool
  parsed : parseAddress env.bytesFromStr draft.tokenIn = .ok swap.tokenIn
  tokenIn : swap.tokenIn = hop.tokenIn
  tokenOut : swap.tokenOut = hop.tokenOut

/-- The hop of a request that a normalised hop comes from. -/
structure HopNormalizes (draft : HopDraft) (hop : NormalizedHop) : Prop where
  tokenIn : parseAddress env.bytesFromStr draft.tokenIn = .ok hop.tokenIn
  tokenOut : parseAddress env.bytesFromStr draft.tokenOut = .ok hop.tokenOut
  swaps : List.Forall₂ (SwapNormalizes env hop) draft.swaps hop.swaps

/-- The segment of a request that a normalised segment comes from. -/
structure SegmentNormalizes (tokenIn tokenOut : Bytes) (draft : SegmentDraft)
    (segment : NormalizedSegment) : Prop where
  hops : List.Forall₂ (HopNormalizes env) draft.hops segment.hops
  nonempty : segment.hops ≠ []
  chain : HopChain tokenOut tokenIn segment.hops

variable {env}

theorem normalizeSwap_spec {tokenIn tokenOut : Bytes} {draft : PoolSwapDraft}
    {swap : NormalizedSwapDraft} (h : normalizeSwap env tokenIn tokenOut draft = .ok swap) :
    swap.pool = draft.pool ∧ parseAddress env.bytesFromStr draft.tokenIn = .ok swap.tokenIn ∧
      swap.tokenIn = tokenIn ∧ swap.tokenOut = tokenOut := by
  obtain ⟨swapIn, hin, h⟩ := bind_eq_ok.mp h
  obtain ⟨swapOut, -, h⟩ := bind_eq_ok.mp h
  rw [check_bind_eq_ok, check_bind_eq_ok, check_bind_eq_ok, check_bind_eq_ok, ensure_eq_ok,
    ensure_eq_ok, pure_eq_ok] at h
  obtain ⟨heqIn, heqOut, -, -, rfl⟩ := h
  exact ⟨rfl, hin, heqIn, heqOut⟩

theorem normalizeHop_spec {draft : HopDraft} {hop : NormalizedHop}
    (h : normalizeHop env draft = .ok hop) : HopNormalizes env draft hop := by
  rw [normalizeHop, check_bind_eq_ok] at h
  obtain ⟨-, h⟩ := h
  obtain ⟨tokenIn, hin, h⟩ := bind_eq_ok.mp h
  obtain ⟨tokenOut, hout, h⟩ := bind_eq_ok.mp h
  rw [check_bind_eq_ok] at h
  obtain ⟨-, h⟩ := h
  obtain ⟨swaps, hswaps, h⟩ := bind_eq_ok.mp h
  rw [pure_eq_ok] at h
  subst h
  refine ⟨hin, hout, (mapM_eq_ok.mp hswaps).imp fun draft swap hswap => ?_⟩
  obtain ⟨hpool, hparsed, heqIn, heqOut⟩ := normalizeSwap_spec hswap
  exact ⟨hpool, hparsed, heqIn, heqOut⟩

/-- Hops that meet pairwise, start at the one token and end at the other form a chain. -/
theorem hopChain_of_continuity {drafts : List HopDraft} {hops : List NormalizedHop}
    {first last : HopDraft} {tokenIn tokenOut : Bytes}
    (hhops : List.Forall₂ (HopNormalizes env) drafts hops)
    (hfirst : drafts.head? = some first) (hlast : drafts.getLast? = some last)
    (hin : parseAddress env.bytesFromStr first.tokenIn = .ok tokenIn)
    (hout : parseAddress env.bytesFromStr last.tokenOut = .ok tokenOut)
    (hchain : validateHopChain env drafts = .ok ()) : HopChain tokenOut tokenIn hops := by
  induction hhops generalizing first tokenIn with
  | nil => cases hfirst
  | @cons draft hop drafts hops hhop hrest ih =>
    rw [List.head?_cons, Option.some.injEq] at hfirst
    subst hfirst
    have hstart : hop.tokenIn = tokenIn := by
      have heq := hhop.tokenIn.symm.trans hin
      exact Except.ok.inj heq
    refine ⟨hstart, ?_⟩
    cases drafts with
    | nil =>
      obtain rfl := List.forall₂_nil_left_iff.mp hrest
      rw [List.getLast?_singleton, Option.some.injEq] at hlast
      subst hlast
      have heq := hhop.tokenOut.symm.trans hout
      exact Except.ok.inj heq
    | cons next drafts =>
      obtain ⟨previousOut, hprev, hchain⟩ := bind_eq_ok.mp hchain
      obtain ⟨nextIn, hnext, hchain⟩ := bind_eq_ok.mp hchain
      rw [check_bind_eq_ok, ensure_eq_ok] at hchain
      obtain ⟨rfl, hchain⟩ := hchain
      rw [List.getLast?_cons_cons] at hlast
      refine ih rfl hlast ?_ hchain
      rw [hnext, ← hprev, hhop.tokenOut]

theorem normalizeSegment_spec {tokenIn tokenOut : Bytes} {draft : SegmentDraft}
    {segment : NormalizedSegment} {index amountIn : Nat}
    (h : normalizeSegment env tokenIn tokenOut draft index amountIn = .ok segment) :
    SegmentNormalizes env tokenIn tokenOut draft segment ∧ segment.amountIn = amountIn := by
  rw [normalizeSegment, check_bind_eq_ok, check_bind_eq_ok, ensure_eq_ok] at h
  obtain ⟨hne, hcontinuity, h⟩ := h
  obtain ⟨hops, hhops, h⟩ := bind_eq_ok.mp h
  rw [check_bind_eq_ok, pure_eq_ok] at h
  obtain ⟨-, rfl⟩ := h
  have hnormal : List.Forall₂ (HopNormalizes env) draft.hops hops :=
    (mapM_eq_ok.mp hhops).imp fun _ _ => normalizeHop_spec
  refine ⟨⟨hnormal, ?_, ?_⟩, rfl⟩
  · rintro rfl
    exact hne (List.forall₂_nil_right_iff.mp hnormal)
  · unfold validateHopContinuity at hcontinuity
    split at hcontinuity
    case h_2 => cases hcontinuity
    case h_1 first last hfirst hlast =>
      obtain ⟨firstIn, hin, hafter⟩ := bind_eq_ok.mp hcontinuity
      rw [check_bind_eq_ok, ensure_eq_ok] at hafter
      obtain ⟨hfirstIn, hafter⟩ := hafter
      obtain ⟨lastOut, hout, hafter⟩ := bind_eq_ok.mp hafter
      rw [check_bind_eq_ok, ensure_eq_ok] at hafter
      obtain ⟨hlastOut, hchain⟩ := hafter
      subst hfirstIn hlastOut
      exact hopChain_of_continuity hnormal hfirst hlast hin hout hchain

theorem normalizeSegments_spec {tokenIn tokenOut : Bytes} {drafts : List SegmentDraft}
    {segments : List NormalizedSegment} {index : Nat} {amounts : List Nat}
    (hlen : amounts.length = drafts.length)
    (h : normalizeSegments env tokenIn tokenOut index drafts amounts = .ok segments) :
    List.Forall₂ (SegmentNormalizes env tokenIn tokenOut) drafts segments ∧
      segments.map (·.amountIn) = amounts := by
  induction drafts generalizing segments index amounts with
  | nil =>
    obtain rfl := List.eq_nil_of_length_eq_zero hlen
    cases h
    exact ⟨.nil, rfl⟩
  | cons draft drafts ih =>
    cases amounts with
    | nil => cases hlen
    | cons amount amounts =>
      obtain ⟨segment, hsegment, h⟩ := bind_eq_ok.mp h
      obtain ⟨others, hothers, h⟩ := bind_eq_ok.mp h
      rw [pure_eq_ok] at h
      subst h
      obtain ⟨hnormal, hamount⟩ := normalizeSegment_spec hsegment
      obtain ⟨hrest, hamounts⟩ := ih (Nat.succ.inj hlen) hothers
      refine ⟨.cons hnormal hrest, ?_⟩
      rw [List.map_cons, hamount, hamounts]

/-- **Normalisation.** The segments of the request lead from its token in to its token out and
share its amount. -/
theorem normalizeRoute_spec {tokenIn tokenOut : Bytes} {drafts : List SegmentDraft}
    {segments : List NormalizedSegment} {total : Nat}
    (h : normalizeRoute env drafts tokenIn tokenOut total = .ok segments) :
    List.Forall₂ (SegmentNormalizes env tokenIn tokenOut) drafts segments ∧
      (segments.map (·.amountIn)).sum = total := by
  rw [normalizeRoute, check_bind_eq_ok, check_bind_eq_ok, ensure_eq_ok, ensure_eq_ok] at h
  obtain ⟨-, htotal, h⟩ := h
  obtain ⟨amounts, hamounts, h⟩ := bind_eq_ok.mp h
  obtain ⟨hlen, hsum, -⟩ := allocateAmountsByBps_spec htotal hamounts
  rw [List.length_map] at hlen
  obtain ⟨hsegments, hmap⟩ := normalizeSegments_spec hlen h
  exact ⟨hsegments, by rw [hmap, hsum]⟩

end

/-! ## Resimulated routes -/

/-- What a simulated swap keeps of the normalised one. -/
structure SwapResimulates (swap : NormalizedSwapDraft) (resimulated : ResimulatedSwap Sim) :
    Prop where
  pool : resimulated.pool = swap.pool
  tokenIn : resimulated.tokenIn = swap.tokenIn
  tokenOut : resimulated.tokenOut = swap.tokenOut
  amountIn : resimulated.amountIn ≠ 0
  amountOut : resimulated.expectedAmountOut ≠ 0

/-- What an allocated swap keeps of the normalised one. -/
structure SwapAllocates (swap : NormalizedSwapDraft) (allocated : AllocatedSwap) : Prop where
  pool : allocated.pool = swap.pool
  tokenIn : allocated.tokenIn = swap.tokenIn
  tokenOut : allocated.tokenOut = swap.tokenOut
  amountIn : allocated.amountIn ≠ 0

/-- What a simulated swap keeps of the allocated one. -/
structure SwapSimulates (allocated : AllocatedSwap) (swap : ResimulatedSwap Sim) : Prop where
  pool : swap.pool = allocated.pool
  tokenIn : swap.tokenIn = allocated.tokenIn
  tokenOut : swap.tokenOut = allocated.tokenOut
  amountIn : swap.amountIn = allocated.amountIn
  amountOut : swap.expectedAmountOut ≠ 0

/-- What a simulated hop keeps of the normalised one. -/
structure HopResimulates (hop : NormalizedHop) (resimulated : ResimulatedHop Sim) : Prop where
  tokenIn : resimulated.tokenIn = hop.tokenIn
  tokenOut : resimulated.tokenOut = hop.tokenOut
  swaps : List.Forall₂ SwapResimulates hop.swaps resimulated.swaps
  amountIn : (resimulated.swaps.map (·.amountIn)).sum = resimulated.amountIn
  amountOut : (resimulated.swaps.map (·.expectedAmountOut)).sum = resimulated.expectedAmountOut

/-- Simulated hops that turn one amount into another. -/
def AmountChain : Nat → List (ResimulatedHop Sim) → Nat → Prop
  | amountIn, [], amountOut => amountIn = amountOut
  | amountIn, hop :: rest, amountOut =>
    hop.amountIn = amountIn ∧ AmountChain hop.expectedAmountOut rest amountOut

/-- A chain is continued by a hop that takes what it gave. -/
theorem AmountChain.concat {amountIn amountOut : Nat} {hops : List (ResimulatedHop Sim)}
    {hop : ResimulatedHop Sim} (h : AmountChain amountIn hops amountOut)
    (hhop : hop.amountIn = amountOut) :
    AmountChain amountIn (hops ++ [hop]) hop.expectedAmountOut := by
  induction hops generalizing amountIn with
  | nil => exact ⟨hhop.trans h.symm, rfl⟩
  | cons first rest ih => exact ⟨h.1, ih h.2⟩

/-- What comes out of a chain is what its last hop gives. -/
theorem AmountChain.getLast {amountIn amountOut : Nat} {hops : List (ResimulatedHop Sim)}
    {last : ResimulatedHop Sim} (h : AmountChain amountIn hops amountOut)
    (hlast : hops.getLast? = some last) : last.expectedAmountOut = amountOut := by
  induction hops generalizing amountIn with
  | nil => cases hlast
  | cons first rest ih =>
    cases rest with
    | nil =>
      rw [List.getLast?_singleton, Option.some.injEq] at hlast
      subst hlast
      exact h.2
    | cons next rest =>
      rw [List.getLast?_cons_cons] at hlast
      exact ih h.2 hlast

/-- What a resimulated segment keeps of the normalised one. -/
structure SegmentResimulates (segment : NormalizedSegment) (resimulated : ResimulatedSegment Sim) :
    Prop where
  amountIn : resimulated.amountIn = segment.amountIn
  hops : List.Forall₂ HopResimulates segment.hops resimulated.hops
  chain : AmountChain resimulated.amountIn resimulated.hops resimulated.expectedAmountOut

/-- A segment whose first hops are simulated. -/
structure Progress (depth : Nat) (segment : NormalizedSegment) (state : SegmentSimState Sim) :
    Prop where
  hops : List.Forall₂ HopResimulates (segment.hops.take depth) state.hops
  chain : AmountChain segment.amountIn state.hops state.nextAmountIn

section

variable {env : RouteEnv Sim}

theorem simulateAllocatedSwap_spec {caches caches' : RouteCaches Sim} {allocated : AllocatedSwap}
    {swap : ResimulatedSwap Sim}
    (h : simulateAllocatedSwap env caches allocated = .ok (swap, caches')) :
    SwapSimulates allocated swap := by
  obtain ⟨⟨entry, caches₁⟩, -, h⟩ := bind_eq_ok.mp h
  dsimp only at h
  rw [check_bind_eq_ok] at h
  obtain ⟨-, h⟩ := h
  obtain ⟨keepNative, -, h⟩ := bind_eq_ok.mp h
  obtain ⟨⟨tokenIn, caches₂⟩, -, h⟩ := bind_eq_ok.mp h
  obtain ⟨⟨tokenOut, caches₃⟩, -, h⟩ := bind_eq_ok.mp h
  obtain ⟨⟨amount, newState⟩, -, h⟩ := bind_eq_ok.mp h
  dsimp only at h
  rw [check_bind_eq_ok, ensure_eq_ok, pure_eq_ok, Prod.mk.injEq] at h
  obtain ⟨hamount, rfl, -⟩ := h
  exact ⟨rfl, rfl, rfl, rfl, hamount⟩

theorem simulateEach_spec {caches caches' : RouteCaches Sim} {allocated : List AllocatedSwap}
    {swaps : List (ResimulatedSwap Sim)}
    (h : simulateEach env caches allocated = .ok (swaps, caches')) :
    List.Forall₂ SwapSimulates allocated swaps := by
  induction allocated generalizing caches caches' swaps with
  | nil =>
    cases h
    exact .nil
  | cons a rest ih =>
    obtain ⟨⟨swap, caches₁⟩, hswap, h⟩ := bind_eq_ok.mp h
    obtain ⟨⟨others, caches₂⟩, hothers, h⟩ := bind_eq_ok.mp h
    rw [pure_eq_ok, Prod.mk.injEq] at h
    obtain ⟨rfl, -⟩ := h
    exact .cons (simulateAllocatedSwap_spec hswap) (ih hothers)

/-- Swaps are given their amounts in order. -/
theorem forall₂_zipWith_amounts {swaps : List NormalizedSwapDraft} {amounts : List Nat}
    (hlen : amounts.length = swaps.length) (hpos : ∀ a ∈ amounts, a ≠ 0) :
    let allocated := swaps.zipWith (fun swap amountIn => AllocatedSwap.mk swap.pool swap.tokenIn
      swap.tokenOut swap.splitBps amountIn) amounts
    List.Forall₂ SwapAllocates swaps allocated ∧
      allocated.map (·.amountIn) = amounts := by
  induction swaps generalizing amounts with
  | nil =>
    obtain rfl := List.eq_nil_of_length_eq_zero hlen
    exact ⟨.nil, rfl⟩
  | cons swap swaps ih =>
    cases amounts with
    | nil => cases hlen
    | cons a amounts =>
      obtain ⟨ha, hpos⟩ := List.forall_mem_cons.mp hpos
      obtain ⟨hrest, hmap⟩ := ih (Nat.succ.inj hlen) hpos
      refine ⟨.cons ⟨rfl, rfl, rfl, ha⟩ hrest, ?_⟩
      rw [List.zipWith_cons_cons, List.map_cons, hmap]

theorem allocateSwapsByBps_spec {amount segmentIndex hopIndex : Nat}
    {swaps : List NormalizedSwapDraft} {allocated : List AllocatedSwap}
    (h : allocateSwapsByBps amount swaps segmentIndex hopIndex = .ok allocated) :
    List.Forall₂ SwapAllocates swaps allocated ∧
      (allocated.map (·.amountIn)).sum = amount := by
  rw [allocateSwapsByBps, check_bind_eq_ok, check_bind_eq_ok, ensure_eq_ok, ensure_eq_ok] at h
  obtain ⟨-, hamount, h⟩ := h
  obtain ⟨amounts, hamounts, h⟩ := bind_eq_ok.mp h
  rw [check_bind_eq_ok, pure_eq_ok] at h
  obtain ⟨-, rfl⟩ := h
  obtain ⟨hlen, hsum, hpos⟩ := allocateAmountsByBps_spec hamount hamounts
  rw [List.length_map] at hlen
  obtain ⟨hshares, hmap⟩ := forall₂_zipWith_amounts hlen hpos
  exact ⟨hshares, by rw [hmap, hsum]⟩

/-- The two halves of a hop: allocation and simulation. -/
theorem swapResimulates_of_allocated {swaps : List NormalizedSwapDraft}
    {allocated : List AllocatedSwap} {resimulated : List (ResimulatedSwap Sim)}
    (hallocated : List.Forall₂ SwapAllocates swaps allocated)
    (hswaps : List.Forall₂ SwapSimulates allocated resimulated) :
    List.Forall₂ SwapResimulates swaps resimulated ∧
      resimulated.map (·.amountIn) = allocated.map (·.amountIn) := by
  induction hallocated generalizing resimulated with
  | nil =>
    obtain rfl := List.forall₂_nil_left_iff.mp hswaps
    exact ⟨.nil, rfl⟩
  | cons hfirst _ ih =>
    obtain ⟨swap, others, hswap, hothers, rfl⟩ := List.forall₂_cons_left_iff.mp hswaps
    obtain ⟨hrest, hmap⟩ := ih hothers
    refine ⟨.cons ⟨hswap.pool.trans hfirst.pool, hswap.tokenIn.trans hfirst.tokenIn,
      hswap.tokenOut.trans hfirst.tokenOut, ?_, hswap.amountOut⟩ hrest, ?_⟩
    · rw [hswap.amountIn]
      exact hfirst.amountIn
    · rw [List.map_cons, List.map_cons, hswap.amountIn, hmap]

/-- One more hop of one segment. -/
theorem Progress.resimulateSegmentHop {caches caches' : RouteCaches Sim}
    {segment : NormalizedSegment} {state state' : SegmentSimState Sim} {index depth : Nat}
    (hprogress : Progress depth segment state)
    (h : resimulateSegmentHop env caches segment state index depth = .ok (state', caches')) :
    Progress (depth + 1) segment state' := by
  unfold TychoSimulationServer.resimulateSegmentHop at h
  split at h
  case h_1 hnone =>
    cases h
    have hle : segment.hops.length ≤ depth := List.getElem?_eq_none_iff.mp hnone
    refine ⟨?_, hprogress.chain⟩
    rw [List.take_of_length_le (by omega)]
    have hhops := hprogress.hops
    rwa [List.take_of_length_le hle] at hhops
  case h_2 hop hhop =>
    rw [check_bind_eq_ok] at h
    obtain ⟨-, h⟩ := h
    obtain ⟨allocated, hallocated, h⟩ := bind_eq_ok.mp h
    obtain ⟨⟨swaps, hopExpected, caches₁⟩, hsimulated, h⟩ := bind_eq_ok.mp h
    rw [pure_eq_ok, Prod.mk.injEq] at h
    obtain ⟨rfl, -⟩ := h
    obtain ⟨⟨swaps', caches₂⟩, heach, hsimulated⟩ := bind_eq_ok.mp hsimulated
    dsimp only at hsimulated
    rw [check_bind_eq_ok, pure_eq_ok, Prod.mk.injEq, Prod.mk.injEq] at hsimulated
    obtain ⟨-, rfl, rfl, -⟩ := hsimulated
    obtain ⟨hshares, hsum⟩ := allocateSwapsByBps_spec hallocated
    obtain ⟨hswaps, hmap⟩ := swapResimulates_of_allocated hshares (simulateEach_spec heach)
    refine ⟨?_, hprogress.chain.concat rfl⟩
    rw [List.take_add_one, hhop]
    refine List.rel_append hprogress.hops (.cons ?_ .nil)
    exact ⟨rfl, rfl, hswaps, by rw [hmap, hsum], rfl⟩

/-- **One depth**: every segment gets on by a hop. -/
theorem resimulateDepth_spec {caches caches' : RouteCaches Sim} {segments : List NormalizedSegment}
    {states states' : List (SegmentSimState Sim)} {index depth : Nat}
    (hprogress : List.Forall₂ (Progress depth) segments states)
    (h : resimulateDepth env depth index caches segments states = .ok (states', caches')) :
    List.Forall₂ (Progress (depth + 1)) segments states' := by
  induction hprogress generalizing caches caches' states' index with
  | nil =>
    cases h
    exact .nil
  | cons hfirst _ ih =>
    obtain ⟨⟨state, caches₁⟩, hstate, h⟩ := bind_eq_ok.mp h
    obtain ⟨⟨others, caches₂⟩, hothers, h⟩ := bind_eq_ok.mp h
    rw [pure_eq_ok, Prod.mk.injEq] at h
    obtain ⟨rfl, -⟩ := h
    exact .cons (hfirst.resimulateSegmentHop hstate) (ih hothers)

theorem resimulateFrom_spec {caches : RouteCaches Sim} {segments : List NormalizedSegment}
    {states states' : List (SegmentSimState Sim)} {depth count : Nat}
    (hprogress : List.Forall₂ (Progress depth) segments states)
    (h : resimulateFrom env segments (List.range' depth count) caches states = .ok states') :
    List.Forall₂ (Progress (depth + count)) segments states' := by
  induction count generalizing depth caches states with
  | zero =>
    cases h
    exact hprogress
  | succ count ih =>
    rw [List.range'_succ] at h
    obtain ⟨⟨next, caches₁⟩, hnext, h⟩ := bind_eq_ok.mp h
    have hrest := ih (resimulateDepth_spec hprogress hnext) h
    rwa [Nat.add_right_comm] at hrest

/-- A segment that has got to its end is resimulated. -/
theorem buildResimulatedSegment_spec {depth : Nat} {segment : NormalizedSegment}
    {state : SegmentSimState Sim} {built : ResimulatedSegment Sim}
    (hprogress : Progress depth segment state) (hdepth : segment.hops.length ≤ depth)
    (h : buildResimulatedSegment segment state = .ok built) : SegmentResimulates segment built := by
  rw [buildResimulatedSegment, check_bind_eq_ok] at h
  obtain ⟨-, h⟩ := h
  split at h
  case h_1 => cases h
  case h_2 last hlast =>
    rw [pure_eq_ok] at h
    subst h
    have hhops := hprogress.hops
    rw [List.take_of_length_le hdepth] at hhops
    refine ⟨rfl, hhops, ?_⟩
    have hend := hprogress.chain.getLast hlast
    rw [hend]
    exact hprogress.chain

theorem buildResimulatedSegments_spec {depth : Nat} {segments : List NormalizedSegment}
    {states : List (SegmentSimState Sim)} {built : List (ResimulatedSegment Sim)}
    (hprogress : List.Forall₂ (Progress depth) segments states)
    (hdepth : ∀ segment ∈ segments, segment.hops.length ≤ depth)
    (h : buildResimulatedSegments segments states = .ok built) :
    List.Forall₂ SegmentResimulates segments built := by
  induction hprogress generalizing built with
  | nil =>
    cases h
    exact .nil
  | cons hfirst _ ih =>
    obtain ⟨one, hone, h⟩ := bind_eq_ok.mp h
    obtain ⟨others, hothers, h⟩ := bind_eq_ok.mp h
    rw [pure_eq_ok] at h
    subst h
    obtain ⟨hle, hrest⟩ := List.forall_mem_cons.mp hdepth
    exact .cons (buildResimulatedSegment_spec hfirst hle hone) (ih hrest hothers)

/-- **Resimulation** keeps the shape of the route and loses no money on the way. -/
theorem resimulateRoute_spec {segments : List NormalizedSegment} {tokenIn tokenOut : Bytes}
    {resimulated : List (ResimulatedSegment Sim)}
    (h : resimulateRoute env segments tokenIn tokenOut = .ok resimulated) :
    List.Forall₂ SegmentResimulates segments resimulated := by
  obtain ⟨states, hstates, h⟩ := bind_eq_ok.mp h
  rw [check_bind_eq_ok, check_bind_eq_ok] at h
  obtain ⟨-, -, hbuilt⟩ := h
  rw [List.range_eq_range'] at hstates
  have hstart : List.Forall₂ (Progress 0) segments (segments.map fun segment =>
      ({ nextAmountIn := segment.amountIn, hops := [] } : SegmentSimState Sim)) := by
    rw [List.forall₂_map_right_iff, List.forall₂_same]
    exact fun segment _ => ⟨.nil, rfl⟩
  have hprogress := resimulateFrom_spec hstart hstates
  refine buildResimulatedSegments_spec hprogress (fun segment hsegment => ?_) hbuilt
  rw [Nat.zero_add]
  exact DepthOrder.le_foldl_max.2 _ (List.mem_map_of_mem hsegment)

end

end TychoSimulationServer
