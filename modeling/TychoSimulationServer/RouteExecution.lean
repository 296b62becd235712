import Mathlib.Algebra.BigOperators.Ring.Finset
import TychoSimulationServer.RouteFlow
import TychoSimulationServer.SplitRouter

/-!
# Executing an encoded route

The swaps a route is encoded to are run on the ideal split router. The amounts that were simulated
are a plan for the router, and the splits of the emitted swaps are those the plan asks for
(`routerLegs_eq`). So the route moves the simulated amounts when the plan is funded: at each swap
everything received of its token is everything the plan spends of it.

Money that flows inside a segment is always there in time: a token is spent at one depth only, and
what a hop in the middle of a segment gives out is spent one depth later. What a *last* hop gives
out, on the other hand, is meant to stay. It does when no swap after it spends the request's token
out, which is what `OutputsComeLast` says of a request.
-/

namespace TychoSimulationServer

open Fallible DepthOrder SplitRouter

variable {Sim : Type}

/-! ## Flow inside a segment

A segment takes its input token and gives its output token; in between each hop spends what the one
before gave. -/

/-- The swaps of a hop share what goes through it. -/
structure ResimulatedHop.Flows (hop : ResimulatedHop Sim) : Prop where
  tokens : ∀ swap ∈ hop.swaps, swap.tokenIn = hop.tokenIn ∧ swap.tokenOut = hop.tokenOut
  positive : ∀ swap ∈ hop.swaps, swap.amountIn ≠ 0 ∧ swap.expectedAmountOut ≠ 0
  amountIn : (hop.swaps.map (·.amountIn)).sum = hop.amountIn
  amountOut : (hop.swaps.map (·.expectedAmountOut)).sum = hop.expectedAmountOut

/-- Hops that turn an amount of one token into an amount of another. -/
def FlowChain (tokenOut : Bytes) (amountOut : Nat) : Bytes → Nat → List (ResimulatedHop Sim) → Prop
  | token, amount, [] => token = tokenOut ∧ amount = amountOut
  | token, amount, hop :: rest =>
    hop.tokenIn = token ∧ hop.amountIn = amount ∧
      FlowChain tokenOut amountOut hop.tokenOut hop.expectedAmountOut rest

/-- A segment through which the money flows. -/
structure ResimulatedSegment.Flows (tokenIn tokenOut : Bytes) (segment : ResimulatedSegment Sim) :
    Prop where
  nonempty : segment.hops ≠ []
  chain : FlowChain tokenOut segment.expectedAmountOut tokenIn segment.amountIn segment.hops
  hops : ∀ hop ∈ segment.hops, hop.Flows

theorem flowChain_of {tokenIn tokenOut : Bytes} {amountIn amountOut : Nat}
    {hops : List NormalizedHop} {resimulated : List (ResimulatedHop Sim)}
    (h : List.Forall₂ HopResimulates hops resimulated) (htokens : HopChain tokenOut tokenIn hops)
    (hamounts : AmountChain amountIn resimulated amountOut) :
    FlowChain tokenOut amountOut tokenIn amountIn resimulated := by
  induction h generalizing tokenIn amountIn with
  | nil => exact ⟨htokens, hamounts⟩
  | cons hhop _ ih =>
    refine ⟨hhop.tokenIn.trans htokens.1, hamounts.1, ?_⟩
    rw [hhop.tokenOut]
    exact ih htokens.2 hamounts.2

/-- A hop flows from its token to the next. -/
theorem hopFlows_of {env : RouteEnv Sim} {draft : HopDraft} {hop : NormalizedHop}
    {resimulated : ResimulatedHop Sim} (hnormal : HopNormalizes env draft hop)
    (h : HopResimulates hop resimulated) : resimulated.Flows := by
  refine ⟨fun swap hswap => ?_, fun swap hswap => ?_, h.amountIn, h.amountOut⟩
  · obtain ⟨source, hsource, hresim⟩ := forall₂_exists_left h.swaps hswap
    obtain ⟨draftSwap, -, hdraft⟩ := forall₂_exists_left hnormal.swaps hsource
    rw [hresim.tokenIn, hresim.tokenOut, h.tokenIn, h.tokenOut]
    exact ⟨hdraft.tokenIn, hdraft.tokenOut⟩
  · obtain ⟨source, -, hresim⟩ := forall₂_exists_left h.swaps hswap
    exact ⟨hresim.amountIn, hresim.amountOut⟩

/-- A segment flows from the request's token to its output. -/
theorem segmentFlows_of {env : RouteEnv Sim} {tokenIn tokenOut : Bytes} {draft : SegmentDraft}
    {segment : NormalizedSegment} {resimulated : ResimulatedSegment Sim}
    (hnormal : SegmentNormalizes env tokenIn tokenOut draft segment)
    (h : SegmentResimulates segment resimulated) : resimulated.Flows tokenIn tokenOut := by
  refine ⟨?_, flowChain_of h.hops hnormal.chain h.chain, fun hop hhop => ?_⟩
  · intro hnil
    have hhops := h.hops
    rw [hnil] at hhops
    exact hnormal.nonempty (List.forall₂_nil_right_iff.mp hhops)
  · obtain ⟨source, hsource, hresim⟩ := forall₂_exists_left h.hops hhop
    obtain ⟨draftHop, -, hdraft⟩ := forall₂_exists_left hnormal.hops hsource
    exact hopFlows_of hdraft hresim

/-! ## What the hops move -/

/-- What a hop spends of a token. -/
def spends (token : Bytes) (cell : Cell (ResimulatedHop Sim)) : Rat :=
  if cell.item.tokenIn = token then cell.item.amountIn else 0

/-- What a hop in the middle of a segment gives out of a token. -/
def passesOn (token : Bytes) (cell : Cell (ResimulatedHop Sim)) : Rat :=
  if cell.last = false ∧ cell.item.tokenOut = token then cell.item.expectedAmountOut else 0

/-- What a hop at the end of a segment gives out of a token. -/
def paysOut (token : Bytes) (cell : Cell (ResimulatedHop Sim)) : Rat :=
  if cell.last = true ∧ cell.item.tokenOut = token then cell.item.expectedAmountOut else 0

/-- **Inside a segment** what comes in and what is passed on is what is spent, and what is paid out
is what the segment is expected to give. -/
theorem FlowChain.balance {tokenIn tokenOut : Bytes} {amountIn amountOut : Nat}
    {hops : List (ResimulatedHop Sim)} (h : FlowChain tokenOut amountOut tokenIn amountIn hops)
    (hne : hops ≠ []) (token : Bytes) (depth : Nat) :
    (if token = tokenIn then (amountIn : Rat) else 0) +
        ((labelledFrom depth hops).map (passesOn token)).sum =
      ((labelledFrom depth hops).map (spends token)).sum ∧
    ((labelledFrom depth hops).map (paysOut token)).sum =
      if token = tokenOut then (amountOut : Rat) else 0 := by
  induction hops generalizing tokenIn amountIn depth with
  | nil => exact absurd rfl hne
  | cons hop rest ih =>
    obtain ⟨rfl, rfl, hrest⟩ := h
    simp only [labelledFrom, List.map_cons, List.sum_cons]
    cases rest with
    | nil =>
      -- the last hop passes nothing on and pays everything out
      obtain ⟨rfl, rfl⟩ := hrest
      simp [labelledFrom, passesOn, spends, paysOut, eq_comm]
    | cons next rest =>
      obtain ⟨hflow, hpaid⟩ := ih hrest (by simp) (depth + 1)
      rw [hpaid, ← hflow]
      simp [passesOn, spends, paysOut, eq_comm]

/-- **Over all segments.** -/
theorem balance_byDepth {tokenIn tokenOut : Bytes} {segments : List (ResimulatedSegment Sim)}
    (h : ∀ segment ∈ segments, segment.Flows tokenIn tokenOut) (token : Bytes) :
    let cells := byDepth (segments.map (·.hops))
    (if token = tokenIn then (((segments.map (·.amountIn)).sum : Nat) : Rat) else 0) +
        (cells.map (passesOn token)).sum = (cells.map (spends token)).sum ∧
    (cells.map (paysOut token)).sum =
      if token = tokenOut then (computeExpectedTotal segments : Rat) else 0 := by
  simp only [sum_byDepth, List.map_map, computeExpectedTotal]
  induction segments with
  | nil => simp
  | cons segment segments ih =>
    obtain ⟨hsegment, hsegments⟩ := List.forall_mem_cons.mp h
    obtain ⟨hflow, hpaid⟩ := hsegment.chain.balance hsegment.nonempty token 0
    obtain ⟨hflows, hpaids⟩ := ih hsegments
    simp only [List.map_cons, List.sum_cons, Function.comp_apply, labelled, Nat.cast_add] at *
    rw [hpaids, hpaid, ← hflows, ← hflow]
    refine ⟨?_, ?_⟩
    · split
      · ring
      · ring
    · split
      · rfl
      · ring

/-! ## Emissions -/

/-- The trade a simulated swap stands for. -/
def ResimulatedSwap.trade (swap : ResimulatedSwap Sim) : Trade Bytes Rat :=
  { tokenIn := swap.tokenIn, tokenOut := swap.tokenOut, amountIn := swap.amountIn
    amountOut := swap.expectedAmountOut }

/-- The emitted swaps, each with the labels of its hop. -/
def emissions (segments : List (ResimulatedSegment Sim)) : List (Cell (ResimulatedSwap Sim)) :=
  (byDepth (segments.map (·.hops))).flatMap fun cell =>
    cell.item.swaps.map fun swap => ⟨cell.depth, cell.last, swap⟩

theorem orderedSwaps_eq (segments : List (ResimulatedSegment Sim)) :
    orderedSwaps segments = (emissions segments).map (·.item) := by
  have hwidth : (segments.map (·.hops.length)).foldl max 0 = width (segments.map (·.hops)) := by
    rw [width, List.map_map]
    rfl
  unfold orderedSwaps emissions byDepth
  rw [hwidth, List.map_flatMap, List.flatMap_assoc]
  congr 1
  funext depth
  unfold swapsAtDepth column
  rw [List.flatMap_map, List.flatMap_assoc]
  congr 1
  funext segment
  rw [getElem?_labelled]
  cases segment.hops[depth]? with
  | none => rfl
  | some hop => simp [Function.comp_def]

/-- The emitted swaps of a cell. -/
theorem mem_emissions {segments : List (ResimulatedSegment Sim)}
    {emission : Cell (ResimulatedSwap Sim)} :
    emission ∈ emissions segments ↔ ∃ cell ∈ byDepth (segments.map (·.hops)),
      emission.item ∈ cell.item.swaps ∧ emission.depth = cell.depth ∧ emission.last = cell.last := by
  rw [emissions, List.mem_flatMap]
  refine exists_congr fun cell => and_congr_right fun _ => ?_
  rw [List.mem_map]
  constructor
  · rintro ⟨swap, hswap, rfl⟩
    exact ⟨hswap, rfl, rfl⟩
  · rintro ⟨hswap, hdepth, hlast⟩
    refine ⟨emission.item, hswap, ?_⟩
    rw [← hdepth, ← hlast]

theorem pairwise_emissions (segments : List (ResimulatedSegment Sim)) :
    (emissions segments).Pairwise fun earlier later => earlier.depth ≤ later.depth := by
  rw [emissions, List.pairwise_flatMap]
  refine ⟨fun cell _ => ?_, (pairwise_byDepth _).imp fun hle a ha b hb => ?_⟩
  · rw [List.pairwise_map]
    exact List.pairwise_of_forall fun _ _ => Nat.le_refl _
  · obtain ⟨swap, -, rfl⟩ := List.mem_map.mp ha
    obtain ⟨later, -, rfl⟩ := List.mem_map.mp hb
    exact hle

/-! ## What the swaps move

A hop's amounts are the sums of its swaps' amounts, so the swaps move what the hops move. -/

/-- What a swap in the middle of a segment gives out of a token. -/
def swapPassesOn (token : Bytes) (emission : Cell (ResimulatedSwap Sim)) : Rat :=
  if emission.last = false ∧ emission.item.tokenOut = token then emission.item.expectedAmountOut
  else 0

/-- What a swap at the end of a segment gives out of a token. -/
def swapPaysOut (token : Bytes) (emission : Cell (ResimulatedSwap Sim)) : Rat :=
  if emission.last = true ∧ emission.item.tokenOut = token then emission.item.expectedAmountOut
  else 0

/-- A sum over the emissions is a sum over the hops. -/
theorem sum_emissions {segments : List (ResimulatedSegment Sim)}
    {weight : Cell (ResimulatedSwap Sim) → Rat} {total : Cell (ResimulatedHop Sim) → Rat}
    (h : ∀ cell ∈ byDepth (segments.map (·.hops)),
      (cell.item.swaps.map fun swap => weight ⟨cell.depth, cell.last, swap⟩).sum = total cell) :
    ((emissions segments).map weight).sum =
      ((byDepth (segments.map (·.hops))).map total).sum := by
  unfold emissions
  generalize byDepth (segments.map (·.hops)) = cells at h
  induction cells with
  | nil => rfl
  | cons cell cells ih =>
    obtain ⟨hcell, hcells⟩ := List.forall_mem_cons.mp h
    rw [List.flatMap_cons, List.map_append, List.sum_append, ih hcells, List.map_map,
      List.map_cons, List.sum_cons, ← hcell]
    rfl

/-- Swaps that all satisfy a condition, or all fail it, sum to everything or nothing. -/
theorem sum_map_ite_uniform {swaps : List (ResimulatedSwap Sim)} {amount : ResimulatedSwap Sim → Nat}
    {c : ResimulatedSwap Sim → Prop} {d : Prop} [DecidablePred c] [Decidable d] {total : Nat}
    (hsum : (swaps.map amount).sum = total) (hc : ∀ swap ∈ swaps, c swap ↔ d) :
    (swaps.map fun swap => if c swap then (amount swap : Rat) else 0).sum =
      if d then (total : Rat) else 0 := by
  subst hsum
  induction swaps with
  | nil => simp
  | cons swap swaps ih =>
    obtain ⟨hswap, hswaps⟩ := List.forall_mem_cons.mp hc
    simp only [List.map_cons, List.sum_cons, Nat.cast_add, ih hswaps, if_congr hswap rfl rfl]
    split
    · rfl
    · ring

section

variable {tokenIn tokenOut : Bytes} {segments : List (ResimulatedSegment Sim)}

/-- What is read at a depth is a hop of that depth. -/
theorem hop_of_mem_byDepth {cell : Cell (ResimulatedHop Sim)}
    (h : cell ∈ byDepth (segments.map (·.hops))) :
    ∃ segment ∈ segments, segment.hops[cell.depth]? = some cell.item ∧
      cell.last = decide (cell.depth + 1 = segment.hops.length) := by
  obtain ⟨row, hrow, hcell⟩ := mem_byDepth.mp h
  obtain ⟨segment, hsegment, rfl⟩ := List.mem_map.mp hrow
  exact ⟨segment, hsegment, mem_labelled.mp hcell⟩

variable (hflows : ∀ segment ∈ segments, segment.Flows tokenIn tokenOut)
include hflows

theorem flows_of_mem_byDepth {cell : Cell (ResimulatedHop Sim)}
    (h : cell ∈ byDepth (segments.map (·.hops))) : cell.item.Flows := by
  obtain ⟨segment, hsegment, hhop, -⟩ := hop_of_mem_byDepth h
  exact (hflows segment hsegment).hops _ (List.mem_of_getElem? hhop)

/-- The three sums over the emitted swaps are those over the hops. -/
theorem sum_swapPassesOn (token : Bytes) :
    ((emissions segments).map (swapPassesOn token)).sum =
      ((byDepth (segments.map (·.hops))).map (passesOn token)).sum := by
  refine sum_emissions fun cell hcell => ?_
  have hhop := flows_of_mem_byDepth hflows hcell
  refine sum_map_ite_uniform hhop.amountOut fun swap hswap => ?_
  rw [(hhop.tokens swap hswap).2]

/-- The swaps pay out what the hops pay out. -/
theorem sum_swapPaysOut (token : Bytes) :
    ((emissions segments).map (swapPaysOut token)).sum =
      ((byDepth (segments.map (·.hops))).map (paysOut token)).sum := by
  refine sum_emissions fun cell hcell => ?_
  have hhop := flows_of_mem_byDepth hflows hcell
  refine sum_map_ite_uniform hhop.amountOut fun swap hswap => ?_
  rw [(hhop.tokens swap hswap).2]

theorem debited_emissions (token : Bytes) :
    debited ((emissions segments).map (·.item.trade)) token =
      ((byDepth (segments.map (·.hops))).map (spends token)).sum := by
  rw [debited, List.map_map]
  refine sum_emissions fun cell hcell => ?_
  have hhop := flows_of_mem_byDepth hflows hcell
  refine sum_map_ite_uniform hhop.amountIn fun swap hswap => ?_
  change swap.tokenIn = token ↔ _
  rw [(hhop.tokens swap hswap).1]

omit hflows in
/-- Swaps give out what they pass on and what they pay out. -/
theorem credited_emissions (emitted : List (Cell (ResimulatedSwap Sim))) (token : Bytes) :
    credited (emitted.map (·.item.trade)) token =
      (emitted.map (swapPassesOn token)).sum + (emitted.map (swapPaysOut token)).sum := by
  rw [credited, List.map_map, ← List.sum_map_add]
  congr 1
  refine List.map_congr_left fun emission _ => ?_
  cases hlast : emission.last with
  | true => simp [swapPassesOn, swapPaysOut, ResimulatedSwap.trade, hlast]
  | false => simp [swapPassesOn, swapPaysOut, ResimulatedSwap.trade, hlast]

theorem positive_of_mem_emissions {emission : Cell (ResimulatedSwap Sim)}
    (h : emission ∈ emissions segments) :
    emission.item.amountIn ≠ 0 ∧ emission.item.expectedAmountOut ≠ 0 := by
  obtain ⟨cell, hcell, hswap, -, -⟩ := mem_emissions.mp h
  exact (flows_of_mem_byDepth hflows hcell).positive _ hswap

end

/-! ## Where tokens are spent

Every token is spent at one depth, which the encoder checks; before that depth it is only
received. -/

/-- **One depth per token.** -/
theorem ensureTokenInSingleDepth_spec {segments : List (ResimulatedSegment Sim)}
    (h : ensureTokenInSingleDepth segments = .ok ()) {first second : Cell (ResimulatedSwap Sim)}
    (hfirst : first ∈ emissions segments) (hsecond : second ∈ emissions segments)
    (htoken : first.item.tokenIn = second.item.tokenIn) : first.depth = second.depth := by
  obtain ⟨depths, hdepths, -⟩ := bind_eq_ok.mp h
  -- every use that was read is recorded, and a recorded depth is never replaced
  have hrecorded := foldlM_induction
    (fun (uses : List (Bytes × Nat)) (depths : FinMap Bytes Nat) =>
      ∀ use ∈ uses, depths[use.1]? = some use.2)
    (fun _ hnil => by cases hnil)
    (fun pre use depths depths' _ hpre hstep => by
      obtain ⟨token, depth⟩ := use
      dsimp only at hstep
      split at hstep
      case h_1 hnone =>
        cases hstep
        intro earlier hearlier
        rw [Std.ExtTreeMap.getElem?_insert]
        rcases List.mem_append.mp hearlier with hearlier | hearlier
        · have hheld := hpre earlier hearlier
          split
          case isTrue heq =>
            rw [Std.LawfulEqCmp.compare_eq_iff_eq] at heq
            rw [heq, hheld] at hnone
            cases hnone
          case isFalse => exact hheld
        · obtain rfl := List.mem_singleton.mp hearlier
          rw [if_pos (Std.LawfulEqCmp.compare_eq_iff_eq.mpr rfl)]
      case h_2 held hheld =>
        split at hstep
        case isFalse => cases hstep
        case isTrue heq =>
          cases hstep
          intro earlier hearlier
          rcases List.mem_append.mp hearlier with hearlier | hearlier
          · exact hpre earlier hearlier
          · obtain rfl := List.mem_singleton.mp hearlier
            rw [hheld, heq])
    hdepths
  have hused : ∀ emission ∈ emissions segments,
      depths[emission.item.tokenIn]? = some emission.depth := by
    intro emission hemission
    obtain ⟨cell, hcell, hswap, hdepth, -⟩ := mem_emissions.mp hemission
    obtain ⟨segment, hsegment, hhop, -⟩ := hop_of_mem_byDepth hcell
    refine hrecorded (emission.item.tokenIn, emission.depth) ?_
    refine List.mem_flatMap.mpr ⟨segment, hsegment, List.mem_flatMap.mpr ?_⟩
    refine ⟨(cell.item, cell.depth), List.mk_mem_zipIdx_iff_getElem?.mpr hhop, ?_⟩
    rw [hdepth]
    exact List.mem_map.mpr ⟨emission.item, hswap, rfl⟩
  have heq := hused first hfirst
  rw [htoken, hused second hsecond, Option.some.injEq] at heq
  exact heq.symm

/-- Consecutive hops meet, and the last one ends at the token out. -/
theorem FlowChain.getElem? {tokenIn tokenOut : Bytes} {amountIn amountOut depth : Nat}
    {hops : List (ResimulatedHop Sim)} {hop : ResimulatedHop Sim}
    (h : FlowChain tokenOut amountOut tokenIn amountIn hops) (hhop : hops[depth]? = some hop) :
    (depth + 1 = hops.length → hop.tokenOut = tokenOut) ∧
      ∀ next, hops[depth + 1]? = some next →
        next.tokenIn = hop.tokenOut ∧ next.amountIn = hop.expectedAmountOut := by
  induction hops generalizing tokenIn amountIn depth with
  | nil => cases hhop
  | cons first rest ih =>
    obtain ⟨-, -, hrest⟩ := h
    cases depth with
    | succ depth =>
      obtain ⟨hlast, hnext⟩ := ih hrest hhop
      exact ⟨fun heq => hlast (Nat.succ.inj heq), hnext⟩
    | zero =>
      rw [List.getElem?_cons_zero, Option.some.injEq] at hhop
      subst hhop
      cases rest with
      | nil => exact ⟨fun _ => hrest.1, nofun⟩
      | cons second rest =>
        refine ⟨fun heq => by simp at heq, fun next hnext => ?_⟩
        rw [List.getElem?_cons_succ, List.getElem?_cons_zero, Option.some.injEq] at hnext
        subst hnext
        exact ⟨hrest.1, hrest.2.1⟩

section

variable {tokenIn tokenOut : Bytes} {segments : List (ResimulatedSegment Sim)}
variable (hflows : ∀ segment ∈ segments, segment.Flows tokenIn tokenOut)
include hflows

/-- What is paid out is the token out. -/
theorem tokenOut_of_last {emission : Cell (ResimulatedSwap Sim)}
    (h : emission ∈ emissions segments) (hlast : emission.last = true) :
    emission.item.tokenOut = tokenOut := by
  obtain ⟨cell, hcell, hswap, -, hcellLast⟩ := mem_emissions.mp h
  obtain ⟨segment, hsegment, hhop, hend⟩ := hop_of_mem_byDepth hcell
  rw [((flows_of_mem_byDepth hflows hcell).tokens _ hswap).2]
  refine ((hflows segment hsegment).chain.getElem? hhop).1 ?_
  rw [← hcellLast, hlast] at hend
  exact of_decide_eq_true hend.symm

/-- What is passed on is spent one depth later. -/
theorem spent_after_of_not_last {emission : Cell (ResimulatedSwap Sim)}
    (h : emission ∈ emissions segments) (hlast : emission.last = false) :
    ∃ next ∈ emissions segments,
      next.item.tokenIn = emission.item.tokenOut ∧ next.depth = emission.depth + 1 := by
  obtain ⟨cell, hcell, hswap, hdepth, hcellLast⟩ := mem_emissions.mp h
  obtain ⟨segment, hsegment, hhop, hend⟩ := hop_of_mem_byDepth hcell
  have hcellFlows := flows_of_mem_byDepth hflows hcell
  rw [← hcellLast, hlast] at hend
  have hlt : cell.depth + 1 < segment.hops.length := by
    have hne : cell.depth + 1 ≠ segment.hops.length := of_decide_eq_false hend.symm
    obtain ⟨hbound, -⟩ := List.getElem?_eq_some_iff.mp hhop
    omega
  have hnextHop := List.getElem?_eq_getElem hlt
  generalize segment.hops[cell.depth + 1] = next at hnextHop
  obtain ⟨hmeet, hamount⟩ := ((hflows segment hsegment).chain.getElem? hhop).2 next hnextHop
  -- something goes through the next hop, so it has a swap
  have hnextFlows := (hflows segment hsegment).hops _ (List.mem_of_getElem? hnextHop)
  have hpositive : cell.item.expectedAmountOut ≠ 0 := by
    rw [← hcellFlows.amountOut]
    intro hzero
    have hmem := List.mem_map_of_mem (f := (·.expectedAmountOut)) hswap
    exact (hcellFlows.positive _ hswap).2 (List.sum_eq_zero_iff.mp hzero _ hmem)
  have hswaps : next.swaps ≠ [] := by
    intro hnil
    rw [← hamount, ← hnextFlows.amountIn, hnil] at hpositive
    exact hpositive rfl
  obtain ⟨swap, hnextSwap⟩ := List.exists_mem_of_ne_nil _ hswaps
  refine ⟨⟨cell.depth + 1, decide (cell.depth + 1 + 1 = segment.hops.length), swap⟩, ?_, ?_, ?_⟩
  · refine mem_emissions.mpr ⟨⟨cell.depth + 1, _, next⟩, ?_, hnextSwap, rfl, rfl⟩
    refine mem_byDepth.mpr ⟨segment.hops, List.mem_map_of_mem hsegment, ?_⟩
    exact mem_labelled.mpr ⟨hnextHop, rfl⟩
  · rw [(hnextFlows.tokens _ hnextSwap).1, (hcellFlows.tokens _ hswap).2, hmeet]
  · rw [hdepth]

/-- **Funds.** When a swap is reached, what was received of its token is what the route spends of it
and what was paid out of it so far. -/
theorem funds_emissions (hdepths : ensureTokenInSingleDepth segments = .ok ())
    {pre post : List (Cell (ResimulatedSwap Sim))} {emission : Cell (ResimulatedSwap Sim)}
    (hsplit : emissions segments = pre ++ emission :: post) :
    funds tokenIn (((segments.map (·.amountIn)).sum : Nat) : Rat) (pre.map (·.item.trade))
        emission.item.tokenIn =
      debited ((emissions segments).map (·.item.trade)) emission.item.tokenIn +
        (pre.map (swapPaysOut emission.item.tokenIn)).sum := by
  have hmem : ∀ {x}, x ∈ emission :: post → x ∈ emissions segments := by
    intro x hx
    rw [hsplit]
    exact List.mem_append_right _ hx
  -- nothing is passed on any more from here on
  have hlate : ((emission :: post).map (swapPassesOn emission.item.tokenIn)).sum = 0 := by
    refine List.sum_eq_zero fun amount hamount => ?_
    obtain ⟨later, hlater, rfl⟩ := List.mem_map.mp hamount
    refine if_neg fun ⟨hlast, htoken⟩ => ?_
    obtain ⟨next, hnext, hspent, hdepth⟩ := spent_after_of_not_last hflows (hmem hlater) hlast
    have hsame := ensureTokenInSingleDepth_spec hdepths hnext (hmem List.mem_cons_self)
      (hspent.trans htoken)
    have hsorted := pairwise_emissions segments
    rw [hsplit] at hsorted
    have hle : emission.depth ≤ later.depth := by
      rcases List.mem_cons.mp hlater with rfl | hpost
      · exact Nat.le_refl _
      · exact List.rel_of_pairwise_cons (List.pairwise_append.mp hsorted).2.1 hpost
    omega
  have htotal := sum_swapPassesOn hflows emission.item.tokenIn
  rw [hsplit, List.map_append, List.sum_append, hlate, add_zero] at htotal
  rw [funds, credited_emissions, htotal, debited_emissions hflows,
    ← (balance_byDepth hflows emission.item.tokenIn).1]
  ring

end

/-! ## Splits

The encoder records, for each token, how many swaps spend it and how much. The last one takes the
rest, the others a fraction. -/

/-- What the first loop of `build_route_swaps` knows of a token after some swaps. -/
structure Recorded (swaps : List (ResimulatedSwap Sim)) (token : Bytes) (held : SplitStats) :
    Prop where
  total : held.totalAmount =
    (swaps.map fun swap => if swap.tokenIn = token then swap.amountIn else 0).sum
  count : held.count = swaps.countP (·.tokenIn = token)
  last : ∃ swap, swaps[held.lastIndex]? = some swap ∧ swap.tokenIn = token
  later : ∀ (i : Nat) (swap : ResimulatedSwap Sim), swaps[i]? = some swap → swap.tokenIn = token →
    i ≤ held.lastIndex

/-- **The first loop** records every token that is spent. -/
theorem recordSplit_spec (swaps : List (ResimulatedSwap Sim)) (token : Bytes) :
    let stats := swaps.zipIdx.foldl recordSplit ∅
    (∀ held, stats[token]? = some held → Recorded swaps token held) ∧
      (stats[token]? = none → ∀ swap ∈ swaps, swap.tokenIn ≠ token) := by
  induction swaps using List.reverseRecOn with
  | nil => exact ⟨fun held hheld => by simp at hheld, fun _ _ hmem => by cases hmem⟩
  | append_singleton swaps swap ih =>
    simp only [List.zipIdx_append, List.foldl_append, List.zipIdx_cons, List.zipIdx_nil,
      List.foldl_cons, List.foldl_nil, Nat.zero_add]
    generalize swaps.zipIdx.foldl recordSplit ∅ = stats at ih
    obtain ⟨hsome, hnone⟩ := ih
    by_cases htoken : swap.tokenIn = token
    case neg =>
      -- the swap spends another token
      have hkeep : (recordSplit stats (swap, swaps.length))[token]? = stats[token]? := by
        rw [recordSplit, Std.ExtTreeMap.getElem?_insert,
          if_neg fun heq => htoken (Std.LawfulEqCmp.compare_eq_iff_eq.mp heq)]
      rw [hkeep]
      refine ⟨fun held hheld => ?_, fun hheld other hother => ?_⟩
      · have hrecorded := hsome held hheld
        obtain ⟨last, hlast, hlastToken⟩ := hrecorded.last
        refine ⟨?_, ?_, ⟨last, ?_, hlastToken⟩, fun i other hother hotherToken => ?_⟩
        · simp [hrecorded.total, htoken]
        · simp [hrecorded.count, htoken]
        · rw [List.getElem?_append_left (List.getElem?_eq_some_iff.mp hlast).1, hlast]
        · rw [List.getElem?_append] at hother
          split at hother
          case isTrue => exact hrecorded.later i other hother hotherToken
          case isFalse =>
            obtain rfl := List.mem_singleton.mp (List.mem_of_getElem? hother)
            exact absurd hotherToken htoken
      · rcases List.mem_append.mp hother with hother | hother
        · exact hnone hheld other hother
        · obtain rfl := List.mem_singleton.mp hother
          exact htoken
    case pos =>
      subst htoken
      rw [recordSplit, Std.ExtTreeMap.getElem?_insert,
        if_pos (Std.LawfulEqCmp.compare_eq_iff_eq.mpr rfl)]
      refine ⟨fun held hheld => ?_, nofun⟩
      rw [Option.some.injEq] at hheld
      subst hheld
      refine ⟨?_, ?_, ⟨swap, ?_, rfl⟩, fun i other hother _ => ?_⟩
      · cases hstats : stats[swap.tokenIn]? with
        | none =>
          have hzero : (swaps.map fun other =>
              if other.tokenIn = swap.tokenIn then other.amountIn else 0).sum = 0 := by
            refine List.sum_eq_zero fun amount hamount => ?_
            obtain ⟨other, hother, rfl⟩ := List.mem_map.mp hamount
            exact if_neg (hnone hstats other hother)
          simp [hzero]
        | some held => simp [(hsome held hstats).total]
      · cases hstats : stats[swap.tokenIn]? with
        | none =>
          have hzero : swaps.countP (·.tokenIn = swap.tokenIn) = 0 := by
            rw [List.countP_eq_zero]
            intro other hother
            simpa using hnone hstats other hother
          simp [hzero]
        | some held => simp [(hsome held hstats).count]
      · simp
      · have hbound := (List.getElem?_eq_some_iff.mp hother).1
        rw [List.length_append, List.length_singleton] at hbound
        change i ≤ swaps.length
        omega

/-- A swap is the last one recorded of its token when no later one spends the token. -/
theorem Recorded.lastIndex_eq_iff {pre post : List (ResimulatedSwap Sim)}
    {swap : ResimulatedSwap Sim} {held : SplitStats}
    (h : Recorded (pre ++ swap :: post) swap.tokenIn held) :
    held.lastIndex = pre.length ↔ ∀ later ∈ post, later.tokenIn ≠ swap.tokenIn := by
  constructor
  · intro heq later hlater htoken
    obtain ⟨i, hi⟩ := List.mem_iff_getElem?.mp hlater
    have hle := h.later (pre.length + 1 + i) later ?_ htoken
    · omega
    · rw [List.getElem?_append_right (by omega), show pre.length + 1 + i - pre.length = i + 1 by omega,
        List.getElem?_cons_succ, hi]
  · intro hnone
    obtain ⟨last, hlast, htoken⟩ := h.last
    have hge : pre.length ≤ held.lastIndex := h.later pre.length swap (by simp) rfl
    refine Nat.le_antisymm (Nat.le_of_not_lt fun hlt => ?_) hge
    rw [List.getElem?_append_right hge] at hlast
    obtain ⟨k, hk⟩ : ∃ k, held.lastIndex - pre.length = k + 1 :=
      ⟨held.lastIndex - pre.length - 1, by omega⟩
    rw [hk, List.getElem?_cons_succ] at hlast
    exact hnone last (List.mem_of_getElem? hlast) htoken

/-- A token that is spent once is not spent later. -/
theorem Recorded.last_of_count {pre post : List (ResimulatedSwap Sim)}
    {swap : ResimulatedSwap Sim} {held : SplitStats}
    (h : Recorded (pre ++ swap :: post) swap.tokenIn held) (hcount : held.count ≤ 1) :
    ∀ later ∈ post, later.tokenIn ≠ swap.tokenIn := by
  rw [h.count, List.countP_append, List.countP_cons_of_pos (by simp)] at hcount
  have hzero : post.countP (·.tokenIn = swap.tokenIn) = 0 := by omega
  intro later hlater
  simpa using List.countP_eq_zero.mp hzero later hlater

/-- What the plan spends of a token is what was recorded of it. -/
theorem Recorded.total_eq_debited {swaps : List (ResimulatedSwap Sim)} {token : Bytes}
    {held : SplitStats} (h : Recorded swaps token held) :
    (held.totalAmount : Rat) = debited (swaps.map (·.trade)) token := by
  rw [h.total, debited, List.map_map, Nat.cast_list_sum, List.map_map]
  congr 1
  refine List.map_congr_left fun swap _ => ?_
  simp only [Function.comp_apply, ResimulatedSwap.trade, Nat.cast_ite, Nat.cast_zero]

/-- **The second loop.** A swap is emitted with the split its plan asks for. -/
theorem encodeSwap_spec {finite : Nat → Nat → Bool} {pre post : List (ResimulatedSwap Sim)}
    {swap : ResimulatedSwap Sim} {encoded : EncodedSwap Sim}
    (h : encodeSwap finite ((pre ++ swap :: post).zipIdx.foldl recordSplit ∅) (swap, pre.length) =
      .ok encoded) :
    encoded.tokenIn = swap.tokenIn ∧ encoded.tokenOut = swap.tokenOut ∧
      encoded.split = splitOf (debited ((pre ++ swap :: post).map (·.trade))) swap.trade
        (post.map (·.trade)) ∧
      (encoded.split = 0 ↔ ∀ later ∈ post, later.tokenIn ≠ swap.tokenIn) := by
  unfold encodeSwap at h
  dsimp only at h
  split at h
  case h_1 => cases h
  case h_2 held hheld =>
    have hrecorded := (recordSplit_spec _ _).1 held hheld
    obtain ⟨split, hsplit, h⟩ := bind_eq_ok.mp h
    rw [pure_eq_ok] at h
    subst h
    have hlater : (∃ later ∈ post.map (·.trade), later.tokenIn = swap.trade.tokenIn) ↔
        ∃ later ∈ post, later.tokenIn = swap.tokenIn := by
      simp [ResimulatedSwap.trade]
    refine ⟨rfl, rfl, ?_⟩
    dsimp only
    rw [splitOf, if_congr hlater rfl rfl]
    unfold computeSplitFraction at hsplit
    split at hsplit
    case isTrue hlast =>
      -- the remainder
      cases hsplit
      have hnone : ∀ later ∈ post, later.tokenIn ≠ swap.tokenIn := by
        rcases hlast with hcount | hlast
        · exact hrecorded.last_of_count hcount
        · rw [Bool.or_eq_true, decide_eq_true_iff, decide_eq_true_iff] at hlast
          rcases hlast with hcount | hindex
          · exact hrecorded.last_of_count hcount.le
          · exact hrecorded.lastIndex_eq_iff.mp hindex
      refine ⟨(if_neg (not_exists.mpr fun later => not_and.mpr (hnone later))).symm, ?_⟩
      exact ⟨fun _ => hnone, fun _ => rfl⟩
    case isFalse hlast =>
      -- a share of the total
      rw [check_bind_eq_ok, check_bind_eq_ok, check_bind_eq_ok, ensure_eq_ok, ensure_eq_ok,
        pure_eq_ok] at hsplit
      obtain ⟨htotal, hamount, -, rfl⟩ := hsplit
      have hsome : ¬∀ later ∈ post, later.tokenIn ≠ swap.tokenIn := by
        intro hnone
        refine hlast (.inr ?_)
        rw [Bool.or_eq_true, decide_eq_true_iff, decide_eq_true_iff]
        exact .inr (hrecorded.lastIndex_eq_iff.mpr hnone)
      have hexists : ∃ later ∈ post, later.tokenIn = swap.tokenIn := by
        by_contra hnone
        exact hsome fun later hmem heq => hnone ⟨later, hmem, heq⟩
      rw [if_pos hexists]
      refine ⟨?_, fun hzero => ?_, fun hnone => absurd hnone hsome⟩
      · rw [hrecorded.total_eq_debited]
        rfl
      · rcases div_eq_zero_iff.mp hzero with hzero | hzero
        · exact absurd (.inl (Nat.cast_eq_zero.mp hzero)) hamount
        · exact absurd (Nat.cast_eq_zero.mp hzero) htotal

/-! ## Execution

The router holds balances and runs the emitted swaps. A fraction of a balance is exact only if the
balance is what was simulated. -/

/-- The emitted swaps as legs for the router: each returns what it was simulated to return, and is
meant to spend what it was simulated with. -/
def routerLegs (segments : List (ResimulatedSegment Sim)) (swaps : List (EncodedSwap Sim)) :
    List (Leg Bytes Rat × Rat) :=
  swaps.zipWith (fun swap simulated =>
    ({ tokenIn := swap.tokenIn, tokenOut := swap.tokenOut, split := swap.split
       amountOut := simulated.expectedAmountOut }, (simulated.amountIn : Rat)))
    (orderedSwaps segments)

/-- **Executing the swaps moves what was simulated.** Every simulated swap is emitted and spends what
it was simulated with, none runs short; in the end the router holds what the route is expected to
give and nothing else; and a swap takes the rest of its token exactly when it is the last to spend
it. -/
structure ExecutesAsSimulated (tokenIn tokenOut : Bytes) (amountIn : Nat)
    (segments : List (ResimulatedSegment Sim)) (swaps : List (EncodedSwap Sim)) : Prop where
  complete : swaps.length = (orderedSwaps segments).length
  exact : (Router.start tokenIn (amountIn : Rat)).Executes (routerLegs segments swaps)
  balances : ∀ token, ((Router.start tokenIn (amountIn : Rat)).run
      ((routerLegs segments swaps).map (·.1))).balance token =
    if token = tokenOut then (computeExpectedTotal segments : Rat) else 0
  remainders : ∀ pre swap post, swaps = pre ++ swap :: post →
    (swap.split = 0 ↔ ∀ later ∈ post, later.tokenIn ≠ swap.tokenIn)

/-- The tokens a request spends, in the order its swaps are emitted, each with whether its swap
ends a segment. -/
def emittedTokens (bytesFromStr : String → Except String Bytes) (segments : List SegmentDraft) :
    List (Bool × Except EncodeError Bytes) :=
  (byDepth (segments.map (·.hops))).flatMap fun cell =>
    cell.item.swaps.map fun swap => (cell.last, parseAddress bytesFromStr swap.tokenIn)

/-- After a swap that ends a segment no swap spends the token out. -/
def OutputsComeLast (bytesFromStr : String → Except String Bytes) (tokenOut : Bytes)
    (segments : List SegmentDraft) : Prop :=
  (emittedTokens bytesFromStr segments).Pairwise fun earlier later =>
    earlier.1 = true → later.2 ≠ .ok tokenOut

/-- The emitted swaps from some position on. -/
theorem encodeSwaps_spec {finite : Nat → Nat → Bool} {all rest : List (ResimulatedSwap Sim)}
    {swaps : List (EncodedSwap Sim)} (pre : List (ResimulatedSwap Sim)) (hall : all = pre ++ rest)
    (h : List.Forall₂ (fun entry swap => encodeSwap finite (all.zipIdx.foldl recordSplit ∅) entry =
      .ok swap) (rest.zipIdx pre.length) swaps) :
    (swaps.zipWith (fun swap simulated =>
        (({ tokenIn := swap.tokenIn, tokenOut := swap.tokenOut, split := swap.split
            amountOut := simulated.expectedAmountOut } : Leg Bytes Rat),
          (simulated.amountIn : Rat))) rest) =
      legsFrom (debited (all.map (·.trade))) (rest.map (·.trade)) ∧
    swaps.map (·.tokenIn) = rest.map (·.tokenIn) ∧
    ∀ before swap after, swaps = before ++ swap :: after →
      (swap.split = 0 ↔ ∀ later ∈ after, later.tokenIn ≠ swap.tokenIn) := by
  induction rest generalizing pre swaps with
  | nil =>
    obtain rfl := List.forall₂_nil_left_iff.mp h
    exact ⟨rfl, rfl, fun before _ _ heq => by simp at heq⟩
  | cons simulated rest ih =>
    rw [List.zipIdx_cons] at h
    obtain ⟨swap, others, hswap, hothers, rfl⟩ := List.forall₂_cons_left_iff.mp h
    obtain ⟨hlegs, htokens, hremainders⟩ := ih (pre ++ [simulated]) (by simp [hall])
      (by simpa using hothers)
    subst hall
    obtain ⟨hin, hout, hsplit, hzero⟩ := encodeSwap_spec hswap
    refine ⟨?_, by rw [List.map_cons, List.map_cons, hin, htokens], ?_⟩
    · rw [List.zipWith_cons_cons, hlegs, hin, hout, hsplit]
      rfl
    · intro before later after heq
      cases before with
      | nil =>
        obtain ⟨rfl, rfl⟩ := List.cons.inj heq
        rw [hzero, hin]
        -- the tokens after the swap are those of the simulated swaps after it
        have hforall : ∀ token : Bytes, (∀ x ∈ rest, x.tokenIn ≠ token) ↔
            ∀ x ∈ others, x.tokenIn ≠ token := by
          intro token
          have hrest : (∀ t ∈ rest.map (·.tokenIn), t ≠ token) ↔ ∀ x ∈ rest, x.tokenIn ≠ token :=
            List.forall_mem_map
          rw [← hrest, ← htokens, List.forall_mem_map]
        exact hforall _
      | cons first before =>
        exact hremainders before later after (List.cons.inj heq).2

/-- **The emitted legs are those of the plan.** -/
theorem routerLegs_eq {finite : Nat → Nat → Bool} {segments : List (ResimulatedSegment Sim)}
    {swaps : List (EncodedSwap Sim)} (h : buildRouteSwaps finite segments = .ok swaps) :
    ensureTokenInSingleDepth segments = .ok () ∧
      routerLegs segments swaps = splitsFor ((emissions segments).map (·.item.trade)) ∧
      swaps.length = (orderedSwaps segments).length ∧
      ∀ before swap after, swaps = before ++ swap :: after →
        (swap.split = 0 ↔ ∀ later ∈ after, later.tokenIn ≠ swap.tokenIn) := by
  rw [buildRouteSwaps, check_bind_eq_ok] at h
  obtain ⟨hdepths, h⟩ := h
  have hencoded := mapM_eq_ok.mp h
  have hall : orderedSwaps segments = [] ++ orderedSwaps segments := rfl
  obtain ⟨hlegs, htokens, hremainders⟩ := encodeSwaps_spec [] hall hencoded
  refine ⟨hdepths, ?_, ?_, hremainders⟩
  · rw [routerLegs, hlegs, splitsFor, orderedSwaps_eq, List.map_map]
    rfl
  · have hlength := congrArg List.length htokens
    rwa [List.length_map, List.length_map] at hlength

/-! ## When a route executes as simulated

The balances agree, except for the output token: what earlier segments paid out lies in the router
as well. -/

/-- The swap of a request a simulated one comes from, as far as its token goes. -/
def SpendsDraftToken (bytesFromStr : String → Except String Bytes) (draft : HopDraft)
    (hop : ResimulatedHop Sim) : Prop :=
  List.Forall₂ (fun (draftSwap : PoolSwapDraft) (swap : ResimulatedSwap Sim) =>
    parseAddress bytesFromStr draftSwap.tokenIn = .ok swap.tokenIn) draft.swaps hop.swaps

theorem forall₂_trans {α β γ : Type} {R : α → β → Prop} {S : β → γ → Prop} {T : α → γ → Prop}
    {xs : List α} {ys : List β} {zs : List γ} (hR : List.Forall₂ R xs ys)
    (hS : List.Forall₂ S ys zs) (hT : ∀ {x y z}, R x y → S y z → T x z) :
    List.Forall₂ T xs zs := by
  induction hR generalizing zs with
  | nil =>
    obtain rfl := List.forall₂_nil_left_iff.mp hS
    exact .nil
  | cons hxy _ ih =>
    obtain ⟨z, zs, hyz, hzs, rfl⟩ := List.forall₂_cons_left_iff.mp hS
    exact .cons (hT hxy hyz) (ih hzs)

/-- The emitted swaps spend the tokens of the drafts. -/
theorem map_tokenIn_eq {bytesFromStr : String → Except String Bytes} {drafts : List PoolSwapDraft}
    {swaps : List (ResimulatedSwap Sim)}
    (h : List.Forall₂ (fun (draft : PoolSwapDraft) (swap : ResimulatedSwap Sim) =>
      parseAddress bytesFromStr draft.tokenIn = .ok swap.tokenIn) drafts swaps) (last : Bool) :
    drafts.map (fun draft => (last, parseAddress bytesFromStr draft.tokenIn)) =
      swaps.map fun swap => (last, .ok swap.tokenIn) := by
  induction h with
  | nil => rfl
  | cons hswap _ ih => rw [List.map_cons, List.map_cons, ih, hswap]

/-- **A request tells** which tokens its emitted swaps spend. -/
theorem emittedTokens_eq {env : RouteEnv Sim} {tokenIn tokenOut : Bytes}
    {drafts : List SegmentDraft} {normalized : List NormalizedSegment}
    {segments : List (ResimulatedSegment Sim)}
    (hnormal : List.Forall₂ (SegmentNormalizes env tokenIn tokenOut) drafts normalized)
    (hresim : List.Forall₂ SegmentResimulates normalized segments) :
    emittedTokens env.bytesFromStr drafts =
      (emissions segments).map fun emission => (emission.last, .ok emission.item.tokenIn) := by
  have hrows : List.Forall₂ (List.Forall₂ (SpendsDraftToken env.bytesFromStr))
      (drafts.map (·.hops)) (segments.map (·.hops)) := by
    rw [List.forall₂_map_left_iff, List.forall₂_map_right_iff]
    refine forall₂_trans hnormal hresim fun hsegment hsimulated => ?_
    refine forall₂_trans hsegment.hops hsimulated.hops fun hhop hsimulatedHop => ?_
    refine forall₂_trans hhop.swaps hsimulatedHop.swaps fun hswap hsimulatedSwap => ?_
    rw [hsimulatedSwap.tokenIn]
    exact hswap.parsed
  have hcells := forall₂_byDepth hrows
  unfold emittedTokens emissions
  generalize byDepth (drafts.map (·.hops)) = draftCells at hcells
  generalize byDepth (segments.map (·.hops)) = cells at hcells
  induction hcells with
  | nil => rfl
  | cons hcell _ ih =>
    rw [List.flatMap_cons, List.flatMap_cons, List.map_append, ih, List.map_map]
    congr 1
    rw [hcell.last]
    exact map_tokenIn_eq hcell.item _

/-- Among the items with a property there is a last one. -/
theorem exists_last_split {α : Type} {p : α → Prop} {xs : List α} (h : ∃ x ∈ xs, p x) :
    ∃ pre x post, xs = pre ++ x :: post ∧ p x ∧ ∀ y ∈ post, ¬p y := by
  induction xs with
  | nil =>
    obtain ⟨x, hx, -⟩ := h
    cases hx
  | cons first rest ih =>
    by_cases hrest : ∃ x ∈ rest, p x
    · obtain ⟨pre, x, post, rfl, hx, hpost⟩ := ih hrest
      exact ⟨first :: pre, x, post, rfl, hx, hpost⟩
    · obtain ⟨x, hx, hpx⟩ := h
      rcases List.mem_cons.mp hx with rfl | hx
      · exact ⟨[], x, rest, rfl, hpx, fun y hy hpy => hrest ⟨y, hy, hpy⟩⟩
      · exact absurd ⟨x, hx, hpx⟩ hrest

/-- A relation of each item to those before it is pairwise. -/
theorem pairwise_of_forall_split {α : Type} {R : α → α → Prop} {xs : List α}
    (h : ∀ pre x post, xs = pre ++ x :: post → ∀ y ∈ pre, R y x) : xs.Pairwise R := by
  rw [List.pairwise_iff_getElem]
  intro i j hi hj hlt
  have hsplit : xs = xs.take j ++ xs[j] :: xs.drop (j + 1) := by
    rw [List.getElem_cons_drop, List.take_append_drop]
  refine h _ _ _ hsplit _ ?_
  rw [List.mem_take_iff_getElem]
  exact ⟨i, by omega, rfl⟩

section

variable {tokenIn tokenOut : Bytes} {segments : List (ResimulatedSegment Sim)}
variable (hflows : ∀ segment ∈ segments, segment.Flows tokenIn tokenOut)
variable (hdepths : ensureTokenInSingleDepth segments = .ok ())
include hflows hdepths

/-- **Exact execution needs the outputs to come last.** -/
theorem pairwise_of_executes
    (h : (Router.start tokenIn (((segments.map (·.amountIn)).sum : Nat) : Rat)).Executes
      (splitsFor ((emissions segments).map (·.item.trade)))) :
    (emissions segments).Pairwise fun earlier later =>
      earlier.last = true → later.item.tokenIn ≠ tokenOut := by
  refine pairwise_of_forall_split fun pre use post hsplit payer hpayer hlast htoken => ?_
  -- go on to the last swap that spends the token out
  obtain ⟨mid, lastUse, rest, hrest, hlastToken, hnone⟩ :=
    exists_last_split (p := fun emission : Cell (ResimulatedSwap Sim) =>
      emission.item.tokenIn = tokenOut) ⟨use, List.mem_cons_self (l := post), htoken⟩
  rw [hrest, ← List.append_assoc] at hsplit
  have hfunds := funds_emissions hflows hdepths hsplit
  have hplan : (emissions segments).map (·.item.trade) = (pre ++ mid).map (·.item.trade) ++
      lastUse.item.trade :: rest.map (·.item.trade) := by
    rw [hsplit, List.map_append, List.map_cons]
  have hexact := funded_of_executes h hplan ?_
  · -- what was paid out before is left over there
    have hnothing : ((pre ++ mid).map (swapPaysOut lastUse.item.tokenIn)).sum = 0 :=
      add_left_cancel ((hfunds.symm.trans hexact).trans (add_zero _).symm)
    have hpays : ∀ amount ∈ (pre ++ mid).map (swapPaysOut lastUse.item.tokenIn), 0 ≤ amount := by
      intro amount hamount
      obtain ⟨emission, -, rfl⟩ := List.mem_map.mp hamount
      unfold swapPaysOut
      split
      · exact Nat.cast_nonneg _
      · exact le_rfl
    have hmem : payer ∈ pre ++ mid := List.mem_append_left _ hpayer
    have hzero := List.all_zero_of_le_zero_le_of_sum_eq_zero hpays hnothing
      (List.mem_map_of_mem hmem)
    have hemitted : payer ∈ emissions segments := by
      rw [hsplit]
      exact List.mem_append_left _ hmem
    have hpaid : payer.item.tokenOut = lastUse.item.tokenIn :=
      (tokenOut_of_last hflows hemitted hlast).trans hlastToken.symm
    rw [swapPaysOut, if_pos ⟨hlast, hpaid⟩] at hzero
    exact (positive_of_mem_emissions hflows hemitted).2 (Nat.cast_eq_zero.mp hzero)
  · intro later hlater
    obtain ⟨emission, hemission, rfl⟩ := List.mem_map.mp hlater
    change emission.item.tokenIn ≠ lastUse.item.tokenIn
    rw [hlastToken]
    exact hnone emission hemission

/-- **Outputs that come last make the execution exact.** -/
theorem executes_of_pairwise
    (h : (emissions segments).Pairwise fun earlier later =>
      earlier.last = true → later.item.tokenIn ≠ tokenOut) :
    (Router.start tokenIn (((segments.map (·.amountIn)).sum : Nat) : Rat)).Executes
      (splitsFor ((emissions segments).map (·.item.trade))) := by
  refine executes_of_funded (fun trade htrade => ?_) fun pre trade post hplan => ?_
  · obtain ⟨emission, hemission, rfl⟩ := List.mem_map.mp htrade
    exact Nat.cast_pos.mpr (Nat.pos_of_ne_zero (positive_of_mem_emissions hflows hemission).1)
  · obtain ⟨before, rest, hsplit, rfl, hrest⟩ := List.map_eq_append_iff.mp hplan
    obtain ⟨emission, after, rfl, rfl, rfl⟩ := List.map_eq_cons_iff.mp hrest
    have hfunds := funds_emissions hflows hdepths hsplit
    have hnothing : (before.map (swapPaysOut emission.item.tokenIn)).sum = 0 := by
      refine List.sum_eq_zero fun amount hamount => ?_
      obtain ⟨payer, hpayer, rfl⟩ := List.mem_map.mp hamount
      refine if_neg fun ⟨hlast, htoken⟩ => ?_
      rw [hsplit] at h
      have hspent := (List.pairwise_append.mp h).2.2 payer hpayer emission List.mem_cons_self hlast
      have hemitted : payer ∈ emissions segments := by
        rw [hsplit]
        exact List.mem_append_left _ hpayer
      exact hspent (htoken.symm.trans (tokenOut_of_last hflows hemitted hlast))
    rw [hnothing, add_zero] at hfunds
    exact hfunds

omit hdepths in
/-- What an exact execution leaves. -/
theorem balance_of_route
    (h : (Router.start tokenIn (((segments.map (·.amountIn)).sum : Nat) : Rat)).Executes
      (splitsFor ((emissions segments).map (·.item.trade)))) (token : Bytes) :
    ((Router.start tokenIn (((segments.map (·.amountIn)).sum : Nat) : Rat)).run
        ((splitsFor ((emissions segments).map (·.item.trade))).map (·.1))).balance token =
      if token = tokenOut then (computeExpectedTotal segments : Rat) else 0 := by
  obtain ⟨hflow, hpaid⟩ := balance_byDepth hflows token
  rw [balance_of_executes h, funds, credited_emissions, sum_swapPassesOn hflows,
    sum_swapPaysOut hflows, debited_emissions hflows, ← hflow, hpaid]
  ring

end

section

variable {env : RouteEnv Sim} {finite : Nat → Nat → Bool} {drafts : List SegmentDraft}
variable {tokenIn tokenOut : Bytes} {amountIn : Nat} {normalized : List NormalizedSegment}
variable {segments : List (ResimulatedSegment Sim)} {swaps : List (EncodedSwap Sim)}
variable (hnormal : normalizeRoute env drafts tokenIn tokenOut amountIn = .ok normalized)
variable (hresim : resimulateRoute env normalized tokenIn tokenOut = .ok segments)
include hnormal hresim

theorem flows_of_resimulated :
    (∀ segment ∈ segments, segment.Flows tokenIn tokenOut) ∧
      amountIn = (segments.map (·.amountIn)).sum := by
  obtain ⟨hdrafts, hsum⟩ := normalizeRoute_spec hnormal
  have hsimulated := resimulateRoute_spec hresim
  refine ⟨fun segment hsegment => ?_, ?_⟩
  · have hboth := forall₂_trans (T := fun _ segment => segment.Flows tokenIn tokenOut) hdrafts
      hsimulated segmentFlows_of
    obtain ⟨-, -, hflows⟩ := forall₂_exists_left hboth hsegment
    exact hflows
  · rw [← hsum]
    clear hdrafts hsum hnormal hresim
    induction hsimulated with
    | nil => rfl
    | cons hsegment _ ih =>
      rw [List.map_cons, List.map_cons, List.sum_cons, List.sum_cons, ih, hsegment.amountIn]

/-- The condition on the request, on the emissions. -/
theorem outputsComeLast_iff :
    OutputsComeLast env.bytesFromStr tokenOut drafts ↔
      (emissions segments).Pairwise fun earlier later =>
        earlier.last = true → later.item.tokenIn ≠ tokenOut := by
  unfold OutputsComeLast
  rw [emittedTokens_eq (normalizeRoute_spec hnormal).1 (resimulateRoute_spec hresim),
    List.pairwise_map]
  simp only [ne_eq, Except.ok.injEq]

variable (hbuild : buildRouteSwaps finite segments = .ok swaps)
include hbuild

/-- **The route executes** when the output token is spent by nobody behind a payment. -/
theorem executes_iff :
    (Router.start tokenIn (amountIn : Rat)).Executes (routerLegs segments swaps) ↔
      OutputsComeLast env.bytesFromStr tokenOut drafts := by
  obtain ⟨hflows, hamount⟩ := flows_of_resimulated hnormal hresim
  obtain ⟨hdepths, hlegs, -, -⟩ := routerLegs_eq hbuild
  rw [outputsComeLast_iff hnormal hresim, hlegs, hamount]
  exact ⟨pairwise_of_executes hflows hdepths, executes_of_pairwise hflows hdepths⟩

/-- **Execution of an encoded route.** A route that was normalised, simulated and encoded executes
as it was simulated exactly when no emitted swap spends the token out after a segment has ended. -/
theorem executesAsSimulated_iff :
    ExecutesAsSimulated tokenIn tokenOut amountIn segments swaps ↔
      OutputsComeLast env.bytesFromStr tokenOut drafts := by
  rw [← executes_iff hnormal hresim hbuild]
  refine ⟨fun h => h.exact, fun hexact => ?_⟩
  obtain ⟨hflows, hamount⟩ := flows_of_resimulated hnormal hresim
  obtain ⟨-, hlegs, hcomplete, hremainders⟩ := routerLegs_eq hbuild
  refine ⟨hcomplete, hexact, ?_, hremainders⟩
  rw [hlegs, hamount] at hexact ⊢
  exact balance_of_route hflows hexact

end

/-! A route that spends its own output: half of the amount goes straight to the token out, the other
half passes through the token out on its way. -/

/-- Addresses made of one repeated byte, as the hex parser reads them. -/
def repeatedByteAddress (text : String) : Except String Bytes :=
  if text = "0x1111111111111111111111111111111111111111" then .ok (List.replicate 20 0x11)
  else if text = "0x2222222222222222222222222222222222222222" then .ok (List.replicate 20 0x22)
  else if text = "0x3333333333333333333333333333333333333333" then .ok (List.replicate 20 0x33)
  else .error "invalid hex"

/-- Native pools that trade one for one. -/
def evenEnv : RouteEnv Unit where
  bytesFromStr := repeatedByteAddress
  nativeAddress := List.replicate 20 0
  wrappedNativeAddress := List.replicate 20 0xc0
  nativeTokenProtocolAllowlist := ["rocketpool"]
  erc4626DepositsEnabled := false
  erc4626PairPolicies := []
  resolvePool _ _ := .ok { poolState := (), backend := .native
                           component := { id := [], protocolSystem := "uniswap_v2"
                                          protocolTypeName := "uniswap_v2_pool", tokens := [] } }
  lookupToken _ address _ := .ok { address }
  runSimulation _ _ amount _ _ := .amountOut amount ()

/-- A hop over a single pool. -/
def singlePoolHop (pool tokenIn tokenOut : String) : HopDraft :=
  { tokenIn, tokenOut
    swaps := [{ pool := { protocol := "uniswap_v2", componentId := pool, poolAddress := none }
                tokenIn, tokenOut, splitBps := 0 }] }

/-- Two segments from `1..1` to `2..2`. -/
def recrossingSegments : List SegmentDraft :=
  let a := "0x1111111111111111111111111111111111111111"
  let b := "0x2222222222222222222222222222222222222222"
  let c := "0x3333333333333333333333333333333333333333"
  [{ kind := .simpleSwap, shareBps := 5000, hops := [singlePoolHop "first" a b] },
   { kind := .multiSwap, shareBps := 0
     hops := [singlePoolHop "second" a b, singlePoolHop "third" b c, singlePoolHop "fourth" c b] }]

/-- Two segments from `1..1` to `2..2` of which one passes through `3..3`. -/
def disjointSegments : List SegmentDraft :=
  let a := "0x1111111111111111111111111111111111111111"
  let b := "0x2222222222222222222222222222222222222222"
  let c := "0x3333333333333333333333333333333333333333"
  [{ kind := .simpleSwap, shareBps := 5000, hops := [singlePoolHop "first" a b] },
   { kind := .multiSwap, shareBps := 0
     hops := [singlePoolHop "second" a c, singlePoolHop "third" c b] }]

instance OutputsComeLast.decidable (bytesFromStr : String → Except String Bytes) (tokenOut : Bytes)
    (segments : List SegmentDraft) : Decidable (OutputsComeLast bytesFromStr tokenOut segments) :=
  inferInstanceAs (Decidable (List.Pairwise _ _))

/-- A route of the example is encoded, to swaps with some property. -/
def Encodes (drafts : List SegmentDraft)
    (P : List (ResimulatedSegment Unit) → List (EncodedSwap Unit) → Prop) : Prop :=
  ∃ normalized segments swaps,
    normalizeRoute evenEnv drafts (List.replicate 20 0x11) (List.replicate 20 0x22) 100 =
      .ok normalized ∧
    resimulateRoute evenEnv normalized (List.replicate 20 0x11) (List.replicate 20 0x22) =
      .ok segments ∧
    buildRouteSwaps (fun _ _ => true) segments = .ok swaps ∧ P segments swaps

/-- The route that spends the output token is encoded. -/
theorem recrossing_encodes : Encodes recrossingSegments fun _ _ => True :=
  ⟨_, _, _, rfl, rfl, rfl, trivial⟩

theorem disjoint_encodes : Encodes disjointSegments fun _ _ => True :=
  ⟨_, _, _, rfl, rfl, rfl, trivial⟩

/-- The third swap of the recrossing route takes what the first has paid out, too. -/
theorem recrossing_spends_output : Encodes recrossingSegments fun segments swaps =>
    ¬ExecutesAsSimulated (List.replicate 20 0x11) (List.replicate 20 0x22) 100 segments swaps := by
  obtain ⟨normalized, segments, swaps, hnormal, hresim, hbuild, -⟩ := recrossing_encodes
  refine ⟨normalized, segments, swaps, hnormal, hresim, hbuild, fun h => ?_⟩
  have hlast := (executes_iff hnormal hresim hbuild).mp h.exact
  exact absurd hlast (by decide)

/-- The disjoint route executes as it was simulated. -/
theorem disjoint_executes : Encodes disjointSegments fun segments swaps =>
    ExecutesAsSimulated (List.replicate 20 0x11) (List.replicate 20 0x22) 100 segments swaps := by
  obtain ⟨normalized, segments, swaps, hnormal, hresim, hbuild, -⟩ := disjoint_encodes
  refine ⟨normalized, segments, swaps, hnormal, hresim, hbuild, ?_⟩
  exact (executesAsSimulated_iff hnormal hresim hbuild).mpr (by decide)

end TychoSimulationServer
