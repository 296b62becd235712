import TychoSimulationServer.RouteExecution

/-!
# The order of simulation is the order of emission

Resimulation and `build_route_swaps` walk through the segments in loops of their own. Here
resimulation keeps a log of its calls of `simulate_allocated_swap`.

* **order** — the log is the list of swaps that are emitted (`log_eq_orderedSwaps`): the hops of a
  segment are only appended to, so what a depth has logged is what the route holds at that depth;
* **states** — the pool cache describes the log (`CacheDescribes`): a pool that is not logged is not
  cached, and the state of one that is logged is the state that was loaded at its first swap, run
  through the logged swaps on it.
-/

namespace TychoSimulationServer

open Fallible

variable {Sim : Type}

/-! ## Keeping a log

The resimulation is run again with a log of the swaps in the order they are simulated. -/

section

variable (env : RouteEnv Sim)

/-- `resimulate_segment_hop` with the swaps it simulates. -/
def resimulateSegmentHopLogged (caches : RouteCaches Sim) (segment : NormalizedSegment)
    (state : SegmentSimState Sim) (segmentIndex hopIndex : Nat) :
    Except EncodeError (SegmentSimState Sim × RouteCaches Sim × List (ResimulatedSwap Sim)) :=
  match segment.hops[hopIndex]? with
  | none => .ok (state, caches, [])
  | some hop => do
    ensure (state.nextAmountIn ≠ 0)
      (.invalid s!"segment[{segmentIndex}].hop[{hopIndex}] amountIn is zero")
    let allocated ← allocateSwapsByBps state.nextAmountIn hop.swaps segmentIndex hopIndex
    let (swaps, hopExpected, caches) ← simulateAllocatedSwaps env caches allocated
      state.nextAmountIn
    pure
      ({ nextAmountIn := hopExpected
         hops := state.hops ++
           [{ tokenIn := hop.tokenIn, tokenOut := hop.tokenOut, amountIn := state.nextAmountIn
              expectedAmountOut := hopExpected, swaps }] },
       caches, swaps)

/-- The inner loop with the swaps it simulates. -/
def resimulateDepthLogged (hopIndex : Nat) : Nat → RouteCaches Sim → List NormalizedSegment →
    List (SegmentSimState Sim) →
    Except EncodeError (List (SegmentSimState Sim) × RouteCaches Sim × List (ResimulatedSwap Sim))
  | _, caches, [], states => .ok (states, caches, [])
  | _, _, _ :: _, [] => .error (.internal "Segment state missing after resimulation")
  | index, caches, segment :: segments, state :: states => do
    let (state, caches, log) ← resimulateSegmentHopLogged env caches segment state index hopIndex
    let (states, caches, more) ← resimulateDepthLogged hopIndex (index + 1) caches segments states
    return (state :: states, caches, log ++ more)

/-- The outer loop with the swaps it simulates. -/
def resimulateFromLogged (segments : List NormalizedSegment) : List Nat → RouteCaches Sim →
    List (SegmentSimState Sim) →
    Except EncodeError (List (SegmentSimState Sim) × List (ResimulatedSwap Sim))
  | [], _, states => .ok (states, [])
  | hopIndex :: depths, caches, states => do
    let (states, caches, log) ← resimulateDepthLogged env hopIndex 0 caches segments states
    let (states, more) ← resimulateFromLogged segments depths caches states
    return (states, log ++ more)

/-- Nothing is loaded yet. -/
def RouteCaches.start : RouteCaches Sim := { pools := ∅, tokens := ∅, moment := 0 }

/-- `resimulate_route_with_native_pin` with the swaps it simulates, in the order it simulates
them. -/
def resimulateRouteLogged (segments : List NormalizedSegment)
    (requestTokenIn requestTokenOut : Bytes) :
    Except EncodeError (List (ResimulatedSegment Sim) × List (ResimulatedSwap Sim)) := do
  let (states, log) ← resimulateFromLogged env segments (List.range (maxHopDepth segments)) .start
    (segments.map fun segment => { nextAmountIn := segment.amountIn, hops := [] })
  ensure (requestTokenIn ≠ [] ∧ requestTokenOut ≠ [])
    (.internal "Request tokens missing after resimulation")
  validateNativeRequestTokens env segments
  let built ← buildResimulatedSegments segments states
  return (built, log)

end

section

variable {env : RouteEnv Sim}

/-! The log changes nothing else. -/

theorem resimulateSegmentHop_eq {caches : RouteCaches Sim} {segment : NormalizedSegment}
    {state : SegmentSimState Sim} {index depth : Nat} :
    resimulateSegmentHop env caches segment state index depth =
      (fun result => (result.1, result.2.1)) <$>
        resimulateSegmentHopLogged env caches segment state index depth := by
  rw [resimulateSegmentHop, resimulateSegmentHopLogged]
  cases segment.hops[depth]? with
  | none => rfl
  | some hop => simp only [map_bind, map_pure]

theorem resimulateDepth_eq {depth index : Nat} {caches : RouteCaches Sim}
    {segments : List NormalizedSegment} {states : List (SegmentSimState Sim)} :
    resimulateDepth env depth index caches segments states =
      (fun result => (result.1, result.2.1)) <$>
        resimulateDepthLogged env depth index caches segments states := by
  induction segments generalizing index caches states with
  | nil => cases states <;> rfl
  | cons segment segments ih =>
    cases states with
    | nil => rfl
    | cons state states =>
      simp only [resimulateDepth, resimulateDepthLogged, resimulateSegmentHop_eq, ih, map_bind,
        bind_map_left, map_pure]

theorem resimulateFrom_eq {segments : List NormalizedSegment} {depths : List Nat}
    {caches : RouteCaches Sim} {states : List (SegmentSimState Sim)} :
    resimulateFrom env segments depths caches states =
      Prod.fst <$> resimulateFromLogged env segments depths caches states := by
  induction depths generalizing caches states with
  | nil => rfl
  | cons depth depths ih =>
    simp only [resimulateFrom, resimulateFromLogged, resimulateDepth_eq, ih, map_bind,
      bind_map_left, map_pure]
    simp only [bind_pure_comp]

/-- **The log is kept on the side.** -/
theorem resimulateRoute_eq {segments : List NormalizedSegment} {tokenIn tokenOut : Bytes} :
    resimulateRoute env segments tokenIn tokenOut =
      Prod.fst <$> resimulateRouteLogged env segments tokenIn tokenOut := by
  simp only [resimulateRoute, resimulateRouteLogged, resimulateFrom_eq, map_bind, bind_map_left,
    map_pure, bind_pure]
  rfl

end

/-! ## Order -/

/-- The swaps that a segment has simulated at a depth. -/
def SegmentSimState.swapsAt (depth : Nat) (state : SegmentSimState Sim) :
    List (ResimulatedSwap Sim) :=
  (state.hops[depth]?.map (·.swaps)).getD []

/-- A segment whose hops up to some depth are simulated. -/
def Filled (depth : Nat) (segment : NormalizedSegment) (state : SegmentSimState Sim) : Prop :=
  state.hops.length = min depth segment.hops.length

/-- A later state of a segment at this depth or a deeper one. -/
structure Extends (depth : Nat) (state later : SegmentSimState Sim) : Prop where
  hops : state.hops <+: later.hops
  swaps : ∀ earlier < depth, later.swapsAt earlier = state.swapsAt earlier

theorem Extends.refl (depth : Nat) (state : SegmentSimState Sim) : Extends depth state state :=
  ⟨List.prefix_rfl, fun _ _ => rfl⟩

theorem Extends.trans {depth : Nat} {state later last : SegmentSimState Sim}
    (h : Extends depth state later) (hlast : Extends (depth + 1) later last) :
    Extends depth state last := by
  refine ⟨h.hops.trans hlast.hops, fun earlier hlt => ?_⟩
  rw [hlast.swaps earlier (by omega), h.swaps earlier hlt]

section

variable {env : RouteEnv Sim}

/-- One hop of one segment: the log is what the segment then holds at this depth. -/
theorem resimulateSegmentHopLogged_spec {caches caches' : RouteCaches Sim}
    {segment : NormalizedSegment} {state state' : SegmentSimState Sim} {index depth : Nat}
    {log : List (ResimulatedSwap Sim)} (hfilled : Filled depth segment state)
    (h : resimulateSegmentHopLogged env caches segment state index depth =
      .ok (state', caches', log)) :
    Filled (depth + 1) segment state' ∧ Extends depth state state' ∧
      log = state'.swapsAt depth := by
  rw [Filled] at hfilled
  rw [resimulateSegmentHopLogged] at h
  split at h
  case h_1 hnone =>
    cases h
    have hle : segment.hops.length ≤ depth := List.getElem?_eq_none_iff.mp hnone
    have hover : state.hops[depth]? = none := List.getElem?_eq_none_iff.mpr (by omega)
    refine ⟨?_, .refl _ _, ?_⟩
    · rw [Filled]
      omega
    · rw [SegmentSimState.swapsAt, hover]
      rfl
  case h_2 hop hhop =>
    rw [check_bind_eq_ok] at h
    obtain ⟨-, h⟩ := h
    obtain ⟨allocated, -, h⟩ := bind_eq_ok.mp h
    obtain ⟨⟨swaps, hopExpected, caches₁⟩, -, h⟩ := bind_eq_ok.mp h
    rw [pure_eq_ok, Prod.mk.injEq, Prod.mk.injEq] at h
    obtain ⟨rfl, rfl, rfl⟩ := h
    have hlt : depth < segment.hops.length := by
      obtain ⟨hlt, -⟩ := List.getElem?_eq_some_iff.mp hhop
      exact hlt
    have hlength : state.hops.length = depth := by omega
    refine ⟨?_, ⟨List.prefix_append _ _, fun earlier hearlier => ?_⟩, ?_⟩
    · rw [Filled, List.length_append, List.length_singleton]
      omega
    · rw [SegmentSimState.swapsAt, SegmentSimState.swapsAt,
        List.getElem?_append_left (by omega)]
    · rw [SegmentSimState.swapsAt, List.getElem?_append_right (by omega), hlength, Nat.sub_self]
      rfl

/-- One depth: the log is what the segments then hold at it. -/
theorem resimulateDepthLogged_spec {depth index : Nat} {caches caches' : RouteCaches Sim}
    {segments : List NormalizedSegment} {states states' : List (SegmentSimState Sim)}
    {log : List (ResimulatedSwap Sim)} (hfilled : List.Forall₂ (Filled depth) segments states)
    (h : resimulateDepthLogged env depth index caches segments states =
      .ok (states', caches', log)) :
    List.Forall₂ (Filled (depth + 1)) segments states' ∧
      List.Forall₂ (Extends depth) states states' ∧
      log = states'.flatMap (SegmentSimState.swapsAt depth) := by
  induction hfilled generalizing index caches caches' states' log with
  | nil =>
    cases h
    exact ⟨.nil, .nil, rfl⟩
  | cons hfirst _ ih =>
    obtain ⟨⟨state, caches₁, first⟩, hstate, h⟩ := bind_eq_ok.mp h
    obtain ⟨⟨others, caches₂, more⟩, hothers, h⟩ := bind_eq_ok.mp h
    rw [pure_eq_ok, Prod.mk.injEq, Prod.mk.injEq] at h
    obtain ⟨rfl, rfl, rfl⟩ := h
    obtain ⟨hnext, hextends, rfl⟩ := resimulateSegmentHopLogged_spec hfirst hstate
    obtain ⟨hrest, hextendsAll, rfl⟩ := ih hothers
    exact ⟨.cons hnext hrest, .cons hextends hextendsAll, rfl⟩

/-- What the segments hold at a depth is still there later. -/
theorem swapsAt_of_extends {depth : Nat} {states later : List (SegmentSimState Sim)}
    (h : List.Forall₂ (Extends (depth + 1)) states later) :
    states.flatMap (SegmentSimState.swapsAt depth) =
      later.flatMap (SegmentSimState.swapsAt depth) := by
  induction h with
  | nil => rfl
  | cons hfirst _ ih =>
    rw [List.flatMap_cons, List.flatMap_cons, ih, hfirst.swaps depth (Nat.lt_succ_self _)]

/-- The depths that follow: the log is what the segments hold at them in the end. -/
theorem resimulateFromLogged_spec {depth count : Nat} {caches : RouteCaches Sim}
    {segments : List NormalizedSegment} {states states' : List (SegmentSimState Sim)}
    {log : List (ResimulatedSwap Sim)} (hfilled : List.Forall₂ (Filled depth) segments states)
    (h : resimulateFromLogged env segments (List.range' depth count) caches states =
      .ok (states', log)) :
    List.Forall₂ (Extends depth) states states' ∧
      log = (List.range' depth count).flatMap fun hopIndex =>
        states'.flatMap (SegmentSimState.swapsAt hopIndex) := by
  induction count generalizing depth caches states log with
  | zero =>
    cases h
    exact ⟨List.forall₂_same.mpr fun _ _ => .refl _ _, rfl⟩
  | succ count ih =>
    rw [List.range'_succ] at h
    obtain ⟨⟨next, caches₁, first⟩, hnext, h⟩ := bind_eq_ok.mp h
    obtain ⟨⟨last, more⟩, hlast, h⟩ := bind_eq_ok.mp h
    rw [pure_eq_ok, Prod.mk.injEq] at h
    obtain ⟨rfl, rfl⟩ := h
    obtain ⟨hfilled', hextends, rfl⟩ := resimulateDepthLogged_spec hfilled hnext
    obtain ⟨hlater, rfl⟩ := ih hfilled' hlast
    refine ⟨forall₂_trans hextends hlater Extends.trans, ?_⟩
    rw [List.range'_succ, List.flatMap_cons, swapsAt_of_extends hlater]

/-- A built segment holds the hops of its state, as many as the normalised one. -/
theorem hops_of_buildResimulatedSegment {segment : NormalizedSegment}
    {state : SegmentSimState Sim} {built : ResimulatedSegment Sim}
    (h : buildResimulatedSegment segment state = .ok built) :
    built.hops = state.hops ∧ built.hops.length = segment.hops.length := by
  rw [buildResimulatedSegment, check_bind_eq_ok, ensure_eq_ok] at h
  obtain ⟨hlength, h⟩ := h
  split at h
  case h_1 => cases h
  case h_2 =>
    rw [pure_eq_ok] at h
    rw [← h]
    exact ⟨rfl, hlength⟩

/-- The hops of the segments are those that were simulated. -/
theorem hops_of_buildResimulatedSegments {segments : List NormalizedSegment}
    {states : List (SegmentSimState Sim)} {built : List (ResimulatedSegment Sim)}
    (hlength : states.length = segments.length)
    (h : buildResimulatedSegments segments states = .ok built) :
    built.map (·.hops) = states.map (·.hops) ∧
      built.map (·.hops.length) = segments.map (·.hops.length) := by
  induction segments generalizing states built with
  | nil =>
    obtain rfl := List.eq_nil_of_length_eq_zero hlength
    cases h
    exact ⟨rfl, rfl⟩
  | cons segment segments ih =>
    cases states with
    | nil => cases h
    | cons state states =>
      obtain ⟨one, hone, h⟩ := bind_eq_ok.mp h
      obtain ⟨others, hothers, h⟩ := bind_eq_ok.mp h
      rw [pure_eq_ok] at h
      subst h
      obtain ⟨hhops, hcount⟩ := hops_of_buildResimulatedSegment hone
      obtain ⟨hrest, hcounts⟩ := ih (Nat.succ.inj hlength) hothers
      exact ⟨by rw [List.map_cons, List.map_cons, hhops, hrest],
        by rw [List.map_cons, List.map_cons, hcount, hcounts]⟩

/-- **The log is emitted.** -/
theorem log_eq_orderedSwaps {segments : List NormalizedSegment} {tokenIn tokenOut : Bytes}
    {built : List (ResimulatedSegment Sim)} {log : List (ResimulatedSwap Sim)}
    (h : resimulateRouteLogged env segments tokenIn tokenOut = .ok (built, log)) :
    log = orderedSwaps built := by
  obtain ⟨⟨states, log'⟩, hstates, h⟩ := bind_eq_ok.mp h
  rw [check_bind_eq_ok, check_bind_eq_ok] at h
  obtain ⟨-, -, h⟩ := h
  obtain ⟨built', hbuilt, h⟩ := bind_eq_ok.mp h
  rw [pure_eq_ok, Prod.mk.injEq] at h
  obtain ⟨rfl, rfl⟩ := h
  rw [List.range_eq_range'] at hstates
  have hstart : List.Forall₂ (Filled 0) segments (segments.map fun segment =>
      ({ nextAmountIn := segment.amountIn, hops := [] } : SegmentSimState Sim)) := by
    rw [List.forall₂_map_right_iff, List.forall₂_same]
    intro segment _
    rw [Filled, Nat.zero_min]
    rfl
  obtain ⟨hextends, rfl⟩ := resimulateFromLogged_spec hstart hstates
  have hlength := hextends.length_eq
  rw [List.length_map] at hlength
  obtain ⟨hhops, hcounts⟩ := hops_of_buildResimulatedSegments hlength.symm hbuilt
  -- both walk through the same hops, to the same depth
  have hrow : ∀ depth, states.flatMap (SegmentSimState.swapsAt depth) =
      swapsAtDepth built' depth := by
    intro depth
    have hflat := congrArg (List.flatMap fun hops : List (ResimulatedHop Sim) =>
      (hops[depth]?.map (·.swaps)).getD []) hhops
    rw [List.flatMap_map, List.flatMap_map] at hflat
    exact hflat.symm
  rw [orderedSwaps, hcounts, List.range_eq_range']
  exact List.flatMap_congr fun depth _ => hrow depth

end

/-! ## States

Swaps on one pool follow each other in the log; each starts in the state that the one before
left. -/

section

variable (env : RouteEnv Sim)

/-- Calls of `simulate_allocated_swap` one after the other. -/
inductive SimulatesInOrder : RouteCaches Sim → List (ResimulatedSwap Sim) → RouteCaches Sim → Prop
  | done (caches : RouteCaches Sim) : SimulatesInOrder caches [] caches
  | step {caches next last : RouteCaches Sim} {allocated : AllocatedSwap}
      {swap : ResimulatedSwap Sim} {rest : List (ResimulatedSwap Sim)}
      (hswap : simulateAllocatedSwap env caches allocated = .ok (swap, next))
      (hrest : SimulatesInOrder next rest last) : SimulatesInOrder caches (swap :: rest) last

variable {env}

theorem SimulatesInOrder.append {caches next last : RouteCaches Sim}
    {swaps more : List (ResimulatedSwap Sim)} (h : SimulatesInOrder env caches swaps next)
    (hmore : SimulatesInOrder env next more last) :
    SimulatesInOrder env caches (swaps ++ more) last := by
  induction h with
  | done => exact hmore
  | step hswap _ ih => exact .step hswap (ih hmore)

/-- The swaps of a hop are simulated in order. -/
theorem simulateEach_inOrder {caches caches' : RouteCaches Sim} {allocated : List AllocatedSwap}
    {swaps : List (ResimulatedSwap Sim)}
    (h : simulateEach env caches allocated = .ok (swaps, caches')) :
    SimulatesInOrder env caches swaps caches' := by
  induction allocated generalizing caches swaps with
  | nil =>
    cases h
    exact .done _
  | cons first rest ih =>
    obtain ⟨⟨swap, next⟩, hswap, h⟩ := bind_eq_ok.mp h
    obtain ⟨⟨others, last⟩, hothers, h⟩ := bind_eq_ok.mp h
    rw [pure_eq_ok, Prod.mk.injEq] at h
    obtain ⟨rfl, rfl⟩ := h
    exact .step hswap (ih hothers)

theorem resimulateSegmentHopLogged_inOrder {caches caches' : RouteCaches Sim}
    {segment : NormalizedSegment} {state state' : SegmentSimState Sim} {index depth : Nat}
    {log : List (ResimulatedSwap Sim)}
    (h : resimulateSegmentHopLogged env caches segment state index depth =
      .ok (state', caches', log)) : SimulatesInOrder env caches log caches' := by
  rw [resimulateSegmentHopLogged] at h
  split at h
  case h_1 =>
    cases h
    exact .done _
  case h_2 =>
    rw [check_bind_eq_ok] at h
    obtain ⟨-, h⟩ := h
    obtain ⟨allocated, -, h⟩ := bind_eq_ok.mp h
    obtain ⟨⟨swaps, hopExpected, next⟩, hsimulated, h⟩ := bind_eq_ok.mp h
    rw [pure_eq_ok, Prod.mk.injEq, Prod.mk.injEq] at h
    obtain ⟨-, rfl, rfl⟩ := h
    obtain ⟨⟨each, last⟩, heach, hsimulated⟩ := bind_eq_ok.mp hsimulated
    dsimp only at hsimulated
    rw [check_bind_eq_ok, pure_eq_ok, Prod.mk.injEq, Prod.mk.injEq] at hsimulated
    obtain ⟨-, rfl, -, rfl⟩ := hsimulated
    exact simulateEach_inOrder heach

theorem resimulateDepthLogged_inOrder {depth index : Nat} {caches caches' : RouteCaches Sim}
    {segments : List NormalizedSegment} {states states' : List (SegmentSimState Sim)}
    {log : List (ResimulatedSwap Sim)}
    (h : resimulateDepthLogged env depth index caches segments states =
      .ok (states', caches', log)) : SimulatesInOrder env caches log caches' := by
  induction segments generalizing index caches states states' log with
  | nil =>
    cases h
    exact .done _
  | cons segment segments ih =>
    cases states with
    | nil => cases h
    | cons state states =>
      obtain ⟨⟨next, caches₁, first⟩, hnext, h⟩ := bind_eq_ok.mp h
      obtain ⟨⟨others, caches₂, more⟩, hothers, h⟩ := bind_eq_ok.mp h
      rw [pure_eq_ok, Prod.mk.injEq, Prod.mk.injEq] at h
      obtain ⟨-, rfl, rfl⟩ := h
      exact (resimulateSegmentHopLogged_inOrder hnext).append (ih hothers)

theorem resimulateFromLogged_inOrder {depths : List Nat} {caches : RouteCaches Sim}
    {segments : List NormalizedSegment} {states states' : List (SegmentSimState Sim)}
    {log : List (ResimulatedSwap Sim)}
    (h : resimulateFromLogged env segments depths caches states = .ok (states', log)) :
    ∃ last, SimulatesInOrder env caches log last := by
  induction depths generalizing caches states states' log with
  | nil =>
    cases h
    exact ⟨_, .done _⟩
  | cons depth depths ih =>
    obtain ⟨⟨next, caches₁, first⟩, hnext, h⟩ := bind_eq_ok.mp h
    obtain ⟨⟨others, more⟩, hothers, h⟩ := bind_eq_ok.mp h
    rw [pure_eq_ok, Prod.mk.injEq] at h
    obtain ⟨-, rfl⟩ := h
    obtain ⟨last, hlast⟩ := ih hothers
    exact ⟨last, (resimulateDepthLogged_inOrder hnext).append hlast⟩

end

/-- The swaps on a pool with their positions. -/
def onPool (swaps : List (ResimulatedSwap Sim)) (id : String) : List (ResimulatedSwap Sim × Nat) :=
  swaps.zipIdx.filter fun (swap, _) => swap.pool.componentId = id

section

variable (env : RouteEnv Sim)

/-- A token a swap is simulated with: it was looked up for this swap or an earlier one. -/
def TokenOfSwap (moment : Nat) (swap : ResimulatedSwap Sim) (address : Bytes) (token : Token) :
    Prop :=
  ∃ earlier ≤ moment, ∃ backend, env.lookupToken earlier (mapSwapToken env address
    (isNativeProtocolAllowlisted swap.component.protocolSystem env.nativeTokenProtocolAllowlist))
    backend = .ok token

/-- The `get_amount_out` of a swap leads from one pool state to the next, and gives the amount the
swap expects. -/
def Transition (moment : Nat) (swap : ResimulatedSwap Sim) (state next : Sim) : Prop :=
  ∃ tokenIn tokenOut, TokenOfSwap env moment swap swap.tokenIn tokenIn ∧
    TokenOfSwap env moment swap swap.tokenOut tokenOut ∧
    env.runSimulation moment state swap.amountIn tokenIn tokenOut =
      .amountOut swap.expectedAmountOut next

/-- The transitions of swaps one after the other. -/
inductive Advances : Sim → List (ResimulatedSwap Sim × Nat) → Sim → Prop
  | loaded (state : Sim) : Advances state [] state
  | swapped {first state next : Sim} {swaps : List (ResimulatedSwap Sim × Nat)}
      {swap : ResimulatedSwap Sim} {moment : Nat} (hswaps : Advances first swaps state)
      (hswap : Transition env moment swap state next) :
      Advances first (swaps ++ [(swap, moment)]) next

/-- A swap meets the state that the earlier swaps have left its pool in: the pool was loaded at its
first swap, and has gone through the transitions of the earlier swaps on it since. -/
def MeetsState (earlier : List (ResimulatedSwap Sim)) (swap : ResimulatedSwap Sim) : Prop :=
  let onSamePool := onPool earlier swap.pool.componentId
  let firstMoment := (onSamePool.head?.map (·.2)).getD earlier.length
  ∃ loaded next, env.resolvePool firstMoment swap.pool.componentId = .ok loaded ∧
    swap.component = loaded.component ∧ swap.backend = loaded.backend ∧
    Advances env loaded.poolState onSamePool swap.poolState ∧
    Transition env earlier.length swap swap.poolState next

/-- What the cache holds for a pool with these swaps. -/
def PoolDescribed (id : String) (swaps : List (ResimulatedSwap Sim × Nat))
    (held : Option (CachedPoolEntry Sim)) : Prop :=
  match swaps.head? with
  | none => held = none
  | some first => ∃ loaded cached, env.resolvePool first.2 id = .ok loaded ∧ held = some cached ∧
      cached.component = loaded.component ∧ cached.backend = loaded.backend ∧
      Advances env loaded.poolState swaps cached.poolState

/-- The caches describe the swaps simulated so far. -/
structure CacheDescribes (swaps : List (ResimulatedSwap Sim)) (caches : RouteCaches Sim) : Prop where
  moment : caches.moment = swaps.length
  pools : ∀ id, PoolDescribed env id (onPool swaps id) caches.pools[id]?
  tokens : ∀ address token, caches.tokens[address]? = some token →
    ∃ earlier ≤ swaps.length, ∃ backend, env.lookupToken earlier address backend = .ok token

end

section

variable {env : RouteEnv Sim} {swaps : List (ResimulatedSwap Sim)}

/-- The swaps on a pool, with one more swap. -/
theorem onPool_concat (swaps : List (ResimulatedSwap Sim)) (swap : ResimulatedSwap Sim)
    (id : String) : onPool (swaps ++ [swap]) id = onPool swaps id ++
      if swap.pool.componentId = id then [(swap, swaps.length)] else [] := by
  rw [onPool, List.zipIdx_append, List.filter_append, onPool, Nat.zero_add]
  congr 1
  rw [List.zipIdx_singleton, List.filter_singleton]
  exact Bool.cond_decide _ _ _

theorem cacheDescribes_start : CacheDescribes env [] RouteCaches.start := by
  refine ⟨rfl, fun id => ?_, fun address token h => ?_⟩
  · exact Std.ExtTreeMap.getElem?_empty
  · rw [RouteCaches.start, Std.ExtTreeMap.getElem?_empty] at h
    cases h

/-- Loading a pool gives what the cache describes, or the pool as it is now. -/
theorem loadPoolEntry_describes {caches caches' : RouteCaches Sim} {id : String}
    {entry : CachedPoolEntry Sim} (hdescribes : CacheDescribes env swaps caches)
    (h : loadPoolEntry env caches id = .ok (entry, caches')) :
    (∃ loaded, env.resolvePool (((onPool swaps id).head?.map (·.2)).getD swaps.length) id =
        .ok loaded ∧ entry.component = loaded.component ∧ entry.backend = loaded.backend ∧
        Advances env loaded.poolState (onPool swaps id) entry.poolState) ∧
      caches'.moment = caches.moment ∧ caches'.tokens = caches.tokens ∧
      ∀ other ≠ id, caches'.pools[other]? = caches.pools[other]? := by
  have hpool := hdescribes.pools id
  rw [PoolDescribed] at hpool
  rw [loadPoolEntry] at h
  split at h
  case h_1 cached hcached =>
    cases h
    refine ⟨?_, rfl, rfl, fun _ _ => rfl⟩
    split at hpool
    case h_1 => cases hcached.symm.trans hpool
    case h_2 first hfirst =>
      obtain ⟨loaded, held, hloaded, hheld, hcomponent, hbackend, hadvances⟩ := hpool
      obtain rfl := Option.some.inj (hcached.symm.trans hheld)
      rw [hfirst]
      exact ⟨loaded, hloaded, hcomponent, hbackend, hadvances⟩
  case h_2 hnone =>
    obtain ⟨resolved, hresolved, h⟩ := bind_eq_ok.mp h
    rw [pure_eq_ok, Prod.mk.injEq] at h
    obtain ⟨rfl, rfl⟩ := h
    refine ⟨?_, rfl, rfl, fun other hne => ?_⟩
    · split at hpool
      case h_1 hempty =>
        have hnil : onPool swaps id = [] := List.head?_eq_none_iff.mp hempty
        rw [hnil]
        -- a pool is loaded at its first swap, so no swap on it came before
        rw [hdescribes.moment] at hresolved
        exact ⟨resolved, hresolved, rfl, rfl, .loaded _⟩
      case h_2 =>
        obtain ⟨loaded, held, -, hheld, -⟩ := hpool
        cases hnone.symm.trans hheld
    · rw [Std.ExtTreeMap.getElem?_insert, if_neg]
      rw [Std.LawfulEqCmp.compare_eq_iff_eq]
      exact fun heq => hne heq.symm

/-- Getting a token gives one that was looked up. -/
theorem tokenCacheGet_looksUp {caches caches' : RouteCaches Sim} {address : Bytes}
    {backend : PoolBackend} {token : Token}
    (htokens : ∀ address token, caches.tokens[address]? = some token →
      ∃ earlier ≤ caches.moment, ∃ backend, env.lookupToken earlier address backend = .ok token)
    (h : tokenCacheGet env caches address backend = .ok (token, caches')) :
    (∃ earlier ≤ caches.moment, ∃ backend, env.lookupToken earlier address backend = .ok token) ∧
      caches'.moment = caches.moment ∧ caches'.pools = caches.pools ∧
      ∀ address token, caches'.tokens[address]? = some token →
        ∃ earlier ≤ caches.moment, ∃ backend,
          env.lookupToken earlier address backend = .ok token := by
  rw [tokenCacheGet] at h
  split at h
  case h_1 cached hcached =>
    cases h
    exact ⟨htokens _ _ hcached, rfl, rfl, htokens⟩
  case h_2 =>
    obtain ⟨found, hfound, h⟩ := bind_eq_ok.mp h
    rw [pure_eq_ok, Prod.mk.injEq] at h
    obtain ⟨rfl, rfl⟩ := h
    have hnow : ∃ earlier ≤ caches.moment, ∃ backend,
        env.lookupToken earlier address backend = .ok found :=
      ⟨_, Nat.le_refl _, backend, hfound⟩
    refine ⟨hnow, rfl, rfl, fun other token hheld => ?_⟩
    rw [Std.ExtTreeMap.getElem?_insert] at hheld
    split at hheld
    case isTrue heq =>
      rw [Std.LawfulEqCmp.compare_eq_iff_eq] at heq
      subst heq
      obtain rfl := Option.some.inj hheld
      exact hnow
    case isFalse => exact htokens other token hheld

/-- The first swap on a pool stays the first. -/
theorem head?_concat_onPool {swaps : List (ResimulatedSwap Sim × Nat)} {swap : ResimulatedSwap Sim}
    {moment : Nat} : ∃ first, (swaps ++ [(swap, moment)]).head? = some first ∧
      first.2 = (swaps.head?.map (·.2)).getD moment := by
  cases swaps with
  | nil => exact ⟨_, rfl, rfl⟩
  | cons first rest => exact ⟨first, rfl, rfl⟩

/-- **One swap** meets the state its pool is in, and the caches describe it afterwards. -/
theorem simulateAllocatedSwap_meets {caches caches' : RouteCaches Sim} {allocated : AllocatedSwap}
    {swap : ResimulatedSwap Sim} (hdescribes : CacheDescribes env swaps caches)
    (h : simulateAllocatedSwap env caches allocated = .ok (swap, caches')) :
    MeetsState env swaps swap ∧ CacheDescribes env (swaps ++ [swap]) caches' := by
  obtain ⟨⟨entry, caches₁⟩, hload, h⟩ := bind_eq_ok.mp h
  dsimp only at h
  rw [check_bind_eq_ok] at h
  obtain ⟨-, h⟩ := h
  obtain ⟨keepNative, hkeep, h⟩ := bind_eq_ok.mp h
  obtain ⟨⟨tokenIn, caches₂⟩, hin, h⟩ := bind_eq_ok.mp h
  obtain ⟨⟨tokenOut, caches₃⟩, hout, h⟩ := bind_eq_ok.mp h
  obtain ⟨⟨amount, newState⟩, hsimulated, h⟩ := bind_eq_ok.mp h
  dsimp only at h hin hout hsimulated
  rw [check_bind_eq_ok, pure_eq_ok, Prod.mk.injEq] at h
  obtain ⟨-, rfl, rfl⟩ := h
  rw [ensureNativeSwapSupported, check_bind_eq_ok, pure_eq_ok] at hkeep
  obtain ⟨-, rfl⟩ := hkeep
  obtain ⟨⟨loaded, hloaded, hcomponent, hbackend, hadvances⟩, hmoment₁, htokens₁, hothers⟩ :=
    loadPoolEntry_describes hdescribes hload
  -- the tokens of the swap
  have hmoment : caches₁.moment = swaps.length := hmoment₁.trans hdescribes.moment
  obtain ⟨hfoundIn, hmoment₂, hpools₂, htokens₂⟩ := tokenCacheGet_looksUp (by
    rw [htokens₁, hmoment]
    exact hdescribes.tokens) hin
  obtain ⟨hfoundOut, hmoment₃, hpools₃, htokens₃⟩ := tokenCacheGet_looksUp (by
    rw [hmoment₂]
    exact htokens₂) hout
  rw [hmoment₂, hmoment] at hfoundOut htokens₃
  rw [hmoment] at hfoundIn
  -- the transition
  have hnow : caches₃.moment = swaps.length := by rw [hmoment₃, hmoment₂, hmoment]
  rw [hnow, simulateSwap] at hsimulated
  split at hsimulated
  case h_1 out next hrun =>
    cases hsimulated
    have htransition : Transition env swaps.length
        { pool := allocated.pool, backend := entry.backend, tokenIn := allocated.tokenIn
          tokenOut := allocated.tokenOut, splitBps := allocated.splitBps
          amountIn := allocated.amountIn, expectedAmountOut := amount
          poolState := entry.poolState, component := entry.component } entry.poolState newState :=
      ⟨tokenIn, tokenOut, hfoundIn, hfoundOut, hrun⟩
    refine ⟨⟨loaded, newState, hloaded, hcomponent, hbackend, hadvances, htransition⟩, ?_, ?_, ?_⟩
    · rw [List.length_append, List.length_singleton, hnow]
    · intro id
      by_cases heq : allocated.pool.componentId = id
      · subst heq
        rw [onPool_concat, if_pos rfl, Std.ExtTreeMap.getElem?_insert_self, PoolDescribed]
        obtain ⟨first, hfirst, hfirstMoment⟩ := head?_concat_onPool
        rw [hfirst]
        dsimp only
        rw [hfirstMoment]
        exact ⟨loaded, _, hloaded, rfl, hcomponent, hbackend, .swapped hadvances htransition⟩
      · have hne : compare allocated.pool.componentId id ≠ .eq := by
          rw [ne_eq, Std.LawfulEqCmp.compare_eq_iff_eq]
          exact heq
        rw [onPool_concat, if_neg heq, List.append_nil, Std.ExtTreeMap.getElem?_insert, if_neg hne,
          hpools₃, hpools₂, hothers id fun hsame => heq hsame.symm]
        exact hdescribes.pools id
    · intro address token hheld
      obtain ⟨earlier, hle, backend, hfound⟩ := htokens₃ address token hheld
      refine ⟨earlier, ?_, backend, hfound⟩
      rw [List.length_append]
      exact Nat.le_add_right_of_le hle
  all_goals cases hsimulated

/-- **Every swap of a run** meets the state that the swaps before it have left its pool in. -/
theorem SimulatesInOrder.meets {caches last : RouteCaches Sim} {log : List (ResimulatedSwap Sim)}
    (h : SimulatesInOrder env caches log last) (hdescribes : CacheDescribes env swaps caches) :
    ∀ n swap, log[n]? = some swap → MeetsState env (swaps ++ log.take n) swap := by
  induction h generalizing swaps with
  | done => exact fun n swap hn => nomatch hn
  | step hswap _ ih =>
    obtain ⟨hmeets, hnext⟩ := simulateAllocatedSwap_meets hdescribes hswap
    intro n swap hn
    cases n with
    | zero =>
      obtain rfl := Option.some.inj hn
      rw [List.take_zero, List.append_nil]
      exact hmeets
    | succ n =>
      have hlater := ih hnext n swap hn
      rw [List.append_assoc] at hlater
      exact hlater

end

/-! ## Emission -/

/-- A simulated swap as it is emitted. -/
structure EmittedAs (swap : ResimulatedSwap Sim) (encoded : EncodedSwap Sim) : Prop where
  component : encoded.component = swap.component
  tokenIn : encoded.tokenIn = swap.tokenIn
  tokenOut : encoded.tokenOut = swap.tokenOut
  protocolState : encoded.protocolState = swap.poolState

theorem encodeSwap_emits {finite : Nat → Nat → Bool} {stats : FinMap Bytes SplitStats}
    {entry : ResimulatedSwap Sim × Nat} {encoded : EncodedSwap Sim}
    (h : encodeSwap finite stats entry = .ok encoded) : EmittedAs entry.1 encoded := by
  obtain ⟨swap, index⟩ := entry
  rw [encodeSwap] at h
  split at h
  case h_1 => cases h
  case h_2 =>
    obtain ⟨split, -, h⟩ := bind_eq_ok.mp h
    rw [pure_eq_ok] at h
    rw [← h]
    exact ⟨rfl, rfl, rfl, rfl⟩

theorem buildRouteSwaps_emits {finite : Nat → Nat → Bool} {segments : List (ResimulatedSegment Sim)}
    {encoded : List (EncodedSwap Sim)} (h : buildRouteSwaps finite segments = .ok encoded) :
    List.Forall₂ EmittedAs (orderedSwaps segments) encoded := by
  rw [buildRouteSwaps, check_bind_eq_ok] at h
  have hall := (mapM_eq_ok.mp h.2).imp fun _ _ => encodeSwap_emits
  rw [← List.forall₂_map_left_iff, List.zipIdx_map_fst] at hall
  exact hall

/-- **Swaps are simulated in the order they are emitted, in the states they will meet.** The log of
a successful resimulation is emitted element by element, and the state attached to each swap is the
one its pool was loaded with, run through the earlier emitted swaps on it; from that state its
simulation gives the amount it expects. -/
theorem simulated_as_emitted {env : RouteEnv Sim} {normalized : List NormalizedSegment}
    {tokenIn tokenOut : Bytes} {finite : Nat → Nat → Bool}
    {segments : List (ResimulatedSegment Sim)} {encoded : List (EncodedSwap Sim)}
    (hresim : resimulateRoute env normalized tokenIn tokenOut = .ok segments)
    (hbuild : buildRouteSwaps finite segments = .ok encoded) :
    ∃ log, resimulateRouteLogged env normalized tokenIn tokenOut = .ok (segments, log) ∧
      List.Forall₂ EmittedAs log encoded ∧
      ∀ n swap, log[n]? = some swap → MeetsState env (log.take n) swap := by
  rw [resimulateRoute_eq] at hresim
  obtain ⟨⟨built, log⟩, hlogged, rfl⟩ : ∃ result,
      resimulateRouteLogged env normalized tokenIn tokenOut = .ok result ∧ result.1 = segments := by
    cases hlogged : resimulateRouteLogged env normalized tokenIn tokenOut with
    | error e =>
      rw [hlogged] at hresim
      cases hresim
    | ok result =>
      rw [hlogged] at hresim
      exact ⟨result, rfl, Except.ok.inj hresim⟩
  have hordered := log_eq_orderedSwaps hlogged
  refine ⟨log, hlogged, ?_, ?_⟩
  · rw [hordered]
    exact buildRouteSwaps_emits hbuild
  · obtain ⟨⟨states, log'⟩, hstates, h⟩ := bind_eq_ok.mp hlogged
    rw [check_bind_eq_ok, check_bind_eq_ok] at h
    obtain ⟨-, -, h⟩ := h
    obtain ⟨built', -, h⟩ := bind_eq_ok.mp h
    rw [pure_eq_ok, Prod.mk.injEq] at h
    obtain ⟨-, rfl⟩ := h
    obtain ⟨last, hrun⟩ := resimulateFromLogged_inOrder hstates
    exact hrun.meets cacheDescribes_start

/-- Native pools that count their swaps, and pay so much less. -/
def tiringEnv : RouteEnv Nat where
  bytesFromStr := repeatedByteAddress
  nativeAddress := List.replicate 20 0
  wrappedNativeAddress := List.replicate 20 0xc0
  nativeTokenProtocolAllowlist := ["rocketpool"]
  erc4626DepositsEnabled := false
  erc4626PairPolicies := []
  resolvePool _ _ := .ok { poolState := 0, backend := .native
                           component := { id := [], protocolSystem := "uniswap_v2"
                                          protocolTypeName := "uniswap_v2_pool", tokens := [] } }
  lookupToken _ address _ := .ok { address }
  runSimulation _ swaps amount _ _ := .amountOut (amount - swaps) (swaps + 1)

/-- Two segments of different lengths, of which the longer ends in the pool of the other. -/
def reusingSegments : List SegmentDraft :=
  let a := "0x1111111111111111111111111111111111111111"
  let b := "0x2222222222222222222222222222222222222222"
  let c := "0x3333333333333333333333333333333333333333"
  [{ kind := .simpleSwap, shareBps := 5000, hops := [singlePoolHop "first" a b] },
   { kind := .multiSwap, shareBps := 0
     hops := [singlePoolHop "second" a c, singlePoolHop "first" c b] }]

/-- The route over a pool that tires is encoded. -/
theorem reusing_encodes : ∃ normalized segments encoded,
    normalizeRoute tiringEnv reusingSegments (List.replicate 20 0x11) (List.replicate 20 0x22) 100 =
      .ok normalized ∧
    resimulateRoute tiringEnv normalized (List.replicate 20 0x11) (List.replicate 20 0x22) =
      .ok segments ∧
    buildRouteSwaps (fun _ _ => true) segments = .ok encoded ∧
    encoded.map (·.protocolState) = [0, 0, 1] :=
  ⟨_, _, _, rfl, rfl, rfl, rfl⟩

/-- The last swap meets the state that the first has left their pool in. -/
theorem simulated_as_emitted_reusing : ∃ normalized segments encoded log,
    resimulateRoute tiringEnv normalized (List.replicate 20 0x11) (List.replicate 20 0x22) =
      .ok segments ∧ buildRouteSwaps (fun _ _ => true) segments = .ok encoded ∧
    encoded.map (·.protocolState) = [0, 0, 1] ∧ List.Forall₂ EmittedAs log encoded ∧
    ∀ n swap, log[n]? = some swap → MeetsState tiringEnv (log.take n) swap := by
  obtain ⟨normalized, segments, encoded, -, hresim, hbuild, hstates⟩ := reusing_encodes
  obtain ⟨log, -, hlog⟩ := simulated_as_emitted hresim hbuild
  exact ⟨normalized, segments, encoded, log, hresim, hbuild, hstates, hlog⟩

end TychoSimulationServer
