import Mathlib.Logic.Function.Basic
import TychoSimulationServer.Machine
import TychoSimulationServer.RoutePinning

/-!
# Rebuild guards of a route

A rebuild of the VM or RFQ backend takes the backend's gate for writing. A route request holds
read guards on the gates while it simulates pools of these stores: the first are chosen from the
protocol hints, and when a pool turns out to live in another backend the request gets new ones in
their place. The machine runs one request, await by await, with its worker closure, against
rebuilds, other requests and stores that change at any time.

`Covering` says what one step needs of the guards: that a new guard covers what the cache still
offers to the route, that a pool is loaded under its store's gate, that a dropped request leaves a
worker with a guard. Under it the request's guard covers the store of every cached pool the route
will use again, without interruption since the pool was loaded. Which stores and hints make the
steps covering is the next module's matter.
-/

namespace TychoSimulationServer

/-! ## Guards

A guard covers the backends whose gates were acquired with it. The native backend needs none. -/

/-- `PoolBackend::uses_rebuild_guard`. -/
def PoolBackend.usesRebuildGuard : PoolBackend → Bool
  | native => false
  | vm | rfq => true

/-- `SimulationRebuildGuard`: which of the two gates it holds for reading. -/
structure SimulationRebuildGuard where
  vm : Bool
  rfq : Bool
deriving DecidableEq, Repr

namespace SimulationRebuildGuard

/-- The guard holds the gate of the backend. -/
def covers (guard : SimulationRebuildGuard) : PoolBackend → Bool
  | .native => false
  | .vm => guard.vm
  | .rfq => guard.rfq

/-- `blocks_required_rebuilds`. -/
def blocksRequiredRebuilds (guard : SimulationRebuildGuard) (usesVm usesRfq : Bool) : Bool :=
  (!usesVm || guard.vm) && (!usesRfq || guard.rfq)

end SimulationRebuildGuard

/-- The pools of the swaps of a route in the order `resimulate_route` comes to them. -/
def routePools (segments : List NormalizedSegment) : List String :=
  (List.range (maxHopDepth segments)).flatMap fun hopIndex => segments.flatMap fun segment =>
    match segment.hops[hopIndex]? with
    | some hop => hop.swaps.map (·.pool.componentId)
    | none => []

/-! ## A request, its worker and the stores

The request looks up its pools one after the other and hands each simulation to a worker; the stores
and their writers move at any await. -/

/-- How far a look into the stores has come with one of them. -/
inductive LookupPhase where
  | hasPool
  | readiness
  | fetch
deriving DecidableEq, Repr

/-- The await a request stands at. -/
inductive RouteStage where
  /-- before the first check of availability -/
  | entering
  /-- in `acquire_simulation_rebuild_guard`, before the VM gate -/
  | acquireVm (needs : SimulationRebuildGuard)
  /-- there, before the RFQ gate: the VM gate is held if it is needed -/
  | acquireRfq (needs : SimulationRebuildGuard)
  /-- before the second check of availability -/
  | rechecking
  /-- between two swaps -/
  | nextSwap
  /-- in `pool_rebuild_guard_requirements` -/
  | requirements (store : PoolBackend) (phase : LookupPhase)
  /-- in `pool_by_id` -/
  | loading (store : PoolBackend) (phase : LookupPhase)
  /-- the pool is at hand; its checks and tokens -/
  | preparing
  /-- on the worker -/
  | simulating
  /-- returned or dropped -/
  | finished
deriving DecidableEq, Repr

/-- `CachedPoolEntry`, with the store its state is from and when it was loaded as history. The
state a swap leaves behind is derived from the one before and keeps both. -/
structure LoadedPool where
  component : ProtocolComponent
  backend : PoolBackend
  store : PoolBackend
  loadedAt : Nat
deriving DecidableEq

/-- A closure that runs `get_amount_out`. -/
structure SwapWorker where
  guard : Option SimulationRebuildGuard
  store : PoolBackend
  loadedAt : Nat
deriving DecidableEq

/-- A route request among the stores. -/
structure GuardedRoute where
  /-- what the stores hold now -/
  stores : PoolBackend → String → Option ProtocolComponent
  /-- a rebuild has the gate -/
  writer : PoolBackend → Bool
  /-- read guards of other requests -/
  otherReaders : PoolBackend → Nat
  /-- what the hints of the route ask for -/
  usage : SimulationRebuildGuard
  /-- the pools of the native version pinned for the request -/
  nativePin : String → Option ProtocolComponent
  /-- the pools of the swaps left, the current one first -/
  todo : List String
  stage : RouteStage
  rebuildGuard : Option SimulationRebuildGuard
  poolCache : String → Option LoadedPool
  worker : Option SwapWorker
  /-- history: the VM and RFQ stores in which the checks have found pools, the last one first -/
  found : List PoolBackend
  /-- history: which component each pool had when it was loaded, and from which store -/
  loaded : List (String × ProtocolComponent × PoolBackend)
  /-- history: the number of steps so far -/
  now : Nat
  /-- history: since when the request or its worker has held the gate without interruption -/
  heldSince : PoolBackend → Option Nat

namespace GuardedRoute

variable (s : GuardedRoute)

/-- The request or its worker holds the gate for reading. -/
def holdsGate (store : PoolBackend) : Bool :=
  s.rebuildGuard.any (·.covers store) ||
  (s.worker.bind (·.guard)).any (·.covers store) ||
  match s.stage with
  | .acquireRfq needs => needs.vm && decide (store = .vm)
  | _ => false

/-- The request returns or is dropped: it lets go of its guard and its cache. -/
def finish : GuardedRoute :=
  { s with stage := .finished, rebuildGuard := none, poolCache := fun _ => none }

/-- The pool of the current swap is cached. -/
def cachePool (id : String) (component : ProtocolComponent) (store : PoolBackend) : GuardedRoute :=
  { s with
    stage := .preparing
    poolCache := Function.update s.poolCache id
      (some { component, backend := .fromComponent component, store, loadedAt := s.now })
    loaded := (id, component, store) :: s.loaded }

/-- The check has found the pool in a store that is ready: for the history. -/
def noteFound (store : PoolBackend) : GuardedRoute :=
  { s with found := if store = .native then s.found else store :: s.found }

/-- Which store is asked next. -/
def nextStore : PoolBackend → Option PoolBackend
  | .native => some .vm
  | .vm => some .rfq
  | .rfq => none

/-- `pool_rebuild_guard_requirements`, and what `load_pool_entry` makes of the answer. -/
def checkRequirements (ready : Bool) (id : String) (store : PoolBackend) :
    LookupPhase → Option GuardedRoute
  | .hasPool =>
    match s.stores store id with
    | some _ => some { s with stage := .requirements store .readiness }
    | none =>
      match nextStore store with
      | some next => some { s with stage := .requirements next .hasPool }
      -- in no store: the guard stays, and `pool_by_id` has another look
      | none => some { s with stage := .loading .native .hasPool }
  | .readiness =>
    if ready then
      let needs : SimulationRebuildGuard :=
        { vm := decide (store = .vm), rfq := decide (store = .rfq) }
      if (needs.vm || needs.rfq) &&
          !s.rebuildGuard.any (·.blocksRequiredRebuilds needs.vm needs.rfq) then
        some { s.noteFound store with stage := .acquireVm needs }
      else
        some { s.noteFound store with stage := .loading .native .hasPool }
    else some s.finish
  | .fetch => none

/-- `pool_by_id`, with the hydration of an RFQ state, which may fail. -/
def loadPool (ready : Bool) (id : String) (store : PoolBackend) :
    LookupPhase → Option GuardedRoute
  | .hasPool =>
    match s.stores store id with
    | some _ => some { s with stage := .loading store .readiness }
    | none =>
      match nextStore store with
      | some next => some { s with stage := .loading next .hasPool }
      | none => some s.finish
  | .readiness => if ready then some { s with stage := .loading store .fetch } else some s.finish
  | .fetch =>
    match s.stores store id with
    | some component => if ready then some (s.cachePool id component store) else some s.finish
    | none => some s.finish

end GuardedRoute

/-- What can happen. The flag of a step of the request says whether the checks of that stretch
(readiness, allocation, support, tokens, the result of the simulation) let it go on. -/
inductive RouteAction where
  | enter (ready : Bool)
  | acquireGate
  | recheck (ready : Bool)
  | takeSwap (ready : Bool)
  | lookup (ready : Bool)
  | spawn (ready : Bool)
  | workerDone
  | resume (ready : Bool)
  | dropRequest
  | storeChange (store : PoolBackend) (pools : String → Option ProtocolComponent)
  | beginRebuild (store : PoolBackend)
  | endRebuild (store : PoolBackend)
  | otherAcquire (store : PoolBackend)
  | otherRelease (store : PoolBackend)

namespace GuardedRoute

/-- A step but for the history. -/
def perform (s : GuardedRoute) : RouteAction → Option GuardedRoute
  | .enter ready =>
    if s.stage = .entering then
      if ready then some { s with stage := .acquireVm s.usage } else some s.finish
    else none
  | .acquireGate =>
    match s.stage with
    | .acquireVm needs =>
      if needs.vm && s.writer .vm then none else some { s with stage := .acquireRfq needs }
    | .acquireRfq needs =>
      if needs.rfq && s.writer .rfq then none
      else
        -- the guard there was, if any, is dropped when the new one is assigned
        some { s with
          rebuildGuard := some needs
          stage := if s.rebuildGuard = none then .rechecking else .loading .native .hasPool }
    | _ => none
  | .recheck ready =>
    if s.stage = .rechecking then
      if ready then some { s with stage := .nextSwap } else some s.finish
    else none
  | .takeSwap ready =>
    if s.stage = .nextSwap then
      match s.todo with
      | [] => some s.finish
      | id :: _ =>
        if ready then
          match s.poolCache id with
          | some _ => some { s with stage := .preparing }
          | none =>
            match s.nativePin id with
            | some component => some (s.cachePool id component .native)
            | none => some { s with stage := .requirements .native .hasPool }
        else some s.finish
    else none
  | .lookup ready =>
    match s.stage, s.todo with
    | .requirements store phase, id :: _ => s.checkRequirements ready id store phase
    | .loading store phase, id :: _ => s.loadPool ready id store phase
    | _, _ => none
  | .spawn ready =>
    match s.stage, s.todo with
    | .preparing, id :: _ =>
      match s.poolCache id with
      | some entry =>
        if ready then
          some { s with
            stage := .simulating
            worker := some
              { guard := if entry.backend.usesRebuildGuard then s.rebuildGuard else none
                store := entry.store, loadedAt := entry.loadedAt } }
        else some s.finish
      | none => none
    | _, _ => none
  | .workerDone => if s.worker = none then none else some { s with worker := none }
  | .resume ready =>
    match s.stage, s.todo, s.worker with
    | .simulating, _ :: rest, none =>
      if ready then some { s with stage := .nextSwap, todo := rest } else some s.finish
    | _, _, _ => none
  | .dropRequest => if s.stage = .finished then none else some s.finish
  | .storeChange store pools => some { s with stores := Function.update s.stores store pools }
  | .beginRebuild store =>
    if s.holdsGate store || s.writer store || 0 < s.otherReaders store then none
    else some { s with writer := Function.update s.writer store true }
  | .endRebuild store => some { s with writer := Function.update s.writer store false }
  | .otherAcquire store =>
    if s.writer store then none
    else some { s with
      otherReaders := Function.update s.otherReaders store (s.otherReaders store + 1) }
  | .otherRelease store =>
    some { s with
      otherReaders := Function.update s.otherReaders store (s.otherReaders store - 1) }

/-- The history of a step from `s` to `next`. -/
def note (s next : GuardedRoute) : GuardedRoute :=
  { next with
    now := s.now + 1
    heldSince := fun store =>
      if next.holdsGate store then some ((s.heldSince store).getD s.now) else none }

/-- One step, `none` when the action cannot happen. -/
def step (s : GuardedRoute) (action : RouteAction) : Option GuardedRoute :=
  (s.perform action).map s.note

/-- A request before its first step, among any stores. -/
def start (segments : List NormalizedSegment)
    (stores : PoolBackend → String → Option ProtocolComponent) (writer : PoolBackend → Bool)
    (otherReaders : PoolBackend → Nat) (nativePin : String → Option ProtocolComponent) :
    GuardedRoute where
  stores
  writer
  otherReaders
  usage := { vm := (routeBackendUsage segments).2.1, rfq := (routeBackendUsage segments).2.2 }
  nativePin
  todo := routePools segments
  stage := .entering
  rebuildGuard := none
  poolCache := fun _ => none
  worker := none
  found := []
  loaded := []
  now := 0
  heldSince := fun _ => none

end GuardedRoute

/-- A route request with any actions in any order. -/
def guardMachine : Machine GuardedRoute where
  init s := ∃ segments stores writer otherReaders nativePin,
    s = GuardedRoute.start segments stores writer otherReaders nativePin
  step s s' := ∃ action, s.step action = some s'

namespace GuardedRoute

variable {s s' next : GuardedRoute} {store : PoolBackend} {time : Nat}

/-! ## What is promised

A pool is simulated only while the gate of its store has been held since the pool was loaded. -/

/-- The gate has been held since `time` at the latest. -/
def HeldSince (s : GuardedRoute) (store : PoolBackend) (time : Nat) : Prop :=
  ∃ since, s.heldSince store = some since ∧ since ≤ time

/-- A simulation on a state of the VM or RFQ store runs under that store's gate, held since the
state was loaded. -/
def SimulatesGuarded (s : GuardedRoute) : Prop :=
  ∀ worker, s.worker = some worker → worker.store ≠ .native →
    s.holdsGate worker.store = true ∧ s.HeldSince worker.store worker.loadedAt

/-- What a step needs of the guards. One that is put in place covers the stores of the pools in
the cache that the rest of the route uses; a pool that is loaded from the VM or RFQ store is in a
store the guard at hand covers; and a request that is dropped leaves no worker without a guard on
a state of these stores. -/
def Covering (s : GuardedRoute) : RouteAction → Prop
  | .acquireGate => ∀ needs, s.stage = .acquireRfq needs → ∀ id ∈ s.todo, ∀ entry,
      s.poolCache id = some entry → entry.store ≠ .native → needs.covers entry.store = true
  | .lookup ready => ready = true → ∀ store id component, s.stage = .loading store .fetch →
      s.todo.head? = some id → s.stores store id = some component → store ≠ .native →
      s.rebuildGuard.any (·.covers store) = true
  | .dropRequest => ∀ worker, s.worker = some worker → worker.store ≠ .native →
      worker.guard ≠ none
  | _ => True

/-! ## The invariant

A loaded pool is covered by the guard in hand, and what the worker simulates by the worker's own. -/

/-- The request's guard covers the store of the pool since it was loaded. -/
def Covered (s : GuardedRoute) (entry : LoadedPool) : Prop :=
  ∃ guard, s.rebuildGuard = some guard ∧ guard.covers entry.store = true ∧
    s.HeldSince entry.store entry.loadedAt

/-- The invariant of runs whose steps are covering. -/
structure Sheltered (s : GuardedRoute) : Prop where
  past : ∀ store since, s.heldSince store = some since → since ≤ s.now
  held : ∀ store, s.holdsGate store = true → s.HeldSince store s.now
  /-- the guard covers what the rest of the route uses from the cache -/
  cached : ∀ id ∈ s.todo, ∀ entry, s.poolCache id = some entry → entry.store ≠ .native →
    s.Covered entry
  worker : ∀ worker, s.worker = some worker → worker.store ≠ .native →
    s.HeldSince worker.store worker.loadedAt ∧
      ((∃ guard, worker.guard = some guard ∧ guard.covers worker.store = true) ∨
        s.stage = .simulating ∧
          ∃ guard, s.rebuildGuard = some guard ∧ guard.covers worker.store = true)
  /-- the guard of a worker is a clone of the request's -/
  clone : ∀ worker, s.worker = some worker → s.stage = .simulating →
    worker.guard = none ∨ worker.guard = s.rebuildGuard
  /-- the request waits for its worker -/
  waits : s.worker ≠ none → s.stage = .simulating ∨ s.stage = .finished

theorem holdsGate_of_guard {guard : SimulationRebuildGuard} (hguard : s.rebuildGuard = some guard)
    (hcovers : guard.covers store = true) : s.holdsGate store = true := by
  rw [holdsGate, hguard, Option.any_some, hcovers]
  rfl

theorem holdsGate_of_worker {worker : SwapWorker} {guard : SimulationRebuildGuard}
    (hworker : s.worker = some worker) (hguard : worker.guard = some guard)
    (hcovers : guard.covers store = true) : s.holdsGate store = true := by
  rw [holdsGate, hworker, Option.bind_some, hguard, Option.any_some, hcovers]
  simp

/-- **The invariant is enough** for what is promised. -/
theorem Sheltered.simulatesGuarded (hs : s.Sheltered) : s.SimulatesGuarded := by
  intro worker hworker hstore
  obtain ⟨hsince, ⟨guard, hguard, hcovers⟩ | ⟨-, guard, hguard, hcovers⟩⟩ :=
    hs.worker worker hworker hstore
  · exact ⟨holdsGate_of_worker hworker hguard hcovers, hsince⟩
  · exact ⟨holdsGate_of_guard hguard hcovers, hsince⟩

theorem sheltered_start (segments : List NormalizedSegment)
    (stores : PoolBackend → String → Option ProtocolComponent) (writer : PoolBackend → Bool)
    (otherReaders : PoolBackend → Nat) (nativePin : String → Option ProtocolComponent) :
    (start segments stores writer otherReaders nativePin).Sheltered where
  past _ _ h := by cases h
  held store h := by simp [holdsGate, start] at h
  cached _ _ _ h := by cases h
  worker _ h := by cases h
  clone _ h := by cases h
  waits h := absurd rfl h

/-! ## What a step leaves

The instants since which gates are held are moved by one function after each step. -/

/-- A gate that is held on both sides of a step has been held since the same time. -/
theorem HeldSince.note (h : s.HeldSince store time) (hafter : next.holdsGate store = true) :
    (s.note next).HeldSince store time := by
  obtain ⟨since, hsince, hle⟩ := h
  refine ⟨since, ?_, hle⟩
  simp only [GuardedRoute.note, hafter, if_true, hsince, Option.getD_some]

/-- A gate that is held after a step has been held since that step at the latest. -/
theorem Sheltered.heldSince_note (hs : s.Sheltered) (hafter : next.holdsGate store = true) :
    (s.note next).HeldSince store s.now := by
  cases hbefore : s.heldSince store with
  | none => exact ⟨s.now, by simp only [note, hafter, if_true, hbefore, Option.getD_none], le_rfl⟩
  | some since =>
    exact ⟨since, by simp only [note, hafter, if_true, hbefore, Option.getD_some],
      hs.past store since hbefore⟩

theorem Sheltered.past_note (hs : s.Sheltered) {since : Nat}
    (h : (s.note next).heldSince store = some since) : since ≤ (s.note next).now := by
  have hsome : (if next.holdsGate store then some ((s.heldSince store).getD s.now) else none) =
      some since := h
  split at hsome
  · cases hsome
    cases hbefore : s.heldSince store with
    | none => exact Nat.le_succ _
    | some since => exact (hs.past store since hbefore).trans (Nat.le_succ _)
  · cases hsome

/-- A gate that is held has been held since some instant. -/
theorem Sheltered.held_note (hs : s.Sheltered) (hafter : (s.note next).holdsGate store = true) :
    (s.note next).HeldSince store (s.note next).now := by
  have hbound : (s.note next).HeldSince store s.now := hs.heldSince_note hafter
  obtain ⟨since, hsince, hle⟩ := hbound
  exact ⟨since, hsince, hle.trans (Nat.le_succ _)⟩

theorem Covered.note {entry : LoadedPool} {guard : SimulationRebuildGuard} (h : s.Covered entry)
    (hguard : next.rebuildGuard = some guard) (hcovers : guard.covers entry.store = true) :
    (s.note next).Covered entry := by
  obtain ⟨-, -, -, hsince⟩ := h
  exact ⟨guard, hguard, hcovers, hsince.note (holdsGate_of_guard hguard hcovers)⟩

namespace Sheltered

/-- A step that keeps the guard and the worker and caches nothing it does not cover. -/
theorem of_kept (hs : s.Sheltered) (hguard : next.rebuildGuard = s.rebuildGuard)
    (hworker : next.worker = s.worker) (hstage : s.worker ≠ none → next.stage = s.stage)
    (hcached : ∀ id ∈ next.todo, ∀ entry, next.poolCache id = some entry →
      entry.store ≠ .native → s.Covered entry) : (s.note next).Sheltered where
  past store since h := hs.past_note h
  held store h := hs.held_note h
  cached := by
    intro id hid entry hentry hstore
    have hcovered := hcached id hid entry hentry hstore
    have ⟨guard, hbefore, hcovers, _⟩ := hcovered
    exact hcovered.note (hguard.trans hbefore) hcovers
  worker := by
    intro worker hw hstore
    have hw : s.worker = some worker := hworker.symm.trans hw
    obtain ⟨hsince, ⟨guard, hclone, hcovers⟩ | ⟨hsim, guard, hmine, hcovers⟩⟩ :=
      hs.worker worker hw hstore
    · exact ⟨hsince.note (holdsGate_of_worker (hworker.trans hw) hclone hcovers),
        .inl ⟨guard, hclone, hcovers⟩⟩
    · exact ⟨hsince.note (holdsGate_of_guard (hguard.trans hmine) hcovers),
        .inr ⟨(hstage (by rw [hw]; simp)).trans hsim, guard, hguard.trans hmine, hcovers⟩⟩
  clone := by
    intro worker hw hsim
    have hw : s.worker = some worker := hworker.symm.trans hw
    have hsim : s.stage = .simulating := (hstage (by rw [hw]; simp)).symm.trans hsim
    exact (hs.clone worker hw hsim).imp_right fun h => h.trans hguard.symm
  waits := by
    intro hw
    have hw : s.worker ≠ none := fun h => hw (hworker.trans h)
    exact (hs.waits hw).imp (hstage hw).trans (hstage hw).trans

/-- A worker that has a guard of its own does not need the request. -/
theorem finish (hs : s.Sheltered) (hguards : ∀ worker, s.worker = some worker →
    worker.store ≠ .native → worker.guard ≠ none) : (s.note s.finish).Sheltered where
  past store since h := hs.past_note h
  held store h := hs.held_note h
  cached _ _ _ h := by cases h
  worker := by
    intro worker hw hstore
    have hw : s.worker = some worker := hw
    obtain ⟨hsince, hcover⟩ := hs.worker worker hw hstore
    have hclone : ∃ guard, worker.guard = some guard ∧ guard.covers worker.store = true := by
      obtain hclone | ⟨hsim, guard, hmine, hcovers⟩ := hcover
      · exact hclone
      · obtain hnone | hsame := hs.clone worker hw hsim
        · exact absurd hnone (hguards worker hw hstore)
        · exact ⟨guard, hsame.trans hmine, hcovers⟩
    obtain ⟨guard, hguard, hcovers⟩ := hclone
    exact ⟨hsince.note (holdsGate_of_worker hw hguard hcovers), .inl ⟨guard, hguard, hcovers⟩⟩
  clone _ _ h := by cases h
  waits _ := .inr rfl

/-- There is a worker during a simulation only. -/
theorem worker_none (hs : s.Sheltered) (hsim : s.stage ≠ .simulating)
    (hfinished : s.stage ≠ .finished) : s.worker = none := by
  by_contra h
  obtain h | h := hs.waits h
  · exact hsim h
  · exact hfinished h

/-- A request that returns has no worker. -/
theorem finish_of_stage (hs : s.Sheltered) (hworker : s.worker = none) :
    (s.note s.finish).Sheltered :=
  hs.finish fun worker h => by rw [hworker] at h; cases h

/-- A step to another stage. -/
theorem of_stage (hs : s.Sheltered) (hworker : s.worker = none) (stage : RouteStage) :
    (s.note { s with stage }).Sheltered :=
  hs.of_kept rfl rfl (fun h => absurd hworker h) hs.cached

/-- The end of a check, which finds a pool and changes nothing else. -/
theorem noteFound (hs : s.Sheltered) (hworker : s.worker = none) (store : PoolBackend)
    (stage : RouteStage) : (s.note { s.noteFound store with stage }).Sheltered :=
  hs.of_kept rfl rfl (fun h => absurd hworker h) hs.cached

theorem cachePool (hs : s.Sheltered) (hworker : s.worker = none) {id : String}
    {component : ProtocolComponent}
    (hcovers : store ≠ .native → s.rebuildGuard.any (·.covers store) = true) :
    (s.note (s.cachePool id component store)).Sheltered := by
  refine hs.of_kept rfl rfl (fun h => absurd hworker h) fun other hother entry hentry hstore => ?_
  have hentry : Function.update s.poolCache id _ other = some entry := hentry
  by_cases heq : other = id
  · subst heq
    rw [Function.update_self] at hentry
    cases hentry
    obtain ⟨guard, hguard, hcover⟩ := (Option.any_eq_true _ _).mp (hcovers hstore)
    exact ⟨guard, hguard, hcover, hs.held store (holdsGate_of_guard hguard hcover)⟩
  · rw [Function.update_of_ne heq] at hentry
    exact hs.cached other hother entry hentry hstore

/-! ## One step -/

theorem acquireGate (hs : s.Sheltered) (hcovering : s.Covering .acquireGate)
    (h : s.perform .acquireGate = some next) : (s.note next).Sheltered := by
  simp only [perform] at h
  split at h
  · rename_i needs hstage
    have hworker := hs.worker_none (by rw [hstage]; simp) (by rw [hstage]; simp)
    split at h
    · cases h
    · cases h
      exact hs.of_stage hworker _
  · rename_i needs hstage
    have hworker := hs.worker_none (by rw [hstage]; simp) (by rw [hstage]; simp)
    split at h
    · cases h
    · cases h
      refine ⟨fun _ _ h => hs.past_note h, fun _ h => hs.held_note h,
        fun id hid entry hentry hstore => ?_, fun worker hw => ?_, fun worker hw => ?_,
        fun hw => absurd hworker hw⟩
      · -- the old guard was there until the new one
        exact (hs.cached id hid entry hentry hstore).note rfl
          (hcovering needs hstage id hid entry hentry hstore)
      · cases hworker.symm.trans hw
      · cases hworker.symm.trans hw
  · cases h

theorem takeSwap (hs : s.Sheltered) {ready : Bool} (h : s.perform (.takeSwap ready) = some next) :
    (s.note next).Sheltered := by
  simp only [perform] at h
  split at h
  · rename_i hstage
    have hworker := hs.worker_none (by rw [hstage]; simp) (by rw [hstage]; simp)
    split at h
    · cases h
      exact hs.finish_of_stage hworker
    · split at h
      · split at h
        · cases h
          exact hs.of_stage hworker _
        · split at h
          · cases h
            exact hs.cachePool hworker fun h => absurd rfl h
          · cases h
            exact hs.of_stage hworker _
      · cases h
        exact hs.finish_of_stage hworker
  · cases h

theorem checkRequirements (hs : s.Sheltered) (hworker : s.worker = none) {ready : Bool}
    {id : String} {phase : LookupPhase}
    (h : s.checkRequirements ready id store phase = some next) : (s.note next).Sheltered := by
  cases phase with
  | hasPool =>
    simp only [GuardedRoute.checkRequirements] at h
    split at h
    · cases h
      exact hs.of_stage hworker _
    · split at h <;> cases h <;> exact hs.of_stage hworker _
  | readiness =>
    simp only [GuardedRoute.checkRequirements] at h
    split at h
    · split at h <;> cases h <;> exact hs.noteFound hworker store _
    · cases h
      exact hs.finish_of_stage hworker
  | fetch => cases h

theorem loadPool (hs : s.Sheltered) (hworker : s.worker = none) {ready : Bool} {id : String}
    {phase : LookupPhase} (hcovers : phase = .fetch → ready = true → ∀ component,
      s.stores store id = some component → store ≠ .native →
        s.rebuildGuard.any (·.covers store) = true)
    (h : s.loadPool ready id store phase = some next) : (s.note next).Sheltered := by
  cases phase with
  | hasPool =>
    simp only [GuardedRoute.loadPool] at h
    split at h
    · cases h
      exact hs.of_stage hworker _
    · split at h
      · cases h
        exact hs.of_stage hworker _
      · cases h
        exact hs.finish_of_stage hworker
  | readiness =>
    simp only [GuardedRoute.loadPool] at h
    split at h
    · cases h
      exact hs.of_stage hworker _
    · cases h
      exact hs.finish_of_stage hworker
  | fetch =>
    simp only [GuardedRoute.loadPool] at h
    split at h
    · rename_i component hcomponent
      split at h
      · cases h
        exact hs.cachePool hworker (hcovers rfl ‹_› component hcomponent)
      · cases h
        exact hs.finish_of_stage hworker
    · cases h
      exact hs.finish_of_stage hworker

/-- A pool is looked up, in the cache or in a store. -/
theorem lookup (hs : s.Sheltered) {ready : Bool} (hcovering : s.Covering (.lookup ready))
    (h : s.perform (.lookup ready) = some next) : (s.note next).Sheltered := by
  simp only [perform] at h
  split at h
  · rename_i store phase id rest hstage htodo
    exact hs.checkRequirements (hs.worker_none (by rw [hstage]; simp) (by rw [hstage]; simp)) h
  · rename_i store phase id rest hstage htodo
    refine hs.loadPool (hs.worker_none (by rw [hstage]; simp) (by rw [hstage]; simp))
      (fun hphase hready component hcomponent hstore => ?_) h
    rw [hphase] at hstage
    exact hcovering hready store id component hstage (by rw [htodo]; rfl) hcomponent hstore
  · cases h

theorem spawn (hs : s.Sheltered) {ready : Bool} (h : s.perform (.spawn ready) = some next) :
    (s.note next).Sheltered := by
  simp only [perform] at h
  split at h
  · rename_i id rest hstage htodo
    have hworker := hs.worker_none (by rw [hstage]; simp) (by rw [hstage]; simp)
    split at h
    · rename_i entry hentry
      split at h
      · cases h
        have hid : id ∈ s.todo := by rw [htodo]; exact List.mem_cons_self
        refine ⟨fun _ _ h => hs.past_note h, fun _ h => hs.held_note h,
          fun other hother cached hcached hstore => ?_, fun worker hw hstore => ?_,
          fun worker hw _ => ?_, fun _ => .inl rfl⟩
        · have hcovered := hs.cached other hother cached hcached hstore
          have ⟨guard, hguard, hcovers, _⟩ := hcovered
          exact hcovered.note hguard hcovers
        · cases hw
          obtain ⟨guard, hguard, hcovers, hsince⟩ := hs.cached id hid entry hentry hstore
          exact ⟨hsince.note (holdsGate_of_guard hguard hcovers), .inr ⟨rfl, guard, hguard,
            hcovers⟩⟩
        · cases hw
          by_cases huses : entry.backend.usesRebuildGuard = true
          · exact .inr (if_pos huses)
          · exact .inl (if_neg huses)
      · cases h
        exact hs.finish_of_stage hworker
    · cases h
  · cases h

theorem workerDone (hs : s.Sheltered) (h : s.perform .workerDone = some next) :
    (s.note next).Sheltered := by
  simp only [perform] at h
  split at h
  · cases h
  · cases h
    refine ⟨fun _ _ h => hs.past_note h, fun _ h => hs.held_note h,
      fun id hid entry hentry hstore => ?_, (fun _ h => nomatch h), (fun _ h => nomatch h),
      fun h => absurd rfl h⟩
    have hcovered := hs.cached id hid entry hentry hstore
    have ⟨guard, hguard, hcovers, _⟩ := hcovered
    exact hcovered.note hguard hcovers

theorem resume (hs : s.Sheltered) {ready : Bool} (h : s.perform (.resume ready) = some next) :
    (s.note next).Sheltered := by
  simp only [perform] at h
  split at h
  · rename_i id rest hstage htodo hworker
    split at h
    · cases h
      refine hs.of_kept rfl rfl (fun h => absurd hworker h) fun other hother => ?_
      exact hs.cached other (by rw [htodo]; exact List.mem_cons_of_mem _ hother)
    · cases h
      exact hs.finish_of_stage hworker
  · cases h

/-- What the stores, the rebuilds and the other requests do leaves the request alone. -/
theorem of_environment (hs : s.Sheltered) (hguard : next.rebuildGuard = s.rebuildGuard)
    (hworker : next.worker = s.worker) (hstage : next.stage = s.stage)
    (htodo : next.todo = s.todo) (hcache : next.poolCache = s.poolCache) :
    (s.note next).Sheltered :=
  hs.of_kept hguard hworker (fun _ => hstage) fun id hid entry hentry =>
    hs.cached id (htodo ▸ hid) entry (hcache ▸ hentry)

/-- **A covering step keeps the invariant.** -/
theorem step (hs : s.Sheltered) {action : RouteAction} (hcovering : s.Covering action)
    (h : s.step action = some s') : s'.Sheltered := by
  rw [GuardedRoute.step] at h
  obtain ⟨next, hnext, rfl⟩ := Option.map_eq_some_iff.mp h
  cases action with
  | enter ready =>
    simp only [perform] at hnext
    split at hnext
    · rename_i hstage
      have hworker := hs.worker_none (by rw [hstage]; simp) (by rw [hstage]; simp)
      split at hnext
      · cases hnext
        exact hs.of_stage hworker _
      · cases hnext
        exact hs.finish_of_stage hworker
    · cases hnext
  | acquireGate => exact hs.acquireGate hcovering hnext
  | recheck ready =>
    simp only [perform] at hnext
    split at hnext
    · rename_i hstage
      have hworker := hs.worker_none (by rw [hstage]; simp) (by rw [hstage]; simp)
      split at hnext
      · cases hnext
        exact hs.of_stage hworker _
      · cases hnext
        exact hs.finish_of_stage hworker
    · cases hnext
  | takeSwap ready => exact hs.takeSwap hnext
  | lookup ready => exact hs.lookup hcovering hnext
  | spawn ready => exact hs.spawn hnext
  | workerDone => exact hs.workerDone hnext
  | resume ready => exact hs.resume hnext
  | dropRequest =>
    simp only [perform] at hnext
    split at hnext
    · cases hnext
    · cases hnext
      exact hs.finish hcovering
  | storeChange store pools | endRebuild store | otherRelease store =>
    cases hnext
    exact hs.of_environment rfl rfl rfl rfl rfl
  | beginRebuild store | otherAcquire store =>
    simp only [perform] at hnext
    split at hnext
    · cases hnext
    · cases hnext
      exact hs.of_environment rfl rfl rfl rfl rfl

end Sheltered

end GuardedRoute

/-! ## What a gate keeps out -/

/-- A gate the request or its worker holds is not with a rebuild. -/
def GuardedRoute.Excludes (s : GuardedRoute) : Prop :=
  ∀ store, s.holdsGate store = true → s.writer store = false

namespace GuardedRoute

variable {s next : GuardedRoute}

/-- A step that holds no gate it did not hold before, and lets no rebuild in. -/
theorem Excludes.of_le (hs : s.Excludes)
    (hgate : ∀ store, next.holdsGate store = true → s.holdsGate store = true)
    (hwriter : next.writer = s.writer) : next.Excludes := by
  intro store h
  rw [hwriter]
  exact hs store (hgate store h)

/-- A gate is held by the guard in hand or by the worker's. -/
theorem holdsGate_iff {store : PoolBackend} : s.holdsGate store = true ↔
    (∃ guard, s.rebuildGuard = some guard ∧ guard.covers store = true) ∨
    (∃ worker guard, s.worker = some worker ∧ worker.guard = some guard ∧
      guard.covers store = true) ∨
    ∃ needs, s.stage = .acquireRfq needs ∧ needs.vm = true ∧ store = .vm := by
  rw [holdsGate, Bool.or_eq_true, Bool.or_eq_true, Option.any_eq_true, Option.any_eq_true, or_assoc]
  refine or_congr Iff.rfl (or_congr ?_ ?_)
  · refine ⟨fun ⟨guard, h, hcovers⟩ => ?_, fun ⟨worker, guard, hworker, hguard, hcovers⟩ =>
      ⟨guard, by rw [hworker]; exact hguard, hcovers⟩⟩
    obtain ⟨worker, hworker, hguard⟩ := Option.bind_eq_some_iff.mp h
    exact ⟨worker, guard, hworker, hguard, hcovers⟩
  · cases hstage : s.stage <;> simp

theorem Excludes.of_stage (hs : s.Excludes) (hguard : next.rebuildGuard = s.rebuildGuard)
    (hworker : next.worker = s.worker) (hwriter : next.writer = s.writer)
    (hstage : ∀ needs, next.stage ≠ .acquireRfq needs) : next.Excludes := by
  refine hs.of_le (fun store h => ?_) hwriter
  rw [holdsGate_iff] at h ⊢
  rw [hguard, hworker] at h
  obtain h | h | ⟨needs, h, -⟩ := h
  · exact .inl h
  · exact .inr (.inl h)
  · exact absurd h (hstage needs)

theorem Excludes.finish (hs : s.Excludes) : s.finish.Excludes := by
  refine hs.of_le (fun store h => ?_) rfl
  rw [holdsGate_iff] at h ⊢
  obtain ⟨guard, h, -⟩ | h | ⟨needs, h, -⟩ := h
  · cases h
  · exact .inr (.inl h)
  · cases h

/-- A gate is acquired when no writer holds it. -/
theorem Excludes.acquireGate (hs : s.Excludes) (h : s.perform .acquireGate = some next) :
    next.Excludes := by
  simp only [perform] at h
  split at h
  · rename_i needs hstage
    split at h
    · cases h
    · rename_i hfree
      cases h
      intro store hgate
      obtain hmine | hmine | ⟨needs', hacquire, hneeds, rfl⟩ := holdsGate_iff.mp hgate
      · exact hs store (holdsGate_iff.mpr (.inl hmine))
      · exact hs store (holdsGate_iff.mpr (.inr (.inl hmine)))
      · cases hacquire
        simpa [hneeds] using hfree
  · rename_i needs hstage
    split at h
    · cases h
    · rename_i hfree
      cases h
      intro store hgate
      -- the VM gate was held while this one was awaited, and this one is free
      obtain ⟨guard, hguard, hcovers⟩ | hmine | ⟨needs', hacquire, -⟩ := holdsGate_iff.mp hgate
      · cases hguard
        cases store with
        | native => cases hcovers
        | vm => exact hs .vm (holdsGate_iff.mpr (.inr (.inr ⟨_, hstage, hcovers, rfl⟩)))
        | rfq =>
          have hneeds : needs.rfq = true := hcovers
          simpa [hneeds] using hfree
      · exact hs store (holdsGate_iff.mpr (.inr (.inl hmine)))
      · have hacquire : (if s.rebuildGuard = none then RouteStage.rechecking
            else .loading .native .hasPool) = .acquireRfq needs' := hacquire
        split at hacquire <;> cases hacquire
  · cases h

theorem Excludes.lookup (hs : s.Excludes) {ready : Bool}
    (h : s.perform (.lookup ready) = some next) : next.Excludes := by
  simp only [perform] at h
  split at h
  · rename_i store phase id rest _ _
    cases phase <;> simp only [checkRequirements] at h <;> repeat' split at h
    all_goals cases h
    all_goals first | exact hs.finish | exact hs.of_stage rfl rfl rfl (fun _ h => nomatch h)
  · rename_i store phase id rest _ _
    cases phase <;> simp only [loadPool] at h <;> repeat' split at h
    all_goals cases h
    all_goals first | exact hs.finish | exact hs.of_stage rfl rfl rfl (fun _ h => nomatch h)
  · cases h

theorem Excludes.spawn (hs : s.Excludes) {ready : Bool}
    (h : s.perform (.spawn ready) = some next) : next.Excludes := by
  simp only [perform] at h
  split at h
  · split at h
    · rename_i entry _
      split at h
      · cases h
        refine hs.of_le (fun store hgate => ?_) rfl
        rw [holdsGate_iff] at hgate ⊢
        obtain hmine | ⟨worker, guard, hworker, hguard, hcovers⟩ | ⟨needs, h, -⟩ := hgate
        · exact .inl hmine
        · cases hworker
          by_cases huses : entry.backend.usesRebuildGuard = true
          · exact .inl ⟨guard, (if_pos huses).symm.trans hguard, hcovers⟩
          · cases (if_neg huses).symm.trans hguard
        · cases h
      · cases h
        exact hs.finish
    · cases h
  · cases h

/-- **Every action** keeps writers out. -/
theorem Excludes.perform (hs : s.Excludes) {action : RouteAction}
    (h : s.perform action = some next) : next.Excludes := by
  cases action with
  | acquireGate => exact hs.acquireGate h
  | lookup ready => exact hs.lookup h
  | spawn ready => exact hs.spawn h
  | enter ready | recheck ready =>
    simp only [GuardedRoute.perform] at h
    split at h
    · split at h <;> cases h
      · exact hs.of_stage rfl rfl rfl (fun _ h => nomatch h)
      · exact hs.finish
    · cases h
  | takeSwap ready =>
    simp only [GuardedRoute.perform] at h
    repeat' split at h
    all_goals cases h
    all_goals first | exact hs.finish | exact hs.of_stage rfl rfl rfl (fun _ h => nomatch h)
  | workerDone =>
    simp only [GuardedRoute.perform] at h
    split at h <;> cases h
    refine hs.of_le (fun store hgate => ?_) rfl
    rw [holdsGate_iff] at hgate ⊢
    obtain hmine | ⟨worker, guard, hworker, -⟩ | hmine := hgate
    · exact .inl hmine
    · cases hworker
    · exact .inr (.inr hmine)
  | resume ready =>
    simp only [GuardedRoute.perform] at h
    split at h
    · split at h <;> cases h
      · exact hs.of_stage rfl rfl rfl (fun _ h => nomatch h)
      · exact hs.finish
    · cases h
  | dropRequest =>
    simp only [GuardedRoute.perform] at h
    split at h <;> cases h
    exact hs.finish
  | storeChange store pools | otherRelease store =>
    cases h
    exact hs.of_le (fun _ h => h) rfl
  | endRebuild store =>
    cases h
    intro other hgate
    by_cases heq : other = store
    · subst heq
      exact Function.update_self ..
    · exact (Function.update_of_ne heq ..).trans (hs other hgate)
  | beginRebuild store =>
    simp only [GuardedRoute.perform] at h
    split at h
    · cases h
    · rename_i hfree
      cases h
      intro other hgate
      -- a rebuild does not get a gate that is held
      have hne : other ≠ store := by
        intro heq
        subst heq
        have hgate : s.holdsGate other = true := hgate
        simp [hgate] at hfree
      exact (Function.update_of_ne hne ..).trans (hs other hgate)
  | otherAcquire store =>
    simp only [GuardedRoute.perform] at h
    split at h <;> cases h
    exact hs.of_le (fun _ h => h) rfl

end GuardedRoute

/-! ## Runs -/

/-- A rebuild never has a gate that the request or its worker holds. -/
theorem rebuild_excluded {s : GuardedRoute} (h : guardMachine.Reachable s) : s.Excludes :=
  h.invariant
    (fun s hinit => by
      obtain ⟨segments, stores, writer, otherReaders, nativePin, rfl⟩ := hinit
      intro store hgate
      simp [GuardedRoute.holdsGate, GuardedRoute.start] at hgate)
    (fun s s' hs hstep => by
      obtain ⟨action, hnext⟩ := hstep
      rw [GuardedRoute.step] at hnext
      obtain ⟨next, hperform, rfl⟩ := Option.map_eq_some_iff.mp hnext
      have hexcludes : next.Excludes := hs.perform hperform
      exact hexcludes)

end TychoSimulationServer
