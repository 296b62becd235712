import Mathlib.Logic.Relation
import Mathlib.Tactic.Common

/-!
# Transition systems

A machine has initial states and a step relation; interleavings of many parties are steps of one
machine. This module has the two rules the developments over it use: the invariant rule, where the
step may assume that its source is reachable, and simulation, which carries reachability from a
detailed machine to a coarser one.
-/

/-- A transition system on `σ`. -/
structure Machine (σ : Type) where
  /-- the states a run may start in -/
  init : σ → Prop
  /-- one step of a run -/
  step : σ → σ → Prop

namespace Machine

variable {σ τ : Type} {M : Machine σ} {N : Machine τ}

/-- Zero or more steps. -/
def Steps (M : Machine σ) : σ → σ → Prop :=
  Relation.ReflTransGen M.step

/-- The states of the runs that start in an initial state. -/
def Reachable (M : Machine σ) (s : σ) : Prop :=
  ∃ s₀, M.init s₀ ∧ M.Steps s₀ s

/-- A run goes on from where another one ends. -/
theorem Reachable.steps {s s' : σ} (h : M.Reachable s) (hsteps : M.Steps s s') :
    M.Reachable s' := by
  obtain ⟨s₀, hinit, hrun⟩ := h
  exact ⟨s₀, hinit, hrun.trans hsteps⟩

/-- A property kept by steps from states that have it is kept by runs. -/
theorem Steps.preserve {P : σ → Prop} (hstep : ∀ s s', P s → M.step s s' → P s') {s s' : σ}
    (h : M.Steps s s') (hs : P s) : P s' := by
  induction h with
  | refl => exact hs
  | tail _ hlast ih => exact hstep _ _ ih hlast

/-- **The invariant rule.** -/
theorem Reachable.invariant {P : σ → Prop} (hinit : ∀ s, M.init s → P s)
    (hstep : ∀ s s', P s → M.step s s' → P s') {s : σ} (h : M.Reachable s) : P s := by
  obtain ⟨s₀, h₀, hrun⟩ := h
  exact hrun.preserve hstep (hinit s₀ h₀)

/-- `f` maps every step of `M` to a run of `N`, and initial states to initial states. -/
structure Simulation (M : Machine σ) (N : Machine τ) (f : σ → τ) : Prop where
  init : ∀ s, M.init s → N.init (f s)
  step : ∀ s s', M.step s s' → N.Steps (f s) (f s')

theorem Simulation.steps {f : σ → τ} (hf : Simulation M N f) {s s' : σ} (h : M.Steps s s') :
    N.Steps (f s) (f s') := by
  induction h with
  | refl => exact .refl
  | tail _ hlast ih => exact ih.trans (hf.step _ _ hlast)

/-- **Simulation carries reachability** to the coarser machine. -/
theorem Simulation.reachable {f : σ → τ} (hf : Simulation M N f) {s : σ} (h : M.Reachable s) :
    N.Reachable (f s) := by
  obtain ⟨s₀, hinit, hrun⟩ := h
  exact ⟨f s₀, hf.init s₀ hinit, hf.steps hrun⟩

end Machine
