import TychoSimulationServer.QuoteCancellation
import TychoSimulationServer.SlippageLadder

/-!
# Rows are aligned with their request

A row of a quote is three lists side by side. They are filled one amount at a time, emptied when an
amount comes without a gas, left short when the token fires, and filled up with zeros in two places;
the slippages are computed in between, for as many outputs as there are at that time.

* **What is recorded** is the ladder up to the first cancelled amount, one entry each
  (`recordQuotes_entries`). A missing gas in this part leaves no entry that is positive.
* **What is filled up** is as long as the request, and only zeros are added (`padded_entries`).
* **The order of the threads** does not show: each writes to the slot of its amount
  (`quoteRequestedAmounts_eq`).
-/

namespace TychoSimulationServer

open Fallible

/-! ## The worker of a pool

The worker sanitises the limit, quotes the requested amounts on several threads, and adds
slippages. -/

/-- `SATURATION_THRESHOLD_BPS`. -/
def saturationThresholdBps : Nat := 9999

/-- `sanitize_limit_max_in`. -/
def sanitizeLimitMaxIn (amountsIn amountsOut : List Nat) (limitMaxIn limitMaxOut : Option Nat) :
    Option Nat :=
  limitMaxIn.map fun rawLimitMaxIn =>
    match limitMaxOut.filter (· ≠ 0) with
    | none => rawLimitMaxIn
    | some limitMaxOut =>
      match (amountsIn.zip amountsOut).find? fun quote =>
          limitMaxOut * saturationThresholdBps ≤ quote.2 * 10000 with
      | some observedCap => min rawLimitMaxIn observedCap.1
      | none => rawLimitMaxIn

/-- `PoolSimulationRunner`, with what its pool answers: an output and its gas for an amount, and the
limits on the input and the output. -/
structure PoolSimulationRunner where
  pool : PoolDescriptor
  slippage : SlippageConfig
  getAmountOut : Nat → Except String (Nat × Nat)
  getLimits : Option (Nat × Nat)

/-- How a worker comes to its amounts. More than one are shared out among threads, which take them
in some order, and the token can fire at any time, so that any of them may see it. -/
structure QuotingRun (amounts : List Nat) where
  order : List Nat
  complete : order.Perm (List.range amounts.length)
  preflightCancelled : Bool
  cancelledAt : Nat → Bool
  stressCancelledAt : Nat → Bool

namespace PoolSimulationRunner

/-- `get_amount_out`, unless the token is seen to have fired. -/
def tryAmount (runner : PoolSimulationRunner) (cancelled : Bool) (amountIn : Nat) : Rung :=
  if cancelled then .cancelled
  else match runner.getAmountOut amountIn with
    | .ok (amount, gas) => .amountOut amount gas
    | .error message => .error message

variable {amounts : List Nat}

/-- The quote of the amount in a slot. -/
def slotQuote (runner : PoolSimulationRunner) (quoting : QuotingRun amounts) (slot : Nat) :
    Option Rung :=
  amounts[slot]?.map (runner.tryAmount (quoting.cancelledAt slot))

/-- `quote_requested_amounts`. -/
def quoteRequestedAmounts (runner : PoolSimulationRunner) (quoting : QuotingRun amounts) :
    List Rung :=
  if amounts.length ≤ 1 then
    amounts.mapIdx fun slot => runner.tryAmount (quoting.cancelledAt slot)
  else
    (quoting.order.foldl (fun slots slot => slots.set slot (runner.slotQuote quoting slot))
      (List.replicate amounts.length none)).reduceOption

/-- `compute_local_stress_quote`, up to the check for zero. -/
def stressAnswer (runner : PoolSimulationRunner) (quoting : QuotingRun amounts) (slot : Nat) :
    Rung :=
  amounts[slot]?.elim .cancelled fun amountIn =>
    runner.tryAmount (quoting.stressCancelledAt slot) (amountIn + computeStressInput amountIn)

/-- `PoolSimulationRunner::run`; a panic is caught by the worker. -/
def behaviour (runner : PoolSimulationRunner) (checks : Bool) (quoting : QuotingRun amounts) :
    PoolBehaviour :=
  if quoting.preflightCancelled then .preflightCancelled
  else
    let limitMaxIn := runner.getLimits.map (·.1)
    let limitMaxOut := runner.getLimits.map (·.2)
    let ladder := runner.quoteRequestedAmounts quoting
    let run := recordQuotes .new (ladder.map quoteRequestedAmount)
    if 0 < run.successfulSteps then
      match computeLocalSlippageLadder checks runner.slippage amounts run.amountsOut limitMaxOut
          (runner.stressAnswer quoting) with
      | .error message => .workerPanicked message
      | .ok slippage =>
        .ran ladder slippage (sanitizeLimitMaxIn amounts run.amountsOut limitMaxIn limitMaxOut)
    else .ran ladder [] limitMaxIn

end PoolSimulationRunner

/-! ## Threads and their slots

Each thread writes the slots of its own amounts, so the slots hold what the amounts gave, in
whatever order the threads ran. -/

section

variable {α : Type}

/-- Slots written in some order. -/
theorem getElem?_foldl_set (write : Nat → α) (order : List Nat) (slots : List α) (i : Nat) :
    (order.foldl (fun slots slot => slots.set slot (write slot)) slots)[i]? =
      if i ∈ order ∧ i < slots.length then some (write i) else slots[i]? := by
  induction order generalizing slots with
  | nil => simp
  | cons slot order ih =>
    rw [List.foldl_cons, ih, List.length_set, List.getElem?_set]
    by_cases hslot : slot = i
    · subst hslot
      by_cases hlength : slot < slots.length
      · simp [hlength]
      · simp [hlength]
    · have hne : i ≠ slot := fun heq => hslot heq.symm
      simp [hslot, hne]

/-- **All slots written**, in whatever order. -/
theorem foldl_set_eq (write : Nat → α) {order : List Nat} {slots : List α}
    (h : order.Perm (List.range slots.length)) :
    order.foldl (fun slots slot => slots.set slot (write slot)) slots =
      (List.range slots.length).map write := by
  apply List.ext_getElem?
  intro i
  rw [getElem?_foldl_set, List.getElem?_map]
  by_cases hi : i < slots.length
  · rw [if_pos ⟨h.mem_iff.mpr (List.mem_range.mpr hi), hi⟩, List.getElem?_range hi, Option.map_some]
  · rw [if_neg (fun hboth => hi hboth.2)]
    simp [hi]

end

section

variable {amounts : List Nat} {runner : PoolSimulationRunner} {quoting : QuotingRun amounts}

/-- **One thread or many**: the quotes are in the order of their amounts. -/
theorem quoteRequestedAmounts_eq (runner : PoolSimulationRunner) (quoting : QuotingRun amounts) :
    runner.quoteRequestedAmounts quoting =
      amounts.mapIdx fun slot => runner.tryAmount (quoting.cancelledAt slot) := by
  rw [PoolSimulationRunner.quoteRequestedAmounts]
  split
  · rfl
  · have horder : quoting.order.Perm
        (List.range (List.replicate amounts.length (none : Option Rung)).length) := by
      rw [List.length_replicate]
      exact quoting.complete
    have hslots : (List.range amounts.length).map (runner.slotQuote quoting) =
        (amounts.mapIdx fun slot => runner.tryAmount (quoting.cancelledAt slot)).map some := by
      apply List.ext_getElem
      · simp
      · intro i hi _
        have hlt : i < amounts.length := by simpa using hi
        simp [PoolSimulationRunner.slotQuote, hlt]
    rw [foldl_set_eq _ horder, List.length_replicate, hslots]
    exact (List.filterMap_map ..).trans List.filterMap_some

/-- What became of an amount: it was cancelled, or it is what the pool answers. -/
def Tried (runner : PoolSimulationRunner) (amountIn : Nat) (rung : Rung) : Prop :=
  rung = .cancelled ∨ rung = runner.tryAmount false amountIn

theorem tried_tryAmount (runner : PoolSimulationRunner) (cancelled : Bool) (amountIn : Nat) :
    Tried runner amountIn (runner.tryAmount cancelled amountIn) := by
  cases cancelled with
  | false => exact .inr rfl
  | true => exact .inl rfl

/-- One quote for each amount. -/
theorem tried_quoteRequestedAmounts (runner : PoolSimulationRunner) (quoting : QuotingRun amounts) :
    List.Forall₂ (Tried runner) amounts (runner.quoteRequestedAmounts quoting) := by
  rw [quoteRequestedAmounts_eq, List.forall₂_iff_get]
  refine ⟨by simp, fun i hi hi' => ?_⟩
  simpa using tried_tryAmount runner (quoting.cancelledAt i) amounts[i]

end

/-! ## What is recorded

The rungs before a cancelled one are recorded, each as one amount and one gas. -/

/-- The part of a ladder before the first cancelled amount. -/
def beforeCancelled (ladder : List Rung) : List Rung :=
  ladder.takeWhile (· ≠ .cancelled)

@[simp] theorem beforeCancelled_nil : beforeCancelled [] = [] := rfl

/-- Nothing is recorded from a cancelled rung on. -/
@[simp] theorem beforeCancelled_cancelled (ladder : List Rung) :
    beforeCancelled (.cancelled :: ladder) = [] := by
  simp [beforeCancelled]

theorem beforeCancelled_cons {rung : Rung} (h : rung ≠ .cancelled) (ladder : List Rung) :
    beforeCancelled (rung :: ladder) = rung :: beforeCancelled ladder :=
  List.takeWhile_cons_of_pos (decide_eq_true h)

/-- The output and the gas that an amount records. -/
def rungEntry : Rung → Nat × Nat
  | .amountOut amount gas => if amount = 0 then (0, 0) else (amount, gas)
  | .cancelled | .error _ => (0, 0)

/-- A missing gas before the first cancelled amount is recorded. -/
theorem gasless_recorded {ladder : List Rung} (h : ∃ rung ∈ beforeCancelled ladder, rung.Gasless) :
    ∃ rung ∈ recordedRungs ladder, rung.Gasless := by
  induction ladder with
  | nil => simp at h
  | cons rung ladder ih =>
    cases rung with
    | cancelled => simp at h
    | error message =>
      rw [beforeCancelled_cons (by simp), List.exists_mem_cons_iff] at h
      rw [recordedRungs, List.exists_mem_cons_iff]
      exact h.imp_right ih
    | amountOut amount gas =>
      rw [beforeCancelled_cons (by simp), List.exists_mem_cons_iff] at h
      rw [recordedRungs, List.exists_mem_cons_iff]
      by_cases hgas : gas < 2 ^ 64
      · rw [if_pos hgas]
        exact h.imp_right ih
      · exact .inl hgas

/-- An amount with a gas or an error records its entry, and the loop goes on. -/
theorem recordAmountQuote_entry (run : PoolQuoteAccumulator) {rung : Rung}
    (hcancelled : rung ≠ .cancelled) (hgas : ¬rung.Gasless) :
    (recordAmountQuote run (quoteRequestedAmount rung)).2 = false ∧
      (recordAmountQuote run (quoteRequestedAmount rung)).1.amountsOut =
        run.amountsOut ++ [(rungEntry rung).1] ∧
      (recordAmountQuote run (quoteRequestedAmount rung)).1.gasUsed =
        run.gasUsed ++ [(rungEntry rung).2] := by
  cases rung with
  | cancelled => exact absurd rfl hcancelled
  | error message => exact ⟨rfl, rfl, rfl⟩
  | amountOut amount gas =>
    rw [quoteRequestedAmount, if_pos (not_not.mp hgas), recordAmountQuote, rungEntry]
    split <;> exact ⟨rfl, rfl, rfl⟩

/-- **The entries** of a ladder without a missing gas are those of its part before the first
cancelled amount. -/
theorem recordQuotes_entries {ladder : List Rung} (run : PoolQuoteAccumulator)
    (h : ∀ rung ∈ beforeCancelled ladder, ¬rung.Gasless) :
    (recordQuotes run (ladder.map quoteRequestedAmount)).amountsOut =
        run.amountsOut ++ (beforeCancelled ladder).map (fun rung => (rungEntry rung).1) ∧
      (recordQuotes run (ladder.map quoteRequestedAmount)).gasUsed =
        run.gasUsed ++ (beforeCancelled ladder).map (fun rung => (rungEntry rung).2) := by
  induction ladder generalizing run with
  | nil => simp [recordQuotes]
  | cons rung ladder ih =>
    rw [List.map_cons, recordQuotes_cons]
    by_cases hcancelled : rung = .cancelled
    · subst hcancelled
      simp [quoteRequestedAmount, recordAmountQuote]
    · rw [beforeCancelled_cons hcancelled, List.forall_mem_cons] at h
      obtain ⟨hgoes, hamount, hgas⟩ := recordAmountQuote_entry run hcancelled h.1
      obtain ⟨hamounts, hgases⟩ := ih (recordAmountQuote run (quoteRequestedAmount rung)).1 h.2
      rw [hgoes, if_neg Bool.false_ne_true, hamounts, hgases, hamount, hgas,
        beforeCancelled_cons hcancelled]
      simp

/-! ## What the slippages are of -/

/-- Nothing out, nothing charged. -/
def ZeroWith (amountOut entry : Nat) : Prop := amountOut = 0 → entry = 0

theorem rungSlippage_zeroWith {checks : Bool} {config : SlippageConfig}
    {amounts amountsOut : List Nat} {limitMaxOut : Option Nat} {stress : Nat → Rung}
    {rung : Nat × Nat} {bps : Nat}
    (h : rungSlippage checks config amounts amountsOut limitMaxOut stress rung = .ok bps) :
    ZeroWith rung.1 bps := by
  intro hzero
  obtain ⟨amountOut, index⟩ := rung
  simp only [rungSlippage] at h
  split at h
  · exact (Except.ok.inj h).symm
  · rw [if_pos hzero] at h
    exact (Except.ok.inj h).symm

theorem enforceFrom_zeroWith {amountsOut values : List Nat} (runningMax : Nat)
    (h : List.Forall₂ ZeroWith amountsOut values) :
    List.Forall₂ ZeroWith amountsOut (enforceFrom runningMax amountsOut values) := by
  induction h generalizing runningMax with
  | nil => exact .nil
  | cons hzero _ ih =>
    rw [enforceFrom]
    split
    case isTrue => exact .cons hzero (ih runningMax)
    case isFalse hpositive => exact .cons (fun h => absurd h hpositive) (ih _)

/-- A ladder has a slippage for each output, in either build. -/
theorem slippageLadder_zeroWith {checks : Bool} {config : SlippageConfig}
    {amounts amountsOut ladder : List Nat} {limitMaxOut : Option Nat} {stress : Nat → Rung}
    (h : computeLocalSlippageLadder checks config amounts amountsOut limitMaxOut stress =
      .ok ladder) : List.Forall₂ ZeroWith amountsOut ladder := by
  obtain ⟨values, hvalues, h⟩ := bind_eq_ok.mp h
  obtain rfl := pure_eq_ok.mp h
  apply enforceFrom_zeroWith
  have hrungs := (mapM_eq_ok.mp hvalues).imp fun _ _ => rungSlippage_zeroWith
  rw [← List.forall₂_map_left_iff, List.zipIdx_map_fst] at hrungs
  exact hrungs

/-! ## Rows

The lists of a row have one entry for each requested amount, and entry by entry they answer that
amount. -/

/-- An entry of a row is what the pool answers to its amount, or nothing. -/
def Answers (runner : PoolSimulationRunner) (amountIn : Nat) (entry : Nat × Nat) : Prop :=
  entry = (0, 0) ∨ entry.1 ≠ 0 ∧ entry.2 < 2 ^ 64 ∧ runner.getAmountOut amountIn = .ok entry

/-- A row is aligned with its request. -/
structure RowAligned (runner : PoolSimulationRunner) (amounts : List Nat) (row : AmountOutResponse) :
    Prop where
  amountsOut_length : row.amountsOut.length = amounts.length
  gasUsed_length : row.gasUsed.length = amounts.length
  slippage_length : row.slippage.length = amounts.length
  entries : List.Forall₂ (Answers runner) amounts (row.amountsOut.zip row.gasUsed)
  slippages : List.Forall₂ ZeroWith row.amountsOut row.slippage
  positive : ∃ amountOut ∈ row.amountsOut, amountOut ≠ 0

section

variable {amounts : List Nat} {runner : PoolSimulationRunner}

theorem answers_zeros (runner : PoolSimulationRunner) (amounts : List Nat) :
    List.Forall₂ (Answers runner) amounts (List.replicate amounts.length (0, 0)) := by
  induction amounts with
  | nil => exact .nil
  | cons amountIn amounts ih => exact .cons (.inl rfl) ih

/-- The entry of an amount with a gas or an error. -/
theorem answers_rungEntry {amountIn : Nat} {rung : Rung} (htried : Tried runner amountIn rung)
    (hcancelled : rung ≠ .cancelled) (hgas : ¬rung.Gasless) :
    Answers runner amountIn (rungEntry rung) := by
  obtain rfl := htried.resolve_left hcancelled
  rw [PoolSimulationRunner.tryAmount, if_neg Bool.false_ne_true] at hgas ⊢
  split at hgas
  case h_1 amount gas hanswer =>
    rw [rungEntry]
    split
    · exact .inl rfl
    · rename_i hpositive
      exact .inr ⟨hpositive, not_not.mp hgas, hanswer⟩
  case h_2 => exact .inl rfl

/-- **The entries, filled up**, are answers to the amounts. -/
theorem answers_entries {ladder : List Rung} (htried : List.Forall₂ (Tried runner) amounts ladder)
    (hgas : ∀ rung ∈ beforeCancelled ladder, ¬rung.Gasless) :
    List.Forall₂ (Answers runner) amounts ((beforeCancelled ladder).map rungEntry ++
      List.replicate (amounts.length - (beforeCancelled ladder).length) (0, 0)) := by
  induction htried with
  | nil => exact .nil
  | @cons amountIn rung amounts ladder hone _ ih =>
    by_cases hcancelled : rung = .cancelled
    · subst hcancelled
      rw [beforeCancelled_cancelled]
      exact answers_zeros runner (amountIn :: amounts)
    · rw [beforeCancelled_cons hcancelled] at hgas ⊢
      obtain ⟨hfirst, hrest⟩ := List.forall_mem_cons.mp hgas
      rw [List.map_cons, List.length_cons, List.length_cons, Nat.add_sub_add_right]
      exact .cons (answers_rungEntry hone hcancelled hfirst) (ih hrest)

/-- What is as long as the request is not filled up again. -/
theorem filledResult_of_length {expectedLen : Nat} {result : PoolQuoteResult}
    (h : result.amountsOut.length = expectedLen) : filledResult expectedLen result = result := by
  have hfilling : expectedLen - result.amountsOut.length = 0 := by omega
  rw [filledResult]
  split
  · rw [padded, hfilling, List.replicate_zero, List.append_nil, List.append_nil]
  · rfl

theorem length_beforeCancelled_le (ladder : List Rung) :
    (beforeCancelled ladder).length ≤ ladder.length :=
  (List.takeWhile_prefix _).length_le

theorem forall₂_zeros {xs ys : List Nat} (k : Nat) (h : List.Forall₂ ZeroWith xs ys) :
    List.Forall₂ ZeroWith (xs ++ List.replicate k 0) (ys ++ List.replicate k 0) := by
  refine List.rel_append h ?_
  rw [List.forall₂_iff_get]
  exact ⟨rfl, fun i _ _ => by simp [ZeroWith]⟩

/-- **A row of a ladder that ran**: the recorded part, filled up. -/
theorem taskResponse_ran {pool : PoolDescriptor} {blockNumber expectedLen : Nat}
    {ladder : List Rung} {slippage : List Nat} {limitMaxIn : Option Nat} {row : AmountOutResponse}
    (hladder : ladder.length = expectedLen)
    (h : taskResponse blockNumber expectedLen
      (simulatePool pool expectedLen (.ran ladder slippage limitMaxIn)) = some row) :
      let recorded := (beforeCancelled ladder).map rungEntry
    let filling := List.replicate (expectedLen - (beforeCancelled ladder).length) 0
    (∀ rung ∈ beforeCancelled ladder, ¬rung.Gasless) ∧
      0 < (recordQuotes .new (ladder.map quoteRequestedAmount)).successfulSteps ∧
      (recordQuotes .new (ladder.map quoteRequestedAmount)).amountsOut = recorded.map (·.1) ∧
      row.amountsOut = recorded.map (·.1) ++ filling ∧
      row.gasUsed = recorded.map (·.2) ++ filling ∧ row.slippage = slippage ++ filling := by
  intro recorded filling
  obtain ⟨result, hresult⟩ : ∃ result, simulatePool pool expectedLen
    (.ran ladder slippage limitMaxIn) = .ok result := ⟨_, rfl⟩
  have hconsistent := simulatePool_consistent (by exact hladder) hresult
  rw [hresult] at h
  have husable := (taskResponse_ok h).1
  rw [usable_iff hconsistent.filled, filledResult_successfulSteps] at husable
  obtain ⟨hpositive, hrecorded⟩ := (simulatePool_ran hresult).2.mp husable
  -- a gasless rung that is recorded makes the whole row unusable
  have hgas : ∀ rung ∈ beforeCancelled ladder, ¬rung.Gasless := by
    intro rung hrung hgasless
    obtain ⟨recorded, hmem, hmissing⟩ := gasless_recorded ⟨rung, hrung, hgasless⟩
    exact hrecorded recorded hmem hmissing
  have hsteps : 0 < (recordQuotes .new (ladder.map quoteRequestedAmount)).successfulSteps :=
    (recordQuotes_steps ladder .new).mpr ⟨.inr hpositive, hrecorded⟩
  obtain ⟨hamounts, hgases⟩ := recordQuotes_entries .new hgas
  have hlength : (recordQuotes .new (ladder.map quoteRequestedAmount)).amountsOut.length =
      (beforeCancelled ladder).length := by
    rw [hamounts]
    simp [PoolQuoteAccumulator.new]
  have hle : (beforeCancelled ladder).length ≤ expectedLen :=
    (length_beforeCancelled_le ladder).trans hladder.le
  obtain rfl := Except.ok.inj hresult
  rw [finishQuoteAmounts, if_pos hsteps] at h
  simp only [taskResponse, Option.ite_none_right_eq_some, Option.some.injEq] at h
  -- the lists are padded already, so filling them changes nothing
  rw [filledResult_of_length (length_padded (hlength.le.trans hle))] at h
  obtain ⟨-, rfl⟩ := h
  have hrun : (recordQuotes .new (ladder.map quoteRequestedAmount)).amountsOut =
      recorded.map (·.1) := by
    rw [hamounts, List.map_map]
    rfl
  refine ⟨hgas, hsteps, hrun, ?_, ?_, ?_⟩
  · rw [padded, hlength, hrun]
  · rw [hlength, hgases, List.map_map]
    rfl
  · rw [hlength]

/-- The recorded steps are the positive outputs of the row, and there is one. -/
theorem taskResponse_steps {blockNumber expectedLen : Nat} {result : PoolQuoteResult}
    {row : AmountOutResponse} (hresult : result.Consistent expectedLen)
    (h : taskResponse blockNumber expectedLen (.ok result) = some row) :
    result.successfulSteps = positiveSteps row.amountsOut ∧
      ∃ amountOut ∈ row.amountsOut, amountOut ≠ 0 := by
  obtain ⟨husable, hamounts⟩ := taskResponse_ok h
  rw [hamounts, ← hresult.filled.successful, filledResult_successfulSteps]
  refine ⟨rfl, ?_⟩
  simpa [amountsOutIncludePositiveQuote] using husable

/-! ## Requests -/

/-- A pool of a request, and how its worker comes to the amounts. -/
structure PoolRun (amounts : List Nat) where
  runner : PoolSimulationRunner
  quoting : QuotingRun amounts

namespace PoolRun

/-- What became of each amount. -/
def ladder (run : PoolRun amounts) : List Rung := run.runner.quoteRequestedAmounts run.quoting

/-- The pool as a candidate. -/
def candidate (checks : Bool) (run : PoolRun amounts) : QuoteCandidate :=
  { pool := run.runner.pool, behaviour := run.runner.behaviour checks run.quoting }

/-- The row that is emitted for the pool. -/
def row (run : PoolRun amounts) (checks : Bool) (blockNumber : Nat) : Option AmountOutResponse :=
  taskResponse blockNumber amounts.length ((run.candidate checks).outcome amounts.length)

/-- **The worker of a pool with a row** ran to the end: no gas is missing before the first cancelled
amount, and the slippages are those of the recorded outputs. -/
theorem ran_of_row {run : PoolRun amounts} {checks : Bool} {blockNumber : Nat}
    {row : AmountOutResponse} (h : run.row checks blockNumber = some row) :
    ∃ slippage limitMaxIn, run.runner.behaviour checks run.quoting =
        .ran run.ladder slippage limitMaxIn ∧
      (0 < (recordQuotes .new (run.ladder.map quoteRequestedAmount)).successfulSteps →
        List.Forall₂ ZeroWith
          (recordQuotes .new (run.ladder.map quoteRequestedAmount)).amountsOut slippage) := by
  rw [PoolRun.row, QuoteCandidate.outcome, candidate] at h
  simp only [PoolSimulationRunner.behaviour] at h ⊢
  split at h
  case isTrue => cases h
  case isFalse hpreflight =>
    rw [if_neg hpreflight]
    split at h
    case isTrue hsteps =>
      rw [if_pos hsteps]
      split at h
      case h_1 => cases h
      case h_2 slippage hslippage =>
        exact ⟨slippage, _, rfl, fun _ => slippageLadder_zeroWith hslippage⟩
    case isFalse hsteps =>
      rw [if_neg hsteps]
      exact ⟨[], _, rfl, fun hpositive => absurd hpositive hsteps⟩

theorem length_ladder (run : PoolRun amounts) : run.ladder.length = amounts.length :=
  (tried_quoteRequestedAmounts run.runner run.quoting).length_eq.symm

/-- **A row is aligned**, its pool has a missing gas at most behind a cancelled amount, and as many
steps are recorded as outputs are positive. -/
theorem aligned_of_row {run : PoolRun amounts} {checks : Bool} {blockNumber : Nat}
    {row : AmountOutResponse} (h : run.row checks blockNumber = some row) :
    RowAligned run.runner amounts row ∧ (∀ rung ∈ beforeCancelled run.ladder, ¬rung.Gasless) ∧
      ∃ result, (run.candidate checks).outcome amounts.length = .ok result ∧
        result.successfulSteps = positiveSteps row.amountsOut := by
  obtain ⟨slippage, limitMaxIn, hbehaviour, hslippage⟩ := ran_of_row h
  have hladder : (run.candidate checks).behaviour.LadderOf amounts.length := by
    rw [candidate, hbehaviour]
    exact run.length_ladder
  obtain ⟨result, hresult⟩ : ∃ result, (run.candidate checks).outcome amounts.length =
      .ok result := by
    rw [QuoteCandidate.outcome, candidate, hbehaviour]
    exact ⟨_, rfl⟩
  have hrow := h
  rw [PoolRun.row, hresult] at hrow
  obtain ⟨hsuccessful, hpositive⟩ := taskResponse_steps (simulatePool_consistent hladder hresult) hrow
  rw [PoolRun.row, QuoteCandidate.outcome, candidate, hbehaviour] at h
  obtain ⟨hgas, hsteps, hrun, hamounts, hgases, hslippages⟩ := taskResponse_ran run.length_ladder h
  have hle := length_beforeCancelled_le run.ladder
  rw [run.length_ladder] at hle
  -- without a gasless rung every amount is followed by its own gas
  have hentries := answers_entries (tried_quoteRequestedAmounts run.runner run.quoting) hgas
  have hzeros := hslippage hsteps
  rw [hrun] at hzeros
  have hlength := hzeros.length_eq
  rw [List.length_map, List.length_map] at hlength
  refine ⟨⟨?_, ?_, ?_, ?entries, ?_, hpositive⟩, hgas, result, hresult, hsuccessful⟩
  · rw [hamounts]
    simp
    omega
  · rw [hgases]
    simp
    omega
  · rw [hslippages]
    simp
    omega
  case entries =>
    rw [hamounts, hgases, List.zip_append (by simp), List.zip_map', List.zip_replicate', List.map_id']
    exact hentries
  · rw [hamounts, hslippages]
    exact forall₂_zeros _ hzeros

end PoolRun

/-- **Every row of a quote is aligned with the request**, whatever the pools answer, in whatever
order the threads come to the amounts and whenever the token fires; a pool with a missing gas before
the first cancelled amount has no row. -/
theorem returned_rows_aligned (checks : Bool) (blockNumber : Nat) (runs : List (PoolRun amounts))
    (schedule : QuoteSchedule (runs.map (PoolRun.candidate checks))) :
    (∀ row ∈ (quoteComputation blockNumber amounts.length _ schedule).responses,
      ∃ run ∈ runs, run.row checks blockNumber = some row) ∧
    ∀ run ∈ runs,
      (∀ row, run.row checks blockNumber = some row → RowAligned run.runner amounts row ∧
        ∃ result, (run.candidate checks).outcome amounts.length = .ok result ∧
          result.successfulSteps = positiveSteps row.amountsOut) ∧
      ((∃ rung ∈ beforeCancelled run.ladder, rung.Gasless) →
        run.row checks blockNumber = none) := by
  refine ⟨fun row hrow => ?_, fun run _ => ⟨fun row hrow => ?_, fun ⟨rung, hrung, hgasless⟩ => ?_⟩⟩
  · obtain ⟨i, -, candidate, hget, hresponse⟩ := mem_responses.mp hrow
    obtain ⟨run, hrun, rfl⟩ := List.mem_map.mp (List.mem_of_getElem? hget)
    exact ⟨run, hrun, hresponse⟩
  · obtain ⟨haligned, -, hsteps⟩ := PoolRun.aligned_of_row hrow
    exact ⟨haligned, hsteps⟩
  · by_contra hrow
    obtain ⟨row, hrow⟩ := Option.ne_none_iff_exists'.mp hrow
    exact (PoolRun.aligned_of_row hrow).2.1 rung hrung hgasless

end

/-- A pool that quotes one amount, then nothing, then fails; threads come to the amounts in another
order, and the last one sees the token. -/
def mixedRun : PoolRun [1, 2, 3, 4] :=
  { runner :=
      { pool := { id := "p", name := "pool", address := "0xa", protocol := "uniswap_v2" }
        slippage := .default
        getAmountOut := fun amountIn =>
          match amountIn with
          | 1 => .ok (100, 21)
          | 2 => .ok (0, 22)
          | _ => .error "no route"
        getLimits := none }
    quoting :=
      { order := [2, 0, 3, 1], complete := by decide, preflightCancelled := false
        cancelledAt := fun slot => slot = 3, stressCancelledAt := fun _ => false } }

/-- The row of that pool. -/
def mixedRow : AmountOutResponse :=
  { pool := "p", poolName := "pool", poolAddress := "0xa", amountsOut := [100, 0, 0, 0]
    slippage := [1, 0, 0, 0], limitMaxIn := none, gasUsed := [21, 0, 0, 0], blockNumber := 7 }

/-- A pool that answers the first amount, gives nothing for the second, fails at the third and is
cancelled at the last. -/
theorem returned_rows_aligned_mixed : mixedRun.row true 7 = some mixedRow ∧
    RowAligned mixedRun.runner [1, 2, 3, 4] mixedRow := by
  have hrow : mixedRun.row true 7 = some mixedRow := by decide +kernel
  let schedule : QuoteSchedule ([mixedRun].map (PoolRun.candidate true)) :=
    { scheduled := 1, completed := [0], scheduled_le := by decide, completed_lt := by decide
      nodup := by decide, stopped := by decide }
  refine ⟨hrow, ?_⟩
  exact (((returned_rows_aligned true 7 [mixedRun] schedule).2 mixedRun (by simp)).1 mixedRow hrow).1

end TychoSimulationServer
