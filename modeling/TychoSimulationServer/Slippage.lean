import TychoSimulationServer.QuoteVerdict
import TychoSimulationServer.RoundDiv

/-!
# The slippage of a quote

A pool answers each requested amount with an output, and the quote attaches a slippage to it, in
basis points: a part that grows with the use of the pool, a part for how much the rate falls under
stress, a floor near the limit of the pool, and a penalty for how much the rate has fallen since the
first rung of the ladder.

The terms are natural numbers, as `BigUint` is, and are narrowed to `u32` before they are put
together. What `u32` arithmetic does with a result that does not fit depends on the build: with
overflow checks it panics, without them it wraps around. `checks` tells the two builds apart.
-/

namespace TychoSimulationServer

open Fallible RoundDiv

/-! ## Machine integers

The arithmetic is on `u32`: with overflow checks a result that does not fit panics, without them it
wraps. -/

/-- A `u32` result, with the message of the panic for one that does not fit. -/
def u32Result (checks : Bool) (panic : String) (n : Nat) : Except String Nat :=
  if n < 2 ^ 32 then .ok n else if checks then .error panic else .ok (n % 2 ^ 32)

/-- `+` on `u32`. -/
def u32Add (checks : Bool) (a b : Nat) : Except String Nat :=
  u32Result checks "attempt to add with overflow" (a + b)

/-- `*` on `u32`. -/
def u32Mul (checks : Bool) (a b : Nat) : Except String Nat :=
  u32Result checks "attempt to multiply with overflow" (a * b)

/-- `-` on `u32`. -/
def u32Sub (checks : Bool) (a b : Nat) : Except String Nat :=
  if b ≤ a then .ok (a - b)
  else if checks then .error "attempt to subtract with overflow" else .ok (2 ^ 32 + a - b)

/-- `to_u32` with a fallback. -/
def toU32Or (n fallback : Nat) : Nat := if n < 2 ^ 32 then n else fallback

/-- `clamp`. -/
def clampBps (n low high : Nat) : Nat := if n < low then low else if high < n then high else n

/-! ## Configuration -/

/-- `SlippageConfig`. -/
structure SlippageConfig where
  minDynamicSlippageBps : UInt32
  maxDynamicSlippageBps : UInt32
  utilizationCoefficientBps : UInt32
  sensitivityCoefficientBps : UInt32
  softLadderUtilizationCapBps : UInt32
  cumulativeDegradationCoefficientBps : UInt32
  saturationRampStartSlippageBps : UInt32
deriving DecidableEq, Repr

/-- `SlippageConfig::default`. -/
def SlippageConfig.default : SlippageConfig :=
  { minDynamicSlippageBps := 1, maxDynamicSlippageBps := 200, utilizationCoefficientBps := 60
    sensitivityCoefficientBps := 2500, softLadderUtilizationCapBps := 3500
    cumulativeDegradationCoefficientBps := 300, saturationRampStartSlippageBps := 45 }

/-- What `load_slippage_config` asserts. -/
structure SlippageConfig.Accepted (config : SlippageConfig) : Prop where
  min_le_max : config.minDynamicSlippageBps ≤ config.maxDynamicSlippageBps
  rampStart_le_max : config.saturationRampStartSlippageBps ≤ config.maxDynamicSlippageBps

/-- `load_slippage_config`, with the parsed variables of the environment. -/
def loadSlippageConfig (env : String → Option UInt32) : Except String SlippageConfig := do
  let defaults := SlippageConfig.default
  let config : SlippageConfig :=
    { minDynamicSlippageBps :=
        (env "MIN_DYNAMIC_SLIPPAGE_BPS").getD defaults.minDynamicSlippageBps
      maxDynamicSlippageBps :=
        (env "MAX_DYNAMIC_SLIPPAGE_BPS").getD defaults.maxDynamicSlippageBps
      utilizationCoefficientBps :=
        (env "UTILIZATION_COEFFICIENT_BPS").getD defaults.utilizationCoefficientBps
      sensitivityCoefficientBps :=
        (env "SENSITIVITY_COEFFICIENT_BPS").getD defaults.sensitivityCoefficientBps
      softLadderUtilizationCapBps :=
        (env "SOFT_LADDER_UTILIZATION_CAP_BPS").getD defaults.softLadderUtilizationCapBps
      cumulativeDegradationCoefficientBps :=
        (env "CUMULATIVE_DEGRADATION_COEFFICIENT_BPS").getD
          defaults.cumulativeDegradationCoefficientBps
      saturationRampStartSlippageBps :=
        (env "SATURATION_RAMP_START_SLIPPAGE_BPS").getD defaults.saturationRampStartSlippageBps }
  ensure (config.minDynamicSlippageBps ≤ config.maxDynamicSlippageBps)
    "slippage min must be <= max"
  ensure (config.saturationRampStartSlippageBps ≤ config.maxDynamicSlippageBps)
    "saturation ramp start slippage must be <= slippage max"
  return config

/-- A configuration that is loaded has passed the checks. -/
theorem accepted_of_load {env : String → Option UInt32} {config : SlippageConfig}
    (h : loadSlippageConfig env = .ok config) : config.Accepted := by
  rw [loadSlippageConfig, check_bind_eq_ok, check_bind_eq_ok, ensure_eq_ok, ensure_eq_ok,
    pure_eq_ok] at h
  obtain ⟨hmin, hramp, rfl⟩ := h
  exact ⟨hmin, hramp⟩

/-- The defaults pass their own assertions. -/
theorem accepted_default : SlippageConfig.default.Accepted := ⟨by decide, by decide⟩

/-! ## Terms

A slippage is a sum of terms in hundredths of a basis point, with a floor that rises with the
utilisation, and is clamped in the end. -/

/-- `SLIPPAGE_SCALE`. -/
def slippageScale : Nat := 1000000

/-- `SATURATION_RAMP_START_UTILIZATION_BPS`. -/
def saturationRampStartUtilizationBps : Nat := 9500

/-- `SATURATION_MAX_UTILIZATION_BPS`. -/
def saturationMaxUtilizationBps : Nat := 9990

/-- `SOFT_LADDER_ACTIVATION_DEGRADATION_BPS`. -/
def softLadderActivationDegradationBps : Nat := 10

/-- `effective_output_utilization_scaled`. -/
def effectiveOutputUtilizationScaled (amountOut : Nat) (limitMaxOut softLadderMaxOut : Option Nat)
    (slippage : SlippageConfig) : Nat :=
  let hard := ((limitMaxOut.filter (· ≠ 0)).map fun maxOut =>
    roundDiv (amountOut * slippageScale) maxOut).getD 0
  let soft := ((softLadderMaxOut.filter (· ≠ 0)).map fun maxOut =>
    roundDiv (amountOut * slippage.softLadderUtilizationCapBps.toNat * slippageScale)
      (maxOut * 10000)).getD 0
  min (max hard soft) slippageScale

/-- `utilization_term_scaled`. -/
def utilizationTermScaled (utilizationScaled : Nat) (slippage : SlippageConfig) : Nat :=
  roundDiv (slippage.utilizationCoefficientBps.toNat * utilizationScaled * utilizationScaled)
    slippageScale

/-- `sensitivity_term_scaled`. -/
def sensitivityTermScaled (amountIn amountOut stressedAmountIn stressedAmountOut : Nat)
    (slippage : SlippageConfig) : Nat :=
  let currentRateNumerator := amountOut * stressedAmountIn
  let stressedRateNumerator := stressedAmountOut * amountIn
  if currentRateNumerator ≤ stressedRateNumerator then 0
  else roundDiv ((currentRateNumerator - stressedRateNumerator) *
    slippage.sensitivityCoefficientBps.toNat * slippageScale) currentRateNumerator

/-- `saturation_slippage_floor_bps`. -/
def saturationSlippageFloorBps (checks : Bool) (amountOut : Nat) (limitMaxOut : Option Nat)
    (slippage : SlippageConfig) : Except String (Option Nat) :=
  match limitMaxOut.filter (· ≠ 0) with
  | none => .ok none
  | some limitMaxOut =>
    let utilizationBps := min (toU32Or (roundDiv (amountOut * 10000) limitMaxOut) 10000) 10000
    if saturationMaxUtilizationBps ≤ utilizationBps then
      .ok (some slippage.maxDynamicSlippageBps.toNat)
    else if utilizationBps ≤ saturationRampStartUtilizationBps then .ok none
    else do
      let rampProgress := utilizationBps - saturationRampStartUtilizationBps
      let rampWidth := saturationMaxUtilizationBps - saturationRampStartUtilizationBps
      let rampSpan ← u32Sub checks slippage.maxDynamicSlippageBps.toNat
        slippage.saturationRampStartSlippageBps.toNat
      let scaled ← u32Mul checks rampSpan rampProgress
      let rounded ← u32Add checks scaled (rampWidth / 2)
      let floor ← u32Add checks slippage.saturationRampStartSlippageBps.toNat (rounded / rampWidth)
      return some floor

/-- The sensitivity term, for a stress quote that is there and not zero. -/
def stressTermScaled (amountIn amountOut : Nat) (stressedAmountIn stressedAmountOut : Option Nat)
    (slippage : SlippageConfig) : Nat :=
  match stressedAmountIn, stressedAmountOut with
  | some stressedAmountIn, some stressedAmountOut =>
    if stressedAmountIn ≠ 0 ∧ stressedAmountOut ≠ 0 then
      sensitivityTermScaled amountIn amountOut stressedAmountIn stressedAmountOut slippage
    else 0
  | _, _ => 0

/-- The sum of the terms of `compute_dynamic_slippage_bps`. -/
def totalScaled (amountIn amountOut : Nat)
    (stressedAmountIn stressedAmountOut limitMaxOut softLadderMaxOut : Option Nat)
    (slippage : SlippageConfig) : Nat :=
  slippage.minDynamicSlippageBps.toNat * slippageScale +
    utilizationTermScaled
      (effectiveOutputUtilizationScaled amountOut limitMaxOut softLadderMaxOut slippage) slippage +
    stressTermScaled amountIn amountOut stressedAmountIn stressedAmountOut slippage

/-- `compute_dynamic_slippage_bps`. -/
def computeDynamicSlippageBps (checks : Bool) (amountIn amountOut : Nat)
    (stressedAmountIn stressedAmountOut limitMaxOut softLadderMaxOut : Option Nat)
    (slippage : SlippageConfig) : Except String Nat :=
  if amountOut = 0 then .ok 0
  else do
    let totalBps := toU32Or (roundDiv (totalScaled amountIn amountOut stressedAmountIn
      stressedAmountOut limitMaxOut softLadderMaxOut slippage) slippageScale)
      slippage.maxDynamicSlippageBps.toNat
    let floor ← saturationSlippageFloorBps checks amountOut limitMaxOut slippage
    return clampBps (max totalBps (floor.getD slippage.minDynamicSlippageBps.toNat))
      slippage.minDynamicSlippageBps.toNat slippage.maxDynamicSlippageBps.toNat

/-- `cumulative_degradation_slippage_bps`. -/
def cumulativeDegradationSlippageBps (baseAmountIn baseAmountOut amountIn amountOut : Nat)
    (slippage : SlippageConfig) : Nat :=
  if baseAmountIn = 0 ∨ baseAmountOut = 0 ∨ amountIn = 0 ∨ amountOut = 0 then 0
  else
    let baseRateNumerator := baseAmountOut * amountIn
    let currentRateNumerator := amountOut * baseAmountIn
    if baseRateNumerator ≤ currentRateNumerator then 0
    else toU32Or (roundDiv ((baseRateNumerator - currentRateNumerator) *
      slippage.cumulativeDegradationCoefficientBps.toNat) baseRateNumerator)
      slippage.maxDynamicSlippageBps.toNat

/-- `rate_degradation_bps`. -/
def rateDegradationBps (baseAmountIn baseAmountOut amountIn amountOut : Nat) : Nat :=
  if baseAmountIn = 0 ∨ baseAmountOut = 0 ∨ amountIn = 0 ∨ amountOut = 0 then 0
  else
    let baseRateNumerator := baseAmountOut * amountIn
    let currentRateNumerator := amountOut * baseAmountIn
    if baseRateNumerator ≤ currentRateNumerator then 0
    else toU32Or (roundDiv ((baseRateNumerator - currentRateNumerator) * 10000)
      baseRateNumerator) 10000

/-! ## Ladders -/

/-- `observed_soft_ladder_max_out`. -/
def observedSoftLadderMaxOut (amountsIn amountsOut : List Nat) : Option Nat :=
  let usable := ((amountsIn.zip amountsOut).filter fun quote => quote.2 ≠ 0).insertionSort
    fun a b => a.1 ≤ b.1
  match usable with
  | [] => none
  | base :: rest =>
    if rest.any fun quote =>
        softLadderActivationDegradationBps ≤ rateDegradationBps base.1 base.2 quote.1 quote.2 then
      (usable.map (·.2)).max?
    else none

/-- The first rung with an output. -/
def firstUsableQuote (amounts amountsOut : List Nat) : Option (Nat × Nat) :=
  amountsOut.zipIdx.findSome? fun (amountOut, index) =>
    match amounts[index]? with
    | none => none
    | some amountIn => if amountOut = 0 then none else some (amountIn, amountOut)

/-- `LadderStressQuote`. -/
inductive LadderStressQuote where
  | quote (amountIn amountOut : Nat)
  | partialTail
  | missing
deriving DecidableEq, Repr

/-- `next_ladder_stress_quote`. -/
def nextLadderStressQuote (amounts amountsOut : List Nat) (index : Nat) : LadderStressQuote :=
  match amounts[index + 1]?, amountsOut[index + 1]? with
  | some amountIn, some amountOut =>
    if amountOut = 0 then .partialTail else .quote amountIn amountOut
  | _, _ => .missing

/-- `compute_stress_input`. -/
def computeStressInput (amountIn : Nat) : Nat := max (amountIn / 100) 1

/-- `compute_local_stress_quote`; `answer` is what became of the stressed amount. -/
def computeLocalStressQuote (amountIn : Nat) (answer : Rung) : Option (Nat × Nat) :=
  match answer with
  | .amountOut amount _ =>
    if amount = 0 then none else some (amountIn + computeStressInput amountIn, amount)
  | .cancelled | .error _ => none

/-- `stress_quote_for_index`. -/
def stressQuoteForIndex (amounts amountsOut : List Nat) (index amountIn : Nat) (answer : Rung) :
    Option (Nat × Nat) :=
  match nextLadderStressQuote amounts amountsOut index with
  | .quote amountIn amountOut => some (amountIn, amountOut)
  | .partialTail => none
  | .missing => computeLocalStressQuote amountIn answer

/-- The penalty of a rung, with the first usable one as the base. -/
def cumulativePenalty (slippage : SlippageConfig) (amounts amountsOut : List Nat)
    (amountIn amountOut : Nat) : Nat :=
  match firstUsableQuote amounts amountsOut with
  | none => 0
  | some (baseIn, baseOut) =>
    cumulativeDegradationSlippageBps baseIn baseOut amountIn amountOut slippage

/-- The slippage of one rung, before the ladder is made non-decreasing. -/
def rungSlippage (checks : Bool) (slippage : SlippageConfig) (amounts amountsOut : List Nat)
    (limitMaxOut : Option Nat) (stress : Nat → Rung) (rung : Nat × Nat) : Except String Nat :=
  let (amountOut, index) := rung
  match amounts[index]? with
  | none => .ok 0
  | some amountIn =>
    if amountOut = 0 then .ok 0
    else do
      let stressQuote := stressQuoteForIndex amounts amountsOut index amountIn (stress index)
      let baseSlippage ← computeDynamicSlippageBps checks amountIn amountOut
        (stressQuote.map (·.1)) (stressQuote.map (·.2)) limitMaxOut
        (observedSoftLadderMaxOut amounts amountsOut) slippage
      let total ← u32Add checks baseSlippage
        (cumulativePenalty slippage amounts amountsOut amountIn amountOut)
      return min total slippage.maxDynamicSlippageBps.toNat

/-- `enforce_non_decreasing_slippage` from some rung on. -/
def enforceFrom (runningMax : Nat) : List Nat → List Nat → List Nat
  | amountOut :: amountsOut, bps :: slippage =>
    if amountOut = 0 then bps :: enforceFrom runningMax amountsOut slippage
    else max runningMax bps :: enforceFrom (max runningMax bps) amountsOut slippage
  | _, slippage => slippage

/-- `enforce_non_decreasing_slippage`. -/
def enforceNonDecreasingSlippage (amountsOut slippage : List Nat) : List Nat :=
  enforceFrom 0 amountsOut slippage

/-- `compute_local_slippage_ladder`; `stress` is what became of the stressed amount of each rung. -/
def computeLocalSlippageLadder (checks : Bool) (slippage : SlippageConfig)
    (amounts amountsOut : List Nat) (limitMaxOut : Option Nat) (stress : Nat → Rung) :
    Except String (List Nat) := do
  let values ← amountsOut.zipIdx.mapM
    (rungSlippage checks slippage amounts amountsOut limitMaxOut stress)
  return enforceNonDecreasingSlippage amountsOut values

end TychoSimulationServer
