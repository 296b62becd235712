import TychoSimulationServer.Slippage

/-!
# Slippage ladders in range

Every rung of a ladder that has an output gets a slippage between the two bounds of the
configuration, and the slippages do not fall along the ladder. That is so as long as the two sums
that are taken in `u32` fit: the ramp below the limit of a pool, and the slippage of a rung with its
penalty. Their terms are narrowed with care, and then put together without any. `SlippageConfig.Fits`
says of a configuration that both sums fit, and is exact: a configuration that does not has a ladder
that overflows.
-/

namespace TychoSimulationServer

open Fallible RoundDiv

/-! ## Machine integers -/

theorem u32Result_of_lt {n : Nat} (checks : Bool) (panic : String) (h : n < 2 ^ 32) :
    u32Result checks panic n = .ok n := if_pos h

theorem u32Add_of_lt {a b : Nat} (checks : Bool) (h : a + b < 2 ^ 32) :
    u32Add checks a b = .ok (a + b) := u32Result_of_lt _ _ h

theorem u32Mul_of_lt {a b : Nat} (checks : Bool) (h : a * b < 2 ^ 32) :
    u32Mul checks a b = .ok (a * b) := u32Result_of_lt _ _ h

theorem u32Sub_of_le {a b : Nat} (checks : Bool) (h : b ≤ a) : u32Sub checks a b = .ok (a - b) :=
  if_pos h

/-- With checks a result is exact or there is none. -/
theorem u32Result_checked {n m : Nat} {panic : String} :
    u32Result true panic n = .ok m ↔ n < 2 ^ 32 ∧ n = m := by
  rw [u32Result]
  split
  case isTrue h =>
    rw [Except.ok.injEq]
    exact ⟨fun heq => ⟨h, heq⟩, fun heq => heq.2⟩
  case isFalse h =>
    rw [if_pos rfl]
    exact ⟨fun heq => (nomatch heq), fun heq => absurd heq.1 h⟩

theorem toU32Or_of_lt {n fallback : Nat} (h : n < 2 ^ 32) : toU32Or n fallback = n := if_pos h

theorem clampBps_eq {n low high : Nat} (h : low ≤ high) :
    clampBps n low high = max low (min high n) := by
  rw [clampBps]
  split
  · omega
  · split <;> omega

theorem clampBps_bounds {n low high : Nat} (h : low ≤ high) :
    low ≤ clampBps n low high ∧ clampBps n low high ≤ high := by
  rw [clampBps_eq h]
  omega

/-! ## Configurations

An accepted configuration has its bounds in order. Whether products of its numbers fit into machine
integers is another matter. -/

section

variable {config : SlippageConfig}

/-- The lower bound is below the upper one. -/
theorem SlippageConfig.Accepted.min_le (h : config.Accepted) :
    config.minDynamicSlippageBps.toNat ≤ config.maxDynamicSlippageBps.toNat :=
  UInt32.le_iff_toNat_le.mp h.min_le_max

theorem SlippageConfig.Accepted.rampStart_le (h : config.Accepted) :
    config.saturationRampStartSlippageBps.toNat ≤ config.maxDynamicSlippageBps.toNat :=
  UInt32.le_iff_toNat_le.mp h.rampStart_le_max

/-- The ramp fits into `u32` at its last step. -/
def SlippageConfig.RampFits (config : SlippageConfig) : Prop :=
  (config.maxDynamicSlippageBps.toNat - config.saturationRampStartSlippageBps.toNat) * 489 + 245 <
    2 ^ 32

/-- The largest slippage of a rung fits with the largest penalty. -/
def SlippageConfig.PenaltyFits (config : SlippageConfig) : Prop :=
  config.maxDynamicSlippageBps.toNat + config.cumulativeDegradationCoefficientBps.toNat < 2 ^ 32

/-- The two sums fit. -/
structure SlippageConfig.Fits (config : SlippageConfig) : Prop where
  ramp : config.RampFits
  penalty : config.PenaltyFits

/-! ## The slippage of a rung

With a configuration that fits every rung is computed exactly, in both build modes, and lies between
the bounds. -/

/-- **The ramp**: where it fits, the floor is the same in both builds. -/
theorem saturationFloor_exact (haccepted : config.Accepted) (hfits : config.RampFits)
    (amountOut : Nat) (limitMaxOut : Option Nat) : ∃ floor, ∀ checks,
      saturationSlippageFloorBps checks amountOut limitMaxOut config = .ok floor := by
  simp only [saturationSlippageFloorBps]
  cases limitMaxOut.filter (· ≠ 0) with
  | none => exact ⟨none, fun _ => rfl⟩
  | some limit =>
    dsimp only
    generalize hutilization : min (toU32Or (roundDiv (amountOut * 10000) limit) 10000) 10000 =
      utilization
    by_cases hhigh : saturationMaxUtilizationBps ≤ utilization
    · exact ⟨_, fun _ => if_pos hhigh⟩
    · by_cases hlow : utilization ≤ saturationRampStartUtilizationBps
      · exact ⟨none, fun _ => by rw [if_neg hhigh, if_pos hlow]⟩
      · have hramp := haccepted.rampStart_le
        have hmax := config.maxDynamicSlippageBps.toNat_lt
        have hfits' := hfits
        rw [SlippageConfig.RampFits] at hfits'
        rw [saturationMaxUtilizationBps] at hhigh
        rw [saturationRampStartUtilizationBps] at hlow
        have hsub := fun checks => u32Sub_of_le checks hramp
        generalize hspan : config.maxDynamicSlippageBps.toNat -
          config.saturationRampStartSlippageBps.toNat = span at hfits' hsub
        generalize hprogress : utilization - 9500 = progress
        -- on the ramp the progress is at most 489 of 490
        have hscaled : span * progress ≤ span * 489 := Nat.mul_le_mul_left span (by omega)
        have hquotient : (span * progress + 245) / 490 ≤ span := by
          apply Nat.le_of_lt_succ
          rw [Nat.div_lt_iff_lt_mul (by decide)]
          omega
        have hmul := fun checks => u32Mul_of_lt checks (show span * progress < 2 ^ 32 by omega)
        have hadd := fun checks => u32Add_of_lt checks (show span * progress + 245 < 2 ^ 32 by omega)
        have hfloor := fun checks => u32Add_of_lt checks (show
          config.saturationRampStartSlippageBps.toNat + (span * progress + 245) / 490 < 2 ^ 32 by
            omega)
        refine ⟨some (config.saturationRampStartSlippageBps.toNat +
          (span * progress + 245) / 490), fun checks => ?_⟩
        have hwidth : saturationMaxUtilizationBps - saturationRampStartUtilizationBps = 490 := rfl
        rw [if_neg (by rw [saturationMaxUtilizationBps]; exact hhigh),
          if_neg (by rw [saturationRampStartUtilizationBps]; exact hlow), hwidth, hsub,
          saturationRampStartUtilizationBps, hprogress]
        refine bind_eq_ok.mpr ⟨_, rfl, bind_eq_ok.mpr ⟨_, hmul checks, ?_⟩⟩
        exact bind_eq_ok.mpr ⟨_, hadd checks, bind_eq_ok.mpr ⟨_, hfloor checks, rfl⟩⟩

/-- A rung with an output gets a slippage between the bounds. -/
theorem computeDynamicSlippageBps_bounds (haccepted : config.Accepted) {checks : Bool}
    {amountIn amountOut : Nat} {stressedIn stressedOut limitMaxOut softLadderMaxOut : Option Nat}
    {bps : Nat} (hpositive : amountOut ≠ 0)
    (h : computeDynamicSlippageBps checks amountIn amountOut stressedIn stressedOut limitMaxOut
      softLadderMaxOut config = .ok bps) :
    config.minDynamicSlippageBps.toNat ≤ bps ∧ bps ≤ config.maxDynamicSlippageBps.toNat := by
  rw [computeDynamicSlippageBps, if_neg hpositive] at h
  obtain ⟨floor, -, h⟩ := bind_eq_ok.mp h
  rw [pure_eq_ok] at h
  subst h
  exact clampBps_bounds haccepted.min_le

/-- **A slippage** is the same in both build modes. -/
theorem computeDynamicSlippageBps_exact (haccepted : config.Accepted) (hfits : config.RampFits)
    (amountIn amountOut : Nat) (stressedIn stressedOut limitMaxOut softLadderMaxOut : Option Nat) :
    ∃ bps, ∀ checks, computeDynamicSlippageBps checks amountIn amountOut stressedIn stressedOut
      limitMaxOut softLadderMaxOut config = .ok bps := by
  simp only [computeDynamicSlippageBps]
  obtain ⟨floor, hfloor⟩ := saturationFloor_exact haccepted hfits amountOut limitMaxOut
  by_cases hzero : amountOut = 0
  · exact ⟨0, fun _ => if_pos hzero⟩
  · refine ⟨?bps, fun checks => ?exact⟩
    case exact =>
      rw [if_neg hzero, hfloor checks]
      rfl

/-- A penalty is at most its coefficient. -/
theorem cumulativeDegradation_le (baseIn baseOut amountIn amountOut : Nat) :
    cumulativeDegradationSlippageBps baseIn baseOut amountIn amountOut config ≤
      config.cumulativeDegradationCoefficientBps.toNat := by
  have hcoefficient := config.cumulativeDegradationCoefficientBps.toNat_lt
  rw [cumulativeDegradationSlippageBps]
  split
  · exact Nat.zero_le _
  · dsimp only
    split
    · exact Nat.zero_le _
    · generalize baseOut * amountIn = base
      have hle : roundDiv ((base - amountOut * baseIn) *
          config.cumulativeDegradationCoefficientBps.toNat) base ≤
          config.cumulativeDegradationCoefficientBps.toNat := by
        apply roundDiv_le_of_le_mul
        rw [Nat.mul_comm]
        exact Nat.mul_le_mul_left _ (Nat.sub_le _ _)
      rw [toU32Or_of_lt (Nat.lt_of_le_of_lt hle hcoefficient)]
      exact hle

/-- A penalty is bounded by its coefficient. -/
theorem cumulativePenalty_le (amounts amountsOut : List Nat) (amountIn amountOut : Nat) :
    cumulativePenalty config amounts amountsOut amountIn amountOut ≤
      config.cumulativeDegradationCoefficientBps.toNat := by
  rw [cumulativePenalty]
  split
  · exact Nat.zero_le _
  · exact cumulativeDegradation_le _ _ _ _

/-! ## Ladders -/

/-- The slippage of a rung is between the bounds, and zero without an output. -/
structure RungInRange (config : SlippageConfig) (amountOut bps : Nat) : Prop where
  bounds : amountOut ≠ 0 →
    config.minDynamicSlippageBps.toNat ≤ bps ∧ bps ≤ config.maxDynamicSlippageBps.toNat
  zero : amountOut = 0 → bps = 0

/-- The slippages are in range, and those of rungs with outputs do not fall. -/
structure LadderInRange (config : SlippageConfig) (amountsOut ladder : List Nat) : Prop where
  rungs : List.Forall₂ (RungInRange config) amountsOut ladder
  sorted : (amountsOut.zip ladder).Pairwise fun rung later =>
    rung.1 ≠ 0 → later.1 ≠ 0 → rung.2 ≤ later.2

theorem rungSlippage_inRange (haccepted : config.Accepted) {amounts amountsOut : List Nat} {limitMaxOut : Option Nat} {stress : Nat → Rung}
    {amountOut index bps : Nat} (hindex : index < amounts.length)
    (h : rungSlippage true config amounts amountsOut limitMaxOut stress (amountOut, index) =
      .ok bps) : RungInRange config amountOut bps := by
  rw [rungSlippage, List.getElem?_eq_getElem hindex] at h
  dsimp only at h
  split at h
  case isTrue hzero =>
    cases h
    exact ⟨fun hpositive => absurd hzero hpositive, fun _ => rfl⟩
  case isFalse hpositive =>
    obtain ⟨base, hbase, h⟩ := bind_eq_ok.mp h
    obtain ⟨total, htotal, h⟩ := bind_eq_ok.mp h
    rw [pure_eq_ok] at h
    obtain ⟨-, rfl⟩ := u32Result_checked.mp htotal
    obtain ⟨hlow, hhigh⟩ := computeDynamicSlippageBps_bounds haccepted hpositive hbase
    refine ⟨fun _ => ?_, fun hzero => absurd hzero hpositive⟩
    omega

/-- A rung of a configuration that fits. -/
theorem rungSlippage_exact (haccepted : config.Accepted) (hfits : config.Fits)
    (amounts amountsOut : List Nat) (limitMaxOut : Option Nat) (stress : Nat → Rung)
    (rung : Nat × Nat) : ∃ bps, ∀ checks,
      rungSlippage checks config amounts amountsOut limitMaxOut stress rung = .ok bps := by
  obtain ⟨amountOut, index⟩ := rung
  simp only [rungSlippage]
  cases amounts[index]? with
  | none => exact ⟨0, fun _ => rfl⟩
  | some amountIn =>
    dsimp only
    by_cases hzero : amountOut = 0
    · exact ⟨0, fun _ => if_pos hzero⟩
    · generalize stressQuoteForIndex amounts amountsOut index amountIn (stress index) = stressQuote
      obtain ⟨base, hbase⟩ := computeDynamicSlippageBps_exact haccepted hfits.ramp amountIn
        amountOut (stressQuote.map (·.1)) (stressQuote.map (·.2)) limitMaxOut
        (observedSoftLadderMaxOut amounts amountsOut)
      have hhigh := (computeDynamicSlippageBps_bounds haccepted hzero (hbase true)).2
      have hpenalty := hfits.penalty
      rw [SlippageConfig.PenaltyFits] at hpenalty
      have hle : cumulativePenalty config amounts amountsOut amountIn amountOut ≤
          config.cumulativeDegradationCoefficientBps.toNat := cumulativePenalty_le _ _ _ _
      refine ⟨min (base + cumulativePenalty config amounts amountsOut amountIn amountOut)
        config.maxDynamicSlippageBps.toNat, fun checks => ?_⟩
      rw [if_neg hzero, hbase checks]
      exact bind_eq_ok.mpr ⟨_, rfl, bind_eq_ok.mpr ⟨_, u32Add_of_lt checks (by omega), rfl⟩⟩

/-- All rungs of a configuration that fits. -/
theorem mapM_exact {α β : Type} {R : α → β → Prop} {f : Bool → α → Except String β} {xs : List α}
    (h : ∀ x ∈ xs, ∃ y, R x y ∧ ∀ checks, f checks x = .ok y) :
    ∃ ys, List.Forall₂ R xs ys ∧ ∀ checks, xs.mapM (f checks) = .ok ys := by
  induction xs with
  | nil => exact ⟨[], .nil, fun _ => rfl⟩
  | cons x xs ih =>
    obtain ⟨⟨y, hy, hexact⟩, hrest⟩ := List.forall_mem_cons.mp h
    obtain ⟨ys, hys, hexacts⟩ := ih hrest
    refine ⟨y :: ys, .cons hy hys, fun checks => mapM_eq_ok.mpr (.cons (hexact checks) ?_)⟩
    exact mapM_eq_ok.mp (hexacts checks)

/-- **Making a ladder non-decreasing** keeps it in range. -/
theorem enforceFrom_inRange {amountsOut values : List Nat} {runningMax : Nat}
    (h : List.Forall₂ (RungInRange config) amountsOut values)
    (hmax : runningMax ≤ config.maxDynamicSlippageBps.toNat) :
    LadderInRange config amountsOut (enforceFrom runningMax amountsOut values) ∧
      ∀ rung ∈ amountsOut.zip (enforceFrom runningMax amountsOut values),
        rung.1 ≠ 0 → runningMax ≤ rung.2 := by
  induction h generalizing runningMax with
  | nil => exact ⟨⟨.nil, .nil⟩, fun _ h => nomatch h⟩
  | @cons amountOut bps amountsOut values hrung _ ih =>
    rw [enforceFrom]
    split
    case isTrue hzero =>
      obtain ⟨hrest, habove⟩ := ih hmax
      refine ⟨⟨.cons hrung hrest.rungs, ?_⟩, ?_⟩
      · rw [List.zip_cons_cons, List.pairwise_cons]
        exact ⟨fun _ _ hpositive => absurd hzero hpositive, hrest.sorted⟩
      · rw [List.zip_cons_cons, List.forall_mem_cons]
        exact ⟨fun hpositive => absurd hzero hpositive, habove⟩
    case isFalse hpositive =>
      obtain ⟨hlow, hhigh⟩ := hrung.bounds hpositive
      have hnext : max runningMax bps ≤ config.maxDynamicSlippageBps.toNat := by omega
      obtain ⟨hrest, habove⟩ := ih hnext
      refine ⟨⟨.cons ⟨fun _ => ⟨by omega, hnext⟩, fun hzero => absurd hzero hpositive⟩
        hrest.rungs, ?_⟩, ?_⟩
      · rw [List.zip_cons_cons, List.pairwise_cons]
        exact ⟨fun rung hmem _ hlater => habove rung hmem hlater, hrest.sorted⟩
      · rw [List.zip_cons_cons, List.forall_mem_cons]
        exact ⟨fun _ => Nat.le_max_left _ _, fun rung hmem hlater =>
          (Nat.le_max_left _ _).trans (habove rung hmem hlater)⟩

/-- **A configuration that fits** has its ladders in range, in both builds. -/
theorem ladder_inRange (haccepted : config.Accepted) (hfits : config.Fits)
    {amounts amountsOut : List Nat} (hlength : amountsOut.length ≤ amounts.length)
    (limitMaxOut : Option Nat) (stress : Nat → Rung) : ∃ ladder,
      (∀ checks, computeLocalSlippageLadder checks config amounts amountsOut limitMaxOut stress =
        .ok ladder) ∧ LadderInRange config amountsOut ladder := by
  have hrungs : ∀ rung ∈ amountsOut.zipIdx, ∃ bps, RungInRange config rung.1 bps ∧ ∀ checks,
      rungSlippage checks config amounts amountsOut limitMaxOut stress rung = .ok bps := by
    intro rung hrung
    obtain ⟨bps, hexact⟩ := rungSlippage_exact haccepted hfits amounts amountsOut limitMaxOut stress
      rung
    have hindex := List.snd_lt_add_of_mem_zipIdx hrung
    exact ⟨bps, rungSlippage_inRange haccepted (by omega) (hexact true), hexact⟩
  obtain ⟨values, hvalues, hexact⟩ := mapM_exact hrungs
  have hall : List.Forall₂ (RungInRange config) amountsOut values := by
    rw [← List.forall₂_map_left_iff, List.zipIdx_map_fst] at hvalues
    exact hvalues
  refine ⟨enforceNonDecreasingSlippage amountsOut values, fun checks => ?_,
    (enforceFrom_inRange hall (Nat.zero_le _)).1⟩
  exact bind_eq_ok.mpr ⟨values, hexact checks, rfl⟩

/-! ## Configurations that do not fit -/

/-- An output just below the limit of its pool is at the last step of the ramp. -/
theorem saturationFloor_lastStep (checks : Bool) :
    saturationSlippageFloorBps checks 9989 (some 10000) config = (do
      let rampSpan ← u32Sub checks config.maxDynamicSlippageBps.toNat
        config.saturationRampStartSlippageBps.toNat
      let scaled ← u32Mul checks rampSpan 489
      let rounded ← u32Add checks scaled 245
      let floor ← u32Add checks config.saturationRampStartSlippageBps.toNat (rounded / 490)
      return some floor) := rfl

/-- The ramp of a configuration fits when a ladder with such an output does not overflow. -/
theorem rampFits_of_ladder (haccepted : config.Accepted) {ladder : List Nat}
    (h : computeLocalSlippageLadder true config [1] [9989] (some 10000) (fun _ => .cancelled) =
      .ok ladder) : config.RampFits := by
  obtain ⟨values, hvalues, -⟩ := bind_eq_ok.mp h
  obtain ⟨bps, -, hrung, -, -⟩ := List.forall₂_cons_left_iff.mp (mapM_eq_ok.mp hvalues)
  obtain ⟨base, hbase, -⟩ := bind_eq_ok.mp hrung
  obtain ⟨floor, hfloor, -⟩ := bind_eq_ok.mp hbase
  rw [saturationFloor_lastStep, u32Sub_of_le true haccepted.rampStart_le] at hfloor
  obtain ⟨span, hspan, hfloor⟩ := bind_eq_ok.mp hfloor
  obtain rfl := Except.ok.inj hspan
  obtain ⟨scaled, hscaled, hfloor⟩ := bind_eq_ok.mp hfloor
  obtain ⟨rounded, hrounded, -⟩ := bind_eq_ok.mp hfloor
  obtain ⟨-, rfl⟩ := u32Result_checked.mp hscaled
  exact (u32Result_checked.mp hrounded).1

/-- An input so large that the rate has fallen to nothing. -/
def hugeAmount : Nat := 2 ^ 34

/-- Where the rate has fallen to nothing, the penalty is its whole coefficient. -/
theorem cumulativePenalty_hugeAmount :
    cumulativePenalty config [1, hugeAmount] [1, 1] hugeAmount 1 =
      config.cumulativeDegradationCoefficientBps.toNat := by
  have hcoefficient := config.cumulativeDegradationCoefficientBps.toNat_lt
  have hle : cumulativePenalty config [1, hugeAmount] [1, 1] hugeAmount 1 ≤
      config.cumulativeDegradationCoefficientBps.toNat := cumulativePenalty_le _ _ _ _
  apply hle.antisymm
  change _ ≤ cumulativeDegradationSlippageBps 1 1 hugeAmount 1 config
  rw [cumulativeDegradationSlippageBps, if_neg (by decide), Nat.one_mul, Nat.one_mul,
    if_neg (by decide)]
  have hround : config.cumulativeDegradationCoefficientBps.toNat ≤ roundDiv ((hugeAmount - 1) *
      config.cumulativeDegradationCoefficientBps.toNat) hugeAmount := by
    rw [le_roundDiv_iff (by decide), hugeAmount]
    omega
  rw [toU32Or]
  split
  case isTrue => exact hround
  case isFalse hlarge =>
    have hbound : roundDiv ((hugeAmount - 1) * config.cumulativeDegradationCoefficientBps.toNat)
        hugeAmount ≤ config.cumulativeDegradationCoefficientBps.toNat := by
      apply roundDiv_le_of_le_mul
      rw [Nat.mul_comm]
      exact Nat.mul_le_mul_left _ (Nat.sub_le _ _)
    omega

/-- The penalty of a configuration fits when a ladder that falls to nothing at the limit of its pool
does not overflow. -/
theorem penaltyFits_of_ladder (haccepted : config.Accepted) {ladder : List Nat}
    (h : computeLocalSlippageLadder true config [1, hugeAmount] [1, 1] (some 1)
      (fun _ => .cancelled) = .ok ladder) : config.PenaltyFits := by
  obtain ⟨values, hvalues, -⟩ := bind_eq_ok.mp h
  obtain ⟨first, rest, -, hrest, -⟩ := List.forall₂_cons_left_iff.mp (mapM_eq_ok.mp hvalues)
  obtain ⟨bps, -, hrung, -, -⟩ := List.forall₂_cons_left_iff.mp hrest
  obtain ⟨base, hbase, hrung⟩ := bind_eq_ok.mp hrung
  obtain ⟨total, htotal, -⟩ := bind_eq_ok.mp hrung
  have hlimit : saturationSlippageFloorBps true 1 (some 1) config =
      .ok (some config.maxDynamicSlippageBps.toNat) := rfl
  rw [computeDynamicSlippageBps, if_neg (by decide), hlimit] at hbase
  have hmax : base = config.maxDynamicSlippageBps.toNat := by
    have hclamp := pure_eq_ok.mp hbase
    rw [clampBps_eq haccepted.min_le, Option.getD_some] at hclamp
    have hle := haccepted.min_le
    omega
  have hsum := (u32Result_checked.mp htotal).1
  rw [cumulativePenalty_hugeAmount, hmax] at hsum
  exact hsum

end

/-- **Exactly the configurations that fit** have all their ladders in range. -/
theorem slippage_in_range_iff {config : SlippageConfig} (haccepted : config.Accepted) :
    (∀ (amounts amountsOut : List Nat) (limitMaxOut : Option Nat) (stress : Nat → Rung),
      amountsOut.length ≤ amounts.length → ∃ ladder,
        (∀ checks, computeLocalSlippageLadder checks config amounts amountsOut limitMaxOut stress =
          .ok ladder) ∧ LadderInRange config amountsOut ladder) ↔
      config.maxDynamicSlippageBps.toNat + config.cumulativeDegradationCoefficientBps.toNat <
          2 ^ 32 ∧
        (config.maxDynamicSlippageBps.toNat - config.saturationRampStartSlippageBps.toNat) * 489 +
          245 < 2 ^ 32 := by
  constructor
  · intro h
    obtain ⟨ladder, hpenalty, -⟩ := h [1, hugeAmount] [1, 1] (some 1) (fun _ => .cancelled) (by decide)
    obtain ⟨ladder', hramp, -⟩ := h [1] [9989] (some 10000) (fun _ => .cancelled) (by decide)
    exact ⟨penaltyFits_of_ladder haccepted (hpenalty true),
      rampFits_of_ladder haccepted (hramp true)⟩
  · rintro ⟨hpenalty, hramp⟩ amounts amountsOut limitMaxOut stress hlength
    exact ladder_inRange haccepted ⟨hramp, hpenalty⟩ hlength limitMaxOut stress

/-- The defaults fit: a ladder of two rungs. -/
theorem slippage_in_range_default : ∃ ladder,
    (∀ checks, computeLocalSlippageLadder checks .default [10, 20] [100, 0] none
      (fun _ => .cancelled) = .ok ladder) ∧ LadderInRange .default [100, 0] ladder :=
  (slippage_in_range_iff accepted_default).mpr (by decide) [10, 20] [100, 0] none _ (by decide)

/-- A configuration without an upper bound of its own. -/
def unboundedConfig : SlippageConfig :=
  { SlippageConfig.default with maxDynamicSlippageBps := 4294967295 }

/-- **It is accepted and overflows**: an output at 99.89 percent of the limit of its pool panics, and
without overflow checks it gets 8765238 basis points, where the ramp stands at more than four
billion. -/
theorem unbounded_slippage_overflows : unboundedConfig.Accepted ∧
    computeLocalSlippageLadder true unboundedConfig [1] [9989] (some 10000) (fun _ => .cancelled) =
      .error "attempt to multiply with overflow" ∧
    computeLocalSlippageLadder false unboundedConfig [1] [9989] (some 10000) (fun _ => .cancelled) =
      .ok [8765238] ∧
    ¬∃ ladder, (∀ checks, computeLocalSlippageLadder checks unboundedConfig [1] [9989] (some 10000)
        (fun _ => .cancelled) = .ok ladder) ∧ LadderInRange unboundedConfig [9989] ladder := by
  have hpanics : computeLocalSlippageLadder true unboundedConfig [1] [9989] (some 10000)
      (fun _ => .cancelled) = .error "attempt to multiply with overflow" := by decide +kernel
  refine ⟨⟨by decide, by decide⟩, hpanics, by decide +kernel, fun ⟨ladder, hladder, _⟩ => ?_⟩
  exact nomatch hpanics.symm.trans (hladder true)

end TychoSimulationServer
