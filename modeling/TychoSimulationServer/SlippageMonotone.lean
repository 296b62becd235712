import TychoSimulationServer.SlippageLadder

/-!
# Taking more out never quotes less slippage

`compute_dynamic_slippage_bps` clamps the maximum of a rounded sum and a ramp. Each term grows with
the output and falls with the limits, and rounding keeps the order of what is rounded:

* **the utilization** is the larger of two quotients of the output by a limit, and its term squares
  it;
* **the sensitivity** is the part of the rate that the stress takes. The rate itself is the
  denominator, and grows with the output; what counts is that the part grows (`stressTerm_mono`);
* **the ramp** begins above the lower bound or below it, which the clamp makes good
  (`clampBps_le_clampBps`).

A stress quote of zero is no stress quote: with it the sensitivity is left out altogether.
-/

namespace TychoSimulationServer

open Fallible RoundDiv

variable {config : SlippageConfig}

/-! ## Terms -/

theorem filter_ne_zero {limit : Nat} (h : limit ≠ 0) :
    (some limit).filter (· ≠ 0) = some limit := by
  simp [h]

/-- The utilisation term grows with the utilisation. -/
theorem utilizationTerm_mono {utilization more : Nat} (h : utilization ≤ more) :
    utilizationTermScaled utilization config ≤ utilizationTermScaled more config := by
  apply roundDiv_mono
  exact Nat.mul_le_mul (Nat.mul_le_mul_left _ h) h

theorem effectiveUtilization_mono {amountOut more : Nat} (limitMaxOut softLadderMaxOut : Option Nat)
    (h : amountOut ≤ more) :
    effectiveOutputUtilizationScaled amountOut limitMaxOut softLadderMaxOut config ≤
      effectiveOutputUtilizationScaled more limitMaxOut softLadderMaxOut config := by
  have hhard : ((limitMaxOut.filter (· ≠ 0)).map fun maxOut =>
      roundDiv (amountOut * slippageScale) maxOut).getD 0 ≤
      ((limitMaxOut.filter (· ≠ 0)).map fun maxOut =>
        roundDiv (more * slippageScale) maxOut).getD 0 := by
    cases limitMaxOut.filter (· ≠ 0) with
    | none => simp
    | some limit => exact roundDiv_mono (Nat.mul_le_mul_right _ h)
  have hsoft : ((softLadderMaxOut.filter (· ≠ 0)).map fun maxOut =>
      roundDiv (amountOut * config.softLadderUtilizationCapBps.toNat * slippageScale)
        (maxOut * 10000)).getD 0 ≤
      ((softLadderMaxOut.filter (· ≠ 0)).map fun maxOut =>
        roundDiv (more * config.softLadderUtilizationCapBps.toNat * slippageScale)
          (maxOut * 10000)).getD 0 := by
    cases softLadderMaxOut.filter (· ≠ 0) with
    | none => simp
    | some limit =>
      exact roundDiv_mono (Nat.mul_le_mul_right _ (Nat.mul_le_mul_right _ h))
  exact min_le_min_right _ (max_le_max hhard hsoft)

theorem effectiveUtilization_anti_limit {amountOut limit more : Nat} (softLadderMaxOut : Option Nat)
    (hpositive : 0 < limit) (h : limit ≤ more) :
    effectiveOutputUtilizationScaled amountOut (some more) softLadderMaxOut config ≤
      effectiveOutputUtilizationScaled amountOut (some limit) softLadderMaxOut config := by
  rw [effectiveOutputUtilizationScaled, effectiveOutputUtilizationScaled,
    filter_ne_zero hpositive.ne', filter_ne_zero (hpositive.trans_le h).ne']
  exact min_le_min_right _ (max_le_max_right _ (roundDiv_anti hpositive h))

theorem effectiveUtilization_anti_soft {amountOut limit more : Nat} (limitMaxOut : Option Nat)
    (hpositive : 0 < limit) (h : limit ≤ more) :
    effectiveOutputUtilizationScaled amountOut limitMaxOut (some more) config ≤
      effectiveOutputUtilizationScaled amountOut limitMaxOut (some limit) config := by
  rw [effectiveOutputUtilizationScaled, effectiveOutputUtilizationScaled,
    filter_ne_zero hpositive.ne', filter_ne_zero (hpositive.trans_le h).ne']
  refine min_le_min_right _ (max_le_max_left _ ?_)
  exact roundDiv_anti (Nat.mul_pos hpositive (by decide)) (Nat.mul_le_mul_right _ h)

/-- The part of a rate that is lost grows with the rate. -/
theorem sensitivityTerm_mono {amountIn amountOut more stressedIn stressedOut : Nat}
    (hpositive : 0 < amountOut) (hstressed : 0 < stressedIn) (h : amountOut ≤ more) :
    sensitivityTermScaled amountIn amountOut stressedIn stressedOut config ≤
      sensitivityTermScaled amountIn more stressedIn stressedOut config := by
  have hrate : amountOut * stressedIn ≤ more * stressedIn := Nat.mul_le_mul_right _ h
  have hcurrent : 0 < amountOut * stressedIn := Nat.mul_pos hpositive hstressed
  rw [sensitivityTermScaled, sensitivityTermScaled]
  generalize amountOut * stressedIn = current at *
  generalize more * stressedIn = later at *
  generalize stressedOut * amountIn = stressed
  split
  case isTrue => exact Nat.zero_le _
  case isFalse hlost =>
    rw [if_neg (by omega)]
    obtain ⟨lost, rfl⟩ := Nat.exists_eq_add_of_le (Nat.le_of_not_le hlost)
    obtain ⟨gained, rfl⟩ := Nat.exists_eq_add_of_le hrate
    refine roundDiv_le_roundDiv hcurrent (hcurrent.trans_le hrate) ?_
    rw [Nat.add_sub_cancel_left, Nat.add_assoc, Nat.add_sub_cancel_left]
    generalize config.sensitivityCoefficientBps.toNat = coefficient
    generalize slippageScale = scale
    have hgained : lost * stressed ≤ (lost + gained) * stressed :=
      Nat.mul_le_mul_right _ (Nat.le_add_right _ _)
    calc lost * coefficient * scale * (stressed + (lost + gained))
        = (lost * stressed + lost * (lost + gained)) * (coefficient * scale) := by ring
      _ ≤ ((lost + gained) * stressed + lost * (lost + gained)) * (coefficient * scale) :=
        Nat.mul_le_mul_right _ (Nat.add_le_add_right hgained _)
      _ = (lost + gained) * coefficient * scale * (stressed + lost) := by ring

theorem stressTerm_mono {amountIn amountOut more : Nat} (stressedIn stressedOut : Option Nat)
    (hpositive : 0 < amountOut) (h : amountOut ≤ more) :
    stressTermScaled amountIn amountOut stressedIn stressedOut config ≤
      stressTermScaled amountIn more stressedIn stressedOut config := by
  cases stressedIn with
  | none => exact Nat.le_refl _
  | some stressedIn =>
    cases stressedOut with
    | none => exact Nat.le_refl _
    | some stressedOut =>
      rw [stressTermScaled, stressTermScaled]
      split
      case isTrue hstressed => exact sensitivityTerm_mono hpositive (Nat.pos_of_ne_zero hstressed.1) h
      case isFalse => exact Nat.le_refl _

/-- What the stress leaves is not lost. -/
theorem sensitivityTerm_anti {amountIn amountOut stressedIn stressedOut more : Nat}
    (h : stressedOut ≤ more) :
    sensitivityTermScaled amountIn amountOut stressedIn more config ≤
      sensitivityTermScaled amountIn amountOut stressedIn stressedOut config := by
  have hstressed : stressedOut * amountIn ≤ more * amountIn := Nat.mul_le_mul_right _ h
  rw [sensitivityTermScaled, sensitivityTermScaled]
  split
  case isTrue => exact Nat.zero_le _
  case isFalse hlost =>
    rw [if_neg (by omega)]
    refine roundDiv_mono (Nat.mul_le_mul_right _ (Nat.mul_le_mul_right _ ?_))
    exact Nat.sub_le_sub_left hstressed _

theorem stressTerm_anti {amountIn amountOut stressedOut more : Nat} (stressedIn : Option Nat)
    (hpositive : 0 < stressedOut) (h : stressedOut ≤ more) :
    stressTermScaled amountIn amountOut stressedIn (some more) config ≤
      stressTermScaled amountIn amountOut stressedIn (some stressedOut) config := by
  cases stressedIn with
  | none => exact Nat.le_refl _
  | some stressedIn =>
    rw [stressTermScaled, stressTermScaled]
    split
    case isTrue hboth =>
      rw [if_pos ⟨hboth.1, hpositive.ne'⟩]
      exact sensitivityTerm_anti h
    case isFalse => exact Nat.zero_le _

/-! ## The ramp -/

/-- The floor at a utilization. -/
def floorAt (config : SlippageConfig) (utilizationBps : Nat) : Option Nat :=
  if 9990 ≤ utilizationBps then some config.maxDynamicSlippageBps.toNat
  else if utilizationBps ≤ 9500 then none
  else some (config.saturationRampStartSlippageBps.toNat +
    ((config.maxDynamicSlippageBps.toNat - config.saturationRampStartSlippageBps.toNat) *
      (utilizationBps - 9500) + 245) / 490)

/-- The use of a limit, in basis points. -/
def utilizationBps (amountOut limit : Nat) : Nat := min (roundDiv (amountOut * 10000) limit) 10000

/-- A number that does not fit is above the bound. -/
theorem min_toU32Or_eq {n bound : Nat} (h : bound < 2 ^ 32) :
    min (toU32Or n bound) bound = min n bound := by
  rw [toU32Or]
  split <;> omega

/-- Without an overflow the floor is the one at the utilization of the limit. -/
theorem saturationFloor_eq (haccepted : config.Accepted) {amountOut limit : Nat}
    {floor : Option Nat} (hlimit : limit ≠ 0)
    (h : saturationSlippageFloorBps true amountOut (some limit) config = .ok floor) :
    floor = floorAt config (utilizationBps amountOut limit) := by
  rw [saturationSlippageFloorBps, filter_ne_zero hlimit] at h
  dsimp only at h
  rw [min_toU32Or_eq (by decide)] at h
  rw [floorAt, utilizationBps]
  generalize min (roundDiv (amountOut * 10000) limit) 10000 = utilization at *
  rw [saturationMaxUtilizationBps, saturationRampStartUtilizationBps] at h
  split at h
  case isTrue hhigh =>
    rw [if_pos hhigh]
    exact (Except.ok.inj h).symm
  case isFalse hhigh =>
    rw [if_neg hhigh]
    split at h
    case isTrue hlow =>
      rw [if_pos hlow]
      exact (Except.ok.inj h).symm
    case isFalse hlow =>
      rw [if_neg hlow]
      rw [u32Sub_of_le true haccepted.rampStart_le] at h
      obtain ⟨span, hspan, h⟩ := bind_eq_ok.mp h
      obtain rfl := Except.ok.inj hspan
      obtain ⟨scaled, hscaled, h⟩ := bind_eq_ok.mp h
      obtain ⟨rounded, hrounded, h⟩ := bind_eq_ok.mp h
      obtain ⟨sum, hsum, h⟩ := bind_eq_ok.mp h
      obtain ⟨-, rfl⟩ := u32Result_checked.mp hscaled
      obtain ⟨-, rfl⟩ := u32Result_checked.mp hrounded
      obtain ⟨-, rfl⟩ := u32Result_checked.mp hsum
      exact (pure_eq_ok.mp h).symm

theorem floorAt_le (haccepted : config.Accepted) (utilization : Nat) :
    (floorAt config utilization).getD config.minDynamicSlippageBps.toNat ≤
      config.maxDynamicSlippageBps.toNat := by
  have hmin := haccepted.min_le
  have hramp := haccepted.rampStart_le
  rw [floorAt]
  split
  · exact Nat.le_refl _
  · split
    · exact hmin
    · rw [Option.getD_some]
      generalize hspan : config.maxDynamicSlippageBps.toNat -
        config.saturationRampStartSlippageBps.toNat = span
      have hscaled : span * (utilization - 9500) ≤ span * 489 :=
        Nat.mul_le_mul_left span (by omega)
      omega

/-- The floor grows with the utilization, but for its lower bound. -/
theorem floorAt_mono (haccepted : config.Accepted) {utilization more : Nat}
    (h : utilization ≤ more) :
    (floorAt config utilization).getD config.minDynamicSlippageBps.toNat ≤
      max config.minDynamicSlippageBps.toNat
        ((floorAt config more).getD config.minDynamicSlippageBps.toNat) := by
  by_cases hhigh : 9990 ≤ more
  · have hmore : floorAt config more = some config.maxDynamicSlippageBps.toNat := if_pos hhigh
    rw [hmore, Option.getD_some]
    exact (floorAt_le haccepted utilization).trans (Nat.le_max_right _ _)
  · by_cases hlow : utilization ≤ 9500
    · have hnone : floorAt config utilization = none := by
        rw [floorAt, if_neg (by omega), if_pos hlow]
      rw [hnone]
      exact Nat.le_max_left _ _
    · rw [floorAt, if_neg (by omega), if_neg hlow, floorAt, if_neg hhigh, if_neg (by omega),
        Option.getD_some, Option.getD_some]
      refine le_trans (Nat.add_le_add_left (Nat.div_le_div_right (Nat.add_le_add_right ?_ _)) _)
        (Nat.le_max_right _ _)
      exact Nat.mul_le_mul_left _ (by omega)

/-! ## The slippage

The clamped sum, with everything else fixed. The sum saturates at the largest `u32`, which the clamp
takes to the upper bound. -/

/-- A clamp grows with the sum and with the floor. -/
theorem clampBps_le_clampBps {total total' floor floor' low high : Nat} (h : low ≤ high)
    (htotal : min high total ≤ total') (hfloor : floor ≤ max low floor') :
    clampBps (max total floor) low high ≤ clampBps (max total' floor') low high := by
  rw [clampBps_eq h, clampBps_eq h]
  omega

/-- A sum that does not fit counts as the upper bound, and is clamped to it. -/
theorem toU32Or_le_toU32Or {total total' : Nat} (high : Nat) (h : total ≤ total') :
    min high (toU32Or total high) ≤ toU32Or total' high := by
  rw [toU32Or, toU32Or]
  split <;> split <;> omega

theorem utilizationBps_mono {amountOut more : Nat} (limit : Nat) (h : amountOut ≤ more) :
    utilizationBps amountOut limit ≤ utilizationBps more limit :=
  min_le_min_right _ (roundDiv_mono (Nat.mul_le_mul_right _ h))

theorem utilizationBps_anti {amountOut limit more : Nat} (hpositive : 0 < limit)
    (h : limit ≤ more) : utilizationBps amountOut more ≤ utilizationBps amountOut limit :=
  min_le_min_right _ (roundDiv_anti hpositive h)

/-- **Two evaluations** compare as their sums and their floors do. -/
theorem dynamicSlippage_le (haccepted : config.Accepted) {amountIn amountOut more : Nat}
    {stressedIn stressedIn' stressedOut stressedOut' limit limit' soft soft' : Option Nat}
    {bps bps' : Nat} (hpositive : amountOut ≠ 0) (hmore : more ≠ 0)
    (h : computeDynamicSlippageBps true amountIn amountOut stressedIn stressedOut limit soft
      config = .ok bps)
    (h' : computeDynamicSlippageBps true amountIn more stressedIn' stressedOut' limit' soft'
      config = .ok bps')
    (htotal : totalScaled amountIn amountOut stressedIn stressedOut limit soft config ≤
      totalScaled amountIn more stressedIn' stressedOut' limit' soft' config)
    (hfloor : ∀ floor floor', saturationSlippageFloorBps true amountOut limit config = .ok floor →
      saturationSlippageFloorBps true more limit' config = .ok floor' →
      floor.getD config.minDynamicSlippageBps.toNat ≤
        max config.minDynamicSlippageBps.toNat
          (floor'.getD config.minDynamicSlippageBps.toNat)) :
    bps ≤ bps' := by
  rw [computeDynamicSlippageBps, if_neg hpositive] at h
  rw [computeDynamicSlippageBps, if_neg hmore] at h'
  obtain ⟨floor, hramp, h⟩ := bind_eq_ok.mp h
  obtain ⟨floor', hramp', h'⟩ := bind_eq_ok.mp h'
  obtain rfl := pure_eq_ok.mp h
  obtain rfl := pure_eq_ok.mp h'
  apply clampBps_le_clampBps haccepted.min_le _ (hfloor floor floor' hramp hramp')
  exact toU32Or_le_toU32Or _ (roundDiv_mono htotal)

/-- The floor of the same output at the same limit. -/
theorem floor_le_self {amountOut : Nat} {limit floor floor' : Option Nat} (low : Nat)
    (h : saturationSlippageFloorBps true amountOut limit config = .ok floor)
    (h' : saturationSlippageFloorBps true amountOut limit config = .ok floor') :
    floor.getD low ≤ max low (floor'.getD low) := by
  rw [h] at h'
  obtain rfl := Except.ok.inj h'
  exact Nat.le_max_right _ _

/-- The floor of a limit that is not there. -/
theorem floor_eq_none {amountOut : Nat} {limit floor : Option Nat}
    (hlimit : limit.filter (· ≠ 0) = none)
    (h : saturationSlippageFloorBps true amountOut limit config = .ok floor) : floor = none := by
  rw [saturationSlippageFloorBps, hlimit] at h
  exact (Except.ok.inj h).symm

/-- **The slippage grows** with the output. -/
theorem dynamicSlippage_mono_amountOut (haccepted : config.Accepted) {amountIn amountOut more : Nat}
    {stressedIn stressedOut limit soft : Option Nat} {bps bps' : Nat} (hpositive : 0 < amountOut)
    (hle : amountOut ≤ more)
    (h : computeDynamicSlippageBps true amountIn amountOut stressedIn stressedOut limit soft
      config = .ok bps)
    (h' : computeDynamicSlippageBps true amountIn more stressedIn stressedOut limit soft
      config = .ok bps') : bps ≤ bps' := by
  refine dynamicSlippage_le haccepted hpositive.ne' (hpositive.trans_le hle).ne' h h' ?_ ?_
  · refine Nat.add_le_add (Nat.add_le_add_left ?_ _) (stressTerm_mono _ _ hpositive hle)
    exact utilizationTerm_mono (effectiveUtilization_mono _ _ hle)
  · intro floor floor' hfloor hfloor'
    by_cases hlimit : limit.filter (· ≠ 0) = none
    · rw [floor_eq_none hlimit hfloor]
      exact Nat.le_max_left _ _
    · obtain ⟨limit, hsome⟩ := Option.ne_none_iff_exists'.mp hlimit
      obtain ⟨rfl, hnonzero⟩ := Option.filter_eq_some_iff.mp hsome
      have hnonzero := of_decide_eq_true hnonzero
      rw [saturationFloor_eq haccepted hnonzero hfloor, saturationFloor_eq haccepted hnonzero hfloor']
      exact floorAt_mono haccepted (utilizationBps_mono limit hle)

/-- **It falls** with the limit. -/
theorem dynamicSlippage_anti_limit (haccepted : config.Accepted)
    {amountIn amountOut limit more : Nat} {stressedIn stressedOut soft : Option Nat}
    {bps bps' : Nat} (hpositive : 0 < limit) (hle : limit ≤ more)
    (h : computeDynamicSlippageBps true amountIn amountOut stressedIn stressedOut (some limit) soft
      config = .ok bps)
    (h' : computeDynamicSlippageBps true amountIn amountOut stressedIn stressedOut (some more) soft
      config = .ok bps') : bps' ≤ bps := by
  by_cases hzero : amountOut = 0
  · rw [computeDynamicSlippageBps, if_pos hzero] at h h'
    rw [← Except.ok.inj h, ← Except.ok.inj h']
  · refine dynamicSlippage_le haccepted hzero hzero h' h ?_ fun floor floor' hfloor hfloor' => ?_
    · refine Nat.add_le_add_right (Nat.add_le_add_left ?_ _) _
      exact utilizationTerm_mono (effectiveUtilization_anti_limit _ hpositive hle)
    · rw [saturationFloor_eq haccepted (hpositive.trans_le hle).ne' hfloor,
        saturationFloor_eq haccepted hpositive.ne' hfloor']
      exact floorAt_mono haccepted (utilizationBps_anti hpositive hle)

/-- **It falls** with the soft limit. -/
theorem dynamicSlippage_anti_soft (haccepted : config.Accepted) {amountIn amountOut soft more : Nat}
    {stressedIn stressedOut limit : Option Nat} {bps bps' : Nat} (hpositive : 0 < soft)
    (hle : soft ≤ more)
    (h : computeDynamicSlippageBps true amountIn amountOut stressedIn stressedOut limit (some soft)
      config = .ok bps)
    (h' : computeDynamicSlippageBps true amountIn amountOut stressedIn stressedOut limit (some more)
      config = .ok bps') : bps' ≤ bps := by
  by_cases hzero : amountOut = 0
  · rw [computeDynamicSlippageBps, if_pos hzero] at h h'
    rw [← Except.ok.inj h, ← Except.ok.inj h']
  · refine dynamicSlippage_le haccepted hzero hzero h' h ?_ fun _ _ => floor_le_self _
    refine Nat.add_le_add_right (Nat.add_le_add_left ?_ _) _
    exact utilizationTerm_mono (effectiveUtilization_anti_soft _ hpositive hle)

/-- **It falls** with the stressed output. -/
theorem dynamicSlippage_anti_stressed (haccepted : config.Accepted)
    {amountIn amountOut stressedOut more : Nat} {stressedIn limit soft : Option Nat}
    {bps bps' : Nat} (hpositive : 0 < stressedOut) (hle : stressedOut ≤ more)
    (h : computeDynamicSlippageBps true amountIn amountOut stressedIn (some stressedOut) limit soft
      config = .ok bps)
    (h' : computeDynamicSlippageBps true amountIn amountOut stressedIn (some more) limit soft
      config = .ok bps') : bps' ≤ bps := by
  by_cases hzero : amountOut = 0
  · rw [computeDynamicSlippageBps, if_pos hzero] at h h'
    rw [← Except.ok.inj h, ← Except.ok.inj h']
  · refine dynamicSlippage_le haccepted hzero hzero h' h ?_ fun _ _ => floor_le_self _
    exact Nat.add_le_add_left (stressTerm_anti _ hpositive hle) _

/-- A stressed output of zero counts as no stress quote. -/
theorem stressTermScaled_zero {amountIn amountOut : Nat} {stressedIn : Option Nat}
    {config : SlippageConfig} : stressTermScaled amountIn amountOut stressedIn (some 0) config =
      stressTermScaled amountIn amountOut stressedIn none config := by
  cases stressedIn with
  | none => rfl
  | some stressedIn =>
    rw [stressTermScaled]
    exact if_neg fun h => h.2 rfl

/-- **Taking more out never quotes less slippage**, nor does a smaller limit, a smaller output at the
end of the ladder or a smaller output under stress, as long as it is one and no sum overflows. None
does where the ramp of the configuration fits. A stressed output of zero counts as no stress quote. -/
theorem dynamic_slippage_monotone {config : SlippageConfig} (haccepted : config.Accepted)
    (amountIn : Nat) (stressedIn : Option Nat) :
    (∀ (amountOut more : Nat) (stressedOut limit soft : Option Nat) (bps bps' : Nat),
      0 < amountOut → amountOut ≤ more →
      computeDynamicSlippageBps true amountIn amountOut stressedIn stressedOut limit soft config =
        .ok bps →
      computeDynamicSlippageBps true amountIn more stressedIn stressedOut limit soft config =
        .ok bps' → bps ≤ bps') ∧
    (∀ (amountOut limit more : Nat) (stressedOut soft : Option Nat) (bps bps' : Nat),
      0 < limit → limit ≤ more →
      computeDynamicSlippageBps true amountIn amountOut stressedIn stressedOut (some limit) soft
        config = .ok bps →
      computeDynamicSlippageBps true amountIn amountOut stressedIn stressedOut (some more) soft
        config = .ok bps' → bps' ≤ bps) ∧
    (∀ (amountOut soft more : Nat) (stressedOut limit : Option Nat) (bps bps' : Nat),
      0 < soft → soft ≤ more →
      computeDynamicSlippageBps true amountIn amountOut stressedIn stressedOut limit (some soft)
        config = .ok bps →
      computeDynamicSlippageBps true amountIn amountOut stressedIn stressedOut limit (some more)
        config = .ok bps' → bps' ≤ bps) ∧
    (∀ (amountOut stressedOut more : Nat) (limit soft : Option Nat) (bps bps' : Nat),
      0 < stressedOut → stressedOut ≤ more →
      computeDynamicSlippageBps true amountIn amountOut stressedIn (some stressedOut) limit soft
        config = .ok bps →
      computeDynamicSlippageBps true amountIn amountOut stressedIn (some more) limit soft
        config = .ok bps' → bps' ≤ bps) ∧
    (∀ (checks : Bool) (amountOut : Nat) (limit soft : Option Nat),
      computeDynamicSlippageBps checks amountIn amountOut stressedIn (some 0) limit soft config =
        computeDynamicSlippageBps checks amountIn amountOut stressedIn none limit soft config) ∧
    (config.RampFits → ∀ (amountOut : Nat) (stressedOut limit soft : Option Nat), ∃ bps, ∀ checks,
      computeDynamicSlippageBps checks amountIn amountOut stressedIn stressedOut limit soft config =
        .ok bps) := by
  refine ⟨?amountOut, ?limit, ?soft, ?stressed, ?nothing, ?fits⟩
  case amountOut =>
    intro amountOut more stressedOut limit soft bps bps'
    exact dynamicSlippage_mono_amountOut haccepted
  case limit =>
    intro amountOut limit more stressedOut soft bps bps'
    exact dynamicSlippage_anti_limit haccepted
  case soft =>
    intro amountOut soft more stressedOut limit bps bps'
    exact dynamicSlippage_anti_soft haccepted
  case stressed =>
    intro amountOut stressedOut more limit soft bps bps'
    exact dynamicSlippage_anti_stressed haccepted
  case nothing =>
    intro checks amountOut limit soft
    rw [computeDynamicSlippageBps, computeDynamicSlippageBps, totalScaled, totalScaled,
      stressTermScaled_zero]
  case fits =>
    intro hfits amountOut stressedOut limit soft
    exact computeDynamicSlippageBps_exact haccepted hfits amountIn amountOut stressedIn stressedOut
      limit soft

/-- Outputs of 90 and 95 out of 100 under the defaults: the ramp has not begun, and the use of the
pool decides. -/
theorem dynamic_slippage_monotone_default :
    computeDynamicSlippageBps true 10 90 none none (some 100) none .default = .ok 50 ∧
      computeDynamicSlippageBps true 10 95 none none (some 100) none .default = .ok 55 ∧
      50 ≤ 55 := by
  have hbelow : computeDynamicSlippageBps true 10 90 none none (some 100) none .default =
      .ok 50 := by decide +kernel
  have habove : computeDynamicSlippageBps true 10 95 none none (some 100) none .default =
      .ok 55 := by decide +kernel
  refine ⟨hbelow, habove, ?_⟩
  exact (dynamic_slippage_monotone accepted_default 10 none).1 90 95 none (some 100) none 50 55
    (by decide) (by decide) hbelow habove

/-- **A stress quote of nothing** is taken for none, so that the slippage rises from the lower bound
to the upper one when the pool has something left under stress. -/
theorem stressed_nothing_quotes_less :
    computeDynamicSlippageBps true 100 100 (some 101) (some 0) none none .default = .ok 1 ∧
      computeDynamicSlippageBps true 100 100 (some 101) (some 1) none none .default = .ok 200 ∧
      ¬∀ (amountOut stressedOut more bps bps' : Nat), stressedOut ≤ more →
        computeDynamicSlippageBps true 100 amountOut (some 101) (some stressedOut) none none
          .default = .ok bps →
        computeDynamicSlippageBps true 100 amountOut (some 101) (some more) none none .default =
          .ok bps' → bps' ≤ bps := by
  have hnothing : computeDynamicSlippageBps true 100 100 (some 101) (some 0) none none .default =
      .ok 1 := by decide +kernel
  have hsome : computeDynamicSlippageBps true 100 100 (some 101) (some 1) none none .default =
      .ok 200 := by decide +kernel
  refine ⟨hnothing, hsome, fun h => ?_⟩
  exact absurd (h 100 0 1 1 200 (by decide) hnothing hsome) (by decide)

end TychoSimulationServer
