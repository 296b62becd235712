import Mathlib.Algebra.Order.Field.Basic
import Mathlib.Algebra.BigOperators.Group.List.Basic
import Mathlib.Algebra.Order.BigOperators.Group.List
import Mathlib.Tactic.Ring
import Mathlib.Tactic.Linarith

/-!
# An ideal split router

A router executes a list of *legs* one after the other. A leg with a positive split spends that
share of everything received of its token up to the first leg that spends the token; a leg with
split zero spends whatever is left of it. Every leg credits what it is known to return.

A *plan* is a list of trades with the amounts they are meant to spend. `splitsFor` turns a plan into
legs: the last trade of a token takes the rest, every other one its share of all trades of the
token. The question is when executing the legs spends exactly the planned amounts:

* `executes_of_funded` — it does, when at each trade everything received of its token is everything
  the plan spends of it;
* `funded_of_executes` — and it does not, when that fails at the last trade of a token.

Amounts are elements of an ordered field, so that shares are exact.
-/

namespace SplitRouter

variable {τ K : Type} [DecidableEq τ] [Field K] [LinearOrder K]

/-! ## The router

A leg spends a share of a token's base, or all that is left of the token. The base is what the
router had received of the token when it was first spent. -/

/-- One leg of an execution. -/
structure Leg (τ K : Type) where
  tokenIn : τ
  tokenOut : τ
  split : K
  amountOut : K

/-- The router: what it holds and has received of each token, and how much of a token it had
received when it first spent the token. -/
structure Router (τ K : Type) where
  balance : τ → K
  received : τ → K
  firstUse : τ → Option K

/-- A router that holds an amount of one token and nothing else. -/
def Router.start (token : τ) (amount : K) : Router τ K :=
  { balance := fun t => if t = token then amount else 0
    received := fun t => if t = token then amount else 0
    firstUse := fun _ => none }

/-- What the shares of a token refer to. -/
def Router.base (router : Router τ K) (token : τ) : K :=
  (router.firstUse token).getD (router.received token)

/-- What a leg spends. -/
def Router.spent (router : Router τ K) (leg : Leg τ K) : K :=
  if leg.split = 0 then router.balance leg.tokenIn else leg.split * router.base leg.tokenIn

/-- Execute a leg. -/
def Router.swap (router : Router τ K) (leg : Leg τ K) : Router τ K :=
  { balance := fun t => router.balance t - (if t = leg.tokenIn then router.spent leg else 0) +
      (if t = leg.tokenOut then leg.amountOut else 0)
    received := fun t => router.received t + (if t = leg.tokenOut then leg.amountOut else 0)
    firstUse := fun t =>
      if t = leg.tokenIn then some (router.base leg.tokenIn) else router.firstUse t }

/-- Execute a list of legs. -/
def Router.run (router : Router τ K) (legs : List (Leg τ K)) : Router τ K :=
  legs.foldl Router.swap router

/-- Every leg spends the given amount, and the router holds at least that much. -/
def Router.Executes (router : Router τ K) : List (Leg τ K × K) → Prop
  | [] => True
  | (leg, amount) :: rest =>
    router.spent leg = amount ∧ router.spent leg ≤ router.balance leg.tokenIn ∧
      (router.swap leg).Executes rest

/-! ## Plans

A plan is a list of trades with amounts; its splits are the fractions that make a router trade these
amounts. -/

/-- One trade of a plan. -/
structure Trade (τ K : Type) where
  tokenIn : τ
  tokenOut : τ
  amountIn : K
  amountOut : K

/-- What the trades spend of a token. -/
def debited (trades : List (Trade τ K)) (token : τ) : K :=
  (trades.map fun trade => if trade.tokenIn = token then trade.amountIn else 0).sum

/-- What the trades return of a token. -/
def credited (trades : List (Trade τ K)) (token : τ) : K :=
  (trades.map fun trade => if trade.tokenOut = token then trade.amountOut else 0).sum

/-- The split of a trade, given the total its token is traded for and the trades after it. -/
def splitOf (total : τ → K) (trade : Trade τ K) (rest : List (Trade τ K)) : K :=
  if ∃ later ∈ rest, later.tokenIn = trade.tokenIn then trade.amountIn / total trade.tokenIn else 0

/-- The legs of a plan, with the amounts they are meant to spend. -/
def legsFrom (total : τ → K) : List (Trade τ K) → List (Leg τ K × K)
  | [] => []
  | trade :: rest =>
    ({ tokenIn := trade.tokenIn, tokenOut := trade.tokenOut, split := splitOf total trade rest
       amountOut := trade.amountOut }, trade.amountIn) :: legsFrom total rest

/-- The legs of a whole plan. -/
def splitsFor (plan : List (Trade τ K)) : List (Leg τ K × K) :=
  legsFrom (debited plan) plan

/-- What a router that started with some amount of one token has received. -/
def funds (token : τ) (amount : K) (trades : List (Trade τ K)) (t : τ) : K :=
  (if t = token then amount else 0) + credited trades t

omit [LinearOrder K] in
@[simp] theorem debited_nil (token : τ) : debited ([] : List (Trade τ K)) token = 0 := rfl

omit [LinearOrder K] in
@[simp] theorem credited_nil (token : τ) : credited ([] : List (Trade τ K)) token = 0 := rfl

omit [LinearOrder K] in
/-- Trades in a row spend what both parts spend. -/
theorem debited_append (trades more : List (Trade τ K)) (token : τ) :
    debited (trades ++ more) token = debited trades token + debited more token := by
  simp [debited]

omit [LinearOrder K] in
theorem credited_append (trades more : List (Trade τ K)) (token : τ) :
    credited (trades ++ more) token = credited trades token + credited more token := by
  simp [credited]

omit [LinearOrder K] in
theorem debited_singleton (trade : Trade τ K) (token : τ) :
    debited [trade] token = if trade.tokenIn = token then trade.amountIn else 0 := by
  simp [debited]

omit [LinearOrder K] in
theorem credited_singleton (trade : Trade τ K) (token : τ) :
    credited [trade] token = if trade.tokenOut = token then trade.amountOut else 0 := by
  simp [credited]

omit [LinearOrder K] in
theorem debited_cons (trade : Trade τ K) (rest : List (Trade τ K)) (token : τ) :
    debited (trade :: rest) token =
      (if trade.tokenIn = token then trade.amountIn else 0) + debited rest token := by
  simp [debited]

omit [LinearOrder K] in
theorem debited_eq_zero {trades : List (Trade τ K)} {token : τ}
    (h : ∀ trade ∈ trades, trade.tokenIn ≠ token) : debited trades token = 0 := by
  refine List.sum_eq_zero fun x hx => ?_
  obtain ⟨trade, htrade, rfl⟩ := List.mem_map.mp hx
  exact if_neg (h trade htrade)

/-! ## Executing a plan

A run that is exact has received, by the last spending of a token, all that the plan spends of it. A
plan that is funded so at every trade runs exactly. -/

section

variable {token : τ} {amount : K} {plan : List (Trade τ K)}

/-- The router after some trades of a plan spent exactly what they were meant to. -/
structure Spent (token : τ) (amount : K) (router : Router τ K) (done : List (Trade τ K)) :
    Prop where
  balance : ∀ t, router.balance t = funds token amount done t - debited done t
  received : ∀ t, router.received t = funds token amount done t

omit [LinearOrder K] in
theorem spent_start : Spent token amount (Router.start token amount) [] := by
  refine ⟨fun t => ?_, fun t => ?_⟩
  · simp [Router.start, funds]
  · simp [Router.start, funds]

/-- One exact trade. -/
theorem Spent.swap {router : Router τ K} {done : List (Trade τ K)} {trade : Trade τ K} {split : K}
    (h : Spent token amount router done)
    (hspent : router.spent ⟨trade.tokenIn, trade.tokenOut, split, trade.amountOut⟩ =
      trade.amountIn) :
    Spent token amount (router.swap ⟨trade.tokenIn, trade.tokenOut, split, trade.amountOut⟩)
      (done ++ [trade]) := by
  refine ⟨fun t => ?_, fun t => ?_⟩
  · simp only [Router.swap, hspent, h.balance, funds, credited_append, debited_append,
      credited_singleton, debited_singleton, eq_comm (a := t)]
    ring
  · simp only [Router.swap, h.received, funds, credited_append, credited_singleton,
      eq_comm (a := t)]
    ring

/-- **A run that spends exactly what was planned** is funded at the last trade of every token: all
that was received of the token is what the plan spends of it. -/
theorem funded_of_executes
    (h : (Router.start token amount).Executes (splitsFor plan)) {pre post : List (Trade τ K)}
    {trade : Trade τ K} (hplan : plan = pre ++ trade :: post)
    (hlast : ∀ later ∈ post, later.tokenIn ≠ trade.tokenIn) :
    funds token amount pre trade.tokenIn = debited plan trade.tokenIn := by
  -- walk to the trade: `done` is behind us, `ahead` is still to come
  suffices ∀ (ahead done : List (Trade τ K)) (router : Router τ K),
      Spent token amount router done → pre = done ++ ahead →
      router.Executes (legsFrom (debited plan) (ahead ++ trade :: post)) →
      funds token amount pre trade.tokenIn = debited plan trade.tokenIn by
    refine this pre [] _ spent_start rfl ?_
    rw [← hplan]
    exact h
  intro ahead
  induction ahead with
  | nil =>
    intro done router hdone hpre hexec
    rw [List.append_nil] at hpre
    subst hpre
    obtain ⟨hspent, -, -⟩ := hexec
    have hsplit : splitOf (debited plan) trade post = 0 :=
      if_neg fun ⟨later, hlater, heq⟩ => hlast later hlater heq
    rw [Router.spent, hsplit, if_pos rfl, hdone.balance] at hspent
    rw [hplan, debited_append, debited_cons, if_pos rfl, debited_eq_zero hlast, ← hspent]
    ring
  | cons next ahead ih =>
    intro done router hdone hpre hexec
    obtain ⟨hspent, -, hrest⟩ := hexec
    refine ih (done ++ [next]) _ (hdone.swap hspent) ?_ hrest
    rw [hpre, List.append_assoc]
    rfl

variable [IsStrictOrderedRing K]

theorem debited_nonneg {trades : List (Trade τ K)} (h : ∀ trade ∈ trades, 0 < trade.amountIn)
    (token : τ) : 0 ≤ debited trades token := by
  refine List.sum_nonneg fun x hx => ?_
  obtain ⟨trade, htrade, rfl⟩ := List.mem_map.mp hx
  split
  · exact (h trade htrade).le
  · exact le_rfl

/-- **A plan that is funded at every trade** is executed exactly. -/
theorem executes_of_funded (hpos : ∀ trade ∈ plan, 0 < trade.amountIn)
    (hfunded : ∀ pre trade post, plan = pre ++ trade :: post →
      funds token amount pre trade.tokenIn = debited plan trade.tokenIn) :
    (Router.start token amount).Executes (splitsFor plan) := by
  suffices ∀ (ahead done : List (Trade τ K)) (router : Router τ K),
      Spent token amount router done →
      (∀ t base, router.firstUse t = some base → base = debited plan t) → plan = done ++ ahead →
      router.Executes (legsFrom (debited plan) ahead) from
    this plan [] _ spent_start (by simp [Router.start]) rfl
  intro ahead
  induction ahead with
  | nil => exact fun _ _ _ _ _ => trivial
  | cons trade rest ih =>
    intro done router hdone hfirst hplan
    have hfunds := hfunded done trade rest hplan
    have htotal : debited plan trade.tokenIn =
        debited done trade.tokenIn + (trade.amountIn + debited rest trade.tokenIn) := by
      conv_lhs => rw [hplan, debited_append, debited_cons, if_pos rfl]
    have hbase : router.base trade.tokenIn = debited plan trade.tokenIn := by
      rw [Router.base]
      rcases huse : router.firstUse trade.tokenIn with _ | base
      · rw [Option.getD_none, hdone.received, hfunds]
      · exact hfirst _ _ huse
    have hin : 0 < trade.amountIn := hpos trade (by simp [hplan])
    have hdone0 : 0 ≤ debited done trade.tokenIn :=
      debited_nonneg (fun t ht => hpos t (by simp [hplan, ht])) _
    have hrest0 : 0 ≤ debited rest trade.tokenIn :=
      debited_nonneg (fun t ht => hpos t (by simp [hplan, ht])) _
    have hspent : router.spent ⟨trade.tokenIn, trade.tokenOut, splitOf (debited plan) trade rest,
        trade.amountOut⟩ = trade.amountIn := by
      unfold splitOf Router.spent
      dsimp only
      split
      case isTrue hlater =>
        -- a share of the total
        have hne : debited plan trade.tokenIn ≠ 0 := by
          rw [htotal]
          linarith
        rw [if_neg (div_ne_zero hin.ne' hne), hbase, div_mul_cancel₀ _ hne]
      case isFalse hlast =>
        -- the rest
        have hnone : debited rest trade.tokenIn = 0 :=
          debited_eq_zero fun later hlater heq => hlast ⟨later, hlater, heq⟩
        rw [if_pos rfl, hdone.balance, hfunds, htotal, hnone]
        ring
    refine ⟨hspent, ?_, ih (done ++ [trade]) _ (hdone.swap hspent) ?_ (by simp [hplan])⟩
    · rw [hspent]
      change _ ≤ router.balance trade.tokenIn
      rw [hdone.balance, hfunds, htotal]
      linarith
    · intro t base ht
      simp only [Router.swap] at ht
      split at ht
      case isTrue heq =>
        rw [Option.some.injEq] at ht
        rw [← ht, hbase, heq]
      case isFalse => exact hfirst t base ht

omit [IsStrictOrderedRing K] in
/-- What is left after an exact run. -/
theorem balance_of_executes
    (h : (Router.start token amount).Executes (splitsFor plan)) (t : τ) :
    ((Router.start token amount).run ((splitsFor plan).map (·.1))).balance t =
      funds token amount plan t - debited plan t := by
  suffices ∀ (ahead done : List (Trade τ K)) (router : Router τ K),
      Spent token amount router done →
      router.Executes (legsFrom (debited plan) ahead) →
      (router.run ((legsFrom (debited plan) ahead).map (·.1))).balance t =
        funds token amount (done ++ ahead) t - debited (done ++ ahead) t from
    this plan [] _ spent_start h
  intro ahead
  induction ahead with
  | nil =>
    intro done router hdone _
    rw [List.append_nil]
    exact hdone.balance t
  | cons trade rest ih =>
    intro done router hdone hexec
    obtain ⟨hspent, -, hrest⟩ := hexec
    rw [List.append_cons]
    exact ih _ _ (hdone.swap hspent) hrest

end

end SplitRouter
