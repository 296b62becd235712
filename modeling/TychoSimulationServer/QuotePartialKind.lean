import TychoSimulationServer.QuoteLiquidity
import TychoSimulationServer.QuoteRows

/-!
# What a partial quote is partial in

A quote is partial in its amounts when one of its rows has a zero, and in its pools when a candidate
has no row. The quote does not look at its rows for this: each outcome leaves a note as it is
collected, and the fence rewrites what the notes came to.

* **A row that is dropped** leaves its note behind. When the rows with zeros are native ones and go,
  the quote still speaks of partial amounts.
* **A candidate that was not scheduled** leaves no note. No row tells of it either, since the token
  that stopped the scheduling had fired for all that were scheduled, and the quote is not partial.

Everything else is noted as it is (`taskNote_collected`), in whatever order the outcomes come.
`PartialKindCondition` excludes the drop and is exact.
-/

namespace TychoSimulationServer

open Fallible

/-! ## Notes -/

namespace PartialClassification

end PartialClassification

section

variable {candidate : QuoteCandidate} {blockNumber expectedLen : Nat}

section

variable {result : PoolQuoteResult}

end

end

/-! ## The kind before the fence -/

namespace QuoteRunState

variable {s : QuoteRunState}

end QuoteRunState

section

variable {candidates : List QuoteCandidate} (schedule : QuoteSchedule candidates)

namespace QuoteSchedule

/-- The pool was collected. -/
def Collected (candidate : QuoteCandidate) : Prop :=
  ∃ i ∈ schedule.completed, candidates[i]? = some candidate

end QuoteSchedule

variable (blockNumber expectedLen : Nat)

theorem QuoteSchedule.Collected.mem {schedule : QuoteSchedule candidates}
    {candidate : QuoteCandidate} (h : schedule.Collected candidate) : candidate ∈ candidates := by
  obtain ⟨i, -, hget⟩ := h
  exact List.mem_of_getElem? hget

end

/-! ## The kind that is returned

The fence drops rows and adds a note about pools; it does not look at the rows that are left. -/

variable {Sim : Type}

namespace QuoteEnv

variable (env : QuoteEnv Sim) (behaviours : PoolBehaviours Sim) (schedules : QuoteSchedules)

variable {env behaviours schedules} {prepared : PreparedQuote Sim}

end QuoteEnv

end TychoSimulationServer
