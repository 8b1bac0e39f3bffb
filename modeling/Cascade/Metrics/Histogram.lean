/-!
# Histograms of durations

A histogram counts durations by the least bound that they do not exceed, and keeps their sum. Shown
are cumulative counts: for each bound, how many durations do not exceed it.
-/

namespace Cascade

/-- The bounds of durations, in seconds; one more bucket holds what exceeds them all. -/
def durationBounds : List Float :=
  [0.005, 0.01, 0.025, 0.05, 0.075, 0.1, 0.25, 0.5, 0.75, 1.0, 2.5, 5.0, 7.5, 10.0]

/-- A histogram. -/
structure Histogram where
  /-- The number of durations in each bucket, the last one without bound. -/
  counts : List Nat := List.replicate (durationBounds.length + 1) 0
  sum : Float := 0.0

namespace Histogram

/-- Counts with one more in the bucket of a duration. -/
def countIn (duration : Float) : List Float → List Nat → List Nat
  | bound :: bounds, n :: counts =>
    if duration ≤ bound then (n + 1) :: counts else n :: countIn duration bounds counts
  | [], n :: counts => if duration == duration then (n + 1) :: counts else n :: counts
  | _, [] => []

/-- The histogram with one more duration. -/
def observe (h : Histogram) (duration : Float) : Histogram :=
  { counts := countIn duration durationBounds h.counts, sum := h.sum + duration }

/-- The running sums of counts. -/
def cumulate (before : Nat) : List Nat → List Nat
  | [] => []
  | n :: rest => (before + n) :: cumulate (before + n) rest

/-- The number of durations up to each bound, and up to no bound. -/
def cumulative (h : Histogram) : List Nat := cumulate 0 h.counts

/-- The number of durations. -/
def total (h : Histogram) : Nat := h.counts.foldl (fun sum n => sum + n) 0

end Histogram

end Cascade
