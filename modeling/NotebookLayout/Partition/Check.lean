import NotebookLayout.Document.Metrics
import NotebookLayout.Partition.Basic

/-!
# Checking a split

A list of intervals splits a document if it covers the lines from 0 to the end without gap or
overlap, is numbered from 0, and only its first interval begins without a marker. The check looks
at the two ends, at each interval alone and at adjacent pairs.
-/

namespace NotebookLayout

variable {α : Type}

/-- What keeps intervals from being a split. -/
inductive PartitionFault where
  /-- There is no interval at all; the lines to cover end at `stop`. -/
  | noInterval (stop : Nat)
  /-- The first interval starts after line 0. -/
  | lateStart
  /-- The last interval does not end at `stop`, where the lines to cover end. -/
  | wrongEnd (stop : Nat)
  /-- The interval at a position does not have it as its ordinal. -/
  | ordinalGap (index : Nat)
  /-- The interval at a position ends before it starts. -/
  | backwards (index : Nat) (lines : LineRange)
  /-- The interval at a position has no marker and is not the first. -/
  | unmarked (index : Nat)
  /-- One interval does not end where the next one starts. -/
  | seam (ordinal next : Nat)
  deriving DecidableEq

/-- The text of the fault. -/
def PartitionFault.message : PartitionFault → String
  | .noInterval stop => s!"partition is empty (line count {stop})"
  | .lateStart => "partition does not start at line 0"
  | .wrongEnd stop => s!"partition does not end at line {stop}"
  | .ordinalGap index => s!"ordinal gap at interval {index}"
  | .backwards index lines => s!"interval {index} runs backwards: {lines.start}..{lines.stop}"
  | .unmarked index => s!"interval {index} is synthetic but not first"
  | .seam ordinal next => s!"gap or overlap between intervals {ordinal} and {next}"

namespace Interval

/-- What is wrong with one interval, at position `index`. -/
def fault? (index : Nat) (iv : Interval α) : Option PartitionFault :=
  if iv.ordinal ≠ index then some (.ordinalGap index)
  else if iv.lines.stop < iv.lines.start then some (.backwards index iv.lines)
  else if index ≠ 0 ∧ iv.marked = false then some (.unmarked index)
  else none

/-- The first interval with a fault of its own; `index` is the position of the first one given. -/
def ownFault? (index : Nat) : List (Interval α) → Option PartitionFault
  | [] => none
  | iv :: rest => (iv.fault? index).or (ownFault? (index + 1) rest)

/-- The first pair of adjacent intervals that do not meet. -/
def seamFault? : List (Interval α) → Option PartitionFault
  | a :: b :: rest =>
    if a.lines.stop ≠ b.lines.start then some (.seam a.ordinal b.ordinal)
    else seamFault? (b :: rest)
  | _ => none

/-- The first fault of the whole list: that of its ends, then those of single intervals, then those
of adjacent ones. -/
def partitionFault? (m : LineMetrics) (intervals : List (Interval α)) : Option PartitionFault :=
  match intervals.head?, intervals.getLast? with
  | some a, some z =>
    if a.lines.start ≠ 0 then some .lateStart
    else if z.lines.stop ≠ m.endLine then some (.wrongEnd m.endLine)
    else (ownFault? 0 intervals).or (seamFault? intervals)
  | _, _ => some (.noInterval m.endLine)

end Interval

end NotebookLayout
