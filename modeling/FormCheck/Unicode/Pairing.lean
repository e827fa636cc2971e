import FormCheck.Unicode.CodeSet
import FormCheck.Text.Basic

/-!
# Tables of pairs

A table that pairs code points with code points lists runs of pairs, in which both members go up
by the same step. A text of runs writes `41:61` for one pair, `41:61*26` for a run of pairs in
which both members go up by one, and `100:101*24/2` for a run in which both go up by two.

## Main definitions

* `Pairing.Run` : a run of pairs.
* `Pairing.ofText` : the pairs that a text writes.
-/

namespace FormCheck.Pairing

/-- A run of pairs. -/
structure Run where
  /-- The first member of the first pair. -/
  source : Nat
  /-- The second member of the first pair. -/
  target : Nat
  /-- The number of pairs. -/
  count : Nat
  /-- By how much both members go up from one pair to the next. -/
  step : Nat

/-- The pairs of a run. -/
def Run.pairs (r : Run) : List (Nat × Nat) :=
  (List.range r.count).map fun i => (r.source + i * r.step, r.target + i * r.step)

/-- The run that one entry writes. -/
def Run.ofWord? (word : String) : Option Run :=
  match word.splitOn ":" with
  | [source, rest] =>
    let (target, run) := match rest.splitOn "*" with
      | [target, run] => (target, run)
      | _ => (rest, "1")
    let (count, step) := match run.splitOn "/" with
      | [count, step] => (count, step)
      | _ => (run, "1")
    some ⟨Text.hexValue source.toList, Text.hexValue target.toList, count.toNat?.getD 1,
      step.toNat?.getD 1⟩
  | _ => none

/-- The pairs that a text of entries writes. -/
def ofText (text : String) : List (Nat × Nat) :=
  ((words text).filterMap Run.ofWord?).flatMap Run.pairs

end FormCheck.Pairing
