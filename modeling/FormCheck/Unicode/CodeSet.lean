import FormCheck.Decimal.Reading

/-!
# Sets of code points

A set of code points is a list of ranges in ascending order that neither overlap nor touch. The
tables of Unicode properties write such a set as alternating counts: so many code points outside,
so many inside, so many outside, and so on.

## Main definitions

* `CodeSet` : a set of code points.
* `CodeSet.contains` : membership.
* `CodeSet.union`, `CodeSet.compl`, `CodeSet.inter`, `CodeSet.diff` : the set operations.
* `CodeSet.ofCounts` : the set that a text of counts writes.
* `Partition.ofText` : a division of all code points into named classes.
-/

namespace FormCheck

/-- The words of a text, between spaces and line breaks. -/
def wordsOf (text : List Char) : List (List Char) :=
  (text.splitOnP fun c => c == ' ' || c == '\n').filter fun word => !word.isEmpty

/-- The words of a string. -/
def words (text : String) : List String := (wordsOf text.toList).map String.ofList

/-- The last code point. -/
def lastCodePoint : Nat := 0x10FFFF

/-- A set of code points, as ascending ranges with both ends included. -/
structure CodeSet where
  /-- The ranges, in ascending order and with gaps between them. -/
  ranges : List (Nat × Nat)
  deriving DecidableEq, Repr, Inhabited

namespace CodeSet

/-- Whether a code point lies in one of the ascending ranges. -/
def inRanges (c : Nat) : List (Nat × Nat) → Bool
  | [] => false
  | (low, high) :: rest => if c < low then false else if c ≤ high then true else inRanges c rest

/-- Whether a set holds a code point. -/
def contains (s : CodeSet) (c : Nat) : Bool := inRanges c s.ranges

/-- No code point lies in one of no ranges. -/
@[simp] theorem inRanges_nil (c : Nat) : inRanges c [] = false := rfl

/-- A code point in one of some ranges reaches the first of them, and lies in it or in a later
one. -/
theorem inRanges_cons_iff (c low high : Nat) (rest : List (Nat × Nat)) :
    inRanges c ((low, high) :: rest) = true ↔
      low ≤ c ∧ (c ≤ high ∨ inRanges c rest = true) := by
  rw [inRanges]
  split
  · simp only [Bool.false_eq_true, false_iff]
    omega
  · split
    · simp only [true_iff]
      omega
    · exact ⟨fun h => ⟨by omega, .inr h⟩, fun h => h.2.resolve_left ‹_›⟩

/-- The empty set. -/
def empty : CodeSet := ⟨[]⟩

/-- The set of all code points. -/
def all : CodeSet := ⟨[(0, lastCodePoint)]⟩

/-- The code points from `low` to `high`. -/
def range (low high : Nat) : CodeSet := ⟨[(low, high)]⟩

/-- The set of one code point. -/
def single (c : Nat) : CodeSet := range c c

/-- Of all characters, the set of one holds that one. -/
theorem contains_single_iff {c d : Char} : (single c.toNat).contains d.toNat = true ↔ d = c := by
  rw [single, range, contains, inRanges_cons_iff, ← Char.toNat_inj]
  simp only [inRanges_nil, Bool.false_eq_true, or_false]
  omega

/-- Adds the code points from `low` to `high` to ascending ranges. The ranges that overlap or touch
the new one become one with it. -/
def addRange (low high : Nat) : List (Nat × Nat) → List (Nat × Nat)
  | [] => [(low, high)]
  | (low', high') :: rest =>
    if high + 1 < low' then (low, high) :: (low', high') :: rest
    else if high' + 1 < low then (low', high') :: addRange low high rest
    else addRange (min low low') (max high high') rest

/-- The set of the code points that lie in any of the given ranges, in whatever order they are. -/
def ofRanges (l : List (Nat × Nat)) : CodeSet := ⟨l.foldr (fun r => addRange r.1 r.2) []⟩

/-- The code points that are in one of two sets. -/
def union (s t : CodeSet) : CodeSet := ofRanges (s.ranges ++ t.ranges)

/-- The ranges between the given ones, from `start` on. -/
def gaps (start : Nat) : List (Nat × Nat) → List (Nat × Nat)
  | [] => if start ≤ lastCodePoint then [(start, lastCodePoint)] else []
  | (low, high) :: rest =>
    if start < low then (start, low - 1) :: gaps (high + 1) rest else gaps (high + 1) rest

/-- The code points that are not in a set. -/
def compl (s : CodeSet) : CodeSet := ⟨gaps 0 s.ranges⟩

/-- The code points that are in both sets. -/
def inter (s t : CodeSet) : CodeSet := (s.compl.union t.compl).compl

/-- The code points of `s` that are not in `t`. -/
def diff (s t : CodeSet) : CodeSet := s.inter t.compl

/-- The code points that are in exactly one of two sets. -/
def symmDiff (s t : CodeSet) : CodeSet := (s.union t).diff (s.inter t)

/-- Whether a set has no code point. -/
def isEmpty (s : CodeSet) : Bool := s.ranges.isEmpty

/-- Whether all code points of a set are ASCII. -/
def isAscii (s : CodeSet) : Bool := s.ranges.all fun r => r.2 < 0x80

/-- The ranges that alternating counts outside and inside the set lay out from `start` on. -/
def layOut (start : Nat) : List Nat → List (Nat × Nat)
  | outside :: inside :: rest =>
    (start + outside, start + outside + inside - 1) :: layOut (start + outside + inside) rest
  | _ => []

/-- The set that a text writes as alternating counts: code points outside, inside, outside, … -/
def ofCounts (text : String) : CodeSet :=
  ⟨layOut 0 ((wordsOf text.toList).map Decimal.natOf)⟩

end CodeSet

/-- A division of the code points into named classes, as runs in ascending order: the name, the
first and the last code point of each run. -/
abbrev Partition := List (String × Nat × Nat)

namespace Partition

/-- The runs that named counts lay out from `start` on. A missing count is one. -/
def layOut (start : Nat) : List String → Partition
  | [] => []
  | word :: rest =>
    let name := (word.toList.takeWhile Char.isAlpha)
    let count := ((String.ofList (word.toList.drop name.length)).toNat?).getD 1
    (String.ofList name, start, start + count - 1) :: layOut (start + count) rest

/-- The division that a text writes as names, each with the length of its run. -/
def ofText (text : String) : Partition := layOut 0 (words text)

/-- The code points in the classes that satisfy `p`. -/
def select (l : Partition) (p : String → Bool) : CodeSet :=
  CodeSet.ofRanges ((l.filter fun run => p run.1).map fun run => run.2)

end Partition

end FormCheck
