import FormCheck.Unicode.Composition

/-!
# The composed normal form

Texts that look the same can be written with characters that already bear their marks or with
plain characters followed by marks. In the composed normal form every character is first taken
apart, the marks after it are put into the order of their combining classes, and then each mark is
joined to its character wherever a character for both exists.

## Main definitions

* `Unicode.composed` : the composed normal form of a list of code points.
-/

namespace FormCheck.Unicode

/-- The code points that a code point is taken apart into. `steps` bounds how often the first part
is taken apart again. -/
def takeApart : (steps : Nat) → Nat → List Nat
  | 0, c => [c]
  | steps + 1, c =>
    match decompose? c with
    | none => [c]
    | some (first, second) => takeApart steps first ++ [second]

/-- Puts a mark in its place among marks that are ordered by combining class, after those of its
own class. -/
def placeMark (mark : Nat × Nat) : List (Nat × Nat) → List (Nat × Nat)
  | [] => [mark]
  | other :: rest =>
    if other.2 ≤ mark.2 then other :: placeMark mark rest else mark :: other :: rest

/-- Orders each run of marks by combining class. `run` holds the ordered marks since the last
character that does not reorder. -/
def orderMarks (run : List (Nat × Nat)) : List Nat → List (Nat × Nat)
  | [] => run
  | c :: rest =>
    let k := combiningClass c
    if k = 0 then run ++ (c, 0) :: orderMarks [] rest
    else orderMarks (placeMark (c, k) run) rest

/-- Joins marks to the character before them. `starter` is the last character that does not
reorder, and `kept` are the marks after it that were not joined, the last one first. -/
def joinMarks (starter : Option Nat) (kept : List (Nat × Nat)) : List (Nat × Nat) → List Nat
  | [] => starter.toList ++ kept.reverse.map Prod.fst
  | (c, k) :: rest =>
    let blocked := match kept with
      | [] => false
      | (_, last) :: _ => k ≤ last
    match (if blocked then none else starter.bind (compose? · c)) with
    | some joined => joinMarks (some joined) kept rest
    | none =>
      if k = 0 then starter.toList ++ kept.reverse.map Prod.fst ++ joinMarks (some c) [] rest
      else joinMarks starter ((c, k) :: kept) rest

/-- The composed normal form of a list of code points. -/
def composed (s : List Nat) : List Nat :=
  joinMarks none [] (orderMarks [] (s.flatMap (takeApart 8)))

end FormCheck.Unicode
