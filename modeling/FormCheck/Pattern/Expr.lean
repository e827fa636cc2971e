import FormCheck.Unicode.CodeSet

/-!
# Pattern expressions

A pattern describes texts: one character of a set, a place between two characters, or patterns
one after another, in the alternative, or repeated.

## Main definitions

* `Pattern.Look` : a condition on a place in a text.
* `Pattern.Expr` : a pattern.
-/

namespace FormCheck.Pattern

/-- A condition on a place in a text. Where a condition speaks of words, `ascii` tells whether only
ASCII letters, digits and the underscore make up words. -/
inductive Look where
  /-- The start of the text. -/
  | textStart
  /-- The end of the text. -/
  | textEnd
  /-- The start of the text or the place after a line feed. -/
  | lineStart
  /-- The end of the text or the place before a line feed. -/
  | lineEnd
  /-- The start of a line, where a carriage return ends a line as well. -/
  | returnLineStart
  /-- The end of a line, where a carriage return ends a line as well. -/
  | returnLineEnd
  /-- A word on exactly one side. -/
  | wordEdge (ascii : Bool)
  /-- A word on both sides or on none. -/
  | noWordEdge (ascii : Bool)
  /-- No word before, a word after. -/
  | wordStart (ascii : Bool)
  /-- A word before, no word after. -/
  | wordEnd (ascii : Bool)
  /-- No word before. -/
  | wordStartHalf (ascii : Bool)
  /-- No word after. -/
  | wordEndHalf (ascii : Bool)
  deriving DecidableEq, Repr

/-- A pattern. -/
inductive Expr where
  /-- The empty text. -/
  | empty
  /-- One character of a set. -/
  | chars (set : CodeSet)
  /-- A place that satisfies a condition. -/
  | look (condition : Look)
  /-- One pattern after another. -/
  | seq (first second : Expr)
  /-- One of two patterns. -/
  | alt (first second : Expr)
  /-- A pattern at least `min` and, if there is a `max`, at most `max` times. -/
  | repeated (body : Expr) (min : Nat) (max : Option Nat)
  deriving DecidableEq, Repr, Inhabited

namespace Expr

/-- The patterns of a list one after another. -/
def seqAll : List Expr → Expr
  | [] => .empty
  | [e] => e
  | e :: rest => .seq e (seqAll rest)

/-- One of the patterns of a list; none of an empty list. -/
def altAll : List Expr → Expr
  | [] => .chars .empty
  | [e] => e
  | e :: rest => .alt e (altAll rest)

/-- Whether a pattern matches no text but the empty one. -/
def isZeroWidth : Expr → Bool
  | .empty => true
  | .chars _ => false
  | .look _ => true
  | .seq a b => a.isZeroWidth && b.isZeroWidth
  | .alt a b => a.isZeroWidth && b.isZeroWidth
  | .repeated body _ _ => body.isZeroWidth

/-- A pattern at least `min` and at most `max` times. Repeating the empty text more than once adds
nothing. -/
def times (body : Expr) (min : Nat) (max : Option Nat) : Expr :=
  if body.isZeroWidth then
    if max = some 0 then .empty
    else if min = 0 then .repeated body 0 (some 1)
    else body
  else if max = some 0 then .empty
  else .repeated body min max

end Expr

end FormCheck.Pattern
