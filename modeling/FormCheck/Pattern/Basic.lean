import FormCheck.Pattern.Reading
import FormCheck.Pattern.Machine
import FormCheck.Pattern.Size

/-!
# Patterns

The regular expressions of rule parameters. Matching looks for a match anywhere in a value and does
not tell upper from lower case. A pattern may be written between slashes.

## Main definitions

* `Pattern` : a compiled pattern.
* `Pattern.compile?` : compiles a pattern text, if it is a pattern of admissible size.
* `Pattern.stripSlashes` : a pattern text without its slashes.
* `Pattern.occursIn` : whether some part of a text matches.
-/

namespace FormCheck

/-- A compiled pattern. -/
structure Pattern where
  /-- The machine that matches it. -/
  machine : Pattern.Machine
  deriving Inhabited

namespace Pattern

/-- The flags with which the patterns of rules start: case does not count, and classes know all of
Unicode. -/
def ruleFlags : Flags where
  ignoreCase := true
  multiLine := false
  dotAll := false
  returns := false
  unicode := true
  verbose := false

/-- Compiles a pattern text. Nothing comes of a text that is no pattern and of a pattern that is
too large. -/
def compile? (text : String) : Option Pattern :=
  (readExpr ruleFlags text.toList).bind fun e =>
    if e.fits then some ⟨Machine.ofExpr e⟩ else none

/-- Whether some part of a text matches. -/
def occursIn (p : Pattern) (s : String) : Bool :=
  p.machine.occursIn s.toList

/-- A pattern text without its slashes: after a leading slash, the last character is dropped as
well, whatever it is. -/
def stripSlashes (text : String) : String :=
  match text.toList with
  | '/' :: rest => String.ofList rest.dropLast
  | _ => text

/-- Whether a pattern text, between slashes or not, is a pattern that occurs in a value. -/
def occurs (text value : String) : Bool :=
  match compile? (stripSlashes text) with
  | none => false
  | some p => p.occursIn value

end Pattern

end FormCheck
