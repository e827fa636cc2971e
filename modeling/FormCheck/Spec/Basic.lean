import FormCheck.Text.Basic

/-!
# Rule specs

A rule is a name, alone (`required`) or followed by a parameter in brackets (`min_length[5]`).

A rule spec is a text such as `required|min_length[5]|in_list[a|b]`: tokens between bars. A bar
separates two tokens only where as many brackets have been opened as closed, so that a parameter
may hold bars. A bracket right after an escaping backslash does not count, and a backslash right
after an escaping backslash does not escape.

## Main definitions

* `Rule` : a name with an optional parameter.
* `Rule.read` : the rule that a token writes. Every token writes one.
* `Rule.write` : the token of a rule.
* `Spec.pieces` : a text cut at its separating bars, with nothing left out.
* `Spec.tokens` : the pieces trimmed, without empty ones and without repetitions.
* `Spec.rules` : the rules that the tokens write.
* `Spec.write` : the spec of a list of rules.
-/

namespace FormCheck

/-! ### Rules -/

/-- A rule name with an optional parameter, the text between its brackets. -/
structure Rule where
  /-- The name under which a provider knows the rule. -/
  name : String
  /-- The text between the brackets; a bare rule has none. -/
  param : Option String
  deriving DecidableEq, Repr, Inhabited

namespace Rule

/-- The text before the last `]`, if there is a `]`. -/
def beforeLastClose (s : List Char) : Option (List Char) :=
  match s.reverse.dropWhile (· ≠ ']') with
  | [] => none
  | _ :: before => some before.reverse

/-- Reads a trimmed token: the name ends at the first `[` and the parameter at the last `]` after
it. A token without such a pair of brackets is all name. -/
def readTrimmed (token : List Char) : Rule :=
  match token.dropWhile (· ≠ '[') with
  | [] => ⟨String.ofList token, none⟩
  | _ :: rest =>
    match beforeLastClose rest with
    | none => ⟨String.ofList token, none⟩
    | some param =>
      ⟨String.ofList (Text.trim (token.takeWhile (· ≠ '['))), some (String.ofList param)⟩

/-- The rule that a token writes. Blanks around the token and around its name do not count; those
inside the brackets do. -/
def read (token : String) : Rule :=
  readTrimmed (Text.trim token.toList)

/-- The token of a rule: its name, followed by its parameter in brackets if it has one. -/
def write (r : Rule) : List Char :=
  match r.param with
  | none => r.name.toList
  | some param => r.name.toList ++ '[' :: param.toList ++ [']']

end Rule

/-! ### Specs -/

namespace Spec

/-- Puts a character in front of the first piece. -/
def consFirst (c : Char) : List (List Char) → List (List Char)
  | [] => [[c]]
  | piece :: rest => (c :: piece) :: rest

/-- What a character adds to the number of open brackets. -/
def weight (escaped : Bool) (c : Char) : Int :=
  if escaped then 0 else if c = '[' then 1 else if c = ']' then -1 else 0

/-- Whether the character after `c` is escaped, when `c` itself is escaped or not. -/
def escapes (escaped : Bool) (c : Char) : Bool :=
  c == '\\' && !escaped

/-- Cuts a text at its separating bars. `escaped` tells whether the first character is escaped,
and `depth` how many more brackets were opened than closed before it. -/
def cut (escaped : Bool) (depth : Int) : List Char → List (List Char)
  | [] => [[]]
  | c :: rest =>
    if c = '|' ∧ depth = 0 then [] :: cut (escapes escaped c) depth rest
    else consFirst c (cut (escapes escaped c) (depth + weight escaped c) rest)

/-- The pieces of a text between its separating bars. There is always at least one. -/
def pieces (s : List Char) : List (List Char) := cut false 0 s

/-- The tokens of a text: its pieces trimmed, without the empty ones; of equal ones only the first
stays. -/
def tokensOf (s : List Char) : List (List Char) :=
  (((pieces s).map Text.trim).filter (fun t => !t.isEmpty)).eraseDups

/-- The tokens of a spec, in order. -/
def tokens (spec : String) : List String :=
  (tokensOf spec.toList).map String.ofList

/-- The rules of a spec, in order. -/
def rules (spec : String) : List Rule :=
  (tokens spec).map Rule.read

/-- Pieces with a bar between neighbours. -/
def join : List (List Char) → List Char
  | [] => []
  | [piece] => piece
  | piece :: rest => piece ++ '|' :: join rest

/-- The spec of a list of rules: their tokens with a bar between neighbours. -/
def write (rules : List Rule) : String :=
  String.ofList (join (rules.map Rule.write))

end Spec

end FormCheck
