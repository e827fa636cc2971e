import FormCheck.Pattern.Class

/-!
# Reading patterns

A pattern text is read from left to right, with a stack of the groups that are open. Inside a
group, alternatives are divided by bars, and each alternative is a sequence of items. A repetition
operator applies to the item before it.

Lookaround, backreferences and octal escapes are refused, as are groups that share a name and
patterns that nest more than `nestingLimit` deep.

## Main definitions

* `Pattern.Group` : an open group with what has been read of it.
* `Pattern.readExpr` : the expression that a pattern text writes.
-/

namespace FormCheck.Pattern

/-- The greatest depth of nesting of a pattern. -/
def nestingLimit : Nat := 250

/-- An item of a sequence. -/
structure Item where
  /-- The pattern that the item stands for. -/
  expr : Expr
  /-- How deep the item nests. -/
  depth : Nat
  /-- Whether a repetition operator may follow. It may not follow flags. -/
  repeatable : Bool

/-- An open group with what has been read of it. -/
structure Group where
  /-- The items of the alternative under construction, the last one first. -/
  items : List Item
  /-- The alternatives before it with their depths, the last one first. -/
  branches : List (Expr × Nat)
  /-- The flags in force. -/
  flags : Flags

namespace Group

/-- The group at its start. -/
def start (flags : Flags) : Group := ⟨[], [], flags⟩

/-- Adds an item. -/
def push (g : Group) (expr : Expr) (depth : Nat) : Group :=
  { g with items := ⟨expr, depth, true⟩ :: g.items }

/-- The sequence under construction and its depth: a lone item nests no deeper than itself. -/
def sequence (g : Group) : Expr × Nat :=
  let expr := Expr.seqAll (g.items.reverse.map Item.expr)
  match g.items with
  | [] => (expr, 0)
  | [item] => (expr, item.depth)
  | items => (expr, (items.map Item.depth).foldl max 0 + 1)

/-- Ends an alternative at a bar. -/
def endBranch (g : Group) : Group :=
  { g with items := [], branches := g.sequence :: g.branches }

/-- The pattern that a complete group stands for and its depth. -/
def finish (g : Group) : Expr × Nat :=
  match g.branches with
  | [] => g.sequence
  | branches =>
    let all := (g.sequence :: branches).reverse
    (Expr.altAll (all.map Prod.fst), (all.map Prod.snd).foldl max 0 + 1)

/-- Replaces the last item by a repetition of it, if it can be repeated. -/
def repeatLast (g : Group) (min : Nat) (max : Option Nat) : Option Group :=
  match g.items with
  | item :: rest =>
    if item.repeatable then
      some { g with items := ⟨item.expr.times min max, item.depth + 1, true⟩ :: rest }
    else none
  | [] => none

end Group

/-- The text after a question mark that makes a repetition reluctant. Which texts match does not
depend on it. -/
def skipReluctant : List Char → List Char
  | '?' :: rest => rest
  | s => s

/-- The largest count of a repetition. -/
def countLimit : Nat := Nat.pow 2 32 - 1

/-- Reads a count of a repetition, with blanks around it. No digits give no count; a count beyond
the limit is refused. -/
def readCount (f : Flags) (s : List Char) : Option (Option Nat × List Char) :=
  let s := s.dropWhile Text.isBlank
  let (digits, rest) := takeSpaced f Char.isDigit s.length s
  let rest := if f.verbose then skip f rest else rest.dropWhile Text.isBlank
  let count := Decimal.natOf digits
  if digits.isEmpty then some (none, rest)
  else if countLimit < count then none
  else some (some count, rest)

/-- Reads the bounds of a repetition after the opening brace. The lower bound must be there; after
a comma the upper bound may be missing, and then there is none. -/
def readBounds (f : Flags) (s : List Char) : Option ((Nat × Option Nat) × List Char) :=
  (readCount f (skip f s)).bind fun (low, rest) =>
    low.bind fun low =>
      match rest with
      | '}' :: tail => some ((low, some low), tail)
      | ',' :: rest =>
        match skip f rest with
        | '}' :: tail => some ((low, none), tail)
        | rest =>
          (readCount f rest).bind fun (high, rest) =>
            high.bind fun high =>
              match rest with
              | '}' :: tail => if low ≤ high then some ((low, some high), tail) else none
              | _ => none
      | _ => none

/-- Sets or clears the flag with the given letter. The letter `U`, which makes repetitions
reluctant, changes nothing here. -/
def Flags.set? (f : Flags) (letter : Char) (value : Bool) : Option Flags :=
  match letter with
  | 'i' => some { f with ignoreCase := value }
  | 'm' => some { f with multiLine := value }
  | 's' => some { f with dotAll := value }
  | 'U' => some f
  | 'u' => some { f with unicode := value }
  | 'R' => some { f with returns := value }
  | 'x' => some { f with verbose := value }
  | _ => none

/-- Reads flags up to `:` or `)`. Flags after a hyphen are cleared. No flag and no hyphen may be
repeated, and a hyphen may not come last. `seen` holds the letters so far. Gives the flags, whether
there were any, the character that ended them and the rest of the text. -/
def readFlags (f : Flags) (seen : List Char) :
    List Char → Option (Flags × Bool × Char × List Char)
  | [] => none
  | c :: rest =>
    if c = ':' ∨ c = ')' then
      if seen.head? = some '-' then none else some (f, !seen.isEmpty, c, rest)
    else if seen.contains c then none
    else if c = '-' then readFlags f (c :: seen) rest
    else (f.set? c (!seen.contains '-')).bind fun f => readFlags f (c :: seen) rest

/-- Whether a character can stand in the name of a group. -/
def isNameChar (first : Bool) (c : Char) : Bool :=
  let letter := c == '_' || Unicode.alphabetic.contains c.toNat
  if first then letter
  else letter || c == '.' || c == '[' || c == ']' ||
    (Unicode.inCategories ["Nd", "Nl", "No"]).contains c.toNat

/-- Reads the name of a group up to `>`. -/
def readName (s : List Char) : Option (List Char × List Char) :=
  match s.takeWhile (· ≠ '>'), s.dropWhile (· ≠ '>') with
  | c :: name, _ :: rest =>
    if isNameChar true c && name.all (isNameChar false) then some (c :: name, rest) else none
  | _, _ => none

/-- What an opening parenthesis starts. -/
inductive Opening where
  /-- A group with flags of its own. -/
  | group (flags : Flags) (name : Option (List Char))
  /-- No group: flags for the rest of the group around it. -/
  | directive (flags : Flags)

/-- Reads what follows an opening parenthesis. -/
def readOpening (f : Flags) (s : List Char) : Option (Opening × List Char) :=
  match skip f s with
  | '?' :: '=' :: _ => none
  | '?' :: '!' :: _ => none
  | '?' :: '<' :: '=' :: _ => none
  | '?' :: '<' :: '!' :: _ => none
  | '?' :: 'P' :: '<' :: rest =>
    (readName rest).map fun (name, tail) => (.group f (some name), tail)
  | '?' :: '<' :: rest => (readName rest).map fun (name, tail) => (.group f (some name), tail)
  | '?' :: rest =>
    (readFlags f [] rest).bind fun (flags, any, last, tail) =>
      if last = ':' then some (.group flags none, tail)
      else if any then some (.directive flags, tail)
      else none
  | rest => some (.group f none, rest)

/-- The expression that an escape or a plain character stands for. A character written as `\x` with
two digits is refused beyond ASCII where patterns do not know Unicode. -/
def Atom.expr? (f : Flags) : Atom → Option Expr
  | .literal c byte =>
    if byte && !f.unicode && 0x80 ≤ c.toNat then none else some (.chars (f.letter c))
  | .set s => some (.chars s)
  | .look l => some (.look l)

/-- Reads the rest of a pattern, with `group` the innermost open group, `outer` those around it and
`names` the names of groups so far. Gives the expression and its depth. -/
def readGroups :
    (steps : Nat) → (group : Group) → (outer : List Group) → (names : List (List Char)) →
      List Char → Option (Expr × Nat)
  | 0, _, _, _, _ => none
  | steps + 1, group, outer, names, s =>
    let f := group.flags
    match skip f s with
    | [] => if outer.isEmpty then some group.finish else none
    | c :: rest =>
      match c with
      | '(' =>
        (readOpening f rest).bind fun (opening, tail) =>
          match opening with
          | .directive flags =>
            let item : Item := ⟨.empty, 0, false⟩
            readGroups steps { group with flags := flags, items := item :: group.items } outer
              names tail
          | .group flags none => readGroups steps (.start flags) (group :: outer) names tail
          | .group flags (some name) =>
            if names.contains name then none
            else readGroups steps (.start flags) (group :: outer) (name :: names) tail
      | ')' =>
        match outer with
        | [] => none
        | parent :: outer =>
          let (expr, depth) := group.finish
          readGroups steps (parent.push expr (depth + 1)) outer names rest
      | '|' => readGroups steps group.endBranch outer names rest
      | '[' =>
        (readClass f rest).bind fun (set, depth, tail) =>
          readGroups steps (group.push (.chars set) depth) outer names tail
      | '?' =>
        (group.repeatLast 0 (some 1)).bind fun group =>
          readGroups steps group outer names (skipReluctant rest)
      | '*' =>
        (group.repeatLast 0 none).bind fun group =>
          readGroups steps group outer names (skipReluctant rest)
      | '+' =>
        (group.repeatLast 1 none).bind fun group =>
          readGroups steps group outer names (skipReluctant rest)
      | '\x7b' =>
        (readBounds f rest).bind fun ((low, high), tail) =>
          (group.repeatLast low high).bind fun group =>
            readGroups steps group outer names (skipReluctant (skip f tail))
      | '\\' =>
        (readEscape f rest).bind fun (atom, tail) =>
          (atom.expr? f).bind fun expr => readGroups steps (group.push expr 0) outer names tail
      | '.' =>
        f.dot.bind fun set => readGroups steps (group.push (.chars set) 0) outer names rest
      | '^' => readGroups steps (group.push (.look f.lineStart) 0) outer names rest
      | '$' => readGroups steps (group.push (.look f.lineEnd) 0) outer names rest
      | c => readGroups steps (group.push (.chars (f.letter c)) 0) outer names rest

/-- The expression that a pattern text writes, read with the given flags. -/
def readExpr (f : Flags) (s : List Char) : Option Expr :=
  (readGroups (s.length + 1) (.start f) [] [] s).bind fun (expr, depth) =>
    if depth ≤ nestingLimit then some expr else none

end FormCheck.Pattern
