import FormCheck.Pattern.Escape

/-!
# Bracketed classes in patterns

A class in brackets lists characters, ranges and other classes, may be negated, and may combine
what it lists by intersection, difference and symmetric difference. The operators bind weaker than
listing and group from the left.

## Main definitions

* `Pattern.Operand` : what has been listed since the last operator.
* `Pattern.ClassLevel` : an open bracket with what stands in it so far.
* `Pattern.readClass` : reads a bracketed class.
-/

namespace FormCheck.Pattern

/-- What has been listed in a class since its opening bracket or its last operator. -/
structure Operand where
  /-- The listed characters. -/
  set : CodeSet
  /-- The number of listed items. -/
  items : Nat
  /-- The greatest depth of nesting among the items. -/
  depth : Nat
  deriving Repr, Inhabited

namespace Operand

/-- Nothing listed yet. -/
def none : Operand := ⟨.empty, 0, 0⟩

/-- Lists one more item. -/
def add (o : Operand) (set : CodeSet) (depth : Nat) : Operand :=
  ⟨o.set.union set, o.items + 1, max o.depth depth⟩

/-- The depth of nesting of all that is listed: several items together nest once more. -/
def nesting (o : Operand) : Nat := if o.items < 2 then o.depth else o.depth + 1

end Operand

/-- The operators between operands of a class. -/
inductive SetOperator where
  /-- What both operands hold. -/
  | inter
  /-- What the first operand holds and the second does not. -/
  | diff
  /-- What exactly one operand holds. -/
  | symmDiff
  deriving DecidableEq, Repr

/-- Applies an operator. -/
def SetOperator.apply : SetOperator → CodeSet → CodeSet → CodeSet
  | .inter => CodeSet.inter
  | .diff => CodeSet.diff
  | .symmDiff => CodeSet.symmDiff

/-- An open bracket with what stands in it so far. -/
structure ClassLevel where
  /-- Whether the class is negated. -/
  negated : Bool
  /-- The value and the nesting of the operands so far, with the operator after them. -/
  pending : Option (CodeSet × Nat × SetOperator)
  /-- What has been listed since. -/
  operand : Operand
  deriving Inhabited

namespace ClassLevel

/-- The value and the nesting of the class so far. Operands of operators are made insensitive to
case before they are combined. -/
def value (f : Flags) (level : ClassLevel) : CodeSet × Nat :=
  match level.pending with
  | none => (level.operand.set, level.operand.nesting)
  | some (left, depth, operator) =>
    (operator.apply (f.folded left) (f.folded level.operand.set),
      max depth level.operand.nesting + 1)

/-- Starts a new operand after an operator. -/
def operate (f : Flags) (level : ClassLevel) (operator : SetOperator) : ClassLevel :=
  let (set, depth) := level.value f
  { level with pending := some (set, depth, operator), operand := .none }

end ClassLevel

/-- Lists leading hyphens as characters. -/
def readHyphens (f : Flags) : (steps : Nat) → Operand → List Char → Option (Operand × List Char)
  | 0, _, _ => none
  | _ + 1, _, [] => none
  | steps + 1, o, c :: rest =>
    if c = '-' then readHyphens f steps (o.add (.single c.toNat) 0) (skip f rest)
    else some (o, c :: rest)

/-- Reads what follows an opening bracket: a caret that negates, hyphens that stand for
themselves, and, if there are none, a closing bracket that does so too. -/
def openClass (f : Flags) (s : List Char) : Option (ClassLevel × List Char) :=
  let (negated, s) := match skip f s with
    | '^' :: rest => (true, skip f rest)
    | s => (false, s)
  (readHyphens f (s.length + 1) .none s).bind fun (operand, tail) =>
    match operand.items, tail with
    | 0, ']' :: rest =>
      if (skip f rest).isEmpty then none
      else some (⟨negated, none, Operand.none.add (.single 0x5D) 0⟩, skip f rest)
    | _, tail => if tail.isEmpty then none else some (⟨negated, none, operand⟩, tail)

/-- Reads an ASCII class such as `[:alpha:]` after its opening bracket. -/
def readAsciiClass (f : Flags) (s : List Char) : Option (Option CodeSet × List Char) :=
  match s with
  | ':' :: rest =>
    let (negated, rest) := match rest with
      | '^' :: tail => (true, tail)
      | tail => (false, tail)
    match rest.dropWhile (· ≠ ':') with
    | ':' :: ']' :: tail =>
      (asciiClass? (String.ofList (rest.takeWhile (· ≠ ':')))).map fun set =>
        (f.finishClass negated set, tail)
    | _ => none
  | _ => none

/-- Reads one item of a class: an escape or a character that stands for itself. -/
def readItem (f : Flags) : List Char → Option (Atom × List Char)
  | [] => none
  | '\\' :: rest => readEscape f rest
  | c :: rest => some (.literal c false, rest)

/-- The number of a character of a class. Without Unicode it must be ASCII. -/
def itemCode? (f : Flags) : Atom → Option Nat
  | .literal c _ => if f.unicode || c.toNat < 0x80 then some c.toNat else none
  | _ => none

/-- The set of an item that is not part of a range. -/
def itemSet? (f : Flags) : Atom → Option CodeSet
  | .set s => some s
  | .look _ => none
  | atom => (itemCode? f atom).map CodeSet.single

/-- Reads a range or a single item. A hyphen before a closing bracket or another hyphen makes no
range. -/
def readRange (f : Flags) (s : List Char) : Option (CodeSet × List Char) :=
  (readItem f s).bind fun (first, rest) =>
    match skip f rest with
    | [] => none
    | '-' :: tail =>
      match skip f tail with
      | [] => (itemSet? f first).bind fun _ => none
      | c :: more =>
        if c = ']' || c = '-' then (itemSet? f first).map (·, '-' :: tail)
        else (readItem f (c :: more)).bind fun (last, rest) =>
          match itemCode? f first, itemCode? f last with
          | some low, some high => if low ≤ high then some (.range low high, rest) else none
          | _, _ => none
    | tail => (itemSet? f first).map (·, tail)

/-- Reads a class to its closing bracket, with `level` the innermost open bracket and `outer` those
around it. Gives the class, its depth of nesting and the rest of the text. -/
def readLevels (f : Flags) :
    (steps : Nat) → (level : ClassLevel) → (outer : List ClassLevel) → List Char →
      Option (CodeSet × Nat × List Char)
  | 0, _, _, _ => none
  | steps + 1, level, outer, s =>
    match skip f s with
    | [] => none
    | '[' :: rest =>
      match readAsciiClass f rest with
      | some (set, tail) =>
        set.bind fun set =>
          readLevels f steps { level with operand := level.operand.add set 0 } outer tail
      | none =>
        (openClass f rest).bind fun (inner, tail) => readLevels f steps inner (level :: outer) tail
    | ']' :: rest =>
      let (set, depth) := level.value f
      (f.finishClass level.negated set).bind fun set =>
        match outer with
        | [] => some (set, depth + 1, rest)
        | parent :: outer =>
          readLevels f steps { parent with operand := parent.operand.add set (depth + 1) } outer
            rest
    | '&' :: '&' :: rest => readLevels f steps (level.operate f .inter) outer rest
    | '-' :: '-' :: rest => readLevels f steps (level.operate f .diff) outer rest
    | '~' :: '~' :: rest => readLevels f steps (level.operate f .symmDiff) outer rest
    | s =>
      (readRange f s).bind fun (set, tail) =>
        readLevels f steps { level with operand := level.operand.add set 0 } outer tail

/-- Reads a bracketed class after its opening bracket. Gives the class, its depth of nesting and
the rest of the text. -/
def readClass (f : Flags) (s : List Char) : Option (CodeSet × Nat × List Char) :=
  (openClass f s).bind fun (level, rest) => readLevels f (s.length + 1) level [] rest

end FormCheck.Pattern
