import FormCheck.Pattern.Expr
import FormCheck.Unicode.Property

/-!
# Matching machines

A pattern is matched by a machine of numbered states. All states that the text read so far can
have led to are followed at once, so matching takes time proportional to the length of the text
times the number of states, whatever the pattern.

## Main definitions

* `Pattern.State` : what a state waits for.
* `Pattern.Machine.ofExpr` : the machine of a pattern.
* `Pattern.Machine.occursIn` : whether some part of a text matches.
-/

namespace FormCheck.Pattern

/-- What a state waits for, and where it leads. -/
inductive State where
  /-- The pattern is matched. -/
  | done
  /-- A character of a set. -/
  | eat (set : CodeSet) (next : Nat)
  /-- A condition on the place. -/
  | check (condition : Look) (next : Nat)
  /-- Nothing: it leads to two states at once. -/
  | fork (left right : Nat)
  deriving Repr, Inhabited

/-- The states of a machine by number, with the number of the first one. -/
structure Machine where
  /-- The states by number. -/
  states : Array State
  /-- The number of the first state. -/
  start : Nat
  deriving Repr, Inhabited

namespace Machine

/-- Adds a state. -/
def add (m : Machine) (s : State) : Machine := ⟨m.states.push s, m.states.size⟩

/-- Adds `count` copies of a part, one after another, in front of the first state. -/
def addTimes (part : Machine → Machine) : (count : Nat) → Machine → Machine
  | 0, m => m
  | count + 1, m => addTimes part count (part m)

/-- Adds up to `count` copies of a part in front of the first state, each of which may be left out
together with those after it. `exit` is where to go on without any of them. -/
def addOptional (part : Machine → Machine) (exit : Nat) : (count : Nat) → Machine → Machine
  | 0, m => m
  | count + 1, m =>
    let m := part m
    addOptional part exit count (m.add (.fork m.start exit))

/-- Adds a part that may be repeated any number of times, in front of the first state. The fork
that closes the loop is added first and completed when the part is there. -/
def addLoop (part : Machine → Machine) (m : Machine) : Machine :=
  let exit := m.start
  let fork := m.states.size
  let m := part (m.add (.fork exit exit))
  ⟨m.states.set! fork (.fork m.start exit), fork⟩

/-- Adds the states of a pattern in front of the first state of a machine. -/
def prepend : Expr → Machine → Machine
  | .empty, m => m
  | .chars set, m => m.add (.eat set m.start)
  | .look condition, m => m.add (.check condition m.start)
  | .seq first second, m => prepend first (prepend second m)
  | .alt first second, m =>
    let exit := m.start
    let m := prepend first m
    let left := m.start
    let m := prepend second ⟨m.states, exit⟩
    m.add (.fork left m.start)
  | .repeated body min max, m =>
    let m := match max with
      | none => addLoop (prepend body) m
      | some max => addOptional (prepend body) m.start (max - min) m
    addTimes (prepend body) min m

/-- The machine of a pattern. -/
def ofExpr (e : Expr) : Machine := prepend e ⟨#[.done], 0⟩

/-! ### Matching -/

/-- Whether a character is part of a word. -/
def isWordChar (ascii : Bool) (c : Char) : Bool :=
  if ascii || c.toNat < 0x80 then c.isAlphanum || c == '_'
  else Unicode.wordCharacters.contains c.toNat

/-- Whether there is a character and it is part of a word. -/
def isWord (ascii : Bool) : Option Char → Bool
  | none => false
  | some c => isWordChar ascii c

/-- Whether the place between two characters, or between one and an end of the text, satisfies a
condition. -/
def holds (condition : Look) (before after : Option Char) : Bool :=
  match condition with
  | .textStart => before.isNone
  | .textEnd => after.isNone
  | .lineStart => before.isNone || before == some '\n'
  | .lineEnd => after.isNone || after == some '\n'
  | .returnLineStart =>
    before.isNone || before == some '\n' || (before == some '\r' && after != some '\n')
  | .returnLineEnd =>
    after.isNone || after == some '\r' || (after == some '\n' && before != some '\r')
  | .wordEdge ascii => isWord ascii before != isWord ascii after
  | .noWordEdge ascii => isWord ascii before == isWord ascii after
  | .wordStart ascii => !isWord ascii before && isWord ascii after
  | .wordEnd ascii => isWord ascii before && !isWord ascii after
  | .wordStartHalf ascii => !isWord ascii before
  | .wordEndHalf ascii => !isWord ascii after

/-- The states reached at one place: which numbers have been seen, those that wait for a character,
and whether the pattern is matched. -/
structure Reached where
  /-- The place at which each state was last seen, counted from one. -/
  seen : Array Nat
  /-- The sets and successors of the states that wait for a character. -/
  waiting : List (CodeSet × Nat)
  /-- Whether the pattern is matched. -/
  matched : Bool

/-- Follows all states on a list to those that wait for a character. Each state is entered once per
place, so `steps` may be twice the number of states plus the length of the list. -/
def follow (m : Machine) (place : Nat) (before after : Option Char) :
    (steps : Nat) → List Nat → Reached → Reached
  | 0, _, r => r
  | _ + 1, [], r => r
  | steps + 1, number :: rest, r =>
    if r.seen.getD number place = place then follow m place before after steps rest r
    else
      let r := { r with seen := r.seen.set! number place }
      match m.states[number]? with
      | none => follow m place before after steps rest r
      | some .done => { r with matched := true }
      | some (.eat set next) =>
        follow m place before after steps rest { r with waiting := (set, next) :: r.waiting }
      | some (.check condition next) =>
        if holds condition before after then
          follow m place before after steps (next :: rest) r
        else follow m place before after steps rest r
      | some (.fork left right) =>
        follow m place before after steps (left :: right :: rest) r

/-- Whether a match begins at this place or a later one, or ends there after beginning before.
`current` holds the states reached from before. -/
def search (m : Machine) (place : Nat) (seen : Array Nat) (before : Option Char)
    (current : List Nat) : List Char → Bool
  | [] =>
    (follow m place before none (2 * m.states.size + current.length + 1) (m.start :: current)
      ⟨seen, [], false⟩).matched
  | c :: rest =>
    let r := follow m place before (some c) (2 * m.states.size + current.length + 1)
      (m.start :: current) ⟨seen, [], false⟩
    if r.matched then true
    else
      let next := (r.waiting.filter fun w => w.1.contains c.toNat).map Prod.snd
      search m (place + 1) r.seen (some c) next rest

/-- Whether some part of a text matches. -/
def occursIn (m : Machine) (s : List Char) : Bool :=
  search m 1 (Array.replicate m.states.size 0) none [] s

end Machine

end FormCheck.Pattern
