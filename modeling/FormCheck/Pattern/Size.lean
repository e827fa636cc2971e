import FormCheck.Pattern.Expr

/-!
# The size of a pattern

A pattern is refused when its machine would be too large. The size is measured on the machine over
the bytes of UTF-8, read forwards and read backwards: so many bytes for each state, and some more
for each way out of a state that has several. A short pattern can be large: a counted repetition
repeats the states of what it repeats, and a class of characters needs a state for each way in
which the bytes of its characters can go on.

## Main definitions

* `Pattern.byteSequences` : the sequences of byte ranges that encode a range of code points.
* `Pattern.Size.ofExpr` : the two sizes of a pattern.
* `Pattern.sizeLimit` : the largest size.
-/

namespace FormCheck.Pattern

/-! ### Byte sequences -/

/-- The bytes of a code point in UTF-8. -/
def utf8Bytes (c : Nat) : List Nat :=
  if c < 0x80 then [c]
  else if c < 0x800 then [0xC0 + c / 64, 0x80 + c % 64]
  else if c < 0x10000 then [0xE0 + c / 4096, 0x80 + c / 64 % 64, 0x80 + c % 64]
  else [0xF0 + c / 262144, 0x80 + c / 4096 % 64, 0x80 + c / 64 % 64, 0x80 + c % 64]

/-- Where a range must be cut so that its code points differ in a way that byte ranges can express:
at a change of the number of bytes, around the surrogates, and at the ends of full blocks of
continuation bytes. Gives the start of the second part. -/
def cutPoint (low high : Nat) : Option Nat :=
  if low < 0xD800 ∧ 0xD800 ≤ high then some 0xD800
  else if 0xD800 ≤ low ∧ low ≤ 0xDFFF ∧ 0xDFFF < high then some 0xE000
  else
    match [0x80, 0x800, 0x10000].find? fun limit => low < limit && limit ≤ high with
    | some limit => some limit
    | none =>
      if high < 0x80 then none
      else
        [64, 4096, 262144].findSome? fun block =>
          if low / block = high / block then none
          else if low % block ≠ 0 then some ((low / block + 1) * block)
          else if high % block ≠ block - 1 then some (high / block * block)
          else none

/-- The sequences of byte ranges that encode the code points of a range, in order. Surrogates have
none. `steps` bounds the depth of the cuts. -/
def byteSequences : (steps : Nat) → (low high : Nat) → List (List (Nat × Nat))
  | 0, _, _ => []
  | steps + 1, low, high =>
    match cutPoint low high with
    | some middle => byteSequences steps low (middle - 1) ++ byteSequences steps middle high
    | none =>
      if 0xD800 ≤ low ∧ high ≤ 0xDFFF then []
      else [(utf8Bytes low).zip (utf8Bytes high)]

/-- The sequences of byte ranges that encode the code points of a set, in order. -/
def setSequences (s : CodeSet) : List (List (Nat × Nat)) :=
  s.ranges.flatMap fun r => byteSequences 32 r.1 r.2

/-! ### Sizes -/

/-- The two sizes of a pattern. -/
structure Size where
  /-- The size of the machine that reads forwards. -/
  forward : Nat
  /-- The size of the machine that reads backwards. -/
  backward : Nat
  deriving DecidableEq, Repr

namespace Size

/-- The size of one state. -/
def state : Nat := 32

/-- The size of a way out by a byte range. -/
def byteWay : Nat := 8

/-- The size of a way out to a state without reading. -/
def freeWay : Nat := 4

/-- The same size in both directions. -/
def both (n : Nat) : Size := ⟨n, n⟩

instance : Add Size := ⟨fun a b => ⟨a.forward + b.forward, a.backward + b.backward⟩⟩

/-- The size of several copies. -/
def times (n : Nat) (a : Size) : Size := ⟨n * a.forward, n * a.backward⟩

/-- The distinct remainders of byte sequences: what may follow each sequence of first bytes. Equal
remainders share their states in the machine that reads forwards. `steps` is the length of the
longest sequence. -/
def remainders : (steps : Nat) → List (List (Nat × Nat)) → List (List (List (Nat × Nat)))
  | 0, _ => []
  | steps + 1, sequences =>
    let firsts := (sequences.filterMap List.head?).eraseDups
    let deeper := firsts.flatMap fun first =>
      let tails := (sequences.filter fun s => s.head? = some first).map List.tail
      remainders steps (tails.filter fun t => !t.isEmpty)
    if sequences.isEmpty then [] else sequences :: deeper

/-- How many places two lists have in common at their starts. -/
def sharedStart : List (Nat × Nat) → List (Nat × Nat) → Nat
  | a :: s, b :: t => if a = b then sharedStart s t + 1 else 0
  | _, _ => 0

/-- The number of beginnings of byte sequences in order, each counted once. Sequences that begin
alike stand next to each other. -/
def beginnings (previous : List (Nat × Nat)) : List (List (Nat × Nat)) → Nat
  | [] => 0
  | sequence :: rest => sequence.length - sharedStart previous sequence + beginnings sequence rest

/-- The size of a class of characters. -/
def ofSet (s : CodeSet) : Size :=
  match s.ranges with
  | [] => both state
  | [(low, high)] =>
    if low = high then both (state * (utf8Bytes low).length) else wide
  | _ => wide
where
  /-- The size of a class of several characters. -/
  wide : Size :=
    if s.isAscii then both (2 * state + byteWay * s.ranges.length)
    else
      let sequences := setSequences s
      let nodes := (remainders 4 sequences).eraseDups
      let ways := nodes.map fun node => (node.filterMap List.head?).eraseDups.length
      ⟨state + state * nodes.length + byteWay * ways.foldl (· + ·) 0,
        2 * state + state * beginnings [] sequences + freeWay * sequences.length⟩

/-- Whether a pattern matches the empty text. -/
def nullable : Expr → Bool
  | .empty => true
  | .chars _ => false
  | .look _ => true
  | .seq a b => nullable a && nullable b
  | .alt a b => nullable a || nullable b
  | .repeated body min _ => min == 0 || nullable body

/-- The size of a repetition of a part. -/
def ofRepetition (part : Size) (nullable : Bool) (min : Nat) : (max : Option Nat) → Size
  | some max =>
    if max = min then times min part
    else times max part + both ((max - min) * (state + 2 * freeWay) + state)
  | none =>
    if min = 0 then
      if nullable then part + both (3 * state + 4 * freeWay) else part + both (state + 2 * freeWay)
    else times min part + both (state + 2 * freeWay)

/-- The two sizes of a pattern. -/
def ofExpr : Expr → Size
  | .empty => both state
  | .chars set => ofSet set
  | .look _ => both state
  | .seq a b => ofExpr a + ofExpr b
  | .alt a b => ofExpr a + ofExpr b + both (2 * state + 2 * freeWay)
  | .repeated body min max => ofRepetition (ofExpr body) (nullable body) min max

end Size

/-- The largest size of a pattern in either direction. -/
def sizeLimit : Nat := 10 * Nat.pow 2 20

/-- Whether a pattern is not too large. -/
def Expr.fits (e : Expr) : Bool :=
  let size := Size.ofExpr e
  size.forward ≤ sizeLimit && size.backward ≤ sizeLimit

end FormCheck.Pattern
