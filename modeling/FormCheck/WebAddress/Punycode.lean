/-!
# Punycode

Punycode writes any text in ASCII letters, digits and hyphens. The ASCII characters of the text
come first; a hyphen follows them if there are any; then come the other characters, each as a
number that tells where it goes and by how much it exceeds the one before.

A number is written in digits of base 36, the lowest one first, and a digit below a threshold ends
it. The thresholds adapt to the sizes of the numbers read so far.

## Main definitions

* `Punycode.decode?` : the text that a Punycode text writes.
-/

namespace FormCheck.Punycode

/-- The value of a digit: letters in either case first, then the ten digits. -/
def digit? (c : Char) : Option Nat :=
  if 'a' ≤ c ∧ c ≤ 'z' then some (c.toNat - 'a'.toNat)
  else if 'A' ≤ c ∧ c ≤ 'Z' then some (c.toNat - 'A'.toNat)
  else if c.isDigit then some (c.toNat - '0'.toNat + 26)
  else none

/-- The threshold of the digit with the given weight index, counted in steps of 36. -/
def threshold (k bias : Nat) : Nat := min 26 (max 1 (k - bias))

/-- Divides a number by 35 until it is at most 455, and counts the divisions in steps of 36. -/
def reduce (delta k : Nat) : Nat × Nat :=
  if 455 < delta then reduce (delta / 35) (k + 36) else (delta, k)
termination_by delta
decreasing_by omega

/-- The bias after a number `delta`, when the text then has `count` characters. The first number is
damped more than the others. -/
def adapt (delta count : Nat) (first : Bool) : Nat :=
  let delta := if first then delta / 700 else delta / 2
  let (delta, k) := reduce (delta + delta / count) 0
  k + 36 * delta / (delta + 38)

/-- The largest number that may arise while a number is read. -/
def numberLimit : Nat := Nat.pow 2 32 - 1

/-- Reads one number: adds its digits to `value` with growing weights up to a digit below its
threshold. Gives the number and the text after it. -/
def readNumber (bias : Nat) : (value weight k : Nat) → List Char → Option (Nat × List Char)
  | _, _, _, [] => none
  | value, weight, k, c :: rest =>
    (digit? c).bind fun d =>
      let value := value + d * weight
      let t := threshold k bias
      if numberLimit < value then none
      else if d < t then some (value, rest)
      else if numberLimit < weight * (36 - t) then none
      else readNumber bias value (weight * (36 - t)) (k + 36) rest

/-- Reads the numbers and inserts the characters that they stand for. `steps` bounds their number
and may be the length of the text. -/
def insertAll : (steps : Nat) → (n i bias : Nat) → (out : List Nat) → List Char →
    Option (List Nat)
  | _, _, _, _, out, [] => some out
  | 0, _, _, _, _, _ => none
  | steps + 1, n, i, bias, out, s =>
    (readNumber bias i 1 36 s).bind fun (value, rest) =>
      let count := out.length + 1
      let bias := adapt (value - i) count (i == 0)
      let n := n + value / count
      let place := value % count
      if n.isValidChar then
        insertAll steps n (place + 1) bias (out.take place ++ n :: out.drop place) rest
      else none

/-- The code points of the text that a Punycode text writes. -/
def decode? (s : List Char) : Option (List Nat) :=
  let (basic, numbers) := match s.reverse.dropWhile (· ≠ '-') with
    | _ :: c :: before => ((c :: before).reverse, s.drop (before.length + 2))
    | _ => ([], s)
  if basic.all fun c => c.toNat < 0x80 then
    insertAll (numbers.length + 1) 0x80 0 72 (basic.map Char.toNat) numbers
  else none

end FormCheck.Punycode
