import FormCheck.Decimal.Reading
import FormCheck.Text.Basic

/-!
# Internet addresses

An address of version 4 is four numbers below 256 in decimal, without leading zeros, divided by
points. An address of version 6 is eight groups of up to four hexadecimal digits, divided by
colons; the last two groups may be written as an address of version 4, and one run of at least one
zero group may be left out between two colons.

## Main definitions

* `Address.isV4`, `Address.isV6` : whether a text is an address of a version.
* `Address.Family` : which versions a rule admits.
-/

namespace FormCheck.Address

/-- Whether a text is a number below 256 in decimal, without leading zeros. -/
def isByte (s : List Char) : Bool :=
  !s.isEmpty && s.length ≤ 3 && s.all Decimal.isDigit && (s.length == 1 || s.head? != some '0') &&
    Decimal.natOf s < 256

/-- Whether a text is an address of version 4. -/
def isV4 (s : List Char) : Bool :=
  let parts := s.splitOn '.'
  parts.length == 4 && parts.all isByte

/-- Whether a text is a group of hexadecimal digits of an address of version 6. -/
def isGroup (s : List Char) : Bool :=
  !s.isEmpty && s.length ≤ 4 && s.all Text.isHexDigit

/-- The number of groups that texts between colons stand for, if they stand for groups. The last
one may be an address of version 4, which stands for two. -/
def countGroups : List (List Char) → Option Nat
  | [] => some 0
  | [last] => if isGroup last then some 1 else if isV4 last then some 2 else none
  | group :: rest => if isGroup group then (countGroups rest).map (· + 1) else none

/-- The number of groups that a text stands for. The empty text stands for none. -/
def groups (s : List Char) : Option Nat :=
  if s.isEmpty then some 0 else countGroups (s.splitOn ':')

/-- Splits a text at its first pair of adjacent colons. -/
def splitAtGap : List Char → Option (List Char × List Char)
  | ':' :: ':' :: rest => some ([], rest)
  | c :: rest => (splitAtGap rest).map fun (before, after) => (c :: before, after)
  | [] => none

/-- Whether a text is an address of version 6. Before a gap only plain groups may stand. -/
def isV6 (s : List Char) : Bool :=
  match splitAtGap s with
  | none => groups s == some 8
  | some (before, after) =>
    match groups before, groups after with
    | some m, some n => !before.contains '.' && m + n ≤ 7
    | _, _ => false

/-- Which versions of addresses a rule admits. -/
inductive Family where
  /-- Version 4 only. -/
  | v4
  /-- Version 6 only. -/
  | v6
  /-- Both versions. -/
  | any
  deriving DecidableEq, Repr

namespace Family

/-- The family that a rule parameter names. No parameter and any other text admit both. -/
def ofParam : Option String → Family
  | some "ipv4" => .v4
  | some "ipv6" => .v6
  | _ => .any

/-- Whether a text is an address of a family. -/
def admits : Family → List Char → Bool
  | .v4, s => isV4 s
  | .v6, s => isV6 s
  | .any, s => isV4 s || isV6 s

end Family

end FormCheck.Address
