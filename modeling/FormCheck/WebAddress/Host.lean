import FormCheck.WebAddress.Domain
import FormCheck.Decimal.Reading

/-!
# Hosts

The host of a web address is an internet address of version 6 in brackets, an internet address of
version 4, or a domain name. Where the scheme does not know domain names, it is any text without
certain characters.

The forms of internet addresses are wider here than elsewhere. An address of version 4 may have
fewer than four numbers, the last of which then stands for several bytes, and its numbers may be
hexadecimal or octal.

## Main definitions

* `Host.isNamed` : whether a text is a host of a scheme that knows domain names.
* `Host.isOpaque` : whether a text is a host of another scheme.
-/

namespace FormCheck.Host

/-! ### Version 4 -/

/-- The number that a text writes: decimal, hexadecimal after `0x`, or octal after another `0`. A
lone `0x` writes zero. -/
def number? (s : List Char) : Option Nat :=
  let hexadecimal := match s with
    | '0' :: 'x' :: digits => some digits
    | '0' :: 'X' :: digits => some digits
    | _ => none
  match hexadecimal with
  | some digits =>
    if digits.all fun c => c.isDigit || ('a' ≤ c.toLower && c.toLower ≤ 'f') then
      some (Text.hexValue digits)
    else none
  | none =>
    match s with
    | [] => none
    | ['0'] => some 0
    | '0' :: digits =>
      if digits.all fun c => '0' ≤ c && c ≤ '7' then
        some (digits.foldl (fun n c => 8 * n + (c.toNat - '0'.toNat)) 0)
      else none
    | digits => if digits.all Char.isDigit then some (Decimal.natOf digits) else none

/-- The labels of a name without an empty one at its end. -/
def withoutRoot (labels : List (List Char)) : List (List Char) :=
  if labels.getLast? = some [] then labels.dropLast else labels

/-- Whether the last label of a name, apart from an empty one, is a number, so that the name has to
be an address of version 4. -/
def endsInNumber (labels : List (List Char)) : Bool :=
  match (withoutRoot labels).getLast? with
  | none => false
  | some last => (!last.isEmpty && last.all Char.isDigit) || (number? last).isSome

/-- Whether labels are the numbers of an address of version 4: at most four, all but the last below
256, and the last one small enough for the bytes that are left. -/
def isV4 (labels : List (List Char)) : Bool :=
  match (withoutRoot labels).mapM number? with
  | none => false
  | some numbers =>
    match numbers.reverse with
    | [] => false
    | last :: others =>
      others.length ≤ 3 && others.all (· < 256) && last < Nat.pow 256 (4 - others.length)

/-! ### Version 6 -/

/-- Reads the end of an address of version 6 that is written as one of version 4: exactly `count`
numbers below 256 without leading zeros. -/
def isDottedEnd (count : Nat) (s : List Char) : Bool :=
  let parts := s.splitOn '.'
  parts.length == count && parts.all fun p =>
    !p.isEmpty && p.all Char.isDigit && (p.length == 1 || p.head? != some '0') &&
      Decimal.natOf p < 256

/-- Reads the groups of an address of version 6. `groups` counts those read so far, and `gap` tells
whether a gap has been seen. A group may have up to four digits, and there is none at the end of
the text. `steps` bounds the number of groups and gaps. -/
def readGroups : (steps : Nat) → (groups : Nat) → (gap : Bool) → List Char → Bool
  | 0, _, _, _ => false
  | _ + 1, groups, gap, [] => if gap then groups ≤ 8 else groups == 8
  | steps + 1, groups, gap, c :: rest =>
    if groups == 8 then false
    else if c = ':' then !gap && readGroups steps (groups + 1) true rest
    else
      let digits := (c :: rest).takeWhile fun c =>
        c.isDigit || ('a' ≤ c.toLower && c.toLower ≤ 'f')
      let digits := digits.take 4
      match (c :: rest).drop digits.length with
      | [] => !digits.isEmpty && readGroups steps (groups + 1) gap []
      | '.' :: _ =>
        !digits.isEmpty && groups ≤ 6 && isDottedEnd 4 (c :: rest) &&
          (gap || groups == 6)
      | ':' :: more => !more.isEmpty && readGroups steps (groups + 1) gap more
      | _ => false

/-- Whether a text is an address of version 6. A gap counts as a group. -/
def isV6 (s : List Char) : Bool :=
  match s with
  | ':' :: ':' :: rest => readGroups (rest.length + 1) 1 true rest
  | ':' :: _ => false
  | [] => false
  | s => readGroups (s.length + 1) 0 false s

/-- Whether a text that starts with a bracket is an address of version 6 in brackets. -/
def isBracketed (s : List Char) : Bool :=
  s.getLast? == some ']' && isV6 (s.drop 1).dropLast

/-! ### Names -/

/-- The bytes of a text with its percent escapes replaced. -/
def unescape : List UInt8 → List UInt8
  | 0x25 :: a :: b :: rest =>
    let x := Char.ofNat a.toNat
    let y := Char.ofNat b.toNat
    if Text.isHexDigit x && Text.isHexDigit y then (Text.hexValue [x, y]).toUInt8 :: unescape rest
    else 0x25 :: unescape (a :: b :: rest)
  | byte :: rest => byte :: unescape rest
  | [] => []

/-- Whether a text is a host of a scheme that knows domain names. -/
def isNamed (s : List Char) : Bool :=
  if s.head? = some '[' then isBracketed s
  else
    let bytes := unescape (String.ofList s).toUTF8.toList
    match (String.fromUTF8? ⟨bytes.toArray⟩).bind fun name => Domain.canonical? name.toList with
    | none => false
    | some labels =>
      let texts := labels.map fun l => l.codes.map Char.ofNat
      texts != [[]] && (!endsInNumber texts || isV4 texts)

/-- Whether a text is a host of a scheme that does not know domain names. -/
def isOpaque (s : List Char) : Bool :=
  if s.head? = some '[' then isBracketed s
  else s.all fun c => !("\x00\t\n\r #/:<>?@[\\]^|".toList.contains c)

end FormCheck.Host
