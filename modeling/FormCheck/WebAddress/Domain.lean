import FormCheck.Unicode.Category
import FormCheck.Unicode.Composed
import FormCheck.Unicode.Bidi
import FormCheck.Unicode.Joining
import FormCheck.Unicode.HostMap
import FormCheck.WebAddress.Punycode

/-!
# Domain names

A domain name is a sequence of labels between points. Before it is used, its characters are
replaced by their canonical counterparts, and a label in Punycode is decoded. What then stands in a
label has to be admissible: no character that host names exclude, no mark at the start, joiners only
where they join, and no mixture of directions that would be ambiguous to look at.

## Main definitions

* `Domain.canonical?` : the labels of a domain name in canonical form, if it is admissible.
* `Domain.Label` : a label with whether it has to be written in Punycode.
-/

namespace FormCheck.Domain

open Unicode

/-- The code points of the characters that no domain name holds: controls, the space, the delete
character, and the ASCII characters that divide the parts of a web address. -/
def isForbidden (c : Nat) : Bool :=
  c ≤ 0x20 || c == 0x7F || ("%#/:<>?@[\\]^|".toList.map Char.toNat).contains c

/-- The code points that take the place of the characters of a name, if none is disallowed. -/
def mapped? : List Nat → Option (List Nat)
  | [] => some []
  | c :: rest =>
    match hostStatus c with
    | .valid => (mapped? rest).map (c :: ·)
    | .ignored => mapped? rest
    | .mapped target => (mapped? rest).map (target ++ ·)
    | .disallowed => none

/-! ### Joiners -/

/-- Whether the characters before a joiner, the nearest one first, end in a letter that joins
towards it. -/
def joinsBefore : List Nat → Bool
  | [] => false
  | c :: rest =>
    if joinsLeft.contains c || joinsBoth.contains c then true
    else if joinsThrough.contains c then joinsBefore rest
    else false

/-- Whether the characters after a joiner start with a letter that joins towards it. -/
def joinsAfter : List Nat → Bool
  | [] => false
  | c :: rest =>
    if joinsRight.contains c || joinsBoth.contains c then true
    else if joinsThrough.contains c then joinsAfter rest
    else false

/-- The combining class of the signs that suppress an inherent vowel. -/
def viramaClass : Nat := 9

/-- Whether every joiner stands after a sign that suppresses a vowel, or, if it is a non-joiner,
between letters that would join. `before` holds the characters before the text, the nearest one
first. -/
def joinersFit (before : List Nat) : List Nat → Bool
  | [] => true
  | c :: rest =>
    let afterVirama := match before with
      | [] => false
      | previous :: _ => combiningClass previous == viramaClass
    let fits :=
      if c = 0x200C then afterVirama || (joinsBefore before && joinsAfter rest)
      else if c = 0x200D then afterVirama
      else true
    fits && joinersFit (c :: before) rest

/-! ### Directions -/

/-- Whether a character is written from right to left. -/
def isRightToLeft (c : Nat) : Bool :=
  match bidiClass c with
  | .right | .arabicLetter | .arabicNumber => true
  | _ => false

/-- Whether a label reads unambiguously next to others: it starts with a letter of one direction,
holds nothing of the other one, ends in a letter or a digit, marks aside, and does not mix European
and Arabic digits if it is written from right to left. -/
def directionFits (label : List Nat) : Bool :=
  let classes := label.map bidiClass
  let last := (classes.reverse.dropWhile (· == .mark)).head?
  match classes.head? with
  | none => true
  | some .left =>
    classes.all ([BidiClass.left, .europeanNumber, .neutral, .mark].contains ·) &&
      (last == some .left || last == some .europeanNumber)
  | some first =>
    (first == .right || first == .arabicLetter) &&
      classes.all
        ([BidiClass.right, .arabicLetter, .arabicNumber, .europeanNumber, .neutral,
          .mark].contains ·)
      && (last == some .right || last == some .arabicLetter || last == some .arabicNumber ||
        last == some .europeanNumber) &&
      !(classes.contains .europeanNumber && classes.contains .arabicNumber)

/-! ### Labels -/

/-- A label in canonical form. -/
structure Label where
  /-- Its code points. -/
  codes : List Nat
  deriving DecidableEq, Repr

/-- Whether a label consists of ASCII characters. -/
def Label.isAscii (l : Label) : Bool := l.codes.all (· < 0x80)

/-- The start of a label in Punycode. -/
def punycodeMark : List Nat := "xn--".toList.map Char.toNat

/-- The largest length of a Punycode text. -/
def punycodeLimit : Nat := 2000

/-- The largest number of characters of a label that has to be written in Punycode. -/
def encodedLimit : Nat := 1000

/-- Whether the characters of a label may stand in one. -/
def isAdmissible (codes : List Nat) : Bool :=
  codes.all (fun c => hostStatus c == .valid && !isForbidden c) &&
    !(codes.head?.any marks.contains) && joinersFit [] codes && codes.length ≤ encodedLimit

/-- The label that a Punycode text stands for. It has to be in canonical form and to need
Punycode. -/
def decodeLabel? (text : List Nat) : Option (List Nat) :=
  if punycodeLimit < text.length then none
  else
    (Punycode.decode? (text.map Char.ofNat)).bind fun codes =>
      if codes.all (· < 0x80) || composed codes != codes || punycodeMark.isPrefixOf codes then none
      else some codes

/-- The canonical form of a label whose characters have been replaced, if it is admissible. -/
def canonicalLabel? (codes : List Nat) : Option Label :=
  if codes.all (· < 0x80) && !punycodeMark.isPrefixOf codes then
    if codes.any isForbidden then none else some ⟨codes⟩
  else
    let plain :=
      if !punycodeMark.isPrefixOf codes then some codes
      else if codes.all fun c => c < 0x80 then decodeLabel? (codes.drop punycodeMark.length)
      else none
    plain.bind fun codes => if isAdmissible codes then some ⟨codes⟩ else none

/-- The labels of a domain name in canonical form, if all are admissible. Directions count as soon
as one character is written from right to left. -/
def canonical? (name : List Char) : Option (List Label) :=
  (mapped? (name.map Char.toNat)).bind fun codes =>
    (((composed codes).splitOn '.'.toNat).mapM canonicalLabel?).bind fun labels =>
      let codes := labels.map Label.codes
      if codes.any (·.any isRightToLeft) && !codes.all directionFits then none else some labels

end FormCheck.Domain
