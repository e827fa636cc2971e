/-!
# Characters and parts of texts

A character is blank when it has the Unicode property White_Space: the tab and its four
neighbours, the space, and twenty characters outside ASCII or among its controls. Texts are trimmed
of the blanks at their ends.

A part of a text is replaced where it occurs first, or wherever it occurs.

## Main definitions

* `Text.isBlank` : the property.
* `Text.trimStart`, `Text.trimEnd`, `Text.trim` : a text without the blanks at its ends.
* `Text.isHexDigit` : the hexadecimal digits, in both cases.
* `Text.hexValue` : the number that a run of hexadecimal digits writes.
* `Text.replaceFirst` : the first occurrence of a part replaced.
* `Text.replaceAll` : every occurrence replaced, from left to right and without overlap.
-/

namespace FormCheck.Text

/-! ### Blanks -/

/-- Whether a character has the Unicode property White_Space. -/
def isBlank (c : Char) : Bool :=
  let n := c.toNat
  (0x09 ≤ n && n ≤ 0x0D) || n == 0x20 || n == 0x85 || n == 0xA0 || n == 0x1680 ||
    (0x2000 ≤ n && n ≤ 0x200A) || n == 0x2028 || n == 0x2029 || n == 0x202F || n == 0x205F ||
    n == 0x3000

/-- The text after its leading blanks. -/
def trimStart (s : List Char) : List Char := s.dropWhile isBlank

/-- The text before its trailing blanks. -/
def trimEnd (s : List Char) : List Char := (s.reverse.dropWhile isBlank).reverse

/-- The text between its leading and its trailing blanks. -/
def trim (s : List Char) : List Char := trimEnd (trimStart s)

/-- The trimmed form of a string. -/
def trimmed (s : String) : String := String.ofList (trim s.toList)

/-- A text that begins with no blank keeps its start. -/
theorem trimStart_eq_self {s : List Char} (h : ∀ c ∈ s.head?, isBlank c = false) :
    trimStart s = s := by
  cases s with
  | nil => rfl
  | cons c s =>
    have hc : ¬ isBlank c = true := by simpa using h c rfl
    exact List.dropWhile_cons_of_neg hc

/-- A text that ends with no blank keeps its end. -/
theorem trimEnd_eq_self {s : List Char} (h : ∀ c ∈ s.getLast?, isBlank c = false) :
    trimEnd s = s := by
  have hr : trimStart s.reverse = s.reverse :=
    trimStart_eq_self (by rwa [List.head?_reverse])
  rw [trimStart] at hr
  rw [trimEnd, hr, List.reverse_reverse]

/-- A text without blanks at its ends is trimmed already. -/
theorem trim_eq_self {s : List Char} (hhead : ∀ c ∈ s.head?, isBlank c = false)
    (hlast : ∀ c ∈ s.getLast?, isBlank c = false) : trim s = s := by
  rw [trim, trimStart_eq_self hhead, trimEnd_eq_self hlast]

/-! ### Hexadecimal digits -/

/-- Whether a character is a hexadecimal digit. -/
def isHexDigit (c : Char) : Bool :=
  c.isDigit || ('a' ≤ c && c ≤ 'f') || ('A' ≤ c && c ≤ 'F')

/-- The natural number that a run of hexadecimal digits writes. -/
def hexValue (digits : List Char) : Nat :=
  digits.foldl (fun n c =>
    16 * n + (if c.isDigit then c.toNat - '0'.toNat
      else if 'a' ≤ c then c.toNat - 'a'.toNat + 10 else c.toNat - 'A'.toNat + 10)) 0

/-! ### Replacing parts -/

/-- A text in which the first occurrence of `part` is replaced by `new`. -/
def replaceFirst (part new : List Char) : List Char → List Char
  | [] => []
  | c :: rest =>
    if part.isPrefixOf (c :: rest) then new ++ (c :: rest).drop part.length
    else c :: replaceFirst part new rest

/-- A text in which every occurrence of `part` after the first `skip` characters is replaced by
`new`; those characters are left out. -/
def replaceAfter (part new : List Char) : (skip : Nat) → List Char → List Char
  | _, [] => []
  | skip + 1, _ :: rest => replaceAfter part new skip rest
  | 0, c :: rest =>
    if part.isPrefixOf (c :: rest) then new ++ replaceAfter part new (part.length - 1) rest
    else c :: replaceAfter part new 0 rest

/-- A text in which every occurrence of `part`, which is not empty, is replaced by `new`. -/
def replaceAll (part new s : List Char) : List Char := replaceAfter part new 0 s

end FormCheck.Text
