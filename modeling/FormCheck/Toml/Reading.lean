import FormCheck.Toml.Number
import FormCheck.Toml.Assembly

/-!
# Reading TOML

A document is a sequence of statements, each on a line of its own: entries, headers of tables, and
headers of tables in arrays. The entries after a header belong to its table.

## Main definitions

* `Toml.readValue` : reads a value.
* `Toml.read` : the entries of a document.
-/

namespace FormCheck.Toml

/-! ### Between values and statements -/

/-- The text after blanks, line breaks and comments. `mayEnd` tells whether the text may end in a
comment, and `inComment` whether it begins in one. -/
def skipSpace (mayEnd inComment : Bool) : List Char → Option (List Char)
  | [] => if inComment && !mayEnd then none else some []
  | c :: rest =>
    if c = '\n' then skipSpace mayEnd false rest
    else if c = '\r' ∧ rest.head? = some '\n' then skipSpace mayEnd false rest
    else if inComment then if isPlain c then skipSpace mayEnd true rest else none
    else if isBlank c then skipSpace mayEnd false rest
    else if c = '#' then skipSpace mayEnd true rest
    else some (c :: rest)

/-- The text after the end of a line, on which only blanks and a comment may stand. -/
def endLine (inComment : Bool) : List Char → Option (List Char)
  | [] => some []
  | c :: rest =>
    if c = '\n' then some rest
    else if c = '\r' ∧ rest.head? = some '\n' then some (rest.drop 1)
    else if inComment then if isPlain c then endLine true rest else none
    else if isBlank c then endLine false rest
    else if c = '#' then endLine true rest
    else none

/-! ### Values -/

/-- Reads a value that is neither a text nor an array nor a table. -/
def readScalar (s : List Char) : Option (Value × List Char) :=
  match s with
  | 't' :: 'r' :: 'u' :: 'e' :: rest => some (.bool true, rest)
  | 'f' :: 'a' :: 'l' :: 's' :: 'e' :: rest => some (.bool false, rest)
  | s =>
    match readStamp s with
    | some (stamp, rest) => some (.stamp stamp, rest)
    | none => readNumber s

mutual

/-- Reads a value. `steps` bounds the number of values and may be the length of the text; `levels`
is how many more arrays and tables may stand around each other. -/
def readValue : (steps levels : Nat) → List Char → Option (Value × List Char)
  | 0, _, _ => none
  | steps + 1, levels, s =>
    match s with
    | '[' :: rest =>
      match levels with
      | 0 => none
      | levels + 1 => (readItems steps levels rest).map fun (items, tail) => (.array items, tail)
    | '\x7b' :: rest =>
      match levels with
      | 0 => none
      | levels + 1 =>
        match skipBlanks rest with
        | '\x7d' :: tail => some (.table [], tail)
        | rest =>
          (readEntries steps levels rest).bind fun (entries, tail) =>
            (inlineTable? entries).map fun table => (table, tail)
    | s =>
      match readString s with
      | some (text, rest) => some (.text (String.ofList text), rest)
      | none => readScalar s

/-- Reads the items of an array and its closing bracket. A comma may follow the last item. -/
def readItems : (steps levels : Nat) → List Char → Option (List Value × List Char)
  | 0, _, _ => none
  | steps + 1, levels, s =>
    (skipSpace false false s).bind fun s =>
      match s with
      | ']' :: tail => some ([], tail)
      | s =>
        (readValue steps levels s).bind fun (item, rest) =>
          (skipSpace false false rest).bind fun rest =>
            match rest with
            | ',' :: rest =>
              (readItems steps levels rest).map fun (items, tail) => (item :: items, tail)
            | ']' :: tail => some ([item], tail)
            | _ => none

/-- Reads the entries of an inline table, of which there is at least one, and its closing brace. -/
def readEntries : (steps levels : Nat) → List Char →
    Option (List ((List String × String) × Value) × List Char)
  | 0, _, _ => none
  | steps + 1, levels, s =>
    (readKey s).bind fun (key, rest) =>
      match rest with
      | '=' :: rest =>
        (readValue steps levels (skipBlanks rest)).bind fun (value, rest) =>
          match skipBlanks rest with
          | ',' :: rest =>
            (readEntries steps levels rest).map fun (entries, tail) =>
              ((key, value) :: entries, tail)
          | '\x7d' :: tail => some ([(key, value)], tail)
          | _ => none
      | _ => none

end

/-! ### Statements -/

/-- A statement of a document. -/
inductive Statement where
  /-- An entry of the current table. -/
  | entry (key : List String × String) (value : Value)
  /-- The header of a table. -/
  | header (key : List String × String)
  /-- The header of a table in an array. -/
  | item (key : List String × String)

/-- Reads a statement. -/
def readStatement (s : List Char) : Option (Statement × List Char) :=
  match s with
  | '[' :: '[' :: rest =>
    (readKey rest).bind fun (key, rest) =>
      match rest with
      | ']' :: ']' :: tail => some (.item key, tail)
      | _ => none
  | '[' :: rest =>
    (readKey rest).bind fun (key, rest) =>
      match rest with
      | ']' :: tail => some (.header key, tail)
      | _ => none
  | s =>
    (readKey s).bind fun (key, rest) =>
      match rest with
      | '=' :: rest =>
        (readValue (rest.length + 1) depthLimit (skipBlanks rest)).map fun (value, tail) =>
          (.entry key value, tail)
      | _ => none

/-- Reads statements up to the end of a document. `steps` bounds their number and may be the length
of the text. -/
def readStatements : (steps : Nat) → List Char → Option (List Statement)
  | 0, _ => none
  | steps + 1, s =>
    (skipSpace true false s).bind fun s =>
      if s.isEmpty then some []
      else
        (readStatement s).bind fun (statement, rest) =>
          (endLine false rest).bind fun rest =>
            (readStatements steps rest).map fun statements => statement :: statements

/-! ### Documents -/

/-- The entries at the beginning of a list of statements, and the statements after them. -/
def leadingEntries :
    List Statement → List ((List String × String) × Value) × List Statement
  | .entry key value :: rest =>
    let (entries, tail) := leadingEntries rest
    ((key, value) :: entries, tail)
  | statements => ([], statements)

/-- Adds the tables of headers, each with the entries after it. Entries before the first header
have been added already. -/
def placeAll : List Statement → Entries → Option Entries
  | [], root => some root
  | .entry _ _ :: rest, root => placeAll rest root
  | .header (path, key) :: rest, root =>
    (placeTable (enterAll (leadingEntries rest).1) path key root).bind (placeAll rest)
  | .item (path, key) :: rest, root =>
    (appendTable (enterAll (leadingEntries rest).1) path key root).bind (placeAll rest)

/-- The entries of a document of statements. -/
def assemble (statements : List Statement) : Option (List (String × Value)) :=
  ((enterAll (leadingEntries statements).1 []).bind (placeAll statements)).map values

/-- The entries of a document. It may begin with a byte order mark. -/
def readChars (s : List Char) : Option (List (String × Value)) :=
  let s := if s.head? = some '\ufeff' then s.drop 1 else s
  (readStatements (s.length + 1) s).bind assemble

/-- The entries of the document that a text writes. -/
def read (s : String) : Option (List (String × Value)) := readChars s.toList

end FormCheck.Toml
