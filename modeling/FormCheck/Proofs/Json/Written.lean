import FormCheck.Json.Reading
import FormCheck.Json.Writing
import FormCheck.Json.Data
import FormCheck.Proofs.Table

/-!
# Reading JSON that was written

A written text is read as the document of what it was written for, wherever it stands and whatever
follows it. The pieces of a text are its characters, except that a control character without a
short escape comes back as a code unit; both stand for the same character. Of the reader of values
the statement is needed for a text in its place, so it speaks of any bound that is no smaller than
the text and of any rest.

## Main definitions

* `Json.pieceOf`, `Json.piecesOf` : a character and a string as they come back.
* `Json.Writes` : a text writes a document, whatever follows the text.
* `Json.ofTable` : the document of a table, given the documents of its values.

## Main results

* `Json.text?_map_pieceOf` : what comes back stands for the same text.
* `Json.readText_flatMap_writeChar` : a written text is read up to its closing quote.
* `Json.writes_object` : an object is written when the values of its members are.
* `Json.Writes.readChars_eq` : a text that writes a document is read as this document.
* `Json.writes_table`, `Json.tableOf?_ofTable` : a table is written as its document, from which it
  is had back.
-/

namespace FormCheck.Json

/-! ### Characters -/

/-- The control characters that have a short escape. -/
def shortControls : List Char := ['\x08', '\x0c', '\n', '\r', '\t']

/-- A character as it comes back: a control character without a short escape is a code unit. -/
def pieceOf (c : Char) : Piece :=
  if c.toNat < 0x20 ∧ c ∉ shortControls then .unit c.toNat else .char c

/-- A string as it comes back. -/
def piecesOf (s : String) : List Piece := s.toList.map pieceOf

/-- A code unit that is no half of a surrogate pair stands for a character by itself. -/
theorem text?_unit {n : Nat} (hhigh : isHighHalf n = false) (hlow : isLowHalf n = false)
    (pieces : List Piece) :
    text? (.unit n :: pieces) = (text? pieces).map (Char.ofNat n :: ·) := by
  cases pieces with
  | nil => simp [text?, hhigh, hlow]
  | cons piece pieces => cases piece <;> simp [text?, hhigh, hlow]

/-- A character that comes back stands for itself. -/
theorem text?_pieceOf_cons (c : Char) (pieces : List Piece) :
    text? (pieceOf c :: pieces) = (text? pieces).map (c :: ·) := by
  unfold pieceOf
  split
  · next h =>
    have hhigh : isHighHalf c.toNat = false := by
      simp only [isHighHalf, Bool.and_eq_false_iff, decide_eq_false_iff_not]
      omega
    have hlow : isLowHalf c.toNat = false := by
      simp only [isLowHalf, Bool.and_eq_false_iff, decide_eq_false_iff_not]
      omega
    rw [text?_unit hhigh hlow, Char.ofNat_toNat]
  · rw [text?]

theorem text?_map_pieceOf (s : List Char) : text? (s.map pieceOf) = some s := by
  induction s with
  | nil => rfl
  | cons c s ih => rw [List.map_cons, text?_pieceOf_cons, ih, Option.map_some]

theorem string?_piecesOf (s : String) : string? (piecesOf s) = some s := by
  rw [string?, piecesOf, text?_map_pieceOf, Option.map_some, String.ofList_toList]

/-- The escape of a control character is read as its number. -/
theorem isHexDigit_and_hexValue_escape {n : Nat} (h : n < 0x20) :
    let digits := ['0', '0', Nat.digitChar (n / 16), Nat.digitChar (n % 16)]
    digits.all Text.isHexDigit = true ∧ Text.hexValue digits = n := by
  revert n
  decide

/-- A written character is read as the piece that comes back. -/
theorem readText_writeChar_append (c : Char) (rest : List Char) :
    readText (writeChar c ++ rest) =
      (readText rest).map fun (pieces, tail) => (pieceOf c :: pieces, tail) := by
  unfold writeChar
  split
  -- The seven characters with a short escape.
  iterate 7 rfl
  next hquote hbackslash hb hf hn hr ht =>
    split
    · next hcontrol =>
      obtain ⟨hdigits, hvalue⟩ := isHexDigit_and_hexValue_escape hcontrol
      have hpiece : pieceOf c = .unit c.toNat := by
        refine if_pos ⟨hcontrol, ?_⟩
        simp only [shortControls, List.mem_cons, List.not_mem_nil, or_false, not_or]
        exact ⟨hb, hf, hn, hr, ht⟩
      simp only [List.cons_append, List.nil_append, readText, hdigits, if_true, hvalue, hpiece]
    · next hcontrol =>
      have hpiece : pieceOf c = .char c := if_neg fun h => hcontrol h.1
      have hplain : ¬ (decide (c.toNat < 0x20) || c == '\\') = true := by
        simpa using ⟨Nat.le_of_not_lt hcontrol, hbackslash⟩
      rw [List.singleton_append, readText, if_neg hplain, hpiece]
      · exact hquote
      · exact fun _ _ _ _ _ h => absurd h hbackslash
      · exact fun _ _ h => absurd h hbackslash

/-- A written text is read up to its closing quote. -/
theorem readText_flatMap_writeChar (s rest : List Char) :
    readText (s.flatMap writeChar ++ '"' :: rest) = some (s.map pieceOf, rest) := by
  induction s with
  | nil => rfl
  | cons c s ih =>
    rw [List.flatMap_cons, List.append_assoc, readText_writeChar_append, ih, Option.map_some,
      List.map_cons]

/-! ### Documents -/

/-- A text writes a document: whatever follows the text, the document is read and the rest is left.
The number of values in a text is at most its length. -/
def Writes (s : List Char) (j : Json) : Prop :=
  ∀ steps rest, s.length ≤ steps → readValue steps (s ++ rest) = some (j, rest)

/-- A written member of an object has the key and the value of a member of a document. -/
structure WritesMember (member : String × List Char) (document : List Piece × Json) : Prop where
  /-- The key is the one that comes back. -/
  key_eq : document.1 = piecesOf member.1
  /-- The value is written. -/
  writes : Writes member.2 document.2

/-- A character that is no space is not skipped. -/
theorem skipSpace_cons {c : Char} (h : isSpace c = false) (s : List Char) :
    skipSpace (c :: s) = c :: s :=
  List.dropWhile_cons_of_neg (by simp [h])

theorem writes_null : Writes "null".toList .null := by
  rintro (_ | steps) rest hsteps
  · cases hsteps
  · rfl

theorem writes_bool (b : Bool) : Writes (writeBool b) (.bool b) := by
  rintro (_ | steps) rest hsteps
  · cases b <;> cases hsteps
  · cases b <;> rfl

theorem writes_text (s : String) : Writes (writeText s) (.text (piecesOf s)) := by
  rintro (_ | steps) rest hsteps
  · cases hsteps
  · have hskip : skipSpace (writeText s ++ rest) =
        '"' :: (s.toList.flatMap writeChar ++ '"' :: rest) := by
      simp [writeText, skipSpace, isSpace]
    rw [readValue, hskip]
    simp only [readText_flatMap_writeChar]
    rfl

/-- A member is read up to what stands behind its value. -/
theorem readMembers_writeMember {member : String × List Char} {document : List Piece × Json}
    (h : WritesMember member document) {steps : Nat}
    (hsteps : (writeMember member).length ≤ steps + 1) (rest : List Char) :
    readMembers (steps + 1) (writeMember member ++ rest) =
      match skipSpace rest with
      | ',' :: rest =>
        (readMembers steps rest).map fun (members, tail) => (document :: members, tail)
      | '\x7d' :: tail => some ([document], tail)
      | _ => none := by
  obtain ⟨key, value⟩ := member
  obtain ⟨pieces, j⟩ := document
  obtain ⟨rfl, hvalue⟩ := h
  have hshort : value.length ≤ steps := by
    simp only [writeMember, writeText, List.length_append, List.length_cons] at hsteps
    omega
  have hskip : skipSpace (writeMember (key, value) ++ rest) =
      '"' :: (key.toList.flatMap writeChar ++ '"' :: ':' :: (value ++ rest)) := by
    simp [writeMember, writeText, skipSpace, isSpace]
  have hcolon : skipSpace (':' :: (value ++ rest)) = ':' :: (value ++ rest) := skipSpace_cons rfl _
  rw [readMembers, hskip]
  simp only [readText_flatMap_writeChar, Option.bind_some, hcolon, hvalue steps rest hshort]
  rfl

/-- The members of an object are read up to its closing brace. -/
theorem readMembers_commas {members : List (String × List Char)}
    {documents : List (List Piece × Json)} (h : List.Forall₂ WritesMember members documents)
    (hne : members ≠ []) {steps : Nat}
    (hsteps : (commas (members.map writeMember)).length ≤ steps) (rest : List Char) :
    readMembers steps (commas (members.map writeMember) ++ '\x7d' :: rest) =
      some (documents, rest) := by
  induction h generalizing steps with
  | nil => exact absurd rfl hne
  | @cons member document members documents hmember hmembers ih =>
    obtain ⟨steps, rfl⟩ : ∃ n, steps = n + 1 := by
      refine Nat.exists_eq_succ_of_ne_zero fun hzero => ?_
      cases members <;> simp [hzero, commas, writeMember, writeText] at hsteps
    cases members with
    | nil =>
      obtain rfl := List.forall₂_nil_left_iff.mp hmembers
      exact readMembers_writeMember hmember hsteps _
    | cons next members =>
      have hcommas : commas ((member :: next :: members).map writeMember) =
          writeMember member ++ ',' :: commas ((next :: members).map writeMember) := rfl
      rw [hcommas, List.length_append, List.length_cons] at hsteps
      have hshorter : (commas ((next :: members).map writeMember)).length ≤ steps := by omega
      rw [hcommas, List.append_assoc, List.cons_append,
        readMembers_writeMember hmember (by omega), skipSpace_cons rfl]
      simp only [ih (List.cons_ne_nil _ _) hshorter, Option.map_some]

/-- An object is written when the values of its members are. -/
theorem writes_object {members : List (String × List Char)}
    {documents : List (List Piece × Json)} (h : List.Forall₂ WritesMember members documents) :
    Writes (writeObject members) (.object documents) := by
  rintro (_ | steps) rest hsteps
  · cases hsteps
  cases h with
  | nil => rfl
  | @cons member document members documents hmember hmembers =>
    have hlength : (commas ((member :: members).map writeMember)).length ≤ steps := by
      simp only [writeObject, List.length_cons, List.length_append] at hsteps
      omega
    have hread := readMembers_commas (.cons hmember hmembers) (List.cons_ne_nil _ _) hlength rest
    -- The first member begins with a quote, so the object is not taken for an empty one.
    obtain ⟨tail, htail⟩ : ∃ tail, commas ((member :: members).map writeMember) ++ '\x7d' :: rest =
        '"' :: tail := by
      cases members <;> exact ⟨_, rfl⟩
    have hobject : writeObject (member :: members) ++ rest = '\x7b' :: '"' :: tail := by
      rw [← htail, writeObject, List.cons_append, List.cons_append, List.append_assoc,
        List.singleton_append]
    rw [htail] at hread
    rw [hobject, readValue, skipSpace_cons rfl]
    simp only [skipSpace_cons (show isSpace '"' = false from rfl)]
    change (readMembers steps ('"' :: tail)).map _ = _
    rw [hread]
    rfl

/-- A text that writes a document is read as this document. -/
theorem Writes.readChars_eq {s : List Char} {j : Json} (h : Writes s j) : readChars s = some j := by
  have hread := h (s.length + 1) [] (Nat.le_succ _)
  rw [List.append_nil] at hread
  rw [readChars, hread]
  rfl

theorem Writes.read_eq {s : List Char} {j : Json} (h : Writes s j) :
    read (String.ofList s) = some j := by
  rw [read, String.toList_ofList, h.readChars_eq]

/-! ### Tables -/

/-- The document of a string. -/
def ofString (s : String) : Json := .text (piecesOf s)

/-- The members of a document that are given by keys and documents. -/
def ofMembers (members : List (String × Json)) : List (List Piece × Json) :=
  members.map fun member => (piecesOf member.1, member.2)

section Tables

variable {α : Type} {document : α → Json}

/-- The document of a table whose values have documents. -/
def ofTable (document : α → Json) (t : Table α) : Json :=
  .object (ofMembers (t.entries.map fun entry => (entry.1, document entry.2)))

theorem asString?_ofString (s : String) : asString? (ofString s) = some s :=
  string?_piecesOf s

/-- Members are read when each of their values is. -/
theorem members?_ofMembers {read : Json → Option α} {members : List (String × Json)}
    {l : List (String × α)}
    (h : List.Forall₂ (fun member entry => member.1 = entry.1 ∧ read member.2 = some entry.2)
      members l) : members? read (ofMembers members) = some l := by
  induction h with
  | nil => rfl
  | @cons member entry members l hmember _ ih =>
    rw [ofMembers] at ih ⊢
    simp only [List.map_cons, members?, string?_piecesOf, hmember.1, hmember.2, ih]
    rfl

/-- The document of a table is read as this table, in the same order. -/
theorem tableOf?_ofTable {read : Json → Option α} (h : ∀ a, read (document a) = some a)
    (t : Table α) : tableOf? read (ofTable document t) = some t := by
  have hmembers : members? read
      (ofMembers (t.entries.map fun entry => (entry.1, document entry.2))) = some t.entries := by
    refine members?_ofMembers ?_
    rw [List.forall₂_map_left_iff, List.forall₂_same]
    exact fun entry _ => ⟨rfl, h entry.2⟩
  rw [ofTable, tableOf?, hmembers, Option.map_some]
  exact congrArg some (Table.ext (Table.entries_ofList t.keys_nodup))

theorem textTable?_ofTable (t : Table String) : textTable? (ofTable ofString t) = some t :=
  tableOf?_ofTable asString?_ofString t

theorem writes_table {write : α → List Char} (h : ∀ a, Writes (write a) (document a))
    (t : Table α) : Writes (writeTable write t) (ofTable document t) := by
  refine writes_object ?_
  rw [ofMembers, List.forall₂_map_left_iff, List.map_map, List.forall₂_map_right_iff,
    List.forall₂_same]
  exact fun entry _ => ⟨rfl, h entry.2⟩

theorem writes_textTable (t : Table String) :
    Writes (writeTable writeText t) (ofTable ofString t) :=
  writes_table writes_text t

end Tables

end FormCheck.Json
