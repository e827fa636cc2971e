import FormCheck.Proofs.Json.Written
import FormCheck.Config.Json
import Mathlib.Data.List.Perm.Basic
import Mathlib.Logic.Relation

/-!
# Configurations in other words

A JSON object is read as a configuration member by member. A member with an unknown key changes
nothing, and any other gives one field, which must not have been given before. Two members that give
different fields write to different places, and two that give the same field are refused in either
order. So neither the order of members matters, nor the spelling of keys, nor unknown members.

## Main definitions

* `Config.Field.spellings` : the keys under which a field is given.
* `Config.Draft.take` : a draft after one more member.
* `Config.Rewording` : an object with its members in another order, with a field under another
  spelling, or with an unknown member more or less.

## Main results

* `Config.Draft.take_comm` : two members may be taken in either order.
* `Config.ofJson?_of_rewordings` : an object in other words is the same configuration.
* `Config.ofJson?_of_sublist` : an object that gives a field twice is no configuration.
-/

namespace FormCheck.Config

open Json

/-- A member of an object, as it is written. -/
abbrev Member := List Piece × Json

/-! ### Keys -/

/-- The keys under which a field is given. -/
def Field.spellings : Field → List String
  | .rules => ["rules"]
  | .messages => ["error_messages", "errorMessages"]
  | .stop => ["stop_on_first_error", "stopOnFirstError"]
  | .placeholders => ["placeholders"]
  | .strict => ["strict"]

theorem Field.ofName?_eq_some_iff {name : String} {field : Field} :
    Field.ofName? name = some field ↔ name ∈ field.spellings := by
  constructor
  · intro h
    unfold ofName? at h
    split_ifs at h <;> cases h <;> simp_all [spellings]
  · intro h
    cases field <;> simp only [spellings, List.mem_cons, List.not_mem_nil, or_false] at h <;>
      rcases h with rfl | rfl <;> decide

theorem Field.ofName?_eq_none_iff {name : String} :
    Field.ofName? name = none ↔ ∀ field : Field, name ∉ field.spellings := by
  rw [Option.eq_none_iff_forall_ne_some]
  exact forall_congr' fun field => not_congr ofName?_eq_some_iff

/-- A member gives a field: its key is a spelling of the field. -/
def Member.Gives (member : Member) (field : Field) : Prop :=
  ∃ name ∈ field.spellings, string? member.1 = some name

/-- A member is unknown: its key is not a spelling of any field. -/
def Member.IsUnknown (member : Member) : Prop :=
  ∃ name, string? member.1 = some name ∧ ∀ field : Field, name ∉ field.spellings

/-- The key of a member has no meaning, or it is unknown, or it gives a field. -/
theorem Member.key_cases (member : Member) :
    string? member.1 = none ∨ member.IsUnknown ∨ ∃ field, member.Gives field := by
  cases hkey : string? member.1 with
  | none => exact .inl rfl
  | some name =>
    cases hname : Field.ofName? name with
    | none => exact .inr (.inl ⟨name, hkey, Field.ofName?_eq_none_iff.mp hname⟩)
    | some field => exact .inr (.inr ⟨field, name, Field.ofName?_eq_some_iff.mp hname, hkey⟩)

/-! ### Member by member -/

namespace Draft

/-- The draft after one more member of an object. -/
def take (d : Draft) (member : Member) : Option Draft :=
  (string? member.1).bind fun name =>
    match Field.ofName? name with
    | none => some d
    | some field => d.give jsonDecoder field member.2

theorem take_of_gives {member : Member} {field : Field} (h : member.Gives field) (d : Draft) :
    d.take member = d.give jsonDecoder field member.2 := by
  obtain ⟨name, hname, hkey⟩ := h
  simp only [take, hkey, Option.bind_some, Field.ofName?_eq_some_iff.mpr hname]

theorem take_of_isUnknown {member : Member} (h : member.IsUnknown) (d : Draft) :
    d.take member = some d := by
  obtain ⟨name, hkey, hname⟩ := h
  simp only [take, hkey, Option.bind_some, Field.ofName?_eq_none_iff.mpr hname]

section Give

variable {α : Type} {decoder : Decoder α} {d next : Draft} {field other : Field} {value : α}

theorem has_of_set (h : d.set decoder value field = some next) : next.has field = true := by
  cases field <;> obtain ⟨x, -, rfl⟩ := Option.map_eq_some_iff.mp h <;> rfl

/-- Giving a field leaves the others as they are. -/
theorem has_of_set_of_ne (hne : field ≠ other) (h : d.set decoder value field = some next) :
    next.has other = d.has other := by
  cases field <;> obtain ⟨x, -, rfl⟩ := Option.map_eq_some_iff.mp h <;> cases other <;>
    first | rfl | exact absurd rfl hne

/-- Two optional values that go to different places may be put there in either order. -/
theorem bind_map_comm {β γ δ ε : Type} {a : Option β} {b : Option γ} {f : β → δ} {g : δ → γ → ε}
    {f' : γ → δ} {g' : δ → β → ε} (h : ∀ x y, g (f x) y = g' (f' y) x) :
    ((a.map f).bind fun d => b.map (g d)) = (b.map f').bind fun d => a.map (g' d) := by
  cases a <;> cases b <;> simp [h]

theorem set_comm (d : Draft) (hne : field ≠ other) (value otherValue : α) :
    ((d.set decoder value field).bind fun d => d.set decoder otherValue other) =
      (d.set decoder otherValue other).bind fun d => d.set decoder value field := by
  cases field <;> cases other <;>
    first | exact absurd rfl hne | exact bind_map_comm fun _ _ => rfl

/-- Two different fields are given if neither has been given. -/
theorem give_bind_give (d : Draft) (hne : field ≠ other) (value otherValue : α) :
    ((d.give decoder field value).bind fun d => d.give decoder other otherValue) =
      if d.has field = true ∨ d.has other = true then none
      else (d.set decoder value field).bind fun d => d.set decoder otherValue other := by
  rw [give]
  by_cases hfield : d.has field = true
  · rw [if_pos hfield, if_pos (.inl hfield), Option.bind_none]
  · rw [if_neg hfield]
    cases hset : d.set decoder value field with
    | none => simp
    | some next =>
      have hother := has_of_set_of_ne hne hset
      simp only [Option.bind_some, give, hother, hfield, Bool.false_eq_true, false_or]

/-- No field is given twice. -/
theorem give_bind_give_self (d : Draft) (field : Field) (value later : α) :
    ((d.give decoder field value).bind fun d => d.give decoder field later) = none := by
  rw [give]
  split
  · rfl
  · cases hset : d.set decoder value field with
    | none => rfl
    | some next => rw [Option.bind_some, give, if_pos (has_of_set hset)]

/-- Fields may be given in either order. -/
theorem give_comm (d : Draft) (field other : Field) (value otherValue : α) :
    ((d.give decoder field value).bind fun d => d.give decoder other otherValue) =
      (d.give decoder other otherValue).bind fun d => d.give decoder field value := by
  by_cases hne : field = other
  · rw [hne, give_bind_give_self, give_bind_give_self]
  · rw [give_bind_give d hne, give_bind_give d (Ne.symm hne), set_comm d hne]
    simp only [or_comm]

end Give

/-! ### Many members -/

/-- Two members may be taken in either order. -/
theorem take_comm (d : Draft) (member other : Member) :
    ((d.take member).bind fun d => d.take other) = (d.take other).bind fun d => d.take member := by
  have hnone {member : Member} (h : string? member.1 = none) (d : Draft) :
      d.take member = none := by
    rw [take, h, Option.bind_none]
  rcases member.key_cases with h | h | ⟨field, h⟩
  · simp only [hnone h, Option.bind_none, Option.bind_fun_none]
  · simp only [take_of_isUnknown h, Option.bind_some, Option.bind_fun_some]
  rcases other.key_cases with h' | h' | ⟨field', h'⟩
  · simp only [hnone h', Option.bind_none, Option.bind_fun_none]
  · simp only [take_of_isUnknown h', Option.bind_some, Option.bind_fun_some]
  · simp only [take_of_gives h, take_of_gives h']
    exact give_comm d field field' member.2 other.2

/-- The draft after all members of an object. -/
def takeAll (d : Draft) (members : List Member) : Option Draft := members.foldlM take d

theorem takeAll_cons (d : Draft) (member : Member) (rest : List Member) :
    d.takeAll (member :: rest) = (d.take member).bind fun d => d.takeAll rest := rfl

theorem takeAll_append (d : Draft) (members rest : List Member) :
    d.takeAll (members ++ rest) = (d.takeAll members).bind fun d => d.takeAll rest :=
  List.foldlM_append

/-- Members may be taken in any order. -/
theorem takeAll_perm {members reordered : List Member} (h : members.Perm reordered) (d : Draft) :
    d.takeAll members = d.takeAll reordered := by
  induction h generalizing d with
  | nil => rfl
  | cons member _ ih => simp only [takeAll_cons, ih]
  | swap member other rest =>
    simp only [takeAll_cons, ← Option.bind_assoc]
    rw [take_comm]
  | trans _ _ ih ih' => exact (ih d).trans (ih' d)

end Draft

/-- Fields are given as the members of an object are read, one after another. -/
theorem bind_members?_giveAll (d : Draft) (members : List Member) :
    ((members? some members).bind fun fields => d.giveAll jsonDecoder fields) =
      d.takeAll members := by
  induction members generalizing d with
  | nil => rfl
  | cons member rest ih =>
    obtain ⟨key, value⟩ := member
    rw [Draft.takeAll_cons, Draft.take]
    cases hkey : string? key with
    | none => simp only [members?, hkey, Option.bind_eq_bind, Option.bind_none]
    | some name =>
      have hmembers : members? some ((key, value) :: rest) =
          (members? some rest).map fun fields => (name, value) :: fields := by
        simp only [members?, hkey, Option.bind_eq_bind, Option.bind_some, Option.map_eq_bind]
        rfl
      rw [hmembers, Option.bind_some, Option.bind_map]
      cases hname : Field.ofName? name with
      | none =>
        simp only [Option.bind_some, ← ih, Function.comp_def, Draft.giveAll, hname]
      | some field =>
        simp only [← ih, Function.comp_def, Draft.giveAll, hname]
        rw [Option.bind_comm]

/-- An object is read member by member. -/
theorem ofJson?_object (members : List Member) :
    ofJson? (.object members) = (Draft.empty.takeAll members).map Draft.config := by
  rw [ofJson?, ← bind_members?_giveAll, Option.map_bind]
  rfl

/-! ### Other words -/

/-- An object is put into other words: its members come in another order, a field is given under
another spelling, or an unknown member is added or dropped. -/
inductive Rewording : List Member → List Member → Prop
  /-- The members come in another order. -/
  | reorder {members reordered : List Member} (h : members.Perm reordered) :
      Rewording members reordered
  /-- A field is given under another spelling. -/
  | respell (before after : List Member) {key spelling : List Piece} (value : Json) {field : Field}
      (hkey : Member.Gives (key, value) field) (hspelling : Member.Gives (spelling, value) field) :
      Rewording (before ++ (key, value) :: after) (before ++ (spelling, value) :: after)
  /-- An unknown member is added. -/
  | add (before after : List Member) {member : Member} (h : member.IsUnknown) :
      Rewording (before ++ after) (before ++ member :: after)
  /-- An unknown member is dropped. -/
  | drop (before after : List Member) {member : Member} (h : member.IsUnknown) :
      Rewording (before ++ member :: after) (before ++ after)

/-- An unknown member may be left out, wherever it stands. -/
theorem Draft.takeAll_append_cons {member : Member} (h : member.IsUnknown) (d : Draft)
    (before after : List Member) :
    d.takeAll (before ++ member :: after) = d.takeAll (before ++ after) := by
  simp only [takeAll_append, takeAll_cons, take_of_isUnknown h, Option.bind_some]

theorem Rewording.takeAll_eq {members reworded : List Member} (h : Rewording members reworded)
    (d : Draft) : d.takeAll reworded = d.takeAll members := by
  cases h with
  | reorder h => exact (Draft.takeAll_perm h d).symm
  | respell before after value hkey hspelling =>
    simp only [Draft.takeAll_append, Draft.takeAll_cons, Draft.take_of_gives hkey,
      Draft.take_of_gives hspelling]
  | add before after h => exact Draft.takeAll_append_cons h d before after
  | drop before after h => exact (Draft.takeAll_append_cons h d before after).symm

/-- An object in other words is the same configuration, or is none either. -/
theorem ofJson?_of_rewordings {members reworded : List Member}
    (h : Relation.ReflTransGen Rewording members reworded) :
    ofJson? (.object reworded) = ofJson? (.object members) := by
  have htake : Draft.empty.takeAll reworded = Draft.empty.takeAll members := by
    induction h with
    | refl => rfl
    | tail _ hreworded ih => exact (hreworded.takeAll_eq _).trans ih
  rw [ofJson?_object, ofJson?_object, htake]

/-- An object that gives a field twice is no configuration. -/
theorem ofJson?_of_sublist {members : List Member} {first second : Member} {field : Field}
    (h : [first, second].Sublist members) (hfirst : first.Gives field)
    (hsecond : second.Gives field) : ofJson? (.object members) = none := by
  obtain ⟨rest, hperm⟩ := h.exists_perm_append
  rw [ofJson?_object, Draft.takeAll_perm hperm, List.cons_append, Draft.takeAll_cons]
  simp only [List.cons_append, Draft.takeAll_cons, ← Option.bind_assoc, Draft.take_of_gives hfirst,
    Draft.take_of_gives hsecond, Draft.give_bind_give_self]
  rfl

/-- Two texts of objects that differ in the order of the members, in the spelling of keys and in
unknown members are the same configuration, with the entries of its tables in the same order, or
neither is one; and an object that gives a field twice, under one spelling or two, is none. -/
theorem ofJsonText?_of_rewordings :
    (∀ (s t : String) (members reworded : List Member),
      Json.read s = some (.object members) → Json.read t = some (.object reworded) →
      Relation.ReflTransGen Rewording members reworded → ofJsonText? t = ofJsonText? s) ∧
    ∀ (s : String) (members : List Member) (first second : Member) (field : Field),
      Json.read s = some (.object members) → [first, second].Sublist members →
      first.Gives field → second.Gives field → ofJsonText? s = none := by
  constructor
  · intro s t members reworded hs ht hreworded
    rw [ofJsonText?, ofJsonText?, hs, ht]
    exact ofJson?_of_rewordings hreworded
  · intro s members first second field hs htwice hfirst hsecond
    rw [ofJsonText?, hs]
    exact ofJson?_of_sublist htwice hfirst hsecond

/-- With the members turned around, the templates under their other spelling and a note on top, an
object is the same configuration, whose rules keep their order. Templates under both spellings are
given twice. -/
theorem ofJsonText?_of_rewordings_note :
    let rules : Json := .object [(piecesOf "b", ofString "required"), (piecesOf "a", ofString "")]
    let first : Member := (piecesOf "error_messages", .object [])
    let second : Member := (piecesOf "errorMessages", .object [])
    let members : List Member := [(piecesOf "rules", rules), first]
    let reworded : List Member := [(piecesOf "note", .bool true), second, (piecesOf "rules", rules)]
    let s := "\x7b\"rules\":\x7b\"b\":\"required\",\"a\":\"\"\x7d,\"error_messages\":\x7b\x7d\x7d"
    let t := "\x7b\"note\":true,\"errorMessages\":\x7b\x7d," ++
      "\"rules\":\x7b\"b\":\"required\",\"a\":\"\"\x7d\x7d"
    let u := "\x7b\"error_messages\":\x7b\x7d,\"errorMessages\":\x7b\x7d\x7d"
    Json.read s = some (.object members) ∧ Json.read t = some (.object reworded) ∧
      Json.read u = some (.object [first, second]) ∧
      Relation.ReflTransGen Rewording members reworded ∧ ofJsonText? t = ofJsonText? s ∧
      (ofJsonText? s).map (fun c => c.rules.keys) = some ["b", "a"] ∧ ofJsonText? u = none := by
  intro rules first second members reworded s t u
  have hempty (name : String) :
      WritesMember (name, writeObject []) (piecesOf name, .object []) :=
    ⟨rfl, writes_object .nil⟩
  have hrules : WritesMember ("rules", writeObject [("b", writeText "required"),
      ("a", writeText "")]) (piecesOf "rules", rules) :=
    ⟨rfl, writes_object (.cons ⟨rfl, writes_text _⟩ (.cons ⟨rfl, writes_text _⟩ .nil))⟩
  have hnote : WritesMember ("note", writeBool true) (piecesOf "note", .bool true) :=
    ⟨rfl, writes_bool true⟩
  have hread {written : List (String × List Char)} {document : List Member} {text : String}
      (h : List.Forall₂ WritesMember written document)
      (htext : String.ofList (writeObject written) = text) :
      Json.read text = some (.object document) := by
    rw [← htext]
    exact (writes_object h).read_eq
  have hs : Json.read s = some (.object members) :=
    hread (.cons hrules (.cons (hempty "error_messages") .nil)) (by decide +kernel)
  have ht : Json.read t = some (.object reworded) :=
    hread (.cons hnote (.cons (hempty "errorMessages") (.cons hrules .nil))) (by decide +kernel)
  have hu : Json.read u = some (.object [first, second]) :=
    hread (.cons (hempty "error_messages") (.cons (hempty "errorMessages") .nil))
      (by decide +kernel)
  have hfirst : first.Gives .messages := ⟨"error_messages", by decide, string?_piecesOf _⟩
  have hsecond : second.Gives .messages := ⟨"errorMessages", by decide, string?_piecesOf _⟩
  have hunknown : Member.IsUnknown (piecesOf "note", .bool true) :=
    ⟨"note", string?_piecesOf _, fun field => by cases field <;> decide⟩
  have hreworded : Relation.ReflTransGen Rewording members reworded := by
    refine .tail (.tail (.single (.reorder (.swap _ _ []))) (.respell [] _ _ hfirst hsecond)) ?_
    exact .add [] _ hunknown
  obtain ⟨hsame, htwice⟩ := ofJsonText?_of_rewordings
  exact ⟨hs, ht, hu, hreworded, hsame s t members reworded hs ht hreworded, by decide +kernel,
    htwice u [first, second] first second .messages hu (List.Sublist.refl _) hfirst hsecond⟩

end FormCheck.Config
