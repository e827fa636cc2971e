import FormCheck.Message.Template
import FormCheck.Proofs.Table
import FormCheck.Proofs.Text.Replace
import Mathlib.Logic.Function.Basic

/-!
# Filling in a template at once

A message is made by replacing one kind of placeholder after another, each in the text that the
replacements before have left. For templates in which every opening brace begins a placeholder this
is the same as filling in all segments in one pass: two placeholders do not overlap, and a text that
is filled in without an opening brace neither holds a placeholder nor helps to form one. The last
text may hold any characters, since nothing is replaced after it.

## Main definitions

* `Segment.Avoids` : a segment whose text does not have a certain character.
* `Segment.IsPlain` : a segment whose text has no opening brace.
* `Segment.fill` : a segment in which the placeholder is filled in.
* `fillIn` : segments filled in from left to right, all of them or the first of each kind.
* `IsPlainTemplate` : a template that consists of texts without braces and of placeholders.

## Main results

* `Substitution.replace_fillIn` : replacing one more kind of placeholder fills in one more kind.
* `isPlainTemplate_builtIn` : the built-in templates are plain.
* `substitute_writeTemplate` : substitution fills in the segments of a plain template at once.
-/

namespace FormCheck

/-! ### Placeholders in a text -/

namespace Placeholder

theorem mark_ne_nil (p : Placeholder) : p.mark ≠ [] := List.cons_ne_nil _ _

/-- A text without an opening brace is passed over. -/
theorem isPassed_of_notMem (p : Placeholder) {a : List Char} (ha : '\x7b' ∉ a) (b : List Char) :
    Text.IsPassed p.mark a b := by
  induction a with
  | nil => exact fun i hi => absurd hi (Nat.not_lt_zero i)
  | cons c a ih =>
    rw [List.mem_cons, not_or] at ha
    exact Text.isPassed_cons.mpr ⟨fun h => ha.1 (List.cons_prefix_cons.mp h).1, ih ha.2⟩

/-- A placeholder of another kind is passed over. -/
theorem isPassed_mark {p q : Placeholder} (h : p ≠ q) (b : List Char) :
    Text.IsPassed p.mark q.mark b := by
  refine Text.isPassed_cons.mpr ⟨?_, p.isPassed_of_notMem ?_ b⟩
  · cases p <;> cases q <;> simp [mark, name] at h ⊢
  · cases q <;> decide

end Placeholder

namespace Substitution

variable (mode : Substitution) {p : Placeholder} (new : String)

theorem replace_nil : mode.replace p new [] = [] := by
  cases mode <;> rfl

/-- What is passed over stays as it is. -/
theorem replace_append_of_isPassed {a b : List Char} (h : Text.IsPassed p.mark a b) :
    mode.replace p new (a ++ b) = a ++ mode.replace p new b := by
  induction a with
  | nil => rfl
  | cons c a ih =>
    obtain ⟨hc, ha⟩ := Text.isPassed_cons.mp h
    rw [List.cons_append, List.cons_append, ← ih ha]
    cases mode with
    | first => exact Text.replaceFirst_cons _ hc
    | all => exact Text.replaceAll_cons _ hc

theorem replace_first_mark_append (s : List Char) :
    first.replace p new (p.mark ++ s) = new.toList ++ s :=
  Text.replaceFirst_append_self _ p.mark_ne_nil s

theorem replace_all_mark_append (s : List Char) :
    all.replace p new (p.mark ++ s) = new.toList ++ all.replace p new s :=
  Text.replaceAll_append_self _ p.mark_ne_nil s

end Substitution

/-! ### The replacements of a substitution -/

theorem substitute_none (mode : Substitution) (template field value : String) :
    substitute mode template field value none =
      String.ofList (mode.replace .value value (mode.replace .field field template.toList)) :=
  rfl

theorem substitute_some (mode : Substitution) (template field value param : String) :
    substitute mode template field value (some param) =
      String.ofList (mode.replace .param param
        (mode.replace .value value (mode.replace .field field template.toList))) :=
  rfl

/-! ### The texts for placeholders -/

namespace Placeholder

/-- The texts that are filled in: the name of the field, its value and the parameter, as far as they
are given. -/
def textOf (field value param : Option String) : Placeholder → Option String
  | .field => field
  | .value => value
  | .param => param

variable {field value param : Option String}

theorem update_field (new : Option String) :
    Function.update (textOf field value param) .field new = textOf new value param := by
  funext q
  cases q <;> rfl

theorem update_value (new : Option String) :
    Function.update (textOf field value param) .value new = textOf field new param := by
  funext q
  cases q <;> rfl

theorem update_param (new : Option String) :
    Function.update (textOf field value param) .param new = textOf field value new := by
  funext q
  cases q <;> rfl

theorem forall_textOf {P : String → Prop} (hfield : ∀ text ∈ field, P text)
    (hvalue : ∀ text ∈ value, P text) (hparam : ∀ text ∈ param, P text) :
    ∀ q, ∀ text ∈ textOf field value param q, P text
  | .field => hfield
  | .value => hvalue
  | .param => hparam

end Placeholder

/-! ### Filling in segments -/

/-- A segment avoids a character if its text does not have it. -/
def Segment.Avoids (c : Char) : Segment → Prop
  | .text s => c ∉ s.toList
  | .hole _ => True

theorem Segment.avoids_text {c : Char} {s : String} : (text s).Avoids c ↔ c ∉ s.toList := Iff.rfl

theorem Segment.avoids_hole {c : Char} {p : Placeholder} : (hole p).Avoids c ↔ True := Iff.rfl

/-- A segment is plain if its text has no opening brace. -/
def Segment.IsPlain (segment : Segment) : Prop := segment.Avoids '\x7b'

theorem Segment.isPlain_text {s : String} : (text s).IsPlain ↔ '\x7b' ∉ s.toList := Iff.rfl

theorem Segment.isPlain_hole {p : Placeholder} : (hole p).IsPlain ↔ True := Iff.rfl

/-- A segment in which the placeholder is filled in. One without a text stays as it is written. -/
def Segment.fill (texts : Placeholder → Option String) : Segment → List Char
  | .text s => s.toList
  | .hole p => (texts p).elim p.mark String.toList

/-- Whether a segment is filled in: in the one mode always, in the other unless it stands already
among the segments before it. -/
def Substitution.fills (mode : Substitution) (before : List Segment) (segment : Segment) : Bool :=
  match mode with
  | .all => true
  | .first => segment ∉ before

/-- Segments filled in from left to right, after the segments `before`. -/
def fillIn (mode : Substitution) (texts : Placeholder → Option String) (before : List Segment) :
    List Segment → List Char
  | [] => []
  | segment :: rest =>
    (if mode.fills before segment then segment.fill texts else segment.chars) ++
      fillIn mode texts (segment :: before) rest

theorem Segment.fill_none (segment : Segment) :
    segment.fill (Placeholder.textOf none none none) = segment.chars := by
  cases segment with
  | text s => rfl
  | hole p => cases p <;> rfl

/-- If all segments are filled in, what comes before does not matter. -/
theorem fillIn_all (texts : Placeholder → Option String) (before segments : List Segment) :
    fillIn .all texts before segments = segments.flatMap (Segment.fill texts) := by
  induction segments generalizing before with
  | nil => rfl
  | cons segment rest ih => rw [fillIn, ih, Substitution.fills, if_pos rfl, List.flatMap_cons]

/-- Without texts a template stays as it is written. -/
theorem fillIn_none (mode : Substitution) (before segments : List Segment) :
    fillIn mode (Placeholder.textOf none none none) before segments =
      segments.flatMap Segment.chars := by
  induction segments generalizing before with
  | nil => rfl
  | cons segment rest ih => rw [fillIn, ih, Segment.fill_none, ite_self, List.flatMap_cons]

/-! ### One more kind of placeholder -/

section Update

variable {texts : Placeholder → Option String} {p : Placeholder} {new : String}

theorem Segment.fill_update_of_ne {segment : Segment} (h : segment ≠ .hole p) :
    segment.fill (Function.update texts p (some new)) = segment.fill texts := by
  cases segment with
  | text s => rfl
  | hole q =>
    have hq : q ≠ p := fun heq => h (congrArg Segment.hole heq)
    rw [fill, fill, Function.update_of_ne hq]

/-- A plain segment other than a placeholder is passed over by it, filled in or not. -/
theorem Segment.isPassed_fill {segment : Segment} (hplain : segment.IsPlain)
    (h : segment ≠ .hole p) (htexts : ∀ q, ∀ text ∈ texts q, '\x7b' ∉ text.toList)
    (b : List Char) : Text.IsPassed p.mark (segment.fill texts) b := by
  cases segment with
  | text s => exact p.isPassed_of_notMem hplain b
  | hole q =>
    have hq : p ≠ q := fun heq => h (congrArg Segment.hole heq.symm)
    rw [fill]
    cases htext : texts q with
    | none => exact Placeholder.isPassed_mark hq b
    | some text => exact p.isPassed_of_notMem (htexts q text htext) b

/-- The first placeholder of a kind has been filled in, so that there is no use for its text. -/
theorem fillIn_first_update {before : List Segment} (h : .hole p ∈ before)
    (segments : List Segment) :
    fillIn .first (Function.update texts p (some new)) before segments =
      fillIn .first texts before segments := by
  induction segments generalizing before with
  | nil => rfl
  | cons segment rest ih =>
    rw [fillIn, fillIn, ih (List.mem_cons_of_mem segment h)]
    by_cases hsegment : segment = .hole p
    · have hfills : Substitution.first.fills before segment = false := by
        simp [Substitution.fills, hsegment, h]
      rw [hfills]
      rfl
    · rw [Segment.fill_update_of_ne hsegment]

/-- Replacing a kind of placeholder that has not been filled in yet fills it in. The texts that have
been filled in before have no opening brace; the new one may have. -/
theorem Substitution.replace_fillIn (mode : Substitution) (hp : texts p = none)
    (htexts : ∀ q, ∀ text ∈ texts q, '\x7b' ∉ text.toList) {segments : List Segment}
    (hplain : ∀ segment ∈ segments, segment.IsPlain) {before : List Segment}
    (hbefore : .hole p ∉ before ∨ mode = .all) :
    mode.replace p new (fillIn mode texts before segments) =
      fillIn mode (Function.update texts p (some new)) before segments := by
  induction segments generalizing before with
  | nil => exact mode.replace_nil new
  | cons segment rest ih =>
    obtain ⟨hsegment, hrest⟩ := List.forall_mem_cons.mp hplain
    by_cases hhole : segment = .hole p
    · have hold : segment.fill texts = p.mark := by rw [hhole, Segment.fill, hp, Option.elim_none]
      have hnew : segment.fill (Function.update texts p (some new)) = new.toList := by
        rw [hhole, Segment.fill, Function.update_self, Option.elim_some]
      have hfills : mode.fills before segment = true := by
        rcases hbefore with hmem | rfl
        · cases mode <;> simp [fills, hhole, hmem]
        · rfl
      rw [fillIn, fillIn, if_pos hfills, if_pos hfills, hold, hnew]
      cases mode with
      | all => rw [replace_all_mark_append, ih hrest (.inr rfl)]
      | first =>
        rw [replace_first_mark_append, fillIn_first_update (hhole ▸ List.mem_cons_self)]
    · have hpassed (b : List Char) :
          Text.IsPassed p.mark
            (if mode.fills before segment then segment.fill texts else segment.chars) b := by
        split
        · exact segment.isPassed_fill hsegment hhole htexts b
        · rw [← segment.fill_none]
          exact segment.isPassed_fill hsegment hhole
            (Placeholder.forall_textOf (by simp) (by simp) (by simp)) b
      have hbefore' : .hole p ∉ segment :: before ∨ mode = .all :=
        hbefore.imp_left fun hmem => List.not_mem_cons_of_ne_of_not_mem (Ne.symm hhole) hmem
      rw [fillIn, fillIn, Segment.fill_update_of_ne hhole,
        mode.replace_append_of_isPassed new (hpassed _), ih hrest hbefore']

end Update

/-! ### Plain templates -/

/-- A template is plain if it consists of texts without braces and of placeholders. -/
def IsPlainTemplate (template : String) : Prop :=
  ∃ segments : List Segment,
    (∀ segment ∈ segments, segment.IsPlain ∧ segment.Avoids '\x7d') ∧
      template = writeTemplate segments

section Braces

variable {c : Char} (hc : c = '\x7b' ∨ c = '\x7d')

include hc

theorem avoids_aboutField_iff {sentence : String} :
    (∀ segment ∈ aboutField sentence, segment.Avoids c) ↔ c ∉ sentence.toList := by
  have hstart : c ∉ "The ".toList := by rcases hc with rfl | rfl <;> decide
  have hfield : c ∉ " field ".toList := by rcases hc with rfl | rfl <;> decide
  simp only [aboutField, List.forall_mem_cons, Segment.avoids_text, Segment.avoids_hole,
    String.toList_append, List.mem_append, not_or, hstart, hfield, not_false_eq_true, true_and,
    List.not_mem_nil, false_implies, implies_true, and_true]

theorem avoids_aboutParam_iff {before after : String} :
    (∀ segment ∈ aboutParam before after, segment.Avoids c) ↔
      c ∉ before.toList ∧ c ∉ after.toList := by
  simp only [aboutParam, List.forall_mem_append, avoids_aboutField_iff hc, List.forall_mem_cons,
    Segment.avoids_text, Segment.avoids_hole, true_and, List.not_mem_nil, false_implies,
    implies_true, and_true]

end Braces

/-- The characters of a text that is written out need not be decoded to look for one of them. -/
theorem notMem_toList_ofList {c : Char} {s : List Char} (h : c ∉ s) :
    c ∉ (String.ofList s).toList := by
  rwa [String.toList_ofList]

/-- The texts of the built-in templates have no braces. -/
theorem avoids_builtInSegments {c : Char} (hc : c = '\x7b' ∨ c = '\x7d') :
    ∀ entry ∈ builtInSegments, ∀ segment ∈ entry.2, segment.Avoids c := by
  simp only [builtInSegments, List.forall_mem_cons, avoids_aboutField_iff hc,
    avoids_aboutParam_iff hc, String.toList_append, List.mem_append, not_or, List.not_mem_nil,
    false_implies, implies_true, and_true]
  rcases hc with rfl | rfl
  · and_intros <;> exact notMem_toList_ofList (by decide)
  · and_intros <;> exact notMem_toList_ofList (by decide)

theorem isPlainTemplate_builtIn {rule template : String}
    (h : template ∈ builtInTemplate? rule) : IsPlainTemplate template := by
  have hdistinct : (builtInSegments.map Prod.fst).Nodup := by decide +kernel
  obtain ⟨segments, hlookup, rfl⟩ := Option.map_eq_some_iff.mp h
  have hmem : (rule, segments) ∈ builtInSegments :=
    (Table.lookup_eq_some_iff hdistinct).mp hlookup
  exact ⟨segments, fun segment hsegment => ⟨avoids_builtInSegments (.inl rfl) _ hmem _ hsegment,
    avoids_builtInSegments (.inr rfl) _ hmem _ hsegment⟩, rfl⟩

theorem isPlainTemplate_fallback : IsPlainTemplate fallbackTemplate := by
  refine ⟨fallbackSegments, ?_, rfl⟩
  simp only [fallbackSegments, List.forall_mem_cons, Segment.isPlain_text, Segment.isPlain_hole,
    Segment.avoids_text, Segment.avoids_hole, List.not_mem_nil, false_implies, implies_true,
    and_true]
  exact ⟨notMem_toList_ofList (by decide), notMem_toList_ofList (by decide)⟩

/-- Substitution fills in the segments of a plain template from left to right. -/
theorem substitute_eq_fillIn (mode : Substitution) {segments : List Segment}
    (hplain : ∀ segment ∈ segments, segment.IsPlain) {field value : String}
    (hfield : '\x7b' ∉ field.toList) (hvalue : '\x7b' ∉ value.toList) (param : Option String) :
    substitute mode (writeTemplate segments) field value param =
      String.ofList
        (fillIn mode (Placeholder.textOf (some field) (some value) param) [] segments) := by
  -- Each replacement adds one text. Those that are there already have no opening brace.
  have hfirst : mode.replace .field field (writeTemplate segments).toList =
      fillIn mode (Placeholder.textOf (some field) none none) [] segments := by
    have hnone : ∀ q, ∀ text ∈ Placeholder.textOf none none none q, '\x7b' ∉ text.toList :=
      Placeholder.forall_textOf (by simp) (by simp) (by simp)
    rw [writeTemplate, String.toList_ofList, ← fillIn_none mode [] segments,
      mode.replace_fillIn rfl hnone hplain (.inl List.not_mem_nil), Placeholder.update_field]
  have hsecond :
      mode.replace .value value (mode.replace .field field (writeTemplate segments).toList) =
        fillIn mode (Placeholder.textOf (some field) (some value) none) [] segments := by
    have hone : ∀ q, ∀ text ∈ Placeholder.textOf (some field) none none q,
        '\x7b' ∉ text.toList :=
      Placeholder.forall_textOf (by simpa using hfield) (by simp) (by simp)
    rw [hfirst, mode.replace_fillIn rfl hone hplain (.inl List.not_mem_nil),
      Placeholder.update_value]
  cases param with
  | none => rw [substitute_none, hsecond]
  | some param =>
    have htwo : ∀ q, ∀ text ∈ Placeholder.textOf (some field) (some value) none q,
        '\x7b' ∉ text.toList :=
      Placeholder.forall_textOf (by simpa using hfield) (by simpa using hvalue) (by simp)
    rw [substitute_some, hsecond, mode.replace_fillIn rfl htwo hplain (.inl List.not_mem_nil),
      Placeholder.update_param]

/-- In a template that consists of plain segments all placeholders are filled in at once: in the one
mode every one, in the other the first of each kind, while the later ones stay as they are written.
Without a parameter its placeholders stay as well. The name of the field and the value may have no
opening brace; the parameter is any text. The built-in templates are of this form, and their texts
have no closing braces either. -/
theorem substitute_writeTemplate :
    (∀ segments : List Segment, (∀ segment ∈ segments, segment.IsPlain) →
      ∀ field value : String, '\x7b' ∉ field.toList → '\x7b' ∉ value.toList →
      ∀ param : Option String,
        let texts := Placeholder.textOf (some field) (some value) param
        substitute .all (writeTemplate segments) field value param =
            String.ofList (segments.flatMap (Segment.fill texts)) ∧
          substitute .first (writeTemplate segments) field value param =
            String.ofList (fillIn .first texts [] segments)) ∧
      (∀ rule, ∀ template ∈ builtInTemplate? rule, IsPlainTemplate template) ∧
      IsPlainTemplate fallbackTemplate := by
  refine ⟨fun segments hplain field value hfield hvalue param => ⟨?_, ?_⟩,
    fun rule template => isPlainTemplate_builtIn, isPlainTemplate_fallback⟩
  · rw [substitute_eq_fillIn .all hplain hfield hvalue, fillIn_all]
  · exact substitute_eq_fillIn .first hplain hfield hvalue param

/-- Placeholders that occur twice, a parameter that looks like a placeholder, and closing braces. -/
theorem substitute_writeTemplate_repeated :
    let segments : List Segment :=
      [.hole .value, .text " of ", .hole .field, .text "\x7d, ", .hole .param, .hole .value,
        .hole .param]
    (∀ segment ∈ segments, segment.IsPlain) ∧ '\x7b' ∉ "a\x7d".toList ∧
      substitute .all (writeTemplate segments) "size" "a\x7d" (some "\x7bfield\x7d") =
        "a\x7d of size\x7d, \x7bfield\x7da\x7d\x7bfield\x7d" ∧
      substitute .first (writeTemplate segments) "size" "a\x7d" (some "\x7bfield\x7d") =
        "a\x7d of size\x7d, \x7bfield\x7d\x7bvalue\x7d\x7bparam\x7d" := by
  intro segments
  have hplain : ∀ segment ∈ segments, segment.IsPlain := by
    simp [segments, Segment.isPlain_text, Segment.isPlain_hole]
  have hfield : '\x7b' ∉ "size".toList := by decide
  have hvalue : '\x7b' ∉ "a\x7d".toList := by decide
  have hfilled := substitute_writeTemplate.1 segments hplain "size" "a\x7d" hfield hvalue
    (some "\x7bfield\x7d")
  exact ⟨hplain, hvalue, hfilled.1.trans (by decide +kernel), hfilled.2.trans (by decide +kernel)⟩

end FormCheck
