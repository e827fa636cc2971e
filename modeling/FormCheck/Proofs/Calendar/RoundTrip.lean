import FormCheck.Proofs.Calendar.Rendering
import Mathlib.Data.List.Basic

/-!
# Dates that are read back

A date that is written in one of the exact formats is read back as it was. The readers are tried in
a fixed order, and each text has to get past those that come before the layout of its format. Which
of them refuse it depends on the format and the half of the day alone, since a reader that reads a
text also reads the text with ones for its digits; so a look at two texts for each format decides.

## Main definitions

* `Calendar.shape` : what is written in a format, with ones for the digits.
* `Calendar.firstReading` : the first of some layouts that reads a text.
* `Calendar.exactFormats` : the formats with parts of fixed width that are read back.
* `Calendar.Moment.IsExpressedBy` : the moments of which a format leaves nothing out.

## Main results

* `Calendar.findSome?_eq_some_of_firstReading` : the layouts before the one that reads the shape do
  not matter.
* `Calendar.readMoment_format` : exact formats are read back.
-/

namespace FormCheck.Calendar

open Decimal (isDigit)

/-! ### Shapes -/

/-- Whether a part of a format is written with the same number of digits at all exact moments. -/
def Token.isFixed : Token → Bool
  | .literal _ => true
  | t => t.isPart

theorem isDate_2000 : IsDate 2000 1 1 := by
  decide

/-- The start of a day, or its noon. -/
def noonOrMidnight (afternoon : Bool) : Moment :=
  ⟨⟨2000, 1, 1, isDate_2000⟩,
    match afternoon with
    | true => { Time.midnight with hour := 12, hour_lt := by decide }
    | false => .midnight⟩

/-- What is written in a format in a half of the day, with ones for the digits. -/
def shape (afternoon : Bool) (f : String) : List Char :=
  withOnes (formatChars (noonOrMidnight afternoon) f.toList)

theorem isExact_noonOrMidnight (afternoon : Bool) : (noonOrMidnight afternoon).IsExact := by
  cases afternoon <;> constructor <;> decide

theorem twelve_le_hour_noonOrMidnight (afternoon : Bool) :
    12 ≤ (noonOrMidnight afternoon).time.hour ↔ afternoon = true := by
  cases afternoon <;> decide

/-- With ones for the digits a part is the same at all moments of a half of the day. -/
theorem Token.withOnes_render_congr {t : Token} (ht : t.isFixed = true) {m m' : Moment}
    (hm : m.IsExact) (hm' : m'.IsExact) (hhalf : 12 ≤ m.time.hour ↔ 12 ≤ m'.time.hour) :
    withOnes (t.render m) = withOnes (t.render m') := by
  cases hwidth : t.width? with
  | some width =>
    obtain ⟨hdigits, hlength⟩ := render_of_width? hwidth hm
    obtain ⟨hdigits', hlength'⟩ := render_of_width? hwidth hm'
    rw [withOnes_of_forall_isDigit hdigits, withOnes_of_forall_isDigit hdigits', hlength, hlength']
  | none =>
    cases t
    case literal c => rfl
    case half capital => simp only [render, hhalf]
    all_goals simp [isFixed, isPart, hwidth] at ht

/-- The shape of a text depends on the half of the day alone. -/
theorem withOnes_formatChars {f : String} (hf : ∀ t ∈ tokens f.toList, t.isFixed = true)
    {m : Moment} (hm : m.IsExact) :
    withOnes (formatChars m f.toList) = shape (decide (12 ≤ m.time.hour)) f := by
  have hhalf : 12 ≤ m.time.hour ↔
      12 ≤ (noonOrMidnight (decide (12 ≤ m.time.hour))).time.hour := by
    rw [twelve_le_hour_noonOrMidnight, decide_eq_true_iff]
  simp only [shape, formatChars, withOnes, List.map_flatMap]
  exact List.flatMap_congr fun t ht =>
    Token.withOnes_render_congr (hf t ht) hm (isExact_noonOrMidnight _) hhalf

/-- A part that does not occur with fixed width in parts whose shape is known does not occur. -/
theorem notMem_of_isFixed {ts : List Token} (hts : ∀ t ∈ ts, t.isFixed = true) {part : Bool → Token}
    (hpart : (part false).isFixed = false) (h : part true ∉ ts) : ∀ padded, part padded ∉ ts := by
  rintro (_ | _) hmem
  · rw [hts _ hmem] at hpart
    exact nomatch hpart
  · exact h hmem

/-! ### The first layout that reads -/

/-- The first of some layouts that reads a text. -/
def firstReading (layouts : List (List Item)) (s : List Char) : Option (List Item) :=
  layouts.find? fun layout => (readLayout .empty layout s).isSome

section FirstReading

variable {α : Type*} {layouts : List (List Item)} {s : List Char} {g : List Item → Option α}

/-- A layout that refuses a text with ones for its digits refuses the text. -/
theorem readLayout_eq_none {layout : List Item}
    (hlayout : ∀ item ∈ layout, item.asksForDigit = false)
    (h : ¬ (readLayout .empty layout (withOnes s)).isSome = true) :
    readLayout .empty layout s = none := by
  rw [Option.eq_none_iff_forall_ne_some]
  intro f hf
  obtain ⟨f', hf'⟩ := readLayout_withOnes hlayout hf .empty
  exact h (Option.isSome_iff_exists.mpr ⟨f', hf'⟩)

/-- A text is read in the first layout that reads it with ones for its digits. -/
theorem findSome?_eq_some_of_firstReading
    (hlayouts : ∀ layout ∈ layouts, ∀ item ∈ layout, item.asksForDigit = false)
    {layout : List Item} (h : firstReading layouts (withOnes s) = some layout)
    (hg : ∀ layout, readLayout .empty layout s = none → g layout = none) {a : α}
    (ha : g layout = some a) : layouts.findSome? g = some a := by
  obtain ⟨-, before, after, rfl, hbefore⟩ := List.find?_eq_some_iff_append.mp h
  have hnone : before.findSome? g = none := List.findSome?_eq_none_iff.mpr fun other hother =>
    hg other (readLayout_eq_none (hlayouts other (List.mem_append_left _ hother)) (by
      simpa using hbefore other hother))
  rw [List.findSome?_append, hnone, Option.none_or, List.findSome?_cons, ha]

/-- A text is not read if no layout reads it with ones for its digits. -/
theorem findSome?_eq_none_of_firstReading
    (hlayouts : ∀ layout ∈ layouts, ∀ item ∈ layout, item.asksForDigit = false)
    (h : firstReading layouts (withOnes s) = none)
    (hg : ∀ layout, readLayout .empty layout s = none → g layout = none) :
    layouts.findSome? g = none :=
  List.findSome?_eq_none_iff.mpr fun layout hlayout =>
    hg layout (readLayout_eq_none (hlayouts layout hlayout)
      (List.find?_eq_none.mp h layout hlayout))

end FirstReading

theorem asksForDigit_momentLayouts :
    ∀ layout ∈ momentLayouts, ∀ item ∈ layout, item.asksForDigit = false := by
  decide

theorem asksForDigit_dateLayouts :
    ∀ layout ∈ dateLayouts, ∀ item ∈ layout, item.asksForDigit = false := by
  decide

/-! ### Formats -/

/-- The orders of year, month and day. -/
def dateOrders : List String := ["YYYY-MM-DD", "YYYY/MM/DD", "MM/DD/YYYY"]

/-- The formats of a time of day that may follow a date. -/
def clockFormats : List String :=
  ["HH:mm", "HH:mm:ss", "hh:mm A", "hh:mm a", "hh:mm:ss A", "hh:mm:ss a"]

/-- The exact formats of a date alone. -/
def dateFormats : List String := dateOrders ++ ["YYYY.MM.DD"]

/-- The exact formats of a date with a time. -/
def momentFormats : List String :=
  (dateOrders.flatMap fun date => clockFormats.map fun clock => date ++ " " ++ clock) ++
    ["YYYY-MM-DD HH:mm:ss.SSS", "YYYY-MM-DDTHH:mm", "YYYY-MM-DDTHH:mm:ss",
      "YYYY-MM-DDTHH:mm:ss.SSS"]

/-- The formats with parts of fixed width that are read back. -/
def exactFormats : List String := dateFormats ++ momentFormats

/-- A moment of which a format leaves nothing out: it is exact, and the parts of the time of day
that the format does not mention are zero. -/
structure Moment.IsExpressedBy (m : Moment) (f : String) : Prop extends m.IsExact where
  hour_eq : (∀ padded, .hour padded ∉ tokens f.toList ∧ .hour12 padded ∉ tokens f.toList) →
    m.time.hour = 0
  minute_eq : (∀ padded, .minute padded ∉ tokens f.toList) → m.time.minute = 0
  second_eq : (∀ padded, .second padded ∉ tokens f.toList) → m.time.second = 0
  nanosecond_eq : (∀ padded, .millisecond padded ∉ tokens f.toList) → m.time.nanosecond = 0

/-- At the start of a day all parts of the time are zero. -/
theorem Time.eq_midnight {t : Time} (hhour : t.hour = 0) (hminute : t.minute = 0)
    (hsecond : t.second = 0) (hnanosecond : t.nanosecond = 0) : t = .midnight := by
  cases t with
  | mk hour minute second nanosecond =>
    obtain rfl : hour = 0 := hhour
    obtain rfl : minute = 0 := hminute
    obtain rfl : second = 0 := hsecond
    obtain rfl : nanosecond = 0 := hnanosecond
    rfl

/-- What is written in an exact format has a known shape, it begins with a digit, and no reader in
front of the layouts takes it. -/
theorem shape_exactFormats :
    ∀ f ∈ exactFormats, (∀ t ∈ tokens f.toList, t.isFixed = true) ∧ ∀ afternoon,
      (shape afternoon f).head?.any isDigit = true ∧
      (shape afternoon f).getLast?.any Text.isBlank = false ∧
      readTimestamp (shape afternoon f) = none ∧
      ((readTwo 1 31 (shape afternoon f)).bind fun (_, rest) => readBlanks rest) = none := by
  decide +kernel

/-- The first layout that takes a date with a time stands for the parts of its format, and these
make up the date and the time. -/
theorem firstReading_momentFormats :
    ∀ f ∈ momentFormats, TellsDate (tokens f.toList) ∧ TellsTime (tokens f.toList) ∧ ∀ afternoon,
      ∃ layout ∈ firstReading momentLayouts (shape afternoon f),
        readsTokens layout (tokens f.toList) = true := by
  decide +kernel

/-- No layout with a time takes a date alone, and the first layout that takes it stands for the
parts of its format. -/
theorem firstReading_dateFormats :
    ∀ f ∈ dateFormats, TellsDate (tokens f.toList) ∧ ∀ afternoon,
      firstReading momentLayouts (shape afternoon f) = none ∧
      ∃ layout ∈ firstReading dateLayouts (shape afternoon f),
        readsTokens layout (tokens f.toList) = true := by
  decide +kernel

/-- The exact formats of a date alone mention no part of the time of day. -/
theorem notMem_dateFormats :
    ∀ f ∈ dateFormats, ∀ padded,
      (.hour padded ∉ tokens f.toList ∧ .hour12 padded ∉ tokens f.toList) ∧
        .minute padded ∉ tokens f.toList ∧ .second padded ∉ tokens f.toList ∧
        .millisecond padded ∉ tokens f.toList := by
  decide +kernel

/-! ### Reading back -/

section ReadingBack

variable {f : String} {m : Moment}

/-- What is written in an exact format is read in the layouts alone. -/
theorem readMomentChars_formatChars (hf : f ∈ exactFormats) (hm : m.IsExact) :
    readMomentChars (formatChars m f.toList) =
      (readMomentLayouts (formatChars m f.toList) <|>
        readDateLayouts (formatChars m f.toList)) := by
  obtain ⟨hfixed, hshapes⟩ := shape_exactFormats f hf
  obtain ⟨hhead, hlast, htimestamp, hmail⟩ := hshapes (decide (12 ≤ m.time.hour))
  rw [← withOnes_formatChars hfixed hm] at hhead hlast htimestamp hmail
  rw [any_isDigit_head?_withOnes, Option.any_eq_true] at hhead
  rw [any_isBlank_getLast?_withOnes, Option.any_eq_false] at hlast
  obtain ⟨c, hc, hdigit⟩ := hhead
  have hstart : ∀ d ∈ (formatChars m f.toList).head?, isDigit d = true := fun d hd => by
    rw [hc] at hd
    cases hd
    exact hdigit
  have htrim : Text.trim (formatChars m f.toList) = formatChars m f.toList :=
    Text.trim_eq_self (fun d hd => Decimal.isBlank_of_isDigit (hstart d hd)) hlast
  have hne : (formatChars m f.toList).isEmpty = false :=
    List.isEmpty_eq_false_iff.mpr fun hnil => by
      rw [hnil] at hc
      exact nomatch hc
  simp only [readMomentChars, htrim, hne, readTimestamp_eq_none htimestamp,
    readMailDate_eq_none hstart hmail, Bool.false_eq_true, if_false]
  rfl

/-- A date with a time is read back. -/
theorem readMomentLayouts_formatChars (hf : f ∈ momentFormats) (hm : m.IsExpressedBy f) :
    readMomentLayouts (formatChars m f.toList) = some m := by
  obtain ⟨hfixed, -⟩ := shape_exactFormats f (List.mem_append_right dateFormats hf)
  obtain ⟨hdate, htime, hshapes⟩ := firstReading_momentFormats f hf
  obtain ⟨layout, hfirst, hreads⟩ := hshapes (decide (12 ≤ m.time.hour))
  rw [← withOnes_formatChars hfixed hm.toIsExact] at hfirst
  refine findSome?_eq_some_of_firstReading asksForDigit_momentLayouts hfirst
    (fun other hother => by rw [hother]; rfl) ?_
  have hmoment := moment?_noted m hdate htime
    (fun hsecond => hm.second_eq (notMem_of_isFixed hfixed rfl hsecond))
    (fun hmillisecond => hm.nanosecond_eq (notMem_of_isFixed hfixed rfl hmillisecond))
  rw [formatChars, readLayout_empty_render hreads hm.toIsExact]
  exact hmoment

theorem readMomentLayouts_eq_none (hf : f ∈ dateFormats) (hm : m.IsExact) :
    readMomentLayouts (formatChars m f.toList) = none := by
  obtain ⟨hfixed, -⟩ := shape_exactFormats f (List.mem_append_left momentFormats hf)
  obtain ⟨hnone, -⟩ := (firstReading_dateFormats f hf).2 (decide (12 ≤ m.time.hour))
  rw [← withOnes_formatChars hfixed hm] at hnone
  exact findSome?_eq_none_of_firstReading asksForDigit_momentLayouts hnone
    fun other hother => by rw [hother]; rfl

/-- A date alone is read back. -/
theorem readDateLayouts_formatChars (hf : f ∈ dateFormats) (hm : m.IsExpressedBy f) :
    readDateLayouts (formatChars m f.toList) = some m := by
  obtain ⟨hfixed, -⟩ := shape_exactFormats f (List.mem_append_left momentFormats hf)
  obtain ⟨hdate, hshapes⟩ := firstReading_dateFormats f hf
  obtain ⟨-, layout, hfirst, hreads⟩ := hshapes (decide (12 ≤ m.time.hour))
  rw [← withOnes_formatChars hfixed hm.toIsExact] at hfirst
  refine findSome?_eq_some_of_firstReading asksForDigit_dateLayouts hfirst
    (fun other hother => by rw [hother]; rfl) ?_
  have hnone := notMem_dateFormats f hf
  have hmidnight : m.time = .midnight := Time.eq_midnight
    (hm.hour_eq fun padded => (hnone padded).1)
    (hm.minute_eq fun padded => (hnone padded).2.1)
    (hm.second_eq fun padded => (hnone padded).2.2.1)
    (hm.nanosecond_eq fun padded => (hnone padded).2.2.2)
  rw [formatChars, readLayout_empty_render hreads hm.toIsExact, Option.bind_some,
    date?_noted m hdate, ← hmidnight]
  rfl

end ReadingBack

/-- A moment of which an exact format leaves nothing out is read back as it was, so what is written
is a date in this format. -/
theorem readMoment_format {f : String} (hf : f ∈ exactFormats) {m : Moment}
    (hm : m.IsExpressedBy f) :
    readMoment (format m f) = some m ∧ isDate (format m f) (some f) = true := by
  have hread : readMoment (format m f) = some m := by
    have hchars := readMomentChars_formatChars hf hm.toIsExact
    rw [readMoment, format, String.toList_ofList, hchars]
    rcases List.mem_append.mp hf with hdate | hmoment
    · rw [readMomentLayouts_eq_none hdate hm.toIsExact, readDateLayouts_formatChars hdate hm]
      rfl
    · rw [readMomentLayouts_formatChars hmoment hm]
      rfl
  refine ⟨hread, ?_⟩
  simp [isDate, hread]

/-- An evening in the layout with the month first: layouts with the year first come before it and
start to read the month as a year. -/
theorem readMoment_format_evening :
    let m : Moment :=
      ⟨⟨2010, 1, 5, by decide⟩,
        ⟨22, 30, 0, 0, by decide, by decide, by decide, by decide, fun h => absurd h (by decide)⟩⟩
    "MM/DD/YYYY hh:mm A" ∈ exactFormats ∧ m.IsExpressedBy "MM/DD/YYYY hh:mm A" ∧
      format m "MM/DD/YYYY hh:mm A" = "01/05/2010 10:30 PM" ∧
      readMoment "01/05/2010 10:30 PM" = some m ∧
      isDate "01/05/2010 10:30 PM" (some "MM/DD/YYYY hh:mm A") = true := by
  intro m
  have hmem : "MM/DD/YYYY hh:mm A" ∈ exactFormats := by decide +kernel
  have hm : m.IsExpressedBy "MM/DD/YYYY hh:mm A" :=
    ⟨⟨by decide, by decide, by decide, by decide⟩, by decide +kernel, by decide +kernel,
      fun _ => rfl, fun _ => rfl⟩
  have hformat : format m "MM/DD/YYYY hh:mm A" = "01/05/2010 10:30 PM" := by decide +kernel
  have hread := readMoment_format hmem hm
  rw [hformat] at hread
  exact ⟨hmem, hm, hformat, hread⟩

end FormCheck.Calendar
