import FormCheck.Proofs.Calendar.Ones

/-!
# Layouts that read formats

A layout reads what a format writes if its items stand for the parts of the format one by one. What
is noted then are the parts of the moment that the format mentions, and where these are all parts
that are not zero, they make up the moment.

## Main definitions

* `Calendar.Moment.IsExact` : the moments that can be written without loss.
* `Calendar.readsTokens` : whether a layout stands for the parts of a format.
* `Calendar.noted` : the parts of a moment that are noted.

## Main results

* `Calendar.Item.read_render` : an item reads the part of a format that it stands for.
* `Calendar.readLayout_render` : a layout reads the format that it stands for.
* `Calendar.date?_noted`, `Calendar.moment?_noted` : the noted parts make up the date, or the
  moment.
-/

namespace FormCheck.Calendar

open Decimal

/-! ### Numbers of fixed width -/

/-- A number of fixed width is read whatever follows. -/
theorem readNumber_append {digits : List Char} (hdigits : ∀ c ∈ digits, isDigit c = true)
    {width least : Nat} (hwidth : digits.length = width) (hleast : least ≤ width)
    (rest : List Char) :
    readNumber least (some width) (digits ++ rest) = some (natOf digits, rest) := by
  have hleading : leadingDigits (some width) (digits ++ rest) = digits := by
    rw [leadingDigits, List.takeWhile_append_of_pos hdigits, ← hwidth, List.take_left]
  rw [readNumber_eq, hleading, hwidth, if_neg (Nat.not_lt.mpr hleast), ← hwidth, List.drop_left]

/-- No blanks stand in front of a number. -/
theorem trimStart_append {digits : List Char} (hdigits : ∀ c ∈ digits, isDigit c = true)
    (hne : digits ≠ []) (rest : List Char) :
    Text.trimStart (digits ++ rest) = digits ++ rest := by
  obtain ⟨c, digits, rfl⟩ := List.exists_cons_of_ne_nil hne
  refine Text.trimStart_eq_self fun d hd => ?_
  cases hd
  exact isBlank_of_isDigit (hdigits c List.mem_cons_self)

theorem isDigit_of_mem_twoDigits {n : Nat} {c : Char} (h : c ∈ twoDigits true n) :
    isDigit c = true :=
  isDigit_of_mem_padZeros h

theorem length_twoDigits {n : Nat} (hn : n < 100) : (twoDigits true n).length = 2 :=
  length_padZeros_digitsOf (Nat.succ_pos 1) hn

theorem readTwo_twoDigits {low high n : Nat} (hlow : low ≤ n) (hhigh : n ≤ high) (hn : n < 100)
    (rest : List Char) : readTwo low high (twoDigits true n ++ rest) = some (n, rest) := by
  have hdigits : ∀ c ∈ twoDigits true n, isDigit c = true := fun c => isDigit_of_mem_twoDigits
  have hvalue : natOf (twoDigits true n) = n := (natOf_padZeros 2 _).trans (natOf_digitsOf n)
  have hne : twoDigits true n ≠ [] :=
    List.ne_nil_of_length_pos (by rw [length_twoDigits hn]; decide)
  have hread := readNumber_append hdigits (length_twoDigits hn) (Nat.le_succ 1) rest
  rw [hvalue] at hread
  rw [readTwo, trimStart_append hdigits hne, hread]
  exact if_pos ⟨hlow, hhigh⟩

/-- A year of four digits is written with these digits alone. -/
theorem integer_eq_digitsOf {year : Int} (hlow : 1000 ≤ year) :
    integer year = digitsOf year.natAbs :=
  if_neg (by omega)

theorem length_digitsOf_year {year : Int} (hlow : 1000 ≤ year) (hhigh : year ≤ 9999) :
    (digitsOf year.natAbs).length = 4 :=
  length_digitsOf (by omega) (by omega)

/-- A year of four digits is read whatever follows. -/
theorem readYear_integer {year : Int} (hlow : 1000 ≤ year) (hhigh : year ≤ 9999)
    (rest : List Char) :
    readYear (Text.trimStart (integer year ++ rest)) = some (year, rest) := by
  have hdigits : ∀ c ∈ digitsOf year.natAbs, isDigit c = true := fun c => isDigit_of_mem_digitsOf
  have hread := readNumber_append hdigits (length_digitsOf_year hlow hhigh)
    (show 1 ≤ 4 by decide) rest
  rw [natOf_digitsOf] at hread
  rw [integer_eq_digitsOf hlow, trimStart_append hdigits (digitsOf_ne_nil _)]
  obtain ⟨c, digits, hcons⟩ := List.exists_cons_of_ne_nil (digitsOf_ne_nil year.natAbs)
  rw [hcons] at hdigits hread ⊢
  have hc := hdigits c List.mem_cons_self
  have hminus : c ≠ '-' := fun heq => absurd hc (by rw [heq]; decide)
  have hplus : c ≠ '+' := fun heq => absurd hc (by rw [heq]; decide)
  rw [List.cons_append, readYear_of_ne hminus hplus, ← List.cons_append, hread]
  exact congrArg (fun n => some (n, rest)) (Int.natAbs_of_nonneg (by omega))

/-- Three digits of a fraction are milliseconds. -/
theorem readFraction_padZeros {n : Nat} (hn : n < 1000) :
    readFraction (padZeros 3 (digitsOf n)) = some (n * 1000000, []) := by
  have hlength : (padZeros 3 (digitsOf n)).length = 3 := length_padZeros_digitsOf (by decide) hn
  have hrun : (padZeros 3 (digitsOf n)).takeWhile isDigit = padZeros 3 (digitsOf n) :=
    List.takeWhile_eq_self_iff.mpr fun c hc => isDigit_of_mem_padZeros hc
  have htake : (padZeros 3 (digitsOf n)).take 9 = padZeros 3 (digitsOf n) :=
    List.take_of_length_le (by omega)
  have hvalue : natOf (padZeros 3 (digitsOf n)) = n := (natOf_padZeros 3 _).trans (natOf_digitsOf n)
  have hne : padZeros 3 (digitsOf n) ≠ [] := List.ne_nil_of_length_pos (by rw [hlength]; decide)
  simp only [readFraction, hrun, htake, hvalue, hlength, List.isEmpty_iff, if_neg hne,
    List.drop_of_length_le hlength.le]

/-! ### Parts -/

/-- A moment that can be written without loss: its year has four digits, and it is a whole number of
milliseconds after the start of a second that is no leap second. -/
structure Moment.IsExact (m : Moment) : Prop where
  year_ge : 1000 ≤ m.date.year
  year_le : m.date.year ≤ 9999
  nanosecond_lt : m.time.nanosecond < 1000000000
  nanosecond_mod : m.time.nanosecond % 1000000 = 0

theorem Time.one_le_hour12 (t : Time) : 1 ≤ t.hour12 := by
  unfold hour12
  split <;> omega

theorem Time.hour12_le (t : Time) : t.hour12 ≤ 12 := by
  unfold hour12
  split <;> omega

theorem Time.hour12_mod (t : Time) : t.hour12 % 12 = t.hour % 12 := by
  unfold hour12
  split <;> omega

theorem Moment.IsExact.millisecond_mul {m : Moment} (hm : m.IsExact) :
    m.time.millisecond * 1000000 = m.time.nanosecond := by
  have hlt := hm.nanosecond_lt
  have hmod := hm.nanosecond_mod
  unfold Time.millisecond
  omega

theorem Date.day_le (d : Date) : d.day ≤ 31 := by
  have hday := d.isDate.2.2.2.2.2
  unfold daysInMonth at hday
  split at hday
  · split at hday <;> omega
  · split at hday <;> omega

/-- The parts of a moment that are written in the given parts of a format, as they are noted. -/
def noted (m : Moment) (ts : List Token) : Fields where
  year := if .year ∈ ts then some m.date.year else none
  month := if .month true ∈ ts then some m.date.month else none
  day := if .day true ∈ ts then some m.date.day else none
  hour := if .hour true ∈ ts then some m.time.hour else none
  hour12 := if .hour12 true ∈ ts then some (m.time.hour % 12) else none
  afternoon :=
    if .half true ∈ ts ∨ .half false ∈ ts then some (decide (12 ≤ m.time.hour)) else none
  minute := if .minute true ∈ ts then some m.time.minute else none
  second := if .second true ∈ ts then some m.time.second else none
  nanosecond := if .millisecond true ∈ ts then some m.time.nanosecond else none

theorem noted_nil (m : Moment) : noted m [] = .empty := by
  simp [noted, Fields.empty]

/-- A character that stands for itself says nothing. -/
theorem noted_literal (m : Moment) (c : Char) (ts : List Token) :
    noted m (.literal c :: ts) = noted m ts := by
  simp [noted]

/-- The order of the parts does not matter. -/
theorem noted_reverse (m : Moment) (ts : List Token) : noted m ts.reverse = noted m ts := by
  simp only [noted, List.mem_reverse]

/-- The item of a layout that stands for a part of a format. -/
def Token.item? : Token → Option Item
  | .year => some .year
  | .month true => some .month
  | .day true => some .day
  | .hour true => some .hour
  | .hour12 true => some .hour12
  | .minute true => some .minute
  | .second true => some .second
  | .half _ => some .half
  | .literal c => some (.literal c)
  | _ => none

/-- The half of the day is read in capitals and in small letters. -/
theorem Item.read_half (f : Fields) (m : Moment) (capital : Bool) (rest : List Char) :
    Item.half.read f ((Token.half capital).render m ++ rest) =
      some ({ f with afternoon := some (decide (12 ≤ m.time.hour)) }, rest) := by
  by_cases hhour : 12 ≤ m.time.hour
  · cases capital <;> simp [Token.render, hhour, read]
  · cases capital <;> simp [Token.render, hhour, read]

/-- An item reads the part of a format that it stands for, whatever follows. -/
theorem Item.read_render {item : Item} {t : Token} (h : t.item? = some item) {m : Moment}
    (hm : m.IsExact) (ts : List Token) (rest : List Char) :
    item.read (noted m ts) (t.render m ++ rest) = some (noted m (t :: ts), rest) := by
  obtain ⟨-, -, hmonth, hmonth', hday, -⟩ := m.date.isDate
  have hday' := m.date.day_le
  have hhour : m.time.hour ≤ 23 := Nat.le_of_lt_succ m.time.hour_lt
  have hhour12 := m.time.hour12_le
  have hminute : m.time.minute ≤ 59 := Nat.le_of_lt_succ m.time.minute_lt
  have hsecond : m.time.second ≤ 60 := m.time.second_lt.le
  cases t with
  | year =>
    cases h
    simp only [read, Token.render, readYear_integer hm.year_ge hm.year_le]
    simp [noted]
  | month padded =>
    cases padded <;> cases h
    simp only [read, Token.render, readTwo_twoDigits hmonth hmonth' (by omega)]
    simp [noted]
  | day padded =>
    cases padded <;> cases h
    simp only [read, Token.render, readTwo_twoDigits hday hday' (by omega)]
    simp [noted]
  | hour padded =>
    cases padded <;> cases h
    simp only [read, Token.render, readTwo_twoDigits m.time.hour.zero_le hhour (by omega)]
    simp [noted]
  | hour12 padded =>
    cases padded <;> cases h
    simp only [read, Token.render, readTwo_twoDigits m.time.one_le_hour12 hhour12 (by omega)]
    simp [noted, Time.hour12_mod]
  | minute padded =>
    cases padded <;> cases h
    simp only [read, Token.render, readTwo_twoDigits m.time.minute.zero_le hminute (by omega)]
    simp [noted]
  | second padded =>
    cases padded <;> cases h
    simp only [read, Token.render, readTwo_twoDigits m.time.second.zero_le hsecond (by omega)]
    simp [noted]
  | millisecond padded => cases h
  | half capital =>
    cases h
    rw [read_half]
    cases capital <;> simp [noted]
  | literal c =>
    cases h
    rw [noted_literal]
    exact if_pos rfl

/-- Milliseconds after a point are read as a fraction. -/
theorem readLayout_fraction {m : Moment} (hm : m.IsExact) (ts : List Token) :
    readLayout (noted m ts) [.fraction] ('.' :: (Token.millisecond true).render m) =
      some (noted m (.millisecond true :: ts)) := by
  have hlt : m.time.millisecond < 1000 := Nat.mod_lt _ (by decide)
  have hread : readFraction ((Token.millisecond true).render m) = some (m.time.nanosecond, []) := by
    rw [← hm.millisecond_mul]
    exact readFraction_padZeros hlt
  simp only [readLayout, Item.read, hread]
  simp [noted, readLayout]

/-! ### Formats -/

/-- The number of digits of a part of a format that is always written with as many digits. -/
def Token.width? : Token → Option Nat
  | .year => some 4
  | .month true => some 2
  | .day true => some 2
  | .hour true => some 2
  | .hour12 true => some 2
  | .minute true => some 2
  | .second true => some 2
  | .millisecond true => some 3
  | _ => none

/-- A part of fixed width consists of as many digits. -/
theorem Token.render_of_width? {t : Token} {width : Nat} (h : t.width? = some width) {m : Moment}
    (hm : m.IsExact) :
    (∀ c ∈ t.render m, isDigit c = true) ∧ (t.render m).length = width := by
  obtain ⟨-, -, -, hmonth, -, -⟩ := m.date.isDate
  have hday := m.date.day_le
  have hhour := m.time.hour_lt
  have hhour12 := m.time.hour12_le
  have hminute := m.time.minute_lt
  have hsecond := m.time.second_lt
  have hmillisecond : m.time.millisecond < 1000 := Nat.mod_lt _ (by decide)
  cases t
  case year =>
    cases h
    rw [render, integer_eq_digitsOf hm.year_ge]
    exact ⟨fun _ => isDigit_of_mem_digitsOf, length_digitsOf_year hm.year_ge hm.year_le⟩
  case millisecond padded =>
    cases padded <;> cases h
    exact ⟨fun _ => isDigit_of_mem_padZeros, length_padZeros_digitsOf (by decide) hmillisecond⟩
  case half capital => cases h
  case literal c => cases h
  -- The other parts have two digits or as many as it takes.
  all_goals
    next padded =>
      cases padded <;> cases h
      exact ⟨fun _ => isDigit_of_mem_twoDigits, length_twoDigits (by omega)⟩

theorem Token.width?_ne_zero (t : Token) : t.width? ≠ some 0 := by
  fun_cases width? t <;> simp

/-- Whether a part of a format is a number of fixed width or the half of the day. -/
def Token.isPart : Token → Bool
  | .half _ => true
  | t => t.width?.isSome

/-- No blanks stand in front of a part. -/
theorem Token.trimStart_render {t : Token} (ht : t.isPart = true) {m : Moment} (hm : m.IsExact)
    (rest : List Char) : Text.trimStart (t.render m ++ rest) = t.render m ++ rest := by
  cases hwidth : t.width? with
  | some width =>
    obtain ⟨hdigits, hlength⟩ := render_of_width? hwidth hm
    refine trimStart_append hdigits (fun hnil => ?_) rest
    rw [hnil, List.length_nil] at hlength
    exact t.width?_ne_zero (hlength ▸ hwidth)
  | none =>
    cases t
    case half capital =>
      by_cases hhour : 12 ≤ m.time.hour
      · cases capital <;> simp only [render, hhour] <;> rfl
      · cases capital <;> simp only [render, hhour] <;> rfl
    all_goals simp [isPart, hwidth] at ht

/-- Whether a layout stands for the parts of a format. Blanks of a layout stand for a single blank
that is followed by no other blank, and a fraction at the end of a layout stands for milliseconds
after a point or for nothing. -/
def readsTokens : List Item → List Token → Bool
  | [], [] => true
  | [.fraction], [] => true
  | [.fraction], [.literal '.', .millisecond true] => true
  | .blanks :: items, .literal ' ' :: t :: ts => t.isPart && readsTokens items (t :: ts)
  | item :: items, t :: ts => t.item? == some item && readsTokens items ts
  | _, _ => false

/-- A layout reads the format that it stands for. -/
theorem readLayout_render {items : List Item} {ts : List Token} (h : readsTokens items ts = true)
    {m : Moment} (hm : m.IsExact) (done : List Token) :
    readLayout (noted m done) items (ts.flatMap (Token.render m)) =
      some (noted m (ts.reverse ++ done)) := by
  fun_induction readsTokens items ts generalizing done
  case case1 => rfl
  case case2 => rfl
  case case3 =>
    rw [← noted_literal m '.' done, List.flatMap_cons, List.flatMap_singleton]
    exact readLayout_fraction hm (.literal '.' :: done)
  case case4 items t ts ih =>
    obtain ⟨hpart, hrest⟩ := Bool.and_eq_true_iff.mp h
    have htrim : Text.trimStart (' ' :: (t :: ts).flatMap (Token.render m)) =
        (t :: ts).flatMap (Token.render m) :=
      Token.trimStart_render hpart hm (ts.flatMap (Token.render m))
    have hread := ih hrest (.literal ' ' :: done)
    rw [noted_literal, ← htrim] at hread
    rw [List.reverse_cons, List.append_assoc]
    exact hread
  case case5 item items t ts _ _ ih =>
    obtain ⟨hhere, hrest⟩ := Bool.and_eq_true_iff.mp h
    have hread := Item.read_render (eq_of_beq hhere) hm done (ts.flatMap (Token.render m))
    rw [List.flatMap_cons, readLayout, hread, List.reverse_cons, List.append_assoc]
    exact ih hrest (t :: done)
  case case6 => exact absurd h Bool.false_ne_true

/-- What is noted is what the format mentions. -/
theorem readLayout_empty_render {items : List Item} {ts : List Token}
    (h : readsTokens items ts = true) {m : Moment} (hm : m.IsExact) :
    readLayout .empty items (ts.flatMap (Token.render m)) = some (noted m ts) := by
  have hread := readLayout_render h hm []
  rwa [noted_nil, List.append_nil, noted_reverse] at hread

/-! ### Moments -/

/-- The parts of a format make up a date. -/
def TellsDate (ts : List Token) : Prop := .year ∈ ts ∧ .month true ∈ ts ∧ .day true ∈ ts

/-- The parts of a format make up an hour and a minute. -/
def TellsTime (ts : List Token) : Prop :=
  (.hour true ∈ ts ∨ .hour12 true ∈ ts ∧ (.half true ∈ ts ∨ .half false ∈ ts)) ∧ .minute true ∈ ts

instance (ts : List Token) : Decidable (TellsDate ts) := inferInstanceAs (Decidable (_ ∧ _))

instance (ts : List Token) : Decidable (TellsTime ts) := inferInstanceAs (Decidable (_ ∧ _))

/-- The date is read back. -/
theorem date?_noted (m : Moment) {ts : List Token} (h : TellsDate ts) :
    (noted m ts).date? = some m.date := by
  obtain ⟨hyear, hmonth, hday⟩ := h
  have hparts : Date.ofParts? m.date.year m.date.month m.date.day = some m.date :=
    dif_pos m.date.isDate
  simp only [Fields.date?, noted, if_pos hyear, if_pos hmonth, if_pos hday, Option.bind_eq_bind,
    Option.bind_some, hparts]

/-- The hour is read back, from 0 to 23 or with the half of the day. -/
theorem fullHour?_noted (m : Moment) {ts : List Token} (h : TellsTime ts) :
    (noted m ts).fullHour? = some m.time.hour := by
  by_cases hhour : .hour true ∈ ts
  · simp only [Fields.fullHour?, noted, if_pos hhour]
  · obtain ⟨hhour12, hhalf⟩ := h.1.resolve_left hhour
    have hlt := m.time.hour_lt
    simp only [Fields.fullHour?, noted, if_neg hhour, if_pos hhour12, if_pos hhalf,
      Option.bind_eq_bind, Option.bind_some, decide_eq_true_eq]
    refine congrArg some ?_
    split <;> omega

theorem time?_noted (m : Moment) {ts : List Token} (h : TellsTime ts)
    (hsecond : .second true ∉ ts → m.time.second = 0)
    (hnanosecond : .millisecond true ∉ ts → m.time.nanosecond = 0) :
    (noted m ts).time? = some m.time := by
  have hparts : Time.ofParts? m.time.hour m.time.minute m.time.second m.time.nanosecond =
      some m.time :=
    dif_pos ⟨m.time.hour_lt, m.time.minute_lt, m.time.second_lt, m.time.nanosecond_lt, m.time.leap⟩
  have hsecond' : (noted m ts).second.getD 0 = m.time.second := by
    by_cases hmem : .second true ∈ ts
    · simp only [noted, if_pos hmem, Option.getD_some]
    · simp only [noted, if_neg hmem, Option.getD_none, hsecond hmem]
  have hnanosecond' : (noted m ts).nanosecond.getD 0 = m.time.nanosecond := by
    by_cases hmem : .millisecond true ∈ ts
    · simp only [noted, if_pos hmem, Option.getD_some]
    · simp only [noted, if_neg hmem, Option.getD_none, hnanosecond hmem]
  have hminute : (noted m ts).minute = some m.time.minute := if_pos h.2
  -- No leap second was written, so the branch for second 60 is not taken.
  have hne : m.time.second ≠ 60 := m.time.second_lt.ne
  simp only [Fields.time?, fullHour?_noted m h, hminute, hsecond', hnanosecond',
    Option.bind_eq_bind, Option.bind_some, hparts]

theorem moment?_noted (m : Moment) {ts : List Token} (hdate : TellsDate ts) (htime : TellsTime ts)
    (hsecond : .second true ∉ ts → m.time.second = 0)
    (hnanosecond : .millisecond true ∉ ts → m.time.nanosecond = 0) :
    (noted m ts).moment? = some m := by
  rw [Fields.moment?, date?_noted m hdate, time?_noted m htime hsecond hnanosecond]
  rfl

end FormCheck.Calendar
