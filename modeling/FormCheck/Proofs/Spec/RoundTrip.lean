import FormCheck.Proofs.Spec.Cutting
import FormCheck.Proofs.FirstOccurrence
import Mathlib.Data.List.TakeWhile

/-!
# Reading what was written

The spec of a list of rules is read back as this list, in the same order and with every character
of a parameter in its place. Two readers have to agree on each token for this. The scan for
separating bars counts brackets and respects escapes; the reader of a token looks only for the
first opening bracket and the last closing one. They agree when the bracket in front of a parameter
and the one behind it close over the whole parameter.

## Main definitions

* `Spec.IsEnclosed` : parameters that a pair of brackets closes over.
* `Rule.IsWritable` : rules whose token is read back.

## Main results

* `Rule.read_write` : a token is read as the rule that it was written for.
* `Rule.isWhole_write`, `Rule.isLevel_write` : a token is one piece.
* `Spec.rules_write` : the spec of a list of rules is read as this list.
-/

namespace FormCheck

namespace Spec

/-! ### Bars at balance zero -/

/-- A scan that begins with balance `d` meets no bar with balance zero. -/
def AvoidsBar (d : Int) (s : List Char) : Prop :=
  ∀ i < s.length, s[i]? = some '|' → d + depth (s.take i) ≠ 0

instance (d : Int) (s : List Char) : Decidable (AvoidsBar d s) :=
  inferInstanceAs (Decidable (∀ i < s.length, s[i]? = some '|' → d + depth (s.take i) ≠ 0))

theorem isWhole_iff_avoidsBar {s : List Char} : IsWhole s ↔ AvoidsBar 0 s := by
  unfold IsWhole AvoidsBar
  simp only [isLevel_iff_depth_eq_zero, Int.zero_add, ne_eq]

theorem avoidsBar_of_notMem {s : List Char} (h : '|' ∉ s) (d : Int) : AvoidsBar d s :=
  fun _ _ hbar => absurd (List.mem_of_getElem? hbar) h

theorem AvoidsBar.append {d : Int} {a b : List Char} (ha : AvoidsBar d a) (he : ¬ IsEscaping a)
    (hb : AvoidsBar (d + depth a) b) : AvoidsBar d (a ++ b) := by
  intro i hi hbar
  by_cases hlt : i < a.length
  · rw [List.getElem?_append_left hlt] at hbar
    rw [List.take_append_of_le_length (Nat.le_of_lt hlt)]
    exact ha i hlt hbar
  · obtain ⟨j, rfl⟩ := Nat.exists_eq_add_of_le (Nat.le_of_not_lt hlt)
    rw [List.length_append] at hi
    rw [List.getElem?_append_right (Nat.le_add_right _ _), Nat.add_sub_cancel_left] at hbar
    rw [List.take_length_add_append, depth_append he, ← Int.add_assoc]
    exact hb j (by omega) hbar

/-! ### Texts without special characters -/

/-- A character that ends names or escapes what follows. -/
def specials : List Char := ['[', ']', '|', '\\']

theorem unescaped_of_notMem {c : Char} {s : List Char} (h : c ∉ s) : unescaped c s = 0 := by
  rw [unescaped, List.countP_eq_zero]
  intro i _
  simp only [decide_eq_true_eq]
  rintro ⟨hc, -⟩
  exact h (List.mem_of_getElem? hc)

theorem not_isEscaping_of_notMem {s : List Char} (h : '\\' ∉ s) : ¬ IsEscaping s := by
  induction s using List.reverseRecOn with
  | nil => exact not_isEscaping_nil
  | append_singleton s c =>
    rw [isEscaping_concat]
    rintro ⟨rfl, -⟩
    exact h (by simp)

/-- A pair of brackets closes over a parameter: from the opening bracket on, the balance is zero at
no bar of the parameter and back at one at its end, and the closing bracket is not escaped. -/
structure IsEnclosed (param : List Char) : Prop where
  /-- No bar of the parameter separates. -/
  avoidsBar : AvoidsBar 1 param
  /-- At the end of the parameter only the bracket in front of it is open. -/
  depth_eq : 1 + depth param = 1
  /-- The parameter does not end with an odd number of backslashes. -/
  not_isEscaping : ¬ IsEscaping param

instance (param : List Char) : Decidable (IsEnclosed param) :=
  decidable_of_iff (AvoidsBar 1 param ∧ 1 + depth param = 1 ∧ ¬ IsEscaping param)
    ⟨fun ⟨hbar, hdepth, hescaping⟩ => ⟨hbar, hdepth, hescaping⟩,
      fun h => ⟨h.avoidsBar, h.depth_eq, h.not_isEscaping⟩⟩

/-- A pair of brackets closes over a text that has neither brackets nor backslashes. -/
theorem isEnclosed_of_notMem {s : List Char} (hopen : '[' ∉ s) (hclose : ']' ∉ s)
    (hescape : '\\' ∉ s) : IsEnclosed s := by
  have hdepth {t : List Char} (ht : t ⊆ s) : depth t = 0 := by
    have hopen' : '[' ∉ t := fun hmem => hopen (ht hmem)
    have hclose' : ']' ∉ t := fun hmem => hclose (ht hmem)
    rw [depth, unescaped_of_notMem hopen', unescaped_of_notMem hclose']
    rfl
  refine ⟨fun i _ _ => ?_, ?_, not_isEscaping_of_notMem hescape⟩
  · rw [hdepth (List.take_subset i s)]
    decide
  · rw [hdepth (List.Subset.refl s)]
    rfl

end Spec

namespace Rule

open Spec

/-- A rule whose token is read back: its name is a text without blanks at its ends and without
special characters, and brackets close over its parameter. -/
structure IsWritable (r : Rule) : Prop where
  /-- There is a name. -/
  name_ne_nil : r.name.toList ≠ []
  /-- The name begins with no blank. -/
  head_not_blank : ∀ c ∈ r.name.toList.head?, Text.isBlank c = false
  /-- The name ends with no blank. -/
  last_not_blank : ∀ c ∈ r.name.toList.getLast?, Text.isBlank c = false
  /-- The name has no special character. -/
  not_special : ∀ c ∈ r.name.toList, c ∉ specials
  /-- Brackets close over the parameter, if there is one. -/
  isEnclosed : ∀ param ∈ r.param, IsEnclosed param.toList

/-- A name without blanks and special characters may be written by itself. -/
theorem isWritable_bare {name : String} (hne : name.toList ≠ [])
    (hplain : name.toList.all (fun c => !Text.isBlank c && !specials.contains c) = true) :
    IsWritable ⟨name, none⟩ := by
  have hall : ∀ c ∈ name.toList, Text.isBlank c = false ∧ c ∉ specials := by
    simpa only [List.all_eq_true, Bool.and_eq_true, Bool.not_eq_true', List.contains_eq_mem,
      decide_eq_false_iff_not] using hplain
  exact ⟨hne, fun c hc => (hall c (List.mem_of_head? hc)).1,
    fun c hc => (hall c (List.mem_of_getLast? hc)).1, fun c hc => (hall c hc).2, by simp⟩

namespace IsWritable

variable {r : Rule} (h : r.IsWritable)

include h

theorem notMem_name {c : Char} (hc : c ∈ specials) : c ∉ r.name.toList :=
  fun hmem => h.not_special c hmem hc

theorem trim_name : Text.trim r.name.toList = r.name.toList :=
  Text.trim_eq_self h.head_not_blank h.last_not_blank

theorem depth_name : depth r.name.toList = 0 := by
  rw [depth, unescaped_of_notMem (h.notMem_name (by decide)),
    unescaped_of_notMem (h.notMem_name (by decide))]
  rfl

theorem not_isEscaping_name : ¬ IsEscaping r.name.toList :=
  not_isEscaping_of_notMem (h.notMem_name (by decide))

/-- The bracket behind the name is open. -/
theorem depth_open : depth (r.name.toList ++ ['[']) = 1 := by
  rw [depth_append h.not_isEscaping_name, h.depth_name]
  rfl

theorem not_isEscaping_open : ¬ IsEscaping (r.name.toList ++ ['[']) := by
  rw [isEscaping_append h.not_isEscaping_name]
  decide

/-- A rule that is written may be given a parameter that brackets close over. -/
theorem withParam {param : String} (hparam : IsEnclosed param.toList) :
    IsWritable ⟨r.name, some param⟩ :=
  { h with
    isEnclosed := by
      rintro _ ⟨⟩
      exact hparam }

end IsWritable

/-! ### One token -/

theorem write_bare (name : String) : write ⟨name, none⟩ = name.toList := rfl

theorem write_param (name param : String) :
    write ⟨name, some param⟩ = (name.toList ++ ['[']) ++ (param.toList ++ [']']) := by
  simp [write]

theorem write_ne_nil {r : Rule} (h : r.IsWritable) : r.write ≠ [] := by
  obtain ⟨name, param⟩ := r
  cases param with
  | none => exact h.name_ne_nil
  | some param => simp [write_param]

theorem trim_write {r : Rule} (h : r.IsWritable) : Text.trim r.write = r.write := by
  obtain ⟨name, param⟩ := r
  cases param with
  | none => exact h.trim_name
  | some param =>
    have hhead : (write ⟨name, some param⟩).head? = name.toList.head? := by
      rw [write_param, List.append_assoc, List.head?_append_of_ne_nil _ h.name_ne_nil]
    have hlast : (write ⟨name, some param⟩).getLast? = some ']' := by
      rw [write_param, ← List.append_assoc, List.getLast?_concat]
    refine Text.trim_eq_self ?_ ?_
    · rw [hhead]
      exact h.head_not_blank
    · rw [hlast]
      rintro c ⟨⟩
      rfl

/-- The last closing bracket is the one behind the parameter. -/
theorem beforeLastClose_concat (s : List Char) : beforeLastClose (s ++ [']']) = some s := by
  simp [beforeLastClose]

/-- A token is read as the rule that it was written for. -/
theorem read_write {r : Rule} (h : r.IsWritable) : read (String.ofList r.write) = r := by
  have hname : ∀ c ∈ r.name.toList, decide (c ≠ '[') = true := by
    intro c hc
    rw [decide_eq_true_eq]
    rintro rfl
    exact h.notMem_name (by decide) hc
  have htrim := h.trim_name
  rw [read, String.toList_ofList, trim_write h]
  obtain ⟨name, param⟩ := r
  cases param with
  | none =>
    have hdrop : name.toList.dropWhile (· ≠ '[') = [] := List.dropWhile_eq_nil_iff.mpr hname
    rw [write_bare, readTrimmed, hdrop]
    simp only [String.ofList_toList]
  | some param =>
    -- The name has no opening bracket, so the first one is the one behind the name.
    have hsplit : write ⟨name, some param⟩ = name.toList ++ '[' :: (param.toList ++ [']']) := by
      simp [write]
    have hdrop : (write ⟨name, some param⟩).dropWhile (· ≠ '[') =
        '[' :: (param.toList ++ [']']) := by
      rw [hsplit, List.dropWhile_append_of_pos hname]
      rfl
    have htake : (write ⟨name, some param⟩).takeWhile (· ≠ '[') = name.toList := by
      rw [hsplit, List.takeWhile_append_of_pos hname]
      simp
    rw [readTrimmed, hdrop]
    simp only [beforeLastClose_concat, htake]
    rw [htrim, String.ofList_toList, String.ofList_toList]

/-- A token opens as many brackets as it closes. -/
theorem isLevel_write {r : Rule} (h : r.IsWritable) : IsLevel r.write := by
  have hname := h.depth_name
  have hopen := h.depth_open
  have hescaping := h.not_isEscaping_open
  rw [isLevel_iff_depth_eq_zero]
  obtain ⟨name, param⟩ := r
  cases param with
  | none => exact hname
  | some param =>
    have hparam := h.isEnclosed param rfl
    have hdepth := hparam.depth_eq
    have hclose : depth [']'] = -1 := rfl
    rw [write_param, depth_append hescaping, hopen, depth_append hparam.not_isEscaping, hclose]
    omega

/-- No bar of a token separates. -/
theorem isWhole_write {r : Rule} (h : r.IsWritable) : IsWhole r.write := by
  have hname : '|' ∉ r.name.toList := h.notMem_name (by decide)
  have hopen := h.depth_open
  have hescaping := h.not_isEscaping_open
  rw [isWhole_iff_avoidsBar]
  obtain ⟨name, param⟩ := r
  cases param with
  | none => exact avoidsBar_of_notMem hname 0
  | some param =>
    have hparam := h.isEnclosed param rfl
    have hbefore : AvoidsBar 0 (name.toList ++ ['[']) := by
      apply avoidsBar_of_notMem
      simpa using hname
    have hafter : AvoidsBar 1 (param.toList ++ [']']) :=
      hparam.avoidsBar.append hparam.not_isEscaping (avoidsBar_of_notMem (by decide) _)
    rw [write_param]
    refine hbefore.append hescaping ?_
    rw [hopen]
    exact hafter

end Rule

namespace Spec

/-! ### Lists of tokens -/

theorem isCutting_join {ps : List (List Char)} (hne : ps ≠ [])
    (hlevel : ∀ p ∈ ps.dropLast, IsLevel p) (hwhole : ∀ p ∈ ps, IsWhole p) :
    IsCutting (join ps) ps where
  join_eq := rfl
  ne_nil := hne
  isLevel := hlevel
  isWhole := hwhole

/-- Tokens that are pieces, trimmed, not empty and distinct are found again. The last one may leave
brackets open. -/
theorem tokensOf_join_of_dropLast {ts : List (List Char)} (hlevel : ∀ t ∈ ts.dropLast, IsLevel t)
    (hwhole : ∀ t ∈ ts, IsWhole t) (htrim : ∀ t ∈ ts, Text.trim t = t) (hne : ∀ t ∈ ts, t ≠ [])
    (hdistinct : ts.Nodup) : tokensOf (join ts) = ts := by
  by_cases hts : ts = []
  · subst hts
    rfl
  · have hpieces : pieces (join ts) = ts := (isCutting_join hts hlevel hwhole).pieces_eq
    have hmap : ts.map Text.trim = ts := by rw [List.map_congr_left htrim, List.map_id']
    have hfilter : ts.filter (fun t => !t.isEmpty) = ts :=
      List.filter_eq_self.mpr fun t ht => by simp [hne t ht]
    rw [tokensOf, hpieces, hmap, hfilter, eraseDups_eq_self hdistinct]

theorem tokensOf_join {ts : List (List Char)} (hlevel : ∀ t ∈ ts, IsLevel t)
    (hwhole : ∀ t ∈ ts, IsWhole t) (htrim : ∀ t ∈ ts, Text.trim t = t) (hne : ∀ t ∈ ts, t ≠ [])
    (hdistinct : ts.Nodup) : tokensOf (join ts) = ts :=
  tokensOf_join_of_dropLast (fun t ht => hlevel t (List.dropLast_subset ts ht)) hwhole htrim hne
    hdistinct

/-- The spec of a list of distinct rules is read as this list. -/
theorem rules_write {rules : List Rule} (hdistinct : rules.Nodup)
    (hwritable : ∀ r ∈ rules, r.IsWritable) : Spec.rules (write rules) = rules := by
  have hinj : ∀ r ∈ rules, ∀ r' ∈ rules, r.write = r'.write → r = r' := by
    intro r hr r' hr' heq
    rw [← Rule.read_write (hwritable r hr), heq, Rule.read_write (hwritable r' hr')]
  have htokens : tokensOf (join (rules.map Rule.write)) = rules.map Rule.write := by
    apply tokensOf_join
    · exact List.forall_mem_map.mpr fun r hr => Rule.isLevel_write (hwritable r hr)
    · exact List.forall_mem_map.mpr fun r hr => Rule.isWhole_write (hwritable r hr)
    · exact List.forall_mem_map.mpr fun r hr => Rule.trim_write (hwritable r hr)
    · exact List.forall_mem_map.mpr fun r hr => Rule.write_ne_nil (hwritable r hr)
    · exact hdistinct.map_on hinj
  calc Spec.rules (write rules)
      = ((rules.map Rule.write).map String.ofList).map Rule.read := by
        rw [Spec.rules, tokens, write, String.toList_ofList, htokens]
    _ = rules.map fun r => Rule.read (String.ofList r.write) := by
        rw [List.map_map, List.map_map]
        rfl
    _ = rules := by
        rw [List.map_congr_left fun r hr => Rule.read_write (hwritable r hr), List.map_id']

/-- A parameter with a bar, brackets in brackets, an escaped bracket and a letter outside ASCII. -/
theorem rules_write_nested :
    Spec.rules (write [⟨"required", none⟩, ⟨"in_list", some "a|[b, c]|\\[ü"⟩,
      ⟨"in_list", some ""⟩]) =
    [⟨"required", none⟩, ⟨"in_list", some "a|[b, c]|\\[ü"⟩, ⟨"in_list", some ""⟩] := by
  apply rules_write
  · decide
  · simp only [List.forall_mem_cons]
    refine ⟨?_, ?_, ?_, by simp⟩
    · exact ⟨by decide, by rintro c ⟨⟩; rfl, by rintro c ⟨⟩; rfl, by simp [specials], by simp⟩
    · exact ⟨by decide, by rintro c ⟨⟩; rfl, by rintro c ⟨⟩; rfl, by simp [specials],
        by rintro param ⟨⟩; decide⟩
    · exact ⟨by decide, by rintro c ⟨⟩; rfl, by rintro c ⟨⟩; rfl, by simp [specials],
        by rintro param ⟨⟩; decide⟩

end Spec

end FormCheck
