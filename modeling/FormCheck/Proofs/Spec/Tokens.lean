import FormCheck.Proofs.Spec.RoundTrip

/-!
# Joining tokens again

The tokens of a spec, or some of them, are joined by bars and read once more. Nothing merges and
nothing is cut anew. Trimming takes away no bracket, no bar and no backslash, so a token opens and
closes brackets as its piece does; and only the last token may leave brackets open, since every
other one stood before a separating bar.

## Main results

* `Text.exists_blanks_trim` : trimming leaves out blanks at both ends and nothing else.
* `Spec.isWhole_trim`, `Spec.isLevel_trim` : a trimmed piece cuts like the piece.
* `Spec.isLevel_of_mem_dropLast_tokensOf` : only the last token may leave brackets open.
* `Spec.tokensOf_join_of_sublist`, `Spec.tokens_intercalate_of_sublist` : tokens that are kept are
  found again.
-/

namespace FormCheck

/-! ### Trimming -/

namespace Text

/-- What is taken away at the end is blank. -/
theorem exists_trimStart_eq (s : List Char) :
    ∃ after, trimStart s = trim s ++ after ∧ ∀ c ∈ after, isBlank c = true := by
  refine ⟨((trimStart s).reverse.takeWhile isBlank).reverse, ?_, fun c hc => ?_⟩
  · rw [trim, trimEnd, ← List.reverse_append, List.takeWhile_append_dropWhile,
      List.reverse_reverse]
  · exact List.mem_takeWhile_imp (List.mem_reverse.mp hc)

/-- Trimming leaves out blanks at both ends and nothing else. -/
theorem exists_blanks_trim (s : List Char) :
    ∃ before after, s = before ++ (trim s ++ after) ∧ (∀ c ∈ before, isBlank c = true) ∧
      ∀ c ∈ after, isBlank c = true := by
  obtain ⟨after, htrim, hafter⟩ := exists_trimStart_eq s
  refine ⟨s.takeWhile isBlank, after, ?_, fun c hc => List.mem_takeWhile_imp hc, hafter⟩
  rw [← htrim, trimStart, List.takeWhile_append_dropWhile]

/-- The first character that is not taken away is not blank. -/
theorem isBlank_head?_dropWhile (s : List Char) :
    ∀ c ∈ (s.dropWhile isBlank).head?, isBlank c = false := by
  intro c hc
  have h := List.head?_dropWhile_not isBlank s
  rwa [Option.mem_def.mp hc] at h

theorem trim_trim (s : List Char) : trim (trim s) = trim s := by
  refine trim_eq_self (fun c hc => ?_) ?_
  · obtain ⟨after, htrim, -⟩ := exists_trimStart_eq s
    apply isBlank_head?_dropWhile s c
    rw [← trimStart, htrim]
    exact List.mem_head?_append_of_mem_head? hc
  · rw [trim, trimEnd, List.getLast?_reverse]
    exact isBlank_head?_dropWhile _

end Text

namespace Spec

/-! ### Blanks around a piece -/

/-- Blanks are no special characters. -/
theorem notMem_of_forall_isBlank {blanks : List Char} (h : ∀ c ∈ blanks, Text.isBlank c = true)
    {c : Char} (hc : c ∈ specials) : c ∉ blanks := by
  have hvisible : specials.all (fun c => !Text.isBlank c) = true := by decide
  intro hmem
  have hblank := List.all_eq_true.mp hvisible c hc
  rw [h c hmem] at hblank
  exact nomatch hblank

theorem depth_blanks {blanks : List Char} (h : ∀ c ∈ blanks, Text.isBlank c = true) :
    depth blanks = 0 := by
  rw [depth, unescaped_of_notMem (notMem_of_forall_isBlank h (by decide)),
    unescaped_of_notMem (notMem_of_forall_isBlank h (by decide))]
  rfl

/-- Blanks in front change nothing, since they do not escape what follows. -/
theorem depth_blanks_append {blanks : List Char} (h : ∀ c ∈ blanks, Text.isBlank c = true)
    (s : List Char) : depth (blanks ++ s) = depth s := by
  have hescaping := not_isEscaping_of_notMem (notMem_of_forall_isBlank h (by decide))
  rw [depth_append hescaping, depth_blanks h, Int.zero_add]

/-- Blanks behind change nothing, be the first of them escaped or not. -/
theorem depth_append_blanks {blanks : List Char} (h : ∀ c ∈ blanks, Text.isBlank c = true)
    (s : List Char) : depth (s ++ blanks) = depth s := by
  induction blanks using List.reverseRecOn with
  | nil => rw [List.append_nil]
  | append_singleton blanks c ih =>
    have hspecial : c ∉ specials := fun hc =>
      notMem_of_forall_isBlank h hc (List.mem_append_right _ List.mem_cons_self)
    have hopen : c ≠ '[' := fun hc => hspecial (hc ▸ by decide)
    have hclose : c ≠ ']' := fun hc => hspecial (hc ▸ by decide)
    have hweight (escaped : Bool) : weight escaped c = 0 := by simp [weight, hopen, hclose]
    rw [← List.append_assoc, depth_concat, hweight, Int.add_zero,
      ih fun c hc => h c (List.mem_append_left _ hc)]

theorem isLevel_trim {s : List Char} (h : IsLevel s) : IsLevel (Text.trim s) := by
  obtain ⟨before, after, hs, hbefore, hafter⟩ := Text.exists_blanks_trim s
  rw [isLevel_iff_depth_eq_zero] at h ⊢
  rwa [hs, depth_blanks_append hbefore, depth_append_blanks hafter] at h

theorem IsWhole.of_blanks_append {blanks s : List Char}
    (hblanks : ∀ c ∈ blanks, Text.isBlank c = true) (h : IsWhole (blanks ++ s)) : IsWhole s := by
  intro i hi hbar
  have hlt : blanks.length + i < (blanks ++ s).length := by
    rw [List.length_append]
    omega
  have hlevel := h (blanks.length + i) hlt (by
    rwa [List.getElem?_append_right (Nat.le_add_right _ _), Nat.add_sub_cancel_left])
  rwa [List.take_length_add_append, isLevel_iff_depth_eq_zero, depth_blanks_append hblanks,
    ← isLevel_iff_depth_eq_zero] at hlevel

theorem isWhole_trim {s : List Char} (h : IsWhole s) : IsWhole (Text.trim s) := by
  obtain ⟨before, after, hs, hbefore, -⟩ := Text.exists_blanks_trim s
  rw [hs] at h
  exact (h.of_blanks_append hbefore).of_append

/-! ### Tokens -/

variable {s : List Char}

theorem mem_tokensOf_iff {t : List Char} :
    t ∈ tokensOf s ↔ t ≠ [] ∧ ∃ p ∈ pieces s, Text.trim p = t := by
  rw [tokensOf, List.mem_eraseDups, List.mem_filter, List.mem_map]
  simp [and_comm]

theorem trim_of_mem_tokensOf {t : List Char} (h : t ∈ tokensOf s) : Text.trim t = t := by
  obtain ⟨-, p, -, rfl⟩ := mem_tokensOf_iff.mp h
  exact Text.trim_trim p

theorem isWhole_of_mem_tokensOf {t : List Char} (h : t ∈ tokensOf s) : IsWhole t := by
  obtain ⟨-, p, hp, rfl⟩ := mem_tokensOf_iff.mp h
  exact isWhole_trim ((isCutting_pieces s).isWhole p hp)

theorem nodup_tokensOf (s : List Char) : (tokensOf s).Nodup := nodup_eraseDups _

/-- Only the last token may leave brackets open. -/
theorem isLevel_of_mem_dropLast_tokensOf {t : List Char} (h : t ∈ (tokensOf s).dropLast) :
    IsLevel t := by
  have hcutting := isCutting_pieces s
  obtain ⟨before, last, hpieces⟩ : ∃ before last, pieces s = before ++ [last] :=
    ⟨_, _, (List.dropLast_append_getLast hcutting.ne_nil).symm⟩
  have hbefore : t ∈ (before.map Text.trim).filter (fun t => !t.isEmpty) := by
    rw [tokensOf, hpieces, List.map_append, List.filter_append, List.map_singleton] at h
    rw [List.filter_singleton, cond_eq_ite] at h
    split at h
    · exact mem_of_mem_dropLast_eraseDups_concat h
    · rw [List.append_nil] at h
      exact List.mem_eraseDups.mp (List.dropLast_subset _ h)
  obtain ⟨p, hp, rfl⟩ := List.mem_map.mp (List.mem_filter.mp hbefore).1
  refine isLevel_trim (hcutting.isLevel p ?_)
  rwa [hpieces, List.dropLast_concat]

/-- Tokens of a spec that are kept in their order are found again in the text that joins them. -/
theorem tokensOf_join_of_sublist {kept : List (List Char)} (h : kept.Sublist (tokensOf s)) :
    tokensOf (join kept) = kept := by
  have hlast : kept.dropLast.Sublist (tokensOf s).dropLast := by
    have hreverse := h.reverse.tail
    rwa [List.tail_reverse, List.tail_reverse, List.reverse_sublist] at hreverse
  refine tokensOf_join_of_dropLast ?level ?whole ?trimmed ?nonempty (h.nodup (nodup_tokensOf s))
  case level => exact fun t ht => isLevel_of_mem_dropLast_tokensOf (hlast.subset ht)
  case whole => exact fun t ht => isWhole_of_mem_tokensOf (h.subset ht)
  case trimmed => exact fun t ht => trim_of_mem_tokensOf (h.subset ht)
  case nonempty => exact fun t ht => (mem_tokensOf_iff.mp (h.subset ht)).1

/-! ### Strings -/

theorem join_eq_intercalate (ps : List (List Char)) : join ps = ['|'].intercalate ps := by
  induction ps with
  | nil => rfl
  | cons p ps ih =>
    cases ps with
    | nil => rw [join, List.intercalate_singleton]
    | cons q qs =>
      rw [join, ih, List.intercalate_cons_of_ne_nil (List.cons_ne_nil q qs), List.append_assoc,
        List.singleton_append]
      exact List.cons_ne_nil q qs

/-- Tokens of a spec that are kept in their order are the tokens of the spec that joins them. -/
theorem tokens_intercalate_of_sublist {spec : String} {kept : List String}
    (h : kept.Sublist (tokens spec)) : tokens ("|".intercalate kept) = kept := by
  have hread (ts : List (List Char)) : (ts.map String.ofList).map String.toList = ts := by
    simp [Function.comp_def]
  have hchars : (kept.map String.toList).Sublist (tokensOf spec.toList) := by
    have hmap := h.map String.toList
    rwa [tokens, hread] at hmap
  have hbar : "|".toList = ['|'] := rfl
  rw [tokens, String.toList_intercalate, hbar, ← join_eq_intercalate,
    tokensOf_join_of_sublist hchars, List.map_map]
  simp [Function.comp_def]

end Spec

end FormCheck
