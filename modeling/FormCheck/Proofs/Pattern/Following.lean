import FormCheck.Proofs.Pattern.Spans

/-!
# Following all states at once

A machine accepts at a place when some way through its states, on which the characters after the
place are read one by one, ends in the final state. The search follows all ways at once and enters
each state only once per place. This loses no match: whenever a state that has been entered leads
to acceptance, acceptance is already settled, or a state that is still on the list leads there in
fewer steps.

## Main definitions

* `Pattern.Machine.AcceptsIn`, `Pattern.Machine.Accepts` : acceptance from a state at a place.
* `Pattern.Machine.Reached.Promises` : what has been reached at a place leads to acceptance.
* `Pattern.Machine.Settled` : the invariant of following the states on a list.

## Main results

* `Pattern.Machine.promises_follow_iff` : following the states on a list finds acceptance if and
  only if one of them accepts.
* `Pattern.Machine.occursIn_iff` : the search finds out whether the machine accepts at some place.
-/

namespace FormCheck.Pattern.Machine

/-! ### Acceptance -/

/-- From a state at a place, the final state is reached in fewer than `steps` steps. -/
def AcceptsIn (states : Array State) : (steps : Nat) → (number : Nat) → Place → Prop
  | 0, _, _ => False
  | steps + 1, number, p =>
    match states[number]? with
    | none => False
    | some .done => True
    | some (.eat set next) => ∃ q, p.Reads set q ∧ AcceptsIn states steps next q
    | some (.check condition next) =>
      holds condition p.before p.after.head? = true ∧ AcceptsIn states steps next p
    | some (.fork left right) => AcceptsIn states steps left p ∨ AcceptsIn states steps right p

/-- From a state at a place, the final state is reached. -/
def Accepts (states : Array State) (number : Nat) (p : Place) : Prop :=
  ∃ steps, AcceptsIn states steps number p

section Acceptance

variable {states : Array State} {number next left right : Nat} {set : CodeSet} {condition : Look}
  {p : Place}

theorem accepts_of_done (h : states[number]? = some .done) : Accepts states number p :=
  ⟨1, by simp [AcceptsIn, h]⟩

theorem not_accepts_of_none (h : states[number]? = none) : ¬Accepts states number p := by
  rintro ⟨steps, hsteps⟩
  cases steps with
  | zero => exact hsteps
  | succ steps => simp [AcceptsIn, h] at hsteps

theorem acceptsIn_eat_iff (h : states[number]? = some (.eat set next)) {steps : Nat} :
    AcceptsIn states (steps + 1) number p ↔ ∃ q, p.Reads set q ∧ AcceptsIn states steps next q := by
  simp [AcceptsIn, h]

theorem acceptsIn_check_iff (h : states[number]? = some (.check condition next)) {steps : Nat} :
    AcceptsIn states (steps + 1) number p ↔
      holds condition p.before p.after.head? = true ∧ AcceptsIn states steps next p := by
  simp [AcceptsIn, h]

theorem acceptsIn_fork_iff (h : states[number]? = some (.fork left right)) {steps : Nat} :
    AcceptsIn states (steps + 1) number p ↔
      AcceptsIn states steps left p ∨ AcceptsIn states steps right p := by
  simp [AcceptsIn, h]

/-- Acceptance takes at least one step. -/
theorem AcceptsIn.exists_eq_succ {steps : Nat} (h : AcceptsIn states steps number p) :
    ∃ before, steps = before + 1 := by
  cases steps with
  | zero => exact h.elim
  | succ steps => exact ⟨steps, rfl⟩

theorem accepts_eat_iff (h : states[number]? = some (.eat set next)) :
    Accepts states number p ↔ ∃ q, p.Reads set q ∧ Accepts states next q := by
  constructor
  · rintro ⟨steps, hsteps⟩
    obtain ⟨steps, rfl⟩ := hsteps.exists_eq_succ
    obtain ⟨q, hq, hnext⟩ := (acceptsIn_eat_iff h).mp hsteps
    exact ⟨q, hq, steps, hnext⟩
  · rintro ⟨q, hq, steps, hnext⟩
    exact ⟨steps + 1, (acceptsIn_eat_iff h).mpr ⟨q, hq, hnext⟩⟩

theorem accepts_check_iff (h : states[number]? = some (.check condition next)) :
    Accepts states number p ↔
      holds condition p.before p.after.head? = true ∧ Accepts states next p := by
  constructor
  · rintro ⟨steps, hsteps⟩
    obtain ⟨steps, rfl⟩ := hsteps.exists_eq_succ
    obtain ⟨hholds, hnext⟩ := (acceptsIn_check_iff h).mp hsteps
    exact ⟨hholds, steps, hnext⟩
  · rintro ⟨hholds, steps, hnext⟩
    exact ⟨steps + 1, (acceptsIn_check_iff h).mpr ⟨hholds, hnext⟩⟩

theorem accepts_fork_iff (h : states[number]? = some (.fork left right)) :
    Accepts states number p ↔ Accepts states left p ∨ Accepts states right p := by
  constructor
  · rintro ⟨steps, hsteps⟩
    obtain ⟨steps, rfl⟩ := hsteps.exists_eq_succ
    exact ((acceptsIn_fork_iff h).mp hsteps).imp (⟨steps, ·⟩) (⟨steps, ·⟩)
  · rintro (⟨steps, hnext⟩ | ⟨steps, hnext⟩)
    · exact ⟨steps + 1, (acceptsIn_fork_iff h).mpr (.inl hnext)⟩
    · exact ⟨steps + 1, (acceptsIn_fork_iff h).mpr (.inr hnext)⟩

end Acceptance

/-! ### Which states have been seen -/

/-- The state has been seen at a place. A number that belongs to no state counts as seen. -/
def IsSeen (seen : Array Nat) (place number : Nat) : Prop := seen.getD number place = place

/-- The number of states that have not been seen at a place. -/
def unseen (seen : Array Nat) (place : Nat) : Nat := seen.countP (· ≠ place)

section Seen

variable {seen : Array Nat} {place number other : Nat}

theorem lt_size_of_not_isSeen (h : ¬IsSeen seen place number) : number < seen.size := by
  refine Nat.lt_of_not_le fun hsize => h ?_
  simp [IsSeen, Array.getD_eq_getD_getElem?, hsize]

theorem isSeen_set_iff (h : ¬IsSeen seen place number) :
    IsSeen (seen.set! number place) place other ↔ other = number ∨ IsSeen seen place other := by
  have hsize := lt_size_of_not_isSeen h
  by_cases hother : other = number
  · subst hother
    simp [IsSeen, Array.getD_eq_getD_getElem?, hsize]
  · simp [IsSeen, Array.getD_eq_getD_getElem?, hother, Ne.symm hother]

/-- Each state that is entered is one less to see. -/
theorem unseen_set (h : ¬IsSeen seen place number) :
    unseen (seen.set! number place) place + 1 = unseen seen place := by
  have hsize := lt_size_of_not_isSeen h
  have hother : seen[number] ≠ place := by
    simpa [IsSeen, Array.getD_eq_getD_getElem?, hsize] using h
  have hpos : 0 < unseen seen place :=
    Array.countP_pos_iff.mpr ⟨seen[number], Array.getElem_mem hsize, by simpa using hother⟩
  have hcount : unseen (seen.set! number place) place = unseen seen place - 1 := by
    rw [Array.set!_eq_setIfInBounds, Array.setIfInBounds, dif_pos hsize, unseen, Array.countP_set]
    simp [hother, unseen]
  omega

end Seen

/-! ### Following the states on a list -/

section Following

variable {m : Machine} {place steps number : Nat} {stack rest : List Nat} {r : Reached} {p : Place}

/-- What has been reached at a place leads to acceptance: the pattern is matched, or a state that
waits for a character gets it and accepts behind it. -/
def Reached.Promises (r : Reached) (states : Array State) (p : Place) : Prop :=
  r.matched = true ∨ ∃ w ∈ r.waiting, ∃ q, p.Reads w.1 q ∧ Accepts states w.2 q

/-- A state that waits for a character has been added to what has been reached. -/
theorem promises_waiting_iff {states : Array State} {seen : Array Nat} {set : CodeSet}
    {next : Nat} {waiting : List (CodeSet × Nat)} {matched : Bool} :
    Reached.Promises ⟨seen, (set, next) :: waiting, matched⟩ states p ↔
      (∃ q, p.Reads set q ∧ Accepts states next q) ∨
        Reached.Promises ⟨seen, waiting, matched⟩ states p := by
  simp only [Reached.Promises, List.mem_cons, exists_eq_or_imp]
  exact or_left_comm

/-- The first of the states on a list, or what has been reached, leads to acceptance in fewer than
`bound` steps. -/
def Pending (m : Machine) (p : Place) (stack : List Nat) (r : Reached) (bound : Nat) : Prop :=
  r.Promises m.states p ∨ ∃ number ∈ stack, ∃ steps < bound, AcceptsIn m.states steps number p

/-- A state that had not been seen has been entered: some states have been put on the list for it,
and what has been reached has grown. -/
structure Enters (m : Machine) (place : Nat) (p : Place) (number : Nat) (r : Reached)
    (pushed : List Nat) (r' : Reached) : Prop where
  /-- The state is seen from now on. -/
  seen_eq : r'.seen = r.seen.set! number place
  /-- No more than two states are put on the list. -/
  length_le : pushed.length ≤ 2
  /-- What had been reached before stays. -/
  promises : r.Promises m.states p → r'.Promises m.states p
  /-- What comes of it comes of the state or had been reached before. -/
  sound : (r'.Promises m.states p ∨ ∃ other ∈ pushed, Accepts m.states other p) →
    r.Promises m.states p ∨ Accepts m.states number p
  /-- If the state accepts, that is settled or follows in fewer steps from the states put on the
  list. -/
  pending : ∀ steps, AcceptsIn m.states steps number p → Pending m p pushed r' steps

/-- A state has been entered that reads nothing: it accepts where one of the states put on the list
for it accepts in one step less. -/
theorem Enters.of_acceptsIn_iff {pushed : List Nat} (hlength : pushed.length ≤ 2)
    (h : ∀ steps, AcceptsIn m.states (steps + 1) number p ↔
      ∃ other ∈ pushed, AcceptsIn m.states steps other p) :
    Enters m place p number r pushed { r with seen := r.seen.set! number place } where
  seen_eq := rfl
  length_le := hlength
  promises := id
  sound := by
    rintro (hr | ⟨other, hmem, steps, haccepts⟩)
    · exact .inl hr
    · exact .inr ⟨steps + 1, (h steps).mpr ⟨other, hmem, haccepts⟩⟩
  pending := by
    intro steps hsteps
    obtain ⟨steps, rfl⟩ := hsteps.exists_eq_succ
    obtain ⟨other, hmem, haccepts⟩ := (h steps).mp hsteps
    exact .inr ⟨other, hmem, steps, Nat.lt_succ_self steps, haccepts⟩

/-- A state has been entered that waits for a character. -/
theorem Enters.of_eat {set : CodeSet} {next : Nat}
    (h : m.states[number]? = some (.eat set next)) :
    Enters m place p number r []
      ⟨r.seen.set! number place, (set, next) :: r.waiting, r.matched⟩ where
  seen_eq := rfl
  length_le := Nat.zero_le _
  promises hr := promises_waiting_iff.mpr (.inr hr)
  sound := by
    rintro (hr | ⟨_, hmem, -⟩)
    · exact (promises_waiting_iff.mp hr).symm.imp_right (accepts_eat_iff h).mpr
    · exact (List.not_mem_nil hmem).elim
  pending steps hsteps :=
    .inl (promises_waiting_iff.mpr (.inl ((accepts_eat_iff h).mp ⟨steps, hsteps⟩)))

/-- What following does at a state that had not been seen: a match ends it, and otherwise the state
is entered. -/
theorem follow_cons (hnew : ¬IsSeen r.seen place number) :
    ((follow m place p.before p.after.head? (steps + 1) (number :: rest) r).matched = true ∧
      (follow m place p.before p.after.head? (steps + 1) (number :: rest) r).seen =
        r.seen.set! number place ∧ Accepts m.states number p) ∨
    ∃ pushed r', Enters m place p number r pushed r' ∧
      follow m place p.before p.after.head? (steps + 1) (number :: rest) r =
        follow m place p.before p.after.head? steps (pushed ++ rest) r' := by
  rw [IsSeen] at hnew
  rcases hstate : m.states[number]? with _ | _ | ⟨set, next⟩ | ⟨condition, next⟩ | ⟨left, right⟩
  case none =>
    refine .inr ⟨[], _, .of_acceptsIn_iff (by simp) fun steps => ?_, ?_⟩
    · simp [AcceptsIn, hstate]
    · simp only [follow, if_neg hnew, hstate, List.nil_append]
  case some.done =>
    refine .inl ⟨?_, ?_, accepts_of_done hstate⟩
    all_goals simp only [follow, if_neg hnew, hstate]
  case some.eat =>
    refine .inr ⟨[], _, .of_eat hstate, ?_⟩
    simp only [follow, if_neg hnew, hstate, List.nil_append]
  case some.check =>
    by_cases hholds : holds condition p.before p.after.head? = true
    · refine .inr ⟨[next], _, .of_acceptsIn_iff (by simp) fun steps => ?_, ?_⟩
      · simp [acceptsIn_check_iff hstate, hholds]
      · simp only [follow, if_neg hnew, hstate, if_pos hholds, List.cons_append, List.nil_append]
    · refine .inr ⟨[], _, .of_acceptsIn_iff (by simp) fun steps => ?_, ?_⟩
      · simp [acceptsIn_check_iff hstate, hholds]
      · simp only [follow, if_neg hnew, hstate, if_neg hholds, List.nil_append]
  case some.fork =>
    refine .inr ⟨[left, right], _, .of_acceptsIn_iff (by simp) fun steps => ?_, ?_⟩
    · simp [acceptsIn_fork_iff hstate]
    · simp only [follow, if_neg hnew, hstate, List.cons_append, List.nil_append]

/-- Nothing happens at a state that has been seen. -/
theorem follow_cons_of_isSeen (h : IsSeen r.seen place number) :
    follow m place p.before p.after.head? (steps + 1) (number :: rest) r =
      follow m place p.before p.after.head? steps rest r := by
  rw [IsSeen] at h
  simp only [follow, if_pos h]

/-- What following the states on a list leads to is due to one of them, or had been reached. -/
theorem promises_or_exists_of_promises_follow
    (h : (follow m place p.before p.after.head? steps stack r).Promises m.states p) :
    r.Promises m.states p ∨ ∃ number ∈ stack, Accepts m.states number p := by
  induction steps generalizing stack r with
  | zero => exact .inl (by simpa only [follow] using h)
  | succ steps ih =>
    rcases stack with _ | ⟨number, rest⟩
    · exact .inl (by simpa only [follow] using h)
    simp only [List.mem_cons, exists_eq_or_imp]
    by_cases hseen : IsSeen r.seen place number
    · rw [follow_cons_of_isSeen hseen] at h
      exact (ih h).imp_right .inr
    rcases follow_cons hseen with ⟨-, -, haccepts⟩ | ⟨pushed, r', henters, heq⟩
    · exact .inr (.inl haccepts)
    · rw [heq] at h
      rcases ih h with h | ⟨other, hmem, haccepts⟩
      · exact (henters.sound (.inl h)).imp_right .inl
      · rcases List.mem_append.mp hmem with hmem | hmem
        · exact (henters.sound (.inr ⟨other, hmem, haccepts⟩)).imp_right .inl
        · exact .inr (.inr ⟨other, hmem, haccepts⟩)

/-- The invariant of following the states on a list: wherever a state that has been seen accepts,
that is settled, or a state that is still on the list accepts in fewer steps. -/
def Settled (m : Machine) (place : Nat) (p : Place) (stack : List Nat) (r : Reached) : Prop :=
  ∀ number steps, IsSeen r.seen place number → AcceptsIn m.states steps number p →
    Pending m p stack r steps

theorem Pending.mono {bound bound' : Nat} {stack' : List Nat} {r' : Reached}
    (h : Pending m p stack r bound) (hr : r.Promises m.states p → r'.Promises m.states p)
    (hbound : bound ≤ bound') (hstack : stack ⊆ stack') : Pending m p stack' r' bound' := by
  rcases h with h | ⟨number, hmem, steps, hlt, haccepts⟩
  · exact .inl (hr h)
  · exact .inr ⟨number, hstack hmem, steps, Nat.lt_of_lt_of_le hlt hbound, haccepts⟩

/-- The first state may go from the list when the rest of the list answers for it. -/
theorem Pending.of_cons {bound : Nat} {stack' : List Nat} {r' : Reached}
    (h : Pending m p (number :: rest) r bound)
    (hr : r.Promises m.states p → r'.Promises m.states p) (hrest : rest ⊆ stack')
    (hnumber : ∀ steps < bound, AcceptsIn m.states steps number p → Pending m p stack' r' steps) :
    Pending m p stack' r' bound := by
  rcases h with h | ⟨other, hmem, steps, hlt, haccepts⟩
  · exact .inl (hr h)
  rcases List.mem_cons.mp hmem with rfl | hmem
  · exact (hnumber steps hlt haccepts).mono id (Nat.le_of_lt hlt) (List.Subset.refl _)
  · exact .inr ⟨other, hrest hmem, steps, hlt, haccepts⟩

/-- A state that has been seen and is on the list is answered for by the rest of the list: each
state that stands for it accepts in fewer steps, so it does not stand for itself forever. -/
theorem Settled.pending_rest (h : Settled m place p (number :: rest) r)
    (hseen : IsSeen r.seen place number) (steps : Nat)
    (haccepts : AcceptsIn m.states steps number p) : Pending m p rest r steps := by
  induction steps using Nat.strongRecOn with
  | ind steps ih => exact (h number steps hseen haccepts).of_cons id (List.Subset.refl _) ih

/-- A state that has been seen may go from the list. -/
theorem Settled.tail (h : Settled m place p (number :: rest) r)
    (hseen : IsSeen r.seen place number) : Settled m place p rest r :=
  fun other steps hother haccepts =>
    (h other steps hother haccepts).of_cons id (List.Subset.refl _) fun steps _ =>
      h.pending_rest hseen steps

/-- A state that has been entered is answered for by the states put on the list for it. -/
theorem Enters.pending_append {pushed : List Nat} {r' : Reached}
    (h : Enters m place p number r pushed r') (steps : Nat)
    (haccepts : AcceptsIn m.states steps number p) : Pending m p (pushed ++ rest) r' steps :=
  (h.pending steps haccepts).mono id (Nat.le_refl _) (List.subset_append_left _ _)

/-- Entering a state keeps the invariant. -/
theorem Enters.settled {pushed : List Nat} {r' : Reached}
    (henters : Enters m place p number r pushed r') (hnew : ¬IsSeen r.seen place number)
    (h : Settled m place p (number :: rest) r) : Settled m place p (pushed ++ rest) r' := by
  intro other steps hother haccepts
  rw [henters.seen_eq, isSeen_set_iff hnew] at hother
  rcases hother with rfl | hother
  · exact henters.pending_append steps haccepts
  · exact (h other steps hother haccepts).of_cons henters.promises (List.subset_append_right _ _)
      fun steps _ => henters.pending_append steps

/-- Nothing gets lost in following the states on a list. The steps suffice because a state that is
entered is one less to see and puts at most two on the list. -/
theorem promises_follow {bound : Nat} (hsteps : 2 * unseen r.seen place + stack.length ≤ steps)
    (hsettled : Settled m place p stack r) (h : Pending m p stack r bound) :
    (follow m place p.before p.after.head? steps stack r).Promises m.states p := by
  induction steps generalizing stack r with
  | zero =>
    obtain rfl : stack = [] := List.length_eq_zero_iff.mp (by omega)
    simpa [follow, Pending] using h
  | succ steps ih =>
    rcases stack with _ | ⟨number, rest⟩
    · simpa [follow, Pending] using h
    rw [List.length_cons] at hsteps
    by_cases hseen : IsSeen r.seen place number
    · rw [follow_cons_of_isSeen hseen]
      exact ih (by omega) (hsettled.tail hseen)
        (h.of_cons id (List.Subset.refl _) fun steps _ => hsettled.pending_rest hseen steps)
    rcases follow_cons hseen with ⟨hmatched, -, -⟩ | ⟨pushed, r', henters, heq⟩
    · exact .inl hmatched
    · have hunseen : unseen r'.seen place + 1 = unseen r.seen place := by
        rw [henters.seen_eq, unseen_set hseen]
      have hlength := henters.length_le
      rw [heq]
      exact ih (by rw [List.length_append]; omega) (henters.settled hseen hsettled)
        (h.of_cons henters.promises (List.subset_append_right _ _) fun steps _ =>
          henters.pending_append steps)

/-- The array of the places at which states were last seen fits the machine, and no state was seen
beyond a place. -/
structure SeenUpTo (m : Machine) (place : Nat) (seen : Array Nat) : Prop where
  /-- There is an entry for each state. -/
  size_eq : seen.size = m.states.size
  /-- No entry is beyond the place. -/
  le : ∀ seenAt ∈ seen, seenAt ≤ place

theorem SeenUpTo.succ {seen : Array Nat} (h : SeenUpTo m place seen) :
    SeenUpTo m (place + 1) seen :=
  ⟨h.size_eq, fun seenAt hmem => Nat.le_succ_of_le (h.le seenAt hmem)⟩

theorem SeenUpTo.set {seen : Array Nat} (h : SeenUpTo m place seen) :
    SeenUpTo m place (seen.set! number place) := by
  rw [Array.set!_eq_setIfInBounds]
  refine ⟨by rw [Array.size_setIfInBounds, h.size_eq], fun seenAt hmem => ?_⟩
  rcases Array.mem_or_eq_of_mem_setIfInBounds hmem with hmem | rfl
  · exact h.le seenAt hmem
  · exact Nat.le_refl _

theorem seenUpTo_follow (h : SeenUpTo m place r.seen) :
    SeenUpTo m place (follow m place p.before p.after.head? steps stack r).seen := by
  induction steps generalizing stack r with
  | zero => rwa [follow]
  | succ steps ih =>
    rcases stack with _ | ⟨number, rest⟩
    · rwa [follow]
    by_cases hseen : IsSeen r.seen place number
    · rw [follow_cons_of_isSeen hseen]
      exact ih h
    rcases follow_cons hseen with ⟨-, hset, -⟩ | ⟨pushed, r', henters, heq⟩
    · rw [hset]
      exact h.set
    · rw [heq]
      exact ih (henters.seen_eq ▸ h.set)

/-- Following the states on a list at a place where no state has been seen finds acceptance if and
only if one of them accepts. -/
theorem promises_follow_iff {seen : Array Nat} (h : SeenUpTo m place seen) (stack : List Nat) :
    (follow m (place + 1) p.before p.after.head? (2 * m.states.size + stack.length) stack
      ⟨seen, [], false⟩).Promises m.states p ↔ ∃ number ∈ stack, Accepts m.states number p := by
  have hnothing : ¬Reached.Promises ⟨seen, [], false⟩ m.states p := by simp [Reached.Promises]
  constructor
  · exact fun hpromises => (promises_or_exists_of_promises_follow hpromises).resolve_left hnothing
  · rintro ⟨number, hmem, bound, haccepts⟩
    refine promises_follow ?_ ?_ (.inr ⟨number, hmem, bound, Nat.lt_succ_self bound, haccepts⟩)
    · have hle : unseen seen (place + 1) ≤ m.states.size :=
        h.size_eq ▸ Array.countP_le_size
      change 2 * unseen seen (place + 1) + stack.length ≤ _
      omega
    · -- Only numbers beyond the last state count as seen, and they do not accept.
      intro other steps hseen haccepts
      have hsize : seen.size ≤ other := by
        refine Nat.le_of_not_lt fun hlt => ?_
        have hle := h.le seen[other] (Array.getElem_mem hlt)
        have heq : seen[other] = place + 1 := by
          simpa [IsSeen, Array.getD_eq_getD_getElem?, hlt] using hseen
        omega
      exact absurd ⟨steps, haccepts⟩
        (not_accepts_of_none (Array.getElem?_eq_none (h.size_eq ▸ hsize)))

end Following

/-! ### The search -/

/-- What has been reached at the end of a text leads to acceptance only if the pattern is
matched. -/
theorem Reached.promises_nil_iff {r : Reached} {states : Array State} {before : Option Char} :
    r.Promises states ⟨before, []⟩ ↔ r.matched = true := by
  simp [Reached.Promises, Place.not_reads_nil]

/-- What has been reached before a character leads to acceptance by a match that ends there or
through one of the states that wait for it. -/
theorem Reached.promises_cons_iff {r : Reached} {states : Array State} {before : Option Char}
    {c : Char} {s : List Char} :
    r.Promises states ⟨before, c :: s⟩ ↔
      r.matched = true ∨ ∃ number ∈ (r.waiting.filter fun w => w.1.contains c.toNat).map Prod.snd,
        Accepts states number ⟨some c, s⟩ := by
  simp only [Reached.Promises, Place.reads_cons_iff, List.mem_map, List.mem_filter]
  refine or_congr_right ⟨?_, ?_⟩
  · rintro ⟨w, hmem, q, ⟨rfl, hset⟩, haccepts⟩
    exact ⟨w.2, ⟨w, ⟨hmem, hset⟩, rfl⟩, haccepts⟩
  · rintro ⟨_, ⟨w, ⟨hmem, hset⟩, rfl⟩, haccepts⟩
    exact ⟨w, hmem, _, ⟨rfl, hset⟩, haccepts⟩

/-- The search from a place on finds out whether a state reached from before accepts there, or the
first state there or at a later place. -/
theorem search_iff {m : Machine} {place : Nat} {seen : Array Nat} {before : Option Char}
    {current : List Nat} {s : List Char} (h : SeenUpTo m place seen) :
    search m (place + 1) seen before current s = true ↔
      (∃ number ∈ current, Accepts m.states number ⟨before, s⟩) ∨
        ∃ p, Place.Leads ⟨before, s⟩ p ∧ Accepts m.states m.start p := by
  induction s generalizing place seen before current with
  | nil =>
    have hhere := promises_follow_iff (p := ⟨before, []⟩) h (m.start :: current)
    rw [Reached.promises_nil_iff] at hhere
    rw [search]
    refine hhere.trans ?_
    simp [Place.leads_nil_iff, or_comm]
  | cons c s ih =>
    have hhere := promises_follow_iff (p := ⟨before, c :: s⟩) h (m.start :: current)
    have hseen : SeenUpTo m (place + 1) (follow m (place + 1) before (some c)
        (2 * m.states.size + current.length + 1) (m.start :: current) ⟨seen, [], false⟩).seen :=
      seenUpTo_follow (p := ⟨before, c :: s⟩) h.succ
    rw [search]
    change Reached.Promises (follow m (place + 1) before (some c)
      (2 * m.states.size + current.length + 1) (m.start :: current) ⟨seen, [], false⟩) _ _ ↔ _
      at hhere
    generalize follow m (place + 1) before (some c) (2 * m.states.size + current.length + 1)
      (m.start :: current) ⟨seen, [], false⟩ = r at hhere hseen
    rw [Reached.promises_cons_iff] at hhere
    have hfirst : ∀ rest, (if r.matched = true then true else rest) = true ↔
        r.matched = true ∨ rest = true := by
      cases r.matched <;> simp
    rw [hfirst, ih hseen, ← or_assoc, hhere]
    simp only [List.mem_cons, Place.leads_cons_iff, or_and_right, exists_or, exists_eq_left]
    rw [or_comm (a := Accepts m.states m.start _), or_assoc]

/-- The search finds out whether the machine accepts at some place of a text. -/
theorem occursIn_iff (m : Machine) (s : List Char) :
    m.occursIn s = true ↔ ∃ p, (Place.start s).Leads p ∧ Accepts m.states m.start p := by
  have hseen : SeenUpTo m 0 (Array.replicate m.states.size 0) := ⟨by simp, by simp⟩
  rw [occursIn, search_iff hseen]
  simp [Place.start]

end FormCheck.Pattern.Machine
