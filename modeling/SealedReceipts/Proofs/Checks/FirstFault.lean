import SealedReceipts.Proofs.Checks

/-!
# The first condition that fails

A chain of checks is ruled by conditions in an order when it comes through if all of them hold, and
else stops with the fault of the first that does not (`Checks.Ruled`). Chains that are ruled are put
together by putting their conditions together, so that a long chain of checks is described by the
list of its conditions, without its values and the order of its steps.
-/

namespace SealedReceipts

namespace Checks

/-- What must hold, and the fault if it does not. -/
structure Condition (ε : Type) where
  holds : Prop
  fault : ε

variable {ε α β : Type} {conditions more : List (Condition ε)} {fault : ε}

/-- The fault is that of the first condition that does not hold. -/
inductive FirstFault : List (Condition ε) → ε → Prop
  | here {c : Condition ε} {rest : List (Condition ε)} : ¬ c.holds → FirstFault (c :: rest) c.fault
  | behind {c : Condition ε} {rest : List (Condition ε)} {fault : ε} : c.holds →
      FirstFault rest fault → FirstFault (c :: rest) fault

namespace FirstFault

theorem append_left (h : FirstFault conditions fault) (more : List (Condition ε)) :
    FirstFault (conditions ++ more) fault := by
  induction h with
  | here hfails => exact .here hfails
  | behind hholds _ ih => exact .behind hholds ih

theorem append_right (hholds : ∀ c ∈ conditions, c.holds) (h : FirstFault more fault) :
    FirstFault (conditions ++ more) fault := by
  induction conditions with
  | nil => exact h
  | cons c conditions ih =>
    obtain ⟨hc, hrest⟩ := List.forall_mem_cons.1 hholds
    exact .behind hc (ih hrest)

theorem not_all (h : FirstFault conditions fault) : ¬ ∀ c ∈ conditions, c.holds := by
  intro hall
  induction h with
  | here hfails => exact hfails (hall _ List.mem_cons_self)
  | behind _ _ ih => exact ih (List.forall_mem_cons.1 hall).2

/-- Only one condition is the first that does not hold. -/
theorem unique {other : ε} (h : FirstFault conditions fault) (h' : FirstFault conditions other) :
    fault = other := by
  induction h with
  | here hfails =>
    cases h' with
    | here => rfl
    | behind hholds => exact absurd hholds hfails
  | behind hholds _ ih =>
    cases h' with
    | here hfails => exact absurd hholds hfails
    | behind _ hrest => exact ih hrest

/-- The fault comes from the one list, or from the other if all conditions of the one hold. -/
theorem append_iff : FirstFault (conditions ++ more) fault ↔
    FirstFault conditions fault ∨ (∀ c ∈ conditions, c.holds) ∧ FirstFault more fault := by
  constructor
  · intro h
    induction conditions with
    | nil => exact .inr ⟨fun c hc => absurd hc List.not_mem_nil, h⟩
    | cons c conditions ih =>
      cases h with
      | here hfails => exact .inl (.here hfails)
      | behind hc hrest =>
        rcases ih hrest with hfirst | ⟨hall, hmore⟩
        · exact .inl (.behind hc hfirst)
        · exact .inr ⟨List.forall_mem_cons.2 ⟨hc, hall⟩, hmore⟩
  · rintro (hfirst | ⟨hall, hmore⟩)
    · exact hfirst.append_left more
    · exact hmore.append_right hall

theorem exists_mem (h : FirstFault conditions fault) :
    ∃ c ∈ conditions, ¬ c.holds ∧ c.fault = fault := by
  induction h with
  | here hfails => exact ⟨_, List.mem_cons_self, hfails, rfl⟩
  | behind _ _ ih =>
    obtain ⟨c, hc, hfault⟩ := ih
    exact ⟨c, List.mem_cons_of_mem _ hc, hfault⟩

/-- A condition that holds is not the first that fails. -/
theorem eraseIdx {c : Condition ε} (h : FirstFault conditions fault) (n : Nat)
    (hn : conditions[n]? = some c) (hc : c.holds) : FirstFault (conditions.eraseIdx n) fault := by
  induction h generalizing n with
  | here hfails =>
    cases n with
    | zero =>
      obtain rfl := Option.some.inj hn
      exact absurd hc hfails
    | succ n => exact .here hfails
  | behind hholds hrest ih =>
    cases n with
    | zero => exact hrest
    | succ n => exact .behind hholds (ih n hn)

/-- Of numbered conditions the smallest that does not hold gives the fault. -/
theorem map_range_iff {of : Nat → Condition ε} {n : Nat} :
    FirstFault ((List.range n).map of) fault ↔
      ∃ i < n, (∀ j < i, (of j).holds) ∧ ¬ (of i).holds ∧ (of i).fault = fault := by
  induction n with
  | zero =>
    constructor
    · intro h
      cases h
    · rintro ⟨i, hi, -⟩
      exact absurd hi (Nat.not_lt_zero i)
  | succ n ih =>
    rw [List.range_succ, List.map_append, List.map_singleton, append_iff, ih]
    constructor
    · rintro (⟨i, hi, hfirst⟩ | ⟨hall, hlast⟩)
      · exact ⟨i, Nat.lt_succ_of_lt hi, hfirst⟩
      · obtain ⟨c, hc, hfault⟩ := hlast.exists_mem
        obtain rfl := List.mem_singleton.1 hc
        refine ⟨n, Nat.lt_succ_self n, fun j hj => hall _ ?_, hfault⟩
        exact List.mem_map_of_mem (List.mem_range.2 hj)
    · rintro ⟨i, hi, hbefore, hfails, rfl⟩
      rcases Nat.lt_succ_iff_lt_or_eq.1 hi with hlt | rfl
      · exact .inl ⟨i, hlt, hbefore, hfails, rfl⟩
      · refine .inr ⟨?_, .here hfails⟩
        simpa using hbefore

end FirstFault

/-- The check comes through only if all conditions hold, and stops only with the fault of the first
that does not. -/
structure Ruled (conditions : List (Condition ε)) (x : Except ε α) : Prop where
  holds : ∀ a, x = .ok a → ∀ c ∈ conditions, c.holds
  fault : ∀ fault, x = .error fault → FirstFault conditions fault

namespace Ruled

variable {x : Except ε α}

/-- A check that comes through exactly if all conditions hold. -/
theorem exists_ok_iff (h : Ruled conditions x) :
    (∃ a, x = .ok a) ↔ ∀ c ∈ conditions, c.holds := by
  cases hx : x with
  | ok a => exact ⟨fun _ => h.holds a hx, fun _ => ⟨a, rfl⟩⟩
  | error fault =>
    refine ⟨fun ⟨a, ha⟩ => (by cases ha), fun hall => ?_⟩
    exact absurd hall (h.fault fault hx).not_all

/-- A check that stops exactly with the fault of the first condition that does not hold. -/
theorem eq_error_iff (h : Ruled conditions x) :
    x = .error fault ↔ FirstFault conditions fault := by
  constructor
  · exact h.fault fault
  · intro hfirst
    cases hx : x with
    | ok a => exact absurd (h.holds a hx) hfirst.not_all
    | error other => rw [(h.fault other hx).unique hfirst]

theorem of_eq_ok {a : α} (h : x = .ok a) (hall : ∀ c ∈ conditions, c.holds) :
    Ruled conditions x where
  holds _ _ := hall
  fault other hother := by cases h.symm.trans hother

theorem of_eq_error (h : x = .error fault) (hfirst : FirstFault conditions fault) :
    Ruled conditions x where
  holds a ha := by cases h.symm.trans ha
  fault other hother := by
    obtain rfl := Except.error.inj (h.symm.trans hother)
    exact hfirst

/-- One check with one condition. -/
theorem single {p : Prop} (hok : ∀ a, x = .ok a → p)
    (herror : ∀ other, x = .error other → ¬ p ∧ fault = other) : Ruled [⟨p, fault⟩] x where
  holds a ha := by simpa using hok a ha
  fault other hother := by
    obtain ⟨hfails, rfl⟩ := herror other hother
    exact .here hfails

/-- Nothing is asked where nothing can fail. -/
theorem ok (a : α) : Ruled [] (.ok a : Except ε α) where
  holds b hb := by simp
  fault other hother := by cases hother

/-- The conditions of a check come before those of what goes on behind it. -/
theorem bind {f : α → Except ε β} (h : Ruled conditions x)
    (hf : ∀ a, x = .ok a → Ruled more (f a)) : Ruled (conditions ++ more) (x >>= f) := by
  cases hx : x with
  | ok a =>
    refine ⟨fun b hb => ?_, fun other hother => ?_⟩
    · exact List.forall_mem_append.2 ⟨h.holds a hx, (hf a hx).holds b hb⟩
    · exact ((hf a hx).fault other hother).append_right (h.holds a hx)
  | error fault =>
    refine ⟨fun b hb => (by cases hb), fun other hother => ?_⟩
    cases hother
    exact (h.fault fault hx).append_left more

/-- A condition that holds need not be listed. -/
theorem drop {c : Condition ε} (h : Ruled conditions x) (n : Nat) (hn : conditions[n]? = some c)
    (hc : c.holds) : Ruled (conditions.eraseIdx n) x where
  holds a ha := fun other hother => h.holds a ha other (List.mem_of_mem_eraseIdx hother)
  fault other hother := (h.fault other hother).eraseIdx n hn hc

/-- What is listed in front of all that can fail need not be listed. -/
theorem of_append (h : Ruled (conditions ++ more) x) (hall : ∀ c ∈ conditions, c.holds) :
    Ruled more x where
  holds a ha := (List.forall_mem_append.1 (h.holds a ha)).2
  fault other hother := by
    rcases FirstFault.append_iff.1 (h.fault other hother) with hfirst | ⟨-, hmore⟩
    · exact absurd hall hfirst.not_all
    · exact hmore

theorem map (h : Ruled conditions x) (f : α → β) : Ruled conditions (x.map f) := by
  cases hx : x with
  | ok a => exact ⟨fun _ _ => h.holds a hx, fun other hother => by cases hother⟩
  | error fault =>
    refine ⟨fun b hb => (by cases hb), fun other hother => ?_⟩
    cases hother
    exact h.fault fault hx

/-- The elements of a list are checked one after another. -/
theorem mapM {f : α → Except ε β} {of : α → List (Condition ε)} (h : ∀ a, Ruled (of a) (f a))
    (as : List α) : Ruled (as.flatMap of) (as.mapM f) := by
  induction as with
  | nil => exact ok []
  | cons a as ih =>
    rw [List.mapM_cons, List.flatMap_cons]
    refine (h a).bind fun b _ => ?_
    rw [← List.append_nil (as.flatMap of)]
    exact ih.bind fun bs _ => ok (b :: bs)

end Ruled

end Checks

end SealedReceipts
