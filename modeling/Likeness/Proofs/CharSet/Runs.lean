import Likeness.Proofs.CharSet.Membership
import Mathlib.Data.List.Chain

/-! # Runs of one character

    A text is cut into runs of one character, which are as long as they can be.  Squeezing
    goes through a text once and remembers the last character, and so replaces each run of
    a member of the set by one copy and leaves all other runs as they are (`squeezed_runs`).
    What it gives has no repeated members next to each other (`squeezeAfter_settled`), and
    where there are none it changes nothing (`squeezeAfter_of_settled`), so that squeezing
    again does nothing. -/

namespace Likeness.CharSet

/-! ## Runs -/

/-- A character and how often it is repeated behind its first copy. -/
structure Run where
  char : Char
  repeats : Nat

/-- The characters of a run. -/
def Run.text (run : Run) : List Char := List.replicate (run.repeats + 1) run.char

/-- What squeezing leaves of a run: one copy of a member, and any other run as it is. -/
def Run.squeezed (set : CharSet) (run : Run) : List Char :=
  if set.contains run.char then [run.char] else run.text

/-- A text is cut into runs that are as long as they can be: next to each other are runs of
    different characters. -/
structure IsRuns (text : List Char) (runs : List Run) : Prop where
  covers : runs.flatMap Run.text = text
  maximal : runs.IsChain fun run next => run.char ≠ next.char

theorem exists_isRuns (text : List Char) : ∃ runs, IsRuns text runs := by
  induction text with
  | nil => exact ⟨[], rfl, .nil⟩
  | cons c rest ih =>
      obtain ⟨runs, rfl, maximal⟩ := ih
      cases runs with
      | nil => exact ⟨[⟨c, 0⟩], rfl, .singleton _⟩
      | cons run runs =>
          -- A character continues the run behind it, or is a run of its own.
          by_cases hc : c = run.char
          · subst hc
            refine ⟨⟨run.char, run.repeats + 1⟩ :: runs, rfl, ?_⟩
            rw [List.isChain_cons] at maximal ⊢
            exact maximal
          · refine ⟨⟨c, 0⟩ :: run :: runs, rfl, ?_⟩
            exact List.isChain_cons_cons.mpr ⟨hc, maximal⟩

/-! ## Squeezing run by run -/

variable {set : CharSet} {last c : Char} {text rest : List Char}

/-- A character other than the last one is given out. -/
theorem squeezeAfter_ne (h : c ≠ last) :
    squeezeAfter set last (c :: rest) = c :: squeezeAfter set c rest := by
  rw [squeezeAfter, beq_false_of_ne h, Bool.false_and, if_neg Bool.false_ne_true]

theorem squeezeAfter_repeats_member (h : set.contains c = true) (n : Nat) :
    squeezeAfter set c (List.replicate n c ++ rest) = squeezeAfter set c rest := by
  induction n with
  | zero => rfl
  | succ n ih =>
      rw [List.replicate_succ, List.cons_append, squeezeAfter, beq_self_eq_true, h, Bool.true_and,
        if_pos rfl, ih]

theorem squeezeAfter_repeats_stranger (h : set.contains c = false) (n : Nat) :
    squeezeAfter set c (List.replicate n c ++ rest)
      = List.replicate n c ++ squeezeAfter set c rest := by
  induction n with
  | zero => rfl
  | succ n ih =>
      rw [List.replicate_succ, List.cons_append, squeezeAfter, h, Bool.and_false,
        if_neg Bool.false_ne_true, ih, List.cons_append]

/-- Behind the first copy of a run squeezing gives what belongs to the run, and goes on with
    the character of the run as the last one. -/
theorem squeezed_run (run : Run) :
    set.squeezed (run.text ++ rest) = run.squeezed set ++ squeezeAfter set run.char rest := by
  show run.char :: squeezeAfter set run.char (List.replicate run.repeats run.char ++ rest) = _
  rw [Run.squeezed]
  split_ifs with h
  · rw [squeezeAfter_repeats_member h, List.singleton_append]
  · rw [squeezeAfter_repeats_stranger (Bool.eq_false_iff.mpr h), Run.text, List.replicate_succ,
      List.cons_append]

/-- Behind a run of another character a text is squeezed as if it stood alone. -/
theorem squeezeAfter_eq_squeezed (h : ∀ x ∈ text.head?, x ≠ last) :
    squeezeAfter set last text = set.squeezed text := by
  cases text with
  | nil => rfl
  | cons c rest => exact squeezeAfter_ne (h c rfl)

/-- **SQUEEZING WORKS ON RUNS**, each by itself. -/
theorem squeezed_runs {runs : List Run} (h : IsRuns text runs) :
    set.squeezed text = runs.flatMap (Run.squeezed set) := by
  obtain ⟨rfl, maximal⟩ := h
  induction runs with
  | nil => rfl
  | cons run runs ih =>
      -- The text behind a run starts with another character, as the run is maximal.
      have hnext : ∀ x ∈ (runs.flatMap Run.text).head?, x ≠ run.char := by
        cases runs with
        | nil => exact fun x hx => nomatch hx
        | cons next runs =>
            rintro x hx
            cases hx
            exact (List.isChain_cons_cons.mp maximal).1.symm
      rw [List.flatMap_cons, squeezed_run, squeezeAfter_eq_squeezed hnext, ih maximal.tail,
        List.flatMap_cons]

/-! ## What is squeezed -/

/-- Neighbours that squeezing leaves as they are: no member stands before its repetition. -/
def Settled (set : CharSet) (a b : Char) : Prop := set.contains a = true → a ≠ b

theorem squeezeAfter_settled (set : CharSet) (last : Char) (text : List Char) :
    (last :: squeezeAfter set last text).IsChain set.Settled := by
  induction text generalizing last with
  | nil => exact .singleton _
  | cons c rest ih =>
      -- A character is given out when it differs from the last one or is no member.
      rw [squeezeAfter]
      split_ifs with h
      · exact ih last
      · refine List.isChain_cons_cons.mpr ⟨?_, ih c⟩
        rintro hmember rfl
        exact h (by rw [beq_self_eq_true, hmember, Bool.and_self])

theorem squeezeAfter_of_settled (h : (last :: text).IsChain set.Settled) :
    squeezeAfter set last text = text := by
  induction text generalizing last with
  | nil => rfl
  | cons c rest ih =>
      obtain ⟨hlast, hrest⟩ := List.isChain_cons_cons.mp h
      rw [squeezeAfter, if_neg, ih hrest]
      intro hskip
      obtain ⟨hc, hmember⟩ := Bool.and_eq_true_iff.mp hskip
      obtain rfl := eq_of_beq hc
      exact hlast hmember rfl

theorem squeezed_settled (set : CharSet) (text : List Char) :
    (set.squeezed text).IsChain set.Settled := by
  cases text with
  | nil => exact .nil
  | cons c rest => exact squeezeAfter_settled set c rest

theorem squeezed_of_settled (h : text.IsChain set.Settled) : set.squeezed text = text := by
  cases text with
  | nil => rfl
  | cons c rest => exact congrArg (List.cons c) (squeezeAfter_of_settled h)

/-- Squeezing takes away members only. -/
theorem filter_squeezeAfter (set : CharSet) (last : Char) (text : List Char) :
    (squeezeAfter set last text).filter (fun c => !set.contains c)
      = text.filter fun c => !set.contains c := by
  induction text generalizing last with
  | nil => rfl
  | cons c rest ih =>
      -- What is left out is a member, and would be filtered away as well.
      rw [squeezeAfter]
      split_ifs with h
      · obtain ⟨-, hmember⟩ := Bool.and_eq_true_iff.mp h
        rw [ih, List.filter_cons_of_neg (by simp [hmember])]
      · rw [List.filter_cons, List.filter_cons, ih]

theorem filter_squeezed (set : CharSet) (text : List Char) :
    (set.squeezed text).filter (fun c => !set.contains c)
      = text.filter fun c => !set.contains c := by
  cases text with
  | nil => rfl
  | cons c rest => rw [squeezed, List.filter_cons, List.filter_cons, filter_squeezeAfter]

/-- **SQUEEZING COLLAPSES THE RUNS OF MEMBERS.**  A text is a sequence of runs as long as they
    can be, and squeezing it replaces each run of a member of the set by one copy and leaves
    the others at their length.  Squeezing again does nothing, no member is left next to its
    repetition, and deleting then gives what it would have given before. -/
theorem squeeze_collapses (text : List Char) (definitions : List (Option (List Char))) :
    (∃ runs, IsRuns text runs) ∧
    ∃ squeezed : List Char,
      squeeze (some text) definitions = some squeezed ∧
      (∀ runs, IsRuns text runs →
        squeezed = runs.flatMap fun run =>
          if (ofDefinitions definitions).contains run.char then [run.char] else run.text) ∧
      squeeze (some squeezed) definitions = some squeezed ∧
      squeezed.IsChain (fun a b => (ofDefinitions definitions).contains a = true → a ≠ b) ∧
      delete (some squeezed) definitions = delete (some text) definitions := by
  have hsettled := squeezed_settled (ofDefinitions definitions) text
  refine ⟨exists_isRuns text, (ofDefinitions definitions).squeezed text, squeeze_eq _, ?_, ?_,
    hsettled, ?_⟩
  · intro runs hruns
    exact squeezed_runs hruns
  · rw [squeeze_eq]
    exact congrArg some (squeezed_of_settled hsettled)
  · rw [delete_eq, delete_eq]
    exact congrArg some (filter_squeezed _ text)

end Likeness.CharSet
