import BundleGraph.Text.Search
import Mathlib.Data.List.Infix

/-! # Runs that are taken out

    A text in which a run does not stand is left as it is. What stands before a
    run is passed over if it does not have the first character of the run, and
    runs that follow one another at the front of a text are all taken out.

    To see that a run stands in a joined text only if it stands in the first part,
    it is enough that its last character is not in the second part.
-/

namespace BundleGraph.Text

/-! ### Runs in joined texts -/

/-- A run that ends with a character that the second part does not have stands in the first part. -/
theorem infix_of_infix_append {run hay rest : List Char} {c : Char}
    (h : run ++ [c] <:+: hay ++ rest) (hc : c ∉ rest) : run ++ [c] <:+: hay := by
  obtain ⟨before, after, hsplit⟩ := h
  rcases List.append_eq_append_iff.1 hsplit with ⟨mid, hhay, _⟩ | ⟨mid, hrun, hrest⟩
  · exact ⟨before, mid, hhay.symm⟩
  · -- what reaches into the second part would end with the character
    rcases List.eq_nil_or_concat mid with rfl | ⟨front, d, rfl⟩
    · rw [List.append_nil] at hrun
      exact ⟨before, [], by rw [hrun, List.append_nil]⟩
    · rw [List.concat_eq_append, ← List.append_assoc, ← List.append_assoc] at hrun
      obtain ⟨-, hd⟩ := List.append_inj' hrun rfl
      have hmem : c ∈ rest := by
        rw [hrest, List.concat_eq_append, ← hd]
        simp
      exact absurd hmem hc

/-! ### The first run -/

theorem splitAtRun_eq_none {run hay : List Char} (h : ¬ run <:+: hay) :
    splitAtRun run hay = none := by
  induction hay with
  | nil =>
    have hrun : run ≠ [] := fun hrun => h (hrun ▸ List.infix_refl [])
    simp [splitAtRun, hrun]
  | cons c rest ih =>
    rw [List.infix_cons_iff, not_or] at h
    have hhere : run.isPrefixOf (c :: rest) = false :=
      Bool.eq_false_iff.2 (mt List.isPrefixOf_iff_prefix.1 h.1)
    rw [splitAtRun, hhere, ih h.2]
    rfl

theorem dropFirstRun_eq_self {run hay : List Char} (h : ¬ run <:+: hay) :
    dropFirstRun run hay = hay := by
  rw [dropFirstRun, splitAtRun_eq_none h]

/-- A text that does not have the first character of a run is passed over. -/
theorem splitAtRun_append {c : Char} {run before : List Char} (h : c ∉ before) (hay : List Char) :
    splitAtRun (c :: run) (before ++ hay) =
      (splitAtRun (c :: run) hay).map fun p => (before ++ p.1, p.2) := by
  induction before with
  | nil => exact Option.map_id'.symm
  | cons d before ih =>
    have hd : c ≠ d := fun hd => h (hd ▸ List.mem_cons_self)
    have hhere : (c :: run).isPrefixOf (d :: (before ++ hay)) = false := by
      rw [List.isPrefixOf, beq_false_of_ne hd, Bool.false_and]
    rw [List.cons_append, splitAtRun, hhere, ih fun hc => h (List.mem_cons_of_mem _ hc)]
    simp [Function.comp_def]

theorem dropFirstRun_append {c : Char} {run before : List Char} (h : c ∉ before)
    (hay : List Char) :
    dropFirstRun (c :: run) (before ++ hay) = before ++ dropFirstRun (c :: run) hay := by
  rw [dropFirstRun, splitAtRun_append h, dropFirstRun]
  cases splitAtRun (c :: run) hay with
  | none => rfl
  | some p => exact List.append_assoc before p.1 p.2

/-- A run at the front of a text is taken out, and nothing else. -/
theorem dropFirstRun_self_append {run : List Char} (h : run ≠ []) (hay : List Char) :
    dropFirstRun run (run ++ hay) = hay := by
  obtain ⟨c, rest, rfl⟩ := List.exists_cons_of_ne_nil h
  have hhere : (c :: rest).isPrefixOf (c :: (rest ++ hay)) = true :=
    List.isPrefixOf_iff_prefix.2 (List.prefix_append (c :: rest) hay)
  have hdrop : (c :: (rest ++ hay)).drop (c :: rest).length = hay :=
    @List.drop_left _ (c :: rest) hay
  rw [dropFirstRun, List.cons_append, splitAtRun, if_pos hhere, hdrop]
  rfl

/-! ### All runs -/

theorem dropRuns_eq_self {run hay : List Char} (h : ¬ run <:+: hay) :
    dropRuns run hay = hay := by
  induction hay with
  | nil => rfl
  | cons c rest ih =>
    rw [List.infix_cons_iff, not_or] at h
    have hhere : run.isPrefixOf (c :: rest) = false :=
      Bool.eq_false_iff.2 (mt List.isPrefixOf_iff_prefix.1 h.1)
    have hrest : dropRunsFrom run 0 rest = rest := ih h.2
    rw [dropRuns, dropRunsFrom, hhere, Bool.and_false, if_neg Bool.false_ne_true, hrest]

/-- Characters that still belong to a run are passed over. -/
theorem dropRunsFrom_append (run skipped hay : List Char) :
    dropRunsFrom run skipped.length (skipped ++ hay) = dropRunsFrom run 0 hay := by
  induction skipped with
  | nil => rfl
  | cons c skipped ih => rw [List.length_cons, List.cons_append, dropRunsFrom, ih]

theorem dropRuns_append {run : List Char} (h : run ≠ []) (hay : List Char) :
    dropRuns run (run ++ hay) = dropRuns run hay := by
  obtain ⟨c, rest, rfl⟩ := List.exists_cons_of_ne_nil h
  have hhere : (c :: rest).isPrefixOf (c :: (rest ++ hay)) = true :=
    List.isPrefixOf_iff_prefix.2 (List.prefix_append (c :: rest) hay)
  rw [dropRuns, List.cons_append, dropRunsFrom, hhere]
  exact dropRunsFrom_append (c :: rest) rest hay

/-- Runs at the front of a text are all taken out. -/
theorem dropRuns_replicate_append {run : List Char} (h : run ≠ []) (k : Nat) (hay : List Char) :
    dropRuns run ((List.replicate k run).flatten ++ hay) = dropRuns run hay := by
  induction k with
  | zero => rfl
  | succ k ih =>
    rw [List.replicate_succ, List.flatten_cons, List.append_assoc, dropRuns_append h, ih]

end BundleGraph.Text
