/-! # Work lists

    A search through a graph keeps a list of members that are pending and a list
    of those that were visited. It ends because each step either takes a member
    off the pending list or visits one member more of a finite universe.

    `unvisited` counts what is left of the universe; the lemma says that a visit
    lowers it.
-/

namespace BundleGraph.Worklist

variable {α : Type} [DecidableEq α]

/-- Number of members of the universe that were not visited. -/
def unvisited (univ visited : List α) : Nat := univ.countP fun a => a ∉ visited

/-- Visiting a new member of the universe lowers the number of those that are left. -/
theorem unvisited_cons_lt {univ visited : List α} {a : α} (ha : a ∈ univ) (hn : a ∉ visited) :
    unvisited univ (a :: visited) < unvisited univ visited := by
  unfold unvisited
  induction univ with
  | nil => simp at ha
  | cons b univ ih =>
    have mono : ∀ xs : List α,
        xs.countP (fun x => x ∉ a :: visited) ≤ xs.countP fun x => x ∉ visited := by
      intro xs
      apply List.countP_mono_left
      intro x _ hx
      simp only [List.mem_cons, not_or, decide_eq_true_eq] at hx ⊢
      exact hx.2
    by_cases hb : b = a
    · subst hb
      have := mono univ
      simp only [List.countP_cons, List.mem_cons, true_or, not_true_eq_false, decide_false,
        Bool.false_eq_true, if_false, hn, not_false_eq_true, decide_true, if_true]
      simp only [List.mem_cons] at this
      omega
    · have ha' : a ∈ univ := by
        rcases List.mem_cons.1 ha with h | h
        · exact absurd h.symm hb
        · exact h
      have := ih ha'
      simp only [List.countP_cons]
      by_cases hv : b ∈ visited
      · simp [hv, hb] at this ⊢
        omega
      · simp [hv, hb] at this ⊢
        omega

/-- Visits the pending members and whatever `next` leads to, within a universe. The result has
    every visited member once, the last visited first. -/
def search (next : α → List α) (univ : List α) : (pending visited : List α) → List α
  | [], visited => visited
  | a :: pending, visited =>
    if _h : a ∈ univ ∧ a ∉ visited then search next univ (pending ++ next a) (a :: visited)
    else search next univ pending visited
termination_by pending visited => (unvisited univ visited, pending.length)
decreasing_by
  · exact Prod.Lex.left _ _ (unvisited_cons_lt _h.1 _h.2)
  · exact Prod.Lex.right _ (by simp)

end BundleGraph.Worklist
