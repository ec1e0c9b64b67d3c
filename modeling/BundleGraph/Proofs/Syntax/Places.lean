import BundleGraph.Proofs.Exports.Uncommented
import BundleGraph.Syntax.Source

/-! # Places in a source

    A word is the text between two places. What stands between three places in a
    row is put together from its two parts (`slice_append`), so nothing of a
    source is lost or read twice if every word ends at or behind the place where
    it begins (`Forward`). This module says so of names, numbers, strings,
    regular expressions, operators and comments, and that the gap before a word
    is made of the comments in it and the white space after them (`gap_spec`).
-/

namespace BundleGraph.Syntax.Source

variable {s : Source}

/-! ### Texts between places -/

theorem slice_self (s : Source) (i : Nat) : s.slice i i = "" := by
  rw [slice, Array.extract_eq_empty_of_le (Nat.min_le_left i s.chars.size), String.ofList_nil]

theorem slice_append {i k j : Nat} (hi : i ≤ k) (hj : k ≤ j) :
    s.slice i k ++ s.slice k j = s.slice i j := by
  rw [slice, slice, ← String.ofList_append, ← Array.toList_append, Array.extract_append_extract,
    Nat.min_eq_left hi, Nat.max_eq_right hj, slice]

/-- A place behind the end is as good as the end. -/
theorem slice_append_size {i k : Nat} (h : i ≤ k) :
    s.slice i k ++ s.slice k s.chars.size = s.slice i s.chars.size := by
  rcases Nat.lt_or_ge s.chars.size k with hk | hk
  · rw [slice, slice, slice, Array.extract_of_size_lt hk,
      Array.extract_eq_empty_of_le (Nat.le_trans (Nat.min_le_left _ _) (Nat.le_of_lt hk)),
      ← String.ofList_append,
      Array.toList_empty, List.append_nil]
  · exact slice_append h hk

theorem lt_size_of_at? {i : Nat} {c : Char} (h : s.at? i = some c) : i < s.chars.size :=
  (Array.getElem?_eq_some_iff.1 h).1

theorem slice_succ {i : Nat} {c : Char} (h : s.at? i = some c) :
    s.slice i (i + 1) = String.ofList [c] := by
  obtain ⟨hi, rfl⟩ := Array.getElem?_eq_some_iff.1 h
  rw [slice, Array.extract_succ_right (Nat.lt_succ_self i) hi,
    Array.extract_eq_empty_of_le (Nat.min_le_left i s.chars.size)]
  rfl

/-- The text begins with the character at the first place. -/
theorem slice_cons {i j : Nat} {c : Char} (h : s.at? i = some c) (hj : i < j) :
    (s.slice i j).toList = c :: (s.slice (i + 1) j).toList := by
  rw [← slice_append (Nat.le_succ i) hj, slice_succ h, String.toList_append, String.toList_ofList]
  rfl

theorem slice_of_startsWith {cs : List Char} {i : Nat} (h : s.startsWith i cs = true) :
    s.slice i (i + cs.length) = String.ofList cs := by
  induction cs generalizing i with
  | nil => exact s.slice_self i
  | cons c cs ih =>
    rw [startsWith, Bool.and_eq_true, beq_iff_eq] at h
    have hrest := ih h.2
    rw [Nat.add_right_comm] at hrest
    rw [List.length_cons, ← Nat.add_assoc, ← slice_append (Nat.le_succ i) (by omega),
      slice_succ h.1, hrest, ← String.ofList_append]
    rfl

theorem at?_of_startsWith {c : Char} {cs : List Char} {i : Nat}
    (h : s.startsWith i (c :: cs) = true) : s.at? i = some c := by
  rw [startsWith, Bool.and_eq_true, beq_iff_eq] at h
  exact h.1

theorem exists_of_test {i : Nat} {p : Char → Bool} (h : s.test i p = true) :
    ∃ c, s.at? i = some c ∧ p c = true :=
  (Option.any_eq_true _ _).1 h

/-! ### Words end behind their beginning -/

/-- The words whose end `stop?` says end at or behind the place where they begin. -/
def Forward (stop? : Source → Nat → Option Nat) : Prop := ∀ s i j, stop? s i = some j → i ≤ j

theorem le_skipFor (s : Source) (p : Char → Bool) (n i : Nat) : i ≤ s.skipFor p n i := by
  induction n generalizing i with
  | zero => exact Nat.le_refl i
  | succ n ih =>
    rw [skipFor]
    split
    · exact Nat.le_trans (Nat.le_succ i) (ih (i + 1))
    · exact Nat.le_refl i

theorem le_skip (s : Source) (p : Char → Bool) (i : Nat) : i ≤ s.skip p i := le_skipFor s p _ i

/-- A character that satisfies `p` is passed. -/
theorem lt_skip {p : Char → Bool} {i : Nat} (h : s.test i p = true) : i < s.skip p i := by
  obtain ⟨c, hc, _⟩ := exists_of_test h
  obtain ⟨n, hn⟩ := Nat.exists_eq_add_one.2 (Nat.sub_pos_of_lt (lt_size_of_at? hc))
  rw [skip, hn, skipFor, if_pos h]
  exact le_skipFor s p n (i + 1)

theorem forward_escapedCharEnd? : Forward escapedCharEnd? := by
  intro s i j h
  unfold escapedCharEnd? at h
  have hopen := le_skip s Char.isAlphanum (i + 3)
  have hplain := le_skipFor s Char.isAlphanum 4 (i + 2)
  grind

theorem le_nameTailFor (s : Source) (n i : Nat) : i ≤ s.nameTailFor n i := by
  induction n generalizing i with
  | zero => exact Nat.le_refl i
  | succ n ih =>
    rw [nameTailFor]
    split
    · exact Nat.le_trans (Nat.le_succ i) (ih (i + 1))
    · split
      · exact Nat.le_trans (forward_escapedCharEnd? s i _ ‹_›) (ih _)
      · exact Nat.le_refl i

theorem forward_nameEnd? : Forward nameEnd? := by
  intro s i j h
  unfold nameEnd? at h
  split at h
  · rw [← Option.some.inj h]
    exact le_nameTailFor s _ i
  · cases h

theorem le_exponentEnd (s : Source) (i : Nat) : i ≤ s.exponentEnd i := by
  unfold exponentEnd
  have hskip := fun j => le_skip s (fun c => c.isDigit || c == '_') j
  grind

theorem forward_numberEnd? : Forward numberEnd? := by
  intro s i j h
  unfold numberEnd? at h
  have hnumber := le_skip s isNumberChar (i + 2)
  have hdigits := fun j => le_skip s (fun c => c.isDigit || c == '_') j
  have hexponent := le_exponentEnd s
  grind

theorem forward_regexEnd? : Forward regexEnd? := by
  have htail : ∀ (s : Source) (n : Nat) (inClass : Bool) (i j : Nat),
      s.regexTailFor inClass n i = some j → i ≤ j := by
    intro s n
    induction n with
    | zero =>
      intro inClass i j h
      cases h
    | succ n ih =>
      intro inClass i j h
      have hskip := le_skip s Char.isLower (i + 1)
      rw [regexTailFor] at h
      grind
  intro s i j h
  unfold regexEnd? at h
  split at h
  · exact Nat.le_trans (Nat.le_succ i) (htail s _ false (i + 1) j h)
  · cases h

theorem forward_operatorEnd? (op : List Char) : Forward fun s i => s.operatorEnd? op i := by
  intro s i j h
  simp only [operatorEnd?] at h
  grind

theorem le_lineEnd (s : Source) (i : Nat) : i ≤ s.lineEnd i := le_skip s _ i

theorem forward_htmlCommentEnd? : Forward htmlCommentEnd? := by
  intro s i j h
  unfold htmlCommentEnd? at h
  have hline := le_lineEnd s i
  grind

/-! ### Strings -/

/-- The characters around strings. -/
def quotes : List Char := ['\'', '"']

/-- A string goes on to the next quotation mark of its kind. -/
theorem stringTailFor_spec {q : Char} {n i j : Nat} (h : s.stringTailFor q n i = some j) :
    ∃ k, i ≤ k ∧ j = k + 1 ∧ s.at? k = some q := by
  induction n generalizing i with
  | zero => cases h
  | succ n ih =>
    rw [stringTailFor] at h
    split at h
    · cases h
    · rename_i c hc
      split at h
      · rename_i hq
        rw [beq_iff_eq] at hq
        exact ⟨i, Nat.le_refl i, (Option.some.inj h).symm, hq ▸ hc⟩
      · split at h
        · obtain ⟨k, hk, hj⟩ := ih h
          refine ⟨k, ?_, hj⟩
          split at hk <;> omega
        · split at h
          · cases h
          · obtain ⟨k, hk, hj⟩ := ih h
            exact ⟨k, by omega, hj⟩

/-- A string begins and ends with the same quotation mark. -/
theorem stringEnd?_spec {i j : Nat} (h : s.stringEnd? i = some j) :
    ∃ q ∈ quotes, ∃ k, i < k ∧ j = k + 1 ∧ s.at? i = some q ∧ s.at? k = some q := by
  unfold stringEnd? at h
  split at h
  · rename_i q hq
    split at h
    · rename_i hquote
      obtain ⟨k, hk, hj, hend⟩ := stringTailFor_spec h
      refine ⟨q, ?_, k, hk, hj, hq, hend⟩
      rw [Bool.or_eq_true, beq_iff_eq, beq_iff_eq] at hquote
      simpa [quotes, or_comm] using hquote
    · cases h
  · cases h

theorem markupStringEnd?_spec {i j : Nat} (h : s.markupStringEnd? i = some j) :
    ∃ q ∈ quotes, ∃ k, i < k ∧ j = k + 1 ∧ s.at? i = some q ∧ s.at? k = some q := by
  unfold markupStringEnd? at h
  split at h
  · rename_i q hq
    split at h
    · rename_i hquote
      simp only [Option.ite_none_right_eq_some, beq_iff_eq] at h
      refine ⟨q, ?_, _, le_skip s _ (i + 1), (Option.some.inj h.2).symm, hq, h.1⟩
      rw [Bool.or_eq_true, beq_iff_eq, beq_iff_eq] at hquote
      simpa [quotes, or_comm] using hquote
    · cases h
  · cases h

/-- The text of what begins and ends with a quotation mark. -/
theorem slice_quoted {q : Char} {i k : Nat} (hi : s.at? i = some q) (hk : s.at? k = some q)
    (h : i < k) :
    s.slice i (k + 1) = String.ofList (q :: (s.slice (i + 1) k).toList ++ [q]) := by
  rw [← String.toList_inj, slice_cons hi (by omega), ← slice_append h (Nat.le_succ k),
    slice_succ hk, String.toList_append, String.toList_ofList, String.toList_ofList,
    List.cons_append]

/-! ### Names -/

/-- A name does not begin with a quotation mark. -/
theorem head?_of_nameEnd? {i j : Nat} (h : s.nameEnd? i = some j) :
    ∀ c ∈ (s.slice i j).toList.head?, c ∉ quotes := by
  have hfirst : ∃ c, s.at? i = some c ∧ c ∉ quotes := by
    unfold nameEnd? at h
    split at h
    · rename_i hstart
      rw [Bool.or_eq_true] at hstart
      rcases hstart with hname | hescape
      · obtain ⟨c, hc, hname⟩ := exists_of_test hname
        refine ⟨c, hc, fun hquote => ?_⟩
        have hnone : ∀ q ∈ quotes, isNameStart q = false := by
          rw [quotes, List.forall_mem_cons, List.forall_mem_singleton]
          decide
        rw [hnone c hquote] at hname
        cases hname
      · obtain ⟨k, hk⟩ := Option.isSome_iff_exists.1 hescape
        have hslash : s.at? i = some '\\' := by
          unfold escapedCharEnd? at hk
          split at hk
          · exact at?_of_startsWith ‹_›
          · split at hk
            · exact at?_of_startsWith ‹_›
            · cases hk
        exact ⟨'\\', hslash, by decide⟩
    · cases h
  obtain ⟨c, hc, hquote⟩ := hfirst
  rcases Nat.eq_or_lt_of_le (forward_nameEnd? s i j h) with rfl | hlt
  · rw [slice_self]
    intro c' hc'
    cases hc'
  · rw [slice_cons hc hlt]
    intro c' hc'
    rw [← Option.some.inj hc']
    exact hquote

/-! ### Comments and gaps -/

theorem le_of_blockCommentTailFor {n i j : Nat} (h : s.blockCommentTailFor n i = some j) :
    i ≤ j := by
  induction n generalizing i with
  | zero => cases h
  | succ n ih =>
    rw [blockCommentTailFor] at h
    split at h
    · rw [← Option.some.inj h]
      omega
    · exact Nat.le_of_succ_le (ih h)

/-- A comment begins with a slash. -/
theorem commentEnd?_spec {i j : Nat} (h : s.commentEnd? i = some j) :
    i < j ∧ s.at? i = some '/' := by
  unfold commentEnd? at h
  split at h
  · have hslash := at?_of_startsWith ‹_›
    refine ⟨?_, hslash⟩
    rw [← Option.some.inj h]
    refine lt_skip ?_
    rw [test, hslash]
    decide
  · split at h
    · have hback := le_of_blockCommentTailFor h
      exact ⟨by omega, at?_of_startsWith ‹_›⟩
    · cases h

theorem isComment_of_commentEnd? {i j : Nat} (h : s.commentEnd? i = some j) (gap : String) :
    (Node.leaf none .comment gap (s.slice i j)).isComment = true := by
  obtain ⟨hlt, hslash⟩ := commentEnd?_spec h
  rw [Node.isComment, slice_cons hslash hlt]
  rfl

/-- The gap before a word is made of comments, each with the white space before it, and of the white
    space after them. -/
theorem gap_spec (s : Source) (i : Nat) :
    i ≤ (s.gap i).stop ∧
      Node.textOfAll false (s.gap i).comments ++ (s.gap i).blank = s.slice i (s.gap i).stop ∧
      ∀ c ∈ (s.gap i).comments, c.isComment = true := by
  -- `comments` holds what stands between `start` and the place that the search has come to
  have hfor : ∀ (n start i : Nat) (comments : List Node), start ≤ i →
      Node.textOfAll false comments.reverse = s.slice start i →
      (∀ c ∈ comments, c.isComment = true) →
      start ≤ (s.gapFor comments n i).stop ∧
        Node.textOfAll false (s.gapFor comments n i).comments ++ (s.gapFor comments n i).blank =
          s.slice start (s.gapFor comments n i).stop ∧
        ∀ c ∈ (s.gapFor comments n i).comments, c.isComment = true := by
    intro n start
    induction n with
    | zero =>
      intro i comments hstart htext hcomments
      refine ⟨hstart, ?_, fun c hc => hcomments c (List.mem_reverse.1 hc)⟩
      rw [gapFor, String.append_empty]
      exact htext
    | succ n ih =>
      intro i comments hstart htext hcomments
      have hskip := le_skip s isGapChar i
      rw [gapFor]
      split
      · rename_i k hk
        have hlt := (commentEnd?_spec hk).1
        refine ih k _ (by omega) ?_ ?_
        · have hleaf : (Node.leaf none .comment (s.slice i (s.skip isGapChar i))
              (s.slice (s.skip isGapChar i) k)).source = s.slice i k :=
            slice_append hskip (Nat.le_of_lt hlt)
          rw [List.reverse_cons, Node.textOfAll_append, Node.textOfAll_cons, hleaf, htext,
            Node.textOfAll, String.append_empty, slice_append hstart (by omega)]
        · intro c hc
          rcases List.mem_cons.1 hc with rfl | hc
          · exact isComment_of_commentEnd? hk _
          · exact hcomments c hc
      · refine ⟨Nat.le_trans hstart hskip, ?_, fun c hc => hcomments c (List.mem_reverse.1 hc)⟩
        simp only
        rw [htext, slice_append hstart hskip]
  refine hfor _ i i [] (Nat.le_refl i) ?_ fun c hc => by cases hc
  rw [slice_self]
  rfl

end BundleGraph.Syntax.Source
