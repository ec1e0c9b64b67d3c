import BundleGraph.Proofs.Preorder
import BundleGraph.Proofs.Sizes.Report

/-! # What a size report answers

    Several entries may belong to one chunk. The last of them counts, for the
    sizes of the chunk and for its groups alike (`Counts`), whichever entry came
    first and gave the chunk its place in the report.

    A text finds the first group whose path contains it. Groups are kept flat, and
    the flat list is the recursive pre-order of the groups, one by one
    (`forall₂_flatten`); so first means first in that order, at whatever depth.
-/

namespace BundleGraph.Sizes

/-! ### The entry that counts -/

/-- `Counts entries id e`: the entry is the last one that belongs to the chunk. -/
def Counts (entries : List Entry) (id : String) (e : Entry) : Prop :=
  ∃ before after, entries = before ++ e :: after ∧ chunkIdOfLabel e.label = id ∧
    ∀ later ∈ after, chunkIdOfLabel later.label ≠ id

theorem entryOf?_eq_some_iff {entries : List Entry} {id : String} {e : Entry} :
    entryOf? entries id = some e ↔ Counts entries id e := by
  rw [entryOf?, List.find?_eq_some_iff_append]
  simp only [decide_eq_true_eq, Bool.not_eq_true', decide_eq_false_iff_not]
  constructor
  · intro h
    obtain ⟨hid, later, before, hsplit, hlater⟩ := h
    refine ⟨before.reverse, later.reverse, ?_, hid, fun x hx => hlater x (List.mem_reverse.1 hx)⟩
    rw [← List.reverse_reverse entries, hsplit]
    simp
  · intro h
    obtain ⟨before, after, rfl, hid, hafter⟩ := h
    refine ⟨hid, after.reverse, before.reverse, by simp, fun x hx => ?_⟩
    exact hafter x (List.mem_reverse.1 hx)

theorem entryOf?_eq_none_iff {entries : List Entry} {id : String} :
    entryOf? entries id = none ↔ ∀ e ∈ entries, chunkIdOfLabel e.label ≠ id := by
  rw [entryOf?, List.find?_eq_none]
  simp

/-! ### Groups where a text is found -/

/-- `g.LiesAt text`: the group has a path, which is not empty, and the text occurs in it. -/
def Entry.LiesAt (g : Entry) (text : String) : Prop :=
  ∃ p, g.path = some p ∧ p ≠ "" ∧ text.toList <:+: p.toList

theorem isAt_iff_liesAt {text : String} {g : Entry} :
    Report.isAt text g = true ↔ g.LiesAt text := by
  simp only [isAt_iff, Text.occursIn_iff, Entry.LiesAt]

instance (g : Entry) (text : String) : Decidable (g.LiesAt text) :=
  decidable_of_iff _ isAt_iff_liesAt

/-- `FirstAt text groups g`: the group is the first one in the list where the text is found. -/
def FirstAt (text : String) (groups : List Entry) (g : Entry) : Prop :=
  ∃ before after, groups = before ++ g :: after ∧ g.LiesAt text ∧ ∀ x ∈ before, ¬ x.LiesAt text

theorem find?_isAt_eq_some_iff {text : String} {groups : List Entry} {g : Entry} :
    groups.find? (Report.isAt text) = some g ↔ FirstAt text groups g := by
  rw [List.find?_eq_some_iff_append, isAt_iff_liesAt, FirstAt]
  have hmiss : ∀ x : Entry, (!Report.isAt text x) = true ↔ ¬ x.LiesAt text := by
    intro x
    rw [Bool.not_eq_true', ← Bool.not_eq_true, isAt_iff_liesAt]
  simp only [hmiss]
  constructor
  · intro h
    obtain ⟨hg, before, after, hsplit, hbefore⟩ := h
    exact ⟨before, after, hsplit, hg, hbefore⟩
  · intro h
    obtain ⟨before, after, hsplit, hg, hbefore⟩ := h
    exact ⟨hg, before, after, hsplit, hbefore⟩

theorem find?_isAt_eq_none_iff {text : String} {groups : List Entry} :
    groups.find? (Report.isAt text) = none ↔ ∀ g ∈ groups, ¬ g.LiesAt text := by
  simp only [List.find?_eq_none, isAt_iff_liesAt]

/-! ### Flat groups -/

/-- `g.Flattens flat`: the flat group is the group, with nothing in it, and marked as a
    concatenation if it is flagged or labelled as one. -/
structure Entry.Flattens (g flat : Entry) : Prop where
  label : flat.label = g.label
  path : flat.path = g.path
  stat : flat.stat = g.stat
  parsed : flat.parsed = g.parsed
  gzip : flat.gzip = g.gzip
  groups : flat.groups = []
  concatenated : flat.concatenated = true ↔
    g.concatenated = true ∨ "concatenated".toList <:+: g.label.toList

theorem Entry.flattens_alone (g : Entry) : g.Flattens g.alone where
  label := rfl
  path := rfl
  stat := rfl
  parsed := rfl
  gzip := rfl
  groups := rfl
  concatenated := by
    rw [alone, isConcatenated, Bool.or_eq_true, Text.occursIn_iff]

/-- The flat groups are the groups at all depths, side by side. -/
theorem forall₂_flatten (groups : List Entry) :
    List.Forall₂ Entry.Flattens (Entry.preorderAll groups) (flatten groups) := by
  rw [flatten, ← Entry.preorderAll_eq_walk, List.forall₂_map_right_iff, List.forall₂_same]
  intro g _
  exact g.flattens_alone

/-! ### Answers -/

section

variable {entries : List Entry} {r : Report} (h : Report.ofEntries entries = .ok r)
include h

theorem chunkIds_eq :
    r.chunkIds = (entries.map fun e => chunkIdOfLabel e.label).eraseDups := by
  obtain ⟨-, hassets⟩ := Report.ofEntries_eq_ok_iff.1 h
  rw [Report.chunkIds, hassets, OrderedMap.keys_ofListLast, List.map_map]
  rfl

theorem sizes_of_counts {id : String} {e : Entry} (he : Counts entries id e) :
    e.sizes = .ok (r.chunkSize id) := by
  obtain ⟨hnonneg, hassets⟩ := Report.ofEntries_eq_ok_iff.1 h
  have hmem : e ∈ entries := by
    obtain ⟨before, after, rfl, -⟩ := he
    simp
  rw [chunkSize_eq hassets, entryOf?_eq_some_iff.2 he, Entry.sizes_of_nonNegative (hnonneg e hmem)]
  rfl

theorem chunkSize_of_unknown {id : String} (hid : ∀ e ∈ entries, chunkIdOfLabel e.label ≠ id) :
    r.chunkSize id = .zero := by
  obtain ⟨-, hassets⟩ := Report.ofEntries_eq_ok_iff.1 h
  rw [chunkSize_eq hassets, entryOf?_eq_none_iff.2 hid]
  rfl

theorem moduleSize_of_unknown {id : String} (hid : ∀ e ∈ entries, chunkIdOfLabel e.label ≠ id)
    (text : String) : r.moduleSize id text = .ok .zero := by
  obtain ⟨-, hassets⟩ := Report.ofEntries_eq_ok_iff.1 h
  have hnone : groupAt? entries id text = none := by
    rw [groupAt?, entryOf?_eq_none_iff.2 hid]
    simp
  rw [moduleSize_eq hassets, hnone]

/-- What a text finds, it finds in the pre-order of the entry that counts. -/
theorem moduleSize_of_counts {id text : String} {e : Entry} (he : Counts entries id e)
    (htext : text ≠ "") :
    r.moduleSize id text =
      ((Entry.preorderAll e.groups).find? (Report.isAt text)).elim (.ok .zero) Entry.sizes := by
  obtain ⟨-, hassets⟩ := Report.ofEntries_eq_ok_iff.1 h
  rw [moduleSize_eq hassets, groupAt?, if_neg htext, entryOf?_eq_some_iff.2 he, Option.bind_some,
    Entry.preorderAll_eq_walk]
  cases (Entry.parts.walk e.groups).find? (Report.isAt text) <;> rfl

theorem moduleSize_of_firstAt {id text : String} {e g : Entry} (he : Counts entries id e)
    (htext : text ≠ "") (hg : FirstAt text (Entry.preorderAll e.groups) g) :
    r.moduleSize id text = g.sizes := by
  rw [moduleSize_of_counts h he htext, find?_isAt_eq_some_iff.2 hg, Option.elim_some]

theorem moduleSize_of_absent {id text : String} {e : Entry} (he : Counts entries id e)
    (htext : text ≠ "") (hnone : ∀ g ∈ Entry.preorderAll e.groups, ¬ g.LiesAt text) :
    r.moduleSize id text = .ok .zero := by
  rw [moduleSize_of_counts h he htext, find?_isAt_eq_none_iff.2 hnone, Option.elim_none]

/-- **The last entry and the first group.** A report knows the chunks of its entries in the order in
    which they first come. The last entry of a chunk says how large the chunk is; of the groups at
    any depth in that same entry, the first one in pre-order whose path contains a text says what
    the text is answered with, which is its sizes if none of them is negative. All else is answered
    with zero. The flat groups are all groups, each once, in pre-order and as they were. -/
theorem report_answers :
    r.chunkIds = (entries.map fun e => chunkIdOfLabel e.label).eraseDups ∧
    (∀ id e, Counts entries id e → e.sizes = .ok (r.chunkSize id)) ∧
    (∀ id, (∀ e ∈ entries, chunkIdOfLabel e.label ≠ id) →
      r.chunkSize id = .zero ∧ ∀ text, r.moduleSize id text = .ok .zero) ∧
    (∀ id e text, Counts entries id e → text ≠ "" →
      (∀ g, FirstAt text (Entry.preorderAll e.groups) g →
        r.moduleSize id text = g.sizes ∧
        (g.NonNegative → r.moduleSize id text = .ok g.metrics)) ∧
      ((∀ g ∈ Entry.preorderAll e.groups, ¬ g.LiesAt text) →
        r.moduleSize id text = .ok .zero)) ∧
    ∀ groups, List.Forall₂ Entry.Flattens (Entry.preorderAll groups) (flatten groups) := by
  have hids := chunkIds_eq h
  have hchunks : ∀ id e, Counts entries id e → e.sizes = .ok (r.chunkSize id) := by
    intro id e he
    exact sizes_of_counts h he
  have hunknown : ∀ id, (∀ e ∈ entries, chunkIdOfLabel e.label ≠ id) →
      r.chunkSize id = .zero ∧ ∀ text, r.moduleSize id text = .ok .zero := by
    intro id hid
    exact ⟨chunkSize_of_unknown h hid, moduleSize_of_unknown h hid⟩
  refine ⟨hids, hchunks, hunknown, ?_, forall₂_flatten⟩
  intro id e text he htext
  constructor
  · intro g hg
    have hsizes := moduleSize_of_firstAt h he htext hg
    refine ⟨hsizes, fun hnonneg => ?_⟩
    rw [hsizes, Entry.sizes_of_nonNegative hnonneg]
  · intro hnone
    exact moduleSize_of_absent h he htext hnone

end

/-- A file within a directory of the rebuilt main chunk. -/
def nestedFile : Entry := ⟨"a.js", some "./src/a.js", 2, 1, 1, false, []⟩

/-- The last entry of the main chunk. In it the file stands within a directory, behind a
    concatenation with a negative size and before a file of the same name. -/
def rebuiltMain : Entry := ⟨"main.89abcdef.js", none, 7, 3, 1, false, [
  ⟨"b.js + 1 modules (concatenated)", some "./b.js", -1, 0, 0, false, []⟩,
  ⟨"src", some "./src", 5, 0, 0, false, [nestedFile]⟩,
  ⟨"a.js", some "./a.js", 4, 0, 0, false, []⟩]⟩

/-- Two entries of one chunk around an entry of another. -/
def rebuiltEntries : List Entry := [
  ⟨"static/chunks/main-0123abcd.js", none, 9, 9, 9, false,
    [⟨"a.js", some "./a.js", 9, 9, 9, false, []⟩]⟩,
  ⟨"vendor.js", none, 5, 0, 0, false, []⟩,
  rebuiltMain]

/-- The main chunk keeps its place and has the sizes and the groups of its last entry. -/
theorem report_answers_rebuiltEntries : ∃ r, Report.ofEntries rebuiltEntries = .ok r ∧
    r.chunkIds = ["main", "vendor"] ∧ r.chunkSize "main" = ⟨7, 3, 1⟩ ∧
    r.moduleSize "main" "a.js" = .ok ⟨2, 1, 1⟩ ∧ r.moduleSize "vendor" "a.js" = .ok .zero := by
  have hok : Report.ofEntries rebuiltEntries =
      .ok ⟨.ofListLast (rebuiltEntries.map Report.assetOf)⟩ :=
    Report.ofEntries_eq_ok_iff.2 ⟨by decide, rfl⟩
  obtain ⟨hids, hsizes, -, hgroups, -⟩ := report_answers hok
  have hmain : Counts rebuiltEntries "main" rebuiltMain :=
    ⟨[_, _], [], rfl, by decide +kernel, nofun⟩
  have hvendor : Counts rebuiltEntries "vendor" ⟨"vendor.js", none, 5, 0, 0, false, []⟩ :=
    ⟨[_], [rebuiltMain], rfl, by decide +kernel, by decide +kernel⟩
  have hfirst : FirstAt "a.js" (Entry.preorderAll rebuiltMain.groups) nestedFile :=
    ⟨[_, _], [_], rfl, by decide +kernel, by decide +kernel⟩
  refine ⟨_, hok, ?_, ?_, ?_, ?_⟩
  · rw [hids]
    decide +kernel
  · exact (Except.ok.inj (hsizes "main" rebuiltMain hmain)).symm
  · exact ((hgroups "main" rebuiltMain "a.js" hmain (by decide)).1 nestedFile hfirst).2 (by decide)
  · exact (hgroups "vendor" _ "a.js" hvendor (by decide)).2 (by decide +kernel)

end BundleGraph.Sizes
