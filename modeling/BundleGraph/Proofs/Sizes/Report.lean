import BundleGraph.Proofs.Computations
import BundleGraph.Proofs.OrderedMap
import BundleGraph.Sizes.Report

/-! # Reports that are accepted

    A report is accepted exactly if its entries can be read and have no negative
    size (`ofJson_eq_ok_iff`). The groups within an entry are read with it, but
    their sizes are looked at only when a lookup finds them. So a report that is
    accepted answers every question about a chunk, and a question about a module
    fails exactly if the first group that it finds has a negative size
    (`lookups_of_accepted`).

    Which groups are ever found first does not depend on the questions: a group
    is, unless an earlier one has a path that contains its own.
-/

namespace BundleGraph.Sizes

open Document

/-! ### Sizes of an entry -/

namespace Entry

variable {e : Entry}

/-- None of the sizes is below zero. -/
def NonNegative (e : Entry) : Prop := 0 ≤ e.stat ∧ 0 ≤ e.parsed ∧ 0 ≤ e.gzip

instance : DecidablePred NonNegative := fun e =>
  inferInstanceAs (Decidable (0 ≤ e.stat ∧ 0 ≤ e.parsed ∧ 0 ≤ e.gzip))

/-- The sizes of an entry that has none below zero. -/
def metrics (e : Entry) : SizeMetrics := ⟨e.stat.toNat, e.parsed.toNat, e.gzip.toNat⟩

/-- The issues with the sizes of an entry: one for each that is below zero. -/
def sizeIssues (e : Entry) : List Issue :=
  ([("stat_size", e.stat), ("parsed_size", e.parsed), ("gzip_size", e.gzip)].filter
    fun p => p.2 < 0).map fun p => ⟨[.name p.1], .negative⟩

theorem sizeIssues_eq_nil_iff : e.sizeIssues = [] ↔ e.NonNegative := by
  rw [sizeIssues, List.map_eq_nil_iff, List.filter_eq_nil_iff]
  simp [NonNegative]

/-- The sizes of an entry, or all issues with them. -/
theorem sizes_eq (e : Entry) :
    e.sizes = if e.NonNegative then .ok e.metrics else .error ⟨"SizeMetrics", e.sizeIssues⟩ := by
  have hissues : e.sizeIssues =
      (if e.stat < 0 then [⟨[.name "stat_size"], .negative⟩] else []) ++
      (if e.parsed < 0 then [⟨[.name "parsed_size"], .negative⟩] else []) ++
      (if e.gzip < 0 then [⟨[.name "gzip_size"], .negative⟩] else []) := by
    by_cases hs : e.stat < 0 <;> by_cases hp : e.parsed < 0 <;> by_cases hg : e.gzip < 0 <;>
      simp [sizeIssues, hs, hp, hg]
  rw [sizes, ← hissues]
  split
  · rename_i h
    rw [if_pos (sizeIssues_eq_nil_iff.1 h)]
    rfl
  · rename_i h
    rw [if_neg (mt sizeIssues_eq_nil_iff.2 h)]

theorem sizes_of_nonNegative (h : e.NonNegative) : e.sizes = .ok e.metrics := by
  rw [sizes_eq, if_pos h]

theorem sizes_of_negative (h : ¬ e.NonNegative) :
    e.sizes = .error ⟨"SizeMetrics", e.sizeIssues⟩ := by
  rw [sizes_eq, if_neg h]

end Entry

/-! ### Reading a report -/

/-- `Reads j entries`: the value is a list of what can be read as the entries. -/
def Reads (j : Json) (entries : List Entry) : Prop :=
  ∃ items, j = .arr items ∧
    List.Forall₂ (fun item e => (Entry.check item).toExcept "SizeEntry" = .ok e) items entries

namespace Report

/-- What a report says about the file of an entry. -/
def assetOf (e : Entry) : String × Asset := (chunkIdOfLabel e.label, ⟨e.metrics, flatten e.groups⟩)

theorem addEntry_of_nonNegative (r : Report) {e : Entry} (h : e.NonNegative) :
    r.addEntry e = .ok ⟨r.assets.insert (assetOf e).1 (assetOf e).2⟩ := by
  rw [addEntry, Entry.sizes_of_nonNegative h]
  rfl

theorem addEntry_of_negative (r : Report) {e : Entry} (h : ¬ e.NonNegative) :
    r.addEntry e = .error ⟨"SizeMetrics", e.sizeIssues⟩ := by
  rw [addEntry, Entry.sizes_of_negative h]
  rfl

/-- Entries make a report exactly if none of them has a negative size; the last entry of a chunk
    counts. -/
theorem ofEntries_eq_ok_iff {entries : List Entry} {r : Report} :
    ofEntries entries = .ok r ↔
      (∀ e ∈ entries, e.NonNegative) ∧ r.assets = .ofListLast (entries.map assetOf) := by
  -- each entry is added to what the entries before it have left
  have run : ∀ r₀ : Report, entries.foldlM addEntry r₀ = .ok r ↔
      (∀ e ∈ entries, e.NonNegative) ∧ r.assets = r₀.assets.insertAll (entries.map assetOf) := by
    induction entries with
    | nil =>
      intro r₀
      simp only [List.foldlM_nil, List.map_nil, OrderedMap.insertAll, List.foldl_nil]
      constructor
      · intro h
        exact ⟨List.forall_mem_nil _, by rw [Except.ok.inj h]⟩
      · intro h
        exact congrArg Except.ok (congrArg Report.mk h.2.symm)
    | cons e entries ih =>
      intro r₀
      rw [List.foldlM_cons, List.forall_mem_cons]
      by_cases he : e.NonNegative
      · rw [addEntry_of_nonNegative r₀ he, ok_bind, ih, List.map_cons, OrderedMap.insertAll_cons]
        simp only [he, true_and]
      · rw [addEntry_of_negative r₀ he, error_bind]
        simp only [he, false_and, iff_false]
        intro h
        cases h
  exact run empty

/-- A report is accepted exactly if its entries can be read and have no negative size. What stands
    in the groups within them does not matter. -/
theorem ofJson_eq_ok_iff {j : Json} {r : Report} :
    ofJson j = .ok r ↔ ∃ entries, Reads j entries ∧ (∀ e ∈ entries, e.NonNegative) ∧
      r.assets = .ofListLast (entries.map assetOf) := by
  cases j with
  | arr items =>
    rw [ofJson, bind_eq_ok_iff]
    simp only [mapError_eq_ok_iff, mapM_eq_ok_iff, ofEntries_eq_ok_iff, Reads, Json.arr.injEq,
      exists_eq_left']
  | _ => simp [ofJson, Reads]

end Report

/-! ### Looking up -/

/-- The entry that counts for a chunk: the last one whose label belongs to it. -/
def entryOf? (entries : List Entry) (id : String) : Option Entry :=
  entries.reverse.find? fun e => chunkIdOfLabel e.label = id

/-- The group that a text finds in a chunk: the first one, at any depth in the entry that counts,
    whose path contains the text. The empty text finds nothing. -/
def groupAt? (entries : List Entry) (id needle : String) : Option Entry :=
  if needle = "" then none
  else (entryOf? entries id).bind fun e => (Entry.parts.walk e.groups).find? (Report.isAt needle)

section

variable {entries : List Entry} {r : Report}
  (hassets : r.assets = .ofListLast (entries.map Report.assetOf))
include hassets

theorem lookup?_assets (id : String) :
    r.assets.lookup? id = (entryOf? entries id).map fun e => ⟨e.metrics, flatten e.groups⟩ := by
  rw [hassets, OrderedMap.lookup?_ofListLast, ← List.map_reverse]
  exact OrderedMap.find_map_eq (fun e : Entry => chunkIdOfLabel e.label) _ id entries.reverse

theorem chunkSize_eq (id : String) :
    r.chunkSize id = ((entryOf? entries id).map Entry.metrics).getD .zero := by
  rw [Report.chunkSize, lookup?_assets hassets]
  cases entryOf? entries id <;> rfl

/-- A question about a module is answered with the sizes of the group that it finds. -/
theorem moduleSize_eq (id needle : String) :
    r.moduleSize id needle =
      match groupAt? entries id needle with
      | some g => g.sizes
      | none => .ok .zero := by
  rw [Report.moduleSize, groupAt?]
  by_cases hneedle : needle = ""
  · rw [if_pos hneedle, if_pos hneedle]
  · rw [if_neg hneedle, if_neg hneedle, lookup?_assets hassets]
    cases entryOf? entries id with
    | none => rfl
    | some e =>
      -- flat groups have the paths and the sizes that they have within the entry
      have hflat : (flatten e.groups).find? (Report.isAt needle) =
          ((Entry.parts.walk e.groups).find? (Report.isAt needle)).map Entry.alone := by
        rw [flatten, List.find?_map]
        rfl
      show (match (flatten e.groups).find? (Report.isAt needle) with
        | some g => g.sizes
        | none => .ok .zero) = _
      rw [hflat, Option.bind_some]
      cases (Entry.parts.walk e.groups).find? (Report.isAt needle) <;> rfl

/-- A question about a module fails exactly if the group that it finds has a negative size. -/
theorem moduleSize_fails_iff (id needle : String) :
    (∃ e, r.moduleSize id needle = .error e) ↔
      ∃ g, groupAt? entries id needle = some g ∧ ¬ g.NonNegative := by
  rw [moduleSize_eq hassets]
  cases groupAt? entries id needle with
  | none => simp
  | some g =>
    by_cases hg : g.NonNegative
    · simp [Entry.sizes_of_nonNegative hg, hg]
    · simp [Entry.sizes_of_negative hg, hg]

end

/-! ### Groups that are found first -/

theorem isAt_iff {needle : String} {g : Entry} :
    Report.isAt needle g = true ↔
      ∃ p, g.path = some p ∧ p ≠ "" ∧ Text.occursIn needle p = true := by
  rw [Report.isAt]
  cases g.path <;> simp

/-- `Leads before g`: the group has a path, and no group before it has a path that contains it. -/
def Leads (before : List Entry) (g : Entry) : Prop :=
  ∃ p, g.path = some p ∧ p ≠ "" ∧ ∀ earlier ∈ before, Report.isAt p earlier = false

/-- Some text finds a group first exactly if the group leads those before it: then its own path
    does. -/
theorem exists_find?_isAt_iff {groups : List Entry} {g : Entry} :
    (∃ needle, needle ≠ "" ∧ groups.find? (Report.isAt needle) = some g) ↔
      ∃ before after, groups = before ++ g :: after ∧ Leads before g := by
  simp only [List.find?_eq_some_iff_append]
  constructor
  · intro h
    obtain ⟨needle, _, hat, before, after, hgroups, hbefore⟩ := h
    obtain ⟨p, hp, hne, hin⟩ := isAt_iff.1 hat
    refine ⟨before, after, hgroups, p, hp, hne, fun earlier hearlier => ?_⟩
    -- a path that contains the path of the group contains the text as well
    by_contra hcontains
    rw [Bool.not_eq_false] at hcontains
    obtain ⟨q, hq, hqne, hpq⟩ := isAt_iff.1 hcontains
    have hneedle : Text.occursIn needle q = true := by
      rw [Text.occursIn_iff] at hin hpq ⊢
      exact hin.trans hpq
    have hmiss := hbefore earlier hearlier
    rw [isAt_iff.2 ⟨q, hq, hqne, hneedle⟩] at hmiss
    cases hmiss
  · intro h
    obtain ⟨before, after, hgroups, p, hp, hne, hbefore⟩ := h
    have hself : Text.occursIn p p = true := (Text.occursIn_iff p p).2 (List.infix_refl _)
    refine ⟨p, hne, isAt_iff.2 ⟨p, hp, hne, hself⟩, before, after, hgroups, ?_⟩
    intro earlier hearlier
    rw [hbefore earlier hearlier]
    rfl

/-- All questions are answered exactly if no group with a negative size leads those before it in
    the entry of its chunk. -/
theorem all_moduleSize_iff {entries : List Entry} {r : Report}
    (hassets : r.assets = .ofListLast (entries.map Report.assetOf)) :
    (∀ id needle, ∃ m, r.moduleSize id needle = .ok m) ↔
      ∀ id e, entryOf? entries id = some e → ∀ before g after,
        Entry.parts.walk e.groups = before ++ g :: after → Leads before g → g.NonNegative := by
  have hanswered : ∀ id needle, (∃ m, r.moduleSize id needle = .ok m) ↔
      ∀ g, groupAt? entries id needle = some g → g.NonNegative := by
    intro id needle
    have hfails := moduleSize_fails_iff hassets id needle
    cases hsize : r.moduleSize id needle with
    | ok m =>
      rw [hsize] at hfails
      refine iff_of_true ⟨m, rfl⟩ fun g hg => ?_
      by_contra hneg
      obtain ⟨e, he⟩ := hfails.2 ⟨g, hg, hneg⟩
      cases he
    | error e =>
      rw [hsize] at hfails
      obtain ⟨g, hg, hneg⟩ := hfails.1 ⟨e, rfl⟩
      exact iff_of_false nofun fun h => hneg (h g hg)
  simp only [hanswered]
  constructor
  · intro h id e he before g after hgroups hleads
    obtain ⟨needle, hneedle, hfind⟩ := exists_find?_isAt_iff.2 ⟨before, after, hgroups, hleads⟩
    refine h id needle g ?_
    rw [groupAt?, if_neg hneedle, he]
    exact hfind
  · intro h id needle g hg
    rw [groupAt?] at hg
    split at hg
    · cases hg
    · rename_i hneedle
      obtain ⟨e, he, hfind⟩ := Option.bind_eq_some_iff.1 hg
      obtain ⟨before, after, hgroups, hleads⟩ := exists_find?_isAt_iff.1 ⟨needle, hneedle, hfind⟩
      exact h id e he before g after hgroups hleads

/-- **Refused or answering.** A value is refused as a report, or it is accepted, and then its
    entries can be read and have no negative size. An accepted report knows the sizes of every
    chunk: those of its last entry, or zero. To a question about a module it answers with the first
    group, at any depth in that entry, whose path contains the text, or with zero; and it fails
    exactly if that group has a negative size, since groups are accepted with any sizes. So all
    questions are answered exactly if no group with a negative size has a path that no path before
    it in its entry contains. -/
theorem report_refused_or_answers (j : Json) :
    ((∃ p, Report.ofJson j = .error p) ∧
      ¬ ∃ entries, Reads j entries ∧ ∀ e ∈ entries, e.NonNegative) ∨
    ∃ r entries, Report.ofJson j = .ok r ∧ Reads j entries ∧ (∀ e ∈ entries, e.NonNegative) ∧
      (∀ id, r.chunkSize id = ((entryOf? entries id).map Entry.metrics).getD .zero) ∧
      (∀ id needle, r.moduleSize id needle =
        match groupAt? entries id needle with
        | some g => if g.NonNegative then .ok g.metrics else .error ⟨"SizeMetrics", g.sizeIssues⟩
        | none => .ok .zero) ∧
      ((∀ id needle, ∃ m, r.moduleSize id needle = .ok m) ↔
        ∀ id e, entryOf? entries id = some e → ∀ before g after,
          Entry.parts.walk e.groups = before ++ g :: after → Leads before g → g.NonNegative) := by
  cases hread : Report.ofJson j with
  | error p =>
    left
    refine ⟨⟨p, rfl⟩, fun h => ?_⟩
    obtain ⟨entries, hentries, hnonneg⟩ := h
    have hok := Report.ofJson_eq_ok_iff.2
      ⟨entries, hentries, hnonneg, (rfl : (Report.mk _).assets = _)⟩
    rw [hread] at hok
    cases hok
  | ok r =>
    right
    obtain ⟨entries, hentries, hnonneg, hassets⟩ := Report.ofJson_eq_ok_iff.1 hread
    refine ⟨r, entries, rfl, hentries, hnonneg, chunkSize_eq hassets, fun id needle => ?_,
      all_moduleSize_iff hassets⟩
    rw [moduleSize_eq hassets]
    cases groupAt? entries id needle with
    | none => rfl
    | some g => exact g.sizes_eq

/-- An entry that is accepted although a group in a group of it has a negative size: the group is
    found behind its own file name, but not where the path of the outer group contains the text. -/
example :
    (Report.ofJson (.arr [.obj [("label", .str "main.js"), ("groups", .arr [.obj [
      ("path", .str "./src"), ("groups", .arr [.obj [
        ("path", .str "./src/a.js"), ("statSize", .int (-1))]])]])]])).toOption.map
      (fun r => (r.chunkSize "main", r.moduleSize "main" "src", r.moduleSize "main" "a.js")) =
    some (.zero, .ok .zero, .error ⟨"SizeMetrics", [⟨[.name "stat_size"], .negative⟩]⟩) := by
  decide +kernel

end BundleGraph.Sizes
