import BundleGraph.Proofs.Exports.Unaffected

/-! # What comments hide

    Comments should not matter to what a source exports. They do where something
    is read by its place or as a text:

    - what is spread in an exported object is the first node after the dots, even
      if that is a comment;
    - the arguments of `require`, of `Object.defineProperty` and of the helpers
      of transpilers are looked for in the first places of the argument list;
    - the exports of a module that a method of `Object` writes to are recognised
      by their text, and a comment in `module.exports` is part of that.

    So a comment can hide a name, a module that is handed on or a sign, but never
    make one up: `Collected.Within` relates what a node exports to what it
    exports without its comments, for each kind of node. `Legible` says that no
    comment of a tree stands where it hides something, and then nothing changes
    (`comments_hide`).
-/

namespace BundleGraph.Exports

open Syntax Syntax.Node

/-! ### What may be missing -/

/-- `Within aside c c'`: the first has at most what the second has, in the same order, and all of it
    if `aside` holds. -/
structure Collected.Within (aside : Prop) (c c' : Collected) : Prop where
  /-- No other names. -/
  exports : c.exports.Sublist c'.exports
  /-- No other modules. -/
  reexports : c.reexports.Sublist c'.reexports
  /-- Nothing is missing. -/
  whole : aside → c = c'

theorem Collected.all_cons (c : Collected) (cs : List Collected) :
    Collected.all (c :: cs) =
      ⟨c.exports ++ (Collected.all cs).exports, c.reexports ++ (Collected.all cs).reexports⟩ :=
  rfl

namespace Collected.Within

variable {aside : Prop} {c c' : Collected}

theorem of_eq (h : c = c') : Within aside c c' := by
  subst h
  exact ⟨.refl _, .refl _, fun _ => rfl⟩

theorem of_empty (h : aside → c' = .empty) : Within aside .empty c' :=
  ⟨List.nil_sublist _, List.nil_sublist _, fun ha => (h ha).symm⟩

theorem mono {aside' : Prop} (h : aside → aside') (hw : Within aside' c c') : Within aside c c' :=
  ⟨hw.exports, hw.reexports, fun ha => hw.whole (h ha)⟩

theorem cons {a b : Collected} {as bs : List Collected} (h : Within aside a b)
    (hrest : Within aside (.all as) (.all bs)) :
    Within aside (.all (a :: as)) (.all (b :: bs)) := by
  rw [all_cons, all_cons]
  refine ⟨h.exports.append hrest.exports, h.reexports.append hrest.reexports, fun ha => ?_⟩
  rw [h.whole ha, hrest.whole ha]

/-- What is read of the nodes one by one. -/
theorem all {read : Node → Collected} {xs ys : List Node} (h : Thins xs ys)
    (hcomment : ∀ c : Node, c.isComment = true → read c = .empty)
    (hread : ∀ x ∈ xs, Within aside (read x) (read x.uncommented)) :
    Within aside (.all (xs.map read)) (.all (ys.map read)) := by
  induction h with
  | nil => exact of_eq rfl
  | gone comment _ ih =>
    rw [List.map_cons, all_cons, hcomment _ comment]
    exact ih fun x hx => hread x (List.mem_cons_of_mem _ hx)
  | same _ ih =>
    rw [List.map_cons, List.map_cons]
    exact cons (of_eq rfl) (ih fun x hx => hread x (List.mem_cons_of_mem _ hx))
  | bare _ ih =>
    rw [List.map_cons, List.map_cons]
    exact cons (hread _ List.mem_cons_self) (ih fun x hx => hread x (List.mem_cons_of_mem _ hx))

end Collected.Within

/-! ### Reading by the place -/

/-- The first `k` nodes that are no comments stand in the first `k` places. -/
def InPlace (k : Nat) (places : List Node) : Prop :=
  (places.take k).countP (fun c => !c.isComment) = min k (places.countP fun c => !c.isComment)

instance (k : Nat) (places : List Node) : Decidable (InPlace k places) :=
  inferInstanceAs (Decidable (_ = _))

/-- What is read of the node in the first place. -/
def atFirst (read : Node → Collected) : List Node → Collected
  | [] => .empty
  | a :: _ => read a

/-- What is read of the nodes in the first two places. -/
def atFirstTwo (read : Node → Node → Collected) : List Node → Collected
  | a :: b :: _ => read a b
  | _ => .empty

/-- Of a list of children stay those that are no comments. -/
theorem length_filter_staysIn {parent : Kind} (h : parent ∉ wordKinds) (xs : List Node) :
    (xs.filter (staysIn parent)).length = xs.countP fun c => !c.isComment := by
  have same : staysIn parent = fun c => !c.isComment := by
    funext c
    simp [staysIn, h]
  rw [same, List.countP_eq_length_filter]

theorem atFirst_within {aside : Prop} {read : Node → Collected} {parent : Kind} {xs : List Node}
    (hcomment : ∀ c : Node, c.isComment = true → read c = .empty)
    (hread : ∀ a ∈ xs, Collected.Within aside (read a) (read (uncommentedIn parent a)))
    (hplace : aside → InPlace 1 xs) :
    Collected.Within aside (atFirst read xs)
      (atFirst read ((xs.filter (staysIn parent)).map (uncommentedIn parent))) := by
  cases xs with
  | nil => exact .of_eq rfl
  | cons a rest =>
    by_cases ha : staysIn parent a = true
    · rw [List.filter_cons_of_pos ha, List.map_cons]
      exact hread a List.mem_cons_self
    · -- a comment stands in the first place, so nothing is read there
      obtain ⟨comment, hparent⟩ := isComment_of_not_staysIn ha
      rw [atFirst, hcomment a comment]
      refine .of_empty fun haside => ?_
      have hcount := hplace haside
      have hfirst : ((a :: rest).take 1).countP (fun c => !c.isComment) = 0 := by simp [comment]
      have hempty : (a :: rest).filter (staysIn parent) = [] := by
        rw [← List.length_eq_zero_iff, length_filter_staysIn hparent]
        rw [InPlace] at hcount
        omega
      rw [hempty]
      rfl

theorem atFirstTwo_of_length_le {read : Node → Node → Collected} {xs : List Node}
    (h : xs.length ≤ 1) : atFirstTwo read xs = .empty := by
  match xs, h with
  | [], _ => rfl
  | [_], _ => rfl
  | _ :: _ :: _, h => simp at h

theorem atFirstTwo_within {aside : Prop} {read : Node → Node → Collected} {parent : Kind}
    {xs : List Node}
    (hcomment : ∀ a b : Node, a.isComment = true ∨ b.isComment = true → read a b = .empty)
    (hread : ∀ a b, read (uncommentedIn parent a) (uncommentedIn parent b) = read a b)
    (hplace : aside → InPlace 2 xs) :
    Collected.Within aside (atFirstTwo read xs)
      (atFirstTwo read ((xs.filter (staysIn parent)).map (uncommentedIn parent))) := by
  match xs with
  | [] => exact .of_eq rfl
  | [a] =>
    have hshort : (([a].filter (staysIn parent)).map (uncommentedIn parent)).length ≤ 1 := by
      rw [List.length_map]
      exact List.length_filter_le _ _
    rw [atFirstTwo_of_length_le hshort]
    exact .of_eq rfl
  | a :: b :: rest =>
    by_cases hstay : staysIn parent a = true ∧ staysIn parent b = true
    · rw [List.filter_cons_of_pos hstay.1, List.filter_cons_of_pos hstay.2, List.map_cons,
        List.map_cons]
      exact .of_eq (hread a b).symm
    · -- a comment stands in one of the two places, so nothing is read there
      have comment : (a.isComment = true ∨ b.isComment = true) ∧ parent ∉ wordKinds := by
        rcases not_and_or.1 hstay with ha | hb
        · exact ⟨Or.inl (isComment_of_not_staysIn ha).1, (isComment_of_not_staysIn ha).2⟩
        · exact ⟨Or.inr (isComment_of_not_staysIn hb).1, (isComment_of_not_staysIn hb).2⟩
      rw [atFirstTwo, hcomment a b comment.1]
      refine .of_empty fun haside => atFirstTwo_of_length_le ?_
      have hcount := hplace haside
      have hone : [a, b].countP (fun c => !c.isComment) < [a, b].length := by
        rw [List.countP_eq_length_filter, List.length_filter_lt_length_iff_exists]
        rcases comment.1 with ha | hb
        · exact ⟨a, List.mem_cons_self, by simp [ha]⟩
        · exact ⟨b, List.mem_cons_of_mem a List.mem_cons_self, by simp [hb]⟩
      simp only [List.length_cons, List.length_nil] at hone
      rw [List.length_map, length_filter_staysIn comment.2]
      rw [InPlace, List.take_succ_cons, List.take_succ_cons, List.take_zero] at hcount
      omega

/-! ### Comments that are out of the way -/

/-- The number of places of an argument list in which something is read. -/
def placesRead (n : Node) : Nat :=
  if isObjectCall ["defineProperty"] n then 2
  else if isCallOf "require" n || exportHelpers.any fun h => isCallOf h n then 1
  else 0

/-- The texts of what has properties written that the module exports. -/
def exportsTexts : List String := ["exports", "module.exports"]

/-- No comment in the node is in the way of what is read of it. -/
structure ReadsWhole (n : Node) : Prop where
  /-- What is spread comes before the comments in the spread. -/
  spread : n.kind = .spread → InPlace 1 n.namedChildren
  /-- The arguments that are read by their places come before the comments. -/
  places : InPlace (placesRead n) (argumentPlaces n)
  /-- The exports of the module are written in one piece where they are read as a text. -/
  written : isObjectCall writingMethods n = true → ∀ a ∈ (argumentNodes n).head?,
    a.uncommented.text ∈ exportsTexts → a.text ∈ exportsTexts

instance (n : Node) : Decidable (ReadsWhole n) :=
  decidable_of_iff
    ((n.kind = .spread → InPlace 1 n.namedChildren) ∧
      InPlace (placesRead n) (argumentPlaces n) ∧
      (isObjectCall writingMethods n = true → ∀ a ∈ (argumentNodes n).head?,
        a.uncommented.text ∈ exportsTexts → a.text ∈ exportsTexts))
    ⟨fun h => ⟨h.1, h.2.1, h.2.2⟩, fun h => ⟨h.spread, h.places, h.written⟩⟩

/-- No comment in the tree is in the way. -/
def Legible (tree : Node) : Prop := ∀ n ∈ tree.visit, ReadsWhole n

instance (tree : Node) : Decidable (Legible tree) :=
  inferInstanceAs (Decidable (∀ n ∈ tree.visit, ReadsWhole n))

theorem Legible.here {n : Node} (h : Legible n) : ReadsWhole n := h n n.mem_visit_self

theorem Legible.of_mem_visit {tree n : Node} (h : Legible tree) (hn : n ∈ tree.visit) :
    Legible n := by
  intro x hx
  exact h x (mem_visit_iff.2 ((mem_visit_iff.1 hn).trans (mem_visit_iff.1 hx)))

theorem placesRead_of_isCallOf_require {n : Node} (h : isCallOf "require" n = true) :
    placesRead n = 1 := by
  have hobject : ¬ isObjectCall ["defineProperty"] n = true := by
    intro hcall
    rw [not_isCallOf_of_isObjectCall hcall] at h
    cases h
  rw [placesRead, if_neg hobject, h, Bool.true_or, if_pos rfl]

/-! ### What is read of a node -/

theorem isCallOf_of_comment {c : Node} (h : c.isComment = true) (name : String) :
    isCallOf name c = false := by
  rw [isCallOf, (isComment_spec h).1]
  rfl

/-- The module that is handed on by what is spread. -/
def spreadSource (a : Node) : Collected :=
  if isCallOf "require" a then requiredSource a else .empty

theorem spreadSource_uncommented (a : Node) : spreadSource a.uncommented = spreadSource a := by
  rw [spreadSource, isCallOf_uncommented, requiredSource_uncommented, spreadSource]

theorem memberExports_of_spread {n : Node} (h : n.kind = .spread) :
    memberExports n = atFirst spreadSource n.namedChildren := by
  rw [memberExports, h]
  cases n.namedChildren <;> rfl

/-- A member of an exported object. -/
theorem memberExports_within (n : Node) :
    Collected.Within (Legible n) (memberExports n) (memberExports n.uncommented) := by
  by_cases hspread : n.kind = .spread
  · have hnone : ∀ c : Node, c.isComment = true → spreadSource c = .empty := by
      intro c hc
      rw [spreadSource, isCallOf_of_comment hc]
      rfl
    have hread : ∀ a ∈ n.namedChildren, Collected.Within (Legible n) (spreadSource a)
        (spreadSource (uncommentedIn n.kind a)) :=
      fun a _ => .of_eq (apply_uncommentedIn (spreadSource_uncommented a) n.kind).symm
    rw [memberExports_of_spread hspread,
      memberExports_of_spread (n.kind_uncommented.trans hspread), namedChildren_uncommented]
    exact atFirst_within hnone hread fun h => h.here.spread hspread
  · -- the other members have a name that is a word
    refine .of_eq ?_
    rw [memberExports, memberExports, kind_uncommented, keyName_uncommented, keyName_uncommented]
    by_cases hname : n.kind = .shorthandName
    · rw [uncommented_of_word (by rw [hname]; decide)]
    · split
      · exact absurd ‹_› hname
      · rfl
      · rfl
      · exact absurd ‹_› hspread
      · rfl

theorem objectExports_within (n : Node) :
    Collected.Within (Legible n) (objectExports n) (objectExports n.uncommented) := by
  have hnone : ∀ c : Node, c.isComment = true → memberExports c = .empty := by
    intro c hc
    rw [memberExports, (isComment_spec hc).1]
  refine .all n.namedChildren_thins hnone fun x hx => ?_
  have hvisit : x ∈ n.visit :=
    mem_visit_of_mem_children n.mem_visit_self (mem_children_of_mem_namedChildren hx)
  exact (memberExports_within x).mono fun h => h.of_mem_visit hvisit

/-- The module that a string names. -/
def stringSource (a : Node) : Collected :=
  if a.kind = .string then .source (stringValue a) else .empty

theorem firstString_eq (call : Node) :
    firstString call = atFirst stringSource (argumentPlaces call) := by
  rw [firstString]
  cases argumentPlaces call <;> rfl

theorem stringSource_uncommentedIn (parent : Kind) (a : Node) :
    stringSource (uncommentedIn parent a) = stringSource a :=
  ite_kind_uncommentedIn (p := (· = .string)) (by rintro _ rfl; decide)
    (fun c => Collected.source (stringValue c)) Collected.empty parent a

theorem stringSource_of_comment {c : Node} (h : c.isComment = true) : stringSource c = .empty := by
  rw [stringSource, (isComment_spec h).1]
  rfl

theorem firstString_within {call : Node} (h : isCallOf "require" call = true) :
    Collected.Within (Legible call) (firstString call) (firstString call.uncommented) := by
  obtain ⟨parent, hplaces⟩ := argumentPlaces_uncommented call
  rw [firstString_eq, firstString_eq, hplaces]
  refine atFirst_within (fun c => stringSource_of_comment) (fun a _ => ?_) fun hl => ?_
  · exact .of_eq (stringSource_uncommentedIn parent a).symm
  · have hplace := hl.here.places
    rwa [placesRead_of_isCallOf_require h] at hplace

theorem valueExports_within (n : Node) :
    Collected.Within (Legible n) (valueExports n) (valueExports n.uncommented) := by
  rw [valueExports, valueExports, kind_uncommented, isCallOf_uncommented]
  by_cases hobject : n.kind = .object
  · rw [if_pos hobject, if_pos hobject]
    exact objectExports_within n
  · rw [if_neg hobject, if_neg hobject]
    by_cases hrequire : isCallOf "require" n = true
    · rw [if_pos hrequire, if_pos hrequire]
      exact firstString_within hrequire
    · rw [if_neg hrequire, if_neg hrequire]
      exact .of_eq rfl

/-- What becomes of a node in a tree is read like the node without its comments. -/
theorem Collected.Within.inside {read : Node → Collected} {tree n : Node} (hn : n ∈ tree.visit)
    (h : Within (Legible n) (read n) (read n.uncommented)) (parent : Kind) :
    Within (Legible tree) (read n) (read (uncommentedIn parent n)) := by
  rcases uncommentedIn_cases parent n with hsame | hbare
  · rw [hsame]
    exact .of_eq rfl
  · rw [hbare]
    exact h.mono fun hl => hl.of_mem_visit hn

theorem assignmentExports_within (n : Node) :
    Collected.Within (Legible n) (assignmentExports n) (assignmentExports n.uncommented) := by
  rw [assignmentExports, assignmentExports, child?_uncommented, child?_uncommented]
  cases hleft : n.child? .left with
  | none => exact .of_eq rfl
  | some left =>
    simp only [Option.map_some, apply_uncommentedIn (isExportsMember_uncommented left),
      apply_uncommentedIn (memberName_uncommented left),
      apply_uncommentedIn (isModuleExports_uncommented left)]
    by_cases hmember : isExportsMember left = true
    · simp only [if_pos hmember]
      exact .of_eq rfl
    · simp only [if_neg hmember]
      by_cases hmodule : isModuleExports left = true
      · simp only [if_pos hmodule]
        cases hright : n.child? .right with
        | none => exact .of_eq rfl
        | some value =>
          have hvalue : value ∈ n.visit :=
            mem_visit_of_mem_children n.mem_visit_self (mem_children_of_child? hright)
          exact (valueExports_within value).inside hvalue n.kind
      · simp only [if_neg hmodule]
        exact .of_eq rfl

/-- The member that a call defines. -/
def definedMember (target name : Node) : Collected :=
  if isExports target && name.kind = .string then .name (stringValue name) else .empty

/-- The module that a helper hands on. -/
def helperSource (a : Node) : Collected := if isCallOf "require" a then firstString a else .empty

theorem callExports_eq (n : Node) :
    callExports n =
      if isObjectCall ["defineProperty"] n then atFirstTwo definedMember (argumentPlaces n)
      else if exportHelpers.any fun h => isCallOf h n then atFirst helperSource (argumentPlaces n)
      else .empty := by
  rw [callExports]
  rcases argumentPlaces n with _ | ⟨a, _ | ⟨b, rest⟩⟩ <;> rfl

theorem definedMember_of_comment {a b : Node} (h : a.isComment = true ∨ b.isComment = true) :
    definedMember a b = .empty := by
  rw [definedMember]
  rcases h with ha | hb
  · have hexports : isExports a = false := by
      rw [← Bool.not_eq_true, isExports_iff, isModuleExports_iff, (isComment_spec ha).1]
      simp
    rw [hexports, Bool.false_and]
    rfl
  · rw [(isComment_spec hb).1]
    simp

theorem definedMember_uncommentedIn (parent : Kind) (a b : Node) :
    definedMember (uncommentedIn parent a) (uncommentedIn parent b) = definedMember a b := by
  rw [definedMember, apply_uncommentedIn (isExports_uncommented a), kind_uncommentedIn,
    definedMember]
  by_cases hb : b.kind = .string
  · rw [uncommentedIn_of_word (by rw [hb]; decide)]
  · simp [hb]

theorem helperSource_within (a : Node) :
    Collected.Within (Legible a) (helperSource a) (helperSource a.uncommented) := by
  rw [helperSource, helperSource, isCallOf_uncommented]
  by_cases hrequire : isCallOf "require" a = true
  · rw [if_pos hrequire, if_pos hrequire]
    exact firstString_within hrequire
  · rw [if_neg hrequire, if_neg hrequire]
    exact .of_eq rfl

theorem callExports_within (n : Node) :
    Collected.Within (Legible n) (callExports n) (callExports n.uncommented) := by
  obtain ⟨parent, hplaces⟩ := argumentPlaces_uncommented n
  rw [callExports_eq, callExports_eq, hplaces, isObjectCall_uncommented]
  simp only [isCallOf_uncommented]
  by_cases hdefines : isObjectCall ["defineProperty"] n = true
  · rw [if_pos hdefines, if_pos hdefines]
    refine atFirstTwo_within (fun a b => definedMember_of_comment)
      (definedMember_uncommentedIn parent) fun hl => ?_
    have hplace := hl.here.places
    rwa [placesRead, if_pos hdefines] at hplace
  · rw [if_neg hdefines, if_neg hdefines]
    by_cases hhelper : (exportHelpers.any fun h => isCallOf h n) = true
    · rw [if_pos hhelper, if_pos hhelper]
      have hnone : ∀ c : Node, c.isComment = true → helperSource c = .empty := by
        intro c hc
        rw [helperSource, isCallOf_of_comment hc]
        rfl
      refine atFirst_within hnone (fun a ha => ?_) fun hl => ?_
      · have hvisit : a ∈ n.visit := mem_visit_of_mem_argumentPlaces n.mem_visit_self ha
        exact (helperSource_within a).inside hvisit parent
      · have hplace := hl.here.places
        rwa [placesRead, if_neg hdefines, hhelper, Bool.or_true, if_pos rfl] at hplace
    · rw [if_neg hhelper, if_neg hhelper]
      exact .of_eq rfl

/-- A node exports at most what it exports without its comments. -/
theorem nodeExports_within (n : Node) :
    Collected.Within (Legible n) (nodeExports n) (nodeExports n.uncommented) := by
  rw [nodeExports, nodeExports, kind_uncommented]
  split
  · exact assignmentExports_within n
  · exact callExports_within n
  · exact .of_eq rfl

/-! ### Signs -/

theorem writesExports_iff {n : Node} :
    writesExports n = true ↔ isObjectCall writingMethods n = true ∧
      ∃ a, (argumentNodes n).head? = some a ∧ a.text ∈ exportsTexts := by
  rw [writesExports, Bool.and_eq_true]
  refine and_congr_right fun _ => ?_
  cases argumentNodes n with
  | nil => simp
  | cons a rest => simp [exportsTexts]

/-- A text that is one of the two has no comments in it. -/
theorem uncommented_of_text {a : Node} (h : a.text ∈ exportsTexts) : a.uncommented = a := by
  have plain : ∀ text ∈ exportsTexts, '/' ∉ text.toList ∧ '#' ∉ text.toList := by decide
  exact uncommented_eq_self (plain a.text h).1 (plain a.text h).2

theorem writesExports_uncommented {n : Node} (h : writesExports n = true) :
    writesExports n.uncommented = true := by
  obtain ⟨hcall, a, ha, htext⟩ := writesExports_iff.1 h
  obtain ⟨parent, hnodes⟩ := argumentNodes_uncommented n
  refine writesExports_iff.2 ⟨by rw [isObjectCall_uncommented, hcall], a, ?_, htext⟩
  have hsame : uncommentedIn parent a = a :=
    apply_uncommentedIn (f := id) (uncommented_of_text htext) parent
  rw [hnodes, List.head?_map, ha, Option.map_some, hsame]

theorem writesExports_of_uncommented {n : Node} (hn : ReadsWhole n)
    (h : writesExports n.uncommented = true) : writesExports n = true := by
  obtain ⟨hcall, a', ha', htext⟩ := writesExports_iff.1 h
  rw [isObjectCall_uncommented] at hcall
  obtain ⟨parent, hnodes⟩ := argumentNodes_uncommented n
  rw [hnodes, List.head?_map] at ha'
  obtain ⟨a, ha, rfl⟩ := Option.map_eq_some_iff.1 ha'
  refine writesExports_iff.2 ⟨hcall, a, ha, ?_⟩
  rcases uncommentedIn_cases parent a with hsame | hbare
  · rwa [hsame] at htext
  · rw [hbare] at htext
    exact hn.written hcall a ha htext

theorem isSign_iff {n : Node} :
    isSign n = true ↔
      isCallOf "require" n = true ∨ assignsExports n = true ∨ writesExports n = true := by
  rw [isSign, Bool.or_eq_true, Bool.or_eq_true, or_assoc]

/-- A comment makes no sign. -/
theorem isSign_uncommented {n : Node} (h : isSign n = true) : isSign n.uncommented = true := by
  rw [isSign_iff] at h ⊢
  rw [isCallOf_uncommented, assignsExports_uncommented]
  exact h.imp_right (Or.imp_right writesExports_uncommented)

theorem isSign_of_uncommented {n : Node} (hn : ReadsWhole n) (h : isSign n.uncommented = true) :
    isSign n = true := by
  rw [isSign_iff] at h ⊢
  rw [isCallOf_uncommented, assignsExports_uncommented] at h
  exact h.imp_right (Or.imp_right (writesExports_of_uncommented hn))

theorem isSign_of_comment {c : Node} (h : c.isComment = true) : ¬ isSign c = true := by
  rw [isSign_iff, isCallOf_of_comment h, writesExports_iff, isObjectCall_iff, assignsExports,
    (isComment_spec h).1]
  simp

theorem isCommonJs_uncommented {tree : Node} (h : isCommonJs tree = true) :
    isCommonJs tree.uncommented = true := by
  obtain ⟨n, hn, hsign⟩ := isCommonJs_iff.1 h
  rcases tree.visit_thins.mem_left hn with hcomment | hsame | hbare
  · exact absurd hsign (isSign_of_comment hcomment)
  · exact isCommonJs_iff.2 ⟨n, hsame, hsign⟩
  · exact isCommonJs_iff.2 ⟨n.uncommented, hbare, isSign_uncommented hsign⟩

theorem isCommonJs_of_uncommented {tree : Node} (hl : Legible tree)
    (h : isCommonJs tree.uncommented = true) : isCommonJs tree = true := by
  obtain ⟨n, hn, hsign⟩ := isCommonJs_iff.1 h
  rcases tree.visit_thins.mem_right hn with hsame | ⟨x, hx, rfl⟩
  · exact isCommonJs_iff.2 ⟨n, hsame, hsign⟩
  · exact isCommonJs_iff.2 ⟨x, hx, isSign_of_uncommented (hl x hx) hsign⟩

/-! ### Whole trees -/

theorem all_nodeExports_within (tree : Node) :
    Collected.Within (Legible tree) (.all (tree.visit.map nodeExports))
      (.all (tree.uncommented.visit.map nodeExports)) := by
  refine .all tree.visit_thins ?_ fun n hn => ?_
  · intro c hc
    rw [nodeExports, (isComment_spec hc).1]
  · exact (nodeExports_within n).mono fun hl => hl.of_mem_visit hn

theorem collected_uncommented {tree : Node} (hl : Legible tree) :
    collected tree.uncommented = collected tree := by
  rw [collected, collected, (all_nodeExports_within tree).whole hl]

theorem isCommonJs_eq_uncommented {tree : Node} (hl : Legible tree) :
    isCommonJs tree.uncommented = isCommonJs tree := by
  rw [Bool.eq_iff_iff]
  exact ⟨isCommonJs_of_uncommented hl, isCommonJs_uncommented⟩

/-- **Comments hide, and add nothing.** The names of export statements do not depend on comments.
    What a tree exports as a CommonJS module it also exports without its comments, and so for the
    modules that it hands on and for the question whether it is such a module at all. All of this is
    the same with and without comments if no comment is in the way of what is read by its place or
    by its text. So trees that differ by comments only agree on the first, and on the rest if no
    comment is in the way in either. -/
theorem comments_hide (tree : Node) :
    moduleNames tree.uncommented = moduleNames tree ∧
    (collected tree).exports ⊆ (collected tree.uncommented).exports ∧
    (collected tree).reexports ⊆ (collected tree.uncommented).reexports ∧
    (isCommonJs tree = true → isCommonJs tree.uncommented = true) ∧
    (Legible tree → collected tree.uncommented = collected tree ∧
      isCommonJs tree.uncommented = isCommonJs tree) ∧
    ∀ other : Node, other.uncommented = tree.uncommented →
      moduleNames other = moduleNames tree ∧
      (Legible tree → Legible other →
        collected other = collected tree ∧ isCommonJs other = isCommonJs tree) := by
  have hwithin := all_nodeExports_within tree
  refine ⟨moduleNames_uncommented tree, ?_, ?_, isCommonJs_uncommented, ?_, ?_⟩
  · intro s hs
    rw [collected, Collected.mem_exports_distinct] at hs ⊢
    exact ⟨hwithin.exports.subset hs.1, hs.2⟩
  · intro s hs
    rw [collected, Collected.mem_reexports_distinct] at hs ⊢
    exact ⟨hwithin.reexports.subset hs.1, hs.2⟩
  · intro hl
    exact ⟨collected_uncommented hl, isCommonJs_eq_uncommented hl⟩
  · intro other hsame
    refine ⟨?_, fun hl hl' => ⟨?_, ?_⟩⟩
    · rw [← moduleNames_uncommented, hsame, moduleNames_uncommented]
    · rw [← collected_uncommented hl', hsame, collected_uncommented hl]
    · rw [← isCommonJs_eq_uncommented hl', hsame, isCommonJs_eq_uncommented hl]

/-- A comment before what is spread hides the module that is handed on; one after it does not. -/
example :
    let before := treeOf .javascript "module.exports = \x7b.../**/require('m')\x7d"
    let after := treeOf .javascript "module.exports = \x7b...require('m'/**/)/**/\x7d"
    (collected before).reexports = [] ∧ (collected before.uncommented).reexports = ["m"] ∧
      ¬ Legible before ∧ Legible after ∧ (collected after).reexports = ["m"] := by
  decide +kernel

end BundleGraph.Exports
