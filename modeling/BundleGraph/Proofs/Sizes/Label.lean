import BundleGraph.Proofs.Text.Search
import BundleGraph.Sizes.Label

/-! # Names that are recovered from labels

    A label is a name behind a place in the output tree, with a content hash and
    extensions or with an extension only. Taking the place away leaves the name
    as it is, since what follows a name has no slash and so completes neither
    directory (`assetName_place_append`).

    The first content hash ends the name. Within a name there may be much that
    looks like one: digits behind a mark are no hash if there are fewer than
    eight of them, and more of them are none if another character than a point
    follows. What must not stand in a name is therefore looked for in the name
    together with the mark behind it (`beforeHash?_append`).
-/

namespace BundleGraph.Sizes

open Text

/-! ### Content hashes -/

/-- `IsMark c`: the character introduces content hashes. -/
def IsMark (c : Char) : Prop := c = '.' ∨ c = '-'

/-- `IsHash digits`: at least eight hexadecimal digits, of either case. -/
structure IsHash (digits : List Char) : Prop where
  /-- There are at least eight characters. -/
  long : 8 ≤ digits.length
  /-- All of them are hexadecimal digits. -/
  hex : ∀ d ∈ digits, isHexDigit d = true

/-- `EndsHash rest`: a content hash can stand before the text: at the end, where a line feed does
    not count, or before a point. -/
def EndsHash (rest : List Char) : Prop :=
  rest = [] ∨ rest = ['\n'] ∨ ∃ more, rest = '.' :: more

/-- `HoldsHash cs`: somewhere in the text a content hash stands behind a mark. -/
def HoldsHash (cs : List Char) : Prop :=
  ∃ before mark digits rest, cs = before ++ mark :: (digits ++ rest) ∧
    IsMark mark ∧ IsHash digits ∧ EndsHash rest

/-- A hash that ends before a point is held by every text in which it stands with its mark. -/
theorem HoldsHash.of_point {cs : List Char} {mark : Char} {digits : List Char} (hmark : IsMark mark)
    (hdigits : IsHash digits) (h : (mark :: digits) ++ ['.'] <:+: cs) : HoldsHash cs := by
  obtain ⟨before, more, rfl⟩ := h
  refine ⟨before, mark, digits, '.' :: more, ?_, hmark, hdigits, Or.inr (Or.inr ⟨more, rfl⟩)⟩
  rw [List.append_assoc, List.append_assoc, List.cons_append]
  rfl

theorem IsMark.not_isHexDigit {c : Char} (h : IsMark c) : isHexDigit c = false := by
  rcases h with rfl | rfl <;> decide

/-- No digit stands where a hash ends. -/
theorem EndsHash.takeWhile_eq_nil {rest : List Char} (h : EndsHash rest) :
    rest.takeWhile isHexDigit = [] := by
  rcases h with rfl | rfl | ⟨more, rfl⟩
  · rfl
  · decide
  · rw [List.takeWhile_cons, IsMark.not_isHexDigit (Or.inl rfl)]
    rfl

theorem EndsHash.dropWhile_eq_self {rest : List Char} (h : EndsHash rest) :
    rest.dropWhile isHexDigit = rest := by
  have hsplit := List.takeWhile_append_dropWhile (p := isHexDigit) (l := rest)
  rwa [h.takeWhile_eq_nil, List.nil_append] at hsplit

/-- A text begins with a hash exactly if it can be cut behind one. The cut is where the digits end,
    so taking fewer of them finds nothing more. -/
theorem startsWithHash_iff {cs : List Char} :
    startsWithHash cs = true ↔
      ∃ digits rest, cs = digits ++ rest ∧ IsHash digits ∧ EndsHash rest := by
  rw [startsWithHash, Bool.and_eq_true, decide_eq_true_eq]
  constructor
  · intro h
    obtain ⟨hlong, hends⟩ := h
    refine ⟨cs.takeWhile isHexDigit, cs.dropWhile isHexDigit,
      List.takeWhile_append_dropWhile.symm, ⟨hlong, List.all_eq_true.1 List.all_takeWhile⟩, ?_⟩
    split at hends
    · rename_i hrest
      exact Or.inl hrest
    · rename_i hrest
      exact Or.inr (Or.inr ⟨_, hrest⟩)
    · rename_i hrest
      exact Or.inr (Or.inl hrest)
    · cases hends
  · intro h
    obtain ⟨digits, rest, rfl, hdigits, hends⟩ := h
    rw [List.takeWhile_append_of_pos hdigits.hex, List.dropWhile_append_of_pos hdigits.hex,
      hends.takeWhile_eq_nil, hends.dropWhile_eq_self, List.append_nil]
    refine ⟨hdigits.long, ?_⟩
    rcases hends with rfl | rfl | ⟨more, rfl⟩ <;> rfl

/-! ### The first content hash -/

theorem isMark_iff {c : Char} : (c = '.' || c = '-') = true ↔ IsMark c := by
  simp [IsMark]

/-- A text is cut before the first mark that introduces a hash. -/
theorem beforeHash?_append_cons {name : List Char} {mark : Char} {rest : List Char}
    (hmark : IsMark mark) (hhash : startsWithHash rest = true)
    (hfirst : ∀ before c after, name = before ++ c :: after → IsMark c →
      startsWithHash (after ++ mark :: rest) = false) :
    beforeHash? (name ++ mark :: rest) = some name := by
  induction name with
  | nil =>
    have hhere : ((mark = '.' || mark = '-') && startsWithHash rest) = true :=
      Bool.and_eq_true_iff.2 ⟨isMark_iff.2 hmark, hhash⟩
    rw [List.nil_append, beforeHash?, if_pos hhere]
  | cons c name ih =>
    have hhere : ¬ ((c = '.' || c = '-') && startsWithHash (name ++ mark :: rest)) = true := by
      intro h
      obtain ⟨hc, hstarts⟩ := Bool.and_eq_true_iff.1 h
      rw [hfirst [] c name rfl (isMark_iff.1 hc)] at hstarts
      cases hstarts
    have hrest : beforeHash? (name ++ mark :: rest) = some name := by
      apply ih
      intro before d after hname hd
      exact hfirst (c :: before) d after (by rw [hname, List.cons_append]) hd
    rw [List.cons_append, beforeHash?, if_neg hhere, hrest]
    rfl

/-- A text is not cut exactly if it does not hold a hash. -/
theorem beforeHash?_eq_none_iff {cs : List Char} : beforeHash? cs = none ↔ ¬ HoldsHash cs := by
  induction cs with
  | nil =>
    have hnone : ¬ HoldsHash [] := by
      intro h
      obtain ⟨before, mark, digits, rest, hsplit, -⟩ := h
      simp at hsplit
    simp [beforeHash?, hnone]
  | cons c cs ih =>
    have hcons : HoldsHash (c :: cs) ↔
        ((c = '.' || c = '-') && startsWithHash cs) = true ∨ HoldsHash cs := by
      rw [Bool.and_eq_true, isMark_iff, startsWithHash_iff]
      constructor
      · intro h
        obtain ⟨before, mark, digits, rest, hsplit, hmark, hdigits, hends⟩ := h
        cases before with
        | nil =>
          obtain ⟨rfl, rfl⟩ := List.cons.inj hsplit
          exact Or.inl ⟨hmark, digits, rest, rfl, hdigits, hends⟩
        | cons d before =>
          exact Or.inr ⟨before, mark, digits, rest, (List.cons.inj hsplit).2, hmark, hdigits, hends⟩
      · intro h
        rcases h with ⟨hmark, digits, rest, rfl, hdigits, hends⟩ |
          ⟨before, mark, digits, rest, rfl, hmark, hdigits, hends⟩
        · exact ⟨[], c, digits, rest, rfl, hmark, hdigits, hends⟩
        · exact ⟨c :: before, mark, digits, rest, rfl, hmark, hdigits, hends⟩
    rw [beforeHash?, hcons]
    split
    · rename_i hhere
      simp [hhere]
    · rename_i hhere
      rw [Option.map_eq_none_iff, ih]
      simp [hhere]

/-- A hash that begins before a mark ends before a point, at the mark or earlier. -/
theorem exists_point_of_startsWithHash {front : List Char} {mark : Char} {rest : List Char}
    (hmark : IsMark mark) (h : startsWithHash (front ++ mark :: rest) = true) :
    ∃ digits more, IsHash digits ∧ front ++ [mark] = digits ++ '.' :: more := by
  obtain ⟨digits, tail, hsplit, hdigits, htail⟩ := startsWithHash_iff.1 h
  have hnot : mark ∉ digits := by
    intro hmem
    have hhex := hdigits.hex mark hmem
    rw [hmark.not_isHexDigit] at hhex
    cases hhex
  -- the mark is neither a digit nor a line feed, so there is more than digits and a line feed
  have hmem : mark ∈ tail := by
    have hall : mark ∈ digits ++ tail := by
      rw [← hsplit]
      simp
    exact (List.mem_append.1 hall).resolve_left hnot
  have hpoint : ∃ more, tail = '.' :: more := by
    rcases htail with rfl | rfl | hpoint
    · cases hmem
    · rcases hmark with rfl | rfl <;> simp at hmem
    · exact hpoint
  obtain ⟨more, rfl⟩ := hpoint
  rcases List.append_eq_append_iff.1 hsplit with ⟨mid, hmid, hrest⟩ | ⟨mid, hfront, hrest⟩
  · cases mid with
    | nil =>
      obtain ⟨rfl, -⟩ := List.cons.inj hrest
      exact ⟨digits, [], hdigits, by rw [hmid, List.append_nil]⟩
    | cons d mid =>
      obtain ⟨rfl, -⟩ := List.cons.inj hrest
      exact absurd (hmid ▸ by simp) hnot
  · cases mid with
    | nil =>
      obtain ⟨rfl, -⟩ := List.cons.inj hrest
      exact ⟨digits, [], hdigits, by rw [hfront, List.append_nil]⟩
    | cons d mid =>
      obtain ⟨rfl, -⟩ := List.cons.inj hrest
      exact ⟨digits, mid ++ [mark], hdigits, by rw [hfront, List.append_assoc, List.cons_append]⟩

/-- A name is cut off before a hash if neither it nor the mark behind it completes one. -/
theorem beforeHash?_append {name : List Char} {mark : Char} {hash rest : List Char}
    (hmark : IsMark mark) (hhash : IsHash hash) (hends : EndsHash rest)
    (hfree : ∀ c digits, IsMark c → IsHash digits →
      ¬ (c :: digits) ++ ['.'] <:+: name ++ [mark]) :
    beforeHash? (name ++ mark :: (hash ++ rest)) = some name := by
  apply beforeHash?_append_cons hmark (startsWithHash_iff.2 ⟨hash, rest, rfl, hhash, hends⟩)
  intro before c after hname hc
  rw [← Bool.not_eq_true]
  intro hstarts
  obtain ⟨digits, more, hdigits, hmore⟩ := exists_point_of_startsWithHash hmark hstarts
  have hearly : (c :: digits) ++ ['.'] <:+: name ++ [mark] := by
    refine ⟨before, more, ?_⟩
    calc before ++ ((c :: digits) ++ ['.']) ++ more
      _ = before ++ c :: (digits ++ '.' :: more) := by simp
      _ = before ++ c :: (after ++ [mark]) := by rw [hmore]
      _ = name ++ [mark] := by rw [hname, List.append_assoc, List.cons_append]
  exact hfree c digits hc hdigits hearly

/-! ### Extensions -/

theorem beforeLastPoint?_append {name ext : List Char} (h : '.' ∉ ext) :
    beforeLastPoint? (name ++ '.' :: ext) = some name := by
  have hext : ∀ cs : List Char, '.' ∉ cs → beforeLastPoint? cs = none := by
    intro cs hcs
    induction cs with
    | nil => rfl
    | cons c cs ih =>
      have hc : c ≠ '.' := fun hc => hcs (hc ▸ List.mem_cons_self)
      rw [beforeLastPoint?, ih fun hmem => hcs (List.mem_cons_of_mem _ hmem), if_neg hc]
  induction name with
  | nil => rw [List.nil_append, beforeLastPoint?, hext ext h, if_pos rfl]
  | cons c name ih => rw [List.cons_append, beforeLastPoint?, ih]

theorem dropExtension_append {name ext : List Char} (hname : name ≠ []) (h : '.' ∉ ext) :
    dropExtension (name ++ '.' :: ext) = name := by
  obtain ⟨c, rest, rfl⟩ := List.exists_cons_of_ne_nil hname
  rw [dropExtension, beforeLastPoint?_append h]

/-! ### Places in the output tree -/

/-- A place in the output tree: some steps up and then, if it is asked for, the directory of
    chunks. -/
def place (steps : Nat) (inChunks : Bool) : String :=
  String.join (List.replicate steps "../") ++ if inChunks then "static/chunks/" else ""

/-- Taking the place of a name away leaves the name, with what follows it. -/
theorem assetName_place_append (steps : Nat) (inChunks : Bool) {name rest : List Char}
    (hup : ¬ "../".toList <:+: name) (hchunks : ¬ "static/chunks/".toList <:+: name)
    (hrest : '/' ∉ rest) :
    assetName ((place steps inChunks).toList ++ (name ++ rest)) = name ++ rest := by
  have hup' : ¬ "../".toList <:+: name ++ rest := fun h =>
    hup (@infix_of_infix_append "..".toList _ _ '/' h hrest)
  have hchunks' : ¬ "static/chunks/".toList <:+: name ++ rest := fun h =>
    hchunks (@infix_of_infix_append "static/chunks".toList _ _ '/' h hrest)
  have hsteps : 's' ∉ (List.replicate steps "../".toList).flatten := by
    intro h
    obtain ⟨step, hstep, hs⟩ := List.mem_flatten.1 h
    rw [List.eq_of_mem_replicate hstep] at hs
    revert hs
    decide
  have hplace : (place steps inChunks).toList = (List.replicate steps "../".toList).flatten ++
      if inChunks then "static/chunks/".toList else [] := by
    rw [place, String.toList_append, String.toList_join]
    cases inChunks <;> simp [List.flatMap, List.map_replicate]
  have hfirst :
      dropFirstRun "static/chunks/".toList ((place steps inChunks).toList ++ (name ++ rest))
      = (List.replicate steps "../".toList).flatten ++ (name ++ rest) := by
    rw [hplace, List.append_assoc]
    show dropFirstRun ('s' :: "tatic/chunks/".toList) _ = _
    rw [dropFirstRun_append hsteps]
    cases inChunks with
    | true => exact congrArg _ (@dropFirstRun_self_append "static/chunks/".toList nofun _)
    | false => exact congrArg _ (dropFirstRun_eq_self hchunks')
  rw [assetName, hfirst, dropRuns_replicate_append (by decide), dropRuns_eq_self hup']

/-! ### Labels -/

theorem chunkIdOfLabel_place_append (steps : Nat) (inChunks : Bool) (name rest : String)
    (hup : ¬ "../".toList <:+: name.toList) (hchunks : ¬ "static/chunks/".toList <:+: name.toList)
    (hrest : '/' ∉ rest.toList) :
    chunkIdOfLabel (place steps inChunks ++ name ++ rest) =
      String.ofList ((beforeHash? (name.toList ++ rest.toList)).getD
        (dropExtension (name.toList ++ rest.toList))) := by
  have hname : assetName (place steps inChunks ++ name ++ rest).toList =
      name.toList ++ rest.toList := by
    rw [String.toList_append, String.toList_append, List.append_assoc]
    exact assetName_place_append steps inChunks hup hchunks hrest
  rw [chunkIdOfLabel, chunkIdOfChars, hname]
  cases beforeHash? (name.toList ++ rest.toList) <;> rfl

section

variable (steps : Nat) (inChunks : Bool) {name : String} (hup : ¬ "../".toList <:+: name.toList)
  (hchunks : ¬ "static/chunks/".toList <:+: name.toList)
include hup hchunks

/-- A name that holds no hash before a point is found before a hash. -/
theorem chunkIdOfLabel_of_hash {mark : Char} {hash tail : String} (hmark : IsMark mark)
    (hhash : IsHash hash.toList)
    (htail : tail = "" ∨ (∃ more, tail.toList = '.' :: more) ∧ '/' ∉ tail.toList)
    (hfree : ∀ c digits, IsMark c → IsHash digits →
      ¬ (c :: digits) ++ ['.'] <:+: name.toList ++ [mark]) :
    chunkIdOfLabel (place steps inChunks ++ name ++ (String.singleton mark ++ hash ++ tail)) =
      name := by
  have hends : EndsHash tail.toList := by
    rcases htail with rfl | ⟨hpoint, -⟩
    · exact Or.inl rfl
    · exact Or.inr (Or.inr hpoint)
  have hbehind : (String.singleton mark ++ hash ++ tail).toList =
      mark :: (hash.toList ++ tail.toList) := by
    simp
  -- neither the mark nor a digit is a slash, and the tail has none
  have hslash : '/' ∉ mark :: (hash.toList ++ tail.toList) := by
    intro hmem
    rcases List.mem_cons.1 hmem with h | h
    · rcases hmark with rfl | rfl <;> cases h
    · rcases List.mem_append.1 h with h | h
      · exact absurd (hhash.hex _ h) (by decide)
      · rcases htail with rfl | ⟨-, hslash⟩
        · cases h
        · exact hslash h
  rw [chunkIdOfLabel_place_append steps inChunks name _ hup hchunks (hbehind ▸ hslash), hbehind,
    beforeHash?_append hmark hhash hends hfree, Option.getD_some, String.ofList_toList]

/-- A name that is not empty is found before an extension, unless the two hold a hash. -/
theorem chunkIdOfLabel_of_extension {ext : String} (hname : name ≠ "") (hpoint : '.' ∉ ext.toList)
    (hslash : '/' ∉ ext.toList) (hfree : ¬ HoldsHash (name.toList ++ '.' :: ext.toList)) :
    chunkIdOfLabel (place steps inChunks ++ name ++ ("." ++ ext)) = name := by
  have hbehind : ("." ++ ext).toList = '.' :: ext.toList := by
    simp
  have hslash' : '/' ∉ '.' :: ext.toList := by
    intro hmem
    rcases List.mem_cons.1 hmem with h | h
    · cases h
    · exact hslash h
  have hne : name.toList ≠ [] := fun h => hname (String.toList_eq_nil_iff.1 h)
  rw [chunkIdOfLabel_place_append steps inChunks name _ hup hchunks (hbehind ▸ hslash'), hbehind,
    beforeHash?_eq_none_iff.2 hfree, Option.getD_none, dropExtension_append hne hpoint,
    String.ofList_toList]

end

/-- **Names come back.** Let a name contain neither a step up nor the directory of chunks. From the
    label that has it at any place in the output tree, before a content hash and possibly
    extensions, the name is found again, unless it holds a hash itself that ends before a point,
    be that the one behind the name. Before an extension alone, a name that is not empty is found
    again unless name and extension hold a hash. -/
theorem chunkIdOfLabel_recovers (steps : Nat) (inChunks : Bool) (name : String)
    (hup : ¬ "../".toList <:+: name.toList)
    (hchunks : ¬ "static/chunks/".toList <:+: name.toList) :
    (∀ (mark : Char) (hash tail : String), IsMark mark → IsHash hash.toList →
      (tail = "" ∨ (∃ more, tail.toList = '.' :: more) ∧ '/' ∉ tail.toList) →
      (∀ c digits, IsMark c → IsHash digits → ¬ (c :: digits) ++ ['.'] <:+: name.toList ++ [mark]) →
      chunkIdOfLabel (place steps inChunks ++ name ++ (String.singleton mark ++ hash ++ tail)) =
        name) ∧
    (∀ ext : String, name ≠ "" → '.' ∉ ext.toList → '/' ∉ ext.toList →
      ¬ HoldsHash (name.toList ++ '.' :: ext.toList) →
      chunkIdOfLabel (place steps inChunks ++ name ++ ("." ++ ext)) = name) := by
  constructor
  · intro mark hash tail hmark hhash htail hfree
    exact chunkIdOfLabel_of_hash steps inChunks hup hchunks hmark hhash htail hfree
  · intro ext hname hpoint hslash hfree
    exact chunkIdOfLabel_of_extension steps inChunks hup hchunks hname hpoint hslash hfree

/-- Seven digits between marks and four behind the last mark are no hash, neither before the hash of
    a label nor before its extension. -/
theorem chunkIdOfLabel_recovers_hexLike :
    chunkIdOfLabel "../../static/chunks/app.1234567.d-cafe.0123ABCDef.js.map" =
      "app.1234567.d-cafe" ∧
    chunkIdOfLabel "../app.1234567.d-cafe.js" = "app.1234567.d-cafe" := by
  have hup : ¬ "../".toList <:+: "app.1234567.d-cafe".toList :=
    mt (isRun_iff _ _).2 (by decide)
  have hchunks : ¬ "static/chunks/".toList <:+: "app.1234567.d-cafe".toList :=
    mt (isRun_iff _ _).2 (by decide)
  have hfree : ¬ HoldsHash ("app.1234567.d-cafe".toList ++ ['.']) :=
    beforeHash?_eq_none_iff.1 (by decide)
  have hfree' : ¬ HoldsHash ("app.1234567.d-cafe".toList ++ '.' :: "js".toList) :=
    beforeHash?_eq_none_iff.1 (by decide)
  have hhash : IsHash "0123ABCDef".toList := ⟨by decide, List.all_eq_true.1 (by decide)⟩
  constructor
  · exact (chunkIdOfLabel_recovers 2 true "app.1234567.d-cafe" hup hchunks).1 '.' "0123ABCDef"
      ".js.map" (Or.inl rfl) hhash (Or.inr ⟨⟨_, rfl⟩, by decide⟩)
      fun c digits hc hdigits hin => hfree (.of_point hc hdigits hin)
  · exact (chunkIdOfLabel_recovers 1 false "app.1234567.d-cafe" hup hchunks).2 "js"
      (by decide) (by decide) (by decide) hfree'

end BundleGraph.Sizes
