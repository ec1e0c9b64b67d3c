import BundleGraph.Proofs.Exports.Collection
import BundleGraph.Proofs.Exports.Statements
import Mathlib.Data.List.DropRight

/-! # Names that are written as strings

    A name may be written as a string in an export statement and in a CommonJS
    export. The two are not read in the same way. An export statement takes one
    pair of quotation marks away (`specifierName_of_isLiteral`); of the strings that
    name CommonJS exports and modules all quotation marks at both ends are dropped
    (`stringValue_of_isLiteral`).

    So a string is read alike in both places if its content neither begins nor ends
    with a quotation mark (`stripWhile_eq_self_iff`), and as a CommonJS export it is
    passed over if its content is made of quotation marks (`stripWhile_eq_nil_iff`).
-/

namespace BundleGraph.Text

/-! ### Both ends of a text -/

variable {p : Char → Bool} {cs : List Char}

theorem stripWhile_eq (p : Char → Bool) (cs : List Char) :
    stripWhile p cs = (cs.dropWhile p).rdropWhile p := rfl

theorem stripWhile_eq_nil_iff : stripWhile p cs = [] ↔ ∀ c ∈ cs, p c = true := by
  rw [stripWhile_eq, List.rdropWhile_eq_nil_iff, ← List.dropWhile_eq_nil_iff,
    List.dropWhile_idempotent, List.dropWhile_eq_nil_iff]

/-- Nothing is dropped if neither the first member nor the last one is to be dropped. -/
theorem stripWhile_eq_self_iff : stripWhile p cs = cs ↔
    ∀ c, cs.head? = some c ∨ cs.getLast? = some c → p c = false := by
  have hfirst : cs.dropWhile p = cs ↔ ∀ c, cs.head? = some c → p c = false := by
    cases cs with
    | nil => simp
    | cons c cs => simp [List.dropWhile_eq_self_iff]
  have hlast : cs.rdropWhile p = cs ↔ ∀ c, cs.getLast? = some c → p c = false := by
    induction cs using List.reverseRecOn with
    | nil => simp
    | append_singleton cs c => simp [List.rdropWhile_eq_self_iff]
  have hboth : stripWhile p cs = cs ↔ cs.dropWhile p = cs ∧ cs.rdropWhile p = cs := by
    rw [stripWhile_eq]
    constructor
    · intro h
      -- what is dropped at one end does not come back at the other one
      have hlength : cs.length ≤ (cs.dropWhile p).length := by
        conv_lhs => rw [← h]
        exact (List.rdropWhile_prefix p _).length_le
      have hdrop := (List.dropWhile_suffix p).eq_of_length_le hlength
      rw [hdrop] at h
      exact ⟨hdrop, h⟩
    · rintro ⟨hdrop, h⟩
      rw [hdrop, h]
  rw [hboth, hfirst, hlast, ← forall_and]
  exact forall_congr' fun c => or_imp.symm

/-- Around the text may stand what is dropped. -/
theorem stripWhile_between {c : Char} (hc : p c = true) :
    stripWhile p (c :: cs ++ [c]) = stripWhile p cs := by
  have hfirst : (c :: cs ++ [c]).dropWhile p = (cs ++ [c]).dropWhile p :=
    List.dropWhile_cons_of_pos hc
  rw [stripWhile_eq, stripWhile_eq, hfirst, List.dropWhile_append]
  cases hcs : cs.dropWhile p with
  | nil => simp [hc]
  | cons d ds =>
    show (d :: ds ++ [c]).rdropWhile p = _
    exact List.rdropWhile_concat_pos p (d :: ds) c hc

end BundleGraph.Text

namespace BundleGraph.Exports

open Syntax

/-! ### Strings -/

/-- A quotation mark. -/
def isQuote (c : Char) : Bool := c = '\'' || c = '"'

theorem isQuote_iff {c : Char} : isQuote c = true ↔ c ∈ Source.quotes := by
  simp [isQuote, Source.quotes]

variable {s : Node} {q : Char} {content : List Char}

/-- In an export statement a string names its content. -/
theorem specifierName_of_isLiteral (h : s.IsLiteral q content) {n : Node}
    (hkind : n.kind = .exportSpecifier) (hname : (n.child? .newName).or (n.child? .name) = some s) :
    specifierName n = [String.ofList content] := by
  rw [specifierName, if_pos hkind, hname]
  exact congrArg (fun name => [name]) (unquoted_of_spells (.literal h))

/-- As a CommonJS export a string names its content without the quotation marks at its ends. -/
theorem stringValue_of_isLiteral (h : s.IsLiteral q content) :
    stringValue s = String.ofList (Text.stripWhile isQuote content) := by
  have hread : stringValue s = String.ofList (Text.stripWhile isQuote s.text.toList) := rfl
  rw [hread, h.text, String.toList_ofList, Text.stripWhile_between (isQuote_iff.2 h.quote)]

theorem stringValue_eq_content_iff (h : s.IsLiteral q content) :
    stringValue s = String.ofList content ↔
      ∀ c, content.head? = some c ∨ content.getLast? = some c → c ∉ Source.quotes := by
  rw [stringValue_of_isLiteral h, String.ofList_inj, Text.stripWhile_eq_self_iff]
  refine forall_congr' fun c => imp_congr_right fun _ => ?_
  rw [← isQuote_iff, Bool.not_eq_true]

theorem stringValue_ne_empty_iff (h : s.IsLiteral q content) :
    stringValue s ≠ "" ↔ ∃ c ∈ content, c ∉ Source.quotes := by
  have hempty : stringValue s = "" ↔ ∀ c ∈ content, isQuote c = true := by
    rw [stringValue_of_isLiteral h, ← Text.stripWhile_eq_nil_iff]
    exact String.ofList_eq_empty_iff
  rw [ne_eq, hempty]
  simp only [isQuote_iff, not_forall, exists_prop]

/-- **Names that are strings** in a tree of regular nodes. An export statement reads the content of
    a string. A CommonJS export reads what is left of it without the quotation marks at its ends,
    and records it if anything is left. -/
theorem names_of_strings {tree : Node} (hregular : ∀ n ∈ tree.visit, n.Regular) {s : Node}
    (hs : s ∈ tree.visit) (hkind : s.kind = .string) :
    ∃ q content, s.IsLiteral q content ∧
      (∀ n : Node, n.kind = .exportSpecifier → (n.child? .newName).or (n.child? .name) = some s →
        specifierName n = [String.ofList content]) ∧
      stringValue s = String.ofList (Text.stripWhile isQuote content) ∧
      (stringValue s = String.ofList content ↔
        ∀ c, content.head? = some c ∨ content.getLast? = some c → c ∉ Source.quotes) ∧
      ∀ n ∈ tree.visit,
        (NamesExport argumentPlaces n s →
          (stringValue s ∈ (collected tree).exports ↔ ∃ c ∈ content, c ∉ Source.quotes)) ∧
        (HandsOn argumentPlaces n s →
          (stringValue s ∈ (collected tree).reexports ↔ ∃ c ∈ content, c ∉ Source.quotes)) := by
  obtain ⟨q, content, hliteral⟩ := (hregular s hs).string hkind
  have htext : keyText s = stringValue s := if_neg (by rw [hkind]; nofun)
  refine ⟨q, content, hliteral, fun n hn hname => specifierName_of_isLiteral hliteral hn hname,
    stringValue_of_isLiteral hliteral, stringValue_eq_content_iff hliteral, fun n hn => ⟨?_, ?_⟩⟩
  · intro hname
    rw [(gathers_exports (Agree.refl _ _)).mem_iff, stringValue_ne_empty_iff hliteral]
    exact and_iff_left ⟨n, hn, s, hname, htext⟩
  · intro hhands
    rw [(gathers_reexports (Agree.refl _ _) fun _ hm _ ha =>
      mem_visit_of_mem_argumentPlaces hm ha).mem_iff, stringValue_ne_empty_iff hliteral]
    exact and_iff_left ⟨n, hn, s, hhands, htext⟩

/-- A name with quotation marks at both ends, between two others. -/
def quotedName : String := "exports[\"'a'\"] = 1"

/-- It is exported without its own marks; an export statement would keep them. -/
theorem names_of_quotedName :
    (∀ n ∈ (treeOf .javascript quotedName).visit, n.Regular) ∧
      ∃ s ∈ (treeOf .javascript quotedName).visit, s.kind = .string ∧ s.text = "\"'a'\"" ∧
        (∀ n : Node, n.kind = .exportSpecifier → (n.child? .newName).or (n.child? .name) = some s →
          specifierName n = ["'a'"]) ∧
        (collected (treeOf .javascript quotedName)).exports = ["a"] := by
  have hregular := regular_treeOf .javascript quotedName
  have hread : (∃ s ∈ (treeOf .javascript quotedName).visit, s.kind = .string ∧
        s.text = "\"'a'\"") ∧
      collected (treeOf .javascript quotedName) = ⟨["a"], []⟩ := by
    decide +kernel
  obtain ⟨⟨s, hs, hkind, htext⟩, hcollected⟩ := hread
  obtain ⟨q, content, hliteral, hspecifier, -⟩ := names_of_strings hregular hs hkind
  -- the outer marks are the two ends of the literal
  have hchars : q :: content ++ [q] = '"' :: ['\'', 'a', '\''] ++ ['"'] := by
    rw [← String.ofList_inj, ← hliteral.text, htext]
    decide
  obtain ⟨rfl, hrest⟩ := List.cons.inj hchars
  obtain rfl := List.append_cancel_right hrest
  exact ⟨hregular, s, hs, hkind, htext, hspecifier, by rw [hcollected]⟩

end BundleGraph.Exports
