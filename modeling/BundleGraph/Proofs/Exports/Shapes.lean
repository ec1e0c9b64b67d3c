import BundleGraph.Proofs.Exports.Signs
import BundleGraph.Proofs.Syntax.Parse

/-! # The shapes of CommonJS exports

    A name is exported by an assignment to a member of the exports, by a definition
    of a property of them, or by a key of an object that is assigned to
    `module.exports`. A module is handed on where a call of `require` is assigned to
    `module.exports`, given to a helper or spread into such an object.
    `NamesExport` and `HandsOn` list these shapes one by one, each by the nodes that
    it is made of. The arguments of a call are a parameter of both, since there are
    two ways to find them.

    What is read of a node are the texts of the keys that it has by these shapes,
    and nothing else (`lists_nodeExports`, `lists_nodeReexports`). The proofs follow
    the readers from the inside to the outside: a single key, an object, the value
    that is assigned, an assignment or a call. `Lists` also says that the keys come
    in the order in which they stand in the node.
-/

namespace BundleGraph.Exports

open Syntax

/-! ### Words -/

/-- The node is a name that stands for a value. -/
structure IsName (n : Node) (name : String) : Prop where
  kind : n.kind = .identifier
  text : n.text = name

/-- The node reads a member of an object by its name. -/
structure Accesses (n object property : Node) : Prop where
  kind : n.kind = .member
  object_eq : n.child? .object = some object
  property_eq : n.child? .property = some property

/-- The node is `module.exports`. -/
def IsModuleExports (n : Node) : Prop :=
  ∃ object property, Accesses n object property ∧ IsName object "module" ∧
    property.kind = .propertyName ∧ property.text = "exports"

/-- The node stands for the exports of the module. -/
def StandsForExports (n : Node) : Prop := IsName n "exports" ∨ IsModuleExports n

/-- The node calls another one. -/
structure Calls (n callee : Node) : Prop where
  kind : n.kind = .call
  function_eq : n.child? .function = some callee

/-- The node calls `Object.defineProperty`. -/
def DefinesProperty (n : Node) : Prop :=
  ∃ callee object property, Calls n callee ∧ Accesses callee object property ∧
    IsName object "Object" ∧ property.text = "defineProperty"

/-- The node calls a value by its name. -/
def CallsName (n : Node) (name : String) : Prop := ∃ callee, Calls n callee ∧ IsName callee name

/-- The node makes the value the exports of the module. -/
structure SetsExports (n value : Node) : Prop where
  kind : n.kind = .assignment
  left : ∃ left, n.child? .left = some left ∧ IsModuleExports left
  right_eq : n.child? .right = some value

/-! ### Shapes -/

/-- The node `left` is the member of the exports that is written as `key`. -/
inductive IsMember (left key : Node) : Prop where
  /-- By its name. -/
  | name {object : Node} (access : Accesses left object key) (exports : StandsForExports object)
      (word : key.kind = .propertyName)
  /-- By a string. -/
  | element {object : Node} (kind : left.kind = .subscript)
      (object_eq : left.child? .object = some object) (exports : StandsForExports object)
      (index_eq : left.child? .index = some key) (word : key.kind = .string)

/-- An entry of an object has the key `key`. -/
@[mk_iff]
inductive HasKey (entry key : Node) : Prop where
  /-- A name alone. -/
  | shorthand (kind : entry.kind = .shorthandName) (same : key = entry)
  /-- A key with a value. -/
  | pair (kind : entry.kind = .pair) (key_eq : entry.child? .key = some key)
      (word : key.kind ∈ staticKeys)
  /-- A method, also one that gets or sets a value. -/
  | method (kind : entry.kind = .method) (name_eq : entry.child? .name = some key)
      (word : key.kind ∈ staticKeys)

variable (arguments : Node → List Node)

/-- The node `n` exports a name that is written as `key`. -/
inductive NamesExport (n key : Node) : Prop where
  /-- A value is assigned to a member of the exports. -/
  | member {left : Node} (kind : n.kind = .assignment) (left_eq : n.child? .left = some left)
      (member : IsMember left key)
  /-- A property of the exports is defined. -/
  | defined {target : Node} {rest : List Node} (defines : DefinesProperty n)
      (given : arguments n = target :: key :: rest) (exports : StandsForExports target)
      (word : key.kind = .string)
  /-- An object becomes the exports. -/
  | entry {object entry : Node} (sets : SetsExports n object) (kind : object.kind = .object)
      (mem : entry ∈ object.namedChildren) (has : HasKey entry key)

/-- The node `call` asks for the module that is written as `source`. -/
structure Requires (call source : Node) : Prop where
  calls : CallsName call "require"
  first : ∃ rest, arguments call = source :: rest
  word : source.kind = .string

/-- An entry of an object spreads the module that is written as `source`; here comments are passed
    over. -/
structure Spreads (entry source : Node) : Prop where
  kind : entry.kind = .spread
  requires : ∃ call rest, entry.namedChildren = call :: rest ∧ Requires argumentNodes call source

/-- The node `n` hands on the module that is written as `source`. -/
inductive HandsOn (n source : Node) : Prop where
  /-- A module becomes the exports. -/
  | whole {call : Node} (sets : SetsExports n call) (requires : Requires arguments call source)
  /-- A module is given to a helper. -/
  | helper {name : String} {call : Node} {rest : List Node} (name_mem : name ∈ exportHelpers)
      (calls : CallsName n name) (given : arguments n = call :: rest)
      (requires : Requires arguments call source)
  /-- A module is spread into an object that becomes the exports. -/
  | entry {object entry : Node} (sets : SetsExports n object) (kind : object.kind = .object)
      (mem : entry ∈ object.namedChildren) (spreads : Spreads entry source)

/-- What is written as a key: a string or a number without quotation marks. -/
def keyText (key : Node) : String :=
  if key.kind = .shorthandName then key.text else stringValue key

/-- The value in one place, if it is of one of the kinds. -/
def valueOf (kinds : List Kind) (place : Option Node) : List String :=
  match place with
  | some key => if key.kind ∈ kinds then [stringValue key] else []
  | none => []

variable {arguments}

/-! ### The tests for these shapes -/

theorem isIdentifier_iff_isName {n : Node} {name : String} :
    isIdentifier name n = true ↔ IsName n name :=
  isIdentifier_iff.trans ⟨fun h => ⟨h.1, h.2⟩, fun h => ⟨h.kind, h.text⟩⟩

theorem isModuleExports_iff_exists {n : Node} : isModuleExports n = true ↔ IsModuleExports n := by
  rw [isModuleExports_iff, childIs_iff, childIs_iff]
  constructor
  · rintro ⟨hkind, ⟨o, ho, hname⟩, p, hp, hproperty⟩
    rw [isProperty, Bool.and_eq_true, decide_eq_true_iff, decide_eq_true_iff] at hproperty
    exact ⟨o, p, ⟨hkind, ho, hp⟩, isIdentifier_iff_isName.1 hname, hproperty⟩
  · rintro ⟨o, p, ⟨hkind, ho, hp⟩, hname, hproperty⟩
    refine ⟨hkind, ⟨o, ho, isIdentifier_iff_isName.2 hname⟩, p, hp, ?_⟩
    rw [isProperty, Bool.and_eq_true, decide_eq_true_iff, decide_eq_true_iff]
    exact hproperty

theorem isExports_iff_standsForExports {n : Node} : isExports n = true ↔ StandsForExports n := by
  rw [isExports, Bool.or_eq_true, isIdentifier_iff_isName, isModuleExports_iff_exists,
    StandsForExports]

theorem isCallOf_iff_callsName {n : Node} {name : String} :
    isCallOf name n = true ↔ CallsName n name := by
  rw [isCallOf, Bool.and_eq_true, decide_eq_true_iff, childIs_iff]
  constructor
  · rintro ⟨hkind, f, hf, hname⟩
    exact ⟨f, ⟨hkind, hf⟩, isIdentifier_iff_isName.1 hname⟩
  · rintro ⟨f, ⟨hkind, hf⟩, hname⟩
    exact ⟨hkind, f, hf, isIdentifier_iff_isName.2 hname⟩

theorem isObjectCall_iff_definesProperty {n : Node} :
    isObjectCall ["defineProperty"] n = true ↔ DefinesProperty n := by
  rw [isObjectCall_iff]
  simp only [childIs_iff, List.mem_singleton]
  constructor
  · rintro ⟨hkind, f, hf, hmember, ⟨o, ho, hname⟩, p, hp, htext⟩
    exact ⟨f, o, p, ⟨hkind, hf⟩, ⟨hmember, ho, hp⟩, isIdentifier_iff_isName.1 hname, htext⟩
  · rintro ⟨f, o, p, ⟨hkind, hf⟩, ⟨hmember, ho, hp⟩, hname, htext⟩
    exact ⟨hkind, f, hf, hmember, ⟨o, ho, isIdentifier_iff_isName.2 hname⟩, p, hp, htext⟩

/-! ### Names of keys -/

/-- The names are those of the keys for which `R` holds, in the order in which they stand in the
    node. -/
def Lists (n : Node) (R : Node → Prop) (names : List String) : Prop :=
  ∃ keys : List Node, keys.Sublist n.visit ∧ (∀ key, key ∈ keys ↔ R key) ∧ keys.map keyText = names

namespace Lists

variable {n c : Node} {R R' : Node → Prop} {names : List String}

theorem mem_iff (h : Lists n R names) {s : String} :
    s ∈ names ↔ ∃ key, R key ∧ keyText key = s := by
  obtain ⟨keys, -, hmem, rfl⟩ := h
  simp only [List.mem_map, hmem]

theorem congr (hR : ∀ key, R key ↔ R' key) (h : Lists n R names) : Lists n R' names := by
  obtain ⟨keys, hsub, hmem, hnames⟩ := h
  exact ⟨keys, hsub, fun key => (hmem key).trans (hR key), hnames⟩

theorem nil (h : ∀ key, ¬ R key) : Lists n R [] :=
  ⟨[], List.nil_sublist _, fun key => iff_of_false List.not_mem_nil (h key), rfl⟩

theorem one {key : Node} (hkey : key ∈ n.visit) (hR : ∀ k, R k ↔ k = key) :
    Lists n R [keyText key] :=
  ⟨[key], List.singleton_sublist.2 hkey, fun k => List.mem_singleton.trans (hR k).symm, rfl⟩

/-- What stands in a part of the node stands in the node. -/
theorem of_visit (hc : c ∈ n.visit) (h : Lists c R names) : Lists n R names := by
  obtain ⟨keys, hsub, hmem, hnames⟩ := h
  exact ⟨keys, hsub.trans (Node.visit_sublist hc), hmem, hnames⟩

theorem of_child (hc : c ∈ n.children) (h : Lists c R names) : Lists n R names :=
  .of_visit (Node.mem_visit_of_mem_children n.mem_visit_self hc) h

/-- What stands in some of the children stands in the node. -/
theorem of_children {p : Node → Bool} {f : Node → List String} {Q : Node → Node → Prop}
    (h : ∀ c ∈ n.children.filter p, Lists c (Q c) (f c)) :
    Lists n (fun key => ∃ c ∈ n.children.filter p, Q c key) ((n.children.filter p).flatMap f) := by
  choose! keys hsub hmem hnames using h
  refine ⟨(n.children.filter p).flatMap keys, ?_, fun key => ?_, ?_⟩
  · rw [Node.visit_eq]
    refine List.Sublist.cons n ?_
    exact (List.Sublist.flatMap_right _ hsub).trans (List.filter_sublist.flatMap Node.visit)
  · rw [List.mem_flatMap]
    exact exists_congr fun c => and_congr_right fun hc => hmem c hc key
  · rw [List.map_flatMap]
    exact List.flatMap_congr hnames

/-- A key in one place, if it is of one of the kinds. -/
theorem value {place : Option Node} {kinds : List Kind} (hplace : ∀ key ∈ place, key ∈ n.visit)
    (hkinds : .shorthandName ∉ kinds) :
    Lists n (fun key => place = some key ∧ key.kind ∈ kinds) (valueOf kinds place) := by
  cases place with
  | none => exact .nil fun key h => Option.some_ne_none key h.1.symm
  | some k =>
    by_cases hk : k.kind ∈ kinds
    · have hname : valueOf kinds (some k) = [keyText k] := by
        have hshort : k.kind ≠ .shorthandName := ne_of_mem_of_not_mem hk hkinds
        rw [valueOf, if_pos hk, keyText, if_neg hshort]
      rw [hname]
      refine .one (hplace k rfl) fun key => ⟨fun h => (Option.some.inj h.1).symm, ?_⟩
      rintro rfl
      exact ⟨rfl, hk⟩
    · have hname : valueOf kinds (some k) = [] := if_neg hk
      rw [hname]
      refine .nil ?_
      rintro key ⟨h, hkey⟩
      rw [← Option.some.inj h] at hkey
      exact hk hkey

/-- A key among the children. -/
theorem child (n : Node) (r : Role) {kinds : List Kind} (hkinds : .shorthandName ∉ kinds) :
    Lists n (fun key => n.child? r = some key ∧ key.kind ∈ kinds) (valueOf kinds (n.child? r)) :=
  .value (fun _ h => Node.mem_visit_of_mem_children n.mem_visit_self
    (Node.mem_children_of_child? h)) hkinds

end Lists

/-! ### Single keys -/

section

variable (kinds : List Kind) (key : Node)

theorem ite_name_eq : (if key.kind ∈ kinds then Collected.name (stringValue key) else .empty) =
    ⟨valueOf kinds (some key), []⟩ := by
  by_cases h : key.kind ∈ kinds
  · rw [valueOf, if_pos h, if_pos h, Collected.name]
  · rw [valueOf, if_neg h, if_neg h, Collected.empty]

theorem ite_source_eq : (if key.kind ∈ kinds then Collected.source (stringValue key) else .empty) =
    ⟨[], valueOf kinds (some key)⟩ := by
  by_cases h : key.kind ∈ kinds
  · rw [valueOf, if_pos h, if_pos h, Collected.source]
  · rw [valueOf, if_neg h, if_neg h, Collected.empty]

end

theorem keyName_eq_valueOf (key : Option Node) : keyName key = ⟨valueOf staticKeys key, []⟩ := by
  cases key with
  | none => rfl
  | some k => exact ite_name_eq staticKeys k

theorem memberName_eq_valueOf (left : Node) : memberName left =
    ⟨if left.kind = .member then valueOf [.propertyName] (left.child? .property)
      else valueOf [.string] (left.child? .index), []⟩ := by
  unfold memberName
  by_cases h : left.kind = .member
  · rw [if_pos h, if_pos h]
    cases left.child? .property with
    | none => rfl
    | some k => simpa only [List.mem_singleton] using ite_name_eq [.propertyName] k
  · rw [if_neg h, if_neg h]
    cases left.child? .index with
    | none => rfl
    | some k => simpa only [List.mem_singleton] using ite_name_eq [.string] k

theorem requiredSource_eq_valueOf (call : Node) :
    requiredSource call = ⟨[], valueOf [.string] (argumentNodes call).head?⟩ := by
  unfold requiredSource
  cases argumentNodes call with
  | nil => rfl
  | cons a rest => simpa only [List.mem_singleton, List.head?_cons] using ite_source_eq [.string] a

theorem firstString_eq_valueOf (call : Node) :
    firstString call = ⟨[], valueOf [.string] (argumentPlaces call).head?⟩ := by
  unfold firstString
  cases argumentPlaces call with
  | nil => rfl
  | cons a rest => simpa only [List.mem_singleton, List.head?_cons] using ite_source_eq [.string] a

/-- The module that a call of `require` asks for. -/
theorem lists_requires {arguments : Node → List Node} {call : Node}
    (harguments : ∀ a ∈ arguments call, a ∈ call.visit) (hcall : CallsName call "require") :
    Lists call (Requires arguments call) (valueOf [.string] (arguments call).head?) := by
  refine (Lists.value (fun a ha => harguments a (List.mem_of_mem_head? ha)) (by decide)).congr ?_
  intro source
  rw [List.mem_singleton, List.head?_eq_some_iff]
  exact ⟨fun h => ⟨hcall, h.1, h.2⟩, fun h => ⟨h.first, h.word⟩⟩

theorem mem_visit_of_mem_argumentNodes {tree n a : Node} (hn : n ∈ tree.visit)
    (ha : a ∈ argumentNodes n) : a ∈ tree.visit := by
  unfold argumentNodes at ha
  split at ha
  · rename_i list hlist
    exact Node.mem_visit_of_mem_children
      (Node.mem_visit_of_mem_children hn (Node.mem_children_of_child? hlist))
      (Node.mem_children_of_mem_namedChildren (List.mem_filter.1 ha).1)
  · cases ha

/-! ### Objects -/

/-- The key of an entry. -/
theorem lists_memberExports (entry : Node) :
    Lists entry (HasKey entry) (memberExports entry).exports := by
  unfold memberExports
  split
  · rename_i hkind
    have hname : (Collected.name entry.text).exports = [keyText entry] := by
      rw [keyText, if_pos hkind, Collected.name]
    rw [hname]
    refine .one entry.mem_visit_self fun key => ?_
    simp [hasKey_iff, hkind]
  · rename_i hkind
    rw [keyName_eq_valueOf]
    refine (Lists.child entry .key (by decide)).congr fun key => ?_
    simp [hasKey_iff, hkind]
  · rename_i hkind
    rw [keyName_eq_valueOf]
    refine (Lists.child entry .name (by decide)).congr fun key => ?_
    simp [hasKey_iff, hkind]
  · -- what is spread hands on a module, if anything
    rename_i hkind
    have hnone : ∀ key, ¬ HasKey entry key := fun key => by simp [hasKey_iff, hkind]
    split
    · split
      · rw [requiredSource_eq_valueOf]
        exact .nil hnone
      · exact .nil hnone
    · exact .nil hnone
  · rename_i hshorthand hpair hmethod hspread
    refine .nil fun key => ?_
    grind [hasKey_iff]

/-- The module that an entry spreads. -/
theorem lists_memberReexports (entry : Node) :
    Lists entry (Spreads entry) (memberExports entry).reexports := by
  have hother : ∀ {names}, entry.kind ≠ .spread → names = [] →
      Lists entry (Spreads entry) names := by
    rintro _ hkind rfl
    exact .nil fun _ h => hkind h.kind
  unfold memberExports
  split
  · exact hother (by simp [*]) rfl
  · exact hother (by simp [*]) (by rw [keyName_eq_valueOf])
  · exact hother (by simp [*]) (by rw [keyName_eq_valueOf])
  · rename_i hkind
    split
    · rename_i call rest hchildren
      have hspreads : ∀ source, Spreads entry source ↔ Requires argumentNodes call source := by
        intro source
        constructor
        · rintro ⟨-, call', rest', h, hrequires⟩
          rw [hchildren] at h
          rwa [(List.cons.inj h).1]
        · exact fun h => ⟨hkind, call, rest, hchildren, h⟩
      split
      · rename_i hcall
        rw [requiredSource_eq_valueOf]
        refine .congr (fun source => (hspreads source).symm) (.of_child (c := call) ?_ ?_)
        · exact Node.mem_children_of_mem_namedChildren (hchildren ▸ List.mem_cons_self)
        · exact lists_requires (fun _ => mem_visit_of_mem_argumentNodes call.mem_visit_self)
            (isCallOf_iff_callsName.1 hcall)
      · rename_i hcall
        refine .nil fun source h => hcall ?_
        exact isCallOf_iff_callsName.2 ((hspreads source).1 h).calls
    · rename_i hchildren
      refine .nil ?_
      rintro source ⟨-, call, rest, h, -⟩
      rw [hchildren] at h
      cases h
  · exact hother ‹_› rfl

theorem lists_objectExports (object : Node) :
    Lists object (fun key => ∃ entry ∈ object.namedChildren, HasKey entry key)
      (objectExports object).exports := by
  rw [objectExports, Collected.all, List.flatMap_map]
  exact .of_children fun entry _ => lists_memberExports entry

theorem lists_objectReexports (object : Node) :
    Lists object (fun source => ∃ entry ∈ object.namedChildren, Spreads entry source)
      (objectExports object).reexports := by
  rw [objectExports, Collected.all]
  dsimp only
  rw [List.flatMap_map]
  exact .of_children fun entry _ => lists_memberReexports entry

/-! ### Assignments -/

theorem isExportsMember_iff {n : Node} : isExportsMember n = true ↔
    (n.kind = .member ∨ n.kind = .subscript) ∧
      ∃ object, n.child? .object = some object ∧ StandsForExports object := by
  simp only [isExportsMember, Bool.and_eq_true, Bool.or_eq_true, decide_eq_true_iff, childIs_iff,
    isExports_iff_standsForExports]

/-- The exports themselves are no member of the exports. -/
theorem not_isExportsMember_of_isModuleExports {n : Node} (h : IsModuleExports n) :
    ¬ isExportsMember n = true := by
  obtain ⟨object, property, ⟨-, hobject, -⟩, hmodule, -⟩ := h
  rw [isExportsMember_iff]
  rintro ⟨-, object', hobject', hexports⟩
  obtain rfl := Option.some.inj (hobject.symm.trans hobject')
  rcases hexports with hname | ⟨_, _, haccess, -⟩
  · exact absurd (hmodule.text.symm.trans hname.text) (by decide)
  · exact absurd (hmodule.kind.symm.trans haccess.kind) (by decide)

theorem isExportsMember_of_isMember {left key : Node} (h : IsMember left key) :
    isExportsMember left = true := by
  rw [isExportsMember_iff]
  cases h with
  | name access exports _ => exact ⟨Or.inl access.kind, _, access.object_eq, exports⟩
  | element kind object_eq exports _ _ => exact ⟨Or.inr kind, _, object_eq, exports⟩

/-- The name of a member of the exports. -/
theorem lists_memberName {left : Node} (h : isExportsMember left = true) :
    Lists left (IsMember left) (memberName left).exports := by
  obtain ⟨hkind, object, hobject, hexports⟩ := isExportsMember_iff.1 h
  rw [memberName_eq_valueOf]
  by_cases hmember : left.kind = .member
  · rw [if_pos hmember]
    refine (Lists.child left .property (by decide)).congr fun key => ?_
    rw [List.mem_singleton]
    constructor
    · exact fun h => .name ⟨hmember, hobject, h.1⟩ hexports h.2
    · intro h
      cases h with
      | name access _ word => exact ⟨access.property_eq, word⟩
      | element kind _ _ _ _ => rw [hmember] at kind; cases kind
  · rw [if_neg hmember]
    have hsubscript : left.kind = .subscript := hkind.resolve_left hmember
    refine (Lists.child left .index (by decide)).congr fun key => ?_
    rw [List.mem_singleton]
    constructor
    · exact fun h => .element hsubscript hobject hexports h.1 h.2
    · intro h
      cases h with
      | name access _ _ => exact absurd access.kind hmember
      | element _ _ _ index_eq word => exact ⟨index_eq, word⟩

/-- The names of an object. -/
theorem lists_valueExports (value : Node) :
    Lists value (fun key => value.kind = .object ∧ ∃ entry ∈ value.namedChildren, HasKey entry key)
      (valueExports value).exports := by
  unfold valueExports
  by_cases hobject : value.kind = .object
  · rw [if_pos hobject]
    exact (lists_objectExports value).congr fun key => (and_iff_right hobject).symm
  · rw [if_neg hobject]
    have hnone : (if isCallOf "require" value then firstString value else .empty).exports = [] := by
      split
      · rw [firstString_eq_valueOf]
      · rfl
    rw [hnone]
    exact .nil fun key h => hobject h.1

/-- The module that becomes the exports, or the modules that are spread into an object. -/
theorem lists_valueReexports (value : Node) :
    Lists value (fun source => Requires argumentPlaces value source ∨
        value.kind = .object ∧ ∃ entry ∈ value.namedChildren, Spreads entry source)
      (valueExports value).reexports := by
  -- an object is no call, so at most one of the two holds
  have hcalls : ∀ source, Requires argumentPlaces value source → value.kind = .call := by
    rintro source ⟨⟨_, hcalls, -⟩, -, -⟩
    exact hcalls.kind
  unfold valueExports
  by_cases hobject : value.kind = .object
  · rw [if_pos hobject]
    refine (lists_objectReexports value).congr fun source => ?_
    rw [or_iff_right fun h => ?_, and_iff_right hobject]
    have hkind := hcalls source h
    rw [hobject] at hkind
    cases hkind
  · rw [if_neg hobject]
    split
    · rename_i hcall
      rw [firstString_eq_valueOf]
      refine (lists_requires (fun _ => mem_visit_of_mem_argumentPlaces value.mem_visit_self)
        (isCallOf_iff_callsName.1 hcall)).congr fun source => ?_
      exact (or_iff_left fun h => hobject h.1).symm
    · rename_i hcall
      refine .nil fun source h => ?_
      rcases h with h | h
      · exact hcall (isCallOf_iff_callsName.2 h.calls)
      · exact hobject h.1

theorem SetsExports.unique {n v v' : Node} (h : SetsExports n v) (h' : SetsExports n v') : v = v' :=
  Option.some.inj (h.right_eq.symm.trans h'.right_eq)

theorem SetsExports.not_isExportsMember {n value left : Node} (h : SetsExports n value)
    (hleft : n.child? .left = some left) : ¬ isExportsMember left = true := by
  obtain ⟨left', hleft', hexports⟩ := h.left
  obtain rfl := Option.some.inj (hleft.symm.trans hleft')
  exact not_isExportsMember_of_isModuleExports hexports

/-- An assignment exports a member of the exports, or the value that it makes the exports. -/
theorem assignmentExports_cases {n : Node} (hkind : n.kind = .assignment) :
    (∃ left, n.child? .left = some left ∧ isExportsMember left = true ∧
        assignmentExports n = memberName left) ∨
      (∃ value, SetsExports n value ∧ assignmentExports n = valueExports value) ∨
      ((∀ left, n.child? .left = some left → ¬ isExportsMember left = true) ∧
        (∀ value, ¬ SetsExports n value) ∧ assignmentExports n = .empty) := by
  unfold assignmentExports
  -- the left side decides; a member of the exports is looked for first
  cases hleft : n.child? .left with
  | none =>
    refine Or.inr (Or.inr ⟨nofun, fun value h => ?_, rfl⟩)
    obtain ⟨left, hleft', -⟩ := h.left
    exact Option.some_ne_none left (hleft'.symm.trans hleft)
  | some left =>
    by_cases hmember : isExportsMember left = true
    · exact Or.inl ⟨left, rfl, hmember, if_pos hmember⟩
    · refine Or.inr ?_
      have hother : ∀ left', some left = some left' → ¬ isExportsMember left' = true :=
        fun left' h => Option.some.inj h ▸ hmember
      by_cases hmodule : isModuleExports left = true
      · have hexports := isModuleExports_iff_exists.1 hmodule
        simp only [if_neg hmember, if_pos hmodule]
        cases hright : n.child? .right with
        | none =>
          refine Or.inr ⟨hother, fun value h => ?_, rfl⟩
          exact Option.some_ne_none value (h.right_eq.symm.trans hright)
        | some value => exact Or.inl ⟨value, ⟨hkind, ⟨left, hleft, hexports⟩, hright⟩, rfl⟩
      · simp only [if_neg hmember, if_neg hmodule]
        refine Or.inr ⟨hother, fun value h => ?_, trivial⟩
        obtain ⟨left', hleft', hexports⟩ := h.left
        obtain rfl := Option.some.inj (hleft.symm.trans hleft')
        exact hmodule (isModuleExports_iff_exists.2 hexports)

/-- An assignment defines no property and calls no helper. -/
theorem not_calls_of_assignment {n : Node} (hkind : n.kind = .assignment) :
    (¬ DefinesProperty n) ∧ ∀ name, ¬ CallsName n name := by
  have hcall : ∀ callee, ¬ Calls n callee := by
    intro callee h
    exact absurd (hkind.symm.trans h.kind) (by decide)
  constructor
  · rintro ⟨callee, _, _, h, -⟩
    exact hcall callee h
  · rintro name ⟨callee, h, -⟩
    exact hcall callee h

theorem lists_assignmentExports {arguments : Node → List Node} {n : Node}
    (hkind : n.kind = .assignment) :
    Lists n (NamesExport arguments n) (assignmentExports n).exports := by
  have hdefines := (not_calls_of_assignment hkind).1
  rcases assignmentExports_cases hkind with
    ⟨left, hleft, hmember, heq⟩ | ⟨value, hsets, heq⟩ | ⟨hmember, hsets, heq⟩
  · rw [heq]
    refine .congr (fun key => ⟨fun h => .member hkind hleft h, fun h => ?_⟩)
      (.of_child (Node.mem_children_of_child? hleft) (lists_memberName hmember))
    cases h with
    | member _ left_eq member => exact Option.some.inj (left_eq.symm.trans hleft) ▸ member
    | defined defines _ _ _ => exact absurd defines hdefines
    | entry sets _ _ _ => exact absurd hmember (sets.not_isExportsMember hleft)
  · rw [heq]
    refine .congr (fun key => ⟨?_, fun h => ?_⟩)
      (.of_child (Node.mem_children_of_child? hsets.right_eq) (lists_valueExports value))
    · rintro ⟨hobject, entry, hentry, hkey⟩
      exact .entry hsets hobject hentry hkey
    · cases h with
      | member _ left_eq member =>
        exact absurd (isExportsMember_of_isMember member) (hsets.not_isExportsMember left_eq)
      | defined defines _ _ _ => exact absurd defines hdefines
      | @entry object entry sets kind mem has =>
        obtain rfl := sets.unique hsets
        exact ⟨kind, entry, mem, has⟩
  · rw [heq]
    refine .nil fun key h => ?_
    cases h with
    | member _ left_eq member => exact hmember _ left_eq (isExportsMember_of_isMember member)
    | defined defines _ _ _ => exact hdefines defines
    | entry sets _ _ _ => exact hsets _ sets

theorem lists_assignmentReexports {n : Node} (hkind : n.kind = .assignment) :
    Lists n (HandsOn argumentPlaces n) (assignmentExports n).reexports := by
  have hcalls := (not_calls_of_assignment hkind).2
  rcases assignmentExports_cases hkind with
    ⟨left, hleft, hmember, heq⟩ | ⟨value, hsets, heq⟩ | ⟨hmember, hsets, heq⟩
  · rw [heq, memberName_eq_valueOf]
    refine .nil fun source h => ?_
    cases h with
    | whole sets _ => exact sets.not_isExportsMember hleft hmember
    | helper _ calls _ _ => exact hcalls _ calls
    | entry sets _ _ _ => exact sets.not_isExportsMember hleft hmember
  · rw [heq]
    refine .congr (fun source => ⟨?_, fun h => ?_⟩)
      (.of_child (Node.mem_children_of_child? hsets.right_eq) (lists_valueReexports value))
    · rintro (h | ⟨hobject, entry, hentry, hspreads⟩)
      · exact .whole hsets h
      · exact .entry hsets hobject hentry hspreads
    · cases h with
      | whole sets requires =>
        exact Or.inl (sets.unique hsets ▸ requires)
      | helper _ calls _ _ => exact absurd calls (hcalls _)
      | @entry object entry sets kind mem spreads =>
        obtain rfl := sets.unique hsets
        exact Or.inr ⟨kind, entry, mem, spreads⟩
  · rw [heq]
    refine .nil fun source h => ?_
    cases h with
    | whole sets _ => exact hsets _ sets
    | helper _ calls _ _ => exact hcalls _ calls
    | entry sets _ _ _ => exact hsets _ sets

/-! ### Calls -/

section

variable {arguments : Node → List Node} {n key source : Node}

theorem namesExport_call_iff (hkind : n.kind = .call) :
    NamesExport arguments n key ↔ DefinesProperty n ∧ ∃ target rest,
      arguments n = target :: key :: rest ∧ StandsForExports target ∧ key.kind = .string := by
  have hassigns : n.kind ≠ .assignment := by
    rw [hkind]
    nofun
  constructor
  · intro h
    cases h with
    | member kind _ _ => exact absurd kind hassigns
    | defined defines given exports word => exact ⟨defines, _, _, given, exports, word⟩
    | entry sets _ _ _ => exact absurd sets.kind hassigns
  · rintro ⟨hdefines, target, rest, hgiven, hexports, hword⟩
    exact .defined hdefines hgiven hexports hword

theorem handsOn_call_iff (hkind : n.kind = .call) :
    HandsOn arguments n source ↔ (∃ name ∈ exportHelpers, CallsName n name) ∧ ∃ call rest,
      arguments n = call :: rest ∧ Requires arguments call source := by
  have hassigns : n.kind ≠ .assignment := by
    rw [hkind]
    nofun
  constructor
  · intro h
    cases h with
    | whole sets _ => exact absurd sets.kind hassigns
    | helper name_mem calls given requires => exact ⟨⟨_, name_mem, calls⟩, _, _, given, requires⟩
    | entry sets _ _ _ => exact absurd sets.kind hassigns
  · rintro ⟨⟨name, hname, hcalls⟩, call, rest, hgiven, hrequires⟩
    exact .helper hname hcalls hgiven hrequires

end

theorem not_callsName_of_definesProperty {n : Node} (h : DefinesProperty n) (name : String) :
    ¬ CallsName n name := by
  rw [← isCallOf_iff_callsName, Bool.not_eq_true]
  exact not_isCallOf_of_isObjectCall (isObjectCall_iff_definesProperty.2 h) name

theorem any_isCallOf_iff {n : Node} :
    (exportHelpers.any fun h => isCallOf h n) = true ↔
      ∃ name ∈ exportHelpers, CallsName n name := by
  simp only [List.any_eq_true, isCallOf_iff_callsName]

/-- The property that a call defines, if it is one of the exports. -/
theorem lists_definedProperty {n : Node} (hdefines : DefinesProperty n) :
    Lists n (fun key => ∃ target rest, argumentPlaces n = target :: key :: rest ∧
      StandsForExports target ∧ key.kind = .string) (callExports n).exports := by
  rw [callExports, if_pos (isObjectCall_iff_definesProperty.2 hdefines)]
  split
  · rename_i target name rest hplaces
    rw [hplaces]
    by_cases hexports : StandsForExports target
    · have hname : (if isExports target && name.kind = .string then
            Collected.name (stringValue name) else .empty) =
          ⟨valueOf [.string] (some name), []⟩ := by
        rw [isExports_iff_standsForExports.2 hexports, ← ite_name_eq]
        simp
      have hplace : ∀ key ∈ some name, key ∈ n.visit := by
        intro key hkey
        rw [← Option.some.inj hkey]
        exact mem_visit_of_mem_argumentPlaces n.mem_visit_self (by simp [hplaces])
      rw [hname]
      refine (Lists.value hplace (by decide)).congr fun key => ?_
      simp [hexports, eq_comm]
    · rw [if_neg]
      · refine .nil ?_
        rintro key ⟨target', rest', hgiven, hexports', -⟩
        exact hexports ((List.cons.inj hgiven).1 ▸ hexports')
      · rw [Bool.and_eq_true, isExports_iff_standsForExports]
        exact fun h => hexports h.1
  · rename_i hplaces
    refine .nil ?_
    rintro key ⟨target, rest, hgiven, -⟩
    exact hplaces target key rest hgiven

/-- Such a call hands on nothing. -/
theorem reexports_callExports_of_definesProperty {n : Node} (hdefines : DefinesProperty n) :
    (callExports n).reexports = [] := by
  rw [callExports, if_pos (isObjectCall_iff_definesProperty.2 hdefines)]
  split
  · split <;> rfl
  · rfl

/-- Any other call names nothing. -/
theorem exports_callExports_of_not_definesProperty {n : Node} (hdefines : ¬ DefinesProperty n) :
    (callExports n).exports = [] := by
  rw [callExports, if_neg fun h => hdefines (isObjectCall_iff_definesProperty.1 h)]
  split
  · split
    · split
      · rw [firstString_eq_valueOf]
      · rfl
    · rfl
  · rfl

/-- The module that is given to a helper. -/
theorem lists_helperCall {n : Node} (hhelper : ∃ name ∈ exportHelpers, CallsName n name) :
    Lists n (fun source => ∃ call rest, argumentPlaces n = call :: rest ∧
      Requires argumentPlaces call source) (callExports n).reexports := by
  have hdefines : ¬ isObjectCall ["defineProperty"] n = true := by
    obtain ⟨name, -, hcalls⟩ := hhelper
    intro h
    exact not_callsName_of_definesProperty (isObjectCall_iff_definesProperty.1 h) name hcalls
  rw [callExports, if_neg hdefines, if_pos (any_isCallOf_iff.2 hhelper)]
  cases hplaces : argumentPlaces n with
  | nil =>
    refine .nil ?_
    rintro source ⟨call, rest, hgiven, -⟩
    cases hgiven
  | cons call rest =>
    have hgiven : ∀ source, (∃ call' rest', call :: rest = call' :: rest' ∧
        Requires argumentPlaces call' source) ↔ Requires argumentPlaces call source := by
      simp
    refine .congr (fun source => (hgiven source).symm) ?_
    dsimp only
    by_cases hcall : isCallOf "require" call = true
    · have hvisit : call ∈ n.visit :=
        mem_visit_of_mem_argumentPlaces n.mem_visit_self (by simp [hplaces])
      rw [if_pos hcall, firstString_eq_valueOf]
      exact .of_visit hvisit (lists_requires
        (fun _ => mem_visit_of_mem_argumentPlaces call.mem_visit_self)
        (isCallOf_iff_callsName.1 hcall))
    · rw [if_neg hcall]
      exact .nil fun source h => hcall (isCallOf_iff_callsName.2 h.calls)

/-- No other call hands anything on. -/
theorem reexports_callExports_of_no_helper {n : Node}
    (hhelper : ¬ ∃ name ∈ exportHelpers, CallsName n name) : (callExports n).reexports = [] := by
  by_cases hdefines : DefinesProperty n
  · exact reexports_callExports_of_definesProperty hdefines
  · rw [callExports, if_neg fun h => hdefines (isObjectCall_iff_definesProperty.1 h),
      if_neg fun h => hhelper (any_isCallOf_iff.1 h)]
    rfl

theorem lists_callExports {n : Node} (hkind : n.kind = .call) :
    Lists n (NamesExport argumentPlaces n) (callExports n).exports := by
  refine .congr (fun key => (namesExport_call_iff hkind).symm) ?_
  by_cases hdefines : DefinesProperty n
  · exact (lists_definedProperty hdefines).congr fun key => (and_iff_right hdefines).symm
  · rw [exports_callExports_of_not_definesProperty hdefines]
    exact .nil fun key h => hdefines h.1

theorem lists_callReexports {n : Node} (hkind : n.kind = .call) :
    Lists n (HandsOn argumentPlaces n) (callExports n).reexports := by
  refine .congr (fun source => (handsOn_call_iff hkind).symm) ?_
  by_cases hhelper : ∃ name ∈ exportHelpers, CallsName n name
  · exact (lists_helperCall hhelper).congr fun source => (and_iff_right hhelper).symm
  · rw [reexports_callExports_of_no_helper hhelper]
    exact .nil fun source h => hhelper h.1

/-! ### Nodes -/

theorem lists_nodeExports (n : Node) :
    Lists n (NamesExport argumentPlaces n) (nodeExports n).exports := by
  unfold nodeExports
  split
  · exact lists_assignmentExports ‹_›
  · exact lists_callExports ‹_›
  · rename_i hassignment hcall
    refine .nil fun key h => ?_
    cases h with
    | member kind _ _ => exact hassignment kind
    | defined defines _ _ _ =>
      obtain ⟨_, _, _, hcalls, -⟩ := defines
      exact hcall hcalls.kind
    | entry sets _ _ _ => exact hassignment sets.kind

theorem lists_nodeReexports (n : Node) :
    Lists n (HandsOn argumentPlaces n) (nodeExports n).reexports := by
  unfold nodeExports
  split
  · exact lists_assignmentReexports ‹_›
  · exact lists_callReexports ‹_›
  · rename_i hassignment hcall
    refine .nil fun source h => ?_
    cases h with
    | whole sets _ => exact hassignment sets.kind
    | helper _ calls _ _ =>
      obtain ⟨_, hcalls, -⟩ := calls
      exact hcall hcalls.kind
    | entry sets _ _ _ => exact hassignment sets.kind

end BundleGraph.Exports
