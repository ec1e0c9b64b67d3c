import BundleGraph.Graph.IndexedStore
import BundleGraph.Proofs.Graph.Calls

/-! # An indexed store stands for two maps

    `Represents lib s g` says that the four parts of `s` agree and how they stand
    for the two maps of `g`: the numbers of nodes and of links grow in the order
    of the maps, the tables lead from numbers to ids and back, and the library
    has at each number what the maps have for its ids.

    Each operation is first described by what it leaves in the four parts
    (`run_addNode_of_new` and those after it). A call then ends for the four parts
    as it does for the two maps (`Represents.call`), and it does so after any
    calls before (`Represents.after`). A call that fails has changed nothing.
-/

namespace BundleGraph.Graph.IndexedStore

variable {G : Type} {lib : Digraph G (NodeKind × NodeData) GraphLink}

/-! ### What the operations do -/

/-- A store with one node more. -/
def withNode (lib : Digraph G (NodeKind × NodeData) GraphLink) (s : IndexedStore G) (id : String)
    (data : NodeData) : IndexedStore G where
  graph := (lib.addNode s.graph (data.kind, data)).1
  numberOf := s.numberOf.insert id (lib.addNode s.graph (data.kind, data)).2
  idAt := s.idAt.insert (lib.addNode s.graph (data.kind, data)).2 id
  idsByKind := s.idsByKind.insert data.kind (withMember (s.idsOfKind data.kind) id)

/-- An operation asks for numbers first, and goes on with what it finds. -/
theorem run_addNode (s : IndexedStore G) (id : String) (data : NodeData) :
    (addNode lib id data).run.run s =
      (match s.numberOf.lookup? id with
        | some i => checkKind lib id i data.kind
        | none => addNewNode lib id data).run.run s := rfl

theorem run_checkKind (s : IndexedStore G) (id : String) (i : Nat) (new : NodeKind) :
    (checkKind lib id i new).run.run s =
      (match lib.node? s.graph i with
        | some (old, _) => if old ≠ new then throw (.violation (.kindClash id old new)) else pure ()
        | none => throw (.noNode i) : Action G Unit).run.run s := rfl

theorem run_addLink_eq (s : IndexedStore G) (source target : String) (reason : Option Reason) :
    (addLink lib source target reason).run.run s =
      (match s.numberOf.lookup? source, s.numberOf.lookup? target with
        | some a, some b =>
          set { s with graph := lib.addLink s.graph a b ⟨source, target, reason⟩ }
        | _, _ =>
          throw (.violation (.missingEnds source target
            ([source, target].filter fun id => !s.numberOf.contains id)))
        : Action G Unit).run.run s := rfl

theorem run_addNode_of_new {s : IndexedStore G} {id : String} (h : s.numberOf.lookup? id = none)
    (data : NodeData) : (addNode lib id data).run.run s = (.ok (), s.withNode lib id data) := by
  rw [run_addNode, h]
  rfl

theorem run_addNode_of_old {s : IndexedStore G} {id : String} {i : Nat} {kind : NodeKind}
    {old : NodeData} (h : s.numberOf.lookup? id = some i)
    (hnode : lib.node? s.graph i = some (kind, old)) (data : NodeData) :
    (addNode lib id data).run.run s =
      if kind ≠ data.kind then (.error (.violation (.kindClash id kind data.kind)), s)
      else (.ok (), s) := by
  rw [run_addNode, h]
  show (checkKind lib id i data.kind).run.run s = _
  rw [run_checkKind, hnode]
  by_cases hk : kind = data.kind
  · rw [if_neg (not_not.2 hk)]
    show StateT.run (ExceptT.run (if kind ≠ data.kind then _ else pure ())) s = _
    rw [if_neg (not_not.2 hk)]
    rfl
  · rw [if_pos hk]
    show StateT.run (ExceptT.run (if kind ≠ data.kind then _ else pure ())) s = _
    rw [if_pos hk]
    rfl

theorem run_addLink {s : IndexedStore G} {source target : String} {a b : Nat}
    (ha : s.numberOf.lookup? source = some a) (hb : s.numberOf.lookup? target = some b)
    (reason : Option Reason) :
    (addLink lib source target reason).run.run s =
      (.ok (), { s with graph := lib.addLink s.graph a b ⟨source, target, reason⟩ }) := by
  rw [run_addLink_eq, ha, hb]
  rfl

theorem run_addLink_of_missing {s : IndexedStore G} {source target : String}
    (h : s.numberOf.lookup? source = none ∨ s.numberOf.lookup? target = none)
    (reason : Option Reason) :
    (addLink lib source target reason).run.run s =
      (.error (.violation (.missingEnds source target
        ([source, target].filter fun id => !s.numberOf.contains id))), s) := by
  rw [run_addLink_eq]
  rcases h with h | h
  · rw [h]
    rfl
  · rw [h]
    cases s.numberOf.lookup? source <;> rfl

/-! ### Standing for two maps -/

/-- The link of a pair of ids as a library has it: the numbers of its ends, and the link. -/
def numberedLink (s : IndexedStore G) (g : Store) (p : String × String) :
    Option (Nat × Nat × GraphLink) := do
  let a ← s.numberOf.lookup? p.1
  let b ← s.numberOf.lookup? p.2
  let reason ← g.links.lookup? p
  return (a, b, ⟨p.1, p.2, reason⟩)

/-- The links of the library are numbered in the order of a map: `ends` has the pair of ids at each
    number. -/
structure Numbers (lib : Digraph G (NodeKind × NodeData) GraphLink) (s : IndexedStore G) (g : Store)
    (ends : OrderedMap Nat (String × String)) : Prop where
  /-- Numbers grow. -/
  growing : ends.keys.Pairwise (· < ·)
  /-- In their order, the pairs are those of the map. -/
  pairs : ends.values = g.links.keys
  /-- At each number the library has the link of its pair. -/
  link : ∀ e, (lib.links s.graph).lookup? e = (ends.lookup? e).bind (numberedLink s g)

/-- The four parts agree, and stand for two maps. -/
structure Represents (lib : Digraph G (NodeKind × NodeData) GraphLink) (s : IndexedStore G)
    (g : Store) : Prop where
  /-- Numbers of nodes grow. -/
  growing : s.idAt.keys.Pairwise (· < ·)
  /-- In the order of their numbers, the ids are those of the first map. -/
  ids : s.idAt.values = g.nodes.keys
  /-- Numbers and ids lead back to each other. -/
  inverse : s.numberOf.entries = s.idAt.entries.map Prod.swap
  /-- The node of a number stands for the record of its id. -/
  node : ∀ i, lib.node? s.graph i =
    (s.idAt.lookup? i).bind fun id => (g.nodes.lookup? id).map fun d => (d.kind, d)
  /-- Kinds come in the order of their first nodes. -/
  kinds : s.idsByKind.keys = (g.nodes.values.map NodeData.kind).eraseDups
  /-- Under each kind stand the ids of its nodes. -/
  members : ∀ kind, s.idsOfKind kind = g.idsOfKind kind
  /-- The links are numbered in the order of the second map. -/
  numbered : ∃ ends, Numbers lib s g ends

variable {s : IndexedStore G} {g : Store}

theorem Numbers.mem_links {ends : OrderedMap Nat (String × String)} (h : Numbers lib s g ends)
    {e : Nat} {p : String × String} (hp : ends.lookup? e = some p) : p ∈ g.links.keys :=
  h.pairs ▸ OrderedMap.mem_values_of_lookup? hp

namespace Represents

theorem numberOf_iff (h : Represents lib s g) {id : String} {i : Nat} :
    s.numberOf.lookup? id = some i ↔ s.idAt.lookup? i = some id :=
  OrderedMap.lookup?_swap_iff h.inverse

theorem keys_numberOf (h : Represents lib s g) : s.numberOf.keys = g.nodes.keys := by
  rw [← h.ids, OrderedMap.keys, h.inverse, List.map_map]
  rfl

theorem exists_number (h : Represents lib s g) {id : String} (hid : id ∈ g.nodes.keys) :
    ∃ i, s.numberOf.lookup? id = some i :=
  OrderedMap.exists_lookup?_of_mem_keys (h.keys_numberOf ▸ hid)

theorem numberOf_eq_none (h : Represents lib s g) {id : String} (hid : id ∉ g.nodes.keys) :
    s.numberOf.lookup? id = none :=
  (OrderedMap.lookup?_eq_none_iff _ _).2 (h.keys_numberOf ▸ hid)

theorem mem_nodes_of_number (h : Represents lib s g) {id : String} {i : Nat}
    (hi : s.numberOf.lookup? id = some i) : id ∈ g.nodes.keys :=
  h.keys_numberOf ▸ OrderedMap.mem_keys_of_lookup? hi

theorem node_of_number (h : Represents lib s g) {id : String} {i : Nat} {d : NodeData}
    (hi : s.numberOf.lookup? id = some i) (hd : g.nodes.lookup? id = some d) :
    lib.node? s.graph i = some (d.kind, d) := by
  rw [h.node, h.numberOf_iff.1 hi, Option.bind_some, hd]
  rfl

/-- The library has a node for each number that is kept, and no other. -/
theorem isSome_node_iff (h : Represents lib s g) {i : Nat} :
    (lib.node? s.graph i).isSome = true ↔ i ∈ s.idAt.keys := by
  rw [h.node, ← OrderedMap.contains_iff, OrderedMap.contains]
  cases hi : s.idAt.lookup? i with
  | none => simp
  | some id =>
    have hid := h.mem_nodes_of_number (h.numberOf_iff.2 hi)
    obtain ⟨d, hd⟩ := OrderedMap.exists_lookup?_of_mem_keys hid
    simp [hd]

/-- Different ids have different numbers. -/
theorem numberOf_inj (h : Represents lib s g) {id id' : String} {i : Nat}
    (hi : s.numberOf.lookup? id = some i) (hi' : s.numberOf.lookup? id' = some i) : id = id' := by
  rw [h.numberOf_iff] at hi hi'
  exact Option.some.inj (hi.symm.trans hi')

/-! ### A node more -/

section node

variable {id : String} {data : NodeData} {g' : Store}

/-- The library gives a new node a larger number than those that are kept. -/
theorem lt_newNumber (lawful : lib.Lawful) (h : Represents lib s g) (data : NodeData) {i : Nat}
    (hi : i ∈ s.idAt.keys) : i < (lib.addNode s.graph (data.kind, data)).2 :=
  lawful.number_addNode _ _ _ (h.isSome_node_iff.2 hi)

theorem node_withNode (lawful : lib.Lawful) (h : Represents lib s g) (hid : id ∉ g.nodes.keys)
    (hn : g'.nodes = g.nodes.insertNew id data) (i : Nat) :
    lib.node? (s.withNode lib id data).graph i =
      ((s.withNode lib id data).idAt.lookup? i).bind fun id =>
        (g'.nodes.lookup? id).map fun d => (d.kind, d) := by
  show lib.node? (lib.addNode s.graph (data.kind, data)).1 i =
    ((s.idAt.insert (lib.addNode s.graph (data.kind, data)).2 id).lookup? i).bind _
  rw [lawful.node_addNode, OrderedMap.lookup?_insert, hn]
  by_cases hi : i = (lib.addNode s.graph (data.kind, data)).2
  · rw [if_pos hi, if_pos hi, Option.bind_some, OrderedMap.lookup?_insertNew,
      (OrderedMap.lookup?_eq_none_iff _ _).2 hid, if_pos rfl]
    rfl
  · rw [if_neg hi, if_neg hi, h.node]
    -- the other ids keep their records
    cases hold : s.idAt.lookup? i with
    | none => rfl
    | some id' =>
      have hid' := h.mem_nodes_of_number (h.numberOf_iff.2 hold)
      obtain ⟨d, hd⟩ := OrderedMap.exists_lookup?_of_mem_keys hid'
      rw [Option.bind_some, Option.bind_some, OrderedMap.lookup?_insertNew, hd, Option.some_or]

theorem members_withNode (h : Represents lib s g) (hid : id ∉ g.nodes.keys)
    (hentries : g'.nodes.entries = g.nodes.entries ++ [(id, data)]) (kind : NodeKind) :
    (s.withNode lib id data).idsOfKind kind = g'.idsOfKind kind := by
  have hnew : id ∉ g.idsOfKind data.kind := by
    intro hin
    obtain ⟨e, he, rfl⟩ := List.mem_map.1 hin
    exact hid (List.mem_map_of_mem (List.mem_filter.1 he).1)
  show ((s.idsByKind.insert data.kind _).lookup? kind).getD [] = _
  rw [OrderedMap.lookup?_insert, Store.idsOfKind, hentries, List.filter_append, List.map_append]
  by_cases hk : kind = data.kind
  · subst hk
    rw [if_pos rfl, h.members, withMember, if_neg hnew]
    simp [Store.idsOfKind]
  · have hk' : data.kind ≠ kind := fun e => hk e.symm
    rw [if_neg hk]
    show s.idsOfKind kind = _
    rw [h.members]
    simp [Store.idsOfKind, hk']

/-- A link keeps its ends and their numbers when a node comes. -/
theorem numberedLink_withNode (hid : id ∉ g.nodes.keys) (hl : g'.links = g.links)
    {p : String × String} (hp : p ∈ g.links.keys) :
    numberedLink (s.withNode lib id data) g' p = numberedLink s g p := by
  obtain ⟨hsource, htarget⟩ := g.closed p hp
  have keep : ∀ id' ∈ g.nodes.keys,
      (s.withNode lib id data).numberOf.lookup? id' = s.numberOf.lookup? id' := by
    intro id' hid'
    show (s.numberOf.insert id _).lookup? id' = _
    have hne : id' ≠ id := fun e => hid (e ▸ hid')
    rw [OrderedMap.lookup?_insert, if_neg hne]
  rw [numberedLink, numberedLink, keep _ hsource, keep _ htarget, hl]

theorem withNode (lawful : lib.Lawful) (h : Represents lib s g) (hid : id ∉ g.nodes.keys)
    (hn : g'.nodes = g.nodes.insertNew id data) (hl : g'.links = g.links) :
    Represents lib (s.withNode lib id data) g' := by
  have hentries : g'.nodes.entries = g.nodes.entries ++ [(id, data)] := by
    rw [hn, OrderedMap.insertNew, dif_neg hid]
  have hnew : (lib.addNode s.graph (data.kind, data)).2 ∉ s.idAt.keys :=
    fun hi => Nat.lt_irrefl _ (h.lt_newNumber lawful data hi)
  have hidAt := OrderedMap.entries_insert_of_not_mem hnew id
  have hnumberOf := OrderedMap.entries_insert_of_not_mem (m := s.numberOf) (k := id)
    (by rw [h.keys_numberOf]; exact hid) (lib.addNode s.graph (data.kind, data)).2
  refine ⟨?growing, ?ids, ?inverse, h.node_withNode lawful hid hn, ?kinds,
    h.members_withNode hid hentries, ?numbered⟩
  case growing =>
    show (s.idAt.insert _ id).keys.Pairwise (· < ·)
    rw [OrderedMap.keys_insert, if_neg hnew, List.pairwise_append]
    refine ⟨h.growing, List.pairwise_singleton _ _, fun i hi j hj => ?_⟩
    rw [List.mem_singleton.1 hj]
    exact h.lt_newNumber lawful data hi
  case ids =>
    show (s.idAt.insert _ id).values = g'.nodes.keys
    rw [OrderedMap.values, hidAt, OrderedMap.keys, hentries, List.map_append, List.map_append]
    exact congrArg (· ++ [id]) h.ids
  case inverse =>
    show (s.numberOf.insert id _).entries = (s.idAt.insert _ id).entries.map Prod.swap
    rw [hnumberOf, hidAt, List.map_append, h.inverse]
    rfl
  case kinds =>
    have hvalues : g'.nodes.values.map NodeData.kind =
        g.nodes.values.map NodeData.kind ++ [data.kind] := by
      rw [OrderedMap.values, hentries, List.map_append, List.map_append]
      rfl
    show (s.idsByKind.insert data.kind _).keys = _
    rw [OrderedMap.keys_insert, h.kinds, hvalues, eraseDups_concat]
    simp only [List.mem_eraseDups]
  case numbered =>
    obtain ⟨ends, hends⟩ := h.numbered
    refine ⟨ends, hends.growing, by rw [hends.pairs, hl], fun e => ?_⟩
    show (lib.links (lib.addNode s.graph (data.kind, data)).1).lookup? e = _
    rw [lawful.links_addNode, hends.link]
    cases hp : ends.lookup? e with
    | none => rfl
    | some p =>
      rw [Option.bind_some, Option.bind_some, numberedLink_withNode hid hl (hends.mem_links hp)]

end node

/-! ### A link more -/

section link

variable {source target : String} {reason : Option Reason} {a b : Nat} {g' : Store}

/-- The other links keep their ends, numbers and reasons. -/
theorem numberedLink_withLink (hl : g'.links = g.links.insert (source, target) reason) (graph : G)
    {p : String × String} (hp : p ≠ (source, target)) :
    numberedLink { s with graph := graph } g' p = numberedLink s g p := by
  rw [numberedLink, numberedLink, hl, OrderedMap.lookup?_insert, if_neg hp]

theorem numberedLink_self (ha : s.numberOf.lookup? source = some a)
    (hb : s.numberOf.lookup? target = some b)
    (hl : g'.links = g.links.insert (source, target) reason) (graph : G) :
    numberedLink { s with graph := graph } g' (source, target) =
      some (a, b, ⟨source, target, reason⟩) := by
  rw [numberedLink, hl, OrderedMap.lookup?_insert, if_pos rfl]
  simp [ha, hb]

/-- A link that the library has between two numbers is that of the ids of these numbers. -/
theorem eq_of_numberedLink (h : Represents lib s g) (ha : s.numberOf.lookup? source = some a)
    (hb : s.numberOf.lookup? target = some b) {p : String × String} {l : GraphLink}
    (hp : numberedLink s g p = some (a, b, l)) : p = (source, target) := by
  simp only [numberedLink, Option.bind_eq_bind, Option.bind_eq_some_iff, Option.pure_def,
    Option.some.injEq, Prod.mk.injEq] at hp
  obtain ⟨a', ha', b', hb', _, _, rfl, rfl, _⟩ := hp
  exact Prod.ext (h.numberOf_inj ha' ha) (h.numberOf_inj hb' hb)

/-- Every link between ids is one between numbers. -/
theorem exists_numberedLink (h : Represents lib s g) {p : String × String}
    (hp : p ∈ g.links.keys) : ∃ x, numberedLink s g p = some x := by
  obtain ⟨hsource, htarget⟩ := g.closed p hp
  obtain ⟨a, ha⟩ := h.exists_number hsource
  obtain ⟨b, hb⟩ := h.exists_number htarget
  obtain ⟨reason, hreason⟩ := OrderedMap.exists_lookup?_of_mem_keys hp
  exact ⟨(a, b, ⟨p.1, p.2, reason⟩), by simp [numberedLink, ha, hb, hreason]⟩

/-- A link that is there is replaced under its number. -/
theorem numbered_of_old (lawful : lib.Lawful) (h : Represents lib s g)
    (ha : s.numberOf.lookup? source = some a) (hb : s.numberOf.lookup? target = some b)
    (hl : g'.links = g.links.insert (source, target) reason)
    (hold : (source, target) ∈ g.links.keys) :
    ∃ ends, Numbers lib { s with graph := lib.addLink s.graph a b ⟨source, target, reason⟩ } g'
      ends := by
  obtain ⟨ends, hends⟩ := h.numbered
  have hunique : ends.values.Nodup := hends.pairs ▸ g.links.nodup_keys
  obtain ⟨⟨e, p⟩, he, rfl⟩ := List.mem_map.1 (hends.pairs ▸ hold)
  have hpair := (OrderedMap.mem_entries_iff ends e (source, target)).1 he
  obtain ⟨old, hreason⟩ := OrderedMap.exists_lookup?_of_mem_keys hold
  have hthere : (lib.links s.graph).lookup? e = some (a, b, ⟨source, target, old⟩) := by
    rw [hends.link, hpair, Option.bind_some]
    simp [numberedLink, ha, hb, hreason]
  refine ⟨ends, hends.growing, ?_, fun e' => ?_⟩
  · rw [hl, OrderedMap.keys_insert, if_pos hold, hends.pairs]
  · rw [lawful.links_replace _ _ _ _ e _ hthere]
    by_cases hee : e' = e
    · rw [if_pos hee, hee, hpair, Option.bind_some, numberedLink_self ha hb hl]
    · rw [if_neg hee, hends.link]
      cases hp : ends.lookup? e' with
      | none => rfl
      | some p =>
        have hne : p ≠ (source, target) := by
          intro heq
          exact hee (OrderedMap.lookup?_inj hunique (heq ▸ hp) hpair)
        rw [Option.bind_some, Option.bind_some, numberedLink_withLink hl _ hne]

/-- A new link comes under a new number. -/
theorem numbered_of_new (lawful : lib.Lawful) (h : Represents lib s g)
    (ha : s.numberOf.lookup? source = some a) (hb : s.numberOf.lookup? target = some b)
    (hl : g'.links = g.links.insert (source, target) reason)
    (hnew : (source, target) ∉ g.links.keys) :
    ∃ ends, Numbers lib { s with graph := lib.addLink s.graph a b ⟨source, target, reason⟩ } g'
      ends := by
  obtain ⟨ends, hends⟩ := h.numbered
  have hnode : ∀ {id i}, s.numberOf.lookup? id = some i → (lib.node? s.graph i).isSome = true :=
    fun hi => h.isSome_node_iff.2 (OrderedMap.mem_keys_of_lookup? (h.numberOf_iff.1 hi))
  have hnone : ∀ e old, (lib.links s.graph).lookup? e ≠ some (a, b, old) := by
    intro e old he
    rw [hends.link, Option.bind_eq_some_iff] at he
    obtain ⟨p, hp, hlink⟩ := he
    exact hnew (h.eq_of_numberedLink ha hb hlink ▸ hends.mem_links hp)
  obtain ⟨e, hlarger, hlinks⟩ :=
    lawful.links_append s.graph a b ⟨source, target, reason⟩ (hnode ha) (hnode hb) hnone
  have hlt : ∀ e' ∈ ends.keys, e' < e := by
    intro e' he'
    obtain ⟨p, hp⟩ := OrderedMap.exists_lookup?_of_mem_keys he'
    obtain ⟨x, hx⟩ := h.exists_numberedLink (hends.mem_links hp)
    have hlib : (lib.links s.graph).lookup? e' = some x := by
      rw [hends.link, hp, Option.bind_some, hx]
    exact hlarger e' (OrderedMap.mem_keys_of_lookup? hlib)
  have he : e ∉ ends.keys := fun hin => Nat.lt_irrefl _ (hlt e hin)
  have hentries := OrderedMap.entries_insert_of_not_mem he (source, target)
  refine ⟨ends.insert e (source, target), ?_, ?_, fun e' => ?_⟩
  · rw [OrderedMap.keys_insert, if_neg he, List.pairwise_append]
    refine ⟨hends.growing, List.pairwise_singleton _ _, fun i hi j hj => ?_⟩
    rw [List.mem_singleton.1 hj]
    exact hlt i hi
  · rw [OrderedMap.values, hentries, List.map_append, hl, OrderedMap.keys_insert, if_neg hnew]
    exact congrArg (· ++ [(source, target)]) hends.pairs
  · rw [hlinks, OrderedMap.lookup?_insert]
    by_cases hee : e' = e
    · rw [if_pos hee, if_pos hee, Option.bind_some, numberedLink_self ha hb hl]
    · rw [if_neg hee, if_neg hee, hends.link]
      cases hp : ends.lookup? e' with
      | none => rfl
      | some p =>
        have hne : p ≠ (source, target) := fun heq => hnew (heq ▸ hends.mem_links hp)
        rw [Option.bind_some, Option.bind_some, numberedLink_withLink hl _ hne]

theorem withLink (lawful : lib.Lawful) (h : Represents lib s g)
    (ha : s.numberOf.lookup? source = some a) (hb : s.numberOf.lookup? target = some b)
    (hn : g'.nodes = g.nodes) (hl : g'.links = g.links.insert (source, target) reason) :
    Represents lib { s with graph := lib.addLink s.graph a b ⟨source, target, reason⟩ } g' := by
  refine ⟨h.growing, by rw [h.ids, hn], h.inverse, fun i => ?node, by rw [h.kinds, hn],
    fun kind => ?members, ?numbered⟩
  case node => rw [lawful.node_addLink, h.node, hn]
  case members =>
    show s.idsOfKind kind = _
    rw [h.members, Store.idsOfKind, Store.idsOfKind, hn]
  case numbered =>
    by_cases hold : (source, target) ∈ g.links.keys
    · exact h.numbered_of_old lawful ha hb hl hold
    · exact h.numbered_of_new lawful ha hb hl hold

end link

end Represents

/-! ### Calls -/

/-- How a call to the four parts ends, given how it ends for the two maps: it goes through if it
    does there, and if it fails there, then it fails in the same way and has changed nothing. -/
def Follows (lib : Digraph G (NodeKind × NodeData) GraphLink) (s : IndexedStore G) :
    Except Violation Store → Except Interruption Unit × IndexedStore G → Prop
  | .ok g', (r, s') => r = .ok () ∧ Represents lib s' g'
  | .error v, (r, s') => r = .error (.violation v) ∧ s' = s

theorem represents_empty (lawful : lib.Lawful) : Represents lib (empty lib) .empty where
  growing := List.Pairwise.nil
  ids := rfl
  inverse := rfl
  node i := lawful.node_empty i
  kinds := rfl
  members _ := rfl
  numbered := ⟨.empty, List.Pairwise.nil, rfl, fun e => lawful.links_empty e⟩

theorem Represents.addNode (lawful : lib.Lawful) (h : Represents lib s g) (id : String)
    (data : NodeData) : Follows lib s (g.addNode id data) ((addNode lib id data).run.run s) := by
  cases hid : g.nodes.lookup? id with
  | none =>
    have hmem := (OrderedMap.lookup?_eq_none_iff _ _).1 hid
    obtain ⟨g', hg, hn, hl⟩ := @Store.exists_addNode g id data (by rw [hid]; simp)
    rw [hg, run_addNode_of_new (h.numberOf_eq_none hmem)]
    exact ⟨rfl, h.withNode lawful hmem hn hl⟩
  | some old =>
    obtain ⟨i, hi⟩ := h.exists_number (OrderedMap.mem_keys_of_lookup? hid)
    rw [run_addNode_of_old hi (h.node_of_number hi hid), Store.addNode, hid]
    by_cases hk : old.kind = data.kind
    · rw [if_neg (not_not.2 hk)]
      show Follows lib s (if old.kind = data.kind then _ else _) _
      rw [if_pos hk]
      exact ⟨rfl, h⟩
    · rw [if_pos hk]
      show Follows lib s (if old.kind = data.kind then _ else _) _
      rw [if_neg hk]
      exact ⟨rfl, rfl⟩

theorem Represents.addLink (lawful : lib.Lawful) (h : Represents lib s g) (source target : String)
    (reason : Option Reason) :
    Follows lib s (g.addLink source target reason)
      ((addLink lib source target reason).run.run s) := by
  by_cases hends : source ∈ g.nodes.keys ∧ target ∈ g.nodes.keys
  · obtain ⟨a, ha⟩ := h.exists_number hends.1
    obtain ⟨b, hb⟩ := h.exists_number hends.2
    obtain ⟨g', hg, hn, hl⟩ := Store.exists_addLink hends.1 hends.2 reason
    rw [hg, run_addLink ha hb]
    exact ⟨rfl, h.withLink lawful ha hb hn hl⟩
  · have hnone : s.numberOf.lookup? source = none ∨ s.numberOf.lookup? target = none := by
      rcases not_and_or.1 hends with hs | ht
      · exact Or.inl (h.numberOf_eq_none hs)
      · exact Or.inr (h.numberOf_eq_none ht)
    have hmissing : ([source, target].filter fun id => !s.numberOf.contains id) =
        [source, target].filter fun id => id ∉ g.nodes.keys := by
      apply List.filter_congr
      intro id _
      simp [← h.keys_numberOf, ← OrderedMap.contains_iff]
    rw [run_addLink_of_missing hnone, Store.addLink, dif_neg hends, hmissing]
    exact ⟨rfl, rfl⟩

/-- A call to the four parts ends as it does for the two maps. -/
theorem Represents.call (lawful : lib.Lawful) (h : Represents lib s g) (c : Call) :
    Follows lib s (c.apply g) (s.call lib c) := by
  cases c with
  | chunk c => exact h.addNode lawful c.id (.chunk c)
  | module m =>
    show Follows lib s (g.addModule m) ((addModule lib m).run.run s)
    by_cases hm : m.isWrapper = true
    · rw [Store.addModule, if_pos hm, addModule, if_pos hm]
      exact ⟨rfl, rfl⟩
    · rw [Store.addModule, if_neg hm, addModule, if_neg hm]
      exact h.addNode lawful m.fileName (.module m)
  | link source target reason => exact h.addLink lawful source target reason

/-! ### Runs -/

/-- After any calls the four parts stand for the maps that the accepted calls have written. -/
theorem Represents.after (lawful : lib.Lawful) (calls : List Call) (h : Represents lib s g) :
    ∃ g', Represents lib (s.after lib calls) g' ∧
      g'.nodes = g.nodes.insertAllNew ((s.accepted lib calls).filterMap Call.node?) ∧
      g'.links = g.links.insertAll ((s.accepted lib calls).filterMap Call.link?) := by
  induction calls generalizing s g with
  | nil => exact ⟨g, h, rfl, rfl⟩
  | cons c calls ih =>
    have hcall := h.call lawful c
    rw [IndexedStore.after, accepted]
    cases happly : c.apply g with
    | error v =>
      -- the store is as before, so the other calls are made to it
      rw [happly] at hcall
      obtain ⟨hresult, hsame⟩ := hcall
      have hs : s.call lib c = (.error (.violation v), s) := Prod.ext hresult hsame
      rw [hs]
      exact ih h
    | ok g₁ =>
      rw [happly] at hcall
      obtain ⟨hresult, hrep⟩ := hcall
      have hs : s.call lib c = (.ok (), (s.call lib c).2) := Prod.ext hresult rfl
      obtain ⟨hn₁, hl₁⟩ := Call.spec_of_apply happly
      obtain ⟨g', hrep', hn, hl⟩ := ih hrep
      refine ⟨g', hrep', ?_, ?_⟩
      · rw [hs, hn, hn₁, ← OrderedMap.insertAllNew_append, List.filterMap_cons]
        cases c.node? <;> rfl
      · rw [hs, hl, hl₁, ← OrderedMap.insertAll_append, List.filterMap_cons]
        cases c.link? <;> rfl

end BundleGraph.Graph.IndexedStore
