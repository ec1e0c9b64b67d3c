import BundleGraph.OrderedMap
import Mathlib.Data.List.Nodup
import Mathlib.Data.List.Permutation

/-! # Lists of writes to an ordered map

    What a whole list of writes leaves in a map. The order of the keys does not
    depend on the way of writing: each key stands where it first came. Values
    do: `insertAllNew` keeps the first value of a key, `insertAll` the last.

    The keys are described by `List.eraseDups`, so the first section is about
    distinct members of lists.
-/

namespace BundleGraph

/-! ### Distinct members of a list -/

section distinct

variable {α β : Type} [BEq α] [LawfulBEq α] [BEq β] [LawfulBEq β]

theorem eraseDups_eq_self {xs : List α} (h : xs.Nodup) : xs.eraseDups = xs := by
  induction xs with
  | nil => rfl
  | cons x xs ih =>
    have hx := List.nodup_cons.1 h
    have keep : (xs.filter fun y => !y == x) = xs := by
      rw [List.filter_eq_self]
      intro y hy
      have : y ≠ x := fun e => hx.1 (e ▸ hy)
      simpa using this
    rw [List.eraseDups_cons, keep, ih hx.2]

/-- Members of a second list that stand in the first one do not come again. -/
theorem eraseDups_append_eq (xs ys : List α) :
    (xs ++ ys).eraseDups = xs.eraseDups ++ (ys.filter fun y => !xs.elem y).eraseDups := by
  rw [List.eraseDups_append]
  rfl

theorem eraseDups_append_of_disjoint {xs ys : List α} (h : ∀ y ∈ ys, y ∉ xs) :
    (xs ++ ys).eraseDups = xs.eraseDups ++ ys.eraseDups := by
  have keep : (ys.filter fun y => !xs.elem y) = ys := by
    rw [List.filter_eq_self]
    intro y hy
    simpa using h y hy
  rw [eraseDups_append_eq, keep]

/-- A member that came before can be left out. -/
theorem eraseDups_append_cons_of_mem {xs : List α} {a : α} (h : a ∈ xs) (ys : List α) :
    (xs ++ a :: ys).eraseDups = (xs ++ ys).eraseDups := by
  rw [eraseDups_append_eq, eraseDups_append_eq, List.filter_cons]
  simp [h]

/-- A member at the end comes again or is new. -/
theorem eraseDups_concat [DecidableEq α] (xs : List α) (x : α) :
    (xs ++ [x]).eraseDups = if x ∈ xs then xs.eraseDups else xs.eraseDups ++ [x] := by
  rw [eraseDups_append_eq]
  by_cases hx : x ∈ xs
  · simp [hx]
  · simp [hx, List.eraseDups_cons]

/-- Distinct members of the images under an injective function. -/
theorem eraseDups_map {f : α → β} (hf : ∀ a b, f a = f b → a = b) (xs : List α) :
    (xs.map f).eraseDups = xs.eraseDups.map f := by
  -- distinct members go on with a filtered list, so the induction is on its length
  match xs with
  | [] => rfl
  | x :: xs =>
    have same : ((xs.map f).filter fun y => !y == f x) = (xs.filter fun y => !y == x).map f := by
      rw [List.filter_map]
      congr 1
      apply List.filter_congr
      intro y _
      by_cases hy : y = x
      · simp [hy]
      · have hfy : f y ≠ f x := fun e => hy (hf _ _ e)
        rw [Function.comp_apply, beq_eq_false_iff_ne.2 hfy, beq_eq_false_iff_ne.2 hy]
    rw [List.map_cons, List.eraseDups_cons, List.eraseDups_cons, List.map_cons, same,
      eraseDups_map hf (xs.filter fun y => !y == x)]
termination_by xs.length
decreasing_by exact Nat.lt_succ_of_le (List.length_filter_le _ _)

/-- Blocks without common members can be treated one by one. -/
theorem eraseDups_flatMap {γ : Type} {f : γ → List α} {xs : List γ}
    (h : xs.Pairwise fun a b => ∀ y ∈ f b, y ∉ f a) :
    (xs.flatMap f).eraseDups = xs.flatMap fun a => (f a).eraseDups := by
  induction xs with
  | nil => rfl
  | cons x xs ih =>
    have hx := List.pairwise_cons.1 h
    have apart : ∀ y ∈ xs.flatMap f, y ∉ f x := by
      intro y hy
      obtain ⟨b, hb, hyb⟩ := List.mem_flatMap.1 hy
      exact hx.1 b hb y hyb
    rw [List.flatMap_cons, List.flatMap_cons, eraseDups_append_of_disjoint apart, ih hx.2]

/-- Of two distinct members, the first one stands before every occurrence of the second. -/
theorem pairwise_eraseDups [DecidableEq α] (xs : List α) : xs.eraseDups.Pairwise fun a b =>
    ∀ before after, xs = before ++ b :: after → a ∈ before := by
  induction xs using List.reverseRecOn with
  | nil => exact .nil
  | append_singleton xs x ih =>
    -- an occurrence is the new last member, or stands in what came before it
    have earlier : ∀ a ∈ xs, ∀ b, (∀ before after, xs = before ++ b :: after → a ∈ before) →
        ∀ before after, xs ++ [x] = before ++ b :: after → a ∈ before := by
      intro a ha b hb before after h
      rcases List.eq_nil_or_concat after with rfl | ⟨after, y, rfl⟩
      · exact (List.append_inj' h rfl).1 ▸ ha
      · rw [List.concat_eq_append, ← List.cons_append, ← List.append_assoc] at h
        exact hb before after (List.append_inj' h rfl).1
    have hpairs : xs.eraseDups.Pairwise fun a b =>
        ∀ before after, xs ++ [x] = before ++ b :: after → a ∈ before :=
      ih.imp_of_mem fun ha _ h => earlier _ (List.mem_eraseDups.1 ha) _ h
    rw [eraseDups_concat]
    split
    · exact hpairs
    · rename_i hx
      refine List.pairwise_append.2 ⟨hpairs, List.pairwise_singleton _ _, ?_⟩
      intro a ha b hb
      obtain rfl := List.mem_singleton.1 hb
      refine earlier a (List.mem_eraseDups.1 ha) b fun before after h => ?_
      exact absurd (h ▸ List.mem_append_right _ List.mem_cons_self) hx

/-- Where blocks stand in some order, the first block of a distinct member is not behind a block of
    a later one. -/
theorem pairwise_eraseDups_flatMap [DecidableEq α] {γ : Type} {R : γ → γ → Prop} (hR : ∀ c, R c c)
    {f : γ → List α} {xs : List γ} (h : xs.Pairwise R) :
    (xs.flatMap f).eraseDups.Pairwise fun a b =>
      ∀ y ∈ xs, b ∈ f y → ∃ x ∈ xs, a ∈ f x ∧ R x y := by
  refine (pairwise_eraseDups _).imp ?_
  intro a b hbefore y hy hb
  obtain ⟨front, back, rfl⟩ := List.append_of_mem hy
  obtain ⟨left, right, hblock⟩ := List.append_of_mem hb
  have hsplit : (front ++ y :: back).flatMap f =
      (front.flatMap f ++ left) ++ b :: (right ++ back.flatMap f) := by
    rw [List.flatMap_append, List.flatMap_cons, hblock]
    simp only [List.append_assoc, List.cons_append]
  rcases List.mem_append.1 (hbefore _ _ hsplit) with ha | ha
  · obtain ⟨x, hx, ha⟩ := List.mem_flatMap.1 ha
    exact ⟨x, List.mem_append_left _ hx, ha,
      (List.pairwise_append.1 h).2.2 x hx y List.mem_cons_self⟩
  · exact ⟨y, hy, hblock ▸ List.mem_append_left _ ha, hR y⟩

end distinct

namespace OrderedMap

/-! ### Entries -/

/-- A key stands at one place only. -/
theorem getElem?_entries_inj {κ α : Type} {m : OrderedMap κ α} {i j : Nat} {k : κ} {a b : α}
    (hi : m.entries[i]? = some (k, a)) (hj : m.entries[j]? = some (k, b)) : i = j := by
  have hkey : ∀ {n : Nat} {c : α}, m.entries[n]? = some (k, c) → m.keys[n]? = some k := by
    intro n c hn
    rw [keys, List.getElem?_map, hn]
    rfl
  have hlt := (List.getElem?_eq_some_iff.1 (hkey hi)).1
  exact (List.getElem?_inj hlt m.nodup_keys).1 ((hkey hi).trans (hkey hj).symm)

@[simp] theorem keys_mapValues {κ α β : Type} (m : OrderedMap κ α) (f : α → β) :
    (m.mapValues f).keys = m.keys := by
  rw [keys, mapValues, List.map_map]
  rfl

theorem mapValues_mapValues {κ α β γ : Type} (m : OrderedMap κ α) (f : α → β) (g : β → γ) :
    (m.mapValues f).mapValues g = m.mapValues (g ∘ f) :=
  ext List.map_map

theorem values_mapValues {κ α β : Type} (m : OrderedMap κ α) (f : α → β) :
    (m.mapValues f).values = m.values.map f := by
  rw [values, mapValues, List.map_map, values, List.map_map]
  rfl

variable {κ α : Type} [DecidableEq κ]

theorem mem_of_find_eq_some {k : κ} {a : α} {es : List (κ × α)} (h : find k es = some a) :
    (k, a) ∈ es := by
  induction es with
  | nil => simp [find] at h
  | cons e es ih =>
    obtain ⟨k', b⟩ := e
    by_cases hk : k' = k
    · simp only [find, hk, if_true, Option.some.injEq] at h
      simp [hk, h]
    · simp only [find, hk, if_false] at h
      exact List.mem_cons_of_mem _ (ih h)

/-- The first member with a key has the value of the key. -/
theorem find_map_eq {β : Type} (key : β → κ) (value : β → α) (k : κ) (xs : List β) :
    find k (xs.map fun x => (key x, value x)) = (xs.find? fun x => key x = k).map value := by
  induction xs with
  | nil => rfl
  | cons x xs ih => by_cases h : key x = k <;> simp [find, h, ih]

theorem lookup?_empty (k : κ) : (empty : OrderedMap κ α).lookup? k = none := rfl

theorem mem_keys_of_lookup? {m : OrderedMap κ α} {k : κ} {a : α} (h : m.lookup? k = some a) :
    k ∈ m.keys := by
  rw [← contains_iff, contains, h]
  rfl

theorem exists_lookup?_of_mem_keys {m : OrderedMap κ α} {k : κ} (h : k ∈ m.keys) :
    ∃ a, m.lookup? k = some a :=
  Option.isSome_iff_exists.1 ((contains_iff m k).2 h)

theorem mem_values_of_lookup? {m : OrderedMap κ α} {k : κ} {a : α} (h : m.lookup? k = some a) :
    a ∈ m.values :=
  List.mem_map.2 ⟨(k, a), (mem_entries_iff m k a).2 h, rfl⟩

/-- A list with the keys of a map and with its values is the list of its entries. -/
theorem entries_eq_of_keys {m : OrderedMap κ α} {es : List (κ × α)} (hk : m.keys = es.map Prod.fst)
    (hv : ∀ e ∈ es, m.lookup? e.1 = some e.2) : m.entries = es := by
  have hlen : m.entries.length = es.length := by
    have := congrArg List.length hk
    simpa [keys] using this
  apply List.ext_getElem hlen
  intro i h₁ h₂
  -- the keys at a position agree, and a key has one value only
  have hkey : m.entries[i].1 = es[i].1 := by
    have := List.getElem_of_eq hk (by simpa [keys] using h₁)
    simpa [keys] using this
  have hmem : m.lookup? m.entries[i].1 = some m.entries[i].2 :=
    (mem_entries_iff m _ _).1 (List.getElem_mem h₁)
  have hval := hv es[i] (List.getElem_mem h₂)
  rw [hkey, hval, Option.some.injEq] at hmem
  exact Prod.ext hkey hmem.symm

/-- The entries of a map are its keys with what they lead to. -/
theorem map_entries_some (m : OrderedMap κ α) :
    (m.entries.map fun e => (e.1, some e.2)) = m.keys.map fun k => (k, m.lookup? k) := by
  rw [keys, List.map_map]
  apply List.map_congr_left
  intro e he
  rw [Function.comp_apply, (mem_entries_iff m e.1 e.2).1 he]

/-- A value that stands once has one key. -/
theorem lookup?_inj {m : OrderedMap κ α} (hv : m.values.Nodup) {k k' : κ} {a : α}
    (h : m.lookup? k = some a) (h' : m.lookup? k' = some a) : k = k' := by
  rw [← mem_entries_iff] at h h'
  have same : (k, a) = (k', a) := List.inj_on_of_nodup_map hv h h' rfl
  exact (Prod.ext_iff.1 same).1

/-- Maps with swapped entries answer each other. -/
theorem lookup?_swap_iff [DecidableEq α] {m : OrderedMap κ α} {n : OrderedMap α κ}
    (h : m.entries = n.entries.map Prod.swap) {k : κ} {a : α} :
    m.lookup? k = some a ↔ n.lookup? a = some k := by
  rw [← mem_entries_iff, ← mem_entries_iff, h, List.mem_map]
  constructor
  · intro h
    obtain ⟨e, he, hswap⟩ := h
    cases hswap
    exact he
  · intro he
    exact ⟨(a, k), he, rfl⟩

/-! ### First value wins -/

theorem insertNew_of_mem {m : OrderedMap κ α} {k : κ} (h : k ∈ m.keys) (a : α) :
    m.insertNew k a = m := by
  unfold insertNew
  rw [dif_pos h]

theorem entries_insertNew (m : OrderedMap κ α) (k : κ) (a : α) :
    (m.insertNew k a).entries = if k ∈ m.keys then m.entries else m.entries ++ [(k, a)] := by
  unfold insertNew
  split <;> rfl

theorem insertAllNew_cons (m : OrderedMap κ α) (e : κ × α) (pairs : List (κ × α)) :
    m.insertAllNew (e :: pairs) = (m.insertNew e.1 e.2).insertAllNew pairs := rfl

theorem insertAllNew_append (m : OrderedMap κ α) (pairs more : List (κ × α)) :
    m.insertAllNew (pairs ++ more) = (m.insertAllNew pairs).insertAllNew more :=
  List.foldl_append

theorem keys_insertAllNew [BEq κ] [LawfulBEq κ] (m : OrderedMap κ α) (pairs : List (κ × α)) :
    (m.insertAllNew pairs).keys = (m.keys ++ pairs.map Prod.fst).eraseDups := by
  -- each pair changes the map that the others are written to
  induction pairs generalizing m with
  | nil => simp [insertAllNew, eraseDups_eq_self m.nodup_keys]
  | cons e pairs ih =>
    rw [insertAllNew_cons, ih, keys_insertNew, List.map_cons]
    split
    · rename_i h
      rw [eraseDups_append_cons_of_mem h]
    · simp

/-- Pairs that are written to a map stand behind its entries as they would stand in a new map, those
    with an old key left out. -/
theorem entries_insertAllNew (m : OrderedMap κ α) (pairs : List (κ × α)) :
    (m.insertAllNew pairs).entries =
      m.entries ++ (ofListFirst pairs).entries.filter fun e => e.1 ∉ m.keys := by
  induction pairs using List.reverseRecOn with
  | nil => simp [insertAllNew, ofListFirst, empty]
  | append_singleton pairs e ih =>
    have hkeys : (m.insertAllNew pairs).keys =
        m.keys ++ ((ofListFirst pairs).keys.filter fun k => k ∉ m.keys) := by
      rw [keys, ih, List.map_append, keys, keys, List.filter_map]
      rfl
    have hlast : (m.insertAllNew (pairs ++ [e])) = (m.insertAllNew pairs).insertNew e.1 e.2 := by
      rw [insertAllNew_append]
      rfl
    have hlast' : ofListFirst (pairs ++ [e]) = (ofListFirst pairs).insertNew e.1 e.2 := by
      rw [ofListFirst, insertAllNew_append]
      rfl
    rw [hlast, hlast', entries_insertNew, entries_insertNew, hkeys]
    by_cases hm : e.1 ∈ m.keys <;> by_cases hp : e.1 ∈ (ofListFirst pairs).keys <;>
      simp [hm, hp, ih]

theorem entries_ofListFirst_append (pairs more : List (κ × α)) :
    (ofListFirst (pairs ++ more)).entries = (ofListFirst pairs).entries ++
      (ofListFirst more).entries.filter fun e => e.1 ∉ (ofListFirst pairs).keys := by
  rw [ofListFirst, insertAllNew_append, entries_insertAllNew]
  rfl

/-- Pairs that are written twice add nothing the second time. -/
theorem ofListFirst_append_self (pairs : List (κ × α)) :
    ofListFirst (pairs ++ pairs) = ofListFirst pairs := by
  have hold : ∀ e ∈ (ofListFirst pairs).entries, ¬ decide (e.1 ∉ (ofListFirst pairs).keys) := by
    intro e he
    have hkey : e.1 ∈ (ofListFirst pairs).keys := List.mem_map.2 ⟨e, he, rfl⟩
    simpa using hkey
  apply ext
  rw [entries_ofListFirst_append, List.filter_eq_nil_iff.2 hold, List.append_nil]

theorem lookup?_insertAllNew (m : OrderedMap κ α) (pairs : List (κ × α)) (k : κ) :
    (m.insertAllNew pairs).lookup? k = (m.lookup? k).or (find k pairs) := by
  induction pairs generalizing m with
  | nil => simp [insertAllNew, find]
  | cons e pairs ih =>
    obtain ⟨k', a⟩ := e
    rw [insertAllNew_cons, ih, lookup?_insertNew]
    by_cases hk : k' = k
    · simp [find, hk]
    · have : k ≠ k' := fun e => hk e.symm
      simp [find, hk, this]

theorem mapValues_insertNew {β : Type} (m : OrderedMap κ α) (f : α → β) (k : κ) (a : α) :
    (m.insertNew k a).mapValues f = (m.mapValues f).insertNew k (f a) := by
  by_cases h : k ∈ m.keys
  · rw [insertNew_of_mem h, insertNew_of_mem (by rwa [keys_mapValues])]
  · have h' : k ∉ (m.mapValues f).keys := by rwa [keys_mapValues]
    apply OrderedMap.ext
    rw [insertNew, insertNew, dif_neg h, dif_neg h']
    exact List.map_append

/-- Changing the values before they are written or after it is the same. -/
theorem mapValues_insertAllNew {β : Type} (m : OrderedMap κ α) (f : α → β)
    (pairs : List (κ × α)) : (m.insertAllNew pairs).mapValues f =
      (m.mapValues f).insertAllNew (pairs.map fun e => (e.1, f e.2)) := by
  induction pairs generalizing m with
  | nil => rfl
  | cons e pairs ih =>
    rw [insertAllNew_cons, ih, mapValues_insertNew, List.map_cons, insertAllNew_cons]

theorem mapValues_ofListFirst {β : Type} (f : α → β) (pairs : List (κ × α)) :
    (ofListFirst pairs).mapValues f = ofListFirst (pairs.map fun e => (e.1, f e.2)) :=
  mapValues_insertAllNew .empty f pairs

theorem keys_ofListFirst [BEq κ] [LawfulBEq κ] (pairs : List (κ × α)) :
    (ofListFirst pairs).keys = (pairs.map Prod.fst).eraseDups := by
  rw [ofListFirst, keys_insertAllNew, keys_empty, List.nil_append]

theorem lookup?_ofListFirst (pairs : List (κ × α)) (k : κ) :
    (ofListFirst pairs).lookup? k = find k pairs := by
  rw [ofListFirst, lookup?_insertAllNew, lookup?_empty, Option.none_or]

/-! ### Last value wins, in the first place -/

theorem entries_insert_of_mem {m : OrderedMap κ α} {k : κ} (h : k ∈ m.keys) (a : α) :
    (m.insert k a).entries = m.entries.map fun e => if e.1 = k then (k, a) else e := by
  unfold insert
  rw [if_pos h]

theorem entries_insert_of_not_mem {m : OrderedMap κ α} {k : κ} (h : k ∉ m.keys) (a : α) :
    (m.insert k a).entries = m.entries ++ [(k, a)] := by
  unfold insert insertNew
  rw [if_neg h, dif_neg h]

/-- Inserts pairs from left to right; the last value of a key wins. -/
def insertAll (m : OrderedMap κ α) (pairs : List (κ × α)) : OrderedMap κ α :=
  pairs.foldl (fun m e => m.insert e.1 e.2) m

theorem insertAll_cons (m : OrderedMap κ α) (e : κ × α) (pairs : List (κ × α)) :
    m.insertAll (e :: pairs) = (m.insert e.1 e.2).insertAll pairs := rfl

theorem insertAll_append (m : OrderedMap κ α) (pairs more : List (κ × α)) :
    m.insertAll (pairs ++ more) = (m.insertAll pairs).insertAll more :=
  List.foldl_append

theorem keys_insertAll [BEq κ] [LawfulBEq κ] (m : OrderedMap κ α) (pairs : List (κ × α)) :
    (m.insertAll pairs).keys = (m.keys ++ pairs.map Prod.fst).eraseDups := by
  induction pairs generalizing m with
  | nil => simp [insertAll, eraseDups_eq_self m.nodup_keys]
  | cons e pairs ih =>
    rw [insertAll_cons, ih, keys_insert, List.map_cons]
    split
    · rename_i h
      rw [eraseDups_append_cons_of_mem h]
    · simp

theorem lookup?_insertAll (m : OrderedMap κ α) (pairs : List (κ × α)) (k : κ) :
    (m.insertAll pairs).lookup? k = (find k pairs.reverse).or (m.lookup? k) := by
  induction pairs generalizing m with
  | nil => simp [insertAll, find]
  | cons e pairs ih =>
    obtain ⟨k', a⟩ := e
    rw [insertAll_cons, ih, lookup?_insert, List.reverse_cons, find_append, Option.or_assoc]
    by_cases hk : k' = k
    · simp [find, hk]
    · have : k ≠ k' := fun e => hk e.symm
      simp [find, hk, this]

/-- The last value of a key is the first one from the end. -/
theorem lookup?_ofListLast (pairs : List (κ × α)) (k : κ) :
    (ofListLast pairs).lookup? k = find k pairs.reverse := by
  show ((empty : OrderedMap κ α).insertAll pairs).lookup? k = _
  rw [lookup?_insertAll, lookup?_empty, Option.or_none]

theorem keys_ofListLast [BEq κ] [LawfulBEq κ] (pairs : List (κ × α)) :
    (ofListLast pairs).keys = (pairs.map Prod.fst).eraseDups := by
  show ((empty : OrderedMap κ α).insertAll pairs).keys = _
  rw [keys_insertAll, keys_empty, List.nil_append]

/-- A key that no pair has keeps its value. -/
theorem lookup?_insertAll_of_not_mem {m : OrderedMap κ α} {pairs : List (κ × α)} {k : κ}
    (h : k ∉ pairs.map Prod.fst) : (m.insertAll pairs).lookup? k = m.lookup? k := by
  rw [lookup?_insertAll]
  have : find k pairs.reverse = none := by
    rw [← Option.not_isSome_iff_eq_none, find_isSome]
    simpa using h
  rw [this, Option.none_or]

/-- A key that the last pairs do not have gets its value from the pairs before. -/
theorem lookup?_insertAll_of_block {m : OrderedMap κ α} {before block after : List (κ × α)} {k : κ}
    {a : α} (hk : k ∈ block.map Prod.fst) (hblock : ∀ e ∈ block, e.1 = k → e.2 = a)
    (hafter : k ∉ after.map Prod.fst) :
    (m.insertAll (before ++ (block ++ after))).lookup? k = some a := by
  have hlate : find k after.reverse = none := by
    rw [← Option.not_isSome_iff_eq_none, find_isSome]
    simpa using hafter
  have hmid : find k block.reverse = some a := by
    have hsome : (find k block.reverse).isSome = true := by
      rw [find_isSome]
      simpa using hk
    obtain ⟨b, hb⟩ := Option.isSome_iff_exists.1 hsome
    have hval : b = a := hblock (k, b) (List.mem_reverse.1 (mem_of_find_eq_some hb)) rfl
    rw [hb, hval]
  -- read from the end, the pairs after the block say nothing, and the block decides
  rw [lookup?_insertAll, List.reverse_append, List.reverse_append, find_append, find_append, hlate,
    hmid]
  rfl

end OrderedMap

/-- Members in order of first occurrence are the distinct members. -/
theorem firstOccurrences_eq {α : Type} [DecidableEq α] (xs : List α) :
    firstOccurrences xs = xs.eraseDups := by
  rw [firstOccurrences, OrderedMap.keys_ofListFirst, List.map_map]
  simp [Function.comp_def]

@[simp] theorem mem_firstOccurrences {α : Type} [DecidableEq α] {x : α} {xs : List α} :
    x ∈ firstOccurrences xs ↔ x ∈ xs := by
  rw [firstOccurrences_eq, List.mem_eraseDups]

end BundleGraph
