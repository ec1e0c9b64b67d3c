/-! # Ordered map

    A finite map that remembers the order in which its keys first came. The
    entries are a list of pairs and the invariant "no key twice" is a field,
    so every map in the library has it.

    There are two ways to write. `insertNew` keeps what is already there: the
    first value of a key wins. `insert` replaces the value but not the place:
    the last value of a key wins and stands where the first one stood.

    `lookup?`, `keys` and membership are the view through which the operations
    are described; the lemmas beside each operation say what it does to them.
-/

namespace BundleGraph

/-- A finite map in order of first insertion. -/
structure OrderedMap (κ α : Type) where
  /-- Keys with their values, oldest key first. -/
  entries : List (κ × α)
  /-- No key stands twice. -/
  distinct : (entries.map Prod.fst).Nodup

namespace OrderedMap

variable {κ α : Type}

/-! ### View -/

def empty : OrderedMap κ α := ⟨[], List.nodup_nil⟩

instance : Inhabited (OrderedMap κ α) := ⟨empty⟩

def keys (m : OrderedMap κ α) : List κ := m.entries.map Prod.fst

/-- Values in the order of their keys. -/
def values (m : OrderedMap κ α) : List α := m.entries.map Prod.snd

def size (m : OrderedMap κ α) : Nat := m.entries.length

theorem nodup_keys (m : OrderedMap κ α) : m.keys.Nodup := m.distinct

@[simp] theorem keys_empty : (empty : OrderedMap κ α).keys = [] := rfl

@[simp] theorem length_keys (m : OrderedMap κ α) : m.keys.length = m.size := by
  simp [keys, size]

/-- Two maps with the same entries are equal. -/
@[ext] theorem ext {m n : OrderedMap κ α} (h : m.entries = n.entries) : m = n := by
  cases m; cases n; simp_all

variable [DecidableEq κ]

/-- Value of a key in a list of pairs: the first that matches. -/
def find (k : κ) : List (κ × α) → Option α
  | [] => none
  | (k', a) :: rest => if k' = k then some a else find k rest

def lookup? (m : OrderedMap κ α) (k : κ) : Option α := find k m.entries

def contains (m : OrderedMap κ α) (k : κ) : Bool := (m.lookup? k).isSome

theorem find_isSome (k : κ) (es : List (κ × α)) :
    (find k es).isSome = true ↔ k ∈ es.map Prod.fst := by
  induction es with
  | nil => simp [find]
  | cons e es ih =>
    obtain ⟨k', a⟩ := e
    by_cases h : k' = k
    · simp [find, h]
    · have h' : k ≠ k' := fun e => h e.symm
      simp [find, h, h', ih]

@[simp] theorem contains_iff (m : OrderedMap κ α) (k : κ) : m.contains k = true ↔ k ∈ m.keys :=
  find_isSome k m.entries

theorem lookup?_eq_none_iff (m : OrderedMap κ α) (k : κ) : m.lookup? k = none ↔ k ∉ m.keys := by
  rw [← contains_iff, contains]
  cases m.lookup? k <;> simp

theorem find_append (k : κ) (xs ys : List (κ × α)) :
    find k (xs ++ ys) = (find k xs).or (find k ys) := by
  induction xs with
  | nil => simp [find]
  | cons x xs ih =>
    obtain ⟨k', a⟩ := x
    by_cases h : k' = k <;> simp [find, h, ih]

/-- Equality with an entry is the same as looking its key up. -/
theorem mem_entries_iff (m : OrderedMap κ α) (k : κ) (a : α) :
    (k, a) ∈ m.entries ↔ m.lookup? k = some a := by
  obtain ⟨es, h⟩ := m
  simp only [lookup?]
  induction es with
  | nil => simp [find]
  | cons e es ih =>
    obtain ⟨k', a'⟩ := e
    simp only [List.map_cons, List.nodup_cons] at h
    by_cases hk : k' = k
    · subst hk
      have hn : ∀ b, (k', b) ∉ es := fun b hb =>
        h.1 (List.mem_map.2 ⟨(k', b), hb, rfl⟩)
      simp [find, hn, eq_comm]
    · have hk' : k ≠ k' := fun e => hk e.symm
      simp [find, hk, hk', ih h.2]

/-! ### First value wins -/

/-- Adds a key that is new; an old key keeps its value. -/
def insertNew (m : OrderedMap κ α) (k : κ) (a : α) : OrderedMap κ α :=
  if h : k ∈ m.keys then m
  else
    ⟨m.entries ++ [(k, a)], by
      have hk : k ∉ m.entries.map Prod.fst := h
      simp only [List.map_append, List.map_cons, List.map_nil, List.nodup_append,
        m.distinct, true_and]
      refine ⟨by simp, ?_⟩
      intro x hx y hy
      simp only [List.mem_singleton] at hy
      subst hy
      exact fun e => hk (e ▸ hx)⟩

theorem keys_insertNew (m : OrderedMap κ α) (k : κ) (a : α) :
    (m.insertNew k a).keys = if k ∈ m.keys then m.keys else m.keys ++ [k] := by
  unfold insertNew
  split <;> simp [keys]

theorem lookup?_insertNew (m : OrderedMap κ α) (k k' : κ) (a : α) :
    (m.insertNew k a).lookup? k' = (m.lookup? k').or (if k' = k then some a else none) := by
  unfold insertNew
  split
  · rename_i h
    by_cases hk : k' = k
    · subst hk
      obtain ⟨b, hb⟩ := Option.isSome_iff_exists.1 ((contains_iff m k').2 h)
      simp [hb]
    · simp [hk]
  · simp only [lookup?, find_append, find]
    by_cases hk : k' = k
    · simp [hk]
    · have : k ≠ k' := fun e => hk e.symm
      simp [hk, this]

/-! ### Last value wins, in the first place -/

/-- Gives a key a value; a key that has one keeps its place. -/
def insert (m : OrderedMap κ α) (k : κ) (a : α) : OrderedMap κ α :=
  if k ∈ m.keys then
    ⟨m.entries.map fun e => if e.1 = k then (k, a) else e, by
      have : (m.entries.map fun e => if e.1 = k then (k, a) else e).map Prod.fst
          = m.entries.map Prod.fst := by
        rw [List.map_map]
        apply List.map_congr_left
        intro e _
        by_cases h : e.1 = k <;> simp [h]
      rw [this]
      exact m.distinct⟩
  else m.insertNew k a

theorem keys_insert (m : OrderedMap κ α) (k : κ) (a : α) :
    (m.insert k a).keys = if k ∈ m.keys then m.keys else m.keys ++ [k] := by
  unfold insert
  split
  · simp only [keys, List.map_map]
    apply List.map_congr_left
    intro e _
    by_cases h : e.1 = k <;> simp [h]
  · rename_i h
    simp [keys_insertNew, h]

theorem find_replace (k k' : κ) (a : α) (es : List (κ × α)) :
    find k' (es.map fun e => if e.1 = k then (k, a) else e)
      = if k' = k then (find k es).map (fun _ => a) else find k' es := by
  induction es with
  | nil => simp [find]
  | cons e es ih =>
    obtain ⟨j, b⟩ := e
    by_cases hj : j = k
    · subst hj
      by_cases hk : k' = j
      · simp [find, hk]
      · have : j ≠ k' := fun e => hk e.symm
        simp [find, hk, this, ih]
    · by_cases hk : k' = k
      · subst hk; simp [find, hj, ih]
      · simp [find, hj, hk, ih]

@[simp] theorem lookup?_insert (m : OrderedMap κ α) (k k' : κ) (a : α) :
    (m.insert k a).lookup? k' = if k' = k then some a else m.lookup? k' := by
  unfold insert
  split
  · rename_i h
    simp only [lookup?, find_replace]
    obtain ⟨b, hb⟩ := Option.isSome_iff_exists.1 ((contains_iff m k).2 h)
    simp only [lookup?] at hb
    simp [hb]
  · rename_i h
    rw [lookup?_insertNew]
    have := (lookup?_eq_none_iff m k).2 h
    by_cases hk : k' = k <;> simp [hk, this]

/-! ### Whole lists -/

/-- Inserts pairs from left to right; the first value of a key wins. -/
def insertAllNew (m : OrderedMap κ α) (pairs : List (κ × α)) : OrderedMap κ α :=
  pairs.foldl (fun m e => m.insertNew e.1 e.2) m

/-- The map of a list of pairs in which the first value of a key wins. -/
def ofListFirst (pairs : List (κ × α)) : OrderedMap κ α := empty.insertAllNew pairs

/-- The map of a list of pairs in which the last value of a key wins. -/
def ofListLast (pairs : List (κ × α)) : OrderedMap κ α :=
  pairs.foldl (fun m e => m.insert e.1 e.2) empty

/-! ### Other values -/

def mapValues {β : Type} (m : OrderedMap κ α) (f : α → β) : OrderedMap κ β :=
  ⟨m.entries.map fun e => (e.1, f e.2), by
    simpa [List.map_map, Function.comp_def] using m.distinct⟩

theorem find_map {β : Type} (f : α → β) (k : κ) (es : List (κ × α)) :
    find k (es.map fun e => (e.1, f e.2)) = (find k es).map f := by
  induction es with
  | nil => rfl
  | cons e es ih => by_cases h : e.1 = k <;> simp [find, h, ih]

@[simp] theorem lookup?_mapValues {β : Type} (m : OrderedMap κ α) (f : α → β) (k : κ) :
    (m.mapValues f).lookup? k = (m.lookup? k).map f :=
  find_map f k m.entries

end OrderedMap

/-! ### Distinct members of a list -/

/-- Members of a list in order of first occurrence, each once. -/
def firstOccurrences {α : Type} [DecidableEq α] (xs : List α) : List α :=
  (OrderedMap.ofListFirst (xs.map fun x => (x, ()))).keys

theorem nodup_firstOccurrences {α : Type} [DecidableEq α] (xs : List α) :
    (firstOccurrences xs).Nodup :=
  OrderedMap.nodup_keys _

end BundleGraph
