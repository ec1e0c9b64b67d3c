import BundleGraph.Document.Check

/-! # Checks that pass

    A check passes with a value if each part of it does. The lemmas here say so
    for every way in which checks are put together, so that a record can be
    followed field by field: `Checked.Gives` for a check that passes, and
    `Checked.IsBad` for one that does not.

    A check of a field or of an item takes the value together with the reason
    why it is smaller than the whole. What it gives does not depend on that
    reason, so the lemmas ask for every one.
-/

namespace BundleGraph.Document

variable {α β γ : Type}

/-! ### Outcomes -/

namespace Checked

/-- `c.Gives a`: the check passes with the value `a`. -/
def Gives (c : Checked α) (a : α) : Prop := ∃ given, c = .ok a given

/-- `c.IsBad`: the check does not pass. -/
def IsBad (c : Checked α) : Prop := ∃ issues, c = .bad issues

theorem gives_ok (a : α) (given : Nat) : (Checked.ok a given).Gives a := ⟨given, rfl⟩

/-- A check passes with a value exactly if the value is what a reader gets. -/
theorem toExcept_eq_ok_iff {c : Checked α} {record : String} {a : α} :
    c.toExcept record = .ok a ↔ c.Gives a := by
  cases c with
  | ok b given => simp [toExcept, Gives]
  | bad issues => simp [toExcept, Gives]

theorem Gives.map {c : Checked α} {a : α} (h : c.Gives a) (f : α → β) : (c.map f).Gives (f a) := by
  obtain ⟨given, rfl⟩ := h
  exact ⟨given, rfl⟩

/-- The first field of a record. -/
theorem Gives.first {c : Checked α} {a : α} (h : c.Gives a) (f : α → β) :
    (f <$> c).Gives (f a) := by
  obtain ⟨given, rfl⟩ := h
  exact ⟨0 + given, rfl⟩

/-- A further field of a record. -/
theorem Gives.seq {cf : Checked (α → β)} {f : α → β} {c : Checked α} {a : α} (hf : cf.Gives f)
    (h : c.Gives a) : (cf <*> c).Gives (f a) := by
  obtain ⟨before, rfl⟩ := hf
  obtain ⟨given, rfl⟩ := h
  exact ⟨before + given, rfl⟩

theorem Gives.under {c : Checked α} {a : α} (h : c.Gives a) (s : Step) : (c.under s).Gives a := by
  obtain ⟨given, rfl⟩ := h
  exact ⟨given, rfl⟩

theorem Gives.counted {c : Checked α} {a : α} (h : c.Gives a) : c.counted.Gives a := by
  obtain ⟨given, rfl⟩ := h
  exact ⟨given + 1, rfl⟩

/-- A record with a bad field is bad. -/
theorem IsBad.last {c : Checked α} (h : c.IsBad) (cf : Checked (α → β)) : (cf <*> c).IsBad := by
  obtain ⟨issues, rfl⟩ := h
  cases cf with
  | ok f before => exact ⟨issues, rfl⟩
  | bad earlier => exact ⟨earlier ++ issues, rfl⟩

/-- What is bad stays bad with further fields. -/
theorem IsBad.seq {cf : Checked (α → β)} (h : cf.IsBad) (c : Checked α) : (cf <*> c).IsBad := by
  obtain ⟨issues, rfl⟩ := h
  cases c with
  | ok a given => exact ⟨issues, rfl⟩
  | bad later => exact ⟨issues ++ later, rfl⟩

theorem IsBad.under {c : Checked α} (h : c.IsBad) (s : Step) : (c.under s).IsBad := by
  obtain ⟨issues, rfl⟩ := h
  exact ⟨issues.map (Issue.under s), rfl⟩

theorem IsBad.counted {c : Checked α} (h : c.IsBad) : c.counted.IsBad := by
  obtain ⟨issues, rfl⟩ := h
  exact ⟨issues, rfl⟩

/-- Items that were written from values, and that pass one by one, pass as a list. -/
theorem gives_traverseFrom {check : γ → Checked α} {view : γ → β} {write : α → β} {items : List γ}
    {xs : List α} (hitems : items.map view = xs.map write)
    (h : ∀ x ∈ xs, ∀ item, view item = write x → (check item).Gives x) (i : Nat) :
    (traverseFrom i check items).Gives xs := by
  induction xs generalizing items i with
  | nil =>
    obtain rfl := List.map_eq_nil_iff.1 hitems
    exact gives_ok [] 0
  | cons x xs ih =>
    obtain ⟨item, rest, rfl, hitem, hrest⟩ := List.map_eq_cons_iff.1 hitems
    have hfirst := h x List.mem_cons_self item hitem
    have hothers := ih hrest (fun y hy => h y (List.mem_cons_of_mem _ hy)) (i + 1)
    exact ((hfirst.under (.index i)).map List.cons).seq hothers

end Checked

/-! ### Members of an object -/

/-- The member that is found is the first one of its name. -/
theorem map_val_findMember (name : String) (members : List (String × Json)) :
    (Json.findMember name members).map Subtype.val = OrderedMap.find name members := by
  induction members with
  | nil => rfl
  | cons member rest ih =>
    obtain ⟨k, v⟩ := member
    rw [Json.findMember, OrderedMap.find]
    split
    · rfl
    · rw [← ih, Option.map_map]
      rfl

section

variable {members : List (String × Json)} {f : FieldName} {v : Json}

/-- A field that is given under its name on the wire is found there. -/
theorem exists_find_eq_some (h : OrderedMap.find f.wire members = some v) :
    ∃ hv : sizeOf v < sizeOf (Json.obj members),
      find (.obj members) f = some (f.wire, ⟨v, hv⟩) := by
  rw [← map_val_findMember] at h
  obtain ⟨found, hfound, rfl⟩ := Option.map_eq_some_iff.1 h
  rw [find, Json.member?, hfound]
  exact ⟨_, rfl⟩

/-- A record's fields, where there are fields. -/
theorem gives_object {fields : Checked α} {a : α} (h : fields.Gives a) :
    (object (.obj members) fields).Gives a := h

theorem isBad_object {fields : Checked α} (h : fields.IsBad) :
    (object (.obj members) fields).IsBad := h

theorem gives_field {absent a : α} {check : (Json.obj members).Inside → Checked α}
    (h : OrderedMap.find f.wire members = some v) (hv : ∀ hv, (check ⟨v, hv⟩).Gives a) :
    (field (.obj members) f absent check).Gives a := by
  obtain ⟨hin, hfound⟩ := exists_find_eq_some h
  rw [field, hfound]
  exact ((hv hin).under _).counted

theorem gives_required {a : α} {check : (Json.obj members).Inside → Checked α}
    (h : OrderedMap.find f.wire members = some v) (hv : ∀ hv, (check ⟨v, hv⟩).Gives a) :
    (required (.obj members) f check).Gives a := by
  obtain ⟨hin, hfound⟩ := exists_find_eq_some h
  rw [required, hfound]
  exact ((hv hin).under _).counted

theorem isBad_field {absent : α} {check : (Json.obj members).Inside → Checked α}
    (h : OrderedMap.find f.wire members = some v) (hv : ∀ hv, (check ⟨v, hv⟩).IsBad) :
    (field (.obj members) f absent check).IsBad := by
  obtain ⟨hin, hfound⟩ := exists_find_eq_some h
  rw [field, hfound]
  exact ((hv hin).under _).counted

end

/-! ### Items of a list -/

/-- A list of written items passes if each item does. -/
theorem gives_listOf {xs : List α} {write : α → Json}
    {check : (Json.arr (xs.map write)).Inside → Checked α}
    (h : ∀ x ∈ xs, ∀ hx, (check ⟨write x, hx⟩).Gives x) :
    (listOf (.arr (xs.map write)) check).Gives xs := by
  have hitems : ∃ items, (Json.arr (xs.map write)).items? = some items ∧
      items.map Subtype.val = xs.map write := by
    refine ⟨_, rfl, ?_⟩
    rw [List.map_map]
    exact List.attach_map_subtype_val _
  obtain ⟨items, hfound, hwritten⟩ := hitems
  rw [listOf, hfound]
  apply Checked.gives_traverseFrom hwritten
  intro x hx item hitem
  obtain ⟨j, hj⟩ := item
  obtain rfl : j = write x := hitem
  exact h x hx hj

theorem gives_strings (xs : List String) : (strings (.arr (xs.map Json.str))).Gives xs :=
  gives_listOf fun x _ _ => Checked.gives_ok x 0

/-! ### Plain values -/

/-- A name passes with what it stands for. -/
theorem gives_oneOf {names : List (String × α)} {name : String} {a : α}
    (h : names.find? (·.1 = name) = some (name, a)) : (oneOf names (.str name)).Gives a := by
  rw [oneOf, h]
  exact Checked.gives_ok a 0

theorem isBad_oneOf {names : List (String × α)} {name : String}
    (h : names.find? (·.1 = name) = none) : (oneOf names (.str name)).IsBad := by
  rw [oneOf, h]
  exact ⟨_, rfl⟩

theorem gives_natural (n : Nat) : (natural (.int n)).Gives n := by
  simp [natural, integer, Checked.Gives]

/-! ### Choices -/

section

variable {leftName rightName : String} {left : Checked α} {right : Checked β}

/-- Where only the first record passes, it is the one that is chosen. -/
theorem gives_eitherRecord_left {a : α} (hl : left.Gives a) (hr : right.IsBad) :
    (eitherRecord leftName rightName left right).Gives (.inl a) := by
  obtain ⟨given, rfl⟩ := hl
  obtain ⟨issues, rfl⟩ := hr
  exact ⟨given, rfl⟩

/-- Where only the second record passes, it is the one that is chosen. -/
theorem gives_eitherRecord_right {b : β} (hl : left.IsBad) (hr : right.Gives b) :
    (eitherRecord leftName rightName left right).Gives (.inr b) := by
  obtain ⟨issues, rfl⟩ := hl
  obtain ⟨given, rfl⟩ := hr
  exact ⟨given, rfl⟩

end

end BundleGraph.Document
