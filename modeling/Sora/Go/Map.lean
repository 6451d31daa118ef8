import Sora.Db.Schema

/-
Module: Sora.Go.Map
Purpose: A Go `map[string]V`: one entry per key, in no order the code can observe except through
  `range`, whose order Go leaves open. Reading a key, `len`, assigning a key, `delete`, and a
  `range` that deletes the entries it does not keep.
Trusted boundary: none.
Main exports: assign, GoMap, GoMap.get?, GoMap.len, GoMap.insert, GoMap.delete, GoMap.filter,
  RangeOrder
-/

namespace Sora

open Sora.Db (Bytes)

/-- `m[key] = value` on a map's entries: the entry of `key` is replaced in place, or a new entry
is added. -/
def assign {α : Type} : List (Bytes × α) → Bytes → α → List (Bytes × α)
  | [], key, value => [(key, value)]
  | e :: rest, key, value => if e.1 = key then (key, value) :: rest else e :: assign rest key value

theorem keys_assign {α : Type} (entries : List (Bytes × α)) (key : Bytes) (value : α) :
    (assign entries key value).map (·.1) =
      if key ∈ entries.map (·.1) then entries.map (·.1) else entries.map (·.1) ++ [key] := by
  induction entries with
  | nil => simp [assign]
  | cons e rest ih =>
    by_cases same : e.1 = key
    · simp [assign, same]
    · have other : key ≠ e.1 := Ne.symm same
      simp only [assign, same, ↓reduceIte, List.map_cons, ih, List.mem_cons, other, false_or]
      split_ifs <;> rfl

/-- An entry after `m[key] = value` was there before, or is the one stored. -/
theorem mem_assign {α : Type} {entries : List (Bytes × α)} {key : Bytes} {value : α}
    {e : Bytes × α} (h : e ∈ assign entries key value) :
    e ∈ entries ∨ e = (key, value) := by
  induction entries with
  | nil => simpa [assign] using h
  | cons x rest ih =>
    simp only [assign] at h
    split_ifs at h
    · rcases List.mem_cons.mp h with rfl | h
      · exact .inr rfl
      · exact .inl (List.mem_cons_of_mem _ h)
    · rcases List.mem_cons.mp h with rfl | h
      · exact .inl (List.mem_cons_self _ _)
      · exact (ih h).imp_left (List.mem_cons_of_mem _)

/-- Deleting a key of the map deletes one entry. -/
theorem length_filter_key {α : Type} :
    ∀ {entries : List (Bytes × α)} {key : Bytes}, (entries.map (·.1)).Nodup →
      key ∈ entries.map (·.1) → (entries.filter (·.1 != key)).length + 1 = entries.length
  | [], _, _, h => absurd h (by simp)
  | x :: rest, key, nd, h => by
    simp only [List.map_cons, List.nodup_cons, List.mem_cons] at nd h
    by_cases hx : x.1 = key
    · subst hx
      have : rest.filter (·.1 != x.1) = rest := List.filter_eq_self.mpr fun e he => by
        simp only [bne_iff_ne, ne_eq]
        exact fun same => nd.1 (same ▸ List.mem_map_of_mem _ he)
      simp [List.filter_cons, this]
    · have := length_filter_key nd.2 (h.resolve_left (Ne.symm hx))
      simp [List.filter_cons, hx, this]

/-- `m[key] = value` keeps the entries of other keys. -/
theorem mem_assign_of_ne {α : Type} {entries : List (Bytes × α)} {key : Bytes} {value : α}
    {e : Bytes × α} (h : e ∈ entries) (other : e.1 ≠ key) :
    e ∈ assign entries key value := by
  induction entries with
  | nil => cases h
  | cons x rest ih =>
    simp only [assign]
    rcases List.mem_cons.mp h with rfl | h
    · simp [other]
    · split_ifs
      · exact List.mem_cons_of_mem _ h
      · exact List.mem_cons_of_mem _ (ih h)

/-- After `m[key] = value`, `m[key]` is `value`. -/
theorem lookup_assign_self {α : Type} (entries : List (Bytes × α)) (key : Bytes) (value : α) :
    (assign entries key value).lookup key = some value := by
  induction entries with
  | nil => simp [assign]
  | cons e rest ih =>
    obtain ⟨k, v⟩ := e
    by_cases same : k = key
    · simp [assign, same]
    · simp [assign, same, List.lookup_cons, beq_false_of_ne (Ne.symm same), ih]

/-- `m[key] = value` leaves `m[other]` as it was. -/
theorem lookup_assign_ne {α : Type} (entries : List (Bytes × α)) {key other : Bytes} (value : α)
    (h : other ≠ key) : (assign entries key value).lookup other = entries.lookup other := by
  induction entries with
  | nil => simp [assign, List.lookup_cons, beq_false_of_ne h]
  | cons e rest ih =>
    obtain ⟨k, v⟩ := e
    by_cases same : k = key
    · subst same
      simp [assign, List.lookup_cons, beq_false_of_ne h]
    · simp [assign, same, List.lookup_cons, ih]

/-- A Go `map[string]V`, by its entries: one per key. -/
structure GoMap (α : Type) where
  entries : List (Bytes × α)
  keys_nodup : (entries.map (·.1)).Nodup

namespace GoMap

variable {α : Type}

/-- `make(map[string]V)`. -/
def empty : GoMap α :=
  ⟨[], List.nodup_nil⟩

/-- `m[key]`, with its `ok`. -/
def get? (m : GoMap α) (key : Bytes) : Option α :=
  m.entries.lookup key

/-- `len(m)`. -/
def len (m : GoMap α) : Nat :=
  m.entries.length

/-- `m[key] = value`. -/
def insert (m : GoMap α) (key : Bytes) (value : α) : GoMap α :=
  ⟨assign m.entries key value, by
    rw [keys_assign]
    split_ifs with present
    · exact m.keys_nodup
    · exact List.nodup_append.mpr ⟨m.keys_nodup, List.nodup_singleton key,
        fun _ old new => present (List.mem_singleton.mp new ▸ old)⟩⟩

/-- `delete(m, key)`. -/
def delete (m : GoMap α) (key : Bytes) : GoMap α :=
  ⟨m.entries.filter (·.1 != key), m.keys_nodup.sublist ((List.filter_sublist _).map _)⟩

/-- A `range` over the map that deletes every entry `keep` does not hold of. Deleting the entry
a `range` is at does not change which others it visits, so the order does not matter. -/
def filter (m : GoMap α) (keep : Bytes → α → Bool) : GoMap α :=
  ⟨m.entries.filter (fun e => keep e.1 e.2),
    m.keys_nodup.sublist ((List.filter_sublist _).map _)⟩

theorem get?_insert_self (m : GoMap α) (key : Bytes) (value : α) :
    (m.insert key value).get? key = some value :=
  lookup_assign_self m.entries key value

theorem get?_insert_ne (m : GoMap α) {key other : Bytes} (value : α) (h : other ≠ key) :
    (m.insert key value).get? other = m.get? other :=
  lookup_assign_ne m.entries value h

theorem len_insert (m : GoMap α) (key : Bytes) (value : α) :
    (m.insert key value).len = if key ∈ m.entries.map (·.1) then m.len else m.len + 1 := by
  have := congrArg List.length (keys_assign m.entries key value)
  simp only [List.length_map] at this
  simp only [len, insert, this]
  split_ifs <;> simp

theorem len_delete_of_mem (m : GoMap α) {key : Bytes} (present : key ∈ m.entries.map (·.1)) :
    (m.delete key).len + 1 = m.len :=
  length_filter_key m.keys_nodup present

theorem len_filter_le (m : GoMap α) (keep : Bytes → α → Bool) :
    (m.filter keep).len ≤ m.len :=
  List.length_filter_le _ _

end GoMap

/-- An order in which `for key, value := range m` visits the entries. Go leaves it open and may
choose another at each `range`. -/
structure RangeOrder (α : Type) where
  visit : List (Bytes × α) → List (Bytes × α)
  perm : ∀ entries, (visit entries).Perm entries

end Sora
