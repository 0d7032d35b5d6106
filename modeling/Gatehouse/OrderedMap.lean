/-!
# Ordered maps

An ordered map assigns values to keys that can be compared. Its entries are kept in ascending order
of their keys, so maps that assign the same values are equal, in whatever order these were set.

## Main definitions

* `OrderedMap` : entries with ascending keys.
* `OrderedMap.get?` : the value of a key; the view that the operations are stated by.
* `OrderedMap.insert` : sets the value of a key.
* `OrderedMap.values` : the values, in ascending order of their keys.
-/

namespace Gatehouse

section Entries

variable {κ α : Type} [LT κ] [DecidableLT κ]

/-- The entries with the value of a key set, in its place. -/
def setEntry (key : κ) (value : α) : List (κ × α) → List (κ × α)
  | [] => [(key, value)]
  | (k, v) :: rest =>
    if key < k then (key, value) :: (k, v) :: rest
    else if k < key then (k, v) :: setEntry key value rest
    else (key, value) :: rest

theorem mem_setEntry {key : κ} {value : α} {x : κ × α} {entries : List (κ × α)}
    (h : x ∈ setEntry key value entries) : x = (key, value) ∨ x ∈ entries := by
  induction entries with
  | nil => simpa [setEntry] using h
  | cons e rest ih =>
    obtain ⟨k, v⟩ := e
    rw [setEntry] at h
    split at h
    · simpa using h
    · split at h
      · rcases List.mem_cons.1 h with rfl | h
        · exact .inr List.mem_cons_self
        · exact (ih h).imp id (List.mem_cons_of_mem _)
      · exact (List.mem_cons.1 h).imp id (List.mem_cons_of_mem _)

variable [LE κ] [Std.IsLinearOrder κ] [Std.LawfulOrderLT κ]

/-- Setting the value of a key keeps the keys in ascending order. -/
theorem pairwise_setEntry {key : κ} {value : α} {entries : List (κ × α)}
    (h : entries.Pairwise fun x y => x.1 < y.1) :
    (setEntry key value entries).Pairwise fun x y => x.1 < y.1 := by
  induction entries with
  | nil => simp [setEntry]
  | cons e rest ih =>
    obtain ⟨k, v⟩ := e
    obtain ⟨hfirst, hrest⟩ := List.pairwise_cons.1 h
    rw [setEntry]
    split
    next hlt =>
      refine List.pairwise_cons.2 ⟨fun x hx => ?_, h⟩
      rcases List.mem_cons.1 hx with rfl | hx
      · exact hlt
      · exact Trans.trans hlt (hfirst x hx)
    next hle =>
      split
      next hlt =>
        refine List.pairwise_cons.2 ⟨fun x hx => ?_, ih hrest⟩
        rcases mem_setEntry hx with rfl | hx
        · exact hlt
        · exact hfirst x hx
      next hge =>
        obtain rfl : key = k := Std.Trichotomous.trichotomous (r := (· < ·)) key k hle hge
        exact List.pairwise_cons.2 ⟨hfirst, hrest⟩

end Entries

/-- Values assigned to keys. -/
structure OrderedMap (κ α : Type) [LT κ] where
  entries : List (κ × α)
  ascending : entries.Pairwise fun x y => x.1 < y.1

namespace OrderedMap

variable {κ α : Type} [LT κ]

/-- No entry. -/
def empty : OrderedMap κ α := ⟨[], .nil⟩

/-- The value of a key. -/
def get? [DecidableEq κ] (m : OrderedMap κ α) (key : κ) : Option α :=
  (m.entries.find? (·.1 == key)).map (·.2)

/-- The values, in ascending order of their keys. -/
def values (m : OrderedMap κ α) : List α := m.entries.map (·.2)

@[simp] theorem get?_empty [DecidableEq κ] (key : κ) :
    (empty : OrderedMap κ α).get? key = none := rfl

variable [LE κ] [Std.LawfulOrderLT κ]

/-- No key comes up twice. -/
theorem nodup_keys (m : OrderedMap κ α) : (m.entries.map (·.1)).Nodup :=
  List.pairwise_map.2 (m.ascending.imp Std.ne_of_lt)

variable [DecidableEq κ] {m m' : OrderedMap κ α} {key : κ} {value : α}

/-- The value of a key stands in its entry. -/
theorem get?_eq_some_iff : m.get? key = some value ↔ (key, value) ∈ m.entries := by
  obtain ⟨entries, ascending⟩ := m
  simp only [get?, Option.map_eq_some_iff]
  induction entries with
  | nil => simp
  | cons e rest ih =>
    obtain ⟨hfirst, hrest⟩ := List.pairwise_cons.1 ascending
    obtain ⟨k, v⟩ := e
    by_cases hk : k = key
    · subst hk
      have hother : (k, value) ∉ rest := fun h => Std.lt_irrefl (show k < k from hfirst _ h)
      simp [hother, eq_comm]
    · have hother : (key, value) ≠ (k, v) := fun h => hk (congrArg Prod.fst h).symm
      rw [List.find?_cons_of_neg (by simpa using hk), ih hrest, List.mem_cons]
      exact (or_iff_right hother).symm

theorem mem_values_iff : value ∈ m.values ↔ ∃ key, m.get? key = some value := by
  simp [values, get?_eq_some_iff]

section KeyOf

variable {keyOf : α → κ} (h : ∀ key value, m.get? key = some value → keyOf value = key)

include h

/-- Values that know their keys tell them. -/
theorem map_values_eq_keys : m.values.map keyOf = m.entries.map (·.1) := by
  rw [values, List.map_map]
  exact List.map_congr_left fun entry hentry => h entry.1 entry.2 (get?_eq_some_iff.2 hentry)

/-- Values that know their keys are in ascending order of them. -/
theorem ascending_map_values : (m.values.map keyOf).Pairwise (· < ·) := by
  rw [map_values_eq_keys h]
  exact List.pairwise_map.2 m.ascending

/-- Values that know their keys have distinct ones. -/
theorem nodup_map_values : (m.values.map keyOf).Nodup := by
  rw [map_values_eq_keys h]
  exact m.nodup_keys

end KeyOf

variable [Std.IsLinearOrder κ]

/-- Two maps that assign the same values are equal. -/
theorem eq_of_get?_eq (h : ∀ key, m.get? key = m'.get? key) : m = m' := by
  have hmem (x : κ × α) : x ∈ m.entries ↔ x ∈ m'.entries := by
    rw [← get?_eq_some_iff (m := m), ← get?_eq_some_iff (m := m'), h]
  have hnodup (m : OrderedMap κ α) : m.entries.Nodup :=
    m.ascending.imp fun hlt heq => Std.ne_of_lt hlt (congrArg Prod.fst heq)
  have hperm := (List.perm_ext_iff_of_nodup (hnodup m) (hnodup m')).2 hmem
  have hentries : m.entries = m'.entries :=
    hperm.eq_of_pairwise (fun _ _ _ _ hab hba => absurd (Std.lt_trans hab hba) Std.lt_irrefl)
      m.ascending m'.ascending
  cases m
  cases m'
  congr

variable [DecidableLT κ]

/-- Sets the value of a key. -/
def insert (m : OrderedMap κ α) (key : κ) (value : α) : OrderedMap κ α :=
  ⟨setEntry key value m.entries, pairwise_setEntry m.ascending⟩

/-- After setting the value of a key, this key has it and all others have what they had. -/
theorem get?_insert (m : OrderedMap κ α) (key key' : κ) (value : α) :
    (m.insert key value).get? key' = if key' = key then some value else m.get? key' := by
  obtain ⟨entries, ascending⟩ := m
  simp only [get?, insert]
  clear ascending
  induction entries with
  | nil => by_cases h : key' = key <;> simp [setEntry, h, Ne.symm]
  | cons e rest ih =>
    obtain ⟨k, v⟩ := e
    rw [setEntry]
    split
    next => by_cases h : key = key' <;> simp [h, Ne.symm]
    next hle =>
      split
      next hlt =>
        by_cases hk : k = key'
        · subst hk
          simp [Std.ne_of_lt hlt]
        · rw [List.find?_cons_of_neg (by simpa using hk), ih,
            List.find?_cons_of_neg (by simpa using hk)]
      next hge =>
        obtain rfl : key = k := Std.Trichotomous.trichotomous (r := (· < ·)) key k hle hge
        by_cases h : key = key' <;> simp [h, Ne.symm]

end OrderedMap

end Gatehouse
