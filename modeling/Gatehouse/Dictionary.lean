/-!
# Dictionaries

A dictionary assigns values to texts. Its entries are kept in the order in which their keys first
came up, and no key comes up twice.

## Main definitions

* `Dictionary` : entries with distinct keys.
* `Dictionary.get?` : the value of a key.
* `Dictionary.insert` : sets the value of a key, in its old place if it has one.
* `Dictionary.values` : the values.
* `Dictionary.ofEntries` : the dictionary in which later entries replace earlier ones.
-/

namespace Gatehouse

/-- The entries with the value of a key set, in its old place or at the end. -/
def insertEntry {α : Type} (key : String) (value : α) :
    List (String × α) → List (String × α)
  | [] => [(key, value)]
  | (k, v) :: rest =>
    if k = key then (k, value) :: rest else (k, v) :: insertEntry key value rest

theorem mem_keys_insertEntry {α : Type} (key : String) (value : α) (k : String)
    (entries : List (String × α)) :
    k ∈ (insertEntry key value entries).map Prod.fst ↔
      k = key ∨ k ∈ entries.map Prod.fst := by
  induction entries with
  | nil => simp [insertEntry]
  | cons e rest ih =>
    obtain ⟨k', v⟩ := e
    by_cases h : k' = key
    · simp only [insertEntry, h, if_true, List.map_cons, List.mem_cons]
      grind
    · simp only [insertEntry, h, if_false, List.map_cons, List.mem_cons, ih]
      grind

theorem nodup_keys_insertEntry {α : Type} (key : String) (value : α)
    (entries : List (String × α)) (h : (entries.map Prod.fst).Nodup) :
    ((insertEntry key value entries).map Prod.fst).Nodup := by
  induction entries with
  | nil => simp [insertEntry]
  | cons e rest ih =>
    obtain ⟨k, v⟩ := e
    rw [List.map_cons, List.nodup_cons] at h
    by_cases hk : k = key
    · subst hk
      simpa only [insertEntry, if_true, List.map_cons, List.nodup_cons] using h
    · simp only [insertEntry, hk, if_false, List.map_cons, List.nodup_cons]
      refine ⟨fun hm => ?_, ih h.2⟩
      rcases (mem_keys_insertEntry key value k rest).1 hm with rfl | hm
      · exact hk rfl
      · exact h.1 hm

theorem find?_insertEntry {α : Type} (key : String) (value : α) (k : String)
    (entries : List (String × α)) :
    ((insertEntry key value entries).find? (·.1 == k)).map (·.2) =
      if k = key then some value else (entries.find? (·.1 == k)).map (·.2) := by
  induction entries with
  | nil => grind [insertEntry]
  | cons e rest ih =>
    obtain ⟨k', v⟩ := e
    by_cases h : k' = key
    · simp only [insertEntry, h, if_true, List.find?_cons]
      grind
    · simp only [insertEntry, h, if_false, List.find?_cons]
      grind

/-- An entry that is there already stays as it is. -/
theorem insertEntry_of_mem {α : Type} {key : String} {value : α} {entries : List (String × α)}
    (hnodup : (entries.map Prod.fst).Nodup) (h : (key, value) ∈ entries) :
    insertEntry key value entries = entries := by
  induction entries with
  | nil => cases h
  | cons e rest ih =>
    obtain ⟨k, v⟩ := e
    obtain ⟨hk, hrest⟩ := List.nodup_cons.1 hnodup
    rcases List.mem_cons.1 h with heq | hmem
    · obtain ⟨rfl, rfl⟩ := Prod.mk.inj heq
      rw [insertEntry, if_pos rfl]
    · have hkey : k ≠ key := fun heq => hk (heq ▸ List.mem_map.2 ⟨_, hmem, rfl⟩)
      rw [insertEntry, if_neg hkey, ih hrest hmem]

/-- A key that has not come up gets its entry at the end. -/
theorem insertEntry_of_notMem {α : Type} {key : String} (value : α) {entries : List (String × α)}
    (h : key ∉ entries.map Prod.fst) :
    insertEntry key value entries = entries ++ [(key, value)] := by
  induction entries with
  | nil => rfl
  | cons e rest ih =>
    obtain ⟨k, v⟩ := e
    rw [List.map_cons, List.mem_cons, not_or] at h
    rw [insertEntry, if_neg (Ne.symm h.1), ih h.2, List.cons_append]

/-- Values assigned to texts. -/
structure Dictionary (α : Type) where
  entries : List (String × α)
  keys_nodup : (entries.map Prod.fst).Nodup
  deriving DecidableEq

namespace Dictionary

variable {α : Type}

/-- No entry. -/
def empty : Dictionary α := ⟨[], List.nodup_nil⟩

/-- The value of a key. -/
def get? (d : Dictionary α) (key : String) : Option α :=
  (d.entries.find? (·.1 == key)).map (·.2)

/-- The values. -/
def values (d : Dictionary α) : List α := d.entries.map (·.2)

/-- Sets the value of a key. -/
def insert (d : Dictionary α) (key : String) (value : α) : Dictionary α :=
  ⟨insertEntry key value d.entries, nodup_keys_insertEntry key value d.entries d.keys_nodup⟩

@[simp]
theorem get?_empty (key : String) : (empty : Dictionary α).get? key = none := rfl

theorem get?_insert (d : Dictionary α) (key k : String) (value : α) :
    (d.insert key value).get? k = if k = key then some value else d.get? k :=
  find?_insertEntry key value k d.entries

/-- The value of a key stands in its entry. -/
theorem get?_eq_some_iff {d : Dictionary α} {key : String} {value : α} :
    d.get? key = some value ↔ (key, value) ∈ d.entries := by
  obtain ⟨entries, keys_nodup⟩ := d
  simp only [get?, Option.map_eq_some_iff]
  induction entries with
  | nil => simp
  | cons e rest ih =>
    obtain ⟨k, v⟩ := e
    obtain ⟨hk, hrest⟩ := List.nodup_cons.1 keys_nodup
    by_cases hkey : k = key
    · subst hkey
      have hother : (k, value) ∉ rest := fun h => hk (List.mem_map.2 ⟨_, h, rfl⟩)
      simp [hother, eq_comm]
    · have hother : (key, value) ≠ (k, v) := fun h => hkey (congrArg Prod.fst h).symm
      rw [List.find?_cons_of_neg (by simpa using hkey), ih hrest, List.mem_cons]
      exact (or_iff_right hother).symm

theorem mem_values_iff {d : Dictionary α} {value : α} :
    value ∈ d.values ↔ ∃ key, d.get? key = some value := by
  simp [values, get?_eq_some_iff]

/-- Setting a value that the key has already changes nothing. -/
theorem insert_of_get? {d : Dictionary α} {key : String} {value : α}
    (h : d.get? key = some value) : d.insert key value = d := by
  obtain ⟨entries, keys_nodup⟩ := d
  simp only [insert, mk.injEq]
  exact insertEntry_of_mem keys_nodup (get?_eq_some_iff.1 h)

/-- Values that know their keys have distinct ones. -/
theorem nodup_map_values {d : Dictionary α} {keyOf : α → String}
    (h : ∀ key value, d.get? key = some value → keyOf value = key) :
    (d.values.map keyOf).Nodup := by
  have hkeys : d.values.map keyOf = d.entries.map Prod.fst := by
    rw [values, List.map_map]
    exact List.map_congr_left fun entry hentry => h entry.1 entry.2 (get?_eq_some_iff.2 hentry)
  exact hkeys ▸ d.keys_nodup

/-- The dictionary of a list of entries, in which later ones replace earlier ones. -/
def ofEntries (entries : List (String × α)) : Dictionary α :=
  entries.foldl (fun d e => d.insert e.1 e.2) empty

theorem entries_foldl_insert (d : Dictionary α) {entries : List (String × α)}
    (h : ((d.entries ++ entries).map Prod.fst).Nodup) :
    (entries.foldl (fun d e => d.insert e.1 e.2) d).entries = d.entries ++ entries := by
  induction entries generalizing d with
  | nil => rw [List.foldl_nil, List.append_nil]
  | cons e rest ih =>
    have hkey : e.1 ∉ d.entries.map Prod.fst := fun hmem => by
      rw [List.map_append, List.nodup_append] at h
      exact h.2.2 e.1 hmem e.1 (by simp) rfl
    have hinsert : (d.insert e.1 e.2).entries = d.entries ++ [e] :=
      insertEntry_of_notMem e.2 hkey
    rw [List.foldl_cons, ih _ (by simpa [hinsert] using h), hinsert, List.append_assoc,
      List.singleton_append]

/-- A dictionary is made of its entries. -/
theorem ofEntries_entries (d : Dictionary α) : ofEntries d.entries = d := by
  have hentries : (ofEntries d.entries).entries = d.entries :=
    entries_foldl_insert empty d.keys_nodup
  generalize ofEntries d.entries = e at hentries
  cases d
  cases e
  cases hentries
  rfl

end Dictionary

end Gatehouse
