import Gatehouse.Proofs.Json.Meaning
import Mathlib.Data.List.Perm.Basic
import Mathlib.Data.List.Forall2
import Mathlib.Data.List.Nodup

/-!
# Formats of records

A record is made of the contents of its fields. A field has content if there is one member of its
name and the value of it has a meaning. It has none if there is no such member. Neither the order of
the members nor the members of other names make a difference, and in an array the elements stand for
the members of the fields in order.

A format says which names are known where. Two values are alike in a format if they differ only in
the order of members, and in members of names that the format does not know. What reads a document
of the format makes the same of them.

## Main definitions

* `Json.valuesOf`, `Json.contentOf`: the values of the members of a name, and what is made of them.
* `Json.Value.members?`: the members of a record.
* `Json.Slot`, `Json.Shape.HasSlots`: the places of the contents of fields.
* `Json.Format`, `Json.Format.Alike`: formats, and values that differ in nothing that they know.
* `Json.Format.RespectedBy`: a meaning does not tell values apart that are alike.

## Main results

* `Json.Shape.HasSlots.record?_eq_some_iff`: a record is made of the contents of its fields.
* `Json.Format.RespectedBy.list`, `Json.Shape.HasSlots.respectedBy`: the meanings of lists and of
  records.
-/

namespace Gatehouse.Json

/-! ### Members by name -/

/-- The values of the members of a name, in order. -/
def valuesOf (name : String) (members : List (String × Value)) : List Value :=
  (members.filter (·.1 == name)).map (·.2)

theorem valuesOf_cons_self (name : String) (v : Value) (members : List (String × Value)) :
    valuesOf name ((name, v) :: members) = v :: valuesOf name members := by
  simp [valuesOf]

theorem valuesOf_cons_of_ne {name other : String} (hne : other ≠ name) (v : Value)
    (members : List (String × Value)) :
    valuesOf name ((other, v) :: members) = valuesOf name members := by
  simp [valuesOf, hne]

theorem valuesOf_eq_nil {name : String} {members : List (String × Value)}
    (h : name ∉ members.map (·.1)) : valuesOf name members = [] := by
  rw [valuesOf, List.map_eq_nil_iff, List.filter_eq_nil_iff]
  intro m hm hname
  exact h (List.mem_map.2 ⟨m, hm, eq_of_beq hname⟩)

/-- The names that stand behind the last element have no values. -/
theorem valuesOf_zip_eq_nil {names : List String} (hnodup : names.Nodup) {vs : List Value}
    {name : String} (h : name ∈ names.drop vs.length) : valuesOf name (names.zip vs) = [] := by
  have hnames (names : List String) (vs : List Value) :
      (names.zip vs).map (·.1) = names.take vs.length := by
    induction names generalizing vs with
    | nil => simp
    | cons name names ih => cases vs <;> simp [ih]
  refine valuesOf_eq_nil fun hmem => ?_
  rw [hnames] at hmem
  exact List.disjoint_take_drop hnodup (Nat.le_refl _) hmem h

theorem valuesOf_perm (name : String) {members members' : List (String × Value)}
    (h : members.Perm members') : (valuesOf name members).Perm (valuesOf name members') :=
  (h.filter _).map _

/-- The members of an object, if all names are texts. -/
def namedMembers (members : List (Option String × Value)) : Option (List (String × Value)) :=
  if members.all (·.1.isSome) then some (members.filterMap fun m => m.1.map (·, m.2)) else none

/-- Members with texts for names. -/
def named (members : List (String × Value)) : List (Option String × Value) :=
  members.map fun m => (some m.1, m.2)

theorem namedMembers_nil : namedMembers [] = some [] := rfl

theorem namedMembers_cons_none (v : Value) (members : List (Option String × Value)) :
    namedMembers ((none, v) :: members) = none := rfl

theorem namedMembers_cons_some (name : String) (v : Value)
    (members : List (Option String × Value)) :
    namedMembers ((some name, v) :: members) = (namedMembers members).map ((name, v) :: ·) := by
  by_cases h : members.all (·.1.isSome) = true <;> simp [namedMembers, h]

theorem namedMembers_eq_some_iff {members : List (Option String × Value)}
    {ms : List (String × Value)} : namedMembers members = some ms ↔ members = named ms := by
  induction members generalizing ms with
  | nil => cases ms <;> simp [namedMembers_nil, named]
  | cons m members ih =>
    obtain ⟨_ | name, v⟩ := m
    · cases ms <;> simp [namedMembers_cons_none, named]
    · cases ms with
      | nil => simp [namedMembers_cons_some, named]
      | cons m ms =>
        rw [namedMembers_cons_some, Option.map_eq_some_iff, named, List.map_cons, List.cons.injEq,
          ← named, ← ih]
        aesop

theorem namedMembers_perm {members members' : List (Option String × Value)}
    (h : members.Perm members') :
    Option.Rel List.Perm (namedMembers members) (namedMembers members') := by
  have hall : members.all (·.1.isSome) = members'.all (·.1.isSome) := h.all_eq
  rw [namedMembers, namedMembers, hall]
  split_ifs
  · exact .some (h.filterMap _)
  · exact .none

/-- The members of a record: those of an object, or the elements of an array by the names of the
fields. -/
def Value.members? (names : List String) : Value → Option (List (String × Value))
  | .object members => namedMembers members
  | .array elements =>
    if elements.length ≤ names.length then some (names.zip elements) else none
  | _ => none

variable {β : Type}

/-- Filling by name comes to an end only if all names are texts. -/
theorem exists_namedMembers_of_fillByName {σ : Type} {fields : List (Field σ)}
    {update : String → σ → Value → Option σ} {s s' : σ} {members : List (Option String × Value)}
    (h : fillByName fields update s members = some s') :
    ∃ ms, namedMembers members = some ms := by
  induction members generalizing s with
  | nil => exact ⟨[], rfl⟩
  | cons m members ih =>
    obtain ⟨_ | name, v⟩ := m
    · rw [fillByName] at h
      cases h
    · have hrest : ∃ s, fillByName fields update s members = some s' := by
        rw [fillByName] at h
        split at h
        next => exact ⟨s, h⟩
        next f _ =>
          split_ifs at h
          obtain ⟨s₁, -, hrest⟩ := Option.bind_eq_some_iff.1 h
          exact ⟨s₁, hrest⟩
      obtain ⟨s₁, hrest⟩ := hrest
      obtain ⟨ms, hms⟩ := ih hrest
      exact ⟨(name, v) :: ms, by rw [namedMembers_cons_some, hms, Option.map_some]⟩

/-- What a field holds once its values are read: nothing more than before if there are none, and
the meaning of the only one if it held nothing. -/
def contentFrom (meaning : Value → Option β) : Option β → List Value → Option (Option β)
  | held, [] => some held
  | none, [v] => (meaning v).map some
  | _, _ => none

/-- What a field holds by its values. -/
def contentOf (meaning : Value → Option β) (values : List Value) : Option (Option β) :=
  contentFrom meaning none values

theorem contentFrom_some_cons (meaning : Value → Option β) (x : β) (v : Value)
    (values : List Value) : contentFrom meaning (some x) (v :: values) = none := by
  simp [contentFrom]

theorem contentFrom_none_cons (meaning : Value → Option β) (v : Value) (values : List Value) :
    contentFrom meaning none (v :: values) =
      (meaning v).bind fun x => contentFrom meaning (some x) values := by
  cases values <;> cases hm : meaning v <;> simp [contentFrom, hm]

theorem contentOf_eq_none_iff {meaning : Value → Option β} {values : List Value} :
    contentOf meaning values = some none ↔ values = [] := by
  match values with
  | [] => simp [contentOf, contentFrom]
  | [v] => simp [contentOf, contentFrom]
  | _ :: _ :: _ => simp [contentOf, contentFrom]

theorem contentOf_eq_some_iff {meaning : Value → Option β} {values : List Value} {x : β} :
    contentOf meaning values = some (some x) ↔ ∃ v, values = [v] ∧ meaning v = some x := by
  match values with
  | [] => simp [contentOf, contentFrom]
  | [v] => simp [contentOf, contentFrom]
  | _ :: _ :: _ => simp [contentOf, contentFrom]

/-- The order of values makes no difference. -/
theorem contentOf_perm (meaning : Value → Option β) {values values' : List Value}
    (h : values.Perm values') : contentOf meaning values = contentOf meaning values' := by
  match values, values', h with
  | [], _, h => rw [h.nil_eq]
  | [v], _, h => rw [List.perm_singleton.1 h.symm]
  | _ :: _ :: _, [], h => exact absurd h.length_eq (by simp)
  | _ :: _ :: _, [_], h => exact absurd h.length_eq (by simp)
  | _ :: _ :: _, _ :: _ :: _, _ => rfl

/-- A value in the place of another of the same meaning makes no difference. -/
theorem contentOf_cons_congr {meaning : Value → Option β} {v w : Value}
    (h : meaning v = meaning w) (values : List Value) :
    contentOf meaning (v :: values) = contentOf meaning (w :: values) := by
  rw [contentOf, contentOf, contentFrom_none_cons, contentFrom_none_cons, h]

/-! ### Slots -/

/-- What a document of a format is made of, as far as names are known: a value that is no record and
no list of them, a list, or a record. -/
inductive Format where
  | leaf
  | list (element : Format)
  | record (fields : List (String × Format))

/-- The place of the content of a field: how the content is kept, and what it is made of. -/
structure Slot (σ : Type) where
  name : String
  format : Format
  Content : Type
  get : σ → Option Content
  set : σ → Content → σ
  meaning : Value → Option Content

section Slots

variable {σ α : Type}

/-- Puts the meaning of a value in the slot of a name. -/
def Slot.update (slots : List (Slot σ)) (name : String) (s : σ) (v : Value) : Option σ :=
  (slots.find? (·.name == name)).bind fun slot => (slot.meaning v).map (slot.set s)

/-- A field reads the content of a slot. -/
structure Field.Fills (f : Field σ) (slot : Slot σ) : Prop where
  name : f.name = slot.name
  isSet : ∀ s, f.isSet s = (slot.get s).isSome
  read : ∀ s, Means (f.read s) fun v => (slot.meaning v).map (slot.set s)

/-- The contents of the fields of a record are kept in slots, each by itself, and `start` has no
content. Without the content of a field that an array cannot leave out there is no record. -/
structure Shape.HasSlots (shape : Shape σ α) (slots : List (Slot σ)) (start : σ) : Prop where
  fills : List.Forall₂ Field.Fills shape.fields slots
  nodup : (slots.map Slot.name).Nodup
  get_set : ∀ slot ∈ slots, ∀ s x, slot.get (slot.set s x) = some x
  get_set_of_ne : ∀ slot ∈ slots, ∀ other ∈ slots, other.name ≠ slot.name →
    ∀ s x, other.get (slot.set s x) = other.get s
  ext : ∀ s s', (∀ slot ∈ slots, slot.get s = slot.get s') → s = s'
  start : ∀ slot ∈ slots, slot.get start = none
  required : ∀ f ∈ shape.fields, f.optional = false →
    ∀ s, f.isSet s = false → (shape.finish s).toOption = none

namespace Shape.HasSlots

variable {shape : Shape σ α} {slots : List (Slot σ)} {start : σ}

theorem names_eq (h : shape.HasSlots slots start) :
    shape.fields.map Field.name = slots.map Slot.name := by
  have hfills := h.fills
  generalize shape.fields = fields at hfills
  clear h
  induction hfills with
  | nil => rfl
  | cons hname _ ih => rw [List.map_cons, List.map_cons, hname.name, ih]

theorem exists_slot (h : shape.HasSlots slots start) {f : Field σ} (hf : f ∈ shape.fields) :
    ∃ slot ∈ slots, f.Fills slot := by
  obtain ⟨i, hi, rfl⟩ := List.getElem_of_mem hf
  have hi' : i < slots.length := h.fills.length_eq ▸ hi
  exact ⟨slots[i], List.getElem_mem hi', h.fills.get hi hi'⟩

theorem exists_field (h : shape.HasSlots slots start) {slot : Slot σ} (hslot : slot ∈ slots) :
    ∃ f ∈ shape.fields, f.Fills slot := by
  obtain ⟨i, hi, rfl⟩ := List.getElem_of_mem hslot
  have hi' : i < shape.fields.length := h.fills.length_eq.symm ▸ hi
  exact ⟨shape.fields[i], List.getElem_mem hi', h.fills.get hi' hi⟩

/-- Slots of one name are one slot. -/
theorem eq_of_name_eq (h : shape.HasSlots slots start) {slot other : Slot σ} (hslot : slot ∈ slots)
    (hother : other ∈ slots) (hname : other.name = slot.name) : other = slot :=
  List.inj_on_of_nodup_map h.nodup hother hslot hname

theorem update_eq (h : shape.HasSlots slots start) {slot : Slot σ} (hslot : slot ∈ slots) (s : σ)
    (v : Value) : Slot.update slots slot.name s v = (slot.meaning v).map (slot.set s) := by
  cases hfind : slots.find? (·.name == slot.name) with
  | none =>
    have hne := List.find?_eq_none.1 hfind slot hslot
    exact absurd (beq_self_eq_true slot.name) hne
  | some other =>
    have hname : other.name = slot.name := by simpa using List.find?_some hfind
    rw [Slot.update, hfind, Option.bind_some,
      h.eq_of_name_eq hslot (List.mem_of_find?_eq_some hfind) hname]

theorem find?_eq (h : shape.HasSlots slots start) {f : Field σ} (hf : f ∈ shape.fields) :
    shape.fields.find? (·.name == f.name) = some f := by
  cases hfind : shape.fields.find? (·.name == f.name) with
  | none => exact absurd (beq_self_eq_true f.name) (List.find?_eq_none.1 hfind f hf)
  | some g =>
    have hname : g.name = f.name := by simpa using List.find?_some hfind
    have hnodup : (shape.fields.map Field.name).Nodup := h.names_eq ▸ h.nodup
    rw [List.inj_on_of_nodup_map hnodup (List.mem_of_find?_eq_some hfind) hf hname]

/-- The reader of a record gives the record of the slots. -/
theorem means (h : shape.HasSlots slots start) :
    Means (readRecord shape start) (Value.record? shape (Slot.update slots) start) := by
  refine Means.record (fun f hf s => ?_) start
  obtain ⟨slot, hslot, hfills⟩ := h.exists_slot hf
  have hread := hfills.read s
  simp only [← h.update_eq hslot] at hread
  rw [hfills.name]
  exact hread

/-- Filling by name puts in every slot the content of its own values. -/
theorem fillByName_eq_some_iff (h : shape.HasSlots slots start) {s s' : σ}
    {ms : List (String × Value)} :
    fillByName shape.fields (Slot.update slots) s (named ms) = some s' ↔
      ∀ slot ∈ slots, contentFrom slot.meaning (slot.get s) (valuesOf slot.name ms) =
        some (slot.get s') := by
  induction ms generalizing s with
  | nil =>
    have hnil : (∀ slot ∈ slots, contentFrom slot.meaning (slot.get s) (valuesOf slot.name []) =
        some (slot.get s')) ↔ ∀ slot ∈ slots, slot.get s = slot.get s' := by
      simp [valuesOf, contentFrom]
    rw [hnil]
    refine ⟨?_, fun hget => congrArg some (h.ext s s' hget)⟩
    intro heq slot _
    rw [Option.some.inj heq]
  | cons m ms ih =>
    obtain ⟨key, v⟩ := m
    rw [named, List.map_cons, ← named, fillByName]
    cases hfind : shape.fields.find? (·.name == key) with
    | none =>
      dsimp only
      rw [ih]
      refine forall₂_congr fun slot hslot => ?_
      obtain ⟨f, hf, hfills⟩ := h.exists_field hslot
      have hne : key ≠ slot.name := by
        rintro rfl
        exact List.find?_eq_none.1 hfind f hf (beq_iff_eq.2 hfills.name)
      rw [valuesOf_cons_of_ne hne]
    | some f =>
      obtain ⟨slot, hslot, hfills⟩ := h.exists_slot (List.mem_of_find?_eq_some hfind)
      have hkey : f.name = key := by simpa using List.find?_some hfind
      obtain rfl : slot.name = key := hfills.name.symm.trans hkey
      dsimp only
      rw [hfills.isSet, hfills.name, h.update_eq hslot]
      cases hget : slot.get s with
      | some x =>
        refine iff_of_false (by simp) fun hall => ?_
        have hslot := hall slot hslot
        rw [hget, valuesOf_cons_self, contentFrom_some_cons] at hslot
        cases hslot
      | none =>
        rw [if_neg (by simp)]
        cases hm : slot.meaning v with
        | none =>
          refine iff_of_false (by simp) fun hall => ?_
          have hslot := hall slot hslot
          rw [hget, valuesOf_cons_self, contentFrom_none_cons, hm] at hslot
          cases hslot
        | some x =>
          rw [Option.map_some, Option.bind_some, ih]
          refine forall₂_congr fun other hother => ?_
          by_cases hname : other.name = slot.name
          · obtain rfl := h.eq_of_name_eq hslot hother hname
            rw [h.get_set other hother, hget, valuesOf_cons_self, contentFrom_none_cons, hm,
              Option.bind_some]
          · rw [h.get_set_of_ne slot hslot other hother hname,
              valuesOf_cons_of_ne (Ne.symm hname)]

/-- Filling in order is filling by name, as long as there are enough fields and enough elements. -/
theorem fillInOrder_eq (h : shape.HasSlots slots start) {fields : List (Field σ)}
    (hsub : fields ⊆ shape.fields) (hnodup : (fields.map Field.name).Nodup) {s : σ}
    (hunset : ∀ f ∈ fields, f.isSet s = false) (vs : List Value) :
    fillInOrder (Slot.update slots) fields s vs =
      if vs.length ≤ fields.length ∧ ∀ f ∈ fields.drop vs.length, f.optional = true then
        fillByName shape.fields (Slot.update slots) s (named ((fields.map Field.name).zip vs))
      else none := by
  induction fields generalizing s vs with
  | nil => cases vs <;> simp [fillInOrder, fillByName, named]
  | cons f fields ih =>
    obtain ⟨hf, hsub⟩ := List.cons_subset.1 hsub
    obtain ⟨hnotMem, hnodup⟩ := List.nodup_cons.1 hnodup
    obtain ⟨hunsetf, hunset⟩ := List.forall_mem_cons.1 hunset
    cases vs with
    | nil =>
      rw [fillInOrder, ih hsub hnodup hunset]
      cases hoptional : f.optional <;> simp [hoptional]
    | cons v vs =>
      obtain ⟨slot, hslot, hfills⟩ := h.exists_slot hf
      have hkeep (x : slot.Content) : ∀ g ∈ fields, g.isSet (slot.set s x) = false := by
        intro g hg
        obtain ⟨other, hother, hfillsOther⟩ := h.exists_slot (hsub hg)
        have hne : other.name ≠ slot.name := by
          rw [← hfills.name, ← hfillsOther.name]
          exact fun hname => hnotMem (hname ▸ List.mem_map_of_mem hg)
        rw [hfillsOther.isSet, h.get_set_of_ne slot hslot other hother hne, ← hfillsOther.isSet]
        exact hunset g hg
      have hnamed : named ((List.map Field.name (f :: fields)).zip (v :: vs)) =
          (some f.name, v) :: named ((fields.map Field.name).zip vs) := rfl
      rw [fillInOrder, hnamed, fillByName, h.find?_eq hf]
      dsimp only
      rw [hunsetf, if_neg Bool.false_ne_true, hfills.name, h.update_eq hslot]
      simp only [List.length_cons, List.drop_succ_cons, Nat.add_le_add_iff_right]
      cases slot.meaning v with
      | none => simp
      | some x => exact ih hsub hnodup (hkeep x) vs

/-- A record is made of the contents of its fields, whatever order they come in. -/
theorem record?_eq_some_iff (h : shape.HasSlots slots start) {v : Value} {x : α} :
    Value.record? shape (Slot.update slots) start v = some x ↔
      ∃ ms s, v.members? (slots.map Slot.name) = some ms ∧
        (∀ slot ∈ slots, contentOf slot.meaning (valuesOf slot.name ms) = some (slot.get s)) ∧
        (shape.finish s).toOption = some x := by
  have hfilled (s : σ) (ms : List (String × Value)) :
      fillByName shape.fields (Slot.update slots) start (named ms) = some s ↔
        ∀ slot ∈ slots, contentOf slot.meaning (valuesOf slot.name ms) = some (slot.get s) := by
    rw [h.fillByName_eq_some_iff]
    refine forall₂_congr fun slot hslot => ?_
    rw [h.start slot hslot, contentOf]
  cases v with
  | object members =>
    simp only [Value.record?, Value.members?, Option.bind_eq_some_iff]
    constructor
    · rintro ⟨s, hfill, hfinish⟩
      obtain ⟨ms, hms⟩ := exists_namedMembers_of_fillByName hfill
      rw [namedMembers_eq_some_iff.1 hms, hfilled] at hfill
      exact ⟨ms, s, hms, hfill, hfinish⟩
    · rintro ⟨ms, s, hms, hcontents, hfinish⟩
      refine ⟨s, ?_, hfinish⟩
      rw [namedMembers_eq_some_iff.1 hms]
      exact (hfilled s ms).2 hcontents
  | array elements =>
    have hunset : ∀ f ∈ shape.fields, f.isSet start = false := by
      intro f hf
      obtain ⟨slot, hslot, hfills⟩ := h.exists_slot hf
      rw [hfills.isSet, h.start slot hslot]
      rfl
    have hnodup := h.names_eq ▸ h.nodup
    have hlength : (slots.map Slot.name).length = shape.fields.length := by
      rw [← h.names_eq, List.length_map]
    simp only [Value.record?, Value.members?, Option.bind_eq_some_iff, hlength,
      h.fillInOrder_eq (List.Subset.refl _) hnodup hunset]
    constructor
    · rintro ⟨s, hfill, hfinish⟩
      split_ifs at hfill with henough
      rw [h.names_eq, hfilled] at hfill
      exact ⟨_, s, by rw [if_pos henough.1], hfill, hfinish⟩
    · rintro ⟨ms, s, hms, hcontents, hfinish⟩
      split_ifs at hms with henough
      obtain rfl := Option.some.inj hms
      refine ⟨s, ?_, hfinish⟩
      rw [h.names_eq, if_pos, hfilled]
      · exact hcontents
      · refine ⟨henough, fun f hf => ?_⟩
        -- a field behind the last element stays without content
        by_contra hoptional
        obtain ⟨slot, hslot, hfills⟩ := h.exists_slot (List.mem_of_mem_drop hf)
        have hname : slot.name ∈ (slots.map Slot.name).drop elements.length := by
          rw [← h.names_eq, ← List.map_drop, ← hfills.name]
          exact List.mem_map_of_mem hf
        have hcontent := hcontents slot hslot
        rw [valuesOf_zip_eq_nil h.nodup hname] at hcontent
        have hget : slot.get s = none := (Option.some.inj hcontent).symm
        have hnone := h.required f (List.mem_of_mem_drop hf) (Bool.not_eq_true _ ▸ hoptional) s
          (by rw [hfills.isSet, hget]; rfl)
        rw [hnone] at hfinish
        cases hfinish
  | _ => simp [Value.record?, Value.members?]

end Shape.HasSlots

end Slots

/-! ### Formats -/

namespace Format

/-- The format knows a name. -/
def Knows : Format → String → Prop
  | record fields, name => name ∈ fields.map (·.1)
  | _, _ => False

/-- The format of the members of a name. -/
def member : Format → Option String → Format
  | record fields, some name => (fields.lookup name).getD leaf
  | _, _ => leaf

/-- The format of the elements at a place. -/
def element : Format → Nat → Format
  | list format, _ => format
  | record fields, i => (fields[i]?.map (·.2)).getD leaf
  | leaf, _ => leaf

/-- Values that differ in the order of members, here or further inside, and in members of names that
the format does not know. -/
inductive Alike : Format → Value → Value → Prop
  | refl (format : Format) (v : Value) : Alike format v v
  | symm {format : Format} {v w : Value} (h : Alike format v w) : Alike format w v
  | trans {format : Format} {u v w : Value} (h : Alike format u v) (h' : Alike format v w) :
      Alike format u w
  | permuted {format : Format} {members members' : List (Option String × Value)}
      (h : members.Perm members') : Alike format (.object members) (.object members')
  | unknown {format : Format} {name : String} (h : ¬ format.Knows name) (v : Value)
      (members : List (Option String × Value)) :
      Alike format (.object members) (.object ((some name, v) :: members))
  | member {format : Format} {name : Option String} {v w : Value}
      (h : Alike (format.member name) v w) (members : List (Option String × Value)) :
      Alike format (.object ((name, v) :: members)) (.object ((name, w) :: members))
  | element {format : Format} {before : List Value} {v w : Value}
      (h : Alike (format.element before.length) v w) (after : List Value) :
      Alike format (.array (before ++ v :: after)) (.array (before ++ w :: after))

end Format

/-- A meaning does not tell values apart that are alike in the format. -/
def Format.RespectedBy {β : Type} (format : Format) (meaning : Value → Option β) : Prop :=
  ∀ v w, format.Alike v w → meaning v = meaning w

theorem respectedBy_string? (format : Format) : format.RespectedBy Value.string? := by
  intro v w h
  induction h with
  | refl => rfl
  | symm _ ih => exact ih.symm
  | trans _ _ ih ih' => exact ih.trans ih'
  | permuted | unknown | member | element => rfl

theorem meaningsOf_append_cons (meaning : Value → Option β) (before : List Value) {v w : Value}
    (h : meaning v = meaning w) (after : List Value) :
    meaningsOf meaning (before ++ v :: after) = meaningsOf meaning (before ++ w :: after) := by
  induction before with
  | nil => rw [List.nil_append, List.nil_append, meaningsOf, meaningsOf, h]
  | cons u before ih => rw [List.cons_append, List.cons_append, meaningsOf, meaningsOf, ih]

/-- Lists whose elements are alike have the same meaning. -/
theorem Format.RespectedBy.list {format : Format} {meaning : Value → Option β}
    (h : format.RespectedBy meaning) :
    (Format.list format).RespectedBy (Value.list? meaning) := by
  intro v w hvw
  generalize hformat : Format.list format = f at hvw
  induction hvw with
  | refl => rfl
  | symm _ ih => exact (ih hformat).symm
  | trans _ _ ih ih' => exact (ih hformat).trans (ih' hformat)
  | permuted | unknown | member => rfl
  | element helement after =>
    subst hformat
    exact meaningsOf_append_cons meaning _ (h _ _ helement) after

section Records

variable {σ α : Type} {slots : List (Slot σ)}

/-- The format of a record with slots. -/
def Slot.recordFormat (slots : List (Slot σ)) : Format :=
  .record (slots.map fun slot => (slot.name, slot.format))

/-- What the slots hold by the members of a record. -/
def Slot.contents (slots : List (Slot σ)) (members : List (String × Value))
    (slot : { slot // slot ∈ slots }) : Option (Option slot.1.Content) :=
  contentOf slot.1.meaning (valuesOf slot.1.name members)

theorem Slot.lookup_format (hnodup : (slots.map Slot.name).Nodup) {slot : Slot σ}
    (hslot : slot ∈ slots) :
    (slots.map fun slot => (slot.name, slot.format)).lookup slot.name = some slot.format := by
  induction slots with
  | nil => cases hslot
  | cons other slots ih =>
    obtain ⟨hnotMem, hnodup⟩ := List.nodup_cons.1 hnodup
    rw [List.map_cons, List.lookup_cons]
    obtain rfl | hslot := List.mem_cons.1 hslot
    · rw [beq_self_eq_true]
    · have hne : slot.name ≠ other.name := fun hname => hnotMem (hname ▸ List.mem_map_of_mem hslot)
      rw [beq_false_of_ne hne]
      exact ih hnodup hslot

theorem contentOf_append_cons {meaning : Value → Option β} {v w : Value}
    (h : meaning v = meaning w) (before after : List Value) :
    contentOf meaning (before ++ v :: after) = contentOf meaning (before ++ w :: after) := by
  rw [contentOf_perm meaning List.perm_middle, contentOf_perm meaning List.perm_middle,
    contentOf_cons_congr h]

theorem Slot.contents_append_cons {name : String} {v w : Value}
    (h : ∀ slot ∈ slots, slot.name = name → slot.meaning v = slot.meaning w)
    (before after : List (String × Value)) :
    Slot.contents slots (before ++ (name, v) :: after) =
      Slot.contents slots (before ++ (name, w) :: after) := by
  funext ⟨slot, hslot⟩
  have hvalues (u : Value) : valuesOf slot.name (before ++ (name, u) :: after) =
      valuesOf slot.name before ++ valuesOf slot.name ((name, u) :: after) := by
    simp [valuesOf]
  rw [Slot.contents, Slot.contents, hvalues, hvalues]
  by_cases hname : slot.name = name
  · subst hname
    rw [valuesOf_cons_self, valuesOf_cons_self, contentOf_append_cons (h slot hslot rfl)]
  · rw [valuesOf_cons_of_ne (Ne.symm hname), valuesOf_cons_of_ne (Ne.symm hname)]

/-- Records that are alike hold the same contents. -/
theorem Format.Alike.contents_eq (hnodup : (slots.map Slot.name).Nodup)
    (hslots : ∀ slot ∈ slots, slot.format.RespectedBy slot.meaning) {v w : Value}
    (h : (Slot.recordFormat slots).Alike v w) :
    (v.members? (slots.map Slot.name)).map (Slot.contents slots) =
      (w.members? (slots.map Slot.name)).map (Slot.contents slots) := by
  generalize hformat : Slot.recordFormat slots = f at h
  induction h with
  | refl => rfl
  | symm _ ih => exact (ih hformat).symm
  | trans _ _ ih ih' => exact (ih hformat).trans (ih' hformat)
  | @permuted _ members members' hperm =>
    have hnamed := namedMembers_perm hperm
    simp only [Value.members?]
    generalize namedMembers members = ms, namedMembers members' = ms' at hnamed
    cases hnamed with
    | none => rfl
    | some hperm =>
      refine congrArg some (funext fun slot => ?_)
      exact contentOf_perm _ (valuesOf_perm _ hperm)
  | @unknown _ name hknows x members =>
    subst hformat
    simp only [Value.members?, namedMembers_cons_some, Option.map_map]
    refine congrArg (Option.map · _) (funext fun ms => funext fun ⟨slot, hslot⟩ => ?_)
    have hne : name ≠ slot.name := by
      rintro rfl
      refine hknows ?_
      simpa [Slot.recordFormat, Format.Knows] using ⟨slot, hslot, rfl⟩
    simp only [Function.comp_apply, Slot.contents, valuesOf_cons_of_ne hne]
  | @member _ name x y hvalue members =>
    subst hformat
    cases name with
    | none => rfl
    | some name =>
      simp only [Value.members?, namedMembers_cons_some, Option.map_map]
      refine congrArg (Option.map · _) (funext fun ms => ?_)
      refine Slot.contents_append_cons (fun slot hslot hname => ?_) [] ms
      subst hname
      rw [Slot.recordFormat, Format.member, Slot.lookup_format hnodup hslot] at hvalue
      exact hslots slot hslot x y hvalue
  | @element _ before x y hvalue after =>
    subst hformat
    have hlengths : (before ++ x :: after).length = (before ++ y :: after).length := by simp
    simp only [Value.members?, hlengths]
    split_ifs with henough
    · have hlt : before.length < slots.length := by
        simp only [List.length_append, List.length_cons, List.length_map] at henough
        omega
      obtain ⟨pre, slot, post, hsplit, hlength⟩ :
          ∃ pre slot post, slots = pre ++ slot :: post ∧ pre.length = before.length :=
        ⟨slots.take before.length, slots[before.length], slots.drop (before.length + 1),
          by rw [← List.drop_eq_getElem_cons hlt, List.take_append_drop],
          List.length_take_of_le (Nat.le_of_lt hlt)⟩
      have hslot : slot ∈ slots := by simp [hsplit]
      have hzip (u : Value) : (slots.map Slot.name).zip (before ++ u :: after) =
          (pre.map Slot.name).zip before ++ (slot.name, u) :: (post.map Slot.name).zip after := by
        rw [hsplit, List.map_append, List.zip_append (by simpa using hlength)]
        rfl
      have hformat : (Slot.recordFormat slots).element before.length = slot.format := by
        simp [Slot.recordFormat, Format.element, hsplit, ← hlength]
      have hmeaning : slot.meaning x = slot.meaning y := hslots slot hslot x y (hformat ▸ hvalue)
      rw [hzip, hzip]
      refine congrArg some (Slot.contents_append_cons (fun other hother hname => ?_) _ _)
      rw [List.inj_on_of_nodup_map hnodup hother hslot hname, hmeaning]
    · rfl

/-- Records that are alike have the same meaning. -/
theorem Shape.HasSlots.respectedBy {shape : Shape σ α} {start : σ} (h : shape.HasSlots slots start)
    (hslots : ∀ slot ∈ slots, slot.format.RespectedBy slot.meaning) :
    (Slot.recordFormat slots).RespectedBy (Value.record? shape (Slot.update slots) start) := by
  intro v w hvw
  have hcontents := hvw.contents_eq h.nodup hslots
  have hsome (v : Value) (x : α) : Value.record? shape (Slot.update slots) start v = some x ↔
      ∃ contents s, (v.members? (slots.map Slot.name)).map (Slot.contents slots) = some contents ∧
        (∀ slot, contents slot = some (slot.1.get s)) ∧ (shape.finish s).toOption = some x := by
    rw [h.record?_eq_some_iff]
    constructor
    · rintro ⟨ms, s, hms, hslots, hfinish⟩
      exact ⟨Slot.contents slots ms, s, by rw [hms, Option.map_some],
        fun slot => hslots slot.1 slot.2, hfinish⟩
    · rintro ⟨contents, s, hcontents, hslots, hfinish⟩
      obtain ⟨ms, hms, rfl⟩ := Option.map_eq_some_iff.1 hcontents
      exact ⟨ms, s, hms, fun slot hslot => hslots ⟨slot, hslot⟩, hfinish⟩
  refine Option.ext fun x => ?_
  rw [hsome, hsome, hcontents]

end Records

end Gatehouse.Json
