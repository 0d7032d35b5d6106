import Gatehouse.Proofs.Json.Reading
import Gatehouse.Rack.Description
import Mathlib.Data.List.Forall2

/-!
# Racks that are written and read back

The description of a rack is read back from its text, with all apps, processes and resources. The
apps of a rack, and the resources of an app, have no order of their own: two descriptions that
assign the same are the same rack, and whichever of them is written, the rack that is read back
answers every request as the first one does. Processes do have an order, and keep it.

## Main definitions

* `LocalApp.Same`, `LocalRack.Same`: the same app, and the same rack, in whatever order the entries
  stand.

## Main results

* `LocalProcess.reads_tree`, `LocalApp.reads_tree`, `LocalRack.reads_tree`: what is written is read
  back.
* `LocalRack.Same.rack_eq`: the same racks answer the same.
* `LocalRack.rack_of_text`: the rack that is read back from a text.
-/

namespace Gatehouse

/-! ### Reading back -/

/-- A written string is read back. -/
theorem Json.reads_string (s : String) : Reads readString (Tree.string s).write s := by
  rw [Tree.write]
  exact reads_wantedString "a string" s

/-- A process is read back. -/
theorem LocalProcess.reads_tree (p : LocalProcess) :
    Json.Reads (Json.readRecord shape ⟨none, none, none⟩) p.tree.write p := by
  have hfills : Json.Fills shape.fields ⟨none, none, none⟩
      [("id", .string p.id), ("service", .string p.service), ("host", .string p.host)]
      ⟨some p.id, some p.service, some p.host⟩ := by
    have hid := (Json.reads_string p.id).map fun x => Draft.mk (some x) none none
    have hservice :=
      (Json.reads_string p.service).map fun x => Draft.mk (some p.id) (some x) none
    have hhost :=
      (Json.reads_string p.host).map fun x => Draft.mk (some p.id) (some p.service) (some x)
    exact .cons rfl rfl hid (.cons rfl rfl hservice (.cons rfl rfl hhost (.nil _)))
  exact Json.reads_record hfills rfl

/-- An app is read back, its processes in order. -/
theorem LocalApp.reads_tree (a : LocalApp) :
    Json.Reads (Json.readRecord shape ⟨none, none⟩) a.tree.write a := by
  have hprocesses : Json.Reads
      (Json.readList (Json.readRecord LocalProcess.shape ⟨none, none, none⟩))
      (Json.Tree.array (a.processes.map LocalProcess.tree)).write a.processes :=
    Json.reads_list (List.forall₂_map_left_iff.2
      (List.forall₂_same.2 fun p _ => p.reads_tree))
  have hresources : Json.Reads (Json.readMembers Json.readString)
      (Json.Tree.object (a.resources.entries.map fun entry => (entry.1, .string entry.2))).write
      a.resources.entries :=
    Json.reads_members (List.forall₂_map_left_iff.2
      (List.forall₂_same.2 fun entry _ => ⟨rfl, Json.reads_string entry.2⟩))
  have hfills : Json.Fills shape.fields ⟨none, none⟩
      [("processes", .array (a.processes.map LocalProcess.tree)),
        ("resources", .object (a.resources.entries.map fun entry => (entry.1, .string entry.2)))]
      ⟨some a.processes, some a.resources⟩ := by
    have hfirst := hprocesses.map fun x => Draft.mk (some x) none
    have hsecond :=
      hresources.map fun x => Draft.mk (some a.processes) (some (Dictionary.ofEntries x))
    rw [Dictionary.ofEntries_entries] at hsecond
    exact .cons rfl rfl hfirst (.cons rfl rfl hsecond (.nil _))
  exact Json.reads_record hfills rfl

namespace LocalRack

/-- A rack is read back. -/
theorem reads_tree (r : LocalRack) :
    Json.Reads (Json.readRecord shape none) r.tree.write r := by
  have happs : Json.Reads (Json.readMembers (Json.readRecord LocalApp.shape ⟨none, none⟩))
      (Json.Tree.object (r.apps.entries.map fun entry => (entry.1, entry.2.tree))).write
      r.apps.entries :=
    Json.reads_members (List.forall₂_map_left_iff.2
      (List.forall₂_same.2 fun entry _ => ⟨rfl, entry.2.reads_tree⟩))
  have hfills : Json.Fills shape.fields none
      [("apps", .object (r.apps.entries.map fun entry => (entry.1, entry.2.tree)))]
      (some r.apps) := by
    have hfirst := happs.map fun x => some (Dictionary.ofEntries x)
    rw [Dictionary.ofEntries_entries] at hfirst
    exact .cons rfl rfl hfirst (.nil _)
  exact Json.reads_record hfills rfl

theorem parse_tree (r : LocalRack) : parse r.tree.compact = .ok r := by
  rw [parse, Json.Tree.compact, Json.document_eq_ok_of_reads r.reads_tree]

end LocalRack

/-! ### The same racks -/

/-- The same processes in the same order, and the same resources. -/
structure LocalApp.Same (a b : LocalApp) : Prop where
  processes_eq : b.processes = a.processes
  resources_eq : ∀ name, b.resources.get? name = a.resources.get? name

namespace LocalRack

/-- The same apps under the same names. -/
def Same (r s : LocalRack) : Prop :=
  ∀ name, Option.Rel LocalApp.Same (r.apps.get? name) (s.apps.get? name)

variable {r s : LocalRack}

/-- The same racks have the same app of a name, or both have none. -/
theorem Same.app_cases (h : r.Same s) (name : String) :
    (∃ a b, r.app name = .ok a ∧ s.app name = .ok b ∧ a.Same b) ∨
      ∃ err, r.app name = .error err ∧ s.app name = .error err := by
  unfold app
  have hname := h name
  generalize r.apps.get? name = x, s.apps.get? name = y at hname ⊢
  cases hname with
  | some hsame => exact .inl ⟨_, _, rfl, rfl, hsame⟩
  | none => exact .inr ⟨_, rfl, rfl⟩

theorem Same.list_eq (h : r.Same s) : s.list = r.list := by
  funext name service
  unfold list
  rcases h.app_cases name with ⟨a, b, ha, hb, hsame⟩ | ⟨err, ha, hb⟩
  · rw [ha, hb, Except.map, Except.map, hsame.processes_eq]
  · rw [ha, hb]

theorem Same.processAddress_eq (h : r.Same s) : s.processAddress = r.processAddress := by
  funext name id port
  unfold processAddress
  rcases h.app_cases name with ⟨a, b, ha, hb, hsame⟩ | ⟨err, ha, hb⟩
  · rw [ha, hb]
    dsimp only
    rw [hsame.processes_eq]
  · rw [ha, hb]

theorem Same.resourceAddress_eq (h : r.Same s) : s.resourceAddress = r.resourceAddress := by
  funext name resource
  unfold resourceAddress
  rcases h.app_cases name with ⟨a, b, ha, hb, hsame⟩ | ⟨err, ha, hb⟩
  · rw [ha, hb]
    dsimp only
    rw [hsame.resources_eq]
  · rw [ha, hb]

/-- The same racks answer the same, whatever comes of connections. -/
theorem Same.rack_eq (h : r.Same s) {τ : Type} (connect : String → Awaited IoError τ) :
    s.rack connect = r.rack connect := by
  rw [rack, rack, h.list_eq, h.processAddress_eq, h.resourceAddress_eq]

/-- **The rack that is read back from a text.** It is the rack that has been written. If the same
rack is written with its entries in another order, the same rack is read back, with the processes of
each app in the same order, and it lists the same processes and opens the same tunnels. -/
theorem rack_of_text (r : LocalRack) :
    parse r.tree.compact = .ok r ∧
    ∀ s, r.Same s → ∃ back, parse s.tree.compact = .ok back ∧ r.Same back ∧
      ∀ (τ : Type) (connect : String → Awaited IoError τ), back.rack connect = r.rack connect :=
  ⟨r.parse_tree, fun s h => ⟨s, s.parse_tree, h, fun _ connect => h.rack_eq connect⟩⟩

end LocalRack

end Gatehouse
