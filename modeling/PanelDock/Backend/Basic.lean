import PanelDock.Notice.Basic
/-!
# Where panels are saved

A backend keeps the latest snapshot of a store. Saving and restoring may fail; what else they do is
handed back with their answer.
-/

namespace PanelDock

/-- Something that keeps a snapshot. -/
class Backend (β : Type) (α : outParam Type) where
  /-- Where the snapshot is kept, in the words of the log. -/
  location : β → String
  save : β → Snapshot α → Outcome α β (Except BackendFault Unit)
  /-- The snapshot that was saved last, if any was. -/
  restore : β → Outcome α β (Except BackendFault (Option (Snapshot α)))

/-- A snapshot in memory. -/
structure Memory (α : Type) where
  snapshot : Option (Snapshot α) := none
  /-- How often a snapshot was saved. -/
  saves : Nat := 0

instance {α : Type} : Backend (Memory α) α where
  location _ := "memory"
  save m s := ⟨.ok (), { snapshot := some s, saves := m.saves + 1 }, []⟩
  restore m := ⟨.ok m.snapshot, m, []⟩

end PanelDock
