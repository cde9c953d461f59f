/-!
# Catalogs

A `Catalog κ ν` files values of type `ν` under keys of type `κ`. The entries stand in increasing
order of their keys, each key at most once; the order is part of the type, so that everything listed
from a catalog comes out by key and no operation has to sort. What a catalog holds is seen through
`get?`.
-/

namespace PanelDock

/-- Values filed by key, in increasing order of the keys. -/
structure Catalog (κ ν : Type) [Ord κ] where
  /-- The keys with their values. -/
  entries : List (κ × ν)
  /-- Each key is below every later one. -/
  ascending : entries.Pairwise (fun a b => compare a.1 b.1 = .lt)

namespace Catalog

variable {κ ν : Type} [Ord κ]

/-- The catalog without entries. -/
def empty : Catalog κ ν := ⟨[], .nil⟩

instance : EmptyCollection (Catalog κ ν) := ⟨empty⟩
instance : Inhabited (Catalog κ ν) := ⟨empty⟩

/-- The value filed under `key`. -/
def get? (c : Catalog κ ν) (key : κ) : Option ν :=
  (c.entries.find? (fun e => compare e.1 key == .eq)).map (·.2)

/-- Whether a value is filed under `key`. -/
def contains (c : Catalog κ ν) (key : κ) : Bool := (c.get? key).isSome

/-- The number of entries. -/
def size (c : Catalog κ ν) : Nat := c.entries.length

/-- Whether there is no entry. -/
def isEmpty (c : Catalog κ ν) : Bool := c.entries.isEmpty

/-- The keys, in increasing order. -/
def keys (c : Catalog κ ν) : List κ := c.entries.map (·.1)

/-- The values, in the order of their keys. -/
def values (c : Catalog κ ν) : List ν := c.entries.map (·.2)

/-- Files `value` under `key` in an ascending list, in place of what was there. -/
def insertEntry (key : κ) (value : ν) : List (κ × ν) → List (κ × ν)
  | [] => [(key, value)]
  | e :: rest =>
    match compare key e.1 with
    | .lt => (key, value) :: e :: rest
    | .eq => (key, value) :: rest
    | .gt => e :: insertEntry key value rest

theorem mem_insertEntry {key : κ} {value : ν} {l : List (κ × ν)} {e : κ × ν}
    (h : e ∈ insertEntry key value l) : e = (key, value) ∨ e ∈ l := by
  induction l with
  | nil => simpa [insertEntry] using h
  | cons a rest ih =>
    rw [insertEntry] at h
    split at h
    · simpa using h
    · rcases List.mem_cons.1 h with h | h
      · exact .inl h
      · exact .inr (List.mem_cons_of_mem _ h)
    · rcases List.mem_cons.1 h with h | h
      · exact .inr (h ▸ List.mem_cons_self)
      · exact (ih h).imp id (List.mem_cons_of_mem _)

theorem pairwise_insertEntry [Std.TransOrd κ] [Std.LawfulEqOrd κ] {key : κ} {value : ν}
    {l : List (κ × ν)} (h : l.Pairwise (fun a b => compare a.1 b.1 = .lt)) :
    (insertEntry key value l).Pairwise (fun a b => compare a.1 b.1 = .lt) := by
  induction l with
  | nil => exact List.pairwise_singleton _ _
  | cons a rest ih =>
    obtain ⟨ha, hrest⟩ := List.pairwise_cons.1 h
    rw [insertEntry]
    split
    · next hlt =>
      -- the new key stands before the head, hence before everything behind the head
      refine List.pairwise_cons.2 ⟨fun e he => ?_, h⟩
      rcases List.mem_cons.1 he with rfl | he
      · exact hlt
      · exact Std.TransCmp.lt_trans hlt (ha e he)
    · next heq =>
      obtain rfl : key = a.1 := Std.LawfulEqCmp.eq_of_compare heq
      exact List.pairwise_cons.2 ⟨ha, hrest⟩
    · next hgt =>
      refine List.pairwise_cons.2 ⟨fun e he => ?_, ih hrest⟩
      rcases mem_insertEntry he with rfl | he
      · exact Std.OrientedCmp.lt_of_gt hgt
      · exact ha e he

/-- Files `value` under `key`, in place of what was there. -/
def insert [Std.TransOrd κ] [Std.LawfulEqOrd κ] (c : Catalog κ ν) (key : κ) (value : ν) :
    Catalog κ ν :=
  ⟨insertEntry key value c.entries, pairwise_insertEntry c.ascending⟩

/-- Takes out the entry under `key`, if there is one. -/
def erase (c : Catalog κ ν) (key : κ) : Catalog κ ν :=
  ⟨c.entries.filter (fun e => compare e.1 key != .eq), c.ascending.filter _⟩

end Catalog

end PanelDock
