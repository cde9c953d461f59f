import PanelDock.Catalog
/-!
# What a catalog holds

A catalog is read through `get?`. These are the equations of `get?` for everything that changes a
catalog, and what the listed keys and values say about it. Nothing above this module looks at the
entries themselves.
-/

namespace PanelDock.Catalog

variable {κ ν : Type} [Ord κ]

@[simp] theorem get?_empty (k : κ) : (empty : Catalog κ ν).get? k = none := rfl

variable [DecidableEq κ] [Std.LawfulEqOrd κ]

theorem compare_beq_eq (a b : κ) : (compare a b == .eq) = decide (a = b) := by
  rw [Bool.eq_iff_iff, beq_iff_eq, decide_eq_true_eq]
  exact Std.LawfulEqCmp.compare_eq_iff_eq

/-- The search that `get?` makes, with the keys compared by equality. -/
theorem get?_eq_find? (c : Catalog κ ν) (k : κ) :
    c.get? k = (c.entries.find? (fun e => decide (e.1 = k))).map (·.2) := by
  simp only [get?, compare_beq_eq]

theorem find?_insertEntry (key : κ) (value : ν) (l : List (κ × ν)) (k : κ) :
    ((insertEntry key value l).find? (fun e => decide (e.1 = k))).map (·.2) =
      if k = key then some value else (l.find? (fun e => decide (e.1 = k))).map (·.2) := by
  induction l with
  | nil => by_cases hk : key = k <;> simp [insertEntry, hk, eq_comm]
  | cons a rest ih =>
      rw [insertEntry]
      split
      -- the new entry comes before this one
      · by_cases hk : key = k
        · simp [hk]
        · simp [hk, Ne.symm hk]
      -- it takes the place of this one
      · next heq =>
        obtain rfl : key = a.1 := Std.LawfulEqCmp.eq_of_compare heq
        by_cases hk : a.1 = k
        · simp [hk]
        · simp [hk, Ne.symm hk]
      -- it goes in further down, and this one stays the first
      · next hgt =>
        have hne : a.1 ≠ key := by
          rintro rfl
          rw [Std.ReflOrd.compare_self] at hgt
          exact absurd hgt (by decide)
        by_cases hk : a.1 = k
        · simp [hk, hk ▸ hne]
        · simp only [List.find?_cons, hk, decide_false]
          exact ih

/-- Filing a value changes what is held under its key, and nothing else. -/
theorem get?_insert [Std.TransOrd κ] (c : Catalog κ ν) (key : κ) (value : ν) (k : κ) :
    (c.insert key value).get? k = if k = key then some value else c.get? k := by
  rw [get?_eq_find?, get?_eq_find?]
  exact find?_insertEntry key value c.entries k

@[simp] theorem get?_insert_self [Std.TransOrd κ] (c : Catalog κ ν) (key : κ) (value : ν) :
    (c.insert key value).get? key = some value := by
  rw [get?_insert, if_pos rfl]

theorem get?_insert_of_ne [Std.TransOrd κ] (c : Catalog κ ν) {key k : κ} (value : ν) (h : k ≠ key) :
    (c.insert key value).get? k = c.get? k := by
  rw [get?_insert, if_neg h]

/-- Taking an entry out changes what is held under its key, and nothing else. -/
theorem get?_erase (c : Catalog κ ν) (key k : κ) :
    (c.erase key).get? k = if k = key then none else c.get? k := by
  rw [get?_eq_find?, get?_eq_find?, erase, List.find?_filter]
  by_cases hk : k = key
  · subst hk
    rw [if_pos rfl, List.find?_eq_none.mpr, Option.map_none]
    intro e _
    simp [bne, compare_beq_eq]
  · rw [if_neg hk]
    congr 2
    funext e
    by_cases he : e.1 = k
    · simp [bne, compare_beq_eq, he, hk]
    · simp [he]

/-- What is found after filing a value is that value, or was there before under another key. -/
theorem get?_insert_eq_some [Std.TransOrd κ] {c : Catalog κ ν} {key k : κ} {value v : ν}
    (h : (c.insert key value).get? k = some v) :
    (k = key ∧ v = value) ∨ (k ≠ key ∧ c.get? k = some v) := by
  rw [get?_insert] at h
  by_cases hk : k = key
  · rw [if_pos hk] at h
    exact Or.inl ⟨hk, (Option.some.inj h).symm⟩
  · rw [if_neg hk] at h
    exact Or.inr ⟨hk, h⟩

/-- What is found after taking an entry out was there before under another key. -/
theorem get?_erase_eq_some {c : Catalog κ ν} {key k : κ} {v : ν}
    (h : (c.erase key).get? k = some v) : k ≠ key ∧ c.get? k = some v := by
  rw [get?_erase] at h
  by_cases hk : k = key
  · rw [if_pos hk] at h
    exact absurd h (by simp)
  · rw [if_neg hk] at h
    exact ⟨hk, h⟩

/-- There is nothing to take out under a key that is not there. -/
theorem erase_of_get?_none (c : Catalog κ ν) {key : κ} (h : c.get? key = none) :
    c.erase key = c := by
  have hfilter : c.entries.filter (fun e => compare e.1 key != .eq) = c.entries := by
    refine List.filter_eq_self.mpr (fun e he => ?_)
    rw [get?_eq_find?, Option.map_eq_none_iff, List.find?_eq_none] at h
    simpa [bne, compare_beq_eq] using h e he
  obtain ⟨entries, ascending⟩ := c
  simp only [erase, mk.injEq]
  exact hfilter

/-- The search for a key finds the entry of that key: an earlier one would have a smaller key. -/
theorem find?_eq_some_of_mem {l : List (κ × ν)} {k : κ} {v : ν}
    (hl : l.Pairwise (fun a b => compare a.1 b.1 = .lt)) (h : (k, v) ∈ l) :
    l.find? (fun e => decide (e.1 = k)) = some (k, v) := by
  induction l with
  | nil => exact absurd h (by simp)
  | cons a rest ih =>
      obtain ⟨ha, hrest⟩ := List.pairwise_cons.mp hl
      rcases List.mem_cons.mp h with rfl | h
      · simp
      · have hne : a.1 ≠ k := by
          rintro rfl
          have hlt := ha _ h
          rw [Std.ReflOrd.compare_self] at hlt
          exact absurd hlt (by decide)
        rw [List.find?_cons_of_neg (by simpa using hne)]
        exact ih hrest h

/-- The entries are what `get?` finds. -/
theorem mem_entries_iff (c : Catalog κ ν) (k : κ) (v : ν) :
    (k, v) ∈ c.entries ↔ c.get? k = some v := by
  rw [get?_eq_find?, Option.map_eq_some_iff]
  constructor
  · intro h
    exact ⟨(k, v), find?_eq_some_of_mem c.ascending h, rfl⟩
  · rintro ⟨e, he, rfl⟩
    have hk : e.1 = k := by simpa using List.find?_some he
    exact hk ▸ List.mem_of_find?_eq_some he

theorem mem_values_iff (c : Catalog κ ν) (v : ν) : v ∈ c.values ↔ ∃ k, c.get? k = some v := by
  simp only [values, List.mem_map, ← mem_entries_iff]
  constructor
  · rintro ⟨e, he, rfl⟩
    exact ⟨e.1, he⟩
  · rintro ⟨k, hk⟩
    exact ⟨(k, v), hk, rfl⟩

theorem mem_keys_iff (c : Catalog κ ν) (k : κ) : k ∈ c.keys ↔ ∃ v, c.get? k = some v := by
  simp only [keys, List.mem_map, ← mem_entries_iff]
  constructor
  · rintro ⟨e, he, rfl⟩
    exact ⟨e.2, he⟩
  · rintro ⟨v, hv⟩
    exact ⟨(k, v), hv, rfl⟩

omit [DecidableEq κ] in
/-- No key is listed twice. -/
theorem nodup_keys (c : Catalog κ ν) : c.keys.Nodup := by
  refine List.Pairwise.map _ (fun a b hlt he => ?_) c.ascending
  rw [he, Std.ReflOrd.compare_self] at hlt
  exact absurd hlt (by decide)

/-- The values of some kind can be counted by going through any keys among which are all that are in
use. -/
theorem countP_values (c : Catalog κ ν) (f : ν → Bool) {ks : List κ} (nodup : ks.Nodup)
    (covers : ∀ k v, c.get? k = some v → k ∈ ks) :
    c.values.countP f = ks.countP (fun k => (c.get? k).any f) := by
  have hkeys : c.values.countP f = c.keys.countP (fun k => (c.get? k).any f) := by
    rw [values, keys, List.countP_map, List.countP_map]
    refine List.countP_congr (fun e he => ?_)
    have hget : c.get? e.1 = some e.2 := (mem_entries_iff c e.1 e.2).mp he
    simp [hget]
  rw [hkeys, List.countP_eq_length_filter, List.countP_eq_length_filter]
  -- what is counted is in use, so it is among the keys and among `ks`
  refine ((List.perm_ext_iff_of_nodup (c.nodup_keys.sublist List.filter_sublist)
    (nodup.sublist List.filter_sublist)).mpr (fun k => ?_)).length_eq
  rw [List.mem_filter, List.mem_filter]
  refine and_congr_left (fun hany => ?_)
  obtain ⟨v, hv, _⟩ := (Option.any_eq_true _ _).mp hany
  exact ⟨fun _ => covers k v hv, fun _ => (c.mem_keys_iff k).mpr ⟨v, hv⟩⟩

/-! ## Equal catalogs -/

/-- Two catalogs are equal if the same is found in both: their entries are the same and stand in one
order. -/
theorem ext_get? [Std.TransOrd κ] {c d : Catalog κ ν} (h : ∀ k, c.get? k = d.get? k) : c = d := by
  have hnodup : ∀ c : Catalog κ ν, c.entries.Nodup := fun c =>
    (List.pairwise_map.mp c.nodup_keys).imp (fun hne he => hne (congrArg Prod.fst he))
  have hperm : c.entries.Perm d.entries := by
    rw [List.perm_ext_iff_of_nodup (hnodup c) (hnodup d)]
    rintro ⟨k, v⟩
    rw [mem_entries_iff, mem_entries_iff, h]
  have hentries : c.entries = d.entries := by
    refine hperm.eq_of_pairwise (fun a b _ _ hab hba => ?_) c.ascending d.ascending
    -- no key is below one that is below it
    exact absurd (hba.symm.trans (Std.OrientedCmp.gt_of_lt hab)) (by decide)
  obtain ⟨entries, ascending⟩ := c
  cases hentries
  rfl

/-- Of two values filed under one key, the later is kept. -/
theorem insert_insert [Std.TransOrd κ] (c : Catalog κ ν) (key : κ) (v w : ν) :
    (c.insert key v).insert key w = c.insert key w := by
  refine ext_get? (fun k => ?_)
  rw [get?_insert, get?_insert, get?_insert]
  split
  · rfl
  · rfl

/-- A new entry is taken out again. -/
theorem erase_insert [Std.TransOrd κ] (c : Catalog κ ν) {key : κ} (v : ν) (h : c.get? key = none) :
    (c.insert key v).erase key = c := by
  refine ext_get? (fun k => ?_)
  rw [get?_erase, get?_insert]
  split
  · rename_i hk
    rw [hk, h]
  · rfl

end PanelDock.Catalog
