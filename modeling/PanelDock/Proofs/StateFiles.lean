import PanelDock.Backend.File
import PanelDock.Proofs.Documents
import PanelDock.Proofs.Files
import PanelDock.Proofs.Timestamps
/-!
# The state file gives back what was saved

A codec `Keeps` a value if what it writes of it can be printed and is read as the same value.
Records keep what their fields keep: a field is found by its name, since no two fields have one
name, and a field without a value is written as null, which no value is. Of the numbers only the
coordinates need an assumption, because a float is read by a short cut that may be off in the last
place.
-/

namespace PanelDock

namespace Json

variable {τ : Type}

/-- The value is written as something that can be printed, and read back from it. -/
structure Codec.Keeps (codec : Codec τ) (x : τ) : Prop where
  decoded : codec.decode? (codec.encode x) = some x
  printable : (codec.encode x).Printable

/-! ## Parts of a document -/

theorem textCodec_keeps (s : String) : textCodec.Keeps s := ⟨rfl, .string s⟩

theorem boolCodec_keeps (b : Bool) : boolCodec.Keeps b := ⟨rfl, .bool b⟩

theorem ofInt_printable (n : Int) : (ofInt n).Printable := .number (Decimal.Numeral.ofInt_proper n)

/-- Every float is written as something that can be printed; a float that is not finite is written
as null. -/
theorem floatCodec_printable (x : Float) : (floatCodec.encode x).Printable := by
  show (ofFloat x).Printable
  rw [ofFloat]
  split
  · exact .number (Decimal.Numeral.ofFloat_proper x)
  · exact .null

theorem wholeCodec_keeps {least greatest n : Int} (h : least ≤ n ∧ n ≤ greatest) :
    (wholeCodec least greatest).Keeps n where
  decoded := by
    simp [wholeCodec, ofInt, Decimal.Numeral.toInt?_ofInt, h]
  printable := ofInt_printable n

theorem word32Codec_keeps (n : UInt32) : word32Codec.Keeps n where
  decoded := by
    have hn : (0 : Int) ≤ n.toNat ∧ (n.toNat : Int) ≤ 4294967295 := by
      have := n.toNat_lt
      omega
    have hread : (wholeCodec 0 4294967295).decode? (ofNat n.toNat) = some (n.toNat : Int) :=
      (wholeCodec_keeps hn).decoded
    show ((wholeCodec 0 4294967295).decode? (ofNat n.toNat)).map
      (fun n => UInt32.ofNat n.toNat) = some n
    rw [hread, Option.map_some, Int.toNat_natCast, UInt32.ofNat_toNat]
  printable := ofInt_printable _

/-- A finite float is kept if the reading of its decimal is exact. -/
theorem floatCodec_keeps {x : Float} (finite : x.isFinite = true)
    (exact : (Decimal.Numeral.ofFloat x).scaled? = some x) : floatCodec.Keeps x where
  decoded := by
    simp [floatCodec, ofFloat, finite, exact]
  printable := floatCodec_printable x

/-- A field that may be absent is read as it was written. -/
theorem optional?_ofOption {codec : Codec τ} {o : Option τ} (h : ∀ x ∈ o, codec.Keeps x)
    (hnull : ∀ x, codec.encode x ≠ .null) :
    optional? codec.decode? (some (ofOption codec.encode o)) = some o := by
  cases o with
  | none => rfl
  | some x =>
      rw [ofOption]
      unfold optional?
      split
      · rename_i he
        cases he
      · rename_i he
        exact absurd (Option.some.inj he) (hnull x)
      · rename_i he
        rw [← Option.some.inj he, (h x rfl).decoded]
        rfl

theorem ofOption_printable {encode : τ → Json} {o : Option τ} (h : ∀ x ∈ o, (encode x).Printable) :
    (ofOption encode o).Printable := by
  cases o with
  | none => exact .null
  | some x => exact h x rfl

theorem array_printable {encode : τ → Json} {l : List τ} (h : ∀ x ∈ l, (encode x).Printable) :
    (Json.array (l.map encode)).Printable :=
  .array fun j hj => by
    obtain ⟨x, hx, rfl⟩ := List.mem_map.mp hj
    exact h x hx

/-! ## Fields of a record -/

/-- The members of a record whose fields are only written if they have a value. -/
def given (fields : List (String × Option Json)) : List (String × Json) :=
  fields.filterMap (fun f => f.2.map (fun value => (f.1, value)))

theorem given_cons (f : String × Option Json) (fields : List (String × Option Json)) :
    given (f :: fields) = (f.2.map (fun value => (f.1, value))).toList ++ given fields := by
  rw [given, List.filterMap_cons]
  cases f.2 with
  | none => rfl
  | some value => rfl

theorem fst_mem_of_mem_given {fields : List (String × Option Json)} {m : String × Json}
    (h : m ∈ given fields) : m.1 ∈ fields.map Prod.fst := by
  obtain ⟨f, hf, hm⟩ := List.mem_filterMap.mp h
  obtain ⟨value, _, rfl⟩ := Option.map_eq_some_iff.mp hm
  exact List.mem_map_of_mem hf

/-- What is written under the name of a field is its value, if it has one. -/
theorem filter_given {fields : List (String × Option Json)} (nodup : (fields.map Prod.fst).Nodup)
    {f : String × Option Json} (h : f ∈ fields) :
    (given fields).filter (fun m => m.1 == f.1) = (f.2.map (fun value => (f.1, value))).toList := by
  induction fields with
  | nil => cases h
  | cons first rest ih =>
      obtain ⟨hfirst, hrest⟩ := List.nodup_cons.mp nodup
      rw [given_cons, List.filter_append]
      rcases List.mem_cons.mp h with rfl | h
      · have hnone : (given rest).filter (fun m => m.1 == f.1) = [] :=
          List.filter_eq_nil_iff.mpr fun m hm heq =>
          hfirst (eq_of_beq heq ▸ fst_mem_of_mem_given hm)
        rw [hnone, List.append_nil]
        cases f.2 with
        | none => rfl
        | some value => exact List.filter_cons_of_pos (beq_self_eq_true _)
      · have hother : ¬(first.1 == f.1) = true :=
          fun heq => hfirst (eq_of_beq heq ▸ List.mem_map_of_mem h)
        have hpassed : (first.2.map (fun value => (first.1, value))).toList.filter
            (fun m => m.1 == f.1) = [] := by
          cases first.2 with
          | none => rfl
          | some value => exact List.filter_cons_of_neg hother
        rw [hpassed, List.nil_append, ih hrest h]

/-- The fields of a record that are written are found by their names, and the others are found to be
absent. -/
theorem fields?_given {names : List String} (nodup : names.Nodup)
    {fields : List (String × Option Json)} (h : fields.map Prod.fst = names) :
    fields? names (.object (given fields)) = some (fields.map Prod.snd) := by
  subst h
  have honce : (fields.map Prod.fst).all
      (fun name => ((given fields).filter (fun m => m.1 == name)).length ≤ 1) = true := by
    refine List.all_eq_true.mpr fun name hname => ?_
    obtain ⟨f, hf, rfl⟩ := List.mem_map.mp hname
    rw [filter_given nodup hf]
    cases f.2 <;> rfl
  have hfound : ∀ f ∈ fields, ((given fields).find? (fun m => m.1 == f.1)).map (·.2) = f.2 := by
    intro f hf
    rw [← List.head?_filter, filter_given nodup hf]
    cases f.2 <;> rfl
  rw [fields?, if_pos honce, List.map_map]
  exact congrArg some (List.map_congr_left hfound)

theorem given_some (members : List (String × Json)) :
    given (members.map (fun m => (m.1, some m.2))) = members := by
  rw [given, List.filterMap_map]
  exact List.filterMap_some

/-- The fields of a record that are all written are found by their names. -/
theorem fields?_object {names : List String} (nodup : names.Nodup) {members : List (String × Json)}
    (h : members.map Prod.fst = names) :
    fields? names (.object members) = some (members.map (fun m => some m.2)) := by
  have hnames : (members.map (fun m => (m.1, some m.2))).map Prod.fst = names := by
    rw [List.map_map]
    exact h
  have hfields := fields?_given nodup hnames
  rwa [given_some, List.map_map] at hfields

end Json

/-! ## Panels and snapshots -/

variable {α : Type} {number : Json.Codec α}

open Json (Codec fields? fields?_object optional? optional?_ofOption ofOption_printable)

theorem Point.codec_printable {p : Point α} (hx : (number.encode p.x).Printable)
    (hy : (number.encode p.y).Printable) : ((Point.codec number).encode p).Printable :=
  .object (by simp [hx, hy])

theorem Size.codec_printable {s : Size α} (hwidth : (number.encode s.width).Printable)
    (hheight : (number.encode s.height).Printable) : ((Size.codec number).encode s).Printable :=
  .object (by simp [hwidth, hheight])

theorem Point.codec_keeps {p : Point α} (hx : number.Keeps p.x) (hy : number.Keeps p.y) :
    (Point.codec number).Keeps p where
  decoded := by
    have hfields : fields? ["x", "y"] ((Point.codec number).encode p) =
        some [some (number.encode p.x), some (number.encode p.y)] := fields?_object (by decide) rfl
    simp only [Point.codec] at hfields ⊢
    simp [hfields, hx.decoded, hy.decoded]
  printable := codec_printable hx.printable hy.printable

theorem Size.codec_keeps {s : Size α} (hwidth : number.Keeps s.width)
    (hheight : number.Keeps s.height) :
    (Size.codec number).Keeps s where
  decoded := by
    have hfields : fields? ["width", "height"] ((Size.codec number).encode s) =
        some [some (number.encode s.width), some (number.encode s.height)] :=
          fields?_object (by decide) rfl
    simp only [Size.codec] at hfields ⊢
    simp [hfields, hwidth.decoded, hheight.decoded]
  printable := codec_printable hwidth.printable hheight.printable

theorem PanelId.codec_keeps (id : PanelId) : PanelId.codec.Keeps id := ⟨rfl, .string id.text⟩

theorem Placement.codec_keeps (p : Placement) : Placement.codec.Keeps p :=
  ⟨by cases p <;> rfl, .string p.name⟩

theorem Instant.codec_keeps (t : Instant) : Instant.codec.Keeps t where
  decoded := by
    simp only [Instant.codec, Json.textCodec, Option.bind_eq_bind, Option.bind_some, ofText?_text]
  printable := .string t.text

/-- The coordinates of a panel. -/
def Panel.coordinates (p : Panel α) : List α :=
  p.position.elim [] (fun o => [o.x, o.y]) ++ p.size.elim [] (fun s => [s.width, s.height])

/-- The stacking value fits 32 bits with a sign. -/
def Panel.Fits (p : Panel α) : Prop := ∀ z ∈ p.zIndex, -2147483648 ≤ z ∧ z ≤ 2147483647

instance (p : Panel α) : Decidable p.Fits :=
  inferInstanceAs (Decidable (∀ z ∈ p.zIndex, -2147483648 ≤ z ∧ z ≤ 2147483647))

theorem Panel.mem_coordinates_of_position {p : Panel α} {o : Point α} (h : o ∈ p.position) :
    o.x ∈ p.coordinates ∧ o.y ∈ p.coordinates := by
  rw [coordinates, Option.mem_def.mp h]
  simp

theorem Panel.mem_coordinates_of_size {p : Panel α} {s : Size α} (h : s ∈ p.size) :
    s.width ∈ p.coordinates ∧ s.height ∈ p.coordinates := by
  rw [coordinates, Option.mem_def.mp h]
  simp

/-- A panel can be printed if its coordinates can. -/
theorem Panel.codec_printable {p : Panel α} (h : ∀ x ∈ p.coordinates, (number.encode x).Printable) :
    ((Panel.codec number).encode p).Printable := by
  have hposition : (Json.ofOption (Point.codec number).encode p.position).Printable :=
    ofOption_printable fun o ho =>
      have hmem := mem_coordinates_of_position ho
      Point.codec_printable (h _ hmem.1) (h _ hmem.2)
  have hsize : (Json.ofOption (Size.codec number).encode p.size).Printable :=
    ofOption_printable fun s hs =>
      have hmem := mem_coordinates_of_size hs
      Size.codec_printable (h _ hmem.1) (h _ hmem.2)
  have hzIndex : (Json.ofOption Json.int32Codec.encode p.zIndex).Printable :=
    ofOption_printable fun z _ => Json.ofInt_printable z
  have hid := (PanelId.codec_keeps p.id).printable
  have hplacement := (Placement.codec_keeps p.placement).printable
  have horder := (Json.word32Codec_keeps p.order).printable
  have hcreated := (Instant.codec_keeps p.createdAt).printable
  have hupdated := (Instant.codec_keeps p.lastUpdated).printable
  exact .object (by
    simp [hid, hplacement, hposition, hsize, hzIndex, horder, hcreated, hupdated,
      Json.Printable.string, Json.Printable.bool])

/-- A panel is kept if its coordinates are. -/
theorem Panel.codec_keeps {p : Panel α} (fits : p.Fits) (h : ∀ x ∈ p.coordinates, number.Keeps x) :
    (Panel.codec number).Keeps p := by
  have hposition : ∀ o ∈ p.position, (Point.codec number).Keeps o := fun o ho =>
    have hmem := mem_coordinates_of_position ho
    Point.codec_keeps (h _ hmem.1) (h _ hmem.2)
  have hsize : ∀ s ∈ p.size, (Size.codec number).Keeps s := fun s hs =>
    have hmem := mem_coordinates_of_size hs
    Size.codec_keeps (h _ hmem.1) (h _ hmem.2)
  have hzIndex : ∀ z ∈ p.zIndex, Json.int32Codec.Keeps z :=
    fun z hz => Json.wholeCodec_keeps (fits z hz)
  constructor
  · have hfields : fields? Panel.fieldNames ((Panel.codec number).encode p) = some _ :=
      fields?_object (by decide) rfl
    simp only [Panel.codec] at hfields ⊢
    refine Option.bind_eq_some_iff.mpr ⟨_, hfields, ?_⟩
    refine Option.bind_eq_some_iff.mpr ⟨_, (PanelId.codec_keeps p.id).decoded, ?_⟩
    refine Option.bind_eq_some_iff.mpr ⟨_, (Json.textCodec_keeps p.title).decoded, ?_⟩
    refine Option.bind_eq_some_iff.mpr ⟨_, (Placement.codec_keeps p.placement).decoded, ?_⟩
    refine Option.bind_eq_some_iff.mpr ⟨_, (Json.textCodec_keeps p.dock).decoded, ?_⟩
    refine Option.bind_eq_some_iff.mpr ⟨_, optional?_ofOption hposition (by nofun), ?_⟩
    refine Option.bind_eq_some_iff.mpr ⟨_, optional?_ofOption hsize (by nofun), ?_⟩
    refine Option.bind_eq_some_iff.mpr ⟨_, optional?_ofOption hzIndex (by nofun), ?_⟩
    refine Option.bind_eq_some_iff.mpr ⟨_, (Json.boolCodec_keeps p.visible).decoded, ?_⟩
    refine Option.bind_eq_some_iff.mpr ⟨_, (Json.boolCodec_keeps p.mounted).decoded, ?_⟩
    refine Option.bind_eq_some_iff.mpr ⟨_, (Json.word32Codec_keeps p.order).decoded, ?_⟩
    refine Option.bind_eq_some_iff.mpr ⟨_, (Instant.codec_keeps p.createdAt).decoded, ?_⟩
    exact Option.bind_eq_some_iff.mpr ⟨_, (Instant.codec_keeps p.lastUpdated).decoded, rfl⟩
  · exact codec_printable fun x hx => (h x hx).printable

theorem Json.list?_map {τ : Type} {codec : Codec τ} {l : List τ} (h : ∀ x ∈ l, codec.Keeps x) :
    Json.list? codec.decode? (.array (l.map codec.encode)) = some l := by
  rw [Json.list?]
  induction l with
  | nil => rfl
  | cons x l ih =>
      rw [List.forall_mem_cons] at h
      rw [List.map_cons, List.mapM_cons, h.1.decoded, Option.bind_eq_bind, Option.bind_some, ih h.2]
      rfl

/-- The coordinates of the panels of a snapshot. -/
def Snapshot.coordinates (s : Snapshot α) : List α := s.panels.flatMap Panel.coordinates

/-- A snapshot is kept, with the order of its panels, if its coordinates are. -/
theorem Snapshot.codec_keeps {s : Snapshot α} (fits : ∀ p ∈ s.panels, p.Fits)
    (h : ∀ x ∈ s.coordinates, number.Keeps x) : (Snapshot.codec number).Keeps s := by
  have hpanels : ∀ p ∈ s.panels, (Panel.codec number).Keeps p := fun p hp =>
    Panel.codec_keeps (fits p hp) fun x hx => h x (List.mem_flatMap.mpr ⟨p, hp, hx⟩)
  have hversion := Json.word32Codec_keeps s.version
  have hsaved := Instant.codec_keeps s.savedAt
  constructor
  · have hfields :
        fields? ["version", "saved_at", "panels"] ((Snapshot.codec number).encode s) = some _ :=
      fields?_object (by decide) rfl
    have hlist := Json.list?_map hpanels
    simp only [Snapshot.codec] at hfields ⊢
    simp [hfields, hversion.decoded, hsaved.decoded, hlist]
  · have hlist : (Json.array (s.panels.map (Panel.codec number).encode)).Printable :=
      Json.array_printable fun p hp => (hpanels p hp).printable
    exact .object (by simp [hversion.printable, hsaved.printable, hlist])

namespace StateFile

/-- The text of a snapshot is read as that snapshot. -/
theorem ofDocument?_document {s : Snapshot α} (fits : ∀ p ∈ s.panels, p.Fits)
    (h : ∀ x ∈ s.coordinates, number.Keeps x) :
    ofDocument? number (document number s) = some s := by
  obtain ⟨decoded, printable⟩ := Snapshot.codec_keeps fits h
  rw [ofDocument?, document, Json.read?_printed Json.indented_airy printable]
  exact decoded

/-- **What was saved is restored.** If the file system takes the text, then saving succeeds, and
restoring gives back the whole snapshot, its panels in their order; a snapshot of another version is
refused with its number. The stacking values are those of a machine word, and the coordinates are
finite floats whose decimals read back. -/
theorem restores_what_it_saved {f : StateFile Float} (coded : f.number = Json.floatCodec)
    {s : Snapshot Float} (fits : ∀ p ∈ s.panels, p.Fits)
    (finite : ∀ x ∈ s.coordinates, x.isFinite = true)
    (exact : ∀ x ∈ s.coordinates, (Decimal.Numeral.ofFloat x).scaled? = some x)
    (taken : (f.files.replace f.path (document f.number s)).2.succeeded = true) :
    (f.save s).result = .ok () ∧ (f.save s).state.restore.result =
      if s.version = Snapshot.currentVersion then .ok (some s)
        else .error (.unsupportedVersion s.version) := by
  have hkept : ∀ x ∈ s.coordinates, f.number.Keeps x := fun x hx => by
    rw [coded]
    exact Json.floatCodec_keeps (finite x hx) (exact x hx)
  have hread := FileTree.read_replace taken
  have hdocument := ofDocument?_document fits hkept
  rw [save]
  dsimp only
  rw [if_pos taken]
  refine ⟨rfl, ?_⟩
  rw [restore, hread]
  dsimp only
  rw [hdocument]
  dsimp only
  by_cases hversion : s.version = Snapshot.currentVersion
  · rw [if_pos hversion, if_neg (not_not_intro hversion)]
  · rw [if_neg hversion, if_pos hversion]

namespace Keepsake

/-- A clock that shows a leap second, and one that shows a part of a second. -/
def leap : Instant where
  date := { year := 2016, month := 12, day := 31 }
  time := { hour := 23, minute := 59, second := 60, nanosecond := 0 }
  date_valid := by decide
  time_valid := by decide

def later : Instant where
  date := { year := 2017, month := 1, day := 1 }
  time := { hour := 0, minute := 0, second := 3, nanosecond := 40500 }
  date_valid := by decide
  time_valid := by decide

/-- A panel in a window, behind everything. -/
def floating : Panel Float where
  id := ⟨"z \"\\"⟩
  title := "多窗\n"
  placement := .floating
  dock := "left"
  position := some { x := -320.5, y := 0.1 }
  size := some { width := 400, height := 1e21 }
  zIndex := some (-1)
  visible := true
  mounted := true
  order := 4294967295
  createdAt := leap
  lastUpdated := later

/-- A panel without a title that is hidden in its dock. -/
def stowed : Panel Float where
  id := ⟨"a"⟩
  title := ""
  placement := .hidden
  dock := "…"
  position := none
  size := none
  zIndex := none
  visible := false
  mounted := false
  order := 0
  createdAt := later
  lastUpdated := later

/-- Both panels, not in the order of their names. -/
def both (version : UInt32) : Snapshot Float :=
  { version, savedAt := later, panels := [floating, stowed] }

def file : StateFile Float where
  path := "panels.json"
  files := FileTree.bare []
  number := Json.floatCodec

end Keepsake

open Keepsake in
/-- Two panels are restored as they were; had a later version saved them, they would not be. -/
theorem keepsake_is_restored :
    (file.save (both 1)).state.restore.result = .ok (some (both 1)) ∧
      (file.save (both 2)).state.restore.result = .error (.unsupportedVersion 2) := by
  have fits : ∀ p ∈ [floating, stowed], p.Fits := by decide
  have finite : ∀ x ∈ (both 1).coordinates, x.isFinite = true := by decide +kernel
  have exact : ∀ x ∈ (both 1).coordinates, (Decimal.Numeral.ofFloat x).scaled? = some x := by
    decide +kernel
  exact ⟨(restores_what_it_saved (f := file)
    (s := both 1) rfl fits finite exact (by decide +kernel)).2,
    (restores_what_it_saved (f := file) (s := both 2) rfl fits finite exact (by decide +kernel)).2⟩

end StateFile

end PanelDock
