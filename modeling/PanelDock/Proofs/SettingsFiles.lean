import PanelDock.Proofs.Files
import PanelDock.Proofs.Sections
import PanelDock.Settings.Files
/-!
# Settings files give back what they name

What a settings file says is said key by key. A key that it holds gives the setting, and for one
that it does not hold the standard is taken, whether the section of the key is there or not. So the
settings that are read are told by the set of keys that the file holds (`Settings.Holds`), and it
does not matter in which order they stand, or in which of the forms of the language they are
written.

Saved settings are the case of all keys. That the text of a file can be read at all rests on the
form that is chosen for the name of the state file, which may be any text.
-/

namespace PanelDock

open Toml (Entries)
open Decimal (Numeral)

/-! ## Keys -/

/-- The keys of a settings file. -/
inductive Settings.Key where
  | frontGap
  | warnOnClamp
  | defaultX
  | defaultY
  | defaultWidth
  | defaultHeight
  | cascadeOffset
  | minWidth
  | minHeight
  | resizeHandle
  | focusOnShow
  | enabled
  | saveOnTransition
  | stateFile
  | level
deriving DecidableEq

/-- What can be set at a key. -/
inductive Settings.Item (α : Type) where
  | word (n : UInt32)
  | flag (b : Bool)
  | number (x : α)
  | file (path : Option String)
  | level (l : LogLevel)
deriving DecidableEq

/-- What is written for a setting. There is nothing to write for a file that is not set. -/
def Settings.Item.toml? {α : Type} (number : Toml.NumberCodec α) : Settings.Item α → Option Toml
  | word n => some (.integer n.toNat)
  | flag b => some (.boolean b)
  | .number x => some (.float (number.encode x))
  | file path => path.map .string
  | level l => some (.string l.name)

namespace Settings

namespace Key

/-- The section in which a key stands. -/
def heading : Key → String
  | frontGap | warnOnClamp => "zindex"
  | defaultX | defaultY | defaultWidth | defaultHeight | cascadeOffset | minWidth |
      minHeight | resizeHandle
  | focusOnShow => "flyout"
  | enabled | saveOnTransition | stateFile => "persistence"
  | level => "logging"

/-- The name of a key within its section. -/
def name : Key → String
  | frontGap => "front_gap"
  | warnOnClamp => "warn_on_clamp"
  | defaultX => "default_x"
  | defaultY => "default_y"
  | defaultWidth => "default_width"
  | defaultHeight => "default_height"
  | cascadeOffset => "cascade_offset"
  | minWidth => "min_width"
  | minHeight => "min_height"
  | resizeHandle => "resize_handle"
  | focusOnShow => "focus_on_show"
  | enabled => "enabled"
  | saveOnTransition => "save_on_transition"
  | stateFile => "state_file"
  | level => "level"

/-- The sections in their order, each with its keys. -/
def sections : List (String × List Key) :=
  [("zindex", [frontGap, warnOnClamp]),
    ("flyout", [defaultX, defaultY, defaultWidth, defaultHeight, cascadeOffset, minWidth,
      minHeight, resizeHandle, focusOnShow]),
    ("persistence", [enabled, saveOnTransition, stateFile]), ("logging", [level])]

/-- What a document has at a key. -/
def find? (k : Key) (entries : Entries) : Option Toml :=
  match Toml.lookup k.heading entries with
  | some (.table _ inner) => Toml.lookup k.name inner
  | _ => none

end Key

variable {α : Type}

/-- The setting at a key. -/
def setting (s : Settings α) : Key → Item α
  | .frontGap => .word s.stack.frontGap
  | .warnOnClamp => .flag s.stack.warnOnClamp
  | .defaultX => .number s.flyout.defaultX
  | .defaultY => .number s.flyout.defaultY
  | .defaultWidth => .number s.flyout.defaultWidth
  | .defaultHeight => .number s.flyout.defaultHeight
  | .cascadeOffset => .number s.flyout.cascadeOffset
  | .minWidth => .number s.flyout.minWidth
  | .minHeight => .number s.flyout.minHeight
  | .resizeHandle => .flag s.flyout.resizeHandle
  | .focusOnShow => .flag s.flyout.focusOnShow
  | .enabled => .flag s.saving.enabled
  | .saveOnTransition => .flag s.saving.saveOnTransition
  | .stateFile => .file s.saving.stateFile
  | .level => .level s.logLevel

/-- The entries at these keys, as far as a file holds them. -/
def entriesAt (number : Toml.NumberCodec α) (s : Settings α) (keys : Key → Bool)
    (ks : List Key) : Entries :=
  (ks.filter keys).filterMap (fun k => ((s.setting k).toml? number).map (k.name, ·))

/-- The sections of a settings file that holds only some of the keys. -/
def excerpt (number : Toml.NumberCodec α) (s : Settings α)
    (keys : Key → Bool) : List (String × Entries) :=
  Key.sections.map (fun (heading, ks) => (heading, s.entriesAt number keys ks))

/-- The settings with these keys taken from the first and the others from the second. -/
def chosen (keys : Key → Bool) (s base : Settings α) : Settings α where
  stack :=
    { frontGap := if keys .frontGap then s.stack.frontGap else base.stack.frontGap
      warnOnClamp := if keys .warnOnClamp then s.stack.warnOnClamp else base.stack.warnOnClamp }
  flyout :=
    { defaultX := if keys .defaultX then s.flyout.defaultX else base.flyout.defaultX
      defaultY := if keys .defaultY then s.flyout.defaultY else base.flyout.defaultY
      defaultWidth := if keys .defaultWidth then s.flyout.defaultWidth else base.flyout.defaultWidth
      defaultHeight :=
        if keys .defaultHeight then s.flyout.defaultHeight else base.flyout.defaultHeight
      cascadeOffset :=
        if keys .cascadeOffset then s.flyout.cascadeOffset else base.flyout.cascadeOffset
      minWidth := if keys .minWidth then s.flyout.minWidth else base.flyout.minWidth
      minHeight := if keys .minHeight then s.flyout.minHeight else base.flyout.minHeight
      resizeHandle := if keys .resizeHandle then s.flyout.resizeHandle else base.flyout.resizeHandle
      focusOnShow := if keys .focusOnShow then s.flyout.focusOnShow else base.flyout.focusOnShow }
  saving :=
    { enabled := if keys .enabled then s.saving.enabled else base.saving.enabled
      saveOnTransition :=
        if keys .saveOnTransition then s.saving.saveOnTransition else base.saving.saveOnTransition
      stateFile := if keys .stateFile then s.saving.stateFile else base.saving.stateFile }
  logLevel := if keys .level then s.logLevel else base.logLevel

theorem chosen_all (s base : Settings α) : s.chosen (fun _ => true) base = s := rfl

/-- The file of all keys is the settings file. -/
theorem excerpt_all (number : Toml.NumberCodec α) (s : Settings α) :
    s.excerpt number (fun _ => true) = s.sections number := by
  unfold excerpt sections entriesAt
  cases hfile : s.saving.stateFile with
  | none => simp [Key.sections, Key.name, setting, Item.toml?, hfile]
  | some path => simp [Key.sections, Key.name, setting, Item.toml?, hfile]

end Settings

/-! ## What a document says -/

/-- A number of a document that reads as this float. A whole number may be written without a point.
-/
def Toml.Denotes (x : Float) : Toml → Prop
  | .integer n => (Numeral.ofInt n).nearest = x
  | .float (.finite n) => n.nearest = x
  | _ => False

theorem Toml.Denotes.decode? {x : Float} {v : Toml} (h : v.Denotes x) :
    Toml.floats.decode? v = some x := by
  unfold Denotes at h
  split at h
  · rw [← h]
    rfl
  · rw [← h]
    rfl
  · exact h.elim

theorem Toml.word32?_toNat (n : UInt32) : Toml.word32? (.integer n.toNat) = some n := by
  have hrange : (0 : Int) ≤ (n.toNat : Int) ∧ (n.toNat : Int) < Int.pow 2 32 := by
    have hpower : Int.pow 2 32 = 4294967296 := by decide
    have := n.toNat_lt
    rw [hpower]
    omega
  rw [Toml.word32?, if_pos hrange, Int.toNat_natCast, UInt32.ofNat_toNat]

theorem LogLevel.ofName?_name (level : LogLevel) : LogLevel.ofName? level.name = some level := by
  cases level <;> decide

/-- What is found says the setting. A number may be written in any way. -/
def Settings.Item.Says (found : Option Toml) : Settings.Item Float → Prop
  | number x => ∃ v, found = some v ∧ v.Denotes x
  | item => found = item.toml? Toml.floats

namespace Settings

/-- A document holds exactly these keys of a settings file, and says these settings there. -/
structure Holds (s : Settings Float) (keys : Key → Bool) (entries : Entries) : Prop where
  /-- A section that is there is a table. -/
  tables : ∀ (k : Key) (v : Toml), Toml.lookup k.heading entries = some v →
      ∃ origin inner, v = .table origin inner
  given : ∀ k, keys k = true → (s.setting k).Says (k.find? entries)
  missing : ∀ k, keys k = false → k.find? entries = none

variable {s : Settings Float} {keys : Key → Bool} {entries : Entries} {τ : Type}

/-- The entries of a section, none if it is missing. -/
def sectionAt (heading : String) (entries : Entries) : Entries :=
  match Toml.lookup heading entries with
  | some (.table _ inner) => inner
  | _ => []

theorem Key.find?_eq (k : Key) (entries : Entries) :
    k.find? entries = Toml.lookup k.name (sectionAt k.heading entries) := by
  unfold find? sectionAt
  split <;> rfl

/-- A section that is missing is read like one without entries. -/
theorem orElse?_sectionAt {heading : String} {absent : τ} {read? : Toml → Option τ}
    (tables : ∀ v, Toml.lookup heading entries = some v → ∃ origin inner, v = .table origin inner)
    (hempty : read? (.table .header []) = some absent)
    (horigin : ∀ origin inner, read? (.table origin inner) = read? (.table .header inner)) :
    Toml.orElse? absent read? (Toml.lookup heading entries) =
      read? (.table .header (sectionAt heading entries)) := by
  unfold sectionAt
  cases hfound : Toml.lookup heading entries with
  | none => exact hempty.symm
  | some v =>
      obtain ⟨origin, inner, rfl⟩ := tables v hfound
      exact horigin origin inner

/-- A key is read as the setting if it is held, and as the standard otherwise. -/
theorem orElse?_chosen {held : Bool} {found : Option Toml} {x base : τ} {decode? : Toml → Option τ}
    (given : held = true → ∃ v, found = some v ∧ decode? v = some x)
    (missing : held = false → found = none) :
    Toml.orElse? base decode? found = some (if held then x else base) := by
  cases held with
  | true =>
      obtain ⟨v, rfl, hread⟩ := given rfl
      exact hread
  | false => rw [missing rfl]; rfl

namespace Holds

theorem orElse? (h : s.Holds keys entries) (k : Key) {x base : τ} {decode? : Toml → Option τ}
    (hread : (s.setting k).Says (k.find? entries) → ∃ v, k.find? entries = some v ∧
      decode? v = some x) :
    Toml.orElse? base decode? (Toml.lookup k.name (sectionAt k.heading entries)) =
      some (if keys k then x else base) := by
  rw [← k.find?_eq]
  exact orElse?_chosen (fun hheld => hread (h.given k hheld)) (h.missing k)

theorem stack (h : s.Holds keys entries) :
    Toml.orElse? {} stackOfToml? (Toml.lookup "zindex" entries) =
      some (s.chosen keys .standard).stack := by
  have hsection : Toml.orElse? {} stackOfToml? (Toml.lookup "zindex" entries) =
      stackOfToml? (.table .header (sectionAt "zindex" entries)) :=
    orElse?_sectionAt (h.tables .frontGap) rfl fun _ _ => rfl
  have hgap : Toml.orElse? 10 Toml.word32? (Toml.lookup "front_gap" (sectionAt "zindex" entries)) =
      some (s.chosen keys .standard).stack.frontGap :=
        h.orElse? .frontGap fun hsaid => ⟨_, hsaid, Toml.word32?_toNat _⟩
  have hwarn :
      Toml.orElse? true Toml.bool? (Toml.lookup "warn_on_clamp" (sectionAt "zindex" entries)) =
      some (s.chosen keys .standard).stack.warnOnClamp :=
        h.orElse? .warnOnClamp fun hsaid => ⟨_, hsaid, rfl⟩
  rw [hsection]
  simp only [stackOfToml?, Toml.values?, List.map_cons, List.map_nil, Option.bind_eq_bind,
    Option.bind_some, hgap, hwarn]
  rfl

/-- A number is read as the setting if its key is held. -/
theorem number (h : s.Holds keys entries) (k : Key) {x base : Float}
    (hsetting : s.setting k = .number x) :
    Toml.orElse? base Toml.floats.decode? (Toml.lookup k.name (sectionAt k.heading entries)) =
      some (if keys k then x else base) :=
  h.orElse? k fun hsaid => by
    rw [hsetting] at hsaid
    obtain ⟨v, hv, hdenotes⟩ := hsaid
    exact ⟨v, hv, hdenotes.decode?⟩

theorem flyout (h : s.Holds keys entries) :
    Toml.orElse? .standard (flyoutOfToml? Toml.floats) (Toml.lookup "flyout" entries) =
      some (s.chosen keys .standard).flyout := by
  have hsection :
      Toml.orElse? .standard (flyoutOfToml? Toml.floats) (Toml.lookup "flyout" entries) =
      flyoutOfToml? Toml.floats (.table .header (sectionAt "flyout" entries)) :=
    orElse?_sectionAt (h.tables .defaultX) rfl fun _ _ => rfl
  -- each entry is read as its key says, and the section is put together from what was read
  have hx : Toml.orElse? FlyoutSettings.standard.defaultX Toml.floats.decode?
      (Toml.lookup "default_x" (sectionAt "flyout" entries)) =
        some (s.chosen keys .standard).flyout.defaultX :=
    h.number .defaultX rfl
  have hy : Toml.orElse? FlyoutSettings.standard.defaultY Toml.floats.decode?
      (Toml.lookup "default_y" (sectionAt "flyout" entries)) =
        some (s.chosen keys .standard).flyout.defaultY :=
    h.number .defaultY rfl
  have hwidth : Toml.orElse? FlyoutSettings.standard.defaultWidth Toml.floats.decode?
      (Toml.lookup "default_width" (sectionAt "flyout" entries)) =
        some (s.chosen keys .standard).flyout.defaultWidth :=
    h.number .defaultWidth rfl
  have hheight : Toml.orElse? FlyoutSettings.standard.defaultHeight Toml.floats.decode?
      (Toml.lookup "default_height" (sectionAt "flyout" entries)) =
        some (s.chosen keys .standard).flyout.defaultHeight := h.number .defaultHeight rfl
  have hcascade : Toml.orElse? FlyoutSettings.standard.cascadeOffset Toml.floats.decode?
      (Toml.lookup "cascade_offset" (sectionAt "flyout" entries)) =
        some (s.chosen keys .standard).flyout.cascadeOffset := h.number .cascadeOffset rfl
  have hminWidth : Toml.orElse? FlyoutSettings.standard.minWidth Toml.floats.decode?
      (Toml.lookup "min_width" (sectionAt "flyout" entries)) =
        some (s.chosen keys .standard).flyout.minWidth :=
    h.number .minWidth rfl
  have hminHeight : Toml.orElse? FlyoutSettings.standard.minHeight Toml.floats.decode?
      (Toml.lookup "min_height" (sectionAt "flyout" entries)) =
        some (s.chosen keys .standard).flyout.minHeight :=
    h.number .minHeight rfl
  have hhandle :
      Toml.orElse? true Toml.bool? (Toml.lookup "resize_handle" (sectionAt "flyout" entries)) =
      some (s.chosen keys .standard).flyout.resizeHandle :=
        h.orElse? .resizeHandle fun hsaid => ⟨_, hsaid, rfl⟩
  have hfocus :
      Toml.orElse? true Toml.bool? (Toml.lookup "focus_on_show" (sectionAt "flyout" entries)) =
      some (s.chosen keys .standard).flyout.focusOnShow :=
        h.orElse? .focusOnShow fun hsaid => ⟨_, hsaid, rfl⟩
  rw [hsection]
  simp only [flyoutOfToml?, Toml.values?, List.map_cons, List.map_nil, Option.bind_eq_bind,
    Option.bind_some, hx, hy, hwidth, hheight, hcascade, hminWidth, hminHeight, hhandle, hfocus]
  rfl

/-- A state file that is not set stands nowhere, and nothing is its standard as well. -/
theorem stateFile (h : s.Holds keys entries) :
    Toml.orElse? none (fun v => (Toml.text? v).map some)
        (Toml.lookup "state_file" (sectionAt "persistence" entries)) =
      some (s.chosen keys .standard).saving.stateFile := by
  have hfound : Key.stateFile.find? entries =
      Toml.lookup "state_file" (sectionAt "persistence" entries) :=
    Key.find?_eq .stateFile entries
  rw [← hfound]
  cases hheld : keys .stateFile with
  | true =>
      have hsaid : Key.stateFile.find? entries = s.saving.stateFile.map .string :=
        h.given .stateFile hheld
      rw [hsaid, chosen, hheld]
      cases s.saving.stateFile <;> rfl
  | false =>
      rw [h.missing .stateFile hheld, chosen, hheld]
      rfl

theorem saving (h : s.Holds keys entries) :
    Toml.orElse? {} savingOfToml? (Toml.lookup "persistence" entries) =
      some (s.chosen keys .standard).saving := by
  have hsection : Toml.orElse? {} savingOfToml? (Toml.lookup "persistence" entries) =
      savingOfToml? (.table .header (sectionAt "persistence" entries)) :=
    orElse?_sectionAt (h.tables .enabled) rfl fun _ _ => rfl
  have henabled :
      Toml.orElse? true Toml.bool? (Toml.lookup "enabled" (sectionAt "persistence" entries)) =
      some (s.chosen keys .standard).saving.enabled :=
        h.orElse? .enabled fun hsaid => ⟨_, hsaid, rfl⟩
  have htransition :
      Toml.orElse? true Toml.bool?
        (Toml.lookup "save_on_transition" (sectionAt "persistence" entries)) =
        some (s.chosen keys .standard).saving.saveOnTransition :=
    h.orElse? .saveOnTransition fun hsaid => ⟨_, hsaid, rfl⟩
  have hfile := h.stateFile
  rw [hsection]
  simp only [savingOfToml?, Toml.values?, List.map_cons, List.map_nil, Option.bind_eq_bind,
    Option.bind_some, henabled, htransition, hfile]
  rfl

theorem logLevel (h : s.Holds keys entries) :
    Toml.orElse? .info logLevelOfToml? (Toml.lookup "logging" entries) =
      some (s.chosen keys .standard).logLevel := by
  have hsection : Toml.orElse? .info logLevelOfToml? (Toml.lookup "logging" entries) =
      logLevelOfToml? (.table .header (sectionAt "logging" entries)) :=
    orElse?_sectionAt (h.tables .level) rfl fun _ _ => rfl
  have hlevel :
      Toml.orElse? .info LogLevel.ofToml? (Toml.lookup "level" (sectionAt "logging" entries)) =
      some (s.chosen keys .standard).logLevel :=
        h.orElse? .level fun hsaid => ⟨_, hsaid, LogLevel.ofName?_name _⟩
  rw [hsection]
  simp only [logLevelOfToml?, Toml.values?, List.map_cons, List.map_nil, Option.bind_eq_bind,
    Option.bind_some, hlevel]

/-- What is read is told by the keys that the document holds. -/
theorem ofEntries? (h : s.Holds keys entries) :
    Settings.ofEntries? Toml.floats entries = some (s.chosen keys .standard) := by
  rw [Settings.ofEntries?]
  simp only [Option.bind_eq_bind, h.stack, h.flyout, h.saving, h.logLevel, Option.bind_some]
  rfl

end Holds

end Settings

/-! ## What is printed -/

/-- The numbers of the settings on windows. -/
def FlyoutSettings.numbers {α : Type} (f : FlyoutSettings α) : List α :=
  [f.defaultX, f.defaultY, f.defaultWidth, f.defaultHeight, f.cascadeOffset,
    f.minWidth, f.minHeight]

namespace Toml

theorem isNaN_of_isFinite {x : Float} (h : x.isFinite = true) : x.isNaN = false := by
  unfold Float.isFinite Float.Model.isFinite at h
  unfold Float.isNaN Float.Model.isNaN
  cases hu : x.toModel.unpack with
  | notANumber => rw [hu] at h; cases h
  | _ => rfl

theorem floats_encode {x : Float} (h : x.isFinite = true) :
    floats.encode x = .finite (.ofFloatPlain x) := by
  have hnan : ¬ x.isNaN = true := by rw [isNaN_of_isFinite h]; exact Bool.false_ne_true
  exact (if_neg hnan).trans (if_pos h)

theorem Printable.ofFloatPlain {x : Float} (finite : x.isFinite = true)
    (exact : (Numeral.ofFloatPlain x).nearest = x) : Printable (.float (floats.encode x)) := by
  obtain ⟨proper, bare, point⟩ := Numeral.ofFloatPlain_proper x
  rw [floats_encode finite]
  exact .float ⟨proper, point, bare⟩ (by rw [exact]; exact finite)

theorem Denotes.encode {x : Float} (finite : x.isFinite = true)
    (exact : (Numeral.ofFloatPlain x).nearest = x) : Denotes x (.float (floats.encode x)) := by
  rw [floats_encode finite]
  exact exact

end Toml

namespace Settings

variable {s : Settings Float} {keys : Key → Bool}

theorem Key.name_injective : Function.Injective Key.name := by
  intro k l h
  cases k <;> cases l <;> first | rfl | exact absurd h (by decide)

/-- A key is one of the keys of its section. -/
theorem Key.exists_section (k : Key) : ∃ ks, (k.heading, ks) ∈ Key.sections ∧ k ∈ ks := by
  have hsection : ∃ s ∈ Key.sections, s.1 = k.heading ∧ k ∈ s.2 := by cases k <;> decide
  obtain ⟨⟨heading, ks⟩, hmem, rfl, hk⟩ := hsection
  exact ⟨ks, hmem, hk⟩

theorem exists_of_mem_entriesAt {ks : List Key} {e : String × Toml}
    (he : e ∈ s.entriesAt Toml.floats keys ks) :
    ∃ k ∈ ks, keys k = true ∧ ∃ v, (s.setting k).toml? Toml.floats = some v ∧ (k.name, v) = e := by
  obtain ⟨k, hk, hvalue⟩ := List.mem_filterMap.mp he
  exact ⟨k, (List.mem_filter.mp hk).1, (List.mem_filter.mp hk).2, Option.map_eq_some_iff.mp hvalue⟩

theorem mem_entriesAt {ks : List Key} {k : Key} {v : Toml} :
    (k.name, v) ∈ s.entriesAt Toml.floats keys ks ↔
      k ∈ ks ∧ keys k = true ∧ (s.setting k).toml? Toml.floats = some v := by
  constructor
  · intro he
    obtain ⟨l, hl, hheld, w, hw, hsame⟩ := exists_of_mem_entriesAt he
    obtain ⟨hname, rfl⟩ := Prod.mk.inj hsame
    obtain rfl := Key.name_injective hname
    exact ⟨hl, hheld, hw⟩
  · rintro ⟨hk, hheld, hvalue⟩
    exact List.mem_filterMap.mpr ⟨k, List.mem_filter.mpr ⟨hk, hheld⟩, by rw [hvalue]; rfl⟩

theorem entriesAt_names_sublist (keys : Key → Bool) (ks : List Key) :
    ((s.entriesAt Toml.floats keys ks).map (·.1)).Sublist (ks.map Key.name) := by
  have hfilled :
      ((s.entriesAt Toml.floats keys ks).map (·.1)).Sublist ((ks.filter keys).map Key.name) := by
    -- a file that is not set has no entry, so that names may be left out here once more
    unfold entriesAt
    generalize ks.filter keys = ks
    induction ks with
    | nil => exact List.Sublist.refl _
    | cons k ks ih =>
        rw [List.filterMap_cons]
        cases (s.setting k).toml? Toml.floats with
        | none => exact ih.cons _
        | some v => exact ih.cons_cons _
  exact hfilled.trans (List.filter_sublist.map Key.name)

theorem entriesAt_distinct (keys : Key → Bool) {ks : List Key} (h : ks.Nodup) :
    ((s.entriesAt Toml.floats keys ks).map (·.1)).Nodup :=
  (entriesAt_names_sublist keys ks).nodup (List.Nodup.map Key.name_injective h)

theorem Key.sections_distinct :
    (Key.sections.map (·.1)).Nodup ∧ ∀ s ∈ Key.sections, s.2.Nodup := by decide

theorem excerpt_distinct (s : Settings Float) (keys : Key → Bool) :
    (((s.excerpt Toml.floats keys).map Toml.tabled).map (·.1)).Nodup :=
  Key.sections_distinct.1

theorem lookup_excerpt {heading : String} {v : Toml} :
    Toml.lookup heading ((s.excerpt Toml.floats keys).map Toml.tabled) = some v ↔
      ∃ ks, (heading, ks) ∈ Key.sections ∧
        v = .table .header (s.entriesAt Toml.floats keys ks) := by
  rw [Toml.lookup_eq_some_iff (excerpt_distinct s keys), excerpt, List.map_map, List.mem_map]
  constructor
  · rintro ⟨⟨_, ks⟩, hks, he⟩
    obtain ⟨rfl, rfl⟩ := Prod.mk.inj he
    exact ⟨ks, hks, rfl⟩
  · rintro ⟨ks, hks, rfl⟩
    exact ⟨(heading, ks), hks, rfl⟩

/-- A key is found where it was put. -/
theorem Key.find?_excerpt (k : Key) :
    k.find? ((s.excerpt Toml.floats keys).map Toml.tabled) =
      if keys k then (s.setting k).toml? Toml.floats else none := by
  obtain ⟨ks, hks, hk⟩ := k.exists_section
  rw [find?, lookup_excerpt.mpr ⟨ks, hks, rfl⟩]
  ext v
  rw [Toml.lookup_eq_some_iff (entriesAt_distinct keys (Key.sections_distinct.2 _ hks)),
    mem_entriesAt]
  simp [hk]

/-- Decimals of the numbers read back. -/
structure Readable (f : FlyoutSettings Float) : Prop where
  finite : ∀ x ∈ f.numbers, x.isFinite = true
  exact : ∀ x ∈ f.numbers, (Numeral.ofFloatPlain x).nearest = x

theorem mem_numbers {k : Key} {x : Float} (h : s.setting k = .number x) : x ∈ s.flyout.numbers := by
  cases k <;> cases h <;> simp [FlyoutSettings.numbers]

theorem Readable.said (h : Readable s.flyout) (k : Key) :
    (s.setting k).Says ((s.setting k).toml? Toml.floats) := by
  cases hk : s.setting k with
  | number x =>
      exact ⟨_, rfl, Toml.Denotes.encode (h.finite x (mem_numbers hk)) (h.exact x (mem_numbers hk))⟩
  | _ => rfl

theorem Readable.printable (h : Readable s.flyout) {k : Key} {v : Toml}
    (hv : (s.setting k).toml? Toml.floats = some v) : v.Printable := by
  cases hk : s.setting k with
  | word n =>
      rw [hk] at hv
      cases hv
      exact .integer (Nat.lt_trans n.toNat_lt (by decide))
  | flag b =>
      rw [hk] at hv
      cases hv
      exact .boolean b
  | number x =>
      rw [hk] at hv
      cases hv
      exact .ofFloatPlain (h.finite x (mem_numbers hk)) (h.exact x (mem_numbers hk))
  | file path =>
      rw [hk] at hv
      obtain ⟨text, -, rfl⟩ := Option.map_eq_some_iff.mp hv
      exact .string text
  | level l =>
      rw [hk] at hv
      cases hv
      exact .string l.name

/-- What is printed of the settings says them at its keys, and nothing at the others. -/
theorem Readable.holds (h : Readable s.flyout) (keys : Key → Bool) :
    s.Holds keys ((s.excerpt Toml.floats keys).map Toml.tabled) := by
  refine ⟨fun k v hv => ?_, fun k hk => ?_, fun k hk => ?_⟩
  · obtain ⟨ks, -, rfl⟩ := lookup_excerpt.mp hv
    exact ⟨_, _, rfl⟩
  · rw [k.find?_excerpt, if_pos hk]
    exact h.said k
  · rw [k.find?_excerpt, hk]
    rfl

theorem Key.isBare_name (k : Key) : Toml.IsBare k.name := by cases k <;> decide

theorem Key.isBare_headings : ∀ s ∈ Key.sections, Toml.IsBare s.1 := by decide

theorem Readable.tidy (h : Readable s.flyout) (keys : Key → Bool) {ks : List Key}
    (distinct : ks.Nodup) : Toml.Tidy (s.entriesAt Toml.floats keys ks) := by
  refine ⟨entriesAt_distinct keys distinct, fun e he => ?_, fun e he => ?_⟩
  · obtain ⟨k, -, -, v, -, rfl⟩ := exists_of_mem_entriesAt he
    exact k.isBare_name
  · obtain ⟨k, -, -, v, hvalue, rfl⟩ := exists_of_mem_entriesAt he
    exact h.printable hvalue

theorem Readable.orderly (h : Readable s.flyout) (keys : Key → Bool) :
    Toml.Orderly (s.excerpt Toml.floats keys) := by
  refine ⟨Key.sections_distinct.1, fun e he => ?_, fun e he => ?_⟩
  · obtain ⟨⟨heading, ks⟩, hks, rfl⟩ := List.mem_map.mp he
    exact Key.isBare_headings _ hks
  · obtain ⟨⟨heading, ks⟩, hks, rfl⟩ := List.mem_map.mp he
    exact h.tidy keys (Key.sections_distinct.2 _ hks)

/-! ## Reading a file -/

variable {files : FileTree} {path text : String}

theorem load_of_read (hread : files.read path = .ok text)
    (htext : ofText? Toml.floats text = some s) :
    (load Toml.floats files path).result = .ok s := by
  rw [load, FileTree.isPresent_of_read hread, hread]
  dsimp only
  rw [htext]
  rfl

/-- A document that holds some of the keys gives the settings at them, and the standard ones
otherwise. -/
theorem Holds.ofText? {entries : Entries} (h : s.Holds keys entries)
    (hentries : Toml.read? text = some entries) :
    Settings.ofText? Toml.floats text = some (s.chosen keys .standard) := by
  rw [Settings.ofText?, hentries, Option.bind_eq_bind, Option.bind_some, h.ofEntries?]

/-- The settings that are printed are read again, at the keys that are printed. -/
theorem Readable.ofText?_printed (h : Readable s.flyout) (keys : Key → Bool) :
    Settings.ofText? Toml.floats (Toml.printed (s.excerpt Toml.floats keys)) =
      some (s.chosen keys .standard) :=
  (h.holds keys).ofText? (Toml.read?_printed (h.orderly keys))

theorem Readable.ofText?_text (h : Readable s.flyout) :
    Settings.ofText? Toml.floats (s.text Toml.floats) = some s := by
  have hall := h.ofText?_printed fun _ => true
  rw [excerpt_all, chosen_all] at hall
  exact hall

/-- **What is saved loads back, and a file that holds only some keys overrides only these.** If the
file system takes the text, then saving succeeds and loading gives the same settings, whether they
make sense or not, and whatever the name of the state file is. A file that holds some of the keys,
in any form that the language has for their values, gives the settings at these keys and the
standard ones at all others; for every set of keys there is such a file. The numbers are finite
floats whose decimals read back. -/
theorem load_gives_what_the_file_holds (s : Settings Float)
    (finite : ∀ x ∈ s.flyout.numbers, x.isFinite = true)
    (exact : ∀ x ∈ s.flyout.numbers, (Numeral.ofFloatPlain x).nearest = x) :
    (∀ (files : FileTree) (path : String),
      (files.replace path (s.text Toml.floats)).2.succeeded = true →
      (s.save Toml.floats files path).result = .ok () ∧
        (load Toml.floats (s.save Toml.floats files path).files path).result = .ok s) ∧
    (∀ (keys : Key → Bool) (files : FileTree) (path text : String) (entries : Entries),
      files.read path = .ok text → Toml.read? text = some entries → s.Holds keys entries →
        (load Toml.floats files path).result = .ok (s.chosen keys .standard)) ∧
    ∀ keys : Key → Bool,
      ∃ entries, Toml.read? (Toml.printed (s.excerpt Toml.floats keys)) = some entries ∧
        s.Holds keys entries := by
  have readable : Readable s.flyout := ⟨finite, exact⟩
  refine ⟨fun files path htaken => ?_, fun keys files path text entries hread hentries hholds => ?_,
    fun keys => ?_⟩
  · have hread := FileTree.read_replace htaken
    rw [save]
    dsimp only
    rw [if_pos htaken]
    exact ⟨rfl, load_of_read hread readable.ofText?_text⟩
  · exact load_of_read hread (hholds.ofText? hentries)
  · exact ⟨_, Toml.read?_printed (readable.orderly keys), readable.holds keys⟩

namespace Doubtful

/-- Settings that make no sense, with a state file whose name has quotes, line breaks and control
characters. -/
def settings : Settings Float where
  stack := { frontGap := 4294967295, warnOnClamp := false }
  flyout :=
    { defaultX := -0.0
      defaultY := 0.1
      defaultWidth := 1e300
      defaultHeight := 5e-324
      cascadeOffset := -24
      minWidth := 123456789.125
      minHeight := 7
      resizeHandle := false
      focusOnShow := true }
  saving :=
    { enabled := false
      stateFile := some "a\\b \"\"\"c\"' '''\r\n\x7f\x00\tü" }
  logLevel := .warning

/-- Three of the keys. -/
def three : Key → Bool
  | .frontGap | .minHeight | .level => true
  | _ => false

def folder : FileTree := FileTree.bare []

end Doubtful

open Doubtful in
/-- The settings that make no sense are loaded as they were saved, and three of their keys override
three. -/
theorem doubtful_settings_load_back :
    settings.violations.isEmpty = false ∧
    ((settings.save Toml.floats folder "dockhand.toml").result = .ok () ∧
      (load Toml.floats (settings.save Toml.floats folder "dockhand.toml").files
        "dockhand.toml").result =
        .ok settings) ∧
    (load Toml.floats
      (folder.replace "three.toml" (Toml.printed (settings.excerpt Toml.floats three))).1
        "three.toml").result =
      .ok { stack := { frontGap := 4294967295 },
            flyout := { FlyoutSettings.standard with minHeight := 7 },
            logLevel := .warning } := by
  have finite : ∀ x ∈ settings.flyout.numbers, x.isFinite = true := by decide +kernel
  have exact : ∀ x ∈ settings.flyout.numbers, (Numeral.ofFloatPlain x).nearest = x := by
    decide +kernel
  obtain ⟨saved, overridden, printed⟩ := load_gives_what_the_file_holds settings finite exact
  obtain ⟨entries, hentries, hholds⟩ := printed three
  exact ⟨by decide +kernel, saved folder "dockhand.toml" (by decide +kernel),
    overridden three _ "three.toml" _ entries
      (FileTree.read_replace (by decide +kernel)) hentries hholds⟩

end Settings

end PanelDock
