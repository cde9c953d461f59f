import PanelDock.Action.Codec
import PanelDock.Proofs.StateFiles
/-!
# An action on one line

An action is written without line breaks whatever its texts hold, since a break in a text is
escaped, and it is read as the same action. Most actions carry a single value and are kept as that
value is. Two are records with fields that are left out when there is nothing to say; such a field
is found to be absent, since no other has its name.

For a line of a script it matters besides how such a text begins and ends: not with a blank that
would be trimmed, nor with the number sign of a comment.
-/

namespace PanelDock

namespace Json

/-! ## Fields that are left out -/

theorem given_printable {fields : List (String × Option Json)}
    (h : ∀ f ∈ fields, ∀ value ∈ f.2, value.Printable) :
    (Json.object (given fields)).Printable := by
  refine .object fun m hm => ?_
  obtain ⟨f, hf, hmember⟩ := List.mem_filterMap.mp hm
  obtain ⟨value, hvalue, rfl⟩ := Option.map_eq_some_iff.mp hmember
  exact h f hf value hvalue

/-- A field that is left out when it has no value is read as it was written. -/
theorem optional?_map {τ : Type} {codec : Codec τ} {o : Option τ} (h : ∀ x ∈ o, codec.Keeps x)
    (hnull : ∀ x, codec.encode x ≠ .null) :
    optional? codec.decode? (o.map codec.encode) = some o := by
  cases o with
  | none => rfl
  | some x => exact optional?_ofOption h hnull

theorem map_printable {τ : Type} {codec : Codec τ} {o : Option τ} (h : ∀ x ∈ o, codec.Keeps x) :
    ∀ value ∈ o.map codec.encode, value.Printable := by
  intro value hvalue
  obtain ⟨x, hx, rfl⟩ := Option.map_eq_some_iff.mp hvalue
  exact (h x hx).printable

/-! ## Texts without line breaks -/

theorem compact_airy : compact.Airy where
  gap _ _ hc := nomatch hc
  colon := ⟨[], rfl, fun _ hc => nomatch hc⟩

@[simp] theorem compact_gap (depth : Nat) : compact.gap depth = [] := rfl

@[simp] theorem compact_colon : compact.colon = [':'] := rfl

/-- What is escaped becomes a backslash with letters and digits, and a line break is escaped. -/
theorem newline_not_mem_escape (c : Char) : '\n' ∉ escape c := by
  have hdigit : ∀ d < 16, '\n' ≠ Nat.digitChar d := by decide
  by_cases hline : c = '\n'
  · subst hline
    decide
  · by_cases hcontrol : c.toNat < 0x20
    · have hhigh := hdigit (c.toNat / 16) (by omega)
      have hlow := hdigit (c.toNat % 16) (by omega)
      unfold escape
      repeat' split
      all_goals simp [hhigh, hlow]
    · unfold escape
      repeat' split
      all_goals first | contradiction | simp [Ne.symm hline]

theorem newline_not_mem_stringText (s : String) : '\n' ∉ stringText s := by
  simp [stringText, newline_not_mem_escape]

theorem newline_not_mem_digits {digits : List Nat} (h : ∀ d ∈ digits, d < 10) :
    '\n' ∉ digits.map digitChar := by
  have hdigit : ∀ d < 10, digitChar d ≠ '\n' := by decide
  rw [List.mem_map]
  rintro ⟨d, hd, heq⟩
  exact hdigit d (h d hd) heq

theorem newline_not_mem_numeralText {n : Decimal.Numeral} (h : n.Proper) :
    '\n' ∉ numeralText n := by
  have hfraction : '\n' ∉ fractionText n.fraction := by
    cases hn : n.fraction with
    | none => simp [fractionText]
    | some digits =>
        have hdigits := newline_not_mem_digits (h.fraction digits hn).2
        simp only [fractionText, List.mem_cons, hdigits, or_false]
        decide
  have hexponent : '\n' ∉ exponentText n.exponent := by
    cases n.exponent with
    | none => simp [exponentText]
    | some e =>
        have hdigits : '\n' ∉ Nat.toDigits 10 e.natAbs := fun hc =>
          Bool.false_ne_true (Nat.isDigit_of_mem_toDigits (by decide) (by decide) hc)
        simp only [exponentText]
        split <;> simp [hdigits]
  rw [numeralText_eq]
  simp only [List.mem_append, not_or]
  refine ⟨?_, newline_not_mem_digits h.whole.2, hfraction, hexponent⟩
  split <;> simp

theorem newline_not_mem_elementsText {es : List Json}
    (h : ∀ e ∈ es, ∀ depth, '\n' ∉ text compact depth e) (depth : Nat) :
    '\n' ∉ elementsText compact depth es := by
  induction es with
  | nil => simp [elementsText]
  | cons e es ih =>
      rw [List.forall_mem_cons] at h
      simp [elementsText, h.1 depth, ih h.2]

theorem newline_not_mem_membersText {ms : List (String × Json)}
    (h : ∀ m ∈ ms, ∀ depth, '\n' ∉ text compact depth m.2) (depth : Nat) :
    '\n' ∉ membersText compact depth ms := by
  induction ms with
  | nil => simp [membersText]
  | cons m ms ih =>
      rw [List.forall_mem_cons] at h
      simp [membersText, newline_not_mem_stringText, h.1 depth, ih h.2]

/-- On one line there is no line break. -/
theorem newline_not_mem_text {j : Json} (h : j.Printable) (depth : Nat) :
    '\n' ∉ text compact depth j := by
  induction h generalizing depth with
  | null => simp [text]
  | bool b => cases b <;> simp [text]
  | number hn => exact newline_not_mem_numeralText hn
  | string s => exact newline_not_mem_stringText s
  | @array es _ ih =>
      cases es with
      | nil => simp [text]
      | cons e es =>
          rw [List.forall_mem_cons] at ih
          have hmore := newline_not_mem_elementsText ih.2 (depth + 1)
          simp [text, ih.1 (depth + 1), hmore]
  | @object ms _ ih =>
      cases ms with
      | nil => simp [text]
      | cons m ms =>
          rw [List.forall_mem_cons] at ih
          have hmore := newline_not_mem_membersText ih.2 (depth + 1)
          simp [text, newline_not_mem_stringText, ih.1 (depth + 1), hmore]

end Json

namespace Action

open Json (Codec fields? fields?_object fields?_given given given_printable optional?_map
  map_printable)

variable {α : Type} {number : Codec α}

/-- The coordinates that an action carries. -/
def coordinates : Action α → List α
  | flyOut _ position size => position.elim [] (fun o => [o.x, o.y]) ++ size.elim
      [] (fun s => [s.width, s.height])
  | beginDrag _ o | beginResize _ o | pointerMove o | pointerUp o => [o.x, o.y]
  | _ => []

/-! ## Actions are read as they are written -/

theorem keeps_carrying {a : Action α} {name : String} {payload : Json}
    (encoded : encode number a = carrying name payload)
    (decoded : decode? number (carrying name payload) = some a) (printable : payload.Printable) :
    (codec number).Keeps a where
  decoded := (congrArg (decode? number) encoded).trans decoded
  printable := by
    show (encode number a).Printable
    rw [encoded]
    exact .object fun m hm => List.mem_singleton.mp hm ▸ printable

theorem keeps_point {o : Point α} (h : ∀ x ∈ [o.x, o.y], number.Keeps x) :
    (Point.codec number).Keeps o :=
  Point.codec_keeps (h _ (by simp)) (h _ (by simp))

theorem keeps_registerPanel (id : PanelId) (title dock : String) (content : Option String) :
    (codec number).Keeps (registerPanel id title dock content) := by
  have hid := PanelId.codec_keeps id
  have hcontent : ∀ s ∈ content, Json.textCodec.Keeps s := fun s _ => Json.textCodec_keeps s
  have hencode : encode number (registerPanel id title dock content) =
      carrying "RegisterPanel" (.object
      (given [("id", some (PanelId.codec.encode id)), ("title", some (Json.textCodec.encode title)),
        ("dock", some (Json.textCodec.encode dock)),
        ("content", content.map Json.textCodec.encode)])) := by
    cases content <;> rfl
  refine keeps_carrying hencode ?_ (given_printable ?_)
  · show decodeRegistration? _ = _
    rw [decodeRegistration?]
    refine Option.bind_eq_some_iff.mpr ⟨_, fields?_given (by decide) rfl, ?_⟩
    refine Option.bind_eq_some_iff.mpr ⟨_, hid.decoded, ?_⟩
    refine Option.bind_eq_some_iff.mpr ⟨_, (Json.textCodec_keeps title).decoded, ?_⟩
    refine Option.bind_eq_some_iff.mpr ⟨_, (Json.textCodec_keeps dock).decoded, ?_⟩
    exact Option.bind_eq_some_iff.mpr ⟨_, optional?_map hcontent nofun, rfl⟩
  · simp [hid.printable, (Json.textCodec_keeps _).printable]

theorem keeps_flyOut (panel : PanelId) {position : Option (Point α)} {size : Option (Size α)}
    (hposition : ∀ o ∈ position, (Point.codec number).Keeps o)
    (hsize : ∀ s ∈ size, (Size.codec number).Keeps s) :
    (codec number).Keeps (flyOut panel position size) := by
  have hpanel := PanelId.codec_keeps panel
  have hencode : encode number (flyOut panel position size) = carrying "FlyOut" (.object
      (given [("panel", some (PanelId.codec.encode panel)),
        ("position", position.map (Point.codec number).encode),
        ("size", size.map (Size.codec number).encode)])) := by
    cases position <;> cases size <;> rfl
  refine keeps_carrying hencode ?_ (given_printable ?_)
  · show decodeFlyOut? number _ = _
    rw [decodeFlyOut?]
    refine Option.bind_eq_some_iff.mpr ⟨_, fields?_given (by decide) rfl, ?_⟩
    refine Option.bind_eq_some_iff.mpr ⟨_, hpanel.decoded, ?_⟩
    refine Option.bind_eq_some_iff.mpr ⟨_, optional?_map hposition nofun, ?_⟩
    exact Option.bind_eq_some_iff.mpr ⟨_, optional?_map hsize nofun, rfl⟩
  · simpa [hpanel.printable] using And.intro (map_printable hposition) (map_printable hsize)

/-- A gesture that begins carries a panel and a point. -/
theorem keeps_gesture {a : Action α} {name : String} {panel : PanelId} {origin : Point α}
    {action : PanelId → Point α → Action α} (is : a = action panel origin)
    (encoded : encode number a = encodeGesture number name panel origin)
    (decoded : ∀ payload, decode? number (carrying name payload) =
      decodeGesture? number action payload)
    (horigin : (Point.codec number).Keeps origin) :
    (codec number).Keeps a := by
  have hpanel := PanelId.codec_keeps panel
  refine keeps_carrying encoded ?_ (.object ?_)
  · rw [decoded, decodeGesture?]
    refine Option.bind_eq_some_iff.mpr ⟨_, fields?_object (by decide) rfl, ?_⟩
    refine Option.bind_eq_some_iff.mpr ⟨_, hpanel.decoded, ?_⟩
    exact Option.bind_eq_some_iff.mpr ⟨_, horigin.decoded, congrArg some is.symm⟩
  · simp [hpanel.printable, horigin.printable]

/-- A sample carries a point. -/
theorem keeps_sample {a : Action α} {name : String} {position : Point α}
    {action : Point α → Action α} (is : a = action position)
    (encoded : encode number a = carrying name ((Point.codec number).encode position))
    (decoded : ∀ payload, decode? number (carrying name payload) =
      ((Point.codec number).decode? payload).map action)
    (hposition : (Point.codec number).Keeps position) :
    (codec number).Keeps a := by
  refine keeps_carrying encoded ?_ hposition.printable
  rw [decoded, hposition.decoded, is]
  rfl

/-- An action on a panel carries its name. -/
theorem keeps_panel {a : Action α} {name : String} {panel : PanelId} {action : PanelId → Action α}
    (is : a = action panel) (encoded : encode number a = encodePanel name panel)
    (decoded : ∀ payload, decode? number (carrying name payload) =
      (PanelId.codec.decode? payload).map action) :
    (codec number).Keeps a := by
  refine keeps_carrying encoded ?_ (PanelId.codec_keeps panel).printable
  rw [decoded, (PanelId.codec_keeps panel).decoded, is]
  rfl

/-- **An action is read as it is written**, if its coordinates are. -/
theorem codec_keeps (a : Action α) (h : ∀ x ∈ a.coordinates, number.Keeps x) :
    (codec number).Keeps a := by
  cases a with
  | registerPanel id title dock content => exact keeps_registerPanel id title dock content
  | flyOut panel position size =>
      refine keeps_flyOut panel (fun o ho => ?_) (fun s hs => ?_)
      · rw [Option.mem_def.mp ho] at h
        exact keeps_point fun x hx => h x (List.mem_append_left _ hx)
      · rw [Option.mem_def.mp hs] at h
        exact Size.codec_keeps (h _ (by simp [coordinates])) (h _ (by simp [coordinates]))
  | beginDrag panel origin => exact keeps_gesture rfl rfl (fun _ => rfl) (keeps_point h)
  | beginResize panel origin => exact keeps_gesture rfl rfl (fun _ => rfl) (keeps_point h)
  | pointerMove position => exact keeps_sample rfl rfl (fun _ => rfl) (keeps_point h)
  | pointerUp position => exact keeps_sample rfl rfl (fun _ => rfl) (keeps_point h)
  | saveAll => exact ⟨rfl, .string _⟩
  | none => exact ⟨rfl, .string _⟩
  | _ => exact keeps_panel rfl rfl (fun _ => rfl)

/-! ## How the text of an action looks -/

theorem encode_cases (number : Codec α) (a : Action α) :
    (∃ name payload, encode number a = carrying name payload) ∨
    ∃ name, encode number a = .string name := by
  cases a with
  | saveAll => exact Or.inr ⟨_, rfl⟩
  | none => exact Or.inr ⟨_, rfl⟩
  | _ => exact Or.inl ⟨_, _, rfl⟩

/-- The text of an action on one line. -/
def line (number : Codec α) (a : Action α) : List Char :=
  Json.text Json.compact 0 ((codec number).encode a)

/-- An action stands in braces or in quotes. -/
theorem line_bracketed (number : Codec α) (a : Action α) :
    ∃ first middle last, line number a = first :: (middle ++ [last]) ∧
      (first = '\x7b' ∧ last = '\x7d' ∨ first = '"' ∧ last = '"') := by
  have hline : line number a = Json.text Json.compact 0 (encode number a) := rfl
  rcases encode_cases number a with ⟨name, payload, hencode⟩ | ⟨name, hencode⟩
  · rw [hline, hencode]
    refine ⟨'\x7b', Json.stringText name ++ ':' :: Json.text Json.compact 1 payload, '\x7d', ?_,
      Or.inl ⟨rfl, rfl⟩⟩
    simp [carrying, Json.text, Json.membersText]
  · rw [hline, hencode]
    exact ⟨'"', _, '"', rfl, Or.inr ⟨rfl, rfl⟩⟩

theorem newline_not_mem_line {a : Action α} (h : (codec number).Keeps a) : '\n' ∉ line number a :=
  Json.newline_not_mem_text h.printable 0

theorem read?_line {a : Action α} (h : (codec number).Keeps a) :
    Json.read? (String.ofList (line number a)) >>= (codec number).decode? = some a := by
  rw [line, ← Json.printed, Json.read?_printed Json.compact_airy h.printable]
  exact h.decoded

end Action

end PanelDock
