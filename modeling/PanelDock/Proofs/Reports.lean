import PanelDock.Report
import PanelDock.Proofs.Keeping
import PanelDock.Proofs.StateFiles
/-!
# What a printed report says

A report can always be printed: a coordinate that is not finite stands in it as null. So whoever
reads the text gets the document back (`Report.read?_printed`), and finds in it every panel of the
report, with its name, its title, its dock, its order and the time of its creation (`Report.lists`).
-/

namespace PanelDock

variable {α : Type} {number : Json.Codec α}

namespace Json

/-- The member of a record under a name, as a codec reads it. -/
def member? {τ : Type} (codec : Codec τ) (name : String) : Json → Option τ
  | .object members => (members.lookup name).bind codec.decode?
  | _ => none

/-- A record shows what a panel is called and where it belongs. -/
structure Shows (j : Json) (p : Panel α) : Prop where
  name : j.member? PanelId.codec "id" = some p.id
  title : j.member? textCodec "title" = some p.title
  dock : j.member? textCodec "dock_id" = some p.dock
  order : j.member? word32Codec "order" = some p.order
  createdAt : j.member? Instant.codec "created_at" = some p.createdAt

/-- One of the panels in a report shows this panel. -/
def Lists (report : Json) (p : Panel α) : Prop :=
  ∃ members panels, report = .object members ∧ members.lookup "panels" = some (.array panels) ∧
    ∃ j ∈ panels, j.Shows p

theorem Shows.of_sameOrigin {j : Json} {p q : Panel α} (h : j.Shows q) (same : p.SameOrigin q) :
    j.Shows p :=
  ⟨same.name ▸ h.name, same.title ▸ h.title, same.dock ▸ h.dock, same.order ▸ h.order,
    same.createdAt ▸ h.createdAt⟩

theorem Lists.of_sameOrigin {report : Json} {p q : Panel α} (h : report.Lists q)
    (same : p.SameOrigin q) : report.Lists p := by
  obtain ⟨members, panels, hreport, hpanels, j, hj, hshows⟩ := h
  exact ⟨members, panels, hreport, hpanels, j, hj, hshows.of_sameOrigin same⟩

end Json

theorem Panel.codec_shows (p : Panel α) : ((Panel.codec number).encode p).Shows p where
  name := (PanelId.codec_keeps p.id).decoded
  title := (Json.textCodec_keeps p.title).decoded
  dock := (Json.textCodec_keeps p.dock).decoded
  order := (Json.word32Codec_keeps p.order).decoded
  createdAt := (Instant.codec_keeps p.createdAt).decoded

theorem Slot.encode_printable (s : Slot) : s.encode.Printable := by
  cases s with
  | empty => exact .object (by simp [Json.Printable.string])
  | mounted element =>
      have hpanel := (PanelId.codec_keeps element.panel).printable
      have hvalue : (Json.object [("panel", PanelId.codec.encode element.panel),
          ("body", .string element.body)]).Printable :=
        .object (by simp [hpanel, Json.Printable.string])
      exact .object (by simp [hvalue, Json.Printable.string])
  | failed message => exact .object (by simp [Json.Printable.string])

theorem Chrome.encode_printable (h : ∀ x, (number.encode x).Printable) (c : Chrome α) :
    (c.encode number).Printable := by
  have hhandle := Json.ofInt_printable c.handle.number
  have hpanel := (PanelId.codec_keeps c.panel).printable
  have hposition := Point.codec_printable (h c.position.x) (h c.position.y)
  have hsize := Size.codec_printable (h c.size.width) (h c.size.height)
  have hzIndex : (Json.ofOption .ofInt c.zIndex).Printable :=
    Json.ofOption_printable fun z _ => Json.ofInt_printable z
  have hcontrols : (Json.object [("dock_button", .bool c.controls.dockButton),
      ("close_button", .bool c.controls.closeButton),
      ("resize_handle", .bool c.controls.resizeHandle)]).Printable :=
    .object (by simp [Json.Printable.bool])
  have hslot := c.slot.encode_printable
  have hreturns := (Placement.codec_keeps c.returnPlacement).printable
  exact .object (by
    simp [Json.ofNat, hhandle, hpanel, hposition, hsize, hzIndex, hcontrols, hslot, hreturns,
      Json.Printable.string, Json.Printable.bool])

namespace Report

theorem encode_printable (h : ∀ x, (number.encode x).Printable) (r : Report α) :
    (r.encode number).Printable := by
  have hpanels : (Json.array (r.panels.map (Panel.codec number).encode)).Printable :=
    Json.array_printable fun p _ => Panel.codec_printable fun x _ => h x
  have hflyouts : (Json.array (r.flyouts.map (Chrome.encode number))).Printable :=
    Json.array_printable fun c _ => Chrome.encode_printable h c
  exact .object (by simp [Json.ofNat, Json.ofInt_printable, hpanels, hflyouts])

/-- A report is read as it is printed, on its line. -/
theorem read?_printed (r : Report Float) :
    Json.read? (Json.printed Json.indented (r.encode Json.floatCodec) ++ "\n") =
      some (r.encode Json.floatCodec) := by
  have hblank : ∀ c ∈ "\n".toList, Json.isSpace c = true := by simp [Json.isSpace]
  exact Json.read?_printed_append Json.indented_airy
    (encode_printable Json.floatCodec_printable r) hblank

/-- A report shows its panels. -/
theorem lists {r : Report α} {p : Panel α} (hp : p ∈ r.panels) : (r.encode number).Lists p :=
  ⟨_, _, rfl, rfl, _, List.mem_map_of_mem hp, p.codec_shows⟩

end Report

end PanelDock
