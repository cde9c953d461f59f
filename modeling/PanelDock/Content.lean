import PanelDock.Panel.Basic
/-!
# Content of panels

While a panel floats, its content is mounted into its window. Content is a fixed text, or comes from
a provider: a component, which is told when it is taken out again, or a renderer, which is not. A
provider is any function of the calls it has had so far, and may refuse a call.
-/

namespace PanelDock

/-- Rendered content. -/
structure Element where
  panel : PanelId
  body : String
deriving DecidableEq, Repr

/-- A call that a provider has had. The calls to mount are counted from one. -/
inductive Call where
  | mount (panel : PanelId) (ordinal : Nat) (accepted : Bool)
  | unmount (panel : PanelId)
deriving DecidableEq, Repr

/-- A provider of content. -/
structure Provider where
  name : String
  /-- The answer to a call to mount, after these earlier calls. -/
  respond : (past : List Call) → PanelId → Except String Element
  /-- The calls so far, oldest first. -/
  calls : List Call := []

/-- Where the content of a panel comes from. -/
inductive Source where
  | component (provider : Provider)
  | renderer (provider : Provider)
  | static (body : String)

namespace Provider

/-- The provider after a call. -/
def called (p : Provider) (call : Call) : Provider := { p with calls := p.calls ++ [call] }

/-- How often the provider was asked to mount. -/
def mounts (p : Provider) : Nat :=
  p.calls.countP (fun call => match call with | .mount _ _ _ => true | .unmount _ => false)

end Provider

namespace Source

/-- The kind of a source. -/
def kind : Source → String
  | component _ => "component"
  | renderer _ => "renderer"
  | static _ => "static"

/-- The provider behind a source, if there is one. -/
def provider? : Source → Option Provider
  | component p => some p
  | renderer p => some p
  | static _ => none

/-- Asks for the content of a panel: the answer, the source afterwards, and the call that its
provider had, if it has one. -/
def mount (panel : PanelId) : Source → Except String Element × Source × Option Call
  | component p =>
    let answer := p.respond p.calls panel
    let call := Call.mount panel (p.mounts + 1) answer.isOk
    (answer, component (p.called call), some call)
  | renderer p =>
    let answer := p.respond p.calls panel
    let call := Call.mount panel (p.mounts + 1) answer.isOk
    (answer, renderer (p.called call), some call)
  | static body => (.ok { panel, body }, static body, none)

/-- Takes the content of a panel out again; only a component hears of it. -/
def unmount (panel : PanelId) : Source → Source × Option Call
  | component p => (component (p.called (.unmount panel)), some (.unmount panel))
  | source => (source, none)

end Source

end PanelDock
