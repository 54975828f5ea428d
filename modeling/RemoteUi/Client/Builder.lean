import RemoteUi.Client.Fault
import RemoteUi.Client.Flag
import RemoteUi.Tree.Host
import RemoteUi.Wire.Reply

/-!
# Building a window

A *builder* carries out replies of the server on a host.  It runs a reply in one pass:

1. the commands, in the order of the stream, except that late attributes are put aside;
2. the docking of elements that are still held back;
3. the late attributes, in the order of the stream.

An element is held back for one of two reasons.  A menu is drawn correctly only if its popup is
below it when it is attached, so it waits for the popup; and any element whose parent is not known
yet waits for the parent.

* §1 the builder and what it remembers during a pass;
* §2 finding nodes;
* §3 holding back and docking;
* §4 the commands;
* §5 the pass.
-/

namespace RemoteUi

open RemoteUi.Wire

/-! ## §1 Builders -/

/-- What an element that is held back waits for. -/
inductive Awaited where
  | popup
  | parent
  deriving DecidableEq, Repr

/-- An element that is held back. -/
structure Held where
  id : NodeId
  node : Handle
  parent : Option NodeId
  awaits : Awaited
  /-- The line of the command that created it. -/
  origin : Line
  deriving DecidableEq, Repr

/-- What a builder remembers: the window's id for good, and the rest for one pass. -/
structure Builder where
  /-- The id under which the root is known, once the server has named it. -/
  window : Option NodeId := none
  /-- The elements created in the pass. -/
  created : Dict Handle := ∅
  /-- The elements held back, in the order in which they began to wait. -/
  held : List Held := []
  /-- The late attributes of the pass. -/
  late : List Line := []
  deriving DecidableEq, Repr

/-- A builder that knows nothing yet. -/
def Builder.new : Builder := {}

instance : Inhabited Builder := ⟨Builder.new⟩

/-- A builder at work on a host. -/
structure Site where
  builder : Builder
  host : Host

/-- A step of a builder at work. -/
abbrev Build (α : Type) := EStateM Fault Site α

namespace Build

/-- An edit of the host; an edit that the host refuses is a fault. -/
def edit {α : Type} (act : HostEdit α) : Build α := fun site =>
  match act site.host with
  | .ok a host => .ok a { site with host }
  | .error e host => .error (.host e) { site with host }

/-- Changes what the builder remembers. -/
def remember (f : Builder → Builder) : Build Unit :=
  modify fun site => { site with builder := f site.builder }

/-- Annotates the faults of a step with the line of a command. -/
def onLine {α : Type} (line : Line) (step : Build α) : Build α := fun site =>
  match step site with
  | .ok a site => .ok a site
  | .error fault site => .error (.command line fault) site

/-! ## §2 Finding nodes -/

end Build

/-- The node that an id denotes during a pass: the root for the window's id, else an element created
in the pass, else an attached element. -/
def Site.resolve? (site : Site) (id : NodeId) : Option Handle :=
  if site.builder.window = some id then some Tree.root
  else (site.builder.created.get? id).or (site.host.tree.lookup? id)

/-- The node that the parent word of a command denotes; a missing word denotes none. -/
def Site.resolveParent? (site : Site) (parent : Option NodeId) : Option Handle :=
  parent.bind site.resolve?

namespace Build

/-- The node that an id denotes, or a fault. -/
def resolve (id : NodeId) : Build Handle := do
  match (← get).resolve? id with
  | some node => return node
  | none => throw (.unresolved id)

/-! ## §3 Holding back -/

/-- Holds an element back. -/
def hold (held : Held) : Build Unit :=
  remember fun builder => { builder with held := builder.held ++ [held] }

end Build

/-- Whether an element waits for a given parent. -/
def Held.awaitsParent (held : Held) (id : NodeId) : Bool :=
  held.awaits = .parent && held.parent = some id

/-- Whether an element waits for a popup below a given id. -/
def Held.awaitsPopup (held : Held) (id : NodeId) : Bool :=
  held.awaits = .popup && held.id = id

namespace Build

/-- Attaches the first element that waits for a parent which is there now. -/
def attachNext (id : NodeId) (parent : Handle) (held : Held) : Build Unit := do
  -- It stops waiting even if it cannot be attached; the elements behind it wait on.
  remember fun builder => { builder with held := builder.held.eraseP (·.awaitsParent id) }
  onLine held.origin (edit (Host.append parent held.node))

/-- Attaches the elements that wait for a parent which is there now, one after the other, in the
order in which they began to wait. -/
def attachWaiting (id : NodeId) (parent : Handle) : Build Unit := do
  ((← get).builder.held.filter (·.awaitsParent id)).forM (attachNext id parent)

/-- Attaches an element below its parent, or holds it back until the parent is there. -/
def attachOrHold (held : Held) : Build Unit := do
  match (← get).resolveParent? held.parent with
  | some parent => edit (Host.append parent held.node)
  | none => hold { held with awaits := .parent }

/-- Attaches an element that is still held back at the end of the pass.  A missing parent word now
counts as the empty id. -/
def dock (held : Held) : Build Unit := onLine held.origin do
  let parent ← resolve (held.parent.getD "")
  edit (Host.append parent held.node)

/-- Attaches all elements still held back, in the order in which they began to wait. -/
def dockAll : Build Unit := do
  let held := (← get).builder.held
  remember fun builder => { builder with held := [] }
  held.forM dock

end Build

/-! ## §4 Commands -/

/-- The tags of elements that wait for a popup. -/
def popupOwnerTags : List String := ["menulist", "menu"]

/-- The tag of popups. -/
def popupTag : String := "menupopup"

/-- The attributes that are flags. -/
def flagKeys : List String :=
  ["disabled", "multiline", "readonly", "checked", "hidden", "default", "grippyhidden"]

/-- The attributes that stand for an operation. -/
def operationKeys : List String := ["sizeToContent"]

/-- The attributes that stand for a property. -/
def propertyKeys : List String := [Tree.selectedIndexKey]

/-- The attributes that need their element complete and attached: they come last in a pass. -/
def lateKeys : List String := ["selectedIndex", "sizeToContent"]

/-- The key that stands for a text below the element. -/
def textKey : String := "textNode"

/-- The listener that the window does not wire by itself, by the tag of the element. -/
def wiring? (tag : String) (id : NodeId) : Option Listener :=
  if tag = "listbox" then some .root
  else if tag = "colorpicker" then some (.pick id)
  else none

namespace Build

/-- Names the root.  The first name stays; elements that wait for it are attached. -/
def nameWindow (id : NodeId) : Build Unit := do
  match (← get).builder.window with
  | some window => if window = id then attachWaiting id Tree.root
  | none =>
    remember fun builder => { builder with window := some id }
    attachWaiting id Tree.root

/-- Takes the first element that waits for a popup below a given id out of those held back. -/
def releaseOwner (id : NodeId) : Build (Option Held) := do
  let held := (← get).builder.held
  remember fun builder => { builder with held := builder.held.eraseP (·.awaitsPopup id) }
  return held.find? (·.awaitsPopup id)

/-- The element that waits for a new element as its popup, taken out of those held back. -/
def ownerOf (tag : String) (parent : Option NodeId) : Build (Option Held) := do
  match parent with
  | some parent => if tag = popupTag then releaseOwner parent else return none
  | none => return none

/-- Creates an element with the listener that belongs to its tag, detached. -/
def bringForth (id : NodeId) (vocabulary : Vocabulary) (tag : String) : Build Handle := do
  let node ← edit (Host.createElement vocabulary tag id)
  remember fun builder => { builder with created := builder.created.insert id node }
  if let some listener := wiring? tag id then
    edit (Host.addListener node listener)
  return node

/-- Puts a new element into its place, or holds it back. -/
def settle (tag : String) (held : Held) : Build Unit := do
  if popupOwnerTags.contains tag then
    -- A popup that came before its owner was held back itself and is attached next; the owner
    -- waits until the end of the pass all the same.
    hold { held with awaits := .popup }
  else
    match ← ownerOf tag held.parent with
    | some owner =>
      -- The popup goes below its owner first; the owner itself is attached complete.
      edit (Host.append owner.node held.node)
      attachOrHold owner
    | none => attachOrHold held

/-- Creates an element and puts it into its place, or holds it back. -/
def create (line : Line) (id : NodeId) (tag : String) (parent : Option NodeId) : Build Unit := do
  let (vocabulary, tag) := Vocabulary.resolve tag
  let node ← bringForth id vocabulary tag
  settle tag { id, node, parent, awaits := .parent, origin := line }
  -- Elements that came before their parent wait for exactly this moment.
  attachWaiting id node

/-- Shows a flag as an attribute. -/
def setFlag (node : Handle) (key : String) (value : Option String) : Build Unit :=
  match flagAttribute? value with
  | some on => edit (Host.setAttribute node key on)
  | none => edit (Host.removeAttribute node key)

/-- Sets a property without a report of a changed selection. -/
def setQuietly (node : Handle) (key value : String) : Build Unit := do
  edit (Host.setAttribute node Tree.suppressKey "true")
  edit (Host.setProperty node key value)
  edit (Host.setAttribute node Tree.suppressKey "false")

/-- Adds a text below a node. -/
def addText (node : Handle) (content : String) : Build Unit := do
  let text ← edit (Host.createText content)
  edit (Host.append node text)

/-- Sets what a key stands for: a text, a flag, an operation, a property or an attribute. -/
def setKey (id : NodeId) (key : String) (value : Option String) : Build Unit := do
  let node ← resolve id
  if key = textKey then addText node (value.getD "")
  else if flagKeys.contains key then setFlag node key value
  else if operationKeys.contains key then edit (Host.invoke node key)
  else if propertyKeys.contains key then setQuietly node key (value.getD "")
  else edit (Host.setAttribute node key (value.getD ""))

/-- Removes an attached element. -/
def remove (id : NodeId) : Build Unit := do
  match (← get).host.tree.lookup? id with
  | none => throw (.unresolved id)
  | some node =>
    match (← get).host.parent? node with
    | none => throw (.host .detached)
    | some parent =>
      edit (Host.remove parent node)
      -- Only the id itself is forgotten: ids below the removed element still denote elements.
      remember fun builder => { builder with created := builder.created.erase id }

/-- Carries out the command of a line, or puts it aside if it sets a late attribute. -/
def perform (line : Line) : Build Unit :=
  match line.command with
  | .window id => nameWindow id
  | .create id tag parent => create line id tag parent
  | .remove id => remove id
  | .set id key value =>
    if lateKeys.contains key then
      remember fun builder => { builder with late := builder.late ++ [line] }
    else setKey id key value

/-! ## §5 The pass -/

/-- Carries out a late attribute. -/
def performLate (line : Line) : Build Unit :=
  match line.command with
  | .set id key value => setKey id key value
  | _ => return

/-- Forgets what was remembered for another pass. -/
def reset : Build Unit := remember fun builder => { window := builder.window }

/-- Carries out all late attributes. -/
def performAllLate : Build Unit := do
  let late := (← get).builder.late
  remember fun builder => { builder with late := [] }
  late.forM fun line => onLine line (performLate line)

/-- Carries out a list of command lines in one pass. -/
def pass (lines : List Line) : Build Unit := do
  -- A fault in the pass before this one may have left things to forget.
  reset
  lines.forM fun line => onLine line (perform line)
  dockAll
  performAllLate
  remember fun builder => { builder with created := ∅ }

end Build

/-- Carries out a reply on a host.  What was done before a fault stays done. -/
def Builder.run (builder : Builder) (host : Host) (reply : Reply) :
    Except Fault Unit × Builder × Host :=
  match Build.pass reply.lines ⟨builder, host⟩ with
  | .ok _ site => (.ok (), site.builder, site.host)
  | .error fault site => (.error fault, site.builder, site.host)

end RemoteUi
