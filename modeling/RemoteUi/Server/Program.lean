import RemoteUi.Text.Numeral
import RemoteUi.Wire.Command

/-!
# Programs

The programs that the server offers.  A program answers a boot and every event with commands,
which it puts into an outbox; the outbox also hands out the ids of a session's nodes.

* §1 the outbox;
* §2 *HelloWorld*, which shows a greeting and takes no events;
* §3 *Counter*, which counts clicks in steps of a chosen size;
* §4 starting a program by its name.
-/

namespace RemoteUi

open RemoteUi.Text RemoteUi.Wire

/-! ## §1 The outbox -/

/-- The commands of one reply, and the number of ids handed out in the session. -/
structure Outbox where
  issued : Nat := 0
  lines : List Line := []
  deriving DecidableEq, Repr

namespace Outbox

/-- The outbox of a new session. -/
def empty : Outbox := {}

/-- Adds a command. -/
def push (command : Command) : StateM Outbox Unit :=
  modify fun out => { out with lines := out.lines ++ [command.toLine] }

/-- Hands out an id: the letter E and a number, counted from one. -/
def allocate : StateM Outbox NodeId := do
  modify fun out => { out with issued := out.issued + 1 }
  return "E" ++ String.ofList (writeNat (← get).issued)

/-- Names the window's root. -/
def window : StateM Outbox NodeId := do
  let id ← allocate
  push (.window id)
  return id

/-- Creates an element below another one. -/
def create (tag : String) (parent : NodeId) : StateM Outbox NodeId := do
  let id ← allocate
  push (.create id tag (some parent))
  return id

/-- Sets an attribute. -/
def set (node : NodeId) (key value : String) : StateM Outbox Unit :=
  push (.set node key (some value))

/-- Takes the commands out. -/
def take : StateM Outbox (List Line) := do
  let lines := (← get).lines
  modify fun out => { out with lines := [] }
  return lines

end Outbox

/-- Why a program refuses an event. -/
inductive ProgramError where
  | unknownSource (node : NodeId)
  | unsupportedEvent (node : NodeId) (kind : EventKind)
  | invalidSelection (index : String)
  deriving DecidableEq, Repr

/-- The words for a refused event. -/
def ProgramError.message : ProgramError → String
  | .unknownSource node => "no such node: " ++ node
  | .unsupportedEvent node kind => "unsupported event " ++ kind.name ++ " on " ++ node
  | .invalidSelection index => "selection index out of range: " ++ index

/-! ## §2 HelloWorld -/

/-- The name of the greeting program, which is also the one booted if no other is named. -/
def helloName : String := "HelloWorld"

/-- The window of the greeting program. -/
def Hello.boot : StateM Outbox Unit := do
  let window ← Outbox.window
  let label ← Outbox.create "label" window
  Outbox.set label "value" "Hello World!"

/-! ## §3 Counter -/

/-- The name of the counting program, and the title of its window. -/
def counterName : String := "Counter"

/-- The nodes of a counter's window that it acts on or listens to. -/
structure CounterNodes where
  display : NodeId
  button : NodeId
  steps : NodeId
  reset : NodeId
  deriving DecidableEq, Repr

/-- A counter: a label that shows a count, a button that adds to it, a list that offers steps, and
a check box whose click, while it is checked, starts from zero again.  Its numbers have 64 bits and
a sign. -/
structure Counter where
  count : Int64 := 0
  step : Int64 := 0
  /-- The nodes of its window; it has none before it was booted. -/
  nodes : Option CounterNodes := none
  deriving DecidableEq, Repr

namespace Counter

/-- The steps it offers. -/
def steps : List Int64 := [1, 5, 10]

/-- A number in a command. -/
def numberText (n : Int64) : String := String.ofList (writeInt n.toInt)

/-- Creates an item of the list for each step. -/
def createItems (popup : NodeId) : List Int64 → StateM Outbox Unit
  | [] => return
  | step :: rest => do
    let item ← Outbox.create "menuitem" popup
    Outbox.set item "label" ("Step " ++ numberText step)
    createItems popup rest

/-- The commands for its window. -/
def openWindow (count : Int64) : StateM Outbox CounterNodes := do
  let window ← Outbox.window
  Outbox.set window "title" counterName
  let display ← Outbox.create "label" window
  Outbox.set display "value" (numberText count)
  let button ← Outbox.create "button" window
  Outbox.set button "label" "Increment"
  let list ← Outbox.create "menulist" window
  let popup ← Outbox.create "menupopup" list
  createItems popup steps
  Outbox.set list "selectedIndex" (numberText 0)
  let reset ← Outbox.create "checkbox" window
  Outbox.set reset "label" "Reset on next click"
  Outbox.set window "sizeToContent" (numberText 1)
  return { display, button, steps := list, reset }

/-- Opens its window and chooses the first step.  The count is kept. -/
def boot (counter : Counter) (out : Outbox) : Counter × Outbox :=
  let (nodes, out) := openWindow counter.count out
  ({ counter with step := 1, nodes := some nodes }, out)

/-- The step at an index that is written as a number of 64 bits. -/
def stepAt? (index : String) : Option Int64 :=
  (readBelow? 10 UInt64.size index.toList).bind (steps[·]?)

/-- Counts on by the chosen step.  After the greatest number of 64 bits the count goes on with the
least one. -/
def increment (counter : Counter) (nodes : CounterNodes) (out : Outbox) : Counter × Outbox :=
  let count := counter.count + counter.step
  ({ counter with count }, (Outbox.set nodes.display "value" (numberText count) out).2)

/-- Starts from zero again. -/
def restart (counter : Counter) (nodes : CounterNodes) (out : Outbox) : Counter × Outbox :=
  ({ counter with count := 0 }, (Outbox.set nodes.display "value" (numberText 0) out).2)

/-- Chooses another step. -/
def choose (counter : Counter) (nodes : CounterNodes) (step : Int64) (out : Outbox) :
    Counter × Outbox :=
  ({ counter with step },
    (Outbox.set nodes.button "label" ("Increment by " ++ numberText step) out).2)

/-- Answers an event. -/
def handle (counter : Counter) (event : Event) (out : Outbox) :
    Except ProgramError Unit × Counter × Outbox :=
  match counter.nodes with
  | none => (.error (.unknownSource event.source), counter, out)
  | some nodes =>
    if event.kind = .click ∧ event.source = nodes.button then
      (.ok (), counter.increment nodes out)
    else if event.kind = .click ∧ event.source = nodes.reset then
      if event.checked = some "true" then (.ok (), counter.restart nodes out)
      else (.ok (), counter, out)
    else if event.kind = .select ∧ event.source = nodes.steps then
      let index := (event.extra.get? "selectedIndex").getD ""
      match stepAt? index with
      | some step => (.ok (), counter.choose nodes step out)
      | none => (.error (.invalidSelection index), counter, out)
    else if [nodes.display, nodes.button, nodes.steps, nodes.reset].contains event.source then
      (.error (.unsupportedEvent event.source event.kind), counter, out)
    else (.error (.unknownSource event.source), counter, out)

end Counter

/-! ## §4 All programs -/

/-- A running program. -/
inductive Program where
  | hello
  | counter (state : Counter)
  deriving DecidableEq, Repr

namespace Program

/-- The program with a given name, not booted yet. -/
def launch? (name : String) : Option Program :=
  if name = helloName then some .hello
  else if name = counterName then some (.counter {})
  else none

/-- Boots a program. -/
def boot (program : Program) (out : Outbox) : Program × Outbox :=
  match program with
  | .hello => (.hello, (Hello.boot out).2)
  | .counter c =>
    let (c, out) := c.boot out
    (.counter c, out)

/-- Lets a program answer an event. -/
def handle (program : Program) (event : Event) (out : Outbox) :
    Except ProgramError Unit × Program × Outbox :=
  match program with
  | .hello => (.error (.unknownSource event.source), .hello, out)
  | .counter c =>
    let (result, c, out) := c.handle event out
    (result, .counter c, out)

end Program

end RemoteUi
