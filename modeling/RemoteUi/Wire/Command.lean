import RemoteUi.Wire.Event

/-!
# Commands

The server changes the client's window by commands.

* §1 A *line* is a command as it travels: up to five words, the first of which names a node.  Words
  are absent only from the end of a written line, but a line in memory may have any of its later
  words absent.
* §2 A *command* is what a line means.  Every line means something: a line that is neither a
  creation nor a removal sets an attribute.
-/

namespace RemoteUi.Wire

/-! ## §1 Lines -/

/-- The character between two words of a line. -/
def wordSeparator : Char := '\x01'

/-- A command line: the words it is made of. -/
structure Line where
  node : NodeId
  method : Option String := none
  arg1 : Option String := none
  arg2 : Option String := none
  arg3 : Option String := none
  deriving DecidableEq, Repr

namespace Line

/-- The words after the first. -/
def tail (line : Line) : List (Option String) := [line.method, line.arg1, line.arg2, line.arg3]

/-- The line of a list of words; words after the fifth are dropped. -/
def ofWords (words : List String) : Line where
  node := words.headD ""
  method := words[1]?
  arg1 := words[2]?
  arg2 := words[3]?
  arg3 := words[4]?

/-- The words that are written: those up to the first absent one. -/
def words (line : Line) : List String :=
  line.node :: (line.tail.takeWhile Option.isSome).filterMap id

/-- Reads a line from its text. -/
def read (s : List Char) : Line := ofWords ((s.splitOn wordSeparator).map String.ofList)

/-- Writes a line. -/
def write (line : Line) : List Char :=
  [wordSeparator].intercalate (line.words.map String.toList)

/-- The line as a text. -/
def text (line : Line) : String := String.ofList line.write

/-- The line for display, with a placeholder for absent words. -/
def display (line : Line) : String :=
  let words := line.node :: line.tail.map fun word => word.getD "undefined"
  "[" ++ ", ".intercalate words ++ "]"

end Line

/-! ## §2 Commands -/

/-- What a command line asks for. -/
inductive Command where
  /-- Names the window's root. -/
  | window (id : NodeId)
  /-- Creates an element below another one. -/
  | create (id : NodeId) (tag : String) (parent : Option NodeId)
  /-- Sets an attribute of an element, or whatever else the key stands for. -/
  | set (id : NodeId) (key : String) (value : Option String)
  /-- Removes an element. -/
  | remove (id : NodeId)
  deriving DecidableEq, Repr

/-- The tag of the creation that names the root instead. -/
def windowTag : String := "window"

/-- What a line means. -/
def Line.command (line : Line) : Command :=
  match line.method with
  | some "new" =>
    if line.arg1 = some windowTag then .window line.node
    else .create line.node (line.arg1.getD "") line.arg2
  | some "bye" => .remove line.node
  | _ => .set line.node (line.arg1.getD "") line.arg2

/-- The line that says a command. -/
def Command.toLine : Command → Line
  | .window id => ⟨id, some "new", some windowTag, some "0", none⟩
  | .create id tag parent => ⟨id, some "new", some tag, parent, none⟩
  | .set id key value => ⟨id, some "set", some key, value, none⟩
  | .remove id => ⟨id, some "bye", none, none, none⟩

end RemoteUi.Wire
