import RemoteUi.Proofs.Wire.Replies

/-!
# Commands read back

A line means a command, and a command is said by a line.  Four kinds of commands share the five
words of a line, so a line says more than its command: the text of a method that is neither the one
of creations nor the one of removals is lost, and so is an argument that the kind does not use.  What
is kept is the command itself, on a line and through a whole stream, with one exception: the
creation of an element under the window's tag is the command that names the root.

* §1 commands and their lines;
* §2 commands in a stream.
-/

namespace RemoteUi.Wire

open RemoteUi.Text

/-! ## §1 Lines -/

namespace Command

/-- A creation under the window's tag: on the wire that is what names the root. -/
def isRootCreation : Command → Bool
  | .create _ tag _ => tag = windowTag
  | _ => false

theorem isRootCreation_iff {c : Command} :
    c.isRootCreation ↔ ∃ id parent, c = .create id windowTag parent := by
  cases c <;> simp [isRootCreation]

/-- What is understood of the line that says a command. -/
theorem command_toLine (c : Command) :
    c.toLine.command = if c.isRootCreation then .window c.id else c := by
  cases c with
  | window id => rfl
  | create id tag parent =>
    by_cases htag : tag = windowTag
    · simp [toLine, Line.command, isRootCreation, Command.id, htag]
    · simp [toLine, Line.command, isRootCreation, htag]
  | set id key value => rfl
  | remove id => rfl

/-- No line means a creation under the window's tag. -/
theorem isRootCreation_command (line : Line) : line.command.isRootCreation = false := by
  unfold Line.command
  split
  · -- Such a creation was taken for a name of the root before.
    split
    · rfl
    · next hroot =>
      cases harg : line.arg1 with
      | none => simp [isRootCreation, windowTag]
      | some tag =>
        have htag : tag ≠ windowTag := fun heq => hroot (harg.trans (congrArg some heq))
        simpa [isRootCreation] using htag
  · rfl
  · rfl

end Command

/-! ## §2 Streams -/

/-- The lists of commands that come through a stream as they are. -/
structure CommandDomain (commands : List Command) : Prop where
  /-- No id, tag, key or value has a separator in it. -/
  separators : ∀ c ∈ commands, ∀ text ∈ c.texts,
    wordSeparator ∉ text.toList ∧ lineSeparator ∉ text.toList
  noRootCreation : ∀ c ∈ commands, c.isRootCreation = false
  /-- The id of the first command does not start like an error. -/
  noError : ∀ c ∈ commands.head?, startsWith errorMark c.id.toList = false

/-- Whether a list of commands comes through can be computed. -/
instance decidableCommandDomain (commands : List Command) : Decidable (CommandDomain commands) :=
  decidable_of_iff
    ((∀ c ∈ commands, ∀ text ∈ c.texts,
        wordSeparator ∉ text.toList ∧ lineSeparator ∉ text.toList) ∧
      (∀ c ∈ commands, c.isRootCreation = false) ∧
      ∀ c ∈ commands.head?, startsWith errorMark c.id.toList = false)
    ⟨fun ⟨separators, noRootCreation, noError⟩ => ⟨separators, noRootCreation, noError⟩,
      fun h => ⟨h.separators, h.noRootCreation, h.noError⟩⟩

/-- The commands that a reply asks for. -/
def Reply.commands (reply : Reply) : List Command := reply.lines.map Line.command

/-- **Commands come through a stream in their order and as they are**: none is skipped, and what is
absent stays apart from what is empty.  A single line keeps every command but the creation under
the window's tag, which always names the root; and what a line means, whatever its method and its
missing words, is what the line of its command means. -/
theorem Command.reads_as_said :
    (∀ commands, CommandDomain commands →
      ∃ reply, Reply.ofText (streamText (commands.map toLine)) = .ok reply ∧
        reply.commands = commands) ∧
    (∀ c : Command, c.isRootCreation = false → c.toLine.command = c) ∧
    (∀ id parent, (Command.create id windowTag parent).toLine.command = .window id) ∧
    ∀ line : Line, line.command.toLine.command = line.command := by
  have hkept : ∀ c : Command, c.isRootCreation = false → c.toLine.command = c := by
    intro c hc
    rw [command_toLine, hc, if_neg Bool.false_ne_true]
  refine ⟨fun commands h => ?_, hkept, fun id parent => ?_, fun line => ?_⟩
  · refine ⟨_, Reply.ofText_streamText (streamProper_toLine h.separators h.noError), ?_⟩
    rw [Reply.commands, List.map_map]
    exact (List.map_congr_left fun c hc => hkept c (h.noRootCreation c hc)).trans (List.map_id _)
  · rw [command_toLine, if_pos (isRootCreation_iff.mpr ⟨id, parent, rfl⟩), Command.id]
  · exact hkept _ (isRootCreation_command line)

/-- A list with all kinds of commands, with absent and with empty words. -/
theorem Command.reads_as_said_allKinds :
    ∃ reply, Reply.ofText (streamText
        [(window "w").toLine, (create "" "box" none).toLine, (create "l" "" (some "")).toLine,
          (set "" "" none).toLine, (set "l" "value" (some "")).toLine, (remove "").toLine]) =
        .ok reply ∧
      reply.commands = [window "w", create "" "box" none, create "l" "" (some ""), set "" "" none,
        set "l" "value" (some ""), remove ""] :=
  Command.reads_as_said.1 [window "w", create "" "box" none, create "l" "" (some ""), set "" "" none,
    set "l" "value" (some ""), remove ""] (by decide)

end RemoteUi.Wire
