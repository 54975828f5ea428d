import RemoteUi.Client.Report
import RemoteUi.Proofs.Build.Writes
import RemoteUi.Proofs.Server.Programs
import RemoteUi.Proofs.Wire.Replies

/-!
# The window of a counter

What a client makes of the commands of a counter: the boot opens a window with a display and a
button in it, and every event that the counter takes changes one of the two labels at most.

* §1 the window after the boot;
* §2 what a window of this shape displays;
* §3 the replies to events.
-/

namespace RemoteUi

open RemoteUi.Text RemoteUi.Wire

/-! ## §1 The boot -/

/-- The commands of a counter's boot. -/
def counterLines : List Line := ((Program.counter {}).boot Outbox.empty).2.lines

/-- The nodes of every counter's window, by the ids that a new session hands out. -/
def counterNodes : CounterNodes where
  display := "E2"
  button := "E3"
  steps := "E4"
  reset := "E9"

/-- The window that the boot opens.  It is irreducible because its evaluation carries out a whole
boot: whatever else is said of it follows from the facts below. -/
@[irreducible]
def counterWindow : Tree := (Builder.new.run { tree := Tree.new } ⟨"", counterLines⟩).2.2.tree

/-- The display and the button in this window. -/
def displayNode : Handle := 1

def buttonNode : Handle := 2

/-- They are what a new session sends. -/
theorem lines_start_counter (count : UInt64) :
    (Session.start (.counter {}) count).1 = counterLines := by
  rw [Session.start_eq]
  rfl

/-- The counter of a new session: it counts from zero by the first step. -/
def newCounter : Counter := { count := 0, step := 1, nodes := some counterNodes }

theorem boot_counter :
    ((Program.counter {}).boot Outbox.empty).1 = .counter newCounter := by
  decide +kernel

theorem program_start_counter (count : UInt64) :
    (Session.start (.counter {}) count).2.program = .counter newCounter := by
  rw [Session.program_start, boot_counter]

/-- The client reads the stream of the boot as the commands that the counter sent. -/
theorem streamProper_counterLines : StreamProper counterLines := by
  decide +kernel

/-- **The commands of the boot are carried out** by a client with an empty window. -/
theorem run_counterLines (message : String) :
    ∃ host : Host, host.tree = counterWindow ∧
      Builder.new.run { tree := Tree.new } ⟨message, counterLines⟩ =
        (.ok (), { window := some "E1" }, host) := by
  obtain ⟨hok, hbuilder⟩ : (Builder.new.run { tree := Tree.new } ⟨"", counterLines⟩).1.isOk ∧
      (Builder.new.run { tree := Tree.new } ⟨"", counterLines⟩).2.1 =
        { window := some "E1" } := by
    decide +kernel
  refine ⟨(Builder.new.run { tree := Tree.new } ⟨"", counterLines⟩).2.2, by rw [counterWindow], ?_⟩
  rw [Builder.run_message _ _ message ""]
  generalize Builder.new.run { tree := Tree.new } ⟨"", counterLines⟩ = outcome at hok hbuilder ⊢
  obtain ⟨result, builder, host⟩ := outcome
  obtain rfl : builder = _ := hbuilder
  cases result with
  | error fault => cases hok
  | ok u => rfl

/-- The display shows zero. -/
theorem counterWindow_display : counterWindow.lookup? "E2" = some displayNode ∧
    (counterWindow.element? displayNode).isSome ∧
    counterWindow.attribute? displayNode "value" = some (Counter.numberText 0) := by
  decide +kernel

/-- The button shows no step. -/
theorem counterWindow_button : counterWindow.lookup? "E3" = some buttonNode ∧
    (counterWindow.element? buttonNode).isSome ∧
    counterWindow.attribute? buttonNode "label" = some "Increment" := by
  decide +kernel

theorem counterWindow_kind?_button :
    counterWindow.kind? buttonNode = some (some "E3", .xul, "button") := by
  decide +kernel

/-! ## §2 What a window displays -/

/-- A counter's window with a count and with a label on the button. -/
structure Tree.Displays (tree : Tree) (count : Int64) (label : String) : Prop where
  shape : counterWindow.SameShape tree
  value : tree.attribute? displayNode "value" = some (Counter.numberText count)
  label : tree.attribute? buttonNode "label" = some label

namespace Tree.Displays

variable {tree tree' : Tree} {count : Int64} {label : String}

theorem lookup?_display (h : tree.Displays count label) : tree.lookup? "E2" = some displayNode := by
  rw [h.shape.lookup?, counterWindow_display.1]

theorem lookup?_button (h : tree.Displays count label) : tree.lookup? "E3" = some buttonNode := by
  rw [h.shape.lookup?, counterWindow_button.1]

/-- The window that the boot opens displays zero. -/
theorem init : counterWindow.Displays 0 "Increment" where
  shape := .refl _
  value := counterWindow_display.2.2
  label := counterWindow_button.2.2

/-- Edits that change neither label and move nothing do not show. -/
theorem quiet (h : tree.Displays count label) (hshape : tree.SameShape tree')
    (hvalue : tree'.attribute? displayNode "value" = tree.attribute? displayNode "value")
    (hlabel : tree'.attribute? buttonNode "label" = tree.attribute? buttonNode "label") :
    tree'.Displays count label where
  shape := h.shape.trans hshape
  value := hvalue.trans h.value
  label := hlabel.trans h.label

/-- The display and the button are elements. -/
theorem isSome_element? (h : tree.Displays count label) :
    (tree.element? displayNode).isSome ∧ (tree.element? buttonNode).isSome := by
  have hwindow := And.intro counterWindow_display.2.1 counterWindow_button.2.1
  simpa only [Tree.isSome_element?, h.shape.kind?] using hwindow

/-- Another count is set on the display. -/
theorem setValue (h : tree.Displays count label) (n : Int64) :
    ∃ tree', Tree.setAttribute displayNode "value" (Counter.numberText n) tree = .ok () tree' ∧
      tree'.Displays n label := by
  obtain ⟨tree', hset⟩ := Tree.exists_modifyElement (fun e =>
    { e with attributes := e.attributes.insert "value" (Counter.numberText n) }) h.isSome_element?.1
  refine ⟨tree', hset, h.shape.trans (Tree.sameShape_setAttribute hset), ?_, ?_⟩
  · rw [Tree.attribute?_setAttribute hset, if_pos ⟨rfl, rfl⟩]
  · rw [Tree.attribute?_setAttribute hset, if_neg (by decide), h.label]

/-- Another label is set on the button. -/
theorem setLabel (h : tree.Displays count label) (text : String) :
    ∃ tree', Tree.setAttribute buttonNode "label" text tree = .ok () tree' ∧
      tree'.Displays count text := by
  obtain ⟨tree', hset⟩ := Tree.exists_modifyElement (fun e =>
    { e with attributes := e.attributes.insert "label" text }) h.isSome_element?.2
  refine ⟨tree', hset, h.shape.trans (Tree.sameShape_setAttribute hset), ?_, ?_⟩
  · rw [Tree.attribute?_setAttribute hset, if_neg (by decide), h.value]
  · rw [Tree.attribute?_setAttribute hset, if_pos ⟨rfl, rfl⟩]

/-- A command on the button is reported as a click on it, with the check mark that it has. -/
theorem report?_button (h : tree.Displays count label) :
    tree.report? (.command buttonNode) =
      some { clickOn "E3" with checked := tree.attribute? buttonNode "checked" } := by
  have hkind := (h.shape.kind? buttonNode).trans counterWindow_kind?_button
  have htag : tree.tag? buttonNode = some "button" := by rw [Tree.tag?_eq, hkind]; rfl
  have hid : tree.id? buttonNode = some "E3" := by rw [Tree.id?_eq, hkind]; rfl
  rw [Tree.report?, if_neg (by rw [htag]; decide), Tree.clickOn?, Tree.eventOn?, hid]
  rfl

end Tree.Displays

/-! ## §3 Replies to events -/

/-- The label of the button after an event was taken: a selection changes it to the step. -/
def labelAfter (event : Event) (step : Int64) (label : String) : String :=
  if event.kind = .select then "Increment by " ++ Counter.numberText step else label

/-- There is no separator in a number. -/
theorem separator_not_mem_numberText (n : Int64) :
    wordSeparator ∉ (Counter.numberText n).toList ∧
      lineSeparator ∉ (Counter.numberText n).toList := by
  have hchars : ∀ c ∈ (Counter.numberText n).toList, c.isDigit ∨ c = '-' := by
    intro c hc
    rw [Counter.numberText, String.toList_ofList] at hc
    exact isDigit_or_of_mem_writeInt hc
  exact ⟨fun h => absurd (hchars _ h) (by decide), fun h => absurd (hchars _ h) (by decide)⟩

/-- The stream that sets a count. -/
theorem streamProper_setValue (n : Int64) :
    StreamProper [(Command.set counterNodes.display "value"
      (some (Counter.numberText n))).toLine] := by
  refine streamProper_set (fun word hword => ?_) (by decide)
  simp only [List.mem_cons, List.not_mem_nil, or_false] at hword
  rcases hword with rfl | rfl | rfl
  · decide
  · decide
  · exact separator_not_mem_numberText n

/-- The stream that sets a label. -/
theorem streamProper_setLabel (n : Int64) :
    StreamProper [(Command.set counterNodes.button "label"
      (some ("Increment by " ++ Counter.numberText n))).toLine] := by
  refine streamProper_set (fun word hword => ?_) (by decide)
  simp only [List.mem_cons, List.not_mem_nil, or_false] at hword
  rcases hword with rfl | rfl | rfl
  · decide
  · decide
  · have hwords : wordSeparator ∉ "Increment by ".toList ∧
        lineSeparator ∉ "Increment by ".toList := by decide
    have hnumber := separator_not_mem_numberText n
    simp only [String.toList_append, List.mem_append, not_or]
    exact ⟨⟨hwords.1, hnumber.1⟩, ⟨hwords.2, hnumber.2⟩⟩

variable {counter counter' : Counter} {event : Event} {lines : List Line}

/-- The client reads the stream of a taken event as the commands that the counter sent. -/
theorem Counter.Takes.streamProper (h : counter.Takes counterNodes event counter' lines) :
    StreamProper lines := by
  cases h with
  | increment => exact streamProper_setValue _
  | restart => exact streamProper_setValue 0
  | leave => exact ⟨nofun, nofun, nofun⟩
  | choose step => exact streamProper_setLabel step

/-- **The window shows what the counter has become.** -/
theorem Counter.Takes.displays (h : counter.Takes counterNodes event counter' lines) {tree : Tree}
    {label : String} (htree : tree.Displays counter.count label) {builder : Builder}
    (hbuilder : builder.window = some "E1") (message : String) :
    ∃ host : Host, builder.run { tree } ⟨message, lines⟩ = (.ok (), builder.rested, host) ∧
      host.tree.Displays counter'.count (labelAfter event counter'.step label) := by
  have hdisplay : builder.window ≠ some "E2" := by rw [hbuilder]; decide
  have hbutton : builder.window ≠ some "E3" := by rw [hbuilder]; decide
  cases h with
  | increment hkind =>
    obtain ⟨tree', hset, hdisplays⟩ := htree.setValue (counter.count + counter.step)
    obtain ⟨host, hhost, hrun⟩ :=
      builder.run_set tree message (by decide) hdisplay htree.lookup?_display hset
    refine ⟨host, hrun, ?_⟩
    rw [hhost, labelAfter, if_neg (by rw [hkind]; decide)]
    exact hdisplays
  | restart hkind =>
    obtain ⟨tree', hset, hdisplays⟩ := htree.setValue 0
    obtain ⟨host, hhost, hrun⟩ :=
      builder.run_set tree message (by decide) hdisplay htree.lookup?_display hset
    refine ⟨host, hrun, ?_⟩
    rw [hhost, labelAfter, if_neg (by rw [hkind]; decide)]
    exact hdisplays
  | leave hkind =>
    refine ⟨{ tree }, builder.run_nil tree message, ?_⟩
    rw [labelAfter, if_neg (by rw [hkind]; decide)]
    exact htree
  | choose step hkind =>
    obtain ⟨tree', hset, hdisplays⟩ := htree.setLabel ("Increment by " ++ numberText step)
    obtain ⟨host, hhost, hrun⟩ :=
      builder.run_set tree message (by decide) hbutton htree.lookup?_button hset
    refine ⟨host, hrun, ?_⟩
    rw [hhost, labelAfter, if_pos hkind]
    exact hdisplays

end RemoteUi
