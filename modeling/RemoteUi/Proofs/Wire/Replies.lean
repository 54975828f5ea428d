import RemoteUi.Proofs.Text.Readback
import RemoteUi.Wire.Reply

/-!
# Replies read back

What the server writes as a reply is read by the client as the lines that were meant, provided that
no word has a separator in it, that words are absent only from the ends of lines, and that no line
is blank; and the token before the first stream comes off again.

* §1 joined texts, and texts that start with a mark;
* §2 lines;
* §3 streams;
* §4 the answer to a boot request.
-/

namespace RemoteUi.Wire

open RemoteUi.Text

/-! ## §1 Joined texts -/

/-- A character of a joined text comes from one of the texts, or it is the separator. -/
theorem mem_intercalate {sep c : Char} {texts : List (List Char)} :
    c ∈ [sep].intercalate texts → c = sep ∨ ∃ text ∈ texts, c ∈ text := by
  induction texts with
  | nil => intro h; cases h
  | cons text texts ih =>
    cases texts with
    | nil => exact fun h => .inr ⟨text, List.mem_cons_self, by simpa using h⟩
    | cons next texts =>
      intro h
      simp only [List.intercalate_cons_cons, List.mem_append, List.mem_singleton] at h
      rcases h with (h | h) | h
      · exact .inr ⟨text, List.mem_cons_self, h⟩
      · exact .inl h
      · refine (ih h).imp_right ?_
        rintro ⟨t, ht, hc⟩
        exact ⟨t, List.mem_cons_of_mem _ ht, hc⟩

/-- A joined text has all the characters of the texts. -/
theorem mem_intercalate_of_mem {sep c : Char} {text : List Char} {texts : List (List Char)}
    (htext : text ∈ texts) (hc : c ∈ text) : c ∈ [sep].intercalate texts := by
  induction texts with
  | nil => cases htext
  | cons first texts ih =>
    rcases List.mem_cons.mp htext with rfl | htext
    · cases texts with
      | nil => simpa using hc
      | cons next texts => simp [List.intercalate_cons_cons, hc]
    · cases texts with
      | nil => cases htext
      | cons next texts => simp [List.intercalate_cons_cons, ih htext]

/-- A mark at the start of a text stands before every character that it does not have. -/
theorem startsWith_append_cons {mark text rest : List Char} {c : Char} (hc : c ∉ mark) :
    startsWith mark (text ++ c :: rest) = startsWith mark text := by
  induction mark generalizing text with
  | nil => rfl
  | cons m mark ih =>
    rw [List.mem_cons, not_or] at hc
    cases text with
    | nil => simp [startsWith, afterMark?, Ne.symm hc.1]
    | cons d text =>
      have := @ih text hc.2
      unfold startsWith at this ⊢
      simp only [List.cons_append, afterMark?]
      split
      · exact this
      · rfl

/-! ## §2 Lines -/

/-- A line that reads back from what is written for it. -/
structure Line.Proper (line : Line) : Prop where
  /-- No word has a separator in it. -/
  separators : ∀ word ∈ line.words, wordSeparator ∉ word.toList ∧ lineSeparator ∉ word.toList
  /-- No word is there after an absent one. -/
  gapless : line.tail.Pairwise fun a b => a = none → b = none
  /-- Some word has a character that makes the line a command. -/
  mark : ∃ word ∈ line.words, word.toList.any isWordChar

namespace Line

/-- Whether a line is proper can be computed. -/
instance decidableProper (line : Line) : Decidable line.Proper :=
  decidable_of_iff
    ((∀ word ∈ line.words, wordSeparator ∉ word.toList ∧ lineSeparator ∉ word.toList) ∧
      (line.tail.Pairwise fun a b => a = none → b = none) ∧
      ∃ word ∈ line.words, word.toList.any isWordChar)
    ⟨fun ⟨separators, gapless, mark⟩ => ⟨separators, gapless, mark⟩,
      fun h => ⟨h.separators, h.gapless, h.mark⟩⟩

/-- The line of the words that are written is the line, if there are no gaps between them. -/
theorem ofWords_words {line : Line} (h : line.tail.Pairwise fun a b => a = none → b = none) :
    ofWords line.words = line := by
  obtain ⟨node, method, arg1, arg2, arg3⟩ := line
  cases method <;> cases arg1 <;> cases arg2 <;> cases arg3 <;>
    first | rfl | simp [tail] at h

/-- **A line reads back.** -/
theorem read_write {line : Line} (h : line.Proper) : read line.write = line := by
  have hsplit : line.write.splitOn wordSeparator = line.words.map String.toList := by
    refine List.splitOn_intercalate wordSeparator ?_ (by simp [words])
    intro text htext
    obtain ⟨word, hword, rfl⟩ := List.mem_map.mp htext
    exact (h.separators word hword).1
  have hwords : (line.words.map String.toList).map String.ofList = line.words := by
    simp [Function.comp_def]
  rw [read, hsplit, hwords, ofWords_words h.gapless]

theorem lineSeparator_not_mem_write {line : Line}
    (h : ∀ word ∈ line.words, wordSeparator ∉ word.toList ∧ lineSeparator ∉ word.toList) :
    lineSeparator ∉ line.write := by
  intro hmem
  rcases mem_intercalate hmem with heq | ⟨text, htext, hc⟩
  · exact absurd heq (by decide)
  · obtain ⟨word, hword, rfl⟩ := List.mem_map.mp htext
    exact (h word hword).2 hc

/-- A proper line is not skipped. -/
theorem any_isWordChar_write {line : Line} (h : line.Proper) : line.write.any isWordChar := by
  obtain ⟨word, hword, hmark⟩ := h.mark
  obtain ⟨c, hc, hchar⟩ := List.any_eq_true.mp hmark
  exact List.any_eq_true.mpr
    ⟨c, mem_intercalate_of_mem (List.mem_map.mpr ⟨word, hword, rfl⟩) hc, hchar⟩

end Line

namespace Command

/-- The id that a command is about. -/
def id : Command → NodeId
  | .window id => id
  | .create id _ _ => id
  | .set id _ _ => id
  | .remove id => id

/-- The texts that a command carries: its ids, its tag, its key and its value, as far as they are
there. -/
def texts : Command → List String
  | .window id => [id]
  | .create id tag parent => id :: tag :: parent.toList
  | .set id key value => id :: key :: value.toList
  | .remove id => [id]

/-- The name of the method that says a command. -/
def method : Command → String
  | .window _ => "new"
  | .create .. => "new"
  | .set .. => "set"
  | .remove _ => "bye"

theorem method_mem (c : Command) : c.method ∈ ["new", "set", "bye"] := by
  cases c <;> simp [method]

/-- The words of the line that says a command: the id and the method come first. -/
theorem words_toLine (c : Command) : ∃ arguments, c.toLine.words = c.id :: c.method :: arguments ∧
    ∀ word ∈ arguments, word ∈ c.texts ∨ word ∈ [windowTag, "0"] := by
  cases c with
  | window id => exact ⟨[windowTag, "0"], rfl, fun word hword => .inr hword⟩
  | create id tag parent =>
    refine ⟨tag :: parent.toList, ?_, fun word hword => .inl (List.mem_cons_of_mem _ hword)⟩
    cases parent <;> rfl
  | set id key value =>
    refine ⟨key :: value.toList, ?_, fun word hword => .inl (List.mem_cons_of_mem _ hword)⟩
    cases value <;> rfl
  | remove id => exact ⟨[], rfl, nofun⟩

/-- **The line that says a command is proper**, whichever of its words are absent: its method is the
mark of a command. -/
theorem proper_toLine {c : Command}
    (h : ∀ text ∈ c.texts, wordSeparator ∉ text.toList ∧ lineSeparator ∉ text.toList) :
    c.toLine.Proper where
  separators := by
    obtain ⟨arguments, hwords, harguments⟩ := c.words_toLine
    have hid : c.id ∈ c.texts := by cases c <;> exact List.mem_cons_self
    have hmethods : ∀ word ∈ ["new", "set", "bye"],
        wordSeparator ∉ word.toList ∧ lineSeparator ∉ word.toList := by decide
    have hfixed : ∀ word ∈ [windowTag, "0"],
        wordSeparator ∉ word.toList ∧ lineSeparator ∉ word.toList := by decide
    rw [hwords]
    intro word hword
    rcases List.mem_cons.mp hword with rfl | hword
    · exact h _ hid
    rcases List.mem_cons.mp hword with rfl | hword
    · exact hmethods _ c.method_mem
    · exact (harguments word hword).elim (h word) (hfixed word)
  gapless := by cases c <;> simp [toLine, Line.tail]
  mark := by
    obtain ⟨arguments, hwords, -⟩ := c.words_toLine
    have hmethods : ∀ word ∈ ["new", "set", "bye"], word.toList.any isWordChar := by decide
    exact ⟨c.method, by simp [hwords], hmethods _ c.method_mem⟩

/-- The text of a command starts like an error only if its id does: the mark of an error has no
separator in it. -/
theorem startsWith_errorMark_write (c : Command) :
    startsWith errorMark c.toLine.write = startsWith errorMark c.id.toList := by
  obtain ⟨arguments, hwords, -⟩ := c.words_toLine
  have hwrite : c.toLine.write = c.id.toList ++
      wordSeparator :: [wordSeparator].intercalate ((c.method :: arguments).map String.toList) := by
    simp [Line.write, hwords]
  rw [hwrite, startsWith_append_cons (by decide)]

end Command

/-! ## §3 Streams -/

/-- The line that looks like the empty stream. -/
def nullLine : Line := { node := String.ofList emptyStream }

/-- The lines of a stream that the client takes for what they are: no mark of an error in front,
and not the one line that stands for no lines. -/
structure StreamProper (lines : List Line) : Prop where
  proper : ∀ line ∈ lines, line.Proper
  noError : ∀ line ∈ lines.head?, startsWith errorMark line.write = false
  notNull : lines ≠ [nullLine]

/-- Whether a stream is proper can be computed. -/
instance decidableStreamProper (lines : List Line) : Decidable (StreamProper lines) :=
  decidable_of_iff
    ((∀ line ∈ lines, line.Proper) ∧
      (∀ line ∈ lines.head?, startsWith errorMark line.write = false) ∧ lines ≠ [nullLine])
    ⟨fun ⟨proper, noError, notNull⟩ => ⟨proper, noError, notNull⟩,
      fun h => ⟨h.proper, h.noError, h.notNull⟩⟩

/-- **Commands without separators in their texts make a proper stream**, unless it would start like
an error. -/
theorem streamProper_toLine {commands : List Command}
    (h : ∀ c ∈ commands, ∀ text ∈ c.texts,
      wordSeparator ∉ text.toList ∧ lineSeparator ∉ text.toList)
    (herror : ∀ c ∈ commands.head?, startsWith errorMark c.id.toList = false) :
    StreamProper (commands.map Command.toLine) where
  proper line hline := by
    obtain ⟨c, hc, rfl⟩ := List.mem_map.mp hline
    exact Command.proper_toLine (h c hc)
  noError line hline := by
    rw [List.head?_map, Option.mem_def] at hline
    obtain ⟨c, hc, rfl⟩ := Option.map_eq_some_iff.mp hline
    rw [Command.startsWith_errorMark_write]
    exact herror c hc
  notNull heq := by
    -- The null line has no method.
    obtain ⟨c, -, hc⟩ := List.mem_map.mp (heq ▸ List.mem_singleton_self nullLine)
    cases c <;> cases congrArg Line.method hc

/-- The stream that only sets an attribute. -/
theorem streamProper_set {id key value : String}
    (h : ∀ word ∈ [id, key, value], wordSeparator ∉ word.toList ∧ lineSeparator ∉ word.toList)
    (herror : startsWith errorMark id.toList = false) :
    StreamProper [(Command.set id key (some value)).toLine] := by
  have hcommand : StreamProper ([Command.set id key (some value)].map Command.toLine) := by
    apply streamProper_toLine
    · simpa [Command.texts] using h
    · simpa [Command.id] using herror
  exact hcommand

/-- The texts between the separators of a stream are those of its lines. -/
theorem splitOn_writeStream {lines : List Line} (h : ∀ line ∈ lines, lineSeparator ∉ line.write)
    (hne : lines ≠ []) : (writeStream lines).splitOn lineSeparator = lines.map Line.write := by
  rw [writeStream, if_neg (by simpa using hne)]
  refine List.splitOn_intercalate lineSeparator ?_ (by simpa using hne)
  intro text htext
  obtain ⟨line, hline, rfl⟩ := List.mem_map.mp htext
  exact h line hline

/-- Only the null line is written like the empty stream. -/
theorem writeStream_ne_emptyStream {lines : List Line} (h : ∀ line ∈ lines, line.Proper)
    (hne : lines ≠ []) (hnull : lines ≠ [nullLine]) : writeStream lines ≠ emptyStream := by
  intro heq
  have hsplit := splitOn_writeStream
    (fun line hline => Line.lineSeparator_not_mem_write (h line hline).separators) hne
  rw [heq, show emptyStream.splitOn lineSeparator = [emptyStream] by decide] at hsplit
  obtain ⟨line, rfl⟩ := List.length_eq_one_iff.mp (by simpa using (congrArg List.length hsplit).symm)
  have hwrite : line.write = emptyStream := by simpa using hsplit.symm
  have hread := Line.read_write (h line List.mem_cons_self)
  rw [hwrite] at hread
  exact hnull (by rw [← hread]; rfl)

/-- **A stream reads back.** -/
theorem readStream_writeStream {lines : List Line} (h : ∀ line ∈ lines, line.Proper)
    (hnull : lines ≠ [nullLine]) : readStream (writeStream lines) = lines := by
  by_cases hne : lines = []
  · subst hne
    rfl
  have hkeep : (lines.map Line.write).filter (·.any isWordChar) = lines.map Line.write := by
    rw [List.filter_eq_self]
    intro text htext
    obtain ⟨line, hline, rfl⟩ := List.mem_map.mp htext
    exact Line.any_isWordChar_write (h line hline)
  have hread : (lines.map Line.write).map Line.read = lines := by
    rw [List.map_map]
    exact (List.map_congr_left fun line hline => Line.read_write (h line hline)).trans
      (List.map_id lines)
  have hsplit := splitOn_writeStream
    (fun line hline => Line.lineSeparator_not_mem_write (h line hline).separators) hne
  rw [readStream, if_neg (writeStream_ne_emptyStream h hne hnull), hsplit, hkeep, hread]

/-- A stream starts with the mark of an error only if its first line does. -/
theorem startsWith_errorMark_writeStream (lines : List Line) :
    startsWith errorMark (writeStream lines) =
      (lines.head?.any fun line => startsWith errorMark line.write) := by
  match lines with
  | [] => rfl
  | [line] => simp [writeStream]
  | line :: next :: lines =>
    have h : lineSeparator ∉ errorMark := by decide
    simp only [writeStream, List.isEmpty_cons, Bool.false_eq_true, ↓reduceIte, List.map_cons,
      List.intercalate_cons_cons, List.append_assoc, List.singleton_append]
    rw [startsWith_append_cons h]
    rfl

/-- **The client reads a proper stream as the lines that were meant.** -/
theorem Reply.ofText_streamText {lines : List Line} (h : StreamProper lines) :
    Reply.ofText (streamText lines) = .ok ⟨streamText lines, lines⟩ := by
  have hstart : startsWith errorMark (writeStream lines) = false := by
    rw [startsWith_errorMark_writeStream]
    have := h.noError
    cases hhead : lines.head? with
    | none => rfl
    | some line => exact this line (by simp [hhead])
  simp only [ofText, streamText, String.toList_ofList, hstart, Bool.false_eq_true, ↓reduceIte,
    readStream_writeStream h.proper h.notNull]

/-! ## §4 The answer to a boot request -/

/-- A token that can stand before a stream. -/
structure Token.Proper (token : Token) : Prop where
  nonempty : token ≠ ""
  noBreak : '\n' ∉ token.toList
  noError : startsWith errorMark token.toList = false

/-- The first line break of a framed stream is the one after the token. -/
theorem splitAtMark?_frameBoot {token : Token} (h : '\n' ∉ token.toList) (stream : String) :
    splitAtMark? ['\n'] (frameBoot token stream).toList = some (token.toList, stream.toList) := by
  have hlist : (frameBoot token stream).toList = token.toList ++ (['\n'] ++ stream.toList) := by
    simp [frameBoot]
  rw [hlist]
  exact splitAtMark?_append h _

/-- A token without a line break comes off, or it is refused. -/
theorem splitBoot_frameBoot_cases {token : Token} (h : '\n' ∉ token.toList) (stream : String) :
    splitBoot (frameBoot token stream) = .ok (token, stream) ∨
      ∃ e, splitBoot (frameBoot token stream) = .error e := by
  unfold splitBoot
  split
  · exact .inr ⟨_, rfl⟩
  · rw [splitAtMark?_frameBoot h]
    cases htoken : token.toList with
    | nil => exact .inr ⟨_, rfl⟩
    | cons c rest => exact .inl (by simp [← htoken])

/-- **The token and the stream come apart again.** -/
theorem splitBoot_frameBoot {token : Token} (h : Token.Proper token) (stream : String) :
    splitBoot (frameBoot token stream) = .ok (token, stream) := by
  have hstart : startsWith errorMark (frameBoot token stream).toList = false := by
    have hlist : (frameBoot token stream).toList = token.toList ++ '\n' :: stream.toList := by
      simp [frameBoot]
    rw [hlist, startsWith_append_cons (by decide), h.noError]
  rw [splitBoot, hstart, splitAtMark?_frameBoot h.noBreak]
  cases htoken : token.toList with
  | nil => exact absurd (String.toList_eq_nil_iff.mp htoken) h.nonempty
  | cons c rest => simp [← htoken]

end RemoteUi.Wire
