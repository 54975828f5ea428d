import Mathlib.Data.List.Infix
import RemoteUi.Proofs.Text.Spelling
import RemoteUi.Proofs.Wire.Replies

/-!
# The streams that come through

Which lists of commands does the client read as they were sent?  The form of a stream has no
escapes and several exceptions: the separators, the words after an absent one, the blank lines that
are skipped, the mark of an error and the text that stands for no commands.  A list comes through
if it meets none of them, and only then.

* §1 texts that were split;
* §2 lines that were read;
* §3 the domain of the codec;
* §4 what comes through is in the domain;
* §5 the answer to a boot request: which tokens come off as they were put on.
-/

namespace RemoteUi.Wire

open RemoteUi.Text

/-! ## §1 Texts that were split -/

/-- The parts of a split text do not have the separator in them. -/
theorem not_mem_of_mem_splitOn {sep : Char} {s part : List Char} (h : part ∈ s.splitOn sep) :
    sep ∉ part := by
  induction s generalizing part with
  | nil =>
    rw [List.splitOn_nil, List.mem_singleton] at h
    exact h ▸ List.not_mem_nil
  | cons c s ih =>
    rw [List.splitOn_cons_eq_if_modifyHead] at h
    split at h
    · -- The separator ends an empty part.
      rcases List.mem_cons.mp h with rfl | h
      · exact List.not_mem_nil
      · exact ih h
    · next hc =>
      -- Another character goes to the front of the first part.
      have hne : sep ≠ c := fun heq => hc (beq_iff_eq.mpr heq.symm)
      cases hparts : s.splitOn sep with
      | nil => exact absurd hparts (List.splitOn_ne_nil sep s)
      | cons first rest =>
        rw [hparts] at h ih
        rcases List.mem_cons.mp h with rfl | h
        · exact List.not_mem_cons_of_ne_of_not_mem hne (ih List.mem_cons_self)
        · exact ih (List.mem_cons_of_mem _ h)

/-! ## §2 Lines that were read -/

namespace Line

/-- The words of a line that are there, also those after an absent one. -/
def present (line : Line) : List String := line.node :: line.tail.filterMap id

/-- Without gaps all words that are there are written. -/
theorem words_eq_present {line : Line} (h : line.tail.Pairwise fun a b => a = none → b = none) :
    line.words = line.present := by
  obtain ⟨node, method, arg1, arg2, arg3⟩ := line
  cases method <;> cases arg1 <;> cases arg2 <;> cases arg3 <;>
    first | rfl | simp [tail] at h

/-- A line made of words has no gaps. -/
theorem gapless_ofWords (words : List String) :
    (ofWords words).tail.Pairwise fun a b => a = none → b = none := by
  have hmono : ∀ {i j : Nat}, i < j → words[i]? = none → words[j]? = none := by
    intro i j hij hi
    rw [List.getElem?_eq_none_iff] at hi ⊢
    omega
  simp only [ofWords, tail, List.pairwise_cons, List.mem_cons, List.not_mem_nil, or_false,
    forall_eq_or_imp, forall_eq, false_imp_iff, implies_true, and_true, List.Pairwise.nil]
  exact ⟨⟨hmono (by decide), hmono (by decide), hmono (by decide)⟩,
    ⟨hmono (by decide), hmono (by decide)⟩, hmono (by decide)⟩

/-- The words of a line made of words are among these, except for an empty first word. -/
theorem mem_of_mem_present_ofWords {words : List String} {word : String}
    (h : word ∈ (ofWords words).present) : word = "" ∨ word ∈ words := by
  rcases List.mem_cons.mp h with rfl | h
  · cases words with
    | nil => exact .inl rfl
    | cons first rest => exact .inr List.mem_cons_self
  · obtain ⟨option, hoption, heq⟩ := List.mem_filterMap.mp h
    obtain rfl : option = some word := heq
    -- Each later word is looked up at its position.
    simp only [ofWords, tail, List.mem_cons, List.not_mem_nil, or_false] at hoption
    rcases hoption with hi | hi | hi | hi <;> exact .inr (List.mem_of_getElem? hi.symm)

/-- A line that was read has no separator in its words. -/
theorem not_mem_of_mem_present_read {s : List Char} {word : String} (hs : lineSeparator ∉ s)
    (hword : word ∈ (read s).present) :
    wordSeparator ∉ word.toList ∧ lineSeparator ∉ word.toList := by
  rcases mem_of_mem_present_ofWords hword with rfl | hword
  · exact ⟨List.not_mem_nil, List.not_mem_nil⟩
  · obtain ⟨part, hpart, rfl⟩ := List.mem_map.mp hword
    rw [String.toList_ofList]
    refine ⟨not_mem_of_mem_splitOn hpart, fun hmem => hs ?_⟩
    -- The parts of the text have no characters that the text does not have.
    have hjoin : [wordSeparator].intercalate (s.splitOn wordSeparator) = s :=
      List.intercalate_splitOn wordSeparator
    exact hjoin ▸ mem_intercalate_of_mem hpart hmem

/-- A character that makes a line a command stands in one of its words. -/
theorem exists_mark_of_any_write {line : Line} (h : line.write.any isWordChar) :
    ∃ word ∈ line.words, word.toList.any isWordChar := by
  obtain ⟨c, hc, hchar⟩ := List.any_eq_true.mp h
  rcases mem_intercalate hc with rfl | ⟨text, htext, hmem⟩
  · exact absurd hchar (by decide)
  · obtain ⟨word, hword, rfl⟩ := List.mem_map.mp htext
    exact ⟨word, hword, List.any_eq_true.mpr ⟨c, hmem, hchar⟩⟩

end Line

/-! ## §3 The domain -/

/-- The lists of command lines that come through a stream as they are. -/
structure StreamDomain (lines : List Line) : Prop where
  /-- No word has a separator in it. -/
  separators : ∀ line ∈ lines, ∀ word ∈ line.present,
    wordSeparator ∉ word.toList ∧ lineSeparator ∉ word.toList
  /-- No word is there after an absent one. -/
  gapless : ∀ line ∈ lines, line.tail.Pairwise fun a b => a = none → b = none
  /-- Every line has a letter, a digit or an underscore in one of its words. -/
  mark : ∀ line ∈ lines, ∃ word ∈ line.present, word.toList.any isWordChar
  /-- The text of the first line does not start like an error. -/
  noError : ∀ line ∈ lines.head?, startsWith errorMark line.write = false
  /-- The list is not the one line whose text stands for no lines. -/
  notNull : lines ≠ [nullLine]

/-- What is in the domain reads back. -/
theorem StreamDomain.streamProper {lines : List Line} (h : StreamDomain lines) :
    StreamProper lines where
  proper line hline := by
    have hwords := Line.words_eq_present (h.gapless line hline)
    exact {
      separators := hwords ▸ h.separators line hline
      gapless := h.gapless line hline
      mark := hwords ▸ h.mark line hline }
  noError := h.noError
  notNull := h.notNull

/-! ## §4 What comes through -/

variable {lines : List Line}

/-- A line of a stream was read from a text without a separator of lines. -/
theorem exists_of_mem_readStream {s : List Char} {line : Line} (h : line ∈ readStream s) :
    ∃ text, lineSeparator ∉ text ∧ Line.read text = line := by
  unfold readStream at h
  split at h
  · cases h
  · obtain ⟨text, htext, hread⟩ := List.mem_map.mp h
    exact ⟨text, not_mem_of_mem_splitOn (List.mem_filter.mp htext).1, hread⟩

/-- If a list of lines reads back, none of its lines was skipped. -/
theorem any_isWordChar_of_readStream (hlines : ∀ line ∈ lines, lineSeparator ∉ line.write)
    (hne : lines ≠ []) (h : readStream (writeStream lines) = lines) :
    ∀ line ∈ lines, line.write.any isWordChar := by
  unfold readStream at h
  split at h
  · exact absurd h.symm hne
  · rw [splitOn_writeStream hlines hne] at h
    -- As many texts were kept as there are lines.
    have hlength : ((lines.map Line.write).filter (·.any isWordChar)).length =
        (lines.map Line.write).length := by
      simpa using congrArg List.length h
    intro line hline
    exact List.length_filter_eq_length_iff.mp hlength _ (List.mem_map_of_mem hline)

/-- **What comes through is in the domain.** -/
theorem streamDomain_of_ofText {reply : Reply} (hne : lines ≠ [])
    (h : Reply.ofText (streamText lines) = .ok reply) (hreply : reply.lines = lines) :
    StreamDomain lines := by
  simp only [Reply.ofText, streamText, String.toList_ofList] at h
  split at h
  · cases h
  next hstart =>
  have hread : readStream (writeStream lines) = lines := by
    rw [← Except.ok.inj h] at hreply
    exact hreply
  have hsource : ∀ line ∈ lines, ∃ text, lineSeparator ∉ text ∧ Line.read text = line := by
    intro line hline
    rw [← hread] at hline
    exact exists_of_mem_readStream hline
  have hgapless : ∀ line ∈ lines, line.tail.Pairwise fun a b => a = none → b = none := by
    intro line hline
    obtain ⟨text, -, rfl⟩ := hsource line hline
    exact Line.gapless_ofWords _
  have hseparators : ∀ line ∈ lines, ∀ word ∈ line.present,
      wordSeparator ∉ word.toList ∧ lineSeparator ∉ word.toList := by
    intro line hline word hword
    obtain ⟨text, htext, rfl⟩ := hsource line hline
    exact Line.not_mem_of_mem_present_read htext hword
  have hwrite : ∀ line ∈ lines, lineSeparator ∉ line.write := by
    intro line hline
    have hwords := Line.words_eq_present (hgapless line hline)
    exact Line.lineSeparator_not_mem_write (hwords ▸ hseparators line hline)
  refine ⟨hseparators, hgapless, fun line hline => ?_, fun line hline => ?_, ?_⟩
  · rw [← Line.words_eq_present (hgapless line hline)]
    exact Line.exists_mark_of_any_write (any_isWordChar_of_readStream hwrite hne hread line hline)
  · rw [startsWith_errorMark_writeStream, Option.mem_def.mp hline] at hstart
    simpa using hstart
  · rintro rfl
    exact hne hread.symm

/-- **A list of commands comes through a stream if and only if it is empty or in the domain.** -/
theorem Reply.ofText_streamText_iff (lines : List Line) :
    (∃ reply, Reply.ofText (streamText lines) = .ok reply ∧ reply.lines = lines) ↔
      lines = [] ∨ StreamDomain lines := by
  constructor
  · rintro ⟨reply, h, hreply⟩
    by_cases hne : lines = []
    · exact .inl hne
    · exact .inr (streamDomain_of_ofText hne h hreply)
  · rintro (rfl | h)
    · exact ⟨_, ofText_streamText ⟨nofun, nofun, nofun⟩, rfl⟩
    · exact ⟨_, ofText_streamText h.streamProper, rfl⟩

/-! ## §5 The answer to a boot request -/

variable {answer stream : String} {token : Token}

/-- **The answers that are taken are just those that were framed**, with a proper token. -/
theorem splitBoot_eq_ok_iff :
    splitBoot answer = .ok (token, stream) ↔ frameBoot token stream = answer ∧ token.Proper := by
  constructor
  · intro h
    unfold splitBoot at h
    split at h
    · cases h
    next hstart =>
    split at h
    · cases h
    · cases h
    next before rest hne hsplit =>
    cases h
    -- The answer is the first line, a line break and the rest.
    have hanswer : answer.toList = before ++ '\n' :: rest := eq_of_splitAtMark? hsplit
    refine ⟨?_, ?_, ?_, ?_⟩
    · rw [← String.toList_inj, hanswer]
      simp [frameBoot]
    · intro hempty
      exact hne (by simpa using congrArg String.toList hempty)
    · intro hbreak
      rw [String.toList_ofList] at hbreak
      exact not_infix_of_splitAtMark? hsplit ((List.singleton_infix_iff _ _).mpr hbreak)
    · have hmark : '\n' ∉ errorMark := by decide
      rw [hanswer, startsWith_append_cons hmark] at hstart
      simpa using hstart
  · rintro ⟨rfl, htoken⟩
    exact splitBoot_frameBoot htoken stream

/-- **The framing of a boot answer is undone for proper tokens, and for no others.**  Whatever is
split was framed from its parts, and so a token and commands come through together exactly if the
token is proper and the commands come through alone. -/
theorem frameBoot_undone :
    (∀ token stream, splitBoot (frameBoot token stream) = .ok (token, stream) ↔ token.Proper) ∧
    (∀ answer token stream, splitBoot answer = .ok (token, stream) ↔
      frameBoot token stream = answer ∧ token.Proper) ∧
    ∀ token lines, (∃ stream reply,
        splitBoot (frameBoot token (streamText lines)) = .ok (token, stream) ∧
          Reply.ofText stream = .ok reply ∧ reply.lines = lines) ↔
      token.Proper ∧ (lines = [] ∨ StreamDomain lines) := by
  refine ⟨fun token stream => ?_, fun _ _ _ => splitBoot_eq_ok_iff, fun token lines => ?_⟩
  · rw [splitBoot_eq_ok_iff]
    exact and_iff_right rfl
  · constructor
    · rintro ⟨stream, reply, hsplit, hread, hlines⟩
      have htoken := (splitBoot_eq_ok_iff.mp hsplit).2
      -- With this token, only the stream that was framed comes off.
      obtain rfl : streamText lines = stream := by
        rw [splitBoot_frameBoot htoken] at hsplit
        exact (Prod.mk.inj (Except.ok.inj hsplit)).2
      exact ⟨htoken, or_iff_not_imp_left.mpr fun hne => streamDomain_of_ofText hne hread hlines⟩
    · rintro ⟨htoken, hlines⟩
      have hproper : StreamProper lines := by
        rcases hlines with rfl | hdomain
        · exact ⟨nofun, nofun, nofun⟩
        · exact hdomain.streamProper
      exact ⟨_, _, splitBoot_frameBoot htoken _, Reply.ofText_streamText hproper, rfl⟩

end RemoteUi.Wire
