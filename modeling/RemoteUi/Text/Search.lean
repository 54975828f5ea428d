/-!
# Marks in a text

A *mark* is a fixed run of characters.  Two questions are asked of a text: what follows a mark at
its very start, and where the mark occurs first.  Both answers determine the text they came from.
-/

namespace RemoteUi.Text

/-! ## §1 A mark at the start -/

/-- What follows `mark` at the start of a text, if the text starts with it. -/
def afterMark? : (mark s : List Char) → Option (List Char)
  | [], s => some s
  | _ :: _, [] => none
  | m :: mark, c :: s => if m = c then afterMark? mark s else none

/-- **A text starts with a mark exactly if it is the mark followed by the rest.** -/
theorem afterMark?_eq_some_iff {mark s rest : List Char} :
    afterMark? mark s = some rest ↔ s = mark ++ rest := by
  fun_induction afterMark? mark s with
  | case1 s => simp
  | case2 m mark => simp
  | case3 mark c s ih => simp [ih]
  | case4 m mark c s h => simp [Ne.symm h]

@[simp] theorem afterMark?_append (mark rest : List Char) :
    afterMark? mark (mark ++ rest) = some rest :=
  afterMark?_eq_some_iff.mpr rfl

/-- Whether a text starts with a mark. -/
def startsWith (mark s : List Char) : Bool := (afterMark? mark s).isSome

/-! ## §2 The first occurrence of a mark -/

/-- The text before the first occurrence of `mark` and the text after it. -/
def splitAtMark? (mark : List Char) : List Char → Option (List Char × List Char)
  | [] => (afterMark? mark []).map fun rest => ([], rest)
  | c :: s =>
    match afterMark? mark (c :: s) with
    | some rest => some ([], rest)
    | none => (splitAtMark? mark s).map fun parts => (c :: parts.1, parts.2)

/-- The two parts with the mark between them are the text. -/
theorem eq_of_splitAtMark? {mark s before rest : List Char}
    (h : splitAtMark? mark s = some (before, rest)) : s = before ++ (mark ++ rest) := by
  induction s generalizing before with
  | nil =>
    obtain ⟨r, hr, heq⟩ := Option.map_eq_some_iff.mp h
    cases heq
    simpa using afterMark?_eq_some_iff.mp hr
  | cons c s ih =>
    unfold splitAtMark? at h
    split at h
    · next r hr =>
      cases h
      simpa using afterMark?_eq_some_iff.mp hr
    · obtain ⟨⟨b, r⟩, hbr, heq⟩ := Option.map_eq_some_iff.mp h
      cases heq
      rw [ih hbr]
      rfl

/-- The text after a mark is shorter than the whole by the mark and what stood before it. -/
theorem length_of_splitAtMark? {mark s before rest : List Char}
    (h : splitAtMark? mark s = some (before, rest)) :
    s.length = before.length + mark.length + rest.length := by
  rw [eq_of_splitAtMark? h]
  simp [Nat.add_assoc]

end RemoteUi.Text
