import RemoteUi.Text.Search

/-!
# Paths

Where a message to the server goes, and which places a configured path stands for.  These are the
rules of the standard carrier; another carrier may have others.

* §1 the *target* of a message is a path with a query, or an address with a path in it; what it
  names is the *place*;
* §2 a configured path is a *pattern*: it may leave segments open, and what comes last.
-/

namespace RemoteUi

open RemoteUi.Text

/-! ## §1 Targets -/

/-- What stands before a query and a fragment. -/
def beforeQuery (s : List Char) : List Char := s.takeWhile fun c => c ≠ '?' && c ≠ '#'

/-- The place that a target names.  An address without a path names the top; a host without a
scheme names no place at all. -/
def placeOf (target : List Char) : List Char :=
  if target.head? = some '/' then beforeQuery target
  else
    match splitAtMark? "://".toList target with
    | none => []
    | some (_, address) =>
      let place := beforeQuery (address.dropWhile fun c => c ≠ '/' && c ≠ '?' && c ≠ '#')
      if place.isEmpty then ['/'] else place

/-! ## §2 Patterns -/

/-- One piece of a pattern. -/
inductive PathPiece where
  /-- This very character. -/
  | char (c : Char)
  /-- All characters up to the next slash, of which there may be none if a slash follows. -/
  | segment
  /-- All characters that are left, of which there must be one. -/
  | rest
  deriving DecidableEq, Repr

/-- A pattern of paths. -/
abbrev PathPattern := List PathPiece

/-- The text after the rest of a segment. -/
def skipSegment (s : List Char) : List Char := s.dropWhile (· ≠ '/')

/-- Skipping never makes a text longer. -/
theorem length_skipSegment_le (s : List Char) : (skipSegment s).length ≤ s.length :=
  (List.dropWhile_suffix _).length_le

namespace PathPattern

/-- The pattern that a path is spelled for: a colon opens the rest of its segment, an asterisk the
rest of the path.  The names written after them are for the reader only. -/
def ofPath : List Char → PathPattern
  | [] => []
  | c :: s =>
    if c = ':' then .segment :: ofPath (skipSegment s)
    else if c = '*' then [.rest]
    else .char c :: ofPath s
  termination_by s => s.length
  decreasing_by
    · have := length_skipSegment_le s
      simp only [List.length_cons]
      omega
    · simp

/-- Whether a place is one of those that a pattern stands for. -/
def covers : PathPattern → List Char → Bool
  | [], s => s.isEmpty
  | .char c :: pattern, d :: s => c = d && covers pattern s
  | .char _ :: _, [] => false
  | .segment :: pattern, d :: s => covers pattern (skipSegment (d :: s))
  | .segment :: _, [] => false
  | .rest :: _, s => !s.isEmpty

/-- **A path is one of the places that it stands for as a pattern.** -/
theorem covers_ofPath (path : List Char) : covers (ofPath path) path := by
  fun_induction ofPath path with
  | case1 => rfl
  | case2 s ih =>
    -- The colon itself belongs to the open segment.
    simpa [covers, skipSegment] using ih
  | case3 c s => rfl
  | case4 c s _ _ ih => simpa [covers] using ih

/-- **Without a colon and an asterisk a path stands for itself only.** -/
theorem covers_ofPath_iff {path place : List Char} (h : ∀ c ∈ path, c ≠ ':' ∧ c ≠ '*') :
    covers (ofPath path) place ↔ place = path := by
  induction path generalizing place with
  | nil => simp [ofPath, covers]
  | cons c s ih =>
    have ⟨hcolon, hstar⟩ := h c (by simp)
    have hrest : ∀ c ∈ s, c ≠ ':' ∧ c ≠ '*' := fun d hd => h d (by simp [hd])
    rw [ofPath, if_neg hcolon, if_neg hstar]
    cases place with
    | nil => simp [covers]
    | cons d place =>
      rw [covers, Bool.and_eq_true, ih hrest, List.cons.injEq, decide_eq_true_eq, eq_comm]

end PathPattern

end RemoteUi
