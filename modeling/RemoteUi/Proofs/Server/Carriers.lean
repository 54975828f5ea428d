import Mathlib.Data.List.TakeWhile
import RemoteUi.Proofs.Text.Readback
import RemoteUi.Server.StandardCarrier

/-!
# The standard carrier is as documented

There are carriers that do what the documentation of a carrier says: the standard one does.

* §1 what is posted over the standard carrier;
* §2 the path of the server.
-/

namespace RemoteUi

open RemoteUi.Text

namespace Carrier

/-! ## §1 Postings -/

variable {requestPath target : String}

/-- What is posted to a place for requests is judged by its body. -/
theorem standardPassage_of_takesRequests (h : takesRequests requestPath (placeOf target.toList))
    (body : ByteArray) :
    standard.passage requestPath ⟨"POST", target, body⟩ = passageOfBody body := by
  simp [standard, standardPassage, h]

/-- **A place that takes requests is one as documented.** -/
theorem takesAt_standard (h : takesRequests requestPath (placeOf target.toList)) :
    standard.TakesAt standardLimit requestPath target := by
  constructor
  case handsOver =>
    intro text hsize
    have hshort : ¬ standardLimit < text.toUTF8.size := Nat.not_lt.mpr hsize
    rw [standardPassage_of_takesRequests h, passageOfBody, if_neg hshort, Utf8.decode_toUTF8]
  case tooLarge =>
    intro body hlong
    refine ⟨_, ?_, (standardPassage_of_takesRequests h body).trans (if_pos hlong)⟩
    rfl
  case noText =>
    intro body hshort hbody
    rw [standardPassage_of_takesRequests h, passageOfBody, if_neg (Nat.not_lt.mpr hshort),
      Utf8.decode, hbody]
    exact ⟨_, rfl, rfl⟩

/-- Any other place takes nothing that is posted there. -/
theorem refusesAt_standard (h : takesRequests requestPath (placeOf target.toList) = false) :
    standard.RefusesAt requestPath target := by
  intro body
  simp only [standard, standardPassage, h]
  by_cases hhealth : placeOf target.toList = healthPlace
  · exact ⟨⟨405, ""⟩, .inr rfl, by simp [hhealth]⟩
  · exact ⟨⟨404, ""⟩, .inl rfl, by simp [hhealth]⟩

/-- **The standard carrier is as documented**, with a limit of two mebibytes. -/
theorem documented_standard : standard.Documented standardLimit requestPath := by
  intro path
  cases h : takesRequests requestPath (placeOf (standard.target path).toList) with
  | true => exact .inl (takesAt_standard h)
  | false => exact .inr (refusesAt_standard h)

/-! ## §2 The path of the server -/

/-- What stands before a query is all, if there is none. -/
theorem beforeQuery_eq_self {s : List Char} (hquery : '?' ∉ s) (hfragment : '#' ∉ s) :
    beforeQuery s = s := by
  refine List.takeWhile_eq_self_iff.mpr fun c hc => ?_
  have hc' : c ≠ '?' ∧ c ≠ '#' :=
    ⟨fun heq => hquery (heq ▸ hc), fun heq => hfragment (heq ▸ hc)⟩
  simp [hc']

/-- **Clients that post to the path of the server come to a place for requests**, provided that the
path can be told from a query. -/
theorem takesAt_standard_target (hquery : '?' ∉ requestPath.toList)
    (hfragment : '#' ∉ requestPath.toList) :
    standard.TakesAt standardLimit requestPath (standard.target requestPath) := by
  apply takesAt_standard
  have htarget : (standard.target requestPath).toList = '/' :: requestPath.toList := by
    simp [standard]
  have hplace : placeOf ('/' :: requestPath.toList) = '/' :: requestPath.toList :=
    (if_pos rfl).trans (beforeQuery_eq_self (by simpa using hquery) (by simpa using hfragment))
  rw [htarget, hplace, takesRequests]
  split
  · next heq => exact decide_eq_true heq
  split
  · next hslash =>
    -- The path itself starts with the place that tells that the server is up.
    obtain ⟨heq, hstart⟩ := Bool.and_eq_true_iff.mp hslash
    rw [of_decide_eq_true heq] at hstart
    exact absurd hstart (by decide)
  · exact PathPattern.covers_ofPath _

end Carrier

end RemoteUi
