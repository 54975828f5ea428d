import RemoteUi.Proofs.Client.Links

/-!
# The bookkeeping of a link

A link numbers its requests, keeps the token of its session and the name of its program.  Whatever
it is asked to do, in whatever order, and whatever the conduit makes of its requests, these stay
what the calls so far amount to.

* §1 calls on a link, with what they hand to the conduit;
* §2 what the calls so far amount to;
* §3 one call;
* §4 a run of calls;
* §5 the theorem.
-/

namespace RemoteUi

open RemoteUi.Wire

/-! ## §1 Calls -/

/-- A posting that was handed to a conduit, and what came of it. -/
structure Handing where
  posting : Posting
  result : Except Fault String

/-- The world of a conduit, with a record of what was handed to the conduit. -/
structure Recorded (World : Type) where
  world : World
  handed : List Handing := []

/-- The conduit that does what the given one does, and keeps the record. -/
def Conduit.recorded {World : Type} (conduit : Conduit World) : Conduit (Recorded World) :=
  fun posting state =>
    let (result, world) := conduit posting state.world
    (result, { world, handed := state.handed ++ [⟨posting, result⟩] })

/-- A call on a link. -/
structure Errand where
  act : Act
  before : Link
  /-- What the call handed to the conduit. -/
  handed : List Handing
  after : Link

namespace Link

variable {World : Type}

/-- The link and the world after an act. -/
def perform (conduit : Conduit World) (act : Act) (link : Link) (world : World) : Link × World :=
  match act with
  | .boot program => (link.boot conduit program world).2
  | .report event => (link.report conduit event world).2

/-- The call in which a link does what it is asked to. -/
def errand (conduit : Conduit World) (act : Act) (link : Link) (world : World) : Errand where
  act := act
  before := link
  handed := (link.perform (Conduit.recorded conduit) act { world }).2.handed
  after := (link.perform conduit act world).1

/-- The calls of a run, in order. -/
def errands (conduit : Conduit World) : List Act → Link → World → List Errand
  | [], _, _ => []
  | act :: acts, link, world =>
    link.errand conduit act world ::
      errands conduit acts (link.perform conduit act world).1 (link.perform conduit act world).2

end Link

/-! ## §2 What calls amount to -/

/-- The token in an answer to a boot: that of an answer that can be split, whatever its stream. -/
def Handing.token? (handing : Handing) : Option Token :=
  match handing.result with
  | .error _ => none
  | .ok answer => (splitBoot answer).toOption.map (·.1)

namespace Errand

/-- The token that a call brought. -/
def token? (errand : Errand) : Option Token :=
  match errand.act with
  | .boot _ => errand.handed.findSome? Handing.token?
  | .report _ => none

/-- The program that was named in a call. -/
def name? (errand : Errand) : Option String :=
  match errand.act with
  | .boot program => program
  | .report _ => none

end Errand

/-- Everything that was handed to the conduit in some calls, in order. -/
def handed (errands : List Errand) : List Handing := errands.flatMap (·.handed)

/-- The token that was brought last. -/
def latestToken (errands : List Errand) : Option Token :=
  (errands.filterMap (·.token?)).getLast?

/-- The program that was named last. -/
def latestName (errands : List Errand) : Option String :=
  (errands.filterMap (·.name?)).getLast?

theorem getLast?_filterMap_concat {α β : Type} (f : α → Option β) (xs : List α) (x : α) :
    ((xs ++ [x]).filterMap f).getLast? = (f x).or (xs.filterMap f).getLast? := by
  rw [List.filterMap_append]
  cases hx : f x <;> simp [hx]

theorem latestToken_concat (errands : List Errand) (errand : Errand) :
    latestToken (errands ++ [errand]) = errand.token?.or (latestToken errands) :=
  getLast?_filterMap_concat ..

theorem latestName_concat (errands : List Errand) (errand : Errand) :
    latestName (errands ++ [errand]) = errand.name?.or (latestName errands) :=
  getLast?_filterMap_concat ..

theorem length_handed_concat (errands : List Errand) (errand : Errand) :
    (handed (errands ++ [errand])).length = (handed errands).length + errand.handed.length := by
  simp [handed]

/-! ## §3 One call -/

/-- What a call can do. -/
inductive Errand.Done : Errand → Prop where
  /-- A boot hands one request over, which names the program that was named last. -/
  | booted (link : Link) (program : Option String) (result : Except Fault String) :
      Done ⟨.boot program, link,
        [⟨(link.naming program).posting (link.naming program).bootRequest, result⟩],
        (link.naming program).afterBoot result⟩
  /-- An event that cannot be sent changes nothing. -/
  | withheld (link : Link) (event : Event) (fault : Fault)
      (h : link.eventRequest event = .error fault) : Done ⟨.report event, link, [], link⟩
  /-- Any other event is handed over, and counted whatever comes of it. -/
  | reported (link : Link) (event : Event) (doc : Document) (result : Except Fault String)
      (h : link.eventRequest event = .ok doc) :
      Done ⟨.report event, link, [⟨link.posting doc, result⟩], link.advance⟩

/-- **Every call does one of the three.** -/
theorem Link.errand_done {World : Type} (conduit : Conduit World) (act : Act) (link : Link)
    (world : World) : (link.errand conduit act world).Done := by
  unfold errand perform
  cases act with
  | boot program =>
    simp only [boot_eq]
    exact .booted link program _
  | report event =>
    cases hdoc : link.eventRequest event with
    | error fault =>
      simp only [report_of_error hdoc]
      exact .withheld link event fault hdoc
    | ok doc =>
      simp only [report_of_ok hdoc]
      exact .reported link event doc _ hdoc

/-- A call hands one posting over at most. -/
theorem Errand.Done.length_handed_le {errand : Errand} (h : errand.Done) :
    errand.handed.length ≤ 1 := by
  cases h <;> simp

/-- The request that a call makes, if it hands one over. -/
def Errand.request? (errand : Errand) : Option Request :=
  match errand.act with
  | .boot name => some (.boot (name.or errand.before.program) errand.before.next)
  | .report event =>
    errand.before.session.map fun token => .event token event errand.before.next

/-- **What a call hands over is its request**, on the way to the path of the link. -/
theorem Errand.Done.ofText {errand : Errand} (h : errand.Done) {handing : Handing}
    (hmem : handing ∈ errand.handed) :
    handing.posting.path = errand.before.path ∧ ∃ request, errand.request? = some request ∧
      Request.ofText handing.posting.body = .ok request ∧ request.count = errand.before.next := by
  cases h with
  | booted link name result =>
    obtain rfl := List.mem_singleton.mp hmem
    exact ⟨rfl, _, rfl, (link.naming name).ofText_bootRequest, rfl⟩
  | withheld link event fault => cases hmem
  | reported link event doc result hdoc =>
    obtain rfl := List.mem_singleton.mp hmem
    obtain ⟨token, htoken, hread⟩ := Link.ofText_eventRequest hdoc
    exact ⟨rfl, _, congrArg (Option.map _) htoken, hread, rfl⟩

/-- **An event is withheld if there is no session or if it cannot be written**, and only then. -/
theorem Errand.Done.withheld_iff {errand : Errand} (h : errand.Done) {event : Event}
    (hact : errand.act = .report event) :
    errand.handed = [] ∧ errand.after = errand.before ↔
      errand.before.session = none ∨ ¬ event.Writable := by
  cases h with
  | booted link name result => cases hact
  | withheld link event fault hfault =>
    cases hact
    refine iff_of_true ⟨rfl, rfl⟩ ?_
    dsimp only
    unfold Link.eventRequest at hfault
    cases hsession : link.session with
    | none => exact .inl rfl
    | some token =>
      refine .inr fun hwritable => ?_
      rw [hsession] at hfault
      simp [eventDocument_of_writable hwritable, Except.mapError] at hfault
  | reported link event doc result hdoc =>
    cases hact
    refine iff_of_false (fun hwithheld => List.cons_ne_nil _ _ hwithheld.1) ?_
    obtain ⟨token, htoken, hwritten⟩ := Link.eventRequest_eq_ok_iff.mp hdoc
    rintro (hnone | hnot)
    · cases htoken.symm.trans hnone
    · exact hnot (writable_of_eventDocument hwritten)

/-- A link that has what some calls amount to, if it started with a path and a program and without
a session. -/
structure Link.Tallies (path : String) (program : Option String) (done : List Errand)
    (link : Link) : Prop where
  path : link.path = path
  program : link.program = (latestName done).or program
  session : link.session = latestToken done
  count : link.count.toNat = (handed done).length

/-- A boot brings the token of its answer, if it can be split, and leaves the session alone
otherwise. -/
theorem Link.session_afterBoot (link : Link) (posting : Posting) (result : Except Fault String) :
    (link.afterBoot result).session = (Handing.mk posting result).token?.or link.session := by
  cases result with
  | error fault => rfl
  | ok answer =>
    simp only [afterBoot, receiveBoot, Handing.token?]
    cases splitBoot answer <;> rfl

/-- A boot leaves the path and the program alone. -/
theorem Link.path_afterBoot (link : Link) (result : Except Fault String) :
    (link.afterBoot result).path = link.path ∧ (link.afterBoot result).program = link.program := by
  cases result with
  | error fault => exact ⟨rfl, rfl⟩
  | ok answer =>
    simp only [afterBoot, receiveBoot]
    cases splitBoot answer <;> exact ⟨rfl, rfl⟩

/-- **The books are kept by every call**, as long as the number does not wrap around. -/
theorem Link.Tallies.step {path : String} {program : Option String} {done : List Errand}
    {errand : Errand} (h : errand.before.Tallies path program done) (hdone : errand.Done)
    (hbound : (handed (done ++ [errand])).length < UInt64.size) :
    errand.after.Tallies path program (done ++ [errand]) := by
  rw [length_handed_concat] at hbound
  obtain ⟨hpath, hprogram, hsession, hcount⟩ := h
  cases hdone with
  | booted link name result =>
    dsimp only at hpath hprogram hsession hcount ⊢
    have hnext : link.next.toNat = link.count.toNat + 1 :=
      link.toNat_next (by rw [hcount]; exact hbound)
    obtain ⟨hsame, hnamed⟩ := (link.naming name).path_afterBoot result
    constructor
    · exact hsame.trans hpath
    · rw [hnamed, latestName_concat, Option.or_assoc, ← hprogram]
      rfl
    · rw [session_afterBoot _ ((link.naming name).posting (link.naming name).bootRequest),
        latestToken_concat, ← hsession]
      simp [Errand.token?, naming]
    · rw [count_afterBoot, length_handed_concat, ← hcount]
      exact hnext
  | withheld link event fault hfault =>
    dsimp only at hpath hprogram hsession hcount ⊢
    constructor
    · exact hpath
    · rw [hprogram, latestName_concat]
      rfl
    · rw [hsession, latestToken_concat]
      rfl
    · rw [hcount, length_handed_concat]
      rfl
  | reported link event doc result hdoc =>
    dsimp only at hpath hprogram hsession hcount ⊢
    have hnext : link.next.toNat = link.count.toNat + 1 :=
      link.toNat_next (by rw [hcount]; exact hbound)
    constructor
    · exact hpath
    · rw [latestName_concat]
      exact hprogram
    · rw [latestToken_concat]
      exact hsession
    · rw [length_handed_concat, ← hcount]
      exact hnext

/-! ## §4 A run of calls -/

/-- **Every call of a run starts with the books in order.** -/
theorem Link.Tallies.run {World : Type} {conduit : Conduit World} {path : String}
    {program : Option String} {earlier done later : List Errand} {errand : Errand} {acts : List Act}
    {link : Link} {world : World} (h : link.Tallies path program earlier)
    (hrun : link.errands conduit acts world = done ++ errand :: later)
    (hbound : (handed (earlier ++ (done ++ errand :: later))).length < UInt64.size) :
    errand.Done ∧ errand.before.Tallies path program (earlier ++ done) := by
  induction acts generalizing link world earlier done with
  | nil => simp [errands] at hrun
  | cons act acts ih =>
    have hdone := link.errand_done conduit act world
    rw [errands] at hrun
    cases done with
    | nil =>
      obtain ⟨rfl, -⟩ := List.cons.inj hrun
      rw [List.append_nil]
      exact ⟨hdone, h⟩
    | cons first done =>
      -- The first call keeps the books, and the rest of the run starts from there.
      obtain ⟨rfl, hrest⟩ := List.cons.inj hrun
      have hassoc : earlier ++ (link.errand conduit act world :: done ++ errand :: later) =
          (earlier ++ [link.errand conduit act world]) ++ (done ++ errand :: later) := by simp
      rw [hassoc] at hbound
      have hfirst : (handed (earlier ++ [link.errand conduit act world])).length < UInt64.size := by
        refine Nat.lt_of_le_of_lt ?_ hbound
        simp [handed]
      have hafter : (link.errand conduit act world).after.Tallies path program
          (earlier ++ [link.errand conduit act world]) := .step h hdone hfirst
      simpa using ih hafter hrest hbound

/-- Where calls hand one posting over at most, each posting stands behind those of the calls before
its own. -/
theorem exists_split_of_getElem?_handed {errands : List Errand}
    (hshort : ∀ errand ∈ errands, errand.handed.length ≤ 1) {k : Nat} {handing : Handing}
    (h : (handed errands)[k]? = some handing) :
    ∃ done errand later, errands = done ++ errand :: later ∧ handing ∈ errand.handed ∧
      (handed done).length = k := by
  induction errands generalizing k with
  | nil => simp [handed] at h
  | cons first errands ih =>
    obtain ⟨hfirst, hrest⟩ := List.forall_mem_cons.mp hshort
    have hcons : handed (first :: errands) = first.handed ++ handed errands := rfl
    rw [hcons] at h
    by_cases hk : k < first.handed.length
    · -- The first call handed it over, and nothing else.
      obtain rfl : k = 0 := by omega
      rw [List.getElem?_append_left hk] at h
      exact ⟨[], first, errands, rfl, List.mem_of_getElem? h, rfl⟩
    · rw [List.getElem?_append_right (Nat.not_lt.mp hk)] at h
      obtain ⟨done, errand, later, rfl, hmem, hlength⟩ := ih hrest h
      refine ⟨first :: done, errand, later, rfl, hmem, ?_⟩
      have hcons : handed (first :: done) = first.handed ++ handed done := rfl
      rw [hcons, List.length_append, hlength]
      omega

/-- Every member of a run stands between what was done before it and what came later. -/
theorem Link.errand_done_of_mem {World : Type} {conduit : Conduit World} {acts : List Act}
    {link : Link} {world : World} {errand : Errand}
    (h : errand ∈ link.errands conduit acts world) : errand.Done := by
  induction acts generalizing link world with
  | nil => cases h
  | cons act acts ih =>
    rcases List.mem_cons.mp h with rfl | h
    · exact link.errand_done conduit act world
    · exact ih h

/-! ## §5 The theorem -/

/-- The books of a link are in order throughout some calls on it.  The link was made with a path and
perhaps with a program. -/
structure Bookkeeping (path : String) (program : Option String) (errands : List Errand) :
    Prop where
  /-- The requests go to the path, and they are numbered from one on. -/
  numbered : ∀ k handing, (handed errands)[k]? = some handing → handing.posting.path = path ∧
    ∃ request, Request.ofText handing.posting.body = .ok request ∧ request.count.toNat = k + 1
  /-- After every call the count is the number of the requests so far, failed or not. -/
  counted : ∀ done errand later, errands = done ++ errand :: later →
    errand.after.count.toNat = (handed (done ++ [errand])).length
  /-- An event is withheld, and changes nothing, exactly if there is no session or if it cannot be
  written. -/
  withheld : ∀ errand ∈ errands, ∀ event, errand.act = .report event →
    (errand.handed = [] ∧ errand.after = errand.before ↔
      errand.before.session = none ∨ ¬ event.Writable)
  /-- After every call the session is the one whose token was brought last. -/
  session : ∀ done errand later, errands = done ++ errand :: later →
    errand.after.session = latestToken (done ++ [errand])
  /-- An event that is handed over carries this token. -/
  eventRequest : ∀ done errand later, errands = done ++ errand :: later →
    ∀ event, errand.act = .report event → ∀ handing ∈ errand.handed, ∃ token count,
      latestToken done = some token ∧
        Request.ofText handing.posting.body = .ok (.event token event count)
  /-- A boot hands one request over, which names the program that was named last, in this boot or
  an earlier one, or else the program that the link was made with, if any. -/
  bootRequest : ∀ done errand later, errands = done ++ errand :: later →
    ∀ name, errand.act = .boot name → ∃ handing count, errand.handed = [handing] ∧
      Request.ofText handing.posting.body =
        .ok (.boot ((latestName (done ++ [errand])).or program) count)

/-- **The books of a link are in order**, whatever it is asked to do, and whatever the conduit
answers, as long as the number does not wrap around. -/
theorem Link.bookkeeping {World : Type} (conduit : Conduit World) (path : String)
    (program : Option String) (acts : List Act) (world : World)
    (hbound : (handed (Link.errands conduit acts { path, program } world)).length < UInt64.size) :
    Bookkeeping path program (Link.errands conduit acts { path, program } world) := by
  have hstart : Link.Tallies path program [] { path, program } := ⟨rfl, rfl, rfl, rfl⟩
  generalize hrun : Link.errands conduit acts { path, program } world = errands at hbound ⊢
  have hcall : ∀ errand ∈ errands, errand.Done := by
    intro errand hmem
    exact Link.errand_done_of_mem (hrun ▸ hmem)
  -- Every call starts with the books in order, and so it leaves them in order.
  have hbefore : ∀ done errand later, errands = done ++ errand :: later →
      errand.before.Tallies path program done := by
    rintro done errand later rfl
    exact (hstart.run hrun hbound).2
  have hafter : ∀ done errand later, errands = done ++ errand :: later →
      errand.after.Tallies path program (done ++ [errand]) := by
    intro done errand later hsplit
    refine (hbefore done errand later hsplit).step (hcall errand (by simp [hsplit])) ?_
    refine Nat.lt_of_le_of_lt ?_ hbound
    simp [hsplit, handed]
  constructor
  case numbered =>
    intro k handing hk
    obtain ⟨done, errand, later, hsplit, hmem, rfl⟩ := exists_split_of_getElem?_handed
      (fun errand hmem => (hcall errand hmem).length_handed_le) hk
    have hdone := hcall errand (by simp [hsplit])
    have htallies := hbefore done errand later hsplit
    obtain ⟨hpath, request, -, hread, hcount⟩ := hdone.ofText hmem
    refine ⟨hpath.trans htallies.path, request, hread, ?_⟩
    rw [hcount, Link.toNat_next, htallies.count]
    -- The request itself is one of those that fit.
    rw [htallies.count]
    refine Nat.lt_of_le_of_lt ?_ hbound
    have hone := List.length_pos_of_mem hmem
    have hlength : (handed errands).length =
        (handed done).length + (errand.handed.length + (handed later).length) := by
      simp [hsplit, handed]
    omega
  case counted => exact fun done errand later hsplit => (hafter done errand later hsplit).count
  case withheld => exact fun errand hmem event hact => (hcall errand hmem).withheld_iff hact
  case session => exact fun done errand later hsplit => (hafter done errand later hsplit).session
  case eventRequest =>
    intro done errand later hsplit event hact handing hmem
    have hdone := hcall errand (by simp [hsplit])
    obtain ⟨-, request, hrequest, hread, -⟩ := hdone.ofText hmem
    rw [Errand.request?, hact] at hrequest
    obtain ⟨token, htoken, rfl⟩ := Option.map_eq_some_iff.mp hrequest
    exact ⟨token, _, (hbefore done errand later hsplit).session ▸ htoken, hread⟩
  case bootRequest =>
    intro done errand later hsplit name hact
    have hdone := hcall errand (by simp [hsplit])
    have hprogram := (hbefore done errand later hsplit).program
    obtain ⟨handing, hhanded⟩ : ∃ handing, errand.handed = [handing] := by
      cases hdone with
      | booted link named result => exact ⟨_, rfl⟩
      | withheld | reported => cases hact
    obtain ⟨-, request, hrequest, hread, -⟩ := hdone.ofText (hhanded ▸ List.mem_singleton_self _)
    rw [Errand.request?, hact] at hrequest
    obtain rfl := Option.some.inj hrequest
    refine ⟨handing, errand.before.next, hhanded, ?_⟩
    rw [hread, latestName_concat, Option.or_assoc, ← hprogram, Errand.name?, hact]

/-- A conduit that answers from a list, and does not get through after that. -/
def scripted : Conduit (List (Except Fault String))
  | posting, [] => (.error (.transport posting.path "no answer"), [])
  | _, answer :: script => (answer, script)

/-- A click with an extra that has a reserved name. -/
def unwritableClick : Event :=
  { kind := .click, source := "E3", checked := none, extra := Dict.empty.insert "type" "event" }

/-- A boot that fails, an event too early, a boot whose stream is an error, an event that cannot be
written, one that can, and a boot that is refused. -/
def mixedActs : List Act :=
  [.boot none, .report unwritableClick, .boot (some "Counter"), .report unwritableClick,
    .report { unwritableClick with extra := ∅ }, .boot (some "Nothing")]

def mixedScript : List (Except Fault String) :=
  [.error (.transport "xul" "timeout"), .ok "t\nERROR: out of order", .ok "null",
    .ok "ERROR: unknown application"]

theorem Link.bookkeeping_mixedActs :
    (handed (Link.errands scripted mixedActs { path := "xul", program := some "HelloWorld" }
      mixedScript)).length < UInt64.size ∧
    Bookkeeping "xul" (some "HelloWorld") (Link.errands scripted mixedActs
      { path := "xul", program := some "HelloWorld" } mixedScript) := by
  have hbound : (handed (Link.errands scripted mixedActs
      { path := "xul", program := some "HelloWorld" } mixedScript)).length < UInt64.size := by
    decide +kernel
  exact ⟨hbound, Link.bookkeeping scripted "xul" (some "HelloWorld") mixedActs mixedScript hbound⟩

end RemoteUi
