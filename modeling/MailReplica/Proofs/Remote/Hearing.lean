import MailReplica.Proofs.Remote.Reading

/-! # What a server says

The responses in what a server sends, and how far a client has taken them.  Reads one after another
take the responses in their order and leave the rest (`tells_read`), so what was taken are the first
of all responses (`Tells.isPrefix`), whatever the server sends later (`responsesIn_isPrefix`).
-/

namespace MailReplica.Remote

open Wire

/-- The responses in some octets, where at most `fuel` lines are looked at. -/
def responsesWithin : Nat → Octets → List Response
  | 0, _ => []
  | fuel + 1, octets =>
    match Framed.first Grammar.reply octets with
    | .response response length => response :: responsesWithin fuel (octets.drop length)
    | .unknown length => responsesWithin fuel (octets.drop length)
    | .incomplete | .unrepresentable => []

/-- The responses in some octets, up to one that is not whole or cannot be represented. -/
def responsesIn (octets : Octets) : List Response :=
  responsesWithin (octets.length + 1) octets

/-- Some octets begin with responses, with lines among them that the grammar does not know, and a
rest. -/
inductive Tells : Octets → List Response → Octets → Prop
  | nothing (octets : Octets) : Tells octets [] octets
  | line {octets rest : Octets} {responses : List Response} {length : Nat}
      (first : Framed.first Grammar.reply octets = .unknown length)
      (others : Tells (octets.drop length) responses rest) : Tells octets responses rest
  | response {octets rest : Octets} {response : Response} {responses : List Response}
      {length : Nat} (first : Framed.first Grammar.reply octets = .response response length)
      (others : Tells (octets.drop length) responses rest) :
      Tells octets (response :: responses) rest

/-! ## All responses -/

section All

variable {octets rest more : Octets} {responses others : List Response} {fuel fuel' : Nat}

theorem length_drop_response {response : Response} {length : Nat}
    (is : Framed.first Grammar.reply octets = .response response length) :
    (octets.drop length).length < octets.length := by
  have := Framed.length_of_response Grammar.growing_reply is
  rw [List.length_drop]
  omega

/-- Each line takes an octet, so any fuel beyond the number of octets is enough. -/
theorem responsesWithin_eq (enough : octets.length < fuel) (enough' : octets.length < fuel') :
    responsesWithin fuel octets = responsesWithin fuel' octets := by
  induction fuel generalizing fuel' octets with
  | zero => cases enough
  | succ fuel ih =>
    cases fuel' with
    | zero => cases enough'
    | succ fuel' =>
      unfold responsesWithin
      cases is : Framed.first Grammar.reply octets with
      | response response length =>
        have shorter := length_drop_response is
        exact congrArg _ (ih (by omega) (by omega))
      | unknown length =>
        have shorter := length_drop_lt Grammar.growing_reply is
        exact ih (by omega) (by omega)
      | incomplete | unrepresentable => rfl

theorem responsesIn_eq (octets : Octets) :
    responsesIn octets =
      match Framed.first Grammar.reply octets with
      | .response response length => response :: responsesIn (octets.drop length)
      | .unknown length => responsesIn (octets.drop length)
      | .incomplete | .unrepresentable => [] := by
  rw [responsesIn, responsesWithin]
  cases is : Framed.first Grammar.reply octets with
  | response response length =>
    exact congrArg _ (responsesWithin_eq (length_drop_response is) (Nat.lt_succ_self _))
  | unknown length =>
    exact responsesWithin_eq (length_drop_lt Grammar.growing_reply is) (Nat.lt_succ_self _)
  | incomplete | unrepresentable => rfl

namespace Tells

theorem trans (before : Tells octets responses rest) (after : Tells rest others more) :
    Tells octets (responses ++ others) more := by
  induction before with
  | nothing => exact after
  | line first _ ih => exact .line first (ih after)
  | response first _ ih => exact .response first (ih after)

/-- What is said stays said when more follows. -/
theorem append (tells : Tells octets responses rest) (more : Octets) :
    Tells (octets ++ more) responses (rest ++ more) := by
  induction tells with
  | nothing => exact .nothing _
  | @line octets rest responses length first _ ih =>
    have within := (Framed.length_of_unknown Grammar.growing_reply first).2
    refine .line ((Framed.first_append Grammar.growing_reply (first ▸ nofun)).trans first) ?_
    rwa [List.drop_append_of_le_length within]
  | @response octets rest response responses length first _ ih =>
    have within := (Framed.length_of_response Grammar.growing_reply first).2
    refine .response ((Framed.first_append Grammar.growing_reply (first ▸ nofun)).trans first) ?_
    rwa [List.drop_append_of_le_length within]

/-- What was taken are the first of all responses. -/
theorem isPrefix (tells : Tells octets responses rest) : responses <+: responsesIn octets := by
  induction tells with
  | nothing => exact List.nil_prefix
  | line first _ ih => rwa [responsesIn_eq, first]
  | response first _ ih =>
    rw [responsesIn_eq, first]
    exact List.cons_prefix_cons.2 ⟨rfl, ih⟩

end Tells

theorem tells_responsesIn (octets : Octets) : ∃ rest, Tells octets (responsesIn octets) rest := by
  generalize size : octets.length = count
  induction count using Nat.strongRecOn generalizing octets with
  | ind count ih =>
    rw [responsesIn_eq]
    cases is : Framed.first Grammar.reply octets with
    | response response length =>
      obtain ⟨rest, tells⟩ := ih _ (size ▸ length_drop_response is) _ rfl
      exact ⟨rest, .response is tells⟩
    | unknown length =>
      obtain ⟨rest, tells⟩ := ih _ (size ▸ length_drop_lt Grammar.growing_reply is) _ rfl
      exact ⟨rest, .line is tells⟩
    | incomplete | unrepresentable => exact ⟨octets, .nothing octets⟩

theorem responsesIn_isPrefix (octets more : Octets) :
    responsesIn octets <+: responsesIn (octets ++ more) := by
  obtain ⟨rest, tells⟩ := tells_responsesIn octets
  exact (tells.append more).isPrefix

end All

/-! ## What a read takes -/

/-- The response that a read comes to, if it comes to one. -/
def heardOf (result : Option (Except Failure Response)) : List Response :=
  (result.bind Except.toOption).toList

theorem tells_take (octets : Octets) :
    Tells octets (heardOf (take Grammar.reply octets).result?)
      (take Grammar.reply octets).rest := by
  induction octets using lines_induction Grammar.growing_reply with
  | step octets ih =>
    rw [take_eq Grammar.growing_reply octets]
    cases is : Framed.first Grammar.reply octets with
    | response response length => exact .response is (.nothing _)
    | unknown length => exact .line is (ih length is)
    | incomplete | unrepresentable => exact .nothing octets

theorem tells_pending (pending more : Octets) :
    Tells (pending ++ more) (heardOf (take Grammar.reply pending).result?)
      ((take Grammar.reply pending).rest ++ more) :=
  (tells_take pending).append more

/-- A read takes the response that it comes to, and lines that the grammar does not know before
it. -/
theorem tells_read (millis : Nat) (pending : Octets) (arrivals : List Arrival) :
    Tells (pending ++ octetsOf arrivals)
      (heardOf (some (Reading.of Grammar.reply millis pending arrivals).ended.result))
      (Reading.of Grammar.reply millis pending arrivals).left := by
  induction arrivals generalizing millis pending with
  | nil =>
    have now := tells_pending pending (octetsOf [])
    cases is : (take Grammar.reply pending).result? with
    | some result => rwa [Reading.of_result is, ← is]
    | none =>
      rw [is] at now
      rwa [Reading.of_nil is]
  | cons arrival others ih =>
    have now := tells_pending pending (octetsOf (arrival :: others))
    cases is : (take Grammar.reply pending).result? with
    | some result => rwa [Reading.of_result is, ← is]
    | none =>
      rw [is] at now
      by_cases elapsed : millis = 0
      · rwa [Reading.of_late is elapsed]
      -- Nothing was taken yet, so the read goes on behind what it skipped.
      cases arrival with
      | data octets =>
        rw [octetsOf_data, ← List.append_assoc (take Grammar.reply pending).rest] at now
        rw [Reading.of_data is elapsed, octetsOf_data]
        exact now.trans (ih millis _)
      | silence =>
        rw [Reading.of_silence is elapsed]
        exact now.trans (ih (millis - sliceMillis) _)
      | closed => rwa [Reading.of_closed is elapsed]
      | failed message => rwa [Reading.of_failed is elapsed]

end MailReplica.Remote
