import MailReplica.Idle.Run

/-! # What a section comes to

Any line can be made to note the calls that a section makes on it.  Noting leaves a section as it
is: `Leads` says of a section on a line and of the same section on the noting line that they come
to the same, and has a rule for each piece of a section.  From the rules follows what a section
can come to on any line whatsoever: `SendsDone` for a `DONE`, and `Works` for the sections of a
run, with a constructor for each way through them.  All that is shown of idlers elsewhere rests on
these two.
-/

namespace MailReplica.Idle

/-! ## Calls with their answers -/

/-- A call on the line with its answer. -/
inductive Exchange where
  | isConnected (connection : ConnectionId) (answer : Bool)
  | sendCommand (connection : ConnectionId) (command : String) (answer : Except Failure String)
  | sendLine (connection : ConnectionId) (text : String) (answer : Except Failure Unit)
  | setTimeout (connection : ConnectionId) (millis : Nat) (answer : Except Failure Unit)
  | restoreTimeout (connection : ConnectionId) (answer : Except Failure Unit)
  | cancelTimer (timer : TimerId)

def Exchange.of {α : Type} : LineCall α → α → Exchange
  | .isConnected connection, answer => isConnected connection answer
  | .sendCommand connection command, answer => sendCommand connection command answer
  | .sendLine connection text, answer => sendLine connection text answer
  | .setTimeout connection millis, answer => setTimeout connection millis answer
  | .restoreTimeout connection, answer => restoreTimeout connection answer
  | .cancelTimer timer, _ => cancelTimer timer

variable {ε α β : Type}

/-- A line that notes each call with its answer, and is `line` in all else. -/
def Line.noting (line : Line ε) : Line (ε × List Exchange) where
  run call state :=
    let (answer, after) := line.run call state.1
    (answer, after, state.2 ++ [.of call answer])

/-- What a move that is not allowed fails with. -/
def Phase.refusal (phase next : Phase) : Failure :=
  .invalidState ("illegal IDLE transition " ++ phase.name ++ " -> " ++ next.name)

/-! ## Rules for sections -/

namespace Section

/-- From `before`, a section on a line comes to `value` and `after`, and so does the section on the
noting line, which has noted the calls `made` then. -/
structure Leads (plain : Section ε α) (noted : Section (ε × List Exchange) α)
    (before : Idler × ε) (value : α) (after : Idler × ε) (made : List Exchange) : Prop where
  run_plain : plain.run before = (value, after)
  run_noted (notes : List Exchange) :
    noted.run (before.1, before.2, notes) = (value, after.1, after.2, notes ++ made)

namespace Leads

variable {before middle after : Idler × ε} {made more : List Exchange}

/-- What a section comes to and the calls that it notes are fixed. -/
theorem unique {plain : Section ε α} {noted : Section (ε × List Exchange) α} {value other : α}
    {own : Idler} {last : ε} (leads : Leads plain noted before value after made)
    (run : noted.run (before.1, before.2, []) = (other, own, last, more)) :
    other = value ∧ (own, last) = after ∧ more = made := by
  have same : (other, own, last, more) = (value, after.1, after.2, made) :=
    run.symm.trans (leads.run_noted [])
  simp only [Prod.mk.injEq] at same
  exact ⟨same.1, Prod.ext same.2.1 same.2.2.1, same.2.2.2⟩

theorem pure (value : α) : Leads (Pure.pure value) (Pure.pure value) before value before [] :=
  ⟨rfl, fun notes => by rw [List.append_nil]; rfl⟩

variable {value : α} {next : α → Section ε β} {nextNoted : α → Section (ε × List Exchange) β}
  {result : β}

theorem bind {plain : Section ε α} {noted : Section (ε × List Exchange) α}
    (first : Leads plain noted before value middle made)
    (rest : Leads (next value) (nextNoted value) middle result after more) :
    Leads (plain >>= next) (noted >>= nextNoted) before result after (made ++ more) := by
  refine ⟨?_, fun notes => ?_⟩
  · rw [StateT.run_bind, first.run_plain]
    exact rest.run_plain
  · rw [StateT.run_bind, first.run_noted, ← List.append_assoc]
    exact rest.run_noted _

/-- A piece without calls comes first. -/
theorem quiet {plain : Section ε α} {noted : Section (ε × List Exchange) α}
    (first : Leads plain noted before value middle [])
    (rest : Leads (next value) (nextNoted value) middle result after more) :
    Leads (plain >>= next) (noted >>= nextNoted) before result after more :=
  first.bind rest

/-- A piece without calls comes last. -/
theorem followed {plain : Section ε α} {noted : Section (ε × List Exchange) α}
    (first : Leads plain noted before value middle made)
    (rest : Leads (next value) (nextNoted value) middle result after []) :
    Leads (plain >>= next) (noted >>= nextNoted) before result after made :=
  List.append_nil made ▸ first.bind rest

theorem idler {next : Idler → Section ε β} {nextNoted : Idler → Section (ε × List Exchange) β}
    (rest : Leads (next before.1) (nextNoted before.1) before result after more) :
    Leads (Section.idler >>= next) (Section.idler >>= nextNoted) before result after more :=
  quiet ⟨rfl, fun notes => by rw [List.append_nil]; rfl⟩ rest

theorem change {apply : Idler → Idler} {next : Unit → Section ε β}
    {nextNoted : Unit → Section (ε × List Exchange) β}
    (rest : Leads (next ()) (nextNoted ()) (apply before.1, before.2) result after more) :
    Leads (Section.change apply >>= next) (Section.change apply >>= nextNoted) before result after
      more :=
  quiet ⟨rfl, fun notes => by rw [List.append_nil]; rfl⟩ rest

theorem call {line : Line ε} {request : LineCall α} {own : Idler} {state last : ε}
    (answered : line.run request state = (value, last))
    (rest : Leads (next value) (nextNoted value) (own, last) result after more) :
    Leads (Section.call line request >>= next) (Section.call line.noting request >>= nextNoted)
      (own, state) result after (.of request value :: more) := by
  have called : Leads (Section.call line request) (Section.call line.noting request) (own, state)
      (line.run request state).1 (own, (line.run request state).2)
      [.of request (line.run request state).1] := ⟨rfl, fun _ => rfl⟩
  rw [answered] at called
  exact called.bind rest

section Branch

variable {holds : Prop} [Decidable holds] {plain other : Section ε β}
  {noted otherNoted : Section (ε × List Exchange) β}

theorem if_pos (is : holds) (rest : Leads plain noted before result after more) :
    Leads (if holds then plain else other) (if holds then noted else otherNoted) before result after
      more := by
  simpa only [is, if_true] using rest

theorem if_neg (not : ¬ holds) (rest : Leads other otherNoted before result after more) :
    Leads (if holds then plain else other) (if holds then noted else otherNoted) before result after
      more := by
  simpa only [not, if_false] using rest

end Branch

section Move

variable {phase : Phase} {next : Except Failure Unit → Section ε β}
  {nextNoted : Except Failure Unit → Section (ε × List Exchange) β}

theorem move (allowed : before.1.phase.allows phase = true)
    (rest : Leads (next (.ok ())) (nextNoted (.ok ())) ({ before.1 with phase }, before.2) result
      after more) :
    Leads (Section.move phase >>= next) (Section.move phase >>= nextNoted) before result after
      more := by
  have moved : before.1.move phase = .ok { before.1 with phase } :=
    ite_cond_eq_true _ _ (eq_true allowed)
  refine quiet (idler ?_) rest
  rw [moved]
  exact quiet ⟨rfl, fun notes => by rw [List.append_nil]; rfl⟩ (pure _)

theorem barred (barred : before.1.phase.allows phase = false)
    (rest : Leads (next (.error (before.1.phase.refusal phase)))
      (nextNoted (.error (before.1.phase.refusal phase))) before result after more) :
    Leads (Section.move phase >>= next) (Section.move phase >>= nextNoted) before result after
      more := by
  have refused : before.1.move phase = .error (before.1.phase.refusal phase) :=
    ite_cond_eq_false _ _ (eq_false (Bool.eq_false_iff.1 barred))
  refine quiet (idler ?_) rest
  rw [refused]
  exact pure _

/-- A move of which it does not matter whether it is allowed. -/
theorem tried {next : Section ε β} {nextNoted : Section (ε × List Exchange) β}
    (rest : Leads next nextNoted
      ({ before.1 with phase := if before.1.phase.allows phase then phase else before.1.phase },
        before.2) result after more) :
    Leads (Section.move phase >>= fun _ => next) (Section.move phase >>= fun _ => nextNoted) before
      result after more := by
  cases allowed : before.1.phase.allows phase with
  | true => exact move allowed (by simpa only [allowed, if_true] using rest)
  | false => exact barred allowed (by simpa only [allowed, Bool.false_eq_true, if_false] using rest)

end Move

end Leads

theorem cancelTimer_leads (line : Line ε) (before : Idler) (state : ε) :
    ∃ last, Leads (cancelTimer line) (cancelTimer line.noting) (before, state) ()
      ({ before with timer := none }, last) (before.timer.toList.map .cancelTimer) := by
  obtain ⟨phase, stopRequested, outcome, timer, connection⟩ := before
  cases timer with
  | none => exact ⟨state, .idler (.pure ())⟩
  | some timer => exact ⟨(line.run (.cancelTimer timer) state).2, rfl, fun _ => rfl⟩

end Section

/-! ## Sending `DONE` -/

/-- What sending `DONE` can come to. -/
inductive SendsDone (before : Idler) : Idler → List Exchange → Prop
  /-- It is not the time for it, or there is no connection. -/
  | unfit (unfit : before.phase.acceptsDone = false ∨ before.connection = none) :
      SendsDone before before []
  /-- The connection is gone. -/
  | gone (connection : ConnectionId) (own : before.connection = some connection) :
      SendsDone before before [.isConnected connection false]
  | sent (connection : ConnectionId) (restored sent : Except Failure Unit)
      (fit : before.phase.acceptsDone = true) (own : before.connection = some connection) :
      SendsDone before { before with phase := .sendingDone, timer := none }
        (.isConnected connection true :: (before.timer.toList.map .cancelTimer ++
          [.restoreTimeout connection restored, .sendLine connection "DONE" sent]))

theorem Phase.allows_sendingDone {phase : Phase} (fit : phase.acceptsDone = true) :
    phase.allows .sendingDone = true := by
  cases phase <;> first | rfl | cases fit

namespace Section

theorem sendDone_leads (line : Line ε) (before : Idler) (state : ε) :
    ∃ after last made, SendsDone before after made ∧
      Leads (sendDone line) (sendDone line.noting) (before, state) () (after, last) made := by
  unfold sendDone
  -- The cases follow the section: the phase, the connection, and whether that is still there.
  obtain ⟨phase, stopRequested, outcome, timer, connection⟩ := before
  cases fit : phase.acceptsDone with
  | false =>
    refine ⟨_, state, [], .unfit (.inl fit), .idler ?_⟩
    simp only [fit]
    exact .pure ()
  | true =>
    cases connection with
    | none =>
      refine ⟨_, state, [], .unfit (.inr rfl), .idler ?_⟩
      simp only [fit]
      exact .pure ()
    | some connection =>
      cases asked : line.run (.isConnected connection) state with | mk connected met =>
      cases connected with
      | false =>
        refine ⟨_, met, _, .gone connection rfl, .idler ?_⟩
        simp only [fit]
        exact .call asked (.pure ())
      | true =>
        obtain ⟨freed, cancelled⟩ :=
          cancelTimer_leads line ⟨phase, stopRequested, outcome, timer, some connection⟩ met
        cases restored : line.run (.restoreTimeout connection) freed with | mk restoring reset =>
        cases sent : line.run (.sendLine connection "DONE") reset with | mk sending last =>
        refine ⟨_, last, _, .sent connection restoring sending fit rfl, .idler ?_⟩
        simp only [fit]
        refine .call asked (.bind cancelled (.move (Phase.allows_sendingDone fit) ?_))
        exact .call restored (.call sent (.pure ()))

end Section

end MailReplica.Idle
