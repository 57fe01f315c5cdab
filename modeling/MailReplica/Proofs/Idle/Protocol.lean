import Mathlib.Computability.RegularExpressions
import MailReplica.Proofs.Idle.Result

/-! # What an idler says on the line

Stops, fresh rounds and late timers may all send `DONE`, and so may the run itself.  Whoever does,
the lines that are written in a run are `IDLE` and `DONE` in turn, with no `DONE` but after an
`IDLE`, and `IDLE` goes out only after the one before it was completed (`Safe`).  An `IDLE` waits
for its `DONE` from when it went out: if the server ends the round on its own, a stop that comes
before the next round still sends one.  The run and the others share one phase, and the invariant
that carries this is that the last line was `IDLE` wherever `DONE` may be sent (`Spoken`).
-/

namespace MailReplica.Idle

/-! ## Lines -/

/-- What is written on a connection by a call. -/
def Exchange.lineOn? (connection : ConnectionId) : Exchange → Option String
  | sendCommand own text _ | sendLine own text _ => if own = connection then some text else none
  | _ => none

/-- The lines written on a connection by those calls that count. -/
def linesOn (counts : Exchange → Bool) (connection : ConnectionId) (calls : List Exchange) :
    List String :=
  (calls.filter counts).filterMap (Exchange.lineOn? connection)

/-- The lines written on a connection by those calls that count, first to last. -/
def written (counts : Exchange → Bool) (connection : ConnectionId) (moments : List Moment) :
    List String :=
  moments.reverse.flatMap fun moment => linesOn counts connection moment.calls

open RegularExpression in
/-- `IDLE`, or `IDLE` and then `DONE`, over and over. -/
def turns : RegularExpression String :=
  star (char "IDLE" * (1 + char "DONE"))

theorem append_mem_turns {lines turn : List String} (prior : lines ∈ turns.matches')
    (last : turn = ["IDLE"] ∨ turn = ["IDLE", "DONE"]) : lines ++ turn ∈ turns.matches' := by
  obtain ⟨parts, rfl, all⟩ := Language.mem_kstar.1 prior
  refine Language.mem_kstar.2 ⟨parts ++ [turn], by simp, fun part member => ?_⟩
  obtain member | member := List.mem_append.1 member
  · exact all part member
  · obtain rfl := List.mem_singleton.1 member
    refine Language.mem_mul.2 ⟨["IDLE"], rfl, ?_⟩
    obtain rfl | rfl := last
    · exact ⟨[], .inl rfl, rfl⟩
    · exact ⟨["DONE"], .inr rfl, rfl⟩

/-- Lines in turn, of which the last is `IDLE` where `DONE` may be sent. -/
def Spoken (mayEnd : Prop) (lines : List String) : Prop :=
  lines ∈ turns.matches' ∧ (mayEnd → ∃ before ∈ turns.matches', lines = before ++ ["IDLE"])

namespace Spoken

variable {mayEnd mayEnd' : Prop} {lines : List String}

theorem nil (not : ¬ mayEnd) : Spoken mayEnd [] :=
  ⟨Language.nil_mem_kstar _, fun may => absurd may not⟩

theorem silent (spoken : Spoken mayEnd lines) (may : mayEnd' → mayEnd) :
    Spoken mayEnd' (lines ++ []) := by
  rw [List.append_nil]
  exact ⟨spoken.1, fun ends => spoken.2 (may ends)⟩

theorem idle (spoken : Spoken mayEnd lines) : Spoken mayEnd' (lines ++ ["IDLE"]) :=
  ⟨append_mem_turns spoken.1 (.inl rfl), fun _ => ⟨lines, spoken.1, rfl⟩⟩

theorem done (spoken : Spoken mayEnd lines) (may : mayEnd) (not : ¬ mayEnd') :
    Spoken mayEnd' (lines ++ ["DONE"]) := by
  obtain ⟨before, prior, rfl⟩ := spoken.2 may
  refine ⟨?_, fun may => absurd may not⟩
  rw [List.append_assoc]
  exact append_mem_turns prior (.inr rfl)

end Spoken

/-- Whether `DONE` may be sent on a connection. -/
def Idler.MayEnd (idler : Idler) (connection : ConnectionId) : Prop :=
  idler.phase.acceptsDone = true ∧ idler.connection = some connection

section Step

variable {counts : Exchange → Bool} {connection : ConnectionId} {lines : List String}

@[simp]
theorem linesOn_nil : linesOn counts connection [] = [] :=
  rfl

@[simp]
theorem linesOn_cancelTimer (timers : List TimerId) :
    linesOn counts connection (timers.map .cancelTimer) = [] := by
  unfold linesOn
  rw [List.filterMap_eq_nil_iff]
  intro call member
  obtain ⟨timer, _, rfl⟩ := List.mem_map.1 (List.mem_of_mem_filter member)
  rfl

@[simp]
theorem linesOn_append (calls more : List Exchange) :
    linesOn counts connection (calls ++ more) =
      linesOn counts connection calls ++ linesOn counts connection more := by
  simp [linesOn]

theorem linesOn_cons (call : Exchange) (calls : List Exchange) :
    linesOn counts connection (call :: calls) =
      linesOn counts connection [call] ++ linesOn counts connection calls :=
  linesOn_append [call] calls

theorem linesOn_none (call : Exchange) (none : call.lineOn? connection = none) :
    linesOn counts connection [call] = [] := by
  unfold linesOn
  cases count : counts call <;> simp [count, none]

/-- A call writes its line, or it does not count, or it is on another connection. -/
theorem linesOn_line (counts : Exchange → Bool) (connection : ConnectionId) (call : Exchange)
    (own : ConnectionId) (text : String)
    (writes : call.lineOn? connection = if own = connection then some text else none) :
    linesOn counts connection [call] = [] ∧ (own = connection → counts call = false) ∨
      linesOn counts connection [call] = [text] ∧ own = connection := by
  unfold linesOn
  by_cases same : own = connection <;> cases count : counts call <;>
    simp [count, writes, same]

theorem sendsDone_spoken {before after : Idler} {calls : List Exchange}
    (sends : SendsDone before after calls) (spoken : Spoken (before.MayEnd connection) lines) :
    Spoken (after.MayEnd connection) (lines ++ linesOn counts connection calls) := by
  cases sends with
  | unfit => exact spoken.silent id
  | gone own =>
    rw [linesOn_none _ rfl]
    exact spoken.silent id
  | sent own restored sent fit has =>
    -- The phase has moved on before the line is written, so that no second `DONE` can follow.
    have not : ¬ Idler.MayEnd { before with phase := .sendingDone, timer := none } connection :=
      fun may => nomatch may.1
    rw [linesOn_cons, linesOn_none (.isConnected own true) rfl, linesOn_append,
      linesOn_cancelTimer, linesOn_cons, linesOn_none (.restoreTimeout own restored) rfl]
    obtain ⟨none, _⟩ | ⟨text, rfl⟩ :=
      linesOn_line counts connection (.sendLine own "DONE" sent) own "DONE" rfl
    · rw [none]
      exact spoken.silent fun may => absurd may not
    · rw [text]
      exact spoken.done ⟨fit, has⟩ not

/-- A section of a run keeps the lines in turn, given that its connection is the idler's. -/
theorem works_spoken {settings : Settings} {before after : Idler} {point next : Point}
    {calls : List Exchange} (works : Works settings before point next after calls)
    (counted : ∀ own tag, counts (.sendCommand own "IDLE" (.ok tag)) = true)
    (early : ∀ own, point = .connected own → before.phase = .capabilityCheck)
    (same : ∀ own, point = .starting own → before.connection = some own)
    (spoken : Spoken (before.MayEnd connection) lines) :
    Spoken (after.MayEnd connection) (lines ++ linesOn counts connection calls) := by
  cases works with
  | connected own =>
    refine spoken.silent fun may => ?_
    rw [Idler.MayEnd, early own rfl] at may
    cases may.1
  | unsupported | declined => exact spoken.silent fun may => nomatch may.1
  | unsent own failure =>
    obtain ⟨none, _⟩ | ⟨text, _⟩ :=
      linesOn_line counts connection (.sendCommand own "IDLE" (.error failure)) own "IDLE" rfl
    · rw [none]
      exact spoken.silent fun may => nomatch may.1
    · rw [text]
      exact spoken.idle
  | begins own tag =>
    obtain ⟨none, other⟩ | ⟨text, _⟩ :=
      linesOn_line counts connection (.sendCommand own "IDLE" (.ok tag)) own "IDLE" rfl
    · -- This `IDLE` went out on another connection, and `DONE` can only follow it there.
      rw [none]
      refine spoken.silent fun may => ?_
      have here : own = connection := Option.some.inj ((same own rfl).symm.trans may.2)
      cases (other here).symm.trans (counted own tag)
    · rw [text]
      exact spoken.idle
  | granted _ _ _ awaiting | unset _ _ _ _ awaiting =>
    rw [linesOn_none _ rfl]
    exact spoken.silent fun may => ⟨by rw [awaiting]; rfl, may.2⟩
  | changed _ _ _ _ _ _ sends => exact sendsDone_spoken sends spoken
  | disarmed | broken =>
    rw [linesOn_cancelTimer]
    exact spoken.silent id
  | finishes =>
    rw [linesOn_cancelTimer]
    exact spoken.silent fun may => nomatch may.2
  | _ => exact spoken.silent id

end Step

/-! ## The connection of a run -/

/-- The connection that a run works on at a point, once its idler knows of it. -/
def Point.connection? : Point → Option ConnectionId
  | opening connection | checking connection | starting connection | deciding connection =>
    some connection
  | preparing round | arming round | armed round _ | releasing round | reading round
  | acquiring round _ | disarming round _ | handling round _ => some round.connection
  | _ => none

@[simp]
theorem connection?_next (round : Round) :
    (Point.next round).connection? = some round.connection :=
  Point.apply_next rfl rfl

theorem SendsDone.connection_eq {before after : Idler} {calls : List Exchange}
    (sends : SendsDone before after calls) : after.connection = before.connection := by
  cases sends <;> rfl

section Lived

variable {settings : Settings} {history : List Moment} {life after : Life} {moment : Moment}

/-- A run takes note of its connection, or works on the one that it noted before. -/
theorem happens_connection (happens : Happens settings life moment after) {point : Point}
    {connection : ConnectionId} (stands : after.run = some point)
    (own : point.connection? = some connection) :
    after.idler.connection = some connection ∨
      after.idler.connection = life.idler.connection ∧
        ∃ point', life.run = some point' ∧ point'.connection? = some connection := by
  cases happens with
  | enter =>
    cases stands
    cases own
  | leave => cases stands
  | refuse => exact .inr ⟨rfl, point, stands, own⟩
  | stop _ sends => exact .inr ⟨sends.connection_eq, point, stands, own⟩
  | refresh _ sends => exact .inr ⟨sends.connection_eq, point, stands, own⟩
  | reply _ resumes =>
    cases stands
    cases resumes <;> first | exact .inr ⟨rfl, _, rfl, own⟩ | cases own
  | work works =>
    cases stands
    cases works with
    | connected => exact .inl own
    | granted | late | ignored =>
      rw [connection?_next] at own
      exact .inr ⟨rfl, _, rfl, own⟩
    | changed _ _ _ _ _ _ sends =>
      split at own
      · rw [connection?_next] at own
        exact .inr ⟨sends.connection_eq, _, rfl, own⟩
      · cases own
    | finishes _ _ _ _ next_eq =>
      subst next_eq
      split at own <;> cases own
    | _ => first | exact .inr ⟨rfl, _, rfl, own⟩ | cases own

theorem Lived.connection_eq (lived : Lived settings history life) {point : Point}
    {connection : ConnectionId} (stands : life.run = some point)
    (own : point.connection? = some connection) : life.idler.connection = some connection := by
  induction lived generalizing point with
  | new => cases stands
  | step _ step ih =>
    obtain here | ⟨same, point', stood, own⟩ := happens_connection (happens_step step) stands own
    · exact here
    · rw [same]
      exact ih stood own

theorem Lived.spoken (lived : Lived settings history life) {counts : Exchange → Bool}
    (counted : ∀ own tag, counts (.sendCommand own "IDLE" (.ok tag)) = true)
    (connection : ConnectionId) :
    Spoken (life.idler.MayEnd connection) (written counts connection (ofRun history)) := by
  induction lived with
  | new => exact .nil fun may => nomatch may.1
  | @step past before after moment lived step ih =>
    have happens := happens_step step
    rw [ofRun_cons]
    cases enters : moment.enters with
    | true =>
      -- The lines of a new run are counted from nothing, and its first phase sends no `DONE`.
      have fits := (lived.step step).inStep.phase
      rw [(happens.enters enters).2] at fits
      refine .nil fun may => ?_
      rw [Idler.MayEnd, List.mem_singleton.1 fits] at may
      cases may.1
    | false =>
      have more : written counts connection (moment :: ofRun past) =
          written counts connection (ofRun past) ++ linesOn counts connection moment.calls := by
        simp [written]
      simp only [Bool.false_eq_true, if_false, more]
      cases happens with
      | enter => cases enters
      | refuse | reply | leave => exact ih.silent id
      | stop _ sends | refresh _ sends => exact sendsDone_spoken sends ih
      | work works =>
        refine works_spoken works counted ?_ ?_ ih
        · rintro own rfl
          exact List.mem_singleton.1 lived.inStep.phase
        · rintro own rfl
          exact lived.connection_eq rfl rfl

end Lived

/-! ## Safety -/

section Safe

variable {settings : Settings} {history : List Moment} {life after : Life} {moment : Moment}

theorem SendsDone.ends {before after : Idler} {calls : List Exchange}
    (sends : SendsDone before after calls) {connection : ConnectionId}
    (asked : .isConnected connection true ∈ calls) :
    ∃ answer, .sendLine connection "DONE" answer ∈ calls := by
  cases sends with
  | unfit => cases asked
  | gone => simp at asked
  | sent own restored sent =>
    obtain rfl : connection = own := by simpa using asked
    exact ⟨sent, by simp⟩

theorem Happens.ends (happens : Happens settings life moment after) {connection : ConnectionId}
    (asked : .isConnected connection true ∈ moment.calls) :
    ∃ answer, .sendLine connection "DONE" answer ∈ moment.calls := by
  cases happens with
  | enter | refuse | reply | leave => cases asked
  | stop _ sends | refresh _ sends => exact sends.ends asked
  | work works =>
    cases works with
    | changed _ _ _ _ _ _ sends => exact sends.ends asked
    | _ => simp at asked

theorem Lived.ends (lived : Lived settings history life) : ∀ moment ∈ history, ∀ connection,
    .isConnected connection true ∈ moment.calls →
      ∃ answer, .sendLine connection "DONE" answer ∈ moment.calls := by
  induction lived with
  | new => exact List.forall_mem_nil _
  | step _ step ih =>
    exact List.forall_mem_cons.2 ⟨fun _ asked => (happens_step step).ends asked, ih⟩

theorem Lived.answered {past : List Moment} (lived : Lived settings (moment :: past) life)
    (sends : moment.SendsIdle) : Answered (ofRun past) := by
  cases lived with
  | step lived step =>
    obtain ⟨connection, answer, sends⟩ := sends
    exact (lived.rounds ((happens_step step).sendsIdle sends).1).2 rfl

theorem Lived.settled {text : String} {calls : List Exchange} {past : List Moment}
    (lived : Lived settings (⟨.leave (.error (.invalidState text)), calls⟩ :: past) life) :
    ∃ moment ∈ ofRun past, moment.CallFails (.invalidState text) := by
  cases lived with
  | step lived step =>
    cases step
    obtain ⟨moment, member, fails | ⟨round, response, _, _, _, other⟩⟩ := lived.failsWith rfl rfl
    · exact ⟨moment, member, fails⟩
    · cases other

/-- Where no run may begin, a call for one fails and leaves the idler and the line as they are. -/
theorem run_enter_barred {ε : Type} (idler : Idler) (state : ε)
    (barred : idler.phase.allows .capabilityCheck = false) :
    (Section.enter : Section ε Point).run (idler, state) =
      (.ended (.error (idler.phase.refusal .capabilityCheck)), idler, state) := by
  have leads : Section.Leads (Section.enter : Section ε Point) Section.enter (idler, state)
      (.ended (.error (idler.phase.refusal .capabilityCheck))) (idler, state) [] :=
    .barred barred (.pure _)
  exact leads.run_plain

end Safe

end MailReplica.Idle
