import MailReplica.Proofs.Idle.History

/-! # Rounds of waiting

A round begins as `IDLE` is sent, and the run is in it until it takes up the completion of that
very command.  So when a round begins, all rounds before it in the run were completed, and while
the server has not agreed to let the client wait, no agreement was taken up in the round
(`Lived.rounds`).
-/

namespace MailReplica.Idle

namespace Moment

/-- Whether `IDLE` is sent, whatever comes of it. -/
def SendsIdle (moment : Moment) : Prop :=
  ∃ connection answer, .sendCommand connection "IDLE" answer ∈ moment.calls

/-- Whether a round begins with a tag: `IDLE` is sent with it. -/
def Begins (tag : String) (moment : Moment) : Prop :=
  ∃ connection, .sendCommand connection "IDLE" (.ok tag) ∈ moment.calls

theorem Begins.sendsIdle {tag : String} {moment : Moment} (begins : moment.Begins tag) :
    moment.SendsIdle :=
  begins.imp fun _ sent => ⟨_, sent⟩

end Moment

/-- Every round that began was completed later. -/
def Answered (moments : List Moment) : Prop :=
  ∀ later moment earlier tag, moments = later ++ moment :: earlier → moment.Begins tag →
    ∃ completion ∈ later, completion.completes tag = true

/-- The moments lead into a round: it began last, and none was open then. -/
def InRound (round : Round) (moments : List Moment) : Prop :=
  ∃ since beginning earlier, moments = since ++ beginning :: earlier ∧
    (∀ tag, beginning.Begins tag ↔ tag = round.tag) ∧
    (∀ moment ∈ since, ∀ tag, ¬ moment.Begins tag) ∧
    (round.granted = false → ∀ moment ∈ since, moment.grants = false) ∧ Answered earlier

/-- The round that a run is in at a point. -/
def Point.round? : Point → Option Round
  | preparing round | arming round | armed round _ | releasing round | reading round
  | acquiring round _ | disarming round _ | handling round _ => some round
  | _ => none

/-- Whether a run stands between rounds and may begin one. -/
def Point.isBetween : Point → Bool
  | connecting | connected _ | opening _ | checking _ | starting _ | deciding _ => true
  | _ => false

section Answered

variable {moment : Moment} {past : List Moment}

theorem answered_nil : Answered [] := by
  intro later moment earlier tag split
  cases later <;> cases split

theorem Answered.cons (answered : Answered past) (none : ∀ tag, ¬ moment.Begins tag) :
    Answered (moment :: past) := by
  intro later found earlier tag split begins
  cases later with
  | nil =>
    cases split
    exact absurd begins (none tag)
  | cons latest later =>
    cases split
    obtain ⟨completion, member, completes⟩ := answered later found earlier tag rfl begins
    exact ⟨completion, List.mem_cons_of_mem _ member, completes⟩

/-- A round that begins is answered as soon as its own completion was taken up. -/
theorem Answered.append {since : List Moment} {beginning : Moment} (answered : Answered past)
    (none : ∀ moment ∈ since, ∀ tag, ¬ moment.Begins tag)
    (completed : ∀ tag, beginning.Begins tag → ∃ moment ∈ since, moment.completes tag = true) :
    Answered (since ++ beginning :: past) := by
  intro later found earlier tag split begins
  obtain ⟨between, rfl, rest⟩ | ⟨between, rfl, rest⟩ := List.append_eq_append_iff.1 split
  · cases between with
    | nil =>
      cases rest
      rw [List.append_nil]
      exact completed tag begins
    | cons _ between =>
      cases rest
      obtain ⟨completion, member, completes⟩ := answered between found earlier tag rfl begins
      exact ⟨completion, List.mem_append_right _ (List.mem_cons_of_mem _ member), completes⟩
  · cases between with
    | nil =>
      cases rest
      rw [List.append_nil] at completed
      exact completed tag begins
    | cons _ between =>
      cases rest
      exact absurd begins (none found (List.mem_append_right _ List.mem_cons_self) tag)

end Answered

section Step

variable {settings : Settings} {life after : Life} {moment : Moment}

theorem SendsDone.not_sendCommand {before after : Idler} {calls : List Exchange}
    (sends : SendsDone before after calls) (connection : ConnectionId) (text : String)
    (answer : Except Failure String) : .sendCommand connection text answer ∉ calls := by
  cases sends <;> simp

/-- `IDLE` is sent where a round begins, and nowhere else. -/
theorem Happens.sendsIdle (happens : Happens settings life moment after)
    {connection : ConnectionId} {text : String} {answer : Except Failure String}
    (sends : .sendCommand connection text answer ∈ moment.calls) :
    life.run = some (.starting connection) ∧
      ∀ tag, answer = .ok tag → after.run = some (.reading ⟨connection, tag, false⟩) := by
  cases happens with
  | enter | refuse | reply | leave => cases sends
  | stop _ sendsDone | refresh _ sendsDone => exact absurd sends (sendsDone.not_sendCommand _ _ _)
  | work works =>
    cases works with
    | begins =>
      obtain ⟨rfl, rfl, rfl⟩ : connection = _ ∧ text = _ ∧ answer = _ := by simpa using sends
      exact ⟨rfl, fun tag same => by cases same; rfl⟩
    | unsent =>
      obtain ⟨rfl, rfl, rfl⟩ : connection = _ ∧ text = _ ∧ answer = _ := by simpa using sends
      exact ⟨rfl, fun tag same => by cases same⟩
    | changed _ _ _ _ _ _ sendsDone => exact absurd sends (sendsDone.not_sendCommand _ _ _)
    | _ => simp at sends

@[simp]
theorem round?_next (round : Round) : (Point.next round).round? = some round :=
  Point.apply_next rfl rfl

@[simp]
theorem isBetween_next (round : Round) : (Point.next round).isBetween = false :=
  Point.apply_next rfl rfl

/-- How a step comes to a round: it begins it, or the run was in it. -/
theorem happens_round (happens : Happens settings life moment after) {point : Point} {round : Round}
    (stands : after.run = some point) (within : point.round? = some round) :
    moment.Begins round.tag ∧ (∃ connection, life.run = some (.starting connection)) ∨
      ∃ point' round', life.run = some point' ∧ point'.round? = some round' ∧
        round'.tag = round.tag ∧
        (round.granted = false → round'.granted = false ∧ moment.grants = false) := by
  cases happens with
  | enter =>
    cases stands
    cases within
  | leave => cases stands
  | refuse | stop | refresh => exact .inr ⟨point, round, stands, within, rfl, fun not => ⟨not, rfl⟩⟩
  | @reply _ point' _ _ resumes =>
    cases stands
    refine .inr ⟨point', round, rfl, ?_, rfl, fun not => ⟨not, rfl⟩⟩
    cases resumes <;> first | exact within | cases within
  | @work _ _ point' _ _ works =>
    cases stands
    cases works with
    | begins connection tag =>
      cases within
      exact .inl ⟨⟨connection, List.mem_singleton_self _⟩, connection, rfl⟩
    | granted own =>
      rw [round?_next] at within
      cases within
      exact .inr ⟨_, own, rfl, rfl, rfl, fun not => nomatch not⟩
    | late own =>
      rw [round?_next] at within
      cases within
      exact .inr ⟨_, own, rfl, rfl, rfl, fun not => nomatch not⟩
    | changed own response _ _ change =>
      -- A change that comes before the server agreed ends the run, and with it the round.
      cases granted : own.granted with
      | false =>
        rw [granted] at within
        cases within
      | true =>
        simp only [granted, if_true, round?_next, Option.some.injEq] at within
        subst within
        exact .inr ⟨_, own, rfl, rfl, rfl, fun not => nomatch granted.symm.trans not⟩
    | ignored _ response asks =>
      rw [round?_next] at within
      cases within
      exact .inr ⟨_, round, rfl, rfl, rfl, fun not => ⟨not, asks⟩⟩
    | arms | rests | armed | disarmed =>
      exact .inr ⟨_, round, rfl, within, rfl, fun not => ⟨not, rfl⟩⟩
    | finishes _ _ _ _ next_eq =>
      subst next_eq
      split at within <;> cases within
    | _ => cases within

/-- How a step comes to a point between rounds: the run begins, was between rounds, or was in a
round of which the completion is taken up. -/
theorem happens_between (happens : Happens settings life moment after) {point : Point}
    (stands : after.run = some point) (between : point.isBetween = true) :
    moment.enters = true ∨ ∃ point', life.run = some point' ∧
      (point'.isBetween = true ∨
        ∃ round, point'.round? = some round ∧ moment.completes round.tag = true) := by
  cases happens with
  | enter => exact .inl rfl
  | leave => cases stands
  | refuse | stop | refresh => exact .inr ⟨point, stands, .inl between⟩
  | @reply _ point' _ _ resumes =>
    refine .inr ⟨point', rfl, .inl ?_⟩
    cases stands
    cases resumes <;> first | rfl | cases between
  | @work _ _ point' _ _ works =>
    refine .inr ⟨point', rfl, ?_⟩
    cases stands
    cases works with
    | completed round _ completes => exact .inr ⟨round, rfl, completes⟩
    | granted | late | ignored =>
      rw [isBetween_next] at between
      cases between
    | changed =>
      split at between
      · rw [isBetween_next] at between
        cases between
      · cases between
    | finishes _ _ _ _ next_eq =>
      subst next_eq
      split at between <;> cases between
    | _ => first | exact .inl rfl | cases between

theorem Happens.enters (happens : Happens settings life moment after)
    (enters : moment.enters = true) : life.run = none ∧ after.run = some .connecting := by
  cases happens with
  | enter => exact ⟨rfl, rfl⟩
  | _ => cases enters

/-- No run begins while one goes on. -/
theorem Happens.not_enters (happens : Happens settings life moment after) {point : Point}
    (stood : life.run = some point) : moment.enters = false :=
  Bool.eq_false_iff.2 fun enters => by cases stood.symm.trans (happens.enters enters).1

/-- A run that is past its first point has not just begun. -/
theorem Happens.not_enters_of_ne (happens : Happens settings life moment after) {point : Point}
    (stands : after.run = some point) (further : point ≠ .connecting) : moment.enters = false :=
  Bool.eq_false_iff.2 fun enters =>
    further (Option.some.inj (stands.symm.trans (happens.enters enters).2))

/-- What is done while a run goes on is done in that run. -/
theorem Happens.ofRun_cons (happens : Happens settings life moment after) {point : Point}
    (stood : life.run = some point) (past : List Moment) :
    ofRun (moment :: past) = moment :: ofRun past := by
  rw [Idle.ofRun_cons, happens.not_enters stood]
  rfl

end Step

section Lived

variable {settings : Settings} {history : List Moment} {life : Life}

theorem Lived.rounds (lived : Lived settings history life) {point : Point}
    (stands : life.run = some point) :
    (∀ round, point.round? = some round → InRound round (ofRun history)) ∧
      (point.isBetween = true → Answered (ofRun history)) := by
  -- A round begins only between rounds, and a run is between rounds again only once its round was
  -- completed, so the two halves need each other.
  induction lived generalizing point with
  | new => cases stands
  | @step past before after moment _ step ih =>
    have happens := happens_step step
    constructor
    · intro round within
      obtain ⟨begins, connection, starts⟩ | ⟨point', round', stood, open', tag, agreed⟩ :=
        happens_round happens stands within
      · have only (tag : String) (begins : moment.Begins tag) : tag = round.tag := by
          obtain ⟨connection, sends⟩ := begins
          cases stands.symm.trans ((happens.sendsIdle sends).2 tag rfl)
          cases within
          rfl
        rw [happens.ofRun_cons starts]
        exact ⟨[], moment, ofRun past, rfl, fun tag => ⟨only tag, fun same => same ▸ begins⟩,
          List.forall_mem_nil _, fun _ => List.forall_mem_nil _, (ih starts).2 rfl⟩
      · have none (tag : String) : ¬ moment.Begins tag := by
          rintro ⟨connection, sends⟩
          cases stood.symm.trans (happens.sendsIdle sends).1
          cases open'
        obtain ⟨since, beginning, earlier, split, begins, quiet, waits, answered⟩ :=
          (ih stood).1 round' open'
        rw [happens.ofRun_cons stood, split]
        exact ⟨moment :: since, beginning, earlier, rfl, tag ▸ begins,
          List.forall_mem_cons.2 ⟨none, quiet⟩,
          fun not => List.forall_mem_cons.2 ⟨(agreed not).2, waits (agreed not).1⟩, answered⟩
    · intro between
      have none (tag : String) : ¬ moment.Begins tag := by
        rintro ⟨connection, sends⟩
        cases stands.symm.trans ((happens.sendsIdle sends).2 tag rfl)
        cases between
      obtain enters | ⟨point', stood, prior⟩ := happens_between happens stands between
      · rw [ofRun_cons, enters]
        exact answered_nil
      · rw [happens.ofRun_cons stood]
        obtain between | ⟨round, open', completes⟩ := prior
        · exact ((ih stood).2 between).cons none
        · obtain ⟨since, beginning, earlier, split, begins, quiet, _, answered⟩ :=
            (ih stood).1 round open'
          rw [split]
          refine answered.append (List.forall_mem_cons.2 ⟨none, quiet⟩) fun tag begun => ?_
          obtain rfl := (begins tag).1 begun
          exact ⟨moment, List.mem_cons_self, completes⟩

end Lived

end MailReplica.Idle
