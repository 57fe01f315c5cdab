import MailReplica.Proofs.Idle.Stop

/-! # The phase within a round

Stops, fresh rounds and late timers act on an idler at any time of a round, and all that they can
do to its phase is to send `DONE`.  So the phase is told by what was done since `IDLE` was sent
last: whether anybody sent `DONE`, and whether the server agreed (`phaseIn`, `Lived.within`).
Between two rounds the phase is still the one that the first of them ended in
(`Lived.phase_eq`).
-/

namespace MailReplica

theorem Wire.Response.not_isContinuation_of_isChange {response : Wire.Response}
    (change : response.isChange = true) : response.isContinuation = false :=
  Bool.eq_false_iff.2 fun asks => by cases (isChange_of_isContinuation asks).symm.trans change

namespace Idle

open Wire.Response (not_isContinuation_of_isChange)

/-- Whether a call sends `DONE`, whatever comes of it. -/
def Exchange.isDone : Exchange → Bool
  | sendLine _ text _ => text == "DONE"
  | _ => false

@[simp]
theorem Exchange.isDone_cancelTimer (timer : TimerId) : (cancelTimer timer).isDone = false :=
  rfl

/-- Whether `DONE` is sent, whatever comes of it. -/
def Moment.sendsDone (moment : Moment) : Bool :=
  moment.calls.any Exchange.isDone

/-- The phase that an idler is in, by the moments since `IDLE` was sent last. -/
def phaseIn (since : List Moment) : Phase :=
  if since.any Moment.sendsDone then .sendingDone
  else if since.any Moment.grants then .inIdle
  else .awaitingContinuation

/-- Whether a run has yet to come to its ending. -/
def Point.goesOn (point : Point) : Bool :=
  point.isBetween || point.round?.isSome

/-! ## One step -/

section Step

variable {settings : Settings} {life after : Life} {moment : Moment}

theorem SendsDone.phase_eq {before after : Idler} {calls : List Exchange}
    (sends : SendsDone before after calls) :
    after.phase = if calls.any Exchange.isDone then .sendingDone else before.phase := by
  cases sends with
  | unfit | gone => rfl
  | sent => simp [Exchange.isDone]

theorem Point.goesOn_of_round? {point : Point} {round : Round}
    (within : point.round? = some round) : point.goesOn = true := by
  rw [Point.goesOn, within]
  exact Bool.or_true _

theorem Point.goesOn_of_isBetween {point : Point} (between : point.isBetween = true) :
    point.goesOn = true := by
  rw [Point.goesOn, between]
  rfl

/-- A run that goes on after a step began with it or went on before. -/
theorem happens_goesOn (happens : Happens settings life moment after) {point : Point}
    (stands : after.run = some point) (on : point.goesOn = true) :
    moment.enters = true ∨ ∃ point', life.run = some point' ∧ point'.goesOn = true := by
  obtain between | within := Bool.or_eq_true_iff.1 on
  · obtain enters | ⟨point', stood, between | ⟨round, within, _⟩⟩ :=
      happens_between happens stands between
    · exact .inl enters
    · exact .inr ⟨point', stood, Point.goesOn_of_isBetween between⟩
    · exact .inr ⟨point', stood, Point.goesOn_of_round? within⟩
  · obtain ⟨round, within⟩ := Option.isSome_iff_exists.1 within
    obtain ⟨_, connection, starts⟩ | ⟨point', round', stood, within', _⟩ :=
      happens_round happens stands within
    · exact .inr ⟨_, starts, rfl⟩
    · exact .inr ⟨point', stood, Point.goesOn_of_round? within'⟩

/-- A round begins with the server awaited. -/
theorem Happens.phase_of_sendsIdle (happens : Happens settings life moment after)
    (sends : moment.SendsIdle) {point : Point} (stands : after.run = some point)
    (on : point.goesOn = true) :
    ∃ tag, moment.Begins tag ∧ after.idler.phase = .awaitingContinuation := by
  obtain ⟨connection, answer, sends⟩ := sends
  cases happens with
  | enter | refuse | reply | leave => cases sends
  | stop _ sendsDone | refresh _ sendsDone => exact absurd sends (sendsDone.not_sendCommand _ _ _)
  | work works =>
    cases works with
    | begins own tag => exact ⟨tag, ⟨own, List.mem_singleton_self _⟩, rfl⟩
    | unsent =>
      cases stands
      cases on
    | changed _ _ _ _ _ _ sendsDone => exact absurd sends (sendsDone.not_sendCommand _ _ _)
    | _ => simp at sends

/-- What a step does to the phase of a run that goes on, other than to begin a round. -/
theorem happens_phase (happens : Happens settings life moment after) {point point' : Point}
    (stood : life.run = some point') (stands : after.run = some point) (on : point.goesOn = true)
    (silent : ¬ moment.SendsIdle) :
    after.idler.phase =
      if moment.sendsDone then .sendingDone
      else if moment.grants ∧ life.idler.phase = .awaitingContinuation then .inIdle
      else life.idler.phase := by
  cases happens with
  | enter => cases stood
  | leave => cases stands
  | refuse | reply => rfl
  | stop _ sends | refresh _ sends =>
    rw [sends.phase_eq]
    rfl
  | work works =>
    cases stands
    cases works with
    | begins connection => exact absurd ⟨connection, _, List.mem_singleton_self _⟩ silent
    | granted _ _ asks awaiting =>
      simp [Moment.sendsDone, Exchange.isDone, Moment.grants, Moment.taken?, asks, awaiting]
    | late _ _ _ past | completed _ _ _ _ past => simp [Moment.sendsDone, past]
    | changed _ _ _ _ change _ sends =>
      rw [sends.phase_eq]
      simp [Moment.sendsDone, Moment.grants, Moment.taken?, not_isContinuation_of_isChange change]
    | ignored _ _ asks => simp [Moment.sendsDone, Moment.grants, Moment.taken?, asks]
    | disarmed => simp [Moment.sendsDone, Moment.grants, Moment.taken?]
    | finishes _ _ _ _ next_eq =>
      subst next_eq
      split at on <;> cases on
    | _ => first | rfl | cases on

/-- `DONE` is sent by one section, to begin a fresh round, for a stop, and when a change is taken
up. -/
theorem Happens.exists_sendsDone (happens : Happens settings life moment after)
    (done : moment.sendsDone = true) :
    (moment.deed = .refresh ∨ moment.stops = true ∨ moment.hears = true) ∧
      ∃ before own, SendsDone before own moment.calls ∧
        before.phase = life.idler.phase ∧ before.connection = life.idler.connection := by
  cases happens with
  | enter | refuse | reply | leave => cases done
  | stop _ sends => exact ⟨.inr (.inl rfl), _, _, sends, rfl, rfl⟩
  | refresh _ sends => exact ⟨.inl rfl, _, _, sends, rfl, rfl⟩
  | work works =>
    cases works with
    | changed _ _ _ _ change _ sends => exact ⟨.inr (.inr change), _, _, sends, rfl, rfl⟩
    | disarmed | broken | finishes => simp [Moment.sendsDone] at done
    | _ => cases done

theorem SendsDone.acceptsDone {before after : Idler} {calls : List Exchange}
    (sends : SendsDone before after calls) (done : calls.any Exchange.isDone = true) :
    before.phase.acceptsDone = true := by
  cases sends with
  | unfit | gone => cases done
  | sent _ _ _ fit => exact fit

theorem Happens.acceptsDone (happens : Happens settings life moment after)
    (done : moment.sendsDone = true) : life.idler.phase.acceptsDone = true := by
  obtain ⟨_, before, _, sends, same, _⟩ := happens.exists_sendsDone done
  exact same ▸ sends.acceptsDone done

/-- `DONE` may be sent where it was so before, or where `IDLE` is sent. -/
theorem Happens.acceptsDone_of_after (happens : Happens settings life moment after)
    (may : after.idler.phase.acceptsDone = true) :
    moment.SendsIdle ∨ life.idler.phase.acceptsDone = true := by
  cases happens with
  | enter => cases may
  | refuse | reply | leave => exact .inr may
  | stop _ sends | refresh _ sends =>
    cases sends with
    | unfit | gone => exact .inr may
    | sent => cases may
  | work works =>
    cases works with
    | begins connection | unsent connection =>
      exact .inl ⟨connection, _, List.mem_singleton_self _⟩
    | granted _ _ _ awaiting | unset _ _ _ _ awaiting =>
      refine .inr ?_
      rw [awaiting]
      rfl
    | changed _ _ _ _ _ _ sends =>
      cases sends with
      | unfit | gone => exact .inr may
      | sent => cases may
    | unsupported | declined => cases may
    | @finishes ending _ _ phase_eq =>
      refine .inr ?_
      subst phase_eq
      dsimp only at may
      split at may
      · exact may
      · split at may
        · cases may
        · exact may
    | _ => exact .inr may

/-- A round stays the same but for the server's agreement, which is told by what is taken up. -/
theorem happens_sameRound (happens : Happens settings life moment after) {point point' : Point}
    {round round' : Round} (stood : life.run = some point') (was : point'.round? = some round')
    (stands : after.run = some point) (within : point.round? = some round) :
    round = { round' with granted := moment.grants || round'.granted } := by
  cases happens with
  | enter => cases stood
  | leave => cases stands
  | refuse | stop | refresh =>
    cases stood.symm.trans stands
    cases was.symm.trans within
    rfl
  | reply _ resumes =>
    cases stood
    cases stands
    cases resumes <;> cases was <;> cases within <;> rfl
  | work works =>
    cases stood
    cases stands
    cases works with
    | granted _ _ asks | late _ _ asks =>
      rw [round?_next] at within
      cases was
      cases within
      simp [Moment.grants, Moment.taken?, asks]
    | changed _ _ _ _ change =>
      cases was
      obtain ⟨connection, tag, granted⟩ := round'
      cases granted with
      | false => cases within
      | true =>
        simp only [if_true, round?_next, Option.some.injEq] at within
        simp [← within]
    | ignored _ _ asks =>
      rw [round?_next] at within
      cases was
      cases within
      simp [Moment.grants, Moment.taken?, asks]
    | arms | rests | armed | disarmed =>
      cases was
      cases within
      rfl
    | broken | unset | declined | completed | failed => cases within
    | _ => cases was

end Step

/-! ## A run up to now -/

/-- `beginning` is the last moment that sent `IDLE`, and `since` are the later ones, all of one
run. -/
structure LastBegan (history since : List Moment) (beginning : Moment) (earlier : List Moment) :
    Prop where
  split : history = since ++ beginning :: earlier
  begins : ∃ tag, beginning.Begins tag
  unentered : beginning.enters = false
  own : ∀ moment ∈ since, moment.enters = false
  last : ∀ moment ∈ since, ¬ moment.SendsIdle

section Lived

variable {settings : Settings} {history since since' earlier earlier' : List Moment}
  {beginning beginning' : Moment} {life : Life}

theorem LastBegan.cons {moment : Moment} (began : LastBegan history since beginning earlier)
    (own : moment.enters = false) (silent : ¬ moment.SendsIdle) :
    LastBegan (moment :: history) (moment :: since) beginning earlier where
  split := congrArg (moment :: ·) began.split
  begins := began.begins
  unentered := began.unentered
  own := List.forall_mem_cons.2 ⟨own, began.own⟩
  last := List.forall_mem_cons.2 ⟨silent, began.last⟩

/-- There is but one last moment that sent `IDLE`. -/
theorem LastBegan.unique (began : LastBegan history since beginning earlier)
    (split : history = since' ++ beginning' :: earlier') (sends : beginning'.SendsIdle)
    (last : ∀ moment ∈ since', ¬ moment.SendsIdle) :
    since' = since ∧ beginning' = beginning ∧ earlier' = earlier := by
  obtain ⟨tag, begins⟩ := began.begins
  obtain ⟨between, rfl, rest⟩ | ⟨between, rfl, rest⟩ :=
    List.append_eq_append_iff.1 (split.symm.trans began.split)
  · cases between with
    | nil =>
      cases rest
      exact ⟨(List.append_nil _).symm, rfl, rfl⟩
    | cons _ between =>
      cases rest
      exact absurd sends (began.last _ (List.mem_append_right _ List.mem_cons_self))
  · cases between with
    | nil =>
      cases rest
      exact ⟨List.append_nil _, rfl, rfl⟩
    | cons _ between =>
      cases rest
      exact absurd begins.sendsIdle (last _ (List.mem_append_right _ List.mem_cons_self))

theorem LastBegan.eq (began : LastBegan history since beginning earlier)
    (began' : LastBegan history since' beginning' earlier') :
    since' = since ∧ beginning' = beginning ∧ earlier' = earlier := by
  obtain ⟨tag, begins⟩ := began'.begins
  exact began.unique began'.split begins.sendsIdle began'.last

/-- A run is in the same run since it began its last round. -/
theorem LastBegan.ofRun_eq (began : LastBegan history since beginning earlier) :
    ofRun history = since ++ beginning :: ofRun earlier := by
  have all : ∀ moment ∈ since, (!moment.enters) = true := fun moment member => by
    rw [began.own moment member]
    rfl
  rw [began.split, ofRun, List.takeWhile_append_of_pos all, List.takeWhile_cons, began.unentered]
  rfl

/-- A life that was lived was lived up to any earlier moment. -/
theorem Lived.exists_before (lived : Lived settings (since ++ earlier) life) :
    ∃ before, Lived settings earlier before := by
  induction since generalizing life with
  | nil => exact ⟨life, lived⟩
  | cons moment since ih =>
    cases lived with
    | step lived _ => exact ih lived

theorem Lived.exists_step {moment : Moment} (lived : Lived settings history life)
    (member : moment ∈ history) : ∃ before after, Step settings before moment after := by
  obtain ⟨since, earlier, rfl⟩ := List.append_of_mem member
  obtain ⟨after, lived⟩ := lived.exists_before
  cases lived with
  | @step _ before _ _ _ step => exact ⟨before, after, step⟩

/-- Where `DONE` may be sent, `IDLE` was sent before. -/
theorem Lived.exists_sendsIdle (lived : Lived settings history life)
    (may : life.idler.phase.acceptsDone = true) : ∃ moment ∈ history, moment.SendsIdle := by
  induction lived with
  | new => cases may
  | step _ step ih =>
    obtain sends | may := (happens_step step).acceptsDone_of_after may
    · exact ⟨_, List.mem_cons_self, sends⟩
    · obtain ⟨moment, member, sends⟩ := ih may
      exact ⟨moment, List.mem_cons_of_mem _ member, sends⟩

theorem Moment.Begins.eq {settings : Settings} {life after : Life} {moment : Moment}
    {tag tag' : String} (step : Step settings life moment after) (begins : moment.Begins tag)
    (begins' : moment.Begins tag') : tag = tag' := by
  obtain ⟨connection, sends⟩ := begins
  obtain ⟨connection', sends'⟩ := begins'
  have stands := ((happens_step step).sendsIdle sends).2 tag rfl
  cases stands.symm.trans (((happens_step step).sendsIdle sends').2 tag' rfl)
  rfl

/-- While a run goes on, the idler is in its first phase until `IDLE` is sent, and then in the phase
that is told by the moments since it was sent last. -/
theorem Lived.phase_eq (lived : Lived settings history life) {point : Point}
    (stands : life.run = some point) (on : point.goesOn = true) :
    (∀ moment ∈ ofRun history, ¬ moment.SendsIdle) ∧ point.round? = none ∧
        life.idler.phase = .capabilityCheck ∨
      ∃ since beginning earlier, LastBegan history since beginning earlier ∧
        life.idler.phase = phaseIn since ∧
        ∀ round, point.round? = some round →
          .sendCommand round.connection "IDLE" (.ok round.tag) ∈ beginning.calls ∧
            round.granted = since.any Moment.grants := by
  induction lived generalizing point with
  | new => cases stands
  | @step past before after moment lived step ih =>
    have happens := happens_step step
    obtain enters | ⟨point', stood, on'⟩ := happens_goesOn happens stands on
    · -- A run that begins has sent nothing yet.
      rw [ofRun_cons, enters]
      cases happens with
      | enter =>
        cases stands
        exact .inl ⟨List.forall_mem_nil _, rfl, rfl⟩
      | _ => cases enters
    have own : moment.enters = false := happens.not_enters stood
    rw [happens.ofRun_cons stood]
    by_cases sends : moment.SendsIdle
    · obtain ⟨tag, begins, awaits⟩ := happens.phase_of_sendsIdle sends stands on
      refine .inr ⟨[], moment, past, ⟨rfl, ⟨tag, begins⟩, own, List.forall_mem_nil _,
        List.forall_mem_nil _⟩, awaits, fun round within => ?_⟩
      obtain ⟨connection, sends⟩ := begins
      cases stands.symm.trans ((happens.sendsIdle sends).2 tag rfl)
      cases within
      exact ⟨sends, rfl⟩
    · have moved := happens_phase happens stood stands on sends
      obtain ⟨quiet, without, first⟩ | ⟨since, beginning, earlier, began, told, agreed⟩ :=
        ih stood on'
      · have undone : moment.sendsDone = false := Bool.eq_false_iff.2 fun done => by
          have fit := happens.acceptsDone done
          rw [first] at fit
          cases fit
        refine .inl ⟨List.forall_mem_cons.2 ⟨sends, quiet⟩, ?_, by simp [moved, undone, first]⟩
        refine Option.eq_none_iff_forall_ne_some.2 fun round within => ?_
        obtain ⟨begins, _⟩ | ⟨_, round', stood', within', _⟩ := happens_round happens stands within
        · exact sends begins.sendsIdle
        · cases stood.symm.trans stood'
          cases without.symm.trans within'
      · refine .inr ⟨moment :: since, beginning, earlier, began.cons own sends, ?_, ?_⟩
        · rw [moved, told]
          unfold phaseIn
          rw [List.any_cons, List.any_cons]
          cases moment.sendsDone <;> cases since.any Moment.sendsDone <;> cases moment.grants <;>
            cases since.any Moment.grants <;> rfl
        · intro round within
          obtain ⟨begins, _⟩ | ⟨_, round', stood', within', _⟩ :=
            happens_round happens stands within
          · exact absurd begins.sendsIdle sends
          · cases stood.symm.trans stood'
            obtain ⟨begins, granted⟩ := agreed round' within'
            rw [happens_sameRound happens stood within' stands within]
            exact ⟨begins, by rw [granted, List.any_cons]⟩

/-- In a round the phase is told by the moments since it began, and so is whether the server agreed
to it. -/
theorem Lived.within (lived : Lived settings history life) {point : Point} {round : Round}
    (stands : life.run = some point) (within : point.round? = some round) :
    ∃ since beginning earlier, LastBegan history since beginning earlier ∧
      life.idler.phase = phaseIn since ∧
      .sendCommand round.connection "IDLE" (.ok round.tag) ∈ beginning.calls ∧
      round.granted = since.any Moment.grants := by
  obtain ⟨_, without, _⟩ | ⟨since, beginning, earlier, began, told, agreed⟩ :=
    lived.phase_eq stands (Point.goesOn_of_round? within)
  · cases without.symm.trans within
  · exact ⟨since, beginning, earlier, began, told, agreed round within⟩

end Lived

end Idle

end MailReplica
