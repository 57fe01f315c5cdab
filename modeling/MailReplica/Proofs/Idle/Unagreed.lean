import MailReplica.Proofs.Idle.Change
import MailReplica.Proofs.Idle.Within

/-! # Rounds that are completed before the server agreed

A server that does not let clients wait completes `IDLE` without having agreed to it.  The run tells
this by the phase that it finds, and so it does as long as nobody sends `DONE` in the round.  A
fresh round that somebody asked for, or a stop, does send it, and moves the phase on: then the
completion is taken for the one of a round that the server agreed to.  `returns_unagreed` says what
comes of either case.
-/

namespace MailReplica.Idle

/-! ## What a run returns -/

/-- The ending that a run returns. -/
def Moment.left? (moment : Moment) : Option Ending :=
  match moment.deed with
  | .leave ending => some ending
  | _ => none

/-- Whether a step is one of the run itself. -/
def Moment.isOwn (moment : Moment) : Bool :=
  match moment.deed with
  | .work _ | .reply _ _ | .leave _ => true
  | _ => false

/-- How many steps a run that knows its ending has to make yet. -/
def Point.stepsLeft : Point → Nat
  | finishing _ => 3
  | closing _ _ => 2
  | ended _ => 1
  | _ => 0

/-- The first ending that is returned in the moments `since` is `ending`, or the run is about to
return it: the third step of its own is the last one. -/
def Returns (ending : Ending) (since : List Moment) (life : Life) : Prop :=
  (since.filterMap Moment.left?).getLast? = some ending ∨
    since.filterMap Moment.left? = [] ∧
      ∃ point, life.run = some point ∧ point.result? = some ending ∧
        since.countP Moment.isOwn + point.stepsLeft ≤ 3

section Step

variable {settings : Settings} {life after : Life} {moment : Moment}

/-- A run that knows its ending comes nearer to returning it with each step of its own. -/
theorem happens_result (happens : Happens settings life moment after) {point : Point}
    {ending : Ending} (stood : life.run = some point) (knows : point.result? = some ending) :
    moment.left? = some ending ∨
      moment.left? = none ∧ ∃ next, after.run = some next ∧ next.result? = some ending ∧
        (if moment.isOwn then 1 else 0) + next.stepsLeft ≤ point.stepsLeft := by
  cases happens with
  | enter => cases stood
  | refuse | stop | refresh => exact .inr ⟨rfl, point, stood, knows, Nat.le_of_eq (Nat.zero_add _)⟩
  | leave =>
    cases stood
    cases knows
    exact .inl rfl
  | reply _ resumes =>
    cases stood
    cases resumes with
    | closed => exact .inr ⟨rfl, _, rfl, knows, Nat.le_refl _⟩
    | _ => cases knows
  | work works =>
    cases stood
    cases works with
    | finishes _ _ _ _ next_eq =>
      subst next_eq
      cases knows
      refine .inr ⟨rfl, _, rfl, ?_⟩
      split
      · exact ⟨rfl, by simp [Moment.isOwn, Point.stepsLeft]⟩
      · exact ⟨rfl, by simp [Moment.isOwn, Point.stepsLeft]⟩
    | _ => cases knows

theorem result?_of_mem_phases {point : Point} (gives : .notSupported ∈ point.phases) :
    point.result? = some (.ok .notSupported) := by
  cases point with
  | finishing ending | closing _ ending | ended ending =>
    rcases ending with failure | (_ | _ | _)
    case ok.notSupported => rfl
    all_goals simp [Point.phases, runPhases] at gives
  | preparing round | arming round | armed round | releasing round | reading round
  | acquiring round | disarming round | handling round =>
    cases granted : round.granted <;> simp [Point.phases, granted] at gives
  | _ => simp [Point.phases] at gives

/-- An idler that gave up does not come back. -/
theorem happens_notSupported (happens : Happens settings life moment after) (inStep : life.InStep)
    (gave : life.idler.phase = .notSupported) : after.idler.phase = .notSupported := by
  cases happens with
  | enter _ allowed =>
    rw [gave] at allowed
    cases allowed
  | refuse | reply | leave => exact gave
  | stop _ sends | refresh _ sends =>
    rw [sends.phase_eq, if_neg, gave]
    intro done
    have fit := sends.acceptsDone done
    rw [gave] at fit
    cases fit
  | work works =>
    have knows := result?_of_mem_phases (gave ▸ inStep.phase : .notSupported ∈ Point.phases _)
    cases works with
    | finishes _ _ _ phase_eq =>
      cases knows
      exact phase_eq.trans gave
    | _ => cases knows

end Step

section Lived

variable {settings : Settings} {since past : List Moment} {life : Life} {ending : Ending}

/-- A run that came to know its ending by some moment returns it. -/
theorem Lived.returns (lived : Lived settings (since ++ past) life)
    (knows : ∀ before, Lived settings past before →
      ∃ point, before.run = some point ∧ point.result? = some ending ∧ point.stepsLeft ≤ 3) :
    Returns ending since life := by
  induction since generalizing life with
  | nil =>
    obtain ⟨point, stands, knows, left⟩ := knows life lived
    exact .inr ⟨rfl, point, stands, knows, (Nat.zero_add _).symm ▸ left⟩
  | cons moment since ih =>
    rw [List.cons_append] at lived
    cases lived with
    | step lived step =>
      obtain returned | ⟨still, point, stood, knows, left⟩ := ih lived
      · -- Whatever a later run returns does not come first.
        refine .inl ?_
        rw [List.filterMap_cons]
        cases moment.left? with
        | none => exact returned
        | some => simp [List.getLast?_cons, returned]
      · obtain leaves | ⟨stays, next, stands, knows, nearer⟩ :=
          happens_result (happens_step step) stood knows
        · exact .inl (by simp [leaves, still])
        · refine .inr ⟨by simp [stays, still], next, stands, knows, ?_⟩
          rw [List.countP_cons]
          omega

theorem Lived.phase_notSupported (lived : Lived settings (since ++ past) life)
    (gave : ∀ before, Lived settings past before → before.idler.phase = .notSupported) :
    life.idler.phase = .notSupported := by
  induction since generalizing life with
  | nil => exact gave life lived
  | cons moment since ih =>
    rw [List.cons_append] at lived
    cases lived with
    | step lived step =>
      exact happens_notSupported (happens_step step) lived.inStep (ih lived)

end Lived

/-! ## A completion that comes first -/

/-- The round that `beginning` began with `tag` is completed, and the server has not agreed to it by
then; `between` is what was done in the round before. -/
structure Unagreed (tag : String) (completion : Moment) (between : List Moment)
    (beginning : Moment) : Prop where
  begins : beginning.Begins tag
  current : ∀ moment ∈ between, ¬ moment.SendsIdle
  waits : ∀ moment ∈ between, moment.grants = false
  completes : completion.completes tag = true

section Unagreed

variable {settings : Settings} {tag : String} {completion beginning : Moment}
  {between earlier : List Moment} {life after : Life}

theorem phaseIn_of_waits (waits : ∀ moment ∈ between, moment.grants = false) :
    phaseIn between =
      if between.any Moment.sendsDone then .sendingDone else .awaitingContinuation := by
  have none : between.any Moment.grants = false :=
    List.any_eq_false.2 fun moment member => by simp [waits moment member]
  simp [phaseIn, none]

/-- As a completion is taken up, the run stands in the round, and the phase is told by what was done
in the round. -/
theorem Unagreed.stands (unagreed : Unagreed tag completion between beginning)
    (lived : Lived settings (between ++ beginning :: earlier) life)
    (step : Step settings life completion after) :
    ∃ round response calls next, completion = ⟨.work (.handling round response), calls⟩ ∧
      response.completes round.tag = true ∧ life.run = some (.handling round response) ∧
      life.idler.phase = phaseIn between ∧ after.run = some next ∧
      Works settings life.idler (.handling round response) next after.idler calls := by
  have completes := unagreed.completes
  cases happens_step step with
  | @work _ _ point next calls works =>
    cases point with
    | handling round response =>
      obtain ⟨since, beginning', earlier', began, told, begins, _⟩ := lived.within rfl rfl
      obtain ⟨rfl, rfl, rfl⟩ := began.unique rfl unagreed.begins.sendsIdle unagreed.current
      obtain ⟨_, atBeginning⟩ := lived.exists_before
      cases atBeginning with
      | step _ began =>
        obtain rfl := Moment.Begins.eq began ⟨_, begins⟩ unagreed.begins
        exact ⟨round, response, calls, next, rfl, completes, rfl, told, rfl, works⟩
    | _ => cases completes
  | _ => cases completes

/-- What becomes of a round that is completed. -/
theorem works_completion {before own : Idler} {round : Round} {response : Wire.Response}
    {next : Point} {calls : List Exchange}
    (works : Works settings before (.handling round response) next own calls)
    (completes : response.completes round.tag = true) :
    before.phase = .awaitingContinuation ∧ next = .finishing (.ok .notSupported) ∧
        own.phase = .notSupported ∨
      before.phase ≠ .awaitingContinuation ∧
        next = if response.isSuccess then .deciding round.connection
          else .finishing (.error
            (.protocol ("Received non-OK response to IDLE command: " ++ response.line))) := by
  cases works with
  | granted _ _ asks | unset _ _ _ asks | late _ _ asks =>
    cases (Wire.Response.not_completes_of_isContinuation asks).symm.trans completes
  | declined _ _ _ awaiting => exact .inl ⟨awaiting, rfl, rfl⟩
  | completed _ _ _ success past => exact .inr ⟨past, by rw [success]; rfl⟩
  | failed _ _ _ success past => exact .inr ⟨past, by rw [success]; rfl⟩
  | changed _ _ _ _ change =>
    cases (Wire.Response.isChange_of_completes completes).symm.trans change
  | ignored _ _ _ other => cases other.symm.trans completes

theorem Unagreed.gives_up (unagreed : Unagreed tag completion between beginning)
    (undisturbed : between.any Moment.sendsDone = false)
    (lived : Lived settings (completion :: (between ++ beginning :: earlier)) life) :
    life.run = some (.finishing (.ok .notSupported)) ∧ life.idler.phase = .notSupported := by
  cases lived with
  | step lived step =>
    obtain ⟨round, response, calls, next, _, completes, _, told, stands, works⟩ :=
      unagreed.stands lived step
    rw [phaseIn_of_waits unagreed.waits, undisturbed] at told
    obtain ⟨_, rfl, gave⟩ | ⟨past, _⟩ := works_completion works completes
    · exact ⟨stands, gave⟩
    · exact absurd told past

/-- A run does not give up once `DONE` was sent in the round. -/
theorem Unagreed.goes_on (unagreed : Unagreed tag completion between beginning)
    (disturbed : ∃ moment ∈ between, moment.sendsDone = true)
    (lived : Lived settings (completion :: (between ++ beginning :: earlier)) life) :
    ∃ round response, completion.taken? = some (round, response) ∧
      life.run = some (if response.isSuccess then .deciding round.connection
        else .finishing (.error
          (.protocol ("Received non-OK response to IDLE command: " ++ response.line)))) := by
  cases lived with
  | step lived step =>
    obtain ⟨round, response, calls, next, rfl, completes, _, told, stands, works⟩ :=
      unagreed.stands lived step
    rw [phaseIn_of_waits unagreed.waits, List.any_eq_true.2 disturbed] at told
    obtain ⟨awaiting, _⟩ | ⟨_, rfl⟩ := works_completion works completes
    · cases awaiting.symm.trans told
    · exact ⟨round, response, rfl, stands⟩

end Unagreed

/-- What a run makes of a completion that comes before the server agreed.  It gives up, and for
good, if and only if nobody sent `DONE` in the round by then. -/
structure Concludes (completion : Moment) (between since : List Moment) (life : Life) : Prop where
  /-- `DONE` is sent to begin a fresh round, for a stop, and when a change is taken up. -/
  disturbed : ∀ moment ∈ between, moment.sendsDone = true →
    moment.deed = .refresh ∨ moment.stops = true ∨ moment.hears = true
  undisturbed : (∀ moment ∈ between, moment.sendsDone = false) →
    Returns (.ok .notSupported) since life ∧ life.idler.phase = .notSupported
  /-- After a `DONE`, a completion without success is a failure. -/
  rejected : (∃ moment ∈ between, moment.sendsDone = true) →
    ∀ failure, completion.Rejects failure → Returns (.error failure) since life
  /-- After a `DONE`, a completion with success leads to the next round. -/
  accepted : (∃ moment ∈ between, moment.sendsDone = true) →
    ∀ round response, completion.taken? = some (round, response) → response.isSuccess = true →
      since = [] → life.run = some (.deciding round.connection)

/-- However a run, stops, fresh rounds and late timers come between each other, a completion that
comes before the server agreed is what `Concludes` says. -/
theorem returns_unagreed {settings : Settings} {tag : String} {completion beginning : Moment}
    {since between earlier : List Moment} {life : Life}
    (lived : Lived settings (since ++ completion :: (between ++ beginning :: earlier)) life)
    (unagreed : Unagreed tag completion between beginning) :
    Concludes completion between since life where
  disturbed moment member done := by
    obtain ⟨_, atCompletion⟩ := lived.exists_before
    obtain ⟨_, _, step⟩ := atCompletion.exists_step
      (List.mem_cons_of_mem _ (List.mem_append_left _ member))
    exact ((happens_step step).exists_sendsDone done).1
  undisturbed undisturbed := by
    have none : between.any Moment.sendsDone = false :=
      List.any_eq_false.2 fun moment member => by simp [undisturbed moment member]
    refine ⟨lived.returns fun after atCompletion => ?_,
      lived.phase_notSupported fun after atCompletion => ?_⟩
    · obtain ⟨stands, _⟩ := unagreed.gives_up none atCompletion
      exact ⟨_, stands, rfl, Nat.le_refl _⟩
    · exact (unagreed.gives_up none atCompletion).2
  rejected disturbed failure rejects := by
    refine lived.returns fun after atCompletion => ?_
    obtain ⟨round, response, taken, stands⟩ := unagreed.goes_on disturbed atCompletion
    obtain ⟨_, _, taken', _, failed, rfl⟩ := rejects
    cases taken.symm.trans taken'
    rw [failed] at stands
    exact ⟨_, stands, rfl, Nat.le_refl _⟩
  accepted disturbed round response taken success last := by
    subst last
    obtain ⟨_, _, taken', stands⟩ := unagreed.goes_on disturbed lived
    cases taken'.symm.trans taken
    rwa [success] at stands

/-- A fresh round is asked for as soon as `IDLE` went out, and then the server declines. -/
theorem returns_unagreed_refreshed :
    let round : Round := ⟨0, "A1", false⟩
    let declined : Wire.Response := ⟨.completion "A1" .no, "IDLE not allowed"⟩
    let failure : Failure :=
      .protocol "Received non-OK response to IDLE command: A1 NO IDLE not allowed"
    let completion : Moment := ⟨.work (.handling round declined), []⟩
    let between : List Moment :=
      [⟨.reply (.reading round) (.response (.ok declined)), []⟩,
        ⟨.refresh, [.isConnected 0 true, .restoreTimeout 0 (.ok ()), .sendLine 0 "DONE" (.ok ())]⟩]
    let since : List Moment :=
      [⟨.leave (.error failure), []⟩, ⟨.reply (.closing 0 (.error failure)) .done, []⟩,
        ⟨.work (.finishing (.error failure)), []⟩]
    Lived ⟨"INBOX", 1000⟩ (since ++ completion :: (between ++ begun :: again))
        ⟨⟨.stopped, false, .stopped, none, none⟩, none⟩ ∧
      Unagreed "A1" completion between begun ∧
      Returns (.error failure) since ⟨⟨.stopped, false, .stopped, none, none⟩, none⟩ := by
  intro round declined failure completion between since
  have unagreed : Unagreed "A1" completion between begun := by
    refine ⟨⟨0, List.mem_singleton_self _⟩, ?_, by decide, by decide⟩
    simp [between, Moment.SendsIdle]
  have lived : Lived ⟨"INBOX", 1000⟩ (since ++ completion :: (between ++ begun :: again))
      ⟨⟨.stopped, false, .stopped, none, none⟩, none⟩ := by
    refine @Lived.step _ _ ⟨⟨.stopped, false, .stopped, none, none⟩,
      some (.ended (.error failure))⟩ _ _ ?_ .leave
    refine @Lived.step _ _ ⟨⟨.stopped, false, .stopped, none, none⟩,
      some (.closing 0 (.error failure))⟩ _ _ ?_ (.reply rfl rfl)
    refine @Lived.step _ _ ⟨⟨.sendingDone, false, .stopped, none, some 0⟩,
      some (.finishing (.error failure))⟩ _ _ ?_ (.work rfl nofun (yields_willing rfl rfl))
    refine @Lived.step _ _ ⟨⟨.sendingDone, false, .stopped, none, some 0⟩,
      some (.handling round declined)⟩ _ _ ?_ (.work rfl nofun (yields_willing rfl rfl))
    refine @Lived.step _ _ ⟨⟨.sendingDone, false, .stopped, none, some 0⟩, some (.reading round)⟩
      _ _ ?_ (.reply rfl rfl)
    exact (lived_begun _).step (.refresh (yields_willing rfl rfl))
  refine ⟨lived, unagreed, (returns_unagreed lived unagreed).rejected ?_ failure ?_⟩
  · exact ⟨_, List.mem_cons_of_mem _ List.mem_cons_self, rfl⟩
  · exact ⟨round, declined, rfl, rfl, rfl, rfl⟩

end MailReplica.Idle
