import MailReplica.Proofs.Idle.Result

/-! # A run after a change

A run that has taken up a change goes on to a sync, unless something goes wrong on the way: it has
to see its round completed first if the server had agreed to it (`Life.Heeds`), and has nothing
left to fail of if not (`Life.Synced`).
-/

namespace MailReplica

theorem Wire.Response.not_completes_of_isContinuation {response : Wire.Response} {tag : String}
    (asks : response.isContinuation = true) : response.completes tag = false := by
  obtain ⟨kind, text⟩ := response
  cases kind <;> first | rfl | cases asks

namespace Idle

/-- Whether a run waits for the end of a round that the server agreed to, or finds out what comes
after it. -/
def Point.heeds : Point → Bool
  | preparing round | arming round | armed round _ | releasing round | reading round
  | acquiring round (.ok _) | disarming round (.ok _) | handling round _ => round.granted
  | deciding _ | concluding => true
  | _ => false

/-- What a run is going to return, once it knows. -/
def Point.result? : Point → Option Ending
  | finishing ending | closing _ ending | ended ending => some ending
  | _ => none

/-- A run that met a change goes on to the end of its round. -/
structure Life.Heeds (life : Life) : Prop where
  stop : life.idler.stopRequested = true
  sync : life.idler.outcome = .sync
  point : ∃ point, life.run = some point ∧ point.heeds = true

/-- A run is about to return a sync. -/
def Life.Synced (life : Life) : Prop :=
  ∃ point, life.run = some point ∧ point.result? = some (.ok .sync)

/-- A run is about to return a failure. -/
def Life.Fails (life : Life) (failure : Failure) : Prop :=
  ∃ point, life.run = some point ∧ point.failure? = some failure

@[simp]
theorem heeds_next (round : Round) : (Point.next round).heeds = round.granted :=
  Point.apply_next rfl rfl

section Trouble

variable {moment : Moment}

theorem Moment.not_failsWith (reply : moment.replyFailure? = none)
    (calls : ∀ call ∈ moment.calls, call.failure? = none)
    (taken : ∀ round response, moment.taken? = some (round, response) →
      response.completes round.tag = true → response.isSuccess = true) (failure : Failure) :
    ¬ moment.FailsWith failure := by
  rintro ((replied | ⟨call, member, failed⟩) | ⟨round, response, own, completes, bad, _⟩)
  · cases reply.symm.trans replied
  · cases (calls call member).symm.trans failed
  · cases (taken round response own completes).symm.trans bad

/-- Where nothing is taken up, only calls can fail. -/
theorem Moment.fine (reply : moment.replyFailure? = none)
    (calls : ∀ call ∈ moment.calls, call.failure? = none) (untaken : moment.taken? = none) :
    ∀ failure, ¬ moment.FailsWith failure := by
  refine Moment.not_failsWith reply calls fun round response taken => ?_
  cases untaken.symm.trans taken

theorem SendsDone.failure?_eq {before after : Idler} {calls : List Exchange}
    (sends : SendsDone before after calls) : ∀ call ∈ calls, call.failure? = none := by
  cases sends with
  | unfit => exact List.forall_mem_nil _
  | gone => exact List.forall_mem_singleton.2 rfl
  | sent =>
    intro call member
    obtain rfl | member := List.mem_cons.1 member
    · rfl
    · obtain member | member := List.mem_append.1 member
      · obtain ⟨timer, _, rfl⟩ := List.mem_map.1 member
        rfl
      · obtain rfl | rfl : call = _ ∨ call = _ := by simpa using member
        all_goals rfl

theorem failure?_cancelTimer (timers : List TimerId) :
    ∀ call ∈ timers.map Exchange.cancelTimer, call.failure? = none := by
  intro call member
  obtain ⟨timer, _, rfl⟩ := List.mem_map.1 member
  rfl

end Trouble

section Step

variable {settings : Settings} {life after : Life} {moment : Moment} {failure : Failure}

theorem resumes_heeds {point next : Point} {reply : Reply} (resumes : Resumes point reply next)
    (heeds : point.heeds = true) :
    let moment : Moment := ⟨.reply point reply, []⟩
    next.heeds = true ∧ moment.replyFailure? = none ∨
      ∃ failure, moment.replyFailure? = some failure ∧ next.failure? = some failure := by
  cases resumes with
  | timed | released => exact .inl ⟨heeds, rfl⟩
  | woken round response =>
    cases response with
    | ok => exact .inl ⟨heeds, rfl⟩
    | error failure => exact .inr ⟨failure, rfl, rfl⟩
  | acquired round response =>
    cases response with
    | ok => exact .inl ⟨heeds, rfl⟩
    | error => cases heeds
  | read _ _ ungranted | unread _ _ ungranted => cases ungranted.symm.trans heeds
  | _ => cases heeds

theorem works_heeds {before after : Idler} {point next : Point} {calls : List Exchange}
    (works : Works settings before point next after calls) (fits : before.phase ∈ point.phases)
    (stop : before.stopRequested = true) (sync : before.outcome = .sync)
    (heeds : point.heeds = true) :
    let moment : Moment := ⟨.work point, calls⟩
    after.stopRequested = true ∧ after.outcome = .sync ∧
      ((next.heeds = true ∨ next.result? = some (.ok .sync)) ∧
          (∀ failure, ¬ moment.FailsWith failure) ∨
        ∃ failure, moment.FailsWith failure ∧ next.failure? = some failure) := by
  cases works with
  | arms | rests | armed | ends =>
    exact ⟨stop, sync, .inl ⟨.inl heeds, Moment.fine rfl (List.forall_mem_nil _) rfl⟩⟩
  | disarmed =>
    exact ⟨stop, sync, .inl ⟨.inl heeds, Moment.fine rfl (failure?_cancelTimer _) rfl⟩⟩
  | granted _ _ _ awaiting | unset _ _ _ _ awaiting | declined _ _ _ awaiting =>
    -- The server has agreed to the round already, and is awaited no more.
    obtain here | ⟨_, here⟩ | ⟨ungranted, _⟩ := mem_phases_handling fits
    · cases awaiting.symm.trans here
    · cases awaiting.symm.trans here
    · cases ungranted.symm.trans heeds
  | late round response asks =>
    refine ⟨stop, sync, .inl ⟨.inl (heeds_next _), ?_⟩⟩
    refine Moment.not_failsWith rfl (List.forall_mem_nil _) ?_
    rintro _ _ ⟨⟩ completes
    cases (Wire.Response.not_completes_of_isContinuation asks).symm.trans completes
  | completed round response _ success =>
    refine ⟨stop, sync, .inl ⟨.inl rfl, ?_⟩⟩
    refine Moment.not_failsWith rfl (List.forall_mem_nil _) ?_
    rintro _ _ ⟨⟩ _
    exact success
  | failed round response completes success =>
    exact ⟨stop, sync, .inr ⟨_, .inr ⟨round, response, rfl, completes, success, rfl⟩, rfl⟩⟩
  | ignored round response _ completes =>
    refine ⟨stop, sync, .inl ⟨.inl ((heeds_next round).trans heeds), ?_⟩⟩
    refine Moment.not_failsWith rfl (List.forall_mem_nil _) ?_
    rintro _ _ ⟨⟩ completed
    cases completes.symm.trans completed
  | changed _ _ _ _ _ go | proceeds _ go => cases go.symm.trans stop
  | concludes =>
    refine ⟨stop, sync, .inl ⟨.inr ?_, Moment.fine rfl (List.forall_mem_nil _) rfl⟩⟩
    rw [sync]
    rfl
  | _ => cases heeds

/-- The steps of a run that met a change lead it on, or to a sync, or something goes wrong in
them. -/
theorem happens_heeds (happens : Happens settings life moment after) (inStep : life.InStep)
    (heeds : life.Heeds) :
    (after.Heeds ∨ after.Synced) ∧ (∀ failure, ¬ moment.FailsWith failure) ∨
      ∃ failure, moment.FailsWith failure ∧ after.Fails failure := by
  obtain ⟨stop, sync, point, stands, heeds⟩ := heeds
  cases happens with
  | enter => cases stands
  | leave =>
    cases stands
    cases heeds
  | refuse =>
    exact .inl ⟨.inl ⟨stop, sync, point, stands, heeds⟩,
      Moment.fine rfl (List.forall_mem_nil _) rfl⟩
  | stop _ sends =>
    exact .inl ⟨.inl ⟨sends.stopRequested_eq, sends.outcome_eq.trans sync, point, stands, heeds⟩,
      Moment.fine rfl sends.failure?_eq rfl⟩
  | refresh _ sends =>
    exact .inl ⟨.inl ⟨sends.stopRequested_eq.trans stop, sends.outcome_eq.trans sync, point,
      stands, heeds⟩, Moment.fine rfl sends.failure?_eq rfl⟩
  | reply _ resumes =>
    cases stands
    obtain ⟨on, replied⟩ | ⟨failure, failed, fails⟩ := resumes_heeds resumes heeds
    · exact .inl ⟨.inl ⟨stop, sync, _, rfl, on⟩,
        Moment.fine replied (List.forall_mem_nil _) rfl⟩
    · exact .inr ⟨failure, .inl (.inl failed), _, rfl, fails⟩
  | work works =>
    cases stands
    obtain ⟨stop, sync, ⟨on | synced, fine⟩ | ⟨failure, failed, fails⟩⟩ :=
      works_heeds works inStep.phase stop sync heeds
    · exact .inl ⟨.inl ⟨stop, sync, _, rfl, on⟩, fine⟩
    · exact .inl ⟨.inr ⟨_, rfl, synced⟩, fine⟩
    · exact .inr ⟨failure, failed, _, rfl, fails⟩

/-- Nothing goes wrong any more once a run ends with a sync, and it returns the sync. -/
theorem happens_synced (happens : Happens settings life moment after) (synced : life.Synced) :
    (∀ failure, ¬ moment.FailsWith failure) ∧
      (after.Synced ∨ moment.deed = .leave (.ok .sync) ∧ after.run = none) := by
  obtain ⟨point, stands, synced⟩ := synced
  cases happens with
  | enter => cases stands
  | leave _ ending =>
    cases stands
    cases synced
    exact ⟨Moment.fine rfl (List.forall_mem_nil _) rfl, .inr ⟨rfl, rfl⟩⟩
  | refuse =>
    exact ⟨Moment.fine rfl (List.forall_mem_nil _) rfl, .inl ⟨point, stands, synced⟩⟩
  | stop _ sends | refresh _ sends =>
    exact ⟨Moment.fine rfl sends.failure?_eq rfl, .inl ⟨point, stands, synced⟩⟩
  | reply _ resumes =>
    cases stands
    cases resumes with
    | closed =>
      exact ⟨Moment.fine rfl (List.forall_mem_nil _) rfl, .inl ⟨_, rfl, synced⟩⟩
    | _ => cases synced
  | work works =>
    cases stands
    cases works with
    | finishes ending phase next _ next_eq =>
      refine ⟨Moment.fine rfl (failure?_cancelTimer _) rfl, .inl ⟨_, rfl, ?_⟩⟩
      subst next_eq
      split <;> exact synced
    | _ => cases synced

theorem happens_fails (happens : Happens settings life moment after) (fails : life.Fails failure) :
    after.Fails failure ∨ moment.deed = .leave (.error failure) ∧ after.run = none := by
  obtain ⟨point, stands, fails⟩ := fails
  cases happens with
  | enter => cases stands
  | leave _ ending =>
    cases stands
    cases ending with
    | ok => cases fails
    | error =>
      cases fails
      exact .inr ⟨rfl, rfl⟩
  | refuse | stop | refresh => exact .inl ⟨point, stands, fails⟩
  | reply _ resumes =>
    cases stands
    refine .inl ⟨_, rfl, ?_⟩
    cases resumes with
    | acquired _ response => cases response <;> exact fails
    | closed _ ending => cases ending <;> exact fails
    | _ => cases fails
  | work works =>
    cases stands
    refine .inl ⟨_, rfl, ?_⟩
    cases works with
    | broken => exact fails
    | finishes ending _ _ _ next_eq =>
      subst next_eq
      cases ending with
      | ok => cases fails
      | error => split <;> exact fails
    | _ => cases fails

theorem happens_still (happens : Happens settings life moment after) (still : life.run = none) :
    ∀ failure, ¬ moment.FailsWith failure := by
  cases happens with
  | work | reply | leave => cases still
  | enter | refuse => exact Moment.fine rfl (List.forall_mem_nil _) rfl
  | stop _ sends | refresh _ sends => exact Moment.fine rfl sends.failure?_eq rfl

end Step

/-- A run that takes up a change before any stop heeds it: to the end of the round if the server had
agreed to it, and at once if not. -/
theorem Lived.heeds_of_hears {settings : Settings} {past : List Moment} {life : Life}
    {moment : Moment} {round : Round} {response : Wire.Response}
    (lived : Lived settings (moment :: past) life)
    (unstopped : ∀ earlier ∈ past, earlier.stops = false)
    (taken : moment.taken? = some (round, response)) (change : response.isChange = true) :
    if round.granted then life.Heeds else life.Synced := by
  have hears : moment.hears = true := by simp [Moment.hears, taken, change]
  have clears : moment.clears = false := by
    obtain ⟨deed, calls⟩ := moment
    cases deed with
    | work point => cases point <;> first | rfl | cases taken
    | _ => rfl
  have inStep := lived.inStep
  have first : Precedes Moment.hears Moment.stops (sinceCleared (moment :: past)) := by
    rw [sinceCleared_cons, clears]
    refine precedes_cons.2 (.inr ⟨hears, fun earlier member => unstopped earlier ?_⟩)
    exact (List.takeWhile_subset _) member
  have stop : life.idler.stopRequested = true := by
    rw [lived.stopRequested_eq, sinceCleared_cons, clears]
    simp [hears]
  have synced (active : life.active = true) : life.idler.outcome = .sync :=
    (lived.outcome_iff active).2 first
  obtain ⟨connection, tag, granted⟩ := round
  cases lived with
  | step lived step =>
    cases happens_step step with
    | work works =>
      cases works with
      | changed =>
        cases taken
        cases granted with
        | true => exact ⟨stop, synced rfl, .preparing ⟨connection, tag, true⟩, rfl, rfl⟩
        | false => exact ⟨.finishing (.ok .sync), rfl, rfl⟩
      | ignored =>
        cases taken
        cases granted with
        | true => exact ⟨stop, synced rfl, .preparing ⟨connection, tag, true⟩, rfl, rfl⟩
        | false =>
          -- Nothing is noted before the server agreed, so this was the first change.
          cases (mem_quiet.1 inStep.noted).symm.trans (synced rfl)
      | granted _ _ asks | unset _ _ _ asks | late _ _ asks =>
        cases taken
        cases (Wire.Response.isChange_of_isContinuation asks).symm.trans change
      | declined _ _ completes | completed _ _ completes | failed _ _ completes =>
        cases taken
        cases (Wire.Response.isChange_of_completes completes).symm.trans change
      | _ => cases taken
    | _ => cases taken

end Idle

end MailReplica
