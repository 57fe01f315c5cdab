import MailReplica.Proofs.Idle.Clockwork
import MailReplica.Proofs.Idle.Limit

/-! # The round that a timer ends

A timer asks for a fresh round of whatever round there is.  It was started in that round, unless it
had been decided already that it fires as the round began: then it was cancelled too late, and ends
a round that is none of its own (`ends_own_round_iff`).
-/

namespace MailReplica.Idle

open Timer (Manager)

def Tick.SendsIdle (tick : Tick) : Prop :=
  ∃ moment, tick.moment? = some moment ∧ moment.SendsIdle

/-- It is decided that a timer fires. -/
def Fires (manager : Manager) (timer : TimerId) : Prop :=
  ∃ alarm, manager.alarm? timer = some alarm ∧ alarm.verdict = some true

section Fires

variable {settings : Settings} {past : List Tick} {clock after : Clockwork} {timer : TimerId}
  {calls : List Exchange}

theorem exists_latest {kind : Tick → Prop} (any : ∃ tick ∈ past, kind tick) :
    ∃ since tick earlier, past = since ++ tick :: earlier ∧ kind tick ∧
      ∀ other ∈ since, ¬ kind other := by
  induction past with
  | nil =>
    obtain ⟨_, member, _⟩ := any
    cases member
  | cons latest past ih =>
    by_cases is : kind latest
    · exact ⟨[], latest, past, rfl, is, List.forall_mem_nil _⟩
    · obtain ⟨tick, member, is'⟩ := any
      obtain rfl | member := List.mem_cons.1 member
      · exact absurd is' is
      · obtain ⟨since, tick, earlier, rfl, is', none⟩ := ih ⟨tick, member, is'⟩
        exact ⟨latest :: since, tick, earlier, rfl, is', List.forall_mem_cons.2 ⟨is, none⟩⟩

/-- Where `DONE` is sent, `IDLE` was sent before. -/
theorem Clocked.exists_sendsIdle (clocked : Clocked settings past clock)
    (may : clock.life.idler.phase.acceptsDone = true) : ∃ tick ∈ past, tick.SendsIdle := by
  obtain ⟨moment, member, sends⟩ := clocked.lived.exists_sendsIdle may
  obtain ⟨tick, member, is⟩ := List.mem_filterMap.1 member
  exact ⟨tick, member, moment, is, sends⟩

section SendsIdle

variable {sent : Tick}

/-- Nobody holds a timer as `IDLE` is sent. -/
theorem Clocked.not_holds (clocked : Clocked settings past clock)
    (ticks : Ticks settings clock sent after) (sends : sent.SendsIdle) :
    ¬ clock.life.Holds timer := by
  obtain ⟨moment, is, connection, answer, sends⟩ := sends
  obtain ⟨own, is', step⟩ | ⟨none, _⟩ := ticks.life
  · cases is.symm.trans is'
    exact clocked.lived.not_holds ((happens_step step).sendsIdle sends).1 timer
  · cases none.symm.trans is

theorem Ticks.started?_of_sendsIdle (ticks : Ticks settings clock sent after)
    (sends : sent.SendsIdle) : sent.started? = none := by
  obtain ⟨moment, is, connection, answer, sends⟩ := sends
  obtain ⟨own, is', step⟩ | ⟨none, _⟩ := ticks.life
  · cases is.symm.trans is'
    rw [Tick.started?, is, Option.bind_some]
    refine Option.eq_none_iff_forall_ne_some.2 fun timer started => ?_
    rw [step.calls_of_started started] at sends
    cases sends
  · cases none.symm.trans is

end SendsIdle

end Fires

/-! ### A timer that is cancelled too late -/

namespace Late

/-- The time of the first round's timer is over just before the server ends the round; the timer
leaves the armed ones only after the next round began. -/
def ticks : List Tick :=
  let round : Round := ⟨0, "A1", false⟩
  let agreed : Round := ⟨0, "A1", true⟩
  let grant : Wire.Response := ⟨.continuation, "idling"⟩
  let completion : Wire.Response := ⟨.completion "A1" .ok, "IDLE terminated"⟩
  [.turns 0 false,
    .idler begun,
    .idler ⟨.work (.deciding 0), []⟩,
    .idler ⟨.work (.handling agreed completion), []⟩,
    .idler ⟨.work (.disarming agreed (.ok completion)), [.cancelTimer 0]⟩,
    .idler ⟨.reply (.acquiring agreed (.ok completion)) .done, []⟩,
    .idler ⟨.reply (.reading agreed) (.response (.ok completion)), []⟩,
    .turns 0 true,
    .idler ⟨.reply (.releasing agreed) .done, []⟩,
    .idler ⟨.work (.armed agreed 0), []⟩,
    .idler ⟨.reply (.arming agreed) (.timer 0), []⟩,
    .idler ⟨.work (.preparing agreed), []⟩,
    .idler ⟨.work (.handling round grant), [.setTimeout 0 121000 (.ok ())]⟩,
    .idler ⟨.reply (.reading round) (.response (.ok grant)), []⟩] ++ (begun :: again).map .idler

/-- The timer sends `DONE`. -/
def calls : List Exchange :=
  [.isConnected 0 true, .restoreTimeout 0 (.ok ()), .sendLine 0 "DONE" (.ok ())]

def started : Manager :=
  Manager.empty.start.2

def elapsed : Manager :=
  started.step true 0

def acting : Manager :=
  (elapsed.cancel 0).step false 0

abbrev Here (past : List Tick) (clock : Clockwork) : Prop :=
  Clocked ⟨"INBOX", 1000⟩ past clock

theorem goes (idler : Idler) (point : Point) (manager : Manager) {past : List Tick}
    {moment : Moment} {after : Life} (step : Step ⟨"INBOX", 1000⟩ ⟨idler, some point⟩ moment after)
    (numbered : ∀ timer, moment.started? = some timer → timer = manager.next)
    (here : Here past ⟨⟨idler, some point⟩, manager, []⟩) :
    Here (.idler moment :: past) ⟨after, moment.onTimers manager, []⟩ :=
  here.step (.idler step numbered)

theorem here_begun :
    Here ((begun :: again).map .idler)
      ⟨⟨⟨.awaitingContinuation, false, .stopped, none, some 0⟩, some (.reading ⟨0, "A1", false⟩)⟩,
        .empty, []⟩ := by
  refine goes ⟨.capabilityCheck, false, .stopped, none, some 0⟩ (.starting 0) .empty
    (.work rfl nofun (yields_willing rfl rfl)) nofun ?_
  refine goes ⟨.capabilityCheck, false, .stopped, none, some 0⟩ (.checking 0) .empty
    (.reply rfl rfl) nofun ?_
  refine goes ⟨.capabilityCheck, false, .stopped, none, some 0⟩ (.opening 0) .empty
    (.reply rfl rfl) nofun ?_
  refine goes ⟨.capabilityCheck, false, .stopped, none, none⟩ (.connected 0) .empty
    (.work rfl nofun (yields_willing rfl rfl)) nofun ?_
  refine goes ⟨.capabilityCheck, false, .stopped, none, none⟩ .connecting .empty
    (.reply rfl rfl) nofun ?_
  exact .step .new (.idler (.enter (yields_willing rfl rfl)) nofun)

theorem here_ticks :
    Here ticks
      ⟨⟨⟨.awaitingContinuation, false, .stopped, none, some 0⟩, some (.reading ⟨0, "A1", false⟩)⟩,
        acting, []⟩ := by
  let round : Round := ⟨0, "A1", false⟩
  let agreed : Round := ⟨0, "A1", true⟩
  let grant : Wire.Response := ⟨.continuation, "idling"⟩
  let completion : Wire.Response := ⟨.completion "A1" .ok, "IDLE terminated"⟩
  let awaiting : Idler := ⟨.awaitingContinuation, false, .stopped, none, some 0⟩
  let idling : Idler := ⟨.inIdle, false, .stopped, none, some 0⟩
  let timed : Idler := ⟨.inIdle, false, .stopped, some 0, some 0⟩
  let told : Manager := elapsed.cancel 0
  refine @Clocked.step _ _ ⟨⟨awaiting, some (.reading round)⟩, told, []⟩ _ _ ?_ (.turns nofun)
  refine goes idling (.starting 0) told (.work rfl nofun (yields_willing rfl rfl)) nofun ?_
  refine goes idling (.deciding 0) told (.work rfl nofun (yields_willing rfl rfl)) nofun ?_
  refine goes idling (.handling agreed completion) told
    (.work rfl nofun (yields_willing rfl rfl)) nofun ?_
  refine goes timed (.disarming agreed (.ok completion)) elapsed
    (.work rfl nofun (yields_willing rfl rfl)) nofun ?_
  refine goes timed (.acquiring agreed (.ok completion)) elapsed (.reply rfl rfl) nofun ?_
  refine goes timed (.reading agreed) elapsed (.reply rfl rfl) nofun ?_
  refine @Clocked.step _ _ ⟨⟨timed, some (.reading agreed)⟩, started, []⟩ _ _ ?_ (.turns nofun)
  refine goes timed (.releasing agreed) started (.reply rfl rfl) nofun ?_
  refine goes idling (.armed agreed 0) started (.work rfl nofun (yields_willing rfl rfl)) nofun ?_
  refine goes idling (.arming agreed) .empty (.reply rfl rfl) (fun _ same => ?_) ?_
  · cases same
    rfl
  refine goes idling (.preparing agreed) .empty (.work rfl nofun (yields_willing rfl rfl)) nofun ?_
  refine goes awaiting (.handling round grant) .empty
    (.work rfl nofun (yields_willing rfl rfl)) nofun ?_
  refine goes awaiting (.reading round) .empty (.reply rfl rfl) nofun ?_
  exact here_begun

end Late

/-- However a run, stops, fresh rounds and the steps of the timers come between each other: a timer
that sends `DONE` was started in the round that it ends, after `IDLE` was sent last, if and only if
it was not decided already by then that it fires.  Otherwise it was started in an earlier round, and
cancelled there too late. -/
theorem ends_own_round_iff {settings : Settings} {past : List Tick} {clock : Clockwork}
    {timer : TimerId} {calls : List Exchange}
    (clocked : Clocked settings (.fires timer calls :: past) clock)
    (done : calls.any Exchange.isDone = true) :
    ∃ since sent earlier before, past = since ++ sent :: earlier ∧ sent.SendsIdle ∧
      (∀ tick ∈ since, ¬ tick.SendsIdle) ∧ Clocked settings earlier before ∧
      ((∃ tick ∈ since, tick.started? = some timer) ↔ ¬ Fires before.manager timer) ∧
      (Fires before.manager timer →
        (∃ tick ∈ earlier, tick.started? = some timer) ∧
          ∃ tick ∈ earlier, tick.Cancels timer) := by
  cases clocked with
  | step clocked ticks =>
    cases ticks with
    | @fires _ _ _ _ _ signals _ acts step =>
      obtain ⟨since, sent, earlier, rfl, sends, last⟩ :=
        exists_latest (clocked.exists_sendsIdle ((happens_step step).acceptsDone done))
      obtain ⟨before, after, clocked, ticks, passed⟩ := clocked.passed
      refine ⟨since, sent, earlier, before, rfl, sends, last, clocked, ⟨?_, fun not => ?_⟩, ?_⟩
      · -- A timer that is started later has a number of its own.
        rintro ⟨tick, member, started⟩ ⟨alarm, found, _⟩
        have unused := passed.fresh tick (List.mem_append_left _ member) timer started
        cases (clocked.numbered timer unused).symm.trans found
      · obtain ⟨tick, member, started⟩ | ⟨alarm, found⟩ := passed.found timer _ acts
        · obtain member | member := List.mem_append.1 member
          · exact ⟨tick, member, started⟩
          · rw [List.mem_singleton.1 member, ticks.started?_of_sendsIdle sends] at started
            cases started
        · -- A timer that is not to fire does not fire later.
          match verdict : alarm.verdict with
          | none =>
            exact absurd (clocked.holds_of_undecided found verdict)
              (clocked.not_holds ticks sends)
          | some true => exact absurd ⟨alarm, found, verdict⟩ not
          | some false =>
            obtain ⟨later, found, settled⟩ := passed.settled timer alarm found verdict
            cases found.symm.trans acts
            cases settled
      · rintro ⟨alarm, found, _⟩
        exact ⟨clocked.started found,
          (clocked.holds_or_cancelled found).resolve_left (clocked.not_holds ticks sends)⟩

/-- A timer that was cancelled too late ends the round after its own. -/
theorem ends_own_round_iff_late :
    Clocked ⟨"INBOX", 1000⟩ (.fires 0 Late.calls :: Late.ticks)
        ⟨⟨⟨.sendingDone, false, .stopped, none, some 0⟩, some (.reading ⟨0, "A1", false⟩)⟩,
          Late.acting.step false 0, []⟩ ∧
      Late.calls.any Exchange.isDone = true ∧
      ∃ before, Clocked ⟨"INBOX", 1000⟩ (Late.ticks.drop 2) before ∧ Fires before.manager 0 ∧
        (∃ tick ∈ Late.ticks.drop 2, tick.started? = some 0) ∧
        ∃ tick ∈ Late.ticks.drop 2, tick.Cancels 0 := by
  have fired : Clocked ⟨"INBOX", 1000⟩ (.fires 0 Late.calls :: Late.ticks)
      ⟨⟨⟨.sendingDone, false, .stopped, none, some 0⟩, some (.reading ⟨0, "A1", false⟩)⟩,
        Late.acting.step false 0, []⟩ :=
    Late.here_ticks.step (.fires rfl (.refresh (yields_willing rfl rfl)))
  refine ⟨fired, rfl, ?_⟩
  obtain ⟨since, sent, earlier, before, split, sends, last, clocked, own, late⟩ :=
    ends_own_round_iff fired rfl
  -- The last `IDLE` is the one before the last step.
  match since with
  | [] =>
    cases split
    obtain ⟨_, is, _⟩ := sends
    cases is
  | [_] =>
    cases split
    have fires : Fires before.manager 0 := by
      by_contra not
      obtain ⟨tick, member, started⟩ := own.2 not
      cases List.mem_singleton.1 member
      cases started
    exact ⟨before, clocked, fires, late fires⟩
  | _ :: second :: _ =>
    have same : .idler begun = second := (List.cons.inj (List.cons.inj split).2).1
    refine absurd ⟨begun, rfl, 0, _, List.mem_singleton_self _⟩ (last (.idler begun) ?_)
    exact List.mem_cons_of_mem _ (same ▸ List.mem_cons_self)

end MailReplica.Idle
