import MailReplica.Proofs.Idle.Change
import MailReplica.Proofs.Push.Life

/-! # What a pusher tells of a change

A pusher calls for a run of its idler again and again, and tells what the runs come to.  If nobody
stops it, it tells one event of a run that met a change before it calls for the next one: the
change, unless something goes wrong for the run after it met the change.  Then it tells what went
wrong, and nothing of the change (`change_told`).  A change is safe if it is met before the server
agreed to the round, since the run ends at once then.
-/

namespace MailReplica.Push

open Idle (Settings yields_willing)

/-! ## After a change -/

/-- What a pusher is going to tell of a run that goes on and that met a change in a round. -/
inductive Comes (round : Idle.Round) (life : Idle.Life) : Event → Prop
  | heeds (granted : round.granted = true) (heeds : life.Heeds) : Comes round life .changed
  | synced (synced : life.Synced) : Comes round life .changed
  | fails {failure : Failure} (fails : life.Fails failure) : Comes round life (.failed failure)

/-- What a pusher is going to tell of a run that met a change in a round. -/
inductive Owes (round : Idle.Round) : Watch → Event → Prop
  | running {pusher : Pusher} {signal : Bool} {life : Idle.Life} {event : Event}
      (runs : pusher.point = .running) (comes : Comes round life event) :
      Owes round ⟨pusher, signal, life⟩ event
  | met {pusher : Pusher} {signal : Bool} {life : Idle.Life} (still : life.run = none)
      (here : pusher.point = .met) : Owes round ⟨pusher, signal, life⟩ .changed
  | failing {pusher : Pusher} {signal : Bool} {life : Idle.Life} {failure : Failure}
      (still : life.run = none) (here : pusher.point = .failing failure) :
      Owes round ⟨pusher, signal, life⟩ (.failed failure)
  | telling {pusher : Pusher} {signal : Bool} {life : Idle.Life} {event : Event}
      (still : life.run = none) (here : pusher.point = .telling event) :
      Owes round ⟨pusher, signal, life⟩ event

/-- Whether a pusher has nothing to tell before its next run. -/
def Point.rests : Point → Bool
  | looking | running | waiting _ | ended => true
  | _ => false

/-- A pusher has told what there was to tell of the last run. -/
structure Watch.Rests (watch : Watch) : Prop where
  still : watch.life.run = none
  point : watch.pusher.point.rests = true

theorem Comes.run {round : Idle.Round} {life : Idle.Life} {event : Event}
    (comes : Comes round life event) : ∃ point, life.run = some point := by
  cases comes with
  | heeds _ heeds => exact heeds.point.imp fun _ stands => stands.1
  | synced synced => exact synced.imp fun _ stands => stands.1
  | fails fails => exact fails.imp fun _ stands => stands.1

section Step

variable {settings : Settings} {round : Idle.Round} {event : Event}

theorem after_of_run {pusher : Pusher} {before after : Idle.Life} {moment : Idle.Moment}
    (step : Idle.Step settings before moment after) (same : moment.deed.isCall = false)
    (runs : ∃ point, after.run = some point) : pusher.after moment.deed = pusher := by
  obtain ⟨point, stands⟩ := runs
  cases step with
  | enter | refuse => cases same
  | leave => cases stands
  | work | reply | stop | refresh => rfl

/-- While no run goes on, none begins or returns without a call. -/
theorem after_of_still {pusher : Pusher} {before after : Idle.Life} {moment : Idle.Moment}
    (step : Idle.Step settings before moment after) (same : moment.deed.isCall = false)
    (still : before.run = none) : pusher.after moment.deed = pusher ∧ after.run = none := by
  cases step with
  | enter | refuse => cases same
  | work | reply | leave => cases still
  | stop | refresh => exact ⟨rfl, still⟩

/-- A run comes to what it came to before and the pusher takes it in the end, unless something goes
wrong now. -/
theorem owes_of_comes {pusher : Pusher} {signal : Bool} {before after : Idle.Life}
    {moment : Idle.Moment} (step : Idle.Step settings before moment after) (inStep : before.InStep)
    (same : moment.deed.isCall = false) (runs : pusher.point = .running)
    (comes : Comes round before event) :
    Owes round ⟨pusher.after moment.deed, signal, after⟩ event ∧
        (event = .changed → ∀ failure, ¬ moment.FailsWith failure) ∨
      event = .changed ∧ round.granted = true ∧ ∃ failure, moment.FailsWith failure ∧
        Owes round ⟨pusher.after moment.deed, signal, after⟩ (.failed failure) := by
  have happens := Idle.happens_step step
  have stays {event : Event} (comes : Comes round after event) :
      Owes round ⟨pusher.after moment.deed, signal, after⟩ event := by
    rw [after_of_run step same comes.run]
    exact .running runs comes
  cases comes with
  | heeds granted heeds =>
    obtain ⟨heeds | synced, fine⟩ | ⟨failure, failed, fails⟩ :=
      Idle.happens_heeds happens inStep heeds
    · exact .inl ⟨stays (.heeds granted heeds), fun _ => fine⟩
    · exact .inl ⟨stays (.synced synced), fun _ => fine⟩
    · exact .inr ⟨rfl, granted, failure, failed, stays (.fails fails)⟩
  | synced synced =>
    obtain ⟨fine, synced | ⟨returns, still⟩⟩ := Idle.happens_synced happens synced
    · exact .inl ⟨stays (.synced synced), fun _ => fine⟩
    · -- The run returns, and the pusher has met a change.
      refine .inl ⟨.met still ?_, fun _ => fine⟩
      simp only [Pusher.after, returns, Idle.Deed.returns?, Pusher.take, runs]
  | fails fails =>
    refine .inl ⟨?_, nofun⟩
    obtain fails | ⟨returns, still⟩ := Idle.happens_fails happens fails
    · exact stays (.fails fails)
    · refine .failing still ?_
      simp only [Pusher.after, returns, Idle.Deed.returns?, Pusher.take, runs]

variable {watch after : Watch} {moment : Moment}

/-- A pusher tells what it owes, or goes on owing it, or owes a failure from now on. -/
theorem owes_step (step : Step settings watch moment after) (inStep : watch.life.InStep)
    (quiet : watch.signal = false) (same : moment.isCall = false) (owes : Owes round watch event) :
    (moment = .tell event ∧ after.Rests) ∨
      moment.told? = none ∧
        (Owes round after event ∧ (event = .changed → ∀ failure, ¬ moment.FailsWith failure) ∨
          event = .changed ∧ round.granted = true ∧
            ∃ failure, moment.FailsWith failure ∧ Owes round after (.failed failure)) := by
  cases step with
  | idler step own =>
    refine .inr ⟨rfl, ?_⟩
    simp only [Moment.failsWith_idler]
    cases owes with
    | running runs comes => exact owes_of_comes step inStep same runs comes
    | met still here | failing still here | telling still here =>
      have fine := Idle.happens_still (Idle.happens_step step) still
      obtain ⟨stays, still⟩ := after_of_still step same still
      rw [stays]
      refine .inl ⟨?_, fun _ => fine⟩
      first | exact .met still here | exact .failing still here | exact .telling still here
  | @look pusher signal life =>
    obtain rfl : signal = false := quiet
    refine .inr ⟨rfl, .inl ⟨?_, fun _ => Moment.not_failsWith rfl⟩⟩
    cases owes with
    | running runs comes =>
      rw [look_eq runs]
      exact .running runs comes
    | met still here | failing still here | telling still here =>
      exact .telling still (by simp [Pusher.look, here])
  | tell tells =>
    cases owes with
    | running here | met _ here | failing _ here => cases tells.symm.trans here
    | telling still here =>
      cases tells.symm.trans here
      refine .inl ⟨rfl, still, ?_⟩
      cases event <;> simp only [Pusher.told, here] <;> rfl
  | wake =>
    refine .inr ⟨rfl, .inl ⟨?_, fun _ => Moment.not_failsWith rfl⟩⟩
    cases owes with
    | running runs comes =>
      rw [wake_eq runs]
      exact .running runs comes
    | met still here => exact .met still (by simp only [Pusher.wake, here])
    | failing still here => exact .failing still (by simp only [Pusher.wake, here])
    | telling still here => exact .telling still (by simp only [Pusher.wake, here])
  | signal =>
    refine .inr ⟨rfl, .inl ⟨?_, fun _ => Moment.not_failsWith rfl⟩⟩
    cases owes with
    | running runs comes => exact .running runs comes
    | met still here => exact .met still here
    | failing still here => exact .failing still here
    | telling still here => exact .telling still here

/-- A pusher that has told what there was to tell tells nothing more before it calls for a run. -/
theorem rests_step (step : Step settings watch moment after) (same : moment.isCall = false)
    (rests : watch.Rests) :
    after.Rests ∧ moment.told? = none ∧ ∀ failure, ¬ moment.FailsWith failure := by
  obtain ⟨still, point⟩ := rests
  cases step with
  | idler step own =>
    obtain ⟨stays, ended⟩ := after_of_still step same still
    simp only [Moment.failsWith_idler]
    refine ⟨⟨ended, ?_⟩, rfl, Idle.happens_still (Idle.happens_step step) still⟩
    rw [stays]
    exact point
  | @look pusher signal =>
    refine ⟨⟨still, ?_⟩, rfl, Moment.not_failsWith rfl⟩
    obtain ⟨here, backoff⟩ := pusher
    cases here <;> cases signal <;> first | rfl | cases point
  | @tell pusher _ _ _ tells =>
    rw [tells] at point
    cases point
  | @wake pusher signal =>
    refine ⟨⟨still, ?_⟩, rfl, Moment.not_failsWith rfl⟩
    obtain ⟨here, backoff⟩ := pusher
    cases here <;> cases signal <;> first | rfl | cases point
  | signal => exact ⟨⟨still, point⟩, rfl, Moment.not_failsWith rfl⟩

end Step

/-! ## One event for each change -/

/-- Whether an event is the one to tell of a run that met a change in a round, by what has happened
since. -/
def Due (round : Idle.Round) (since : List Moment) : Event → Prop
  | .changed => ∀ moment ∈ since, ∀ failure, ¬ moment.FailsWith failure
  | .failed failure => round.granted = true ∧ ∃ moment ∈ since, moment.FailsWith failure
  | .notSupported => False

theorem Due.cons {round : Idle.Round} {since : List Moment} {event : Event} {moment : Moment}
    (due : Due round since event)
    (fine : event = .changed → ∀ failure, ¬ moment.FailsWith failure) :
    Due round (moment :: since) event := by
  cases event with
  | changed => exact List.forall_mem_cons.2 ⟨fine rfl, due⟩
  | failed => exact due.imp id fun ⟨found, member, fails⟩ => ⟨found, .tail _ member, fails⟩
  | notSupported => exact due

section Watched

variable {settings : Settings} {backoff : Backoff} {older newer : List Moment} {watch : Watch}
  {heard : Idle.Moment} {round : Idle.Round} {response : Wire.Response}

/-- As long as a pusher has not called for another run, it is going to tell what is due, or has told
it. -/
theorem Watched.due (taken : heard.taken? = some (round, response))
    (change : response.isChange = true)
    (watched : Watched settings backoff (newer ++ .idler heard :: older) watch)
    (unstopped : ∀ moment ∈ newer ++ .idler heard :: older, moment.stops = false)
    (same : ∀ moment ∈ newer, moment.isCall = false) :
    ∃ event, Due round newer event ∧
      (Owes round watch event ∧ (∀ other, .tell other ∉ newer) ∨
        watch.Rests ∧ ∀ other, .tell other ∈ newer ↔ other = event) := by
  -- The induction is on the moments since the change; a pusher that owes an event tells it or goes
  -- on owing one, and a pusher that has told it rests.
  induction newer generalizing watch with
  | nil =>
    have lived := watched.lived
    have quiet : ∀ earlier ∈ older.filterMap Moment.idler?, earlier.stops = false := by
      intro earlier member
      obtain ⟨moment, member, is⟩ := List.mem_filterMap.1 member
      cases moment <;> cases is
      exact unstopped _ (.tail _ member)
    have heeds := lived.heeds_of_hears quiet taken change
    have comes : Comes round watch.life .changed := by
      cases granted : round.granted with
      | true => exact .heeds granted (by simpa only [granted, if_true] using heeds)
      | false => exact .synced (by simpa only [granted, Bool.false_eq_true, if_false] using heeds)
    obtain ⟨point, stands⟩ := comes.run
    have runs := watched.waits.resolve_left fun still => nomatch stands.symm.trans still
    exact ⟨.changed, List.forall_mem_nil _, .inl ⟨.running runs comes, fun _ => List.not_mem_nil⟩⟩
  | cons moment newer ih =>
    obtain ⟨_, unstopped⟩ := List.forall_mem_cons.1 unstopped
    obtain ⟨same, before⟩ := List.forall_mem_cons.1 same
    cases watched with
    | @step _ prior _ _ watched step =>
      obtain ⟨event, due, ⟨owes, untold⟩ | ⟨rests, told⟩⟩ := ih watched unstopped before
      · obtain ⟨rfl, rests⟩ | ⟨silent, ⟨owes, fine⟩ | ⟨rfl, granted, failure, fails, owes⟩⟩ :=
          owes_step step watched.lived.inStep (watched.signal_eq unstopped) same owes
        · refine ⟨event, due.cons fun _ => Moment.not_failsWith rfl, .inr ⟨rests, fun other => ?_⟩⟩
          simp [untold]
        · refine ⟨event, due.cons fine, .inl ⟨owes, fun other => ?_⟩⟩
          rw [Moment.tell_mem_cons silent]
          exact untold other
        · refine ⟨.failed failure, ⟨granted, moment, .head _, fails⟩, .inl ⟨owes, fun other => ?_⟩⟩
          rw [Moment.tell_mem_cons silent]
          exact untold other
      · obtain ⟨rests, silent, fine⟩ := rests_step step same rests
        refine ⟨event, due.cons fun _ => fine, .inr ⟨rests, fun other => ?_⟩⟩
        rw [Moment.tell_mem_cons silent]
        exact told other

end Watched

/-! ## A change that is not told -/

namespace Outage

/-- The round in which the change is met; the server agreed to it. -/
def round : Idle.Round := ⟨0, "A1", true⟩

def change : Wire.Response := ⟨.messageCount 1, ""⟩

def failure : Failure := .io "connection reset"

/-- A pusher begins, and its run comes to wait in a round that the server agrees to. -/
def before : List Moment :=
  let grant : Wire.Response := ⟨.continuation, "idling"⟩
  [.idler ⟨.work (.disarming round (.ok change)), [.cancelTimer 7]⟩,
    .idler ⟨.reply (.acquiring round (.ok change)) .done, []⟩,
    .idler ⟨.reply (.reading round) (.response (.ok change)), []⟩,
    .idler ⟨.reply (.releasing round) .done, []⟩,
    .idler ⟨.work (.armed round 7), []⟩,
    .idler ⟨.reply (.arming round) (.timer 7), []⟩,
    .idler ⟨.work (.preparing round), []⟩,
    .idler ⟨.work (.handling { round with granted := false } grant),
      [.setTimeout 0 121000 (.ok ())]⟩,
    .idler ⟨.reply (.reading { round with granted := false }) (.response (.ok grant)), []⟩,
    .idler ⟨.work (.starting 0), [.sendCommand 0 "IDLE" (.ok "A1")]⟩,
    .idler ⟨.reply (.checking 0) (.capable (.ok true)), []⟩,
    .idler ⟨.reply (.opening 0) (.opened (.ok ())), []⟩,
    .idler ⟨.work (.connected 0), []⟩,
    .idler ⟨.reply .connecting (.connected (.ok 0)), []⟩,
    .idler ⟨.enter, []⟩,
    .look]

/-- The run takes up a change, and sends `DONE`. -/
def heard : Idle.Moment :=
  ⟨.work (.handling round change),
    [.isConnected 0 true, .restoreTimeout 0 (.ok ()), .sendLine 0 "DONE" (.ok ())]⟩

/-- The connection breaks while the run waits for the end of the round.  The pusher tells that, and
waits before it calls for the next run. -/
def since : List Moment :=
  [.look, .wake, .tell (.failed failure), .look,
    .idler ⟨.leave (.error failure), []⟩,
    .idler ⟨.reply (.closing 0 (.error failure)) .done, []⟩,
    .idler ⟨.work (.finishing (.error failure)), []⟩,
    .idler ⟨.work (.disarming round (.error failure)), []⟩,
    .idler ⟨.reply (.acquiring round (.error failure)) .done, []⟩,
    .idler ⟨.reply (.reading round) (.response (.error failure)), []⟩,
    .idler ⟨.reply (.releasing round) .done, []⟩,
    .idler ⟨.work (.preparing round), []⟩]

variable {past : List Moment}

/-- The settings and the delays of the pusher. -/
abbrev Here (history : List Moment) (watch : Watch) : Prop :=
  Watched ⟨"INBOX", 1000⟩ (.starting 1 2) history watch

theorem goes (idler : Idle.Idler) (point : Idle.Point) {moment : Idle.Moment} {after : Idle.Life}
    (step : Idle.Step ⟨"INBOX", 1000⟩ ⟨idler, some point⟩ moment after)
    (inner : moment.deed.isCall = false) (unreturned : moment.deed.returns? = none)
    (here : Here past ⟨⟨.running, .starting 1 2⟩, false, idler, some point⟩) :
    Here (.idler moment :: past) ⟨⟨.running, .starting 1 2⟩, false, after⟩ := by
  have stays : Pusher.after ⟨.running, .starting 1 2⟩ moment.deed = ⟨.running, .starting 1 2⟩ := by
    simp only [Pusher.after, unreturned]
  have goes := here.step (.idler step fun call => nomatch inner.symm.trans call)
  rwa [stays] at goes

theorem here_before :
    Here before ⟨⟨.running, .starting 1 2⟩, false, ⟨.inIdle, false, .stopped, none, some 0⟩,
      some (.handling round change)⟩ := by
  let ungranted : Idle.Round := { round with granted := false }
  let grant : Wire.Response := ⟨.continuation, "idling"⟩
  refine goes ⟨.inIdle, false, .stopped, some 7, some 0⟩ (.disarming round (.ok change))
    (.work rfl nofun (yields_willing rfl rfl)) rfl rfl ?_
  refine goes ⟨.inIdle, false, .stopped, some 7, some 0⟩ (.acquiring round (.ok change))
    (.reply rfl rfl) rfl rfl ?_
  refine goes ⟨.inIdle, false, .stopped, some 7, some 0⟩ (.reading round)
    (.reply rfl rfl) rfl rfl ?_
  refine goes ⟨.inIdle, false, .stopped, some 7, some 0⟩ (.releasing round)
    (.reply rfl rfl) rfl rfl ?_
  refine goes ⟨.inIdle, false, .stopped, none, some 0⟩ (.armed round 7)
    (.work rfl nofun (yields_willing rfl rfl)) rfl rfl ?_
  refine goes ⟨.inIdle, false, .stopped, none, some 0⟩ (.arming round) (.reply rfl rfl) rfl rfl ?_
  refine goes ⟨.inIdle, false, .stopped, none, some 0⟩ (.preparing round)
    (.work rfl nofun (yields_willing rfl rfl)) rfl rfl ?_
  refine goes ⟨.awaitingContinuation, false, .stopped, none, some 0⟩ (.handling ungranted grant)
    (.work rfl nofun (yields_willing rfl rfl)) rfl rfl ?_
  refine goes ⟨.awaitingContinuation, false, .stopped, none, some 0⟩ (.reading ungranted)
    (.reply rfl rfl) rfl rfl ?_
  refine goes ⟨.capabilityCheck, false, .stopped, none, some 0⟩ (.starting 0)
    (.work rfl nofun (yields_willing rfl rfl)) rfl rfl ?_
  refine goes ⟨.capabilityCheck, false, .stopped, none, some 0⟩ (.checking 0)
    (.reply rfl rfl) rfl rfl ?_
  refine goes ⟨.capabilityCheck, false, .stopped, none, some 0⟩ (.opening 0)
    (.reply rfl rfl) rfl rfl ?_
  refine goes ⟨.capabilityCheck, false, .stopped, none, none⟩ (.connected 0)
    (.work rfl nofun (yields_willing rfl rfl)) rfl rfl ?_
  refine goes ⟨.capabilityCheck, false, .stopped, none, none⟩ .connecting
    (.reply rfl rfl) rfl rfl ?_
  have entered : Here [.look] ⟨⟨.running, .starting 1 2⟩, false, .new⟩ := .step .new .look
  exact entered.step (.idler (.enter (yields_willing rfl rfl)) fun _ => ⟨rfl, rfl⟩)

theorem here_since :
    Here (since ++ .idler heard :: before)
      ⟨⟨.running, ⟨1, 2, 2⟩⟩, false, ⟨.stopped, false, .sync, none, none⟩, none⟩ := by
  have ended : Here (since.drop 5 ++ .idler heard :: before) ⟨⟨.running, .starting 1 2⟩, false,
      ⟨.stopped, false, .sync, none, none⟩, some (.ended (.error failure))⟩ := by
    refine goes ⟨.stopped, false, .sync, none, none⟩ (.closing 0 (.error failure))
      (.reply rfl rfl) rfl rfl ?_
    refine goes ⟨.sendingDone, true, .sync, none, some 0⟩ (.finishing (.error failure))
      (.work rfl nofun (yields_willing rfl rfl)) rfl rfl ?_
    refine goes ⟨.sendingDone, true, .sync, none, some 0⟩ (.disarming round (.error failure))
      (.work rfl nofun (yields_willing rfl rfl)) rfl rfl ?_
    refine goes ⟨.sendingDone, true, .sync, none, some 0⟩ (.acquiring round (.error failure))
      (.reply rfl rfl) rfl rfl ?_
    refine goes ⟨.sendingDone, true, .sync, none, some 0⟩ (.reading round)
      (.reply rfl rfl) rfl rfl ?_
    refine goes ⟨.sendingDone, true, .sync, none, some 0⟩ (.releasing round)
      (.reply rfl rfl) rfl rfl ?_
    refine goes ⟨.sendingDone, true, .sync, none, some 0⟩ (.preparing round)
      (.work rfl nofun (yields_willing rfl rfl)) rfl rfl ?_
    refine goes ⟨.inIdle, false, .stopped, none, some 0⟩ (.handling round change)
      (.work rfl nofun (yields_willing rfl rfl)) rfl rfl ?_
    exact here_before
  have failed : Here (since.drop 4 ++ .idler heard :: before) ⟨⟨.failing failure, .starting 1 2⟩,
      false, ⟨.stopped, false, .sync, none, none⟩, none⟩ := ended.step (.idler .leave nofun)
  exact (((failed.step .look).step (.tell rfl)).step .wake).step .look

end Outage

/-- When a pusher that nobody stops calls for the next run after one that met a change, it has
told the change, and nothing else, if nothing went wrong since; and if something did, the server
had agreed to the round, and the pusher has told what went wrong and not the change. -/
theorem change_told {settings : Settings} {backoff : Backoff} {older newer : List Moment}
    {watch : Watch} {heard next : Idle.Moment} {round : Idle.Round} {response : Wire.Response}
    (watched : Watched settings backoff (.idler next :: (newer ++ .idler heard :: older)) watch)
    (unstopped : ∀ moment ∈ newer ++ .idler heard :: older, moment.stops = false)
    (call : next.deed.isCall = true) (same : ∀ moment ∈ newer, moment.isCall = false)
    (taken : heard.taken? = some (round, response)) (change : response.isChange = true) :
    (.tell .changed ∈ newer ↔ ∀ moment ∈ newer, ∀ failure, ¬ moment.FailsWith failure) ∧
      ∃ event, Due round newer event ∧ ∀ other, .tell other ∈ newer ↔ other = event := by
  cases watched with
  | step watched step =>
    obtain ⟨event, due, ⟨owes, _⟩ | ⟨_, told⟩⟩ := watched.due taken change unstopped same
    · -- A pusher that owes an event calls for no run.
      cases step with
      | idler _ own =>
        obtain ⟨here, still⟩ := own call
        cases owes with
        | running _ comes =>
          obtain ⟨point, stands⟩ := comes.run
          cases stands.symm.trans still
        | met _ elsewhere | failing _ elsewhere | telling _ elsewhere =>
          cases here.symm.trans elsewhere
    · refine ⟨(told .changed).trans ⟨?_, fun fine => ?_⟩, event, due, told⟩
      · rintro rfl
        exact due
      · cases event with
        | changed => rfl
        | failed =>
          obtain ⟨_, moment, member, fails⟩ := due
          exact absurd fails (fine moment member _)
        | notSupported => exact due.elim

theorem change_told_outage :
    Watched ⟨"INBOX", 1000⟩ (.starting 1 2)
        (.idler ⟨.enter, []⟩ :: (Outage.since ++ .idler Outage.heard :: Outage.before))
        ⟨⟨.running, ⟨1, 2, 2⟩⟩, false, ⟨.capabilityCheck, false, .stopped, none, none⟩,
          some .connecting⟩ ∧
      .tell (.failed Outage.failure) ∈ Outage.since ∧ .tell .changed ∉ Outage.since := by
  have entered : Idle.Step ⟨"INBOX", 1000⟩ ⟨⟨.stopped, false, .sync, none, none⟩, none⟩ ⟨.enter, []⟩
      ⟨⟨.capabilityCheck, false, .stopped, none, none⟩, some .connecting⟩ :=
    .enter (yields_willing rfl rfl)
  have watched := Outage.here_since.step (.idler entered fun _ => ⟨rfl, rfl⟩)
  refine ⟨watched, by simp [Outage.since], fun told => ?_⟩
  have fine := (change_told watched (by decide) rfl (by decide) rfl rfl).1.1 told
  have broken : Idle.Moment.FailsWith
      ⟨.reply (.reading Outage.round) (.response (.error Outage.failure)), []⟩ Outage.failure :=
    .inl (.inl rfl)
  exact fine _ (by simp [Outage.since]) Outage.failure (Moment.failsWith_idler.2 broken)

end MailReplica.Push
