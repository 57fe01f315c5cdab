import MailReplica.Proofs.Idle.Handle
import MailReplica.Proofs.Timer.Alarm

/-! # An idler and its timers

The timers of an idler go their own way, each step by step: a timer hears a signal or that its time
is over, leaves the armed ones, and then asks for a fresh round or does not.  To cancel a timer is
to send it a signal.  All these steps and those of the idler come between each other in any order
(`Clocked`).  A timer that was started is held by the idler until it is cancelled
(`Clocked.holds_or_cancelled`), and one of which it is not decided yet whether it fires is held
(`Clocked.holds_of_undecided`).
-/

namespace MailReplica.Idle

open Timer (Alarm Manager Signal)

structure Clockwork where
  life : Life
  manager : Manager
  /-- The timers that somebody has taken from the armed ones and is to tell to fire. -/
  drained : List TimerId

def Clockwork.new : Clockwork :=
  ⟨.new, .empty, []⟩

/-! ## Steps -/

/-- The timer that a run starts. -/
def Moment.started? (moment : Moment) : Option TimerId :=
  match moment.deed with
  | .reply (.arming _) (.timer timer) => some timer
  | _ => none

/-- What a call does to the timers. -/
def Exchange.onTimers (manager : Manager) : Exchange → Manager
  | cancelTimer timer => manager.cancel timer
  | _ => manager

/-- What is done to the timers. -/
def Moment.onTimers (moment : Moment) (manager : Manager) : Manager :=
  let told := moment.calls.foldl Exchange.onTimers manager
  if moment.started?.isSome then told.start.2 else told

inductive Tick where
  /-- A step of the run, a stop, or a fresh round that somebody asks for. -/
  | idler (moment : Moment)
  /-- A timer hears something, leaves the armed ones, or ends without asking for a fresh round. -/
  | turns (timer : TimerId) (timeIsOver : Bool)
  /-- A timer asks for a fresh round. -/
  | fires (timer : TimerId) (calls : List Exchange)
  /-- Somebody takes all armed timers to tell them to fire. -/
  | drains
  | tells (timer : TimerId)

inductive Ticks (settings : Settings) : Clockwork → Tick → Clockwork → Prop
  | idler {life after : Life} {moment : Moment} {manager : Manager} {drained : List TimerId}
      (step : Step settings life moment after)
      (numbered : ∀ timer, moment.started? = some timer → timer = manager.next) :
      Ticks settings ⟨life, manager, drained⟩ (.idler moment)
        ⟨after, moment.onTimers manager, drained⟩
  | turns {life : Life} {manager : Manager} {drained : List TimerId} {timer : TimerId}
      {timeIsOver : Bool}
      (idle : ∀ signals, manager.alarm? timer ≠ some ⟨signals, .acting true⟩) :
      Ticks settings ⟨life, manager, drained⟩ (.turns timer timeIsOver)
        ⟨life, manager.step timeIsOver timer, drained⟩
  | fires {life after : Life} {manager : Manager} {drained : List TimerId} {timer : TimerId}
      {signals : List Signal} {calls : List Exchange}
      (acts : manager.alarm? timer = some ⟨signals, .acting true⟩)
      (step : Step settings life ⟨.refresh, calls⟩ after) :
      Ticks settings ⟨life, manager, drained⟩ (.fires timer calls)
        ⟨after, (⟨.refresh, calls⟩ : Moment).onTimers (manager.step false timer), drained⟩
  | drains {life : Life} {manager : Manager} {drained : List TimerId} :
      Ticks settings ⟨life, manager, drained⟩ .drains
        ⟨life, { manager with armed := [] }, drained ++ manager.armed⟩
  | tells {life : Life} {manager : Manager} {drained : List TimerId} {timer : TimerId}
      (taken : timer ∈ drained) :
      Ticks settings ⟨life, manager, drained⟩ (.tells timer)
        ⟨life, manager.send .fireNow timer, drained.erase timer⟩

/-- A new idler and its timers can have come to some state by the steps of a history, latest
first. -/
inductive Clocked (settings : Settings) : List Tick → Clockwork → Prop
  | new : Clocked settings [] .new
  | step {past : List Tick} {clock after : Clockwork} {tick : Tick}
      (clocked : Clocked settings past clock) (ticks : Ticks settings clock tick after) :
      Clocked settings (tick :: past) after

namespace Tick

/-- What is done to the idler. -/
def moment? : Tick → Option Moment
  | idler moment => some moment
  | fires _ calls => some ⟨.refresh, calls⟩
  | _ => none

/-- The timer that is started. -/
def started? (tick : Tick) : Option TimerId :=
  tick.moment?.bind Moment.started?

def Cancels (tick : Tick) (timer : TimerId) : Prop :=
  ∃ moment, tick.moment? = some moment ∧ .cancelTimer timer ∈ moment.calls

end Tick

/-! ## What a step does to the timers -/

section Timers

variable {manager : Manager} {calls : List Exchange} {timer : TimerId} {alarm : Alarm}

theorem ages_onTimers (manager : Manager) (call : Exchange) :
    manager.Ages (call.onTimers manager) := by
  cases call with
  | cancelTimer timer => exact Manager.ages_send manager .cancel timer
  | _ => exact .refl manager

theorem ages_calls (calls : List Exchange) (manager : Manager) :
    manager.Ages (calls.foldl Exchange.onTimers manager) := by
  induction calls generalizing manager with
  | nil => exact .refl manager
  | cons call calls ih => exact (ages_onTimers manager call).trans (ih _)

/-- A timer that was cancelled is decided. -/
theorem verdict_of_cancelled (cancelled : .cancelTimer timer ∈ calls)
    (found : (calls.foldl Exchange.onTimers manager).alarm? timer = some alarm) :
    alarm.verdict ≠ none := by
  induction calls generalizing manager with
  | nil => cases cancelled
  | cons call calls ih =>
    obtain rfl | member := List.mem_cons.1 cancelled
    · intro undecided
      obtain ⟨earlier, told, before⟩ := (ages_calls calls _).exists_before found
      rw [Exchange.onTimers, Manager.cancel, Manager.alarm?_send, if_pos rfl,
        Option.map_eq_some_iff] at told
      obtain ⟨first, _, rfl⟩ := told
      exact Alarm.verdict_tell_ne_none _ _ (before undecided)
    · exact ih member found

/-- Where a timer is started, nothing is done on the line. -/
theorem Step.calls_of_started {settings : Settings} {life after : Life} {moment : Moment}
    (step : Step settings life moment after) (started : moment.started? = some timer) :
    moment.calls = [] := by
  cases step with
  | reply => rfl
  | _ => cases started

/-- A step does not start a timer, or starts the one that has the next number. -/
theorem Ticks.ages {settings : Settings} {before after : Clockwork} {tick : Tick}
    (ticks : Ticks settings before tick after) :
    tick.started? = none ∧ before.manager.Ages after.manager ∨
      ∃ told, before.manager.Ages told ∧ tick.started? = some told.next ∧
        after.manager = told.start.2 := by
  cases ticks with
  | @idler _ _ moment manager _ _ numbered =>
    have ages := ages_calls moment.calls manager
    cases started : moment.started? with
    | none =>
      refine .inl ⟨started, ?_⟩
      simpa only [Moment.onTimers, started, Option.isSome_none, Bool.false_eq_true, if_false]
        using ages
    | some timer =>
      refine .inr ⟨_, ages, ?_, ?_⟩
      · rw [ages.next, ← numbered timer started]
        exact started
      · simp only [Moment.onTimers, started, Option.isSome_some, if_true]
  | fires => exact .inl ⟨rfl, (Manager.ages_step _ _ _).trans (ages_calls _ _)⟩
  | turns => exact .inl ⟨rfl, Manager.ages_step _ _ _⟩
  | drains => exact .inl ⟨rfl, rfl, fun _ => Alarm.rel_refl _⟩
  | tells => exact .inl ⟨rfl, Manager.ages_send _ _ _⟩

end Timers

/-! ## What holds all the time -/

section Clocked

variable {settings : Settings} {past since earlier : List Tick} {clock after : Clockwork}
  {tick : Tick} {timer : TimerId} {alarm : Alarm}

/-- The idler makes a step of its own, or it is left as it is. -/
theorem Ticks.life (ticks : Ticks settings clock tick after) :
    (∃ moment, tick.moment? = some moment ∧ Step settings clock.life moment after.life) ∨
      tick.moment? = none ∧ after.life = clock.life := by
  cases ticks with
  | idler step => exact .inl ⟨_, rfl, step⟩
  | fires _ step => exact .inl ⟨_, rfl, step⟩
  | turns | drains | tells => exact .inr ⟨rfl, rfl⟩

theorem Clocked.lived (clocked : Clocked settings past clock) :
    Lived settings (past.filterMap Tick.moment?) clock.life := by
  induction clocked with
  | new => exact .new
  | step _ ticks ih =>
    obtain ⟨moment, is, step⟩ | ⟨none, same⟩ := ticks.life
    · rw [List.filterMap_cons_some is]
      exact ih.step step
    · rw [List.filterMap_cons_none none, same]
      exact ih

theorem Clocked.numbered (clocked : Clocked settings past clock) : clock.manager.Numbered := by
  induction clocked with
  | new => exact fun number _ => Std.ExtTreeMap.getElem?_empty
  | step _ ticks ih =>
    obtain ⟨_, ages⟩ | ⟨told, ages, _, start⟩ := ticks.ages
    · exact ih.ages ages
    · rw [start]
      exact (ih.ages ages).start

/-- What becomes of the timers by what is done to the idler: the idler holds a timer afterwards, or
it is cancelled. -/
theorem Ticks.holds (ticks : Ticks settings clock tick after) (timed : clock.life.TimedInRead)
    (holds : clock.life.Holds timer) : after.life.Holds timer ∨ tick.Cancels timer := by
  obtain ⟨moment, is, step⟩ | ⟨_, same⟩ := ticks.life
  · exact (happens_holds (happens_step step) timed holds).imp id
      fun cancels => ⟨moment, is, cancels⟩
  · exact .inl (same ▸ holds)

/-- A timer that was just started is held. -/
theorem Ticks.holds_started (ticks : Ticks settings clock tick after)
    (started : tick.started? = some timer) : after.life.Holds timer := by
  cases ticks with
  | idler step =>
    cases happens_step step with
    | reply _ resumes =>
      cases resumes with
      | timed round =>
        cases started
        exact .inr ⟨round, rfl⟩
      | _ => cases started
    | _ => cases started
  | _ => cases started

theorem Ticks.verdict_of_cancels (ticks : Ticks settings clock tick after)
    (cancels : tick.Cancels timer) (found : after.manager.alarm? timer = some alarm) :
    alarm.verdict ≠ none := by
  obtain ⟨moment, is, cancelled⟩ := cancels
  cases ticks with
  | @idler _ _ own _ _ step =>
    cases is
    cases started : moment.started? with
    | none =>
      simp only [Moment.onTimers, started, Option.isSome_none, Bool.false_eq_true, if_false]
        at found
      exact verdict_of_cancelled cancelled found
    | some timer =>
      rw [step.calls_of_started started] at cancelled
      cases cancelled
  | fires =>
    cases is
    exact verdict_of_cancelled cancelled found
  | _ => cases is

/-- A timer that is there after a step was started by it, or was there before. -/
theorem Ticks.found (ticks : Ticks settings clock tick after)
    (found : after.manager.alarm? timer = some alarm) :
    tick.started? = some timer ∨
      ∃ earlier, clock.manager.alarm? timer = some earlier ∧
        (alarm.verdict = none → earlier.verdict = none) := by
  obtain ⟨_, ages⟩ | ⟨told, ages, started, start⟩ := ticks.ages
  · exact .inr (ages.exists_before found)
  · rw [start, Manager.alarm?_start] at found
    split at found
    next same => exact .inl (same ▸ started)
    next => exact .inr (ages.exists_before found)

/-- A timer that was started is held, or it was cancelled. -/
theorem Clocked.holds_or_cancelled (clocked : Clocked settings past clock)
    (found : clock.manager.alarm? timer = some alarm) :
    clock.life.Holds timer ∨ ∃ tick ∈ past, tick.Cancels timer := by
  induction clocked generalizing alarm with
  | new => cases Std.ExtTreeMap.getElem?_empty.symm.trans found
  | step clocked ticks ih =>
    obtain started | ⟨_, found, _⟩ := ticks.found found
    · exact .inl (ticks.holds_started started)
    · obtain holds | ⟨tick, member, cancels⟩ := ih found
      · exact (ticks.holds clocked.lived.timedInRead holds).imp id
          fun cancels => ⟨_, List.mem_cons_self, cancels⟩
      · exact .inr ⟨tick, List.mem_cons_of_mem _ member, cancels⟩

/-- A timer that is undecided is held. -/
theorem Clocked.holds_of_undecided (clocked : Clocked settings past clock)
    (found : clock.manager.alarm? timer = some alarm) (undecided : alarm.verdict = none) :
    clock.life.Holds timer := by
  induction clocked generalizing alarm with
  | new => cases Std.ExtTreeMap.getElem?_empty.symm.trans found
  | step clocked ticks ih =>
    obtain started | ⟨_, before, undecided'⟩ := ticks.found found
    · exact ticks.holds_started started
    · obtain holds | cancels :=
        ticks.holds clocked.lived.timedInRead (ih before (undecided' undecided))
      · exact holds
      · exact absurd undecided (ticks.verdict_of_cancels cancels found)

theorem Clocked.started (clocked : Clocked settings past clock)
    (found : clock.manager.alarm? timer = some alarm) :
    ∃ tick ∈ past, tick.started? = some timer := by
  induction clocked generalizing alarm with
  | new => cases Std.ExtTreeMap.getElem?_empty.symm.trans found
  | step _ ticks ih =>
    obtain started | ⟨_, found, _⟩ := ticks.found found
    · exact ⟨_, List.mem_cons_self, started⟩
    · obtain ⟨tick, member, started⟩ := ih found
      exact ⟨tick, List.mem_cons_of_mem _ member, started⟩

/-! ## From one moment to a later one -/

/-- What steps have done to the timers. -/
structure Passed (before : Manager) (since : List Tick) (after : Manager) : Prop where
  next : before.next ≤ after.next
  /-- A timer that is not to fire stays so. -/
  settled : ∀ timer alarm, before.alarm? timer = some alarm → alarm.verdict = some false →
    ∃ later, after.alarm? timer = some later ∧ later.verdict = some false
  found : ∀ timer alarm, after.alarm? timer = some alarm →
    (∃ tick ∈ since, tick.started? = some timer) ∨
      ∃ earlier, before.alarm? timer = some earlier
  fresh : ∀ tick ∈ since, ∀ timer, tick.started? = some timer → before.next ≤ timer

theorem Passed.cons {before : Manager} (passed : Passed before since clock.manager)
    (numbered : clock.manager.Numbered) (ticks : Ticks settings clock tick after) :
    Passed before (tick :: since) after.manager := by
  refine ⟨?_, fun timer alarm found settled => ?_, fun timer alarm found => ?_,
    List.forall_mem_cons.2 ⟨fun timer started => ?_, passed.fresh⟩⟩
  · obtain ⟨_, ages⟩ | ⟨told, ages, _, start⟩ := ticks.ages
    · rw [ages.next]
      exact passed.next
    · rw [start]
      exact Nat.le_succ_of_le (ages.next ▸ passed.next)
  · obtain ⟨later, found, settled⟩ := passed.settled timer alarm found settled
    obtain ⟨_, ages⟩ | ⟨told, ages, _, start⟩ := ticks.ages
    · exact ages.settled found settled
    · obtain ⟨last, found, settled⟩ := ages.settled found settled
      refine ⟨last, ?_, settled⟩
      have other : timer ≠ told.next := by
        rintro rfl
        cases (numbered.ages ages told.next (Nat.le_refl _)).symm.trans found
      rwa [start, Manager.alarm?_start, if_neg other]
  · obtain started | ⟨earlier, found, _⟩ := ticks.found found
    · exact .inl ⟨tick, List.mem_cons_self, started⟩
    · exact (passed.found timer earlier found).imp
        (fun ⟨own, member, started⟩ => ⟨own, List.mem_cons_of_mem _ member, started⟩) id
  · obtain ⟨none, _⟩ | ⟨told, ages, own, _⟩ := ticks.ages
    · cases none.symm.trans started
    · cases own.symm.trans started
      rw [ages.next]
      exact passed.next

theorem Passed.refl (manager : Manager) : Passed manager [] manager :=
  ⟨Nat.le_refl _, fun _ alarm found settled => ⟨alarm, found, settled⟩,
    fun _ alarm found => .inr ⟨alarm, found⟩, List.forall_mem_nil _⟩

theorem Clocked.passed (clocked : Clocked settings (since ++ tick :: earlier) clock) :
    ∃ before after, Clocked settings earlier before ∧ Ticks settings before tick after ∧
      Passed before.manager (since ++ [tick]) clock.manager := by
  induction since generalizing clock with
  | nil =>
    cases clocked with
    | step clocked ticks =>
      exact ⟨_, _, clocked, ticks, (Passed.refl _).cons clocked.numbered ticks⟩
  | cons latest since ih =>
    rw [List.cons_append] at clocked
    cases clocked with
    | step clocked ticks =>
      obtain ⟨before, after, earlier, sent, passed⟩ := ih clocked
      exact ⟨before, after, earlier, sent, passed.cons clocked.numbered ticks⟩

end Clocked

end MailReplica.Idle
