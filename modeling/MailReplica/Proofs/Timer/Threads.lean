import Mathlib.Data.List.Nodup
import MailReplica.Proofs.Timer.Alarm

/-! # Timers and their threads

Each timer has a thread of its own, and others start timers, cancel them, and reset all that are
armed.  To reset them is to take them from the armed ones in one step (`Event.drains`) and to tell
them to fire one by one, in any order, while all the others go on (`Event.tells`).  A history lists
the events of such threads, latest first (`Ran`).

An event concerns one timer, and does with it one of a few things (`Changes`); so what each of them
does to a timer says all that the threads can do to it (`Step.changes`).
-/

namespace MailReplica.Timer

/-! ## Events -/

/-- What the thread of a timer does in a turn. -/
inductive Turn where
  /-- Its time is over. -/
  | elapses
  | hears (signal : Signal)
  /-- It leaves the armed ones. -/
  | leaves
  /-- It runs its callback. -/
  | fires
  /-- It ends without that. -/
  | quits
  deriving DecidableEq

inductive Event where
  | starts (timer : Nat)
  | cancels (timer : Nat)
  | drains
  | tells (timer : Nat)
  | turns (timer : Nat) (turn : Turn)
  deriving DecidableEq

structure Threads where
  manager : Manager
  /-- The timers that were taken from the armed ones and are to be told to fire. -/
  drained : List Nat

def Threads.new : Threads :=
  ⟨.empty, []⟩

/-- The turn that a timer makes next, if it can make one. -/
def Alarm.turn? (timeIsOver : Bool) (alarm : Alarm) : Option Turn :=
  match alarm.stage, alarm.signals with
  | .waiting, [] => if timeIsOver then some .elapses else none
  | .waiting, signal :: _ => some (.hears signal)
  | .leaving _, _ => some .leaves
  | .acting fires, _ => some (if fires then .fires else .quits)
  | .ended _, _ => none

inductive Step : Threads → Event → Threads → Prop
  | starts {manager : Manager} {drained : List Nat} :
      Step ⟨manager, drained⟩ (.starts manager.start.1) ⟨manager.start.2, drained⟩
  | cancels {manager : Manager} {drained : List Nat} {timer : Nat}
      (started : manager.alarm? timer ≠ none) :
      Step ⟨manager, drained⟩ (.cancels timer) ⟨manager.cancel timer, drained⟩
  | drains {manager : Manager} {drained : List Nat} :
      Step ⟨manager, drained⟩ .drains ⟨{ manager with armed := [] }, drained ++ manager.armed⟩
  | tells {manager : Manager} {drained : List Nat} {timer : Nat} (taken : timer ∈ drained) :
      Step ⟨manager, drained⟩ (.tells timer) ⟨manager.send .fireNow timer, drained.erase timer⟩
  | turns {manager : Manager} {drained : List Nat} {timer : Nat} {alarm : Alarm} {turn : Turn}
      {timeIsOver : Bool} (found : manager.alarm? timer = some alarm)
      (makes : alarm.turn? timeIsOver = some turn) :
      Step ⟨manager, drained⟩ (.turns timer turn) ⟨manager.step timeIsOver timer, drained⟩

/-- The threads can have come to some state by the events of a history, latest first. -/
inductive Ran : List Event → Threads → Prop
  | new : Ran [] .new
  | step {past : List Event} {threads after : Threads} {event : Event} (ran : Ran past threads)
      (step : Step threads event after) : Ran (event :: past) after

/-! ## One timer -/

namespace Alarm

/-- How often a timer has fired. -/
def fired (alarm : Alarm) : Nat :=
  match alarm.stage with
  | .ended true => 1
  | _ => 0

/-- How many turns a timer has to make until it is ended. -/
def left (alarm : Alarm) : Nat :=
  match alarm.stage with
  | .waiting => 3
  | .leaving _ => 2
  | .acting _ => 1
  | .ended _ => 0

end Alarm

namespace Event

/-- The timer that is concerned. -/
def timer? : Event → Option Nat
  | starts timer | cancels timer | tells timer | turns timer _ => some timer
  | drains => none

/-- Whether a timer makes a turn. -/
def isTurn (timer : Nat) : Event → Bool
  | turns other _ => other == timer
  | _ => false

/-- What an event decides about a timer that is not decided yet. -/
def decides? (timer : Nat) : Event → Option Bool
  | cancels other => if other = timer then some false else none
  | tells other | turns other .elapses => if other = timer then some true else none
  | _ => none

end Event

/-- Whether a timer fires, by the first event of a history that decides it. -/
def decided (timer : Nat) : List Event → Option Bool
  | [] => none
  | event :: past => (decided timer past).or (event.decides? timer)

/-- What an event does to the timer with a number. -/
inductive Changes (timer : Nat) : Option Alarm → Event → Option Alarm → Prop
  | spared (alarm : Option Alarm) {event : Event} (other : event.timer? ≠ some timer) :
      Changes timer alarm event alarm
  | started : Changes timer none (.starts timer) (some ⟨[], .waiting⟩)
  | cancelled (alarm : Alarm) :
      Changes timer (some alarm) (.cancels timer) (some (alarm.tell .cancel))
  | told (alarm : Alarm) : Changes timer (some alarm) (.tells timer) (some (alarm.tell .fireNow))
  | turned (alarm : Alarm) {turn : Turn} {timeIsOver : Bool}
      (makes : alarm.turn? timeIsOver = some turn) :
      Changes timer (some alarm) (.turns timer turn) (some (alarm.turn timeIsOver))

section Alarm

variable {alarm : Alarm} {timeIsOver : Bool} {turn : Turn}

theorem Alarm.decision_tell (signal : Signal) (alarm : Alarm) :
    (alarm.tell signal).decision = alarm.decision.or (some (signal == .fireNow)) := by
  obtain ⟨signals, stage⟩ := alarm
  cases stage with
  | waiting => cases signals <;> rfl
  | _ => rfl

/-- A turn decides about the timer only as its time is over. -/
theorem Alarm.decision_turn (timer : Nat) (makes : alarm.turn? timeIsOver = some turn) :
    (alarm.turn timeIsOver).decision =
      alarm.decision.or ((Event.turns timer turn).decides? timer) := by
  obtain ⟨signals, stage⟩ := alarm
  cases stage with
  | waiting =>
    cases signals with
    | nil =>
      cases timeIsOver <;> cases makes
      exact (if_pos rfl).symm
    | cons signal => cases signal <;> cases makes <;> rfl
  | leaving | acting => rfl
  | ended => cases makes

theorem Alarm.left_turn (makes : alarm.turn? timeIsOver = some turn) :
    (alarm.turn timeIsOver).left + 1 = alarm.left := by
  obtain ⟨signals, stage⟩ := alarm
  cases stage with
  | waiting =>
    cases signals with
    | nil => cases timeIsOver <;> cases makes; rfl
    | cons signal => cases signal <;> rfl
  | leaving | acting => rfl
  | ended => cases makes

/-- A timer does what is decided. -/
theorem Alarm.decision_of_acts {fires : Bool}
    (makes : alarm.turn? timeIsOver = some (if fires then .fires else .quits)) :
    alarm.decision = some fires := by
  obtain ⟨signals, stage⟩ := alarm
  cases stage with
  | waiting => cases signals <;> cases timeIsOver <;> cases fires <;> cases makes
  | leaving => cases fires <;> cases makes
  | acting own => cases own <;> cases fires <;> first | rfl | cases makes
  | ended => cases makes

theorem Alarm.decision_of_elapses (makes : alarm.turn? timeIsOver = some .elapses) :
    alarm.decision = none := by
  obtain ⟨signals, stage⟩ := alarm
  cases stage with
  | waiting => cases signals <;> first | rfl | cases makes
  | acting fires => cases fires <;> cases makes
  | leaving | ended => cases makes

/-- As soon as it is decided about a timer, it can make its turns until it has ended. -/
theorem Alarm.exists_turn (timeIsOver : Bool) {decided : Bool} (is : alarm.decision = some decided)
    (goesOn : alarm.left ≠ 0) : ∃ turn, alarm.turn? timeIsOver = some turn := by
  obtain ⟨signals, stage⟩ := alarm
  cases stage with
  | waiting =>
    cases signals with
    | nil => cases is
    | cons signal => exact ⟨_, rfl⟩
  | leaving | acting => exact ⟨_, rfl⟩
  | ended => exact absurd rfl goesOn

theorem Alarm.fired_le (alarm : Alarm) : alarm.fired ≤ 1 := by
  unfold Alarm.fired
  split
  · exact Nat.le_refl 1
  · exact Nat.zero_le 1

theorem Alarm.fired_of_left (is : alarm.decision = some true) (ended : alarm.left = 0) :
    alarm.fired = 1 := by
  obtain ⟨signals, stage⟩ := alarm
  cases stage with
  | ended fires =>
    cases is
    rfl
  | _ => cases ended

theorem Alarm.fired_turn (makes : alarm.turn? timeIsOver = some turn) :
    (alarm.turn timeIsOver).fired = alarm.fired + if turn = .fires then 1 else 0 := by
  obtain ⟨signals, stage⟩ := alarm
  cases stage with
  | waiting =>
    cases signals with
    | nil => cases timeIsOver <;> cases makes; rfl
    | cons signal => cases signal <;> cases makes <;> rfl
  | leaving => cases makes; rfl
  | acting fires => cases fires <;> cases makes <;> rfl
  | ended => cases makes

end Alarm

/-! ## What a step does -/

/-- Only timers that were started are armed or are to be told to fire, and an armed one has not yet
left the armed ones. -/
structure Threads.Placed (threads : Threads) : Prop where
  numbered : threads.manager.Numbered
  armed : ∀ timer ∈ threads.manager.armed,
    ∃ alarm, threads.manager.alarm? timer = some alarm ∧ 2 ≤ alarm.left
  drained : ∀ timer ∈ threads.drained, threads.manager.alarm? timer ≠ none
  nodup : threads.manager.armed.Nodup

section Step

variable {before after : Threads} {event : Event}

/-- An event leaves all timers as they are but the one that is concerned. -/
theorem Changes.of_ite {timer own : Nat} {alarm later : Option Alarm}
    (concerns : event.timer? = some own)
    (changes : timer = own → Changes timer alarm event later) :
    Changes timer alarm event (if timer = own then later else alarm) := by
  split
  next same => exact changes same
  next other =>
    exact .spared _ fun same => other (Option.some.inj (same.symm.trans concerns))

theorem Step.changes (step : Step before event after) (placed : before.Placed) (timer : Nat) :
    Changes timer (before.manager.alarm? timer) event (after.manager.alarm? timer) := by
  cases step with
  | @starts manager =>
    rw [Manager.alarm?_start]
    refine .of_ite rfl fun same => ?_
    rw [placed.numbered timer (Nat.le_of_eq same.symm), same]
    exact .started
  | cancels started =>
    rw [Manager.cancel, Manager.alarm?_send]
    refine .of_ite rfl fun same => ?_
    subst same
    obtain ⟨alarm, found⟩ := Option.ne_none_iff_exists'.1 started
    rw [found]
    exact .cancelled alarm
  | drains => exact .spared _ nofun
  | @tells manager _ _ taken =>
    rw [Manager.alarm?_send]
    refine .of_ite rfl fun same => ?_
    subst same
    obtain ⟨alarm, found⟩ := Option.ne_none_iff_exists'.1 (placed.drained timer taken)
    replace found : manager.alarm? timer = some alarm := found
    rw [found]
    exact .told alarm
  | turns found makes =>
    rw [Manager.alarm?_step]
    refine .of_ite rfl fun same => ?_
    subst same
    rw [found]
    exact .turned _ makes

/-- A timer that was started stays so. -/
theorem Changes.stays {timer : Nat} {alarm later : Option Alarm}
    (changes : Changes timer alarm event later) (started : alarm ≠ none) : later ≠ none := by
  cases changes with
  | spared => exact started
  | started | cancelled | told | turned => exact Option.some_ne_none _

theorem Event.isTurn_eq_false {timer : Nat} (other : event.timer? ≠ some timer) :
    event.isTurn timer = false := by
  cases event with
  | turns own => exact beq_eq_false_iff_ne.2 fun same => other (congrArg some same)
  | _ => rfl

/-- Each turn that a timer makes is one less to make. -/
theorem Changes.left {timer : Nat} {alarm later : Option Alarm}
    (changes : Changes timer alarm event later) :
    alarm.elim 3 Alarm.left =
      later.elim 3 Alarm.left + if event.isTurn timer then 1 else 0 := by
  cases changes with
  | spared _ other =>
    rw [Event.isTurn_eq_false other]
    rfl
  | started | cancelled | told => rfl
  | turned alarm makes =>
    rw [Event.isTurn, if_pos (beq_self_eq_true timer)]
    exact (Alarm.left_turn makes).symm

theorem Event.decides?_eq_none {timer : Nat} (other : event.timer? ≠ some timer) :
    event.decides? timer = none := by
  cases event with
  | cancels own | tells own => exact if_neg fun same => other (congrArg some same)
  | turns own turn =>
    cases turn with
    | elapses => exact if_neg fun same => other (congrArg some same)
    | _ => rfl
  | _ => rfl

/-- An event decides about a timer that is not decided yet. -/
theorem Changes.decision {timer : Nat} {alarm later : Option Alarm}
    (changes : Changes timer alarm event later) :
    later.bind Alarm.decision = (alarm.bind Alarm.decision).or (event.decides? timer) := by
  cases changes with
  | spared _ other => rw [Event.decides?_eq_none other, Option.or_none]
  | started => rfl
  | cancelled alarm =>
    rw [Event.decides?, if_pos rfl]
    exact Alarm.decision_tell .cancel alarm
  | told alarm =>
    rw [Event.decides?, if_pos rfl]
    exact Alarm.decision_tell .fireNow alarm
  | turned alarm makes => exact Alarm.decision_turn timer makes

theorem Changes.fired {timer : Nat} {alarm later : Option Alarm}
    (changes : Changes timer alarm event later) :
    later.elim 0 Alarm.fired =
      alarm.elim 0 Alarm.fired + if event = .turns timer .fires then 1 else 0 := by
  cases changes with
  | spared _ other =>
    rw [if_neg]
    · rfl
    · rintro rfl
      exact other rfl
  | started | cancelled | told => rfl
  | turned alarm makes =>
    simp only [Event.turns.injEq, true_and]
    exact Alarm.fired_turn makes

theorem Step.turn {timer : Nat} {turn : Turn} (step : Step before (.turns timer turn) after) :
    ∃ alarm timeIsOver, before.manager.alarm? timer = some alarm ∧
      alarm.turn? timeIsOver = some turn ∧
      after = ⟨before.manager.step timeIsOver timer, before.drained⟩ := by
  cases step with
  | turns found makes => exact ⟨_, _, found, makes, rfl⟩

theorem Manager.armed_step {manager : Manager} {timer : Nat} {alarm : Alarm} (timeIsOver : Bool)
    (found : manager.alarm? timer = some alarm) :
    (manager.step timeIsOver timer).armed =
      if alarm.left = 2 then manager.armed.erase timer else manager.armed := by
  unfold step
  rw [Std.ExtTreeMap.get?_eq_getElem?]
  change manager.timers[timer]? = some alarm at found
  rw [found]
  obtain ⟨signals, stage⟩ := alarm
  cases stage <;> rfl

/-- What a timer does in a turn tells whether its time was over, as far as that matters. -/
theorem Manager.step_eq_of_turn? {manager : Manager} {timer : Nat} {alarm : Alarm} {turn : Turn}
    {timeIsOver timeIsOver' : Bool} (found : manager.alarm? timer = some alarm)
    (makes : alarm.turn? timeIsOver = some turn) (makes' : alarm.turn? timeIsOver' = some turn) :
    manager.step timeIsOver timer = manager.step timeIsOver' timer := by
  unfold step
  rw [Std.ExtTreeMap.get?_eq_getElem?]
  change manager.timers[timer]? = some alarm at found
  rw [found]
  obtain ⟨signals, stage⟩ := alarm
  cases stage with
  | waiting =>
    cases signals with
    | nil =>
      cases timeIsOver with
      | false => cases makes
      | true =>
        cases timeIsOver' with
        | false => cases makes'
        | true => rfl
    | cons signal => cases signal <;> rfl
  | _ => rfl

theorem Step.unique {after' : Threads} (step : Step before event after)
    (step' : Step before event after') : after = after' := by
  cases step with
  | starts | cancels | drains | tells => cases step'; rfl
  | turns found makes =>
    obtain ⟨alarm, timeIsOver, found', makes', rfl⟩ := step'.turn
    obtain rfl := Option.some.inj (found.symm.trans found')
    rw [Manager.step_eq_of_turn? found makes makes']

theorem Step.numbered (step : Step before event after) (numbered : before.manager.Numbered) :
    after.manager.Numbered := by
  cases step with
  | starts => exact numbered.start
  | cancels => exact numbered.ages (Manager.ages_send _ _ _)
  | drains => exact numbered
  | tells => exact numbered.ages (Manager.ages_send _ _ _)
  | turns => exact numbered.ages (Manager.ages_step _ _ _)

/-- An armed timer stays one that has not left the armed ones, unless it leaves them now. -/
theorem Step.waits (step : Step before event after) (placed : before.Placed) {timer : Nat}
    (armed : timer ∈ before.manager.armed)
    (stays : event.isTurn timer = true →
      ∀ alarm, before.manager.alarm? timer = some alarm → alarm.left ≠ 2) :
    ∃ alarm, after.manager.alarm? timer = some alarm ∧ 2 ≤ alarm.left := by
  obtain ⟨alarm, found, waits⟩ := placed.armed timer armed
  have changes := step.changes placed timer
  rw [found] at changes
  obtain ⟨own, later⟩ := Option.ne_none_iff_exists'.1 (changes.stays (Option.some_ne_none alarm))
  refine ⟨own, later, ?_⟩
  rw [later] at changes
  have less : alarm.left = own.left + _ := changes.left
  cases turns : event.isTurn timer with
  | true =>
    have more := stays turns alarm found
    rw [turns, if_pos rfl] at less
    omega
  | false =>
    rw [turns, if_neg Bool.false_ne_true] at less
    omega

theorem Step.armed (step : Step before event after) (placed : before.Placed) (timer : Nat)
    (armed : timer ∈ after.manager.armed) :
    ∃ alarm, after.manager.alarm? timer = some alarm ∧ 2 ≤ alarm.left := by
  cases step with
  | @starts manager =>
    obtain old | new := List.mem_append.1 armed
    · exact Step.starts.waits placed old nofun
    · obtain rfl : timer = manager.next := List.mem_singleton.1 new
      refine ⟨⟨[], .waiting⟩, ?_, Nat.le_succ 2⟩
      rw [Manager.alarm?_start, if_pos rfl]
  | cancels started => exact (Step.cancels started).waits placed armed nofun
  | drains => cases armed
  | tells taken => exact (Step.tells taken).waits placed armed nofun
  | @turns manager _ own alarm _ _ found makes =>
    rw [Manager.armed_step _ found] at armed
    have old : timer ∈ manager.armed := by
      split at armed
      · exact List.mem_of_mem_erase armed
      · exact armed
    refine (Step.turns found makes).waits placed old fun turns alarm' found' last => ?_
    · obtain rfl : own = timer := by simpa [Event.isTurn] using turns
      obtain rfl : alarm = alarm' := Option.some.inj (found.symm.trans found')
      rw [if_pos last] at armed
      exact (placed.nodup.mem_erase_iff.1 armed).1 rfl

theorem Step.nodup (step : Step before event after) (placed : before.Placed) :
    after.manager.armed.Nodup := by
  cases step with
  | @starts manager =>
    refine List.nodup_append.2 ⟨placed.nodup, List.nodup_singleton _, ?_⟩
    rintro timer armed _ new rfl
    obtain rfl := List.mem_singleton.1 new
    obtain ⟨alarm, found, _⟩ := placed.armed _ armed
    cases (placed.numbered _ (Nat.le_refl _)).symm.trans found
  | cancels | tells => exact placed.nodup
  | drains => exact List.nodup_nil
  | turns found =>
    rw [Manager.armed_step _ found]
    split
    · exact placed.nodup.erase _
    · exact placed.nodup

theorem Step.placed (step : Step before event after) (placed : before.Placed) : after.Placed := by
  refine ⟨step.numbered placed.numbered, step.armed placed, fun timer drained => ?_,
    step.nodup placed⟩
  refine (step.changes placed timer).stays ?_
  cases step with
  | starts | cancels | turns => exact placed.drained timer drained
  | drains =>
    obtain old | armed := List.mem_append.1 drained
    · exact placed.drained timer old
    · obtain ⟨alarm, found, _⟩ := placed.armed timer armed
      exact ne_of_eq_of_ne found (Option.some_ne_none alarm)
  | tells => exact placed.drained timer (List.mem_of_mem_erase drained)

end Step

end MailReplica.Timer
