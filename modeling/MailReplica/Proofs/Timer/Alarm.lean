import Mathlib.Data.Option.Basic
import MailReplica.Timer.Manager

/-! # What is decided about a timer

A timer that waits and has heard nothing is still to be decided.  As soon as it has a signal, or its
time is over, it is decided whether it fires (`Alarm.decision`), and nothing changes that any more:
not what it is told afterwards, and not what is done with other timers (`Manager.Ages`).  So to
cancel a timer keeps it from firing only if it was not decided before.
-/

namespace MailReplica.Timer

namespace Alarm

/-- Whether a timer fires or has fired, if that is decided. -/
def decision (alarm : Alarm) : Option Bool :=
  match alarm.stage, alarm.signals with
  | .waiting, [] => none
  | .waiting, signal :: _ => some (signal == .fireNow)
  | .leaving fires, _ | .acting fires, _ | .ended fires, _ => some fires

/-- Whether a timer is still to fire, if that is decided.  One that has fired does not fire
again. -/
def verdict (alarm : Alarm) : Option Bool :=
  match alarm.stage with
  | .ended _ => some false
  | _ => alarm.decision

/-- What a step of its own makes of a timer. -/
def turn (timeIsOver : Bool) (alarm : Alarm) : Alarm :=
  match alarm.stage with
  | .waiting => Manager.hear alarm timeIsOver
  | .leaving fires => { alarm with stage := .acting fires }
  | .acting fires => { alarm with stage := .ended fires }
  | .ended _ => alarm

def tell (signal : Signal) (alarm : Alarm) : Alarm :=
  { alarm with signals := alarm.signals ++ [signal] }

/-- What can become of a timer: if it is not to fire it stays so, and if it is undecided it was so
before. -/
structure Ages (before after : Alarm) : Prop where
  settled : before.verdict = some false → after.verdict = some false
  undecided : after.verdict = none → before.verdict = none

namespace Ages

theorem refl (alarm : Alarm) : alarm.Ages alarm :=
  ⟨id, id⟩

theorem trans {before middle after : Alarm} (first : before.Ages middle)
    (second : middle.Ages after) : before.Ages after :=
  ⟨fun settled => second.settled (first.settled settled),
    fun undecided => first.undecided (second.undecided undecided)⟩

end Ages

theorem rel_refl (alarm : Option Alarm) : Option.Rel Ages alarm alarm := by
  cases alarm with
  | none => exact .none
  | some alarm => exact .some (.refl alarm)

theorem rel_trans {before middle after : Option Alarm} (first : Option.Rel Ages before middle)
    (second : Option.Rel Ages middle after) : Option.Rel Ages before after := by
  cases first with
  | none => exact second
  | some first =>
    cases second with
    | some second => exact .some (first.trans second)

theorem rel_map {become : Alarm → Alarm} (ages : ∀ alarm, Ages alarm (become alarm))
    (alarm : Option Alarm) : Option.Rel Ages alarm (alarm.map become) := by
  cases alarm with
  | none => exact .none
  | some alarm => exact .some (ages alarm)

theorem verdict_tell_ne_none (signal : Signal) (alarm : Alarm) :
    (alarm.tell signal).verdict ≠ none := by
  obtain ⟨signals, stage⟩ := alarm
  cases stage with
  | waiting => rcases signals with _ | ⟨_ | _, _⟩ <;> cases signal <;> exact nofun
  | _ => exact nofun

theorem ages_tell (signal : Signal) (alarm : Alarm) : alarm.Ages (alarm.tell signal) := by
  refine ⟨fun settled => ?_, fun undecided => absurd undecided (verdict_tell_ne_none signal alarm)⟩
  obtain ⟨signals, stage⟩ := alarm
  cases stage with
  | waiting => rcases signals with _ | ⟨_ | _, _⟩ <;> first | rfl | cases settled
  | _ => exact settled

theorem ages_turn (timeIsOver : Bool) (alarm : Alarm) : alarm.Ages (alarm.turn timeIsOver) := by
  obtain ⟨signals, stage⟩ := alarm
  cases stage with
  | waiting =>
    rcases signals with _ | ⟨_ | _, _⟩
    · cases timeIsOver <;> exact ⟨nofun, fun _ => rfl⟩
    · exact ⟨fun _ => rfl, nofun⟩
    · exact ⟨nofun, nofun⟩
  | leaving => exact ⟨id, nofun⟩
  | acting => exact ⟨fun _ => rfl, nofun⟩
  | ended => exact ⟨id, id⟩

end Alarm

namespace Manager

/-- The timer with a number, if it was started. -/
def alarm? (manager : Manager) (number : Nat) : Option Alarm :=
  manager.timers[number]?

section Operations

variable {manager : Manager} {number other : Nat}

theorem getElem?_insert (timers : Std.ExtTreeMap Nat Alarm) (alarm : Alarm) (number other : Nat) :
    (timers.insert number alarm)[other]? =
      if other = number then some alarm else timers[other]? := by
  rw [Std.ExtTreeMap.getElem?_insert]
  by_cases same : other = number
  · rw [if_pos same, if_pos (Nat.compare_eq_eq.2 same.symm)]
  · rw [if_neg same, if_neg fun is => same (Nat.compare_eq_eq.1 is).symm]

theorem alarm?_start (manager : Manager) (number : Nat) :
    manager.start.2.alarm? number =
      if number = manager.next then some ⟨[], .waiting⟩ else manager.alarm? number :=
  getElem?_insert _ _ _ _

theorem alarm?_send (manager : Manager) (signal : Signal) (number other : Nat) :
    (manager.send signal number).alarm? other =
      if other = number then (manager.alarm? other).map (Alarm.tell signal)
      else manager.alarm? other := by
  unfold alarm? send
  rw [Std.ExtTreeMap.getElem?_modify]
  by_cases same : other = number
  · subst same
    rw [if_pos rfl, if_pos (Nat.compare_eq_eq.2 rfl)]
    rfl
  · rw [if_neg same, if_neg fun is => same (Nat.compare_eq_eq.1 is).symm]

theorem alarm?_step (manager : Manager) (timeIsOver : Bool) (number other : Nat) :
    (manager.step timeIsOver number).alarm? other =
      if other = number then (manager.alarm? other).map (Alarm.turn timeIsOver)
      else manager.alarm? other := by
  unfold step
  rw [Std.ExtTreeMap.get?_eq_getElem?]
  cases found : manager.timers[number]? with
  | none =>
    by_cases same : other = number
    · subst same
      simp [alarm?, found]
    · rw [if_neg same]
  | some alarm =>
    obtain ⟨signals, stage⟩ := alarm
    by_cases same : other = number
    · subst same
      cases stage <;> simp [alarm?, found, Alarm.turn]
    · cases stage <;> simp [alarm?, getElem?_insert, same]

end Operations

/-! ## What becomes of the timers -/

/-- What can become of the timers of a manager that starts none. -/
structure Ages (before after : Manager) : Prop where
  next : after.next = before.next
  alarms : ∀ number, Option.Rel Alarm.Ages (before.alarm? number) (after.alarm? number)

/-- The timers of a manager have the numbers that it has given away. -/
def Numbered (manager : Manager) : Prop :=
  ∀ number, manager.next ≤ number → manager.alarm? number = none

section Ages

variable {before middle after : Manager}

theorem Ages.refl (manager : Manager) : manager.Ages manager :=
  ⟨rfl, fun _ => Alarm.rel_refl _⟩

theorem Ages.trans (first : before.Ages middle) (second : middle.Ages after) :
    before.Ages after :=
  ⟨second.next.trans first.next, fun number =>
    Alarm.rel_trans (first.alarms number) (second.alarms number)⟩

section Ages

variable {alarm : Alarm} {number : Nat}

theorem Ages.settled (ages : before.Ages after) (found : before.alarm? number = some alarm)
    (settled : alarm.verdict = some false) :
    ∃ later, after.alarm? number = some later ∧ later.verdict = some false := by
  have same := ages.alarms number
  rw [found] at same
  generalize after.alarm? number = later at same
  cases same with
  | some same => exact ⟨_, rfl, same.settled settled⟩

theorem Ages.exists_before (ages : before.Ages after) (found : after.alarm? number = some alarm) :
    ∃ earlier, before.alarm? number = some earlier ∧
      (alarm.verdict = none → earlier.verdict = none) := by
  have same := ages.alarms number
  rw [found] at same
  generalize before.alarm? number = earlier at same
  cases same with
  | some same => exact ⟨_, rfl, same.undecided⟩

end Ages

theorem ages_of_map {become : Alarm → Alarm} {number : Nat}
    (ages : ∀ alarm, Alarm.Ages alarm (become alarm)) (next : after.next = before.next)
    (changes : ∀ other, after.alarm? other =
      if other = number then (before.alarm? other).map become else before.alarm? other) :
    before.Ages after := by
  refine ⟨next, fun other => ?_⟩
  rw [changes]
  split
  · exact Alarm.rel_map ages _
  · exact Alarm.rel_refl _

theorem ages_send (manager : Manager) (signal : Signal) (number : Nat) :
    manager.Ages (manager.send signal number) :=
  ages_of_map (Alarm.ages_tell signal) rfl (alarm?_send manager signal number)

theorem next_step (manager : Manager) (timeIsOver : Bool) (number : Nat) :
    (manager.step timeIsOver number).next = manager.next := by
  unfold step
  split
  · rfl
  · split <;> rfl

theorem ages_step (manager : Manager) (timeIsOver : Bool) (number : Nat) :
    manager.Ages (manager.step timeIsOver number) :=
  ages_of_map (Alarm.ages_turn timeIsOver) (next_step manager timeIsOver number)
    (alarm?_step manager timeIsOver number)

theorem Numbered.ages (numbered : before.Numbered) (ages : before.Ages after) :
    after.Numbered := by
  intro number unused
  have same := ages.alarms number
  rw [numbered number (ages.next ▸ unused)] at same
  generalize after.alarm? number = alarm at same
  cases same
  rfl

theorem Numbered.start (numbered : before.Numbered) : before.start.2.Numbered := by
  intro number unused
  have later : before.next < number := unused
  rw [alarm?_start, if_neg (Nat.ne_of_gt later)]
  exact numbered number (Nat.le_of_lt later)

end Ages

end Manager

end MailReplica.Timer
