import Std.Data.ExtTreeMap

/-! # Timers

A timer that is started is armed until it has been heard of: it fires when its time is over or when
all timers are told to fire, and does not when it is cancelled first.  Signals to a timer queue up,
and it obeys the first one.
-/

namespace MailReplica.Timer

inductive Signal where
  | cancel
  | fireNow
  deriving DecidableEq

inductive Stage where
  /-- It waits for a signal or for its time to be over. -/
  | waiting
  /-- It knows whether to fire, and is about to leave the armed ones. -/
  | leaving (fires : Bool)
  /-- It has left the armed ones. -/
  | acting (fires : Bool)
  | ended (fired : Bool)
  deriving DecidableEq

structure Alarm where
  /-- The signals it has not obeyed, first to last. -/
  signals : List Signal
  stage : Stage
  deriving DecidableEq

structure Manager where
  /-- Every timer that was started, by its number. -/
  timers : Std.ExtTreeMap Nat Alarm
  /-- The numbers of the armed timers. -/
  armed : List Nat
  /-- The number of the next timer. -/
  next : Nat

namespace Manager

/-- A manager that has started no timer. -/
def empty : Manager :=
  ⟨∅, [], 0⟩

/-- Starts a timer; the result is its number. -/
def start (manager : Manager) : Nat × Manager :=
  (manager.next,
    { timers := manager.timers.insert manager.next ⟨[], .waiting⟩
      armed := manager.armed ++ [manager.next]
      next := manager.next + 1 })

def send (manager : Manager) (signal : Signal) (number : Nat) : Manager :=
  { manager with
    timers := manager.timers.modify number fun timer =>
      { timer with signals := timer.signals ++ [signal] } }

def cancel (manager : Manager) (number : Nat) : Manager :=
  manager.send .cancel number

/-- Tells all armed timers to fire; none of them is armed any more. -/
def reset (manager : Manager) : Manager :=
  manager.armed.foldl (fun manager number => manager.send .fireNow number)
    { manager with armed := [] }

def armedCount (manager : Manager) : Nat :=
  manager.armed.length

/-- A timer that waits hears a signal, or that its time is over if it has no signal. -/
def hear (timer : Alarm) (timeIsOver : Bool) : Alarm :=
  match timer.stage, timer.signals with
  | .waiting, .cancel :: others => ⟨others, .leaving false⟩
  | .waiting, .fireNow :: others => ⟨others, .leaving true⟩
  | .waiting, [] => if timeIsOver then ⟨[], .leaving true⟩ else timer
  | _, _ => timer

def step (manager : Manager) (timeIsOver : Bool) (number : Nat) : Manager :=
  match manager.timers.get? number with
  | none => manager
  | some timer =>
    match timer.stage with
    | .waiting =>
      { manager with timers := manager.timers.insert number (hear timer timeIsOver) }
    | .leaving fires =>
      { manager with
        timers := manager.timers.insert number { timer with stage := .acting fires }
        armed := manager.armed.erase number }
    | .acting fires =>
      { manager with timers := manager.timers.insert number { timer with stage := .ended fires } }
    | .ended _ => manager

/-- A timer goes as far as it gets. -/
def settle (manager : Manager) (timeIsOver : Bool) (number : Nat) : Manager :=
  ((manager.step timeIsOver number).step timeIsOver number).step timeIsOver number

/-- Every timer goes as far as it gets before its time is over. -/
def settleAll (manager : Manager) : Manager :=
  manager.timers.keys.foldl (fun manager number => manager.settle false number) manager

/-- The numbers of the timers that fired. -/
def fired (manager : Manager) : List Nat :=
  (manager.timers.toList.filter fun (_, timer) => timer.stage == .ended true).map Prod.fst

end Manager

end MailReplica.Timer
