import MailReplica.Proofs.Idle.History
import MailReplica.Push.Pusher

/-! # The life of a pusher

A pusher calls for a run of its idler, takes what it comes to, and tells it.  The steps of the
idler, with the stops and fresh rounds that come between, and those of the pusher make one history
(`Watched`), and the part of it that is the idler's is a history of the idler (`Watched.lived`).
-/

namespace MailReplica

namespace Idle.Deed

/-- Whether somebody calls for a run. -/
def isCall : Deed → Bool
  | enter | refuse _ => true
  | _ => false

/-- What a call for a run comes to, when it does. -/
def returns? : Deed → Option Ending
  | leave ending => some ending
  | refuse failure => some (.error failure)
  | _ => none

end Idle.Deed

namespace Push

open Idle (Settings Lived)

/-! ## Steps -/

/-- A pusher at work on its idler. -/
structure Watch where
  pusher : Pusher
  /-- Whether the stop signal was given. -/
  signal : Bool
  life : Idle.Life

inductive Moment where
  /-- Something is done in the life of the idler. -/
  | idler (moment : Idle.Moment)
  /-- The pusher looks at the stop signal. -/
  | look
  | tell (event : Event)
  /-- A wait is over. -/
  | wake
  /-- The stop signal is given. -/
  | signal

namespace Moment

def idler? : Moment → Option Idle.Moment
  | idler moment => some moment
  | _ => none

/-- The event that the pusher tells, if it tells one. -/
def told? : Moment → Option Event
  | tell event => some event
  | _ => none

/-- Whether the pusher calls for a run. -/
def isCall (moment : Moment) : Bool :=
  moment.idler?.any fun moment => moment.deed.isCall

/-- Whether somebody stops the pusher or its idler. -/
def stops : Moment → Bool
  | idler moment => moment.stops
  | signal => true
  | _ => false

/-- Whether something goes wrong that a run can fail of. -/
def FailsWith (moment : Moment) (failure : Failure) : Prop :=
  ∃ own, moment.idler? = some own ∧ own.FailsWith failure

theorem tell_mem_cons {moment : Moment} {event : Event} {past : List Moment}
    (silent : moment.told? = none) : tell event ∈ moment :: past ↔ tell event ∈ past := by
  have other : tell event ≠ moment := by
    rintro rfl
    cases silent
  rw [List.mem_cons, or_iff_right other]

theorem not_failsWith {moment : Moment} (other : moment.idler? = none) (failure : Failure) :
    ¬ moment.FailsWith failure := by
  rintro ⟨own, is, _⟩
  cases other.symm.trans is

theorem failsWith_idler {moment : Idle.Moment} {failure : Failure} :
    (idler moment).FailsWith failure ↔ moment.FailsWith failure := by
  refine ⟨?_, fun fails => ⟨moment, rfl, fails⟩⟩
  rintro ⟨own, is, fails⟩
  cases is
  exact fails

end Moment

/-- A pusher after something was done with its idler. -/
def Pusher.after (pusher : Pusher) (deed : Idle.Deed) : Pusher :=
  match deed.returns? with
  | some ending => pusher.take ending
  | none => pusher

/-- Nobody but the pusher calls for runs of its idler, one after the other. -/
inductive Step (settings : Settings) : Watch → Moment → Watch → Prop
  | idler {pusher : Pusher} {signal : Bool} {before after : Idle.Life} {moment : Idle.Moment}
      (step : Idle.Step settings before moment after)
      (own : moment.deed.isCall = true → pusher.point = .running ∧ before.run = none) :
      Step settings ⟨pusher, signal, before⟩ (.idler moment)
        ⟨pusher.after moment.deed, signal, after⟩
  | look {pusher : Pusher} {signal : Bool} {life : Idle.Life} :
      Step settings ⟨pusher, signal, life⟩ .look ⟨pusher.look signal, signal, life⟩
  | tell {pusher : Pusher} {signal : Bool} {life : Idle.Life} {event : Event}
      (tells : pusher.point = .telling event) :
      Step settings ⟨pusher, signal, life⟩ (.tell event) ⟨pusher.told, signal, life⟩
  | wake {pusher : Pusher} {signal : Bool} {life : Idle.Life} :
      Step settings ⟨pusher, signal, life⟩ .wake ⟨pusher.wake signal, signal, life⟩
  | signal {pusher : Pusher} {signal : Bool} {life : Idle.Life} :
      Step settings ⟨pusher, signal, life⟩ .signal ⟨pusher, true, life⟩

/-- A new pusher of a new idler can have come to `watch` by the moments of a history, latest
first. -/
inductive Watched (settings : Settings) (backoff : Backoff) : List Moment → Watch → Prop
  | new : Watched settings backoff [] ⟨.new backoff, false, .new⟩
  | step {past : List Moment} {watch after : Watch} {moment : Moment}
      (watched : Watched settings backoff past watch) (step : Step settings watch moment after) :
      Watched settings backoff (moment :: past) after

/-! ## What a history says -/

theorem look_eq {pusher : Pusher} {signal : Bool} (runs : pusher.point = .running) :
    pusher.look signal = pusher := by
  simp only [Pusher.look, runs]

theorem wake_eq {pusher : Pusher} {signal : Bool} (runs : pusher.point = .running) :
    pusher.wake signal = pusher := by
  simp only [Pusher.wake, runs]

section Watched

variable {settings : Settings} {backoff : Backoff} {history : List Moment} {watch : Watch}

theorem Watched.lived (watched : Watched settings backoff history watch) :
    Lived settings (history.filterMap Moment.idler?) watch.life := by
  induction watched with
  | new => exact .new
  | step _ step ih =>
    cases step with
    | idler step => exact ih.step step
    | _ => exact ih

/-- A run goes on only while the pusher waits for it. -/
theorem Watched.waits (watched : Watched settings backoff history watch) :
    watch.life.run = none ∨ watch.pusher.point = .running := by
  induction watched with
  | new => exact .inl rfl
  | step _ step ih =>
    cases step with
    | idler step own =>
      cases step with
      | enter => exact .inr (own rfl).1
      | refuse => exact .inl (own rfl).2
      | leave => exact .inl rfl
      | work | reply => exact .inr (ih.resolve_left nofun)
      | stop | refresh => exact ih
    | look => exact ih.imp id fun runs => (congrArg Pusher.point (look_eq runs)).trans runs
    | tell tells => exact .inl (ih.resolve_right fun runs => by cases tells.symm.trans runs)
    | wake => exact ih.imp id fun runs => (congrArg Pusher.point (wake_eq runs)).trans runs
    | signal => exact ih

theorem Watched.signal_eq (watched : Watched settings backoff history watch)
    (unstopped : ∀ moment ∈ history, moment.stops = false) : watch.signal = false := by
  induction watched with
  | new => rfl
  | step _ step ih =>
    obtain ⟨now, before⟩ := List.forall_mem_cons.1 unstopped
    cases step with
    | signal => cases now
    | _ => exact ih before

end Watched

end Push

end MailReplica
