import MailReplica.Proofs.Idle.Phases

/-! # Who holds a timer

A timer that a run starts is held by the run until the idler takes note of it, and by the idler from
then on.  The idler lets go of it only by cancelling it (`happens_holds`), and holds none but while
the run is at the read that the timer was started for (`Lived.timedInRead`).
-/

namespace MailReplica.Idle

/-- Whether the idler may hold a timer while its run stands at a point. -/
def Point.holdsTimer : Point → Bool
  | releasing round | reading round | acquiring round _ | disarming round _ => round.granted
  | _ => false

/-- The idler holds a timer, or its run has just started it. -/
def Life.Holds (life : Life) (timer : TimerId) : Prop :=
  life.idler.timer = some timer ∨ ∃ round, life.run = some (.armed round timer)

/-- The idler holds no timer, or its run is at a read for which one may have been started. -/
def Life.TimedInRead (life : Life) : Prop :=
  life.idler.timer = none ∨ ∃ point, life.run = some point ∧ point.holdsTimer = true

section Step

variable {settings : Settings} {life after : Life} {moment : Moment}

theorem SendsDone.timer_eq {before own : Idler} {calls : List Exchange}
    (sends : SendsDone before own calls) :
    own.timer = before.timer ∨
      own.timer = none ∧ ∀ timer, before.timer = some timer → .cancelTimer timer ∈ calls := by
  cases sends with
  | unfit | gone => exact .inl rfl
  | sent =>
    refine .inr ⟨rfl, fun timer held => ?_⟩
    rw [held]
    simp

theorem SendsDone.timer_eq_none {before own : Idler} {calls : List Exchange}
    (sends : SendsDone before own calls) (free : before.timer = none) : own.timer = none := by
  obtain same | ⟨none, _⟩ := sends.timer_eq
  · exact same.trans free
  · exact none

theorem Life.TimedInRead.timer_eq_none {idler : Idler} {point : Point}
    (timed : Life.TimedInRead ⟨idler, some point⟩) (free : point.holdsTimer = false) :
    idler.timer = none := by
  obtain none | ⟨_, stands, holds⟩ := timed
  · exact none
  · cases stands
    cases free.symm.trans holds

theorem happens_timedInRead (happens : Happens settings life moment after)
    (inStep : life.InStep) (timed : life.TimedInRead) : after.TimedInRead := by
  cases happens with
  | enter =>
    obtain none | ⟨_, stands, _⟩ := timed
    · exact .inl none
    · cases stands
  | refuse => exact timed
  | stop _ sends | refresh _ sends =>
    exact timed.imp sends.timer_eq_none id
  | leave => exact .inl (timed.timer_eq_none rfl)
  | reply _ resumes =>
    cases resumes with
    | released => exact .inr ⟨_, rfl, (mem_phases_granted inStep.phase).1⟩
    | woken _ _ granted => exact .inr ⟨_, rfl, granted⟩
    | acquired => exact .inr ⟨_, rfl, (mem_phases_granted inStep.phase).1⟩
    | read _ _ ungranted | unread _ _ ungranted => exact .inl (timed.timer_eq_none ungranted)
    | _ => exact .inl (timed.timer_eq_none rfl)
  | work works =>
    cases works with
    | armed => exact .inr ⟨_, rfl, (mem_phases_granted inStep.phase).1⟩
    | disarmed | broken | finishes => exact .inl rfl
    | changed _ _ _ _ _ _ sends => exact .inl (sends.timer_eq_none (timed.timer_eq_none rfl))
    | _ => exact .inl (timed.timer_eq_none rfl)

/-- Nobody lets go of a timer but by cancelling it. -/
theorem happens_holds (happens : Happens settings life moment after) (timed : life.TimedInRead)
    {timer : TimerId} (holds : life.Holds timer) :
    after.Holds timer ∨ .cancelTimer timer ∈ moment.calls := by
  cases happens with
  | enter | leave =>
    obtain own | ⟨_, stands⟩ := holds
    · exact .inl (.inl own)
    · cases stands
  | refuse => exact .inl holds
  | stop _ sends | refresh _ sends =>
    obtain own | started := holds
    · obtain same | ⟨_, cancels⟩ := sends.timer_eq
      · exact .inl (.inl (same.trans own))
      · exact .inr (cancels timer own)
    · exact .inl (.inr started)
  | reply _ resumes =>
    obtain own | ⟨_, stands⟩ := holds
    · exact .inl (.inl own)
    · cases stands
      cases resumes
  | work works =>
    obtain own | ⟨_, stands⟩ := holds
    · cases works with
      | armed => cases (timed.timer_eq_none rfl).symm.trans own
      | disarmed | broken | finishes =>
        refine .inr ?_
        rw [own]
        exact List.mem_singleton_self _
      | changed _ _ _ _ _ _ sends =>
        obtain same | ⟨_, cancels⟩ := sends.timer_eq
        · exact .inl (.inl (same.trans own))
        · exact .inr (cancels timer own)
      | _ => exact .inl (.inl own)
    · cases stands
      cases works
      exact .inl (.inl rfl)

end Step

section Lived

variable {settings : Settings} {history : List Moment} {life : Life}

theorem Lived.timedInRead (lived : Lived settings history life) : life.TimedInRead := by
  induction lived with
  | new => exact .inl rfl
  | step lived step ih => exact happens_timedInRead (happens_step step) lived.inStep ih

/-- Where a run begins a round, nobody holds a timer. -/
theorem Lived.not_holds (lived : Lived settings history life) {connection : ConnectionId}
    (stands : life.run = some (.starting connection)) (timer : TimerId) : ¬ life.Holds timer := by
  obtain ⟨idler, run⟩ := life
  obtain rfl : run = some (.starting connection) := stands
  rintro (own | ⟨_, elsewhere⟩)
  · cases (lived.timedInRead.timer_eq_none rfl).symm.trans own
  · cases elsewhere

end Lived

end MailReplica.Idle
