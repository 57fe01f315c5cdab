import MailReplica.Proofs.Idle.Rounds

/-! # Which run a stop applies to

A run clears the stop flag at its end, so a stop applies to the run that goes on only as long as the
run has not done so, and to the next one from then on (`stoppedRun`).  Nothing but a cleared flag
moves a stop on to the next run (`stoppedRun_cons`), and the flag that a stop sets stays up until
then.  So the run that a stop applies to sends no `IDLE` any more, whoever else works on the idler
meanwhile (`Lived.stoppedRun_lt`).
-/

namespace MailReplica.Idle

/-! ## Counting the runs -/

/-- The number of runs that began, which is the number of the last one. -/
def runs (history : List Moment) : Nat :=
  history.countP Moment.enters

/-- Whether the run that began last has yet to clear the stop flag. -/
def underWay : List Moment → Bool
  | [] => false
  | moment :: past => moment.enters || underWay past && !moment.clears

/-- The number of the run that a stop applies to. -/
def stoppedRun (history : List Moment) : Nat :=
  if underWay history then runs history else runs history + 1

section Step

variable {settings : Settings} {life after : Life} {moment : Moment}

theorem active_of_clears (happens : Happens settings life moment after)
    (clears : moment.clears = true) : life.active = true := by
  cases happens with
  | @work _ _ point => cases point <;> first | rfl | cases clears
  | _ => cases clears

theorem Happens.go_of_sendsIdle (happens : Happens settings life moment after)
    (sends : moment.SendsIdle) : life.idler.stopRequested = false := by
  obtain ⟨connection, answer, sends⟩ := sends
  cases happens with
  | enter | refuse | reply | leave => cases sends
  | stop _ sendsDone | refresh _ sendsDone => exact absurd sends (sendsDone.not_sendCommand _ _ _)
  | work works =>
    cases works with
    | begins _ _ go | unsent _ _ go => exact go
    | changed _ _ _ _ _ go => exact go
    | _ => simp at sends

theorem Happens.active_of_sendsIdle (happens : Happens settings life moment after)
    (sends : moment.SendsIdle) : life.active = true := by
  obtain ⟨connection, answer, sends⟩ := sends
  rw [Life.active, (happens.sendsIdle sends).1]

end Step

section Lived

variable {settings : Settings} {history between older : List Moment} {life after : Life}
  {moment sent : Moment} {calls : List Exchange}

theorem Lived.active_eq (lived : Lived settings history life) : life.active = underWay history := by
  induction lived with
  | new => rfl
  | step _ step ih => rw [happens_active (happens_step step), ih, underWay]

/-- A stop moves on to the next run when the flag is cleared, and at no other time. -/
theorem stoppedRun_cons (lived : Lived settings history life)
    (step : Step settings life moment after) :
    stoppedRun (moment :: history) = stoppedRun history + if moment.clears then 1 else 0 := by
  have happens := happens_step step
  unfold stoppedRun runs
  rw [underWay, List.countP_cons, ← lived.active_eq]
  cases enters : moment.enters with
  | true =>
    -- A run begins where none is under way, and the stop that waited for it applies to it.
    have unclear : moment.clears = false := by
      cases happens with
      | enter => rfl
      | _ => cases enters
    simp [not_active_of_enters happens enters, unclear]
  | false =>
    cases clears : moment.clears with
    | true => simp [active_of_clears happens clears]
    | false => cases life.active <;> simp

/-- As long as a stop applies to the run that it was made for, the flag is up. -/
theorem Lived.stop_due (lived : Lived settings (between ++ ⟨.stop, calls⟩ :: older) life) :
    stoppedRun older < stoppedRun (between ++ ⟨.stop, calls⟩ :: older) ∨
      stoppedRun older = stoppedRun (between ++ ⟨.stop, calls⟩ :: older) ∧
        life.idler.stopRequested = true := by
  induction between generalizing life with
  | nil =>
    cases lived with
    | step lived step =>
      refine .inr ⟨(stoppedRun_cons lived step).symm, ?_⟩
      simp [happens_stopRequested (happens_step step), Moment.clears, Moment.stops]
  | cons moment between ih =>
    rw [List.cons_append] at lived ⊢
    cases lived with
    | step lived step =>
      rw [stoppedRun_cons lived step]
      obtain later | ⟨same, due⟩ := ih lived
      · exact .inl (Nat.lt_add_right _ later)
      · cases clears : moment.clears with
        | true => exact .inl (by simp [same])
        | false =>
          refine .inr ⟨by simp [same], ?_⟩
          rw [happens_stopRequested (happens_step step), clears, due]
          rfl

/-- The run that sends `IDLE` after a stop is a later one than the stop applies to. -/
theorem Lived.stoppedRun_lt
    (lived : Lived settings (sent :: (between ++ ⟨.stop, calls⟩ :: older)) life)
    (sends : sent.SendsIdle) :
    stoppedRun older < runs (between ++ ⟨.stop, calls⟩ :: older) := by
  cases lived with
  | step lived step =>
    have happens := happens_step step
    have own : stoppedRun (between ++ ⟨.stop, calls⟩ :: older) =
        runs (between ++ ⟨.stop, calls⟩ :: older) := by
      rw [stoppedRun, ← lived.active_eq, happens.active_of_sendsIdle sends, if_pos rfl]
    obtain later | ⟨_, due⟩ := lived.stop_due
    · rwa [own] at later
    · cases due.symm.trans (happens.go_of_sendsIdle sends)

end Lived

/-! ## A stop and the run after it -/

/-- After the tour a second run begins its first round. -/
theorem lived_again (settings : Settings) :
    Lived settings
      (⟨.work (.starting 0), [.sendCommand 0 "IDLE" (.ok "A1")]⟩ :: (again ++ tour))
      ⟨⟨.awaitingContinuation, false, .stopped, none, some 0⟩, some (.reading ⟨0, "A1", false⟩)⟩ :=
  (lived_tour settings).begins (yields_willing rfl rfl)

end MailReplica.Idle
