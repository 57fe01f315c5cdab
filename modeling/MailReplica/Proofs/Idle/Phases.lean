import MailReplica.Proofs.Idle.Life

/-! # Phases and points

At each point of a run the idler can only be in a few phases (`Point.phases`).  So every transition
that a run attempts is allowed.
-/

namespace MailReplica.Idle

/-- The phases of a run that goes on. -/
def runPhases : List Phase :=
  [.capabilityCheck, .sendingIdle, .awaitingContinuation, .inIdle, .sendingDone]

/-- The phases that an idler can be in while its run stands at a point.  A stop or a fresh round can
have led to `sendingDone` wherever `DONE` may be sent. -/
def Point.phases : Point → List Phase
  | connecting | connected _ | opening _ | checking _ | refused => [.capabilityCheck]
  | starting _ | concluding => [.capabilityCheck, .inIdle, .sendingDone]
  | preparing round | arming round | armed round _ | releasing round | acquiring round _
  | disarming round _ => if round.granted then [.inIdle, .sendingDone] else []
  | reading round | handling round _ =>
    if round.granted then [.inIdle, .sendingDone] else [.awaitingContinuation, .sendingDone]
  | deciding _ => [.inIdle, .sendingDone]
  | finishing (.ok .notSupported) | closing _ (.ok .notSupported) | ended (.ok .notSupported) =>
    [.notSupported]
  | finishing _ => runPhases
  | closing _ _ | ended _ => [.stopped]

/-- The phases that an idler can be in, by where its run stands. -/
def phasesAt : Option Point → List Phase
  | none => [.notStarted, .stopped, .notSupported]
  | some point => point.phases

/-- Wherever `DONE` may be sent, the idler may be in the phase after it. -/
def ClosedByDone (phases : List Phase) : Prop :=
  ∀ phase ∈ phases, phase.acceptsDone = true → .sendingDone ∈ phases

instance (phases : List Phase) : Decidable (ClosedByDone phases) :=
  inferInstanceAs (Decidable (∀ phase ∈ phases, phase.acceptsDone = true → .sendingDone ∈ phases))

theorem closedByDone (run : Option Point) : ClosedByDone (phasesAt run) := by
  cases run with
  | none => decide
  | some point =>
    change ClosedByDone point.phases
    unfold Point.phases
    split
    all_goals first | decide | (split <;> decide)

theorem sendsDone_phases {before after : Idler} {calls : List Exchange} (run : Option Point)
    (sends : SendsDone before after calls) (fits : before.phase ∈ phasesAt run) :
    after.phase ∈ phasesAt run := by
  cases sends with
  | unfit | gone => exact fits
  | sent _ _ _ accepts => exact closedByDone run _ fits accepts

/-- A round can begin wherever a run begins one. -/
theorem allows_sendingIdle {connection : ConnectionId} {phase : Phase}
    (fits : phase ∈ (Point.starting connection).phases) : phase.allows .sendingIdle = true := by
  simp only [Point.phases, List.mem_cons, List.not_mem_nil, or_false] at fits
  obtain rfl | rfl | rfl := fits <;> rfl

/-- What holds at both points at which a round is read on holds at the one that is chosen. -/
theorem Point.apply_next {β : Type} {f : Point → β} {round : Round} {value : β}
    (preparing : f (.preparing round) = value) (reading : f (.reading round) = value) :
    f (.next round) = value := by
  unfold Point.next
  split
  · exact preparing
  · exact reading

theorem mem_phases_next {round : Round} {phase : Phase} :
    phase ∈ (Point.next round).phases ↔ phase ∈ (Point.reading round).phases := by
  unfold Point.next
  split <;> simp_all [Point.phases]

theorem allows_stopped {phase : Phase} (runs : phase ∈ runPhases) :
    phase.allows .stopped = true := by
  simp only [runPhases, List.mem_cons, List.not_mem_nil, or_false] at runs
  obtain rfl | rfl | rfl | rfl | rfl := runs <;> rfl

theorem mem_phases_handling {round : Round} {response : Wire.Response} {phase : Phase}
    (fits : phase ∈ (Point.handling round response).phases) :
    phase = .sendingDone ∨ round.granted = true ∧ phase = .inIdle ∨
      round.granted = false ∧ phase = .awaitingContinuation := by
  cases granted : round.granted <;>
    simp only [Point.phases, granted, if_true, if_false, Bool.false_eq_true, List.mem_cons,
      List.not_mem_nil, or_false] at fits <;>
    obtain rfl | rfl := fits <;> simp

/-- Between the pieces of a read the round is a granted one. -/
theorem mem_phases_granted {round : Round} {phase : Phase}
    (fits : phase ∈ if round.granted then [Phase.inIdle, .sendingDone] else []) :
    round.granted = true ∧ phase ∈ [Phase.inIdle, .sendingDone] := by
  split at fits
  · next granted => exact ⟨granted, fits⟩
  · cases fits

theorem works_phases {settings : Settings} {before after : Idler} {point next : Point}
    {calls : List Exchange} (works : Works settings before point next after calls)
    (fits : before.phase ∈ point.phases) (outcome : before.outcome ≠ .notSupported) :
    after.phase ∈ next.phases := by
  cases works with
  | connected | arms | rests | armed | halts => exact fits
  | unsupported => exact List.mem_singleton_self _
  | unrefused barred =>
    -- The run has not come further than its first phase, which allows to give up.
    rw [List.mem_singleton.1 fits] at barred
    cases barred
  | unbegun connection go barred => cases (allows_sendingIdle fits).symm.trans barred
  | unsent => simp [Point.phases, runPhases]
  | begins => simp [Point.phases]
  | disarmed round =>
    obtain ⟨granted, here⟩ := mem_phases_granted fits
    simpa only [Point.phases, granted, if_true] using here
  | broken => exact List.mem_of_mem_drop (i := 3) (mem_phases_granted fits).2
  | granted => exact mem_phases_next.2 (List.mem_cons_self)
  | unset => simp [Point.phases, runPhases]
  | late round _ _ past =>
    -- Agreed late or not, the round is one that the server agreed to from now on.
    rw [mem_phases_next]
    obtain here | ⟨_, here⟩ | ⟨_, here⟩ := mem_phases_handling fits
    · simp [here, Point.phases]
    · simp [here, Point.phases]
    · exact absurd here past
  | declined => exact List.mem_singleton_self _
  | completed _ _ _ _ past =>
    obtain here | ⟨_, here⟩ | ⟨_, here⟩ := mem_phases_handling fits
    · simp [here, Point.phases]
    · simp [here, Point.phases]
    · exact absurd here past
  | failed =>
    obtain here | ⟨_, here⟩ | ⟨_, here⟩ := mem_phases_handling fits <;>
      simp [here, Point.phases, runPhases]
  | changed round response after _ _ _ sends =>
    have fits : after.phase ∈ (Point.handling round response).phases :=
      sendsDone_phases (some (.handling round response)) sends fits
    cases granted : round.granted with
    | true => exact mem_phases_next.2 fits
    | false =>
      obtain here | ⟨_, here⟩ | ⟨_, here⟩ := mem_phases_handling fits <;>
        simp [here, Point.phases, runPhases]
  | ignored => exact mem_phases_next.2 fits
  | proceeds | ends => exact List.mem_cons_of_mem _ fits
  | concludes =>
    have runs : before.phase ∈ runPhases := by
      simp only [Point.phases, List.mem_cons, List.not_mem_nil, or_false] at fits
      obtain here | here | here := fits <;> simp [here, runPhases]
    cases own : before.outcome with
    | sync | stopped => exact runs
    | notSupported => exact absurd own outcome
  | finishes ending phase next phase_eq next_eq =>
    subst phase_eq next_eq
    rcases ending with failure | (_ | _ | _)
    case ok.notSupported => cases before.connection <;> exact fits
    all_goals
      have stops := allows_stopped fits
      cases before.connection <;> simp [Point.phases, stops]

theorem resumes_phases {point next : Point} {reply : Reply} {phase : Phase}
    (resumes : Resumes point reply next) (fits : phase ∈ point.phases) : phase ∈ next.phases := by
  cases resumes with
  | connected | opened | timed | acquired | read => exact fits
  | released =>
    obtain ⟨granted, here⟩ := mem_phases_granted fits
    simpa only [Point.phases, granted, if_true] using here
  | unconnected | unopened | unchecked =>
    obtain rfl := List.mem_singleton.1 fits
    exact List.mem_cons_self
  | capable => exact List.mem_cons.2 (.inl (List.mem_singleton.1 fits))
  | incapable => exact fits
  | woken round response granted =>
    simpa only [Point.phases, granted, if_true] using fits
  | unread round failure ungranted =>
    simp only [Point.phases, ungranted, Bool.false_eq_true, if_false] at fits
    obtain rfl | rfl : phase = .awaitingContinuation ∨ phase = .sendingDone := by simpa using fits
    all_goals simp [Point.phases, runPhases]
  | closed connection ending => rcases ending with failure | (_ | _ | _) <;> exact fits

/-! ## What the run would come to -/

/-- Nothing is noted but a stop. -/
def quiet : List (Outcome × Bool) :=
  [(.stopped, false), (.stopped, true)]

/-- A change may be noted, and the run is to end then. -/
def heedful : List (Outcome × Bool) :=
  (.sync, true) :: quiet

/-- Anything may be noted that a run can note. -/
def anyNoted : List (Outcome × Bool) :=
  (.sync, false) :: heedful

theorem mem_quiet {outcome : Outcome} {stop : Bool} :
    (outcome, stop) ∈ quiet ↔ outcome = .stopped := by
  cases outcome <;> cases stop <;> decide

theorem mem_heedful {outcome : Outcome} {stop : Bool} :
    (outcome, stop) ∈ heedful ↔ outcome = .stopped ∨ outcome = .sync ∧ stop = true := by
  cases outcome <;> cases stop <;> decide

theorem mem_anyNoted {outcome : Outcome} {stop : Bool} :
    (outcome, stop) ∈ anyNoted ↔ outcome ≠ .notSupported := by
  cases outcome <;> cases stop <;> decide

/-- What an idler can have noted while its run stands at a point: what the run comes to if it is
ended by a stop, and whether a stop is due. -/
def Point.outcomes : Point → List (Outcome × Bool)
  | connecting | connected _ | opening _ | checking _ | refused | starting _ => quiet
  | preparing _ | arming _ | armed _ _ | releasing _ | acquiring _ _ | disarming _ _
  | deciding _ => heedful
  | reading round | handling round _ => if round.granted then heedful else quiet
  | concluding => [(.sync, true), (.stopped, true)]
  | finishing (.ok .sync) => [(.sync, true)]
  | finishing (.ok .stopped) => [(.stopped, true)]
  | finishing (.ok .notSupported) => quiet
  | finishing (.error _) => heedful
  | closing _ _ | ended _ => anyNoted

def outcomesAt : Option Point → List (Outcome × Bool)
  | none => anyNoted
  | some point => point.outcomes

/-- Anybody may ask for a stop at any time, and nothing else is noted than what a run can note. -/
def OpenToStop (outcomes : List (Outcome × Bool)) : Prop :=
  ∀ noted ∈ outcomes, (noted.1, true) ∈ outcomes ∧ noted ∈ anyNoted

instance (outcomes : List (Outcome × Bool)) : Decidable (OpenToStop outcomes) :=
  inferInstanceAs (Decidable (∀ noted ∈ outcomes, (noted.1, true) ∈ outcomes ∧ noted ∈ anyNoted))

theorem openToStop (run : Option Point) : OpenToStop (outcomesAt run) := by
  cases run with
  | none => decide
  | some point =>
    change OpenToStop point.outcomes
    unfold Point.outcomes
    split
    all_goals first | decide | (split <;> decide)

theorem ne_notSupported_of_mem {run : Option Point} {outcome : Outcome} {stop : Bool}
    (noted : (outcome, stop) ∈ outcomesAt run) : outcome ≠ .notSupported :=
  mem_anyNoted.1 (openToStop run _ noted).2

theorem SendsDone.stopRequested_eq {before after : Idler} {calls : List Exchange}
    (sends : SendsDone before after calls) : after.stopRequested = before.stopRequested := by
  cases sends <;> rfl

theorem SendsDone.outcome_eq {before after : Idler} {calls : List Exchange}
    (sends : SendsDone before after calls) : after.outcome = before.outcome := by
  cases sends <;> rfl

theorem mem_outcomes_reading {round : Round} {noted : Outcome × Bool}
    (fits : noted ∈ (Point.reading round).outcomes) : noted ∈ heedful := by
  simp only [Point.outcomes] at fits
  split at fits
  · exact fits
  · exact List.mem_cons_of_mem _ fits

theorem mem_outcomes_next {round : Round} {noted : Outcome × Bool} :
    noted ∈ (Point.next round).outcomes ↔ noted ∈ (Point.reading round).outcomes := by
  unfold Point.next
  split <;> simp_all [Point.outcomes]

theorem works_outcomes {settings : Settings} {before after : Idler} {point next : Point}
    {calls : List Exchange} (works : Works settings before point next after calls)
    (phase : before.phase ∈ point.phases)
    (fits : (before.outcome, before.stopRequested) ∈ point.outcomes) :
    (after.outcome, after.stopRequested) ∈ next.outcomes := by
  cases works with
  | connected | unsupported | begins | arms | rests | armed | broken => exact fits
  | unsent | unrefused | unbegun => exact List.mem_cons_of_mem _ fits
  | halts connection stop =>
    have noted := mem_quiet.1 fits
    rw [stop, noted]
    exact List.mem_cons_of_mem _ List.mem_cons_self
  | disarmed =>
    simpa only [Point.outcomes, (mem_phases_granted phase).1, if_true] using fits
  | granted | late => exact mem_outcomes_next.2 (mem_outcomes_reading fits)
  | unset | completed | failed => exact mem_outcomes_reading fits
  | declined round _ _ awaiting =>
    have ungranted : round.granted = false := by
      obtain here | ⟨_, here⟩ | ⟨ungranted, _⟩ := mem_phases_handling phase
      · cases awaiting.symm.trans here
      · cases awaiting.symm.trans here
      · exact ungranted
    simpa only [Point.outcomes, ungranted, Bool.false_eq_true, if_false] using fits
  | changed round _ _ _ _ _ sends =>
    rw [sends.outcome_eq, sends.stopRequested_eq]
    cases granted : round.granted with
    | true =>
      refine mem_outcomes_next.2 ?_
      simp only [Point.outcomes, granted, if_true]
      exact List.mem_cons_self
    | false => exact List.mem_cons_self
  | ignored => exact mem_outcomes_next.2 fits
  | proceeds connection go =>
    obtain noted | ⟨_, stop⟩ := mem_heedful.1 fits
    · exact mem_quiet.2 noted
    · cases go.symm.trans stop
  | ends connection stop =>
    rw [stop]
    obtain noted | ⟨noted, _⟩ := mem_heedful.1 fits
    · rw [noted]
      exact List.mem_cons_of_mem _ List.mem_cons_self
    · rw [noted]
      exact List.mem_cons_self
  | concludes =>
    obtain same | same : (before.outcome, before.stopRequested) = (.sync, true) ∨
        (before.outcome, before.stopRequested) = (.stopped, true) := by
      simpa [Point.outcomes] using fits
    all_goals
      rw [Prod.mk.injEq] at same
      rw [same.1, same.2]
      exact List.mem_cons_self
  | finishes ending phase next phase_eq next_eq =>
    have noted : (before.outcome, false) ∈ anyNoted :=
      mem_anyNoted.2 (mem_anyNoted.1 (openToStop (some (.finishing ending)) _ fits).2)
    subst next_eq
    cases before.connection <;> exact noted

theorem resumes_outcomes {point next : Point} {reply : Reply} {phase : Phase}
    {noted : Outcome × Bool} (resumes : Resumes point reply next) (here : phase ∈ point.phases)
    (fits : noted ∈ point.outcomes) : noted ∈ next.outcomes := by
  cases resumes with
  | connected | opened | capable | incapable | timed | acquired | read => exact fits
  | unconnected | unopened | unchecked => exact List.mem_cons_of_mem _ fits
  | released =>
    simpa only [Point.outcomes, (mem_phases_granted here).1, if_true] using fits
  | woken | unread => exact mem_outcomes_reading fits
  | closed => exact fits

/-! ## What holds all the time -/

/-- An idler is in step with its run. -/
structure Life.InStep (life : Life) : Prop where
  phase : life.idler.phase ∈ phasesAt life.run
  noted : (life.idler.outcome, life.idler.stopRequested) ∈ outcomesAt life.run

theorem inStep_happens {settings : Settings} {life after : Life} {moment : Moment}
    (happens : Happens settings life moment after) (sound : life.InStep) : after.InStep := by
  obtain ⟨phase, noted⟩ := sound
  cases happens with
  | enter before =>
    exact ⟨List.mem_singleton_self _, mem_quiet.2 rfl⟩
  | refuse => exact ⟨phase, noted⟩
  | work works =>
    exact ⟨works_phases works phase (ne_notSupported_of_mem noted),
      works_outcomes works phase noted⟩
  | reply _ resumes =>
    exact ⟨resumes_phases resumes phase, resumes_outcomes resumes phase noted⟩
  | leave idler ending =>
    refine ⟨List.mem_cons_of_mem _ ?_, noted⟩
    rcases ending with failure | (_ | _ | _)
    case ok.notSupported => exact List.mem_cons_of_mem _ phase
    all_goals exact List.mem_cons.2 (.inl (List.mem_singleton.1 phase))
  | stop run sends =>
    refine ⟨sendsDone_phases run sends phase, ?_⟩
    rw [sends.outcome_eq, sends.stopRequested_eq]
    exact (openToStop run _ noted).1
  | refresh run sends =>
    refine ⟨sendsDone_phases run sends phase, ?_⟩
    rw [sends.outcome_eq, sends.stopRequested_eq]
    exact noted

theorem Lived.inStep {settings : Settings} {history : List Moment} {life : Life}
    (lived : Lived settings history life) : life.InStep := by
  -- The phase after a step hangs on what was noted before it, and the other way round, so the two
  -- are carried together.
  induction lived with
  | new => exact ⟨List.mem_cons_self, by decide⟩
  | step _ step ih => exact inStep_happens (happens_step step) ih

end MailReplica.Idle
