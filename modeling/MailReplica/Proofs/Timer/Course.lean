import MailReplica.Proofs.Timer.Threads

/-! # The course of timers

What becomes of a timer is told by what comes to it first, a cancel, a signal to fire, or the end of
its time (`Ran.decision`), and its thread makes three turns and no more (`Ran.turns_add_left`).  So
whatever comes between what, its callback runs once or not at all, and a cancel has its effect
unless a signal to fire or the end of the time came first (`ran_orderly`).

A reset takes the armed timers in one step and tells them to fire in others.  What comes to a timer
between these steps is first to come: a cancel keeps the callback of a timer that was taken from
running, and its time may be over before it is told (`reset_overtaken`).
-/

namespace MailReplica.Timer

/-! ## What a history tells -/

section Ran

variable {history later earlier : List Event} {threads : Threads} {timer : Nat}

theorem Ran.placed (ran : Ran history threads) : threads.Placed := by
  induction ran with
  | new => exact ⟨fun _ _ => Std.ExtTreeMap.getElem?_empty, nofun, nofun, List.nodup_nil⟩
  | step _ step ih => exact step.placed ih

theorem Ran.exists_before (ran : Ran (later ++ earlier) threads) :
    ∃ before, Ran earlier before := by
  induction later generalizing threads with
  | nil => exact ⟨threads, ran⟩
  | cons event later ih =>
    cases ran with
    | step ran _ => exact ih ran

/-- What is decided about a timer is what its history tells. -/
theorem Ran.decision (ran : Ran history threads) (timer : Nat) :
    (threads.manager.alarm? timer).bind Alarm.decision = decided timer history := by
  induction ran with
  | new => exact congrArg (Option.bind · Alarm.decision) Std.ExtTreeMap.getElem?_empty
  | step ran step ih => rw [(step.changes ran.placed timer).decision, ih, decided]

/-- The callback has run as often as the timer has fired. -/
theorem Ran.fired (ran : Ran history threads) (timer : Nat) :
    history.count (.turns timer .fires) = (threads.manager.alarm? timer).elim 0 Alarm.fired := by
  induction ran with
  | new => exact (congrArg (Option.elim · 0 Alarm.fired) Std.ExtTreeMap.getElem?_empty).symm
  | step ran step ih =>
    rw [(step.changes ran.placed timer).fired, List.count_cons, ih]
    simp

/-- Whoever acts between, a timer makes three turns and is ended. -/
theorem Ran.turns_add_left (ran : Ran history threads) (timer : Nat) :
    history.countP (Event.isTurn timer) + (threads.manager.alarm? timer).elim 3 Alarm.left = 3 := by
  induction ran with
  | new =>
    exact congrArg (0 + Option.elim · 3 Alarm.left) Std.ExtTreeMap.getElem?_empty
  | step ran step ih =>
    rw [List.countP_cons, Nat.add_right_comm, Nat.add_assoc,
      ← (step.changes ran.placed timer).left]
    exact ih

theorem decided_append (timer : Nat) (later earlier : List Event) :
    decided timer (later ++ earlier) = (decided timer earlier).or (decided timer later) := by
  induction later with
  | nil => exact (Option.or_none).symm
  | cons event later ih => rw [List.cons_append, decided, decided, ih, Option.or_assoc]

/-- What is decided first is decided by an event of the history. -/
theorem exists_of_decided {fires : Bool} (is : decided timer history = some fires) :
    ∃ event ∈ history, event.decides? timer = some fires := by
  induction history with
  | nil => cases is
  | cons event past ih =>
    obtain before | ⟨_, now⟩ := Option.or_eq_some_iff.1 is
    · obtain ⟨own, member, decides⟩ := ih before
      exact ⟨own, List.mem_cons_of_mem _ member, decides⟩
    · exact ⟨event, List.mem_cons_self, now⟩

theorem Event.eq_of_decides? {event : Event} {fires : Bool}
    (decides : event.decides? timer = some fires) :
    fires = false ∧ event = .cancels timer ∨
      fires = true ∧ (event = .tells timer ∨ event = .turns timer .elapses) := by
  cases event with
  | cancels own =>
    obtain ⟨rfl, is⟩ := Option.ite_some_none_eq_some.1 decides
    exact .inl ⟨is.symm, rfl⟩
  | tells own =>
    obtain ⟨rfl, is⟩ := Option.ite_some_none_eq_some.1 decides
    exact .inr ⟨is.symm, .inl rfl⟩
  | turns own turn =>
    cases turn with
    | elapses =>
      obtain ⟨rfl, is⟩ := Option.ite_some_none_eq_some.1 decides
      exact .inr ⟨is.symm, .inr rfl⟩
    | _ => cases decides
  | _ => cases decides

theorem mem_of_decided_false (is : decided timer history = some false) :
    .cancels timer ∈ history := by
  obtain ⟨event, member, decides⟩ := exists_of_decided is
  obtain ⟨_, rfl⟩ | ⟨absurd, _⟩ := Event.eq_of_decides? decides
  · exact member
  · cases absurd

theorem mem_of_decided_true (is : decided timer history = some true) :
    .tells timer ∈ history ∨ .turns timer .elapses ∈ history := by
  obtain ⟨event, member, decides⟩ := exists_of_decided is
  obtain ⟨absurd, _⟩ | ⟨_, rfl | rfl⟩ := Event.eq_of_decides? decides
  · cases absurd
  · exact .inl member
  · exact .inr member

/-- What a timer does at last was decided before. -/
theorem Ran.decided_of_acts (ran : Ran history threads) (fires : Bool)
    (acts : .turns timer (if fires then .fires else .quits) ∈ history) :
    decided timer history = some fires := by
  induction ran with
  | new => cases acts
  | step ran step ih =>
    rw [decided]
    obtain rfl | member := List.mem_cons.1 acts
    · obtain ⟨alarm, _, found, makes, _⟩ := step.turn
      have decision := ran.decision timer
      rw [found] at decision
      rw [← decision, Option.bind_some, Alarm.decision_of_acts makes]
      rfl
    · rw [ih member]
      rfl

/-- The time of a timer is over only while nothing is decided about it. -/
theorem Ran.undecided_of_elapses (ran : Ran (.turns timer .elapses :: history) threads) :
    decided timer history = none := by
  cases ran with
  | step ran step =>
    obtain ⟨alarm, _, found, makes, _⟩ := step.turn
    have decision := ran.decision timer
    rw [found] at decision
    exact decision.symm.trans (Alarm.decision_of_elapses makes)

theorem Ran.not_elapses (ran : Ran (later ++ earlier) threads) {fires : Bool}
    (is : decided timer earlier = some fires) : .turns timer .elapses ∉ later := by
  intro member
  obtain ⟨since, between, rfl⟩ := List.append_of_mem member
  rw [List.append_assoc, List.cons_append] at ran
  obtain ⟨_, elapses⟩ := ran.exists_before
  have undecided := Ran.undecided_of_elapses elapses
  rw [decided_append, is] at undecided
  cases undecided

/-- One history leads to one state. -/
theorem Ran.unique {threads' : Threads} (ran : Ran history threads) (ran' : Ran history threads') :
    threads = threads' := by
  induction ran generalizing threads' with
  | new => cases ran'; rfl
  | step _ step ih =>
    cases ran' with
    | step ran' step' =>
      obtain rfl := ih ran'
      exact step.unique step'

/-- A timer that was armed as all armed ones were taken is told to fire, or is to be told. -/
theorem Ran.drained_or_told (ran : Ran (later ++ .drains :: earlier) threads) {before : Threads}
    (ran' : Ran earlier before) (armed : timer ∈ before.manager.armed) :
    timer ∈ threads.drained ∨ .tells timer ∈ later := by
  induction later generalizing threads with
  | nil =>
    cases ran with
    | step ran step =>
      obtain rfl := ran.unique ran'
      cases step
      exact .inl (List.mem_append_right _ armed)
  | cons event later ih =>
    cases ran with
    | step ran step =>
      obtain drained | told := ih ran
      · cases step with
        | starts | cancels | turns => exact .inl drained
        | drains => exact .inl (List.mem_append_left _ drained)
        | @tells _ _ own =>
          by_cases same : timer = own
          · exact .inr (same ▸ List.mem_cons_self)
          · exact .inl ((List.mem_erase_of_ne same).2 drained)
      · exact .inr (List.mem_cons_of_mem _ told)

end Ran

/-! ## The whole course -/

/-- A timer that was told to fire, and was not cancelled before, runs its callback; `since` are the
events since it was told. -/
structure Heeds (timer : Nat) (since history : List Event) (threads : Threads) : Prop where
  /-- Its time is not over any more, so it never is unless it was over when it was told. -/
  early : .turns timer .elapses ∉ since
  /-- It does not end without running its callback. -/
  stays : .turns timer .quits ∉ history
  /-- Until the callback has run, it can make its next turn. -/
  goesOn : .turns timer .fires ∈ history ∨ ∃ turn after, Step threads (.turns timer turn) after
  /-- As it has made three turns, the callback has run. -/
  fires : 3 ≤ history.countP (Event.isTurn timer) → .turns timer .fires ∈ history

/-- What is kept by the timers of a manager and all who use it. -/
structure Orderly (history : List Event) (threads : Threads) : Prop where
  /-- A callback runs at most once. -/
  once : ∀ timer, history.count (.turns timer .fires) ≤ 1
  /-- A timer that is cancelled before it is told to fire, and before its time is over, does not run
  its callback. -/
  cancelled : ∀ timer later earlier, history = later ++ .cancels timer :: earlier →
    .tells timer ∉ earlier → .turns timer .elapses ∉ earlier → .turns timer .fires ∉ history
  /-- A timer that is armed as all armed ones are taken is told to fire, or is still to be told.  If
  it is not cancelled before it is told, it runs its callback. -/
  reset : ∀ timer later earlier before, history = later ++ .drains :: earlier →
    Ran earlier before → timer ∈ before.manager.armed →
    timer ∈ threads.drained ∨ ∃ since between, later = since ++ .tells timer :: between ∧
      (.cancels timer ∉ between ++ .drains :: earlier → Heeds timer since history threads)
  /-- As all timers have ended, none is armed. -/
  ended : (∀ timer alarm, threads.manager.alarm? timer = some alarm →
    ∃ fired, alarm.stage = .ended fired) → threads.manager.armed = []

section Ran

variable {history : List Event} {threads : Threads} {timer : Nat}

theorem Ran.heeds {since earlier : List Event} (ran : Ran (since ++ earlier) threads)
    (is : decided timer earlier = some true) : Heeds timer since (since ++ earlier) threads := by
  have fires : decided timer (since ++ earlier) = some true := by
    rw [decided_append, is]
    rfl
  have decision := ran.decision timer
  rw [fires] at decision
  obtain ⟨alarm, found, decision⟩ := Option.bind_eq_some_iff.1 decision
  have turns := ran.turns_add_left timer
  have fired := ran.fired timer
  rw [found] at turns fired
  change _ + alarm.left = 3 at turns
  change _ = alarm.fired at fired
  have runs (ended : alarm.left = 0) : .turns timer .fires ∈ since ++ earlier := by
    rw [← List.count_pos_iff, fired, alarm.fired_of_left decision ended]
    exact Nat.one_pos
  refine ⟨ran.not_elapses is, fun quits => ?_, ?_, fun three => runs (by omega)⟩
  · cases (ran.decided_of_acts false quits).symm.trans fires
  · by_cases ended : alarm.left = 0
    · exact .inl (runs ended)
    · obtain ⟨turn, makes⟩ := alarm.exists_turn false decision ended
      exact .inr ⟨turn, _, .turns found makes⟩

end Ran

/-- Whatever starts, cancels and resets of timers, turns of their threads and ends of their times
come between each other: callbacks run at most once, a cancel that comes first keeps one from
running, a reset makes those of all armed timers run that are not cancelled before they are told,
and the armed ones are those that are still to end. -/
theorem ran_orderly {history : List Event} {threads : Threads} (ran : Ran history threads) :
    Orderly history threads := by
  refine ⟨fun timer => ?_, ?_, ?_, fun ended => ?_⟩
  · rw [ran.fired timer]
    cases threads.manager.alarm? timer with
    | none => exact Nat.zero_le 1
    | some alarm => exact alarm.fired_le
  · rintro timer later earlier rfl untold early fires
    have is := ran.decided_of_acts true fires
    rw [decided_append, decided, Event.decides?, if_pos rfl] at is
    cases first : decided timer earlier with
    | none =>
      rw [first] at is
      cases is
    | some fires =>
      rw [first] at is
      cases is
      exact (mem_of_decided_true first).elim untold early
  · rintro timer later earlier before rfl ran' armed
    obtain drained | told := ran.drained_or_told ran' armed
    · exact .inl drained
    · obtain ⟨since, between, rfl⟩ := List.append_of_mem told
      refine .inr ⟨since, between, rfl, fun spared => ?_⟩
      rw [List.append_assoc] at ran ⊢
      refine ran.heeds ?_
      cases is : decided timer (.tells timer :: between ++ .drains :: earlier) with
      | none =>
        rw [List.cons_append, decided, Event.decides?, if_pos rfl] at is
        cases (Option.or_eq_none_iff.1 is).2
      | some fires =>
        cases fires with
        | true => rfl
        | false =>
          -- A cancel would have come before.
          cases mem_of_decided_false is with
          | tail _ cancels => exact absurd cancels spared
  · refine List.eq_nil_iff_forall_not_mem.2 fun timer armed => ?_
    obtain ⟨alarm, found, waits⟩ := ran.placed.armed timer armed
    obtain ⟨fired, stage⟩ := ended timer alarm found
    rw [Alarm.left, stage] at waits
    cases waits

/-! ### A reset -/

theorem Ran.tells {history : List Event} {manager : Manager} {drained : List Nat}
    (ran : Ran history ⟨manager, drained⟩) :
    Ran (drained.reverse.map .tells ++ history)
      ⟨drained.foldl (fun manager timer => manager.send .fireNow timer) manager, []⟩ := by
  induction drained generalizing manager history with
  | nil => exact ran
  | cons timer drained ih =>
    have told := ran.step (.tells List.mem_cons_self)
    rw [List.erase_cons_head] at told
    rw [List.reverse_cons, List.map_append, List.append_assoc]
    exact ih told

/-- A reset takes all armed timers and tells them to fire. -/
theorem Ran.reset {history : List Event} {manager : Manager} (ran : Ran history ⟨manager, []⟩) :
    Ran (manager.armed.reverse.map .tells ++ .drains :: history) ⟨manager.reset, []⟩ :=
  Ran.tells (ran.step .drains)

/-- A timer that has a signal goes on until it has ended. -/
theorem Ran.settle {history : List Event} {manager : Manager} {drained : List Nat} {timer : Nat}
    {signal : Signal} {signals : List Signal} (ran : Ran history ⟨manager, drained⟩)
    (found : manager.alarm? timer = some ⟨signal :: signals, .waiting⟩) :
    Ran (.turns timer (if signal == .fireNow then .fires else .quits) :: .turns timer .leaves ::
      .turns timer (.hears signal) :: history) ⟨manager.settle false timer, drained⟩ := by
  have heard : (manager.step false timer).alarm? timer =
      some ⟨signals, .leaving (signal == .fireNow)⟩ := by
    rw [Manager.alarm?_step, if_pos rfl, found]
    cases signal <;> rfl
  have left : ((manager.step false timer).step false timer).alarm? timer =
      some ⟨signals, .acting (signal == .fireNow)⟩ := by
    rw [Manager.alarm?_step, if_pos rfl, heard]
    rfl
  exact ((ran.step (.turns found rfl)).step (.turns heard rfl)).step (.turns left rfl)

/-- Of two timers the second one is cancelled, and then all are reset. -/
def resetting : List Event :=
  [.turns 1 .quits, .turns 1 .leaves, .turns 1 (.hears .cancel), .turns 0 .fires, .turns 0 .leaves,
    .turns 0 (.hears .fireNow), .tells 1, .tells 0, .drains, .cancels 1, .starts 1, .starts 0]

def Manager.resetting : Manager :=
  (((empty.start.2.start.2.cancel 1).reset).settle false 0).settle false 1

theorem ran_orderly_resetting :
    Ran resetting ⟨.resetting, []⟩ ∧ Manager.resetting.fired = [0] ∧
      Orderly resetting ⟨.resetting, []⟩ := by
  have cancelled := ((Ran.new.step .starts).step .starts).step (@Step.cancels _ _ 1 nofun)
  have first := @Ran.settle _ _ _ 0 .fireNow [] cancelled.reset rfl
  have ran : Ran resetting ⟨.resetting, []⟩ := @Ran.settle _ _ _ 1 .cancel [.fireNow] first rfl
  exact ⟨ran, rfl, ran_orderly ran⟩

/-- A timer is cancelled between being taken and being told to fire. -/
def overtaken : List Event :=
  [.turns 0 .quits, .turns 0 .leaves, .turns 0 (.hears .cancel), .tells 0, .cancels 0, .drains,
    .starts 0]

/-- The time of a timer is over between its being taken and its being told to fire. -/
def outlasted : List Event :=
  [.turns 0 .fires, .turns 0 .leaves, .tells 0, .turns 0 .elapses, .drains, .starts 0]

/-- A timer that was armed and had heard nothing as all armed ones were taken may end without
running its callback, and it may run it as its time is over. -/
theorem reset_overtaken :
    (∃ armed, Ran [.starts 0] armed ∧ 0 ∈ armed.manager.armed ∧
        armed.manager.alarm? 0 = some ⟨[], .waiting⟩) ∧
      (∃ threads, Ran overtaken threads ∧ threads.drained = [] ∧
        threads.manager.alarm? 0 = some ⟨[.fireNow], .ended false⟩ ∧
        .turns 0 .fires ∉ overtaken) ∧
      ∃ threads, Ran outlasted threads ∧ threads.drained = [] ∧
        threads.manager.alarm? 0 = some ⟨[.fireNow], .ended true⟩ ∧
        .turns 0 .elapses ∈ outlasted := by
  have started := Ran.new.step .starts
  -- The timer is taken, and what comes before the signal to fire differs.
  have drained := started.step .drains
  have cancelled := drained.step (@Step.cancels _ _ 0 nofun)
  have told := cancelled.step (@Step.tells _ _ 0 (List.mem_singleton_self 0))
  have quit := @Ran.settle _ _ _ 0 .cancel [.fireNow] told rfl
  have elapsed := drained.step (@Step.turns _ _ 0 ⟨[], .waiting⟩ .elapses true rfl rfl)
  have late := elapsed.step (@Step.tells _ _ 0 (List.mem_singleton_self 0))
  have left := late.step (@Step.turns _ _ 0 ⟨[.fireNow], .leaving true⟩ .leaves false rfl rfl)
  have fired := left.step (@Step.turns _ _ 0 ⟨[.fireNow], .acting true⟩ .fires false rfl rfl)
  exact ⟨⟨_, started, List.mem_singleton_self 0, rfl⟩, ⟨_, quit, rfl, rfl, by decide⟩,
    ⟨_, fired, rfl, rfl, by decide⟩⟩

end MailReplica.Timer
