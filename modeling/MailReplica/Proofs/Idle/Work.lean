import MailReplica.Proofs.Idle.Section

/-! # What the sections of a run come to

`Works` has a constructor for each way through a section of a run, and `work_leads` says that there
are no other ways, whatever line the run is on.
-/

namespace MailReplica.Idle

/-- What the section at a point can come to: the next point, the idler after it, and the calls
that it made. -/
inductive Works (settings : Settings) (before : Idler) :
    Point → Point → Idler → List Exchange → Prop
  | connected (connection : ConnectionId) :
      Works settings before (.connected connection) (.opening connection)
        { before with connection := some connection } []
  | unsupported (allowed : before.phase.allows .notSupported = true) :
      Works settings before .refused (.finishing (.ok .notSupported))
        { before with phase := .notSupported } []
  /-- The phase does not allow to give up. -/
  | unrefused (barred : before.phase.allows .notSupported = false) :
      Works settings before .refused
        (.finishing (.error (before.phase.refusal .notSupported))) before []
  /-- The phase does not allow a round. -/
  | unbegun (connection : ConnectionId) (go : before.stopRequested = false)
      (barred : before.phase.allows .sendingIdle = false) :
      Works settings before (.starting connection)
        (.finishing (.error (before.phase.refusal .sendingIdle))) before []
  | halts (connection : ConnectionId) (stop : before.stopRequested = true) :
      Works settings before (.starting connection) .concluding before []
  /-- `IDLE` could not be sent. -/
  | unsent (connection : ConnectionId) (failure : Failure) (go : before.stopRequested = false)
      (allowed : before.phase.allows .sendingIdle = true) :
      Works settings before (.starting connection) (.finishing (.error failure))
        { before with phase := .sendingIdle } [.sendCommand connection "IDLE" (.error failure)]
  | begins (connection : ConnectionId) (tag : String) (go : before.stopRequested = false)
      (allowed : before.phase.allows .sendingIdle = true) :
      Works settings before (.starting connection) (.reading ⟨connection, tag, false⟩)
        { before with phase := .awaitingContinuation } [.sendCommand connection "IDLE" (.ok tag)]
  | arms (round : Round) (within : before.phase = .inIdle) :
      Works settings before (.preparing round) (.arming round) before []
  | rests (round : Round) (without : before.phase ≠ .inIdle) :
      Works settings before (.preparing round) (.releasing round) before []
  | armed (round : Round) (timer : TimerId) :
      Works settings before (.armed round timer) (.releasing round)
        { before with timer := some timer } []
  | disarmed (round : Round) (response : Wire.Response) :
      Works settings before (.disarming round (.ok response)) (.handling round response)
        { before with timer := none } (before.timer.toList.map .cancelTimer)
  | broken (round : Round) (failure : Failure) :
      Works settings before (.disarming round (.error failure)) (.finishing (.error failure))
        { before with timer := none } (before.timer.toList.map .cancelTimer)
  /-- The server agrees to let the client wait. -/
  | granted (round : Round) (response : Wire.Response) (asks : response.isContinuation = true)
      (awaiting : before.phase = .awaitingContinuation) :
      Works settings before (.handling round response) (.next { round with granted := true })
        { before with phase := .inIdle }
        [.setTimeout round.connection (settings.refreshMillis + graceMillis) (.ok ())]
  /-- The server agrees, and the time to wait cannot be set. -/
  | unset (round : Round) (response : Wire.Response) (failure : Failure)
      (asks : response.isContinuation = true) (awaiting : before.phase = .awaitingContinuation) :
      Works settings before (.handling round response) (.finishing (.error failure))
        { before with phase := .inIdle }
        [.setTimeout round.connection (settings.refreshMillis + graceMillis) (.error failure)]
  /-- The server agrees when it is no longer awaited. -/
  | late (round : Round) (response : Wire.Response) (asks : response.isContinuation = true)
      (past : before.phase ≠ .awaitingContinuation) :
      Works settings before (.handling round response) (.next { round with granted := true })
        before []
  /-- The command is completed before the server agreed. -/
  | declined (round : Round) (response : Wire.Response)
      (completes : response.completes round.tag = true)
      (awaiting : before.phase = .awaitingContinuation) :
      Works settings before (.handling round response) (.finishing (.ok .notSupported))
        { before with phase := .notSupported } []
  | completed (round : Round) (response : Wire.Response)
      (completes : response.completes round.tag = true) (success : response.isSuccess = true)
      (past : before.phase ≠ .awaitingContinuation) :
      Works settings before (.handling round response) (.deciding round.connection) before []
  | failed (round : Round) (response : Wire.Response)
      (completes : response.completes round.tag = true) (success : response.isSuccess = false)
      (past : before.phase ≠ .awaitingContinuation) :
      Works settings before (.handling round response)
        (.finishing (.error
          (.protocol ("Received non-OK response to IDLE command: " ++ response.line))))
        before []
  /-- A change is reported while no stop is due. -/
  | changed (round : Round) (response : Wire.Response) (after : Idler) (made : List Exchange)
      (change : response.isChange = true) (go : before.stopRequested = false)
      (sends : SendsDone { before with stopRequested := true, outcome := .sync } after made) :
      Works settings before (.handling round response)
        (if round.granted then .next round else .finishing (.ok .sync)) after made
  | ignored (round : Round) (response : Wire.Response) (asks : response.isContinuation = false)
      (completes : response.completes round.tag = false)
      (change : response.isChange = true → before.stopRequested = true) :
      Works settings before (.handling round response) (.next round) before []
  | proceeds (connection : ConnectionId) (go : before.stopRequested = false) :
      Works settings before (.deciding connection) (.starting connection) before []
  | ends (connection : ConnectionId) (stop : before.stopRequested = true) :
      Works settings before (.deciding connection) .concluding before []
  | concludes : Works settings before .concluding (.finishing (.ok before.outcome)) before []
  | finishes (ending : Ending) (phase : Phase) (next : Point)
      (phase_eq : phase = match ending with
        | .ok .notSupported => before.phase
        | _ => if before.phase.allows .stopped then .stopped else before.phase)
      (next_eq : next = match before.connection with
        | none => .ended ending
        | some connection => .closing connection ending) :
      Works settings before (.finishing ending) next
        { before with phase, stopRequested := false, timer := none, connection := none }
        (before.timer.toList.map .cancelTimer)

namespace Section

variable {ε : Type}

theorem startRound_leads (line : Line ε) (settings : Settings) (connection : ConnectionId)
    (before : Idler) (state : ε) :
    ∃ next after last made, Works settings before (.starting connection) next after made ∧
      Leads (startRound line connection) (startRound line.noting connection) (before, state) next
        (after, last) made := by
  unfold startRound
  cases stop : before.stopRequested with
  | true => exact ⟨_, _, state, _, .halts connection stop, .idler (.if_pos stop (.pure _))⟩
  | false =>
    have go := Bool.eq_false_iff.1 stop
    cases allowed : before.phase.allows .sendingIdle with
    | false =>
      exact ⟨_, _, state, _, .unbegun connection stop allowed,
        .idler (.if_neg go (.barred allowed (.pure _)))⟩
    | true =>
      cases sent : line.run (.sendCommand connection "IDLE") state with | mk answer last =>
      cases answer with
      | error failure =>
        exact ⟨_, _, last, _, .unsent connection failure stop allowed,
          .idler (.if_neg go (.move allowed (.call sent (.pure _))))⟩
      | ok tag =>
        exact ⟨_, _, last, _, .begins connection tag stop allowed,
          .idler (.if_neg go (.move allowed (.call sent (.move rfl (.pure _)))))⟩

theorem handleGrant_leads (line : Line ε) (settings : Settings) (round : Round)
    {response : Wire.Response} (asks : response.isContinuation = true) (before : Idler)
    (state : ε) :
    ∃ next after last made, Works settings before (.handling round response) next after made ∧
      Leads (handleGrant line settings round) (handleGrant line.noting settings round)
        (before, state) next (after, last) made := by
  unfold handleGrant
  by_cases awaiting : before.phase = .awaitingContinuation
  · have allowed : before.phase.allows .inIdle = true := by rw [awaiting]; rfl
    cases set : line.run
      (.setTimeout round.connection (settings.refreshMillis + graceMillis)) state with
    | mk answer last =>
    cases answer with
    | ok =>
      exact ⟨_, _, last, _, .granted round response asks awaiting,
        .idler (.if_pos awaiting (.move allowed (.call set (.pure _))))⟩
    | error failure =>
      exact ⟨_, _, last, _, .unset round response failure asks awaiting,
        .idler (.if_pos awaiting (.move allowed (.call set (.pure _))))⟩
  · exact ⟨_, _, state, _, .late round response asks awaiting, .idler (.if_neg awaiting (.pure _))⟩

theorem handleCompletion_leads (settings : Settings) (round : Round) {response : Wire.Response}
    (completes : response.completes round.tag = true) (before : Idler) (state : ε) :
    ∃ next after last made, Works settings before (.handling round response) next after made ∧
      Leads (handleCompletion round response) (handleCompletion round response) (before, state) next
        (after, last) made := by
  unfold handleCompletion
  by_cases awaiting : before.phase = .awaitingContinuation
  · have allowed : before.phase.allows .notSupported = true := by rw [awaiting]; rfl
    exact ⟨_, _, state, _, .declined round response completes awaiting,
      .idler (.if_pos awaiting (.move allowed (.pure _)))⟩
  · cases success : response.isSuccess with
    | true =>
      exact ⟨_, _, state, _, .completed round response completes success awaiting,
        .idler (.if_neg awaiting (.if_pos rfl (.pure _)))⟩
    | false =>
      exact ⟨_, _, state, _, .failed round response completes success awaiting,
        .idler (.if_neg awaiting (.if_neg Bool.false_ne_true (.pure _)))⟩

theorem handleOther_leads (line : Line ε) (settings : Settings) (round : Round)
    {response : Wire.Response} (asks : response.isContinuation = false)
    (completes : response.completes round.tag = false) (before : Idler) (state : ε) :
    ∃ next after last made, Works settings before (.handling round response) next after made ∧
      Leads (handleOther line round response) (handleOther line.noting round response)
        (before, state) next (after, last) made := by
  unfold handleOther
  by_cases taken : response.isChange = true ∧ before.stopRequested = false
  · -- `DONE` is sent with the change noted already.
    obtain ⟨after, last, made, sends, done⟩ :=
      sendDone_leads line { before with stopRequested := true, outcome := .sync } state
    have heeds : (response.isChange && !before.stopRequested) = true := by
      rw [taken.1, taken.2]; rfl
    refine ⟨_, after, last, made, .changed round response after made taken.1 taken.2 sends,
      .idler (.if_pos heeds (.change (done.followed ?_)))⟩
    cases round.granted with
    | true => exact .if_pos rfl (.pure _)
    | false => exact .if_neg Bool.false_ne_true (.pure _)
  · have heeds : ¬ (response.isChange && !before.stopRequested) = true := by
      simpa only [Bool.and_eq_true, Bool.not_eq_true'] using taken
    have stop (change : response.isChange = true) : before.stopRequested = true :=
      Bool.of_not_eq_false fun go => taken ⟨change, go⟩
    exact ⟨_, _, state, _, .ignored round response asks completes stop,
      .idler (.if_neg heeds (.pure _))⟩

theorem handle_leads (line : Line ε) (settings : Settings) (round : Round)
    (response : Wire.Response) (before : Idler) (state : ε) :
    ∃ next after last made, Works settings before (.handling round response) next after made ∧
      Leads (handle line settings round response) (handle line.noting settings round response)
        (before, state) next (after, last) made := by
  unfold handle
  cases asks : response.isContinuation with
  | true =>
    obtain ⟨next, after, last, made, works, leads⟩ :=
      handleGrant_leads line settings round asks before state
    exact ⟨next, after, last, made, works, .if_pos rfl leads⟩
  | false =>
    cases completes : response.completes round.tag with
    | true =>
      obtain ⟨next, after, last, made, works, leads⟩ :=
        handleCompletion_leads settings round completes before state
      exact ⟨next, after, last, made, works, .if_neg Bool.false_ne_true (.if_pos rfl leads)⟩
    | false =>
      obtain ⟨next, after, last, made, works, leads⟩ :=
        handleOther_leads line settings round asks completes before state
      exact ⟨next, after, last, made, works,
        .if_neg Bool.false_ne_true (.if_neg Bool.false_ne_true leads)⟩

theorem finish_leads (line : Line ε) (settings : Settings) (ending : Ending) (before : Idler)
    (state : ε) :
    ∃ next after last made, Works settings before (.finishing ending) next after made ∧
      Leads (finish line ending) (finish line.noting ending) (before, state) next
        (after, last) made := by
  obtain ⟨last, cancelled⟩ := cancelTimer_leads line before state
  obtain ⟨phase, stopRequested, outcome, timer, connection⟩ := before
  refine ⟨_, _, last, _, .finishes ending _ _ rfl rfl, cancelled.followed (.change ?_)⟩
  -- Only an idler that gave up is not moved on; whether it may move does not matter to the others.
  cases connection with
  | none =>
    rcases ending with _ | (_ | _ | _)
    case ok.notSupported => exact .idler (.pure _)
    all_goals exact .tried (.idler (.pure _))
  | some connection =>
    rcases ending with _ | (_ | _ | _)
    case ok.notSupported => exact .idler (.change (.pure _))
    all_goals exact .tried (.idler (.change (.pure _)))

theorem work_leads (line : Line ε) (settings : Settings) {point : Point}
    (here : point.request? settings = none) (goes : ∀ ending, point ≠ .ended ending)
    (before : Idler) (state : ε) :
    ∃ next after last made, Works settings before point next after made ∧
      Leads (work line settings point) (work line.noting settings point) (before, state) next
        (after, last) made := by
  cases point with
  | connecting => cases here
  | connected connection =>
    exact ⟨_, _, state, _, .connected connection, .change (.pure _)⟩
  | opening connection => cases here
  | checking connection => cases here
  | refused =>
    cases allowed : before.phase.allows .notSupported with
    | true => exact ⟨_, _, state, _, .unsupported allowed, .move allowed (.pure _)⟩
    | false =>
      exact ⟨_, _, state, _, .unrefused allowed, .barred allowed (.pure _)⟩
  | starting connection => exact startRound_leads line settings connection before state
  | preparing round =>
    by_cases within : before.phase = .inIdle
    · exact ⟨_, _, state, _, .arms round within, .idler (.if_pos within (.pure _))⟩
    · exact ⟨_, _, state, _, .rests round within, .idler (.if_neg within (.pure _))⟩
  | arming round => cases here
  | armed round timer => exact ⟨_, _, state, _, .armed round timer, .change (.pure _)⟩
  | releasing round => cases here
  | reading round => cases here
  | acquiring round response => cases here
  | disarming round response =>
    obtain ⟨last, cancelled⟩ := cancelTimer_leads line before state
    cases response with
    | ok response => exact ⟨_, _, last, _, .disarmed round response, cancelled.followed (.pure _)⟩
    | error failure => exact ⟨_, _, last, _, .broken round failure, cancelled.followed (.pure _)⟩
  | handling round response => exact handle_leads line settings round response before state
  | deciding connection =>
    cases stop : before.stopRequested with
    | true => exact ⟨_, _, state, _, .ends connection stop, .idler (.if_pos stop (.pure _))⟩
    | false =>
      exact ⟨_, _, state, _, .proceeds connection stop,
        .idler (.if_neg (Bool.eq_false_iff.1 stop) (.pure _))⟩
  | concluding => exact ⟨_, _, state, _, .concludes, .idler (.pure _)⟩
  | finishing ending => exact finish_leads line settings ending before state
  | closing connection ending => cases here
  | ended ending => exact absurd rfl (goes ending)

end Section

end MailReplica.Idle
