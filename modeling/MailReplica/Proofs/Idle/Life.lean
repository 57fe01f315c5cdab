import MailReplica.Proofs.Idle.Work

/-! # The life of an idler

Sections of a run, replies to its requests, stops, fresh rounds that somebody or a timer asks for,
and calls that are turned away follow each other in any order in the life of an idler.  Each of
them is one step (`Step`): a section on a line of which nothing is known, in a state of which
nothing is known, a reply that nothing is known of.  A life up to some moment is a history of such
steps (`Lived`), and what holds of every history holds however the run and the others come between
each other.

`Happens` says again what a step does, by the ways through its section, and is what everything else
rests on.
-/

namespace MailReplica.Idle

variable {α : Type}

/-- A piece of work can come from `before` to `value` and `after` with the calls `calls`: on some
line in some state, it does. -/
def Yields (piece : (ε : Type) → Line ε → Section ε α) (before : Idler) (value : α) (after : Idler)
    (calls : List Exchange) : Prop :=
  ∃ (ε : Type) (line : Line ε) (state last : ε),
    (piece ε line).run (before, state) = (value, after, last) ∧
      (piece (ε × List Exchange) line.noting).run (before, state, []) = (value, after, last, calls)

/-! ## Steps -/

/-- An idler and the run that goes on, if one does. -/
structure Life where
  idler : Idler
  run : Option Point

def Life.new : Life :=
  ⟨.new, none⟩

/-- What is done in a step. -/
inductive Deed where
  /-- A run begins. -/
  | enter
  /-- A call for a run is turned away. -/
  | refuse (failure : Failure)
  /-- The run works in its section at a point. -/
  | work (point : Point)
  /-- The run gets the reply to its request at a point. -/
  | reply (point : Point) (reply : Reply)
  /-- The run is over. -/
  | leave (ending : Ending)
  | stop
  /-- Somebody, or a timer, asks for a fresh round. -/
  | refresh

/-- A step that was made, with the calls that its section made. -/
structure Moment where
  deed : Deed
  calls : List Exchange

/-- Whether a reply is one to the request. -/
def Reply.answers : Reply → Request → Bool
  | .connected _, .connect _ | .opened _, .openFolder _ | .capable _, .checkCapability _
  | .timer _, .startTimer _ | .response _, .read _ => true
  | .done, .releaseWake | .done, .acquireWake | .done, .close _ => true
  | _, _ => false

inductive Step (settings : Settings) : Life → Moment → Life → Prop
  | enter {before after : Idler} {calls : List Exchange}
      (enters : Yields (fun _ _ => Section.enter) before .connecting after calls) :
      Step settings ⟨before, none⟩ ⟨.enter, calls⟩ ⟨after, some .connecting⟩
  | refuse {before after : Idler} {run : Option Point} {failure : Failure} {calls : List Exchange}
      (refuses : Yields (fun _ _ => Section.enter) before (.ended (.error failure)) after calls) :
      Step settings ⟨before, run⟩ ⟨.refuse failure, calls⟩ ⟨after, run⟩
  | work {before after : Idler} {point next : Point} {calls : List Exchange}
      (here : point.request? settings = none) (goes : ∀ ending, point ≠ .ended ending)
      (works : Yields (fun _ line => Section.work line settings point) before next after calls) :
      Step settings ⟨before, some point⟩ ⟨.work point, calls⟩ ⟨after, some next⟩
  | reply {idler : Idler} {point : Point} {request : Request} {reply : Reply}
      (asks : point.request? settings = some request) (answers : reply.answers request = true) :
      Step settings ⟨idler, some point⟩ ⟨.reply point reply, []⟩ ⟨idler, some (point.resume reply)⟩
  | leave {idler : Idler} {ending : Ending} :
      Step settings ⟨idler, some (.ended ending)⟩ ⟨.leave ending, []⟩ ⟨idler, none⟩
  | stop {before after : Idler} {run : Option Point} {calls : List Exchange}
      (stops : Yields (fun _ => Section.stop) before () after calls) :
      Step settings ⟨before, run⟩ ⟨.stop, calls⟩ ⟨after, run⟩
  | refresh {before after : Idler} {run : Option Point} {calls : List Exchange}
      (refreshes : Yields (fun _ => Section.refresh) before () after calls) :
      Step settings ⟨before, run⟩ ⟨.refresh, calls⟩ ⟨after, run⟩

/-- A new idler can have come to a life by the moments of a history, latest first. -/
inductive Lived (settings : Settings) : List Moment → Life → Prop
  | new : Lived settings [] .new
  | step {past : List Moment} {life after : Life} {moment : Moment}
      (lived : Lived settings past life) (step : Step settings life moment after) :
      Lived settings (moment :: past) after

/-! ### A short life -/

/-- A line on which all goes well. -/
def willing : Line Unit where
  run call _ :=
    match call with
    | .isConnected _ => (true, ())
    | .sendCommand _ _ => (.ok "A1", ())
    | .sendLine _ _ | .setTimeout _ _ | .restoreTimeout _ => (.ok (), ())
    | .cancelTimer _ => ((), ())

theorem yields_willing {α : Type} {piece : (ε : Type) → Line ε → Section ε α} {before after : Idler}
    {value : α} {calls : List Exchange}
    (run : (piece Unit willing).run (before, ()) = (value, after, ()))
    (noted : (piece _ willing.noting).run (before, (), []) = (value, after, (), calls)) :
    Yields piece before value after calls :=
  ⟨Unit, willing, (), (), run, noted⟩

/-- A run comes to the point at which it begins its first round. -/
def again : List Moment :=
  [⟨.reply (.checking 0) (.capable (.ok true)), []⟩,
    ⟨.reply (.opening 0) (.opened (.ok ())), []⟩,
    ⟨.work (.connected 0), []⟩,
    ⟨.reply .connecting (.connected (.ok 0)), []⟩,
    ⟨.enter, []⟩]

/-- The first round begins. -/
def begun : Moment :=
  ⟨.work (.starting 0), [.sendCommand 0 "IDLE" (.ok "A1")]⟩

section Again

variable {settings : Settings} {history : List Moment} {before : Idler}

theorem Lived.checking (lived : Lived settings history ⟨before, none⟩)
    (enters : Yields (fun _ _ => Section.enter) before .connecting
      ⟨.capabilityCheck, false, .stopped, none, none⟩ []) :
    Lived settings (again.tail ++ history)
      ⟨⟨.capabilityCheck, false, .stopped, none, some 0⟩, some (.checking 0)⟩ := by
  refine @Lived.step _ _ ⟨⟨.capabilityCheck, false, .stopped, none, some 0⟩, some (.opening 0)⟩ _ _
    ?_ (.reply rfl rfl)
  refine @Lived.step _ _ ⟨⟨.capabilityCheck, false, .stopped, none, none⟩, some (.connected 0)⟩ _ _
    ?_ (.work rfl nofun (yields_willing rfl rfl))
  refine @Lived.step _ _ ⟨⟨.capabilityCheck, false, .stopped, none, none⟩, some .connecting⟩ _ _
    ?_ (.reply rfl rfl)
  exact lived.step (.enter enters)

theorem Lived.begins (lived : Lived settings history ⟨before, none⟩)
    (enters : Yields (fun _ _ => Section.enter) before .connecting
      ⟨.capabilityCheck, false, .stopped, none, none⟩ []) :
    Lived settings (begun :: (again ++ history))
      ⟨⟨.awaitingContinuation, false, .stopped, none, some 0⟩,
        some (.reading ⟨0, "A1", false⟩)⟩ := by
  refine @Lived.step _ _ ⟨⟨.capabilityCheck, false, .stopped, none, some 0⟩, some (.starting 0)⟩ _ _
    ?_ (.work rfl nofun (yields_willing rfl rfl))
  exact (lived.checking enters).step (.reply rfl rfl)

end Again

theorem lived_begun (settings : Settings) :
    Lived settings (begun :: again)
      ⟨⟨.awaitingContinuation, false, .stopped, none, some 0⟩,
        some (.reading ⟨0, "A1", false⟩)⟩ :=
  Lived.new.begins (yields_willing rfl rfl)

/-- A fresh round is asked for as soon as a round began, then a change is taken up, and then a
stop is asked for. -/
def tour : List Moment :=
  let round : Round := ⟨0, "A1", false⟩
  let change : Wire.Response := ⟨.messageCount 1, ""⟩
  [⟨.leave (.ok .sync), []⟩,
    ⟨.reply (.closing 0 (.ok .sync)) .done, []⟩,
    ⟨.work (.finishing (.ok .sync)), []⟩,
    ⟨.stop, []⟩,
    ⟨.work (.handling round change), []⟩,
    ⟨.refresh, [.isConnected 0 true, .restoreTimeout 0 (.ok ()), .sendLine 0 "DONE" (.ok ())]⟩,
    ⟨.reply (.reading round) (.response (.ok change)), []⟩,
    ⟨.work (.starting 0), [.sendCommand 0 "IDLE" (.ok "A1")]⟩,
    ⟨.reply (.checking 0) (.capable (.ok true)), []⟩,
    ⟨.reply (.opening 0) (.opened (.ok ())), []⟩,
    ⟨.work (.connected 0), []⟩,
    ⟨.reply .connecting (.connected (.ok 0)), []⟩,
    ⟨.enter, []⟩]

theorem lived_tour (settings : Settings) :
    Lived settings tour ⟨⟨.stopped, false, .sync, none, none⟩, none⟩ := by
  let round : Round := ⟨0, "A1", false⟩
  let change : Wire.Response := ⟨.messageCount 1, ""⟩
  refine @Lived.step _ _ ⟨⟨.stopped, false, .sync, none, none⟩, some (.ended (.ok .sync))⟩ _ _
    ?_ .leave
  refine @Lived.step _ _ ⟨⟨.stopped, false, .sync, none, none⟩, some (.closing 0 (.ok .sync))⟩ _ _
    ?_ (.reply rfl rfl)
  refine @Lived.step _ _
    ⟨⟨.sendingDone, true, .sync, none, some 0⟩, some (.finishing (.ok .sync))⟩ _ _ ?_
    (.work rfl nofun (yields_willing rfl rfl))
  refine @Lived.step _ _
    ⟨⟨.sendingDone, true, .sync, none, some 0⟩, some (.finishing (.ok .sync))⟩ _ _ ?_
    (.stop (yields_willing rfl rfl))
  refine @Lived.step _ _
    ⟨⟨.sendingDone, false, .stopped, none, some 0⟩, some (.handling round change)⟩ _ _ ?_
    (.work rfl nofun (yields_willing rfl rfl))
  refine @Lived.step _ _
    ⟨⟨.awaitingContinuation, false, .stopped, none, some 0⟩, some (.handling round change)⟩ _ _ ?_
    (.refresh (yields_willing rfl rfl))
  exact (lived_begun settings).step (.reply rfl rfl)

/-! ## What steps do -/

/-- Where a reply leads. -/
inductive Resumes : Point → Reply → Point → Prop
  | connected (connection : ConnectionId) :
      Resumes .connecting (.connected (.ok connection)) (.connected connection)
  | unconnected (failure : Failure) :
      Resumes .connecting (.connected (.error failure)) (.finishing (.error failure))
  | opened (connection : ConnectionId) :
      Resumes (.opening connection) (.opened (.ok ())) (.checking connection)
  | unopened (connection : ConnectionId) (failure : Failure) :
      Resumes (.opening connection) (.opened (.error failure)) (.finishing (.error failure))
  | capable (connection : ConnectionId) :
      Resumes (.checking connection) (.capable (.ok true)) (.starting connection)
  | incapable (connection : ConnectionId) :
      Resumes (.checking connection) (.capable (.ok false)) .refused
  | unchecked (connection : ConnectionId) (failure : Failure) :
      Resumes (.checking connection) (.capable (.error failure)) (.finishing (.error failure))
  | timed (round : Round) (timer : TimerId) :
      Resumes (.arming round) (.timer timer) (.armed round timer)
  | released (round : Round) : Resumes (.releasing round) .done (.reading round)
  | woken (round : Round) (response : Except Failure Wire.Response)
      (granted : round.granted = true) :
      Resumes (.reading round) (.response response) (.acquiring round response)
  | read (round : Round) (response : Wire.Response) (ungranted : round.granted = false) :
      Resumes (.reading round) (.response (.ok response)) (.handling round response)
  | unread (round : Round) (failure : Failure) (ungranted : round.granted = false) :
      Resumes (.reading round) (.response (.error failure)) (.finishing (.error failure))
  | acquired (round : Round) (response : Except Failure Wire.Response) :
      Resumes (.acquiring round response) .done (.disarming round response)
  | closed (connection : ConnectionId) (ending : Ending) :
      Resumes (.closing connection ending) .done (.ended ending)

theorem resumes_resume {settings : Settings} {point : Point} {request : Request} {reply : Reply}
    (asks : point.request? settings = some request) (answers : reply.answers request = true) :
    Resumes point reply (point.resume reply) := by
  cases point <;> cases asks <;> cases reply <;> cases answers
  case connecting.refl.connected.refl result =>
    cases result with
    | ok connection => exact .connected connection
    | error failure => exact .unconnected failure
  case opening.refl.opened.refl connection result =>
    cases result with
    | ok => exact .opened connection
    | error failure => exact .unopened connection failure
  case checking.refl.capable.refl connection result =>
    rcases result with failure | (_ | _)
    · exact .unchecked connection failure
    · exact .incapable connection
    · exact .capable connection
  case arming.refl.timer.refl round timer => exact .timed round timer
  case releasing.refl.done.refl round => exact .released round
  case reading.refl.response.refl round response =>
    obtain ⟨connection, tag, granted⟩ := round
    cases granted with
    | true => exact .woken ⟨connection, tag, true⟩ response rfl
    | false =>
      cases response with
      | ok response => exact .read ⟨connection, tag, false⟩ response rfl
      | error failure => exact .unread ⟨connection, tag, false⟩ failure rfl
  case acquiring.refl.done.refl round response => exact .acquired round response
  case closing.refl.done.refl connection ending => exact .closed connection ending

/-- What a step does, by the ways through its section. -/
inductive Happens (settings : Settings) : Life → Moment → Life → Prop
  | enter (before : Idler) (allowed : before.phase.allows .capabilityCheck = true) :
      Happens settings ⟨before, none⟩ ⟨.enter, []⟩
        ⟨{ before with phase := .capabilityCheck, outcome := .stopped }, some .connecting⟩
  | refuse (life : Life) (barred : life.idler.phase.allows .capabilityCheck = false) :
      Happens settings life ⟨.refuse (life.idler.phase.refusal .capabilityCheck), []⟩ life
  | work {before after : Idler} {point next : Point} {calls : List Exchange}
      (works : Works settings before point next after calls) :
      Happens settings ⟨before, some point⟩ ⟨.work point, calls⟩ ⟨after, some next⟩
  | reply (idler : Idler) {point next : Point} {reply : Reply}
      (resumes : Resumes point reply next) :
      Happens settings ⟨idler, some point⟩ ⟨.reply point reply, []⟩ ⟨idler, some next⟩
  | leave (idler : Idler) (ending : Ending) :
      Happens settings ⟨idler, some (.ended ending)⟩ ⟨.leave ending, []⟩ ⟨idler, none⟩
  | stop {before after : Idler} (run : Option Point) {calls : List Exchange}
      (sends : SendsDone { before with stopRequested := true } after calls) :
      Happens settings ⟨before, run⟩ ⟨.stop, calls⟩ ⟨after, run⟩
  | refresh {before after : Idler} (run : Option Point) {calls : List Exchange}
      (sends : SendsDone before after calls) :
      Happens settings ⟨before, run⟩ ⟨.refresh, calls⟩ ⟨after, run⟩

theorem yields_enter {before after : Idler} {next : Point} {calls : List Exchange}
    (enters : Yields (fun _ _ => Section.enter) before next after calls) :
    calls = [] ∧
      (before.phase.allows .capabilityCheck = true ∧ next = .connecting ∧
          after = { before with phase := .capabilityCheck, outcome := .stopped } ∨
        before.phase.allows .capabilityCheck = false ∧
          next = .ended (.error (before.phase.refusal .capabilityCheck)) ∧ after = before) := by
  obtain ⟨ε, line, state, last, _, noted⟩ := enters
  cases allowed : before.phase.allows .capabilityCheck with
  | true =>
    have leads : Section.Leads (Section.enter : Section ε Point) Section.enter (before, state)
        .connecting ({ before with phase := .capabilityCheck, outcome := .stopped }, state) [] :=
      .move allowed (.change (.pure _))
    obtain ⟨same, moved, made⟩ := leads.unique noted
    cases moved
    exact ⟨made, .inl ⟨rfl, same, rfl⟩⟩
  | false =>
    have leads : Section.Leads (Section.enter : Section ε Point) Section.enter (before, state)
        (.ended (.error (before.phase.refusal .capabilityCheck))) (before, state) [] :=
      .barred allowed (.pure _)
    obtain ⟨same, stayed, made⟩ := leads.unique noted
    cases stayed
    exact ⟨made, .inr ⟨rfl, same, rfl⟩⟩

theorem happens_step {settings : Settings} {life after : Life} {moment : Moment}
    (step : Step settings life moment after) : Happens settings life moment after := by
  cases step with
  | enter enters =>
    obtain ⟨rfl, ⟨allowed, _, rfl⟩ | ⟨_, absurd, _⟩⟩ := yields_enter enters
    · exact .enter _ allowed
    · cases absurd
  | refuse refuses =>
    obtain ⟨rfl, ⟨_, absurd, _⟩ | ⟨barred, same, rfl⟩⟩ := yields_enter refuses
    · cases absurd
    · cases same
      exact .refuse ⟨_, _⟩ barred
  | @work before after point next calls here goes works =>
    obtain ⟨ε, line, state, last, _, noted⟩ := works
    obtain ⟨next', after', last', made, works, leads⟩ :=
      Section.work_leads line settings here goes before state
    obtain ⟨rfl, same, rfl⟩ := leads.unique noted
    cases same
    exact .work works
  | reply asks answers => exact .reply _ (resumes_resume asks answers)
  | leave => exact .leave _ _
  | @stop before after _ _ stops =>
    obtain ⟨ε, line, state, last, _, noted⟩ := stops
    obtain ⟨after', last', made, sends, leads⟩ :=
      Section.sendDone_leads line { before with stopRequested := true } state
    have leads : Section.Leads (Section.stop line) (Section.stop line.noting) (before, state) ()
        (after', last') made := .change leads
    obtain ⟨_, same, rfl⟩ := leads.unique noted
    cases same
    exact .stop _ sends
  | refresh refreshes =>
    obtain ⟨ε, line, state, last, _, noted⟩ := refreshes
    obtain ⟨after', last', made, sends, leads⟩ := Section.sendDone_leads line _ state
    obtain ⟨_, same, rfl⟩ := leads.unique noted
    cases same
    exact .refresh _ sends

end MailReplica.Idle
