import MailReplica.Proofs.Idle.Change
import MailReplica.Proofs.Idle.Protocol
import MailReplica.Proofs.Idle.Within

/-! # How long a read may take

The time that a read may take is raised as the server agrees to a round, and goes back to the
default as `DONE` is sent, whoever sends it.  A round that the server ends on its own gets no
`DONE`, and nothing else takes the time back: the next round begins with it.  So a read may take
long while the idler is in a round that the server agreed to, and while it waits for the server to
agree to a round that follows one without `DONE`, and at no other time (`limit_reading`).
-/

namespace MailReplica.Idle

/-- How long a read on `connection` may take after a call, in milliseconds; by default there is no
number. -/
def Exchange.limitAfter (connection : ConnectionId) (limit : Option Nat) : Exchange → Option Nat
  | setTimeout own millis (.ok ()) => if own = connection then some millis else limit
  | restoreTimeout own (.ok ()) => if own = connection then none else limit
  | _ => limit

/-- Whether a call fails to set how long a read may take. -/
def Exchange.failsToSet : Exchange → Bool
  | setTimeout _ _ (.error _) | restoreTimeout _ (.error _) => true
  | _ => false

def Moment.limitAfter (connection : ConnectionId) (moment : Moment) (limit : Option Nat) :
    Option Nat :=
  moment.calls.foldl (Exchange.limitAfter connection) limit

/-- How long a read on `connection` may take after some moments, if it was the default before. -/
def limitOn (connection : ConnectionId) (moments : List Moment) : Option Nat :=
  moments.foldr (Moment.limitAfter connection) none

/-- Nobody failed to set how long a read may take. -/
def Settable (moments : List Moment) : Prop :=
  ∀ moment ∈ moments, ∀ call ∈ moment.calls, call.failsToSet = false

instance (moments : List Moment) : Decidable (Settable moments) :=
  inferInstanceAs
    (Decidable (∀ moment ∈ moments, ∀ call ∈ moment.calls, call.failsToSet = false))

/-- How long a read may take in a round that the server agreed to. -/
def Settings.longLimit (settings : Settings) : Nat :=
  settings.refreshMillis + graceMillis

/-! ## One step -/

section Step

variable {settings : Settings} {life after : Life} {moment : Moment} {connection : ConnectionId}
  {limit : Option Nat}

@[simp]
theorem foldl_limitAfter_cancelTimer (timers : List TimerId) :
    (timers.map Exchange.cancelTimer).foldl (Exchange.limitAfter connection) limit = limit := by
  induction timers with
  | nil => rfl
  | cons _ _ ih => exact ih

theorem SendsDone.limit_silent {before own : Idler} {calls : List Exchange}
    (sends : SendsDone before own calls) (undone : calls.any Exchange.isDone = false) :
    calls.foldl (Exchange.limitAfter connection) limit = limit := by
  cases sends with
  | unfit | gone => rfl
  | sent => simp [Exchange.isDone] at undone

theorem SendsDone.limit_done {before own : Idler} {calls : List Exchange}
    (sends : SendsDone before own calls) (done : calls.any Exchange.isDone = true)
    (has : before.connection = some connection)
    (settable : ∀ call ∈ calls, call.failsToSet = false) :
    calls.foldl (Exchange.limitAfter connection) limit = none := by
  cases sends with
  | unfit | gone => cases done
  | sent same restored sent _ here =>
    cases has.symm.trans here
    cases restored with
    | error failure => cases settable (.restoreTimeout connection (.error failure)) (by simp)
    | ok => simp [Exchange.limitAfter]

/-- Nothing but `DONE` and an agreement that is awaited changes how long a read may take. -/
theorem happens_limit_silent (happens : Happens settings life moment after)
    (undone : moment.sendsDone = false)
    (past : moment.grants = true → life.idler.phase ≠ .awaitingContinuation) :
    moment.limitAfter connection limit = limit := by
  cases happens with
  | enter | refuse | reply | leave => rfl
  | stop _ sends | refresh _ sends => exact sends.limit_silent undone
  | work works =>
    cases works with
    | granted _ _ asks awaiting | unset _ _ _ asks awaiting => exact absurd awaiting (past asks)
    | changed _ _ _ _ _ _ sends => exact sends.limit_silent undone
    | disarmed | broken | finishes => exact foldl_limitAfter_cancelTimer _
    | _ => rfl

theorem happens_limit_done (happens : Happens settings life moment after)
    (done : moment.sendsDone = true) (has : life.idler.connection = some connection)
    (settable : ∀ call ∈ moment.calls, call.failsToSet = false) :
    moment.limitAfter connection limit = none := by
  obtain ⟨_, before, _, sends, _, same⟩ := happens.exists_sendsDone done
  exact sends.limit_done done (same.trans has) settable

theorem happens_limit_granted (happens : Happens settings life moment after)
    (grants : moment.grants = true) (awaiting : life.idler.phase = .awaitingContinuation)
    {point : Point} (stood : life.run = some point) (own : point.connection? = some connection)
    (settable : ∀ call ∈ moment.calls, call.failsToSet = false) :
    moment.limitAfter connection limit = some settings.longLimit := by
  cases happens with
  | enter | refuse | reply | leave | stop | refresh => cases grants
  | work works =>
    cases stood
    cases point with
    | handling round response =>
      cases own
      cases works with
      | granted => exact if_pos rfl
      | unset _ _ failure => cases settable _ (List.mem_singleton_self _)
      | late _ _ _ past => exact absurd awaiting past
      | declined _ _ completes | completed _ _ completes | failed _ _ completes =>
        cases (Wire.Response.not_completes_of_isContinuation grants).symm.trans completes
      | changed _ _ _ _ change =>
        cases (Wire.Response.isChange_of_isContinuation grants).symm.trans change
      | ignored _ _ asks => cases asks.symm.trans grants
    | _ => cases grants

/-- A run that is on a connection after a step has just noted it, or was on it before. -/
theorem happens_onConnection (happens : Happens settings life moment after) {point : Point}
    (stands : after.run = some point) (own : point.connection? = some connection) :
    life.run = some (.connected connection) ∨
      ∃ point', life.run = some point' ∧ point'.connection? = some connection := by
  cases happens with
  | enter =>
    cases stands
    cases own
  | leave => cases stands
  | refuse | stop | refresh => exact .inr ⟨point, stands, own⟩
  | reply _ resumes =>
    cases stands
    cases resumes <;> first | exact .inr ⟨_, rfl, own⟩ | cases own
  | work works =>
    cases stands
    cases works with
    | connected =>
      cases own
      exact .inl rfl
    | granted | late | ignored =>
      rw [connection?_next] at own
      exact .inr ⟨_, rfl, own⟩
    | changed =>
      split at own
      · rw [connection?_next] at own
        exact .inr ⟨_, rfl, own⟩
      · cases own
    | finishes _ _ _ _ next_eq =>
      subst next_eq
      split at own <;> cases own
    | _ => first | exact .inr ⟨_, rfl, own⟩ | cases own

/-- Where `IDLE` is sent, nothing else is done on the line. -/
theorem Happens.calls_of_sendsIdle (happens : Happens settings life moment after)
    (sends : moment.SendsIdle) :
    ∃ own answer, moment.calls = [.sendCommand own "IDLE" answer] := by
  obtain ⟨own, answer, sends⟩ := sends
  cases happens with
  | enter | refuse | reply | leave => cases sends
  | stop _ sendsDone | refresh _ sendsDone => exact absurd sends (sendsDone.not_sendCommand _ _ _)
  | work works =>
    cases works with
    | begins | unsent => exact ⟨_, _, rfl⟩
    | changed _ _ _ _ _ _ sendsDone => exact absurd sends (sendsDone.not_sendCommand _ _ _)
    | _ => simp at sends

theorem limitOn_append {since rest : List Moment}
    (silent : ∀ moment ∈ since, ∀ limit, moment.limitAfter connection limit = limit) :
    limitOn connection (since ++ rest) = limitOn connection rest := by
  induction since with
  | nil => rfl
  | cons moment since ih =>
    obtain ⟨here, silent⟩ := List.forall_mem_cons.1 silent
    exact (here _).trans (ih silent)

end Step

/-! ## A run up to now -/

theorem Settable.tail {moment : Moment} {moments : List Moment}
    (settable : Settable (moment :: moments)) : Settable moments :=
  (List.forall_mem_cons.1 settable).2

section Lived

variable {settings : Settings} {history : List Moment} {life : Life} {point : Point}
  {connection : ConnectionId}

/-- Before the first round of a run nothing was set. -/
theorem Lived.limit_first (lived : Lived settings history life) (stands : life.run = some point)
    (on : point.goesOn = true) (first : life.idler.phase = .capabilityCheck) :
    limitOn connection (ofRun history) = none := by
  induction lived generalizing point with
  | new => cases stands
  | @step past before after moment lived step ih =>
    have happens := happens_step step
    obtain enters | ⟨point', stood, on'⟩ := happens_goesOn happens stands on
    · rw [ofRun_cons, enters]
      rfl
    rw [happens.ofRun_cons stood]
    have silent : ¬ moment.SendsIdle := fun sends => by
      obtain ⟨_, _, awaits⟩ := happens.phase_of_sendsIdle sends stands on
      cases awaits.symm.trans first
    have moved := happens_phase happens stood stands on silent
    rw [first] at moved
    split at moved
    · cases moved
    next undone =>
      split at moved
      · cases moved
      next past' =>
        have same : moment.limitAfter connection (limitOn connection (ofRun past)) =
            limitOn connection (ofRun past) :=
          happens_limit_silent happens (Bool.eq_false_iff.2 undone)
            fun grants awaiting => past' ⟨grants, awaiting⟩
        exact same.trans (ih stood on' moved.symm)

theorem goesOn_of_connection? (own : point.connection? = some connection) :
    point.goesOn = true := by
  cases point <;> first | rfl | cases own

/-- A read may take long in a round that the server agreed to, also as the next round is about to
begin, and no longer once `DONE` was sent. -/
theorem Lived.limit_eq (lived : Lived settings history life) (stands : life.run = some point)
    (own : point.connection? = some connection) (settable : Settable (ofRun history))
    (past : life.idler.phase ≠ .awaitingContinuation) :
    limitOn connection (ofRun history) =
      if life.idler.phase = .inIdle then some settings.longLimit else none := by
  induction lived generalizing point with
  | new => cases stands
  | @step earlier before after moment lived step ih =>
    have happens := happens_step step
    have on := goesOn_of_connection? own
    by_cases first : after.idler.phase = .capabilityCheck
    · rw [(lived.step step).limit_first stands on first, first]
      rfl
    obtain ⟨point', stood, before'⟩ : ∃ point', before.run = some point' ∧
        (before.idler.phase = .capabilityCheck ∨ point'.connection? = some connection) := by
      obtain stood | ⟨point', stood, own⟩ := happens_onConnection happens stands own
      · have fits := lived.inStep.phase
        rw [stood] at fits
        exact ⟨_, stood, .inl (List.mem_singleton.1 fits)⟩
      · exact ⟨point', stood, .inr own⟩
    rw [happens.ofRun_cons stood] at settable ⊢
    have silent : ¬ moment.SendsIdle := fun sends => by
      obtain ⟨_, _, awaits⟩ := happens.phase_of_sendsIdle sends stands on
      exact past awaits
    have moved := happens_phase happens stood stands on silent
    have here := settable moment List.mem_cons_self
    change moment.limitAfter connection (limitOn connection (ofRun earlier)) = _
    by_cases done : moment.sendsDone = true
    · rw [moved, if_pos done]
      obtain early | own := before'
      · have fit := happens.acceptsDone done
        rw [early] at fit
        cases fit
      · exact happens_limit_done happens done (lived.connection_eq stood own) here
    rw [if_neg done] at moved
    by_cases agreed : moment.grants = true ∧ before.idler.phase = .awaitingContinuation
    · rw [moved, if_pos agreed]
      obtain early | own := before'
      · cases early.symm.trans agreed.2
      · exact happens_limit_granted happens agreed.1 agreed.2 stood own here
    rw [if_neg agreed] at moved
    rw [moved] at first past ⊢
    obtain early | own := before'
    · exact absurd early first
    · rw [happens_limit_silent happens (Bool.eq_false_iff.2 done)
        fun grants awaiting => agreed ⟨grants, awaiting⟩]
      exact ih stood own settable.tail past

/-- Nobody sent `DONE` in the last round of the run. -/
def LastUndone (history : List Moment) : Prop :=
  ∃ since beginning earlier, LastBegan history since beginning earlier ∧
    ∀ moment ∈ since, moment.sendsDone = false

/-- Nobody sent `DONE` in the round before the last one of the run. -/
def FormerUndone (history : List Moment) : Prop :=
  ∃ since beginning earlier, LastBegan history since beginning earlier ∧ LastUndone earlier

/-- Where a run begins a round, the server is not awaited any more. -/
theorem Lived.not_awaiting (lived : Lived settings history life)
    (stands : life.run = some (.starting connection)) :
    life.idler.phase ≠ .awaitingContinuation := fun awaiting => by
  have fits := lived.inStep.phase
  rw [stands, awaiting] at fits
  simp [phasesAt, Point.phases] at fits

/-- Where a run begins a round, the idler is still in the round before if that got no `DONE`. -/
theorem Lived.inIdle_iff (lived : Lived settings history life)
    (stands : life.run = some (.starting connection)) :
    life.idler.phase = .inIdle ↔ LastUndone history := by
  obtain ⟨quiet, _, first⟩ | ⟨since, beginning, earlier, began, told, _⟩ :=
    lived.phase_eq stands rfl
  · refine ⟨fun within => (nomatch first.symm.trans within), ?_⟩
    rintro ⟨between, former, _, began, _⟩
    obtain ⟨tag, begins⟩ := began.begins
    refine absurd begins.sendsIdle (quiet former ?_)
    rw [began.ofRun_eq]
    exact List.mem_append_right _ List.mem_cons_self
  · constructor
    · intro within
      refine ⟨since, beginning, earlier, began, ?_⟩
      have undone : since.any Moment.sendsDone = false := Bool.eq_false_iff.2 fun done => by
        rw [told, phaseIn, if_pos done] at within
        cases within
      simpa using undone
    · rintro ⟨between, _, _, began', undone⟩
      obtain ⟨rfl, _, _⟩ := began.eq began'
      have undone : between.any Moment.sendsDone = false := by simpa using undone
      have past := lived.not_awaiting stands
      rw [told, phaseIn, undone] at past ⊢
      cases agreed : between.any Moment.grants with
      | true => rfl
      | false =>
        rw [agreed] at past
        exact absurd rfl past

/-- As long as the server is awaited, a read may take as long as when the round began. -/
theorem Lived.limit_awaiting (lived : Lived settings history life) {round : Round}
    (stands : life.run = some (.reading round))
    (awaiting : life.idler.phase = .awaitingContinuation) :
    ∃ since beginning earlier before, LastBegan history since beginning earlier ∧
      Lived settings earlier before ∧ before.run = some (.starting round.connection) ∧
      limitOn round.connection (ofRun history) = limitOn round.connection (ofRun earlier) := by
  obtain ⟨since, beginning, earlier, began, told, begins, _⟩ := lived.within stands rfl
  have undone : since.any Moment.sendsDone = false := Bool.eq_false_iff.2 fun done => by
    rw [told, phaseIn, if_pos done] at awaiting
    cases awaiting
  have ungranted : since.any Moment.grants = false := Bool.eq_false_iff.2 fun granted => by
    rw [told, phaseIn, if_neg (Bool.eq_false_iff.1 undone), if_pos granted] at awaiting
    cases awaiting
  obtain ⟨_, atBeginning⟩ := (began.split ▸ lived).exists_before
  cases atBeginning with
  | @step _ before _ _ lived' step =>
    have happens := happens_step step
    refine ⟨since, beginning, earlier, before, began, lived', (happens.sendsIdle begins).1, ?_⟩
    rw [began.ofRun_eq, limitOn_append fun moment member limit => ?_]
    · obtain ⟨own, answer, calls⟩ := happens.calls_of_sendsIdle ⟨_, _, begins⟩
      change beginning.limitAfter round.connection _ = _
      rw [Moment.limitAfter, calls]
      rfl
    · obtain ⟨_, _, step⟩ := lived.exists_step
        (began.split ▸ List.mem_append_left _ member)
      refine happens_limit_silent (happens_step step) ?_ fun grants => ?_
      · simpa using List.any_eq_false.1 undone moment member
      · exact absurd grants (List.any_eq_false.1 ungranted moment member)

end Lived

/-! ## A round that the server ends -/

/-- The server agrees to the first round, and ends it on its own; the run begins the next one. -/
def renewed : List Moment :=
  let round : Round := ⟨0, "A1", false⟩
  let agreed : Round := ⟨0, "A1", true⟩
  let grant : Wire.Response := ⟨.continuation, "idling"⟩
  let completion : Wire.Response := ⟨.completion "A1" .ok, "IDLE terminated"⟩
  [begun,
    ⟨.work (.deciding 0), []⟩,
    ⟨.work (.handling agreed completion), []⟩,
    ⟨.work (.disarming agreed (.ok completion)), [.cancelTimer 0]⟩,
    ⟨.reply (.acquiring agreed (.ok completion)) .done, []⟩,
    ⟨.reply (.reading agreed) (.response (.ok completion)), []⟩,
    ⟨.reply (.releasing agreed) .done, []⟩,
    ⟨.work (.armed agreed 0), []⟩,
    ⟨.reply (.arming agreed) (.timer 0), []⟩,
    ⟨.work (.preparing agreed), []⟩,
    ⟨.work (.handling round grant), [.setTimeout 0 121000 (.ok ())]⟩,
    ⟨.reply (.reading round) (.response (.ok grant)), []⟩,
    begun]

theorem lived_renewed :
    Lived ⟨"INBOX", 1000⟩ (renewed ++ again)
      ⟨⟨.awaitingContinuation, false, .stopped, none, some 0⟩,
        some (.reading ⟨0, "A1", false⟩)⟩ := by
  let round : Round := ⟨0, "A1", false⟩
  let agreed : Round := ⟨0, "A1", true⟩
  let grant : Wire.Response := ⟨.continuation, "idling"⟩
  let completion : Wire.Response := ⟨.completion "A1" .ok, "IDLE terminated"⟩
  let idling : Idler := ⟨.inIdle, false, .stopped, none, some 0⟩
  let timed : Idler := ⟨.inIdle, false, .stopped, some 0, some 0⟩
  refine @Lived.step _ _ ⟨idling, some (.starting 0)⟩ _ _ ?_
    (.work rfl nofun (yields_willing rfl rfl))
  refine @Lived.step _ _ ⟨idling, some (.deciding 0)⟩ _ _ ?_
    (.work rfl nofun (yields_willing rfl rfl))
  refine @Lived.step _ _ ⟨idling, some (.handling agreed completion)⟩ _ _ ?_
    (.work rfl nofun (yields_willing rfl rfl))
  refine @Lived.step _ _ ⟨timed, some (.disarming agreed (.ok completion))⟩ _ _ ?_
    (.work rfl nofun (yields_willing rfl rfl))
  refine @Lived.step _ _ ⟨timed, some (.acquiring agreed (.ok completion))⟩ _ _ ?_ (.reply rfl rfl)
  refine @Lived.step _ _ ⟨timed, some (.reading agreed)⟩ _ _ ?_ (.reply rfl rfl)
  refine @Lived.step _ _ ⟨timed, some (.releasing agreed)⟩ _ _ ?_ (.reply rfl rfl)
  refine @Lived.step _ _ ⟨idling, some (.armed agreed 0)⟩ _ _ ?_
    (.work rfl nofun (yields_willing rfl rfl))
  refine @Lived.step _ _ ⟨idling, some (.arming agreed)⟩ _ _ ?_ (.reply rfl rfl)
  refine @Lived.step _ _ ⟨idling, some (.preparing agreed)⟩ _ _ ?_
    (.work rfl nofun (yields_willing rfl rfl))
  refine @Lived.step _ _
    ⟨⟨.awaitingContinuation, false, .stopped, none, some 0⟩, some (.handling round grant)⟩ _ _ ?_
    (.work rfl nofun (yields_willing rfl rfl))
  exact (lived_begun _).step (.reply rfl rfl)

/-- However a run, stops, fresh rounds and late timers come between each other: if nobody fails to
set how long a read may take, a read may take long while the idler is in a round that the server
agreed to, and while the server is awaited after a round that got no `DONE`.  Any other read may
take as long as by default. -/
theorem limit_reading {settings : Settings} {history : List Moment} {life : Life} {round : Round}
    (lived : Lived settings history life) (stands : life.run = some (.reading round))
    (settable : Settable (ofRun history)) :
    (limitOn round.connection (ofRun history) = some settings.longLimit ↔
        life.idler.phase = .inIdle ∨
          life.idler.phase = .awaitingContinuation ∧ FormerUndone history) ∧
      (limitOn round.connection (ofRun history) = none ↔
        life.idler.phase ≠ .inIdle ∧
          (life.idler.phase = .awaitingContinuation → ¬ FormerUndone history)) := by
  by_cases awaiting : life.idler.phase = .awaitingContinuation
  · obtain ⟨since, beginning, earlier, before, began, lived', starts, same⟩ :=
      lived.limit_awaiting stands awaiting
    have undone : FormerUndone history ↔ before.idler.phase = .inIdle := by
      rw [lived'.inIdle_iff starts]
      refine ⟨?_, fun undone => ⟨since, beginning, earlier, began, undone⟩⟩
      rintro ⟨_, _, _, began', undone⟩
      obtain ⟨_, _, rfl⟩ := began.eq began'
      exact undone
    have settable' : Settable (ofRun earlier) := by
      rw [began.ofRun_eq] at settable
      exact fun moment member =>
        settable moment (List.mem_append_right _ (List.mem_cons_of_mem _ member))
    rw [same, lived'.limit_eq starts rfl settable' (lived'.not_awaiting starts), undone]
    by_cases idling : before.idler.phase = .inIdle <;> simp [idling, awaiting]
  · rw [lived.limit_eq stands rfl settable awaiting]
    by_cases within : life.idler.phase = .inIdle <;> simp [within, awaiting]

/-- The second round begins with the time of the first one. -/
theorem limit_reading_renewed :
    Lived ⟨"INBOX", 1000⟩ (renewed ++ again)
        ⟨⟨.awaitingContinuation, false, .stopped, none, some 0⟩, some (.reading ⟨0, "A1", false⟩)⟩ ∧
      Settable (ofRun (renewed ++ again)) ∧ limitOn 0 (ofRun (renewed ++ again)) = some 121000 ∧
      FormerUndone (renewed ++ again) := by
  have settable : Settable (ofRun (renewed ++ again)) := by decide
  have limit : limitOn 0 (ofRun (renewed ++ again)) = some 121000 := rfl
  obtain within | ⟨_, undone⟩ := (limit_reading lived_renewed rfl settable).1.1 limit
  · cases within
  · exact ⟨lived_renewed, settable, limit, undone⟩

end MailReplica.Idle
