import MailReplica.Proofs.Idle.Handle
import MailReplica.Proofs.Idle.Limit
import MailReplica.Proofs.Idle.Result
import MailReplica.Proofs.Idle.Within

/-! # What is done around a read

Before the server has agreed to a round, a read is made as it is.  From then on each read is made
while the device may sleep, and a timer may be armed for it first: the run lets the device sleep,
reads, and keeps it awake again, and somebody cancels the timer on the way, at the latest the run
itself (`Episode`).  The steps of a life are such reads one after the other, up to what has been
done so far for the read that the run is at (`Life.Doing`); this is what each step keeps
(`happens_doing`), and what `lived_bracketed` rests on.
-/

namespace MailReplica.Idle

/-! ## Acts -/

/-- What is done around the reads of an idler. -/
inductive Act where
  | arm (timer : TimerId)
  | cancel (timer : TimerId)
  /-- The device may sleep. -/
  | release
  /-- A read is over; `agreed` if the server had agreed to the round before. -/
  | read (agreed : Bool)
  /-- The device is kept awake again. -/
  | acquire
  deriving DecidableEq

/-- The timer that is cancelled. -/
def Exchange.cancelled? : Exchange → Option TimerId
  | cancelTimer timer => some timer
  | _ => none

/-- Whether `IDLE` goes out. -/
def Exchange.isIdle : Exchange → Bool
  | sendCommand _ text (.ok _) => text == "IDLE"
  | _ => false

/-- Whether a response is read in which the server agrees to let the client wait. -/
def Moment.readsGrant (moment : Moment) : Bool :=
  moment.read?.any Wire.Response.isContinuation

/-- Whether the server agreed since `IDLE` went out last, by what was read. -/
def agreed : List Moment → Bool
  | [] => false
  | moment :: past => !moment.calls.any Exchange.isIdle && (moment.readsGrant || agreed past)

/-- What a run itself does around a read, given what was before. -/
def Moment.own? (past : List Moment) (moment : Moment) : Option Act :=
  match moment.deed with
  | .reply (.arming _) (.timer timer) => some (.arm timer)
  | .reply (.releasing _) _ => some .release
  | .reply (.reading _) _ => some (.read (agreed past))
  | .reply (.acquiring _ _) _ => some .acquire
  | _ => none

/-- What is done around a read, and which timers are cancelled, whoever cancels them. -/
def Moment.acts (past : List Moment) (moment : Moment) : List Act :=
  (moment.own? past).toList ++ (moment.calls.filterMap Exchange.cancelled?).map .cancel

/-- The acts of a history, first to last. -/
def actsIn : List Moment → List Act
  | [] => []
  | moment :: past => actsIn past ++ moment.acts past

/-- What the run does on its own account for a read, `own`, with what is done about a timer, if one
is armed for the read; `held` is the timer as long as it is not cancelled. -/
inductive Around : Option TimerId → List Act → List Act → Prop
  | untimed (own : List Act) : Around none own own
  | held (timer : TimerId) (own : List Act) : Around (some timer) own (.arm timer :: own)
  | cancelled (timer : TimerId) (before after : List Act) :
      Around none (before ++ after) (.arm timer :: (before ++ .cancel timer :: after))

/-- A read from beginning to end. -/
inductive Episode : List Act → Prop
  | bare : Episode [.read false]
  | around {acts : List Act} (around : Around none [.release, .read true, .acquire] acts) :
      Episode acts

/-- The acts are what has been done so far for the read that the run is at. -/
def Life.Doing (life : Life) (acts : List Act) : Prop :=
  match life.run with
  | some (.armed _ timer) => acts = [.arm timer]
  | some (.releasing _) => Around life.idler.timer [] acts
  | some (.reading round) =>
    if round.granted then Around life.idler.timer [.release] acts else acts = []
  | some (.acquiring _ _) => Around life.idler.timer [.release, .read true] acts
  | some (.disarming _ _) => Around life.idler.timer [.release, .read true, .acquire] acts
  | _ => acts = []

/-! ### Timers and the wake lock -/

def Act.armed? : Act → Option TimerId
  | arm timer => some timer
  | _ => none

def Act.cancelled? : Act → Option TimerId
  | cancel timer => some timer
  | _ => none

/-- Whether the device is kept awake after an act, given whether it was before. -/
def Act.wakes (awake : Bool) : Act → Bool
  | release => false
  | acquire => true
  | _ => awake

/-- Whether the acts leave a device awake that was kept so before. -/
def keepsAwake (acts : List Act) : Bool :=
  acts.foldl Act.wakes true

/-- The timer that was started and that nobody has cancelled. -/
def Life.held? (life : Life) : Option TimerId :=
  match life.run with
  | some (.armed _ timer) => some timer
  | _ => life.idler.timer

/-- Whether a read is being made for which the device may sleep. -/
def Life.rests (life : Life) : Bool :=
  match life.run with
  | some (.reading round) => round.granted
  | some (.acquiring _ _) => true
  | _ => false

section Around

variable {held : Option TimerId} {own acts : List Act}

theorem Around.concat (around : Around held own acts) (act : Act) :
    Around held (own ++ [act]) (acts ++ [act]) := by
  cases around with
  | untimed => exact .untimed _
  | held timer => exact .held timer _
  | cancelled timer before after =>
    simpa only [List.append_assoc, List.cons_append] using
      Around.cancelled timer before (after ++ [act])

theorem Around.cancel (around : Around held own acts) :
    Around none own (acts ++ held.toList.map .cancel) := by
  cases around with
  | untimed => simpa using Around.untimed own
  | held timer => simpa using Around.cancelled timer own []
  | cancelled timer before after => simpa using Around.cancelled timer before after

/-- All that is armed is cancelled but for the timer that is held. -/
theorem Around.timers (around : Around held own acts) (unarmed : own.filterMap Act.armed? = [])
    (quiet : own.filterMap Act.cancelled? = []) :
    acts.filterMap Act.armed? = acts.filterMap Act.cancelled? ++ held.toList := by
  cases around with
  | untimed => rw [unarmed, quiet]; rfl
  | held timer =>
    simp [List.filterMap_cons, Act.armed?, Act.cancelled?, unarmed, quiet]
  | cancelled timer before after =>
    simp only [List.filterMap_append, List.append_eq_nil_iff] at unarmed quiet
    simp [List.filterMap_cons, Act.armed?, Act.cancelled?, unarmed, quiet]

/-- What is done about a timer does not matter to the device. -/
theorem Around.foldl_wakes (around : Around held own acts) (awake : Bool) :
    acts.foldl Act.wakes awake = own.foldl Act.wakes awake := by
  cases around with
  | untimed | held => rfl
  | cancelled => simp [Act.wakes]

theorem Episode.timers (episode : Episode acts) :
    acts.filterMap Act.armed? = acts.filterMap Act.cancelled? := by
  cases episode with
  | bare => rfl
  | around around => exact (around.timers rfl rfl).trans (List.append_nil _)

theorem Episode.keepsAwake (episode : Episode acts) : keepsAwake acts = true := by
  cases episode with
  | bare => rfl
  | around around => exact around.foldl_wakes true

/-- A device is awake after reads that are over. -/
theorem keepsAwake_append {finished : List (List Act)} (episodes : ∀ acts ∈ finished, Episode acts)
    (present : List Act) : keepsAwake (finished.flatten ++ present) = keepsAwake present := by
  induction finished with
  | nil => rfl
  | cons acts finished ih =>
    obtain ⟨episode, episodes⟩ := List.forall_mem_cons.1 episodes
    rw [List.flatten_cons, List.append_assoc, Idle.keepsAwake, List.foldl_append]
    change (finished.flatten ++ present).foldl Act.wakes (Idle.keepsAwake acts) = _
    rw [episode.keepsAwake]
    exact ih episodes

/-- All timers are cancelled after reads that are over. -/
theorem timers_flatten {finished : List (List Act)} (episodes : ∀ acts ∈ finished, Episode acts) :
    finished.flatten.filterMap Act.armed? = finished.flatten.filterMap Act.cancelled? := by
  rw [List.filterMap_flatten, List.filterMap_flatten]
  exact congrArg List.flatten (List.map_congr_left fun acts member => (episodes acts member).timers)

end Around

@[simp]
theorem doing_next (idler : Idler) (round : Round) (acts : List Act) :
    (⟨idler, some (.next round)⟩ : Life).Doing acts ↔ acts = [] := by
  unfold Point.next
  cases granted : round.granted with
  | true => rfl
  | false => simp [Life.Doing, granted]

theorem doing_congr {before after : Idler} {run : Option Point} {acts : List Act}
    (same : after.timer = before.timer) :
    (⟨after, run⟩ : Life).Doing acts ↔ (⟨before, run⟩ : Life).Doing acts := by
  simp only [Life.Doing, same]

/-- What has been done for a read when its timer is cancelled. -/
theorem Life.Doing.cancel {before after : Idler} {run : Option Point} {acts : List Act}
    (doing : (⟨before, run⟩ : Life).Doing acts) (timed : (⟨before, run⟩ : Life).TimedInRead)
    (freed : after.timer = none) :
    (⟨after, run⟩ : Life).Doing (acts ++ before.timer.toList.map .cancel) := by
  obtain free | ⟨point, stands, holds⟩ := timed
  · replace free : before.timer = none := free
    rw [free]
    simpa using (doing_congr (freed.trans free.symm)).2 doing
  · obtain rfl : run = some point := stands
    cases point with
    | releasing | acquiring | disarming =>
      simp only [Life.Doing, freed] at doing ⊢
      exact doing.cancel
    | reading round =>
      replace holds : round.granted = true := holds
      simp only [Life.Doing, freed, holds, if_true] at doing ⊢
      exact doing.cancel
    | _ => cases holds

section Step

variable {settings : Settings} {life after : Life} {moment : Moment} {past : List Moment}
  {acts : List Act}

@[simp]
theorem filterMap_cancelled? (timers : List TimerId) :
    (timers.map Exchange.cancelTimer).filterMap Exchange.cancelled? = timers := by
  induction timers with
  | nil => rfl
  | cons timer _ ih => exact congrArg (timer :: ·) ih

/-- To send `DONE` cancels the timer, or leaves it as it is. -/
theorem SendsDone.cancelled {before own : Idler} {calls : List Exchange}
    (sends : SendsDone before own calls) :
    calls.filterMap Exchange.cancelled? = [] ∧ own.timer = before.timer ∨
      calls.filterMap Exchange.cancelled? = before.timer.toList ∧ own.timer = none := by
  cases sends with
  | unfit | gone => exact .inl ⟨rfl, rfl⟩
  | sent connection restored sent =>
    refine .inr ⟨?_, rfl⟩
    rw [List.filterMap_cons_none rfl, List.filterMap_append, filterMap_cancelled?]
    exact List.append_nil _

theorem SendsDone.cancelled_eq_nil {before own : Idler} {calls : List Exchange}
    (sends : SendsDone before own calls) (free : before.timer = none) :
    calls.filterMap Exchange.cancelled? = [] := by
  obtain ⟨none, _⟩ | ⟨own, _⟩ := sends.cancelled
  · exact none
  · rw [own, free]
    rfl

theorem SendsDone.doing {before own : Idler} {run : Option Point} {calls : List Exchange}
    (sends : SendsDone before own calls) (doing : (⟨before, run⟩ : Life).Doing acts)
    (timed : (⟨before, run⟩ : Life).TimedInRead) :
    (⟨own, run⟩ : Life).Doing (acts ++ (calls.filterMap Exchange.cancelled?).map .cancel) := by
  obtain ⟨none, same⟩ | ⟨own, freed⟩ := sends.cancelled
  · rw [none, List.map_nil, List.append_nil]
    exact (doing_congr same).2 doing
  · rw [own]
    exact doing.cancel timed freed

/-! ## One step -/

/-- Each step goes on with what is done for a read, or it is the last one of it. -/
theorem happens_doing (happens : Happens settings life moment after) (inStep : life.InStep)
    (timed : life.TimedInRead)
    (asked : ∀ round, life.run = some (.reading round) → agreed past = round.granted)
    (doing : life.Doing acts) :
    after.Doing (acts ++ moment.acts past) ∨
      Episode (acts ++ moment.acts past) ∧ after.Doing [] := by
  cases happens with
  | enter | leave => exact .inl ((List.append_nil acts).trans doing)
  | refuse =>
    refine .inl ?_
    change life.Doing (acts ++ [])
    rwa [List.append_nil]
  | stop run sends => exact .inl (sends.doing ((doing_congr rfl).2 doing) timed)
  | refresh run sends => exact .inl (sends.doing doing timed)
  | reply _ resumes =>
    cases resumes with
    | timed round timer =>
      obtain rfl : acts = [] := doing
      exact .inl rfl
    | released round =>
      refine .inl ?_
      simp only [Life.Doing, (mem_phases_granted inStep.phase).1, if_true]
      exact Around.concat doing _
    | woken round response granted =>
      simp only [Life.Doing, granted, if_true] at doing
      refine .inl ?_
      simp only [Life.Doing, Moment.acts, Moment.own?, asked round rfl, granted]
      exact Around.concat doing _
    | acquired round response => exact .inl (Around.concat doing _)
    | read round response ungranted | unread round response ungranted =>
      simp only [Life.Doing, ungranted, Bool.false_eq_true, if_false] at doing
      subst doing
      refine .inr ⟨?_, rfl⟩
      simp only [Moment.acts, Moment.own?, asked round rfl, ungranted]
      exact .bare
    | _ => exact .inl ((List.append_nil acts).trans doing)
  | work works =>
    cases works with
    | armed round timer =>
      obtain rfl : acts = [.arm timer] := doing
      exact .inl (.held timer [])
    | rests =>
      obtain rfl : acts = [] := doing
      refine .inl ?_
      simp only [Life.Doing, timed.timer_eq_none rfl]
      exact .untimed []
    | disarmed | broken =>
      refine .inr ⟨.around ?_, rfl⟩
      simp only [Moment.acts, filterMap_cancelled?]
      exact Around.cancel doing
    | granted | late | ignored =>
      exact .inl ((doing_next _ _ _).2 ((List.append_nil acts).trans doing))
    | changed round _ _ _ _ _ sends =>
      obtain rfl : acts = [] := doing
      refine .inl ?_
      simp only [Moment.acts, sends.cancelled_eq_nil (timed.timer_eq_none rfl)]
      split
      · exact (doing_next _ _ _).2 rfl
      · rfl
    | finishes _ _ _ _ next_eq =>
      obtain rfl : acts = [] := doing
      refine .inl ?_
      subst next_eq
      simp only [Moment.acts, filterMap_cancelled?, timed.timer_eq_none rfl]
      split <;> rfl
    | _ => exact .inl ((List.append_nil acts).trans doing)

/-- `IDLE` is sent where a round begins, so not while a run is in one. -/
theorem Happens.isIdle_eq_false (happens : Happens settings life moment after) {point : Point}
    {round : Round} (stood : life.run = some point) (within : point.round? = some round) :
    moment.calls.any Exchange.isIdle = false := by
  rw [List.any_eq_false]
  intro call member idle
  cases call with
  | sendCommand connection text answer =>
    cases stood.symm.trans (happens.sendsIdle member).1
    cases within
  | _ => cases idle

theorem Moment.Begins.isIdle {tag : String} (begins : moment.Begins tag) :
    moment.calls.any Exchange.isIdle = true := by
  obtain ⟨connection, sends⟩ := begins
  exact List.any_eq_true.2 ⟨_, sends, rfl⟩

theorem any_toList {α : Type} (kind : α → Bool) (value : Option α) :
    value.toList.any kind = value.any kind := by
  cases value with
  | none => rfl
  | some value => exact Bool.or_false _

/-- An agreement is read, waits to be taken up, and is taken up. -/
theorem Happens.readsGrant (happens : Happens settings life moment after) :
    (moment.readsGrant || life.unheard?.any Wire.Response.isContinuation) =
      (after.unheard?.any Wire.Response.isContinuation || moment.grants) := by
  have reads := congrArg (List.any · Wire.Response.isContinuation) (happens_unheard happens)
  rw [List.any_append, List.any_append, any_toList, any_toList, any_toList, any_toList,
    Moment.heard?, Option.any_map] at reads
  exact reads

end Step

section Lived

variable {settings : Settings} {history : List Moment} {life : Life}

/-- In a round, the server agreed by what was read if the run knows it, or is to take it up. -/
theorem Lived.agreed_eq (lived : Lived settings history life) {point : Point} {round : Round}
    (stands : life.run = some point) (within : point.round? = some round) :
    agreed history = (round.granted || life.unheard?.any Wire.Response.isContinuation) := by
  induction lived generalizing point round with
  | new => cases stands
  | @step past before after moment _ step ih =>
    have happens := happens_step step
    obtain ⟨begins, connection, starts⟩ | ⟨point', round', stood, was, _⟩ :=
      happens_round happens stands within
    · have idle := begins.isIdle
      obtain ⟨own, sends⟩ := begins
      have begun := (happens.sendsIdle sends).2 _ rfl
      obtain rfl : point = .reading ⟨own, round.tag, false⟩ :=
        Option.some.inj (stands.symm.trans begun)
      rw [agreed, idle, Life.unheard?, begun, ← Option.some.inj within]
      rfl
    · rw [agreed, happens.isIdle_eq_false stood was, ih stood was,
        happens_sameRound happens stood was stands within]
      calc
        (!false && (moment.readsGrant || (round'.granted || before.unheard?.any _)))
        _ = (round'.granted || (moment.readsGrant || before.unheard?.any _)) :=
          Bool.or_left_comm _ _ _
        _ = (round'.granted || (after.unheard?.any _ || moment.grants)) := by
          rw [happens.readsGrant]
        _ = (moment.grants || round'.granted || after.unheard?.any _) := by
          rw [Bool.or_comm (after.unheard?.any _), ← Bool.or_assoc, Bool.or_comm round'.granted]

theorem Lived.doing (lived : Lived settings history life) :
    ∃ (finished : List (List Act)) (present : List Act),
      actsIn history = finished.flatten ++ present ∧
      (∀ acts ∈ finished, Episode acts) ∧ life.Doing present := by
  induction lived with
  | new => exact ⟨[], [], rfl, List.forall_mem_nil _, rfl⟩
  | @step past before after moment lived step ih =>
    obtain ⟨finished, present, split, episodes, doing⟩ := ih
    have asked (round : Round) (stands : before.run = some (.reading round)) :
        agreed past = round.granted := by
      rw [lived.agreed_eq stands rfl, Life.unheard?, stands]
      exact Bool.or_false _
    obtain goesOn | ⟨episode, begins⟩ :=
      happens_doing (happens_step step) lived.inStep lived.timedInRead asked doing
    · refine ⟨finished, present ++ moment.acts past, ?_, episodes, goesOn⟩
      rw [actsIn, split, List.append_assoc]
    · refine ⟨finished ++ [present ++ moment.acts past], [], ?_, ?_, begins⟩
      · rw [actsIn, split, List.append_assoc, List.flatten_concat, List.append_nil]
      · exact List.forall_mem_append.2 ⟨episodes, List.forall_mem_singleton.2 episode⟩

/-- A timer is armed only in a round that the server agreed to. -/
theorem Lived.agreed_of_arm {moment : Moment} (lived : Lived settings (moment :: history) life)
    {timer : TimerId} (arms : .arm timer ∈ moment.acts history) : agreed history = true := by
  cases lived with
  | @step _ before _ _ lived step =>
    have happens := happens_step step
    obtain own | cancel := List.mem_append.1 arms
    · replace own := Option.mem_toList.1 own
      cases happens with
      | reply _ resumes =>
        cases resumes with
        | timed round =>
          rw [lived.agreed_eq rfl rfl, (mem_phases_granted lived.inStep.phase).1]
          rfl
        | _ => cases own
      | _ => cases own
    · obtain ⟨_, _, absurd⟩ := List.mem_map.1 cancel
      cases absurd

end Lived

section Doing

variable {life : Life} {acts : List Act}

theorem Life.TimedInRead.held?_eq_none (timed : life.TimedInRead)
    (away : ∀ point, life.run = some point → point.holdsTimer = false ∧
      ∀ round timer, point ≠ .armed round timer) : life.held? = none := by
  obtain ⟨idler, run⟩ := life
  cases run with
  | none =>
    obtain free | ⟨_, stands, _⟩ := timed
    · exact free
    · cases stands
  | some point =>
    have free := timed.timer_eq_none (away point rfl).1
    cases point with
    | armed round timer => exact absurd rfl ((away _ rfl).2 round timer)
    | _ => exact free

/-- Of the timers that were armed for a read, all but the one that is held were cancelled. -/
theorem Life.Doing.timers (doing : life.Doing acts) (timed : life.TimedInRead) :
    acts.filterMap Act.armed? = acts.filterMap Act.cancelled? ++ life.held?.toList := by
  obtain ⟨idler, run⟩ := life
  cases run with
  | none =>
    obtain rfl : acts = [] := doing
    rw [timed.held?_eq_none nofun]
    rfl
  | some point =>
    cases point with
    | armed round timer =>
      obtain rfl : acts = [.arm timer] := doing
      rfl
    | releasing | acquiring | disarming => exact Around.timers doing rfl rfl
    | reading round =>
      cases granted : round.granted with
      | true =>
        simp only [Life.Doing, granted, if_true] at doing
        exact doing.timers rfl rfl
      | false =>
        simp only [Life.Doing, granted, Bool.false_eq_true, if_false] at doing
        subst doing
        rw [Life.held?, timed.timer_eq_none granted]
        rfl
    | _ =>
      obtain rfl : acts = [] := doing
      rw [Life.held?, timed.timer_eq_none rfl]
      rfl

theorem Life.Doing.keepsAwake (doing : life.Doing acts) : keepsAwake acts = !life.rests := by
  obtain ⟨idler, run⟩ := life
  cases run with
  | none =>
    obtain rfl : acts = [] := doing
    rfl
  | some point =>
    cases point with
    | armed round timer =>
      obtain rfl : acts = [.arm timer] := doing
      rfl
    | releasing | acquiring | disarming => exact Around.foldl_wakes doing true
    | reading round =>
      cases granted : round.granted with
      | true =>
        simp only [Life.Doing, granted, if_true] at doing
        change _ = !round.granted
        rw [granted]
        exact doing.foldl_wakes true
      | false =>
        simp only [Life.Doing, granted, Bool.false_eq_true, if_false] at doing
        subst doing
        change _ = !round.granted
        rw [granted]
        rfl
    | _ =>
      obtain rfl : acts = [] := doing
      rfl

/-- A timer that is held as a read is made was armed for it. -/
theorem Life.Doing.fresh {round : Round} {timer : TimerId} (doing : life.Doing acts)
    (timed : life.TimedInRead) (stands : life.run = some (.reading round))
    (holds : life.held? = some timer) : acts = [.arm timer, .release] := by
  obtain ⟨idler, run⟩ := life
  obtain rfl : run = some (.reading round) := stands
  replace holds : idler.timer = some timer := holds
  cases granted : round.granted with
  | false => cases (timed.timer_eq_none granted).symm.trans holds
  | true =>
    simp only [Life.Doing, granted, if_true, holds] at doing
    cases doing
    rfl

end Doing

/-! ## A whole life -/

/-- What is done around the reads of a life. -/
structure Bracketed (history : List Moment) (life : Life) : Prop where
  /-- It is one read after the other, each from beginning to end, and then what has been done so far
  for the read that the run is at. -/
  reads : ∃ (finished : List (List Act)) (present : List Act),
    actsIn history = finished.flatten ++ present ∧ (∀ acts ∈ finished, Episode acts) ∧
      life.Doing present
  /-- Each timer that is armed is cancelled once, and before the next one is armed; so there is at
  most one that nobody has cancelled yet. -/
  held : (actsIn history).filterMap Act.armed? =
    (actsIn history).filterMap Act.cancelled? ++ life.held?.toList
  /-- A timer that nobody has cancelled as a read is made was armed for this very read. -/
  fresh : ∀ round timer, life.run = some (.reading round) → life.held? = some timer →
    ∃ before, actsIn history = before ++ [.arm timer, .release]
  /-- As the run returns, and while there is none, all timers are cancelled. -/
  returned : (∀ point, life.run = some point → ∃ ending, point = .ended ending) → life.held? = none
  /-- No timer is armed before the server agreed to the round. -/
  asked : ∀ later moment earlier timer, history = later ++ moment :: earlier →
    .arm timer ∈ moment.acts earlier → agreed earlier = true
  /-- A device that was kept awake is kept so but for the reads at which it may sleep. -/
  awake : keepsAwake (actsIn history) = !life.rests

/-- However a run, stops, fresh rounds and late timers come between each other, and whatever the
reads come to: reads that are made after the server agreed to the round, and no others, are made
while the device may sleep, and no timer that was armed for a read is left when the next read is
made, nor when the run returns. -/
theorem lived_bracketed {settings : Settings} {history : List Moment} {life : Life}
    (lived : Lived settings history life) : Bracketed history life := by
  obtain ⟨finished, present, split, episodes, doing⟩ := lived.doing
  refine ⟨⟨finished, present, split, episodes, doing⟩, ?_, ?_, ?_, ?_, ?_⟩
  · rw [split, List.filterMap_append, List.filterMap_append, timers_flatten episodes,
      doing.timers lived.timedInRead, List.append_assoc]
  · intro round timer stands holds
    exact ⟨finished.flatten, by rw [split, doing.fresh lived.timedInRead stands holds]⟩
  · intro away
    refine lived.timedInRead.held?_eq_none fun point stands => ?_
    obtain ⟨ending, rfl⟩ := away point stands
    exact ⟨rfl, nofun⟩
  · rintro later moment earlier timer rfl arms
    obtain ⟨_, lived⟩ := lived.exists_before
    exact lived.agreed_of_arm arms
  · rw [split, keepsAwake_append episodes]
    exact doing.keepsAwake

theorem lived_bracketed_renewed :
    Lived ⟨"INBOX", 1000⟩ (renewed ++ again)
        ⟨⟨.awaitingContinuation, false, .stopped, none, some 0⟩, some (.reading ⟨0, "A1", false⟩)⟩ ∧
      actsIn (renewed ++ again) =
        [.read false, .arm 0, .release, .read true, .acquire, .cancel 0] ∧
      Bracketed (renewed ++ again)
        ⟨⟨.awaitingContinuation, false, .stopped, none, some 0⟩,
          some (.reading ⟨0, "A1", false⟩)⟩ :=
  ⟨lived_renewed, rfl, lived_bracketed lived_renewed⟩

end MailReplica.Idle
