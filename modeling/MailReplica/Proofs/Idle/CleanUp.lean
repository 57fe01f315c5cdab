import MailReplica.Proofs.Idle.Handle
import MailReplica.Proofs.Idle.Protocol
import MailReplica.Proofs.Idle.Within

/-! # What a run leaves behind

A run can end in many ways, and all of them lead through the section that finishes it.  The idler
notes the connection of a run only while the run has it (`Lived.connectedInRun`), so each connection
that is obtained is closed or still open (`Lived.obtained`).  Once the run is over, the idler holds
no timer and no connection, a stop is due only if it was asked for since, and the phase tells
whether another run may begin (`over_cleanedUp`).
-/

namespace MailReplica.Idle

/-! ## The connection of a run -/

/-- The connection that a run obtains. -/
def Moment.obtained? (moment : Moment) : Option ConnectionId :=
  match moment.deed with
  | .reply .connecting (.connected (.ok connection)) => some connection
  | _ => none

/-- The connection that a run closes. -/
def Moment.closed? (moment : Moment) : Option ConnectionId :=
  match moment.deed with
  | .reply (.closing connection _) _ => some connection
  | _ => none

/-- The connection that a run has obtained and not closed. -/
def Life.open? (life : Life) : Option ConnectionId :=
  match life.run with
  | some (.connected connection) | some (.closing connection _) => some connection
  | _ => life.idler.connection

/-- Whether the idler may have noted a connection while its run stands at a point. -/
def Point.notesConnection : Point → Bool
  | connecting | connected _ | closing _ _ | ended _ => false
  | _ => true

/-- The idler has noted no connection, or its run may still work on the one it noted. -/
def Life.ConnectedInRun (life : Life) : Prop :=
  life.idler.connection = none ∨ ∃ point, life.run = some point ∧ point.notesConnection = true

@[simp]
theorem notesConnection_next (round : Round) : (Point.next round).notesConnection = true :=
  Point.apply_next rfl rfl

/-- `DONE` may not be sent while no run goes on. -/
theorem not_acceptsDone {phase : Phase} (fits : phase ∈ phasesAt none) :
    phase.acceptsDone = false := by
  simp only [phasesAt, List.mem_cons, List.not_mem_nil, or_false] at fits
  obtain rfl | rfl | rfl := fits <;> rfl

theorem next_ne_connecting (round : Round) : Point.next round ≠ .connecting := by
  unfold Point.next
  split <;> nofun

@[simp]
theorem open?_next (idler : Idler) (round : Round) :
    (⟨idler, some (.next round)⟩ : Life).open? = idler.connection :=
  Point.apply_next (f := fun point => (⟨idler, some point⟩ : Life).open?) rfl rfl

theorem open?_congr {before after : Idler} (run : Option Point)
    (same : after.connection = before.connection) :
    (⟨after, run⟩ : Life).open? = (⟨before, run⟩ : Life).open? := by
  simp only [Life.open?, same]

theorem Life.ConnectedInRun.connection_eq_none {idler : Idler} {point : Point}
    (connected : Life.ConnectedInRun ⟨idler, some point⟩) (free : point.notesConnection = false) :
    idler.connection = none := by
  obtain none | ⟨_, stands, notes⟩ := connected
  · exact none
  · cases stands
    cases free.symm.trans notes

section Step

variable {settings : Settings} {life after : Life} {moment : Moment}

theorem happens_connectedInRun (happens : Happens settings life moment after)
    (connected : life.ConnectedInRun) : after.ConnectedInRun := by
  cases happens with
  | enter =>
    obtain none | ⟨_, stands, _⟩ := connected
    · exact .inl none
    · cases stands
  | refuse => exact connected
  | stop _ sends | refresh _ sends => exact connected.imp sends.connection_eq.trans id
  | leave => exact .inl (connected.connection_eq_none rfl)
  | reply _ resumes =>
    cases resumes with
    | connected | closed => exact .inl (connected.connection_eq_none rfl)
    | _ => exact .inr ⟨_, rfl, rfl⟩
  | work works =>
    cases works with
    | granted | late | ignored => exact .inr ⟨_, rfl, notesConnection_next _⟩
    | changed =>
      refine .inr ⟨_, rfl, ?_⟩
      split
      · exact notesConnection_next _
      · rfl
    | finishes => exact .inl rfl
    | _ => exact .inr ⟨_, rfl, rfl⟩

/-- A connection is obtained, is open, and is closed. -/
theorem happens_open (happens : Happens settings life moment after)
    (connected : life.ConnectedInRun) :
    moment.obtained?.toList ++ life.open?.toList =
      after.open?.toList ++ moment.closed?.toList := by
  cases happens with
  | enter | refuse | leave => exact (List.append_nil _).symm
  | stop run sends | refresh run sends =>
    rw [open?_congr run sends.connection_eq]
    exact (List.append_nil _).symm
  | reply _ resumes =>
    cases resumes with
    | connected =>
      have none := connected.connection_eq_none rfl
      simp [Moment.obtained?, Moment.closed?, Life.open?, none]
    | closed =>
      have none := connected.connection_eq_none rfl
      simp [Moment.obtained?, Moment.closed?, Life.open?, none]
    | _ => exact (List.append_nil _).symm
  | @work before _ _ _ _ works =>
    cases works with
    | granted | late | ignored =>
      rw [open?_next]
      exact (List.append_nil _).symm
    | changed round _ _ _ _ _ sends =>
      cases round.granted with
      | true =>
        rw [if_pos rfl, open?_next, sends.connection_eq]
        exact (List.append_nil _).symm
      | false =>
        simp only [Life.open?, sends.connection_eq]
        exact (List.append_nil _).symm
    | finishes _ _ _ _ next_eq =>
      subst next_eq
      cases noted : before.connection <;> simp [noted, Life.open?, Moment.obtained?, Moment.closed?]
    | _ => exact (List.append_nil _).symm

/-- A run asks for a connection only as it begins. -/
theorem happens_connecting (happens : Happens settings life moment after)
    (connecting : after.run = some .connecting) :
    moment.enters = true ∨ life.run = some .connecting ∧ moment.obtained? = none := by
  cases happens with
  | enter => exact .inl rfl
  | leave => cases connecting
  | refuse | stop | refresh => exact .inr ⟨connecting, rfl⟩
  | reply _ resumes =>
    cases connecting
    cases resumes
  | work works =>
    cases works with
    | granted | late | ignored => exact absurd (Option.some.inj connecting) (next_ne_connecting _)
    | changed =>
      split at connecting
      · exact absurd (Option.some.inj connecting) (next_ne_connecting _)
      · cases connecting
    | finishes _ _ _ _ next_eq =>
      subst next_eq
      split at connecting <;> cases connecting
    | _ => cases connecting

theorem connecting_of_obtained (happens : Happens settings life moment after)
    (obtained : moment.obtained?.isSome = true) : life.run = some .connecting := by
  cases happens with
  | reply _ resumes =>
    cases resumes with
    | connected => rfl
    | _ => cases obtained
  | _ => cases obtained

/-- While no run goes on, nothing that is done moves the idler to another phase. -/
theorem happens_at_rest (happens : Happens settings life moment after) (inStep : life.InStep)
    (still : life.run = none) (same : moment.enters = false) :
    after.run = none ∧ after.idler.phase = life.idler.phase ∧ moment.clears = false := by
  cases happens with
  | enter => cases same
  | refuse => exact ⟨still, rfl, rfl⟩
  | work | reply | leave => cases still
  | stop run sends | refresh run sends =>
    refine ⟨still, ?_, rfl⟩
    rw [sends.phase_eq, if_neg]
    intro done
    have fits := inStep.phase
    rw [still] at fits
    cases (not_acceptsDone fits).symm.trans (sends.acceptsDone done)

end Step

section Lived

variable {settings : Settings} {history : List Moment} {life : Life}

theorem Lived.connectedInRun (lived : Lived settings history life) : life.ConnectedInRun := by
  induction lived with
  | new => exact .inl rfl
  | step _ step ih => exact happens_connectedInRun (happens_step step) ih

/-- The connections that a run obtained are those that it closed, and the one that is open. -/
theorem Lived.obtained (lived : Lived settings history life) :
    (ofRun history).filterMap Moment.obtained? =
      life.open?.toList ++ (ofRun history).filterMap Moment.closed? := by
  induction lived with
  | new => rfl
  | @step past before after moment lived step ih =>
    have happens := happens_step step
    rw [ofRun_cons]
    cases enters : moment.enters with
    | true =>
      have connected := happens_connectedInRun happens lived.connectedInRun
      obtain ⟨idler, run⟩ := after
      obtain rfl : run = some .connecting := (happens.enters enters).2
      simp [Life.open?, connected.connection_eq_none rfl]
    | false =>
      simp only [Bool.false_eq_true, if_false, List.filterMap_eq_flatMap_toList,
        List.flatMap_cons] at ih ⊢
      rw [ih, ← List.append_assoc, happens_open happens lived.connectedInRun, List.append_assoc]

/-- A run obtains at most one connection. -/
theorem Lived.obtains_once (lived : Lived settings history life) :
    (life.run = some .connecting → (ofRun history).filterMap Moment.obtained? = []) ∧
      ((ofRun history).filterMap Moment.obtained?).length ≤ 1 := by
  induction lived with
  | new => exact ⟨nofun, Nat.zero_le 1⟩
  | @step past before after moment lived step ih =>
    have happens := happens_step step
    rw [ofRun_cons]
    cases enters : moment.enters with
    | true => exact ⟨fun _ => rfl, Nat.zero_le 1⟩
    | false =>
      obtain ⟨first, once⟩ := ih
      refine ⟨fun connecting => ?_, ?_⟩
      · obtain new | ⟨stood, none⟩ := happens_connecting happens connecting
        · cases enters.symm.trans new
        · exact (List.filterMap_cons_none none).trans (first stood)
      · cases obtained : moment.obtained? with
        | none => simpa [obtained] using once
        | some connection =>
          have stood := connecting_of_obtained happens (by rw [obtained]; rfl)
          simp [obtained, first stood]

end Lived

/-! ## A run that is over -/

/-- The phase in which a run leaves its idler. -/
def phaseAfter : Ending → Phase
  | .ok .notSupported => .notSupported
  | _ => .stopped

/-- The run that began last has done all its work and is about to return `ending`, or has returned
it. -/
def Over (history : List Moment) (life : Life) (ending : Ending) : Prop :=
  life.run = some (.ended ending) ∨
    ∃ since calls past, history = since ++ ⟨.leave ending, calls⟩ :: past ∧
      ∀ moment ∈ since, moment.enters = false

/-- The run that began last went through the section that finishes it with `ending`; `since` is what
was done afterwards. -/
def FinishedSince (history : List Moment) (ending : Ending) (since : List Moment) : Prop :=
  ∃ finish earlier, history = since ++ finish :: earlier ∧
    finish.deed = .work (.finishing ending) ∧
    ∀ moment ∈ since, moment.enters = false ∧ moment.clears = false

/-- What a run leaves behind. -/
structure CleanedUp (history : List Moment) (life : Life) (ending : Ending) : Prop where
  /-- The run was finished, and only a stop that was asked for since then is due. -/
  finished : ∃ since, FinishedSince history ending since ∧
    life.idler.stopRequested = since.any Moment.stops
  /-- The run closed the connection that it obtained, and no other. -/
  closed : (ofRun history).filterMap Moment.closed? = (ofRun history).filterMap Moment.obtained?
  once : ((ofRun history).filterMap Moment.obtained?).length ≤ 1
  timer : life.idler.timer = none
  connection : life.idler.connection = none
  phase : life.idler.phase = phaseAfter ending
  /-- Another run may begin unless waiting is not supported. -/
  accepts : ∀ (ε : Type) (state : ε),
    ((Section.enter : Section ε Point).run (life.idler, state)).1 = .connecting ↔
      ending ≠ .ok .notSupported

section Over

variable {settings : Settings} {history since past : List Moment} {life : Life} {ending : Ending}
  {calls : List Exchange}

theorem FinishedSince.cons {moment : Moment} (finished : FinishedSince history ending since)
    (own : moment.enters = false) (clear : moment.clears = false) :
    FinishedSince (moment :: history) ending (moment :: since) := by
  obtain ⟨finish, earlier, rfl, deed, between⟩ := finished
  exact ⟨finish, earlier, rfl, deed, List.forall_mem_cons.2 ⟨⟨own, clear⟩, between⟩⟩

/-- The flag was cleared last as the run was finished. -/
theorem FinishedSince.sinceCleared_eq (finished : FinishedSince history ending since) :
    sinceCleared history = since := by
  obtain ⟨finish, earlier, rfl, deed, between⟩ := finished
  have clears : finish.clears = true := by
    rw [Moment.clears, deed]
  have all : ∀ moment ∈ since, (!moment.clears) = true := fun moment member => by
    rw [(between moment member).2]
    rfl
  rw [sinceCleared, List.takeWhile_append_of_pos all, List.takeWhile_cons, clears]
  exact List.append_nil since

theorem Lived.finished_of_ended (lived : Lived settings history life)
    (stands : life.run = some (.ended ending)) :
    life.idler.phase = phaseAfter ending ∧ ∃ since, FinishedSince history ending since := by
  obtain ⟨since, finish, earlier, split, deed, own, _⟩ := lived.finished stands rfl
  refine ⟨?_, since, finish, earlier, split, deed, own⟩
  have fits := lived.inStep.phase
  rw [stands] at fits
  rcases ending with failure | (_ | _ | _) <;> exact List.mem_singleton.1 fits

/-- As long as no other run begins, the idler stays as a run has left it. -/
theorem Lived.finished_of_left
    (lived : Lived settings (since ++ ⟨.leave ending, calls⟩ :: past) life)
    (same : ∀ moment ∈ since, moment.enters = false) :
    life.run = none ∧ life.idler.phase = phaseAfter ending ∧
      ∃ later, FinishedSince (since ++ ⟨.leave ending, calls⟩ :: past) ending later := by
  -- The induction is on what was done since the run returned.
  induction since generalizing life with
  | nil =>
    cases lived with
    | step lived step =>
      cases step
      obtain ⟨phase, since, finished⟩ := lived.finished_of_ended rfl
      exact ⟨rfl, phase, _, finished.cons rfl rfl⟩
  | cons moment since ih =>
    obtain ⟨own, before⟩ := List.forall_mem_cons.1 same
    rw [List.cons_append] at lived ⊢
    cases lived with
    | step lived step =>
      obtain ⟨still, phase, later, finished⟩ := ih lived before
      obtain ⟨still, stays, clear⟩ := happens_at_rest (happens_step step) lived.inStep still own
      exact ⟨still, stays.trans phase, _, finished.cons own clear⟩

/-- A run that is about to return its ending, or has returned it, was finished. -/
theorem Lived.finished_of_over (lived : Lived settings history life)
    (returned : Over history life ending) :
    (life.run = some (.ended ending) ∨ life.run = none) ∧ life.idler.phase = phaseAfter ending ∧
      ∃ since, FinishedSince history ending since := by
  obtain stands | ⟨since, calls, past, rfl, same⟩ := returned
  · exact ⟨.inl stands, lived.finished_of_ended stands⟩
  · obtain ⟨still, finished⟩ := lived.finished_of_left same
    exact ⟨.inr still, finished⟩

/-- What may hold only while a run stands at certain points does not hold once it is over. -/
theorem eq_none_of_over {held : Prop} {holds : Point → Bool}
    (stands : life.run = some (.ended ending) ∨ life.run = none)
    (free : holds (.ended ending) = false)
    (either : held ∨ ∃ point, life.run = some point ∧ holds point = true) : held := by
  refine either.elim id fun ⟨point, elsewhere, is⟩ => ?_
  obtain stands | still := stands
  · cases stands.symm.trans elsewhere
    cases free.symm.trans is
  · cases still.symm.trans elsewhere

/-- Once a run is over, a stop is due only if it was asked for since the run was finished. -/
theorem Lived.stopRequested_of_over (lived : Lived settings history life)
    (stands : life.run = some (.ended ending) ∨ life.run = none)
    (finished : FinishedSince history ending since) :
    life.idler.stopRequested = since.any Moment.stops := by
  rw [lived.stopRequested_eq, finished.sinceCleared_eq, Bool.eq_iff_iff, List.any_eq_true,
    List.any_eq_true]
  refine exists_congr fun moment => and_congr_right fun member => ?_
  -- A run that is over takes up nothing.
  have deaf : moment.hears = false := Bool.eq_false_iff.2 fun hears => by
    have active := (lived.hears_ofRun moment (finished.sinceCleared_eq ▸ member) hears).1
    obtain stands | still := stands
    · rw [Life.active, stands] at active
      cases active
    · rw [Life.active, still] at active
      cases active
  rw [deaf, Bool.or_false]

/-- A run is accepted in the phases that allow it to begin. -/
theorem run_enter_iff {ε : Type} (idler : Idler) (state : ε) :
    ((Section.enter : Section ε Point).run (idler, state)).1 = .connecting ↔
      idler.phase.allows .capabilityCheck = true := by
  cases allowed : idler.phase.allows .capabilityCheck with
  | false =>
    rw [run_enter_barred idler state allowed]
    exact ⟨nofun, nofun⟩
  | true =>
    have leads : Section.Leads (Section.enter : Section ε Point) Section.enter (idler, state)
        .connecting ({ idler with phase := .capabilityCheck, outcome := .stopped }, state) [] :=
      .move allowed (.change (.pure _))
    rw [leads.run_plain]
    exact ⟨fun _ => rfl, fun _ => rfl⟩

theorem allows_capabilityCheck_phaseAfter (ending : Ending) :
    (phaseAfter ending).allows .capabilityCheck = true ↔ ending ≠ .ok .notSupported := by
  rcases ending with failure | (_ | _ | _) <;> simp [phaseAfter, Phase.allows]

end Over

/-- However a run comes to its end, and however stops, fresh rounds and late timers come between its
steps: once it is over and until another run begins, it has left its idler as `CleanedUp` says. -/
theorem over_cleanedUp {settings : Settings} {history : List Moment} {life : Life} {ending : Ending}
    (lived : Lived settings history life) (returned : Over history life ending) :
    CleanedUp history life ending := by
  obtain ⟨stands, phase, since, finished⟩ := lived.finished_of_over returned
  have connection : life.idler.connection = none :=
    eq_none_of_over stands rfl lived.connectedInRun
  have closed : life.open? = none := by
    obtain stands | still := stands
    · rwa [Life.open?, stands]
    · rwa [Life.open?, still]
  refine ⟨⟨since, finished, lived.stopRequested_of_over stands finished⟩, ?_, lived.obtains_once.2,
    eq_none_of_over stands rfl lived.timedInRead, connection, phase, fun ε state => ?_⟩
  · rw [lived.obtained, closed]
    rfl
  · rw [run_enter_iff, phase]
    exact allows_capabilityCheck_phaseAfter ending

/-- A stop that is asked for after the tour is left for the next run. -/
theorem over_cleanedUp_tour :
    Lived ⟨"INBOX", 1000⟩ (⟨.stop, []⟩ :: tour) ⟨⟨.stopped, true, .sync, none, none⟩, none⟩ ∧
      Over (⟨.stop, []⟩ :: tour) ⟨⟨.stopped, true, .sync, none, none⟩, none⟩ (.ok .sync) ∧
      CleanedUp (⟨.stop, []⟩ :: tour) ⟨⟨.stopped, true, .sync, none, none⟩, none⟩ (.ok .sync) ∧
      (ofRun (⟨.stop, []⟩ :: tour)).filterMap Moment.closed? = [0] := by
  have lived : Lived ⟨"INBOX", 1000⟩ (⟨.stop, []⟩ :: tour)
      ⟨⟨.stopped, true, .sync, none, none⟩, none⟩ :=
    (lived_tour _).step (.stop (yields_willing rfl rfl))
  have returned : Over (⟨.stop, []⟩ :: tour) ⟨⟨.stopped, true, .sync, none, none⟩, none⟩
      (.ok .sync) :=
    .inr ⟨[⟨.stop, []⟩], [], tour.tail, rfl, List.forall_mem_singleton.2 rfl⟩
  exact ⟨lived, returned, over_cleanedUp lived returned, rfl⟩

end MailReplica.Idle
