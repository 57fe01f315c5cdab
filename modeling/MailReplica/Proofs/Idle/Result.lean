import MailReplica.Proofs.Idle.Rounds

/-! # What the result of a call means

A run of an idler ends with a sync, with a stop, because waiting is not supported, or with a
failure. `returned_means` says what each of these tells its caller about the life of the idler up to
then, however stops, fresh rounds and late timers came between: a fresh round, and a `DONE` that
could not be sent, are never what a run ends with.  A call that is turned away fails though nothing
failed.

A change and a stop meet at the flag that they both set, so which of them is first is a question of
the sections that set it.  The run takes up what it reads, all of it and in order, but it reads
outside of its sections; a stop that comes between the read of a change and its take-up is first
(`read_overtaken`).
-/

namespace MailReplica.Idle

/-- A change was taken up since the flag was cleared, and nobody had asked for a stop by then. -/
def ChangeFirst (past : List Moment) : Prop :=
  Precedes Moment.hears Moment.stops (sinceCleared past)

/-- Somebody asked for a stop since the flag was cleared, and no change was taken up by then. -/
def StopFirst (past : List Moment) : Prop :=
  Precedes Moment.stops Moment.hears (sinceCleared past)

/-- Whether the server turns out not to let clients wait. -/
def Moment.Lacks (moment : Moment) : Prop :=
  ∃ connection, moment.deed = .reply (.checking connection) (.capable (.ok false))

/-- A round was completed, and the server had not agreed to it by then. -/
def Declines (moments : List Moment) : Prop :=
  ∃ later completion between beginning earlier tag,
    moments = later ++ completion :: (between ++ beginning :: earlier) ∧ beginning.Begins tag ∧
      completion.completes tag = true ∧ ∀ moment ∈ between, moment.grants = false

/-- The response that comes back from a read. -/
def Moment.read? (moment : Moment) : Option Wire.Response :=
  match moment.deed with
  | .reply (.reading _) (.response (.ok response)) => some response
  | _ => none

/-- The response that a moment takes up. -/
def Moment.heard? (moment : Moment) : Option Wire.Response :=
  moment.taken?.map Prod.snd

/-- The run takes up each response that it reads, before it reads another one. -/
structure InTurn (moments : List Moment) : Prop where
  all : moments.filterMap Moment.read? = moments.filterMap Moment.heard?
  /-- At no time more than the last one that was read waits to be taken up. -/
  waits : ∀ later earlier, moments = later ++ earlier → ∃ waiting : Option Wire.Response,
    earlier.filterMap Moment.read? = waiting.toList ++ earlier.filterMap Moment.heard?

/-- What the ending of a run means, given the history up to the section that finishes it. -/
structure Means (past : List Moment) (ending : Ending) : Prop where
  /-- The run took up each response that it read, in the order in which it read them. -/
  taken : InTurn (ofRun past)
  /-- A change that is taken up before a stop is asked for ends in a sync or a failure. -/
  heeded : ChangeFirst past → ending = .ok .sync ∨ ∃ failure, ending = .error failure
  /-- A sync: this run met a change. -/
  sync : ending = .ok .sync → ∃ moment ∈ ofRun past, moment.hears = true
  /-- A stop: somebody asked for it, and no change was taken up before. -/
  stopped : ending = .ok .stopped → StopFirst past
  /-- Not supported: the server said so, or completed a round that it had not agreed to. -/
  unsupported : ending = .ok .notSupported →
    (∃ moment ∈ ofRun past, moment.Lacks) ∨ Declines (ofRun past)
  /-- A failure: obtaining the connection or a call on it failed with it, other than one to send
  `DONE`, or a round was completed without success. -/
  failed : ∀ failure, ending = .error failure → ∃ moment ∈ ofRun past, moment.FailsWith failure

/-- The response that a run has read and not yet taken up. -/
def Life.unheard? (life : Life) : Option Wire.Response :=
  match life.run with
  | some (.acquiring _ (.ok response)) | some (.disarming _ (.ok response))
  | some (.handling _ response) => some response
  | _ => none

/-- What a run is going to fail with. -/
def Point.failure? : Point → Option Failure
  | acquiring _ (.error failure) | disarming _ (.error failure) | finishing (.error failure)
  | closing _ (.error failure) | ended (.error failure) => some failure
  | _ => none

/-- Whether a run is going to say that waiting is not supported. -/
def Point.givesUp : Point → Bool
  | refused | finishing (.ok .notSupported) => true
  | _ => false

section Step

variable {settings : Settings} {life after : Life} {moment : Moment}

@[simp]
theorem failure?_next (round : Round) : (Point.next round).failure? = none :=
  Point.apply_next rfl rfl

@[simp]
theorem givesUp_next (round : Round) : (Point.next round).givesUp = false :=
  Point.apply_next rfl rfl

@[simp]
theorem unheard?_next (idler : Idler) (round : Round) :
    (⟨idler, some (.next round)⟩ : Life).unheard? = none :=
  Point.apply_next (f := fun point => (⟨idler, some point⟩ : Life).unheard?) rfl rfl

/-- A response is read, waits to be taken up, and is taken up. -/
theorem happens_unheard (happens : Happens settings life moment after) :
    moment.read?.toList ++ life.unheard?.toList =
      after.unheard?.toList ++ moment.heard?.toList := by
  cases happens with
  | enter | leave => rfl
  | refuse | stop | refresh => exact (List.append_nil _).symm
  | reply _ resumes =>
    cases resumes with
    | woken _ response | acquired _ response => cases response <;> rfl
    | _ => rfl
  | work works =>
    cases works with
    | granted | late | ignored =>
      rw [unheard?_next]
      rfl
    | changed round =>
      cases round.granted with
      | false => rfl
      | true =>
        rw [if_pos rfl, unheard?_next]
        rfl
    | finishes _ _ _ _ next_eq =>
      subst next_eq
      split <;> rfl
    | _ => rfl

/-- A run fails of what it failed of before, or of what goes wrong now. -/
theorem happens_failure (happens : Happens settings life moment after) (inStep : life.InStep)
    {point : Point} {failure : Failure} (stands : after.run = some point)
    (fails : point.failure? = some failure) :
    (∃ point', life.run = some point' ∧ point'.failure? = some failure) ∨
      moment.FailsWith failure := by
  cases happens with
  | enter =>
    cases stands
    cases fails
  | leave => cases stands
  | refuse | stop | refresh => exact .inl ⟨point, stands, fails⟩
  | @reply _ point' _ _ resumes =>
    cases stands
    cases resumes with
    | unconnected | unopened | unchecked | unread =>
      cases fails
      exact .inr (.inl (.inl rfl))
    | woken _ response =>
      cases response with
      | ok => cases fails
      | error own =>
        cases fails
        exact .inr (.inl (.inl rfl))
    | acquired _ response => cases response <;> exact .inl ⟨_, rfl, fails⟩
    | closed _ ending => cases ending <;> exact .inl ⟨_, rfl, fails⟩
    | _ => cases fails
  | @work _ _ point' _ _ works =>
    cases stands
    cases works with
    | unrefused barred =>
      -- The moves that a run attempts are all allowed, so none of them is what it fails of.
      rw [List.mem_singleton.1 inStep.phase] at barred
      cases barred
    | unbegun connection _ barred =>
      have fits : _ ∈ (Point.starting connection).phases := inStep.phase
      cases (allows_sendingIdle fits).symm.trans barred
    | unsent | unset =>
      cases fails
      exact .inr (.inl (.inr ⟨_, List.mem_singleton_self _, rfl⟩))
    | broken => exact .inl ⟨_, rfl, fails⟩
    | failed round response completes success =>
      cases fails
      exact .inr (.inr ⟨round, response, rfl, completes, success, rfl⟩)
    | granted | late | ignored =>
      rw [failure?_next] at fails
      cases fails
    | changed =>
      split at fails
      · rw [failure?_next] at fails
        cases fails
      · cases fails
    | finishes ending _ _ _ next_eq =>
      refine .inl ⟨_, rfl, ?_⟩
      subst next_eq
      cases ending with
      | error own => split at fails <;> exact fails
      | ok outcome => split at fails <;> cases fails
    | _ => cases fails

/-- A run gives up as it did before, as the server lacks what it takes, or as a round that the
server did not agree to is completed. -/
theorem happens_givesUp (happens : Happens settings life moment after) (inStep : life.InStep)
    {point : Point} (stands : after.run = some point) (givesUp : point.givesUp = true) :
    (∃ point', life.run = some point' ∧ point'.givesUp = true) ∨ moment.Lacks ∨
      ∃ point' round, life.run = some point' ∧ point'.round? = some round ∧ round.granted = false ∧
        moment.completes round.tag = true := by
  cases happens with
  | enter =>
    cases stands
    cases givesUp
  | leave => cases stands
  | refuse | stop | refresh => exact .inl ⟨point, stands, givesUp⟩
  | reply _ resumes =>
    cases stands
    cases resumes with
    | incapable connection => exact .inr (.inl ⟨connection, rfl⟩)
    | _ => cases givesUp
  | @work before _ _ _ _ works =>
    cases stands
    cases works with
    | unsupported => exact .inl ⟨_, rfl, rfl⟩
    | declined round response completes awaiting =>
      have fits : _ ∈ (Point.handling round response).phases := inStep.phase
      obtain here | ⟨_, here⟩ | ⟨ungranted, _⟩ := mem_phases_handling fits
      · cases awaiting.symm.trans here
      · cases awaiting.symm.trans here
      · exact .inr (.inr ⟨_, round, rfl, rfl, ungranted, completes⟩)
    | granted | late | ignored =>
      rw [givesUp_next] at givesUp
      cases givesUp
    | changed =>
      split at givesUp
      · rw [givesUp_next] at givesUp
        cases givesUp
      · cases givesUp
    | @concludes =>
      cases own : before.outcome with
      | notSupported => exact absurd own (ne_notSupported_of_mem inStep.noted)
      | sync | stopped =>
        rw [own] at givesUp
        cases givesUp
    | finishes _ _ _ _ next_eq =>
      subst next_eq
      split at givesUp <;> cases givesUp
    | _ => cases givesUp

end Step

section Lived

variable {settings : Settings} {history : List Moment} {life : Life}

/-- The responses that a run has read are those that it took up, and the one that it is to take up
now. -/
theorem Lived.reads (lived : Lived settings history life) :
    (ofRun history).filterMap Moment.read? =
      life.unheard?.toList ++ (ofRun history).filterMap Moment.heard? := by
  induction lived with
  | new => rfl
  | @step past before after moment lived step ih =>
    have happens := happens_step step
    rw [ofRun_cons]
    cases enters : moment.enters with
    | true =>
      obtain ⟨idler, run⟩ := after
      obtain rfl : run = some .connecting := (happens.enters enters).2
      rfl
    | false =>
      have reads (kind : Moment → Option Wire.Response) :
          (moment :: ofRun past).filterMap kind =
            (kind moment).toList ++ (ofRun past).filterMap kind := by
        rw [List.filterMap_cons]
        cases kind moment <;> rfl
      simp only [Bool.false_eq_true, if_false, reads, ih]
      rw [← List.append_assoc, happens_unheard happens, List.append_assoc]

theorem Lived.inTurn (lived : Lived settings history life) {later earlier : List Moment}
    (split : ofRun history = later ++ earlier) :
    ∃ waiting : Option Wire.Response,
      earlier.filterMap Moment.read? = waiting.toList ++ earlier.filterMap Moment.heard? := by
  induction lived generalizing later with
  | new =>
    obtain ⟨_, rfl⟩ := List.append_eq_nil_iff.1 split.symm
    exact ⟨none, rfl⟩
  | @step past before after moment lived step ih =>
    cases later with
    | nil =>
      -- The whole run up to now, whose last response may still wait.
      obtain rfl : ofRun (moment :: past) = earlier := split
      exact ⟨after.unheard?, (lived.step step).reads⟩
    | cons latest later =>
      rw [ofRun_cons] at split
      cases enters : moment.enters with
      | true =>
        rw [enters] at split
        cases split
      | false =>
        rw [enters] at split
        exact ih (List.cons.inj split).2

theorem Lived.failsWith (lived : Lived settings history life) {point : Point} {failure : Failure}
    (stands : life.run = some point) (fails : point.failure? = some failure) :
    ∃ moment ∈ ofRun history, moment.FailsWith failure := by
  induction lived generalizing point with
  | new => cases stands
  | @step past before after moment lived step ih =>
    have happens := happens_step step
    -- A run that begins is not going to fail yet, so what failed is of this run.
    have further : point ≠ .connecting := by
      rintro rfl
      cases fails
    rw [ofRun_cons, happens.not_enters_of_ne stands further]
    obtain ⟨point', stood, failed⟩ | fails :=
      happens_failure happens lived.inStep stands fails
    · obtain ⟨found, member, failsWith⟩ := ih stood failed
      exact ⟨found, List.mem_cons_of_mem _ member, failsWith⟩
    · exact ⟨moment, List.mem_cons_self, fails⟩

theorem Declines.cons {moment : Moment} {moments : List Moment} (declines : Declines moments) :
    Declines (moment :: moments) := by
  obtain ⟨later, completion, between, beginning, earlier, tag, rfl, holds⟩ := declines
  exact ⟨moment :: later, completion, between, beginning, earlier, tag, rfl, holds⟩

theorem Lived.givesUp (lived : Lived settings history life) {point : Point}
    (stands : life.run = some point) (givesUp : point.givesUp = true) :
    (∃ moment ∈ ofRun history, moment.Lacks) ∨ Declines (ofRun history) := by
  induction lived generalizing point with
  | new => cases stands
  | @step past before after moment lived step ih =>
    have happens := happens_step step
    have further : point ≠ .connecting := by
      rintro rfl
      cases givesUp
    rw [ofRun_cons, happens.not_enters_of_ne stands further]
    obtain ⟨point', stood, gave⟩ | lacks | ⟨point', round, stood, within, ungranted, completes⟩ :=
      happens_givesUp happens lived.inStep stands givesUp
    · refine (ih stood gave).imp (fun ⟨found, member, lacks⟩ => ?_) Declines.cons
      exact ⟨found, List.mem_cons_of_mem _ member, lacks⟩
    · exact .inl ⟨moment, List.mem_cons_self, lacks⟩
    · obtain ⟨since, beginning, earlier, split, begins, _, waits, _⟩ :=
        (lived.rounds stood).1 round within
      rw [split]
      exact .inr ⟨[], moment, since, beginning, earlier, round.tag, rfl, (begins round.tag).2 rfl,
        completes, waits ungranted⟩

theorem Lived.means (lived : Lived settings history life) {ending : Ending}
    (stands : life.run = some (.finishing ending)) : Means history ending := by
  obtain ⟨idler, run⟩ := life
  obtain rfl : run = some (.finishing ending) := stands
  have noted : (idler.outcome, idler.stopRequested) ∈ (Point.finishing ending).outcomes :=
    lived.inStep.noted
  -- All that the ending can be is told by what the idler has noted, and that by the history.
  have first : idler.outcome = .sync ↔ ChangeFirst history := lived.outcome_iff rfl
  refine ⟨⟨lived.reads, fun _ _ => lived.inTurn⟩, fun change => ?_, ?_, ?_, ?_, ?_⟩
  · have sync := first.2 change
    rw [sync] at noted
    rcases ending with failure | (_ | _ | _)
    case error => exact .inr ⟨failure, rfl⟩
    case ok.sync => exact .inl rfl
    case ok.stopped => cases (Prod.mk.inj (List.mem_singleton.1 noted)).1
    case ok.notSupported => cases mem_quiet.1 noted
  · rintro rfl
    have sync : idler.outcome = .sync := (Prod.mk.inj (List.mem_singleton.1 noted)).1
    obtain ⟨moment, member, hears⟩ := (first.1 sync).exists_mem
    exact ⟨moment, (lived.hears_ofRun moment member hears).2, hears⟩
  · rintro rfl
    obtain ⟨stopped, stop⟩ := Prod.mk.inj (List.mem_singleton.1 noted)
    refine (precedes_or_precedes (lived.exists_of_stopRequested stop)).elim (fun change => ?_) id
    cases stopped.symm.trans (first.2 change)
  · rintro rfl
    exact lived.givesUp rfl rfl
  · rintro failure rfl
    exact lived.failsWith rfl rfl

/-- The ending of a run that has finished its work. -/
def Point.ending? : Point → Option Ending
  | closing _ ending | ended ending => some ending
  | _ => none

@[simp]
theorem ending?_next (round : Round) : (Point.next round).ending? = none :=
  Point.apply_next rfl rfl

theorem happens_ending {after : Life} {moment : Moment}
    (happens : Happens settings life moment after) {point : Point} {ending : Ending}
    (stands : after.run = some point) (ends : point.ending? = some ending) :
    (∃ point', life.run = some point' ∧ point'.ending? = some ending) ∧ moment.clears = false ∨
      life.run = some (.finishing ending) ∧ moment.deed = .work (.finishing ending) := by
  cases happens with
  | enter =>
    cases stands
    cases ends
  | leave => cases stands
  | refuse | stop | refresh => exact .inl ⟨⟨point, stands, ends⟩, rfl⟩
  | reply _ resumes =>
    cases stands
    cases resumes with
    | closed => exact .inl ⟨⟨_, rfl, ends⟩, rfl⟩
    | _ => cases ends
  | work works =>
    cases stands
    cases works with
    | granted | late | ignored =>
      rw [ending?_next] at ends
      cases ends
    | changed =>
      split at ends
      · rw [ending?_next] at ends
        cases ends
      · cases ends
    | finishes _ _ _ _ next_eq =>
      subst next_eq
      split at ends <;> cases ends <;> exact .inr ⟨rfl, rfl⟩
    | _ => cases ends

theorem Lived.finished (lived : Lived settings history life) {point : Point} {ending : Ending}
    (stands : life.run = some point) (ends : point.ending? = some ending) :
    ∃ later finish earlier, history = later ++ finish :: earlier ∧
      finish.deed = .work (.finishing ending) ∧
      (∀ moment ∈ later, moment.enters = false ∧ moment.clears = false) ∧ Means earlier ending := by
  induction lived generalizing point with
  | new => cases stands
  | @step past before after moment lived step ih =>
    have happens := happens_step step
    obtain ⟨⟨point', stood, was⟩, clears⟩ | ⟨stood, deed⟩ := happens_ending happens stands ends
    · have own : moment.enters = false := happens.not_enters stood
      obtain ⟨later, finish, earlier, rfl, deed, between, means⟩ := ih stood was
      exact ⟨moment :: later, finish, earlier, rfl, deed,
        List.forall_mem_cons.2 ⟨⟨own, clears⟩, between⟩, means⟩
    · exact ⟨[], moment, past, rfl, deed, List.forall_mem_nil _, lived.means stood⟩

end Lived

/-! ## What a call comes back with -/

/-- What a call for a run comes back with, if it does in a moment. -/
def Moment.returned? (moment : Moment) : Option Ending :=
  match moment.deed with
  | .leave ending => some ending
  | .refuse failure => some (.error failure)
  | _ => none

/-- However the life of an idler goes, a call comes back with what its run ended with, and this
means what `Means` says of the history up to the section that finished the run; or no run may begin,
and the call fails as in a wrong state and leaves all as it is. -/
theorem returned_means {settings : Settings} {moment : Moment} {ending : Ending}
    {past : List Moment} {life : Life} (lived : Lived settings (moment :: past) life)
    (returned : moment.returned? = some ending) :
    (moment.deed = .leave ending ∧
        ∃ later finish earlier, past = later ++ finish :: earlier ∧
          finish.deed = .work (.finishing ending) ∧
          (∀ moment ∈ later, moment.enters = false ∧ moment.clears = false) ∧
          Means earlier ending) ∨
      ∃ failure, moment.deed = .refuse failure ∧ ending = .error failure ∧
        life.idler.phase ≠ .notStarted ∧ life.idler.phase ≠ .stopped ∧
        failure = life.idler.phase.refusal .capabilityCheck ∧ Lived settings past life := by
  cases lived with
  | step lived step =>
    cases happens_step step with
    | leave idler own =>
      cases returned
      exact .inl ⟨rfl, lived.finished rfl rfl⟩
    | refuse _ barred =>
      cases returned
      refine .inr ⟨_, rfl, rfl, fun fresh => ?_, fun stopped => ?_, rfl, lived⟩
      · rw [fresh] at barred
        cases barred
      · rw [stopped] at barred
        cases barred
    | _ => cases returned

/-- The server does not let clients wait, and the idler is called again. -/
def barred : List Moment :=
  [⟨.refuse (Phase.notSupported.refusal .capabilityCheck), []⟩,
    ⟨.leave (.ok .notSupported), []⟩,
    ⟨.reply (.closing 0 (.ok .notSupported)) .done, []⟩,
    ⟨.work (.finishing (.ok .notSupported)), []⟩,
    ⟨.work .refused, []⟩,
    ⟨.reply (.checking 0) (.capable (.ok false)), []⟩] ++ again.tail

theorem lived_barred (settings : Settings) :
    Lived settings barred ⟨⟨.notSupported, false, .stopped, none, none⟩, none⟩ := by
  refine @Lived.step _ _ ⟨⟨.notSupported, false, .stopped, none, none⟩, none⟩ _ _
    ?_ (.refuse (yields_willing rfl rfl))
  refine @Lived.step _ _
    ⟨⟨.notSupported, false, .stopped, none, none⟩, some (.ended (.ok .notSupported))⟩ _ _ ?_ .leave
  refine @Lived.step _ _
    ⟨⟨.notSupported, false, .stopped, none, none⟩, some (.closing 0 (.ok .notSupported))⟩ _ _ ?_
    (.reply rfl rfl)
  refine @Lived.step _ _
    ⟨⟨.notSupported, false, .stopped, none, some 0⟩, some (.finishing (.ok .notSupported))⟩ _ _ ?_
    (.work rfl nofun (yields_willing rfl rfl))
  refine @Lived.step _ _ ⟨⟨.capabilityCheck, false, .stopped, none, some 0⟩, some .refused⟩ _ _ ?_
    (.work rfl nofun (yields_willing rfl rfl))
  exact (Lived.new.checking (yields_willing rfl rfl)).step (.reply rfl rfl)

/-- A run that met a change, and a call that was turned away. -/
theorem returned_means_tour :
    (∃ later finish earlier, tour.tail = later ++ finish :: earlier ∧
        finish.deed = .work (.finishing (.ok .sync)) ∧
        (∀ moment ∈ later, moment.enters = false ∧ moment.clears = false) ∧
        Means earlier (.ok .sync)) ∧
      ∃ failure, barred.head?.map Moment.deed = some (.refuse failure) ∧
        failure = Phase.notSupported.refusal .capabilityCheck ∧
        Lived ⟨"INBOX", 1000⟩ barred.tail
          ⟨⟨.notSupported, false, .stopped, none, none⟩, none⟩ := by
  refine ⟨?_, ?_⟩
  · obtain ⟨_, means⟩ | ⟨_, absurd, _⟩ := returned_means (lived_tour ⟨"INBOX", 1000⟩) rfl
    · exact means
    · cases absurd
  · obtain ⟨absurd, _⟩ | ⟨failure, same, _, _, _, is, lived⟩ :=
      returned_means (lived_barred ⟨"INBOX", 1000⟩) rfl
    · cases absurd
    · exact ⟨failure, congrArg some same, is, lived⟩

/-! ### A change that is read, and a stop before it is taken up -/

/-- Whether the run reads a change. -/
def Moment.readsChange (moment : Moment) : Bool :=
  moment.read?.any Wire.Response.isChange

/-- A change is read, and a stop is asked for before the run takes it up. -/
def overtaken : List Moment :=
  let round : Round := ⟨0, "A1", false⟩
  let change : Wire.Response := ⟨.messageCount 1, ""⟩
  let completion : Wire.Response := ⟨.completion "A1" .ok, ""⟩
  [⟨.leave (.ok .stopped), []⟩,
    ⟨.reply (.closing 0 (.ok .stopped)) .done, []⟩,
    ⟨.work (.finishing (.ok .stopped)), []⟩,
    ⟨.work .concluding, []⟩,
    ⟨.work (.deciding 0), []⟩,
    ⟨.work (.handling round completion), []⟩,
    ⟨.reply (.reading round) (.response (.ok completion)), []⟩,
    ⟨.work (.handling round change), []⟩,
    ⟨.stop, [.isConnected 0 true, .restoreTimeout 0 (.ok ()), .sendLine 0 "DONE" (.ok ())]⟩,
    ⟨.reply (.reading round) (.response (.ok change)), []⟩] ++ (begun :: again)

theorem lived_overtaken (settings : Settings) :
    Lived settings overtaken ⟨⟨.stopped, false, .stopped, none, none⟩, none⟩ := by
  let round : Round := ⟨0, "A1", false⟩
  let change : Wire.Response := ⟨.messageCount 1, ""⟩
  let completion : Wire.Response := ⟨.completion "A1" .ok, ""⟩
  -- From the stop on a stop is due, so the change is ignored and its outcome stays.
  let stopping : Idler := ⟨.sendingDone, true, .stopped, none, some 0⟩
  refine @Lived.step _ _ ⟨⟨.stopped, false, .stopped, none, none⟩, some (.ended (.ok .stopped))⟩ _ _
    ?_ .leave
  refine @Lived.step _ _ ⟨⟨.stopped, false, .stopped, none, none⟩,
    some (.closing 0 (.ok .stopped))⟩ _ _ ?_ (.reply rfl rfl)
  refine @Lived.step _ _ ⟨stopping, some (.finishing (.ok .stopped))⟩ _ _ ?_
    (.work rfl nofun (yields_willing rfl rfl))
  refine @Lived.step _ _ ⟨stopping, some .concluding⟩ _ _ ?_
    (.work rfl nofun (yields_willing rfl rfl))
  refine @Lived.step _ _ ⟨stopping, some (.deciding 0)⟩ _ _ ?_
    (.work rfl nofun (yields_willing rfl rfl))
  refine @Lived.step _ _ ⟨stopping, some (.handling round completion)⟩ _ _ ?_
    (.work rfl nofun (yields_willing rfl rfl))
  refine @Lived.step _ _ ⟨stopping, some (.reading round)⟩ _ _ ?_ (.reply rfl rfl)
  refine @Lived.step _ _ ⟨stopping, some (.handling round change)⟩ _ _ ?_
    (.work rfl nofun (yields_willing rfl rfl))
  refine @Lived.step _ _ ⟨⟨.awaitingContinuation, false, .stopped, none, some 0⟩,
    some (.handling round change)⟩ _ _ ?_ (.stop (yields_willing rfl rfl))
  exact (lived_begun settings).step (.reply rfl rfl)

/-- A run that read a change before anybody asked for a stop comes back with a stop, as the stop
came before the change was taken up; and a call comes back with a failure though nothing failed. -/
theorem read_overtaken :
    (Lived ⟨"INBOX", 1000⟩ overtaken ⟨⟨.stopped, false, .stopped, none, none⟩, none⟩ ∧
        overtaken.head?.bind Moment.returned? = some (.ok .stopped) ∧
        ∃ earlier, overtaken.tail = ⟨.reply (.closing 0 (.ok .stopped)) .done, []⟩ ::
            ⟨.work (.finishing (.ok .stopped)), []⟩ :: earlier ∧
          Precedes Moment.readsChange Moment.stops (sinceCleared earlier)) ∧
      Lived ⟨"INBOX", 1000⟩ barred ⟨⟨.notSupported, false, .stopped, none, none⟩, none⟩ ∧
        barred.head?.bind Moment.returned? =
          some (.error (Phase.notSupported.refusal .capabilityCheck)) ∧
        ∀ moment ∈ barred, ∀ failure, ¬moment.FailsWith failure := by
  refine ⟨⟨lived_overtaken _, rfl, _, rfl, ?_⟩, lived_barred _, rfl, ?_⟩
  · exact ⟨(overtaken.drop 3).take 6, ⟨.reply (.reading ⟨0, "A1", false⟩)
      (.response (.ok ⟨.messageCount 1, ""⟩)), []⟩, begun :: again, rfl, rfl, by decide⟩
  · simp [barred, again, Moment.FailsWith, Moment.CallFails, Moment.Rejects, Moment.replyFailure?,
      Moment.taken?]

end MailReplica.Idle
