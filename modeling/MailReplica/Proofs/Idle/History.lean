import MailReplica.Proofs.Idle.Phases

/-! # Histories of an idler

A history lists the moments of a life, latest first.  What an idler knows is read off its history: a
stop is due when one was asked for or a change was reported since the stop flag was last cleared
(`Lived.stopRequested_eq`), and the run is to end with a sync when a change was reported first
(`Lived.outcome_iff`).
-/

namespace MailReplica

namespace Wire.Response

theorem isChange_of_isContinuation {response : Response} (asks : response.isContinuation = true) :
    response.isChange = false := by
  obtain ⟨kind, text⟩ := response
  cases kind <;> first | rfl | cases asks

theorem isChange_of_completes {response : Response} {tag : String}
    (completes : response.completes tag = true) : response.isChange = false := by
  obtain ⟨kind, text⟩ := response
  cases kind <;> first | rfl | cases completes

end Wire.Response

namespace Idle

/-! ## Moments -/

/-- Why a call failed, if it is one that a run makes on its own account and not to send `DONE`. -/
def Exchange.failure? : Exchange → Option Failure
  | sendCommand _ _ (.error failure) | setTimeout _ _ (.error failure) => some failure
  | _ => none

namespace Moment

/-- Whether a run begins. -/
def enters (moment : Moment) : Bool :=
  match moment.deed with
  | .enter => true
  | _ => false

/-- Whether the stop flag is cleared. -/
def clears (moment : Moment) : Bool :=
  match moment.deed with
  | .work (.finishing _) => true
  | _ => false

/-- Whether somebody stops the idler. -/
def stops (moment : Moment) : Bool :=
  match moment.deed with
  | .stop => true
  | _ => false

/-- The response that the run takes up, if it does, and the round that it is in. -/
def taken? (moment : Moment) : Option (Round × Wire.Response) :=
  match moment.deed with
  | .work (.handling round response) => some (round, response)
  | _ => none

/-- Whether the run takes up a change. -/
def hears (moment : Moment) : Bool :=
  moment.taken?.any fun (_, response) => response.isChange

/-- Whether the run takes up that the server agrees to let the client wait. -/
def grants (moment : Moment) : Bool :=
  moment.taken?.any fun (_, response) => response.isContinuation

/-- Whether the run takes up the completion of the command with a tag. -/
def completes (tag : String) (moment : Moment) : Bool :=
  moment.taken?.any fun (_, response) => response.completes tag

/-- Why the reply is none, if it is a failure. -/
def replyFailure? (moment : Moment) : Option Failure :=
  match moment.deed with
  | .reply _ (.connected (.error failure)) | .reply _ (.opened (.error failure))
  | .reply _ (.capable (.error failure)) | .reply _ (.response (.error failure)) => some failure
  | _ => none

/-- Whether obtaining the connection or a call on it fails, other than to send `DONE`. -/
def CallFails (moment : Moment) (failure : Failure) : Prop :=
  moment.replyFailure? = some failure ∨ ∃ call ∈ moment.calls, call.failure? = some failure

/-- Whether the run takes up that its command is completed without success. -/
def Rejects (moment : Moment) (failure : Failure) : Prop :=
  ∃ round response, moment.taken? = some (round, response) ∧ response.completes round.tag = true ∧
    response.isSuccess = false ∧
    failure = .protocol ("Received non-OK response to IDLE command: " ++ response.line)

/-- Whether something goes wrong that a run can fail of. -/
def FailsWith (moment : Moment) (failure : Failure) : Prop :=
  moment.CallFails failure ∨ moment.Rejects failure

end Moment

/-! ## Parts of a history -/

/-- The moments of the run that began last. -/
def ofRun (past : List Moment) : List Moment :=
  past.takeWhile fun moment => !moment.enters

/-- The moments since the stop flag was last cleared. -/
def sinceCleared (past : List Moment) : List Moment :=
  past.takeWhile fun moment => !moment.clears

/-- Some moment is of the one kind, and no earlier one is of the other. -/
def Precedes (kind other : Moment → Bool) (moments : List Moment) : Prop :=
  ∃ later moment earlier, moments = later ++ moment :: earlier ∧ kind moment = true ∧
    ∀ before ∈ earlier, other before = false

theorem ofRun_cons (moment : Moment) (past : List Moment) :
    ofRun (moment :: past) = if moment.enters then [] else moment :: ofRun past := by
  unfold ofRun
  rw [List.takeWhile_cons]
  cases moment.enters <;> rfl

theorem sinceCleared_cons (moment : Moment) (past : List Moment) :
    sinceCleared (moment :: past) =
      if moment.clears then [] else moment :: sinceCleared past := by
  unfold sinceCleared
  rw [List.takeWhile_cons]
  cases moment.clears <;> rfl

section Precedes

variable {kind other : Moment → Bool}

theorem precedes_cons {moment : Moment} {past : List Moment} :
    Precedes kind other (moment :: past) ↔
      Precedes kind other past ∨ kind moment = true ∧ ∀ before ∈ past, other before = false := by
  constructor
  · rintro ⟨later, found, earlier, split, is, none⟩
    cases later with
    | nil =>
      cases split
      exact .inr ⟨is, none⟩
    | cons latest later =>
      cases split
      exact .inl ⟨later, found, earlier, rfl, is, none⟩
  · rintro (⟨later, found, earlier, rfl, is, none⟩ | ⟨is, none⟩)
    · exact ⟨moment :: later, found, earlier, rfl, is, none⟩
    · exact ⟨[], moment, past, rfl, is, none⟩

theorem Precedes.exists_mem {past : List Moment} (precedes : Precedes kind other past) :
    ∃ moment ∈ past, kind moment = true := by
  obtain ⟨later, moment, earlier, rfl, is, _⟩ := precedes
  exact ⟨moment, List.mem_append_right _ List.mem_cons_self, is⟩

/-- Of two kinds of which there is a moment, one is there first. -/
theorem precedes_or_precedes {past : List Moment}
    (some : ∃ moment ∈ past, kind moment = true ∨ other moment = true) :
    Precedes kind other past ∨ Precedes other kind past := by
  induction past with
  | nil =>
    obtain ⟨_, none, _⟩ := some
    cases none
  | cons moment past ih =>
    by_cases earlier : ∃ moment ∈ past, kind moment = true ∨ other moment = true
    · exact (ih earlier).imp (fun first => precedes_cons.2 (.inl first))
        fun first => precedes_cons.2 (.inl first)
    · have none : ∀ before ∈ past, kind before = false ∧ other before = false := by
        intro before member
        constructor <;> refine Bool.eq_false_iff.2 fun is => earlier ⟨before, member, ?_⟩
        · exact .inl is
        · exact .inr is
      obtain ⟨found, member, is⟩ := some
      obtain rfl | member := List.mem_cons.1 member
      · refine is.imp (fun is => precedes_cons.2 (.inr ⟨is, fun before member => ?_⟩))
          fun is => precedes_cons.2 (.inr ⟨is, fun before member => ?_⟩)
        · exact (none before member).2
        · exact (none before member).1
      · exact absurd ⟨found, member, is⟩ earlier

end Precedes

/-! ## What one moment does -/

/-- Whether a run goes on that has not finished its work. -/
def Life.active (life : Life) : Bool :=
  match life.run with
  | none | some (.closing _ _) | some (.ended _) => false
  | _ => true

section Step

variable {settings : Settings} {life after : Life} {moment : Moment}

theorem active_next {idler : Idler} {round : Round} :
    (⟨idler, some (.next round)⟩ : Life).active = true :=
  Point.apply_next (f := fun point => (⟨idler, some point⟩ : Life).active) rfl rfl

theorem happens_active (happens : Happens settings life moment after) :
    after.active = (moment.enters || life.active && !moment.clears) := by
  cases happens with
  | enter | leave => rfl
  | refuse | stop | refresh => exact (Bool.and_true _).symm
  | @work before _ _ _ _ works =>
    cases works with
    | granted | late | ignored => exact active_next
    | changed round =>
      cases round.granted with
      | true => exact active_next
      | false => rfl
    | @finishes ending _ _ _ next_eq =>
      subst next_eq
      cases before.connection <;> rfl
    | _ => rfl
  | reply _ resumes => cases resumes <;> rfl

theorem active_of_hears (happens : Happens settings life moment after)
    (hears : moment.hears = true) : life.active = true := by
  cases happens with
  | @work _ _ point => cases point <;> first | rfl | cases hears
  | _ => cases hears

theorem not_active_of_enters (happens : Happens settings life moment after)
    (enters : moment.enters = true) : life.active = false := by
  cases happens with
  | enter => rfl
  | _ => cases enters

@[simp]
theorem hears_handling (round : Round) (response : Wire.Response) (calls : List Exchange) :
    (⟨.work (.handling round response), calls⟩ : Moment).hears = response.isChange :=
  rfl

theorem not_hears {round : Round} {response : Wire.Response} {calls : List Exchange}
    (other : response.isContinuation = true ∨ response.completes round.tag = true) :
    (⟨.work (.handling round response), calls⟩ : Moment).hears = false :=
  other.elim Wire.Response.isChange_of_isContinuation Wire.Response.isChange_of_completes

theorem happens_stopRequested (happens : Happens settings life moment after) :
    after.idler.stopRequested =
      (!moment.clears && (life.idler.stopRequested || moment.stops || moment.hears)) := by
  cases happens with
  | enter | refuse | reply | leave =>
    simp [Moment.clears, Moment.stops, Moment.hears, Moment.taken?]
  | stop _ sends => simp [sends.stopRequested_eq, Moment.clears, Moment.stops]
  | refresh _ sends =>
    simp [sends.stopRequested_eq, Moment.clears, Moment.stops, Moment.hears, Moment.taken?]
  | work works =>
    cases works with
    | granted _ _ asks | unset _ _ _ asks | late _ _ asks =>
      simp [Moment.clears, Moment.stops, not_hears (.inl asks)]
    | declined _ _ completes | completed _ _ completes | failed _ _ completes =>
      simp [Moment.clears, Moment.stops, not_hears (.inr completes)]
    | changed _ _ _ _ change go sends =>
      simp [sends.stopRequested_eq, Moment.clears, Moment.stops, change]
    | ignored _ response _ _ change =>
      cases hears : response.isChange with
      | true => simp [change hears, Moment.clears]
      | false => simp [hears, Moment.clears, Moment.stops]
    | finishes => rfl
    | _ => simp [Moment.clears, Moment.stops, Moment.hears, Moment.taken?]

theorem happens_outcome (happens : Happens settings life moment after) :
    after.idler.outcome =
      if moment.enters then .stopped
      else if moment.hears && !life.idler.stopRequested then .sync
      else life.idler.outcome := by
  cases happens with
  | enter => rfl
  | refuse | reply | leave => rfl
  | stop _ sends | refresh _ sends => exact sends.outcome_eq
  | work works =>
    cases works with
    | granted _ _ asks | unset _ _ _ asks | late _ _ asks =>
      simp [Moment.enters, not_hears (.inl asks)]
    | declined _ _ completes | completed _ _ completes | failed _ _ completes =>
      simp [Moment.enters, not_hears (.inr completes)]
    | changed _ _ _ _ change go sends =>
      simp [sends.outcome_eq, Moment.enters, change, go]
    | ignored _ response _ _ change =>
      cases hears : response.isChange with
      | true => simp [change hears, Moment.enters]
      | false => simp [hears, Moment.enters]
    | _ => rfl

end Step

/-! ## What a history says -/

section Lived

variable {settings : Settings} {history : List Moment} {life : Life}

/-- A stop is due when one was asked for, or a change was reported, since the flag was cleared. -/
theorem Lived.stopRequested_eq (lived : Lived settings history life) :
    life.idler.stopRequested =
      (sinceCleared history).any fun moment => moment.stops || moment.hears := by
  -- A stop and a change set the flag alike; what finishes a run clears both.
  induction lived with
  | new => rfl
  | @step past before after moment _ step ih =>
    rw [happens_stopRequested (happens_step step), ih, sinceCleared_cons]
    cases moment.clears with
    | true => rfl
    | false =>
      simp only [Bool.not_false, Bool.true_and, Bool.false_eq_true, if_false, List.any_cons,
        Bool.or_comm, Bool.or_assoc]

/-- The changes that were reported since the flag was cleared were reported to the present run. -/
theorem Lived.hears_ofRun (lived : Lived settings history life) :
    ∀ moment ∈ sinceCleared history, moment.hears = true →
      life.active = true ∧ moment ∈ ofRun history := by
  induction lived with
  | new => exact fun _ none => nomatch none
  | @step past before after moment _ step ih =>
    have happens := happens_step step
    intro found member hears
    rw [sinceCleared_cons] at member
    cases clears : moment.clears with
    | true =>
      rw [clears] at member
      cases member
    | false =>
      rw [clears] at member
      -- Only a run that goes on takes up a change, and no other begins before the flag is cleared.
      rw [happens_active happens, ofRun_cons, clears]
      obtain rfl | member := List.mem_cons.1 member
      · have active := active_of_hears happens hears
        cases enters : found.enters with
        | true => cases (not_active_of_enters happens enters).symm.trans active
        | false => exact ⟨by simp [active], List.mem_cons_self⟩
      · obtain ⟨active, own⟩ := ih found member hears
        cases enters : moment.enters with
        | true => cases (not_active_of_enters happens enters).symm.trans active
        | false => exact ⟨by simp [active], List.mem_cons_of_mem _ own⟩

theorem Lived.exists_of_stopRequested (lived : Lived settings history life)
    (stop : life.idler.stopRequested = true) :
    ∃ moment ∈ sinceCleared history, moment.hears = true ∨ moment.stops = true := by
  rw [lived.stopRequested_eq, List.any_eq_true] at stop
  obtain ⟨moment, member, is⟩ := stop
  exact ⟨moment, member, (Bool.or_eq_true_iff.1 is).symm⟩

/-- A run is to end with a sync when a change was reported before anybody asked for a stop. -/
theorem Lived.outcome_iff (lived : Lived settings history life) (active : life.active = true) :
    life.idler.outcome = .sync ↔ Precedes Moment.hears Moment.stops (sinceCleared history) := by
  induction lived with
  | new => cases active
  | @step past before after moment lived step ih =>
    have happens := happens_step step
    rw [happens_active happens] at active
    rw [happens_outcome happens, sinceCleared_cons]
    cases enters : moment.enters with
    | true =>
      -- No change was reported since the last run.
      have inactive := not_active_of_enters happens enters
      refine ⟨fun none => (nomatch none), fun first => ?_⟩
      obtain ⟨found, member, hears⟩ := first.exists_mem
      cases clears : moment.clears with
      | true =>
        rw [clears] at member
        cases member
      | false =>
        rw [clears] at member
        have heard : before.active = true := by
          obtain rfl | member := List.mem_cons.1 member
          · exact active_of_hears happens hears
          · exact (lived.hears_ofRun found member hears).1
        cases inactive.symm.trans heard
    | false =>
      rw [enters, Bool.false_or, Bool.and_eq_true, Bool.not_eq_true'] at active
      obtain ⟨active, clears⟩ := active
      simp only [clears, Bool.false_eq_true, if_false, precedes_cons]
      cases hears : moment.hears with
      | false => simp [ih active]
      | true =>
        cases stop : before.idler.stopRequested with
        | false =>
          have quiet : ∀ earlier ∈ sinceCleared past, earlier.stops = false := by
            rw [lived.stopRequested_eq, List.any_eq_false] at stop
            exact fun earlier member => Bool.eq_false_iff.2 fun stops =>
              stop earlier member (by rw [stops]; rfl)
          simp only [Bool.not_false, Bool.and_true, if_true, true_iff]
          exact .inr ⟨trivial, quiet⟩
        | true =>
          simp only [Bool.not_true, Bool.and_false, Bool.false_eq_true, if_false, ih active]
          refine ⟨.inl, fun first => first.elim id fun ⟨_, quiet⟩ => ?_⟩
          -- What asked for a stop was a change then.
          refine (precedes_or_precedes (lived.exists_of_stopRequested stop)).elim id fun stops => ?_
          obtain ⟨found, member, is⟩ := stops.exists_mem
          cases (quiet found member).symm.trans is

end Lived

end Idle

end MailReplica
