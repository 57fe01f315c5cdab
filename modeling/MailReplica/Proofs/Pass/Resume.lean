import MailReplica.Proofs.Pass.Steady
import MailReplica.Proofs.Pass.Tidings

/-! # Taking up a pass again

A pass that fails has done the first so many deeds of its plan.  The plan that is made afterwards
leads to the same copy as the first one, and together with what was already told it tells the same
about messages (`resumes_of_start`).  Message by message there are two cases only: the deed about it
was done, and nothing is left to be done (`Settled`), or it was not, and the message is as it was.
-/

namespace MailReplica.Reconcile

open Store (Act Copy FolderState InMemory Memory Watch)

/-! ## Dates -/

/-- Listed messages have dates, and their records carry the same ones, unless no cutoff is set. -/
def DatesAgree (settings : PassSettings) (listed : List Listed) (copy : Copy) : Prop :=
  settings.cutoff = none ∨
    ∀ message ∈ listed, ∃ date, message.date = some date ∧
      ∀ record, copy.messages[message.id]? = some record → record.date = some date.instant

/-- No listed message is dated before the cutoff once it is downloaded. -/
def NoneTooOldLater (settings : PassSettings) (listed : List Listed) : Prop :=
  ∀ message ∈ listed, ∀ raw state,
    predates settings (MessageRecord.ofDownload message raw state).date = false

section Dates

variable {settings : PassSettings} {listed : List Listed} {copy : Copy}

theorem predates_of_isRecent {message : Listed} {date : DatedInstant}
    (recent : Pass.isRecent settings message = true) (dated : message.date = some date) :
    predates settings (some date.instant) = false := by
  unfold Pass.isRecent at recent
  unfold predates
  rw [dated] at recent
  cases cutoff : settings.cutoff with
  | none => rfl
  | some cutoff => simpa [cutoff] using recent

theorem DatesAgree.noneTooOld (agree : DatesAgree settings listed copy) :
    NoneTooOld settings (listed.filter (Pass.isRecent settings)) copy := by
  intro message member record known
  obtain ⟨isListed, recent⟩ := List.mem_filter.1 member
  obtain noCutoff | agree := agree
  · simp [predates, noCutoff]
  · obtain ⟨date, dated, same⟩ := agree message isListed
    rw [same record known]
    exact predates_of_isRecent recent dated

theorem DatesAgree.noneTooOldLater (agree : DatesAgree settings listed copy) :
    NoneTooOldLater settings (listed.filter (Pass.isRecent settings)) := by
  intro message member raw state
  obtain ⟨isListed, recent⟩ := List.mem_filter.1 member
  obtain noCutoff | agree := agree
  · simp [predates, noCutoff]
  · obtain ⟨date, dated, _⟩ := agree message isListed
    simp only [MessageRecord.ofDownload, dated, Option.map_some, Option.some_or]
    exact predates_of_isRecent recent dated

end Dates

/-! ## Messages that were dealt with -/

section Target

variable {folder : String} {settings : PassSettings} {listed : List Listed}
  {body : Listed → Octets}

theorem noneTooOld_target (distinct : listed.Pairwise fun left right => left.id ≠ right.id)
    (later : NoneTooOldLater settings listed) {message : Listed} (member : message ∈ listed)
    {record? : Option MessageRecord}
    (notOld : ∀ record, record? = some record → predates settings record.date = false) :
    ∀ record, target settings listed body message.id record? = some record →
      predates settings record.date = false := by
  intro record found
  rw [target_listed distinct member] at found
  cases record? with
  | none =>
    simp only [Option.elim_none, gained, Option.ite_none_left_eq_some, Option.some.injEq] at found
    obtain ⟨_, rfl⟩ := found
    exact later message member _ _
  | some before =>
    simp only [Option.elim_some, kept, Option.ite_none_left_eq_some, Option.some.injEq] at found
    obtain ⟨_, rfl⟩ := found
    exact notOld before rfl

/-- Nothing is left to be done about the message `id`, of which a copy holds `record?`. -/
structure Settled (settings : PassSettings) (listed : List Listed) (id : String)
    (record? : Option MessageRecord) : Prop where
  known : ∀ message ∈ listed, message.id = id → ∀ record, record? = some record →
    ¬(settings.removeVanished = true ∧ message.isDeleted = true) ∧
      predates settings record.date = false ∧
      record.flags.restrict settings.trackedFlags = message.flags.restrict settings.trackedFlags
  unknown : ∀ message ∈ listed, message.id = id → record? = none → message.isDeleted = true
  unlisted : (∀ message ∈ listed, message.id ≠ id) → settings.removeVanished = true → record? = none

theorem settled_target (distinct : listed.Pairwise fun left right => left.id ≠ right.id)
    (later : NoneTooOldLater settings listed) {id : String} {record? : Option MessageRecord}
    (notOld : ∀ message ∈ listed, message.id = id → ∀ record, record? = some record →
      predates settings record.date = false) :
    Settled settings listed id (target settings listed body id record?) where
  known := by
    rintro message member rfl record found
    have recent := noneTooOld_target distinct later member (notOld message member rfl) record found
    rw [target_listed distinct member] at found
    refine ⟨?_, recent, ?_⟩
    · rintro ⟨removes, deleted⟩
      cases record? with
      | none => simp [gained, deleted] at found
      | some before => simp [kept, removes, deleted] at found
    · cases record? with
      | none =>
        simp only [Option.elim_none, gained, Option.ite_none_left_eq_some,
          Option.some.injEq] at found
        obtain ⟨_, rfl⟩ := found
        rfl
      | some before =>
        simp only [Option.elim_some, kept, Option.ite_none_left_eq_some, Option.some.injEq] at found
        obtain ⟨_, rfl⟩ := found
        exact FlagSet.restrict_replaceTracked
  unknown := by
    rintro message member rfl missing
    rw [target_listed distinct member] at missing
    cases record? with
    | none => simpa [gained] using missing
    | some before =>
      have recent := notOld message member rfl before rfl
      simp only [Option.elim_some, kept, recent, Bool.false_eq_true, or_false, ite_eq_left_iff,
        reduceCtorEq, imp_false, not_not] at missing
      exact missing.2
  unlisted := by
    intro absent removes
    rw [target_unlisted absent, if_pos removes]

theorem target_of_settled (distinct : listed.Pairwise fun left right => left.id ≠ right.id)
    {id : String} {record? : Option MessageRecord}
    (settled : Settled settings listed id record?) :
    target settings listed body id record? = record? := by
  obtain ⟨message, member, rfl⟩ | absent := Plan.listed_or_absent listed id
  · rw [target_listed distinct member]
    cases record? with
    | none => exact if_pos (settled.unknown message member rfl rfl)
    | some record =>
      obtain ⟨spared, recent, same⟩ := settled.known message member rfl record rfl
      rw [Option.elim_some, kept, FlagSet.replaceTracked_of_restrict_eq same]
      exact if_neg (by simpa [recent] using spared)
  · rw [target_unlisted absent]
    split
    next removes => exact (settled.unlisted absent removes).symm
    next => rfl

theorem tidings_of_settled (distinct : listed.Pairwise fun left right => left.id ≠ right.id)
    {id : String} {record? : Option MessageRecord} (highestUid : UInt64)
    (settled : Settled settings listed id record?) :
    tidings folder settings highestUid listed id record? = [] := by
  obtain ⟨message, member, rfl⟩ | absent := Plan.listed_or_absent listed id
  · rw [tidings, find?_listed distinct member]
    cases record? with
    | none => exact if_pos (settled.unknown message member rfl rfl)
    | some record =>
      obtain ⟨spared, _, same⟩ := settled.known message member rfl record rfl
      exact (if_neg spared).trans (if_pos same)
  · rw [tidings, find?_unlisted absent]
    refine if_neg ?_
    rintro ⟨removes, found⟩
    rw [settled.unlisted absent removes] at found
    cases found

end Target

/-! ## The first so many deeds -/

section Prefix

variable {folder : String} {settings : PassSettings} {answers : Answers} {copy : Copy}
  {deeds : List Deed}

theorem finish_cases (folder : String) (settings : PassSettings) (answers : Answers)
    (copy : Copy) :
    Pass.finish folder settings answers copy =
        ⟨.look, []⟩ :: Plan.work folder settings (answers.recent settings)
          (answers.octets settings) copy ∨
      ∃ value, Pass.finish folder settings answers copy =
        (⟨.look, []⟩ :: Plan.work folder settings (answers.recent settings)
          (answers.octets settings) copy) ++ [⟨.setNumber FolderState.highestKey value, []⟩] := by
  unfold Pass.finish
  obtain raised | ⟨value, raised⟩ := raise_cases copy.state (answers.recent settings)
  · rw [raised, List.append_nil]
    exact .inl rfl
  · rw [raised]
    exact .inr ⟨value, rfl⟩

theorem about_finish (id : String) :
    about id (Pass.finish folder settings answers copy) =
      about id (Plan.work folder settings (answers.recent settings) (answers.octets settings)
        copy) := by
  obtain whole | ⟨value, whole⟩ := finish_cases folder settings answers copy
  · rw [whole]
    rfl
  · rw [whole, about_append]
    exact List.append_nil _

theorem honest_finish : ∀ deed ∈ Pass.finish folder settings answers copy, deed.IsHonest := by
  intro deed did
  obtain rfl | did := List.mem_cons.1 did
  · exact (Deed.IsDealing.look : Deed.IsDealing folder _).isHonest
  · exact ((List.mem_append.1 did).elim dealing_work dealing_raise : deed.IsDealing folder).isHonest

/-- The first so many deeds of a plan have dealt with a message or have not touched it. -/
theorem message_after_start (distinct : ((answers.inWindow settings).map Listed.uid).Nodup)
    (noneTooOld : NoneTooOld settings (answers.recent settings) copy)
    (some : deeds <+: Pass.finish folder settings answers copy) (id : String) :
    about id deeds = about id (Pass.finish folder settings answers copy) ∨
      about id deeds = [] := by
  -- At most one deed is about the message, so the first so many have all of them or none.
  have part : about id deeds <+: about id (Pass.finish folder settings answers copy) :=
    some.filter _
  have few : (about id (Pass.finish folder settings answers copy)).length ≤ 1 := by
    rw [about_finish]
    exact length_about_work (Pass.pairwise_recent distinct) noneTooOld id
  exact (eq_nil_or_eq_of_start part few).symm

/-- The numbers of a copy change with the last deed of a plan only. -/
theorem numbers_after_start (some : deeds <+: Pass.finish folder settings answers copy) :
    (replay copy deeds).numbers = copy.numbers ∨
      deeds = Pass.finish folder settings answers copy := by
  have unchanged (part : deeds <+: ⟨.look, []⟩ :: Plan.work folder settings
      (answers.recent settings) (answers.octets settings) copy) :
      (replay copy deeds).numbers = copy.numbers := by
    refine numbers_replay (fun deed did => ?_) copy
    obtain rfl | did := List.mem_cons.1 (part.subset did)
    · rfl
    · exact isMessageWork_of_mem_work did
  obtain whole | ⟨value, whole⟩ := finish_cases folder settings answers copy
  · rw [whole] at some
    exact .inl (unchanged some)
  · rw [whole, List.prefix_concat_iff] at some
    obtain all | part := some
    · exact .inr (all.trans whole.symm)
    · exact .inl (unchanged part)

end Prefix

/-! ## Resuming -/

/-- What is planned once `deeds` are done leads to the copy that `plan` leads to, and tells what
`deeds` have not told. -/
structure Resumes (plan : Copy → List Deed) (copy : Copy) (deeds : List Deed) : Prop where
  leads : replay (replay copy deeds) (plan (replay copy deeds)) = replay copy (plan copy)
  tells : (toldBy deeds ++ toldBy (plan (replay copy deeds))).Perm (toldBy (plan copy))

section Resume

variable {folder : String} {settings : PassSettings} {answers : Answers}
  {numbering : Option UInt64} {copy : Copy} {deeds : List Deed}

theorem getElem?_after_start (distinct : ((answers.inWindow settings).map Listed.uid).Nodup)
    {id : String} (touched : about id deeds = about id (Pass.finish folder settings answers copy)) :
    (replay copy deeds).messages[id]? =
      target settings (answers.recent settings) (answers.octets settings) id
        copy.messages[id]? := by
  rw [getElem?_replay, touched, ← getElem?_replay]
  exact Pass.getElem?_finish distinct copy id

/-- Nothing is left to be done about a message once its plan is done. -/
theorem settled_finish (distinct : ((answers.inWindow settings).map Listed.uid).Nodup)
    (later : NoneTooOldLater settings (answers.recent settings))
    (noneTooOld : NoneTooOld settings (answers.recent settings) copy) (id : String) :
    Settled settings (answers.recent settings) id
      (target settings (answers.recent settings) (answers.octets settings) id
        copy.messages[id]?) := by
  refine settled_target (Pass.pairwise_recent distinct) later ?_
  rintro message member rfl
  exact noneTooOld message member

theorem getElem?_untouched {id : String} (untouched : about id deeds = []) :
    (replay copy deeds).messages[id]? = copy.messages[id]? := by
  rw [getElem?_replay, untouched]
  rfl

theorem noneTooOld_after_start (distinct : ((answers.inWindow settings).map Listed.uid).Nodup)
    (later : NoneTooOldLater settings (answers.recent settings))
    (noneTooOld : NoneTooOld settings (answers.recent settings) copy)
    (some : deeds <+: Pass.finish folder settings answers copy) :
    NoneTooOld settings (answers.recent settings) (replay copy deeds) := by
  intro message member record found
  obtain touched | untouched := message_after_start distinct noneTooOld some message.id
  · rw [getElem?_after_start distinct touched] at found
    exact noneTooOld_target (Pass.pairwise_recent distinct) later member
      (noneTooOld message member) record found
  · rw [getElem?_untouched untouched] at found
    exact noneTooOld message member record found

theorem highest_finish (folder : String) (settings : PassSettings) (answers : Answers)
    (copy : Copy) :
    ((answers.recent settings).map fun message => message.uid.toNat).max?.getD 0 ≤
      (replay copy (Pass.finish folder settings answers copy)).state.highestUid.toNat := by
  rw [(Pass.state_finish folder settings answers copy).1, List.foldl_max]
  cases ((answers.recent settings).map fun message => message.uid.toNat).max? with
  | none => exact Nat.zero_le _
  | some uid => exact Nat.le_max_right _ _

theorem numbers_resumed (some : deeds <+: Pass.finish folder settings answers copy) :
    raisedNumbers (answers.recent settings) (replay copy deeds).state (replay copy deeds).numbers =
      raisedNumbers (answers.recent settings) copy.state copy.numbers := by
  obtain same | rfl := numbers_after_start some
  · unfold Copy.state
    rw [same]
  · -- The whole plan was done: the highest UID known is raised already.
    rw [raisedNumbers_raised (highest_finish folder settings answers copy), Pass.numbers_finish]

theorem toldOf_finish (distinct : ((answers.inWindow settings).map Listed.uid).Nodup)
    (noneTooOld : NoneTooOld settings (answers.recent settings) copy) (id : String) :
    toldOf id (Pass.finish folder settings answers copy) =
      tidings folder settings copy.state.highestUid (answers.recent settings) id
        copy.messages[id]? := by
  rw [toldOf_about honest_finish, about_finish, ← toldOf_about honest_work]
  exact toldOf_work (Pass.pairwise_recent distinct) noneTooOld id

/-- What the first so many deeds tell of a message and what is told of it afterwards. -/
theorem toldOf_resumed (distinct : ((answers.inWindow settings).map Listed.uid).Nodup)
    (later : NoneTooOldLater settings (answers.recent settings))
    (noneTooOld : NoneTooOld settings (answers.recent settings) copy)
    (some : deeds <+: Pass.finish folder settings answers copy) (id : String) :
    toldOf id deeds ++ toldOf id (Pass.finish folder settings answers (replay copy deeds)) =
      toldOf id (Pass.finish folder settings answers copy) := by
  have honest : ∀ deed ∈ deeds, deed.IsHonest := fun deed did =>
    honest_finish deed (some.subset did)
  have stillRecent := noneTooOld_after_start distinct later noneTooOld some
  have dealtWith (touched : about id deeds =
      about id (Pass.finish folder settings answers copy)) :
      toldOf id deeds ++ toldOf id (Pass.finish folder settings answers (replay copy deeds)) =
        toldOf id (Pass.finish folder settings answers copy) := by
    have nothingLeft : toldOf id (Pass.finish folder settings answers (replay copy deeds)) = [] := by
      rw [toldOf_finish distinct stillRecent, getElem?_after_start distinct touched]
      exact tidings_of_settled (Pass.pairwise_recent distinct) _
        (settled_finish distinct later noneTooOld id)
    rw [nothingLeft, List.append_nil, toldOf_about honest, touched, ← toldOf_about honest_finish]
  -- Whether a message is told as old depends on the highest UID known, which the last deed raises.
  obtain same | rfl := numbers_after_start some
  · obtain touched | untouched := message_after_start distinct noneTooOld some id
    · exact dealtWith touched
    · have highest : (replay copy deeds).state = copy.state := by
        unfold Copy.state
        rw [same]
      rw [toldOf_about honest, untouched, toldOf_finish distinct stillRecent,
        getElem?_untouched untouched, highest, ← toldOf_finish distinct noneTooOld]
      rfl
  · exact dealtWith rfl

theorem finish_resumes (distinct : ((answers.inWindow settings).map Listed.uid).Nodup)
    (later : NoneTooOldLater settings (answers.recent settings))
    (noneTooOld : NoneTooOld settings (answers.recent settings) copy)
    (some : deeds <+: Pass.finish folder settings answers copy) :
    Resumes (Pass.finish folder settings answers) copy deeds where
  leads := by
    refine Copy.ext (Std.ExtTreeMap.ext_getElem? fun id => ?_) ?_
    · rw [Pass.getElem?_finish distinct, Pass.getElem?_finish distinct]
      obtain touched | untouched := message_after_start distinct noneTooOld some id
      · rw [getElem?_after_start distinct touched]
        exact target_of_settled (Pass.pairwise_recent distinct)
          (settled_finish distinct later noneTooOld id)
      · rw [getElem?_untouched untouched]
    · rw [Pass.numbers_finish, Pass.numbers_finish, numbers_resumed some]
  tells := by
    have told_part : ∀ event ∈ toldBy deeds, event.message?.isSome = true :=
      isSome_of_told fun deed did => honest_finish deed (some.subset did)
    refine perm_of_filter_message (fun event told => ?_) (isSome_of_told honest_finish)
      fun id => ?_
    · obtain told | told := List.mem_append.1 told
      · exact told_part event told
      · exact isSome_of_told honest_finish event told
    · rw [List.filter_append]
      exact toldOf_resumed distinct later noneTooOld some id

/-! ## Settling the numbering -/

theorem renumber_settled {state : FolderState}
    (settled : state.validity = numbering.or copy.state.validity) :
    Plan.renumber numbering state = [] := by
  unfold Plan.renumber
  rw [settled]
  cases numbering with
  | none => rfl
  | some reported => exact if_pos rfl

theorem renumbered_renumbered (numbering : Option UInt64) (copy : Copy) :
    Plan.renumbered numbering (Plan.renumbered numbering copy) = Plan.renumbered numbering copy := by
  have settled : (Plan.renumbered numbering copy).state.validity =
      numbering.or copy.state.validity := by
    rw [renumbered_state]
  calc Plan.renumbered numbering (Plan.renumbered numbering copy)
      = replay (Plan.renumbered numbering copy)
          (Plan.renumber numbering (Plan.renumbered numbering copy).state) := rfl
    _ = Plan.renumbered numbering copy := by
        rw [renumber_settled settled]
        rfl

/-- A reset that stopped half-way is done again as a whole. -/
theorem renumbered_after_part {part : List Deed}
    (some : part <+: Plan.renumber numbering copy.state) :
    Plan.renumbered numbering (replay copy part) = Plan.renumbered numbering copy := by
  by_cases all : part = Plan.renumber numbering copy.state
  · rw [all]
    exact renumbered_renumbered numbering copy
  -- A reset has two parts that change something: the messages removed, and the counter zeroed too.
  cases reports : numbering with
  | none =>
    rw [reports] at some
    rw [List.prefix_nil.1 some]
    rfl
  | some reported =>
    cases stored : copy.state.validity with
    | none =>
      simp only [Plan.renumber, reports, stored, List.prefix_cons_iff, List.prefix_nil] at some all
      obtain rfl | ⟨_, rfl, rfl⟩ := some
      · rfl
      · exact absurd rfl all
    | some known =>
      by_cases same : known = reported
      · simp only [Plan.renumber, reports, stored, if_pos same, List.prefix_nil] at some
        rw [some]
        rfl
      · simp only [Plan.renumber, reports, stored, if_neg same, List.prefix_cons_iff,
          List.prefix_nil] at some all
        have reset (copy : Copy) (stored : copy.state.validity = Option.some known) :
            Plan.renumbered (Option.some reported) copy =
              (Act.setNumber FolderState.validityKey reported.toInt64).on
                ((Act.setNumber FolderState.highestKey 0).on (Act.removeAll.on copy)) := by
          simp only [Plan.renumbered, Plan.renumber, stored, if_neg same]
          rfl
        rw [reset copy stored]
        obtain rfl | ⟨_, rfl, rfl | ⟨_, rfl, rfl | ⟨_, rfl, rfl⟩⟩⟩ := some
        · exact reset copy stored
        · exact reset (Act.removeAll.on copy) stored
        · have stillStored : ((Act.setNumber FolderState.highestKey 0).on
              (Act.removeAll.on copy)).state.validity = Option.some known := by
            rw [Copy.state_setHighest]
            exact stored
          refine (reset _ stillStored).trans (Copy.ext rfl (Std.ExtTreeMap.ext_getElem? fun key => ?_))
          simp only [Act.on, Std.ExtTreeMap.getElem?_insert]
          grind
        · exact absurd rfl all

/-- However far the numbering was settled, settling it again leads to the same copy. -/
theorem renumbered_after_start (some : deeds <+: Plan.settle numbering copy) :
    Plan.renumbered numbering (replay copy deeds) = Plan.renumbered numbering copy := by
  obtain loading | ⟨part, renumbering, rfl⟩ := prefix_append_cases some
  · simp only [Plan.load, List.prefix_cons_iff, List.prefix_nil] at loading
    obtain rfl | ⟨_, rfl, rfl | ⟨_, rfl, rfl⟩⟩ := loading <;> rfl
  · have settled : replay copy (Plan.load ++ part) = replay copy part := rfl
    rw [settled]
    exact renumbered_after_part renumbering

theorem told_settle : toldBy (Plan.settle numbering copy) = [] := by
  unfold Plan.settle Plan.renumber
  cases numbering with
  | none => rfl
  | some reported =>
    cases copy.state.validity with
    | none => rfl
    | some known =>
      dsimp only
      split <;> rfl

/-- Settling the numbering leaves a message as it is or removes it. -/
theorem noneTooOld_settling {listed : List Listed} (noneTooOld : NoneTooOld settings listed copy)
    (some : deeds <+: Plan.settle numbering copy) :
    NoneTooOld settings listed (replay copy deeds) := by
  intro message member record found
  refine noneTooOld message member record (getElem?_of_replay (fun deed did => ?_) found)
  have settling := some.subset did
  simp only [Plan.settle, Plan.load, Plan.renumber] at settling
  grind [Act.onlyRemoves]

theorem toldBy_planOf (folder : String) (settings : PassSettings) (answers : Answers)
    (numbering : Option UInt64) (copy : Copy) :
    toldBy (Pass.planOf folder settings answers numbering copy) =
      toldBy (Pass.finish folder settings answers (Plan.renumbered numbering copy)) := by
  unfold Pass.planOf
  rw [toldBy_append, told_settle, List.nil_append]

theorem renumbered_after_finishing
    (finishing : deeds <+: Pass.finish folder settings answers (Plan.renumbered numbering copy)) :
    Plan.renumbered numbering (replay (Plan.renumbered numbering copy) deeds) =
      replay (Plan.renumbered numbering copy) deeds := by
  have settled : (replay (Plan.renumbered numbering copy) deeds).state.validity =
      numbering.or copy.state.validity := by
    have before : (Plan.renumbered numbering copy).state.validity =
        numbering.or copy.state.validity := by
      rw [renumbered_state]
    obtain same | rfl := numbers_after_start finishing
    · rw [← before]
      unfold Copy.state
      rw [same]
    · rw [(Pass.state_finish folder settings answers _).2, before]
  unfold Plan.renumbered at settled ⊢
  rw [renumber_settled settled]
  rfl

/-- A pass that is taken up again ends where the pass that failed would have ended, and tells what
that one had yet to tell. -/
theorem resumes_of_start (distinct : ((answers.inWindow settings).map Listed.uid).Nodup)
    (later : NoneTooOldLater settings (answers.recent settings))
    (noneTooOld : NoneTooOld settings (answers.recent settings) copy)
    (some : deeds <+: Pass.planOf folder settings answers numbering copy) :
    Resumes (Pass.planOf folder settings answers numbering) copy deeds ∧
      NoneTooOld settings (answers.recent settings) (replay copy deeds) := by
  -- Either the numbering was not settled yet, and nothing was told, or messages were being dealt with.
  obtain settling | ⟨rest, finishing, rfl⟩ := prefix_append_cases some
  · have silent : toldBy deeds = [] := by
      obtain ⟨others, whole⟩ := settling
      have told : toldBy (deeds ++ others) = [] := by rw [whole, told_settle]
      rw [toldBy_append] at told
      exact (List.append_eq_nil_iff.1 told).1
    refine ⟨⟨?_, ?_⟩, noneTooOld_settling noneTooOld settling⟩
    · rw [Pass.replay_planOf, Pass.replay_planOf, renumbered_after_start settling]
    · rw [silent, toldBy_planOf, toldBy_planOf, renumbered_after_start settling]
      rfl
  · have settledOld : NoneTooOld settings (answers.recent settings)
        (replay copy (Plan.settle numbering copy)) :=
      noneTooOld_settling noneTooOld List.prefix_rfl
    change NoneTooOld settings (answers.recent settings)
      (Plan.renumbered numbering copy) at settledOld
    have resumes := finish_resumes distinct later settledOld finishing
    have settled : replay copy (Plan.settle numbering copy ++ rest) =
        replay (Plan.renumbered numbering copy) rest := replay_append copy _ rest
    rw [settled]
    refine ⟨⟨?_, ?_⟩, noneTooOld_after_start distinct later settledOld finishing⟩
    · rw [settled, Pass.replay_planOf, Pass.replay_planOf, renumbered_after_finishing finishing]
      exact resumes.leads
    · rw [settled, toldBy_append, told_settle, toldBy_planOf, toldBy_planOf,
        renumbered_after_finishing finishing]
      exact resumes.tells

end Resume

end MailReplica.Reconcile
