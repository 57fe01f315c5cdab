import MailReplica.Proofs.Pass.PerMessage

/-! # What a whole plan leaves

The plan of a pass leaves each message as `target` says, and the highest UID known as
`raisedNumbers` says.  Both look at the copy before the plan message by message and key by key, so
the four steps of a plan no longer matter after this module.
-/

namespace MailReplica.Reconcile

open Store (Act Copy FolderState)

/-! ## Messages -/

/-- What becomes of a known message that is listed. -/
def kept (settings : PassSettings) (message : Listed) (record : MessageRecord) :
    Option MessageRecord :=
  if settings.removeVanished = true ∧
      (message.isDeleted = true ∨ predates settings record.date = true) then none
  else
    some { record with flags := record.flags.replaceTracked message.flags settings.trackedFlags }

/-- What becomes of a listed message that is not known. -/
def gained (settings : PassSettings) (body : Listed → Octets) (message : Listed) :
    Option MessageRecord :=
  if message.isDeleted = true then none
  else some (.ofDownload message (body message) (Pass.extent settings message).2)

/-- What becomes of the message `id`, of which a copy holds `record?`. -/
def target (settings : PassSettings) (listed : List Listed) (body : Listed → Octets) (id : String)
    (record? : Option MessageRecord) : Option MessageRecord :=
  match listed.find? (fun message => message.id = id) with
  | some message => record?.elim (gained settings body message) (kept settings message)
  | none => if settings.removeVanished = true then none else record?

section Target

variable {folder : String} {settings : PassSettings} {listed : List Listed}
  {body : Listed → Octets} {copy : Copy}

theorem find?_listed (distinct : listed.Pairwise fun left right => left.id ≠ right.id)
    {message : Listed} (member : message ∈ listed) :
    listed.find? (fun other => other.id = message.id) = some message := by
  cases found : listed.find? fun other => other.id = message.id with
  | none =>
    have differ := List.find?_eq_none.1 found message member
    simp at differ
  | some other =>
    have same : other.id = message.id := by simpa using List.find?_some found
    rw [Plan.eq_of_id_eq distinct (List.mem_of_find?_eq_some found) member same]

theorem find?_unlisted {id : String} (absent : ∀ message ∈ listed, message.id ≠ id) :
    listed.find? (fun message => message.id = id) = none := by
  rw [List.find?_eq_none]
  simpa using absent

theorem target_listed (distinct : listed.Pairwise fun left right => left.id ≠ right.id)
    {message : Listed} (member : message ∈ listed) (record? : Option MessageRecord) :
    target settings listed body message.id record? =
      record?.elim (gained settings body message) (kept settings message) := by
  rw [target, find?_listed distinct member]

theorem target_unlisted {id : String} (absent : ∀ message ∈ listed, message.id ≠ id)
    (record? : Option MessageRecord) :
    target settings listed body id record? =
      if settings.removeVanished = true then none else record? := by
  rw [target, find?_unlisted absent]

theorem recordAfter_update (message : Listed) (record : MessageRecord) :
    recordAfter message.id (some record)
        (about message.id (Plan.update folder settings message (some record))) =
      if settings.removeVanished = true ∧ message.isDeleted = true then none
      else
        some { record with
          flags := record.flags.replaceTracked message.flags settings.trackedFlags } := by
  rw [Plan.update_some]
  by_cases removed : settings.removeVanished = true ∧ message.isDeleted = true
  · rw [if_pos removed, if_pos (by simp [removed])]
    simp [about, recordAfter, Act.touches, Act.onRecord]
  · rw [if_neg removed, if_neg (by simpa [and_comm] using removed)]
    unfold Plan.reflag
    by_cases same : record.flags.restrict settings.trackedFlags =
        message.flags.restrict settings.trackedFlags
    · rw [FlagSet.replaceTracked_of_restrict_eq same, if_pos same]
      simp [about, recordAfter, Act.touches]
    · rw [if_neg same]
      simp [about, recordAfter, Act.touches, Act.onRecord]

theorem recordAfter_departure {id : String} {record : MessageRecord}
    (known : copy.messages[id]? = some record)
    (gone : predates settings record.date = true ∨ id ∉ listed.map Listed.id)
    (record? : Option MessageRecord) :
    recordAfter id record? [Plan.departure folder settings listed copy] = none :=
  if_pos (mem_vanished.2 ⟨record, known, gone⟩)

/-- A plan leaves each message as `target` says. -/
theorem getElem?_work (distinct : listed.Pairwise fun left right => left.id ≠ right.id)
    (id : String) :
    (replay copy (Plan.work folder settings listed body copy)).messages[id]? =
      target settings listed body id copy.messages[id]? := by
  rw [getElem?_replay]
  obtain ⟨message, member, rfl⟩ | absent := Plan.listed_or_absent listed id
  · rw [target_listed distinct member]
    cases known : copy.messages[message.id]? with
    | none =>
      rw [Plan.about_work_new body distinct member known, Option.elim_none, gained]
      split
      · rfl
      · exact if_pos rfl
    | some record =>
      -- The update can already have removed the message; a departure after it changes nothing then.
      rw [Plan.about_work_known body distinct member known, Option.elim_some, kept,
        recordAfter_append, recordAfter_update]
      by_cases old : settings.removeVanished = true ∧ predates settings record.date = true
      · have removed : settings.removeVanished = true ∧
            (message.isDeleted = true ∨ predates settings record.date = true) :=
          ⟨old.1, .inr old.2⟩
        rw [if_pos old, if_pos removed]
        exact recordAfter_departure known (.inl old.2) _
      · have spared : settings.removeVanished = true ∧
            (message.isDeleted = true ∨ predates settings record.date = true) ↔
              settings.removeVanished = true ∧ message.isDeleted = true := by
          grind
        rw [if_neg old]
        simp only [spared]
        rfl
  · have unnamed : id ∉ listed.map Listed.id := by simpa using absent
    rw [target_unlisted absent, Plan.about_work_unlisted body absent]
    cases known : copy.messages[id]? with
    | none => simp [recordAfter]
    | some record =>
      by_cases removes : settings.removeVanished = true
      · rw [if_pos ⟨removes, rfl⟩, if_pos removes]
        exact recordAfter_departure known (.inr unnamed) _
      · rw [if_neg fun both => removes both.1, if_neg removes]
        rfl

theorem isMessageWork_of_mem_work {deed : Deed}
    (did : deed ∈ Plan.work folder settings listed body copy) : deed.act.isMessageWork = true := by
  unfold Plan.work at did
  obtain did | did := List.mem_append.1 did
  · obtain ⟨message, _, did⟩ := List.mem_flatMap.1 did
    obtain rfl | rfl | ⟨flags, rfl⟩ := Plan.mem_update did <;> rfl
  obtain did | did := List.mem_append.1 did
  · obtain ⟨message, _, did⟩ := List.mem_flatMap.1 did
    rw [List.mem_singleton] at did
    subst did
    rfl
  · rw [Plan.mem_clean did]
    rfl

theorem numbers_work :
    (replay copy (Plan.work folder settings listed body copy)).numbers = copy.numbers :=
  numbers_replay (fun _ did => isMessageWork_of_mem_work did) copy

theorem state_work :
    (replay copy (Plan.work folder settings listed body copy)).state = copy.state := by
  unfold Copy.state
  rw [numbers_work]

end Target

/-! ## Numbering -/

/-- Whether the server reports another numbering than the one known. -/
def renumbers : Option UInt64 → Option UInt64 → Bool
  | some reported, some known => reported ≠ known
  | _, _ => false

theorem renumbered_messages (reported : Option UInt64) (copy : Copy) :
    (Plan.renumbered reported copy).messages =
      if renumbers reported copy.state.validity = true then ∅ else copy.messages := by
  unfold Plan.renumbered Plan.renumber renumbers
  cases reported with
  | none => rfl
  | some reported =>
    cases copy.state.validity with
    | none => rfl
    | some known =>
      by_cases same : known = reported
      · subst same
        simp [replay]
      · have different : reported ≠ known := fun equal => same equal.symm
        simp [same, different, replay, Act.on]

theorem renumbered_state (reported : Option UInt64) (copy : Copy) :
    (Plan.renumbered reported copy).state =
      { highestUid :=
          if renumbers reported copy.state.validity = true then 0 else copy.state.highestUid
        validity := reported.or copy.state.validity } := by
  unfold Plan.renumbered Plan.renumber renumbers
  cases reported with
  | none => rfl
  | some reported =>
    cases known : copy.state.validity with
    | none => exact Copy.state_setValidity copy reported
    | some stored =>
      by_cases same : stored = reported
      · subst same
        simp only [if_pos, ne_eq, not_true_eq_false, decide_false, Option.some_or]
        exact congrArg (FolderState.mk _) known
      · have different : reported ≠ stored := fun equal => same equal.symm
        have reset := Copy.state_setValidity
          ((Act.setNumber FolderState.highestKey 0).on (Act.removeAll.on copy)) reported
        rw [Copy.state_setHighest] at reset
        dsimp only
        rw [if_neg same, if_pos (decide_eq_true different)]
        exact reset

/-! ## Numbers -/

theorem toNat_max (left right : UInt32) :
    (max left right).toNat = max left.toNat right.toNat := by
  change (if left ≤ right then right else left).toNat = _
  split
  next le => rw [UInt32.le_iff_toNat_le] at le; omega
  next lt => rw [UInt32.le_iff_toNat_le] at lt; omega

theorem toNat_highestListed? (listed : List Listed) :
    (Pass.highestListed? listed).map UInt32.toNat =
      (listed.map fun message => message.uid.toNat).max? := by
  unfold Pass.highestListed?
  cases listed with
  | nil => rfl
  | cons first rest =>
    rw [List.map_cons, List.map_cons, List.max?_cons', List.max?_cons', Option.map_some,
      ← List.foldl_map_hom fun left right => (toNat_max left right).symm, List.map_map]
    rfl

theorem toUInt64_max_zero (uid : UInt32) :
    (max uid.toUInt64.toInt64 0).toUInt64 = uid.toUInt64 := by
  -- A UID has 32 bits, so the sign bit stays clear.
  have small : uid.toUInt64.toNat < 2 ^ 63 := by
    have bound := uid.toNat_lt
    rw [UInt32.toNat_toUInt64]
    omega
  rw [Store.toUInt64_max_toInt64, if_pos small]

/-- The numbers of a copy whose state is `state` after a whole plan. -/
def raisedNumbers (listed : List Listed) (state : FolderState)
    (numbers : Std.ExtTreeMap String Int64) : Std.ExtTreeMap String Int64 :=
  match Pass.highestListed? listed with
  | none => numbers
  | some uid =>
    if state.highestUid < uid.toUInt64 then
      numbers.insert FolderState.highestKey uid.toUInt64.toInt64
    else numbers

theorem raise_cases (state : FolderState) (listed : List Listed) :
    Plan.raise state listed = [] ∨
      ∃ value, Plan.raise state listed = [⟨.setNumber FolderState.highestKey value, []⟩] := by
  unfold Plan.raise
  split
  · exact .inl rfl
  · split
    · exact .inr ⟨_, rfl⟩
    · exact .inl rfl

theorem mem_raise {state : FolderState} {listed : List Listed} {deed : Deed}
    (did : deed ∈ Plan.raise state listed) :
    ∃ value, deed = ⟨.setNumber FolderState.highestKey value, []⟩ := by
  obtain raised | ⟨value, raised⟩ := raise_cases state listed
  · rw [raised] at did
    cases did
  · rw [raised] at did
    exact ⟨value, List.mem_singleton.1 did⟩

theorem replay_raise (listed : List Listed) (state : FolderState) (copy : Copy) :
    replay copy (Plan.raise state listed) =
      { copy with numbers := raisedNumbers listed state copy.numbers } := by
  unfold Plan.raise raisedNumbers
  cases Pass.highestListed? listed with
  | none => rfl
  | some uid =>
    dsimp only
    split <;> rfl

/-- The highest UID known is raised to the highest one listed, and the numbering is left alone. -/
theorem state_raise (listed : List Listed) (copy : Copy) :
    (replay copy (Plan.raise copy.state listed)).state.highestUid.toNat =
        (listed.map fun message => message.uid.toNat).foldl max copy.state.highestUid.toNat ∧
      (replay copy (Plan.raise copy.state listed)).state.validity = copy.state.validity := by
  rw [List.foldl_max, ← toNat_highestListed?]
  unfold Plan.raise
  cases Pass.highestListed? listed with
  | none => exact ⟨(Nat.max_self _).symm, rfl⟩
  | some uid =>
    dsimp only [Option.map_some, Option.getD_some]
    by_cases higher : copy.state.highestUid < uid.toUInt64
    · rw [if_pos higher]
      have raised : (replay copy
          [⟨.setNumber FolderState.highestKey uid.toUInt64.toInt64, []⟩]).state =
          { copy.state with highestUid := uid.toUInt64 } := by
        exact (Copy.state_setHighest copy uid.toUInt64.toInt64).trans
          (by rw [toUInt64_max_zero])
      rw [raised]
      rw [UInt64.lt_iff_toNat_lt] at higher
      exact ⟨(Nat.max_eq_right (Nat.le_of_lt higher)).symm, rfl⟩
    · rw [if_neg higher]
      rw [UInt64.lt_iff_toNat_lt] at higher
      exact ⟨(Nat.max_eq_left (Nat.not_lt.1 higher)).symm, rfl⟩

/-- Raising the highest UID known twice is the same as raising it once. -/
theorem raisedNumbers_raised {listed : List Listed} {state : FolderState}
    (raised : (listed.map fun message => message.uid.toNat).max?.getD 0 ≤
      state.highestUid.toNat)
    (numbers : Std.ExtTreeMap String Int64) : raisedNumbers listed state numbers = numbers := by
  unfold raisedNumbers
  rw [← toNat_highestListed?] at raised
  cases found : Pass.highestListed? listed with
  | none => rfl
  | some uid =>
    rw [found, Option.map_some, Option.getD_some] at raised
    refine if_neg ?_
    rw [UInt64.lt_iff_toNat_lt, UInt32.toNat_toUInt64]
    omega

end MailReplica.Reconcile
