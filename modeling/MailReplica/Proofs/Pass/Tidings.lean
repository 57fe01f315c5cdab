import Mathlib.Data.List.Nodup
import MailReplica.Proofs.Pass.Dealing

/-! # What a plan tells of one message

The deeds of a plan tell about those messages only that they touch, so the events about a message can
be read off its deeds (`toldOf_about`).  Where no listed message is too old here, a plan tells of each
message what `tidings` says, which is one event at most.
-/

namespace MailReplica.Reconcile

open Store (Act Copy FolderState)

def Event.message? : Event → Option String
  | newMessage _ id _ | flagsUpdated _ id | removed _ id => some id
  | started _ | authenticated | failed _ _ _ | finished _ => none

/-- The events among `events` that are about messages. -/
def messageEvents (events : List Event) : List Event :=
  events.filter fun event => event.message?.isSome

/-- What deeds tell of the message `id`. -/
def toldOf (id : String) (deeds : List Deed) : List Event :=
  (toldBy deeds).filter fun event => event.message? = some id

/-- A deed that tells only of messages that it touches. -/
def Deed.IsHonest (deed : Deed) : Prop :=
  ∀ event ∈ deed.told, ∃ id, event.message? = some id ∧ deed.act.touches id = true

theorem Deed.IsDealing.isHonest {folder : String} {deed : Deed} (dealing : deed.IsDealing folder) :
    deed.IsHonest := by
  intro event told
  cases dealing with
  | look => cases told
  | raise value => cases told
  | save record old =>
    obtain rfl := List.mem_singleton.1 told
    exact ⟨record.id, rfl, decide_eq_true rfl⟩
  | reflag id flags =>
    obtain rfl := List.mem_singleton.1 told
    exact ⟨id, rfl, by simp [Act.touches]⟩
  | remove ids =>
    obtain ⟨id, gone, rfl⟩ := List.mem_map.1 told
    exact ⟨id, rfl, List.contains_iff_mem.2 gone⟩

section Told

variable {deeds : List Deed}

theorem toldBy_append (first second : List Deed) :
    toldBy (first ++ second) = toldBy first ++ toldBy second :=
  List.flatMap_append

theorem isSome_of_told (honest : ∀ deed ∈ deeds, deed.IsHonest) :
    ∀ event ∈ toldBy deeds, event.message?.isSome = true := by
  intro event told
  obtain ⟨deed, did, told⟩ := List.mem_flatMap.1 told
  obtain ⟨id, about, _⟩ := honest deed did event told
  rw [about]
  rfl

theorem messageEvents_toldBy (honest : ∀ deed ∈ deeds, deed.IsHonest) :
    messageEvents (toldBy deeds) = toldBy deeds :=
  List.filter_eq_self.2 (isSome_of_told honest)

/-- Honest deeds tell of a message only where they touch it. -/
theorem toldOf_about (honest : ∀ deed ∈ deeds, deed.IsHonest) (id : String) :
    toldOf id deeds = toldOf id (about id deeds) := by
  unfold toldOf about toldBy
  induction deeds with
  | nil => rfl
  | cons deed deeds ih =>
    rw [List.forall_mem_cons] at honest
    rw [List.flatMap_cons, List.filter_append, ih honest.2, List.filter_cons]
    split
    · rw [List.flatMap_cons, List.filter_append]
    next apart =>
      have silent : (deed.told.filter fun event => event.message? = some id) = [] := by
        rw [List.filter_eq_nil_iff]
        intro event told names
        obtain ⟨other, about, touched⟩ := honest.1 event told
        have same : other = id := by simpa [about] using names
        exact apart (same ▸ touched)
      rw [silent, List.nil_append]

/-- Two lists of events about messages are the same up to their order, if they are the same for each
message. -/
theorem perm_of_filter_message {left right : List Event}
    (leftAbout : ∀ event ∈ left, event.message?.isSome = true)
    (rightAbout : ∀ event ∈ right, event.message?.isSome = true)
    (same : ∀ id, (left.filter fun event => event.message? = some id) =
      right.filter fun event => event.message? = some id) : left.Perm right := by
  rw [List.perm_iff_count]
  intro event
  cases about : event.message? with
  | none =>
    have noLeft : event ∉ left := fun told => by simpa [about] using leftAbout event told
    have noRight : event ∉ right := fun told => by simpa [about] using rightAbout event told
    rw [List.count_eq_zero_of_not_mem noLeft, List.count_eq_zero_of_not_mem noRight]
  | some id =>
    have counts (events : List Event) :
        (events.filter fun event => event.message? = some id).count event = events.count event :=
      List.count_filter (decide_eq_true about)
    rw [← counts left, same id, counts right]

end Told

/-! ## The events of a plan -/

/-- No listed message is dated before the cutoff here. -/
def NoneTooOld (settings : PassSettings) (listed : List Listed) (copy : Copy) : Prop :=
  ∀ message ∈ listed, ∀ record, copy.messages[message.id]? = some record →
    predates settings record.date = false

/-- What a plan tells of the message `id`, of which a copy with the given highest UID known holds
`record?`. -/
def tidings (folder : String) (settings : PassSettings) (highestUid : UInt64)
    (listed : List Listed) (id : String) (record? : Option MessageRecord) : List Event :=
  match listed.find? (fun message => message.id = id) with
  | some message =>
    match record? with
    | some record =>
      if settings.removeVanished = true ∧ message.isDeleted = true then [.removed folder id]
      else if record.flags.restrict settings.trackedFlags =
          message.flags.restrict settings.trackedFlags then []
      else [.flagsUpdated folder id]
    | none =>
      if message.isDeleted = true then []
      else [.newMessage folder id (message.uid.toUInt64 ≤ highestUid)]
  | none =>
    if settings.removeVanished = true ∧ record?.isSome = true then [.removed folder id] else []

section Plan

variable {folder : String} {settings : PassSettings} {listed : List Listed}
  {body : Listed → Octets} {copy : Copy}

theorem honest_work : ∀ deed ∈ Plan.work folder settings listed body copy, deed.IsHonest :=
  fun _ did => (dealing_work did).isHonest

theorem toldOf_departure {id : String} {record : MessageRecord}
    (known : copy.messages[id]? = some record)
    (gone : predates settings record.date = true ∨ id ∉ listed.map Listed.id) :
    toldOf id [Plan.departure folder settings listed copy] = [.removed folder id] := by
  have once : (Pass.vanished settings (listed.map Listed.id) (datesOf copy)).count id = 1 :=
    List.count_eq_one_of_mem (nodup_vanished settings _ copy)
      (mem_vanished.2 ⟨record, known, gone⟩)
  unfold toldOf toldBy Plan.departure
  rw [List.flatMap_singleton, List.filter_map]
  simp only [Function.comp_def, Event.message?, Option.some.injEq]
  rw [List.filter_eq, once]
  rfl

theorem toldOf_update (message : Listed) (record : MessageRecord) :
    toldOf message.id (about message.id (Plan.update folder settings message (some record))) =
      if settings.removeVanished = true ∧ message.isDeleted = true then
        [.removed folder message.id]
      else if record.flags.restrict settings.trackedFlags =
          message.flags.restrict settings.trackedFlags then []
      else [.flagsUpdated folder message.id] := by
  rw [← toldOf_about fun _ did => (dealing_update did).isHonest, Plan.update_some]
  by_cases removed : settings.removeVanished = true ∧ message.isDeleted = true
  · rw [if_pos removed, if_pos (by simp [removed])]
    simp [toldOf, toldBy, Event.message?]
  · rw [if_neg removed, if_neg (by simpa [and_comm] using removed)]
    unfold Plan.reflag
    split <;> simp [toldOf, toldBy, Event.message?]

/-- Where no listed message is too old, a plan tells of each message what `tidings` says. -/
theorem toldOf_work (distinct : listed.Pairwise fun left right => left.id ≠ right.id)
    (noneTooOld : NoneTooOld settings listed copy) (id : String) :
    toldOf id (Plan.work folder settings listed body copy) =
      tidings folder settings copy.state.highestUid listed id copy.messages[id]? := by
  rw [toldOf_about honest_work]
  obtain ⟨message, member, rfl⟩ | absent := Plan.listed_or_absent listed id
  · rw [tidings, find?_listed distinct member]
    cases known : copy.messages[message.id]? with
    | none =>
      rw [Plan.about_work_new body distinct member known]
      dsimp only
      split
      · rfl
      · simp [toldOf, toldBy, Plan.save, Event.message?]
    | some record =>
      -- A record that is too old could be told of twice: once for its flags, once as removed.
      have recent := noneTooOld message member record known
      rw [Plan.about_work_known body distinct member known, if_neg (by simp [recent]),
        List.append_nil, toldOf_update]
  · have unnamed : id ∉ listed.map Listed.id := by simpa using absent
    rw [tidings, find?_unlisted absent, Plan.about_work_unlisted body absent]
    dsimp only
    split
    next both =>
      obtain ⟨record, known⟩ := Option.isSome_iff_exists.1 both.2
      exact toldOf_departure known (.inr unnamed)
    next => rfl

/-- Few deeds of a plan touch a message: one at most, where no listed message is too old. -/
theorem length_about_work (distinct : listed.Pairwise fun left right => left.id ≠ right.id)
    (noneTooOld : NoneTooOld settings listed copy) (id : String) :
    (about id (Plan.work folder settings listed body copy)).length ≤ 1 := by
  obtain ⟨message, member, rfl⟩ | absent := Plan.listed_or_absent listed id
  · cases known : copy.messages[message.id]? with
    | none =>
      rw [Plan.about_work_new body distinct member known]
      split <;> simp
    | some record =>
      have recent := noneTooOld message member record known
      rw [Plan.about_work_known body distinct member known, if_neg (by simp [recent]),
        List.append_nil, Plan.update_some]
      unfold Plan.reflag about
      grind [Act.touches]
  · rw [Plan.about_work_unlisted body absent]
    split <;> simp

end Plan

end MailReplica.Reconcile
