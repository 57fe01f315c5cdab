import MailReplica.Proofs.Pass.Highest
import MailReplica.Proofs.Pass.Undated

/-! # What a run removes, and how often

A run removes messages in two places: first those that both sides know and that the server marks for
removal, each by a call of its own, and last those that are gone, by one call.  Both look at what
the store named before either of them began.  A message that is marked for removal and whose record
is too old is met in both, so it is removed a second time when it is no longer there, and told to be
removed twice (`run_removals`).  No other removal is in vain.
-/

namespace MailReplica

/-! ## Removing calls -/

namespace Store

/-- The names that a call removes, short of removing all. -/
def Act.removedIds : Act → List String
  | remove ids => ids
  | _ => []

def Entry.removedIds : Entry → List String
  | create _ => []
  | inFolder _ act => act.removedIds

theorem Act.removedIds_of_not_messageWork {act : Act} (idle : act.isMessageWork = false) :
    act.removedIds = [] := by
  cases act <;> first | rfl | cases idle

theorem Act.eq_of_removes {act : Act} {id : String} (removes : id ∈ act.removedIds) :
    ∃ ids, act = .remove ids ∧ id ∈ ids := by
  cases act with
  | remove ids => exact ⟨ids, rfl, removes⟩
  | _ => cases removes

theorem Act.touches_of_removes {act : Act} {id : String} (removes : id ∈ act.removedIds) :
    act.touches id = true := by
  obtain ⟨ids, rfl, member⟩ := eq_of_removes removes
  exact List.contains_iff_mem.2 member

end Store

namespace Reconcile

open Rehearsal (Mailbox)
open Store (Act Copy Entry Journaled Memory)

/-- The name of a message that is told to be removed. -/
def Event.removed? : Event → Option String
  | removed _ id => some id
  | _ => none

def removedIn (events : List Event) : List String :=
  events.filterMap Event.removed?

/-- How many of the deeds remove the message `id`. -/
def removals (id : String) (deeds : List Deed) : Nat :=
  deeds.countP fun deed => deed.act.removedIds.contains id

/-- Some call, among those of `entries`, removed a name that the folder did not hold by then. -/
def RemovesInVain (folder : String) (memory : Memory) (entries : List Entry) (id : String) : Prop :=
  ∃ earlier ids later, entries = earlier ++ .inFolder folder (.remove ids) :: later ∧ id ∈ ids ∧
    id ∉ (memory.replay earlier).ids folder

/-- Whether a message is listed as marked for removal while its record is too old, where messages
are removed at all. -/
def GoneTwice (settings : PassSettings) (listed : List Listed) (copy : Copy) (id : String) : Prop :=
  settings.removeVanished = true ∧ ∃ message ∈ listed, message.id = id ∧ message.isDeleted = true ∧
    ∃ record, copy.messages[id]? = some record ∧ predates settings record.date = true

section Deeds

variable {folder : String} {deeds : List Deed} {id : String}

theorem removals_append (first second : List Deed) :
    removals id (first ++ second) = removals id first + removals id second :=
  List.countP_append

theorem removals_about (id : String) (deeds : List Deed) :
    removals id (about id deeds) = removals id deeds := by
  unfold removals about
  rw [List.countP_filter]
  refine List.countP_congr fun deed _ => ?_
  rw [Bool.and_eq_true, and_iff_left_iff_imp]
  exact fun removes => Act.touches_of_removes (List.contains_iff_mem.1 removes)

/-- A deed tells of each name that it removes. -/
theorem Deed.IsDealing.removedIn {deed : Deed} (dealing : deed.IsDealing folder) :
    removedIn deed.told = deed.act.removedIds := by
  cases dealing with
  | remove ids =>
    change (ids.map (Event.removed folder)).filterMap Event.removed? = ids
    rw [List.filterMap_map]
    exact List.filterMap_some
  | look | save | reflag | raise => rfl

theorem removedIn_toldBy (dealing : ∀ deed ∈ deeds, deed.IsDealing folder) :
    removedIn (toldBy deeds) = deeds.flatMap fun deed => deed.act.removedIds := by
  unfold toldBy
  rw [removedIn, List.filterMap_flatMap]
  exact List.flatMap_congr fun deed did => (dealing deed did).removedIn

theorem removedIn_messageEvents (events : List Event) :
    removedIn (messageEvents events) = removedIn events := by
  unfold removedIn messageEvents
  rw [List.filterMap_filter]
  refine List.filterMap_congr fun event _ => ?_
  cases event <;> rfl

theorem removedIds_runEntries (folder : String) (made : Bool) (deeds : List Deed) :
    (runEntries folder made deeds).flatMap Entry.removedIds =
      deeds.flatMap fun deed => deed.act.removedIds := by
  have creating : (if made then [Pass.making folder] else []).flatMap Entry.removedIds = [] := by
    cases made <;> rfl
  rw [runEntries, List.flatMap_append, creating, List.nil_append, entriesOf, List.flatMap_map]
  rfl

/-- A name is removed as often as there are deeds that remove it, where no deed names it twice. -/
theorem count_removedIds (once : ∀ deed ∈ deeds, deed.act.removedIds.Nodup) (id : String) :
    (deeds.flatMap fun deed => deed.act.removedIds).count id = removals id deeds := by
  induction deeds with
  | nil => rfl
  | cons deed deeds ih =>
    rw [List.forall_mem_cons] at once
    have single : deed.act.removedIds.count id =
        if deed.act.removedIds.contains id then 1 else 0 := by
      rw [once.1.count]
      simp only [List.contains_iff_mem]
    rw [List.flatMap_cons, List.count_append, ih once.2, single, removals, removals,
      List.countP_cons, Nat.add_comm]

/-- Deeds of which none saves a message leave it as it was, unless one of them removes it. -/
theorem recordAfter_eq_none_iff (dealing : ∀ deed ∈ deeds, deed.IsDealing folder)
    (unsaved : ∀ deed ∈ deeds, ∀ record, deed.act = .save record → record.id ≠ id)
    (record? : Option MessageRecord) :
    recordAfter id record? deeds = none ↔ record? = none ∨ 0 < removals id deeds := by
  induction deeds generalizing record? with
  | nil => simp [recordAfter, removals]
  | cons deed deeds ih =>
    rw [List.forall_mem_cons] at dealing unsaved
    have step : deed.act.onRecord id record? = none ↔
        record? = none ∨ id ∈ deed.act.removedIds := by
      cases dealing.1 with
      | look => simp [Act.onRecord, Act.removedIds]
      | raise value => simp [Act.onRecord, Act.removedIds]
      | save record old => simp [Act.onRecord, Act.removedIds, unsaved.1 record rfl]
      | reflag other flags =>
        simp only [Act.onRecord, Act.removedIds, List.not_mem_nil, or_false]
        split
        · exact Option.map_eq_none_iff
        · rfl
      | remove ids =>
        simp only [Act.onRecord, Act.removedIds]
        split
        next gone => simp [gone]
        next spared => simp [spared]
    have counted : 0 < removals id (deed :: deeds) ↔
        id ∈ deed.act.removedIds ∨ 0 < removals id deeds := by
      simp only [removals, List.countP_cons, List.contains_iff_mem]
      split
      next removes => simp [removes]
      next spares => simp [spares]
    change recordAfter id (deed.act.onRecord id record?) deeds = none ↔ _
    rw [ih dealing.2 unsaved.2, step, counted, or_assoc]

/-- Two deeds remove a message if and only if one does so after another one. -/
theorem one_lt_removals_iff :
    1 < removals id deeds ↔ ∃ earlier deed later, deeds = earlier ++ deed :: later ∧
      id ∈ deed.act.removedIds ∧ 0 < removals id earlier := by
  constructor
  · intro twice
    induction deeds with
    | nil => cases twice
    | cons first rest ih =>
      by_cases removes : id ∈ first.act.removedIds
      · have again : 0 < removals id rest := by
          simpa [removals, List.countP_cons, removes] using twice
        obtain ⟨deed, did, removes'⟩ := List.countP_pos_iff.1 again
        obtain ⟨before, later, rfl⟩ := List.append_of_mem did
        refine ⟨first :: before, deed, later, rfl, List.contains_iff_mem.1 removes', ?_⟩
        simp [removals, removes]
      · have same : removals id (first :: rest) = removals id rest := by
          simp [removals, removes]
        obtain ⟨earlier, deed, later, rfl, removes', before⟩ := ih (same ▸ twice)
        refine ⟨first :: earlier, deed, later, rfl, removes', ?_⟩
        exact Nat.lt_of_lt_of_le before (List.Sublist.countP_le (List.sublist_cons_self _ _))
  · rintro ⟨earlier, deed, later, rfl, removes, before⟩
    have one : 0 < removals id (deed :: later) := by
      simp [removals, removes]
    rw [removals_append]
    omega

end Deeds

namespace Pass

/-! ## The removals of a plan -/

section Plan

variable {folder : String} {settings : PassSettings} {listed : List Listed}
  {body : Listed → Octets} {copy : Copy} {id : String} {record : MessageRecord}

theorem mem_planned {deed : Deed} (did : deed ∈ planned folder settings listed body copy) :
    deed = ⟨.look, []⟩ ∨
      (∃ message, deed ∈ Plan.update folder settings message copy.messages[message.id]?) ∨
      (∃ message, copy.messages[message.id]? = none ∧
        deed = Plan.save folder settings copy.state message (body message)) ∨
      deed = Plan.departure folder settings listed copy ∨
      ∃ key value, deed = ⟨.setNumber key value, []⟩ := by
  obtain rfl | did := List.mem_cons.1 did
  · exact .inl rfl
  obtain did | did := List.mem_append.1 did
  case inr =>
    obtain ⟨value, rfl⟩ := mem_raise did
    exact .inr (.inr (.inr (.inr ⟨_, value, rfl⟩)))
  obtain did | did := List.mem_append.1 did
  · obtain ⟨message, _, did⟩ := List.mem_flatMap.1 did
    exact .inr (.inl ⟨message, did⟩)
  obtain did | did := List.mem_append.1 did
  · obtain ⟨message, isNew, did⟩ := List.mem_flatMap.1 did
    exact .inr (.inr (.inl ⟨message, (Plan.mem_newMessages.1 isNew).2.1, List.mem_singleton.1 did⟩))
  · exact .inr (.inr (.inr (.inl (Plan.mem_clean did))))

/-- No deed of a plan names a message to be removed twice. -/
theorem nodup_removedIds {deed : Deed} (did : deed ∈ planned folder settings listed body copy) :
    deed.act.removedIds.Nodup := by
  obtain rfl | ⟨message, did⟩ | ⟨message, _, rfl⟩ | rfl | ⟨key, value, rfl⟩ := mem_planned did
  · exact .nil
  · obtain rfl | rfl | ⟨flags, rfl⟩ := Plan.mem_update did
    · exact List.nodup_singleton _
    · exact .nil
    · exact .nil
  · exact .nil
  · exact nodup_vanished settings _ copy
  · exact .nil

/-- No plan saves a message that is known. -/
theorem unsaved_planned (known : copy.messages[id]? = some record) {deed : Deed}
    (did : deed ∈ planned folder settings listed body copy) (saved : MessageRecord)
    (saves : deed.act = .save saved) : saved.id ≠ id := by
  obtain rfl | ⟨message, did⟩ | ⟨message, unknown, rfl⟩ | rfl | ⟨key, value, rfl⟩ :=
    mem_planned did
  · cases saves
  · obtain rfl | rfl | ⟨flags, rfl⟩ := Plan.mem_update did <;> cases saves
  · cases saves
    rintro rfl
    exact nomatch unknown.symm.trans known
  · cases saves
  · cases saves

theorem removals_departure (known : copy.messages[id]? = some record)
    (gone : predates settings record.date = true ∨ id ∉ listed.map Listed.id) :
    removals id [Plan.departure folder settings listed copy] = 1 := by
  have removes : id ∈ vanished settings (listed.map Listed.id) (datesOf copy) :=
    mem_vanished.2 ⟨record, known, gone⟩
  simp [removals, Plan.departure, Act.removedIds, removes]

theorem removals_update (message : Listed) (record : MessageRecord) :
    removals message.id (Plan.update folder settings message (some record)) =
      if message.isDeleted = true ∧ settings.removeVanished = true then 1 else 0 := by
  rw [Plan.update_some, Plan.reflag]
  simp only [Bool.and_eq_true]
  split
  · simp [removals, Act.removedIds]
  · split <;> simp [removals, Act.removedIds]

theorem removals_planned (id : String) :
    removals id (planned folder settings listed body copy) =
      removals id (about id (Plan.work folder settings listed body copy)) := by
  rw [← removals_about, about_planned]

/-- A plan removes a message that both sides know once for each reason to. -/
theorem removals_listed (distinct : listed.Pairwise fun left right => left.id ≠ right.id)
    {message : Listed} (member : message ∈ listed)
    (known : copy.messages[message.id]? = some record) :
    removals message.id (planned folder settings listed body copy) =
      (if message.isDeleted = true ∧ settings.removeVanished = true then 1 else 0) +
        if settings.removeVanished = true ∧ predates settings record.date = true then 1 else 0 := by
  rw [removals_planned, Plan.about_work_known body distinct member known, removals_append,
    removals_about, removals_update]
  by_cases old : settings.removeVanished = true ∧ predates settings record.date = true
  · rw [if_pos old, if_pos old, removals_departure known (.inl old.2)]
  · rw [if_neg old, if_neg old]
    rfl

theorem removals_unlisted (absent : ∀ message ∈ listed, message.id ≠ id) :
    removals id (planned folder settings listed body copy) ≤ 1 := by
  rw [removals_planned, Plan.about_work_unlisted body absent]
  split
  · exact List.countP_le_length
  · exact Nat.zero_le 1

/-- A plan removes no message that is not known. -/
theorem removals_unknown (unknown : copy.messages[id]? = none)
    (distinct : listed.Pairwise fun left right => left.id ≠ right.id) :
    removals id (planned folder settings listed body copy) = 0 := by
  rw [removals_planned]
  obtain ⟨message, member, rfl⟩ | absent := Plan.listed_or_absent listed id
  · rw [Plan.about_work_new body distinct member unknown]
    split <;> rfl
  · rw [Plan.about_work_unlisted body absent, unknown]
    simp [removals]

/-- A plan removes a message twice exactly where it is gone for two reasons. -/
theorem removals_le_two (distinct : listed.Pairwise fun left right => left.id ≠ right.id)
    (id : String) :
    removals id (planned folder settings listed body copy) ≤ 2 ∧
      (1 < removals id (planned folder settings listed body copy) ↔
        GoneTwice settings listed copy id) := by
  obtain ⟨message, member, rfl⟩ | absent := Plan.listed_or_absent listed id
  · cases known : copy.messages[message.id]? with
    | none =>
      rw [removals_unknown known distinct]
      refine ⟨Nat.zero_le 2, iff_of_false (Nat.not_lt_zero 1) ?_⟩
      rintro ⟨_, _, _, _, _, record, found, _⟩
      rw [known] at found
      cases found
    | some record =>
      rw [removals_listed distinct member known]
      refine ⟨by split <;> split <;> omega, ?_⟩
      constructor
      · intro twice
        by_cases marked : message.isDeleted = true ∧ settings.removeVanished = true
        · by_cases old : settings.removeVanished = true ∧ predates settings record.date = true
          · exact ⟨old.1, message, member, rfl, marked.1, record, known, old.2⟩
          · rw [if_pos marked, if_neg old] at twice
            omega
        · rw [if_neg marked] at twice
          split at twice <;> omega
      · rintro ⟨removes, other, isListed, same, marked, record', found, old⟩
        obtain rfl := Plan.eq_of_id_eq distinct isListed member same
        rw [known] at found
        cases found
        rw [if_pos ⟨marked, removes⟩, if_pos ⟨removes, old⟩]
        exact Nat.lt_add_one 1
  · have once : removals id (planned folder settings listed body copy) ≤ 1 :=
      removals_unlisted absent
    refine ⟨by omega, iff_of_false (by omega) ?_⟩
    rintro ⟨_, message, member, named, _⟩
    exact absent message member named

/-- The first so many deeds of a plan remove no other message twice, and the whole plan removes each
of these. -/
theorem removals_start (distinct : listed.Pairwise fun left right => left.id ≠ right.id)
    {deals : List Deed} (begins : deals <+: planned folder settings listed body copy)
    (id : String) :
    removals id deals ≤ 2 ∧ (removals id deals = 2 → GoneTwice settings listed copy id) ∧
      (deals = planned folder settings listed body copy → GoneTwice settings listed copy id →
        removals id deals = 2) := by
  obtain ⟨most, twice⟩ := @removals_le_two folder settings listed body copy distinct id
  have fewer : removals id deals ≤ removals id (planned folder settings listed body copy) :=
    begins.sublist.countP_le
  refine ⟨by omega, fun reached => twice.1 (by omega), fun all twofold => ?_⟩
  have again := twice.2 twofold
  rw [← all] at again
  omega

/-- The first so many deeds of a plan remove a message that is not there if and only if they remove
it twice. -/
theorem vain_iff (distinct : listed.Pairwise fun left right => left.id ≠ right.id)
    {deals : List Deed} (begins : deals <+: planned folder settings listed body copy)
    (id : String) :
    (∃ earlier deed later, deals = earlier ++ deed :: later ∧ id ∈ deed.act.removedIds ∧
      (replay copy earlier).messages[id]? = none) ↔ 1 < removals id deals := by
  have dealing : ∀ deed ∈ deals, deed.IsDealing folder := fun deed did =>
    dealing_planned (begins.subset did)
  cases known : copy.messages[id]? with
  | none =>
    have none : removals id deals = 0 := by
      have fewer : removals id deals ≤ _ := begins.sublist.countP_le
      rw [show List.countP _ _ = 0 from removals_unknown known distinct] at fewer
      exact Nat.le_zero.1 fewer
    rw [none]
    refine iff_of_false ?_ (Nat.not_lt_zero 1)
    rintro ⟨earlier, deed, later, rfl, removes, _⟩
    have some : 0 < removals id (earlier ++ deed :: later) :=
      List.countP_pos_iff.2 ⟨deed, by simp, List.contains_iff_mem.2 removes⟩
    omega
  | some record =>
    -- What is known is gone once a deed has removed it, since no deed saves it.
    have gone {earlier later : List Deed} (split : deals = earlier ++ later) :
        (replay copy earlier).messages[id]? = none ↔ 0 < removals id earlier := by
      have within {deed : Deed} (did : deed ∈ about id earlier) : deed ∈ deals :=
        split ▸ List.mem_append_left _ (List.mem_filter.1 did).1
      rw [getElem?_replay, known, recordAfter_eq_none_iff (fun _ did => dealing _ (within did))
        (fun _ did => unsaved_planned known (begins.subset (within did))), removals_about]
      simp
    rw [one_lt_removals_iff]
    constructor
    · rintro ⟨earlier, deed, later, split, removes, absent⟩
      exact ⟨earlier, deed, later, split, removes, (gone split).1 absent⟩
    · rintro ⟨earlier, deed, later, split, removes, before⟩
      exact ⟨earlier, deed, later, split, removes, (gone split).2 before⟩

end Plan

/-! ## The removals of a run -/

section Runs

variable {folder : String}

/-- The calls of a run remove a message in vain if and only if its deeds do once the numbering is
settled. -/
theorem removesInVain_runEntries {memory : Memory} {made : Bool} {settles deals : List Deed}
    {copy : Copy} {id : String}
    (idle : ∀ deed ∈ settles, deed.act.isMessageWork = false)
    (settled : replay (memory.copy folder) settles = copy) :
    RemovesInVain folder memory (runEntries folder made (settles ++ deals)) id ↔
      ∃ earlier deed later, deals = earlier ++ deed :: later ∧ id ∈ deed.act.removedIds ∧
        (replay copy earlier).messages[id]? = none := by
  have held (made : Bool) (earlier : List Deed) :
      id ∉ (memory.replay (runEntries folder made (settles ++ earlier))).ids folder ↔
        (replay copy earlier).messages[id]? = none := by
    rw [Memory.mem_ids, copy_runEntries, replay_append, settled,
      Std.ExtTreeMap.mem_iff_isSome_getElem?, Bool.not_eq_true, Option.isSome_eq_false_iff,
      Option.isNone_iff_eq_none]
  constructor
  · rintro ⟨part, ids, rest, split, removes, absent⟩
    have begins : part ++ [.inFolder folder (.remove ids)] <+:
        runEntries folder made (settles ++ deals) := ⟨rest, by rw [split]; simp⟩
    obtain ⟨_, creating⟩ | ⟨made', earlier, deed, ⟨later, whole⟩, rfl, same⟩ :=
      runEntries_snoc begins
    · cases creating
    have acts : deed.act = .remove ids := by
      have last : runEntries folder made' (earlier ++ [deed]) =
          runEntries folder made' earlier ++ [.inFolder folder deed.act] := by
        simp [runEntries, entriesOf]
      have same := List.append_cancel_left (same.trans last)
      simpa using same.symm
    -- Nothing that settles the numbering removes single messages.
    have after : settles <+: earlier := by
      obtain part | part := List.prefix_or_prefix_of_prefix (⟨[deed] ++ later, by
        rw [← whole, List.append_assoc]⟩ : earlier <+: settles ++ deals)
        (List.prefix_append settles deals)
      · obtain ⟨others, rfl⟩ := part
        cases others with
        | nil => simp
        | cons other others =>
          rw [List.append_assoc, List.append_assoc] at whole
          obtain ⟨rfl, _⟩ := List.cons.inj (List.append_cancel_left whole)
          have work := idle deed (by simp)
          rw [acts] at work
          cases work
      · exact part
    obtain ⟨earlier, rfl⟩ := after
    rw [List.append_assoc, List.append_assoc] at whole
    refine ⟨earlier, deed, later, (List.append_cancel_left whole).symm, ?_, (held _ _).1 absent⟩
    rwa [acts]
  · rintro ⟨earlier, deed, later, rfl, removes, absent⟩
    obtain ⟨ids, acts, member⟩ := Act.eq_of_removes removes
    refine ⟨runEntries folder made (settles ++ earlier), ids, entriesOf folder later, ?_, member,
      (held _ _).2 absent⟩
    simp [runEntries, entriesOf, acts]

/-- The events of a run name what its calls remove, in order.  Where no UID is listed twice, a message
is removed in vain if and only if it is told to be removed twice; this befalls no message but those
that are gone for two reasons, and all of these if the run does not fail. -/
theorem run_removals {ρ : Type} {sides : Sides Journaled ρ}
    (faithful : Journaled.watch.Faithful sides.store) (folder : String) (settings : PassSettings)
    (memory : Memory) (calls : Nat) (server : ρ)
    (distinct : ((listedIn (serverCalls sides folder settings ⟨memory, calls, []⟩ server)).map
      Listed.uid).Nodup) :
    let store : Journaled := ⟨memory, calls, []⟩
    let ended := run sides folder settings store server
    removedIn (events ended) = ended.store.entries.flatMap Entry.removedIds ∧ ∀ id,
      let times := (removedIn (events ended)).count id
      let twofold := GoneTwice settings (recentIn sides folder settings store server)
        ((settledStore sides folder store server).memory.copy folder) id
      times ≤ 2 ∧ (RemovesInVain folder memory ended.store.entries id ↔ times = 2) ∧
        (times = 2 → twofold) ∧
        ((∀ event ∈ events ended, event.isFailure = false) → twofold → times = 2) := by
  intro store ended
  obtain ⟨made, opened, settles, deals, result, begins, settled, went, dealt⟩ :=
    run_staged faithful ⟨0, fun _ _ _ => [], fun _ _ => []⟩ settings store server
  have apart := pairwise_recentIn distinct
  obtain ⟨body, part, all⟩ := dealt.planned apart
  have entries : ended.store.entries = runEntries folder made (settles ++ deals) :=
    went.entries rfl
  have copied : replay (memory.copy folder) settles =
      (settledStore sides folder store server).memory.copy folder := by
    have copied := congrArg (Memory.copy · folder) settled
    exact (copied.trans (copy_runEntries memory made settles)).symm
  have idle : ∀ deed ∈ settles, deed.act.isMessageWork = false := fun _ did =>
    not_messageWork_settling begins did
  have removed : removedIn (events ended) = deals.flatMap fun deed => deed.act.removedIds := by
    rw [← removedIn_messageEvents, messageEvents_dealt went begins dealt.honest]
    exact removedIn_toldBy dealt.dealing
  have silent : (settles.flatMap fun deed => deed.act.removedIds) = [] :=
    List.flatMap_eq_nil_iff.2 fun deed did => Act.removedIds_of_not_messageWork (idle deed did)
  refine ⟨?_, fun id => ?_⟩
  · rw [removed, entries, removedIds_runEntries, List.flatMap_append, silent, List.nil_append]
  have times : (removedIn (events ended)).count id = removals id deals := by
    rw [removed, count_removedIds fun deed did => nodup_removedIds (part.subset did)]
  obtain ⟨most, twofold, twice⟩ := removals_start apart part id
  have vain : RemovesInVain folder memory ended.store.entries id ↔ 1 < removals id deals := by
    rw [entries, removesInVain_runEntries idle copied]
    exact vain_iff apart part id
  dsimp only
  rw [times, vain]
  exact ⟨most, by omega, twofold, fun unfailed => twice (all (went.completed unfailed))⟩

/-- A mailbox with a message that is marked for removal and has no date. -/
def markedPosted : Mailbox :=
  Mailbox.empty.put ⟨⟨1, .ofList [Flag.deleted], none, none⟩, []⟩

/-- A store that knows a message of 3 January 2022. -/
def mondayKnown : Memory :=
  Memory.empty.replay
    [.inFolder "INBOX" (.save ⟨"1", ∅, .full, some ⟨1641211200, 0⟩, none, "", "", none⟩)]

/-- The message is removed twice, the second time in vain. -/
theorem run_removals_marked :
    let sides : Sides Journaled Mailbox := ⟨Journaled.handler fun _ => none, Mailbox.server⟩
    let ended := run sides "INBOX" sinceWednesday ⟨mondayKnown, 0, []⟩ markedPosted
    ((listedIn (serverCalls sides "INBOX" sinceWednesday ⟨mondayKnown, 0, []⟩ markedPosted)).map
        Listed.uid).Nodup ∧
      (∀ event ∈ events ended, event.isFailure = false) ∧
      removedIn (events ended) = ["1", "1"] ∧
      RemovesInVain "INBOX" mondayKnown ended.store.entries "1" := by
  intro sides ended
  have distinct : ((listedIn (serverCalls sides "INBOX" sinceWednesday ⟨mondayKnown, 0, []⟩
      markedPosted)).map Listed.uid).Nodup := by
    decide +kernel
  have unfailed : ∀ event ∈ events ended, event.isFailure = false := by
    decide +kernel
  have told : removedIn (events ended) = ["1", "1"] := by
    decide +kernel
  have vain := ((run_removals (Journaled.faithful_handler fun _ => none) "INBOX" sinceWednesday
    mondayKnown 0 markedPosted distinct).2 "1").2.1
  refine ⟨distinct, unfailed, told, vain.2 ?_⟩
  rw [told]
  rfl

end Runs

end Pass

end Reconcile

end MailReplica
