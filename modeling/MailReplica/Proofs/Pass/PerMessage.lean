import MailReplica.Proofs.Flag
import MailReplica.Proofs.Pass.Plan
import Mathlib.Data.List.Basic
import Mathlib.Data.List.Pairwise
import Std.Data.String.ToNat

/-! # What a plan does to one message

What deeds make of a message depends on those deeds alone that touch it (`getElem?_replay`).  If a
listing names no UID twice, then few deeds of a plan do: the theorems `about_work` list them, for
messages that are listed or not and known or not.
-/

namespace MailReplica

theorem Listed.uid_eq_of_id_eq {left right : Listed} (same : left.id = right.id) :
    left.uid = right.uid :=
  UInt32.toNat.inj (Nat.repr_injective same)

theorem Listed.pairwise_id {listed : List Listed} (distinct : (listed.map Listed.uid).Nodup) :
    listed.Pairwise fun left right => left.id ≠ right.id := by
  refine (List.pairwise_map.1 distinct).imp ?_
  intro left right apart same
  exact apart (uid_eq_of_id_eq same)

namespace Store

def Act.touches (id : String) : Act → Bool
  | save record => record.id = id
  | setFlags ids _ => ids.contains id
  | remove ids => ids.contains id
  | removeAll => true
  | look | readNumber _ | setNumber _ _ => false

theorem Act.onRecord_of_not_touches {act : Act} {id : String} (apart : act.touches id = false)
    (record? : Option MessageRecord) : act.onRecord id record? = record? := by
  cases act <;> simp_all [touches, onRecord]

/-- Whether an act reads or changes messages, short of removing all of them. -/
def Act.isMessageWork : Act → Bool
  | look | save _ | setFlags _ _ | remove _ => true
  | removeAll | readNumber _ | setNumber _ _ => false

theorem Act.numbers_on {act : Act} (work : act.isMessageWork = true) (copy : Copy) :
    (act.on copy).numbers = copy.numbers := by
  cases act <;> first | rfl | simp [isMessageWork] at work

/-- Whether an act at most removes messages. -/
def Act.onlyRemoves : Act → Bool
  | look | readNumber _ | remove _ | removeAll | setNumber _ _ => true
  | save _ | setFlags _ _ => false

theorem Act.eq_of_onRecord {act : Act} (removes : act.onlyRemoves = true) {id : String}
    {record? : Option MessageRecord} {record : MessageRecord}
    (found : act.onRecord id record? = some record) : record? = some record := by
  cases act <;> simp_all [onlyRemoves, onRecord]

end Store

namespace Reconcile

open Store (Act Copy FolderState)

/-! ## Deeds about one message -/

def about (id : String) (deeds : List Deed) : List Deed :=
  deeds.filter fun deed => deed.act.touches id

def recordAfter (id : String) (record? : Option MessageRecord) (deeds : List Deed) :
    Option MessageRecord :=
  deeds.foldl (fun record? deed => deed.act.onRecord id record?) record?

theorem about_append (id : String) (first second : List Deed) :
    about id (first ++ second) = about id first ++ about id second :=
  List.filter_append first second

theorem recordAfter_append (id : String) (record? : Option MessageRecord)
    (first second : List Deed) :
    recordAfter id record? (first ++ second) =
      recordAfter id (recordAfter id record? first) second :=
  List.foldl_append

theorem replay_append (copy : Copy) (first second : List Deed) :
    replay copy (first ++ second) = replay (replay copy first) second :=
  List.foldl_append

theorem prefix_append_cases {deeds first second : List Deed} (some : deeds <+: first ++ second) :
    deeds <+: first ∨ ∃ rest, rest <+: second ∧ deeds = first ++ rest := by
  obtain part | ⟨rest, rfl⟩ := List.prefix_or_prefix_of_prefix some (List.prefix_append first second)
  · exact .inl part
  · exact .inr ⟨rest, (List.prefix_append_right_inj first).1 some, rfl⟩

theorem eq_nil_or_eq_of_start {first second : List Deed} (part : first <+: second)
    (few : second.length ≤ 1) : first = [] ∨ first = second := by
  cases first with
  | nil => exact .inl rfl
  | cons deed rest =>
    refine .inr (part.eq_of_length ?_)
    have short := part.length_le
    simp only [List.length_cons] at short ⊢
    omega

theorem getElem?_replay (copy : Copy) (deeds : List Deed) (id : String) :
    (replay copy deeds).messages[id]? = recordAfter id copy.messages[id]? (about id deeds) := by
  induction deeds generalizing copy with
  | nil => rfl
  | cons deed deeds ih =>
    calc (replay copy (deed :: deeds)).messages[id]?
        = recordAfter id (deed.act.on copy).messages[id]? (about id deeds) := ih _
      _ = recordAfter id (deed.act.onRecord id copy.messages[id]?) (about id deeds) := by
          rw [Act.getElem?_on]
      _ = recordAfter id copy.messages[id]? (about id (deed :: deeds)) := by
          unfold about
          cases touched : deed.act.touches id with
          | true => rw [List.filter_cons, if_pos touched]; rfl
          | false =>
            rw [List.filter_cons, if_neg (by simp [touched]), Act.onRecord_of_not_touches touched]

theorem numbers_replay {deeds : List Deed} (work : ∀ deed ∈ deeds, deed.act.isMessageWork = true)
    (copy : Copy) : (replay copy deeds).numbers = copy.numbers := by
  induction deeds generalizing copy with
  | nil => rfl
  | cons deed deeds ih =>
    rw [List.forall_mem_cons] at work
    exact (ih work.2 _).trans (Act.numbers_on work.1 copy)

theorem getElem?_of_replay {deeds : List Deed}
    (removes : ∀ deed ∈ deeds, deed.act.onlyRemoves = true) {copy : Copy} {id : String}
    {record : MessageRecord} (found : (replay copy deeds).messages[id]? = some record) :
    copy.messages[id]? = some record := by
  induction deeds generalizing copy with
  | nil => exact found
  | cons deed deeds ih =>
    rw [List.forall_mem_cons] at removes
    have before := ih removes.2 found
    rw [Act.getElem?_on] at before
    exact Act.eq_of_onRecord removes.1 before

section Own

variable {listed : List Listed} {deedsOf : Listed → List Deed}

theorem about_flatMap_of_not_mem
    (own : ∀ message id, ∀ deed ∈ deedsOf message, deed.act.touches id = true → message.id = id)
    {id : String} (absent : ∀ message ∈ listed, message.id ≠ id) :
    about id (listed.flatMap deedsOf) = [] := by
  unfold about
  rw [List.filter_eq_nil_iff]
  intro deed member touched
  obtain ⟨message, isListed, did⟩ := List.mem_flatMap.1 member
  exact absent message isListed (own message id deed did touched)

theorem about_flatMap_of_mem
    (own : ∀ message id, ∀ deed ∈ deedsOf message, deed.act.touches id = true → message.id = id)
    (distinct : listed.Pairwise fun left right => left.id ≠ right.id) {message : Listed}
    (member : message ∈ listed) :
    about message.id (listed.flatMap deedsOf) = about message.id (deedsOf message) := by
  induction listed with
  | nil => cases member
  | cons first rest ih =>
    obtain ⟨apart, distinct⟩ := List.pairwise_cons.1 distinct
    rw [List.flatMap_cons, about_append]
    cases member with
    | head =>
      have others := about_flatMap_of_not_mem own fun other isListed => (apart other isListed).symm
      rw [others, List.append_nil]
    | tail _ member =>
      have first_apart : about message.id (deedsOf first) = [] := by
        unfold about
        rw [List.filter_eq_nil_iff]
        intro deed did touched
        exact apart message member (own first message.id deed did touched)
      rw [first_apart, List.nil_append, ih distinct member]

end Own

/-! ## The messages of a plan -/

theorem contains_datesOf (copy : Copy) (id : String) :
    (datesOf copy).contains id = copy.messages[id]?.isSome := by
  rw [datesOf, Std.ExtTreeMap.contains_map, Std.ExtTreeMap.contains_eq_isSome_getElem?]

def predates (settings : PassSettings) (date : Option Instant) : Bool :=
  match settings.cutoff, date with
  | some cutoff, some date => date.before cutoff.instant
  | _, _ => false

theorem isGone_eq (settings : PassSettings) (ids : List String) (id : String)
    (date : Option Instant) :
    Pass.isGone settings ids id date = (predates settings date || !ids.contains id) := rfl

theorem mem_vanished {settings : PassSettings} {ids : List String} {copy : Copy} {id : String} :
    id ∈ Pass.vanished settings ids (datesOf copy) ↔
      ∃ record, copy.messages[id]? = some record ∧
        (predates settings record.date = true ∨ id ∉ ids) := by
  simp only [Pass.vanished, List.mem_mergeSort, List.mem_map, List.mem_filter, Prod.exists,
    Std.ExtTreeMap.mem_toList_iff_getElem?_eq_some, datesOf, Std.ExtTreeMap.getElem?_map,
    Option.map_eq_some_iff, isGone_eq]
  constructor
  · rintro ⟨_, _, ⟨⟨record, found, rfl⟩, gone⟩, rfl⟩
    refine ⟨record, found, ?_⟩
    simpa using gone
  · rintro ⟨record, found, gone⟩
    refine ⟨id, record.date, ⟨⟨record, found, rfl⟩, ?_⟩, rfl⟩
    simpa using gone

theorem nodup_vanished (settings : PassSettings) (ids : List String) (copy : Copy) :
    (Pass.vanished settings ids (datesOf copy)).Nodup := by
  unfold Pass.vanished
  rw [(List.mergeSort_perm _ _).nodup_iff]
  apply List.Pairwise.map Prod.fst ?_ (Std.ExtTreeMap.distinct_keys_toList.filter _)
  rintro left right apart same
  exact apart (Std.LawfulEqCmp.compare_eq_iff_eq.2 same)

namespace Plan

variable (folder : String) (settings : PassSettings)

def departure (listed : List Listed) (copy : Copy) : Deed :=
  let ids := Pass.vanished settings (listed.map Listed.id) (datesOf copy)
  ⟨.remove ids, ids.map (.removed folder)⟩

def updating (listed : List Listed) (copy : Copy) : List Deed :=
  (listed.filter fun message => (datesOf copy).contains message.id).flatMap fun message =>
    update folder settings message copy.messages[message.id]?

/-- Saves the messages that a copy lacks, when `body` gives the octets of messages. -/
def saving (listed : List Listed) (body : Listed → Octets) (copy : Copy) : List Deed :=
  (Pass.newMessages (datesOf copy) listed).flatMap fun message =>
    [save folder settings copy.state message (body message)]

def work (listed : List Listed) (body : Listed → Octets) (copy : Copy) : List Deed :=
  updating folder settings listed copy ++
    (saving folder settings listed body copy ++ clean folder settings listed (datesOf copy))

variable {folder settings}

theorem update_some (message : Listed) (record : MessageRecord) :
    update folder settings message (some record) =
      if (message.isDeleted && settings.removeVanished) = true then
        [⟨.remove [message.id], [.removed folder message.id]⟩]
      else ⟨.look, []⟩ :: reflag folder settings message record.flags := rfl

theorem mem_update {message : Listed} {record? : Option MessageRecord} {deed : Deed}
    (did : deed ∈ update folder settings message record?) :
    deed = ⟨.remove [message.id], [.removed folder message.id]⟩ ∨ deed = ⟨.look, []⟩ ∨
      ∃ flags, deed = ⟨.setFlags [message.id] flags, [.flagsUpdated folder message.id]⟩ := by
  unfold update reflag at did
  split at did
  · exact .inl (List.mem_singleton.1 did)
  obtain did | did := List.mem_cons.1 did
  · exact .inr (.inl did)
  split at did
  · cases did
  · exact .inr (.inr ⟨_, List.mem_singleton.1 did⟩)

theorem update_own {message : Listed} {record? : Option MessageRecord} {id : String}
    {deed : Deed} (did : deed ∈ update folder settings message record?)
    (touched : deed.act.touches id = true) : message.id = id := by
  obtain rfl | rfl | ⟨flags, rfl⟩ := mem_update did
  · simpa [Act.touches, eq_comm] using touched
  · cases touched
  · simpa [Act.touches, eq_comm] using touched

theorem save_own {state : FolderState} {message : Listed} {raw : Octets} {id : String}
    {deed : Deed} (did : deed ∈ [save folder settings state message raw])
    (touched : deed.act.touches id = true) : message.id = id := by
  rw [List.mem_singleton] at did
  subst did
  simpa [Act.touches, save, MessageRecord.ofDownload] using touched

/-- If ids are distinct, then bringing one record in line does not change what is to be done with the
next one. -/
theorem updates_eq_flatMap {listed : List Listed}
    (distinct : listed.Pairwise fun left right => left.id ≠ right.id) (copy : Copy) :
    updates folder settings listed copy =
      listed.flatMap fun message => update folder settings message copy.messages[message.id]? := by
  induction listed generalizing copy with
  | nil => rfl
  | cons first rest ih =>
    obtain ⟨apart, distinct⟩ := List.pairwise_cons.1 distinct
    -- The induction speaks of the copy after the first update, where the other records are the same.
    rw [updates, List.flatMap_cons, ih distinct]
    congr 1
    refine List.flatMap_congr fun message isListed => ?_
    have untouched : about message.id
        (update folder settings first copy.messages[first.id]?) = [] := by
      unfold about
      rw [List.filter_eq_nil_iff]
      intro deed did touched
      exact apart message isListed (update_own did touched)
    rw [getElem?_replay, untouched]
    rfl

theorem clean_eq (listed : List Listed) (copy : Copy) :
    clean folder settings listed (datesOf copy) =
      if settings.removeVanished = true ∧
          Pass.vanished settings (listed.map Listed.id) (datesOf copy) ≠ [] then
        [departure folder settings listed copy]
      else [] := by
  unfold clean removal departure
  grind

theorem mem_clean {listed : List Listed} {copy : Copy} {deed : Deed}
    (did : deed ∈ clean folder settings listed (datesOf copy)) :
    deed = departure folder settings listed copy := by
  rw [clean_eq] at did
  split at did
  · exact List.mem_singleton.1 did
  · cases did

theorem about_clean (listed : List Listed) (copy : Copy) (id : String) :
    about id (clean folder settings listed (datesOf copy)) =
      if settings.removeVanished = true ∧
          id ∈ Pass.vanished settings (listed.map Listed.id) (datesOf copy) then
        [departure folder settings listed copy]
      else [] := by
  rw [clean_eq]
  have touches : (departure folder settings listed copy).act.touches id =
      decide (id ∈ Pass.vanished settings (listed.map Listed.id) (datesOf copy)) :=
    List.contains_eq_mem id _
  by_cases gone : id ∈ Pass.vanished settings (listed.map Listed.id) (datesOf copy)
  · have some_gone : Pass.vanished settings (listed.map Listed.id) (datesOf copy) ≠ [] :=
      List.ne_nil_of_mem gone
    by_cases removes : settings.removeVanished = true
    · rw [if_pos ⟨removes, some_gone⟩, if_pos ⟨removes, gone⟩]
      simp [about, touches, gone]
    · simp [removes, about]
  · have spared : ¬(settings.removeVanished = true ∧
        id ∈ Pass.vanished settings (listed.map Listed.id) (datesOf copy)) := fun both => gone both.2
    rw [if_neg spared]
    split
    · simp [about, touches, gone]
    · rfl

theorem reconcile_eq {listed : List Listed}
    (distinct : listed.Pairwise fun left right => left.id ≠ right.id) (body : Listed → Octets)
    (copy : Copy) :
    reconcile folder settings listed ((Pass.newMessages (datesOf copy) listed).map body) copy =
      work folder settings listed body copy ++ raise copy.state listed := by
  unfold reconcile work updating saving saves
  dsimp only
  rw [updates_eq_flatMap (distinct.filter _), List.zipWith_map_right, List.zipWith_self,
    ← List.map_eq_flatMap]
  simp only [List.append_assoc]

/-- What is done about a message depends on whether a listing names it. -/
theorem listed_or_absent (listed : List Listed) (id : String) :
    (∃ message ∈ listed, message.id = id) ∨ ∀ message ∈ listed, message.id ≠ id := by
  by_cases isListed : ∃ message ∈ listed, message.id = id
  · exact .inl isListed
  · exact .inr fun message member same => isListed ⟨message, member, same⟩

section Cases

variable {listed : List Listed} (body : Listed → Octets) {copy : Copy}

theorem about_work (id : String) :
    about id (work folder settings listed body copy) =
      about id (updating folder settings listed copy) ++
        (about id (saving folder settings listed body copy) ++
          about id (clean folder settings listed (datesOf copy))) := by
  rw [work, about_append, about_append]

theorem mem_newMessages {message : Listed} :
    message ∈ Pass.newMessages (datesOf copy) listed ↔
      message ∈ listed ∧ copy.messages[message.id]? = none ∧ message.isDeleted = false := by
  simp only [Pass.newMessages, Pass.isNew, List.mem_mergeSort, List.mem_filter, contains_datesOf,
    Bool.and_eq_true, Bool.not_eq_true', Option.isSome_eq_false_iff, Option.isNone_iff_eq_none]

theorem mem_known {message : Listed} :
    (message ∈ listed.filter fun message => (datesOf copy).contains message.id) ↔
      message ∈ listed ∧ ∃ record, copy.messages[message.id]? = some record := by
  rw [List.mem_filter, contains_datesOf, Option.isSome_iff_exists]

theorem pairwise_newMessages (distinct : listed.Pairwise fun left right => left.id ≠ right.id) :
    (Pass.newMessages (datesOf copy) listed).Pairwise fun left right => left.id ≠ right.id := by
  unfold Pass.newMessages
  rw [(List.mergeSort_perm _ _).pairwise_iff Ne.symm]
  exact distinct.filter _

theorem eq_of_id_eq (distinct : listed.Pairwise fun left right => left.id ≠ right.id)
    {left right : Listed} (isLeft : left ∈ listed) (isRight : right ∈ listed)
    (same : left.id = right.id) : left = right := by
  have symmetric : Std.Symm fun left right : Listed => left.id ≠ right.id :=
    ⟨fun _ _ apart => apart.symm⟩
  by_contra different
  exact distinct.forall isLeft isRight different same

/-- What a plan does with a message that is known and listed. -/
theorem about_work_known (distinct : listed.Pairwise fun left right => left.id ≠ right.id)
    {message : Listed} (member : message ∈ listed) {record : MessageRecord}
    (known : copy.messages[message.id]? = some record) :
    about message.id (work folder settings listed body copy) =
      about message.id (update folder settings message (some record)) ++
        if settings.removeVanished = true ∧ predates settings record.date = true then
          [departure folder settings listed copy]
        else [] := by
  have updated : about message.id (updating folder settings listed copy) =
      about message.id (update folder settings message copy.messages[message.id]?) :=
    about_flatMap_of_mem (fun _ _ _ => update_own) (distinct.filter _)
      (mem_known.2 ⟨member, record, known⟩)
  have notSaved : ∀ other ∈ Pass.newMessages (datesOf copy) listed, other.id ≠ message.id := by
    intro other isNew same
    have unknown := (mem_newMessages.1 isNew).2.1
    rw [same, known] at unknown
    cases unknown
  have saved : about message.id (saving folder settings listed body copy) = [] :=
    about_flatMap_of_not_mem (fun _ _ _ => save_own) notSaved
  have gone : message.id ∈ Pass.vanished settings (listed.map Listed.id) (datesOf copy) ↔
      predates settings record.date = true := by
    have named : message.id ∈ listed.map Listed.id := List.mem_map_of_mem member
    simp [mem_vanished, known, named]
  rw [about_work, updated, saved, known, about_clean, List.nil_append]
  simp only [gone]

/-- What a plan does with a message that is listed and not known. -/
theorem about_work_new (distinct : listed.Pairwise fun left right => left.id ≠ right.id)
    {message : Listed} (member : message ∈ listed)
    (unknown : copy.messages[message.id]? = none) :
    about message.id (work folder settings listed body copy) =
      if message.isDeleted = true then []
      else [save folder settings copy.state message (body message)] := by
  have notKnown : ∀ other ∈ listed.filter fun message => (datesOf copy).contains message.id,
      other.id ≠ message.id := by
    intro other isKnown same
    obtain ⟨_, record, known⟩ := mem_known.1 isKnown
    rw [same, unknown] at known
    cases known
  have updated : about message.id (updating folder settings listed copy) = [] :=
    about_flatMap_of_not_mem (fun _ _ _ => update_own) notKnown
  have notGone : message.id ∉ Pass.vanished settings (listed.map Listed.id) (datesOf copy) := by
    simp [mem_vanished, unknown]
  rw [about_work, updated, about_clean, if_neg fun both => notGone both.2, List.nil_append,
    List.append_nil]
  by_cases deleted : message.isDeleted = true
  · rw [if_pos deleted]
    apply about_flatMap_of_not_mem fun _ _ _ => save_own
    intro other isNew same
    obtain ⟨isListed, _, live⟩ := mem_newMessages.1 isNew
    obtain rfl := eq_of_id_eq distinct isListed member same
    rw [deleted] at live
    cases live
  · rw [if_neg deleted]
    have saved : about message.id (saving folder settings listed body copy) =
        about message.id [save folder settings copy.state message (body message)] :=
      about_flatMap_of_mem (fun _ _ _ => save_own) (pairwise_newMessages distinct)
        (mem_newMessages.2 ⟨member, unknown, by simpa using deleted⟩)
    rw [saved]
    simp [about, Act.touches, save, MessageRecord.ofDownload]

/-- What a plan does with a message that is not listed. -/
theorem about_work_unlisted {id : String} (absent : ∀ message ∈ listed, message.id ≠ id) :
    about id (work folder settings listed body copy) =
      if settings.removeVanished = true ∧ (copy.messages[id]?).isSome = true then
        [departure folder settings listed copy]
      else [] := by
  have updated : about id (updating folder settings listed copy) = [] :=
    about_flatMap_of_not_mem (fun _ _ _ => update_own) fun message isKnown =>
      absent message (mem_known.1 isKnown).1
  have saved : about id (saving folder settings listed body copy) = [] :=
    about_flatMap_of_not_mem (fun _ _ _ => save_own) fun message isNew =>
      absent message (mem_newMessages.1 isNew).1
  have gone : id ∈ Pass.vanished settings (listed.map Listed.id) (datesOf copy) ↔
      (copy.messages[id]?).isSome = true := by
    have unnamed : id ∉ listed.map Listed.id := by simpa using absent
    simp only [mem_vanished, unnamed, not_false_eq_true, or_true, and_true,
      Option.isSome_iff_exists]
  rw [about_work, updated, saved, about_clean, List.nil_append, List.nil_append]
  simp only [gone]

end Cases

end Plan

end Reconcile

end MailReplica
