import MailReplica.Proofs.Pass.Falter
import MailReplica.Proofs.Pass.Ledger

/-! # What a run that is cut short leaves behind

A run can stop between any two of its calls.  What it has done to a message by then is all that the
run was to do to it, or nothing, or the one step in between: the tracked flags were copied to a
record that was to be removed (`fate_of_start`).  The highest UID known is written last, so it tells
of no message that was not saved; and no other folder is touched (`run_contained`).
-/

namespace MailReplica

namespace Store

/-! ## Other folders -/

theorem Memory.folders_write (store : Memory) {place other : String} (apart : place ≠ other)
    (change : MemoryFolder → MemoryFolder) :
    (store.write place change).folders[other]? = store.folders[other]? := by
  simp only [write, Std.ExtTreeMap.getElem?_alter, Std.LawfulEqCmp.compare_eq_iff_eq, if_neg apart]

theorem Memory.folders_update (store : Memory) {place other : String} (apart : place ≠ other)
    (change : MemoryFolder → MemoryFolder) :
    (store.update place change).folders[other]? = store.folders[other]? := by
  simp only [update, Std.ExtTreeMap.getElem?_modify, Std.LawfulEqCmp.compare_eq_iff_eq, if_neg apart]

theorem Memory.folders_create (store : Memory) {place other : String} (apart : place ≠ other) :
    ((Entry.create [⟨place, place⟩]).apply store).folders[other]? = store.folders[other]? := by
  change (store.folders.insertIfNew place (.empty place))[other]? = _
  rw [Std.ExtTreeMap.getElem?_insertIfNew]
  exact if_neg fun both => apart (Std.LawfulEqCmp.eq_of_compare both.1)

/-- An entry about a folder leaves every other folder as it is. -/
theorem Entry.folders_apply (store : Memory) {place other : String} (apart : place ≠ other)
    (act : Act) :
    ((inFolder place act).apply store).folders[other]? = store.folders[other]? := by
  cases act with
  | look => rfl
  | readNumber key => rfl
  | save record => exact Memory.folders_write store apart _
  | setFlags ids flags => exact Memory.folders_update store apart _
  | remove ids => exact Memory.folders_update store apart _
  | removeAll => exact Memory.folders_update store apart _
  | setNumber key value => exact Memory.folders_write store apart _

end Store

namespace Reconcile

open Store (Act Copy Entry FolderState Journaled Memory)

theorem folders_entriesOf {folder other : String} (apart : folder ≠ other) (deeds : List Deed)
    (memory : Memory) :
    (memory.replay (entriesOf folder deeds)).folders[other]? = memory.folders[other]? := by
  induction deeds generalizing memory with
  | nil => rfl
  | cons deed deeds ih =>
    exact (ih ((Entry.inFolder folder deed.act).apply memory)).trans
      (Entry.folders_apply memory apart deed.act)

theorem folders_runEntries {folder other : String} (apart : folder ≠ other) (made : Bool)
    (deeds : List Deed) (memory : Memory) :
    (memory.replay (runEntries folder made deeds)).folders[other]? = memory.folders[other]? := by
  cases made with
  | false => exact folders_entriesOf apart deeds memory
  | true =>
    exact (folders_entriesOf apart deeds ((Pass.making folder).apply memory)).trans
      (memory.folders_create apart)

/-! ## Messages -/

/-- What may have become of the message `id` in a run that was cut short, where `settled` is the
copy with its numbering settled and `whole` is what a run leaves that is not. -/
inductive Fate (settings : PassSettings) (listed : List Listed) (settled whole : Copy)
    (id : String) : Option MessageRecord → Prop where
  | untouched : Fate settings listed settled whole id settled.messages[id]?
  | reflagged {message : Listed} {record : MessageRecord} (member : message ∈ listed)
      (named : message.id = id) (known : settled.messages[id]? = some record) :
    Fate settings listed settled whole id
      (some { record with
        flags := record.flags.replaceTracked message.flags settings.trackedFlags })
  | completed : Fate settings listed settled whole id whole.messages[id]?

namespace Pass

section Plans

variable {folder : String} {settings : PassSettings} {listed : List Listed}
  {body body' : Listed → Octets} {copy : Copy} {deals : List Deed}

/-- A plan leaves each message as `target` says. -/
theorem getElem?_planned (distinct : listed.Pairwise fun left right => left.id ≠ right.id)
    (body : Listed → Octets) (id : String) :
    (replay copy (planned folder settings listed body copy)).messages[id]? =
      target settings listed body id copy.messages[id]? := by
  have work : replay copy (planned folder settings listed body copy) =
      replay (replay copy (Plan.work folder settings listed body copy))
        (Plan.raise copy.state listed) := replay_append copy _ _
  rw [work, replay_raise]
  exact getElem?_work distinct id

/-- Bringing a record in line takes one deed at most. -/
theorem length_about_update (message : Listed) (record : MessageRecord) :
    (about message.id (Plan.update folder settings message (some record))).length ≤ 1 := by
  rw [Plan.update_some, Plan.reflag]
  split
  · simp [about, Act.touches]
  · split <;> simp [about, Act.touches]

/-- The first so many deeds about a message that is known and listed are all of them, or bring its
record in line, or are none. -/
theorem about_start_known (distinct : listed.Pairwise fun left right => left.id ≠ right.id)
    (begins : deals <+: planned folder settings listed body copy) {message : Listed}
    (member : message ∈ listed) {record : MessageRecord}
    (known : copy.messages[message.id]? = some record) :
    about message.id deals = [] ∨
      about message.id deals =
        about message.id (Plan.update folder settings message (some record)) ∨
      about message.id deals = about message.id (planned folder settings listed body copy) := by
  have part : about message.id deals <+:
      about message.id (planned folder settings listed body copy) := begins.filter _
  rw [about_planned, Plan.about_work_known body distinct member known] at part ⊢
  obtain updating | ⟨rest, departing, whole⟩ := prefix_append_cases part
  · obtain none | all := eq_nil_or_eq_of_start updating (length_about_update message record)
    · exact .inl none
    · exact .inr (.inl all)
  · have few : (if settings.removeVanished = true ∧ predates settings record.date = true then
        [Plan.departure folder settings listed copy] else []).length ≤ 1 := by
      split <;> simp
    obtain rfl | rfl := eq_nil_or_eq_of_start departing few
    · exact .inr (.inl (whole.trans (List.append_nil _)))
    · exact .inr (.inr whole)

/-- Wherever a plan is cut short, a message is as it was, or as the plan leaves it, or has its
tracked flags replaced.  What the two plans download is the same as far as it was saved. -/
theorem fate_of_start (distinct : listed.Pairwise fun left right => left.id ≠ right.id)
    (begins : deals <+: planned folder settings listed body copy)
    (saved : ∀ deed ∈ deals, ∀ record, deed.act = .save record →
      ∃ deed' ∈ planned folder settings listed body' copy, deed'.act = .save record) (id : String) :
    Fate settings listed copy (replay copy (planned folder settings listed body' copy)) id
      (replay copy deals).messages[id]? := by
  have untouched (none : about id deals = []) :
      Fate settings listed copy (replay copy (planned folder settings listed body' copy)) id
        (replay copy deals).messages[id]? := by
    rw [getElem?_untouched none]
    exact .untouched
  have completed (all : about id deals = about id (planned folder settings listed body' copy)) :
      Fate settings listed copy (replay copy (planned folder settings listed body' copy)) id
        (replay copy deals).messages[id]? := by
    rw [getElem?_replay, all, ← getElem?_replay]
    exact .completed
  have part : about id deals <+: about id (planned folder settings listed body copy) :=
    begins.filter _
  -- At most two deeds are about one message, and which they are depends on where it is known.
  obtain ⟨message, member, rfl⟩ | absent := Plan.listed_or_absent listed id
  · cases known : copy.messages[message.id]? with
    | none =>
      rw [about_planned, Plan.about_work_new body distinct member known] at part
      rw [about_planned, Plan.about_work_new body' distinct member known] at completed
      split at part
      case isTrue => exact untouched (List.prefix_nil.1 part)
      next live =>
      rw [if_neg live] at completed
      obtain none | saves := eq_nil_or_eq_of_start part Nat.le.refl
      · exact untouched none
      -- The message was saved, so the other plan saves the same record.
      refine completed (saves.trans ?_)
      have did : Plan.save folder settings copy.state message (body message) ∈ deals :=
        List.mem_of_mem_filter (saves ▸ List.mem_singleton_self _)
      obtain ⟨deed', did', same⟩ := saved _ did _ rfl
      have only : deed' ∈ about message.id (planned folder settings listed body' copy) :=
        List.mem_filter.2 ⟨did', by rw [same]; exact decide_eq_true rfl⟩
      rw [about_planned, Plan.about_work_new body' distinct member known, if_neg live] at only
      obtain rfl := List.mem_singleton.1 only
      exact congrArg (fun act : Act => [(⟨act, [.newMessage folder message.id
        (message.uid.toUInt64 ≤ copy.state.highestUid)]⟩ : Deed)]) same.symm
    | some record =>
      obtain none | updated | all := about_start_known distinct begins member known
      · exact untouched none
      · have value : (replay copy deals).messages[message.id]? = _ := getElem?_replay copy deals _
        rw [updated, known, recordAfter_update] at value
        rw [value]
        split
        next removed =>
          -- A record that is to be removed can be gone before all that have vanished are.
          have gone : (replay copy (planned folder settings listed body' copy)).messages[message.id]? =
              none := by
            rw [getElem?_planned distinct, known, target_listed distinct member, Option.elim_some]
            exact if_pos ⟨removed.1, .inl removed.2⟩
          rw [← gone]
          exact .completed
        next => exact .reflagged member rfl known
      · rw [about_planned, Plan.about_work_known body distinct member known] at all
        rw [about_planned, Plan.about_work_known body' distinct member known] at completed
        exact completed all
  · rw [about_planned, Plan.about_work_unlisted body absent] at part
    rw [about_planned, Plan.about_work_unlisted body' absent] at completed
    refine (eq_nil_or_eq_of_start part ?_).elim untouched completed
    split <;> simp

/-- A plan that is cut short has not written any number, or has saved all messages that it was to
save. -/
theorem saved_of_raised (begins : deals <+: planned folder settings listed body copy)
    (raised : (replay copy deals).numbers ≠ copy.numbers) {message : Listed}
    (isNew : message ∈ newMessages (datesOf copy) listed) :
    Plan.save folder settings copy.state message (body message) ∈ deals := by
  rw [planned, ← List.cons_append] at begins
  obtain working | ⟨rest, _, rfl⟩ := prefix_append_cases begins
  · refine absurd (numbers_replay (fun deed did => ?_) copy) raised
    obtain rfl | did := List.mem_cons.1 (working.subset did)
    · rfl
    · exact isMessageWork_of_mem_work did
  · refine List.mem_append_left _ (List.mem_cons_of_mem _ (List.mem_append_right _ ?_))
    exact List.mem_append_left _ (List.mem_flatMap.2 ⟨message, isNew, List.mem_singleton_self _⟩)

end Plans

section Runs

variable {ρ ρ' : Type} {sides : Sides Journaled ρ} {sound : Server ρ'} {seen : ρ → ρ'}
  {folder : String} {settings : PassSettings} {store : Journaled} {server : ρ}

/-- The copy of a folder when a run has settled its numbering, or has failed to. -/
def settledCopy (sides : Sides Journaled ρ) (folder : String) (store : Journaled) (server : ρ) :
    Copy :=
  (settledStore sides folder store server).memory.copy folder

def copyLeft (sides : Sides Journaled ρ) (folder : String) (settings : PassSettings)
    (store : Journaled) (server : ρ) : Copy :=
  (run sides folder settings store server).store.memory.copy folder

/-- How far a run over `folder` can go wrong that may be cut short anywhere. -/
structure Contained (sides : Sides Journaled ρ) (folder : String) (settings : PassSettings)
    (store : Journaled) (server : ρ) : Prop where
  /-- A message is as it was when the numbering was settled, or as a run leaves it in which no call
  fails, or has its tracked flags replaced. -/
  messages : ∀ {ρ' : Type} {sound : Server ρ'} {seen : ρ → ρ'},
    let whole : Sides Journaled ρ' := ⟨Journaled.handler fun _ => none, sound⟩
    Falters sides whole id seen →
    (∀ event ∈ events (run whole folder settings store (seen server)), event.isFailure = false) →
    ∀ id, Fate settings (recentIn sides folder settings store server)
      (settledCopy sides folder store server) (copyLeft whole folder settings store (seen server)) id
      (copyLeft sides folder settings store server).messages[id]?
  /-- The highest UID known is written only once every message is here that was to be saved. -/
  highest :
    (copyLeft sides folder settings store server).numbers[FolderState.highestKey]? ≠
      (settledCopy sides folder store server).numbers[FolderState.highestKey]? →
    ∀ message ∈ recentIn sides folder settings store server, message.isDeleted = false →
      (settledCopy sides folder store server).messages[message.id]? ≠ none ∨
      ∃ record, record.id = message.id ∧
        .inFolder folder (.save record) ∈ (run sides folder settings store server).store.entries
  elsewhere : ∀ other, folder ≠ other →
    (run sides folder settings store server).store.memory.folders[other]? =
      store.memory.folders[other]?

/-- A sound run hears what the other one heard, if that one got so far. -/
theorem hears_sound (faithful : Journaled.watch.Faithful sides.store)
    (falters : Falters sides ⟨Journaled.handler fun _ => none, sound⟩ id seen)
    {heard : FolderState × List Listed} {after : Progress Journaled ρ}
    (hears : hearing sides folder settings (begun folder store server) = (.ok heard, after)) :
    hearing ⟨Journaled.handler fun _ => none, sound⟩ folder settings
      (begun folder store (seen server)) = (.ok heard, mended id seen after) := by
  have inStep := (lockstep_overtaking falters (onward_entries faithful)).hearing folder settings
  have overtakes := inStep.overtakes (begun folder store server)
  obtain ⟨_, ended, hears'⟩ | ⟨_, ended, _⟩ := overtakes.of_run hears
  · cases ended
    exact hears'
  · cases ended

theorem run_contained (faithful : Journaled.watch.Faithful sides.store) (fresh : store.entries = [])
    (distinct : ((listedIn (serverCalls sides folder settings store server)).map Listed.uid).Nodup) :
    Contained sides folder settings store server := by
  obtain ⟨made, opened, settles, deals, result, begins, settled, went, dealt⟩ :=
    run_staged faithful ⟨0, fun _ _ _ => [], fun _ _ => []⟩ settings store server
  have apart := pairwise_recentIn distinct
  obtain ⟨body, part, _⟩ := dealt.planned apart
  have left : copyLeft sides folder settings store server =
      replay (settledCopy sides folder store server) deals := copy_staged settled went
  have entered {deed : Deed} (did : deed ∈ deals) : .inFolder folder deed.act ∈
      (run sides folder settings store server).store.entries := by
    rw [went.entries fresh]
    exact List.mem_append_right _ (List.mem_map.2 ⟨deed, List.mem_append_right _ did, rfl⟩)
  refine ⟨?messages, ?highest, ?elsewhere⟩
  case elsewhere =>
    intro other apart
    have memory := congrArg Memory.folders went.memory
    exact (congrArg (·[other]?) memory).trans
      (folders_runEntries apart made (settles ++ deals) store.memory)
  case highest =>
    intro raised message member live
    by_cases unknown : (settledCopy sides folder store server).messages[message.id]? = none
    · have changed : (replay (settledCopy sides folder store server) deals).numbers ≠
          (settledCopy sides folder store server).numbers := by
        intro same
        rw [left, same] at raised
        exact raised rfl
      have saved := saved_of_raised part changed (Plan.mem_newMessages.2 ⟨member, unknown, live⟩)
      exact .inr ⟨_, rfl, entered saved⟩
    · exact .inl unknown
  case messages =>
    intro ρ' sound seen whole falters unfailed id
    rw [left]
    cases dealt with
    | unheard halt => exact .untouched
    | heard hears _ _ _ =>
      have faithful' : Journaled.watch.Faithful whole.store :=
        Journaled.faithful_handler fun _ => none
      obtain ⟨made', _, settles', deals', result', begins', settled', went', dealt'⟩ :=
        run_staged faithful' ⟨0, fun _ _ _ => [], fun _ _ => []⟩ settings store (seen server)
      have left' : copyLeft whole folder settings store (seen server) =
          replay (settledCopy whole folder store (seen server)) deals' := copy_staged settled' went'
      -- Both runs meet one copy and hear one listing, so their plans differ in the octets only.
      have hears' := hears_sound faithful falters hears
      have sameListing : recentIn whole folder settings store (seen server) =
          recentIn sides folder settings store server :=
        (listedIn_serverCalls hears').trans (listedIn_serverCalls hears).symm
      have sameCopy : settledCopy whole folder store (seen server) =
          settledCopy sides folder store server := by
        unfold settledCopy
        rw [settledStore_of_hears hears, settledStore_of_hears hears']
        rfl
      obtain ⟨body', _, all⟩ := dealt'.planned (sameListing ▸ apart)
      have did : deals' = planned folder settings (recentIn sides folder settings store server) body'
          (settledCopy sides folder store server) := by
        rw [← sameListing, ← sameCopy]
        exact all (went'.completed unfailed)
      rw [left', did, sameCopy]
      refine fate_of_start apart part (fun deed done record saves => ?_) id
      have entry := (run_overtaken falters (onward_entries faithful) folder settings store
        server).subset (entered done)
      have entry' : .inFolder folder deed.act ∈ runEntries folder made' (settles' ++ deals') :=
        went'.entries fresh ▸ entry
      obtain ⟨deed', done', same⟩ := mem_runEntries entry'
      rw [saves] at same
      obtain settling | dealing := List.mem_append.1 done'
      · have idle := not_messageWork_settling begins' settling
        rw [same] at idle
        cases idle
      · exact ⟨deed', did ▸ dealing, same⟩

end Runs

/-- A server that refuses the fifth call, which is the first one that asks for a message. -/
def fifthRefused (call : Nat) : Option Failure :=
  if call = 4 then some (.sync "gone") else none

theorem run_contained_two :
    let sides : Sides Journaled (Unit × Nat) :=
      ⟨Journaled.handler fun _ => none, (twoListed.server (some 9)).failing fifthRefused⟩
    let whole : Sides Journaled Unit := ⟨Journaled.handler fun _ => none, twoListed.server (some 9)⟩
    let store : Journaled := ⟨twoKnown, 0, []⟩
    (∃ event ∈ events (run sides "INBOX" keepGone store ((), 0)), event.isFailure = true) ∧
      Contained sides "INBOX" keepGone store ((), 0) ∧
      ∀ id, Fate keepGone (recentIn sides "INBOX" keepGone store ((), 0))
        (settledCopy sides "INBOX" store ((), 0)) (copyLeft whole "INBOX" keepGone store ()) id
        (copyLeft sides "INBOX" keepGone store ((), 0)).messages[id]? := by
  intro sides whole store
  have distinct : ((listedIn (serverCalls sides "INBOX" keepGone store ((), 0))).map
      Listed.uid).Nodup := by
    decide +kernel
  have faithful : Journaled.watch.Faithful sides.store := Journaled.faithful_handler fun _ => none
  have contained : Contained sides "INBOX" keepGone store ((), 0) :=
    run_contained faithful rfl distinct
  have falters : Falters sides whole id Prod.fst := falters_failing _ fifthRefused _
  have unfailed : ∀ event ∈ events (run whole "INBOX" keepGone store ()),
      event.isFailure = false := by
    decide +kernel
  have failed : ∃ event ∈ events (run sides "INBOX" keepGone store ((), 0)),
      event.isFailure = true := by
    decide +kernel
  have fates := contained.messages falters unfailed
  exact ⟨failed, contained, fates⟩

end Pass

end Reconcile

end MailReplica
