import MailReplica.Proofs.Pass.Retry
import MailReplica.Proofs.Pass.Stages

/-! # The events of a run are a ledger of the store

Each deed of a pass tells what it does to the names in the folder, and tells it only once the store
has answered.  So the names that the folder held when its numbering was settled, and the events,
give the names that it holds in the end, wherever the pass stops (`run_ledger`).
-/

namespace MailReplica

/-- The names of the messages in a folder. -/
def Store.Memory.ids (store : Memory) (folder : String) : Std.ExtTreeSet String :=
  (answer (.ids folder) store).1

theorem Store.Memory.mem_ids (store : Memory) (folder id : String) :
    id ∈ store.ids folder ↔ id ∈ (store.copy folder).messages := by
  rw [← messages_eq_copy]
  simp [ids, answer, Std.ExtTreeSet.mem_ofList]

namespace Reconcile

open Store (Act Copy Entry FolderState Journaled Memory Watch)

/-! ## Names -/

/-- What is known of the names in a folder after an event. -/
def Event.onIds (ids : Std.ExtTreeSet String) : Event → Std.ExtTreeSet String
  | newMessage _ id _ => ids.insert id
  | removed _ id => ids.erase id
  | _ => ids

def idsAfter (ids : Std.ExtTreeSet String) (events : List Event) : Std.ExtTreeSet String :=
  events.foldl Event.onIds ids

section

variable {folder : String} {copy : Copy} {deeds : List Deed} {deed : Deed}

theorem mem_idsAfter_removed (removed : List String) (ids : Std.ExtTreeSet String) (id : String) :
    id ∈ idsAfter ids (removed.map (.removed folder)) ↔ id ∈ ids ∧ id ∉ removed := by
  induction removed generalizing ids with
  | nil => simp [idsAfter]
  | cons first rest ih =>
    change id ∈ idsAfter (ids.erase first) (rest.map (.removed folder)) ↔ _
    rw [ih, Std.ExtTreeSet.mem_erase]
    simp only [Std.LawfulEqCmp.compare_eq_iff_eq, ne_eq, List.mem_cons, not_or]
    grind

/-- A deed tells what it does to the names. -/
theorem Deed.IsDealing.ids (dealing : deed.IsDealing folder) {ids : Std.ExtTreeSet String}
    (same : ∀ id, id ∈ ids ↔ id ∈ copy.messages) (id : String) :
    id ∈ idsAfter ids deed.told ↔ id ∈ (deed.act.on copy).messages := by
  rw [Std.ExtTreeMap.mem_iff_isSome_getElem?, Act.getElem?_on]
  have before := same id
  rw [Std.ExtTreeMap.mem_iff_isSome_getElem?] at before
  cases dealing with
  | look => exact before
  | raise value => exact before
  | save record old =>
    change id ∈ ids.insert record.id ↔ _
    rw [Std.ExtTreeSet.mem_insert, before, Act.onRecord, Std.LawfulEqCmp.compare_eq_iff_eq]
    split
    next saved => simp [saved]
    next other => simp [other]
  | reflag changed flags =>
    change id ∈ ids ↔ _
    rw [before, Act.onRecord]
    split
    · rw [Option.isSome_map]
    · rfl
  | remove removed =>
    rw [mem_idsAfter_removed, before, Act.onRecord]
    split
    next gone => simp [gone]
    next spared => simp [spared]

theorem Deed.IsDealing.reflags (dealing : deed.IsDealing folder) {id : String}
    (told : .flagsUpdated folder id ∈ deed.told) :
    ∃ flags, deed = ⟨.setFlags [id] flags, [.flagsUpdated folder id]⟩ := by
  cases dealing with
  | reflag other flags =>
    obtain ⟨⟩ := List.mem_singleton.1 told
    exact ⟨flags, rfl⟩
  | save record old => cases List.mem_singleton.1 told
  | remove ids =>
    obtain ⟨_, _, removes⟩ := List.mem_map.1 told
    cases removes
  | look => cases told
  | raise value => cases told

theorem idsAfter_append (ids : Std.ExtTreeSet String) (first second : List Event) :
    idsAfter ids (first ++ second) = idsAfter (idsAfter ids first) second :=
  List.foldl_append

theorem idsAfter_messageEvents (ids : Std.ExtTreeSet String) (events : List Event) :
    idsAfter ids (messageEvents events) = idsAfter ids events := by
  induction events generalizing ids with
  | nil => rfl
  | cons event events ih =>
    unfold messageEvents
    rw [List.filter_cons]
    split
    · exact ih _
    next quiet =>
      have unchanged : event.onIds ids = ids := by
        cases event <;> simp_all [Event.message?, Event.onIds]
      refine (ih ids).trans ?_
      change _ = idsAfter (event.onIds ids) events
      rw [unchanged]

/-- Deeds one after the other tell what they do to the names together. -/
theorem mem_idsAfter_toldBy (dealing : ∀ deed ∈ deeds, deed.IsDealing folder)
    {ids : Std.ExtTreeSet String} (same : ∀ id, id ∈ ids ↔ id ∈ copy.messages) (id : String) :
    id ∈ idsAfter ids (toldBy deeds) ↔ id ∈ (replay copy deeds).messages := by
  induction deeds generalizing ids copy with
  | nil => exact same id
  | cons deed deeds ih =>
    rw [List.forall_mem_cons] at dealing
    have told : toldBy (deed :: deeds) = deed.told ++ toldBy deeds := List.flatMap_cons
    rw [told, idsAfter_append]
    exact ih dealing.2 (dealing.1.ids same)

theorem toldBy_start {first second : List Deed} (begins : first <+: second) :
    toldBy first <+: toldBy second := by
  obtain ⟨rest, rfl⟩ := begins
  exact ⟨toldBy rest, (toldBy_append first rest).symm⟩

theorem told_settling {numbering : Option UInt64}
    (begins : deeds <+: Plan.settle numbering copy) :
    toldBy deeds = [] := by
  have silent := toldBy_start begins
  rw [told_settle] at silent
  exact List.prefix_nil.1 silent

end

namespace Pass

variable {σ ρ κ : Type} {watch : Watch σ κ} {sides : Sides σ ρ} {answers : Answers}
  {folder : String} {settings : PassSettings} {store : σ} {server : ρ}

theorem Deals.dealing {copy : Copy} {deals : List Deed} {result : Except Halt Unit}
    (dealt : Deals sides answers folder settings store server copy deals result) :
    ∀ deed ∈ deals, deed.IsDealing folder := by
  cases dealt with
  | unheard => exact List.forall_mem_nil _
  | heard _ _ begins _ =>
    refine fun deed did => ?_
    obtain rfl | did := List.mem_cons.1 (begins.subset did)
    · exact .look
    · exact dealing_reconcile did

theorem Deals.honest {copy : Copy} {deals : List Deed} {result : Except Halt Unit}
    (dealt : Deals sides answers folder settings store server copy deals result) :
    ∀ deed ∈ deals, deed.IsHonest :=
  fun deed did => (dealt.dealing deed did).isHonest

/-- What a run tells of messages is what it tells once it deals with them. -/
theorem messageEvents_dealt {made opened : Bool} {settles deals : List Deed}
    {result : Except Halt Unit} {ended : Progress σ ρ} {numbering : Option UInt64} {copy : Copy}
    (went : Went watch folder store made opened (settles ++ deals) result ended)
    (begins : settles <+: Plan.settle numbering copy) (honest : ∀ deed ∈ deals, deed.IsHonest) :
    messageEvents (events ended) = toldBy deals := by
  have silent := told_settling begins
  have honestSettles : ∀ deed ∈ settles, deed.IsHonest := by
    intro deed did event told
    have spoken : event ∈ toldBy settles := List.mem_flatMap.2 ⟨deed, did, told⟩
    rw [silent] at spoken
    cases spoken
  rw [messageEvents_run went (List.forall_mem_append.2 ⟨honestSettles, honest⟩), toldBy_append,
    silent, List.nil_append]

/-- The journal of a run that starts with an empty one. -/
theorem Went.entries {store : Journaled} {made opened : Bool} {deeds : List Deed}
    {result : Except Halt Unit} {ended : Progress Journaled ρ}
    (went : Went Journaled.watch folder store made opened deeds result ended)
    (fresh : store.entries = []) : ended.store.entries = runEntries folder made deeds := by
  refine went.journal.trans ((Journaled.foldl_note _ _).trans ?_)
  exact congrArg (· ++ runEntries folder made deeds) fresh

/-- The events of a run and the names that the folder held when its numbering was settled give the
names that it holds in the end. -/
theorem run_accounts (faithful : watch.Faithful sides.store) (settings : PassSettings) (store : σ)
    (server : ρ) :
    idsAfter ((watch.memory (settledStore sides folder store server)).ids folder)
        (events (run sides folder settings store server)) =
      (watch.memory (run sides folder settings store server).store).ids folder := by
  obtain ⟨made, opened, settles, deals, result, begins, settled, went, dealt⟩ :=
    run_staged faithful ⟨0, fun _ _ _ => [], fun _ _ => []⟩ settings store server
  refine Std.ExtTreeSet.ext_mem fun id => ?_
  rw [← idsAfter_messageEvents, messageEvents_dealt went begins dealt.honest, Memory.mem_ids,
    copy_staged settled went]
  exact mem_idsAfter_toldBy dealt.dealing (Memory.mem_ids _ folder) id

/-! ## Flags -/

section Flags

variable {listed : List Listed} {body : Listed → Octets} {copy : Copy} {deeds : List Deed}

/-- The deed that copies the tracked flags of a listed message to its record. -/
def reflagging (folder : String) (settings : PassSettings) (message : Listed)
    (record : MessageRecord) : Deed :=
  ⟨.setFlags [message.id] (record.flags.replaceTracked message.flags settings.trackedFlags),
    [.flagsUpdated folder message.id]⟩

/-- A plan sets flags only where the record of a listed message says something else of the tracked
flags. -/
theorem mem_planned_setFlags {deed : Deed}
    (did : deed ∈ planned folder settings listed body copy) {ids : List String} {flags : FlagSet}
    (acts : deed.act = .setFlags ids flags) :
    ∃ message ∈ listed, ∃ record, copy.messages[message.id]? = some record ∧
      Plan.update folder settings message (some record) =
        [⟨.look, []⟩, reflagging folder settings message record] ∧
      record.flags.restrict settings.trackedFlags ≠ message.flags.restrict settings.trackedFlags ∧
      deed = reflagging folder settings message record := by
  obtain rfl | did := List.mem_cons.1 did
  · cases acts
  obtain did | did := List.mem_append.1 did
  case inr =>
    obtain ⟨value, rfl⟩ := mem_raise did
    cases acts
  obtain did | did := List.mem_append.1 did
  case inr =>
    obtain did | did := List.mem_append.1 did
    · obtain ⟨message, _, did⟩ := List.mem_flatMap.1 did
      rw [List.mem_singleton.1 did] at acts
      cases acts
    · rw [Plan.mem_clean did] at acts
      cases acts
  obtain ⟨message, isKnown, did⟩ := List.mem_flatMap.1 did
  obtain ⟨member, record, known⟩ := Plan.mem_known.1 isKnown
  rw [known, Plan.update_some] at did
  split at did
  case isTrue =>
    rw [List.mem_singleton.1 did] at acts
    cases acts
  next spared =>
  obtain rfl | did := List.mem_cons.1 did
  · cases acts
  unfold Plan.reflag at did
  split at did
  case isTrue => cases did
  next differ =>
  refine ⟨message, member, record, known, ?_, differ, List.mem_singleton.1 did⟩
  rw [Plan.update_some, if_neg spared, Plan.reflag, if_neg differ]
  rfl

theorem about_planned (id : String) :
    about id (planned folder settings listed body copy) =
      about id (Plan.work folder settings listed body copy) := by
  have raises : about id (Plan.raise copy.state listed) = [] := by
    unfold about
    rw [List.filter_eq_nil_iff]
    intro deed did touched
    obtain ⟨value, rfl⟩ := mem_raise did
    cases touched
  rw [planned, ← List.singleton_append, about_append, about_append, raises, List.append_nil]
  rfl

theorem count_toldOf (id : String) (deeds : List Deed) :
    (toldOf id deeds).count (.flagsUpdated folder id) =
      (toldBy deeds).count (.flagsUpdated folder id) :=
  List.count_filter (decide_eq_true rfl)

theorem count_departure (id : String) :
    (Plan.departure folder settings listed copy).told.count (.flagsUpdated folder id) = 0 := by
  rw [List.count_eq_zero]
  intro told
  obtain ⟨_, _, removes⟩ := List.mem_map.1 told
  cases removes

/-- A plan tells at most once that the flags of a message changed. -/
theorem count_planned (distinct : listed.Pairwise fun left right => left.id ≠ right.id)
    (id : String) :
    (toldBy (about id (planned folder settings listed body copy))).count
      (.flagsUpdated folder id) ≤ 1 := by
  have departs : (toldBy [Plan.departure folder settings listed copy]).count
      (.flagsUpdated folder id) = 0 := by
    rw [toldBy, List.flatMap_singleton, count_departure]
  rw [about_planned]
  obtain ⟨message, member, rfl⟩ | absent := Plan.listed_or_absent listed id
  · cases known : copy.messages[message.id]? with
    | none =>
      rw [Plan.about_work_new body distinct member known]
      split <;> simp [toldBy, Plan.save]
    | some record =>
      have updates : (toldBy (about message.id
          (Plan.update folder settings message (some record)))).count
            (.flagsUpdated folder message.id) ≤ 1 := by
        rw [Plan.update_some, Plan.reflag]
        split
        · simp [toldBy, about, Act.touches]
        · split <;> simp [toldBy, about, Act.touches]
      rw [Plan.about_work_known body distinct member known, toldBy_append, List.count_append]
      split
      · omega
      · exact updates
  · rw [Plan.about_work_unlisted body absent]
    split
    · omega
    · exact Nat.zero_le 1

/-- Nothing is done about a message before its flags are set. -/
theorem untouched_before (distinct : listed.Pairwise fun left right => left.id ≠ right.id)
    {message : Listed} (member : message ∈ listed) {record : MessageRecord}
    (known : copy.messages[message.id]? = some record)
    (updates : Plan.update folder settings message (some record) =
      [⟨.look, []⟩, reflagging folder settings message record])
    {earlier later : List Deed}
    (begins : earlier ++ reflagging folder settings message record :: later <+:
      planned folder settings listed body copy) : about message.id earlier = [] := by
  have single : about message.id (Plan.update folder settings message (some record)) =
      [reflagging folder settings message record] := by
    rw [updates]
    simp [about, reflagging, Act.touches]
  have part : about message.id (earlier ++ reflagging folder settings message record :: later) <+:
      about message.id (planned folder settings listed body copy) := begins.filter _
  rw [about_planned, Plan.about_work_known body distinct member known, single, about_append] at part
  -- A deed about the message before this one would make this one the second, which can only remove it.
  cases before : about message.id earlier with
  | nil => rfl
  | cons first rest =>
    have second : reflagging folder settings message record ∈
        rest ++ about message.id (reflagging folder settings message record :: later) := by
      refine List.mem_append_right _ (List.mem_filter.2 ⟨List.mem_cons_self, ?_⟩)
      simp [reflagging, Act.touches]
    rw [before] at part
    have removes := (List.cons_prefix_cons.1 part).2.subset second
    split at removes
    · have same := congrArg Deed.act (List.mem_singleton.1 removes)
      cases same
    · cases removes

end Flags

end Pass

/-- Some call on the store, among those of `entries`, gave the record of a message other flags. -/
def ChangesFlags (folder : String) (memory : Memory) (entries : List Entry) (id : String) : Prop :=
  ∃ earlier ids flags later record,
    entries = earlier ++ .inFolder folder (.setFlags ids flags) :: later ∧ id ∈ ids ∧
    ((memory.replay earlier).copy folder).messages[id]? = some record ∧ record.flags ≠ flags

namespace Pass

section Flags

variable {listed : List Listed} {body : Listed → Octets} {copy : Copy} {settles deals : List Deed}

theorem dealing_planned {deed : Deed} (did : deed ∈ planned folder settings listed body copy) :
    deed.IsDealing folder := by
  obtain rfl | did := List.mem_cons.1 did
  · exact .look
  · exact (List.mem_append.1 did).elim dealing_work dealing_raise

/-- The first so many deeds of a plan tell that flags changed exactly where they change them. -/
theorem told_iff_changesFlags {memory : Memory} {made : Bool} {numbering : Option UInt64}
    (distinct : listed.Pairwise fun left right => left.id ≠ right.id)
    (settling : settles <+: Plan.settle numbering (memory.copy folder))
    (settled : replay (memory.copy folder) settles = copy)
    (begins : deals <+: planned folder settings listed body copy) (id : String) :
    .flagsUpdated folder id ∈ toldBy deals ↔
      ChangesFlags folder memory (runEntries folder made (settles ++ deals)) id := by
  constructor
  · intro told
    obtain ⟨deed, did, told⟩ := List.mem_flatMap.1 told
    obtain ⟨flags, rfl⟩ := (dealing_planned (begins.subset did)).reflags told
    obtain ⟨message, member, record, known, updates, differ, same⟩ :=
      mem_planned_setFlags (begins.subset did) rfl
    rw [same] at did
    obtain ⟨earlier, later, rfl⟩ := List.append_of_mem did
    obtain ⟨named, _⟩ := Act.setFlags.inj (congrArg Deed.act same)
    obtain rfl : id = message.id := List.singleton_inj.1 named
    have split : runEntries folder made
          (settles ++ (earlier ++ reflagging folder settings message record :: later)) =
        runEntries folder made (settles ++ earlier) ++
          .inFolder folder (reflagging folder settings message record).act ::
            entriesOf folder later := by
      simp [runEntries, entriesOf]
    -- Its flags were those of the settled copy still, which say something else of the tracked ones.
    refine ⟨_, _, _, _, record, split, List.mem_singleton_self _, ?_, ?_⟩
    · rw [copy_runEntries, replay_append, settled, getElem?_replay,
        untouched_before distinct member known updates begins]
      exact known
    · intro unchanged
      refine differ ?_
      rw [unchanged, FlagSet.restrict_replaceTracked]
  · rintro ⟨earlier, ids, flags, later, record, split, member, _, _⟩
    have made' : .inFolder folder (.setFlags ids flags) ∈
        runEntries folder made (settles ++ deals) := by
      rw [split]
      exact List.mem_append_right _ List.mem_cons_self
    obtain ⟨deed, did, acts⟩ := mem_runEntries made'
    obtain did | did := List.mem_append.1 did
    · have idle := not_messageWork_settling settling did
      rw [acts] at idle
      cases idle
    obtain ⟨message, _, record, _, _, _, rfl⟩ := mem_planned_setFlags (begins.subset did) acts
    obtain ⟨rfl, _⟩ := Act.setFlags.inj acts
    obtain rfl := List.mem_singleton.1 member
    exact List.mem_flatMap.2 ⟨_, did, List.mem_singleton_self _⟩

/-- The events of a run tell of each name that comes or goes and of each message whose flags change.
The first holds of any listing, the second where no UID is listed twice. -/
theorem run_ledger {sides : Sides Journaled ρ} (faithful : Journaled.watch.Faithful sides.store)
    (folder : String) (settings : PassSettings) (memory : Memory) (calls : Nat) (server : ρ) :
    let store : Journaled := ⟨memory, calls, []⟩
    let ended := run sides folder settings store server
    idsAfter ((settledStore sides folder store server).memory.ids folder) (events ended) =
        ended.store.memory.ids folder ∧
      (((listedIn (serverCalls sides folder settings store server)).map Listed.uid).Nodup → ∀ id,
        (events ended).count (.flagsUpdated folder id) ≤ 1 ∧
          (.flagsUpdated folder id ∈ events ended ↔
            ChangesFlags folder memory ended.store.entries id)) := by
  intro store ended
  refine ⟨run_accounts faithful settings store server, fun distinct id => ?_⟩
  obtain ⟨made, opened, settles, deals, result, begins, settled, went, dealt⟩ :=
    run_staged faithful ⟨0, fun _ _ _ => [], fun _ _ => []⟩ settings store server
  have apart := pairwise_recentIn distinct
  obtain ⟨body, part, _⟩ := dealt.planned apart
  have told : messageEvents (events ended) = toldBy deals :=
    messageEvents_dealt went begins dealt.honest
  have entries : ended.store.entries = runEntries folder made (settles ++ deals) :=
    went.entries rfl
  have copied : replay (memory.copy folder) settles =
      (settledStore sides folder store server).memory.copy folder := by
    have copied := congrArg (Memory.copy · folder) settled
    exact (copied.trans (copy_runEntries memory made settles)).symm
  have heard : Event.flagsUpdated folder id ∈ events ended ↔
      .flagsUpdated folder id ∈ toldBy deals := by
    rw [← told]
    exact (List.mem_filter.trans (and_iff_left rfl)).symm
  constructor
  · calc (events ended).count (.flagsUpdated folder id)
        = (messageEvents (events ended)).count (.flagsUpdated folder id) :=
          (List.count_filter rfl).symm
      _ = (toldOf id deals).count (.flagsUpdated folder id) := by rw [told, count_toldOf]
      _ = (toldBy (about id deals)).count (.flagsUpdated folder id) := by
          rw [toldOf_about dealt.honest, count_toldOf]
      _ ≤ (toldBy (about id (planned folder settings _ body _))).count
            (.flagsUpdated folder id) := by
          have fewer : about id deals <+: about id (planned folder settings _ body _) :=
            part.filter _
          exact (toldBy_start fewer).sublist.count_le _
      _ ≤ 1 := count_planned apart id
  · rw [heard, entries]
    exact told_iff_changesFlags apart begins copied part id

end Flags

/-- Settings under which messages that are gone on the server are kept here. -/
def keepGone : PassSettings :=
  { PassSettings.usual with removeVanished := false }

/-- A store whose eighth call fails.  If gone messages are kept, that is the first one that saves a
message. -/
def eighthFails (call : Nat) : Option Store.Failure :=
  if call = 7 then some (.refused "full") else none

theorem run_ledger_two :
    let sides : Sides Journaled Unit := ⟨Journaled.handler eighthFails, twoListed.server (some 9)⟩
    let ended := run sides "INBOX" keepGone ⟨twoKnown, 0, []⟩ ()
    (∃ event ∈ events ended, event.isFailure = true) ∧
      idsAfter ((settledStore sides "INBOX" ⟨twoKnown, 0, []⟩ ()).memory.ids "INBOX")
          (events ended) = ended.store.memory.ids "INBOX" ∧
      .flagsUpdated "INBOX" "3" ∈ events ended ∧
      ChangesFlags "INBOX" twoKnown ended.store.entries "3" := by
  have faithful : Journaled.watch.Faithful
      (⟨Journaled.handler eighthFails, twoListed.server (some 9)⟩ : Sides Journaled Unit).store :=
    Journaled.faithful_handler eighthFails
  obtain ⟨names, flags⟩ := run_ledger faithful "INBOX" keepGone twoKnown 0 ()
  have told : Event.flagsUpdated "INBOX" "3" ∈ events (run
      ⟨Journaled.handler eighthFails, twoListed.server (some 9)⟩ "INBOX" keepGone
      ⟨twoKnown, 0, []⟩ ()) := by
    decide +kernel
  exact ⟨by decide +kernel, names, told, (flags (by decide +kernel) "3").2.1 told⟩

end Pass

end Reconcile

end MailReplica
