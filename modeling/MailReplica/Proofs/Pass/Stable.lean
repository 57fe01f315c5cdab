import MailReplica.Proofs.Pass.Protocol
import MailReplica.Proofs.Pass.Resume
import MailReplica.Proofs.Pass.Stages

/-! # A pass after a pass

A pass that did not fail leaves a copy for which nothing is left to be done (`inLine_after_plan`).
A pass that meets such a copy, with the server still saying the same, looks at the messages and
numbers, tells of its start and its end, and changes nothing (`whole_inLine`, `run_stable`).
-/

namespace MailReplica

namespace Store

theorem Memory.create_known {store : Memory} {info : FolderInfo} (known : info.id ∈ store.folders) :
    store.create info = store := by
  refine congrArg Memory.mk (Std.ExtTreeMap.ext_getElem? fun place => ?_)
  rw [Std.ExtTreeMap.getElem?_insertIfNew]
  exact if_neg fun both => both.2 known

theorem Memory.mem_write {store : Memory} {known : String} (member : known ∈ store.folders)
    (place : String) (change : MemoryFolder → MemoryFolder) :
    known ∈ (store.write place change).folders := by
  rw [write, Std.ExtTreeMap.mem_iff_isSome_getElem?, Std.ExtTreeMap.getElem?_alter]
  split
  · rfl
  · exact Std.ExtTreeMap.mem_iff_isSome_getElem?.1 member

theorem Memory.mem_update {store : Memory} {known : String} (member : known ∈ store.folders)
    (place : String) (change : MemoryFolder → MemoryFolder) :
    known ∈ (store.update place change).folders :=
  Std.ExtTreeMap.mem_modify.2 member

/-- No entry about a folder makes one go away. -/
theorem Entry.mem_apply {store : Memory} {known : String} (member : known ∈ store.folders)
    (place : String) (act : Act) : known ∈ ((inFolder place act).apply store).folders := by
  cases act with
  | look => exact member
  | readNumber key => exact member
  | save record => exact Memory.mem_write member place _
  | setFlags ids flags => exact Memory.mem_update member place _
  | remove ids => exact Memory.mem_update member place _
  | removeAll => exact Memory.mem_update member place _
  | setNumber key value => exact Memory.mem_write member place _

end Store

namespace Reconcile

open Store (Act Copy Entry FolderState Memory)

/-- A copy for which nothing is left to be done, when the server reports `numbering` and lists
`listed`. -/
structure InLine (settings : PassSettings) (numbering : Option UInt64) (listed : List Listed)
    (copy : Copy) : Prop where
  messages : ∀ id, Settled settings listed id copy.messages[id]?
  highest : (listed.map fun message => message.uid.toNat).max?.getD 0 ≤ copy.state.highestUid.toNat
  numbered : copy.state.validity = numbering.or copy.state.validity

/-- A store in memory beside a server. -/
abbrev Sides.inMemory {ρ : Type} (server : Server ρ) : Sides Memory ρ :=
  ⟨Memory.handler, server⟩

namespace Pass

variable {ρ α β : Type} {server : Server ρ} {folder : String} {settings : PassSettings}
  {answers : Answers} {numbering : Option UInt64} {listed : List Listed}

theorem bind_of_ok {part : Pass Memory ρ α} {next : α → Pass Memory ρ β}
    {before middle : Progress Memory ρ} {value : α} (ran : part before = (.ok value, middle)) :
    (part >>= next) before = next value middle := by
  rw [bind_apply, ran]

theorem ask_of_run {sides : Sides Memory ρ} (step : Step) {call : ServerCall α}
    {before : Progress Memory ρ} {value : α} {after : ρ}
    (ran : sides.server.run call before.server = (.ok value, after)) :
    ask sides step call before = (.ok value, { before with server := after }) := by
  unfold ask
  rw [ran]

section Idle

variable {before : Progress Memory ρ} {copy : Copy}

theorem load_inMemory (atCopy : before.store.copy folder = copy) :
    (keep .loadState (FolderState.load Memory.handler folder) : Pass Memory ρ FolderState) before =
      (.ok copy.state, before) := by
  have loaded : (keep .loadState (FolderState.load Memory.handler folder) : Pass Memory ρ FolderState)
      before = (.ok ⟨((before.store.number folder FolderState.highestKey).map fun value =>
        (max value 0).toUInt64).getD 0, (before.store.number folder FolderState.validityKey).map
          Int64.toUInt64⟩, before) := rfl
  rw [loaded, Memory.number_eq_copy, Memory.number_eq_copy, atCopy]
  rfl

theorem checkValidity_inLine {state : FolderState}
    (reports : server.validity before.server = numbering)
    (numbered : state.validity = numbering.or state.validity) :
    checkValidity (Sides.inMemory server) folder state before = (.ok state, before) := by
  change checkValidity ((Sides.inMemory server).reporting (server.validity before.server)) folder state
    before = _
  rw [reports]
  unfold checkValidity
  cases numbering with
  | none => rfl
  | some reported =>
    rw [Option.some_or] at numbered
    rw [numbered]
    exact congrFun (if_pos rfl) before

theorem updateKnown_inLine (atCopy : before.store.copy folder = copy)
    (settled : ∀ id, Settled settings listed id copy.messages[id]?) {message : Listed}
    (member : message ∈ listed) {record : MessageRecord}
    (known : copy.messages[message.id]? = some record) :
    updateKnown (Sides.inMemory server) folder settings message before = (.ok (), before) := by
  obtain ⟨spared, _, same⟩ := (settled message.id).known message member rfl record known
  have flags : (Memory.answer (.flags folder message.id) before.store).1 = some record.flags := by
    change ((before.store.messages folder).get? message.id).map MessageRecord.flags = _
    rw [Memory.messages_eq_copy, atCopy, Std.ExtTreeMap.get?_eq_getElem?, known]
    rfl
  have read : (keep (.readFlags message.id) (Memory.handler.call (.flags folder message.id)) :
      Pass Memory ρ (Option FlagSet)) before = (.ok (some record.flags), before) := by
    rw [← flags]
    rfl
  unfold updateKnown
  dsimp only
  rw [if_neg (by simpa [and_comm] using spared), bind_of_ok read]
  exact congrFun (if_pos same) before

theorem forM_idle {ι : Type} {work : ι → Pass Memory ρ Unit} {items : List ι}
    (each : ∀ item ∈ items, work item before = (.ok (), before)) :
    items.forM work before = (.ok (), before) := by
  induction items with
  | nil => rfl
  | cons item rest ih =>
    rw [List.forall_mem_cons] at each
    exact (bind_of_ok each.1).trans (ih each.2)

theorem newMessages_inLine (inLine : InLine settings numbering listed copy) :
    newMessages (datesOf copy) listed = [] := by
  refine List.eq_nil_iff_forall_not_mem.2 fun message isNew => ?_
  obtain ⟨member, unknown, live⟩ := Plan.mem_newMessages.1 isNew
  have deleted := (inLine.messages message.id).unknown message member rfl unknown
  rw [live] at deleted
  cases deleted

theorem vanished_inLine (inLine : InLine settings numbering listed copy)
    (removes : settings.removeVanished = true) :
    vanished settings (listed.map Listed.id) (datesOf copy) = [] := by
  refine List.eq_nil_iff_forall_not_mem.2 fun id gone => ?_
  obtain ⟨record, known, why⟩ := mem_vanished.1 gone
  obtain ⟨message, member, rfl⟩ | absent := Plan.listed_or_absent listed id
  · obtain ⟨_, recent, _⟩ := (inLine.messages message.id).known message member rfl record known
    obtain old | unnamed := why
    · rw [recent] at old
      cases old
    · exact unnamed (List.mem_map_of_mem member)
  · have none := (inLine.messages id).unlisted absent removes
    rw [known] at none
    cases none

theorem raiseHighest_inLine (inLine : InLine settings numbering listed copy) :
    raiseHighest (Sides.inMemory server) folder copy.state listed before = (.ok (), before) := by
  have highest := inLine.highest
  rw [← toNat_highestListed?] at highest
  unfold raiseHighest
  cases found : highestListed? listed with
  | none => rfl
  | some uid =>
    rw [found, Option.map_some, Option.getD_some] at highest
    have low : ¬copy.state.highestUid < uid.toUInt64 := by
      rw [UInt64.lt_iff_toNat_lt, UInt32.toNat_toUInt64]
      omega
    dsimp only
    unfold FolderState.raise
    rw [if_neg low]
    rfl

theorem reconcile_inLine (atCopy : before.store.copy folder = copy)
    (inLine : InLine settings numbering listed copy) :
    reconcile (Sides.inMemory server) folder settings copy.state listed (datesOf copy) before =
      (.ok (), before) := by
  have updates : (listed.filter fun message => (datesOf copy).contains message.id).forM
      (updateKnown (Sides.inMemory server) folder settings) before = (.ok (), before) := by
    refine forM_idle fun message isKnown => ?_
    obtain ⟨member, record, known⟩ := Plan.mem_known.1 isKnown
    exact updateKnown_inLine atCopy inLine.messages member known
  have downloads : (newMessages (datesOf copy) listed).forM
      (download (Sides.inMemory server) folder settings copy.state) before = (.ok (), before) := by
    rw [newMessages_inLine inLine]
    rfl
  unfold reconcile
  rw [bind_of_ok updates, bind_of_ok downloads]
  split
  next removes =>
    have departs : removeVanished (Sides.inMemory server) folder settings (listed.map Listed.id)
        (datesOf copy) before = (.ok (), before) := by
      unfold removeVanished
      rw [vanished_inLine inLine removes]
      rfl
    rw [bind_of_ok departs]
    exact raiseHighest_inLine inLine
  next => exact raiseHighest_inLine inLine

end Idle

/-! ## Whole passes -/

/-- From `start` on the server says about a folder what `answers` and `numbering` say, as far as a
pass asks that has nothing to download. -/
def Repeats (server : Server ρ) (folder : String) (settings : PassSettings) (answers : Answers)
    (numbering : Option UInt64) (start : ρ) : Prop :=
  ∃ counted, CountedAs server folder start answers.count counted ∧
    server.validity counted = numbering ∧
    ∀ first last, windowOf settings answers.count = some (first, last) →
      (server.run (.list first last settings.cutoff) counted).1 =
        .ok (answers.listing first last settings.cutoff)

section Whole

variable {store : Memory} {start counted : ρ}

theorem opening_inMemory (known : folder ∈ store.folders) {count : Int} (notNegative : 0 ≤ count)
    (counts : CountedAs server folder start count counted) :
    opening (Sides.inMemory server) folder (begun folder store start) =
      (.ok count, ⟨store, counted, [.authenticated, .started folder]⟩) := by
  obtain ⟨found, opened, got, opens, counted⟩ := counts
  have made : (keep .prepare (Memory.handler.call (.createFolders [⟨folder, folder⟩])) :
      Pass Memory ρ Unit) (begun folder store start) = (.ok (), begun folder store start) := by
    have same : store.create ⟨folder, folder⟩ = store := Memory.create_known known
    change (_, begun folder (store.create ⟨folder, folder⟩) start) = _
    rw [same]
  have prepared : prepare (Sides.inMemory server) folder (begun folder store start) =
      (.ok (), begun folder store found) := by
    unfold prepare
    rw [bind_of_ok made]
    exact ask_of_run .getFolder got
  have told : tell .authenticated { begun folder store found with server := opened } =
      (.ok (), ⟨store, opened, [.authenticated, .started folder]⟩) := rfl
  unfold opening openAndCount
  rw [bind_of_ok prepared, bind_of_ok (ask_of_run .openFolder opens), bind_of_ok told,
    bind_of_ok (ask_of_run .getCount counted), if_neg (Int.not_lt.2 notNegative)]
  rfl

theorem listing_inMemory {before : Progress Memory ρ} (lists : ∀ first last,
      windowOf settings answers.count = some (first, last) →
        (server.run (.list first last settings.cutoff) before.server).1 =
          .ok (answers.listing first last settings.cutoff)) :
    ∃ after, listing (Sides.inMemory server) settings answers.count before =
      (.ok (answers.recent settings), { before with server := after }) := by
  have folded : window (UInt32.ofNat (min answers.count.toNat (UInt32.size - 1)))
      settings.visibleLimit = windowOf settings answers.count := rfl
  unfold listing Answers.recent Answers.inWindow
  rw [folded]
  cases window : windowOf settings answers.count with
  | none => exact ⟨before.server, rfl⟩
  | some range =>
    have answered := lists range.1 range.2 window
    refine ⟨(server.run (.list range.1 range.2 settings.cutoff) before.server).2, ?_⟩
    dsimp only
    rw [bind_of_ok (ask_of_run (.list range.1 range.2) (Prod.ext answered rfl))]
    rfl

/-- A pass that meets a copy in line does nothing but look. -/
theorem whole_inLine (known : folder ∈ store.folders) (notNegative : 0 ≤ answers.count)
    (keeps : settings.expungePolicy ≠ .onPoll)
    (inLine : InLine settings numbering (answers.recent settings) (store.copy folder))
    (repeats : Repeats server folder settings answers numbering start) :
    ∃ after, whole (Sides.inMemory server) folder settings (begun folder store start) =
      (.ok (), ⟨store, after, [.authenticated, .started folder]⟩) := by
  obtain ⟨counted, counts, reports, lists⟩ := repeats
  have opened := opening_inMemory known notNegative counts
  have settled : settling (Sides.inMemory server) folder (begun folder store start) =
      (.ok (answers.count, (store.copy folder).state),
        ⟨store, counted, [.authenticated, .started folder]⟩) := by
    unfold settling
    rw [bind_of_ok opened, bind_of_ok (load_inMemory rfl),
      bind_of_ok (checkValidity_inLine reports inLine.numbered)]
    rfl
  let middle : Progress Memory ρ := ⟨store, counted, [.authenticated, .started folder]⟩
  obtain ⟨after, lists⟩ : ∃ after, listing (Sides.inMemory server) settings answers.count middle =
      (.ok (answers.recent settings), { middle with server := after }) := listing_inMemory lists
  have read : (keep .readLocal (Memory.handler.call (.dates folder)) :
      Pass Memory ρ (Std.ExtTreeMap String (Option Instant))) { middle with server := after } =
        (.ok (datesOf (store.copy folder)), { middle with server := after }) := by
    unfold datesOf
    rw [← Memory.messages_eq_copy]
    rfl
  have aligned : reconcile (Sides.inMemory server) folder settings (store.copy folder).state
      (answers.recent settings) (datesOf (store.copy folder)) { middle with server := after } =
        (.ok (), { middle with server := after }) := reconcile_inLine rfl inLine
  refine ⟨after, ?_⟩
  unfold whole continuing
  rw [bind_of_ok settled, bind_of_ok lists, bind_of_ok read, bind_of_ok aligned, if_neg keeps]
  rfl

end Whole

/-- A run that tells of nothing but its being let in, and in which nothing goes wrong, fetches
nothing. -/
theorem not_fetched {trace : Trace} (grammatical : Grammatical folder settings trace)
    (clean : trace.Clean folder) (told : trace.told = [.authenticated]) (uid : UInt32)
    (extent : FetchExtent) (answer : Except Failure Octets) :
    .fetch uid extent answer ∉ trace.asked := by
  cases grammatical with
  | unprepared => cases told
  | absent => cases told
  | unopened => cases told
  | uncounted => simp
  | @opened count trace usable continues =>
    obtain ⟨outline, lists, fetches, expunges, continued⟩ := continues
    have cleanAfter : trace.Clean folder := by
      refine ⟨fun exchange made => clean.asked exchange ?_, clean.kept⟩
      simp [made]
    -- All new messages were told of, so there are none, and only new ones are fetched.
    have silent : outline.told folder settings = [] :=
      continued.told.symm.trans (List.cons.inj told).2
    simp only [Outline.told, List.append_eq_nil_iff, List.map_eq_nil_iff] at silent
    have none := continued.fits.fetched
    rw [← (continued.complete cleanAfter).1, silent.1.2, List.prefix_nil] at none
    have fetching := continued.fetching
    rw [none] at fetching
    cases fetching
    have isList : .fetch uid extent answer ∉ lists := by
      obtain rfl | ⟨_, _, _, _, rfl⟩ := continued.listing <;> simp
    have isExpunge : .fetch uid extent answer ∉ expunges := by
      obtain rfl | ⟨_, _, _, rfl⟩ := continued.expunging <;> simp
    simp [continued.asked, isList, isExpunge]

section Stable

variable {store : Memory} {first second : ρ}

theorem inLine_after_plan (folder : String) (numbering : Option UInt64)
    (distinct : ((answers.inWindow settings).map Listed.uid).Nodup) {copy : Copy}
    (agree : DatesAgree settings (answers.inWindow settings) copy) :
    InLine settings numbering (answers.recent settings)
      (replay copy (planOf folder settings answers numbering copy)) := by
  have settledOld : NoneTooOld settings (answers.recent settings)
      (Plan.renumbered numbering copy) := by
    have old := noneTooOld_settling agree.noneTooOld
      (List.prefix_rfl : Plan.settle numbering copy <+: Plan.settle numbering copy)
    exact old
  rw [replay_planOf]
  refine ⟨fun id => ?_, highest_finish folder settings answers _, ?_⟩
  · rw [getElem?_finish distinct]
    exact settled_finish distinct agree.noneTooOldLater settledOld id
  · rw [(state_finish folder settings answers _).2, renumbered_state]
    cases numbering <;> rfl

theorem mem_entriesOf {memory : Memory} (known : folder ∈ memory.folders) (deeds : List Deed) :
    folder ∈ (memory.replay (entriesOf folder deeds)).folders := by
  induction deeds generalizing memory with
  | nil => exact known
  | cons deed deeds ih => exact ih (Entry.mem_apply known folder deed.act)

/-- A pass that does not fail has made its folder known and counted messages. -/
theorem opened_of_unfailed (steady : Steady server folder answers numbering first)
    (unfailed : ∀ event ∈ events (run (Sides.inMemory server) folder settings store first),
      event.isFailure = false) :
    0 ≤ answers.count ∧
      folder ∈ (run (Sides.inMemory server) folder settings store first).store.folders := by
  have faithful : (Store.Watch.holding id).Faithful (Sides.inMemory server).store :=
    Memory.inMemory_handler
  cases run_course faithful answers settings store first with
  | unopened went => cases went.completed unfailed
  | opened notNegative counted _ _ _ _ went =>
    obtain ⟨rfl, _⟩ := steady.counted counted
    refine ⟨notNegative, ?_⟩
    have memory : (run (Sides.inMemory server) folder settings store first).store =
        ((making folder).apply store).replay (entriesOf folder _) := went.memory
    rw [memory]
    exact mem_entriesOf Std.ExtTreeMap.mem_insertIfNew_self _

/-- Where a pass did not fail, a second one over a server that says the same does nothing. -/
theorem run_stable (steady : Steady server folder answers numbering first)
    (repeats : Repeats server folder settings answers numbering second)
    (distinct : ((answers.inWindow settings).map Listed.uid).Nodup)
    (agree : DatesAgree settings (answers.inWindow settings) (store.copy folder))
    (keeps : settings.expungePolicy ≠ .onPoll)
    (unfailed : ∀ event ∈ events (run (Sides.inMemory server) folder settings store first),
      event.isFailure = false) :
    let once := run (Sides.inMemory server) folder settings store first
    let twice := run (Sides.inMemory server) folder settings once.store second
    events twice = [.started folder, .authenticated, .finished folder] ∧
      (∀ uid extent answer, .fetch uid extent answer ∉
        serverCalls (Sides.inMemory server) folder settings once.store second) ∧
      twice.store = once.store := by
  intro once twice
  obtain ⟨notNegative, known⟩ := opened_of_unfailed steady unfailed
  -- The first run did its whole plan, and that leaves a copy in line.
  have inLine : InLine settings numbering (answers.recent settings) (once.store.copy folder) := by
    have left := run_completed Memory.inMemory_handler steady distinct unfailed
    exact left ▸ inLine_after_plan folder numbering distinct agree
  obtain ⟨after, ran⟩ := whole_inLine known notNegative keeps inLine repeats
  obtain ⟨kept, told, _⟩ := run_whole (Sides.inMemory server) folder settings once.store second
  obtain ⟨events, tells, _, grammatical, ending⟩ :=
    run_traced (Sides.inMemory server) folder settings once.store second
  rw [ran] at kept told tells ending
  refine ⟨told, ?_, kept⟩
  -- That nothing was fetched follows from what was told, by the grammar of a run.
  have only : events = [.authenticated] := by
    have reversed : [Event.authenticated] = events.reverse := List.append_cancel_right tells
    rw [← List.reverse_reverse events, ← reversed]
    rfl
  cases ending with
  | well clean => exact not_fetched grammatical clean only

theorem repeats_server (answers : Answers) (numbering : Option UInt64) (folder : String)
    (settings : PassSettings) :
    Repeats (answers.server numbering) folder settings answers numbering () :=
  ⟨(), ⟨(), (), rfl, rfl, rfl⟩, rfl, fun _ _ _ => rfl⟩

theorem run_stable_two :
    let sides : Sides Memory Unit := Sides.inMemory (twoListed.server (some 9))
    let once := run sides "INBOX" .usual twoKnown ()
    let twice := run sides "INBOX" .usual once.store ()
    Event.newMessage "INBOX" "7" false ∈ events once ∧
      events twice = [.started "INBOX", .authenticated, .finished "INBOX"] ∧
      (∀ uid extent answer,
        .fetch uid extent answer ∉ serverCalls sides "INBOX" .usual once.store ()) ∧
      twice.store = once.store := by
  have unfailed : ∀ event ∈
      events (run (Sides.inMemory (twoListed.server (some 9))) "INBOX" .usual twoKnown ()),
      event.isFailure = false := by
    decide +kernel
  have stable := run_stable (twoListed.steady_server (some 9) "INBOX")
    (repeats_server twoListed (some 9) "INBOX" .usual) (by decide) (.inl rfl) nofun unfailed
  exact ⟨by decide +kernel, stable⟩

end Stable

end Pass

end Reconcile

end MailReplica
