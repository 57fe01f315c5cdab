import MailReplica.Proofs.Pass.Ledger

/-! # The highest UID known over a run of passes

A pass calls a message old if its UID is not above the highest one that was known when the pass had
settled the numbering.  From one call on the store to the next that number falls only where a
numbering is given up and no message is left (`run_noFall`), and a pass that does not fail raises it
to every UID that it kept of its listing (`run_raises`).  So passes that do not fail never tell twice
that a message is new which no earlier pass should have met (`visits_climb`).
-/

namespace MailReplica.Reconcile

open Store (Act Copy Entry FolderState Journaled Memory Watch)

/-! ## Steps -/

/-- Something holds at each step of some deeds, of the copy before the step and of its act. -/
def EachStep (holds : Copy → Act → Prop) : Copy → List Deed → Prop
  | _, [] => True
  | copy, deed :: deeds => holds copy deed.act ∧ EachStep holds (deed.act.on copy) deeds

/-- The highest UID known does not fall with an act, unless the numbering is given up and no message
is left. -/
def KeepsHighest (givesUp : Bool) (copy : Copy) (act : Act) : Prop :=
  copy.state.highestUid ≤ (act.on copy).state.highestUid ∨ givesUp = true ∧ copy.messages = ∅

section Steps

variable {holds : Copy → Act → Prop} {givesUp : Bool} {copy : Copy} {deeds : List Deed}
  {folder : String} {settings : PassSettings} {listed : List Listed}

theorem eachStep_append {first second : List Deed} :
    EachStep holds copy (first ++ second) ↔
      EachStep holds copy first ∧ EachStep holds (replay copy first) second := by
  induction first generalizing copy with
  | nil => simp [EachStep, replay]
  | cons deed first ih =>
    rw [List.cons_append, EachStep, EachStep, ih, and_assoc]
    rfl

theorem EachStep.of_start {whole : List Deed} (each : EachStep holds copy whole)
    (begins : deeds <+: whole) : EachStep holds copy deeds := by
  obtain ⟨rest, rfl⟩ := begins
  exact (eachStep_append.1 each).1

theorem KeepsHighest.of_numbers {act : Act} (same : (act.on copy).numbers = copy.numbers) :
    KeepsHighest givesUp copy act := by
  refine .inl ?_
  unfold Copy.state
  rw [same]
  exact UInt64.le_refl _

theorem keepsHighest_messageWork (work : ∀ deed ∈ deeds, deed.act.isMessageWork = true) :
    EachStep (KeepsHighest givesUp) copy deeds := by
  induction deeds generalizing copy with
  | nil => trivial
  | cons deed deeds ih =>
    rw [List.forall_mem_cons] at work
    exact ⟨.of_numbers (Act.numbers_on work.1 copy), ih work.2⟩

/-- Settling the numbering sets the number back only after the messages are gone. -/
theorem keepsHighest_settle (reported : Option UInt64) (copy : Copy) :
    EachStep (KeepsHighest (renumbers reported copy.state.validity)) copy
      (Plan.settle reported copy) := by
  have recorded (validity : UInt64) (copy : Copy) (givesUp : Bool) : KeepsHighest givesUp copy
      (.setNumber FolderState.validityKey validity.toInt64) := by
    refine .inl ?_
    rw [Copy.state_setValidity]
    exact UInt64.le_refl _
  refine ⟨.of_numbers rfl, .of_numbers rfl, ?_⟩
  unfold Plan.renumber renumbers
  cases reported with
  | none => trivial
  | some validity =>
    cases stored : copy.state.validity with
    | none => exact ⟨recorded validity copy _, trivial⟩
    | some known =>
      dsimp only
      split
      · trivial
      next differ =>
        have givesUp : decide (validity ≠ known) = true :=
          decide_eq_true fun same => differ same.symm
        exact ⟨.of_numbers rfl, .inr ⟨givesUp, rfl⟩, recorded validity _ _, trivial⟩

theorem mem_updates {deed : Deed} (did : deed ∈ Plan.updates folder settings listed copy) :
    ∃ message record?, deed ∈ Plan.update folder settings message record? := by
  induction listed generalizing copy with
  | nil => cases did
  | cons message rest ih => exact (List.mem_append.1 did).elim (fun did => ⟨message, _, did⟩) ih

theorem mem_saves {state : FolderState} {bodies : List Octets} {deed : Deed}
    (did : deed ∈ Plan.saves folder settings state listed bodies) :
    ∃ message ∈ listed, ∃ raw, deed = Plan.save folder settings state message raw := by
  induction listed generalizing bodies with
  | nil => cases did
  | cons message rest ih =>
    cases bodies with
    | nil => cases did
    | cons body bodies =>
      obtain rfl | did := List.mem_cons.1 did
      · exact ⟨message, List.mem_cons_self, body, rfl⟩
      · obtain ⟨other, member, raw, rfl⟩ := ih did
        exact ⟨other, List.mem_cons_of_mem _ member, raw, rfl⟩

/-- The number is written last, and only where it rises. -/
theorem keepsHighest_raise {state : FolderState} (known : copy.state = state) :
    EachStep (KeepsHighest givesUp) copy (Plan.raise state listed) := by
  unfold Plan.raise
  split
  · trivial
  next uid _ =>
    split
    next higher =>
      refine ⟨.inl ?_, trivial⟩
      rw [Copy.state_setHighest, toUInt64_max_zero, known]
      exact UInt64.le_of_lt higher
    next => trivial

/-- All that a pass does about messages comes before it writes the number. -/
theorem reconcile_split (folder : String) (settings : PassSettings) (listed : List Listed)
    (bodies : List Octets) (copy : Copy) :
    ∃ dealt, (∀ deed ∈ dealt, deed.act.isMessageWork = true) ∧
      Plan.reconcile folder settings listed bodies copy =
        dealt ++ Plan.raise copy.state listed := by
  refine ⟨Plan.updates folder settings
      (listed.filter fun message => (datesOf copy).contains message.id) copy ++
    (Plan.saves folder settings copy.state (Pass.newMessages (datesOf copy) listed) bodies ++
      Plan.clean folder settings listed (datesOf copy)), ?_, ?_⟩
  · intro deed did
    obtain did | did := List.mem_append.1 did
    · obtain ⟨message, record?, did⟩ := mem_updates did
      obtain rfl | rfl | ⟨flags, rfl⟩ := Plan.mem_update did <;> rfl
    obtain did | did := List.mem_append.1 did
    · obtain ⟨_, _, _, rfl⟩ := mem_saves did
      rfl
    · rw [Plan.mem_clean did]
      rfl
  · simp only [Plan.reconcile, List.append_assoc]

theorem state_messageWork (work : ∀ deed ∈ deeds, deed.act.isMessageWork = true) :
    (replay copy deeds).state = copy.state := by
  unfold Copy.state
  rw [numbers_replay work]

theorem keepsHighest_reconcile (bodies : List Octets) (copy : Copy) :
    EachStep (KeepsHighest givesUp) copy (Plan.reconcile folder settings listed bodies copy) := by
  obtain ⟨dealt, work, split⟩ := reconcile_split folder settings listed bodies copy
  rw [split]
  exact eachStep_append.2
    ⟨keepsHighest_messageWork work, keepsHighest_raise (state_messageWork work)⟩

theorem Pass.Deals.keepsHighest {ρ : Type} {sides : Sides Journaled ρ} {answers : Answers}
    {store : Journaled} {server : ρ} {result : Except Halt Unit}
    (dealt : Deals sides answers folder settings store server copy deeds result) :
    EachStep (KeepsHighest givesUp) copy deeds := by
  cases dealt with
  | unheard halt => trivial
  | @heard listed bodies _ _ _ _ _ begins _ =>
    have whole : EachStep (KeepsHighest givesUp) copy
        (⟨.look, []⟩ :: Plan.reconcile folder settings listed bodies copy) :=
      ⟨.of_numbers rfl, keepsHighest_reconcile bodies copy⟩
    exact whole.of_start begins

/-- A whole plan raises the number to every UID of its listing. -/
theorem uid_le_highest (bodies : List Octets) (copy : Copy) {message : Listed}
    (member : message ∈ listed) :
    message.uid.toUInt64 ≤
      (replay copy (Plan.reconcile folder settings listed bodies copy)).state.highestUid := by
  obtain ⟨dealt, work, split⟩ := reconcile_split folder settings listed bodies copy
  have raised := (state_raise listed (replay copy dealt)).1
  rw [state_messageWork work, List.foldl_max] at raised
  have among : message.uid.toNat ∈ listed.map fun other => other.uid.toNat :=
    List.mem_map_of_mem member
  rw [split, replay_append, UInt64.le_iff_toNat_le, raised, UInt32.toNat_toUInt64]
  exact Nat.le_trans (List.le_max?_getD_of_mem among) (Nat.le_max_right _ _)

/-- Where no numbering is given up, the highest UID known does not fall over some deeds. -/
theorem EachStep.highest_le (each : EachStep (KeepsHighest false) copy deeds) :
    copy.state.highestUid ≤ (replay copy deeds).state.highestUid := by
  induction deeds generalizing copy with
  | nil => exact UInt64.le_refl _
  | cons deed deeds ih =>
    have first : copy.state.highestUid ≤ (deed.act.on copy).state.highestUid :=
      each.1.resolve_right fun given => Bool.false_ne_true given.1
    exact UInt64.le_trans first (ih each.2)

end Steps

/-! ## New messages -/

/-- The name of a message that is told to be new and that no earlier pass should have met. -/
def Event.freshId? : Event → Option String
  | newMessage _ id false => some id
  | _ => none

def freshIds (events : List Event) : List String :=
  events.filterMap Event.freshId?

section Fresh

variable {folder : String} {settings : PassSettings} {listed : List Listed} {copy : Copy}
  {deeds : List Deed}

theorem freshIds_append (first second : List Event) :
    freshIds (first ++ second) = freshIds first ++ freshIds second :=
  List.filterMap_append

theorem freshIds_messageEvents (events : List Event) :
    freshIds (messageEvents events) = freshIds events := by
  unfold freshIds messageEvents
  rw [List.filterMap_filter]
  refine List.filterMap_congr fun event _ => ?_
  cases event <;> rfl

theorem mem_freshIds_toldBy {id : String} :
    id ∈ freshIds (toldBy deeds) ↔
      ∃ deed ∈ deeds, ∃ event ∈ deed.told, event.freshId? = some id := by
  simp only [freshIds, toldBy, List.mem_filterMap, List.mem_flatMap]
  grind

theorem freshId?_save {state : FolderState} {message : Listed} {raw : Octets} {event : Event}
    {id : String} (told : event ∈ (Plan.save folder settings state message raw).told)
    (fresh : event.freshId? = some id) :
    message.id = id ∧ state.highestUid < message.uid.toUInt64 := by
  rw [List.mem_singleton.1 told] at fresh
  by_cases old : message.uid.toUInt64 ≤ state.highestUid
  · simp [old, Event.freshId?] at fresh
  · simp only [old, decide_false, Event.freshId?, Option.some.injEq] at fresh
    exact ⟨fresh, UInt64.not_le.1 old⟩

theorem freshId?_newMessage {folder id fresh : String} {old : Bool}
    (told : (Event.newMessage folder id old).freshId? = some fresh) : id = fresh := by
  cases old with
  | true => cases told
  | false => exact Option.some.inj told

theorem not_fresh_update {message : Listed} {record? : Option MessageRecord} {deed : Deed}
    (did : deed ∈ Plan.update folder settings message record?) {event : Event}
    (told : event ∈ deed.told) : event.freshId? = none := by
  obtain rfl | rfl | ⟨flags, rfl⟩ := Plan.mem_update did
  · rw [List.mem_singleton.1 told]
    rfl
  · cases told
  · rw [List.mem_singleton.1 told]
    rfl

theorem not_fresh_departure {event : Event}
    (told : event ∈ (Plan.departure folder settings listed copy).told) :
    event.freshId? = none := by
  obtain ⟨_, _, rfl⟩ := List.mem_map.1 told
  rfl

/-- A deed of a plan tells of no fresh message, unless it saves one. -/
theorem mem_reconcile_fresh {bodies : List Octets} {deed : Deed}
    (did : deed ∈ Plan.reconcile folder settings listed bodies copy) {event : Event}
    (told : event ∈ deed.told) {id : String} (fresh : event.freshId? = some id) :
    ∃ message ∈ listed, message.id = id ∧ copy.state.highestUid < message.uid.toUInt64 := by
  obtain did | did := List.mem_append.1 did
  · obtain ⟨message, record?, did⟩ := mem_updates did
    rw [not_fresh_update did told] at fresh
    cases fresh
  obtain did | did := List.mem_append.1 did
  · obtain ⟨message, isNew, raw, rfl⟩ := mem_saves did
    exact ⟨message, (Plan.mem_newMessages.1 isNew).1, freshId?_save told fresh⟩
  obtain did | did := List.mem_append.1 did
  · rw [Plan.mem_clean did] at told
    rw [not_fresh_departure told] at fresh
    cases fresh
  · obtain ⟨value, rfl⟩ := mem_raise did
    cases told

theorem freshIds_eq_nil
    (silent : ∀ deed ∈ deeds, ∀ event ∈ deed.told, event.freshId? = none) :
    freshIds (toldBy deeds) = [] := by
  refine List.eq_nil_iff_forall_not_mem.2 fun id fresh => ?_
  obtain ⟨deed, did, event, told, fresh⟩ := mem_freshIds_toldBy.1 fresh
  rw [silent deed did event told] at fresh
  cases fresh

/-- A plan tells of a fresh message at most once, where a listing names no UID twice. -/
theorem nodup_freshIds_planned (distinct : listed.Pairwise fun left right => left.id ≠ right.id)
    (body : Listed → Octets) :
    (freshIds (toldBy (Pass.planned folder settings listed body copy))).Nodup := by
  have updating : freshIds (toldBy (Plan.updating folder settings listed copy)) = [] := by
    refine freshIds_eq_nil fun deed did event told => ?_
    obtain ⟨message, _, did⟩ := List.mem_flatMap.1 did
    exact not_fresh_update did told
  have cleaning : freshIds (toldBy (Plan.clean folder settings listed (datesOf copy))) = [] := by
    refine freshIds_eq_nil fun deed did event told => ?_
    rw [Plan.mem_clean did] at told
    exact not_fresh_departure told
  have raising : freshIds (toldBy (Plan.raise copy.state listed)) = [] := by
    refine freshIds_eq_nil fun deed did event told => ?_
    obtain ⟨value, rfl⟩ := mem_raise did
    cases told
  have saving : toldBy (Plan.saving folder settings listed body copy) =
      (Pass.newMessages (datesOf copy) listed).map fun message =>
        .newMessage folder message.id (message.uid.toUInt64 ≤ copy.state.highestUid) := by
    unfold Plan.saving toldBy
    rw [List.flatMap_assoc, List.map_eq_flatMap]
    rfl
  have all : freshIds (toldBy (Pass.planned folder settings listed body copy)) =
      freshIds (toldBy (Plan.saving folder settings listed body copy)) := by
    change freshIds (toldBy (Plan.work folder settings listed body copy ++ _)) = _
    simp only [Plan.work, toldBy_append, freshIds_append, updating, cleaning, raising,
      List.nil_append, List.append_nil]
  rw [all, saving, freshIds, List.filterMap_map, List.Nodup, List.pairwise_filterMap]
  refine (Plan.pairwise_newMessages distinct).imp ?_
  rintro left right apart _ isLeft _ isRight rfl
  exact apart ((freshId?_newMessage isLeft).trans (freshId?_newMessage isRight).symm)

end Fresh

/-! ## Single passes -/

def highestIn (folder : String) (memory : Memory) : UInt64 :=
  (memory.copy folder).state.highestUid

/-- From one moment to another the highest UID known does not fall, unless the numbering is given up
and no message is left. -/
def NoFall (folder : String) (givesUp : Bool) (before after : Memory) : Prop :=
  highestIn folder before ≤ highestIn folder after ∨
    givesUp = true ∧ (before.copy folder).messages = ∅

section Runs

variable {ρ : Type} {sides : Sides Journaled ρ} {folder : String} {settings : PassSettings}
  {store : Journaled} {server : ρ}

theorem runEntries_snoc {made : Bool} {deeds : List Deed} {part : List Entry} {entry : Entry}
    (begins : part ++ [entry] <+: runEntries folder made deeds) :
    part = [] ∧ entry = Pass.making folder ∨
      ∃ made' earlier deed, earlier ++ [deed] <+: deeds ∧
        part = runEntries folder made' earlier ∧
        part ++ [entry] = runEntries folder made' (earlier ++ [deed]) := by
  obtain ⟨made', deeds', some, same⟩ := prefix_runEntries begins
  obtain rfl | ⟨earlier, deed, rfl⟩ := deeds'.eq_nil_or_concat'
  · cases made' with
    | false => simp [runEntries, entriesOf] at same
    | true =>
      have same : part ++ [entry] = [] ++ [Pass.making folder] := same
      obtain ⟨rfl, last⟩ := List.append_inj' same rfl
      exact .inl ⟨rfl, List.singleton_inj.1 last⟩
  · have split : runEntries folder made' (earlier ++ [deed]) =
        runEntries folder made' earlier ++ [.inFolder folder deed.act] := by
      simp [runEntries, entriesOf]
    obtain ⟨rfl, _⟩ := List.append_inj' (same.trans split) rfl
    exact .inr ⟨made', earlier, deed, some, rfl, same⟩

/-- Whether a run of a pass finds another numbering reported than the one it knows. -/
def givesUp (sides : Sides Journaled ρ) (folder : String) (store : Journaled) (server : ρ) : Bool :=
  renumbers (Pass.reported sides folder store server) (store.memory.copy folder).state.validity

/-- What a run does, in two parts, and how the highest UID known goes through it. -/
theorem run_steps (faithful : Journaled.watch.Faithful sides.store) (settings : PassSettings)
    (store : Journaled) (server : ρ) :
    ∃ made opened settles deals result,
      Pass.Went Journaled.watch folder store made opened (settles ++ deals) result
        (Pass.run sides folder settings store server) ∧
      settles <+: Plan.settle (Pass.reported sides folder store server)
        (store.memory.copy folder) ∧
      Pass.Deals sides ⟨0, fun _ _ _ => [], fun _ _ => []⟩ folder settings store server
        (replay (store.memory.copy folder) settles) deals result ∧
      EachStep (KeepsHighest (givesUp sides folder store server)) (store.memory.copy folder)
        (settles ++ deals) := by
  obtain ⟨made, opened, settles, deals, result, begins, settled, went, dealt⟩ :=
    Pass.run_staged faithful ⟨0, fun _ _ _ => [], fun _ _ => []⟩ settings store server
  have copied : (Pass.settledStore sides folder store server).memory.copy folder =
      replay (store.memory.copy folder) settles :=
    (congrArg (Memory.copy · folder) settled).trans (copy_runEntries store.memory made settles)
  change Pass.Deals sides _ folder settings store server
    ((Pass.settledStore sides folder store server).memory.copy folder) deals result at dealt
  rw [copied] at dealt
  exact ⟨made, opened, settles, deals, result, went, begins, dealt, eachStep_append.2
    ⟨(keepsHighest_settle _ _).of_start begins, dealt.keepsHighest⟩⟩

/-- The highest UID known does not fall from one moment of a run to the next, unless the numbering
is given up and no message is left. -/
theorem run_noFall (faithful : Journaled.watch.Faithful sides.store) (settings : PassSettings)
    (store : Journaled) (server : ρ) :
    ∃ entries, let ended := Pass.run sides folder settings store server
      ended.store.entries = store.entries ++ entries ∧
      ended.store.memory = store.memory.replay entries ∧
      ∀ part entry, part ++ [entry] <+: entries →
        NoFall folder (givesUp sides folder store server) (store.memory.replay part)
          (store.memory.replay (part ++ [entry])) := by
  obtain ⟨made, opened, settles, deals, result, went, _, _, each⟩ :=
    run_steps faithful settings store server
  refine ⟨runEntries folder made (settles ++ deals), went.journal.trans (Journaled.foldl_note _ _),
    went.memory, fun part entry begins => ?_⟩
  unfold NoFall highestIn
  obtain ⟨rfl, rfl⟩ | ⟨made', earlier, deed, ⟨later, whole⟩, rfl, same⟩ := runEntries_snoc begins
  · have same := Pass.making_copy store.memory folder folder true
    exact .inl (UInt64.le_of_eq (congrArg (fun copy : Copy => copy.state.highestUid) same).symm)
  · rw [same, copy_runEntries, copy_runEntries, replay_append]
    rw [← whole, List.append_assoc] at each
    exact (eachStep_append.1 each).2.1

theorem run_highest_le (faithful : Journaled.watch.Faithful sides.store)
    (stays : givesUp sides folder store server = false) :
    highestIn folder store.memory ≤
      highestIn folder (Pass.run sides folder settings store server).store.memory := by
  obtain ⟨made, opened, settles, deals, result, went, _, _, each⟩ :=
    run_steps faithful settings store server
  rw [stays] at each
  have left := went.copy
  unfold highestIn
  exact (congrArg (fun copy : Copy => _ ≤ copy.state.highestUid) left).mpr each.highest_le

/-- A run that does not fail raises the highest UID known to every UID that it kept of its
listing. -/
theorem run_raises (faithful : Journaled.watch.Faithful sides.store)
    (unfailed : ∀ event ∈ Pass.events (Pass.run sides folder settings store server),
      event.isFailure = false) {message : Listed}
    (kept : message ∈ Pass.recentIn sides folder settings store server) :
    message.uid.toUInt64 ≤
      highestIn folder (Pass.run sides folder settings store server).store.memory := by
  obtain ⟨made, opened, settles, deals, result, went, _, dealt, _⟩ :=
    run_steps faithful settings store server
  obtain rfl := went.completed unfailed
  have left := went.copy
  rw [replay_append] at left
  cases dealt with
  | heard hears _ _ all =>
    have same := Pass.listedIn_serverCalls hears
    rw [all rfl] at left
    unfold Pass.recentIn at kept
    rw [same] at kept
    unfold highestIn
    exact (congrArg (fun copy : Copy => _ ≤ copy.state.highestUid) left).mpr
      (uid_le_highest _ _ kept)

/-- What a run tells to be fresh is above the highest UID that was known before it. -/
theorem run_fresh (faithful : Journaled.watch.Faithful sides.store)
    (stays : givesUp sides folder store server = false) {id : String}
    (fresh : id ∈ freshIds (Pass.events (Pass.run sides folder settings store server))) :
    ∃ message ∈ Pass.recentIn sides folder settings store server, message.id = id ∧
      highestIn folder store.memory < message.uid.toUInt64 := by
  obtain ⟨made, opened, settles, deals, result, went, begins, dealt, each⟩ :=
    run_steps faithful settings store server
  rw [stays] at each
  rw [← freshIds_messageEvents, Pass.messageEvents_dealt went begins dealt.honest] at fresh
  obtain ⟨deed, did, event, told, fresh⟩ := mem_freshIds_toldBy.1 fresh
  cases dealt with
  | unheard halt => cases did
  | heard hears _ part _ =>
    obtain rfl | did := List.mem_cons.1 (part.subset did)
    · cases told
    obtain ⟨message, member, named, higher⟩ := mem_reconcile_fresh did told fresh
    have same := Pass.listedIn_serverCalls hears
    refine ⟨message, ?_, named, ?_⟩
    · unfold Pass.recentIn
      rwa [same]
    · exact UInt64.lt_of_le_of_lt (eachStep_append.1 each).1.highest_le higher

theorem run_nodup (faithful : Journaled.watch.Faithful sides.store)
    (distinct : ((listedIn (Pass.serverCalls sides folder settings store server)).map
      Listed.uid).Nodup) :
    (freshIds (Pass.events (Pass.run sides folder settings store server))).Nodup := by
  obtain ⟨made, opened, settles, deals, result, went, begins, dealt, each⟩ :=
    run_steps faithful settings store server
  have apart := Pass.pairwise_recentIn distinct
  obtain ⟨body, part, _⟩ := dealt.planned apart
  rw [← freshIds_messageEvents, Pass.messageEvents_dealt went begins dealt.honest]
  exact ((toldBy_start part).sublist.filterMap _).nodup (nodup_freshIds_planned apart body)

end Runs

/-! ## Passes one after the other -/

/-- A pass of a run of passes: its settings, and what it meets. -/
structure Visit (ρ : Type) where
  settings : PassSettings
  store : Journaled
  server : ρ

namespace Visit

variable {ρ : Type} (sides : Sides Journaled ρ) (folder : String) (visit : Visit ρ)

def ended : Progress Journaled ρ :=
  Pass.run sides folder visit.settings visit.store visit.server

/-- What the pass did to the store, call by call. -/
def entries : List Entry :=
  (visit.ended sides folder).store.entries.drop visit.store.entries.length

/-- The recent messages of the listing that the pass got. -/
def kept : List Listed :=
  Pass.recentIn sides folder visit.settings visit.store visit.server

def fresh : List String :=
  freshIds (Pass.events (visit.ended sides folder))

def Unfailed : Prop :=
  ∀ event ∈ Pass.events (visit.ended sides folder), event.isFailure = false

/-- The server gave the pass no UID twice. -/
def Distinct : Prop :=
  ((listedIn (Pass.serverCalls sides folder visit.settings visit.store visit.server)).map
    Listed.uid).Nodup

/-- The known and the reported numbering are both known and differ. -/
def GivesUp : Prop :=
  givesUp sides folder visit.store visit.server = true

end Visit

/-- Passes over a folder, each from what the last one left. -/
def visits {ρ : Type} (sides : Sides Journaled ρ) (folder : String) :
    List PassSettings → Journaled → ρ → List (Visit ρ)
  | [], _, _ => []
  | settings :: rest, store, server =>
    let visit : Visit ρ := ⟨settings, store, server⟩
    visit :: visits sides folder rest (visit.ended sides folder).store
      (visit.ended sides folder).server

/-- How the highest UID known goes over a run of passes. -/
structure Climbs {ρ : Type} (sides : Sides Journaled ρ) (folder : String) (run : List (Visit ρ)) :
    Prop where
  /-- The calls of a pass lead from the store that it meets to the one that it leaves. -/
  moves : ∀ visit ∈ run,
    (visit.ended sides folder).store.memory = visit.store.memory.replay (visit.entries sides folder)
  /-- The highest UID known does not fall from one moment to the next, except in a pass that gives
  up the numbering, and then only once no message is left. -/
  steps : ∀ visit ∈ run, ∀ part entry, part ++ [entry] <+: visit.entries sides folder →
    highestIn folder (visit.store.memory.replay part) ≤
        highestIn folder (visit.store.memory.replay (part ++ [entry])) ∨
      visit.GivesUp sides folder ∧ ((visit.store.memory.replay part).copy folder).messages = ∅
  /-- A pass that does not fail raises it to every UID that it kept. -/
  reaches : ∀ visit ∈ run, visit.Unfailed sides folder → ∀ message ∈ visit.kept sides folder,
    message.uid.toUInt64 ≤ highestIn folder (visit.ended sides folder).store.memory
  /-- Where no pass fails or gives up the numbering, a message that is told to be fresh is above
  everything that an earlier pass kept, and none is told to be so twice. -/
  fresh : (∀ visit ∈ run, visit.Unfailed sides folder ∧ visit.Distinct sides folder ∧
      ¬ visit.GivesUp sides folder) →
    (∀ earlier visit later, run = earlier ++ visit :: later → ∀ id ∈ visit.fresh sides folder,
      ∃ message ∈ visit.kept sides folder, message.id = id ∧
        ∀ before ∈ earlier, ∀ other ∈ before.kept sides folder, other.uid < message.uid) ∧
    (run.flatMap fun visit => visit.fresh sides folder).Nodup

section Visits

variable {ρ : Type} {sides : Sides Journaled ρ} {folder : String}

/-- Where no numbering is given up, no pass meets a lower number than an earlier one left. -/
theorem pairwise_visits (faithful : Journaled.watch.Faithful sides.store)
    (passes : List PassSettings) (store : Journaled) (server : ρ)
    (stays : ∀ visit ∈ visits sides folder passes store server, ¬ visit.GivesUp sides folder) :
    (∀ visit ∈ visits sides folder passes store server,
      highestIn folder store.memory ≤ highestIn folder visit.store.memory) ∧
    (visits sides folder passes store server).Pairwise fun before after =>
      highestIn folder (before.ended sides folder).store.memory ≤
        highestIn folder after.store.memory := by
  induction passes generalizing store server with
  | nil => exact ⟨List.forall_mem_nil _, .nil⟩
  | cons settings passes ih =>
    rw [visits, List.forall_mem_cons] at stays
    obtain ⟨higher, ordered⟩ := ih _ _ stays.2
    have first : highestIn folder store.memory ≤
        highestIn folder (Pass.run sides folder settings store server).store.memory :=
      run_highest_le faithful (Bool.eq_false_iff.2 stays.1)
    rw [visits, List.forall_mem_cons, List.pairwise_cons]
    exact ⟨⟨UInt64.le_refl _, fun visit after => UInt64.le_trans first (higher visit after)⟩,
      higher, ordered⟩

theorem visit_noFall (faithful : Journaled.watch.Faithful sides.store) (visit : Visit ρ) :
    (visit.ended sides folder).store.memory =
        visit.store.memory.replay (visit.entries sides folder) ∧
      ∀ part entry, part ++ [entry] <+: visit.entries sides folder →
        NoFall folder (givesUp sides folder visit.store visit.server)
          (visit.store.memory.replay part) (visit.store.memory.replay (part ++ [entry])) := by
  obtain ⟨entries, journal, memory, noFall⟩ :=
    @run_noFall ρ sides folder faithful visit.settings visit.store visit.server
  have same : visit.entries sides folder = entries := by
    unfold Visit.entries Visit.ended
    rw [journal, List.drop_left]
  rw [same]
  exact ⟨memory, noFall⟩

/-- What a pass kept that did not fail is below every message that is above what is known later. -/
theorem uid_lt_of_kept (faithful : Journaled.watch.Faithful sides.store) {before after : Visit ρ}
    (unfailed : before.Unfailed sides folder)
    (ordered : highestIn folder (before.ended sides folder).store.memory ≤
      highestIn folder after.store.memory)
    {message other : Listed} (higher : highestIn folder after.store.memory < message.uid.toUInt64)
    (kept : other ∈ before.kept sides folder) : other.uid < message.uid := by
  have raised : other.uid.toUInt64 ≤ highestIn folder (before.ended sides folder).store.memory :=
    run_raises faithful unfailed kept
  have below := UInt64.lt_of_le_of_lt (UInt64.le_trans raised ordered) higher
  rw [UInt64.lt_iff_toNat_lt, UInt32.toNat_toUInt64, UInt32.toNat_toUInt64] at below
  exact UInt32.lt_iff_toNat_lt.2 below

/-- Over any run of passes, whatever the server answers and whichever calls fail, the highest UID
known goes as `Climbs` says. -/
theorem visits_climb (folder : String) (faults : Nat → Option Store.Failure) (remote : Server ρ)
    (passes : List PassSettings) (store : Journaled) (server : ρ) :
    Climbs ⟨Journaled.handler faults, remote⟩ folder
      (visits ⟨Journaled.handler faults, remote⟩ folder passes store server) := by
  have faithful := Journaled.faithful_handler faults
  refine ⟨fun visit _ => (visit_noFall faithful visit).1,
    fun visit _ => (visit_noFall faithful visit).2,
    fun visit _ unfailed message kept => run_raises faithful unfailed kept, fun usual => ?_⟩
  obtain ⟨_, ordered⟩ := pairwise_visits faithful passes store server fun visit member =>
    (usual visit member).2.2
  refine ⟨?_, List.nodup_flatMap.2 ⟨?_, ?_⟩⟩
  · intro earlier visit later run id fresh
    rw [run] at usual ordered
    have own := usual visit (List.mem_append_right _ List.mem_cons_self)
    obtain ⟨message, kept, named, higher⟩ :=
      run_fresh faithful (Bool.eq_false_iff.2 own.2.2) fresh
    refine ⟨message, kept, named, fun before member other keptBefore => ?_⟩
    have after := (List.pairwise_append.1 ordered).2.2 before member visit List.mem_cons_self
    exact uid_lt_of_kept faithful (usual before (List.mem_append_left _ member)).1 after higher
      keptBefore
  · exact fun visit member => run_nodup faithful (usual visit member).2.1
  · refine ordered.imp_of_mem fun {before after} isBefore isAfter ordered => ?_
    -- A message told by both would have a UID below itself.
    intro id freshBefore freshAfter
    obtain ⟨other, keptBefore, rfl, _⟩ :=
      run_fresh faithful (Bool.eq_false_iff.2 (usual before isBefore).2.2) freshBefore
    obtain ⟨message, _, named, higher⟩ :=
      run_fresh faithful (Bool.eq_false_iff.2 (usual after isAfter).2.2) freshAfter
    have below := uid_lt_of_kept faithful (usual before isBefore).1 ordered higher keptBefore
    rw [Listed.uid_eq_of_id_eq named] at below
    exact UInt32.lt_irrefl _ below

end Visits

/-- A server whose only message is another one at each visit. -/
def growing : Server UInt32 where
  run call visit :=
    (.ok ((⟨1, fun _ _ _ => [⟨visit, ∅, none, none⟩], fun _ _ => []⟩ : Answers).reply call), visit)
  validity _ := some 9
  close visit := visit + 1

theorem visits_climb_twoVisits :
    let sides : Sides Journaled UInt32 := ⟨Journaled.handler fun _ => none, growing⟩
    let run := visits sides "INBOX" [.usual, .usual] ⟨.empty, 0, []⟩ 4
    run.map (Visit.fresh sides "INBOX") = [["4"], ["5"]] ∧
      (∀ visit ∈ run, visit.Unfailed sides "INBOX" ∧ visit.Distinct sides "INBOX" ∧
        ¬ visit.GivesUp sides "INBOX") ∧
      (run.flatMap fun visit => visit.fresh sides "INBOX").Nodup := by
  intro sides run
  have climbs : Climbs sides "INBOX" run :=
    visits_climb "INBOX" (fun _ => none) growing [.usual, .usual] ⟨.empty, 0, []⟩ 4
  have usual : ∀ visit ∈ run, visit.Unfailed sides "INBOX" ∧ visit.Distinct sides "INBOX" ∧
      ¬ visit.GivesUp sides "INBOX" := by
    unfold Visit.Unfailed Visit.Distinct Visit.GivesUp
    decide +kernel
  exact ⟨by decide +kernel, usual, (climbs.fresh usual).2⟩

end MailReplica.Reconcile
