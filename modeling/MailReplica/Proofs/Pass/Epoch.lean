import MailReplica.Proofs.Pass.Dealing
import MailReplica.Proofs.Pass.Outcome

/-! # Records of different numberings never meet

A server that gives its messages new numbers reports another numbering, and what was kept before means
nothing any more.  The reset is three calls that can fail one by one, and a server may report its
numbering at some times and not at others.  Still, at every moment between two calls on the store
every record was saved in a pass that was told of the stored numbering or of none
(`moments_unmixed`).

The store does not keep the numbering with a record, so the invariant `Unmixed` speaks about stamps:
for each message the numbering that was reported in the pass that saved it last.
-/

namespace MailReplica.Reconcile

open Store (Act Copy Entry FolderState Journaled Memory)

/-! ## Stamps -/

/-- For each message the numbering that was reported in the pass that saved it last. -/
abbrev Stamps := String → Option (Option UInt64)

def savesIn (folder id : String) : Entry → Bool
  | .inFolder place (.save record) => place = folder ∧ record.id = id
  | _ => false

/-- The stamps after an entry that a pass left in which `reported` was reported. -/
def stampAfter (folder : String) (reported : Option UInt64) (stamps : Stamps) (entry : Entry) :
    Stamps := fun id => if savesIn folder id entry = true then some reported else stamps id

/-- Every record was saved in a pass that was told of the stored numbering or of none. -/
def Unmixed (copy : Copy) (stamps : Stamps) : Prop :=
  ∀ id ∈ copy.messages,
    ∃ reported, stamps id = some reported ∧ (reported = none ∨ reported = copy.state.validity)

/-- Whether a pass in which `reported` was reported may do an act without mixing numberings. -/
def Allowed (reported : Option UInt64) (copy : Copy) : Act → Prop
  | .save _ => reported = none ∨ copy.state.validity = reported
  | .setNumber key _ =>
    key ≠ FolderState.validityKey ∨ copy.state.validity = none ∨ copy.messages = ∅
  | _ => True

section Step

variable {folder : String} {copy : Copy} {stamps : Stamps} {reported : Option UInt64}

theorem unmixed_of_empty (empty : copy.messages = ∅) : Unmixed copy stamps := by
  intro id found
  rw [empty] at found
  simp at found

theorem Unmixed.of_fewer {after : Copy} (unmixed : Unmixed copy stamps)
    (fewer : ∀ id ∈ after.messages, id ∈ copy.messages)
    (validity : after.state.validity = copy.state.validity) : Unmixed after stamps := by
  intro id found
  rw [validity]
  exact unmixed id (fewer id found)

theorem mem_on (folder : String) {act : Act} {id : String} (found : id ∈ (act.on copy).messages) :
    id ∈ copy.messages ∨ savesIn folder id (.inFolder folder act) = true := by
  rw [Std.ExtTreeMap.mem_iff_isSome_getElem?, Act.getElem?_on] at found
  rw [Std.ExtTreeMap.mem_iff_isSome_getElem?]
  cases act <;> grind [Act.onRecord, savesIn]

theorem validity_setNumber {key : String} (other : key ≠ FolderState.validityKey) (value : Int64)
    (copy : Copy) : ((Act.setNumber key value).on copy).state.validity = copy.state.validity := by
  simp [Act.on, Copy.state, Std.ExtTreeMap.getElem?_insert, other]

theorem Unmixed.act {act : Act} (unmixed : Unmixed copy stamps)
    (allowed : Allowed reported copy act) :
    Unmixed (act.on copy) (stampAfter folder reported stamps (.inFolder folder act)) := by
  have fewer (idle : ∀ id, savesIn folder id (.inFolder folder act) = false) :
      ∀ id ∈ (act.on copy).messages, id ∈ copy.messages := by
    intro id found
    obtain known | saved := mem_on folder found
    · exact known
    · rw [idle] at saved
      cases saved
  cases act with
  | look => exact unmixed
  | readNumber key => exact unmixed
  | save record =>
    intro id found
    unfold stampAfter
    split
    next => exact ⟨reported, rfl, allowed.imp_right Eq.symm⟩
    next idle =>
      obtain known | saved := mem_on folder found
      · exact unmixed id known
      · exact absurd saved idle
  | setFlags ids flags => exact unmixed.of_fewer (fewer fun _ => rfl) rfl
  | remove ids => exact unmixed.of_fewer (fewer fun _ => rfl) rfl
  | removeAll => exact unmixed_of_empty rfl
  | setNumber key value =>
    -- A validity that is recorded for the first time leaves only records saved without one.
    obtain other | unnumbered | empty := allowed
    · exact unmixed.of_fewer (fewer fun _ => rfl) (validity_setNumber other value copy)
    · intro id found
      obtain ⟨stamp, stamped, none | same⟩ := unmixed id found
      · exact ⟨stamp, stamped, .inl none⟩
      · exact ⟨stamp, stamped, .inl (same.trans unnumbered)⟩
    · exact unmixed_of_empty empty

end Step

/-! ## Plans -/

/-- A pass in which `reported` was reported may do some deeds one after the other. -/
def AllowedAll (reported : Option UInt64) : Copy → List Deed → Prop
  | _, [] => True
  | copy, deed :: deeds =>
    Allowed reported copy deed.act ∧ AllowedAll reported (deed.act.on copy) deeds

section Plan

variable {folder : String} {settings : PassSettings} {copy : Copy} {reported : Option UInt64}
  {deeds : List Deed}

theorem allowedAll_append {first second : List Deed} :
    AllowedAll reported copy (first ++ second) ↔
      AllowedAll reported copy first ∧ AllowedAll reported (replay copy first) second := by
  induction first generalizing copy with
  | nil => simp [AllowedAll, replay]
  | cons deed first ih =>
    rw [List.cons_append, AllowedAll, AllowedAll, ih, and_assoc]
    rfl

theorem AllowedAll.of_start {plan : List Deed} (allowed : AllowedAll reported copy plan)
    (some : deeds <+: plan) : AllowedAll reported copy deeds := by
  obtain ⟨rest, rfl⟩ := some
  exact (allowedAll_append.1 allowed).1

/-- The validity is recorded where none was, or once the messages are gone. -/
theorem allowedAll_settle : AllowedAll reported copy (Plan.settle reported copy) := by
  unfold Plan.settle Plan.renumber
  cases reported with
  | none => exact ⟨trivial, trivial, trivial⟩
  | some validity =>
    cases stored : copy.state.validity with
    | none => exact ⟨trivial, trivial, .inr (.inl stored), trivial⟩
    | some known =>
      dsimp only
      split
      · exact ⟨trivial, trivial, trivial⟩
      · -- The messages go first, and the validity is recorded last.
        have apart : FolderState.highestKey ≠ FolderState.validityKey := by decide
        exact ⟨trivial, trivial, trivial, .inl apart, .inr (.inr rfl), trivial⟩

def Deed.IsReconciling (deed : Deed) : Prop :=
  deed.act.isMessageWork = true ∨ ∃ value, deed.act = .setNumber FolderState.highestKey value

theorem Deed.IsDealing.isReconciling {deed : Deed} (dealing : deed.IsDealing folder) :
    deed.IsReconciling := by
  cases dealing with
  | look => exact .inl rfl
  | save record old => exact .inl rfl
  | reflag id flags => exact .inl rfl
  | remove ids => exact .inl rfl
  | raise value => exact .inr ⟨value, rfl⟩

theorem validity_reconciling {deed : Deed} (reconciling : deed.IsReconciling) (copy : Copy) :
    (deed.act.on copy).state.validity = copy.state.validity := by
  obtain work | ⟨value, raises⟩ := reconciling
  · unfold Copy.state
    rw [Act.numbers_on work]
  · rw [raises]
    exact validity_setNumber (by decide) value copy

/-- Under a settled numbering everything that brings messages in line is allowed, and the numbering
stays. -/
theorem allowedAll_reconciling (numbered : reported = none ∨ copy.state.validity = reported)
    (reconciling : ∀ deed ∈ deeds, deed.IsReconciling) :
    AllowedAll reported copy deeds ∧
      (replay copy deeds).state.validity = copy.state.validity := by
  induction deeds generalizing copy with
  | nil => exact ⟨trivial, rfl⟩
  | cons deed deeds ih =>
    rw [List.forall_mem_cons] at reconciling
    have same := validity_reconciling reconciling.1 copy
    obtain ⟨allowed, stays⟩ := ih (by rwa [same]) reconciling.2
    refine ⟨⟨?_, allowed⟩, stays.trans same⟩
    obtain work | ⟨value, raises⟩ := reconciling.1
    · cases act : deed.act <;> simp_all [Allowed, Act.isMessageWork]
    · rw [raises]
      exact .inl (by decide)

/-- A plan that settles the numbering first keeps records apart, and does not look at messages before
the numbering is the reported one. -/
theorem allowedAll_planned {listed : List Listed} {bodies : List Octets} {plan : List Deed}
    (planned : plan = Plan.settle reported copy ++ (⟨.look, []⟩ ::
      Plan.reconcile folder settings listed bodies (Plan.renumbered reported copy))) :
    AllowedAll reported copy plan ∧
      ∀ part, part <+: plan → (∃ deed ∈ part, deed.act.isMessageWork = true) →
        reported = none ∨ (replay copy part).state.validity = reported := by
  have numbered : reported = none ∨
      (Plan.renumbered reported copy).state.validity = reported := by
    rw [renumbered_state]
    cases reported <;> simp
  have reconciling : ∀ deed ∈ ⟨.look, []⟩ ::
      Plan.reconcile folder settings listed bodies (Plan.renumbered reported copy),
      deed.IsReconciling := by
    rw [List.forall_mem_cons]
    exact ⟨.inl rfl, fun _ did => (dealing_reconcile did).isReconciling⟩
  subst planned
  refine ⟨allowedAll_append.2
    ⟨allowedAll_settle, (allowedAll_reconciling numbered reconciling).1⟩, ?_⟩
  rintro part some ⟨deed, did, work⟩
  obtain settling | ⟨rest, finishing, rfl⟩ := prefix_append_cases some
  · rw [not_messageWork_settling settling did] at work
    cases work
  · have stays := (allowedAll_reconciling numbered fun deed did =>
      reconciling deed (finishing.subset did)).2
    rw [replay_append]
    exact numbered.imp_right fun same => stays.trans same

end Plan

/-! ## Moments -/

/-- What a pass did to the store, and the numbering that was reported in it. -/
structure PassLog where
  reported : Option UInt64
  entries : List Entry

def history {ρ : Type} (sides : Sides Journaled ρ) (folder : String) :
    List PassSettings → Journaled → ρ → List PassLog
  | [], _, _ => []
  | settings :: rest, store, server =>
    let ended := Pass.run sides folder settings store server
    ⟨Pass.reported sides folder store server, ended.store.entries.drop store.entries.length⟩ ::
      history sides folder rest ended.store ended.server

def PassLog.stamps (folder : String) (stamps : Stamps) (log : PassLog) : Stamps :=
  log.entries.foldl (stampAfter folder log.reported) stamps

section Moments

variable {folder : String}

theorem unmixed_entriesOf {memory : Memory} {stamps : Stamps} {reported : Option UInt64}
    {deeds : List Deed} (unmixed : Unmixed (memory.copy folder) stamps)
    (allowed : AllowedAll reported (memory.copy folder) deeds) :
    Unmixed ((memory.replay (entriesOf folder deeds)).copy folder)
      (PassLog.stamps folder stamps ⟨reported, entriesOf folder deeds⟩) := by
  induction deeds generalizing memory stamps with
  | nil => exact unmixed
  | cons deed deeds ih =>
    have acted := Entry.copy_apply memory folder folder deed.act
    rw [if_pos rfl] at acted
    have after : Unmixed (((Entry.inFolder folder deed.act).apply memory).copy folder)
        (stampAfter folder reported stamps (.inFolder folder deed.act)) := by
      rw [acted]
      exact unmixed.act allowed.1
    have rest : AllowedAll reported (((Entry.inFolder folder deed.act).apply memory).copy folder)
        deeds := by
      rw [acted]
      exact allowed.2
    exact ih after rest

theorem unmixed_runEntries {memory : Memory} {stamps : Stamps} {reported : Option UInt64}
    (made : Bool) {deeds : List Deed} (unmixed : Unmixed (memory.copy folder) stamps)
    (allowed : AllowedAll reported (memory.copy folder) deeds) :
    Unmixed ((memory.replay (runEntries folder made deeds)).copy folder)
      (PassLog.stamps folder stamps ⟨reported, runEntries folder made deeds⟩) := by
  cases made with
  | false => exact unmixed_entriesOf unmixed allowed
  | true =>
    rw [← Entry.copy_create memory [⟨folder, folder⟩] folder] at unmixed allowed
    exact unmixed_entriesOf unmixed allowed

/-- Whether records are kept apart, and messages looked at under the reported numbering only, at the
moment when a store holds `memory` and `part` has been done of a pass. -/
structure Apart (folder : String) (memory : Memory) (stamps : Stamps) (part : PassLog) : Prop where
  unmixed : Unmixed ((memory.replay part.entries).copy folder) (part.stamps folder stamps)
  numbered : ∀ act, act.isMessageWork = true → .inFolder folder act ∈ part.entries →
    part.reported = none ∨
      ((memory.replay part.entries).copy folder).state.validity = part.reported

variable {ρ : Type} {sides : Sides Journaled ρ}

theorem run_apart (faithful : Journaled.watch.Faithful sides.store) (settings : PassSettings)
    {store : Journaled} (server : ρ) {stamps : Stamps}
    (unmixed : Unmixed (store.memory.copy folder) stamps) :
    ∃ entries, let ended := Pass.run sides folder settings store server
      let reported := Pass.reported sides folder store server
      ended.store.entries = store.entries ++ entries ∧
      ended.store.memory = store.memory.replay entries ∧
      ∀ part, part <+: entries → Apart folder store.memory stamps ⟨reported, part⟩ := by
  have apart {made : Bool} {deeds : List Deed} {reported : Option UInt64}
      (allowed : AllowedAll reported (store.memory.copy folder) deeds)
      (numbered : ∀ part, part <+: deeds → (∃ deed ∈ part, deed.act.isMessageWork = true) →
        reported = none ∨ (replay (store.memory.copy folder) part).state.validity = reported)
      (part : List Entry) (some : part <+: runEntries folder made deeds) :
      Apart folder store.memory stamps ⟨reported, part⟩ := by
    obtain ⟨made', deeds', fewer, rfl⟩ := prefix_runEntries some
    refine ⟨unmixed_runEntries made' unmixed (allowed.of_start fewer), ?_⟩
    intro act work did
    obtain ⟨deed, done, rfl⟩ := mem_runEntries did
    rw [copy_runEntries]
    exact numbered deeds' fewer ⟨deed, done, work⟩
  cases Pass.run_course faithful ⟨0, fun _ _ _ => [], fun _ _ => []⟩ settings store server with
  | unopened went =>
    refine ⟨runEntries folder _ [], ?_, went.memory, apart trivial ?_⟩
    · exact went.journal.trans (Journaled.foldl_note _ _)
    · rintro part none ⟨deed, did, _⟩
      rw [List.prefix_nil.1 none] at did
      cases did
  | @opened _ _ _ deeds _ _ _ _ heard some _ went =>
    obtain ⟨listed, bodies, _, _, planned⟩ := heard
    obtain ⟨allowed, numbered⟩ := allowedAll_planned planned
    refine ⟨runEntries folder true deeds, ?_, went.memory, apart (allowed.of_start some) ?_⟩
    · exact went.journal.trans (Journaled.foldl_note _ _)
    · exact fun part fewer => numbered part (fewer.trans some)

/-- What one run keeps apart, the runs after it keep apart. -/
theorem history_apart (faithful : Journaled.watch.Faithful sides.store)
    (passes : List PassSettings) {store : Journaled} {server : ρ} {stamps : Stamps}
    (unmixed : Unmixed (store.memory.copy folder) stamps) {earlier later : List PassLog}
    {pass : PassLog} (run : history sides folder passes store server = earlier ++ pass :: later)
    {part : List Entry} (some : part <+: pass.entries) :
    Apart folder (store.memory.replay (earlier.flatMap PassLog.entries))
      (earlier.foldl (PassLog.stamps folder) stamps) ⟨pass.reported, part⟩ := by
  -- The stamps after one run are where the next one starts, and its copy is unmixed by its last moment.
  induction passes generalizing store server stamps earlier with
  | nil => simp [history] at run
  | cons settings passes ih =>
    obtain ⟨entries, journal, memory, apart⟩ := run_apart faithful settings server unmixed
    rw [history, journal, List.drop_left] at run
    cases earlier with
    | nil =>
      obtain ⟨rfl, rfl⟩ := List.cons_eq_cons.1 run
      exact apart part some
    | cons first earlier =>
      obtain ⟨rfl, goesOn⟩ := List.cons_eq_cons.1 run
      have stillUnmixed := (apart entries List.prefix_rfl).unmixed
      rw [← memory] at stillUnmixed
      have later := ih stillUnmixed goesOn
      rw [memory] at later
      rw [List.flatMap_cons, Memory.replay, List.foldl_append]
      exact later

/-- Starting from a folder without messages, whatever the server answers and whichever calls fail,
records are kept apart at every moment of a run of passes: after the passes `earlier` and a part of
what the next one did. -/
theorem moments_unmixed (folder : String) (faults : Nat → Option Store.Failure)
    (remote : Server ρ) (passes : List PassSettings) (store : Journaled) (server : ρ)
    (empty : (store.memory.copy folder).messages = ∅) (earlier later : List PassLog)
    (pass : PassLog)
    (run : history ⟨Journaled.handler faults, remote⟩ folder passes store server =
      earlier ++ pass :: later)
    (part : List Entry) (some : part <+: pass.entries) :
    Apart folder (store.memory.replay (earlier.flatMap PassLog.entries))
      (earlier.foldl (PassLog.stamps folder) fun _ => none) ⟨pass.reported, part⟩ :=
  history_apart (Journaled.faithful_handler faults) passes (unmixed_of_empty empty) run some

end Moments

/-- A server with one message, which it gives new numbers at every visit. -/
def restless : Server UInt64 where
  run call visit :=
    (.ok ((⟨1, fun _ _ _ => [⟨4, ∅, none, none⟩], fun _ _ => []⟩ : Answers).reply call), visit)
  validity visit := some visit
  close visit := visit + 1

/-- A store whose thirteenth call fails, which is the one that would end the first reset. -/
def thirteenthFails (call : Nat) : Option Store.Failure :=
  if call = 12 then some (.refused "full") else none

/-- Two visits, the second of which stops half-way in the reset. -/
def twoVisits : List PassLog :=
  history ⟨Journaled.handler thirteenthFails, restless⟩ "INBOX" [.usual, .usual]
    ⟨.empty, 0, []⟩ 1

theorem moments_unmixed_twoVisits :
    ∃ first second, twoVisits = [first, second] ∧ first.reported = some 1 ∧
      second.reported = some 2 ∧
      second.entries = [Pass.making "INBOX",
        .inFolder "INBOX" (.readNumber FolderState.highestKey),
        .inFolder "INBOX" (.readNumber FolderState.validityKey), .inFolder "INBOX" .removeAll,
        .inFolder "INBOX" (.setNumber FolderState.highestKey 0)] ∧
      Apart "INBOX" (Memory.empty.replay ([first].flatMap PassLog.entries))
        ([first].foldl (PassLog.stamps "INBOX") fun _ => none) second := by
  refine ⟨_, _, rfl, ?_, ?_, ?_, ?_⟩
  · decide +kernel
  · decide +kernel
  · decide +kernel
  · exact moments_unmixed "INBOX" thirteenthFails restless [.usual, .usual] ⟨.empty, 0, []⟩ 1 rfl
      [_] [] _ rfl _ List.prefix_rfl

end MailReplica.Reconcile
