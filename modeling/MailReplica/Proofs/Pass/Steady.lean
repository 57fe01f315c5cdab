import MailReplica.Proofs.Pass.Outcome
import MailReplica.Proofs.Pass.Target
import MailReplica.Proofs.Pass.Window

/-! # Passes against a steady server

The answers of a steady server depend on nothing but the call until messages are expunged, though
any call may fail.  Against such a server there is just one plan for each copy
(`Pass.planHeard_eq`), and a pass that does not fail leaves the copy that the plan leads to.
-/

namespace MailReplica.Reconcile

open Store (Act Copy Entry FolderState InMemory Memory Watch)

/-- The messages that a pass lists, before it leaves out those that are not recent. -/
def Answers.inWindow (answers : Answers) (settings : PassSettings) : List Listed :=
  match Pass.windowOf settings answers.count with
  | none => []
  | some (first, last) => answers.listing first last settings.cutoff

theorem Answers.inWindow_of_empty {answers : Answers} (settings : PassSettings)
    (empty : answers.count ≤ 0) : answers.inWindow settings = [] := by
  unfold inWindow
  rw [Pass.windowOf_eq_none_iff.2 empty]

/-- Of a folder with messages, those are listed whose numbers are among the latest ones. -/
theorem Answers.exists_inWindow {answers : Answers} (settings : PassSettings)
    (counted : 0 < answers.count) :
    ∃ first last, answers.inWindow settings = answers.listing first last settings.cutoff ∧
      ∀ number : UInt32, first ≤ number ∧ number ≤ last ↔
        IsLatest (min answers.count.toNat (UInt32.size - 1)) settings.visibleLimit.toNat
          number.toNat := by
  unfold inWindow
  cases found : Pass.windowOf settings answers.count with
  | none => exact absurd (Pass.windowOf_eq_none_iff.1 found) (Int.not_le.2 counted)
  | some range => exact ⟨range.1, range.2, rfl, Pass.mem_windowOf found⟩

def Answers.recent (answers : Answers) (settings : PassSettings) : List Listed :=
  (answers.inWindow settings).filter (Pass.isRecent settings)

def Answers.octets (answers : Answers) (settings : PassSettings) (message : Listed) : Octets :=
  answers.body message.uid (Pass.extent settings message).1

/-- A server that gives the same answers about a folder, from when a pass that meets it in the state
`start` has got hold of the folder, and that reports the same numbering whenever it has counted the
messages.  Calls may fail. -/
structure Steady {ρ : Type} (server : Server ρ) (folder : String) (answers : Answers)
    (numbering : Option UInt64) (start : ρ) : Prop where
  answered : ∀ {α : Type} (call : ServerCall α) {state : ρ} {value : α} {next : ρ},
    Reached server (server.run (.folder folder) start).2 state →
    server.run call state = (.ok value, next) → value = answers.reply call
  numbered : ∀ {state : ρ} {count : Int} {next : ρ},
    Reached server (server.run (.folder folder) start).2 state →
    server.run .count state = (.ok count, next) → server.validity next = numbering

/-- A pass over a folder of a steady server counts the same messages under the same numbering. -/
theorem Steady.counted {ρ : Type} {server : Server ρ} {folder : String} {answers : Answers}
    {numbering : Option UInt64} {start after : ρ} {count : Int}
    (steady : Steady server folder answers numbering start)
    (counts : Pass.CountedAs server folder start count after) :
    count = answers.count ∧ server.validity after = numbering ∧
      Reached server (server.run (.folder folder) start).2 after := by
  obtain ⟨found, opened, got, opens, counted⟩ := counts
  have atHand : Reached server (server.run (.folder folder) start).2 found := by
    rw [got]
    exact .start
  have isOpen := atHand.of_run rfl opens
  exact ⟨steady.answered .count isOpen counted, steady.numbered isOpen counted,
    isOpen.of_run rfl counted⟩

def Answers.server (answers : Answers) (numbering : Option UInt64) : Server Unit where
  run call state := (.ok (answers.reply call), state)
  validity _ := numbering
  close state := state

theorem Answers.steady_server (answers : Answers) (numbering : Option UInt64) (folder : String) :
    Steady (answers.server numbering) folder answers numbering () where
  answered call state value next _ answered := by
    cases answered
    rfl
  numbered _ _ := rfl

def twoListed : Answers where
  count := 2
  listing _ _ _ :=
    [⟨7, .ofList [Flag.seen], none, some 12⟩, ⟨3, .ofList [Flag.flagged, .deleted], none, none⟩]
  body _ _ := [72, 105]

/-- A store that knows a message which is listed, and one which is not. -/
def twoKnown : Memory :=
  Memory.empty.replay
    [.inFolder "INBOX" (.save ⟨"3", .ofList [Flag.draft], .full, none, none, "", "", none⟩),
      .inFolder "INBOX" (.save ⟨"5", .ofList [Flag.draft], .full, none, none, "", "", none⟩)]

namespace Pass

/-- What a pass does with a copy whose numbering is settled. -/
def finish (folder : String) (settings : PassSettings) (answers : Answers) (copy : Copy) :
    List Deed :=
  ⟨.look, []⟩ ::
    (Plan.work folder settings (answers.recent settings) (answers.octets settings) copy ++
      Plan.raise copy.state (answers.recent settings))

/-- Everything that a pass does with an open folder, when the server reports `numbering`. -/
def planOf (folder : String) (settings : PassSettings) (answers : Answers)
    (numbering : Option UInt64) (copy : Copy) : List Deed :=
  Plan.settle numbering copy ++
    finish folder settings answers (Plan.renumbered numbering copy)

section

variable {σ ρ κ : Type} {watch : Watch σ κ} {sides : Sides σ ρ} {answers : Answers}
  {numbering : Option UInt64} {folder : String} {settings : PassSettings} {store : σ} {server : ρ}

theorem pairwise_recent (distinct : ((answers.inWindow settings).map Listed.uid).Nodup) :
    (answers.recent settings).Pairwise fun left right => left.id ≠ right.id :=
  (Listed.pairwise_id distinct).filter _

theorem heard_eq {α : Type} (steady : Steady sides.server folder answers numbering server)
    {start : ρ} (reached : Reached sides.server (sides.server.run (.folder folder) server).2 start)
    {call : ServerCall α} {value : α} (heard : Heard sides.server answers start call value) :
    value = answers.reply call := by
  obtain same | ⟨state, further, answered⟩ := heard
  · exact same
  · exact steady.answered call (reached.trans further) (Prod.ext answered rfl)

theorem heardBodies_eq (steady : Steady sides.server folder answers numbering server)
    {start : ρ} (reached : Reached sides.server (sides.server.run (.folder folder) server).2 start)
    {listed : List Listed} {bodies : List Octets}
    (heard : HeardBodies sides.server answers settings start listed bodies) :
    bodies = listed.map (answers.octets settings) := by
  unfold HeardBodies at heard
  induction heard with
  | nil => rfl
  | cons body _ ih => rw [List.map_cons, ih, heard_eq steady reached body]; rfl

theorem planHeard_eq (steady : Steady sides.server folder answers numbering server)
    (distinct : ((answers.inWindow settings).map Listed.uid).Nodup) {copy : Copy} {state : ρ}
    (reached : Reached sides.server (sides.server.run (.folder folder) server).2 state)
    {plan : List Deed}
    (heard : PlanHeard sides.server answers folder settings answers.count state
      (Plan.settle numbering copy) (Plan.renumbered numbering copy) plan) :
    plan = planOf folder settings answers numbering copy := by
  obtain ⟨listed, bodies, heardListing, heardBodies, rfl⟩ := heard
  have listing : listed = answers.recent settings := by
    unfold HeardListing at heardListing
    unfold Answers.recent Answers.inWindow
    cases window : windowOf settings answers.count with
    | none =>
      rw [window] at heardListing
      exact heardListing
    | some range =>
      rw [window] at heardListing
      obtain ⟨raw, heardRaw, rfl⟩ := heardListing
      have same : raw = answers.listing range.1 range.2 settings.cutoff :=
        heardRaw.elim id fun answered => steady.answered _ reached (Prod.ext answered rfl)
      rw [same]
  subst listing
  rw [heardBodies_eq steady reached heardBodies,
    Plan.reconcile_eq (pairwise_recent distinct) (answers.octets settings)]
  rfl

/-- A run does the first so many deeds of its plan, and all of them if it does not fail. -/
theorem run_steady (faithful : watch.Faithful sides.store)
    (steady : Steady sides.server folder answers numbering server)
    (distinct : ((answers.inWindow settings).map Listed.uid).Nodup) (store : σ) :
    ∃ made opened deeds result,
      Went watch folder store made opened deeds result (run sides folder settings store server) ∧
      deeds <+: planOf folder settings answers numbering ((watch.memory store).copy folder) ∧
      (result = .ok () →
        deeds = planOf folder settings answers numbering ((watch.memory store).copy folder)) := by
  cases run_course faithful answers settings store server with
  | unopened went => exact ⟨_, _, _, _, went, List.nil_prefix, nofun⟩
  | opened _ counted reports heard some all went =>
    obtain ⟨rfl, numbered, reached⟩ := steady.counted counted
    rw [← reports, numbered] at heard
    obtain rfl := planHeard_eq steady distinct reached heard
    exact ⟨_, _, _, _, went, some, all⟩

theorem run_completed {memory : σ → Memory} (inMemory : InMemory sides.store memory)
    (steady : Steady sides.server folder answers numbering server)
    (distinct : ((answers.inWindow settings).map Listed.uid).Nodup)
    (unfailed : ∀ event ∈ events (run sides folder settings store server),
      event.isFailure = false) :
    (memory (run sides folder settings store server).store).copy folder =
      replay ((memory store).copy folder)
        (planOf folder settings answers numbering ((memory store).copy folder)) := by
  obtain ⟨_, _, _, _, went, _, all⟩ := run_steady inMemory steady distinct store
  obtain rfl := all (went.completed unfailed)
  exact went.copy

/-! ## The copy after a whole plan -/

theorem replay_finish (copy : Copy) :
    replay copy (finish folder settings answers copy) =
      replay (replay copy
          (Plan.work folder settings (answers.recent settings) (answers.octets settings) copy))
        (Plan.raise copy.state (answers.recent settings)) :=
  replay_append copy _ _

theorem replay_planOf (copy : Copy) :
    replay copy (planOf folder settings answers numbering copy) =
      replay (Plan.renumbered numbering copy)
        (finish folder settings answers (Plan.renumbered numbering copy)) :=
  replay_append copy _ _

theorem getElem?_finish (distinct : ((answers.inWindow settings).map Listed.uid).Nodup)
    (copy : Copy) (id : String) :
    (replay copy (finish folder settings answers copy)).messages[id]? =
      target settings (answers.recent settings) (answers.octets settings) id
        copy.messages[id]? := by
  rw [replay_finish, replay_raise]
  exact getElem?_work (pairwise_recent distinct) id

theorem numbers_finish (copy : Copy) :
    (replay copy (finish folder settings answers copy)).numbers =
      raisedNumbers (answers.recent settings) copy.state copy.numbers := by
  rw [replay_finish, replay_raise, numbers_work]

/-- A whole plan raises the highest UID known, and leaves the numbering alone once it is settled. -/
theorem state_finish (folder : String) (settings : PassSettings) (answers : Answers)
    (copy : Copy) :
    (replay copy (finish folder settings answers copy)).state.highestUid.toNat =
        ((answers.recent settings).map fun message => message.uid.toNat).foldl max
          copy.state.highestUid.toNat ∧
      (replay copy (finish folder settings answers copy)).state.validity =
        copy.state.validity := by
  have raised := state_raise (answers.recent settings)
    (replay copy
      (Plan.work folder settings (answers.recent settings) (answers.octets settings) copy))
  rw [state_work] at raised
  rw [replay_finish]
  exact raised

end

end Pass

end MailReplica.Reconcile
