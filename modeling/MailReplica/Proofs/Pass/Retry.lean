import MailReplica.Proofs.Pass.Resume

/-! # Passes that are tried again

However often passes fail, and wherever, once one does not fail the folder is as one pass would have
left it that did not fail in the first place.  All of them together tell about messages what that one
tells (`retries_converge`).
-/

namespace MailReplica.Reconcile.Pass

open Store (Copy InMemory Journaled Memory)

variable {σ ρ : Type}

/-- Runs passes one after the other, each from the store that the last one left and with the server in
the next of the given states.  Gives the store that is left and what all the passes told. -/
def attempts (sides : Sides σ ρ) (folder : String) (settings : PassSettings) (store : σ) :
    List ρ → σ × List Event
  | [] => (store, [])
  | server :: servers =>
    let ended := run sides folder settings store server
    let rest := attempts sides folder settings ended.store servers
    (rest.1, events ended ++ rest.2)

section Attempts

variable {sides : Sides σ ρ} {memory : σ → Memory} {answers : Answers}
  {numbering : Option UInt64} {folder : String} {settings : PassSettings}

theorem messageEvents_append (first second : List Event) :
    messageEvents (first ++ second) = messageEvents first ++ messageEvents second :=
  List.filter_append first second

theorem honest_planOf {copy : Copy} :
    ∀ deed ∈ planOf folder settings answers numbering copy, deed.IsHonest := by
  intro deed did
  obtain settling | finishing := List.mem_append.1 did
  · have silent : ∀ event ∈ deed.told, event ∈ toldBy (Plan.settle numbering copy) :=
      fun event told => List.mem_flatMap.2 ⟨deed, settling, told⟩
    rw [told_settle] at silent
    exact fun event told => nomatch silent event told
  · exact honest_finish deed finishing

theorem messageEvents_run {κ : Type} {watch : Store.Watch σ κ} {store : σ} {made opened : Bool}
    {deeds : List Deed} {result : Except Halt Unit} {ended : Progress σ ρ}
    (went : Went watch folder store made opened deeds result ended)
    (honest : ∀ deed ∈ deeds, deed.IsHonest) :
    messageEvents (events ended) = toldBy deeds := by
  have failing : messageEvents (failureOf folder result) = [] := by cases result <;> rfl
  have opening : messageEvents (if opened then [.authenticated] else []) = [] := by
    cases opened <;> rfl
  rw [went.events]
  change messageEvents (_ ++ [.finished folder]) = _
  rw [messageEvents_append, messageEvents_append, messageEvents_append, failing, opening,
    messageEvents_toldBy honest]
  simp [messageEvents, Event.message?]

/-- What a run does is taken up by the plan that is made after it. -/
theorem run_resumes (inMemory : InMemory sides.store memory)
    {server : ρ} (steady : Steady sides.server folder answers numbering server)
    (distinct : ((answers.inWindow settings).map Listed.uid).Nodup)
    (later : NoneTooOldLater settings (answers.recent settings)) {store : σ}
    (noneTooOld : NoneTooOld settings (answers.recent settings) ((memory store).copy folder)) :
    let ended := run sides folder settings store server
    let plan := planOf folder settings answers numbering
    NoneTooOld settings (answers.recent settings) ((memory ended.store).copy folder) ∧
      replay ((memory ended.store).copy folder) (plan ((memory ended.store).copy folder)) =
        replay ((memory store).copy folder) (plan ((memory store).copy folder)) ∧
      (messageEvents (events ended) ++ toldBy (plan ((memory ended.store).copy folder))).Perm
        (toldBy (plan ((memory store).copy folder))) := by
  obtain ⟨_, _, deeds, _, went, some, _⟩ := run_steady inMemory steady distinct store
  have left : (memory (run sides folder settings store server).store).copy folder =
      replay ((memory store).copy folder) deeds := went.copy
  obtain ⟨resumes, stillRecent⟩ := resumes_of_start distinct later noneTooOld some
  dsimp only
  rw [left, messageEvents_run went fun deed did => honest_planOf deed (some.subset did)]
  exact ⟨stillRecent, resumes.leads, resumes.tells⟩

/-- What passes do one after the other is taken up by the plan that is made after them. -/
theorem attempts_resume (inMemory : InMemory sides.store memory) {servers : List ρ}
    (steady : ∀ server ∈ servers, Steady sides.server folder answers numbering server)
    (distinct : ((answers.inWindow settings).map Listed.uid).Nodup)
    (later : NoneTooOldLater settings (answers.recent settings)) {store : σ}
    (noneTooOld : NoneTooOld settings (answers.recent settings) ((memory store).copy folder)) :
    let tried := attempts sides folder settings store servers
    let plan := planOf folder settings answers numbering
    NoneTooOld settings (answers.recent settings) ((memory tried.1).copy folder) ∧
      replay ((memory tried.1).copy folder) (plan ((memory tried.1).copy folder)) =
        replay ((memory store).copy folder) (plan ((memory store).copy folder)) ∧
      (messageEvents tried.2 ++ toldBy (plan ((memory tried.1).copy folder))).Perm
        (toldBy (plan ((memory store).copy folder))) := by
  -- What is carried along is the copy that the plan leads to, which no attempt changes.
  induction servers generalizing store with
  | nil => exact ⟨noneTooOld, rfl, .refl _⟩
  | cons server servers ih =>
    rw [List.forall_mem_cons] at steady
    obtain ⟨recent, leads, tells⟩ := run_resumes inMemory steady.1 distinct later noneTooOld
    obtain ⟨recent', leads', tells'⟩ := ih steady.2 recent
    refine ⟨recent', leads'.trans leads, ?_⟩
    simp only [attempts, messageEvents_append, List.append_assoc]
    exact (tells'.append_left _).trans tells

theorem messageEvents_completed (inMemory : InMemory sides.store memory)
    {server : ρ} (steady : Steady sides.server folder answers numbering server)
    (distinct : ((answers.inWindow settings).map Listed.uid).Nodup) {store : σ}
    (unfailed : ∀ event ∈ events (run sides folder settings store server),
      event.isFailure = false) :
    messageEvents (events (run sides folder settings store server)) =
      toldBy (planOf folder settings answers numbering ((memory store).copy folder)) := by
  obtain ⟨_, _, _, _, went, _, all⟩ := run_steady inMemory steady distinct store
  obtain rfl := all (went.completed unfailed)
  exact messageEvents_run went honest_planOf

end Attempts

/-- Passes that fail anywhere, and one at last that does not, leave the folder as a single pass does
that does not fail.  Together they tell the same about messages. -/
theorem retries_converge {σ' ρ' : Type} {sides : Sides σ ρ} {sides' : Sides σ' ρ'}
    {memory : σ → Memory} {memory' : σ' → Memory} {answers : Answers}
    {numbering : Option UInt64} {folder : String} {settings : PassSettings}
    {servers : List ρ} {server : ρ} {server' : ρ'} (inMemory : InMemory sides.store memory)
    (inMemory' : InMemory sides'.store memory')
    (steady : ∀ state ∈ server :: servers, Steady sides.server folder answers numbering state)
    (steady' : Steady sides'.server folder answers numbering server')
    (distinct : ((answers.inWindow settings).map Listed.uid).Nodup) {store : σ} {store' : σ'}
    (same : (memory store).copy folder = (memory' store').copy folder)
    (agree : DatesAgree settings (answers.inWindow settings) ((memory store).copy folder))
    (unfailed : ∀ event ∈ events (run sides folder settings
      (attempts sides folder settings store servers).1 server), event.isFailure = false)
    (unfailed' : ∀ event ∈ events (run sides' folder settings store' server'),
      event.isFailure = false) :
    let tried := attempts sides folder settings store servers
    let ended := run sides folder settings tried.1 server
    let single := run sides' folder settings store' server'
    (memory ended.store).copy folder = (memory' single.store).copy folder ∧
      (messageEvents (tried.2 ++ events ended)).Perm (messageEvents (events single)) := by
  rw [List.forall_mem_cons] at steady
  obtain ⟨_, leads, tells⟩ :=
    attempts_resume inMemory steady.2 distinct agree.noneTooOldLater agree.noneTooOld
  have left := run_completed inMemory steady.1 distinct unfailed
  have left' := run_completed inMemory' steady' distinct unfailed'
  have heard := messageEvents_completed inMemory steady.1 distinct unfailed
  have heard' := messageEvents_completed inMemory' steady' distinct unfailed'
  rw [← same] at left' heard'
  refine ⟨left.trans (leads.trans left'.symm), ?_⟩
  simp only [messageEvents_append, heard, heard']
  exact tells

/-- A store whose seventh call fails, which is the first one that saves a message. -/
def seventhFails (call : Nat) : Option Store.Failure :=
  if call = 6 then some (.refused "full") else none

theorem retries_converge_two :
    let sides : Sides Journaled Unit := ⟨Journaled.handler seventhFails, twoListed.server (some 9)⟩
    let single : Progress Memory Unit :=
      run ⟨Memory.handler, twoListed.server (some 9)⟩ "INBOX" .usual twoKnown ()
    let tried := attempts sides "INBOX" .usual ⟨twoKnown, 0, []⟩ [()]
    let ended := run sides "INBOX" .usual tried.1 ()
    (∃ event ∈ tried.2, event.isFailure = true) ∧
      ended.store.memory.copy "INBOX" = single.store.copy "INBOX" ∧
      (messageEvents (tried.2 ++ events ended)).Perm (messageEvents (events single)) := by
  refine ⟨by decide +kernel, ?_⟩
  have unfailed : ∀ event ∈ events (run
      ⟨Journaled.handler seventhFails, twoListed.server (some 9)⟩ "INBOX" .usual
      (attempts ⟨Journaled.handler seventhFails, twoListed.server (some 9)⟩ "INBOX" .usual
        ⟨twoKnown, 0, []⟩ [()]).1 ()), event.isFailure = false := by
    decide +kernel
  have unfailed' : ∀ event ∈
      events (run ⟨Memory.handler, twoListed.server (some 9)⟩ "INBOX" .usual twoKnown ()),
      event.isFailure = false := by
    decide +kernel
  have distinct : ((twoListed.inWindow .usual).map Listed.uid).Nodup := by decide
  have same : (Journaled.memory ⟨twoKnown, 0, []⟩).copy "INBOX" = (id twoKnown).copy "INBOX" := rfl
  have steady := twoListed.steady_server (some 9) "INBOX"
  have converged := retries_converge (Journaled.faithful_handler seventhFails).inMemory
    Memory.inMemory_handler (fun _ _ => steady) steady distinct same (.inl rfl) unfailed unfailed'
  exact converged

end MailReplica.Reconcile.Pass
