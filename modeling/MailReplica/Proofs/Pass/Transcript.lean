import MailReplica.Proofs.Pass.Lockstep

/-! # Transcripts of a run

Any store and any server can be made to note each call with its answer.  This changes nothing else
about a run (`run_noting`), so what the notes say after a run over noting sides is what was said in
the run over the sides themselves: `storeCalls` and `serverCalls`.
-/

namespace MailReplica

/-! ## Exchanges -/

namespace Store

/-- A call on a local store with its answer. -/
inductive Exchange where
  | createFolders (folders : List FolderInfo) (answer : Except Failure Unit)
  | ids (folder : String) (answer : Except Failure (Std.ExtTreeSet String))
  | dates (folder : String) (answer : Except Failure (Std.ExtTreeMap String (Option Instant)))
  | message (folder id : String) (answer : Except Failure (Option MessageRecord))
  | flags (folder id : String) (answer : Except Failure (Option FlagSet))
  | save (folder : String) (record : MessageRecord) (answer : Except Failure Unit)
  | setFlags (folder : String) (ids : List String) (flags : FlagSet) (answer : Except Failure Unit)
  | remove (folder : String) (ids : List String) (answer : Except Failure Unit)
  | removeAll (folder : String) (answer : Except Failure Unit)
  | number (folder key : String) (answer : Except Failure (Option Int64))
  | setNumber (folder key : String) (value : Int64) (answer : Except Failure Unit)

namespace Exchange

def of {α : Type} : Call α → Except Failure α → Exchange
  | .createFolders folders, answer => createFolders folders answer
  | .ids folder, answer => ids folder answer
  | .dates folder, answer => dates folder answer
  | .message folder id, answer => message folder id answer
  | .flags folder id, answer => flags folder id answer
  | .save folder record, answer => save folder record answer
  | .setFlags folder names marks, answer => setFlags folder names marks answer
  | .remove folder names, answer => remove folder names answer
  | .removeAll folder, answer => removeAll folder answer
  | .number folder key, answer => number folder key answer
  | .setNumber folder key value, answer => setNumber folder key value answer

/-- Why the store refused a call, if it did. -/
def failure? : Exchange → Option Failure
  | createFolders _ answer | save _ _ answer | setFlags _ _ _ answer | remove _ _ answer
  | removeAll _ answer | setNumber _ _ _ answer => refusal? answer
  | ids _ answer => refusal? answer
  | dates _ answer => refusal? answer
  | message _ _ answer => refusal? answer
  | flags _ _ answer => refusal? answer
  | number _ _ answer => refusal? answer

theorem failure?_of {α : Type} (call : Call α) (answer : Except Failure α) :
    (of call answer).failure? = refusal? answer := by
  cases call <;> rfl

end Exchange

end Store

namespace Reconcile

/-- A call on a server with its answer. -/
inductive Exchange where
  | folder (id : String) (answer : Except Failure Unit)
  | openFolder (mode : OpenMode) (answer : Except Failure Unit)
  | count (answer : Except Failure Int)
  | list (first last : UInt32) (cutoff : Option DatedInstant)
      (answer : Except Failure (List Listed))
  | fetch (uid : UInt32) (extent : FetchExtent) (answer : Except Failure Octets)
  | expunge (answer : Except Failure Unit)
  /-- The folder is let go. -/
  | close

namespace Exchange

def of {α : Type} : ServerCall α → Except Failure α → Exchange
  | .folder id, answer => folder id answer
  | .openFolder mode, answer => openFolder mode answer
  | .count, answer => count answer
  | .list first last cutoff, answer => list first last cutoff answer
  | .fetch uid extent, answer => fetch uid extent answer
  | .expunge, answer => expunge answer

end Exchange

/-! ## Noting -/

/-- A state together with notes, the latest one last. -/
structure Noted (σ κ : Type) where
  state : σ
  notes : List κ

variable {σ ρ : Type}

def Server.noting (server : Server ρ) : Server (Noted ρ Exchange) where
  run call noted :=
    ((server.run call noted.state).1,
      ⟨(server.run call noted.state).2,
        noted.notes ++ [.of call (server.run call noted.state).1]⟩)
  validity noted := server.validity noted.state
  close noted := ⟨server.close noted.state, noted.notes ++ [.close]⟩

def notingStore (store : Store.Handler σ) : Store.Handler (Noted σ Store.Exchange) where
  run call noted :=
    ((store.run call noted.state).1,
      ⟨(store.run call noted.state).2,
        noted.notes ++ [.of call (store.run call noted.state).1]⟩)

def Sides.noting (sides : Sides σ ρ) : Sides (Noted σ Store.Exchange) (Noted ρ Exchange) :=
  ⟨notingStore sides.store, sides.server.noting⟩

namespace Pass

def withoutNotes {κ κ' : Type} (progress : Progress (Noted σ κ) (Noted ρ κ')) : Progress σ ρ :=
  ⟨progress.store.state, progress.server.state, progress.told⟩

/-- Two runs that are the same except for the notes, whether they halt or not. -/
def sameButNotes (σ ρ κ κ' : Type) : Pairing (Noted σ κ) (Noted ρ κ') σ ρ where
  now before before' := withoutNotes before = before'
  parted halt after halt' after' := halt' = some halt ∧ withoutNotes after = after'

variable {sides : Sides σ ρ} {folder : String} {settings : PassSettings} {store : σ} {server : ρ}

theorem keep_noting {α : Type} (step : Step) (call : Store.Call α)
    (before : Progress (Noted σ Store.Exchange) (Noted ρ Exchange)) :
    keep step (sides.noting.store.call call) before =
      match sides.store.run call before.store.state with
      | (.ok value, state) =>
        (.ok value, { before with
          store := ⟨state, before.store.notes ++ [.of call (.ok value)]⟩ })
      | (.error failure, state) =>
        (.error ⟨step, .storage failure.text⟩, { before with
          store := ⟨state, before.store.notes ++ [.of call (.error failure)]⟩ }) := by
  have noted : sides.noting.store.run call before.store =
      ((sides.store.run call before.store.state).1,
        ⟨(sides.store.run call before.store.state).2,
          before.store.notes ++ [.of call (sides.store.run call before.store.state).1]⟩) := rfl
  unfold keep Store.Handler.call
  rw [noted]
  generalize sides.store.run call before.store.state = outcome
  match outcome with
  | (.ok value, state) => rfl
  | (.error failure, state) => rfl

theorem ask_noting {α : Type} (step : Step) (call : ServerCall α)
    (before : Progress (Noted σ Store.Exchange) (Noted ρ Exchange)) :
    ask sides.noting step call before =
      match sides.server.run call before.server.state with
      | (.ok value, state) =>
        (.ok value, { before with
          server := ⟨state, before.server.notes ++ [.of call (.ok value)]⟩ })
      | (.error failure, state) =>
        (.error ⟨step, failure⟩, { before with
          server := ⟨state, before.server.notes ++ [.of call (.error failure)]⟩ }) := by
  have noted : sides.noting.server.run call before.server =
      ((sides.server.run call before.server.state).1,
        ⟨(sides.server.run call before.server.state).2,
          before.server.notes ++ [.of call (sides.server.run call before.server.state).1]⟩) := rfl
  unfold ask
  rw [noted]
  generalize sides.server.run call before.server.state = outcome
  match outcome with
  | (.ok value, state) => rfl
  | (.error failure, state) => rfl

/-- Parts that do the same but for the notes keep in step. -/
theorem inStep_of_forget {κ κ' α : Type} {part : Pass (Noted σ κ) (Noted ρ κ') α}
    {part' : Pass σ ρ α}
    (same : ∀ before, part' (withoutNotes before) =
      ((part before).1, withoutNotes (part before).2)) :
    InStep (sameButNotes σ ρ κ κ') part part' where
  together := by
    rintro before _ rfl
    unfold Ends
    rw [same before]
    match part before with
    | (.ok value, after) => exact ⟨_, rfl, rfl⟩
    | (.error halt, after) => exact ⟨rfl, rfl⟩
  alone := by
    rintro _ _ _ ⟨halted, _⟩
    cases halted

theorem lockstep_noting (sides : Sides σ ρ) :
    Lockstep sides.noting sides (sameButNotes σ ρ Store.Exchange Exchange) where
  call step call := by
    refine inStep_of_forget fun before => ?_
    rw [keep_noting]
    unfold keep Store.Handler.call withoutNotes
    dsimp only
    match sides.store.run call before.store.state with
    | (.ok value, state) => rfl
    | (.error failure, state) => rfl
  ask step call := by
    refine inStep_of_forget fun before => ?_
    rw [ask_noting]
    unfold ask withoutNotes
    dsimp only
    match sides.server.run call before.server.state with
    | (.ok value, state) => rfl
    | (.error failure, state) => rfl
  tell event := inStep_of_forget fun _ => rfl
  throw halt := inStep_of_forget fun _ => rfl
  validity before before' same := by rw [← same]; rfl

/-- Noting changes nothing about a part of a pass that keeps in step. -/
theorem InStep.withoutNotes_eq {κ κ' α : Type} {part : Pass (Noted σ κ) (Noted ρ κ') α}
    {part' : Pass σ ρ α} (inStep : InStep (sameButNotes σ ρ κ κ') part part')
    (before : Progress (Noted σ κ) (Noted ρ κ')) :
    part' (withoutNotes before) = ((part before).1, withoutNotes (part before).2) := by
  have together := inStep.together before _ rfl
  unfold Ends at together
  match ran : part before with
  | (.ok value, after) =>
    rw [ran] at together
    obtain ⟨after', ran', rfl⟩ := together
    exact ran'
  | (.error halt, after) =>
    rw [ran] at together
    obtain ⟨halted, same⟩ := together
    -- The pairing says that the second run has halted as well, so only that case is left.
    match ran' : part' (withoutNotes before) with
    | (.ok value, after') =>
      rw [ran'] at halted
      cases halted
    | (.error halt', after') =>
      rw [ran'] at halted same
      cases halted
      exact congrArg (Prod.mk _) same.symm

/-- A run over sides that note each call, from empty notes on. -/
def notedRun (sides : Sides σ ρ) (folder : String) (settings : PassSettings) (store : σ)
    (server : ρ) : Progress (Noted σ Store.Exchange) (Noted ρ Exchange) :=
  run sides.noting folder settings ⟨store, []⟩ ⟨server, []⟩

/-- The calls on the store in a run, from the first on. -/
def storeCalls (sides : Sides σ ρ) (folder : String) (settings : PassSettings) (store : σ)
    (server : ρ) : List Store.Exchange :=
  (notedRun sides folder settings store server).store.notes

/-- The calls on the server in a run, from the first on. -/
def serverCalls (sides : Sides σ ρ) (folder : String) (settings : PassSettings) (store : σ)
    (server : ρ) : List Exchange :=
  (notedRun sides folder settings store server).server.notes

theorem whole_noting (sides : Sides σ ρ) (folder : String) (settings : PassSettings) (store : σ)
    (server : ρ) :
    whole sides folder settings (begun folder store server) =
      let ended := whole sides.noting folder settings (begun folder ⟨store, []⟩ ⟨server, []⟩)
      (ended.1, withoutNotes ended.2) :=
  ((lockstep_noting sides).whole folder settings).withoutNotes_eq
    (begun folder ⟨store, []⟩ ⟨server, []⟩)

theorem prepare_noting (sides : Sides σ ρ) (folder : String) (store : σ) (server : ρ) :
    (prepare sides folder (begun folder store server)).1 =
      (prepare sides.noting folder (begun folder ⟨store, []⟩ ⟨server, []⟩)).1 :=
  congrArg Prod.fst (((lockstep_noting sides).prepare folder).withoutNotes_eq
    (begun folder ⟨store, []⟩ ⟨server, []⟩))

theorem settle_told {κ κ' : Type} (folder : String) (result : Except Halt Unit)
    (progress : Progress (Noted σ κ) (Noted ρ κ')) :
    (settle folder result (withoutNotes progress)).told = (settle folder result progress).told := by
  cases result <;> rfl

/-- Noting changes nothing but the notes. -/
theorem run_noting (sides : Sides σ ρ) (folder : String) (settings : PassSettings) (store : σ)
    (server : ρ) :
    withoutNotes (notedRun sides folder settings store server) =
      run sides folder settings store server := by
  obtain ⟨storeLeft, told, serverLeft⟩ := run_whole sides folder settings store server
  obtain ⟨storeNoted, toldNoted, serverNoted⟩ :=
    run_whole sides.noting folder settings (⟨store, []⟩ : Noted σ Store.Exchange)
      (⟨server, []⟩ : Noted ρ Exchange)
  rw [whole_noting] at storeLeft told serverLeft
  rw [prepare_noting] at serverLeft
  have sameStore : (notedRun sides folder settings store server).store.state =
      (run sides folder settings store server).store := by
    rw [storeLeft, notedRun, storeNoted]
    rfl
  have sameServer : (notedRun sides folder settings store server).server.state =
      (run sides folder settings store server).server := by
    rw [serverLeft, notedRun, serverNoted]
    split <;> rfl
  have sameTold : (notedRun sides folder settings store server).told =
      (run sides folder settings store server).told := by
    -- What is known of a run is its events, which are what it told in reverse.
    apply List.reverse_injective
    change events _ = events _
    rw [told, notedRun, toldNoted, settle_told]
  change (⟨(notedRun sides folder settings store server).store.state,
      (notedRun sides folder settings store server).server.state,
      (notedRun sides folder settings store server).told⟩ : Progress σ ρ) =
    ⟨(run sides folder settings store server).store,
      (run sides folder settings store server).server,
      (run sides folder settings store server).told⟩
  rw [sameStore, sameServer, sameTold]

end Pass

end Reconcile

end MailReplica
