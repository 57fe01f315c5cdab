import MailReplica.Proofs.Pass.Outcome

/-! # The two halves of a run

A run first opens its folder and settles the numbering, and then brings the copy in line.  Apart
from how a run lets its folder go it is these two halves in sequence (`run_whole`).  The numbering
is looked at once only, when the server has counted the messages (`run_reporting`).
-/

namespace MailReplica.Reconcile

open Store (FolderState)

variable {σ ρ : Type}

/-- The sides with a server that reports `numbering` whenever it is asked. -/
def Sides.reporting (sides : Sides σ ρ) (numbering : Option UInt64) : Sides σ ρ :=
  ⟨sides.store, { sides.server with validity := fun _ => numbering }⟩

namespace Pass

/-- The first half of a run: opens the folder on both sides and settles its numbering. -/
def settling (sides : Sides σ ρ) (folder : String) : Pass σ ρ (Int × FolderState) := do
  let count ← opening sides folder
  let state ← keep .loadState (FolderState.load sides.store folder)
  return (count, ← checkValidity sides folder state)

/-- The second half of a run: brings a copy with a settled numbering in line. -/
def continuing (sides : Sides σ ρ) (folder : String) (settings : PassSettings)
    (settled : Int × FolderState) : Pass σ ρ Unit := do
  let listed ← listing sides settings settled.1
  let known ← keep .readLocal (sides.store.call (.dates folder))
  reconcile sides folder settings settled.2 listed known
  if settings.expungePolicy = .onPoll then
    ask sides .expunge .expunge

/-- A run up to where it lets the folder go. -/
def whole (sides : Sides σ ρ) (folder : String) (settings : PassSettings) : Pass σ ρ Unit := do
  continuing sides folder settings (← settling sides folder)

theorem whole_eq (sides : Sides σ ρ) (folder : String) (settings : PassSettings) :
    whole sides folder settings = (do
      prepare sides folder
      align sides folder settings) := by
  unfold whole settling continuing align replicate opening
  simp only [bind_assoc, pure_bind]

variable {sides : Sides σ ρ} {folder : String} {settings : PassSettings} {store : σ} {server : ρ}

/-- What a run leaves is what its halves leave. -/
theorem run_whole (sides : Sides σ ρ) (folder : String) (settings : PassSettings) (store : σ)
    (server : ρ) :
    let ended := whole sides folder settings (begun folder store server)
    (run sides folder settings store server).store = ended.2.store ∧
      events (run sides folder settings store server) =
        (settle folder ended.1 ended.2).told.reverse ++ [.finished folder] ∧
      (run sides folder settings store server).server =
        if (prepare sides folder (begun folder store server)).1.isOk then
          sides.server.close ended.2.server
        else ended.2.server := by
  rw [whole_eq]
  dsimp only
  rw [bind_apply, run_eq, events]
  match prepare sides folder (begun folder store server) with
  | (.error halt, after) => simp [settle, Except.isOk, Except.toBool]
  | (.ok (), middle) =>
    dsimp only
    cases (align sides folder settings middle).1 <;> simp [settle, Except.isOk, Except.toBool]

/-! ## The numbering -/

theorem keep_server {α : Type} (step : Step) (work : Store.Work σ α) (before : Progress σ ρ) :
    (keep step work before).2.server = before.server := by
  unfold keep
  match work before.store with
  | (.ok value, after) => rfl
  | (.error failure, after) => rfl

theorem opening_reporting (sides : Sides σ ρ) (folder : String) (numbering : Option UInt64) :
    opening (sides.reporting numbering) folder = opening sides folder := rfl

theorem checkValidity_reporting {numbering : Option UInt64} {before : Progress σ ρ}
    (reports : sides.server.validity before.server = numbering) (state : FolderState) :
    checkValidity (sides.reporting numbering) folder state before =
      checkValidity sides folder state before := by
  subst reports
  rfl

theorem settling_reporting {numbering : Option UInt64} {before : Progress σ ρ}
    (reports : ∀ count opened, opening sides folder before = (.ok count, opened) →
      sides.server.validity opened.server = numbering) :
    settling (sides.reporting numbering) folder before = settling sides folder before := by
  unfold settling
  rw [bind_apply, bind_apply, opening_reporting]
  match began : opening sides folder before with
  | (.error halt, after) => rfl
  | (.ok count, opened) =>
    dsimp only
    have sameStore : (sides.reporting numbering).store = sides.store := rfl
    rw [bind_apply, bind_apply, sameStore]
    -- Loading the state asks the store, so the server still is as it was when it counted.
    have sameServer := keep_server .loadState (FolderState.load sides.store folder) opened
    match ran : keep .loadState (FolderState.load sides.store folder) opened with
    | (.error halt, loaded) => rfl
    | (.ok state, loaded) =>
      rw [ran] at sameServer
      dsimp only at sameServer ⊢
      have stillReports : sides.server.validity loaded.server = numbering := by
        rw [sameServer]
        exact reports count opened began
      rw [bind_apply, bind_apply, checkValidity_reporting stillReports]

theorem whole_reporting (sides : Sides σ ρ) (folder : String) (settings : PassSettings) (store : σ)
    (server : ρ) :
    whole (sides.reporting (reported sides folder store server)) folder settings
        (begun folder store server) =
      whole sides folder settings (begun folder store server) := by
  unfold whole
  rw [bind_apply, bind_apply, settling_reporting]
  · rfl
  · intro count opened began
    unfold reported
    rw [began]

/-- All that a run goes by is what the server reports when the messages are counted. -/
theorem run_reporting (sides : Sides σ ρ) (folder : String) (settings : PassSettings) (store : σ)
    (server : ρ) :
    run (sides.reporting (reported sides folder store server)) folder settings store server =
      run sides folder settings store server := by
  have same := whole_reporting sides folder settings store server
  rw [whole_eq, whole_eq, bind_apply, bind_apply] at same
  rw [run_eq, run_eq]
  have prepared : prepare (sides.reporting (reported sides folder store server)) folder =
      prepare sides folder := rfl
  rw [prepared] at same ⊢
  match ended : prepare sides folder (begun folder store server) with
  | (.error halt, after) => rfl
  | (.ok (), middle) =>
    rw [ended] at same
    dsimp only at same ⊢
    rw [same]
    rfl

end Pass

end MailReplica.Reconcile
