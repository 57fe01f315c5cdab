import MailReplica.Proofs.Pass.Halves
import MailReplica.Proofs.Pass.Lockstep
import MailReplica.Proofs.Store.Watch

/-! # Passes that fail, and the pass that does not

A side falters if it answers as a sound side does whenever it answers at all.  A run over faltering
sides does what the run over the sound ones does until it halts, so it tells the first part of what
that run tells (`InStep.overtakes`).  What it leaves of the store is then in the past of the sound
run: it is related by any relation that no call on the sound store ends (`Onward`).
-/

namespace MailReplica

namespace Reconcile

/-- Sides that answer as the sound ones do, whenever they answer.  A state of a faltering side shows
a state of the sound one. -/
structure Falters {σ ρ σ' ρ' : Type} (sides : Sides σ ρ) (sound : Sides σ' ρ') (shown : σ → σ')
    (seen : ρ → ρ') : Prop where
  kept : ∀ {α : Type} (call : Store.Call α) (state : σ) {value : α} {next : σ},
    sides.store.run call state = (.ok value, next) →
    sound.store.run call (shown state) = (.ok value, shown next)
  asked : ∀ {α : Type} (call : ServerCall α) (state : ρ) {value : α} {next : ρ},
    sides.server.run call state = (.ok value, next) →
    sound.server.run call (seen state) = (.ok value, seen next)
  numbered : ∀ state, sides.server.validity state = sound.server.validity (seen state)

/-- A relation between a store that has failed and a sound one, which holds when the failure occurs
and whatever the sound one is called to do then. -/
structure Onward {σ σ' : Type} (store : Store.Handler σ) (sound : Store.Handler σ') (shown : σ → σ')
    (past : σ → σ' → Prop) : Prop where
  now : ∀ state, past state (shown state)
  refused : ∀ {α : Type} (call : Store.Call α) (state : σ) {failure : Store.Failure} {next : σ},
    store.run call state = (.error failure, next) → past next (shown state)
  onward : ∀ {α : Type} (call : Store.Call α) {state : σ} {state' : σ'}, past state state' →
    past state (sound.run call state').2

namespace Pass

variable {σ ρ σ' ρ' : Type} {sides : Sides σ ρ} {sound : Sides σ' ρ'} {shown : σ → σ'}
  {seen : ρ → ρ'} {past : σ → σ' → Prop}

/-- What the sound sides are at when the faltering ones have not failed. -/
def mended (shown : σ → σ') (seen : ρ → ρ') (progress : Progress σ ρ) : Progress σ' ρ' :=
  ⟨shown progress.store, seen progress.server, progress.told⟩

/-- A run that goes on where the first one has halted. -/
def overtaking (shown : σ → σ') (seen : ρ → ρ') (past : σ → σ' → Prop) :
    Pairing σ ρ σ' ρ' where
  now before before' := before' = mended shown seen before
  parted _ after _ after' := past after.store after'.store ∧ after.told <:+ after'.told

theorem keep_snd {α : Type} (step : Step) (store : Store.Handler σ) (call : Store.Call α)
    (before : Progress σ ρ) :
    (keep step (store.call call) before).2 =
      { before with store := (store.run call before.store).2 } := by
  unfold keep Store.Handler.call
  match store.run call before.store with
  | (.ok value, after) => rfl
  | (.error failure, after) => rfl

theorem ask_snd {α : Type} (sides : Sides σ ρ) (step : Step) (call : ServerCall α)
    (before : Progress σ ρ) :
    (ask sides step call before).2 =
      { before with server := (sides.server.run call before.server).2 } := by
  unfold ask
  match sides.server.run call before.server with
  | (.ok value, after) => rfl
  | (.error failure, after) => rfl

theorem lockstep_overtaking (falters : Falters sides sound shown seen)
    (onward : Onward sides.store sound.store shown past) :
    Lockstep sides sound (overtaking shown seen past) where
  call step call := by
    constructor
    case together =>
      rintro before _ rfl
      apply ends_call
      · intro value store answered
        refine ⟨_, ?_, rfl⟩
        unfold keep Store.Handler.call mended
        rw [falters.kept call before.store answered]
      · -- The sound store does the call that the other one refused, and so is ahead of it.
        intro failure store refused
        rw [keep_snd]
        exact ⟨onward.onward call (onward.refused call before.store refused), List.suffix_rfl⟩
    case alone =>
      rintro halt after before' ⟨behind, told⟩
      rw [keep_snd]
      exact ⟨onward.onward call behind, told⟩
  ask step call := by
    constructor
    case together =>
      rintro before _ rfl
      apply ends_ask
      · intro value server answered
        refine ⟨_, ?_, rfl⟩
        unfold ask mended
        rw [falters.asked call before.server answered]
      · intro failure server refused
        rw [ask_snd]
        exact ⟨onward.now before.store, List.suffix_rfl⟩
    case alone =>
      rintro halt after before' ⟨behind, told⟩
      rw [ask_snd]
      exact ⟨behind, told⟩
  tell event := by
    constructor
    case together =>
      rintro before _ rfl
      exact ends_tell ⟨_, rfl, rfl⟩
    case alone =>
      rintro halt after before' ⟨behind, told⟩
      exact ⟨behind, told.trans (List.suffix_cons event before'.told)⟩
  throw halt := by
    constructor
    case together =>
      rintro before _ rfl
      exact ends_throw ⟨onward.now before.store, List.suffix_rfl⟩
    case alone =>
      rintro _ after before' parted
      exact parted
  validity := by
    rintro before _ rfl
    exact falters.numbered before.server

/-- What a part of a pass over faltering sides does is the first part of what it does over the sound
ones. -/
theorem InStep.overtakes {α : Type} {part : Pass σ ρ α} {part' : Pass σ' ρ' α}
    (inStep : InStep (overtaking shown seen past) part part') (before : Progress σ ρ) :
    Ends part before
      (fun value after => part' (mended shown seen before) = (.ok value, mended shown seen after))
      fun _ after => past after.store (part' (mended shown seen before)).2.store ∧
        after.told <:+ (part' (mended shown seen before)).2.told := by
  refine Ends.mono (inStep.together before _ rfl) ?_ fun _ _ parted => parted
  rintro value after ⟨_, ran, rfl⟩
  exact ran

/-- A run is overtaken by the sound one, in what it leaves of the store and in what it tells. -/
theorem whole_overtaken (falters : Falters sides sound shown seen)
    (onward : Onward sides.store sound.store shown past) (folder : String)
    (settings : PassSettings) (store : σ) (server : ρ) :
    let ended := whole sides folder settings (begun folder store server)
    let ended' := whole sound folder settings (begun folder (shown store) (seen server))
    past ended.2.store ended'.2.store ∧ ended.2.told <:+ ended'.2.told := by
  have overtakes := ((lockstep_overtaking falters onward).whole folder settings).overtakes
    (begun folder store server)
  change Ends _ _ (fun _ after => whole sound folder settings
    (begun folder (shown store) (seen server)) = _) _ at overtakes
  dsimp only
  match ran : whole sides folder settings (begun folder store server) with
  | (.ok (), after) =>
    obtain ⟨_, _, ran'⟩ | ⟨_, ended, _⟩ := overtakes.of_run ran
    · rw [ran']
      exact ⟨onward.now after.store, List.suffix_rfl⟩
    · cases ended
  | (.error halt, after) =>
    obtain ⟨_, ended, _⟩ | ⟨_, _, parted⟩ := overtakes.of_run ran
    · cases ended
    · exact parted

theorem run_overtaken (falters : Falters sides sound shown seen)
    (onward : Onward sides.store sound.store shown past) (folder : String)
    (settings : PassSettings) (store : σ) (server : ρ) :
    past (run sides folder settings store server).store
      (run sound folder settings (shown store) (seen server)).store := by
  rw [(run_whole sides folder settings store server).1,
    (run_whole sound folder settings (shown store) (seen server)).1]
  exact (whole_overtaken falters onward folder settings store server).1

end Pass

/-! ## Timetables of failures -/

/-- A server that refuses the call with the number `n` if `faults n` says so. -/
def Server.failing {ρ : Type} (faults : Nat → Option Failure) (server : Server ρ) :
    Server (ρ × Nat) where
  run call state :=
    match faults state.2 with
    | some failure => (.error failure, (state.1, state.2 + 1))
    | none => ((server.run call state.1).1, ((server.run call state.1).2, state.2 + 1))
  validity state := server.validity state.1
  close state := (server.close state.1, state.2)

theorem falters_failing {ρ : Type} (faults : Nat → Option Store.Failure)
    (refusals : Nat → Option Failure) (server : Server ρ) :
    Falters ⟨Store.Journaled.handler faults, server.failing refusals⟩
      ⟨Store.Journaled.handler fun _ => none, server⟩ id Prod.fst where
  kept call state value next answered := by
    simp only [Store.Journaled.handler] at answered
    split at answered
    · cases answered
    · cases answered
      rfl
  asked call state value next answered := by
    simp only [Server.failing] at answered
    split at answered
    · cases answered
    · obtain ⟨ended, rfl⟩ := Prod.mk.inj answered
      exact Prod.ext ended rfl
  numbered _ := rfl

/-- A store that fails has done what the sound one has done by then. -/
theorem onward_entries {store : Store.Handler Store.Journaled}
    (faithful : Store.Journaled.watch.Faithful store) :
    Onward store (Store.Journaled.handler fun _ => none) id
      fun failed whole => failed.entries <+: whole.entries where
  now _ := List.prefix_rfl
  refused call state failure next refused := by
    have same : next.entries = state.entries := (faithful.refused call state refused).2
    exact same ▸ List.prefix_rfl
  onward call _ _ behind := behind.trans (List.prefix_append _ [Store.Entry.of call])

end Reconcile

end MailReplica
