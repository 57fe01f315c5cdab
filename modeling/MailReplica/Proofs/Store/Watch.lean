import MailReplica.Proofs.Store.Journal

/-! # Stores in memory whose calls may fail

A failing call leaves a store as it was, and any other call is answered as the store in memory
answers it.  `Watch.Faithful` says this of an arbitrary store, together with a journal that follows
the calls that were answered.  `Journaled` is such a store with a timetable of failures, so its
passes run through every way in which calls can fail.
-/

namespace MailReplica.Store

/-- What is watched of a store with a state of type `σ`: what it holds, and a journal of type `κ`
that takes note of the calls that were answered. -/
structure Watch (σ κ : Type) where
  memory : σ → Memory
  journal : σ → κ
  note : κ → Entry → κ

namespace Watch

variable {σ κ : Type}

/-- A store that does what the store in memory does, or fails and does nothing. -/
structure Faithful (watch : Watch σ κ) (store : Handler σ) : Prop where
  refused : ∀ {α : Type} (call : Call α) (state : σ) {failure : Failure} {next : σ},
    store.run call state = (.error failure, next) →
      watch.memory next = watch.memory state ∧ watch.journal next = watch.journal state
  answered : ∀ {α : Type} (call : Call α) (state : σ) {value : α} {next : σ},
    store.run call state = (.ok value, next) →
      value = (Memory.answer call (watch.memory state)).1 ∧
      watch.memory next = (Entry.of call).apply (watch.memory state) ∧
      watch.journal next = watch.note (watch.journal state) (Entry.of call)

/-- Watches only what a store holds. -/
def holding (memory : σ → Memory) : Watch σ Unit :=
  ⟨memory, fun _ => (), fun _ _ => ()⟩

end Watch

/-- A store that does what the store in memory does, or fails and leaves what it holds as it is. -/
def InMemory {σ : Type} (store : Handler σ) (memory : σ → Memory) : Prop :=
  (Watch.holding memory).Faithful store

theorem Watch.Faithful.inMemory {σ κ : Type} {watch : Watch σ κ} {store : Handler σ}
    (faithful : watch.Faithful store) : InMemory store watch.memory where
  refused call state _ _ run := ⟨(faithful.refused call state run).1, rfl⟩
  answered call state _ _ run :=
    ⟨(faithful.answered call state run).1, (faithful.answered call state run).2.1, rfl⟩

theorem Memory.inMemory_handler : InMemory handler id where
  refused call state failure next run := by
    cases run
  answered call state value next run := by
    cases run
    exact ⟨rfl, answer_snd call state, rfl⟩

structure Journaled where
  memory : Memory
  calls : Nat
  /-- What the calls that were answered did, from the first on. -/
  entries : List Entry

namespace Journaled

/-- Answers calls; the call with the number `n` fails if `faults n` says so. -/
def handler (faults : Nat → Option Failure) : Handler Journaled where
  run call state :=
    match faults state.calls with
    | some failure => (.error failure, { state with calls := state.calls + 1 })
    | none =>
      let (value, memory) := Memory.answer call state.memory
      (.ok value, ⟨memory, state.calls + 1, state.entries ++ [Entry.of call]⟩)

def watch : Watch Journaled (List Entry) :=
  ⟨memory, entries, fun entries entry => entries ++ [entry]⟩

theorem foldl_note (new entries : List Entry) : new.foldl watch.note entries = entries ++ new := by
  induction new generalizing entries with
  | nil => simp
  | cons entry new ih =>
    rw [List.foldl_cons, ih]
    exact List.append_assoc entries [entry] new

theorem faithful_handler (faults : Nat → Option Failure) : watch.Faithful (handler faults) where
  refused call state failure next run := by
    simp only [handler] at run
    split at run
    · cases run
      exact ⟨rfl, rfl⟩
    · cases run
  answered call state value next run := by
    simp only [handler] at run
    split at run
    · cases run
    · cases run
      exact ⟨rfl, Memory.answer_snd call state.memory, rfl⟩

end Journaled

end MailReplica.Store
