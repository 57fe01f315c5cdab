import Mathlib.Data.List.DropRight
import MailReplica.Proofs.Store.Alike
import MailReplica.Proofs.Work
import MailReplica.Rehearsal.LocalStore

/-! # What a reload makes of the state of a folder

The numbers of a folder have no sign, and a store keeps them with one.  The validity of UIDs is read
back by its bits; the highest UID known counts as zero where the bits say that it is below zero.
Both stores keep numbers alike (`KeepsNumbers`), so what is loaded after each change is what
`FolderState.reloaded` makes of the state in memory (`KeepsNumbers.make`).  That is the state itself
if no UID from `2 ^ 63` on was reported since the folder was last started over (`history_reloads`).
-/

namespace MailReplica

namespace Rehearsal.StateChange

/-- The state in memory after a change. -/
def on (state : Store.FolderState) : StateChange → Store.FolderState
  | raise uid => { state with highestUid := max state.highestUid uid }
  | startOver validity => ⟨0, some validity⟩
  | record validity => { state with validity := some validity }

def startsOver : StateChange → Bool
  | startOver _ => true
  | raise _ | record _ => false

/-- The changes since the folder was last started over. -/
def sinceOver (changes : List StateChange) : List StateChange :=
  changes.rtakeWhile fun change => !change.startsOver

/-- Makes a change to a state in memory and to the store. -/
def make {σ : Type} (store : Store.Handler σ) (folder : String) (state : Store.FolderState) :
    StateChange → Store.Work σ Store.FolderState
  | raise uid => state.raise store folder uid
  | startOver validity => Store.FolderState.startOver store folder validity
  | record validity => state.recordValidity store folder validity

end Rehearsal.StateChange

namespace Store

open Rehearsal (StateChange stateHistory)

namespace FolderState

/-- The state of a folder of which a store holds some numbers. -/
def ofNumbers (number? : String → Option Int64) : FolderState where
  highestUid := ((number? highestKey).map fun value => (max value 0).toUInt64).getD 0
  validity := (number? validityKey).map Int64.toUInt64

/-- What a reload makes of a state. -/
def reloaded (state : FolderState) : FolderState :=
  { state with highestUid := if state.highestUid.toNat < 2 ^ 63 then state.highestUid else 0 }

theorem reloaded_eq_self (state : FolderState) :
    state.reloaded = state ↔ state.highestUid.toNat < 2 ^ 63 := by
  refine ⟨fun same => ?_, fun small => by rw [reloaded, if_pos small]⟩
  by_contra large
  have zero : 0 = state.highestUid := by
    simpa only [reloaded, if_neg large] using congrArg highestUid same
  exact large (zero ▸ Nat.two_pow_pos 63)

section Written

variable {before after : String → Option Int64}

theorem ofNumbers_setHighest {value : UInt64}
    (written : ∀ key, after key = if highestKey = key then some value.toInt64 else before key) :
    ofNumbers after =
      { ofNumbers before with highestUid := if value.toNat < 2 ^ 63 then value else 0 } := by
  have keys : highestKey ≠ validityKey := by decide
  simp only [ofNumbers, written, if_true, if_neg keys, Option.map_some, Option.getD_some,
    toUInt64_max_toInt64]

theorem ofNumbers_setValidity {validity : UInt64}
    (written : ∀ key, after key = if validityKey = key then some validity.toInt64 else before key) :
    ofNumbers after = { ofNumbers before with validity := some validity } := by
  have keys : validityKey ≠ highestKey := by decide
  simp only [ofNumbers, written, if_true, if_neg keys, Option.map_some, UInt64.toUInt64_toInt64]

end Written

theorem highestUid_ofNumbers_lt (number? : String → Option Int64) :
    (ofNumbers number?).highestUid.toNat < 2 ^ 63 := by
  simp only [ofNumbers]
  cases number? highestKey with
  | none => exact Nat.two_pow_pos 63
  | some value => exact toNat_toUInt64_max_lt value

end FolderState

/-! ## The state in memory -/

/-- The highest UID in memory is small if every one is that was reported since the folder was last
started over. -/
theorem highestUid_foldl_lt {first : FolderState} (small : first.highestUid.toNat < 2 ^ 63)
    (changes : List StateChange) :
    (changes.foldl StateChange.on first).highestUid.toNat < 2 ^ 63 ↔
      ∀ uid, .raise uid ∈ StateChange.sinceOver changes → uid.toNat < 2 ^ 63 := by
  -- From the end, since a start over makes all that was reported before it count no more.
  induction changes using List.reverseRecOn with
  | nil => exact ⟨fun _ _ reported => absurd reported List.not_mem_nil, fun _ => small⟩
  | append_singleton changes change ih =>
    rw [List.foldl_concat, StateChange.sinceOver]
    cases change with
    | raise uid =>
      rw [List.rtakeWhile_concat_pos _ _ _ rfl, ← StateChange.sinceOver, StateChange.on,
        UInt64.toNat_max, Nat.max_lt, ih]
      simp only [List.mem_append, List.mem_singleton, StateChange.raise.injEq, or_imp, forall_and,
        forall_eq]
    | startOver validity =>
      rw [List.rtakeWhile_concat_neg _ _ _ Bool.false_ne_true]
      exact ⟨fun _ _ reported => absurd reported List.not_mem_nil, fun _ => Nat.two_pow_pos 63⟩
    | record validity =>
      rw [List.rtakeWhile_concat_pos _ _ _ rfl, ← StateChange.sinceOver]
      simp only [List.mem_append, List.mem_singleton, reduceCtorEq, or_false]
      exact ih

/-! ## Stores that keep numbers -/

variable {σ : Type}

/-- A store reads the numbers of its folders and keeps what is written. -/
structure KeepsNumbers (store : Handler σ) (number? : σ → String → String → Option Int64) :
    Prop where
  read : ∀ content folder key,
    store.run (.number folder key) content = (.ok (number? content folder key), content)
  write : ∀ content folder key value, ∃ after,
    store.run (.setNumber folder key value) content = (.ok (), after) ∧
      ∀ other, number? after folder other =
        if key = other then some value else number? content folder other

theorem Memory.keepsNumbers : KeepsNumbers Memory.handler Memory.number where
  read _ _ _ := rfl
  write content folder key value := by
    refine ⟨_, rfl, fun other => ?_⟩
    show (answer (.setNumber folder key value) content).2.number folder other = _
    rw [number_eq_copy, answer_snd, Entry.copy_apply_on, Act.getElem?_numbers_on, Entry.of,
      Entry.on, if_pos rfl, ← number_eq_copy]
    rfl

theorem Tables.keepsNumbers : KeepsNumbers Tables.handler Tables.number where
  read _ _ _ := rfl
  write content folder key value := by
    refine ⟨_, rfl, fun other => ?_⟩
    show (answer (.setNumber folder key value) content).2.number folder other = _
    rw [number_answer, Entry.of, Entry.on, if_pos rfl]
    rfl

section Stores

variable {store : Handler σ} {number? : σ → String → String → Option Int64} {content : σ}
  {folder : String} {state : FolderState}

theorem KeepsNumbers.load (keeps : KeepsNumbers store number?) (content : σ) (folder : String) :
    FolderState.load store folder content =
      (.ok (.ofNumbers (number? content folder)), content) := by
  rw [FolderState.load, bind_apply, Handler.call, keeps.read]
  show (store.call _ >>= _) content = _
  rw [bind_apply, Handler.call, keeps.read]
  rfl

/-- What is loaded after a change is what a reload makes of the state in memory, if that was so
before. -/
theorem KeepsNumbers.make (keeps : KeepsNumbers store number?)
    (reloads : .ofNumbers (number? content folder) = state.reloaded) (change : StateChange) :
    ∃ after, change.make store folder state content = (.ok (change.on state), after) ∧
      .ofNumbers (number? after folder) = (change.on state).reloaded := by
  cases change with
  | raise uid =>
    rw [StateChange.make, FolderState.raise, StateChange.on, UInt64.max_def]
    by_cases higher : state.highestUid < uid
    · obtain ⟨after, ran, written⟩ := keeps.write content folder FolderState.highestKey uid.toInt64
      rw [if_pos higher, if_pos (UInt64.le_of_lt higher)]
      refine ⟨after, ?_, ?_⟩
      · rw [bind_apply, Handler.call, ran]
        rfl
      · rw [FolderState.ofNumbers_setHighest written, reloads]
        rfl
    · -- Nothing is written, and the state in memory stays as it is.
      have highest : (if state.highestUid ≤ uid then uid else state.highestUid) =
          state.highestUid := by
        split
        next le => exact UInt64.le_antisymm (UInt64.not_lt.1 higher) le
        next => rfl
      rw [if_neg higher, highest]
      exact ⟨content, rfl, reloads⟩
  | startOver validity =>
    obtain ⟨between, ranHighest, writtenHighest⟩ :=
      keeps.write content folder FolderState.highestKey 0
    obtain ⟨after, ranValidity, writtenValidity⟩ :=
      keeps.write between folder FolderState.validityKey validity.toInt64
    refine ⟨after, ?_, ?_⟩
    · rw [StateChange.make, FolderState.startOver, bind_apply, Handler.call,
        ranHighest]
      show (store.call _ >>= _) between = _
      rw [bind_apply, Handler.call, ranValidity]
      rfl
    · rw [FolderState.ofNumbers_setValidity writtenValidity,
        FolderState.ofNumbers_setHighest writtenHighest, reloads]
      rfl
  | record validity =>
    obtain ⟨after, ran, written⟩ :=
      keeps.write content folder FolderState.validityKey validity.toInt64
    refine ⟨after, ?_, ?_⟩
    · rw [StateChange.make, FolderState.recordValidity, bind_apply,
        Handler.call, ran]
      rfl
    · rw [FolderState.ofNumbers_setValidity written, reloads]
      rfl

/-- The states in memory are gathered latest first. -/
theorem KeepsNumbers.foldlM (keeps : KeepsNumbers store number?) (changes : List StateChange)
    (earlier : List FolderState)
    (reloads : .ofNumbers (number? content folder) = state.reloaded) :
    ∃ after,
      changes.foldlM (fun passed change =>
          (fun next => (next, next :: passed.2)) <$> change.make store folder passed.1)
        (state, state :: earlier) content =
        (.ok (changes.foldl StateChange.on state,
          (changes.scanl StateChange.on state).reverse ++ earlier), after) ∧
      .ofNumbers (number? after folder) = (changes.foldl StateChange.on state).reloaded := by
  induction changes generalizing state content earlier with
  | nil => exact ⟨content, rfl, reloads⟩
  | cons change changes ih =>
    obtain ⟨between, made, reloads⟩ := keeps.make reloads change
    obtain ⟨after, ran, reloads⟩ := ih (state :: earlier) reloads
    refine ⟨after, ?_, reloads⟩
    rw [List.foldlM_cons, bind_apply, map_eq_pure_bind,
      bind_apply, made]
    refine ran.trans ?_
    rw [List.scanl_cons, List.reverse_cons, List.append_assoc]
    rfl

theorem stateHistory_eq (store : Handler σ) (folder : String) (changes : List StateChange) :
    stateHistory store folder changes = do
      let first ← FolderState.load store folder
      let passed ← changes.foldlM (fun passed change =>
          (fun next => (next, next :: passed.2)) <$> change.make store folder passed.1)
        (first, [first])
      return passed.2.reverse := by
  unfold stateHistory
  simp only [bind_pure_comp, ← List.forIn_yield_eq_foldlM]
  refine bind_congr fun first => congrArg (Functor.map _) ?_
  refine congrArg (forIn changes (first, [first])) (funext fun change => funext fun passed => ?_)
  cases change <;> rfl

/-- After any changes, a reload of the folder's state gives what `FolderState.reloaded` makes of the
last state in memory.  It gives that state itself if, and only if, no UID from `2 ^ 63` on was
reported since the folder was last started over. -/
def Reloads (store : Handler σ) (content : σ) (folder : String) (changes : List StateChange) :
    Prop :=
  ∃ first last after,
    FolderState.load store folder content = (.ok first, content) ∧
      stateHistory store folder changes content =
        (.ok (changes.scanl StateChange.on first), after) ∧
      (changes.scanl StateChange.on first).getLast? = some last ∧
      FolderState.load store folder after = (.ok last.reloaded, after) ∧
      (last.reloaded = last ↔
        ∀ uid, .raise uid ∈ StateChange.sinceOver changes → uid.toNat < 2 ^ 63)

theorem KeepsNumbers.reloads (keeps : KeepsNumbers store number?) (content : σ) (folder : String)
    (changes : List StateChange) : Reloads store content folder changes := by
  let first := FolderState.ofNumbers (number? content folder)
  have small : first.highestUid.toNat < 2 ^ 63 := FolderState.highestUid_ofNumbers_lt _
  have loaded := keeps.load content folder
  obtain ⟨after, ran, reloads⟩ :=
    keeps.foldlM changes [] (first.reloaded_eq_self.2 small).symm
  refine ⟨first, changes.foldl StateChange.on first, after, loaded, ?_, ?_, ?_, ?_⟩
  · rw [stateHistory_eq, bind_apply, loaded]
    show (List.foldlM _ _ _ >>= _ : Work σ _) content = _
    rw [bind_apply, ran, List.append_nil]
    show (Except.ok (List.reverse _), after) = _
    rw [List.reverse_reverse]
  · exact List.getLast?_scanl
  · rw [keeps.load, reloads]
  · rw [FolderState.reloaded_eq_self, highestUid_foldl_lt small]

end Stores

/-- Both stores, whatever they hold, reload the state of a folder after any changes to it. -/
theorem history_reloads (folder : String) (changes : List StateChange) :
    (∀ memory : Memory, Reloads Memory.handler memory folder changes) ∧
      ∀ tables : Tables, Reloads Tables.handler tables folder changes :=
  ⟨fun memory => Memory.keepsNumbers.reloads memory folder changes,
    fun tables => Tables.keepsNumbers.reloads tables folder changes⟩

/-- A UID of `2 ^ 63` is forgotten by a reload. -/
theorem history_reloads_forgotten :
    ∃ after,
      stateHistory Memory.handler "INBOX" [.raise 0x8000000000000000] .empty =
          (.ok [⟨0, none⟩, ⟨0x8000000000000000, none⟩], after) ∧
        FolderState.load Memory.handler "INBOX" after = (.ok ⟨0, none⟩, after) := by
  obtain ⟨first, last, after, loaded, ran, isLast, reload, -⟩ :=
    (history_reloads "INBOX" [.raise 0x8000000000000000]).1 .empty
  have fresh : FolderState.ofNumbers (Memory.number .empty "INBOX") = ⟨0, none⟩ := by
    simp [FolderState.ofNumbers, Memory.number, Memory.empty]
  rw [Memory.keepsNumbers.load, fresh] at loaded
  obtain rfl : ⟨0, none⟩ = first := Except.ok.inj (Prod.mk.inj loaded).1
  have raised : StateChange.on ⟨0, none⟩ (.raise 0x8000000000000000) =
      ⟨0x8000000000000000, none⟩ := by
    decide +kernel
  have forgotten : FolderState.reloaded ⟨0x8000000000000000, none⟩ = ⟨0, none⟩ := by
    decide +kernel
  simp only [List.scanl_cons, List.scanl_nil, raised, List.getLast?_cons_cons,
    List.getLast?_singleton, Option.some.injEq] at ran isLast
  rw [← isLast, forgotten] at reload
  exact ⟨after, ran, reload⟩

end Store

end MailReplica
