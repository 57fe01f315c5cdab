/-! # Work that may fail

Passes, dialogues, handles and stores are worked with in the same way: a part of the work comes to a
value or fails, and leaves a state either way.  What follows a part is done only if it came to a
value (`bind_apply`).
-/

namespace MailReplica

variable {φ σ α β : Type} {part : ExceptT φ (StateM σ) α} {next : α → ExceptT φ (StateM σ) β}

theorem bind_apply (part : ExceptT φ (StateM σ) α) (next : α → ExceptT φ (StateM σ) β)
    (before : σ) :
    (part >>= next) before =
      match part before with
      | (.ok value, after) => next value after
      | (.error failure, after) => (.error failure, after) := by
  change (part before >>= fun outcome : Except φ α × σ =>
    ExceptT.bindCont next outcome.1 outcome.2 : Id _) = _
  match part before with
  | (.ok value, after) => rfl
  | (.error failure, after) => rfl

theorem bind_of_ok {before middle : σ} {value : α} (ran : part before = (.ok value, middle)) :
    (part >>= next) before = next value middle := by
  rw [bind_apply, ran]

theorem bind_of_error {before after : σ} {failure : φ}
    (ran : part before = (.error failure, after)) :
    (part >>= next) before = (.error failure, after) := by
  rw [bind_apply, ran]

/-- Work that came to a value did so in each of its parts. -/
theorem bind_ok {before after : σ} {value : β}
    (ran : (part >>= next) before = (.ok value, after)) :
    ∃ first middle, part before = (.ok first, middle) ∧
      next first middle = (.ok value, after) := by
  rw [bind_apply] at ran
  match worked : part before with
  | (.ok first, middle) =>
    rw [worked] at ran
    exact ⟨first, middle, rfl, ran⟩
  | (.error failure, middle) =>
    rw [worked] at ran
    cases ran

/-! ## What work preserves -/

/-- Whatever holds of the state before some work holds of it after the work. -/
def Preserves (Holds : σ → Prop) (part : ExceptT φ (StateM σ) α) : Prop :=
  ∀ before, Holds before → Holds (part before).2

variable {Holds : σ → Prop}

theorem Preserves.bind (first : Preserves Holds part)
    (second : ∀ value, Preserves Holds (next value)) : Preserves Holds (part >>= next) := by
  intro before holds
  have middle := first before holds
  rw [bind_apply]
  match ran : part before with
  | (.ok value, after) =>
    rw [ran] at middle
    exact second value after middle
  | (.error failure, after) =>
    rw [ran] at middle
    exact middle

theorem preserves_pure (value : α) :
    Preserves Holds (pure value : ExceptT φ (StateM σ) α) := fun _ holds => holds

theorem preserves_throw (failure : φ) :
    Preserves Holds (throw failure : ExceptT φ (StateM σ) α) := fun _ holds => holds

end MailReplica
