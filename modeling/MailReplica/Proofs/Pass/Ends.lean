import MailReplica.Proofs.Work
import MailReplica.Reconcile.Pass

/-! # How a part of a pass ends

A part of a pass either comes to its end with a value or halts, and goes from one progress to
another.  `Ends` speaks about both outcomes at once; the theorems below carry it through the ways in
which a pass is put together.
-/

namespace MailReplica.Reconcile.Pass

variable {σ ρ α β : Type}

/-- A part of a pass that starts from `before` ends as `Done` says of its value, or halts as
`Halted` says. -/
def Ends (part : Pass σ ρ α) (before : Progress σ ρ) (Done : α → Progress σ ρ → Prop)
    (Halted : Halt → Progress σ ρ → Prop) : Prop :=
  match part before with
  | (.ok value, after) => Done value after
  | (.error halt, after) => Halted halt after

/-! ## Running -/

/-- Work on the store can be cut into single calls. -/
theorem keep_bind (step : Step) (work : Store.Work σ α) (next : α → Store.Work σ β) :
    (keep step (work >>= next) : Pass σ ρ β) =
      keep step work >>= fun value => keep step (next value) := by
  funext before
  rw [bind_apply]
  unfold keep
  rw [bind_apply]
  match work before.store with
  | (.ok value, after) => rfl
  | (.error failure, after) => rfl

/-! ## Rules -/

section Rules

variable {part : Pass σ ρ α} {next : α → Pass σ ρ β} {before : Progress σ ρ}

theorem Ends.mono {Done Done' : α → Progress σ ρ → Prop}
    {Halted Halted' : Halt → Progress σ ρ → Prop} (ends : Ends part before Done Halted)
    (done : ∀ value after, Done value after → Done' value after)
    (halted : ∀ halt after, Halted halt after → Halted' halt after) :
    Ends part before Done' Halted' := by
  unfold Ends at ends ⊢
  split
  next found => rw [found] at ends; exact done _ _ ends
  next found => rw [found] at ends; exact halted _ _ ends

/-- Two things that are known of the end of a part hold together. -/
theorem Ends.and {Done Done' : α → Progress σ ρ → Prop}
    {Halted Halted' : Halt → Progress σ ρ → Prop} (left : Ends part before Done Halted)
    (right : Ends part before Done' Halted') :
    Ends part before (fun value after => Done value after ∧ Done' value after)
      fun halt after => Halted halt after ∧ Halted' halt after := by
  unfold Ends at left right ⊢
  split
  next ran => rw [ran] at left right; exact ⟨left, right⟩
  next ran => rw [ran] at left right; exact ⟨left, right⟩

theorem Ends.bind {Done : β → Progress σ ρ → Prop} {Halted : Halt → Progress σ ρ → Prop}
    (first : Ends part before (fun value after => Ends (next value) after Done Halted) Halted) :
    Ends (part >>= next) before Done Halted := by
  unfold Ends at first ⊢
  rw [bind_apply]
  match ran : part before with
  | (.ok value, after) => rw [ran] at first; exact first
  | (.error halt, after) => rw [ran] at first; exact first

theorem Ends.of_run {Done : α → Progress σ ρ → Prop} {Halted : Halt → Progress σ ρ → Prop}
    (ends : Ends part before Done Halted) {outcome : Except Halt α} {after : Progress σ ρ}
    (run : part before = (outcome, after)) :
    (∃ value, outcome = .ok value ∧ Done value after) ∨
      ∃ halt, outcome = .error halt ∧ Halted halt after := by
  unfold Ends at ends
  rw [run] at ends
  cases outcome with
  | ok value => exact .inl ⟨value, rfl, ends⟩
  | error halt => exact .inr ⟨halt, rfl, ends⟩

theorem ends_pure {Done : α → Progress σ ρ → Prop} {Halted : Halt → Progress σ ρ → Prop}
    {value : α} (done : Done value before) : Ends (pure value) before Done Halted := done

theorem ends_throw {Done : α → Progress σ ρ → Prop} {Halted : Halt → Progress σ ρ → Prop}
    {halt : Halt} (halted : Halted halt before) : Ends (throw halt) before Done Halted := halted

theorem ends_tell {Done : Unit → Progress σ ρ → Prop} {Halted : Halt → Progress σ ρ → Prop}
    {event : Event} (done : Done () { before with told := event :: before.told }) :
    Ends (tell event) before Done Halted := done

theorem ends_ask {Done : α → Progress σ ρ → Prop} {Halted : Halt → Progress σ ρ → Prop}
    (sides : Sides σ ρ) (step : Step) (call : ServerCall α)
    (answered : ∀ value server, sides.server.run call before.server = (.ok value, server) →
      Done value { before with server })
    (refused : ∀ failure server, sides.server.run call before.server = (.error failure, server) →
      Halted ⟨step, failure⟩ { before with server }) :
    Ends (ask sides step call) before Done Halted := by
  unfold Ends ask
  match ran : sides.server.run call before.server with
  | (.ok value, server) => exact answered value server ran
  | (.error failure, server) => exact refused failure server ran

theorem ends_call {Done : α → Progress σ ρ → Prop} {Halted : Halt → Progress σ ρ → Prop}
    (sides : Sides σ ρ) (step : Step) (call : Store.Call α)
    (answered : ∀ value store, sides.store.run call before.store = (.ok value, store) →
      Done value { before with store })
    (refused : ∀ failure store, sides.store.run call before.store = (.error failure, store) →
      Halted ⟨step, .storage failure.text⟩ { before with store }) :
    Ends (keep step (sides.store.call call)) before Done Halted := by
  unfold Ends keep Store.Handler.call
  match ran : sides.store.run call before.store with
  | (.ok value, store) => exact answered value store ran
  | (.error failure, store) => exact refused failure store ran

end Rules

end MailReplica.Reconcile.Pass
