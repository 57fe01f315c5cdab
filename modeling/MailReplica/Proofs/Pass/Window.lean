import MailReplica.Proofs.Pass.Course

/-! # The numbers in a window

A window runs from its first number to its last, and `IsLatest` says which numbers those are without
a word about ends: the latest ones, as many as the limit allows (`mem_window`).  A folder has no
window just if it is empty.  `mem_windowOf` carries this over to a pass, whose server may count more
messages than there are numbers.
-/

namespace MailReplica.Reconcile

/-- Among the messages from 1 to `count`, the one with `number` is one of the latest `limit`; a limit
of 0 stands for all of them. -/
structure IsLatest (count limit number : Nat) : Prop where
  pos : 0 < number
  le : number ≤ count
  near : limit = 0 ∨ count - number < limit

section

variable {count limit first last : UInt32}

theorem window_eq_none_iff : window count limit = none ↔ count = 0 := by
  unfold window
  by_cases empty : count = 0
  · simp [empty]
  · by_cases whole : limit = 0 ∨ count ≤ limit <;> simp [empty, whole]

/-- Where a window begins and ends.  Below the limit nothing is taken away, so it begins at 1. -/
theorem ends_window (found : window count limit = some (first, last)) :
    last = count ∧ first.toNat = if limit = 0 then 1 else count.toNat - limit.toNat + 1 := by
  unfold window at found
  split at found
  · cases found
  · split at found
    next whole =>
      cases found
      refine ⟨rfl, ?_⟩
      rw [UInt32.toNat_one]
      split
      · rfl
      next limited =>
        have atMost := UInt32.le_iff_toNat_le.1 (whole.resolve_left limited)
        rw [Nat.sub_eq_zero_of_le atMost]
    next partly =>
      cases found
      obtain ⟨limited, more⟩ := not_or.1 partly
      -- The limit is below the count and not 0, so neither operation wraps around.
      have less : limit.toNat < count.toNat := UInt32.lt_iff_toNat_lt.1 (UInt32.not_le.1 more)
      have positive : limit.toNat ≠ 0 := fun zero => limited (UInt32.toNat_inj.1 zero)
      have bound := count.toNat_lt
      refine ⟨rfl, ?_⟩
      rw [if_neg limited, UInt32.toNat_add, UInt32.toNat_one,
        UInt32.toNat_sub_of_le _ _ (UInt32.le_iff_toNat_le.2 (Nat.le_of_lt less))]
      omega

theorem mem_window (found : window count limit = some (first, last)) (number : UInt32) :
    first ≤ number ∧ number ≤ last ↔ IsLatest count.toNat limit.toNat number.toNat := by
  obtain ⟨rfl, begins⟩ := ends_window found
  rw [UInt32.le_iff_toNat_le, UInt32.le_iff_toNat_le, begins]
  by_cases unlimited : limit = 0
  · rw [if_pos unlimited, unlimited]
    exact ⟨fun ⟨positive, within⟩ => ⟨positive, within, .inl rfl⟩,
      fun latest => ⟨latest.pos, latest.le⟩⟩
  · have limited : limit.toNat ≠ 0 := fun zero => unlimited (UInt32.toNat_inj.1 zero)
    rw [if_neg unlimited]
    constructor
    · intro ⟨after, within⟩
      exact ⟨by omega, within, .inr (by omega)⟩
    · intro latest
      have near := latest.near.resolve_left limited
      have within := latest.le
      have positive := latest.pos
      exact ⟨by omega, within⟩

/-- A window has numbers in it, none of them 0. -/
theorem window_range (found : window count limit = some (first, last)) :
    first ≠ 0 ∧ first ≤ last := by
  obtain ⟨rfl, begins⟩ := ends_window found
  have counted : last ≠ 0 := fun empty => by
    rw [window_eq_none_iff.2 empty] at found
    cases found
  have positive : 0 < last.toNat := Nat.pos_of_ne_zero fun zero => counted (UInt32.toNat_inj.1 zero)
  -- The last message is in the window, and so is the first number, which is before it.
  have near : limit.toNat = 0 ∨ last.toNat - last.toNat < limit.toNat := by omega
  have within : first ≤ last := ((mem_window found last).2 ⟨positive, Nat.le_refl _, near⟩).1
  have latest := (mem_window found first).1 ⟨Nat.le_refl _, within⟩
  exact ⟨fun zero => absurd (congrArg UInt32.toNat zero) (Nat.pos_iff_ne_zero.1 latest.pos), within⟩

end

namespace Pass

variable {settings : PassSettings} {count : Int}

/-- What a pass takes for the number of messages: more than there are numbers is the highest one. -/
theorem toNat_counted (count : Int) :
    (UInt32.ofNat (min count.toNat (UInt32.size - 1))).toNat =
      min count.toNat (UInt32.size - 1) :=
  UInt32.toNat_ofNat_of_lt' (Nat.lt_of_le_of_lt (Nat.min_le_right _ _) (by decide))

theorem windowOf_eq_none_iff : windowOf settings count = none ↔ count ≤ 0 := by
  unfold windowOf
  rw [window_eq_none_iff, ← UInt32.toNat_inj, toNat_counted, UInt32.toNat_zero]
  have several : 0 < UInt32.size - 1 := by decide
  omega

theorem mem_windowOf {first last : UInt32} (found : windowOf settings count = some (first, last))
    (number : UInt32) :
    first ≤ number ∧ number ≤ last ↔
      IsLatest (min count.toNat (UInt32.size - 1)) settings.visibleLimit.toNat number.toNat := by
  rw [← toNat_counted]
  exact mem_window found number

end Pass

end MailReplica.Reconcile
