import MailReplica.Flag

/-! # Tracked flags

Replacing the tracked flags of a set takes what is tracked from the source and leaves the rest
(`mem_replaceTracked`).  Sets that agree on the tracked flags need no replacing.
-/

namespace MailReplica.FlagSet

variable {flags source tracked : FlagSet} {flag : Flag}

theorem mem_restrict : flag ∈ flags.restrict tracked ↔ flag ∈ flags ∧ flag ∈ tracked := by
  unfold restrict
  rw [Std.ExtTreeSet.mem_filter]
  simp [Std.ExtTreeSet.get_eq]

theorem mem_without : flag ∈ flags.without tracked ↔ flag ∈ flags ∧ flag ∉ tracked := by
  unfold without
  rw [Std.ExtTreeSet.mem_filter]
  simp only [Std.ExtTreeSet.get_eq, Bool.not_eq_true', exists_prop,
    ← Bool.not_eq_true, Std.ExtTreeSet.contains_iff_mem]

theorem mem_foldl_insert (added : List Flag) (flags : FlagSet) :
    flag ∈ added.foldl (fun flags flag => flags.insert flag) flags ↔
      flag ∈ added ∨ flag ∈ flags := by
  induction added generalizing flags with
  | nil => simp
  | cons first rest ih =>
    rw [List.foldl_cons, ih, Std.ExtTreeSet.mem_insert, Std.LawfulEqCmp.compare_eq_iff_eq,
      List.mem_cons]
    grind

theorem mem_replaceTracked :
    flag ∈ flags.replaceTracked source tracked ↔
      flag ∈ tracked ∧ flag ∈ source ∨ flag ∉ tracked ∧ flag ∈ flags := by
  unfold replaceTracked
  rw [Std.ExtTreeSet.foldl_eq_foldl_toList, mem_foldl_insert, Std.ExtTreeSet.mem_toList,
    mem_restrict, mem_without]
  grind

/-- A set that already says what the source says of the tracked flags stays as it is. -/
theorem replaceTracked_of_restrict_eq
    (same : flags.restrict tracked = source.restrict tracked) :
    flags.replaceTracked source tracked = flags := by
  refine Std.ExtTreeSet.ext_mem fun flag => ?_
  have agree : flag ∈ flags.restrict tracked ↔ flag ∈ source.restrict tracked := by rw [same]
  rw [mem_restrict, mem_restrict] at agree
  rw [mem_replaceTracked]
  grind

theorem restrict_replaceTracked :
    (flags.replaceTracked source tracked).restrict tracked = source.restrict tracked := by
  refine Std.ExtTreeSet.ext_mem fun flag => ?_
  rw [mem_restrict, mem_restrict, mem_replaceTracked]
  grind

end MailReplica.FlagSet
