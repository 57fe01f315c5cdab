import MailReplica.Flag.Stored
import MailReplica.Proofs.Json.RoundTrip

/-! # Flags read back

A flag is read as the one it was written for, whatever its keyword is made of, and so is a set of
flags (`FlagSet.ofStored_stored`).
-/

namespace MailReplica

namespace Flag

theorem restores_layout : Json.Restores reader layout := by
  intro style flag
  cases flag with
  | custom name =>
    exact Json.takes_choice_holding rfl rfl ((Json.restores_text style.inner name).map custom)
  | _ => exact Json.takes_choice_plain rfl

theorem opens_layout : Json.Opens layout := by
  intro style flag
  cases flag with
  | custom name => exact ⟨'{', _, rfl, rfl, by decide, by decide⟩
  | _ => exact Json.opens_text style _

end Flag

theorem FlagSet.ofStored_stored (flags : FlagSet) : ofStored flags.stored = .ok flags := by
  have reads := Json.readText_ofList
    (Json.restores_list Flag.restores_layout Flag.opens_layout .compact flags.toList)
  have same : Std.ExtTreeSet.ofList flags.toList = flags :=
    Std.ExtTreeSet.ext_mem fun flag => by simp [Std.ExtTreeSet.mem_ofList]
  rw [ofStored, stored, Json.Layout.oneLine, reads]
  exact congrArg Except.ok same

end MailReplica
