import MailReplica.Flag
import MailReplica.Proofs.Text.Blank

/-! # Flags and their atoms

An atom stands for the flag that its name, without the blanks around it, spells
(`ofAtom?_eq_some_iff`), and for no flag exactly when nothing or `\Recent` is left of it
(`ofAtom?_eq_none_iff`).  A flag that an atom stands for is canonical, and the canonical flags are
those that are told by their own atoms; two atoms stand for one flag exactly when they are alike and
stand for a flag at all (`atoms_tell_flags`).
-/

namespace MailReplica.Flag

open Text

/-- Whether a flag is one of the six standard flags. -/
def IsStandard (flag : Flag) : Prop :=
  ∀ name, flag ≠ custom name

/-- The names that no keyword can have: those of the standard flags, and `\Recent`. -/
def reservedNames : List String :=
  ["\\Seen", "\\Answered", "\\Flagged", "\\Deleted", "\\Draft", "\\Recent", "$Forwarded"]

/-- Whether a name is reserved, in whatever case. -/
def IsReserved (name : String) : Prop :=
  ∃ reserved ∈ reservedNames, CaseVariant name reserved

/-- Whether two names are the same, or the same reserved name in whatever case. -/
def Alike (left right : String) : Prop :=
  left = right ∨
    ∃ reserved ∈ reservedNames, CaseVariant left reserved ∧ CaseVariant right reserved

/-- Whether a flag is a standard flag, or a keyword with a name that atoms can give it. -/
def IsCanonical (flag : Flag) : Prop :=
  flag.IsStandard ∨ ∃ name, flag = custom name ∧ name ≠ "" ∧ Unpadded name ∧ ¬ IsReserved name

/-- A standard flag is spelled by its atom in whatever case, a keyword by nothing but its name,
which is neither empty nor reserved. -/
inductive Spells : String → Flag → Prop
  | standard {name : String} {flag : Flag} (known : flag.IsStandard)
      (variant : CaseVariant name flag.atom) : Spells name flag
  | keyword {name : String} (named : name ≠ "") (free : ¬ IsReserved name) :
      Spells name (custom name)

/-! ## Reserved names -/

/-- The atom of a standard flag is a reserved name, does not fold to nothing, and has no blank
around it. -/
theorem IsStandard.atom_reserved {flag : Flag} (known : flag.IsStandard) :
    flag.atom ∈ reservedNames ∧ foldCase flag.atom ≠ foldCase "" ∧ trim flag.atom = flag.atom := by
  cases flag with
  | custom name => exact absurd rfl (known name)
  | _ => decide

theorem eq_recent_or_atom {name : String} (reserved : name ∈ reservedNames) :
    name = "\\Recent" ∨ ∃ flag : Flag, flag.IsStandard ∧ flag.atom = name := by
  simp only [reservedNames, List.mem_cons, List.not_mem_nil, or_false] at reserved
  obtain rfl | rfl | rfl | rfl | rfl | rfl | rfl := reserved
  · exact .inr ⟨seen, nofun, rfl⟩
  · exact .inr ⟨answered, nofun, rfl⟩
  · exact .inr ⟨flagged, nofun, rfl⟩
  · exact .inr ⟨deleted, nofun, rfl⟩
  · exact .inr ⟨draft, nofun, rfl⟩
  · exact .inl rfl
  · exact .inr ⟨forwarded, nofun, rfl⟩

theorem isReserved_iff (name : String) :
    IsReserved name ↔ foldCase name ∈ reservedNames.map foldCase := by
  rw [List.mem_map]
  refine exists_congr fun reserved => and_congr_right fun _ => ?_
  rw [← foldCase_eq_foldCase_iff, eq_comm]

instance (name : String) : Decidable (IsReserved name) :=
  decidable_of_iff' _ (isReserved_iff name)

/-! ## What an atom stands for -/

theorem ofAtom?_of_standard {atom : String} {flag : Flag} (known : flag.IsStandard)
    (variant : CaseVariant (trim atom) flag.atom) : ofAtom? atom = some flag := by
  have folded := (foldCase_eq_foldCase_iff _ _).2 variant
  have named : trim atom ≠ "" := by
    intro empty
    rw [empty] at folded
    exact known.atom_reserved.2.1 folded.symm
  rw [ofAtom?, if_neg named, folded]
  cases flag with
  | custom name => exact absurd rfl (known name)
  | _ => rfl

theorem ofAtom?_of_free {atom : String} (named : trim atom ≠ "")
    (free : ¬ IsReserved (trim atom)) : ofAtom? atom = some (custom (trim atom)) := by
  rw [isReserved_iff] at free
  rw [ofAtom?, if_neg named]
  split
  -- Each spelling that `ofAtom?` knows is a reserved name with its case folded.
  all_goals first
    | rfl
    | next folded => exact absurd (by rw [folded]; decide) free

theorem ofAtom?_of_spells {atom : String} {flag : Flag} (spelled : Spells (trim atom) flag) :
    ofAtom? atom = some flag := by
  cases spelled with
  | standard known variant => exact ofAtom?_of_standard known variant
  | keyword named free => exact ofAtom?_of_free named free

theorem exists_spells {name : String} (telling : ¬ (name = "" ∨ CaseVariant name "\\Recent")) :
    ∃ flag, Spells name flag := by
  obtain ⟨named, lasting⟩ := not_or.1 telling
  by_cases reserved : IsReserved name
  · obtain ⟨other, is, variant⟩ := reserved
    obtain rfl | ⟨flag, known, rfl⟩ := eq_recent_or_atom is
    · exact absurd variant lasting
    · exact ⟨flag, .standard known variant⟩
  · exact ⟨custom name, .keyword named reserved⟩

theorem ofAtom?_eq_none_iff (atom : String) :
    ofAtom? atom = none ↔ trim atom = "" ∨ CaseVariant (trim atom) "\\Recent" := by
  constructor
  · intro nothing
    by_contra telling
    obtain ⟨flag, spelled⟩ := exists_spells telling
    rw [ofAtom?_of_spells spelled] at nothing
    cases nothing
  · rintro (empty | recent)
    · rw [ofAtom?, if_pos empty]
    · have folded := (foldCase_eq_foldCase_iff _ _).2 recent
      rw [ofAtom?, folded]
      exact ite_self none

theorem ofAtom?_eq_some_iff (atom : String) (flag : Flag) :
    ofAtom? atom = some flag ↔ Spells (trim atom) flag := by
  refine ⟨fun stands => ?_, ofAtom?_of_spells⟩
  have telling : ¬ (trim atom = "" ∨ CaseVariant (trim atom) "\\Recent") := by
    rw [← ofAtom?_eq_none_iff, stands]
    exact nofun
  obtain ⟨other, spelled⟩ := exists_spells telling
  have same : some flag = some other := stands.symm.trans (ofAtom?_of_spells spelled)
  rwa [Option.some.inj same]

/-! ## Names of one flag, flags with their own atoms -/

theorem Spells.eq_of_custom {name keyword : String} (spelled : Spells name (custom keyword)) :
    name = keyword := by
  cases spelled with
  | standard known => exact absurd rfl (known keyword)
  | keyword => rfl

theorem Spells.alike {left right : String} {flag : Flag} (spelled : Spells left flag)
    (alsoSpelled : Spells right flag) : Alike left right := by
  cases spelled with
  | keyword => exact .inl alsoSpelled.eq_of_custom.symm
  | standard known variant =>
    cases alsoSpelled with
    | keyword => exact absurd rfl (known right)
    | standard _ alsoVariant =>
      exact .inr ⟨flag.atom, known.atom_reserved.1, variant, alsoVariant⟩

theorem Spells.of_alike {left right : String} {flag : Flag} (alike : Alike left right)
    (spelled : Spells left flag) : Spells right flag := by
  obtain rfl | ⟨reserved, is, leftVariant, rightVariant⟩ := alike
  · exact spelled
  cases spelled with
  | keyword _ free => exact absurd ⟨reserved, is, leftVariant⟩ free
  | standard known variant =>
    rw [← foldCase_eq_foldCase_iff] at leftVariant rightVariant variant
    exact .standard known ((foldCase_eq_foldCase_iff _ _).1
      (rightVariant.trans (leftVariant.symm.trans variant)))

theorem Spells.isCanonical {name : String} {flag : Flag} (spelled : Spells name flag)
    (unpadded : Unpadded name) : flag.IsCanonical := by
  cases spelled with
  | standard known => exact .inl known
  | keyword named free => exact .inr ⟨name, rfl, named, unpadded, free⟩

theorem spells_atom_iff (flag : Flag) : Spells (trim flag.atom) flag ↔ flag.IsCanonical := by
  constructor
  · intro spelled
    exact spelled.isCanonical (unpadded_trim _)
  · rintro (known | ⟨name, rfl, named, unpadded, free⟩)
    · rw [known.atom_reserved.2.2]
      exact .standard known ((foldCase_eq_foldCase_iff _ _).1 rfl)
    · rw [atom, (trim_eq_self_iff name).2 unpadded]
      exact .keyword named free

/-- A flag that an atom stands for is told by its own atom, and so are exactly the canonical flags:
the standard flags, and the keywords with a name that is not empty, has no blank around it and is
not reserved.  Two atoms stand for one flag exactly when their names are alike, and neither empty
nor `\Recent` in whatever case. -/
theorem atoms_tell_flags :
    (∀ text flag, ofAtom? text = some flag → ofAtom? flag.atom = some flag) ∧
      (∀ flag, ofAtom? flag.atom = some flag ↔ flag.IsCanonical) ∧
      ∀ left right, (∃ flag, ofAtom? left = some flag ∧ ofAtom? right = some flag) ↔
        Alike (trim left) (trim right) ∧ trim left ≠ "" ∧
          ¬ CaseVariant (trim left) "\\Recent" := by
  simp only [ofAtom?_eq_some_iff]
  refine ⟨fun text flag spelled => ?_, spells_atom_iff, fun left right => ⟨?_, ?_⟩⟩
  · exact (spells_atom_iff flag).2 (spelled.isCanonical (unpadded_trim text))
  · rintro ⟨flag, spelled, alsoSpelled⟩
    refine ⟨spelled.alike alsoSpelled, not_or.1 ?_⟩
    rw [← ofAtom?_eq_none_iff, ofAtom?_of_spells spelled]
    exact nofun
  · rintro ⟨alike, telling⟩
    obtain ⟨flag, spelled⟩ := exists_spells (not_or.2 telling)
    exact ⟨flag, spelled, spelled.of_alike alike⟩

/-- A standard flag between blanks and in another case, and a keyword that no atom can give. -/
theorem atoms_tell_flags_padded :
    ofAtom? "\u3000\\SEEN\n" = some seen ∧ ofAtom? seen.atom = some seen ∧
      (∃ flag, ofAtom? "\u3000\\SEEN\n" = some flag ∧ ofAtom? "\\seen" = some flag) ∧
      ofAtom? (custom "Later ").atom ≠ some (custom "Later ") := by
  obtain ⟨again, canonical, told⟩ := atoms_tell_flags
  have padded : ofAtom? "\u3000\\SEEN\n" = some seen := by decide
  refine ⟨padded, again _ _ padded, (told _ _).2 ⟨.inr ⟨"\\Seen", ?_⟩, ?_⟩, fun own => ?_⟩
  · decide
  · decide
  · obtain known | ⟨name, is, -, unpadded, -⟩ := (canonical _).1 own
    · exact known "Later " rfl
    · cases is
      exact absurd unpadded (by decide)

/-- Atoms can be alike and stand for no flag: `\Recent` with and without a blank before it, and
atoms of nothing but blanks. -/
theorem alike_without_flag :
    ¬ ((∃ flag, ofAtom? "\\Recent" = some flag ∧ ofAtom? " \\Recent" = some flag) ↔
        Alike (trim "\\Recent") (trim " \\Recent")) ∧
      ¬ ((∃ flag, ofAtom? "" = some flag ∧ ofAtom? " " = some flag) ↔
        Alike (trim "") (trim " ")) := by
  refine ⟨fun told => ?_, fun told => ?_⟩
  · obtain ⟨flag, stands, -⟩ := told.2 (.inl (by decide))
    rw [(ofAtom?_eq_none_iff _).2 (.inr (by decide))] at stands
    cases stands
  · obtain ⟨flag, stands, -⟩ := told.2 (.inl (by decide))
    rw [(ofAtom?_eq_none_iff _).2 (.inl (by decide))] at stands
    cases stands

end MailReplica.Flag
