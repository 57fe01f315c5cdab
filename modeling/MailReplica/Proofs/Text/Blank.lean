import Mathlib.Data.List.DropRight
import Mathlib.Data.List.Forall2
import MailReplica.Text.Blank

/-! # Trimmed texts and letter case

Trimming leaves the one part of a text that has no blank at either end and only blanks around it
(`trim_eq_iff`).  Two texts have the same folded case when they agree letter by letter, up to the
case of ASCII letters (`foldCase_eq_foldCase_iff`).
-/

namespace MailReplica.Text

/-! ## Trimming -/

/-- Whether a text neither starts nor ends with a blank. -/
def Unpadded (text : String) : Prop :=
  (∀ c ∈ text.toList.head?, isBlank c = false) ∧ ∀ c ∈ text.toList.getLast?, isBlank c = false

theorem isBlank_head?_trimStartChars (chars : List Char) :
    ∀ c ∈ (trimStartChars chars).head?, isBlank c = false := by
  intro c first
  have solid := List.head?_dropWhile_not isBlank chars
  rw [trimStartChars, Option.mem_def] at first
  rwa [first] at solid

theorem isBlank_getLast?_trimEndChars (chars : List Char) :
    ∀ c ∈ (trimEndChars chars).getLast?, isBlank c = false := by
  rw [trimEndChars, List.getLast?_reverse]
  exact isBlank_head?_trimStartChars chars.reverse

theorem trimStartChars_append {before chars : List Char} (blank : ∀ c ∈ before, isBlank c)
    (solid : ∀ c ∈ chars.head?, isBlank c = false) : trimStartChars (before ++ chars) = chars := by
  rw [trimStartChars, List.dropWhile_append_of_pos blank]
  cases chars with
  | nil => rfl
  | cons first rest => exact List.dropWhile_cons_of_neg (Bool.eq_false_iff.1 (solid first rfl))

theorem trimEndChars_append {chars after : List Char} (blank : ∀ c ∈ after, isBlank c)
    (solid : ∀ c ∈ chars.getLast?, isBlank c = false) : trimEndChars (chars ++ after) = chars := by
  rw [trimEndChars, List.reverse_append,
    trimStartChars_append (fun c is => blank c (List.mem_reverse.1 is))
      (by rwa [List.head?_reverse]), List.reverse_reverse]

/-- What trimming the end leaves starts as before, if it leaves anything. -/
theorem head?_mem_of_trimEndChars {chars : List Char} {c : Char}
    (first : c ∈ (trimEndChars chars).head?) : c ∈ chars.head? := by
  obtain ⟨tail, split⟩ : trimEndChars chars <+: chars := List.rdropWhile_prefix isBlank chars
  rw [← split, List.head?_append, Option.mem_def.1 first]
  rfl

theorem append_of_trimEndChars (chars : List Char) :
    ∃ after, (∀ c ∈ after, isBlank c) ∧ trimEndChars chars ++ after = chars :=
  ⟨chars.rtakeWhile isBlank, fun _ => List.mem_rtakeWhile_imp, List.rdropWhile_append_rtakeWhile⟩

/-- Trimming leaves the part of a text that has no blank at either end and only blanks around
it. -/
theorem trim_eq_iff (text core : String) :
    trim text = core ↔
      Unpadded core ∧ ∃ before after, (∀ c ∈ before, isBlank c) ∧ (∀ c ∈ after, isBlank c) ∧
        text.toList = before ++ core.toList ++ after := by
  constructor
  · rintro rfl
    rw [Unpadded, trim, String.toList_ofList, trimChars]
    refine ⟨⟨fun c first => ?_, isBlank_getLast?_trimEndChars _⟩, ?_⟩
    · exact isBlank_head?_trimStartChars _ c (head?_mem_of_trimEndChars first)
    · obtain ⟨after, blank, split⟩ := append_of_trimEndChars (trimStartChars text.toList)
      refine ⟨text.toList.takeWhile isBlank, after, fun _ => List.mem_takeWhile_imp, blank, ?_⟩
      rw [List.append_assoc, split, trimStartChars, List.takeWhile_append_dropWhile]
  · rintro ⟨⟨starts, ends⟩, before, after, blankBefore, blankAfter, split⟩
    rw [trim, trimChars, split, ← String.toList_inj, String.toList_ofList]
    by_cases empty : core.toList = []
    · -- Nothing tells where the blanks before an empty core end, so all are dropped from the start.
      have blank : ∀ c ∈ before ++ after, isBlank c := fun c is =>
        (List.mem_append.1 is).elim (blankBefore c) (blankAfter c)
      have gone : trimStartChars (before ++ after ++ []) = [] := trimStartChars_append blank nofun
      rw [empty, List.append_nil, ← List.append_nil (before ++ after), gone]
      rfl
    · have stays : (core.toList ++ after).head? = core.toList.head? :=
        List.head?_append_of_ne_nil _ empty
      rw [List.append_assoc, trimStartChars_append blankBefore (by rwa [stays]),
        trimEndChars_append blankAfter ends]

theorem unpadded_trim (text : String) : Unpadded (trim text) :=
  ((trim_eq_iff text _).1 rfl).1

theorem trim_eq_self_iff (text : String) : trim text = text ↔ Unpadded text := by
  rw [trim_eq_iff, and_iff_left]
  exact ⟨[], [], nofun, nofun, by simp⟩

instance (text : String) : Decidable (Unpadded text) :=
  decidable_of_iff _ (trim_eq_self_iff text)

/-! ## Letter case -/

/-- Whether two characters are the same, or one ASCII letter in both cases. -/
inductive SameLetter : Char → Char → Prop
  | same (c : Char) : SameLetter c c
  | lowered {capital small : Char} (letter : capital.isUpper)
      (code : small.toNat = capital.toNat + 32) : SameLetter capital small
  | raised {small capital : Char} (letter : capital.isUpper)
      (code : small.toNat = capital.toNat + 32) : SameLetter small capital

/-- Whether two texts differ at most in the case of ASCII letters. -/
def CaseVariant (left right : String) : Prop :=
  List.Forall₂ SameLetter left.toList right.toList

theorem isUpper_iff (c : Char) : c.isUpper = true ↔ 65 ≤ c.toNat ∧ c.toNat ≤ 90 :=
  decide_eq_true_iff.trans (and_congr UInt32.le_iff_toNat_le UInt32.le_iff_toNat_le)

theorem toNat_toLower (c : Char) :
    c.toLower.toNat = if c.isUpper then c.toNat + 32 else c.toNat := by
  by_cases capital : c.isUpper
  · have bound : c.toNat ≤ 90 := ((isUpper_iff c).1 capital).2
    have fits : c.toNat + 32 < 2 ^ 32 := by omega
    have lowered : c.toLower.val = c.val + 32 :=
      congrArg Char.val (dif_pos (of_decide_eq_true capital))
    rw [if_pos capital, ← Char.toNat_val, lowered, UInt32.toNat_add]
    exact Nat.mod_eq_of_lt fits
  · rw [if_neg capital]
    exact congrArg Char.toNat (dif_neg fun within => capital (decide_eq_true within))

theorem not_isUpper_of_code {capital small : Char} (letter : capital.isUpper)
    (code : small.toNat = capital.toNat + 32) : ¬ small.isUpper := by
  rw [isUpper_iff] at letter ⊢
  omega

theorem toLower_eq_toLower_iff (c d : Char) : c.toLower = d.toLower ↔ SameLetter c d := by
  rw [← Char.toNat_inj, toNat_toLower, toNat_toLower]
  constructor
  · intro codes
    by_cases capital : c.isUpper <;> by_cases other : d.isUpper
    all_goals simp only [capital, other, if_true] at codes
    · exact Char.toNat_inj.1 (Nat.add_right_cancel codes) ▸ .same c
    · exact .lowered capital codes.symm
    · exact .raised other codes
    · exact Char.toNat_inj.1 codes ▸ .same c
  · rintro (_ | ⟨capital, code⟩ | ⟨capital, code⟩)
    · rfl
    all_goals rw [if_pos capital, if_neg (not_isUpper_of_code capital code), code]

theorem foldCase_eq_foldCase_iff (left right : String) :
    foldCase left = foldCase right ↔ CaseVariant left right := by
  rw [foldCase, foldCase, String.ofList_inj, CaseVariant, ← List.forall₂_eq_eq_eq]
  simp only [List.forall₂_map_left_iff, List.forall₂_map_right_iff, toLower_eq_toLower_iff]

instance (left right : String) : Decidable (CaseVariant left right) :=
  decidable_of_iff _ (foldCase_eq_foldCase_iff left right)

end MailReplica.Text
