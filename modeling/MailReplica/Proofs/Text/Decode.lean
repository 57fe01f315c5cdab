import Mathlib.Logic.Basic
import MailReplica.Text.Utf8

/-! # Octets read as the text they stand for

The octets of a character are read as that character, whatever follows them (`readChars_char`), so
the octets of a text are read as the text (`decode?_encode`).
-/

namespace MailReplica.Text

theorem toNat_octet {value : Nat} (fits : value < 256) : (UInt8.ofNat value).toNat = value :=
  UInt8.toNat_ofNat_of_lt fits

theorem octet_le {low : UInt8} {value : Nat} (fits : value < 256) :
    low ≤ UInt8.ofNat value ↔ low.toNat ≤ value := by
  rw [UInt8.le_iff_toNat_le, toNat_octet fits]

theorem le_octet {high : UInt8} {value : Nat} (fits : value < 256) :
    UInt8.ofNat value ≤ high ↔ value ≤ high.toNat := by
  rw [UInt8.le_iff_toNat_le, toNat_octet fits]

theorem continuation_octet {bits : Nat} (fits : bits < 64) (code count : Nat) (rest : Octets) :
    continuation code (count + 1) (UInt8.ofNat (bits + 128) :: rest) =
      continuation (code * 64 + bits) count rest := by
  have octet : bits + 128 < 256 := by omega
  have within : 0x80 ≤ UInt8.ofNat (bits + 128) ∧ UInt8.ofNat (bits + 128) ≤ 0xBF :=
    ⟨(octet_le octet).2 (Nat.le_add_left 128 bits),
      (le_octet octet).2 (by change bits + 128 ≤ 191; omega)⟩
  rw [continuation, if_pos within, toNat_octet octet, Nat.add_sub_cancel]

/-- The lead octet `lead` announces `count` octets after the second one, with the bits `lead` and
`second` in the first two. -/
def Announces (lead second bits count : Nat) : Prop :=
  ∃ shape, leadShape? (UInt8.ofNat lead) = some shape ∧ shape.bits = bits ∧ shape.more = count ∧
    shape.low.toNat ≤ second + 128 ∧ second + 128 ≤ shape.high.toNat

theorem announces_two {bits second : Nat} (long : 2 ≤ bits) (fits : bits < 32)
    (within : second < 64) : Announces (bits + 192) second bits 0 := by
  refine ⟨⟨bits, 0x80, 0xBF, 0⟩, ?_, rfl, rfl, Nat.le_add_left 128 second, ?_⟩
  · have lead : (UInt8.ofNat (bits + 192)).toNat = bits + 192 := toNat_octet (by omega)
    simp only [leadShape?, lead]
    rw [if_pos (by omega), Nat.add_sub_cancel]
  · change second + 128 ≤ 191
    omega

theorem announces_three {bits second : Nat} (fits : bits < 16) (within : second < 64)
    (long : bits = 0 → 32 ≤ second) (plain : bits = 13 → second < 32) :
    Announces (bits + 224) second bits 1 := by
  have lead : (UInt8.ofNat (bits + 224)).toNat = bits + 224 := toNat_octet (by omega)
  simp only [Announces, leadShape?, lead]
  rw [if_neg (by omega)]
  obtain rfl | first := eq_or_ne bits 0
  · exact ⟨_, rfl, rfl, rfl, Nat.add_le_add_right (long rfl) 128,
      by change second + 128 ≤ 191; omega⟩
  rw [if_neg (by omega)]
  obtain rfl | surrogate := eq_or_ne bits 13
  · have := plain rfl
    exact ⟨_, rfl, rfl, rfl, Nat.le_add_left 128 second, by change second + 128 ≤ 159; omega⟩
  rw [if_neg (by omega), if_pos (by omega), Nat.add_sub_cancel]
  exact ⟨_, rfl, rfl, rfl, Nat.le_add_left 128 second, by change second + 128 ≤ 191; omega⟩

theorem announces_four {bits second : Nat} (fits : bits < 5) (within : second < 64)
    (long : bits = 0 → 16 ≤ second) (last : bits = 4 → second < 16) :
    Announces (bits + 240) second bits 2 := by
  have lead : (UInt8.ofNat (bits + 240)).toNat = bits + 240 := toNat_octet (by omega)
  simp only [Announces, leadShape?, lead]
  rw [if_neg (by omega), if_neg (by omega), if_neg (by omega), if_neg (by omega)]
  obtain rfl | first := eq_or_ne bits 0
  · exact ⟨_, rfl, rfl, rfl, Nat.add_le_add_right (long rfl) 128,
      by change second + 128 ≤ 191; omega⟩
  rw [if_neg (by omega)]
  obtain rfl | below := eq_or_ne bits 4
  · have := last rfl
    exact ⟨_, rfl, rfl, rfl, Nat.le_add_left 128 second, by change second + 128 ≤ 143; omega⟩
  rw [if_pos (by omega), Nat.add_sub_cancel]
  exact ⟨_, rfl, rfl, rfl, Nat.le_add_left 128 second, by change second + 128 ≤ 191; omega⟩

/-- A sequence is read on where its second octet is one that its lead octet allows. -/
theorem readChars_lead {lead second bits count : Nat} (announces : Announces lead second bits count)
    (above : 128 ≤ lead) (octet : lead < 256) (fits : second < 64) (rest : Octets) :
    readChars (UInt8.ofNat lead :: UInt8.ofNat (second + 128) :: rest) =
      (continuation (bits * 64 + second) count rest).1 ::
        readChars (continuation (bits * 64 + second) count rest).2 := by
  obtain ⟨shape, announced, rfl, rfl, low, high⟩ := announces
  have within : second + 128 < 256 := by omega
  have beyond : ¬UInt8.ofNat lead < 0x80 := by
    rw [UInt8.lt_iff_toNat_lt, toNat_octet octet]
    exact Nat.not_lt.2 above
  have read : readChar (UInt8.ofNat lead) (UInt8.ofNat (second + 128) :: rest) =
      continuation (shape.bits * 64 + second) shape.more rest := by
    unfold readChar
    rw [if_neg beyond, announced]
    dsimp only
    rw [if_pos ⟨(octet_le within).2 low, (le_octet within).2 high⟩, toNat_octet within,
      Nat.add_sub_cancel]
  rw [readChars, read]

theorem readChars_ascii {code : Nat} (ascii : code < 128) (rest : Octets) :
    readChars (UInt8.ofNat code :: rest) = some (Char.ofNat code) :: readChars rest := by
  have octet : code < 256 := Nat.lt_trans ascii (by decide)
  have low : UInt8.ofNat code < 0x80 := by
    rw [UInt8.lt_iff_toNat_lt, toNat_octet octet]
    exact ascii
  have read : readChar (UInt8.ofNat code) rest = (some (Char.ofNat code), rest) := by
    unfold readChar
    rw [if_pos low, toNat_octet octet]
  rw [readChars, read]

/-- The octets of a character are read as the character. -/
theorem readChars_char (c : Char) (rest : Octets) :
    readChars (String.utf8EncodeChar c ++ rest) = some c :: readChars rest := by
  have valid : c.val.toNat < 55296 ∨ 57343 < c.val.toNat ∧ c.val.toNat < 1114112 := c.valid
  have number : Char.ofNat c.val.toNat = c := Char.ofNat_toNat c
  unfold String.utf8EncodeChar
  generalize c.val.toNat = code at valid number
  subst number
  dsimp only
  split
  next ascii =>
    rw [List.singleton_append, readChars_ascii (Nat.lt_succ_of_le ascii)]
  next beyond =>
  split
  next two =>
    have same : code / 64 % 32 * 64 + code % 64 = code := by omega
    have announces : Announces (code / 64 % 32 + 192) (code % 64) (code / 64 % 32) 0 :=
      announces_two (by omega) (by omega) (by omega)
    simp only [List.cons_append, List.nil_append]
    rw [readChars_lead announces (by omega) (by omega) (by omega), same]
    rfl
  split
  next three =>
    have same : (code / 4096 % 16 * 64 + code / 64 % 64) * 64 + code % 64 = code := by omega
    have announces :
        Announces (code / 4096 % 16 + 224) (code / 64 % 64) (code / 4096 % 16) 1 :=
      announces_three (by omega) (by omega) (by omega) (by omega)
    simp only [List.cons_append, List.nil_append]
    rw [readChars_lead announces (by omega) (by omega) (by omega),
      continuation_octet (by omega), same]
    rfl
  next four =>
    have same : ((code / 262144 % 8 * 64 + code / 4096 % 64) * 64 + code / 64 % 64) * 64 +
        code % 64 = code := by omega
    have announces :
        Announces (code / 262144 % 8 + 240) (code / 4096 % 64) (code / 262144 % 8) 2 :=
      announces_four (by omega) (by omega) (by omega) (by omega)
    simp only [List.cons_append, List.nil_append]
    rw [readChars_lead announces (by omega) (by omega) (by omega),
      continuation_octet (by omega), continuation_octet (by omega), same]
    rfl

theorem readChars_encode (chars : List Char) (rest : Octets) :
    readChars (chars.flatMap String.utf8EncodeChar ++ rest) = chars.map some ++ readChars rest := by
  induction chars with
  | nil => rfl
  | cons c chars ih =>
    rw [List.flatMap_cons, List.append_assoc, readChars_char, ih]
    rfl

theorem mapM_id_map_some (chars : List Char) : (chars.map some).mapM id = some chars := by
  induction chars with
  | nil => rfl
  | cons c chars ih =>
    rw [List.map_cons, List.mapM_cons, ih]
    rfl

theorem decode?_encode (text : String) : decode? (encode text) = some text := by
  have read := readChars_encode text.toList []
  rw [List.append_nil, readChars, List.append_nil] at read
  rw [decode?, encode, read, mapM_id_map_some, Option.map_some, String.ofList_toList]

end MailReplica.Text
