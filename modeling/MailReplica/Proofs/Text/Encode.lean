import MailReplica.Text.Octet

/-! # Characters and their octets

The octets of a text are those of its characters, one after another.  An octet of ASCII stands in
them for its character and for no other (`mem_encode`).
-/

namespace MailReplica.Text

@[simp]
theorem encode_append (first second : String) :
    encode (first ++ second) = encode first ++ encode second := by
  unfold encode
  rw [String.toList_append, List.flatMap_append]

theorem encode_ofList (chars : List Char) :
    encode (String.ofList chars) = chars.flatMap String.utf8EncodeChar := by
  rw [encode, String.toList_ofList]

/-- Every other octet of a character has its highest bit set. -/
theorem mem_utf8EncodeChar {octet : UInt8} (ascii : octet < 0x80) (c : Char) :
    octet ∈ String.utf8EncodeChar c ↔ c.toNat = octet.toNat := by
  have small : octet.toNat < 0x80 := UInt8.lt_iff_toNat_lt.1 ascii
  have lead (bits mark : Nat) (high : 0x80 ≤ mark) (fits : bits + mark < 0x100) :
      octet ≠ UInt8.ofNat (bits + mark) := by
    rintro rfl
    rw [UInt8.toNat_ofNat', Nat.mod_eq_of_lt fits] at small
    omega
  change octet ∈ String.utf8EncodeChar c ↔ c.val.toNat = octet.toNat
  unfold String.utf8EncodeChar
  generalize c.val.toNat = code
  dsimp only
  split
  next isAscii =>
    rw [List.mem_singleton, ← UInt8.toNat_inj, UInt8.toNat_ofNat', Nat.mod_eq_of_lt (by omega)]
    exact eq_comm
  next =>
    refine iff_of_false ?_ (by omega)
    have second := lead (code % 64) 128 (by omega) (by omega)
    have third := lead (code / 64 % 64) 128 (by omega) (by omega)
    have fourth := lead (code / 4096 % 64) 128 (by omega) (by omega)
    split
    · simp only [List.mem_cons, List.not_mem_nil, or_false, not_or]
      exact ⟨lead _ 192 (by omega) (by omega), second⟩
    split
    · simp only [List.mem_cons, List.not_mem_nil, or_false, not_or]
      exact ⟨lead _ 224 (by omega) (by omega), third, second⟩
    · simp only [List.mem_cons, List.not_mem_nil, or_false, not_or]
      exact ⟨lead _ 240 (by omega) (by omega), fourth, third, second⟩

theorem mem_encode {octet : UInt8} (ascii : octet < 0x80) (text : String) :
    octet ∈ encode text ↔ ∃ c ∈ text.toList, c.toNat = octet.toNat := by
  simp only [encode, List.mem_flatMap, mem_utf8EncodeChar ascii]

theorem cr_mem_encode (text : String) : Octet.cr ∈ encode text ↔ '\r' ∈ text.toList := by
  rw [mem_encode (by decide)]
  exact ⟨fun ⟨c, member, same⟩ => (Char.toNat_inj.1 same : c = '\r') ▸ member,
    fun member => ⟨'\r', member, rfl⟩⟩

theorem lf_mem_encode (text : String) : Octet.lf ∈ encode text ↔ '\n' ∈ text.toList := by
  rw [mem_encode (by decide)]
  exact ⟨fun ⟨c, member, same⟩ => (Char.toNat_inj.1 same : c = '\n') ▸ member,
    fun member => ⟨'\n', member, rfl⟩⟩

end MailReplica.Text
