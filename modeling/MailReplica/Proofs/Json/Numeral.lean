import MailReplica.Proofs.Json.RoundTrip

/-! # Numbers read back

A number is written with no more digits than it needs, and read as the number that its digits stand
for (`takes_natural`).  Unlike any other value it has no mark of its own that ends it, so what follows
must not go on with it.
-/

namespace MailReplica.Json

theorem isDigit_of_mem_toDigits {n : Nat} {c : Char} (member : c ∈ Nat.toDigits 10 n) :
    isDigit c = true := by
  have digit : c.isDigit = true :=
    Nat.isDigit_of_mem_toDigits (by decide) (Nat.le_refl 10) member
  exact digit

theorem exists_toDigits (n : Nat) :
    ∃ digit others, Nat.toDigits 10 n = digit :: others ∧ isDigit digit = true := by
  obtain ⟨digit, others, digits⟩ := List.exists_cons_of_ne_nil (Nat.toDigits_ne_nil (n := n))
  exact ⟨digit, others, digits, isDigit_of_mem_toDigits (digits ▸ List.mem_cons_self)⟩

theorem digitsValue_toDigits (n : Nat) : digitsValue (Nat.toDigits 10 n) = n := by
  have value := Nat.ofDigitChars_ten_toDigits (n := n)
  rw [Nat.ofDigitChars_eq_foldl] at value
  simpa only [digitsValue, Nat.mul_comm] using value

/-- Only zero is written with a leading zero. -/
theorem head?_toDigits_ne {n : Nat} (positive : 0 < n) : (Nat.toDigits 10 n).head? ≠ some '0' := by
  induction n using Nat.strongRecOn with
  | ind n ih =>
    obtain small | large := Nat.lt_or_ge n 10
    · rw [Nat.toDigits_of_lt_base small]
      interval_cases n <;> decide
    · have first := ih (n / 10) (Nat.div_lt_self positive (by decide)) (Nat.div_pos large (by decide))
      obtain ⟨digit, others, digits, _⟩ := exists_toDigits (n / 10)
      rw [Nat.toDigits_of_base_le (by decide) large]
      rw [digits] at first ⊢
      exact first

theorem leadingZero_toDigits (n : Nat) :
    ((Nat.toDigits 10 n).head? == some '0' && decide (1 < (Nat.toDigits 10 n).length)) = false := by
  cases n with
  | zero => rfl
  | succ n => simp [head?_toDigits_ne (Nat.succ_pos n)]

theorem isTooLarge_of_length {chars : List Char} (short : chars.length < 309) :
    isTooLarge chars 0 = false := by
  have fewer : (chars.dropWhile (· == '0')).length ≤ chars.length :=
    (List.dropWhile_sublist _).length_le
  have places : ((chars.dropWhile (· == '0')).length : Int) + 0 < 309 := by omega
  simp only [isTooLarge, places, decide_true, Bool.or_true, if_true]

theorem run_accept_other {c : Char} {chars : List Char} (other : ∀ next ∈ chars.head?, next ≠ c) :
    (accept c).run chars = .ok (false, chars) := by
  cases chars with
  | nil => rfl
  | cons next rest =>
    change StateT.run (if next = c then _ else _) _ = _
    rw [if_neg (other next rfl)]
    rfl

theorem run_digits1 {whole rest : List Char} (some : whole ≠ [])
    (are : ∀ c ∈ whole, isDigit c = true) (ends : EndsNumber rest) :
    digits1.run (whole ++ rest) = .ok (whole, rest) := by
  have stops : rest.takeWhile isDigit = [] ∧ rest.dropWhile isDigit = rest := by
    cases rest with
    | nil => exact ⟨rfl, rfl⟩
    | cons c rest => simp [(ends c rfl).1]
  have read : digits.run (whole ++ rest) = .ok (whole, rest) := by
    change Except.ok ((whole ++ rest).takeWhile isDigit, (whole ++ rest).dropWhile isDigit) = _
    rw [List.takeWhile_append_of_pos are, List.dropWhile_append_of_pos are, stops.1, stops.2,
      List.append_nil]
  refine (run_bind_of_ok read).trans ?_
  cases whole with
  | nil => exact absurd rfl some
  | cons first others => rfl

theorem run_numeral {n : Nat} (short : (Nat.toDigits 10 n).length < 309) {rest : List Char}
    (ends : EndsNumber rest) :
    numeral.run (Nat.toDigits 10 n ++ rest) = .ok (some (n : Int), rest) := by
  have unsigned : (accept '-').run (Nat.toDigits 10 n ++ rest) =
      .ok (false, Nat.toDigits 10 n ++ rest) := by
    obtain ⟨digit, others, digits, is⟩ := exists_toDigits n
    rw [digits]
    refine run_accept_other fun next first => ?_
    obtain rfl := Option.some_inj.1 first
    rintro rfl
    exact absurd is (by decide)
  have whole := run_digits1 Nat.toDigits_ne_nil (fun _ => isDigit_of_mem_toDigits (n := n)) ends
  have point : (accept '.').run rest = .ok (false, rest) :=
    run_accept_other fun c is => (ends c is).2.1
  have small : (accept 'e').run rest = .ok (false, rest) :=
    run_accept_other fun c is => (ends c is).2.2.1
  have capital : (accept 'E').run rest = .ok (false, rest) :=
    run_accept_other fun c is => (ends c is).2.2.2
  rw [numeral, run_bind_of_ok unsigned, run_bind_of_ok whole]
  simp only [leadingZero_toDigits, Bool.false_eq_true, if_false]
  rw [run_bind_of_ok point]
  simp only [Bool.false_eq_true, if_false, pure_bind, List.append_nil]
  rw [run_bind_of_ok small]
  simp only [Bool.false_eq_true, if_false]
  rw [run_bind_of_ok capital]
  have fits := isTooLarge_of_length short
  simp only [List.length_nil, Nat.cast_zero, Int.sub_zero, fits, digitsValue_toDigits,
    Bool.false_eq_true, if_false, Bool.or_self, Bool.false_and]
  rfl

theorem isGap_of_isDigit {c : Char} (digit : isDigit c = true) : isGap c = false := by
  rw [← Bool.not_eq_true]
  exact fun gap => absurd digit (by simp [(breaksNumber_of_isGap gap).1])

theorem opens_natural : Opens Layout.natural := by
  intro style n
  obtain ⟨digit, others, digits, is⟩ := exists_toDigits n
  refine ⟨digit, others, Nat.toList_repr.trans digits, isGap_of_isDigit is, ?_, ?_⟩
  all_goals
    rintro rfl
    exact absurd is (by decide)

theorem takes_natural {size n : Nat} (fits : n < size) (bounded : size ≤ 10 ^ 20) (style : Style) :
    Takes (natural size) (Layout.natural n style) n := by
  have short : (Nat.toDigits 10 n).length ≤ 20 :=
    (Nat.length_toDigits_le_iff (by decide) (by decide)).2 (fits.trans_le bounded)
  obtain ⟨digit, others, digits, is⟩ := exists_toDigits n
  rw [Layout.natural, Nat.toList_repr, digits]
  refine takes_value (isGap_of_isDigit is) fun rest ends => ?_
  have read := run_numeral (short.trans_lt (by decide)) ends
  rw [digits] at read
  rw [if_pos (.inr is)]
  refine (run_bind_of_ok read).trans ?_
  change StateT.run (if 0 ≤ (n : Int) ∧ (n : Int) < size then pure (n : Int).toNat else _) rest = _
  rw [if_pos ⟨Int.natCast_nonneg n, Int.ofNat_lt.2 fits⟩]
  rfl

end MailReplica.Json
