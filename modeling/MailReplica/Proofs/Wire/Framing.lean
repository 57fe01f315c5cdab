import MailReplica.Proofs.Wire.Grammar
import MailReplica.Wire.Response

/-! # Framing a stream

What stands first among the octets that have arrived is the same whatever follows, unless more
octets are needed to tell (`Framed.first_append`).  What is taken at once is at least one octet, and
no more than have arrived (`Framed.first_length`).  A line that the grammar does not know goes up to
the first line end (`lineLength?_append_lineEnd`).
-/

namespace MailReplica.Wire

open Scanner

variable {octets more : Octets} {length : Nat}

theorem lineLength?_append (line : lineLength? octets = some length) :
    lineLength? (octets ++ more) = some length := by
  fun_induction lineLength? octets generalizing length with
  | case1 first second rest ends =>
    simp only [List.cons_append, lineLength?, ends, if_true]
    exact line
  | case2 first second rest goes ih =>
    obtain ⟨length, tail, rfl⟩ := Option.map_eq_some_iff.1 line
    have later := ih tail
    rw [List.cons_append] at later
    simp only [List.cons_append, lineLength?, goes, later]
    rfl
  | case3 => cases line

theorem lineLength?_le (line : lineLength? octets = some length) :
    0 < length ∧ length ≤ octets.length := by
  fun_induction lineLength? octets generalizing length with
  | case1 first second rest ends =>
    cases line
    simp
  | case2 first second rest goes ih =>
    obtain ⟨length, tail, rfl⟩ := Option.map_eq_some_iff.1 line
    have := ih tail
    simp at this ⊢
    omega
  | case3 => cases line

/-! ## Ends of lines -/

def lineEnd : Octets :=
  [Octet.cr, Octet.lf]

theorem lineLength?_cons {octet : UInt8} {rest : Octets} (goes : ¬lineEnd <+: octet :: rest) :
    lineLength? (octet :: rest) = (lineLength? rest).map (· + 1) := by
  cases rest with
  | nil => rfl
  | cons next rest =>
    rw [lineLength?, if_neg]
    intro ends
    simp only [Bool.and_eq_true, beq_iff_eq] at ends
    exact goes (ends.1 ▸ ends.2 ▸ List.prefix_append lineEnd rest)

/-- A line that holds no line end goes up to the first one. -/
theorem lineLength?_append_lineEnd {line : Octets} (plain : ¬lineEnd <:+: line) (rest : Octets) :
    lineLength? (line ++ lineEnd ++ rest) = some (line ++ lineEnd).length := by
  induction line with
  | nil => rfl
  | cons octet line ih =>
    have goes : ¬lineEnd <+: octet :: (line ++ lineEnd ++ rest) := by
      rintro ⟨after, same⟩
      cases line with
      | nil => cases same
      | cons next line =>
        cases same
        exact plain (List.prefix_append lineEnd line).isInfix
    rw [List.cons_append, List.cons_append, lineLength?_cons goes,
      ih fun found => plain (List.infix_cons found)]
    rfl

/-! ## Framing -/

namespace Framed

/-- How many octets are taken at once, if any are. -/
def length? : Framed → Option Nat
  | response _ length | unknown length => some length
  | incomplete | unrepresentable => none

variable {grammar : Scanner Reply}

theorem first_append (grows : Growing grammar) (known : first grammar octets ≠ .incomplete) :
    first grammar (octets ++ more) = first grammar octets := by
  have carries := grows octets.length octets more (Nat.le_refl _)
  unfold first at known ⊢
  generalize grammar octets = now, grammar (octets ++ more) = later at carries known ⊢
  cases carries with
  | found value rest takes =>
    simp only [List.length_append, Nat.add_sub_add_right]
  | incomplete => exact absurd rfl known
  | rejected =>
    cases line : lineLength? octets with
    | none => exact absurd (by rw [line]) known
    | some length => rw [lineLength?_append line]
  | unrepresentable => rfl

theorem rejected_of_first (is : first grammar octets = .unknown length) :
    grammar octets = .rejected := by
  unfold first at is
  cases scanned : grammar octets with
  | rejected => rfl
  | _ => simp only [scanned, reduceCtorEq] at is

theorem first_length (grows : Growing grammar)
    (is : (first grammar octets).length? = some length) : 0 < length ∧ length ≤ octets.length := by
  have carries := grows octets.length octets [] (Nat.le_refl _)
  unfold first at is
  generalize grammar octets = now, grammar (octets ++ []) = later at carries is
  cases carries with
  | found value rest takes =>
    cases is
    omega
  | incomplete | unrepresentable => cases is
  | rejected =>
    cases line : lineLength? octets with
    | none =>
      rw [line] at is
      cases is
    | some own =>
      rw [line] at is
      cases is
      exact lineLength?_le line

theorem length_of_response (grows : Growing grammar) {response : Response}
    (is : first grammar octets = .response response length) :
    0 < length ∧ length ≤ octets.length :=
  first_length grows (is ▸ rfl)

theorem length_of_unknown (grows : Growing grammar)
    (is : first grammar octets = .unknown length) : 0 < length ∧ length ≤ octets.length :=
  first_length grows (is ▸ rfl)

end Framed

end MailReplica.Wire
