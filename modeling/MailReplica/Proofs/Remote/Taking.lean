import MailReplica.Proofs.Wire.Framing
import MailReplica.Remote.Connection

/-! # Taking responses from what has arrived

A response is taken from the octets that have arrived once they hold a whole one, behind lines that
the grammar does not know.  What is taken from some octets is taken from them with more behind them
(`take_append_of_result`), and where more are needed nothing of what was skipped is looked at again
(`take_append_of_none`).  The notes of what was skipped and taken account for each octet
(`notes_account`).  All of this holds of any grammar of a stream, since nothing is asked of it but
that it grows with what arrives.
-/

namespace MailReplica.Remote

open Wire

/-! ## Notes -/

/-- What is taken at once from the octets that have arrived. -/
inductive Note where
  /-- A line that the grammar does not know. -/
  | skipped (line : Octets)
  /-- The octets of a response. -/
  | taken (octets : Octets)

def Note.octets : Note → Octets
  | skipped octets | taken octets => octets

/-- Notes of skipped lines only, or with a response behind them, as `found` says. -/
inductive Noted : Bool → List Note → Prop
  | nothing : Noted false []
  | response (octets : Octets) : Noted true [.taken octets]
  | line (line : Octets) {found : Bool} {notes : List Note} (noted : Noted found notes) :
    Noted found (.skipped line :: notes)

theorem Noted.append {found : Bool} {before notes : List Note} (skipped : Noted false before)
    (noted : Noted found notes) : Noted found (before ++ notes) := by
  generalize is : false = none at skipped
  induction skipped with
  | nothing => exact noted
  | response => cases is
  | line line _ ih => exact .line line (ih is)

/-- What `takeWithin` skips and takes. -/
def notesWithin (grammar : Scanner Reply) : Nat → Octets → List Note
  | 0, _ => []
  | fuel + 1, octets =>
    match Framed.first grammar octets with
    | .response _ length => [.taken (octets.take length)]
    | .unknown length =>
      .skipped (octets.take length) :: notesWithin grammar fuel (octets.drop length)
    | .incomplete | .unrepresentable => []

/-- What `take` skips and takes. -/
def notes (grammar : Scanner Reply) (octets : Octets) : List Note :=
  notesWithin grammar (octets.length + 1) octets

namespace Taken

/-- The octets that are left. -/
def rest : Taken → Octets
  | response _ rest | more rest | unrepresentable rest => rest

/-- What a read comes to, unless more octets are needed. -/
def result? : Taken → Option (Except Failure Response)
  | response found _ => some (.ok found)
  | more _ => none
  | unrepresentable _ => some (.error (.protocol "Unrepresentable response"))

/-- Whether a response was taken. -/
def found (taken : Taken) : Bool :=
  taken.result?.any Except.isOk

/-- What was taken, with more octets behind those that are left. -/
def extend (octets : Octets) : Taken → Taken
  | response found rest => response found (rest ++ octets)
  | more rest => more (rest ++ octets)
  | unrepresentable rest => unrepresentable (rest ++ octets)

@[simp]
theorem result?_extend (octets : Octets) (taken : Taken) :
    (taken.extend octets).result? = taken.result? := by
  cases taken <;> rfl

@[simp]
theorem rest_extend (octets : Octets) (taken : Taken) :
    (taken.extend octets).rest = taken.rest ++ octets := by
  cases taken <;> rfl

end Taken

/-! ## Taking from a longer stream -/

section Take

variable {grammar : Scanner Reply} {octets more : Octets} {length fuel fuel' : Nat}

theorem length_drop_lt (grows : Scanner.Growing grammar)
    (is : Framed.first grammar octets = .unknown length) :
    (octets.drop length).length < octets.length := by
  have := Framed.length_of_unknown grows is
  rw [List.length_drop]
  omega

/-- Each line takes an octet, so any fuel beyond the number of octets is enough. -/
theorem within_eq (grows : Scanner.Growing grammar) (enough : octets.length < fuel)
    (enough' : octets.length < fuel') :
    takeWithin grammar fuel octets = takeWithin grammar fuel' octets ∧
      notesWithin grammar fuel octets = notesWithin grammar fuel' octets := by
  induction fuel generalizing fuel' octets with
  | zero => cases enough
  | succ fuel ih =>
    cases fuel' with
    | zero => cases enough'
    | succ fuel' =>
      unfold takeWithin notesWithin
      cases is : Framed.first grammar octets with
      | unknown length =>
        have shorter := length_drop_lt grows is
        have same := @ih (octets.drop length) fuel' (by omega) (by omega)
        exact same.imp id (congrArg _)
      | _ => exact ⟨rfl, rfl⟩

theorem take_eq (grows : Scanner.Growing grammar) (octets : Octets) :
    take grammar octets =
      match Framed.first grammar octets with
      | .response response length => .response response (octets.drop length)
      | .incomplete => .more octets
      | .unknown length => take grammar (octets.drop length)
      | .unrepresentable => .unrepresentable octets := by
  rw [take, takeWithin]
  cases is : Framed.first grammar octets with
  | unknown length => exact (within_eq grows (length_drop_lt grows is) (Nat.lt_succ_self _)).1
  | _ => rfl

theorem notes_eq (grows : Scanner.Growing grammar) (octets : Octets) :
    notes grammar octets =
      match Framed.first grammar octets with
      | .response _ length => [.taken (octets.take length)]
      | .unknown length => .skipped (octets.take length) :: notes grammar (octets.drop length)
      | .incomplete | .unrepresentable => [] := by
  rw [notes, notesWithin]
  cases is : Framed.first grammar octets with
  | unknown length =>
    exact congrArg _ (within_eq grows (length_drop_lt grows is) (Nat.lt_succ_self _)).2
  | _ => rfl

/-- Induction over the lines that the grammar does not know. -/
theorem lines_induction (grows : Scanner.Growing grammar) {motive : Octets → Prop}
    (step : ∀ octets, (∀ length, Framed.first grammar octets = .unknown length →
      motive (octets.drop length)) → motive octets) (octets : Octets) : motive octets := by
  suffices ∀ size (octets : Octets), octets.length = size → motive octets from this _ octets rfl
  intro size
  induction size using Nat.strongRecOn with
  | ind size ih =>
    intro octets is
    exact step octets fun length unknown => ih _ (is ▸ length_drop_lt grows unknown) _ rfl

/-- What is taken from some octets is taken from them with more behind them. -/
theorem take_append_of_result (grows : Scanner.Growing grammar)
    {result : Except Failure Response} (more : Octets)
    (is : (take grammar octets).result? = some result) :
    take grammar (octets ++ more) = (take grammar octets).extend more ∧
      notes grammar (octets ++ more) = notes grammar octets := by
  induction octets using lines_induction grows with
  | step octets ih =>
    rw [take_eq grows octets] at is
    rw [take_eq grows octets, notes_eq grows octets, take_eq grows (octets ++ more),
      notes_eq grows (octets ++ more)]
    cases first : Framed.first grammar octets with
    | incomplete => simp only [first, Taken.result?, reduceCtorEq] at is
    | response response length =>
      have within := (Framed.length_of_response grows first).2
      rw [Framed.first_append grows (first ▸ nofun), first]
      simp only [List.take_append_of_le_length within, List.drop_append_of_le_length within,
        Taken.extend, and_self]
    | unrepresentable =>
      rw [Framed.first_append grows (first ▸ nofun), first]
      exact ⟨rfl, rfl⟩
    | unknown length =>
      have within := (Framed.length_of_unknown grows first).2
      rw [first] at is
      rw [Framed.first_append grows (first ▸ nofun), first]
      simp only [List.take_append_of_le_length within, List.drop_append_of_le_length within]
      exact (ih length first is).imp id (congrArg _)

/-- Where more octets are needed, taking goes on from where it came to when they follow. -/
theorem take_append_of_none (grows : Scanner.Growing grammar) (more : Octets)
    (is : (take grammar octets).result? = none) :
    take grammar (octets ++ more) = take grammar ((take grammar octets).rest ++ more) ∧
      notes grammar (octets ++ more) =
        notes grammar octets ++ notes grammar ((take grammar octets).rest ++ more) := by
  induction octets using lines_induction grows with
  | step octets ih =>
    rw [take_eq grows octets] at is
    rw [take_eq grows octets, notes_eq grows octets]
    cases first : Framed.first grammar octets with
    | incomplete => exact ⟨rfl, rfl⟩
    | response | unrepresentable => simp only [first, Taken.result?, reduceCtorEq] at is
    | unknown length =>
      have within := (Framed.length_of_unknown grows first).2
      rw [first] at is
      rw [take_eq grows (octets ++ more), notes_eq grows (octets ++ more),
        Framed.first_append grows (first ▸ nofun), first]
      simp only [List.take_append_of_le_length within, List.drop_append_of_le_length within]
      exact (ih length first is).imp id (congrArg _)

theorem noted_notes (grows : Scanner.Growing grammar) (octets : Octets) :
    Noted (take grammar octets).found (notes grammar octets) := by
  induction octets using lines_induction grows with
  | step octets ih =>
    rw [take_eq grows octets, notes_eq grows octets]
    cases is : Framed.first grammar octets with
    | response response length => exact .response _
    | unknown length => exact .line _ (ih length is)
    | incomplete | unrepresentable => exact .nothing

/-- The notes and what is left account for all octets. -/
theorem notes_account (grows : Scanner.Growing grammar) (octets : Octets) :
    octets = (notes grammar octets).flatMap Note.octets ++ (take grammar octets).rest := by
  induction octets using lines_induction grows with
  | step octets ih =>
    rw [take_eq grows octets, notes_eq grows octets]
    cases is : Framed.first grammar octets with
    | response response length => simp [Note.octets, Taken.rest]
    | unknown length =>
      have rest := ih length is
      rw [List.flatMap_cons, List.append_assoc, ← rest]
      exact (List.take_append_drop length octets).symm
    | _ => rfl

theorem notes_account_append (grows : Scanner.Growing grammar) (octets more : Octets) :
    (notes grammar octets).flatMap Note.octets ++ ((take grammar octets).rest ++ more) =
      octets ++ more := by
  rw [← List.append_assoc, ← notes_account grows]

end Take

end MailReplica.Remote
