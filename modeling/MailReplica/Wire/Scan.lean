import MailReplica.Text.Octet

/-! # Scanners

A scanner reads a value from the octets that have arrived.  They may be the beginning of something
longer, so next to a value and a refusal there is a third result: more octets are needed to tell.
A choice moves on to its next branch only on a refusal.
-/

namespace MailReplica.Wire

/-- What a scanner makes of the octets that have arrived. -/
inductive Scan (α : Type) where
  | found (value : α) (rest : Octets)
  /-- More octets are needed. -/
  | incomplete
  | rejected
  /-- The octets have the form of a value that cannot be represented. -/
  | unrepresentable

def Scanner (α : Type) : Type := Octets → Scan α

namespace Scanner

variable {α β : Type}

def succeed (value : α) : Scanner α :=
  fun input => .found value input

def reject : Scanner α :=
  fun _ => .rejected

/-- Reads with `first`, then with the scanner that `next` gives for its value. -/
def andThen (first : Scanner α) (next : α → Scanner β) : Scanner β :=
  fun input =>
    match first input with
    | .found value rest => next value rest
    | .incomplete => .incomplete
    | .rejected => .rejected
    | .unrepresentable => .unrepresentable

instance : Monad Scanner where
  pure := succeed
  bind := andThen

/-- Reads with `first`, or with `second` where `first` refuses. -/
def orElse (first second : Scanner α) : Scanner α :=
  fun input =>
    match first input with
    | .rejected => second input
    | result => result

/-- Reads with the first scanner that does not refuse. -/
def choice : List (Scanner α) → Scanner α
  | [] => reject
  | [last] => last
  | first :: others => orElse first (choice others)

/-- Reads a value if there is one. -/
def optional (scanner : Scanner α) : Scanner (Option α) :=
  orElse (some <$> scanner) (succeed none)

/-- Refuses a value that `convert` does not take. -/
def convert (scanner : Scanner α) (convert : α → Option β) : Scanner β :=
  fun input =>
    match scanner input with
    | .found value rest =>
      match convert value with
      | some result => .found result rest
      | none => .rejected
    | .incomplete => .incomplete
    | .rejected => .rejected
    | .unrepresentable => .unrepresentable

/-- Reads values while there are any, at most `fuel` of them. -/
def manyWithin (scanner : Scanner α) : Nat → List α → Scanner (List α)
  | 0, values => succeed values.reverse
  | fuel + 1, values => fun input =>
    match scanner input with
    | .found value rest => manyWithin scanner fuel (value :: values) rest
    | .incomplete => .incomplete
    | .rejected => .found values.reverse input
    | .unrepresentable => .unrepresentable

/-- Reads values while there are any.  Each value takes an octet, so there are no more values than
octets. -/
def many (scanner : Scanner α) : Scanner (List α) :=
  fun input => manyWithin scanner (input.length + 1) [] input

/-- Reads values while there are any, and at least one. -/
def many1 (scanner : Scanner α) : Scanner (List α) := do
  let first ← scanner
  let others ← many scanner
  pure (first :: others)

/-! ## Octets -/

/-- Reads the octets of `expected`, where `same` tells which octets count as equal. -/
def matching (same : UInt8 → UInt8 → Bool) : Octets → Scanner Unit
  | [] => succeed ()
  | first :: others => fun input =>
    match input with
    | [] => .incomplete
    | octet :: rest => if same first octet then matching same others rest else .rejected

def word (text : String) : Scanner Unit :=
  matching (· == ·) (Text.encode text)

def keyword (text : String) : Scanner Unit :=
  matching (fun left right => Octet.lower left == Octet.lower right) (Text.encode text)

def one (accepts : UInt8 → Bool) : Scanner UInt8 :=
  fun input =>
    match input with
    | [] => .incomplete
    | octet :: rest => if accepts octet then .found octet rest else .rejected

/-- Reads octets of a class as far as they go.  Where they go on to the end of the input, more of
them may follow. -/
def run (accepts : UInt8 → Bool) : Scanner Octets :=
  go []
where
  /-- Reads on after the octets `read`, latest first. -/
  go (read : Octets) : Scanner Octets :=
    fun input =>
      match input with
      | [] => .incomplete
      | octet :: rest =>
        if accepts octet then go (octet :: read) rest else .found read.reverse (octet :: rest)

/-- Reads octets of a class as far as they go, and at least one. -/
def run1 (accepts : UInt8 → Bool) : Scanner Octets :=
  convert (run accepts) fun octets => if octets.isEmpty then none else some octets

def take (count : Nat) : Scanner Octets :=
  fun input =>
    if input.length < count then .incomplete
    else .found (input.take count) (input.drop count)

/-! ## Lists -/

/-- Reads `separator` and then a value, but nothing if no value follows the separator. -/
def following (separator : Scanner Unit) (scanner : Scanner α) : Scanner α := do
  separator
  scanner

/-- Reads values with a separator between them, and at least one. -/
def separated1 (separator : Scanner Unit) (scanner : Scanner α) : Scanner (List α) := do
  let first ← scanner
  let others ← many (following separator scanner)
  pure (first :: others)

/-- Reads values with a separator between them. -/
def separated (separator : Scanner Unit) (scanner : Scanner α) : Scanner (List α) :=
  orElse (separated1 separator scanner) (succeed [])

def parenthesized (scanner : Scanner α) : Scanner α := do
  word "("
  let value ← scanner
  word ")"
  pure value

/-- Reads a list in parentheses, with one space between its values; one may follow the last. -/
def listOf (scanner : Scanner α) : Scanner (List α) :=
  parenthesized do
    let values ← separated (word " ") scanner
    let _ ← optional (word " ")
    pure values

/-- Reads a list in parentheses that has at least one value. -/
def listOf1 (scanner : Scanner α) : Scanner (List α) :=
  parenthesized do
    let values ← separated1 (word " ") scanner
    let _ ← optional (word " ")
    pure values

end Scanner

end MailReplica.Wire
