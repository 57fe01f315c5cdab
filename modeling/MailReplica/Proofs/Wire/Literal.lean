import MailReplica.Proofs.Wire.Framing

/-! # Literals in a response

A line may announce a literal, which then follows the end of the line.  The grammar takes a literal
by the number of its octets, whatever they are (`Announced.literal_append`).  A search for the end
of the first line stops before the literal (`Layout.lineLength?_octets`), so it covers no response
that holds one (`Layout.firstLine_covers`).
-/

namespace MailReplica.Wire

/-! ## Scanners at work -/

namespace Scanner

variable {α β : Type}

theorem bind_of_found {first : Scanner α} {next : α → Scanner β} {input rest : Octets} {value : α}
    (found : first input = .found value rest) : (first >>= next) input = next value rest := by
  change andThen first next input = _
  rw [andThen, found]

theorem map_of_found {scanner : Scanner α} {input rest : Octets} {value : α} (apply : α → β)
    (found : scanner input = .found value rest) :
    (apply <$> scanner) input = .found (apply value) rest :=
  bind_of_found found

theorem word_append (text : String) (rest : Octets) :
    word text (Text.encode text ++ rest) = .found () rest := by
  unfold word
  induction Text.encode text with
  | nil => rfl
  | cons octet octets ih =>
    change (if octet == octet then matching _ octets (octets ++ rest) else .rejected) = _
    rw [if_pos (beq_self_eq_true octet), ih]

/-- Octets of a class are read up to the first octet of another class. -/
theorem run1_append {accepts : UInt8 → Bool} {octets rest : Octets} {stop : UInt8}
    (some : octets ≠ []) (all : ∀ octet ∈ octets, accepts octet = true)
    (stops : accepts stop = false) :
    run1 accepts (octets ++ stop :: rest) = .found octets (stop :: rest) := by
  -- What was read before is carried along, latest first.
  have goes : ∀ read, run.go accepts read (octets ++ stop :: rest) =
      .found (read.reverse ++ octets) (stop :: rest) := by
    clear some
    induction octets with
    | nil =>
      intro read
      rw [List.nil_append, run.go, stops, List.append_nil]
      rfl
    | cons octet octets ih =>
      intro read
      have alls := List.forall_mem_cons.1 all
      rw [List.cons_append, run.go, if_pos alls.1, ih alls.2, List.reverse_cons, List.append_assoc,
        List.singleton_append]
  rw [run1, convert, run, goes]
  cases octets with
  | nil => exact absurd rfl some
  | cons octet octets => rfl

end Scanner

/-! ## Literals -/

/-- A line that announces a literal, and the literal. -/
structure Announced where
  /-- The line without its end. -/
  line : Octets
  digits : Octets
  data : Octets
  number : digits ≠ [] ∧ ∀ digit ∈ digits, Octet.isDigit digit = true
  count : Token.digitsValue digits = data.length
  announces : 0x7B :: (digits ++ [0x7D]) <:+ line
  plain : ¬lineEnd <:+: line

def Announced.octets (piece : Announced) : Octets :=
  piece.line ++ lineEnd ++ piece.data

/-- The grammar takes a literal by the number of its octets, whatever they are. -/
theorem Announced.literal_append (piece : Announced) (small : piece.data.length < UInt32.size)
    (rest : Octets) :
    Token.literal (0x7B :: (piece.digits ++ 0x7D :: (lineEnd ++ (piece.data ++ rest)))) =
      .found piece.data rest := by
  have number : Token.number (piece.digits ++ 0x7D :: (lineEnd ++ (piece.data ++ rest))) =
      .found (UInt32.ofNat piece.data.length) (0x7D :: (lineEnd ++ (piece.data ++ rest))) := by
    refine Scanner.map_of_found UInt32.ofNat ?_
    rw [Token.numberBelow, Scanner.convert, Scanner.run1_append piece.number.1 piece.number.2 rfl]
    simp only [piece.count, if_pos small]
  have data : Scanner.take (UInt32.ofNat piece.data.length).toNat (piece.data ++ rest) =
      .found piece.data rest := by
    rw [UInt32.toNat_ofNat_of_lt' small, Scanner.take, if_neg (by simp), List.take_left,
      List.drop_left]
  -- The opening brace, the digits, the closing brace and the line end, and then the octets.
  refine (Scanner.bind_of_found (Scanner.word_append "\x7b" _)).trans ?_
  refine (Scanner.bind_of_found number).trans ?_
  refine (Scanner.bind_of_found (Scanner.word_append "\x7d" _)).trans ?_
  exact (Scanner.bind_of_found (Scanner.word_append "\r\n" _)).trans data

/-- A response in its layout: lines that announce literals, and a last line. -/
structure Layout where
  pieces : List Announced
  last : Octets
  plain : ¬lineEnd <:+: last

namespace Layout

def octets (layout : Layout) : Octets :=
  layout.pieces.flatMap Announced.octets ++ (layout.last ++ lineEnd)

/-- The first line with its end. -/
def firstLine (layout : Layout) : Octets :=
  match layout.pieces with
  | [] => layout.last ++ lineEnd
  | piece :: _ => piece.line ++ lineEnd

/-- What follows the first line. -/
def afterFirstLine (layout : Layout) : Octets :=
  match layout.pieces with
  | [] => []
  | piece :: others =>
    piece.data ++ (others.flatMap Announced.octets ++ (layout.last ++ lineEnd))

theorem octets_eq (layout : Layout) :
    layout.octets = layout.firstLine ++ layout.afterFirstLine := by
  obtain ⟨pieces, last, plain⟩ := layout
  cases pieces with
  | nil => exact (List.append_nil _).symm
  | cons piece others =>
    simp only [octets, firstLine, afterFirstLine, Announced.octets, List.flatMap_cons,
      List.append_assoc]

/-- The first literal follows the line that announces it. -/
theorem afterFirstLine_eq {layout : Layout} {piece : Announced}
    (isFirst : piece ∈ layout.pieces.head?) :
    ∃ others, layout.afterFirstLine = piece.data ++ others := by
  obtain ⟨pieces, last, plain⟩ := layout
  cases pieces with
  | nil => cases isFirst
  | cons first others =>
    cases isFirst
    exact ⟨_, rfl⟩

theorem lineLength?_octets (layout : Layout) (more : Octets) :
    lineLength? (layout.octets ++ more) = some layout.firstLine.length := by
  rw [octets_eq, List.append_assoc]
  obtain ⟨pieces, last, plain⟩ := layout
  cases pieces with
  | nil => exact lineLength?_append_lineEnd plain _
  | cons piece others => exact lineLength?_append_lineEnd piece.plain _

theorem firstLine_covers (layout : Layout) :
    layout.octets.length ≤ layout.firstLine.length ↔ layout.pieces = [] := by
  rw [octets_eq, List.length_append]
  obtain ⟨pieces, last, plain⟩ := layout
  cases pieces with
  | nil => simp [afterFirstLine]
  | cons piece others =>
    simp only [afterFirstLine, lineEnd, List.length_append, List.length_cons, reduceCtorEq,
      iff_false]
    omega

end Layout

end MailReplica.Wire
