import MailReplica.Proofs.Remote.Reading
import MailReplica.Proofs.Wire.Literal

/-! # What is skipped of a response that the grammar does not know

A response that the grammar does not know is skipped by its first line alone.  If a line of it
announces a literal, a read goes on with the octets of the literal, and takes responses from them
(`read_skips_line`).
-/

namespace MailReplica.Remote

open Wire

variable {ε : Type} {grammar : Scanner Reply} {connection : Connection}

/-! ## Reading on -/

theorem read_closed (network : ε) (is : connection.arrivals = none) :
    (Dialogue.readBy grammar : Dialogue ε Response) (connection, network) =
      let settled := settle grammar connection.timeout connection.pending
      (settled.1.getD (.error (.io "connection closed")), { connection with pending := settled.2 },
        network) := by
  obtain ⟨settings, folder, own, pending, tag, timeout, capabilities⟩ := connection
  subst is
  change (liftM ((settle grammar timeout pending).1.getD (.error (.io "connection closed"))) :
    Dialogue ε Response)
      (⟨settings, folder, none, (settle grammar timeout pending).2, tag, timeout, capabilities⟩,
        network) = _
  generalize settle grammar timeout pending = settled
  obtain ⟨_ | _ | _, rest⟩ := settled <;> rfl

/-- A read goes by what can be taken from the octets that are pending. -/
theorem read_congr {octets : Octets} (network : ε)
    (same : take grammar connection.pending = take grammar octets) :
    (Dialogue.readBy grammar : Dialogue ε Response) (connection, network) =
      Dialogue.readBy grammar ({ connection with pending := octets }, network) := by
  obtain ⟨settings, folder, arrivals, pending, tag, timeout, capabilities⟩ := connection
  have settled : settle grammar timeout pending = settle grammar timeout octets := by
    rw [settle, same, settle]
  cases arrivals with
  | none =>
    rw [read_closed network rfl, read_closed network rfl]
    simp only [settled]
  | some arrivals =>
    have ended : readWithin grammar timeout pending arrivals =
        readWithin grammar timeout octets arrivals := by
      cases arrivals <;> simp only [readWithin, settled]
    rw [read_open network rfl, read_open network rfl]
    simp only [ended]

/-- A response that can be taken from the octets that are pending is what a read comes to. -/
theorem read_of_result {result : Except Failure Response} (network : ε)
    (is : (take grammar connection.pending).result? = some result) :
    (Dialogue.readBy grammar : Dialogue ε Response) (connection, network) =
      (result, { connection with pending := (take grammar connection.pending).rest },
        network) := by
  obtain ⟨settings, folder, arrivals, pending, tag, timeout, capabilities⟩ := connection
  cases arrivals with
  | none =>
    rw [read_closed network rfl]
    simp only [Reading.settle_eq, is, Option.some_or, Option.getD_some]
  | some arrivals =>
    have reading : Reading.of grammar timeout pending arrivals = _ := Reading.of_result is
    have ended : readWithin grammar timeout pending arrivals =
        ⟨result, (take grammar pending).rest, arrivals⟩ :=
      congrArg Reading.ended reading
    rw [read_open network rfl]
    simp only [ended]

/-- Of a response that the grammar does not know a read skips the first line, which is all of it if,
and only if, it holds no literal.  The read goes on with the octets of the first literal, and where a
response can be taken from these, that is what it comes to. -/
theorem read_skips_line {grammar : Scanner Reply} (grows : Scanner.Growing grammar)
    (layout : Layout) (more : Octets)
    (rejected : grammar (layout.octets ++ more) = .rejected) (connection : Connection)
    (network : ε) :
    let found := { connection with pending := layout.octets ++ more }
    let left := { connection with pending := layout.afterFirstLine ++ more }
    Framed.first grammar found.pending = .unknown layout.firstLine.length ∧
      (layout.octets.length ≤ layout.firstLine.length ↔ layout.pieces = []) ∧
      notes grammar found.pending = .skipped layout.firstLine :: notes grammar left.pending ∧
      (Dialogue.readBy grammar : Dialogue ε Response) (found, network) =
        Dialogue.readBy grammar (left, network) ∧
      ∀ piece ∈ layout.pieces.head?, ∀ response,
        (take grammar piece.data).result? = some (.ok response) →
        let behind := layout.afterFirstLine.drop piece.data.length ++ more
        (Dialogue.readBy grammar : Dialogue ε Response) (found, network) =
          (.ok response,
            { connection with pending := (take grammar piece.data).rest ++ behind },
            network) := by
  intro found left
  have first : Framed.first grammar found.pending = .unknown layout.firstLine.length := by
    simp only [found, Framed.first, rejected, layout.lineLength?_octets]
  have pending : found.pending = layout.firstLine ++ left.pending := by
    simp only [found, left, layout.octets_eq, List.append_assoc]
  have taken : take grammar found.pending = take grammar left.pending := by
    rw [take_eq grows, first, pending]
    simp only [List.drop_left]
  have noted : notes grammar found.pending =
      .skipped layout.firstLine :: notes grammar left.pending := by
    rw [notes_eq grows, first, pending]
    simp only [List.take_left, List.drop_left]
  have goes := read_congr network taken
  refine ⟨first, layout.firstLine_covers, noted, goes, fun piece isFirst response inside => ?_⟩
  intro behind
  have begins : left.pending = piece.data ++ behind := by
    obtain ⟨others, after⟩ := Layout.afterFirstLine_eq isFirst
    simp only [left, behind, after, List.drop_left, List.append_assoc]
  -- What can be taken from the octets of the literal is taken whatever is behind them.
  have grown : take grammar left.pending = (take grammar piece.data).extend behind :=
    begins ▸ (take_append_of_result grows _ inside).1
  have result : (take grammar left.pending).result? = some (.ok response) := by
    rw [grown, Taken.result?_extend, inside]
  rw [goes, read_of_result network result, grown, Taken.rest_extend]

/-- A response with a literal that the grammar does not know.  The literal looks like a response. -/
def preview : Layout where
  pieces := [{
    line := Text.encode "* 1 FETCH (PREVIEW \x7b13\x7d"
    digits := Text.encode "13"
    data := Text.encode "* 99 EXISTS\r\n"
    number := by decide +kernel
    count := by decide +kernel
    announces := by decide +kernel
    plain := by decide +kernel }]
  last := Text.encode ")"
  plain := by decide +kernel

/-- A read takes the response inside the literal, and not the one that follows. -/
theorem read_skips_line_preview :
    let more := Text.encode "* 3 EXISTS\r\n"
    let connection := Connection.new ⟨"localhost", 143, .plain, "alice", "secret"⟩ "INBOX"
    Grammar.reply (preview.octets ++ more) = .rejected ∧
      ((Dialogue.read : Dialogue Unit Response)
        ({ connection with pending := preview.octets ++ more }, ())).1 =
          .ok ⟨.messageCount 99, ""⟩ := by
  intro more connection
  have first : Framed.first Grammar.reply (preview.octets ++ more) = .unknown 25 := by
    decide +kernel
  have rejected := Framed.rejected_of_first first
  obtain ⟨-, -, -, -, inside⟩ :=
    read_skips_line Grammar.growing_reply preview more rejected connection ()
  refine ⟨rejected, ?_⟩
  rw [Dialogue.read, inside _ rfl ⟨.messageCount 99, ""⟩ (by decide +kernel)]

end MailReplica.Remote
