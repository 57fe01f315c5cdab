import Mathlib.Data.List.Forall2
import MailReplica.Proofs.Remote.Taking

/-! # Reads do not depend on the cut of the stream

The octets of a server come cut into pieces, with silence between them.  One read over the pieces
comes to what it comes to when all of them are pending at once, or it leaves pieces that are pending
then (`Reading.cut_of`); so reads one after another come to the same responses and skip the same
lines, by whatever grammar of a stream they read (`reads_cut`).  Time is the one difference that a
cut can make, and the reads compared here are those that do not run out of it while there is
something left to come; silences that leave time to each read see to that (`reads_punctual`).
-/

namespace MailReplica.Remote

open Wire

/-! ## What a read skips and takes -/

/-- What a read skips and takes. -/
def readNotes (grammar : Scanner Reply) (millis : Nat) (pending : Octets) :
    List Arrival → List Note
  | [] => notes grammar pending
  | arrival :: others =>
    notes grammar pending ++
      match settle grammar millis pending, arrival with
      | (none, rest), .data octets => readNotes grammar millis (rest ++ octets) others
      | (none, rest), .silence => readNotes grammar (millis - sliceMillis) rest others
      | _, _ => []

/-- Whether an arrival is a piece of the stream, or silence within it. -/
def Arrival.isStream : Arrival → Bool
  | data _ | silence => true
  | closed | failed _ => false

/-- The octets that arrive. -/
def octetsOf (arrivals : List Arrival) : Octets :=
  arrivals.flatMap fun
    | .data octets => octets
    | _ => []

@[simp]
theorem octetsOf_nil : octetsOf [] = [] :=
  rfl

@[simp]
theorem octetsOf_data (octets : Octets) (arrivals : List Arrival) :
    octetsOf (.data octets :: arrivals) = octets ++ octetsOf arrivals :=
  rfl

@[simp]
theorem octetsOf_silence (arrivals : List Arrival) :
    octetsOf (.silence :: arrivals) = octetsOf arrivals :=
  rfl

@[simp]
theorem octetsOf_append (arrivals others : List Arrival) :
    octetsOf (arrivals ++ others) = octetsOf arrivals ++ octetsOf others :=
  List.flatMap_append

theorem octetsOf_of_silence {arrivals : List Arrival}
    (silent : ∀ arrival ∈ arrivals, arrival = .silence) : octetsOf arrivals = [] :=
  List.flatMap_eq_nil_iff.2 fun arrival member => by rw [silent arrival member]

/-- Nothing comes after the stream, or the server ends its side. -/
def EndsQuietly (arrivals : List Arrival) : Prop :=
  arrivals = [] ∨ arrivals = [.closed]

/-- A read, with what it skipped and took. -/
structure Reading where
  notes : List Note
  ended : ReadEnd

namespace Reading

def of (grammar : Scanner Reply) (millis : Nat) (pending : Octets) (arrivals : List Arrival) :
    Reading :=
  ⟨readNotes grammar millis pending arrivals, readWithin grammar millis pending arrivals⟩

/-- The read with more notes before its own. -/
def after (before : List Note) (reading : Reading) : Reading :=
  { reading with notes := before ++ reading.notes }

/-- The octets that are left for the coming reads. -/
def left (reading : Reading) : Octets :=
  reading.ended.pending ++ octetsOf reading.ended.arrivals

/-- The time of the read was not over while there was something left to come. -/
def Punctual (reading : Reading) : Prop :=
  reading.ended.result = .error late → ∀ arrival ∈ reading.ended.arrivals, arrival = .silence

variable {grammar : Scanner Reply} {pending octets : Octets} {millis full : Nat}
  {arrivals : List Arrival}

attribute [local simp] readWithin readNotes

/-- A read goes by what can be taken from the octets that are pending. -/
theorem of_congr {before : List Note} (same : take grammar octets = take grammar pending)
    (more : Remote.notes grammar octets = before ++ Remote.notes grammar pending) :
    of grammar millis octets arrivals = (of grammar millis pending arrivals).after before := by
  cases arrivals <;>
    simp only [of, after, readWithin, readNotes, settle, same, more, List.append_assoc]

theorem settle_eq (millis : Nat) (pending : Octets) :
    settle grammar millis pending =
      ((take grammar pending).result?.or (if millis = 0 then some (.error late) else none),
        (take grammar pending).rest) := by
  unfold settle
  cases take grammar pending <;> rfl

theorem of_result {result : Except Failure Response}
    (is : (take grammar pending).result? = some result) :
    of grammar millis pending arrivals =
      ⟨Remote.notes grammar pending, result, (take grammar pending).rest, arrivals⟩ := by
  cases arrivals <;> simp [of, settle_eq, is]

theorem of_late (is : (take grammar pending).result? = none) (elapsed : millis = 0) :
    of grammar millis pending arrivals =
      ⟨Remote.notes grammar pending, .error late, (take grammar pending).rest, arrivals⟩ := by
  cases arrivals <;> simp [of, settle_eq, is, elapsed]

theorem of_nil (is : (take grammar pending).result? = none) :
    of grammar millis pending [] =
      ⟨Remote.notes grammar pending, .error late, (take grammar pending).rest, []⟩ := by
  by_cases elapsed : millis = 0 <;> simp [of, settle_eq, is, elapsed]

theorem of_closed (is : (take grammar pending).result? = none) (time : millis ≠ 0) :
    of grammar millis pending (.closed :: arrivals) =
      ⟨Remote.notes grammar pending, .error (.io "connection closed by server"),
        (take grammar pending).rest, .closed :: arrivals⟩ := by
  simp [of, settle_eq, is, time]

theorem of_data (is : (take grammar pending).result? = none) (time : millis ≠ 0)
    (octets : Octets) :
    of grammar millis pending (.data octets :: arrivals) =
      (of grammar millis ((take grammar pending).rest ++ octets) arrivals).after
        (Remote.notes grammar pending) := by
  simp [of, after, settle_eq, is, time]

theorem of_silence (is : (take grammar pending).result? = none) (time : millis ≠ 0) :
    of grammar millis pending (.silence :: arrivals) =
      (of grammar (millis - sliceMillis) (take grammar pending).rest arrivals).after
        (Remote.notes grammar pending) := by
  simp [of, after, settle_eq, is, time]

theorem of_failed (is : (take grammar pending).result? = none) (time : millis ≠ 0)
    (message : String) :
    of grammar millis pending (.failed message :: arrivals) =
      ⟨Remote.notes grammar pending, .error (.io message), (take grammar pending).rest,
        arrivals⟩ := by
  simp [of, settle_eq, is, time]

/-! ### Each octet once -/

/-- What a read skips and takes, and what it leaves, are the octets that it found, in order. -/
theorem of_account (grows : Scanner.Growing grammar) (millis : Nat) (pending : Octets)
    (arrivals : List Arrival) :
    pending ++ octetsOf arrivals =
      (of grammar millis pending arrivals).notes.flatMap Note.octets ++
        (of grammar millis pending arrivals).left := by
  induction arrivals generalizing millis pending with
  | nil =>
    cases is : (take grammar pending).result? with
    | some result => rw [of_result is, left, notes_account_append grows]
    | none => rw [of_nil is, left, notes_account_append grows]
  | cons arrival others ih =>
    cases is : (take grammar pending).result? with
    | some result => rw [of_result is, left, notes_account_append grows]
    | none =>
      by_cases elapsed : millis = 0
      · rw [of_late is elapsed, left, notes_account_append grows]
      cases arrival with
      | data octets =>
        rw [of_data is elapsed, after, List.flatMap_append, List.append_assoc]
        have later := ih millis ((take grammar pending).rest ++ octets)
        rw [left] at later ⊢
        rw [← later, List.append_assoc, notes_account_append grows, octetsOf_data]
      | silence =>
        rw [of_silence is elapsed, after, List.flatMap_append, List.append_assoc]
        have later := ih (millis - sliceMillis) (take grammar pending).rest
        rw [left] at later ⊢
        rw [← later, notes_account_append grows, octetsOf_silence]
      | closed => rw [of_closed is elapsed, left, notes_account_append grows]
      | failed message =>
        rw [of_failed is elapsed, left, notes_account_append grows]
        rfl

/-- A read takes a response if it comes to one, and skips lines before it. -/
theorem of_noted (grows : Scanner.Growing grammar) (millis : Nat) (pending : Octets)
    (arrivals : List Arrival) :
    Noted (of grammar millis pending arrivals).ended.result.isOk
      (of grammar millis pending arrivals).notes := by
  have now := noted_notes grows pending
  unfold Taken.found at now
  induction arrivals generalizing millis pending with
  | nil =>
    cases is : (take grammar pending).result? with
    | some result =>
      rw [is] at now
      rwa [of_result is]
    | none =>
      rw [is] at now
      rwa [of_nil is]
  | cons arrival others ih =>
    cases is : (take grammar pending).result? with
    | some result =>
      rw [is] at now
      rwa [of_result is]
    | none =>
      rw [is] at now
      by_cases elapsed : millis = 0
      · rwa [of_late is elapsed]
      cases arrival with
      | data octets =>
        rw [of_data is elapsed]
        exact now.append (ih _ _ (noted_notes grows _))
      | silence =>
        rw [of_silence is elapsed]
        exact now.append (ih _ _ (noted_notes grows _))
      | closed => rwa [of_closed is elapsed]
      | failed message => rwa [of_failed is elapsed]

/-! ### One read over a cut stream -/

/-- What a read over the pieces of a stream comes to, and what it comes to when all of them are
pending at once.  Pieces may be left. -/
inductive Cut (ending : List Arrival) : Reading → Reading → Prop
  | mk (notes : List Note) (result : Except Failure Response) (pending : Octets)
      (left : List Arrival) (stream : ∀ arrival ∈ left, arrival.isStream = true) :
    Cut ending ⟨notes, result, pending, left ++ ending⟩
      ⟨notes, result, pending ++ octetsOf left, ending⟩

variable {parts ending : List Arrival}

theorem Cut.whole (notes : List Note) (result : Except Failure Response) (pending : Octets) :
    Cut ending ⟨notes, result, pending, ending⟩ ⟨notes, result, pending, ending⟩ := by
  simpa using @Cut.mk ending notes result pending [] nofun

theorem Cut.after {cut whole : Reading} (before : List Note) (same : Cut ending cut whole) :
    Cut ending (cut.after before) (whole.after before) := by
  cases same with
  | mk notes result pending left stream => exact .mk (before ++ notes) result pending left stream

theorem Punctual.of_after {before : List Note} {reading : Reading}
    (punctual : (reading.after before).Punctual) : reading.Punctual :=
  punctual

theorem cut_of_result (grows : Scanner.Growing grammar) {result : Except Failure Response}
    (is : (take grammar pending).result? = some result)
    (stream : ∀ part ∈ parts, part.isStream = true) :
    Cut ending (of grammar millis pending (parts ++ ending))
      (of grammar full (pending ++ octetsOf parts) ending) := by
  obtain ⟨taken, noted⟩ := take_append_of_result grows (octetsOf parts) is
  rw [of_result is, of_result (by rw [taken, Taken.result?_extend, is]), taken, noted,
    Taken.rest_extend]
  exact .mk _ _ _ _ stream

/-- A punctual read whose time is over is followed by silence, so it ends late as well when the
silence is left out. -/
theorem cut_of_late (is : (take grammar pending).result? = none) (elapsed : millis = 0)
    (stream : ∀ part ∈ parts, part.isStream = true) (ends : EndsQuietly ending)
    (punctual : (of grammar millis pending (parts ++ ending)).Punctual) :
    Cut ending (of grammar millis pending (parts ++ ending))
      (of grammar full (pending ++ octetsOf parts) ending) := by
  rw [of_late is elapsed] at punctual ⊢
  have silent := List.forall_mem_append.1 (punctual rfl)
  have same := @Cut.mk ending (Remote.notes grammar pending) (.error late)
    (take grammar pending).rest parts stream
  rw [octetsOf_of_silence silent.1, List.append_nil] at same ⊢
  obtain rfl | rfl := ends
  · rwa [of_nil is]
  · cases silent.2 .closed (List.mem_singleton_self _)

theorem cut_of_ending (is : (take grammar pending).result? = none) (time : millis ≠ 0)
    (time' : full ≠ 0) (ends : EndsQuietly ending) :
    Cut ending (of grammar millis pending ending) (of grammar full pending ending) := by
  obtain rfl | rfl := ends
  · rw [of_nil is, of_nil is]
    exact .whole _ _ _
  · rw [of_closed is time, of_closed is time']
    exact .whole _ _ _

theorem cut_of (grows : Scanner.Growing grammar) (le : millis ≤ full)
    (stream : ∀ part ∈ parts, part.isStream = true)
    (ends : EndsQuietly ending)
    (punctual : (of grammar millis pending (parts ++ ending)).Punctual) :
    Cut ending (of grammar millis pending (parts ++ ending))
      (of grammar full (pending ++ octetsOf parts) ending) := by
  induction parts generalizing millis pending with
  | nil =>
    cases is : (take grammar pending).result? with
    | some result => exact cut_of_result grows is stream
    | none =>
      by_cases elapsed : millis = 0
      · exact cut_of_late is elapsed stream ends punctual
      rw [octetsOf_nil, List.append_nil]
      exact cut_of_ending is elapsed (by omega) ends
  | cons part others ih =>
    cases is : (take grammar pending).result? with
    | some result => exact cut_of_result grows is stream
    | none =>
      by_cases elapsed : millis = 0
      · exact cut_of_late is elapsed stream ends punctual
      -- The read goes on behind what it skipped, and so does the read of the whole.
      have streams := List.forall_mem_cons.1 stream
      cases part with
      | data octets =>
        rw [List.cons_append, of_data is elapsed] at punctual ⊢
        obtain ⟨taken, noted⟩ := take_append_of_none grows (octets ++ octetsOf others) is
        rw [octetsOf_data, of_congr taken noted, ← List.append_assoc]
        exact (ih le streams.2 punctual.of_after).after _
      | silence =>
        rw [List.cons_append, of_silence is elapsed] at punctual ⊢
        obtain ⟨taken, noted⟩ := take_append_of_none grows (octetsOf others) is
        rw [octetsOf_silence, of_congr taken noted]
        exact (ih (by omega) streams.2 punctual.of_after).after _
      | closed | failed => cases streams.1

/-! ### Enough time -/

theorem of_suffix (millis : Nat) (pending : Octets) (arrivals : List Arrival) :
    (of grammar millis pending arrivals).ended.arrivals <:+ arrivals := by
  induction arrivals generalizing millis pending with
  | nil =>
    cases is : (take grammar pending).result? with
    | some result => simp [of_result is]
    | none => simp [of_nil is]
  | cons arrival others ih =>
    cases is : (take grammar pending).result? with
    | some result => simp [of_result is]
    | none =>
      by_cases elapsed : millis = 0
      · simp [of_late is elapsed]
      cases arrival with
      | data octets =>
        rw [of_data is elapsed]
        exact (ih _ _).trans (List.suffix_cons _ _)
      | silence =>
        rw [of_silence is elapsed]
        exact (ih _ _).trans (List.suffix_cons _ _)
      | closed => simp [of_closed is elapsed]
      | failed message => simp [of_failed is elapsed]

theorem result?_ne_late (taken : Taken) : taken.result? ≠ some (.error late) := by
  cases taken <;> simp [Taken.result?, late]

/-- A read for which the silences leave time is late only when nothing is left to come. -/
theorem of_punctual (known : ∀ arrival ∈ arrivals, arrival.isStream = true ∨ arrival = .closed)
    (time : arrivals.count .silence * sliceMillis < millis) :
    (of grammar millis pending arrivals).Punctual := by
  -- Each silence that passes lowers the time and the silences to come by the same slice.
  suffices (of grammar millis pending arrivals).ended.result = .error late →
      (of grammar millis pending arrivals).ended.arrivals = [] from
    fun ends arrival member => by simp [this ends] at member
  have on : millis ≠ 0 := Nat.ne_of_gt (Nat.zero_lt_of_lt time)
  induction arrivals generalizing millis pending with
  | nil =>
    cases is : (take grammar pending).result? with
    | some result => simp [of_result is]
    | none => simp [of_nil is]
  | cons arrival others ih =>
    have knowns := List.forall_mem_cons.1 known
    cases is : (take grammar pending).result? with
    | some result =>
      rw [of_result is]
      rintro rfl
      exact absurd is (result?_ne_late _)
    | none =>
      cases arrival with
      | data octets =>
        rw [of_data is on]
        exact ih knowns.2 (by simpa using time) on
      | silence =>
        rw [of_silence is on]
        rw [List.count_cons_self, Nat.succ_mul] at time
        exact ih knowns.2 (by omega) (by omega)
      | closed => simp [of_closed is on, late]
      | failed message => cases knowns.1 <;> contradiction

end Reading

/-! ## One read after another -/

/-- Reads one after another, each with a time of its own. -/
def reads (grammar : Scanner Reply) : List Nat → Octets → List Arrival → List Reading
  | [], _, _ => []
  | millis :: others, pending, arrivals =>
    let reading := Reading.of grammar millis pending arrivals
    reading :: reads grammar others reading.ended.pending reading.ended.arrivals

/-- Each read skips lines, and takes a response behind them if it comes to one.  What the reads skip
and take stands in the stream in this order and without a gap: what one of them leaves is what the
next one finds. -/
def Accounts : Octets → List Reading → Prop
  | _, [] => True
  | stream, reading :: others =>
    Noted reading.ended.result.isOk reading.notes ∧
      stream = reading.notes.flatMap Note.octets ++ reading.left ∧ Accounts reading.left others

/-- Two reads skip and take the same, come to the same, and leave the same octets. -/
structure Reading.Agrees (reading other : Reading) : Prop where
  notes : reading.notes = other.notes
  result : reading.ended.result = other.ended.result
  left : reading.left = other.left

theorem Reading.Cut.agrees {ending : List Arrival} {cut whole : Reading}
    (same : Cut ending cut whole) : cut.Agrees whole := by
  cases same with
  | mk notes result pending left stream => exact ⟨rfl, rfl, by simp [Reading.left]⟩

section Reads

variable {grammar : Scanner Reply}

theorem reads_account (grows : Scanner.Growing grammar) (timeouts : List Nat) (pending : Octets)
    (arrivals : List Arrival) :
    Accounts (pending ++ octetsOf arrivals) (reads grammar timeouts pending arrivals) := by
  induction timeouts generalizing pending arrivals with
  | nil => trivial
  | cons millis others ih =>
    exact ⟨Reading.of_noted grows millis pending arrivals,
      Reading.of_account grows millis pending arrivals, ih _ _⟩

theorem reads_agree (grows : Scanner.Growing grammar) {parts ending : List Arrival}
    {timeouts : List Nat} {pending : Octets}
    (stream : ∀ part ∈ parts, part.isStream = true) (ends : EndsQuietly ending)
    (punctual : ∀ reading ∈ reads grammar timeouts pending (parts ++ ending), reading.Punctual) :
    List.Forall₂ Reading.Agrees (reads grammar timeouts pending (parts ++ ending))
      (reads grammar timeouts (pending ++ octetsOf parts) ending) := by
  induction timeouts generalizing pending parts with
  | nil => exact .nil
  | cons millis others ih =>
    have punctuals := List.forall_mem_cons.1 punctual
    have same := Reading.cut_of grows (Nat.le_refl millis) stream ends punctuals.1
    -- The pieces that the first read left are a cut of what the other read left pending.
    refine .cons same.agrees ?_
    replace punctuals := punctuals.2
    generalize Reading.of grammar millis pending (parts ++ ending) = cut,
      Reading.of grammar millis (pending ++ octetsOf parts) ending = whole at same punctuals ⊢
    cases same with
    | mk notes result pending left stream => exact ih stream punctuals

/-- Reads are punctual when the silences leave time to each of them. -/
theorem reads_punctual {timeouts : List Nat} {pending : Octets} {arrivals : List Arrival}
    (known : ∀ arrival ∈ arrivals, arrival.isStream = true ∨ arrival = .closed)
    (time : ∀ millis ∈ timeouts, arrivals.count .silence * sliceMillis < millis) :
    ∀ reading ∈ reads grammar timeouts pending arrivals, reading.Punctual := by
  induction timeouts generalizing pending arrivals with
  | nil => nofun
  | cons millis others ih =>
    have times := List.forall_mem_cons.1 time
    refine List.forall_mem_cons.2 ⟨Reading.of_punctual known times.1, ?_⟩
    have suffix := @Reading.of_suffix grammar millis pending arrivals
    refine ih (fun arrival member => known arrival (suffix.subset member)) fun millis member => ?_
    exact Nat.lt_of_le_of_lt (Nat.mul_le_mul_right _ (suffix.sublist.count_le _))
      (times.2 millis member)

end Reads

/-! ## The reads of a connection -/

section Connection

variable {ε : Type} {grammar : Scanner Reply}

theorem read_open {connection : Connection} {arrivals : List Arrival} (network : ε)
    (is : connection.arrivals = some arrivals) :
    (Dialogue.readBy grammar : Dialogue ε Response) (connection, network) =
      let ended := readWithin grammar connection.timeout connection.pending arrivals
      (ended.result, { connection with
        pending := ended.pending, arrivals := some ended.arrivals }, network) := by
  obtain ⟨settings, folder, own, pending, tag, timeout, capabilities⟩ := connection
  subst is
  change (liftM (readWithin grammar timeout pending arrivals).result : Dialogue ε Response) _ = _
  generalize readWithin grammar timeout pending arrivals = ended
  obtain ⟨_ | _, pending, arrivals⟩ := ended <;> rfl

/-- The results of reads of a connection, each with a time of its own. -/
def results (grammar : Scanner Reply) :
    List Nat → Connection × ε → List (Except Failure Response)
  | [], _ => []
  | millis :: others, (connection, network) =>
    let (result, later) := (Dialogue.readBy grammar : Dialogue ε Response)
      ({ connection with timeout := millis }, network)
    result :: results grammar others later

theorem results_eq_reads {connection : Connection} {arrivals : List Arrival} (timeouts : List Nat)
    (network : ε) (is : connection.arrivals = some arrivals) :
    results grammar timeouts (connection, network) =
      (reads grammar timeouts connection.pending arrivals).map (·.ended.result) := by
  induction timeouts generalizing connection arrivals with
  | nil => rfl
  | cons millis others ih =>
    rw [results, @read_open ε _ { connection with timeout := millis } arrivals network is]
    exact congrArg _ (ih rfl)

/-- However the stream of a server is cut into pieces, with silence between them that leaves time to
each read, the results of the reads are those for the whole stream at once, and so is what they
skip and take; each octet of the stream is skipped or taken once, in order, or is left; and
what is skipped or taken at once is at least one octet and no more than have arrived.  Nothing is
asked of the grammar but that it grows with what arrives, and that of replies does
(`Grammar.growing_reply`). -/
theorem reads_cut {grammar : Scanner Reply} (grows : Scanner.Growing grammar)
    {parts ending : List Arrival} (timeouts : List Nat) (connection : Connection)
    (network : ε) (stream : ∀ part ∈ parts, part.isStream = true) (ends : EndsQuietly ending)
    (punctual : ∀ reading ∈ reads grammar timeouts connection.pending (parts ++ ending),
      reading.Punctual) :
    let whole := connection.pending ++ octetsOf parts
    results grammar timeouts ({ connection with arrivals := some (parts ++ ending) }, network) =
        results grammar timeouts
          ({ connection with pending := whole, arrivals := some ending }, network) ∧
      List.Forall₂ Reading.Agrees (reads grammar timeouts connection.pending (parts ++ ending))
        (reads grammar timeouts whole ending) ∧
      Accounts whole (reads grammar timeouts connection.pending (parts ++ ending)) ∧
      ∀ octets length, (Framed.first grammar octets).length? = some length →
        0 < length ∧ length ≤ octets.length := by
  have agree := reads_agree grows stream ends punctual
  refine ⟨?_, agree, ?_, fun octets length => Framed.first_length grows⟩
  · rw [results_eq_reads timeouts network rfl, results_eq_reads timeouts network rfl]
    exact List.forall₂_eq_eq_eq ▸ (List.forall₂_map_left_iff.2 <| List.forall₂_map_right_iff.2 <|
      agree.imp fun _ _ same => same.result)
  · have account := reads_account grows timeouts connection.pending (parts ++ ending)
    have none : octetsOf ending = [] := by obtain rfl | rfl := ends <;> rfl
    rwa [octetsOf_append, none, List.append_nil] at account

/-- Two responses, cut within a word and within the end of a line. -/
def cutWithinWord : List Arrival :=
  [.data (Text.encode "+ idl"), .silence, .data (Text.encode "ing\r"),
    .data (Text.encode "\n* 4 EXISTS\r\n")]

theorem reads_cut_within_word :
    let timeouts := [usualTimeout, usualTimeout]
    let connection := Connection.new ⟨"localhost", 143, .plain, "alice", "secret"⟩ "INBOX"
    Scanner.Growing Grammar.reply ∧
      (∀ part ∈ cutWithinWord, part.isStream = true) ∧ EndsQuietly [.closed] ∧
      (∀ reading ∈ reads Grammar.reply timeouts [] (cutWithinWord ++ [.closed]),
        reading.Punctual) ∧
      results Grammar.reply timeouts
          ({ connection with arrivals := some (cutWithinWord ++ [.closed]) }, ()) =
        results Grammar.reply timeouts
          ({ connection with
            pending := Text.encode "+ idling\r\n* 4 EXISTS\r\n"
            arrivals := some [.closed] }, ()) := by
  intro timeouts connection
  have stream : ∀ part ∈ cutWithinWord, part.isStream = true := by
    simp [cutWithinWord, Arrival.isStream]
  have punctual : ∀ reading ∈ reads Grammar.reply timeouts [] (cutWithinWord ++ [.closed]),
      reading.Punctual :=
    reads_punctual (by simp [cutWithinWord, Arrival.isStream])
      (by simp [timeouts, cutWithinWord, sliceMillis, usualTimeout])
  have whole : octetsOf cutWithinWord = Text.encode "+ idling\r\n* 4 EXISTS\r\n" := by
    decide +kernel
  have same := (reads_cut Grammar.growing_reply timeouts connection () stream (.inr rfl) punctual).1
  exact ⟨Grammar.growing_reply, stream, .inr rfl, punctual, whole ▸ same⟩

end Connection

end MailReplica.Remote
