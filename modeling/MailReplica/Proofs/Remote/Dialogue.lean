import MailReplica.Proofs.Remote.Hearing
import MailReplica.Proofs.Work

/-! # How a dialogue ends

A part of a dialogue comes to its end with a value or fails, and goes from one state to another.
`Ends` speaks about both outcomes at once.  Reading takes responses and touches nothing else
(`read_ends`, `complete_ends`); a command sends one line and then reads (`command_ends`), and on a
connection that is not open it sends nothing (`command_ends_closed`).
-/

namespace MailReplica.Remote.Dialogue

open Wire

variable {ε α β : Type}

/-- A part of a dialogue that starts from `before` ends as `Done` says of its value, or fails as
`Failed` says. -/
def Ends (part : Dialogue ε α) (before : Connection × ε) (Done : α → Connection × ε → Prop)
    (Failed : Failure → Connection × ε → Prop) : Prop :=
  match part before with
  | (.ok value, after) => Done value after
  | (.error failure, after) => Failed failure after

/-! ## Rules -/

section Rules

variable {part : Dialogue ε α} {next : α → Dialogue ε β} {before after : Connection × ε}
  {Done Done' : α → Connection × ε → Prop} {Failed Failed' : Failure → Connection × ε → Prop}

theorem Ends.mono (ends : Ends part before Done Failed)
    (done : ∀ value after, Done value after → Done' value after)
    (failed : ∀ failure after, Failed failure after → Failed' failure after) :
    Ends part before Done' Failed' := by
  unfold Ends at ends ⊢
  split
  next found => rw [found] at ends; exact done _ _ ends
  next found => rw [found] at ends; exact failed _ _ ends

theorem Ends.bind {Done : β → Connection × ε → Prop}
    (first : Ends part before (fun value after => Ends (next value) after Done Failed) Failed) :
    Ends (part >>= next) before Done Failed := by
  unfold Ends at first ⊢
  rw [bind_apply]
  match ran : part before with
  | (.ok value, after) => rw [ran] at first; exact first
  | (.error failure, after) => rw [ran] at first; exact first

theorem Ends.of_run {result : Except Failure α} (ran : part before = (result, after))
    (done : ∀ value, result = .ok value → Done value after)
    (failed : ∀ failure, result = .error failure → Failed failure after) :
    Ends part before Done Failed := by
  unfold Ends
  rw [ran]
  cases result with
  | ok value => exact done value rfl
  | error failure => exact failed failure rfl

theorem Ends.outcome (ends : Ends part before Done Failed) :
    (∃ value, (part before).1 = .ok value ∧ Done value (part before).2) ∨
      ∃ failure, (part before).1 = .error failure ∧ Failed failure (part before).2 := by
  unfold Ends at ends
  split at ends
  next ran => rw [ran]; exact .inl ⟨_, rfl, ends⟩
  next ran => rw [ran]; exact .inr ⟨_, rfl, ends⟩

theorem Ends.always {Holds : Connection × ε → Prop}
    (ends : Ends part before (fun _ => Holds) fun _ => Holds) : Holds (part before).2 :=
  ends.outcome.elim (fun ⟨_, _, holds⟩ => holds) fun ⟨_, _, holds⟩ => holds

theorem ends_pure {value : α} (done : Done value before) : Ends (pure value) before Done Failed :=
  done

theorem ends_throw {failure : Failure} (failed : Failed failure before) :
    Ends (throw failure) before Done Failed :=
  failed

theorem ends_get {Done : Connection × ε → Connection × ε → Prop} (done : Done before before) :
    Ends get before Done Failed :=
  done

theorem ends_set {Done : Unit → Connection × ε → Prop} (done : Done () after) :
    Ends (set after) before Done Failed :=
  done

theorem ends_change {Done : Unit → Connection × ε → Prop} {apply : Connection → Connection}
    (done : Done () (apply before.1, before.2)) : Ends (change apply) before Done Failed :=
  done

theorem ends_connection {Done : Connection → Connection × ε → Prop} (done : Done before.1 before) :
    Ends connection before Done Failed :=
  done

theorem ends_except {result : Except Failure α}
    (done : ∀ value, result = .ok value → Done value before)
    (failed : ∀ failure, result = .error failure → Failed failure before) :
    Ends (liftM result) before Done Failed := by
  cases result with
  | ok value => exact done value rfl
  | error failure => exact failed failure rfl

/-- Whatever holds of the state before a part holds of it after the part. -/
def Keeps (Holds : Connection × ε → Prop) (part : Dialogue ε α) : Prop :=
  ∀ before, Holds before → Ends part before (fun _ => Holds) fun _ => Holds

variable {Holds : Connection × ε → Prop}

theorem Keeps.bind (first : Keeps Holds part) (second : ∀ value, Keeps Holds (next value)) :
    Keeps Holds (part >>= next) := fun before holds =>
  .bind ((first before holds).mono (fun value after => second value after) fun _ _ => id)

theorem keeps_pure (value : α) : Keeps Holds (pure value) := fun _ holds =>
  ends_pure holds

theorem keeps_throw (failure : Failure) : Keeps Holds (throw failure : Dialogue ε α) :=
  fun _ holds => ends_throw holds

theorem keeps_change {apply : Connection → Connection}
    (keeps : ∀ connection network, Holds (connection, network) →
      Holds (apply connection, network)) :
    Keeps Holds (change apply) := fun before holds =>
  ends_change (keeps before.1 before.2 holds)

end Rules

end Dialogue

/-! ## Reading -/

open Wire

variable {ε : Type}

/-- The octets that arrive and were not taken. -/
def Connection.unread (connection : Connection) : Octets :=
  connection.pending ++ octetsOf (connection.arrivals.getD [])

/-- What may have become of a connection when responses were taken and nothing was sent. -/
structure Took (responses : List Response) (before after : Connection × ε) : Prop where
  settings : after.1.settings = before.1.settings
  folder : after.1.folder = before.1.folder
  nextTag : after.1.nextTag = before.1.nextTag
  isOpen : after.1.isOpen = before.1.isOpen
  network : after.2 = before.2
  tells : Tells before.1.unread responses after.1.unread

namespace Took

variable {responses others : List Response} {start before after : Connection × ε}

theorem refl (state : Connection × ε) : Took [] state state :=
  ⟨rfl, rfl, rfl, rfl, rfl, .nothing _⟩

theorem trans (first : Took responses start before) (second : Took others before after) :
    Took (responses ++ others) start after where
  settings := second.settings.trans first.settings
  folder := second.folder.trans first.folder
  nextTag := second.nextTag.trans first.nextTag
  isOpen := second.isOpen.trans first.isOpen
  network := second.network.trans first.network
  tells := first.tells.trans second.tells

end Took

namespace Dialogue

theorem heardOf_settle (millis : Nat) (pending : Octets) (failure : Failure) :
    heardOf (some ((settle Grammar.reply millis pending).1.getD (.error failure))) =
      heardOf (take Grammar.reply pending).result? := by
  rw [Reading.settle_eq]
  cases (take Grammar.reply pending).result? with
  | some result => rfl
  | none =>
    dsimp only [Option.or]
    split <;> rfl

theorem tells_settle (millis : Nat) (pending : Octets) (failure : Failure) :
    Tells (pending ++ [])
      (heardOf (some ((settle Grammar.reply millis pending).1.getD (.error failure))))
      ((settle Grammar.reply millis pending).2 ++ []) := by
  rw [heardOf_settle, Reading.settle_eq]
  exact tells_pending pending []

theorem read_ends (before : Connection × ε) :
    Ends read before (fun response after => Took [response] before after)
      fun _ after => Took [] before after := by
  obtain ⟨⟨settings, folder, arrivals, pending, nextTag, timeout, capabilities⟩, network⟩ := before
  cases arrivals with
  | some arrivals =>
    have tells (result : Except Failure Response)
        (is : (readWithin Grammar.reply timeout pending arrivals).result = result) :
        Tells (pending ++ octetsOf arrivals) (heardOf (some result))
          (Reading.of Grammar.reply timeout pending arrivals).left :=
      is ▸ tells_read timeout pending arrivals
    exact .of_run (read_open network rfl)
      (fun response is => ⟨rfl, rfl, rfl, rfl, rfl, tells (.ok response) is⟩)
      fun failure is => ⟨rfl, rfl, rfl, rfl, rfl, tells (.error failure) is⟩
  | none =>
    have tells (result : Except Failure Response)
        (is : (settle Grammar.reply timeout pending).1.getD
          (.error (.io "connection closed")) = result) :
        Tells (pending ++ []) (heardOf (some result))
          ((settle Grammar.reply timeout pending).2 ++ []) :=
      is ▸ tells_settle timeout pending (.io "connection closed")
    exact .bind (ends_connection (.bind (ends_change (ends_except
      (fun response is => ⟨rfl, rfl, rfl, rfl, rfl, tells (.ok response) is⟩)
      fun failure is => ⟨rfl, rfl, rfl, rfl, rfl, tells (.error failure) is⟩))))

/-! ## Commands -/

end Dialogue

/-- The tag of the request with the number `number`. -/
def requestTag (number : UInt32) : String :=
  "M" ++ Nat.repr number.toNat

theorem mem_requestTag {c : Char} {number : UInt32} (member : c ∈ (requestTag number).toList) :
    c = 'M' ∨ c.isDigit = true := by
  rw [requestTag, String.toList_append, List.mem_append, Nat.toList_repr] at member
  exact member.imp List.mem_singleton.1 (Nat.isDigit_of_mem_toDigits (by decide) (by decide))

/-- The octets of a request. -/
def request (number : UInt32) (text : String) : Octets :=
  Text.encode (requestTag number ++ " " ++ text ++ "\r\n")

/-- The connection when more arrives behind what was to come. -/
def Connection.expecting (more : List Arrival) (connection : Connection) : Connection :=
  { connection with arrivals := connection.arrivals.map (· ++ more) }

/-- The connection when a request was made. -/
def Connection.asked (more : List Arrival) (connection : Connection) : Connection :=
  { connection.expecting more with nextTag := connection.nextTag + 1 }

namespace Dialogue

/-- Responses were taken, the last of which completes the command with the tag `tag`. -/
def Completed (tag : String) (before after : Connection × ε) : Prop :=
  ∃ responses completion, Took (responses ++ [completion]) before after ∧
    completion.completes tag = true ∧ completion.isSuccess = true

theorem complete_ends (tag command : String) (fuel : Nat) (before : Connection × ε) :
    Ends (complete tag command fuel) before (fun _ after => Completed tag before after)
      fun _ after => ∃ responses, Took responses before after := by
  induction fuel generalizing before with
  | zero => exact ends_throw ⟨[], .refl before⟩
  | succ fuel ih =>
    refine .bind ((read_ends before).mono (fun response after took => ?_)
      fun failure after took => ⟨[], took⟩)
    dsimp only
    split
    next completes =>
      split
      next success => exact ends_pure ⟨[], response, took, completes, success⟩
      next => exact ends_throw ⟨[response], took⟩
    next =>
      -- The response is not the completion, and the capabilities that it may list are no part of
      -- what is said here.
      have goes (state : Connection × ε) (took : Took [response] before state) :
          Ends (complete tag command fuel) state (fun _ after => Completed tag before after)
            fun _ after => ∃ responses, Took responses before after :=
        (ih state).mono
          (fun _ after ⟨responses, completion, later, completes⟩ =>
            ⟨response :: responses, completion, took.trans later, completes⟩)
          fun _ after ⟨responses, later⟩ => ⟨response :: responses, took.trans later⟩
      split
      next names is =>
        exact .bind (ends_change (goes _ ⟨took.settings, took.folder, took.nextTag, took.isOpen,
          took.network, took.tells⟩))
      next => exact goes after took

theorem sendLine_ends (network : Network ε) (line : String) (before : Connection × ε)
    {arrivals : List Arrival} (is : before.1.arrivals = some arrivals) :
    let sent := network.send (Text.encode (line ++ "\r\n")) before.2
    let waiting := (before.1.expecting (sent.1.toOption.getD []), sent.2)
    Ends (sendLine network line) before (fun _ after => after = waiting)
      fun _ after => after = waiting := by
  obtain ⟨⟨settings, folder, own, pending, nextTag, timeout, capabilities⟩, state⟩ := before
  obtain ⟨reach, send, close, encrypt⟩ := network
  subst is
  intro sent waiting
  refine .bind (ends_get (.bind (ends_set ?_)))
  cases outcome : (send (Text.encode (line ++ "\r\n")) state).1 with
  | error failure =>
    have nothing : sent.1.toOption.getD [] = [] := by
      rw [show sent.1 = .error failure from outcome]; rfl
    refine ends_throw ?_
    dsimp only [waiting]
    rw [nothing]
    simp only [Connection.expecting, Option.map_some, List.append_nil, sent]
  | ok more =>
    have arrives : sent.1.toOption.getD [] = more := by
      rw [show sent.1 = .ok more from outcome]; rfl
    refine ends_change ?_
    dsimp only [waiting]
    rw [arrives]
    rfl

/-- A command sends its request and takes responses, up to the completion if it comes to its end. -/
theorem command_ends (network : Network ε) (text : String) {before : Connection × ε}
    (isOpen : before.1.isOpen = true) :
    let sent := network.send (request before.1.nextTag text) before.2
    let waiting := (before.1.asked (sent.1.toOption.getD []), sent.2)
    Ends (command network text) before
      (fun _ after => Completed (requestTag before.1.nextTag) waiting after)
      fun _ after => ∃ responses, Took responses waiting after := by
  obtain ⟨connection, state⟩ := before
  obtain ⟨arrivals, is⟩ := Option.isSome_iff_exists.1 isOpen
  intro sent waiting
  have sends := sendLine_ends network (requestTag connection.nextTag ++ " " ++ text)
    ({ connection with nextTag := connection.nextTag + 1 }, state) is
  refine .bind (.bind (ends_connection (.bind (ends_change (.bind (sends.mono ?_ ?_))))))
  · rintro _ _ rfl
    exact ends_pure (.bind (.bind (ends_connection (ends_pure (complete_ends _ _ _ _)))))
  · rintro _ _ rfl
    exact ⟨[], .refl _⟩

/-- On a connection that is not open nothing is sent. -/
theorem command_ends_closed (network : Network ε) (text : String) {before : Connection × ε}
    (closed : before.1.arrivals = none) :
    Ends (command network text) before (fun _ _ => False) fun _ after =>
      after = ({ before.1 with nextTag := before.1.nextTag + 1 }, before.2) := by
  obtain ⟨⟨settings, folder, own, pending, nextTag, timeout, capabilities⟩, state⟩ := before
  subst closed
  exact .bind (.bind (ends_connection (.bind (ends_change (.bind (.bind (ends_get
    (ends_throw rfl))))))))

end Dialogue

end MailReplica.Remote
