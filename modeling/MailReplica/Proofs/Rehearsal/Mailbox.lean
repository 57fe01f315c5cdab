import MailReplica.Proofs.Pass.Steady
import MailReplica.Rehearsal.Mailbox

/-! # A mailbox is a steady server

Whatever fails, a mailbox gives the same answers until messages are expunged: the calls of a pass
leave traces in its log only (`steady_server`).
-/

namespace MailReplica.Rehearsal.Mailbox

open Reconcile (Answers Reached ServerCall Steady)

/-- Two mailboxes that give the same answers, apart from their faults. -/
structure Alike (left right : Mailbox) : Prop where
  messages : left.messages = right.messages
  count : left.count = right.count
  validity : left.validity = right.validity
  listing : left.listing = right.listing

/-- What a mailbox answers to a pass. -/
def answers (mailbox : Mailbox) : Answers where
  count := mailbox.count.getD mailbox.messages.size
  listing := mailbox.list
  body uid extent := (mailbox.fetch uid extent).toOption.getD []

variable {α : Type} {mailbox state : Mailbox}

theorem unlessFaulty_ok {name : String} {subject : Option String}
    {answer : Mailbox → Except Failure α × Mailbox} {value : α} {next : Mailbox}
    (ran : unlessFaulty name subject answer state = (.ok value, next)) :
    answer state = (.ok value, next) := by
  unfold unlessFaulty at ran
  split at ran
  · cases ran
  · exact ran

theorem unlessFaulty_snd (name : String) (subject : Option String)
    {answer : Mailbox → Except Failure α × Mailbox} (idle : (answer state).2 = state) :
    (unlessFaulty name subject answer state).2 = state := by
  unfold unlessFaulty
  split
  · rfl
  · exact idle

theorem Alike.folder (mailbox : Mailbox) (id : String) :
    Alike mailbox (server.run (.folder id) mailbox).2 := by
  have noted : (server.run (.folder id) mailbox).2 =
      { mailbox with folder := id }.noted (.folder id) :=
    unlessFaulty_snd _ _ rfl
  rw [noted]
  exact ⟨rfl, rfl, rfl, rfl⟩

theorem Alike.quiet {request : ServerCall α} (quiet : request.isQuiet = true)
    (alike : Alike mailbox state) : Alike mailbox (server.run request state).2 := by
  have noted : ∃ log, (server.run request state).2 = { state with log } := by
    cases request with
    | folder id => cases quiet
    | openFolder mode => exact ⟨_, unlessFaulty_snd _ _ rfl⟩
    | count => exact ⟨_, unlessFaulty_snd _ _ rfl⟩
    | list first last cutoff => exact ⟨_, unlessFaulty_snd _ _ rfl⟩
    | fetch uid extent => exact ⟨_, unlessFaulty_snd _ _ rfl⟩
    | expunge => cases quiet
  obtain ⟨log, same⟩ := noted
  rw [same]
  exact ⟨alike.messages, alike.count, alike.validity, alike.listing⟩

theorem Alike.reached {folder : String}
    (reached : Reached server (server.run (.folder folder) mailbox).2 state) :
    Alike mailbox state := by
  induction reached with
  | start => exact .folder mailbox folder
  | call request quiet _ alike => exact alike.quiet quiet

theorem Alike.answered {request : ServerCall α} (alike : Alike mailbox state) {value : α}
    {next : Mailbox} (ran : server.run request state = (.ok value, next)) :
    value = mailbox.answers.reply request := by
  cases request with
  | folder id => rfl
  | openFolder mode => rfl
  | expunge => rfl
  | count =>
    cases unlessFaulty_ok ran
    simp only [Answers.reply, answers, alike.count, alike.messages]
  | list first last cutoff =>
    cases unlessFaulty_ok ran
    simp only [Answers.reply, answers, list, noted, alike.listing, alike.messages]
  | fetch uid extent =>
    have fetched := congrArg Prod.fst (unlessFaulty_ok ran)
    have same : mailbox.fetch uid extent = .ok value := by
      unfold fetch at fetched ⊢
      rw [alike.messages]
      exact fetched
    simp only [Answers.reply, answers, same]
    rfl

/-- A mailbox is steady, whichever calls fail. -/
theorem steady_server (mailbox : Mailbox) (folder : String) :
    Steady server folder mailbox.answers mailbox.validity mailbox where
  answered _ _ _ _ reached answered := (Alike.reached reached).answered answered
  numbered reached counted := by
    have after := reached.of_run rfl counted
    exact (Alike.reached after).validity.symm

end MailReplica.Rehearsal.Mailbox
