import MailReplica.Proofs.Rehearsal.Mailbox

/-! # What a pass that does not fail leaves

Against a steady server the messages, the highest UID and the numbering of a folder after a pass that
did not fail are a function of what was there before and of what the server said (`run_reconciles`).
-/

namespace MailReplica.Reconcile

open Rehearsal (Mailbox)
open Store (Copy InMemory Memory)

/-- The messages of a copy that outlive the numbering which the server reports. -/
def surviving (numbering : Option UInt64) (copy : Copy) : Std.ExtTreeMap String MessageRecord :=
  if renumbers numbering copy.state.validity = true then ∅ else copy.messages

/-- What a pass makes of a copy.  The server reports `numbering`, `recent` are the listed messages
that are not dated before the cutoff, and `body` gives the octets of messages. -/
structure Reconciled (settings : PassSettings) (numbering : Option UInt64) (recent : List Listed)
    (body : UInt32 → FetchExtent → Octets) (before after : Copy) : Prop where
  /-- A message that both sides know, but which is marked for removal or too old here. -/
  removed : ∀ message ∈ recent, ∀ record,
    (surviving numbering before)[message.id]? = some record →
    settings.removeVanished = true →
    message.isDeleted = true ∨ predates settings record.date = true →
    after.messages[message.id]? = none
  kept : ∀ message ∈ recent, ∀ record,
    (surviving numbering before)[message.id]? = some record →
    ¬(settings.removeVanished = true ∧
      (message.isDeleted = true ∨ predates settings record.date = true)) →
    ∃ flags, after.messages[message.id]? = some { record with flags } ∧
      ∀ flag, flag ∈ flags ↔
        flag ∈ settings.trackedFlags ∧ flag ∈ message.flags ∨
        flag ∉ settings.trackedFlags ∧ flag ∈ record.flags
  /-- A message that only the server knows. -/
  fresh : ∀ message ∈ recent, (surviving numbering before)[message.id]? = none →
    after.messages[message.id]? =
      if message.isDeleted = true then none
      else if message.size.all (· ≤ settings.largestDownload) = true then
        some (.ofDownload message (body message.uid .full) .full)
      else some (.ofDownload message (body message.uid .header) .envelope)
  /-- A message that the server did not list, or listed with a date before the cutoff. -/
  unlisted : ∀ id, (∀ message ∈ recent, message.id ≠ id) →
    after.messages[id]? =
      if settings.removeVanished = true then none else (surviving numbering before)[id]?
  highestUid : after.state.highestUid.toNat =
    (recent.map fun message => message.uid.toNat).foldl max
      (if renumbers numbering before.state.validity = true then 0
        else before.state.highestUid.toNat)
  validity : after.state.validity = numbering.or before.state.validity

namespace Pass

variable {settings : PassSettings} {answers : Answers} {numbering : Option UInt64}

theorem gained_eq (message : Listed) :
    gained settings (answers.octets settings) message =
      if message.isDeleted = true then none
      else if message.size.all (· ≤ settings.largestDownload) = true then
        some (.ofDownload message (answers.body message.uid .full) .full)
      else some (.ofDownload message (answers.body message.uid .header) .envelope) := by
  unfold gained Answers.octets extent
  congr 1
  split <;> rfl

theorem planOf_reconciles (folder : String)
    (distinct : ((answers.inWindow settings).map Listed.uid).Nodup) (copy : Copy) :
    Reconciled settings numbering (answers.recent settings) answers.body copy
      (replay copy (planOf folder settings answers numbering copy)) := by
  have messages : ∀ id,
      (replay copy (planOf folder settings answers numbering copy)).messages[id]? =
        target settings (answers.recent settings) (answers.octets settings) id
          (surviving numbering copy)[id]? := by
    intro id
    rw [replay_planOf, getElem?_finish distinct, renumbered_messages]
    rfl
  have distinctIds := pairwise_recent distinct
  have state := state_finish folder settings answers (Plan.renumbered numbering copy)
  rw [← replay_planOf, renumbered_state] at state
  refine ⟨?removed, ?kept, ?fresh, ?unlisted, ?highestUid, state.2⟩
  case removed =>
    intro message member record known removes gone
    rw [messages, target_listed distinctIds member, known]
    exact if_pos ⟨removes, gone⟩
  case kept =>
    intro message member record known spared
    rw [messages, target_listed distinctIds member, known]
    exact ⟨_, if_neg spared, fun flag => FlagSet.mem_replaceTracked⟩
  case fresh =>
    intro message member unknown
    rw [messages, target_listed distinctIds member, unknown]
    exact gained_eq message
  case unlisted =>
    intro id absent
    rw [messages, target_unlisted absent]
  case highestUid =>
    rw [state.1]
    split <;> rfl

/-- A pass over a folder that reports no failure leaves it as `Reconciled` says. -/
theorem run_reconciles {σ ρ : Type} {sides : Sides σ ρ} {memory : σ → Memory} {folder : String}
    {store : σ} {server : ρ} (inMemory : InMemory sides.store memory)
    (steady : Steady sides.server folder answers numbering server)
    (distinct : ((answers.inWindow settings).map Listed.uid).Nodup)
    (unfailed : ∀ event ∈ events (run sides folder settings store server),
      event.isFailure = false) :
    Reconciled settings numbering (answers.recent settings) answers.body
      ((memory store).copy folder)
      ((memory (run sides folder settings store server).store).copy folder) := by
  rw [run_completed inMemory steady distinct unfailed]
  exact planOf_reconciles folder distinct _

/-- A mailbox with two messages. -/
def twoPosted : Mailbox :=
  { (Mailbox.empty.put ⟨⟨7, .ofList [Flag.seen], none, some 12⟩, [72, 105]⟩).put
      ⟨⟨3, .ofList [Flag.flagged, .deleted], none, none⟩, []⟩ with validity := some 9 }

theorem run_reconciles_two :
    (∀ event ∈ events (run ⟨Memory.handler, Mailbox.server⟩ "INBOX" .usual twoKnown twoPosted),
        event.isFailure = false) ∧
      Reconciled .usual (some 9) (twoPosted.answers.recent .usual) twoPosted.answers.body
        (twoKnown.copy "INBOX")
        ((run ⟨Memory.handler, Mailbox.server⟩ "INBOX" .usual twoKnown
          twoPosted).store.copy "INBOX") := by
  have unfailed : ∀ event ∈
      events (run ⟨Memory.handler, Mailbox.server⟩ "INBOX" .usual twoKnown twoPosted),
      event.isFailure = false := by
    decide +kernel
  have reconciled := run_reconciles Memory.inMemory_handler (twoPosted.steady_server "INBOX")
    (by decide +kernel) unfailed
  exact ⟨unfailed, reconciled⟩

end Pass

end MailReplica.Reconcile
