import MailReplica.Proofs.Pass.Resume
import MailReplica.Proofs.Pass.Success

/-! # Messages that a listing does not date

A pass compares the cutoff with the dates of a listing before it downloads, and with the dates of
records before it removes.  The record of a message that the listing does not date has its date from
the header of the message, so only the second comparison finds the message too old
(`predates_ofDownload`).  Such a message is downloaded by one pass and removed by the next
(`stays_iff`), and so on for ever (`held_iff_even`); every other message that a pass downloads is
still there after the next one.
-/

namespace MailReplica.Reconcile

open Rehearsal (Mailbox)
open Store (Copy InMemory Memory)

/-- Whether the header of a message, with the octets `raw`, dates it before the cutoff where its
listing does not date it. -/
def oldByHeader (settings : PassSettings) (message : Listed) (raw : Octets) : Bool :=
  message.date.isNone && predates settings (MessageRecord.headerDate? (Header.fields raw))

theorem predates_ofDownload {settings : PassSettings} {message : Listed}
    (recent : Pass.isRecent settings message = true) (raw : Octets) (state : DownloadState) :
    predates settings (MessageRecord.ofDownload message raw state).date =
      oldByHeader settings message raw := by
  unfold MessageRecord.ofDownload oldByHeader
  cases dated : message.date with
  | none => rfl
  | some date => exact predates_of_isRecent recent dated

/-! ## One copy after another -/

section Reconciled

variable {settings : PassSettings} {numbering : Option UInt64} {answers : Answers}
  {before middle after : Copy} {message : Listed}

theorem Reconciled.surviving_eq {recent : List Listed} {body : UInt32 → FetchExtent → Octets}
    (reconciled : Reconciled settings numbering recent body before after) :
    surviving numbering after = after.messages := by
  -- The pass has stored the numbering that the server reports, so the next one finds no other.
  have settled : renumbers numbering after.state.validity = false := by
    rw [reconciled.validity]
    cases numbering with
    | none => rfl
    | some reported => exact decide_eq_false (not_not_intro rfl)
  rw [surviving, settled]
  rfl

/-- A message that only the server knew is known as it was downloaded. -/
theorem Reconciled.downloaded
    (first : Reconciled settings numbering (answers.recent settings) answers.body before middle)
    (member : message ∈ answers.recent settings) (live : message.isDeleted = false)
    (unknown : (surviving numbering before)[message.id]? = none) :
    (surviving numbering middle)[message.id]? =
      some (.ofDownload message (answers.octets settings message)
        (Pass.extent settings message).2) := by
  rw [first.surviving_eq, first.fresh message member unknown, ← Pass.gained_eq, gained, live]
  rfl

/-- A message that was known as it was downloaded stays unless its header dates it before the
cutoff. -/
theorem Reconciled.stays
    (second : Reconciled settings numbering (answers.recent settings) answers.body middle after)
    (member : message ∈ answers.recent settings) (live : message.isDeleted = false)
    (known : (surviving numbering middle)[message.id]? =
      some (.ofDownload message (answers.octets settings message)
        (Pass.extent settings message).2)) :
    message.id ∈ after.messages ↔
      ¬(settings.removeVanished = true ∧
        oldByHeader settings message (answers.octets settings message) = true) := by
  have recent := (List.mem_filter.1 member).2
  rw [← predates_ofDownload recent _ (Pass.extent settings message).2,
    Std.ExtTreeMap.mem_iff_isSome_getElem?]
  by_cases gone : settings.removeVanished = true ∧ predates settings (MessageRecord.ofDownload
      message (answers.octets settings message) (Pass.extent settings message).2).date = true
  · rw [second.removed message member _ known gone.1 (.inr gone.2)]
    simp [gone]
  · obtain ⟨flags, kept, _⟩ := second.kept message member _ known (by simpa [live] using gone)
    simp [kept, gone]

/-- A message that its header dates before the cutoff is downloaded and removed by turns. -/
theorem Reconciled.alternates {copies : Nat → Copy}
    (each : ∀ number, Reconciled settings numbering (answers.recent settings) answers.body
      (copies number) (copies (number + 1)))
    (member : message ∈ answers.recent settings) (live : message.isDeleted = false)
    (removes : settings.removeVanished = true)
    (old : oldByHeader settings message (answers.octets settings message) = true)
    (unknown : (surviving numbering (copies 0))[message.id]? = none) (number : Nat) :
    (surviving numbering (copies number))[message.id]? =
      if number % 2 = 0 then none
      else some (.ofDownload message (answers.octets settings message)
        (Pass.extent settings message).2) := by
  induction number with
  | zero => exact unknown
  | succ number ih =>
    by_cases even : number % 2 = 0
    · rw [if_pos even] at ih
      rw [if_neg (by omega)]
      exact (each number).downloaded member live ih
    · rw [if_neg even] at ih
      rw [if_pos (by omega), (each number).surviving_eq]
      have removed := ((each number).stays member live ih).not_left.2 ⟨removes, old⟩
      exact Std.ExtTreeMap.getElem?_eq_none removed

end Reconciled

namespace Pass

variable {σ ρ : Type} {sides : Sides σ ρ} {memory : σ → Memory} {answers : Answers}
  {numbering : Option UInt64} {folder : String} {settings : PassSettings} {store : σ}
  {server : ρ}

/-! ## Downloads that are told of -/

/-- Only a download is told of as a new message. -/
theorem new_of_told_work {listed : List Listed} {body : Listed → Octets} {copy : Copy}
    {id : String} {old : Bool}
    (told : .newMessage folder id old ∈ toldBy (Plan.work folder settings listed body copy)) :
    ∃ message ∈ newMessages (datesOf copy) listed, message.id = id := by
  obtain ⟨deed, did, told⟩ := List.mem_flatMap.1 told
  -- Updates tell of removals and flags, and what has vanished is told of as removed.
  obtain did | did := List.mem_append.1 did
  · obtain ⟨message, _, did⟩ := List.mem_flatMap.1 did
    obtain rfl | rfl | ⟨flags, rfl⟩ := Plan.mem_update did <;> simp at told
  obtain did | did := List.mem_append.1 did
  · obtain ⟨message, isNew, did⟩ := List.mem_flatMap.1 did
    obtain rfl := List.mem_singleton.1 did
    simp only [Plan.save, List.mem_singleton, Event.newMessage.injEq, true_and] at told
    exact ⟨message, isNew, told.1.symm⟩
  · rw [Plan.mem_clean did] at told
    simp [Plan.departure] at told

theorem new_of_told {copy : Copy} {id : String} {old : Bool}
    (told : .newMessage folder id old ∈ toldBy (planOf folder settings answers numbering copy)) :
    ∃ message ∈ newMessages (datesOf (Plan.renumbered numbering copy)) (answers.recent settings),
      message.id = id := by
  rw [planOf, toldBy_append, told_settle, List.nil_append] at told
  obtain told | told := List.mem_append.1 (toldBy_append [⟨.look, []⟩] _ ▸ told)
  · cases told
  obtain told | told := List.mem_append.1 (toldBy_append _ _ ▸ told)
  · exact new_of_told_work told
  · obtain ⟨deed, did, told⟩ := List.mem_flatMap.1 told
    obtain ⟨value, rfl⟩ := mem_raise did
    cases told

/-- What a run tells of as new is listed and not marked for removal, and was not known. -/
theorem new_of_announced (inMemory : InMemory sides.store memory)
    (steady : Steady sides.server folder answers numbering server)
    (distinct : ((answers.inWindow settings).map Listed.uid).Nodup)
    (unfailed : ∀ event ∈ events (run sides folder settings store server),
      event.isFailure = false) {id : String} {old : Bool}
    (told : .newMessage folder id old ∈ events (run sides folder settings store server)) :
    ∃ message ∈ answers.recent settings, message.id = id ∧ message.isDeleted = false ∧
      (surviving numbering ((memory store).copy folder))[message.id]? = none := by
  obtain ⟨made, opened, _, _, went, _, all⟩ := run_steady inMemory steady distinct store
  -- A run that does not fail does its whole plan, so it tells what the plan tells.
  obtain rfl := went.completed unfailed
  obtain rfl := all rfl
  have dealt : .newMessage folder id old ∈
      toldBy (planOf folder settings answers numbering ((memory store).copy folder)) := by
    rw [went.events] at told
    cases opened <;> simp [failureOf] at told <;> exact told
  obtain ⟨message, isNew, same⟩ := new_of_told dealt
  obtain ⟨member, unknown, live⟩ := Plan.mem_newMessages.1 isNew
  rw [renumbered_messages] at unknown
  exact ⟨message, member, same, live, unknown⟩

/-! ## One pass after another -/

/-- A message that a pass downloads is there after the next pass, over a server that says the same
and with the same settings, unless the passes remove what has vanished, the listing does not date
the message, and its header dates it before the cutoff. -/
theorem stays_iff (inMemory : InMemory sides.store memory)
    (steady : Steady sides.server folder answers numbering server)
    {later : ρ} (still : Steady sides.server folder answers numbering later)
    (distinct : ((answers.inWindow settings).map Listed.uid).Nodup)
    (unfailed : ∀ event ∈ events (run sides folder settings store server),
      event.isFailure = false)
    (unfailedNext : ∀ event ∈ events (run sides folder settings
      (run sides folder settings store server).store later), event.isFailure = false)
    {id : String} {old : Bool}
    (told : .newMessage folder id old ∈ events (run sides folder settings store server)) :
    ∃ message ∈ answers.recent settings, message.id = id ∧
      (id ∈ ((memory (run sides folder settings
          (run sides folder settings store server).store later).store).copy folder).messages ↔
        ¬(settings.removeVanished = true ∧
          oldByHeader settings message (answers.octets settings message) = true)) := by
  obtain ⟨message, member, rfl, live, unknown⟩ :=
    new_of_announced inMemory steady distinct unfailed told
  have first := @planOf_reconciles settings answers numbering folder distinct
    ((memory store).copy folder)
  rw [← run_completed inMemory steady distinct unfailed] at first
  have second := @planOf_reconciles settings answers numbering folder distinct
    ((memory (run sides folder settings store server).store).copy folder)
  rw [← run_completed inMemory still distinct unfailedNext] at second
  exact ⟨message, member, rfl, second.stays member live (first.downloaded member live unknown)⟩

/-- A mailbox with a message of 3 January 2022, by its header alone. -/
def undatedPosted : Mailbox :=
  Mailbox.empty.put ⟨⟨1, ∅, none, some 40⟩,
    Text.encode "Date: Mon, 3 Jan 2022 12:00:00 +0000\r\n\r\n"⟩

/-- Messages since 5 January 2022 are kept. -/
def sinceWednesday : PassSettings :=
  { PassSettings.usual with cutoff := some ⟨⟨1641340800, 0⟩, 0⟩ }

/-- The message is told of as new, and the next pass removes it. -/
theorem stays_iff_undated :
    let sides : Sides Memory Mailbox := ⟨Memory.handler, Mailbox.server⟩
    let once := run sides "INBOX" sinceWednesday .empty undatedPosted
    let twice := run sides "INBOX" sinceWednesday once.store undatedPosted
    (∀ event ∈ events once, event.isFailure = false) ∧
      (∀ event ∈ events twice, event.isFailure = false) ∧
      .newMessage "INBOX" "1" false ∈ events once ∧
      "1" ∉ (twice.store.copy "INBOX").messages := by
  intro sides once twice
  have unfailed : ∀ event ∈ events once, event.isFailure = false := by
    decide +kernel
  have unfailedNext : ∀ event ∈ events twice, event.isFailure = false := by
    decide +kernel
  have told : .newMessage "INBOX" "1" false ∈ events once := by
    decide +kernel
  have steady := undatedPosted.steady_server "INBOX"
  obtain ⟨message, member, _, stays⟩ := stays_iff Memory.inMemory_handler steady steady
    (by decide +kernel) unfailed unfailedNext told
  have old : ∀ message ∈ undatedPosted.answers.recent sinceWednesday,
      oldByHeader sinceWednesday message
        (undatedPosted.answers.octets sinceWednesday message) = true := by
    decide +kernel
  exact ⟨unfailed, unfailedNext, told, fun there => stays.1 there ⟨rfl, old message member⟩⟩

/-- Both sides after some passes, one after another. -/
def passes (sides : Sides σ ρ) (folder : String) (settings : PassSettings) (start : σ × ρ) :
    Nat → σ × ρ
  | 0 => start
  | number + 1 =>
    let (store, server) := passes sides folder settings start number
    let ended := run sides folder settings store server
    (ended.store, ended.server)

/-- A message that its header dates before the cutoff is there after every other pass. -/
theorem held_iff_even (inMemory : InMemory sides.store memory)
    (steady : ∀ number, Steady sides.server folder answers numbering
      (passes sides folder settings (store, server) number).2)
    (distinct : ((answers.inWindow settings).map Listed.uid).Nodup)
    (unfailed : ∀ number, ∀ event ∈ events (run sides folder settings
      (passes sides folder settings (store, server) number).1
      (passes sides folder settings (store, server) number).2), event.isFailure = false)
    {message : Listed} (member : message ∈ answers.recent settings)
    (live : message.isDeleted = false) (removes : settings.removeVanished = true)
    (old : oldByHeader settings message (answers.octets settings message) = true)
    (unknown : (surviving numbering ((memory store).copy folder))[message.id]? = none)
    (number : Nat) :
    message.id ∈ ((memory (passes sides folder settings (store, server)
        (number + 1)).1).copy folder).messages ↔ number % 2 = 0 := by
  let copies (number : Nat) : Copy :=
    (memory (passes sides folder settings (store, server) number).1).copy folder
  have each (number : Nat) : Reconciled settings numbering (answers.recent settings)
      answers.body (copies number) (copies (number + 1)) := by
    have left : copies (number + 1) = replay (copies number)
        (planOf folder settings answers numbering (copies number)) :=
      run_completed inMemory (steady number) distinct (unfailed number)
    exact left ▸ planOf_reconciles folder distinct (copies number)
  have alternates := Reconciled.alternates each member live removes old unknown (number + 1)
  rw [(each number).surviving_eq] at alternates
  rw [Std.ExtTreeMap.mem_iff_isSome_getElem?, alternates]
  by_cases even : number % 2 = 0
  · rw [if_neg (by omega)]
    simp [even]
  · rw [if_pos (by omega)]
    simp [even]

end Pass

end MailReplica.Reconcile
