import MailReplica.Proofs.Pass.Target

/-! # What a plan does about messages

Once a pass has its listing, each deed of its plan is of one of five kinds, and each kind tells
exactly what it does to messages (`dealing_reconcile`).  The deeds before that settle the numbering
and are about no single message (`not_messageWork_settling`).
-/

namespace MailReplica.Reconcile

open Store (Act Copy FolderState)

/-- What a pass can do once it has its listing. -/
inductive Deed.IsDealing (folder : String) : Deed → Prop where
  | look : IsDealing folder ⟨.look, []⟩
  | save (record : MessageRecord) (old : Bool) :
    IsDealing folder ⟨.save record, [.newMessage folder record.id old]⟩
  | reflag (id : String) (flags : FlagSet) :
    IsDealing folder ⟨.setFlags [id] flags, [.flagsUpdated folder id]⟩
  | remove (ids : List String) : IsDealing folder ⟨.remove ids, ids.map (.removed folder)⟩
  | raise (value : Int64) : IsDealing folder ⟨.setNumber FolderState.highestKey value, []⟩

section

variable {folder : String} {settings : PassSettings} {listed : List Listed} {copy : Copy}
  {deed : Deed}

theorem dealing_update {message : Listed} {record? : Option MessageRecord}
    (did : deed ∈ Plan.update folder settings message record?) : deed.IsDealing folder := by
  obtain rfl | rfl | ⟨flags, rfl⟩ := Plan.mem_update did
  · exact .remove [message.id]
  · exact .look
  · exact .reflag message.id flags

theorem dealing_updates (did : deed ∈ Plan.updates folder settings listed copy) :
    deed.IsDealing folder := by
  induction listed generalizing copy with
  | nil => cases did
  | cons message rest ih => exact (List.mem_append.1 did).elim dealing_update ih

theorem dealing_save (state : FolderState) (message : Listed) (raw : Octets) :
    (Plan.save folder settings state message raw).IsDealing folder :=
  .save (.ofDownload message raw (Pass.extent settings message).2) _

theorem dealing_saves {state : FolderState} {bodies : List Octets}
    (did : deed ∈ Plan.saves folder settings state listed bodies) : deed.IsDealing folder := by
  induction listed generalizing bodies with
  | nil => cases did
  | cons message rest ih =>
    cases bodies with
    | nil => cases did
    | cons body bodies =>
      obtain rfl | did := List.mem_cons.1 did
      · exact dealing_save state message body
      · exact ih did

theorem dealing_clean (did : deed ∈ Plan.clean folder settings listed (datesOf copy)) :
    deed.IsDealing folder := by
  rw [Plan.mem_clean did]
  exact .remove _

theorem dealing_raise {state : FolderState} (did : deed ∈ Plan.raise state listed) :
    deed.IsDealing folder := by
  obtain ⟨value, rfl⟩ := mem_raise did
  exact .raise value

theorem dealing_reconcile {bodies : List Octets}
    (did : deed ∈ Plan.reconcile folder settings listed bodies copy) : deed.IsDealing folder := by
  obtain did | did := List.mem_append.1 did
  · exact dealing_updates did
  obtain did | did := List.mem_append.1 did
  · exact dealing_saves did
  exact (List.mem_append.1 did).elim dealing_clean dealing_raise

theorem dealing_work {body : Listed → Octets}
    (did : deed ∈ Plan.work folder settings listed body copy) : deed.IsDealing folder := by
  obtain did | did := List.mem_append.1 did
  · obtain ⟨message, _, did⟩ := List.mem_flatMap.1 did
    exact dealing_update did
  obtain did | did := List.mem_append.1 did
  · obtain ⟨message, _, did⟩ := List.mem_flatMap.1 did
    rw [List.mem_singleton.1 did]
    exact dealing_save copy.state message (body message)
  · exact dealing_clean did

/-- Nothing that settles the numbering is about single messages. -/
theorem not_messageWork_settling {reported : Option UInt64} {deeds : List Deed}
    (begins : deeds <+: Plan.settle reported copy) (did : deed ∈ deeds) :
    deed.act.isMessageWork = false := by
  have settling := begins.subset did
  simp only [Plan.settle, Plan.load, Plan.renumber] at settling
  grind [Act.isMessageWork]

end

end MailReplica.Reconcile
