import MailReplica.Store.FolderState
import MailReplica.Store.Memory
import MailReplica.Store.Table

/-! # A local store that fails on command

A rehearsal runs on a store of either kind.  Faults name the calls that fail; a failing call does
not reach the store.
-/

namespace MailReplica.Rehearsal

open Store

/-- The name of a call on a local store. -/
def callName {α : Type} : Call α → String
  | .createFolders _ => "create_folders"
  | .ids _ => "get_message_server_ids"
  | .dates _ => "get_all_messages_and_dates"
  | .message _ _ => "get_message"
  | .flags _ _ => "get_message_flags"
  | .save _ _ => "save_message"
  | .setFlags _ _ _ => "set_message_flags"
  | .remove _ _ => "remove_messages"
  | .removeAll _ => "remove_all_messages"
  | .number _ _ => "get_folder_extra_number"
  | .setNumber _ _ _ => "set_folder_extra_number"

/-- What a call is about, for those that are about messages or a number. -/
def callSubject? {α : Type} : Call α → Option String
  | .message _ id | .flags _ id => some id
  | .save _ record => some record.id
  | .setFlags _ ids _ | .remove _ ids => some (String.intercalate "," ids)
  | .number _ key | .setNumber _ key _ => some key
  | _ => none

inductive StoreKind where
  | memory (store : Memory)
  | tables (tables : Tables)

/-- A store with the faults that it has. -/
structure LocalStore where
  kind : StoreKind
  /-- Failing calls, by name or by name and subject, with the text of the failure. -/
  faults : List (String × String)

namespace LocalStore

/-- The text of the failure of a call that has a fault.  A fault of the name alone comes first. -/
def fault? {α : Type} (store : LocalStore) (call : Call α) : Option String :=
  let name := callName call
  match store.faults.lookup name, callSubject? call with
  | some message, _ => some message
  | none, some subject => store.faults.lookup (name ++ ":" ++ subject)
  | none, none => none

def handler : Handler LocalStore where
  run call store :=
    match store.fault? call with
    | some message => (.error (.refused message), store)
    | none =>
      match store.kind with
      | .memory memory =>
        let (result, memory) := memory.answer call
        (.ok result, { store with kind := .memory memory })
      | .tables tables =>
        let (result, tables) := tables.answer call
        (result, { store with kind := .tables tables })

/-- Changes a stored row, if the store has tables. -/
def editRow (store : LocalStore) (folder id : String) (change : MessageRow → MessageRow) :
    LocalStore :=
  match store.kind with
  | .memory _ => store
  | .tables tables => { store with kind := .tables (tables.updateRow folder id change) }

/-- Everything that a store holds of a folder. -/
structure Dump where
  messages : List MessageRecord
  highest : Option Int64
  validity : Option Int64

/-- Reads everything that a store holds of a folder. -/
def dump (folder : String) : Work LocalStore Dump := do
  let ids ← handler.call (.ids folder)
  let records ← ids.toList.mapM fun id => handler.call (.message folder id)
  let highest ← handler.call (.number folder FolderState.highestKey)
  let validity ← handler.call (.number folder FolderState.validityKey)
  return ⟨records.filterMap fun record => record, highest, validity⟩

end LocalStore

inductive StateChange where
  | raise (uid : UInt64)
  | startOver (validity : UInt64)
  | record (validity : UInt64)

/-- The state of a folder before and after each of some changes. -/
def stateHistory {σ : Type} (store : Handler σ) (folder : String) (changes : List StateChange) :
    Work σ (List FolderState) := do
  let mut state ← FolderState.load store folder
  let mut history := [state]
  for change in changes do
    state ←
      match change with
      | .raise uid => state.raise store folder uid
      | .startOver validity => FolderState.startOver store folder validity
      | .record validity => state.recordValidity store folder validity
    history := state :: history
  return history.reverse

end MailReplica.Rehearsal
