import MailReplica.Json.Reader
import MailReplica.Message
import Std.Data.ExtTreeMap

/-! # Calls on a local store

A local store keeps folders of messages and some numbers for each folder.  A call on it has a result
whose type the call decides; a call may also fail.
-/

namespace MailReplica.Store

inductive Call : Type → Type where
  /-- Makes folders known; a folder that is known stays as it is. -/
  | createFolders (folders : List FolderInfo) : Call Unit
  /-- The names of all messages in a folder. -/
  | ids (folder : String) : Call (Std.ExtTreeSet String)
  /-- The names of all messages in a folder with their dates. -/
  | dates (folder : String) : Call (Std.ExtTreeMap String (Option Instant))
  | message (folder id : String) : Call (Option MessageRecord)
  | flags (folder id : String) : Call (Option FlagSet)
  /-- Keeps a message, in place of one of the same name. -/
  | save (folder : String) (record : MessageRecord) : Call Unit
  /-- Sets the flags of those messages that exist. -/
  | setFlags (folder : String) (ids : List String) (flags : FlagSet) : Call Unit
  | remove (folder : String) (ids : List String) : Call Unit
  | removeAll (folder : String) : Call Unit
  | number (folder key : String) : Call (Option Int64)
  | setNumber (folder key : String) (value : Int64) : Call Unit

/-- Why a call on a local store failed. -/
inductive Failure where
  /-- The stored flags of a message cannot be read together with the message. -/
  | corruptFlags (folder id : String)
  /-- Stored flags cannot be read. -/
  | unreadableFlags (problem : Json.Problem)
  | refused (message : String)
  deriving DecidableEq

/-- The text that tells a person about a failure. -/
def Failure.text : Failure → String
  | corruptFlags folder id => "Corrupt flags for message " ++ id ++ " in " ++ folder
  | unreadableFlags .ended => "EOF while parsing a value"
  | unreadableFlags .malformed => "expected value"
  | unreadableFlags .mismatched => "invalid type"
  | refused message => message

/-- A way to answer calls from a state of type `σ`. -/
structure Handler (σ : Type) where
  run : {α : Type} → Call α → σ → Except Failure α × σ

/-- Work on a local store with a state of type `σ`. -/
abbrev Work (σ : Type) := ExceptT Failure (StateM σ)

def Handler.call {σ α : Type} (store : Handler σ) (call : Call α) : Work σ α :=
  fun state => store.run call state

end MailReplica.Store
