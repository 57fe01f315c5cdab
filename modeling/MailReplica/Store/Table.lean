import MailReplica.Flag.Stored
import MailReplica.Store.Call

/-! # The store in tables

Three tables hold the names of folders, the messages by folder and id, and the numbers by folder and
key.  Flags are kept as text, dates in whole seconds.
-/

namespace MailReplica.Store

/-- A row of the table of messages. -/
structure MessageRow where
  /-- The stored text of the flags. -/
  flags : String
  /-- The stored text of the download state. -/
  state : String
  /-- Seconds since the start of 1970. -/
  date : Option Int
  size : Option UInt32
  subject : String
  sender : String
  body : Option Octets
  deriving DecidableEq

structure Tables where
  folders : Std.ExtTreeMap String String
  messages : Std.ExtTreeMap String (Std.ExtTreeMap String MessageRow)
  numbers : Std.ExtTreeMap String (Std.ExtTreeMap String Int64)

namespace MessageRow

def ofRecord (record : MessageRecord) : MessageRow where
  flags := record.flags.stored
  state := record.state.text
  date := record.date.map Instant.seconds
  size := record.size
  subject := record.subject
  sender := record.sender
  body := record.body

def instant? (row : MessageRow) : Option Instant :=
  row.date.map fun seconds => ⟨seconds, 0⟩

def record (row : MessageRow) (folder id : String) : Except Failure MessageRecord := do
  let flags ← (FlagSet.ofStored row.flags).mapError fun _ => .corruptFlags folder id
  return { id, flags
           state := DownloadState.ofText row.state
           date := row.instant?
           size := row.size
           subject := row.subject
           sender := row.sender
           body := row.body }

end MessageRow

namespace Tables

def empty : Tables :=
  ⟨∅, ∅, ∅⟩

/-- The rows of the messages in a folder. -/
def rows (tables : Tables) (folder : String) : Std.ExtTreeMap String MessageRow :=
  (tables.messages.get? folder).getD ∅

def messageCount (tables : Tables) (folder : String) : Nat :=
  (tables.rows folder).size

/-- Makes a folder known unless it is. -/
def create (tables : Tables) (info : FolderInfo) : Tables :=
  { tables with folders := tables.folders.insertIfNew info.id info.name }

/-- Inserts a row, in place of one with the same key. -/
def insertRow (tables : Tables) (folder id : String) (row : MessageRow) : Tables :=
  { tables with
    messages := tables.messages.alter folder fun found => some ((found.getD ∅).insert id row) }

/-- Changes the row with a key if there is one. -/
def updateRow (tables : Tables) (folder id : String) (change : MessageRow → MessageRow) :
    Tables :=
  { tables with messages := tables.messages.modify folder fun found => found.modify id change }

def deleteRow (tables : Tables) (folder id : String) : Tables :=
  { tables with messages := tables.messages.modify folder fun found => found.erase id }

def answer {α : Type} (call : Call α) (tables : Tables) : Except Failure α × Tables :=
  match call with
  | .createFolders folders => (.ok (), folders.foldl create tables)
  | .ids folder => (.ok (Std.ExtTreeSet.ofList (tables.rows folder).keys), tables)
  | .dates folder => (.ok ((tables.rows folder).map fun _ row => row.instant?), tables)
  | .message folder id =>
    match (tables.rows folder).get? id with
    | none => (.ok none, tables)
    | some row => ((row.record folder id).map some, tables)
  | .flags folder id =>
    match (tables.rows folder).get? id with
    | none => (.ok none, tables)
    | some row => (((FlagSet.ofStored row.flags).mapError .unreadableFlags).map some, tables)
  | .save folder record => (.ok (), tables.insertRow folder record.id (.ofRecord record))
  | .setFlags folder ids flags =>
    (.ok (), ids.foldl (fun tables id =>
      tables.updateRow folder id fun row => { row with flags := flags.stored }) tables)
  | .remove folder ids => (.ok (), ids.foldl (fun tables id => tables.deleteRow folder id) tables)
  | .removeAll folder => (.ok (), { tables with messages := tables.messages.erase folder })
  | .number folder key => (.ok ((tables.numbers.get? folder).bind (·.get? key)), tables)
  | .setNumber folder key value =>
    (.ok (), { tables with
      numbers := tables.numbers.alter folder fun found => some ((found.getD ∅).insert key value) })

def handler : Handler Tables where
  run := answer

end Tables

end MailReplica.Store
