import MailReplica.Store.Call

/-! # The store in memory

A folder comes into being when it is first written to.  No call fails.
-/

namespace MailReplica.Store

structure MemoryFolder where
  name : String
  messages : Std.ExtTreeMap String MessageRecord
  numbers : Std.ExtTreeMap String Int64

/-- The folders in memory, by their ids. -/
structure Memory where
  folders : Std.ExtTreeMap String MemoryFolder

namespace MemoryFolder

def empty (name : String) : MemoryFolder :=
  ⟨name, ∅, ∅⟩

/-- The folder with the flags of a message set, if it holds the message. -/
def setFlags (flags : FlagSet) (folder : MemoryFolder) (id : String) : MemoryFolder :=
  { folder with messages := folder.messages.modify id fun record => { record with flags } }

def remove (folder : MemoryFolder) (id : String) : MemoryFolder :=
  { folder with messages := folder.messages.erase id }

end MemoryFolder

namespace Memory

def empty : Memory :=
  ⟨∅⟩

def messages (store : Memory) (folder : String) : Std.ExtTreeMap String MessageRecord :=
  ((store.folders.get? folder).map MemoryFolder.messages).getD ∅

def number (store : Memory) (folder key : String) : Option Int64 :=
  (store.folders.get? folder).bind (·.numbers.get? key)

/-- The names of the folders, in order. -/
def folderNames (store : Memory) : List String :=
  (store.folders.toList.map (·.2.name)).mergeSort (fun left right => decide (left ≤ right))

/-- Makes a folder known unless it is. -/
def create (store : Memory) (info : FolderInfo) : Memory :=
  ⟨store.folders.insertIfNew info.id (.empty info.name)⟩

/-- Changes a folder, which comes into being if it does not exist. -/
def write (store : Memory) (folder : String) (change : MemoryFolder → MemoryFolder) : Memory :=
  ⟨store.folders.alter folder fun found => some (change (found.getD (.empty folder)))⟩

def update (store : Memory) (folder : String) (change : MemoryFolder → MemoryFolder) : Memory :=
  ⟨store.folders.modify folder change⟩

def answer {α : Type} (call : Call α) (store : Memory) : α × Memory :=
  match call with
  | .createFolders folders => ((), folders.foldl create store)
  | .ids folder => (Std.ExtTreeSet.ofList (store.messages folder).keys, store)
  | .dates folder => ((store.messages folder).map fun _ record => record.date, store)
  | .message folder id => ((store.messages folder).get? id, store)
  | .flags folder id => (((store.messages folder).get? id).map MessageRecord.flags, store)
  | .save folder record =>
    ((), store.write folder fun found =>
      { found with messages := found.messages.insert record.id record })
  | .setFlags folder ids flags =>
    ((), store.update folder fun found => ids.foldl (MemoryFolder.setFlags flags) found)
  | .remove folder ids => ((), store.update folder fun found => ids.foldl MemoryFolder.remove found)
  | .removeAll folder => ((), store.update folder fun found => { found with messages := ∅ })
  | .number folder key => (store.number folder key, store)
  | .setNumber folder key value =>
    ((), store.write folder fun found => { found with numbers := found.numbers.insert key value })

def handler : Handler Memory where
  run call store := ((.ok (answer call store).1), (answer call store).2)

end Memory

end MailReplica.Store
