import MailReplica.Store.Call

/-! # The state of a folder between passes

Two numbers of a folder outlive a pass: the highest UID known and the validity of UIDs.  They are
64-bit numbers without a sign; a store keeps numbers with a sign, of the same bits.
-/

namespace MailReplica.Store

/-- What is kept of a folder between passes. -/
structure FolderState where
  highestUid : UInt64
  /-- The number that the server gave to its present numbering of messages. -/
  validity : Option UInt64
  deriving DecidableEq

namespace FolderState

/-- The key of the highest UID known. -/
def highestKey : String := "imapHighestKnownUid"

/-- The key of the validity of UIDs. -/
def validityKey : String := "imapUidValidity"

variable {σ : Type}

/-- Loads the state of a folder.  A stored highest UID below zero counts as zero. -/
def load (store : Handler σ) (folder : String) : Work σ FolderState := do
  let highest ← store.call (.number folder highestKey)
  let validity ← store.call (.number folder validityKey)
  return { highestUid := (highest.map fun value => (max value 0).toUInt64).getD 0
           validity := validity.map Int64.toUInt64 }

/-- Raises the highest UID known; a UID that is not higher changes nothing. -/
def raise (store : Handler σ) (folder : String) (state : FolderState) (uid : UInt64) :
    Work σ FolderState := do
  if state.highestUid < uid then
    store.call (.setNumber folder highestKey uid.toInt64)
    return { state with highestUid := uid }
  else return state

def startOver (store : Handler σ) (folder : String) (validity : UInt64) : Work σ FolderState := do
  store.call (.setNumber folder highestKey 0)
  store.call (.setNumber folder validityKey validity.toInt64)
  return ⟨0, some validity⟩

def recordValidity (store : Handler σ) (folder : String) (state : FolderState)
    (validity : UInt64) : Work σ FolderState := do
  store.call (.setNumber folder validityKey validity.toInt64)
  return { state with validity := some validity }

end FolderState

end MailReplica.Store
