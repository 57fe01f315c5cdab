import MailReplica.Download
import MailReplica.Reconcile.Event
import MailReplica.Reconcile.Server
import MailReplica.Reconcile.Window
import MailReplica.Store.FolderState

/-! # A pass over a folder

A pass brings the local copy of a folder in line with the server.  It compares a listing of the
latest messages with what the local store knew when the listing arrived, first updates or removes
the messages that both know, then downloads the new ones from the lowest UID on, and last removes
what has vanished.  The first call that fails ends the pass.
-/

namespace MailReplica.Reconcile

/-- A step of a pass that can fail. -/
inductive Step where
  | prepare
  | getFolder
  | openFolder
  | getCount
  | checkCount
  | loadState
  | clear
  | resetState
  | storeValidity
  | list (first last : UInt32)
  | readLocal
  | removeDeleted (id : String)
  | readFlags (id : String)
  | updateFlags (id : String)
  | download (id : String)
  | save (id : String)
  | removeVanished (count : Nat)
  | storeHighest
  | expunge
  deriving DecidableEq

/-- The text that names a step of a pass over `folder`. -/
def Step.text (folder : String) : Step → String
  | prepare => "Preparing local folder " ++ folder
  | getFolder => "Getting remote folder " ++ folder
  | openFolder => "Opening remote folder " ++ folder
  | getCount => "Getting message count of " ++ folder
  | checkCount => "Checking message count"
  | loadState => "Loading sync state of " ++ folder
  | clear => "Clearing messages of " ++ folder
  | resetState => "Resetting sync state of " ++ folder
  | storeValidity => "Storing UIDVALIDITY of " ++ folder
  | list first last =>
    "Listing messages " ++ Nat.repr first.toNat ++ ":" ++ Nat.repr last.toNat ++ " of " ++ folder
  | readLocal => "Reading local messages of " ++ folder
  | removeDeleted id => "Removing deleted message " ++ id ++ " from " ++ folder
  | readFlags id => "Reading flags of " ++ id ++ " in " ++ folder
  | updateFlags id => "Updating flags of " ++ id ++ " in " ++ folder
  | download id => "Downloading message " ++ id ++ " of " ++ folder
  | save id => "Saving message " ++ id ++ " of " ++ folder
  | removeVanished count => "Removing " ++ Nat.repr count ++ " message(s) from " ++ folder
  | storeHighest => "Storing highest known UID of " ++ folder
  | expunge => "Expunging " ++ folder

structure Halt where
  step : Step
  failure : Failure
  deriving DecidableEq

/-- The text that tells a person why a pass over `folder` ended early. -/
def Halt.text (halt : Halt) (folder : String) : String :=
  halt.step.text folder ++ ": " ++ halt.failure.text

/-- The two sides that a pass works between. -/
structure Sides (σ ρ : Type) where
  store : Store.Handler σ
  server : Server ρ

structure Progress (σ ρ : Type) where
  store : σ
  server : ρ
  /-- The events, latest first. -/
  told : List Event

abbrev Pass (σ ρ : Type) := ExceptT Halt (StateM (Progress σ ρ))

namespace Pass

variable {σ ρ α : Type}

/-! ## Single steps -/

def keep (step : Step) (work : Store.Work σ α) : Pass σ ρ α := fun progress =>
  match work progress.store with
  | (.ok value, store) => (.ok value, { progress with store })
  | (.error failure, store) => (.error ⟨step, .storage failure.text⟩, { progress with store })

def ask (sides : Sides σ ρ) (step : Step) (call : ServerCall α) : Pass σ ρ α := fun progress =>
  match sides.server.run call progress.server with
  | (.ok value, server) => (.ok value, { progress with server })
  | (.error failure, server) => (.error ⟨step, failure⟩, { progress with server })

def tell (event : Event) : Pass σ ρ Unit :=
  modify fun progress => { progress with told := event :: progress.told }

/-! ## Parts -/

/-- Compares the numbering of messages with the one known.  Where it changed, nothing that was kept
means anything any more. -/
def checkValidity (sides : Sides σ ρ) (folder : String) (state : Store.FolderState) :
    Pass σ ρ Store.FolderState := do
  match sides.server.validity (← get).server, state.validity with
  | none, _ => return state
  | some validity, none =>
    keep .storeValidity (state.recordValidity sides.store folder validity)
  | some validity, some known =>
    if known = validity then return state
    else
      -- The new number is stored last, so a reset that fails is done again as a whole.
      keep .clear (sides.store.call (.removeAll folder))
      keep .resetState (Store.FolderState.startOver sides.store folder validity)

/-- Whether a listed message is recent enough to be kept. -/
def isRecent (settings : PassSettings) (listed : Listed) : Bool :=
  match settings.cutoff, listed.date with
  | some cutoff, some date => !date.instant.before cutoff.instant
  | _, _ => true

/-- The latest messages that are recent enough. -/
def listing (sides : Sides σ ρ) (settings : PassSettings) (count : Int) :
    Pass σ ρ (List Listed) := do
  let counted := UInt32.ofNat (min count.toNat (UInt32.size - 1))
  match window counted settings.visibleLimit with
  | none => return []
  | some (first, last) =>
    -- The server compares days, so it can list what came before the cutoff on its day.
    let listed ← ask sides (.list first last) (.list first last settings.cutoff)
    return listed.filter (isRecent settings)

/-- Brings a message that the local store knew in line with its listing. -/
def updateKnown (sides : Sides σ ρ) (folder : String) (settings : PassSettings)
    (listed : Listed) : Pass σ ρ Unit := do
  let id := listed.id
  if listed.isDeleted && settings.removeVanished then
    keep (.removeDeleted id) (sides.store.call (.remove folder [id]))
    tell (.removed folder id)
  else
    let flags := (← keep (.readFlags id) (sides.store.call (.flags folder id))).getD ∅
    let tracked := settings.trackedFlags
    unless flags.restrict tracked = listed.flags.restrict tracked do
      keep (.updateFlags id)
        (sides.store.call (.setFlags folder [id] (flags.replaceTracked listed.flags tracked)))
      tell (.flagsUpdated folder id)

/-- How much of a message to download, and what is then kept of it. -/
def extent (settings : PassSettings) (listed : Listed) : FetchExtent × DownloadState :=
  if listed.size.all (· ≤ settings.largestDownload) then (.full, .full)
  else (.header, .envelope)

/-- Downloads a message that the local store did not know. -/
def download (sides : Sides σ ρ) (folder : String) (settings : PassSettings)
    (state : Store.FolderState) (listed : Listed) : Pass σ ρ Unit := do
  let id := listed.id
  let (extent, kept) := extent settings listed
  let raw ← ask sides (.download id) (.fetch listed.uid extent)
  keep (.save id) (sides.store.call (.save folder (.ofDownload listed raw kept)))
  tell (.newMessage folder id (listed.uid.toUInt64 ≤ state.highestUid))

/-- Whether a message of the local store is gone: it is too old, or no listing names it. -/
def isGone (settings : PassSettings) (listedIds : List String) (id : String)
    (date : Option Instant) : Bool :=
  let tooOld :=
    match settings.cutoff, date with
    | some cutoff, some date => date.before cutoff.instant
    | _, _ => false
  tooOld || !listedIds.contains id

/-- The UID that a message's name in the local store stands for.  The names of messages that come
from elsewhere stand for the highest number. -/
def uidOf (id : String) : Nat :=
  let digits :=
    match id.toList with
    | '+' :: digits => digits
    | digits => digits
  let value := digits.foldl (fun value digit => value * 10 + (digit.toNat - '0'.toNat)) 0
  if digits.isEmpty || !digits.all Char.isDigit then UInt64.size - 1
  else min value (UInt64.size - 1)

/-- The messages of the local store that are gone, from the lowest UID on.  Names that stand for the
same number may go in any order, since the names that the store gives have none; here they go in the
order of their texts. -/
def vanished (settings : PassSettings) (listedIds : List String)
    (known : Std.ExtTreeMap String (Option Instant)) : List String :=
  ((known.toList.filter fun (id, date) => isGone settings listedIds id date).map
    Prod.fst).mergeSort (fun left right => decide (uidOf left ≤ uidOf right))

def removeVanished (sides : Sides σ ρ) (folder : String) (settings : PassSettings)
    (listedIds : List String) (known : Std.ExtTreeMap String (Option Instant)) :
    Pass σ ρ Unit := do
  let ids := vanished settings listedIds known
  unless ids.isEmpty do
    keep (.removeVanished ids.length) (sides.store.call (.remove folder ids))
    ids.forM fun id => tell (.removed folder id)

/-- Whether a listed message is to be downloaded. -/
def isNew (known : Std.ExtTreeMap String (Option Instant)) (listed : Listed) : Bool :=
  !known.contains listed.id && !listed.isDeleted

/-- The listed messages that are to be downloaded, from the lowest UID on. -/
def newMessages (known : Std.ExtTreeMap String (Option Instant)) (listed : List Listed) :
    List Listed :=
  (listed.filter (isNew known)).mergeSort (fun left right => decide (left.uid ≤ right.uid))

def highestListed? (listed : List Listed) : Option UInt32 :=
  (listed.map Listed.uid).max?

/-! ## The whole -/

/-- Gets hold of the folder on both sides. -/
def prepare (sides : Sides σ ρ) (folder : String) : Pass σ ρ Unit := do
  keep .prepare (sides.store.call (.createFolders [⟨folder, folder⟩]))
  ask sides .getFolder (.folder folder)

/-- Opens the folder on the server and asks how many messages it holds. -/
def openAndCount (sides : Sides σ ρ) (folder : String) : Pass σ ρ Int := do
  ask sides .openFolder (.openFolder .readOnly)
  tell .authenticated
  let count ← ask sides .getCount .count
  if count < 0 then
    throw ⟨.checkCount, .sync ("Message count " ++ count.repr ++ " for folder " ++ folder)⟩
  else return count

/-- Takes note of the highest UID of a listing. -/
def raiseHighest (sides : Sides σ ρ) (folder : String) (state : Store.FolderState)
    (listed : List Listed) : Pass σ ρ Unit := do
  match highestListed? listed with
  | none => pure ()
  | some uid =>
    let _ ← keep .storeHighest (state.raise sides.store folder uid.toUInt64)

/-- Brings what the local store knew in line with a listing. -/
def reconcile (sides : Sides σ ρ) (folder : String) (settings : PassSettings)
    (state : Store.FolderState) (listed : List Listed)
    (known : Std.ExtTreeMap String (Option Instant)) : Pass σ ρ Unit := do
  (listed.filter fun message => known.contains message.id).forM
    (updateKnown sides folder settings)
  (newMessages known listed).forM (download sides folder settings state)
  if settings.removeVanished then
    removeVanished sides folder settings (listed.map Listed.id) known
  raiseHighest sides folder state listed

/-- Brings the local copy in line with a folder that holds `count` messages and is open. -/
def replicate (sides : Sides σ ρ) (folder : String) (settings : PassSettings) (count : Int) :
    Pass σ ρ Unit := do
  let state ← keep .loadState (Store.FolderState.load sides.store folder)
  let state ← checkValidity sides folder state
  let listed ← listing sides settings count
  -- What follows looks at this snapshot, also where it has changed the store by then.
  let known ← keep .readLocal (sides.store.call (.dates folder))
  reconcile sides folder settings state listed known
  if settings.expungePolicy = .onPoll then
    ask sides .expunge .expunge

/-- Brings the local copy in line, once the folder is at hand on both sides. -/
def align (sides : Sides σ ρ) (folder : String) (settings : PassSettings) : Pass σ ρ Unit := do
  replicate sides folder settings (← openAndCount sides folder)

/-- Takes note of how a part of the pass ended. -/
def settle (folder : String) (result : Except Halt Unit) (progress : Progress σ ρ) :
    Progress σ ρ :=
  match result with
  | .ok () => progress
  | .error halt =>
    { progress with told := .failed folder (halt.text folder) halt.failure :: progress.told }

/-- Runs a pass over a folder.  A folder that the pass got hold of is let go in any case. -/
def run (sides : Sides σ ρ) (folder : String) (settings : PassSettings) (store : σ) (server : ρ) :
    Progress σ ρ :=
  let begun : Progress σ ρ := ⟨store, server, [.started folder]⟩
  let ended :=
    match prepare sides folder begun with
    | (.error halt, progress) => settle folder (.error halt) progress
    | (.ok (), progress) =>
      let (result, progress) := align sides folder settings progress
      let progress := settle folder result progress
      { progress with server := sides.server.close progress.server }
  { ended with told := .finished folder :: ended.told }

/-- The events of a pass, in order. -/
def events (progress : Progress σ ρ) : List Event :=
  progress.told.reverse

end Pass

end MailReplica.Reconcile
