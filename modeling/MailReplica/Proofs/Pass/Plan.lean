import MailReplica.Proofs.Store.Watch
import MailReplica.Reconcile.Pass

/-! # What a pass is about to do

Between two failures a pass is a list of *deeds*: calls on its folder in the local store, each with
the events that are told once the call is answered.  The list is settled by the copy that the pass
meets and by what the server tells it, so it can be written down before the pass runs.  That a pass
does the deeds of its plan in order, and that one that fails does the first so many of them, is shown
in `Proofs.Pass.Course`.
-/

namespace MailReplica.Reconcile

open Store (Act Copy FolderState)

/-- A call of a pass on its folder, and what the pass tells after it. -/
structure Deed where
  act : Act
  told : List Event
  deriving DecidableEq

def replay (copy : Copy) (deeds : List Deed) : Copy :=
  deeds.foldl (fun copy deed => deed.act.on copy) copy

def toldBy (deeds : List Deed) : List Event :=
  deeds.flatMap Deed.told

/-- The dates by which a pass knows the messages of a copy. -/
def datesOf (copy : Copy) : Std.ExtTreeMap String (Option Instant) :=
  copy.messages.map fun _ record => record.date

namespace Plan

def load : List Deed :=
  [⟨.readNumber FolderState.highestKey, []⟩, ⟨.readNumber FolderState.validityKey, []⟩]

/-- Compares the numbering that the server reported with the one known. -/
def renumber (reported : Option UInt64) (state : FolderState) : List Deed :=
  match reported, state.validity with
  | none, _ => []
  | some validity, none => [⟨.setNumber FolderState.validityKey validity.toInt64, []⟩]
  | some validity, some known =>
    if known = validity then []
    else
      [⟨.removeAll, []⟩, ⟨.setNumber FolderState.highestKey 0, []⟩,
        ⟨.setNumber FolderState.validityKey validity.toInt64, []⟩]

variable (folder : String) (settings : PassSettings)

/-- Copies the tracked flags of a listed message whose record has `flags`. -/
def reflag (listed : Listed) (flags : FlagSet) : List Deed :=
  if flags.restrict settings.trackedFlags = listed.flags.restrict settings.trackedFlags then []
  else
    [⟨.setFlags [listed.id] (flags.replaceTracked listed.flags settings.trackedFlags),
      [.flagsUpdated folder listed.id]⟩]

/-- Brings the record of a listed message in line with its listing. -/
def update (listed : Listed) (record? : Option MessageRecord) : List Deed :=
  if listed.isDeleted && settings.removeVanished then
    [⟨.remove [listed.id], [.removed folder listed.id]⟩]
  else
    ⟨.look, []⟩ :: reflag folder settings listed ((record?.map MessageRecord.flags).getD ∅)

def updates : List Listed → Copy → List Deed
  | [], _ => []
  | listed :: rest, copy =>
    let deeds := update folder settings listed copy.messages[listed.id]?
    deeds ++ updates rest (replay copy deeds)

def save (state : FolderState) (listed : Listed) (raw : Octets) : Deed :=
  ⟨.save (.ofDownload listed raw (Pass.extent settings listed).2),
    [.newMessage folder listed.id (listed.uid.toUInt64 ≤ state.highestUid)]⟩

def saves (state : FolderState) : List Listed → List Octets → List Deed :=
  List.zipWith (save folder settings state)

def removal (ids : List String) : List Deed :=
  if ids.isEmpty then [] else [⟨.remove ids, ids.map (.removed folder)⟩]

def raise (state : FolderState) (listed : List Listed) : List Deed :=
  match Pass.highestListed? listed with
  | none => []
  | some uid =>
    if state.highestUid < uid.toUInt64 then
      [⟨.setNumber FolderState.highestKey uid.toUInt64.toInt64, []⟩]
    else []

def clean (listed : List Listed) (known : Std.ExtTreeMap String (Option Instant)) : List Deed :=
  if settings.removeVanished then
    removal folder (Pass.vanished settings (listed.map Listed.id) known)
  else []

/-- Brings a copy whose numbering is settled in line with a listing; `bodies` are the octets of the
messages to be downloaded, in order. -/
def reconcile (listed : List Listed) (bodies : List Octets) (copy : Copy) : List Deed :=
  let known := datesOf copy
  updates folder settings (listed.filter fun message => known.contains message.id) copy ++
    (saves folder settings copy.state (Pass.newMessages known listed) bodies ++
      (clean folder settings listed known ++ raise copy.state listed))

def renumbered (reported : Option UInt64) (copy : Copy) : Copy :=
  replay copy (renumber reported copy.state)

/-- What a pass does before it lists messages. -/
def settle (reported : Option UInt64) (copy : Copy) : List Deed :=
  load ++ renumber reported copy.state

end Plan

end MailReplica.Reconcile
