import Std.Data.ExtTreeSet

/-! # The pushers of an account

An account has one pusher for each folder that is watched.  A new list of folders stops the pushers
of those that are no longer listed, and then starts pushers for those that are new in the list.
-/

namespace MailReplica.Push

/-- What is done to the pusher of a folder. -/
inductive Order where
  | stop (folder : String)
  | start (folder : String)
  deriving DecidableEq

structure Watchers where
  live : Std.ExtTreeSet String

namespace Watchers

def empty : Watchers :=
  ⟨∅⟩

/-- The folders that have a pusher, in order. -/
def folders (watchers : Watchers) : List String :=
  watchers.live.toList

/-- The folders that are no longer listed. -/
def leaving (watchers : Watchers) (listed : List String) : List String :=
  watchers.folders.filter fun folder => !listed.contains folder

/-- The folders that are new in a list, each once. -/
def entering (watchers : Watchers) (listed : List String) : List String :=
  (listed.filter fun folder => !watchers.live.contains folder).eraseDups

/-- Watches the folders of a list and no others. -/
def update (watchers : Watchers) (listed : List String) : List Order × Watchers :=
  ((watchers.leaving listed).map .stop ++ (watchers.entering listed).map .start,
    ⟨Std.ExtTreeSet.ofList listed⟩)

def stop (watchers : Watchers) : List Order × Watchers :=
  (watchers.folders.map .stop, empty)

end Watchers

end MailReplica.Push
