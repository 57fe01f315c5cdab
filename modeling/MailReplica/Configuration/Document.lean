import MailReplica.Configuration.Basic
import MailReplica.Flag.Stored
import MailReplica.Json.Skip

/-! # The text of a configuration

A configuration is written with all its fields, in a fixed order, except that a missing password and
a missing database path are left out.  Reading fills in what is missing where a usual value exists.
-/

namespace MailReplica

open Json

/-! ## Writing -/

namespace Account

def layout (account : Account) : Layout :=
  .record <|
    [("name", .text account.name), ("email", .text account.email),
      ("imap_server", .text account.host), ("imap_port", .natural account.port.toNat),
      ("imap_security", .text account.security.name), ("imap_username", .text account.username)] ++
    (account.password.map fun password => ("imap_password", Layout.text password)).toList ++
    [("push_folders", .list (account.watchedFolders.map .text))]

end Account

namespace PassOptions

/-- The text of the options of passes. -/
def layout (options : PassOptions) : Layout :=
  .record
    [("expunge_policy", .text options.expungePolicy.name),
      ("earliest_poll_days", .optional (fun days => .natural days.toNat) options.daysKept),
      ("sync_remote_deletions", .truth options.removeVanished),
      ("maximum_auto_download_message_size", .natural options.largestDownload.toNat),
      ("default_visible_limit", .natural options.visibleLimit.toNat),
      ("sync_flags", .list (options.trackedFlags.map Flag.layout))]

end PassOptions

namespace WatchOptions

/-- The text of the options of waiting. -/
def layout (options : WatchOptions) : Layout :=
  .record
    [("enabled", .truth options.enabled),
      ("idle_refresh_minutes", .natural options.refreshMinutes.toNat)]

end WatchOptions

namespace Configuration

def layout (configuration : Configuration) : Layout :=
  .record <|
    [("accounts", .list (configuration.accounts.map Account.layout)),
      ("default_account", .natural configuration.defaultAccount.toNat),
      ("sync", configuration.pass.layout), ("push", configuration.watch.layout)] ++
    (configuration.databasePath.map fun path => ("database_path", Layout.text path)).toList

/-- The content of a file that holds a configuration. -/
def document (configuration : Configuration) : String :=
  configuration.layout.overLines

end Configuration

/-! ## Reading -/

/-- Reads one of several values by its name. -/
def namedReader {α : Type} (named : List (String × α)) : Reader α :=
  choice (fun name => (named.find? (·.1 == name)).map Prod.snd) (fun _ => none)

/-- Reads the next field of a record written as a list; it has to come. -/
def nextRequired {α : Type} (first : Bool) (read : Reader α) : Reader α := do
  required (← nextElement first read)

/-- Reads the next field of a record written as a list; `usual` stands for a missing one. -/
def nextOr {α : Type} (usual : α) (first : Bool) (read : Reader α) : Reader α := do
  return (← nextElement first read).getD usual

namespace Account

/-- What has been read of an account. -/
structure Draft where
  name : Option String
  email : Option String
  host : Option String
  port : Option UInt16
  security : Option Security
  username : Option String
  password : Option (Option String)
  watchedFolders : Option (List String)

namespace Draft

def empty : Draft :=
  ⟨none, none, none, none, none, none, none, none⟩

def member (draft : Draft) (field : String) : Reader Draft := do
  match field with
  | "name" => return { draft with name := ← once draft.name text }
  | "email" => return { draft with email := ← once draft.email text }
  | "imap_server" => return { draft with host := ← once draft.host text }
  | "imap_port" =>
    return { draft with port := ← once draft.port (UInt16.ofNat <$> natural UInt16.size) }
  | "imap_security" =>
    return { draft with security := ← once draft.security (namedReader Security.named) }
  | "imap_username" => return { draft with username := ← once draft.username text }
  | "imap_password" => return { draft with password := ← once draft.password (optional text) }
  | "push_folders" =>
    return { draft with watchedFolders := ← once draft.watchedFolders (list text) }
  | _ =>
    skipMember
    return draft

def finish (draft : Draft) : Reader Account := do
  return { name := ← required draft.name
           email := ← required draft.email
           host := ← required draft.host
           port := ← required draft.port
           security := ← required draft.security
           username := ← required draft.username
           password := draft.password.getD none
           watchedFolders := draft.watchedFolders.getD usualFolders }

end Draft

/-- Reads the fields of an account in their order. -/
def inOrder : Reader Account := do
  return { name := ← nextRequired true text
           email := ← nextRequired false text
           host := ← nextRequired false text
           port := ← nextRequired false (UInt16.ofNat <$> natural UInt16.size)
           security := ← nextRequired false (namedReader Security.named)
           username := ← nextRequired false text
           password := ← nextOr none false (optional text)
           watchedFolders := ← nextOr usualFolders false (list text) }

def reader : Reader Account :=
  record Draft.member .empty Draft.finish inOrder

end Account

namespace PassOptions

/-- What has been read of the options of passes. -/
structure Draft where
  expungePolicy : Option ExpungePolicy
  daysKept : Option (Option UInt32)
  removeVanished : Option Bool
  largestDownload : Option UInt32
  visibleLimit : Option UInt32
  trackedFlags : Option (List Flag)

def number : Reader UInt32 :=
  UInt32.ofNat <$> natural UInt32.size

namespace Draft

def empty : Draft :=
  ⟨none, none, none, none, none, none⟩

/-- Reads a member of the options of passes. -/
def member (draft : Draft) (field : String) : Reader Draft := do
  match field with
  | "expunge_policy" =>
    return { draft with
      expungePolicy := ← once draft.expungePolicy (namedReader ExpungePolicy.named) }
  | "earliest_poll_days" =>
    return { draft with daysKept := ← once draft.daysKept (optional number) }
  | "sync_remote_deletions" =>
    return { draft with removeVanished := ← once draft.removeVanished truth }
  | "maximum_auto_download_message_size" =>
    return { draft with largestDownload := ← once draft.largestDownload number }
  | "default_visible_limit" =>
    return { draft with visibleLimit := ← once draft.visibleLimit number }
  | "sync_flags" =>
    return { draft with trackedFlags := ← once draft.trackedFlags (list Flag.reader) }
  | _ =>
    skipMember
    return draft

def finish (draft : Draft) : Reader PassOptions :=
  return { expungePolicy := draft.expungePolicy.getD usual.expungePolicy
           daysKept := draft.daysKept.getD usual.daysKept
           removeVanished := draft.removeVanished.getD usual.removeVanished
           largestDownload := draft.largestDownload.getD usual.largestDownload
           visibleLimit := draft.visibleLimit.getD usual.visibleLimit
           trackedFlags := draft.trackedFlags.getD usual.trackedFlags }

end Draft

/-- Reads the options of passes in their order. -/
def inOrder : Reader PassOptions := do
  return { expungePolicy := ← nextOr usual.expungePolicy true (namedReader ExpungePolicy.named)
           daysKept := ← nextOr usual.daysKept false (optional number)
           removeVanished := ← nextOr usual.removeVanished false truth
           largestDownload := ← nextOr usual.largestDownload false number
           visibleLimit := ← nextOr usual.visibleLimit false number
           trackedFlags := ← nextOr usual.trackedFlags false (list Flag.reader) }

def reader : Reader PassOptions :=
  record Draft.member .empty Draft.finish inOrder

end PassOptions

namespace WatchOptions

/-- What has been read of the options of waiting. -/
structure Draft where
  enabled : Option Bool
  refreshMinutes : Option UInt64

namespace Draft

def empty : Draft :=
  ⟨none, none⟩

/-- Reads a member of the options of waiting. -/
def member (draft : Draft) (field : String) : Reader Draft := do
  match field with
  | "enabled" => return { draft with enabled := ← once draft.enabled truth }
  | "idle_refresh_minutes" =>
    return { draft with
      refreshMinutes := ← once draft.refreshMinutes (UInt64.ofNat <$> natural UInt64.size) }
  | _ =>
    skipMember
    return draft

def finish (draft : Draft) : Reader WatchOptions :=
  return { enabled := draft.enabled.getD usual.enabled
           refreshMinutes := draft.refreshMinutes.getD usual.refreshMinutes }

end Draft

/-- Reads the options of waiting in their order. -/
def inOrder : Reader WatchOptions := do
  return { enabled := ← nextOr usual.enabled true truth
           refreshMinutes :=
            ← nextOr usual.refreshMinutes false (UInt64.ofNat <$> natural UInt64.size) }

def reader : Reader WatchOptions :=
  record Draft.member .empty Draft.finish inOrder

end WatchOptions

namespace Configuration

/-- What has been read of a configuration. -/
structure Draft where
  accounts : Option (List Account)
  defaultAccount : Option UInt64
  pass : Option PassOptions
  watch : Option WatchOptions
  databasePath : Option (Option String)

namespace Draft

def empty : Draft :=
  ⟨none, none, none, none, none⟩

def member (draft : Draft) (field : String) : Reader Draft := do
  match field with
  | "accounts" => return { draft with accounts := ← once draft.accounts (list Account.reader) }
  | "default_account" =>
    return { draft with
      defaultAccount := ← once draft.defaultAccount (UInt64.ofNat <$> natural UInt64.size) }
  | "sync" => return { draft with pass := ← once draft.pass PassOptions.reader }
  | "push" => return { draft with watch := ← once draft.watch WatchOptions.reader }
  | "database_path" =>
    return { draft with databasePath := ← once draft.databasePath (optional text) }
  | _ =>
    skipMember
    return draft

def finish (draft : Draft) : Reader Configuration := do
  return { accounts := ← required draft.accounts
           defaultAccount := draft.defaultAccount.getD 0
           pass := draft.pass.getD .usual
           watch := draft.watch.getD .usual
           databasePath := draft.databasePath.getD none }

end Draft

/-- Reads the fields of a configuration in their order. -/
def inOrder : Reader Configuration := do
  return { accounts := ← nextRequired true (list Account.reader)
           defaultAccount := ← nextOr 0 false (UInt64.ofNat <$> natural UInt64.size)
           pass := ← nextOr .usual false PassOptions.reader
           watch := ← nextOr .usual false WatchOptions.reader
           databasePath := ← nextOr none false (optional text) }

def reader : Reader Configuration :=
  record Draft.member .empty Draft.finish inOrder

def ofDocument (document : String) : Except Problem Configuration :=
  readText reader document

end Configuration

end MailReplica
