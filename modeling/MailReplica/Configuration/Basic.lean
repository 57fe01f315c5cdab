import MailReplica.Configuration.Account
import MailReplica.Message

/-! # Configurations

A configuration lists the accounts and says how passes and the waiting for changes are set up.
-/

namespace MailReplica

structure PassOptions where
  expungePolicy : ExpungePolicy
  /-- Only messages of this many days are kept, if given. -/
  daysKept : Option UInt32
  removeVanished : Bool
  largestDownload : UInt32
  visibleLimit : UInt32
  trackedFlags : List Flag
  deriving DecidableEq

/-- What a configuration says about the waiting for changes. -/
structure WatchOptions where
  enabled : Bool
  /-- After how many minutes a round of waiting is renewed. -/
  refreshMinutes : UInt64
  deriving DecidableEq

structure Configuration where
  accounts : List Account
  /-- The place of the default account among the accounts. -/
  defaultAccount : UInt64
  pass : PassOptions
  watch : WatchOptions
  databasePath : Option String
  deriving DecidableEq

namespace PassOptions

/-- The options of passes unless a configuration says otherwise. -/
def usual : PassOptions where
  expungePolicy := PassSettings.usual.expungePolicy
  daysKept := none
  removeVanished := PassSettings.usual.removeVanished
  largestDownload := PassSettings.usual.largestDownload
  visibleLimit := PassSettings.usual.visibleLimit
  trackedFlags := PassSettings.usualFlags

/-- The settings of a pass that starts at `now`; none if the days kept go back to a time before the
calendar begins. -/
def settings? (options : PassOptions) (now : Instant) : Option PassSettings := do
  let cutoff ←
    match options.daysKept with
    | none => pure none
    | some days => do
      let earliest ← now.minusDays? days.toNat
      pure (some ⟨earliest, 0⟩)
  return { expungePolicy := options.expungePolicy
           cutoff := cutoff
           removeVanished := options.removeVanished
           largestDownload := options.largestDownload
           visibleLimit := options.visibleLimit
           trackedFlags := Std.ExtTreeSet.ofList options.trackedFlags }

end PassOptions

namespace WatchOptions

/-- The options of waiting unless a configuration says otherwise. -/
def usual : WatchOptions where
  enabled := true
  refreshMinutes := 24

/-- After how many seconds a round of waiting is renewed, at least one minute; none if a 64-bit
number does not hold the seconds. -/
def refreshSeconds? (options : WatchOptions) : Option UInt64 :=
  let seconds := max 1 options.refreshMinutes.toNat * 60
  if seconds < UInt64.size then some (UInt64.ofNat seconds) else none

end WatchOptions

/-- Why a configuration has no account to offer. -/
inductive AccountProblem where
  | noAccounts
  | notFound (name : String)
  deriving DecidableEq

/-- The text that tells a person about the problem. -/
def AccountProblem.text : AccountProblem → String
  | noAccounts => "No accounts configured"
  | notFound name => "Account not found: " ++ name

namespace Configuration

/-- The configuration where there is no file. -/
def empty : Configuration where
  accounts := []
  defaultAccount := 0
  pass := .usual
  watch := .usual
  databasePath := none

/-- The account with the given name or address.  Without one it is the default account, or the
first one if the default account does not exist. -/
def account (configuration : Configuration) (name : Option String) :
    Except AccountProblem Account :=
  match configuration.accounts, name with
  | [], _ => .error .noAccounts
  | accounts@(_ :: _), some name =>
    match accounts.find? fun account => account.name == name || account.email == name with
    | some account => .ok account
    | none => .error (.notFound name)
  | first :: others, none =>
    .ok ((first :: others).getD configuration.defaultAccount.toNat first)

/-- The settings of a pass that starts at `now`, if the calendar reaches to its cutoff. -/
def passSettings? (configuration : Configuration) (now : Instant) : Option PassSettings :=
  configuration.pass.settings? now

/-- A path with a tilde at its start replaced by the home directory. -/
def expandHome (home path : String) : String :=
  match path.toList with
  | ['~'] => home
  | '~' :: '/' :: rest => home ++ "/" ++ String.ofList rest
  | _ => path

/-- Where a configuration is kept unless a path is given. -/
def usualPath : String := "~/.config/mailsync/config.json"

def databaseFile (configuration : Configuration) (home : String) : String :=
  match configuration.databasePath with
  | some path => expandHome home path
  | none => home ++ "/.local/share/mailsync/mailsync.db"

end Configuration

end MailReplica
