import MailReplica.Command.Arguments
import MailReplica.Configuration.File
import MailReplica.Reconcile.Pass
import MailReplica.Remote.Folder
import MailReplica.Remote.Session
import MailReplica.Store.Table

/-! # Carrying out a command line

A command works with the files, the network and the database of the device.  What it came to is its
exit code and its output; a database is there from the moment it is first opened.
-/

namespace MailReplica.Command

open Remote

structure Device (ε : Type) where
  files : FileTree
  home : String
  now : Instant
  /-- The databases, by path. -/
  databases : List (String × Store.Tables)
  network : ε

structure Outcome (ε : Type) where
  code : Nat
  output : String
  /-- What is told beside the output, line by line. -/
  log : List String
  device : Device ε

inductive Stop where
  /-- The command failed, with a message. -/
  | failed (message : String)
  /-- The command met a state in which it cannot go on. -/
  | crashed
  deriving DecidableEq

namespace Stop

/-- The exit code of a command that ended early. -/
def code : Stop → Nat
  | failed _ => 1
  | crashed => 101

def message : Stop → String
  | failed message => "Error: " ++ message
  | crashed => "Error: the date of the cutoff is out of range"

end Stop

/-- A command at work: what it has told so far and its device. -/
abbrev Running (ε : Type) := ExceptT Stop (StateM (Outcome ε))

variable {ε : Type}

def say (line : String) : Running ε Unit :=
  modify fun outcome => { outcome with output := outcome.output ++ line ++ "\n" }

def device : Running ε (Device ε) :=
  return (← get).device

def change (apply : Device ε → Device ε) : Running ε Unit :=
  modify fun outcome => { outcome with device := apply outcome.device }

def load (path : String) : Running ε Configuration := do
  match Configuration.load (← device).files path with
  | .ok configuration => return configuration
  | .error _ => throw (.failed ("Failed to load config from " ++ path))

/-- The account with the given name or address. -/
def chosen (configuration : Configuration) (name : Option String) : Running ε Account :=
  match configuration.account name with
  | .ok account => return account
  | .error problem => throw (.failed problem.text)

def settings (account : Account) : Running ε ServerSettings :=
  match account.serverSettings? with
  | some settings => return settings
  | none => throw (.failed ("No password for " ++ account.email))

/-- Puts a database in the place of the one at its path. -/
def putDatabase (path : String) (tables : Store.Tables) : Running ε Unit :=
  change fun device =>
    { device with databases := (path, tables) :: device.databases.filter (·.1 != path) }

/-- Opens the database of a configuration, which comes into being if there is none; the result is
its path and what it holds. -/
def openDatabase (configuration : Configuration) : Running ε (String × Store.Tables) := do
  let path := configuration.databaseFile (← device).home
  let tables := ((← device).databases.lookup path).getD Store.Tables.empty
  putDatabase path tables
  return (path, tables)

/-- The account as a list of accounts shows it, with its place. -/
def accountLine (configuration : Configuration) (place : Nat) (account : Account) : String :=
  let mark := if place = configuration.defaultAccount.toNat then "(default)" else ""
  Nat.repr place ++ ". " ++ account.name ++ " <" ++ account.email ++ "> " ++ mark

/-- The settings of a pass that starts now. -/
def passSettings (configuration : Configuration) : Running ε PassSettings := do
  match configuration.passSettings? (← device).now with
  | some settings => return settings
  | none => throw .crashed

def runPass (network : Network ε) (configuration : Configuration) (account : Account)
    (server : ServerSettings) (options : PassSettings) (folder : String) : Running ε Unit := do
  let (path, tables) ← openDatabase configuration
  let remote := Folder.passServer (Session.server network) server
  let ended := Reconcile.Pass.run ⟨Store.Tables.handler, remote⟩ folder options tables
    (Folder.new server folder, Session.fresh, (← device).network)
  putDatabase path ended.store
  change fun device => { device with network := ended.server.2.2 }
  modify fun outcome => { outcome with
    log := outcome.log ++ (Reconcile.Pass.events ended).map (·.logLine account.name) }

/-- Lists the folders of a server and makes them known. -/
def listFolders (network : Network ε) (configuration : Configuration) (account : Account) :
    Running ε Unit := do
  let server ← settings account
  let found ← device
  match (Folder.listAll (Session.server network) server).run (Session.fresh, found.network) with
  | (.error failure, _, state) => do
    change fun device => { device with network := state }
    throw (.failed failure.text)
  | (.ok listed, _, state) => do
    change fun device => { device with network := state }
    let (path, tables) ← openDatabase configuration
    putDatabase path (listed.foldl Store.Tables.create tables)
    listed.forM fun folder => say folder.id

def carryOut (network : Network ε) (configuration : Configuration) : Command → Running ε Unit
  | .sync folder account => do
    let account ← chosen configuration account
    let server ← settings account
    let _ ← openDatabase configuration
    runPass network configuration account server (← passSettings configuration) folder
  | .watch account => do
    let account ← chosen configuration account
    unless configuration.watch.enabled do
      throw (.failed "Push is disabled in the configuration")
    let server ← settings account
    let options ← passSettings configuration
    let _ ← openDatabase configuration
    account.watchedFolders.forM (runPass network configuration account server options)
  | .folders account => do
    listFolders network configuration (← chosen configuration account)
  | .listAccounts => do
    say "Configured accounts:"
    (configuration.accounts.zipIdx).forM fun (account, place) =>
      say (accountLine configuration place account)
  | .setPassword account delete => do
    let account ← chosen configuration account
    unless delete do
      say ("Enter IMAP password for " ++ account.email ++ ":")
    throw (.failed "Failed to create keyring entry")

def run (network : Network ε) (words : List String) (device : Device ε) : Outcome ε :=
  let begun : Outcome ε := ⟨0, "", [], device⟩
  match Arguments.read words with
  | .error (.help text) => { begun with output := text }
  | .error .version =>
    { begun with output := Arguments.programName ++ " " ++ Arguments.programVersion ++ "\n" }
  | .error (.misuse message) => { begun with code := 2, log := ["error: " ++ message] }
  | .ok arguments =>
    let work : Running ε Unit := do
      carryOut network (← load arguments.configuration) arguments.command
    match work begun with
    | (.ok (), outcome) => outcome
    | (.error stop, outcome) =>
      { outcome with code := stop.code, log := outcome.log ++ [stop.message] }

end MailReplica.Command
