import MailReplica.Idle.Run
import MailReplica.Push.Pusher
import MailReplica.Push.Watchers
import Std.Data.ExtTreeMap

/-! # A rehearsal of the pushers of an account

Each folder is watched on a server of its own, which agrees to let clients wait, answers `DONE`, and
else sends a line when it is told to.  A pusher goes on until it waits for a line or for a time that
never comes.
-/

namespace MailReplica.Rehearsal

open Idle Push

structure Station where
  capable : Bool
  openFailure : Option Failure
  connected : Bool
  tags : Nat
  /-- What has arrived and was not read. -/
  arriving : List (Except Failure String)
  /-- What happened, latest first. -/
  log : List String

namespace Station

/-- A server on which nothing has happened. -/
def new (capable : Bool) (openFailure : Option Failure) : Station :=
  ⟨capable, openFailure, false, 0, [], []⟩

def note (text : String) (station : Station) : Station :=
  { station with log := text :: station.log }

def arrive (line : Except Failure String) (station : Station) : Station :=
  { station with arriving := station.arriving ++ [line] }

def tag (station : Station) : String :=
  "A" ++ Nat.repr station.tags

def answer {α : Type} (call : LineCall α) (station : Station) : α × Station :=
  match call with
  | .isConnected _ => (station.connected, station)
  | .sendCommand _ command =>
    let station := { station.note ("send " ++ command) with tags := station.tags + 1 }
    (.ok station.tag, station.arrive (.ok "+ idling"))
  | .sendLine _ text =>
    (.ok (), (station.note ("send " ++ text)).arrive (.ok (station.tag ++ " OK IDLE terminated")))
  | .setTimeout _ _ | .restoreTimeout _ => (.ok (), station)
  | .cancelTimer _ => ((), station)

def line : Line Station where
  run := answer

/-- Answers a request, except a read for which nothing has arrived. -/
def reply? (request : Request) (station : Station) : Option (Reply × Station) :=
  match request with
  | .connect _ =>
    some (.connected (.ok 0), { station.note "connection" with connected := false, arriving := [] })
  | .openFolder _ =>
    let station := station.note "open ReadOnly"
    match station.openFailure with
    | some failure => some (.opened (.error failure), station)
    | none => some (.opened (.ok ()), { station with connected := true })
  | .checkCapability _ => some (.capable (.ok station.capable), station)
  | .startTimer _ => some (.timer 0, station)
  | .releaseWake | .acquireWake => some (.done, station)
  | .read _ =>
    match station.arriving with
    | [] => none
    | line :: others =>
      some (.response (line.bind Wire.Response.ofLine), { station with arriving := others })
  | .close _ => some (.done, { station.note "close" with connected := false, arriving := [] })

end Station

structure Watched where
  idler : Idler
  /-- Where the run stands, while one goes on. -/
  run : Idle.Point
  pusher : Pusher
  stopSignal : Bool
  station : Station

namespace Watched

def begin (station : Station) : Watched :=
  ⟨.new, .connecting, .new .usual, false, station⟩

def work {α : Type} (part : Section Station α) (watched : Watched) : α × Watched :=
  let (result, idler, station) := part (watched.idler, watched.station)
  (result, { watched with idler, station })

/-- What an event of a pusher looks like in a log. -/
def eventText : Event → String
  | .changed => "event sync"
  | .failed failure => "event error " ++ failure.text
  | .notSupported => "event not supported"

/-- The run goes one step further, unless it waits for a line. -/
def stepRun (settings : Settings) (watched : Watched) : Option Watched :=
  match watched.run with
  | .ended ending => some { watched with pusher := watched.pusher.take ending }
  | point =>
    match point.request? settings with
    | some request =>
      (watched.station.reply? request).map fun (reply, station) =>
        { watched with run := point.resume reply, station }
    | none =>
      let (run, watched) := watched.work (Section.work Station.line settings point)
      some { watched with run }

/-- The pusher goes one step further, unless it waits. -/
def step (settings : Settings) (watched : Watched) : Option Watched :=
  match watched.pusher.point with
  | .ended => none
  | .running => watched.stepRun settings
  | .looking =>
    let pusher := watched.pusher.look watched.stopSignal
    if watched.stopSignal then some { watched with pusher }
    else
      let (run, watched) := watched.work Section.enter
      some { watched with pusher, run }
  | .met | .failing _ => some { watched with pusher := watched.pusher.look watched.stopSignal }
  | .telling event =>
    some { watched with
      pusher := watched.pusher.told
      station := watched.station.note (eventText event) }
  | .waiting _ =>
    if watched.stopSignal then some { watched with pusher := watched.pusher.wake true } else none

/-- The pusher goes on until it waits, in at most `fuel` steps. -/
def settle (settings : Settings) : Nat → Watched → Watched
  | 0, watched => watched
  | fuel + 1, watched =>
    match watched.step settings with
    | some watched => settle settings fuel watched
    | none => watched

/-- Enough steps for a pusher to go on until it waits: what has arrived and one answer for each of
its lines take a few steps each. -/
def patience (watched : Watched) : Nat :=
  64 * (watched.station.arriving.length + 4)

/-- The pusher goes on until it waits. -/
def settled (folder : String) (watched : Watched) : Watched :=
  watched.settle ⟨folder, 1440000⟩ watched.patience

def stopped (folder : String) (watched : Watched) : Watched :=
  (({ watched with stopSignal := true }.work (Section.stop Station.line)).2).settled folder

/-- The pusher is asked for a fresh round. -/
def refreshed (folder : String) (watched : Watched) : Watched :=
  ((watched.work (Section.refresh Station.line)).2).settled folder

end Watched

structure Account where
  watchers : Watchers
  /-- The folders that have been watched, also those that are no longer. -/
  watched : Std.ExtTreeMap String Watched
  /-- The servers of folders that differ from the usual one. -/
  servers : List (String × Station)

namespace Account

/-- An account whose folders are not watched. -/
def new (servers : List (String × Station)) : Account :=
  ⟨.empty, ∅, servers⟩

def station (account : Account) (folder : String) : Station :=
  match account.watched.get? folder with
  | some watched => watched.station
  | none => (account.servers.lookup folder).getD (.new true none)

def obey (account : Account) : Order → Account
  | .stop folder =>
    { account with watched := account.watched.modify folder (Watched.stopped folder) }
  | .start folder =>
    { account with
      watched :=
        account.watched.insert folder ((Watched.begin (account.station folder)).settled folder) }

/-- Watches the folders of a list and no others. -/
def update (account : Account) (listed : List String) : Account :=
  let (orders, watchers) := account.watchers.update listed
  { orders.foldl obey account with watchers }

def stop (account : Account) : Account :=
  let (orders, watchers) := account.watchers.stop
  { orders.foldl obey account with watchers }

/-- Asks every folder for a fresh round. -/
def reconnect (account : Account) : Account :=
  account.watchers.folders.foldl (fun account folder =>
    { account with watched := account.watched.modify folder (Watched.refreshed folder) }) account

/-- The server of a folder sends a line, if a connection is open. -/
def push (account : Account) (folder : String) (line : Except Failure String) : Account :=
  { account with
    watched := account.watched.modify folder fun watched =>
      if watched.station.connected then
        { watched with station := watched.station.arrive line }.settled folder
      else watched }

/-- What happened to each folder since the logs were taken last, and the account without it. -/
def takeLogs (account : Account) : List (String × List String) × Account :=
  ((account.watched.toList.map fun (folder, watched) =>
      (folder, watched.station.log.reverse)).filter fun (_, log) => !log.isEmpty,
    { account with
      watched := account.watched.map fun _ watched =>
        { watched with station := { watched.station with log := [] } } })

end Account

end MailReplica.Rehearsal
