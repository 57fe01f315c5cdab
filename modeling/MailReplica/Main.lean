import MailReplica.Command.Run
import Std.Time.DateTime.Timestamp

/-! # The program

Hands the words of the command line, the file of the configuration and the time of day to the
command, and prints what came of it.  The program has no network of its own, so a pass ends with the
failure to connect.
-/

open MailReplica

def entryAt (path : String) : IO (Option FileEntry) := do
  try
    return some (.file (← IO.FS.readBinFile path).toList)
  catch failure =>
    match failure with
    | .noFileOrDirectory _ _ _ => return none
    | _ => return some .directory

/-- The file of the configuration that a command line names. -/
def configurationFiles (home : String) (words : List String) : IO FileTree := do
  match Arguments.read words with
  | .error _ => return []
  | .ok arguments =>
    let path := arguments.configuration
    match ← entryAt (Configuration.expandHome home path) with
    | none => return []
    | some entry => return [(Place.ofPath path, entry)]

def main (words : List String) : IO UInt32 := do
  let home := (← IO.getEnv "HOME").getD "/"
  let files ← configurationFiles home words
  let now ← Std.Time.Timestamp.now
  let device : Command.Device Unit :=
    { files := files
      home := home
      now := ⟨now.toSecondsSinceUnixEpoch.val, 0⟩
      databases := []
      network := () }
  let outcome := Command.run Remote.Network.absent words device
  for line in outcome.log do
    IO.eprintln line
  IO.print outcome.output
  return UInt32.ofNat outcome.code
