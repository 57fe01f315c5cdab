import MailReplica.Flag
import MailReplica.Json.Layout
import MailReplica.Json.Reader

/-! # Flags as stored text

A standard flag is stored as its name, a keyword as an object with the member `Custom`.
-/

namespace MailReplica

namespace Flag

def layout (flag : Flag) : Json.Layout :=
  match flag.standardName? with
  | some name => .text name
  | none => .record [("Custom", .text flag.keyword)]

def reader : Json.Reader Flag :=
  Json.choice (fun name => (standard.find? (·.1 == name)).map Prod.snd)
    (fun name => if name = "Custom" then some (custom <$> Json.text) else none)

end Flag

namespace FlagSet

/-- The stored text of a set of flags. -/
def stored (flags : FlagSet) : String :=
  (Json.Layout.list (flags.toList.map Flag.layout)).oneLine

/-- The set of flags that a stored text lists. -/
def ofStored (text : String) : Except Json.Problem FlagSet :=
  (Json.readText (Json.list Flag.reader) text).map (Std.ExtTreeSet.ofList ·)

end FlagSet

end MailReplica
