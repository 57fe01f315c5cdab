import MailReplica.Configuration.Document
import MailReplica.Text.Utf8

/-! # Configuration files

A configuration is loaded from a file and saved to one.  What stands where is a tree of directories
and files; saving makes the directories above the file.
-/

namespace MailReplica

inductive FileEntry where
  | directory
  | file (content : Octets)
  deriving DecidableEq

/-- Why a file cannot be read or written. -/
inductive FileRefusal where
  | notFound
  | isDirectory
  | notDirectory
  /-- The content is no text. -/
  | notText
  deriving DecidableEq

/-- The names on the way to a place, from the root on. -/
abbrev Place := List String

namespace Place

/-- The place that a path names.  A path begins at the home directory after a tilde, at the root
after a slash, and else at the working directory; the first name tells which. -/
def ofPath (path : String) : Place :=
  match path.splitOn "/" with
  | "~" :: names => "~" :: steps names
  | "" :: names => "/" :: steps names
  | names => "." :: steps names
where
  /-- Names without those that lead nowhere. -/
  steps (names : List String) : List String :=
    names.filter fun name => name != "" && name != "."

end Place

abbrev FileTree := List (Place × FileEntry)

namespace FileTree

/-- What stands at a place.  The root and the working directory always exist. -/
def find? (tree : FileTree) (place : Place) : Option FileEntry :=
  match place with
  | ["/"] | ["."] => some .directory
  | _ => List.lookup place tree

def read (tree : FileTree) (place : Place) : Except FileRefusal Octets :=
  match tree.find? place with
  | some (.file content) => .ok content
  | some .directory => .error .isDirectory
  | none => .error .notFound

/-- Whether directories can be made on the way to a place: no file stands there. -/
def wayIsOpen (tree : FileTree) (place : Place) : Bool :=
  (List.range place.length).all fun count =>
    match tree.find? (place.take count) with
    | some (.file _) => false
    | _ => true

/-- Writes a file; `slash` tells that the path ends in a slash and so names a directory. -/
def write (tree : FileTree) (place : Place) (slash : Bool) (content : Octets) :
    Except FileRefusal FileTree :=
  match tree.find? place, slash with
  | some .directory, _ | none, true => .error .isDirectory
  | some (.file _), true => .error .notDirectory
  | _, false => .ok ((place, .file content) :: tree.filter (·.1 != place))

end FileTree

inductive LoadFailure where
  | refused (refusal : FileRefusal)
  | unreadable (problem : Json.Problem)
  deriving DecidableEq

inductive SaveFailure where
  /-- The directories above the file cannot be made. -/
  | noDirectory
  | refused (refusal : FileRefusal)
  deriving DecidableEq

namespace Configuration

/-- Loads a configuration; where there is no file, it is the empty one. -/
def load (tree : FileTree) (path : String) : Except LoadFailure Configuration :=
  match tree.read (Place.ofPath path) with
  | .error .notFound => .ok .empty
  | .error refusal => .error (.refused refusal)
  | .ok content =>
    match Text.decode? content with
    | none => .error (.refused .notText)
    | some text => (ofDocument text).mapError .unreadable

def save (configuration : Configuration) (tree : FileTree) (path : String) :
    Except SaveFailure FileTree :=
  let place := Place.ofPath path
  if path = "" then .error (.refused .notFound)
  else if tree.wayIsOpen place then
    (tree.write place (path.endsWith "/") (Text.encode configuration.document)).mapError .refused
  else .error .noDirectory

end Configuration

end MailReplica
