import MailReplica.Text.Octet

/-! # Header fields

A message begins with fields `name: value`, each ended by a line end that no blank follows, and its
header ends with the first line that holds no name.  A line without a colon is passed over.
-/

namespace MailReplica.Header

/-- A field of a header as it stands in the message. -/
structure Field where
  name : Octets
  /-- All that follows the colon, with the line end that ends the field if there is one. -/
  value : Octets
  deriving DecidableEq

namespace Field

/-- Whether the field has the given name, in any case. -/
def hasName (field : Field) (name : String) : Bool :=
  Octet.sameButCase field.name (Text.encode name)

end Field

/-- Where the reading of a header stands. -/
inductive Place where
  /-- In front of a name or inside it: the name read so far, latest octet first, and the blanks
  after it. -/
  | name (read gap : Octets)
  /-- In the value of the field `label`, whose latest octet comes first. -/
  | value (label read : Octets)
  /-- After a line end in the value of the field `label`. -/
  | lineEnd (label read : Octets)

def isBlankOctet (octet : UInt8) : Bool :=
  Octet.isGap octet || octet == Octet.lf || octet == Octet.cr || octet == 0x0C

/-- One octet of a header: the next place, or none where the header ends; and the field that the
octet ends, if it ends one. -/
def Place.step (octet : UInt8) : Place → Option Place × Option Field
  | .value label read =>
    let place : Place :=
      if octet == Octet.lf then .lineEnd label (octet :: read) else .value label (octet :: read)
    (some place, none)
  | .lineEnd label read =>
    if Octet.isGap octet then (some (.value label (octet :: read)), none)
    else
      let (next, _) := nameStep [] []
      (next, some ⟨label, read.reverse⟩)
  | .name read gap => nameStep read gap
where
  /-- One octet in front of a name or inside it. -/
  nameStep (read gap : Octets) : Option Place × Option Field :=
    if octet == Octet.colon && !read.isEmpty then (some (.value read.reverse []), none)
    else if octet == Octet.lf then (if read.isEmpty then none else some (.name [] []), none)
    else if isBlankOctet octet then
      (some (.name read (if read.isEmpty then [] else octet :: gap)), none)
    else if octet == Octet.colon then (some (.name [] []), none)
    else (some (.name (octet :: (gap ++ read)) []), none)

/-- The fields of a header, read on from `place`. -/
def fieldsFrom (place : Place) : Octets → List Field
  | [] =>
    match place with
    | .name _ _ => []
    | .value label read | .lineEnd label read => [⟨label, read.reverse⟩]
  | octet :: rest =>
    match place.step octet with
    | (none, ended) => ended.toList
    | (some next, none) => fieldsFrom next rest
    | (some next, some field) => field :: fieldsFrom next rest

/-- The fields of the header that a message begins with. -/
def fields (message : Octets) : List Field :=
  fieldsFrom (.name [] []) message

/-- The last field of a name, which is the one that counts. -/
def lastField? (name : String) (fields : List Field) : Option Field :=
  fields.reverse.find? (·.hasName name)

end MailReplica.Header
