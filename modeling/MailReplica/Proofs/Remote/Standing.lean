import Mathlib.Data.List.TakeDrop
import MailReplica.Proofs.Remote.Requests

/-! # The standing of a client

What passed on a connection says whether the client is authenticated: the server greeted it as one
that is logged in, or it greeted it and then completed a request of the client to log in.  A client
that is authenticated stays so on the connection (`Passed.isAuthenticated_after`).  A record is
guarded if each folder in it was asked for on a connection on which the client was authenticated.
-/

namespace MailReplica.Remote

open Wire

/-! ## The words of a request -/

/-- The octets up to the first blank. -/
def tagOf (octets : Octets) : Octets :=
  (octets.span (· != Octet.space)).1

/-- The octets from the first blank to the next or to the end of the line. -/
def wordOf (octets : Octets) : Octets :=
  ((octets.span (· != Octet.space)).2.drop 1).takeWhile fun octet =>
    octet != Octet.space && octet != Octet.cr

/-- Whether octets can be a word of a request. -/
def isWord (octets : Octets) : Bool :=
  octets.all fun octet => octet != Octet.space && octet != Octet.cr

/-- Whether octets are a request to log in. -/
def logsIn (octets : Octets) : Bool :=
  wordOf octets == Text.encode "LOGIN"

/-- Whether octets are a request to open a folder. -/
def opensFolder (octets : Octets) : Bool :=
  wordOf octets == Text.encode "EXAMINE" || wordOf octets == Text.encode "SELECT"

section Words

variable {number : UInt32} {verb : String} {arguments : List String}

theorem request_eq (number : UInt32) (text : String) :
    request number text =
      Text.encode (requestTag number) ++
        Octet.space :: (Text.encode text ++ [Octet.cr, Octet.lf]) := by
  have blank : Text.encode " " = [Octet.space] := by decide
  have ending : Text.encode "\r\n" = [Octet.cr, Octet.lf] := by decide
  rw [request, Text.encode_append, Text.encode_append, Text.encode_append, blank, ending,
    List.append_assoc, List.append_assoc, List.singleton_append]

theorem space_not_mem_tag (number : UInt32) :
    Octet.space ∉ Text.encode (requestTag number) := by
  rw [Text.mem_encode (by decide)]
  rintro ⟨c, member, same⟩
  have blank : c = ' ' := Char.toNat_inj.1 same
  subst blank
  cases mem_requestTag member <;> contradiction

/-- A request is its tag up to the first blank. -/
theorem span_request (number : UInt32) (text : String) :
    (request number text).span (· != Octet.space) =
      (Text.encode (requestTag number),
        Octet.space :: (Text.encode text ++ [Octet.cr, Octet.lf])) := by
  have tag : ∀ octet ∈ Text.encode (requestTag number), (octet != Octet.space) = true :=
    fun octet member => bne_iff_ne.2 fun is => space_not_mem_tag number (is ▸ member)
  rw [List.span_eq_takeWhile_dropWhile, request_eq, List.takeWhile_append_of_pos tag,
    List.dropWhile_append_of_pos tag]
  simp

theorem tagOf_request (number : UInt32) (text : String) :
    tagOf (request number text) = Text.encode (requestTag number) := by
  rw [tagOf, span_request]

theorem wordOf_tail (arguments : List String) :
    (Text.encode (String.ofList (Order.tail arguments)) ++ [Octet.cr, Octet.lf]).takeWhile
      (fun octet => octet != Octet.space && octet != Octet.cr) = [] := by
  cases arguments with
  | nil => decide
  | cons argument others =>
    rw [Text.encode_ofList]
    rfl

theorem wordOf_request (plain : isWord (Text.encode verb) = true) :
    wordOf (request number (Order.text ⟨verb, arguments⟩)) = Text.encode verb := by
  rw [wordOf, span_request, List.drop_one, List.tail_cons, Order.text, Text.encode_append,
    List.append_assoc, List.takeWhile_append_of_pos (List.all_eq_true.1 plain), wordOf_tail,
    List.append_nil]

theorem opensFolder_request (plain : isWord (Text.encode verb) = true) :
    opensFolder (request number (Order.text ⟨verb, arguments⟩)) =
      (Text.encode verb == Text.encode "EXAMINE" ||
        Text.encode verb == Text.encode "SELECT") := by
  rw [opensFolder, wordOf_request plain]

theorem opensFolder_capability (number : UInt32) :
    opensFolder (request number (Order.text ⟨"CAPABILITY", []⟩)) = false :=
  (opensFolder_request (by decide)).trans (by decide)

end Words

/-! ## What passed -/

/-- What passed on a connection. -/
structure Passed where
  /-- What the server sent. -/
  heard : Octets
  /-- The tags of the requests to log in, latest first. -/
  logins : List Octets

/-- The client sent octets, and this arrived because of them. -/
def Passed.after (octets : Octets) (arrivals : List Arrival) (passed : Passed) : Passed where
  heard := passed.heard ++ octetsOf arrivals
  logins := if logsIn octets then tagOf octets :: passed.logins else passed.logins

/-- Whether a response completes, with success, a request with one of the tags. -/
def completesOne (tags : List Octets) (response : Response) : Bool :=
  match response.kind with
  | .completion tag .ok => tags.contains (Text.encode tag)
  | _ => false

/-- Whether the responses of a server, the greeting first, authenticate a client that asked with
the tags `logins` to be logged in. -/
def authenticates (logins : List Octets) : List Response → Bool
  | [] => false
  | greeting :: others =>
    greeting.kind == .condition .preAuth ||
      greeting.kind == .condition .ok && others.any (completesOne logins)

def Passed.isAuthenticated (passed : Passed) : Bool :=
  authenticates passed.logins (responsesIn passed.heard)

theorem kind_of_completes {tag : String} {response : Response}
    (completes : response.completes tag = true) (success : response.isSuccess = true) :
    response.kind = .completion tag .ok := by
  unfold Response.completes at completes
  unfold Response.isSuccess at success
  split at success
  next is =>
    rw [is] at completes ⊢
    rw [eq_of_beq completes]
  next => cases success

theorem completesOne_iff {tags : List Octets} {response : Response} :
    completesOne tags response = true ↔
      ∃ tag, response.kind = .completion tag .ok ∧ Text.encode tag ∈ tags := by
  obtain ⟨kind, text⟩ := response
  cases kind with
  | completion tag condition => cases condition <;> simp [completesOne]
  | _ => simp [completesOne]

theorem authenticates_mono {logins logins' : List Octets} {responses responses' : List Response}
    (more : logins ⊆ logins') (isPrefix : responses <+: responses')
    (known : authenticates logins responses = true) : authenticates logins' responses' = true := by
  cases responses with
  | nil => cases known
  | cons greeting others =>
    obtain ⟨later, rfl⟩ := isPrefix
    simp only [authenticates, List.cons_append, Bool.or_eq_true, Bool.and_eq_true,
      List.any_eq_true, completesOne_iff] at known ⊢
    refine known.imp id (And.imp id ?_)
    rintro ⟨response, member, tag, completes, asked⟩
    exact ⟨response, List.mem_append_left _ member, tag, completes, more asked⟩

theorem Passed.logins_after (passed : Passed) (octets : Octets) (arrivals : List Arrival) :
    passed.logins ⊆ (passed.after octets arrivals).logins := by
  unfold Passed.after
  split
  · exact List.subset_cons_self _ _
  · exact List.Subset.refl _

theorem Passed.isAuthenticated_after {passed : Passed} (octets : Octets) (arrivals : List Arrival)
    (known : passed.isAuthenticated = true) :
    (passed.after octets arrivals).isAuthenticated = true :=
  authenticates_mono (passed.logins_after octets arrivals) (responsesIn_isPrefix _ _) known

/-- What passed on the present connection, if the client has not ended it. -/
def passed? : List Exchange → Option Passed
  | [] | .closed :: _ => none
  | .connected arrivals :: _ => some ⟨octetsOf arrivals, []⟩
  | .encrypted arrivals :: earlier => (passed? earlier).map fun passed =>
    { passed with heard := passed.heard ++ octetsOf arrivals }
  | .sent octets arrivals :: earlier => (passed? earlier).map (Passed.after octets arrivals)

/-- Whether the client is authenticated on the present connection. -/
def isAuthenticated (record : List Exchange) : Bool :=
  (passed? record).any Passed.isAuthenticated

/-- Whether there is a connection and the client is not authenticated on it. -/
def isHalfOpen (record : List Exchange) : Bool :=
  (passed? record).any fun passed => !passed.isAuthenticated

/-- Each folder was asked for on a connection on which the client was authenticated. -/
def Guarded (record : List Exchange) : Prop :=
  ∀ octets arrivals earlier, .sent octets arrivals :: earlier <:+ record →
    opensFolder octets = true → isAuthenticated earlier = true

section Guarded

variable {record : List Exchange}

theorem guarded_nil : Guarded [] := fun _ _ _ suffix => by
  cases List.suffix_nil.1 suffix

theorem guarded_sent (octets : Octets) (arrivals : List Arrival) :
    Guarded (.sent octets arrivals :: record) ↔
      (opensFolder octets = true → isAuthenticated record = true) ∧ Guarded record := by
  constructor
  · intro guarded
    exact ⟨guarded octets arrivals record List.suffix_rfl, fun _ _ _ suffix =>
      guarded _ _ _ (suffix.trans (List.suffix_cons _ _))⟩
  · rintro ⟨now, before⟩ other others earlier suffix
    obtain same | suffix := List.suffix_cons_iff.1 suffix
    · cases same
      exact now
    · exact before _ _ _ suffix

/-- An exchange by which nothing is sent leaves a record as guarded as it was. -/
theorem guarded_cons {exchange : Exchange} (silent : exchange.sent? = none) :
    Guarded (exchange :: record) ↔ Guarded record := by
  constructor
  · exact fun guarded _ _ _ suffix => guarded _ _ _ (suffix.trans (List.suffix_cons _ _))
  · intro before octets arrivals earlier suffix
    obtain same | suffix := List.suffix_cons_iff.1 suffix
    · cases same
      cases silent
    · exact before _ _ _ suffix

end Guarded

end MailReplica.Remote
