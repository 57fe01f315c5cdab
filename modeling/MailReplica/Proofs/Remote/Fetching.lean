import Mathlib.Data.List.Basic
import MailReplica.Proofs.Remote.Handle
import MailReplica.Remote.Session

/-! # What a download takes for the message

A server may send replies about other messages, and more than one about a message, along with what a
download asks for.  One reply counts (`Counts`): the first one that tells the UID, or the very first
one if none does.  It decides alone what the download comes to, whatever else arrived (`Fetches`), so
what was asked for is missed where the first reply with the UID does not hold it, and the octets of
another message are taken where no reply tells the UID (`fetch_fetches`).
-/

namespace MailReplica.Remote

namespace Fetched

/-- The reply that a download goes by: the first one that tells the UID, and the first of all if none
does. -/
inductive Counts (uid : UInt32) : List Fetched → Fetched → Prop
  | own {before after : List Fetched} {fetched : Fetched} (tells : fetched.uid = some uid)
      (foremost : ∀ other ∈ before, other.uid ≠ some uid) :
      Counts uid (before ++ fetched :: after) fetched
  | first {fetched : Fetched} {others : List Fetched}
      (untold : ∀ other ∈ fetched :: others, other.uid ≠ some uid) :
      Counts uid (fetched :: others) fetched

/-- A reply tells the UID and holds what a download asks for. -/
def Carries (uid : UInt32) (extent : FetchExtent) (octets : Octets) (fetched : Fetched) : Prop :=
  fetched.uid = some uid ∧ fetched.octets extent = some octets

/-- A reply tells the UID of another message. -/
def IsForeign (uid : UInt32) (fetched : Fetched) : Prop :=
  ∃ other, fetched.uid = some other ∧ other ≠ uid

/-- What a download comes to by a reply. -/
def delivery (uid : UInt32) (extent : FetchExtent) (fetched : Fetched) : Except Failure Octets :=
  match fetched.octets extent with
  | some octets => .ok octets
  | none => .error (.imap ("Server returned no data for message " ++ Folder.decimal uid))

variable {uid : UInt32} {extent : FetchExtent} {told : List Fetched} {fetched : Fetched}
  {octets : Octets}

theorem delivery_eq_ok : fetched.delivery uid extent = .ok octets ↔
    fetched.octets extent = some octets := by
  unfold delivery
  cases fetched.octets extent <;> simp

theorem choose_eq_of_counts (counts : Counts uid told fetched) : choose uid told = some fetched := by
  cases counts with
  | @own before after _ tells foremost =>
    have found : (before ++ fetched :: after).find? (fun fetched => fetched.uid == some uid) =
        some fetched :=
      List.find?_eq_some_iff_append.2 ⟨beq_iff_eq.2 tells, before, after, rfl, fun other is => by
        simpa using foremost other is⟩
    rw [choose, found]
    rfl
  | @first _ others untold =>
    have missed : (fetched :: others).find? (fun fetched => fetched.uid == some uid) = none :=
      List.find?_eq_none.2 fun other is => by simpa using untold other is
    rw [choose, missed]
    rfl

theorem counts_of_choose_eq (chosen : choose uid told = some fetched) : Counts uid told fetched := by
  unfold choose at chosen
  cases found : told.find? fun fetched => fetched.uid == some uid with
  | some own =>
    rw [found] at chosen
    cases chosen
    obtain ⟨tells, before, after, rfl, foremost⟩ := List.find?_eq_some_iff_append.1 found
    exact .own (beq_iff_eq.1 tells) fun other is => by simpa using foremost other is
  | none =>
    rw [found] at chosen
    obtain ⟨others, rfl⟩ := List.head?_eq_some_iff.1 chosen
    exact .first fun other is => by simpa using List.find?_eq_none.1 found other is

theorem counts_iff : Counts uid told fetched ↔ choose uid told = some fetched :=
  ⟨choose_eq_of_counts, counts_of_choose_eq⟩

theorem choose_eq_none : choose uid told = none ↔ told = [] := by
  rw [choose, Option.or_eq_none_iff, List.head?_eq_none_iff]
  exact ⟨And.right, fun none => ⟨by rw [none]; rfl, none⟩⟩

theorem Counts.mem (counts : Counts uid told fetched) : fetched ∈ told := by
  cases counts with
  | own => exact List.mem_append_right _ List.mem_cons_self
  | first => exact List.mem_cons_self

theorem Counts.unique {other : Fetched} (counts : Counts uid told fetched)
    (counts' : Counts uid told other) : fetched = other :=
  Option.some_inj.1 ((counts_iff.1 counts).symm.trans (counts_iff.1 counts'))

/-- Where a reply tells the UID, one that does so counts. -/
theorem Counts.uid_eq (counts : Counts uid told fetched) {own : Fetched} (is : own ∈ told)
    (tells : own.uid = some uid) : fetched.uid = some uid := by
  cases counts with
  | own tells => exact tells
  | first untold => exact absurd tells (untold own is)

/-- A reply with the UID that counts holds octets if the first reply with the UID does. -/
theorem Counts.holds_iff (counts : Counts uid told fetched) (tells : fetched.uid = some uid) :
    fetched.octets extent ≠ none ↔
      ∀ before first after, told = before ++ first :: after → first.uid = some uid →
        (∀ other ∈ before, other.uid ≠ some uid) → first.octets extent ≠ none := by
  constructor
  · rintro full before first after rfl tells foremost
    rwa [← counts.unique (.own tells foremost)]
  · intro full
    cases counts with
    | own _ foremost => exact full _ _ _ rfl tells foremost
    | first untold => exact absurd tells (untold fetched List.mem_cons_self)

end Fetched

open Fetched

/-- What a download comes to if the server has told `told`. -/
structure Fetches (uid : UInt32) (extent : FetchExtent) (told : List Fetched)
    (result : Except Failure Octets) : Prop where
  /-- The reply that counts decides alone. -/
  decides : ∀ fetched, Counts uid told fetched → result = fetched.delivery uid extent
  /-- There is one unless the server told nothing. -/
  counts : (∃ fetched, Counts uid told fetched) ↔ told ≠ []
  missing : told = [] → result = .error (.imap ("Message " ++ Folder.decimal uid ++ " not found"))
  /-- Where replies carry what is asked for, the octets of one of them are returned unless the first
  reply that tells the UID holds none. -/
  finds : (∃ fetched ∈ told, ∃ octets, fetched.Carries uid extent octets) →
    ((∃ fetched ∈ told, ∃ octets, fetched.Carries uid extent octets ∧ result = .ok octets) ↔
      ∀ before first after, told = before ++ first :: after → first.uid = some uid →
        (∀ other ∈ before, other.uid ≠ some uid) → first.octets extent ≠ none)
  /-- The octets of another message are returned where no reply tells the UID, the very first one
  tells another, and it holds octets. -/
  mistakes : (∃ fetched octets, Counts uid told fetched ∧ fetched.IsForeign uid ∧
      fetched.octets extent = some octets ∧ result = .ok octets) ↔
    (∀ fetched ∈ told, fetched.uid ≠ some uid) ∧
      ∃ first others, told = first :: others ∧ first.IsForeign uid ∧ first.octets extent ≠ none

theorem fetches_choose (uid : UInt32) (extent : FetchExtent) (told : List Fetched) :
    Fetches uid extent told
      (match choose uid told with
      | some fetched => fetched.delivery uid extent
      | none => .error (.imap ("Message " ++ Folder.decimal uid ++ " not found"))) where
  decides fetched counts := by rw [counts_iff.1 counts]
  counts := by
    have empty : choose uid told = none ↔ told = [] := choose_eq_none
    simp only [counts_iff, ← Option.isSome_iff_exists, ne_eq, ← empty, Option.isSome_iff_ne_none]
  missing none := by rw [choose_eq_none.2 none]
  finds some := by
    obtain ⟨own, is, octets, tells, holds⟩ := some
    have present : told ≠ [] := List.ne_nil_of_mem is
    obtain ⟨fetched, chosen⟩ := Option.ne_none_iff_exists'.1 (mt choose_eq_none.1 present)
    have counts := counts_iff.2 chosen
    have tells := counts.uid_eq is tells
    rw [chosen, ← counts.holds_iff tells]
    constructor
    · rintro ⟨_, _, octets, _, returned⟩
      rw [delivery_eq_ok.1 returned]
      exact Option.some_ne_none octets
    · intro full
      obtain ⟨octets, holds⟩ := Option.ne_none_iff_exists'.1 full
      exact ⟨fetched, counts.mem, octets, ⟨tells, holds⟩, delivery_eq_ok.2 holds⟩
  mistakes := by
    constructor
    · rintro ⟨fetched, octets, counts, foreign, holds, _⟩
      obtain ⟨other, tells, differs⟩ := foreign
      cases counts with
      | own own => exact absurd (Option.some_inj.1 (tells.symm.trans own)) differs
      | first untold =>
        exact ⟨untold, fetched, _, rfl, ⟨other, tells, differs⟩,
          Option.ne_none_iff_exists'.2 ⟨octets, holds⟩⟩
    · rintro ⟨untold, first, others, rfl, foreign, full⟩
      obtain ⟨octets, holds⟩ := Option.ne_none_iff_exists'.1 full
      have counts : Counts uid (first :: others) first := .first untold
      rw [counts_iff.1 counts]
      exact ⟨first, octets, counts, foreign, holds, delivery_eq_ok.2 holds⟩

/-- Whatever replies the server sends to a download, in any order and with any parts of them
missing, the first one that tells the UID decides what it comes to, or the very first one if none
does.  So a download misses what was sent where the first reply with the UID does not hold it, and
takes another message for its own where no reply tells the UID and the very first one tells another. -/
theorem fetch_fetches {ε : Type} {server : MailServer ε} {folder : Folder} {session after : ε}
    {uid : UInt32} {extent : FetchExtent} {told : List Fetched} (opened : folder.inSession = true)
    (answered : server.run (.fetchByUid (Folder.decimal uid) (Folder.downloadItems extent)) session =
      (.ok told, after)) :
    ∃ result, (Folder.fetch server uid extent).run (folder, session) = (result, folder, after) ∧
      Fetches uid extent told result := by
  refine ⟨_, ?_, fetches_choose uid extent told⟩
  have called : Folder.call server (.fetchByUid (Folder.decimal uid) (Folder.downloadItems extent))
      (folder, session) = (.ok told, folder, after) :=
    Folder.call_of_ok opened answered
  change Folder.fetch server uid extent (folder, session) = _
  rw [Folder.fetch, bind_of_ok called]
  cases choose uid told with
  | none => rfl
  | some fetched =>
    dsimp only [Fetched.delivery]
    cases fetched.octets extent <;> rfl

/-- A network on which a server tells new flags of a message before it sends the message. -/
def interrupting : Network Unit where
  connect _ _ state := (.ok [], state)
  send _ state :=
    (.ok [.data (Text.encode ("* 1 FETCH (UID 7 FLAGS (\\Seen))\r\n" ++
      "* 1 FETCH (UID 7 BODY[] \x7b5\x7d\r\nhello)\r\na1 OK done\r\n"))], state)
  close state := state

/-- What a client takes the server of `interrupting` to tell. -/
def interruption : List Fetched :=
  [⟨some 7, ["\\Seen"], none, none, none, none⟩,
    ⟨some 7, [], none, none, some (Text.encode "hello"), none⟩]

/-- A handle whose session has just begun. -/
def inbox : Folder :=
  { Folder.new ⟨"localhost", 143, .plain, "user", "secret"⟩ "INBOX" with inSession := true }

theorem fetch_fetches_interrupted :
    (∃ fetched ∈ interruption, Carries 7 .full (Text.encode "hello") fetched) ∧
      ∃ result, ((Folder.fetch (Session.server interrupting) 7 .full).run
          (inbox, Session.fresh, ())).1 = result ∧
        Fetches 7 .full interruption result ∧
        result = .error (.imap ("Server returned no data for message " ++ Folder.decimal 7)) := by
  have told : ((Session.server interrupting).run
      (.fetchByUid (Folder.decimal 7) (Folder.downloadItems .full)) (Session.fresh, ())).1 =
      .ok interruption := by
    decide +kernel
  refine ⟨⟨_, List.mem_cons_of_mem _ List.mem_cons_self, rfl, rfl⟩, ?_⟩
  cases answered : (Session.server interrupting).run
      (.fetchByUid (Folder.decimal 7) (Folder.downloadItems .full)) (Session.fresh, ()) with
  | mk outcome after =>
    rw [answered] at told
    obtain rfl : outcome = .ok interruption := told
    have opened : inbox.inSession = true := rfl
    obtain ⟨result, ran, fetches⟩ := fetch_fetches opened answered
    exact ⟨result, congrArg Prod.fst ran, fetches, fetches.decides _ (counts_iff.2 rfl)⟩

end MailReplica.Remote
