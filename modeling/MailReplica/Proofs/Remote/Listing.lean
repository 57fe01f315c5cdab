import Mathlib.Data.List.Nodup
import MailReplica.Proofs.Remote.Handle

/-! # What a handle on a folder lists

`Serves` is what is documented of a server with a mailbox: how many messages it tells, which of them
a search finds, and what it tells of messages that are asked for.  On such a server a handle lists
exactly the messages with the asked numbers that came on the day of the cutoff or later, where each
date tells its day on its own clock (`list_since`).
-/

namespace MailReplica.Remote

structure Posted where
  uid : UInt32
  /-- The flags, as the server writes them. -/
  atoms : List String
  date : DatedInstant
  size : UInt32

def Posted.listed (message : Posted) : Listed :=
  ⟨message.uid, Std.ExtTreeSet.ofList (message.atoms.filterMap Flag.ofAtom?), some message.date,
    some message.size⟩

/-- The messages of a mailbox with the numbers from `first` to `last`. -/
def numbered (posted : List Posted) (first last : UInt32) : List Posted :=
  (posted.take last.toNat).drop (first.toNat - 1)

/-- The messages that came on the day of the cutoff or later, where each date tells its day on its own
clock. -/
def since (cutoff : DatedInstant) (posted : List Posted) : List Posted :=
  posted.filter fun message => decide (cutoff.day ≤ message.date.day)

theorem mem_since {cutoff : DatedInstant} {posted : List Posted} {message : Posted} :
    message ∈ since cutoff posted ↔ message ∈ posted ∧ cutoff.day ≤ message.date.day := by
  rw [since, List.mem_filter, decide_eq_true_iff]

theorem numbered_sublist (posted : List Posted) (first last : UInt32) :
    (numbered posted first last).Sublist posted :=
  (List.drop_sublist _ _).trans (List.take_sublist _ _)

/-- A server whose mailbox `folder` holds the messages `posted`, in the order of their numbers.
`IsOpen` says in which states the mailbox is open. -/
structure Serves {ε : Type} (server : MailServer ε) (folder : String) (posted : List Posted)
    (cutoff : DatedInstant) (IsOpen : ε → Prop) : Prop where
  distinct : (posted.map Posted.uid).Nodup
  select {mode : OpenMode} {state next : ε} {told : Selected} :
    server.run (.select mode folder) state = (.ok told, next) →
    told.count.toNat = posted.length ∧ IsOpen next
  search {first last : UInt32} {state next : ε} {found : Std.ExtTreeSet UInt32} : IsOpen state →
    server.run (.search (Folder.sinceKey (Folder.decimal first ++ ":" ++ Folder.decimal last)
      cutoff)) state = (.ok found, next) →
    (∀ uid, uid ∈ found ↔
      ∃ message ∈ since cutoff (numbered posted first last), message.uid = uid) ∧ IsOpen next
  fetch {uids : List UInt32} {state next : ε} {told : List Fetched} : IsOpen state →
    uids ≠ [] → uids.Nodup → (∀ uid ∈ uids, uid ∈ posted.map Posted.uid) →
    server.run (.fetchByUid (String.intercalate "," (uids.map Folder.decimal))
      Folder.listingItems) state = (.ok told, next) →
    (told.filterMap Fetched.listed?).Perm
      ((posted.filter fun message => decide (message.uid ∈ uids)).map Posted.listed)

namespace Folder

variable {ε : Type} {server : MailServer ε}

theorem nodup_toList (found : Std.ExtTreeSet UInt32) : found.toList.Nodup := by
  refine List.Pairwise.imp ?_ Std.ExtTreeSet.distinct_toList
  rintro uid _ differ rfl
  exact differ Std.ReflCmp.compare_self

theorem found_perm {posted range : List Posted} {found : Std.ExtTreeSet UInt32}
    (distinct : (posted.map Posted.uid).Nodup)
    (within : range.Sublist posted)
    (finds : ∀ uid, uid ∈ found ↔ ∃ message ∈ range, message.uid = uid) :
    (posted.filter fun message => decide (message.uid ∈ found.toList)).Perm range := by
  have nodup : posted.Nodup := List.Nodup.of_map Posted.uid distinct
  rw [List.perm_ext_iff_of_nodup (nodup.filter _) (nodup.sublist within)]
  intro message
  simp only [List.mem_filter, decide_eq_true_eq, Std.ExtTreeSet.mem_toList, finds]
  constructor
  · rintro ⟨member, other, inRange, same⟩
    obtain rfl := List.inj_on_of_nodup_map distinct (within.subset inRange) member same
    exact inRange
  · intro inRange
    exact ⟨within.subset inRange, message, inRange, rfl⟩

/-- A handle lists the messages in a range that came on the day of the cutoff or later. -/
theorem list_since {folder : String} {posted : List Posted} {cutoff : DatedInstant}
    {IsOpen : ε → Prop} (serves : Serves server folder posted cutoff IsOpen) {first last : UInt32}
    (range : first ≠ 0 ∧ first ≤ last) {before after : Folder × ε} (isOpen : IsOpen before.2)
    {listed : List Listed}
    (ran : list server first last (some cutoff) before = (.ok listed, after)) :
    listed.Perm ((since cutoff (numbered posted first last)).map Posted.listed) := by
  have valid : ¬(first = 0 ∨ last < first) := by
    rintro (zero | less)
    · exact range.1 zero
    · exact absurd range.2 (UInt32.not_le.2 less)
  have within : (since cutoff (numbered posted first last)).Sublist posted :=
    List.filter_sublist.trans (numbered_sublist posted first last)
  unfold list at ran
  rw [if_neg valid] at ran
  dsimp only at ran
  obtain ⟨found, middle, called, ran⟩ := bind_ok ran
  obtain ⟨next, answered, rfl⟩ := call_ok called
  obtain ⟨finds, isOpen'⟩ := serves.search isOpen answered
  have perm := (found_perm serves.distinct within finds).map Posted.listed
  -- Nothing is asked for when nothing was found.
  by_cases none : found.toList.isEmpty = true
  · rw [if_pos none] at ran
    cases ran
    rw [List.isEmpty_iff] at none
    rw [none] at perm
    simpa using perm
  · rw [if_neg none] at ran
    obtain ⟨told, middle, called', ran⟩ := bind_ok ran
    obtain ⟨next', answered', rfl⟩ := call_ok called'
    cases ran
    have posts : ∀ uid ∈ found.toList, uid ∈ posted.map Posted.uid := by
      intro uid member
      obtain ⟨message, inRange, rfl⟩ := (finds uid).1 (Std.ExtTreeSet.mem_toList.1 member)
      exact List.mem_map_of_mem (within.subset inRange)
    rw [List.isEmpty_iff] at none
    exact (serves.fetch isOpen' none (nodup_toList found) posts answered').trans perm

end Folder

end MailReplica.Remote
