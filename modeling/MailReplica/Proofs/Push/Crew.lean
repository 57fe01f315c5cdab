import Std.Data.ExtTreeMap
import MailReplica.Push.Watchers

/-! # The crew of an account

`Watchers` says which folders have a pusher.  Here each pusher is followed by itself: it has a number
that tells it from other pushers of its folder (`Member`), the account has a hold on it (`Hold`), and
what is done with it is written down in the order in which it is done (`Crew.dealings`).  Folders are
dismissed and engaged one by one, those to dismiss in any order (`Crew.Serves`).

What was done with a member is told by whether the account still holds it (`Crew.Sound`): a member
that is held began and no more, and one that is not held any more began, was told to end, and was
waited for once.  Every call keeps it so.
-/

namespace MailReplica.Push

/-! ## Members -/

/-- A pusher that was started for a folder. -/
structure Member where
  /-- How many pushers were started before it. -/
  number : Nat
  folder : String
  deriving DecidableEq

/-- What is done with a member of a crew. -/
inductive Dealing where
  /-- Its thread begins. -/
  | begins (member : Member)
  /-- It is told to end: the stop signal is given, and its idler is stopped. -/
  | halts (member : Member)
  /-- Its thread is waited for, until it has ended. -/
  | joins (member : Member)
  deriving DecidableEq

namespace Dealing

def member : Dealing → Member
  | begins member | halts member | joins member => member

/-- The order that a dealing carries out.  Telling a member to end has done nothing as long as its
thread goes on. -/
def order? : Dealing → Option Order
  | begins member => some (.start member.folder)
  | joins member => some (.stop member.folder)
  | halts _ => none

end Dealing

/-- The hold that an account has on a pusher. -/
structure Hold where
  member : Member
  /-- Whether a thread was begun and not waited for. -/
  thread : Bool
  deriving DecidableEq

namespace Hold

def new (member : Member) : Hold :=
  ⟨member, false⟩

def start (hold : Hold) : List Dealing × Hold :=
  if hold.thread then ([], hold) else ([.begins hold.member], { hold with thread := true })

/-- Tells a pusher to end, and waits for its thread if there is one to wait for. -/
def stop (hold : Hold) : List Dealing × Hold :=
  (.halts hold.member :: if hold.thread then [.joins hold.member] else [],
    { hold with thread := false })

end Hold

/-! ## Crews -/

structure Crew where
  /-- The hold on the pusher of each folder that has one. -/
  holds : Std.ExtTreeMap String Hold
  /-- How many pushers were started. -/
  started : Nat
  /-- What was done, in its order. -/
  dealings : List Dealing

namespace Crew

def new : Crew :=
  ⟨∅, 0, []⟩

/-- The folders that have a pusher, in order. -/
def folders (crew : Crew) : List String :=
  crew.holds.keys

/-- Stops the pusher of a folder and gives it up; a pusher that is given up is stopped once more. -/
def dismiss (crew : Crew) (folder : String) : Crew :=
  match crew.holds[folder]? with
  | none => crew
  | some hold =>
    let (stopping, stopped) := hold.stop
    { crew with
      holds := crew.holds.erase folder
      dealings := crew.dealings ++ (stopping ++ stopped.stop.1) }

/-- Starts a pusher for a folder that has none. -/
def engage (crew : Crew) (folder : String) : Crew :=
  if crew.holds.contains folder then crew
  else
    let (starting, hold) := (Hold.new ⟨crew.started, folder⟩).start
    ⟨crew.holds.insert folder hold, crew.started + 1, crew.dealings ++ starting⟩

end Crew

/-- What an account is asked to do about its pushers. -/
inductive Call where
  | start (listed : List String)
  | update (listed : List String)
  | stop

namespace Call

/-- The folders to watch from then on. -/
def listed : Call → List String
  | start listed | update listed => listed
  | stop => []

end Call

/-- The orders of a call, and who is watched after it. -/
def Watchers.serve (watchers : Watchers) : Call → List Order × Watchers
  | .start listed | .update listed => watchers.update listed
  | .stop => watchers.stop

/-- A crew can come to another one by a call: the folders that are no longer listed are dismissed, in
any order, and then those of the list are engaged, in its order. -/
inductive Crew.Serves (crew : Crew) : Call → Crew → Prop
  | start {listed gone : List String}
      (removed : gone.Perm (crew.folders.filter fun folder => !listed.contains folder)) :
      Serves crew (.start listed) (listed.foldl engage (gone.foldl dismiss crew))
  | update {listed gone : List String}
      (removed : gone.Perm (crew.folders.filter fun folder => !listed.contains folder)) :
      Serves crew (.update listed) (listed.foldl engage (gone.foldl dismiss crew))
  | stop {gone : List String} (drained : gone.Perm crew.folders) :
      Serves crew .stop (gone.foldl dismiss crew)

/-- An account can have come to its watchers and to its crew by a history of calls, latest first. -/
inductive Served : List Call → Watchers → Crew → Prop
  | new : Served [] .empty .new
  | call {past : List Call} {watchers : Watchers} {crew after : Crew} {call : Call}
      (served : Served past watchers crew) (serves : crew.Serves call after) :
      Served (call :: past) (watchers.serve call).2 after

/-! ## What was done with a member -/

/-- What is done with a member that is started. -/
def Member.beginning (member : Member) : List Dealing :=
  [.begins member]

/-- What is done with a member that is stopped and given up. -/
def Member.ending (member : Member) : List Dealing :=
  [.halts member, .joins member, .halts member]

/-- Those of some dealings that are done with a member. -/
def about (member : Member) (dealings : List Dealing) : List Dealing :=
  dealings.filter fun dealing => dealing.member = member

/-- The thread of a member was begun and not waited for. -/
def LiveAfter (dealings : List Dealing) (member : Member) : Prop :=
  .begins member ∈ dealings ∧ .joins member ∉ dealings

theorem about_append (member : Member) (first second : List Dealing) :
    about member (first ++ second) = about member first ++ about member second :=
  List.filter_append ..

theorem mem_about {member : Member} {dealing : Dealing} (own : dealing.member = member)
    {dealings : List Dealing} : dealing ∈ about member dealings ↔ dealing ∈ dealings := by
  rw [about, List.mem_filter]
  exact and_iff_left (decide_eq_true own)

theorem about_self {member : Member} {dealings : List Dealing}
    (own : ∀ dealing ∈ dealings, dealing.member = member) : about member dealings = dealings :=
  List.filter_eq_self.2 fun dealing is => decide_eq_true (own dealing is)

theorem about_other {member other : Member} {dealings : List Dealing}
    (own : ∀ dealing ∈ dealings, dealing.member = member) (differs : other ≠ member) :
    about other dealings = [] :=
  List.filter_eq_nil_iff.2 fun dealing is same =>
    differs ((of_decide_eq_true same).symm.trans (own dealing is))

theorem Member.member_of_mem_ending {member : Member} {dealing : Dealing}
    (is : dealing ∈ member.ending) : dealing.member = member := by
  simp only [ending, List.mem_cons, List.not_mem_nil, or_false] at is
  obtain rfl | rfl | rfl := is <;> rfl

theorem Member.member_of_mem_beginning {member : Member} {dealing : Dealing}
    (is : dealing ∈ member.beginning) : dealing.member = member := by
  rw [List.mem_singleton.1 is]
  rfl

namespace Crew

variable {crew : Crew} {member : Member} {folder : String}

/-- The account holds a member, whose thread was not waited for. -/
def Holds (crew : Crew) (member : Member) : Prop :=
  crew.holds[member.folder]? = some ⟨member, true⟩

/-- The thread of a member goes on after what was done. -/
def Live (crew : Crew) (member : Member) : Prop :=
  LiveAfter crew.dealings member

/-- What was done with each member is told by whether the account holds it. -/
structure Sound (crew : Crew) : Prop where
  /-- What is held under the name of a folder is a pusher of that folder, with its thread. -/
  own : ∀ (folder : String) (hold : Hold), crew.holds[folder]? = some hold →
    ∃ number < crew.started, hold = ⟨⟨number, folder⟩, true⟩
  held : ∀ member, crew.Holds member → about member crew.dealings = member.beginning
  unheld : ∀ member, ¬ crew.Holds member →
    about member crew.dealings = [] ∨ about member crew.dealings = member.beginning ++ member.ending
  fresh : ∀ member, crew.started ≤ member.number → about member crew.dealings = []

theorem mem_folders : folder ∈ crew.folders ↔ folder ∈ crew.holds :=
  Std.ExtTreeMap.mem_keys

theorem Sound.exists_holds (sound : crew.Sound) (is : folder ∈ crew.holds) :
    ∃ member, crew.Holds member ∧ member.folder = folder := by
  obtain ⟨hold, found⟩ := Option.isSome_iff_exists.1 (Std.ExtTreeMap.mem_iff_isSome_getElem?.1 is)
  obtain ⟨number, _, rfl⟩ := sound.own folder hold found
  exact ⟨⟨number, folder⟩, found, rfl⟩

theorem Holds.mem (holds : crew.Holds member) : member.folder ∈ crew.holds :=
  Std.ExtTreeMap.mem_iff_isSome_getElem?.2 (Option.isSome_of_eq_some holds)

/-- A folder is held for one member. -/
theorem Holds.unique {other : Member} (holds : crew.Holds member) (holds' : crew.Holds other)
    (same : member.folder = other.folder) : member = other := by
  unfold Holds at holds holds'
  rw [same, holds'] at holds
  cases holds
  rfl

theorem Sound.number_lt (sound : crew.Sound) (holds : crew.Holds member) :
    member.number < crew.started := by
  obtain ⟨number, before, same⟩ := sound.own member.folder _ holds
  rw [(Hold.mk.inj same).1]
  exact before

theorem Sound.live_iff (sound : crew.Sound) : crew.Live member ↔ crew.Holds member := by
  have begins : .begins member ∈ crew.dealings ↔ .begins member ∈ about member crew.dealings :=
    (mem_about rfl).symm
  have joins : .joins member ∈ crew.dealings ↔ .joins member ∈ about member crew.dealings :=
    (mem_about rfl).symm
  rw [Live, LiveAfter, begins, joins]
  by_cases holds : crew.Holds member
  · simp [sound.held member holds, holds, Member.beginning]
  · obtain none | both := sound.unheld member holds
    · simp [none, holds]
    · simp [both, holds, Member.beginning, Member.ending]

/-- A thread is begun once at most, and waited for once at most. -/
theorem Sound.count_le_one (sound : crew.Sound) {dealing : Dealing}
    (tells : dealing = .begins member ∨ dealing = .joins member) :
    crew.dealings.count dealing ≤ 1 := by
  have own : dealing.member = member := by obtain rfl | rfl := tells <;> rfl
  rw [← List.count_filter (p := fun dealing => dealing.member = member) (decide_eq_true own)]
  change (about member crew.dealings).count dealing ≤ 1
  by_cases holds : crew.Holds member
  · rw [sound.held member holds]
    exact List.count_le_length
  · obtain none | both := sound.unheld member holds
    · rw [none]
      exact Nat.zero_le 1
    · rw [both]
      obtain rfl | rfl := tells <;> simp [Member.beginning, Member.ending]

theorem Sound.new : Sound .new where
  own folder hold found := by
    rw [Crew.new, Std.ExtTreeMap.getElem?_empty] at found
    cases found
  held member holds := by
    rw [Holds, Crew.new, Std.ExtTreeMap.getElem?_empty] at holds
    cases holds
  unheld _ _ := .inl rfl
  fresh _ _ := rfl

/-- Something is done with one member, and the hold on it changes along with that. -/
theorem Sound.of_changed {after : Crew} (sound : crew.Sound) (changed : Member) (more : List Dealing)
    (own : ∀ (folder : String) (hold : Hold), after.holds[folder]? = some hold →
      ∃ number < after.started, hold = ⟨⟨number, folder⟩, true⟩)
    (dealings : after.dealings = crew.dealings ++ more)
    (alone : ∀ dealing ∈ more, dealing.member = changed)
    (others : ∀ member, member ≠ changed → (after.Holds member ↔ crew.Holds member))
    (later : crew.started ≤ after.started) (born : changed.number < after.started)
    (course : after.Holds changed ∧ about changed crew.dealings ++ more = changed.beginning ∨
      ¬ after.Holds changed ∧
        about changed crew.dealings ++ more = changed.beginning ++ changed.ending) :
    after.Sound := by
  have now : about changed after.dealings = about changed crew.dealings ++ more := by
    rw [dealings, about_append, about_self alone]
  have kept (member : Member) (differs : member ≠ changed) :
      about member after.dealings = about member crew.dealings := by
    rw [dealings, about_append, about_other alone differs, List.append_nil]
  refine ⟨own, fun member holds => ?_, fun member unheld => ?_, fun member unborn => ?_⟩
  · by_cases same : member = changed
    · subst same
      obtain ⟨_, course⟩ | ⟨unheld, _⟩ := course
      · exact now.trans course
      · exact absurd holds unheld
    · rw [kept member same]
      exact sound.held member ((others member same).1 holds)
  · by_cases same : member = changed
    · subst same
      obtain ⟨holds, _⟩ | ⟨_, course⟩ := course
      · exact absurd holds unheld
      · exact .inr (now.trans course)
    · rw [kept member same]
      exact sound.unheld member fun holds => unheld ((others member same).2 holds)
  · have differs : member ≠ changed := by
      rintro rfl
      exact Nat.not_le_of_lt born unborn
    rw [kept member differs]
    exact sound.fresh member (Nat.le_trans later unborn)

/-! ## Dismissing -/

theorem dismiss_of_not_mem (absent : folder ∉ crew.holds) : crew.dismiss folder = crew := by
  rw [dismiss, Std.ExtTreeMap.getElem?_eq_none absent]

theorem dismiss_of_holds (holds : crew.Holds member) :
    crew.dismiss member.folder =
      { crew with
        holds := crew.holds.erase member.folder, dealings := crew.dealings ++ member.ending } := by
  unfold Holds at holds
  rw [dismiss, holds]
  rfl

theorem getElem?_dismiss (folder other : String) :
    (crew.dismiss folder).holds[other]? = if folder = other then none else crew.holds[other]? := by
  unfold dismiss
  split
  next found =>
    by_cases same : folder = other
    · rw [if_pos same, ← same, found]
    · rw [if_neg same]
  next =>
    simp only [Std.ExtTreeMap.getElem?_erase, Std.LawfulEqCmp.compare_eq_iff_eq]

theorem Sound.dismiss (sound : crew.Sound) (folder : String) : (crew.dismiss folder).Sound := by
  by_cases is : folder ∈ crew.holds
  case neg => rwa [dismiss_of_not_mem is]
  obtain ⟨gone, holds, rfl⟩ := sound.exists_holds is
  have started : (crew.dismiss gone.folder).started = crew.started := by rw [dismiss_of_holds holds]
  refine sound.of_changed gone gone.ending (fun folder hold found => ?_)
    (by rw [dismiss_of_holds holds]) (fun _ => Member.member_of_mem_ending)
    (fun member differs => ?_) (Nat.le_of_eq started.symm) ?_ (.inr ⟨?_, ?_⟩)
  · rw [getElem?_dismiss] at found
    rw [started]
    split at found
    · cases found
    · exact sound.own folder hold found
  · rw [Holds, getElem?_dismiss]
    split
    next same => exact iff_of_false nofun fun held => differs (held.unique holds same.symm)
    next => exact Iff.rfl
  · rw [started]
    exact sound.number_lt holds
  · rw [Holds, getElem?_dismiss, if_pos rfl]
    exact nofun
  · rw [sound.held gone holds]

/-! ## Engaging -/

theorem engage_of_mem (is : folder ∈ crew.holds) : crew.engage folder = crew :=
  if_pos (Std.ExtTreeMap.contains_iff_mem.2 is)

theorem engage_of_not_mem (absent : folder ∉ crew.holds) :
    crew.engage folder =
      ⟨crew.holds.insert folder ⟨⟨crew.started, folder⟩, true⟩, crew.started + 1,
        crew.dealings ++ Member.beginning ⟨crew.started, folder⟩⟩ :=
  if_neg fun is => absent (Std.ExtTreeMap.contains_iff_mem.1 is)

theorem getElem?_engage (absent : folder ∉ crew.holds) (other : String) :
    (crew.engage folder).holds[other]? =
      if folder = other then some ⟨⟨crew.started, folder⟩, true⟩ else crew.holds[other]? := by
  rw [engage_of_not_mem absent]
  simp only [Std.ExtTreeMap.getElem?_insert, Std.LawfulEqCmp.compare_eq_iff_eq]

theorem Sound.engage (sound : crew.Sound) (folder : String) : (crew.engage folder).Sound := by
  by_cases is : folder ∈ crew.holds
  case pos => rwa [engage_of_mem is]
  have started : (crew.engage folder).started = crew.started + 1 := by rw [engage_of_not_mem is]
  refine sound.of_changed ⟨crew.started, folder⟩ (Member.beginning ⟨crew.started, folder⟩)
    (fun other hold found => ?_)
    (by rw [engage_of_not_mem is]) (fun _ => Member.member_of_mem_beginning)
    (fun member differs => ?_) (by rw [started]; exact Nat.le_succ _)
    (by rw [started]; exact Nat.lt_succ_self _) (.inl ⟨?_, ?_⟩)
  · rw [getElem?_engage is] at found
    rw [started]
    split at found
    next same =>
      cases found
      exact ⟨crew.started, Nat.lt_succ_self _, same ▸ rfl⟩
    next =>
      obtain ⟨number, before, rfl⟩ := sound.own other hold found
      exact ⟨number, Nat.lt_succ_of_lt before, rfl⟩
  · rw [Holds, getElem?_engage is]
    split
    next same =>
      refine iff_of_false (fun held => ?_) fun held : crew.Holds member => is (same ▸ held.mem)
      simp only [Option.some.injEq, Hold.mk.injEq, and_true] at held
      exact differs held.symm
    next => exact Iff.rfl
  · rw [Holds, getElem?_engage is, if_pos rfl]
  · rw [sound.fresh _ (Nat.le_refl _)]
    rfl

end Crew

end MailReplica.Push
