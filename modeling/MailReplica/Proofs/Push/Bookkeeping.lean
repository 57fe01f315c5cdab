import Mathlib.Data.List.Infix
import Mathlib.Data.List.Nodup
import Mathlib.Data.List.Perm.Basic
import MailReplica.Proofs.Idle.CleanUp
import MailReplica.Proofs.Push.Crew
import MailReplica.Proofs.Push.Life

/-! # The bookkeeping of an account

What is done when many folders are dismissed and engaged is a list of dealings with one part for each
member (`Crew.Sound.dealings_foldl_dismiss`, `Crew.dealings_foldl_engage`), so a call is told by who
leaves and who is new (`Crew.Turnover`).  After any history of calls the crew is sound, no two of its
members were ever at work for one folder at the same time (`Served.single`), and the watchers know
the same folders as the crew (`Served.mem_live`).  So the orders that the watchers give are the
dealings of a call, and each call does what it has to and nothing else (`Served.conducted`,
`served_bookkept`).
-/

namespace MailReplica.Push

open Idle (Lived)

/-! ## Dismissing and engaging many -/

namespace Crew

variable {crew : Crew} {gone listed : List String}

theorem Sound.foldl_dismiss (sound : crew.Sound) (gone : List String) :
    (gone.foldl Crew.dismiss crew).Sound := by
  induction gone generalizing crew with
  | nil => exact sound
  | cons folder gone ih => exact ih (sound.dismiss folder)

theorem Sound.foldl_engage (sound : crew.Sound) (listed : List String) :
    (listed.foldl Crew.engage crew).Sound := by
  induction listed generalizing crew with
  | nil => exact sound
  | cons folder listed ih => exact ih (sound.engage folder)

theorem getElem?_foldl_dismiss (crew : Crew) (gone : List String) (folder : String) :
    (gone.foldl Crew.dismiss crew).holds[folder]? =
      if folder ∈ gone then none else crew.holds[folder]? := by
  induction gone generalizing crew with
  | nil => rfl
  | cons first gone ih =>
    rw [List.foldl_cons, ih, getElem?_dismiss]
    by_cases same : first = folder
    · simp [same]
    · simp [same, Ne.symm same]

/-- Each member that is dismissed ends, one after the other. -/
theorem Sound.dealings_foldl_dismiss (sound : crew.Sound) (distinct : gone.Nodup)
    (found : ∀ folder ∈ gone, folder ∈ crew.holds) :
    ∃ members : List Member, members.map Member.folder = gone ∧
      (∀ member ∈ members, crew.Holds member) ∧
      (gone.foldl Crew.dismiss crew).dealings = crew.dealings ++ members.flatMap Member.ending := by
  induction gone generalizing crew with
  | nil => exact ⟨[], rfl, nofun, (List.append_nil _).symm⟩
  | cons folder gone ih =>
    obtain ⟨once, others⟩ := List.nodup_cons.1 distinct
    obtain ⟨here, later⟩ := List.forall_mem_cons.1 found
    obtain ⟨member, holds, rfl⟩ := sound.exists_holds here
    have kept (next : String) (is : next ∈ gone) :
        (crew.dismiss member.folder).holds[next]? = crew.holds[next]? := by
      have differs : member.folder ≠ next := fun same => once (same ▸ is)
      rw [getElem?_dismiss, if_neg differs]
    obtain ⟨members, folders, held, dealings⟩ := ih (sound.dismiss member.folder) others
      fun next is => by
        rw [Std.ExtTreeMap.mem_iff_isSome_getElem?, kept next is]
        exact Std.ExtTreeMap.mem_iff_isSome_getElem?.1 (later next is)
    refine ⟨member :: members, by rw [List.map_cons, folders], ?_, ?_⟩
    · refine List.forall_mem_cons.2 ⟨holds, fun next is => ?_⟩
      have gone : next.folder ∈ gone := folders ▸ List.mem_map_of_mem is
      exact (kept next.folder gone).symm.trans (held next is)
    · rw [List.foldl_cons, dealings, dismiss_of_holds holds, List.flatMap_cons, List.append_assoc]

/-- The folders of a list that have no pusher, each once. -/
def entering (crew : Crew) (listed : List String) : List String :=
  (listed.filter fun folder => !crew.holds.contains folder).eraseDups

theorem mem_entering {folder : String} :
    folder ∈ crew.entering listed ↔ folder ∈ listed ∧ folder ∉ crew.holds := by
  rw [entering, List.mem_eraseDups, List.mem_filter, Bool.not_eq_true', ← Bool.not_eq_true,
    Std.ExtTreeMap.contains_iff_mem]

theorem entering_cons_of_mem {folder : String} (is : folder ∈ crew.holds) :
    crew.entering (folder :: listed) = crew.entering listed := by
  rw [entering, List.filter_cons_of_neg (by simp [Std.ExtTreeMap.contains_iff_mem.2 is])]
  rfl

theorem entering_cons_of_not_mem {folder : String} (absent : folder ∉ crew.holds) :
    crew.entering (folder :: listed) = folder :: (crew.engage folder).entering listed := by
  have new : (!crew.holds.contains folder) = true := by
    rw [Bool.not_eq_true', ← Bool.not_eq_true, Std.ExtTreeMap.contains_iff_mem]
    exact absent
  rw [entering, List.filter_cons, if_pos new, List.eraseDups_cons, List.filter_filter, entering]
  refine congrArg (fun others => folder :: List.eraseDups others) (List.filter_congr fun other _ => ?_)
  rw [engage_of_not_mem absent, Std.ExtTreeMap.contains_insert, Bool.not_or]
  refine congrArg (· && _) (congrArg (!·) ?_)
  rw [Bool.eq_iff_iff, beq_iff_eq, beq_iff_eq, Std.LawfulEqCmp.compare_eq_iff_eq, eq_comm]

theorem nodup_entering (crew : Crew) (listed : List String) : (crew.entering listed).Nodup := by
  induction listed generalizing crew with
  | nil => exact List.nodup_nil
  | cons folder listed ih =>
    by_cases is : folder ∈ crew.holds
    · rw [entering_cons_of_mem is]
      exact ih crew
    · rw [entering_cons_of_not_mem is]
      refine List.nodup_cons.2 ⟨fun again => (mem_entering.1 again).2 ?_, ih _⟩
      rw [engage_of_not_mem is]
      exact Std.ExtTreeMap.mem_insert_self

/-- A member begins for each folder of a list that has no pusher, one after the other. -/
theorem dealings_foldl_engage (crew : Crew) (listed : List String) :
    ∃ members : List Member, members.map Member.folder = crew.entering listed ∧
      (∀ member ∈ members, crew.started ≤ member.number) ∧
      (listed.foldl Crew.engage crew).dealings =
        crew.dealings ++ members.flatMap Member.beginning := by
  induction listed generalizing crew with
  | nil => exact ⟨[], rfl, nofun, (List.append_nil _).symm⟩
  | cons folder listed ih =>
    obtain ⟨members, folders, fresh, dealings⟩ := ih (crew.engage folder)
    by_cases is : folder ∈ crew.holds
    · rw [engage_of_mem is] at folders fresh dealings
      exact ⟨members, by rw [entering_cons_of_mem is, folders], fresh,
        by rw [List.foldl_cons, engage_of_mem is, dealings]⟩
    · refine ⟨⟨crew.started, folder⟩ :: members,
        by rw [entering_cons_of_not_mem is, List.map_cons, folders], ?_, ?_⟩
      · refine List.forall_mem_cons.2 ⟨Nat.le_refl _, fun member later => ?_⟩
        have := fresh member later
        rw [engage_of_not_mem is] at this
        exact Nat.le_of_succ_le this
      · rw [List.foldl_cons, dealings, engage_of_not_mem is, List.flatMap_cons, List.append_assoc]

/-- Folders that have a pusher keep it. -/
theorem getElem?_foldl_engage {folder : String} (is : folder ∈ crew.holds) (listed : List String) :
    (listed.foldl Crew.engage crew).holds[folder]? = crew.holds[folder]? := by
  induction listed generalizing crew with
  | nil => rfl
  | cons first listed ih =>
    rw [List.foldl_cons]
    by_cases known : first ∈ crew.holds
    · rw [engage_of_mem known, ih is]
    · have differs : first ≠ folder := fun same => known (same ▸ is)
      have same : (crew.engage first).holds[folder]? = crew.holds[folder]? := by
        rw [getElem?_engage known, if_neg differs]
      have still : folder ∈ (crew.engage first).holds := by
        rw [Std.ExtTreeMap.mem_iff_isSome_getElem?, same]
        exact Std.ExtTreeMap.mem_iff_isSome_getElem?.1 is
      rw [ih still, same]

theorem mem_foldl_engage {folder : String} :
    folder ∈ (listed.foldl Crew.engage crew).holds ↔ folder ∈ crew.holds ∨ folder ∈ listed := by
  induction listed generalizing crew with
  | nil => simp
  | cons first listed ih =>
    rw [List.foldl_cons, ih, List.mem_cons]
    by_cases known : first ∈ crew.holds
    · rw [engage_of_mem known]
      refine or_congr_right' fun absent => (or_iff_right ?_).symm
      rintro rfl
      exact absent known
    · rw [engage_of_not_mem known, Std.ExtTreeMap.mem_insert, Std.LawfulEqCmp.compare_eq_iff_eq,
        eq_comm, or_comm (a := folder = first), or_assoc]

/-! ## One pusher for a folder -/

/-- At every moment up to now, no two pushers of a folder were at work. -/
def Single (crew : Crew) : Prop :=
  ∀ past, past <+: crew.dealings → ∀ member other, LiveAfter past member → LiveAfter past other →
    member.folder = other.folder → member = other

theorem Sound.unique (sound : crew.Sound) {member other : Member} (live : crew.Live member)
    (live' : crew.Live other) (same : member.folder = other.folder) : member = other :=
  (sound.live_iff.1 live).unique (sound.live_iff.1 live') same

theorem Single.dismiss (single : crew.Single) (sound : crew.Sound) (folder : String) :
    (crew.dismiss folder).Single := by
  by_cases is : folder ∈ crew.holds
  case neg => rwa [dismiss_of_not_mem is]
  obtain ⟨gone, holds, rfl⟩ := sound.exists_holds is
  rw [dismiss_of_holds holds]
  intro past before member other live live' same
  obtain early | ⟨part, rfl⟩ := List.prefix_or_prefix_of_prefix before (List.prefix_append _ _)
  · exact single past early member other live live' same
  · have begun := (List.prefix_append_right_inj _).1 before
    -- Whoever is at work in the middle of a dismissal was at work before it.
    have earlier {member : Member} (live : LiveAfter (crew.dealings ++ part) member) :
        crew.Live member := by
      refine ⟨(List.mem_append.1 live.1).resolve_right fun is => ?_,
        fun is => live.2 (List.mem_append_left _ is)⟩
      simpa [Member.ending] using begun.subset is
    exact sound.unique (earlier live) (earlier live') same

theorem Single.engage (single : crew.Single) (sound : crew.Sound) (folder : String) :
    (crew.engage folder).Single := by
  by_cases is : folder ∈ crew.holds
  case pos => rwa [engage_of_mem is]
  have after := sound.engage folder
  intro past before member other live live' same
  have dealings : (crew.engage folder).dealings =
      crew.dealings ++ Member.beginning ⟨crew.started, folder⟩ := by rw [engage_of_not_mem is]
  rw [dealings, Member.beginning, List.prefix_concat_iff] at before
  obtain rfl | before := before
  · rw [← Member.beginning, ← dealings] at live live'
    exact after.unique live live' same
  · exact single past before member other live live' same

theorem Single.foldl_dismiss (single : crew.Single) (sound : crew.Sound) (gone : List String) :
    (gone.foldl Crew.dismiss crew).Single := by
  induction gone generalizing crew with
  | nil => exact single
  | cons folder gone ih => exact ih (single.dismiss sound folder) (sound.dismiss folder)

theorem Single.foldl_engage (single : crew.Single) (sound : crew.Sound) (listed : List String) :
    (listed.foldl Crew.engage crew).Single := by
  induction listed generalizing crew with
  | nil => exact single
  | cons folder listed ih => exact ih (single.engage sound folder) (sound.engage folder)

/-! ## Calls -/

/-- A call dismisses the folders that are no longer listed and then engages those of the list. -/
theorem Serves.exists_gone {call : Call} {after : Crew} (serves : crew.Serves call after) :
    ∃ gone : List String,
      gone.Perm (crew.folders.filter fun folder => !call.listed.contains folder) ∧
        after = call.listed.foldl Crew.engage (gone.foldl Crew.dismiss crew) := by
  cases serves with
  | start removed | update removed => exact ⟨_, removed, rfl⟩
  | stop drained =>
    exact ⟨_, (List.filter_eq_self.2 fun _ _ => rfl) ▸ drained, rfl⟩

theorem folders_ordered (crew : Crew) : crew.folders.Pairwise (compare · · = .lt) :=
  Std.ExtTreeMap.ordered_keys

theorem nodup_folders (crew : Crew) : crew.folders.Nodup :=
  Std.ExtTreeMap.distinct_keys.imp fun differs same =>
    differs (Std.LawfulEqCmp.compare_eq_iff_eq.2 same)

end Crew

namespace Watchers

theorem mem_folders {watchers : Watchers} {folder : String} :
    folder ∈ watchers.folders ↔ folder ∈ watchers.live :=
  Std.ExtTreeSet.mem_toList

/-- After a call the folders of its list are watched and no others. -/
theorem mem_serve {watchers : Watchers} {call : Call} {folder : String} :
    folder ∈ (watchers.serve call).2.live ↔ folder ∈ call.listed := by
  cases call with
  | start listed | update listed =>
    exact Std.ExtTreeSet.mem_ofList.trans List.contains_iff_mem
  | stop => exact iff_of_false Std.ExtTreeSet.not_mem_empty nofun

/-- A call stops those that leave and then starts those that enter. -/
theorem orders_serve (watchers : Watchers) (call : Call) :
    (watchers.serve call).1 =
      (watchers.folders.filter fun folder => !call.listed.contains folder).map .stop ++
        (watchers.entering call.listed).map .start := by
  cases call with
  | start listed | update listed => rfl
  | stop =>
    have all : (watchers.folders.filter fun folder => !Call.stop.listed.contains folder) =
        watchers.folders := List.filter_eq_self.2 fun _ _ => rfl
    rw [all]
    exact (List.append_nil _).symm

end Watchers

/-- Lists in order with the same members are the same. -/
theorem eq_of_ordered {first second : List String} (ordered : first.Pairwise (compare · · = .lt))
    (ordered' : second.Pairwise (compare · · = .lt))
    (same : ∀ folder, folder ∈ first ↔ folder ∈ second) : first = second := by
  have distinct {folders : List String} (ordered : folders.Pairwise (compare · · = .lt)) :
      folders.Nodup := by
    refine ordered.imp ?_
    rintro folder _ below rfl
    cases below.symm.trans Std.ReflCmp.compare_self
  refine List.Perm.eq_of_pairwise (fun _ _ _ _ below above => ?_) ordered ordered'
    ((List.perm_ext_iff_of_nodup (distinct ordered) (distinct ordered')).2 same)
  exact absurd above (Std.OrientedCmp.not_lt_of_lt below)

/-! ## Histories of calls -/

namespace Crew

variable {before after : Crew} {call : Call}

theorem Serves.sound (serves : before.Serves call after) (sound : before.Sound) : after.Sound := by
  obtain ⟨gone, _, rfl⟩ := serves.exists_gone
  exact (sound.foldl_dismiss gone).foldl_engage call.listed

theorem Serves.single (serves : before.Serves call after) (sound : before.Sound)
    (single : before.Single) : after.Single := by
  obtain ⟨gone, _, rfl⟩ := serves.exists_gone
  exact (single.foldl_dismiss sound gone).foldl_engage (sound.foldl_dismiss gone) call.listed

theorem mem_gone {gone : List String}
    (removed : gone.Perm (before.folders.filter fun folder => !call.listed.contains folder))
    (folder : String) :
    folder ∈ gone ↔ folder ∈ before.holds ∧ folder ∉ call.listed := by
  rw [removed.mem_iff, List.mem_filter, mem_folders, Bool.not_eq_true', ← Bool.not_eq_true,
    List.contains_iff_mem]

theorem mem_foldl_dismiss {gone : List String} {folder : String}
    (removed : gone.Perm (before.folders.filter fun folder => !call.listed.contains folder)) :
    folder ∈ (gone.foldl Crew.dismiss before).holds ↔
      folder ∈ before.holds ∧ folder ∈ call.listed := by
  rw [Std.ExtTreeMap.mem_iff_isSome_getElem?, getElem?_foldl_dismiss]
  have leaves := mem_gone removed folder
  split
  next left => exact iff_of_false nofun fun stays => (leaves.1 left).2 stays.2
  next stays =>
    rw [← Std.ExtTreeMap.mem_iff_isSome_getElem?]
    exact ⟨fun is => ⟨is, by_contra fun unlisted => stays (leaves.2 ⟨is, unlisted⟩)⟩, And.left⟩

theorem Serves.mem_holds (serves : before.Serves call after) {folder : String} :
    folder ∈ after.holds ↔ folder ∈ call.listed := by
  obtain ⟨gone, removed, rfl⟩ := serves.exists_gone
  rw [mem_foldl_engage, mem_foldl_dismiss removed]
  exact or_iff_right_of_imp And.right

/-- A folder that stays listed keeps its pusher. -/
theorem Serves.keeps (serves : before.Serves call after) {member : Member}
    (holds : before.Holds member) (listed : member.folder ∈ call.listed) : after.Holds member := by
  obtain ⟨gone, removed, rfl⟩ := serves.exists_gone
  have stays : member.folder ∉ gone := fun left => ((mem_gone removed _).1 left).2 listed
  rw [Holds, getElem?_foldl_engage ((mem_foldl_dismiss removed).2 ⟨holds.mem, listed⟩),
    getElem?_foldl_dismiss, if_neg stays]
  exact holds

end Crew

section Served

variable {history : List Call} {watchers : Watchers} {crew : Crew}

theorem Served.sound (served : Served history watchers crew) : crew.Sound := by
  induction served with
  | new => exact .new
  | call _ serves ih => exact serves.sound ih

theorem Served.single (served : Served history watchers crew) : crew.Single := by
  induction served with
  | new => exact fun past none member _ live => absurd (none.subset live.1) List.not_mem_nil
  | call served serves ih => exact serves.single served.sound ih

/-- The watchers know the folders for which the crew has somebody. -/
theorem Served.mem_live (served : Served history watchers crew) {folder : String} :
    folder ∈ watchers.live ↔ folder ∈ crew.holds := by
  cases served with
  | new => exact iff_of_false Std.ExtTreeSet.not_mem_empty Std.ExtTreeMap.not_mem_empty
  | call _ serves => exact Watchers.mem_serve.trans serves.mem_holds.symm

theorem Served.folders_eq (served : Served history watchers crew) :
    watchers.folders = crew.folders :=
  eq_of_ordered Std.ExtTreeSet.ordered_toList crew.folders_ordered fun _ =>
    Watchers.mem_folders.trans (served.mem_live.trans Crew.mem_folders.symm)

end Served

/-! ## What a call does -/

/-- What is done in a call: `ending` first and then `starting`. -/
structure Conducted (watchers : Watchers) (before : Crew) (call : Call)
    (ending starting : List Dealing) : Prop where
  /-- The dealings carry out the orders of the watchers, those to stop in any order. -/
  orders : ∃ stops, (watchers.serve call).1 = stops ++ starting.filterMap Dealing.order? ∧
    (ending.filterMap Dealing.order?).Perm stops
  /-- Nobody is started until all who leave are stopped, and nobody is stopped who does not leave. -/
  ends : ∀ dealing ∈ ending, (∀ member, dealing ≠ .begins member) ∧ before.Live dealing.member ∧
    dealing.member.folder ∉ call.listed
  /-- Whoever leaves is told to end, waited for once, and told to end again when it is given up. -/
  leaves : ∀ member, before.Live member → member.folder ∉ call.listed →
    about member ending = [.halts member, .joins member, .halts member]
  /-- Nobody is started who was there before, or for a folder that has a pusher. -/
  starts : ∀ dealing ∈ starting, ∃ member, dealing = .begins member ∧
    about member before.dealings = [] ∧ member.folder ∈ call.listed ∧
    member.folder ∉ before.folders
  /-- A folder that enters gets one pusher, which begins once. -/
  enters : ∀ folder ∈ call.listed, folder ∉ before.folders → ∃ member, member.folder = folder ∧
    (starting.filter fun dealing => dealing.member.folder = folder) = [.begins member]
  /-- Nothing is done with the pusher of a folder that stays, and no other is started for it. -/
  stays : ∀ folder ∈ before.folders, folder ∈ call.listed →
    ∀ dealing ∈ ending ++ starting, dealing.member.folder ≠ folder

/-- How a call leaves the pushers of an account. -/
structure Bookkept (watchers : Watchers) (before : Crew) (call : Call) (after : Crew) : Prop where
  /-- The folders are those of the list, in order and each once. -/
  folders : after.folders = (watchers.serve call).2.folders ∧ after.folders.Pairwise (· < ·) ∧
    ∀ folder, folder ∈ after.folders ↔ folder ∈ call.listed
  /-- Every folder has a pusher that goes on. -/
  watched : ∀ folder, folder ∈ after.folders ↔ ∃ member, after.Live member ∧ member.folder = folder
  /-- No two pushers of a folder ever went on at the same time. -/
  single : after.Single
  /-- A folder that stays listed keeps its pusher. -/
  keeps : ∀ member, before.Live member → member.folder ∈ call.listed → after.Live member
  /-- No pusher was ever started twice or waited for twice. -/
  once : ∀ member, after.dealings.count (.begins member) ≤ 1 ∧
    after.dealings.count (.joins member) ≤ 1
  dealings : ∃ ending starting, after.dealings = before.dealings ++ (ending ++ starting) ∧
    Conducted watchers before call ending starting

section Members

variable {members : List Member} {member : Member}

theorem filterMap_order?_ending (members : List Member) :
    (members.flatMap Member.ending).filterMap Dealing.order? =
      (members.map Member.folder).map .stop := by
  induction members with
  | nil => rfl
  | cons member members ih =>
    rw [List.flatMap_cons, List.filterMap_append, ih]
    rfl

theorem filterMap_order?_beginning (members : List Member) :
    (members.flatMap Member.beginning).filterMap Dealing.order? =
      (members.map Member.folder).map .start := by
  induction members with
  | nil => rfl
  | cons member members ih =>
    rw [List.flatMap_cons, List.filterMap_append, ih]
    rfl

/-- Of what is done with several members one part is done with a given one. -/
theorem filter_flatMap {work : Member → List Dealing} {wanted : Dealing → Bool}
    (distinct : members.Nodup) (is : member ∈ members)
    (own : ∀ other ∈ members, ∀ dealing ∈ work other, wanted dealing = decide (other = member)) :
    (members.flatMap work).filter wanted = work member := by
  induction members with
  | nil => cases is
  | cons first members ih =>
    obtain ⟨once, distinct⟩ := List.nodup_cons.1 distinct
    obtain ⟨here, others⟩ := List.forall_mem_cons.1 own
    rw [List.flatMap_cons, List.filter_append]
    by_cases same : first = member
    · subst same
      have all : (work first).filter wanted = work first :=
        List.filter_eq_self.2 fun dealing done => (here dealing done).trans (decide_eq_true rfl)
      have none : (members.flatMap work).filter wanted = [] := by
        refine List.filter_eq_nil_iff.2 fun dealing done => ?_
        obtain ⟨next, later, done⟩ := List.mem_flatMap.1 done
        have differs : next ≠ first := fun same => once (same ▸ later)
        rw [others next later dealing done, decide_eq_false differs]
        exact Bool.false_ne_true
      rw [all, none, List.append_nil]
    · have none : (work first).filter wanted = [] := by
        refine List.filter_eq_nil_iff.2 fun dealing done => ?_
        rw [here dealing done, decide_eq_false same]
        exact Bool.false_ne_true
      rw [none, ih distinct (List.mem_of_ne_of_mem (Ne.symm same) is) others]
      rfl

theorem mem_of_mem_flatMap_ending {dealing : Dealing}
    (is : dealing ∈ members.flatMap Member.ending) :
    dealing.member ∈ members ∧ dealing ∈ dealing.member.ending := by
  obtain ⟨member, leaver, is⟩ := List.mem_flatMap.1 is
  rw [Member.member_of_mem_ending is]
  exact ⟨leaver, is⟩

theorem mem_of_mem_flatMap_beginning {dealing : Dealing}
    (is : dealing ∈ members.flatMap Member.beginning) :
    dealing.member ∈ members ∧ dealing = .begins dealing.member := by
  obtain ⟨member, newcomer, is⟩ := List.mem_flatMap.1 is
  rw [List.mem_singleton.1 is]
  exact ⟨newcomer, rfl⟩

end Members

namespace Crew

variable {before after : Crew} {call : Call} {leavers newcomers : List Member} {member : Member}
  {folder : String}

/-- Who leaves a crew by a call, and who is new to it. -/
structure Turnover (before : Crew) (call : Call) (after : Crew) (leavers newcomers : List Member) :
    Prop where
  left : (leavers.map Member.folder).Perm
    (before.folders.filter fun folder => !call.listed.contains folder)
  held : ∀ member ∈ leavers, before.Holds member
  came : newcomers.map Member.folder = before.entering call.listed
  unborn : ∀ member ∈ newcomers, about member before.dealings = []
  dealings : after.dealings =
    before.dealings ++ (leavers.flatMap Member.ending ++ newcomers.flatMap Member.beginning)

/-- The same folders enter before those that leave are dismissed as after that. -/
theorem entering_foldl_dismiss {gone : List String}
    (removed : gone.Perm (before.folders.filter fun folder => !call.listed.contains folder)) :
    (gone.foldl Crew.dismiss before).entering call.listed = before.entering call.listed := by
  refine congrArg List.eraseDups (List.filter_congr fun folder listed => congrArg (!·) ?_)
  rw [Bool.eq_iff_iff, Std.ExtTreeMap.contains_iff_mem, mem_foldl_dismiss removed,
    Std.ExtTreeMap.contains_iff_mem]
  exact and_iff_left listed

theorem Serves.exists_turnover (serves : before.Serves call after) (sound : before.Sound) :
    ∃ leavers newcomers, Turnover before call after leavers newcomers := by
  obtain ⟨gone, removed, rfl⟩ := serves.exists_gone
  have distinct : gone.Nodup := removed.nodup_iff.2 (before.nodup_folders.filter _)
  obtain ⟨leavers, rfl, held, ended⟩ :=
    sound.dealings_foldl_dismiss distinct fun folder left => ((mem_gone removed folder).1 left).1
  obtain ⟨newcomers, came, fresh, begun⟩ :=
    dealings_foldl_engage ((leavers.map Member.folder).foldl Crew.dismiss before) call.listed
  refine ⟨leavers, newcomers, removed, held, came.trans (entering_foldl_dismiss removed),
    fun member newcomer => ?_, by rw [begun, ended, List.append_assoc]⟩
  have unborn := (sound.foldl_dismiss _).fresh member (fresh member newcomer)
  rw [ended, about_append, List.append_eq_nil_iff] at unborn
  exact unborn.1

namespace Turnover

variable (turnover : Turnover before call after leavers newcomers)

include turnover

theorem mem_left : folder ∈ leavers.map Member.folder ↔
    folder ∈ before.holds ∧ folder ∉ call.listed :=
  mem_gone turnover.left folder

theorem mem_came : folder ∈ newcomers.map Member.folder ↔
    folder ∈ call.listed ∧ folder ∉ before.holds := by
  rw [turnover.came, mem_entering]

theorem mem_leavers (holds : before.Holds member) (unlisted : member.folder ∉ call.listed) :
    member ∈ leavers := by
  obtain ⟨leaver, is, same⟩ := List.mem_map.1 (turnover.mem_left.2 ⟨holds.mem, unlisted⟩)
  rwa [← (turnover.held leaver is).unique holds same]

/-- Whoever leaves is done with in one go. -/
theorem about_leaver (leaver : member ∈ leavers) :
    about member (leavers.flatMap Member.ending) = member.ending := by
  have distinct : (leavers.map Member.folder).Nodup :=
    turnover.left.nodup_iff.2 (before.nodup_folders.filter _)
  refine filter_flatMap (.of_map _ distinct) leaver fun other _ dealing done => ?_
  rw [Member.member_of_mem_ending done]

/-- Nobody but one newcomer is started for its folder. -/
theorem filter_newcomer (newcomer : member ∈ newcomers) :
    (newcomers.flatMap Member.beginning).filter
      (fun dealing => dealing.member.folder = member.folder) = [.begins member] := by
  have distinct : (newcomers.map Member.folder).Nodup := turnover.came ▸ nodup_entering _ _
  refine filter_flatMap (.of_map _ distinct) newcomer fun other is dealing done => ?_
  rw [Member.member_of_mem_beginning done, decide_eq_decide]
  exact ⟨List.inj_on_of_nodup_map distinct is newcomer, congrArg Member.folder⟩

end Turnover

end Crew

theorem Served.entering_eq {past : List Call} {watchers : Watchers} {crew : Crew}
    (served : Served past watchers crew) (listed : List String) :
    watchers.entering listed = crew.entering listed := by
  refine congrArg List.eraseDups (List.filter_congr fun folder _ => congrArg (!·) ?_)
  rw [Bool.eq_iff_iff, Std.ExtTreeMap.contains_iff_mem, Std.ExtTreeSet.contains_iff_mem,
    served.mem_live]

/-- What is done with those who leave and enter carries out the orders. -/
theorem Served.orders_turnover {past : List Call} {watchers : Watchers} {before after : Crew}
    {call : Call} {leavers newcomers : List Member} (served : Served past watchers before)
    (turnover : before.Turnover call after leavers newcomers) :
    ∃ stops, (watchers.serve call).1 =
        stops ++ (newcomers.flatMap Member.beginning).filterMap Dealing.order? ∧
      ((leavers.flatMap Member.ending).filterMap Dealing.order?).Perm stops := by
  refine ⟨(before.folders.filter fun folder => !call.listed.contains folder).map .stop, ?_, ?_⟩
  · rw [Watchers.orders_serve, served.folders_eq, filterMap_order?_beginning, turnover.came,
      served.entering_eq]
  · rw [filterMap_order?_ending]
    exact turnover.left.map _

theorem Served.conducted {past : List Call} {watchers : Watchers} {before after : Crew}
    {call : Call} (served : Served past watchers before) (serves : before.Serves call after) :
    ∃ ending starting, after.dealings = before.dealings ++ (ending ++ starting) ∧
      Conducted watchers before call ending starting := by
  have sound := served.sound
  obtain ⟨leavers, newcomers, turnover⟩ := serves.exists_turnover sound
  refine ⟨_, _, turnover.dealings, served.orders_turnover turnover, fun dealing is => ?_,
    fun member live unlisted => ?_, fun dealing is => ?_, fun folder listed absent => ?_,
    fun folder present listed dealing is same => ?_⟩
  · obtain ⟨leaver, is⟩ := mem_of_mem_flatMap_ending is
    refine ⟨?_, sound.live_iff.2 (turnover.held _ leaver),
      (turnover.mem_left.1 (List.mem_map_of_mem leaver)).2⟩
    rintro member rfl
    simp [Member.ending] at is
  · exact turnover.about_leaver (turnover.mem_leavers (sound.live_iff.1 live) unlisted)
  · obtain ⟨newcomer, begins⟩ := mem_of_mem_flatMap_beginning is
    obtain ⟨listed, absent⟩ := turnover.mem_came.1 (List.mem_map_of_mem newcomer)
    exact ⟨dealing.member, begins, turnover.unborn _ newcomer, listed,
      fun is => absent (Crew.mem_folders.1 is)⟩
  · obtain ⟨member, newcomer, rfl⟩ := List.mem_map.1
      (turnover.mem_came.2 ⟨listed, fun is => absent (Crew.mem_folders.2 is)⟩)
    exact ⟨member, rfl, turnover.filter_newcomer newcomer⟩
  · subst same
    obtain ending | starting := List.mem_append.1 is
    · have leaver := (mem_of_mem_flatMap_ending ending).1
      exact (turnover.mem_left.1 (List.mem_map_of_mem leaver)).2 listed
    · have newcomer := (mem_of_mem_flatMap_beginning starting).1
      exact (turnover.mem_came.1 (List.mem_map_of_mem newcomer)).2 (Crew.mem_folders.1 present)

/-! ## A pusher that has ended -/

/-- To an idler of which no run goes on a stop sends nothing. -/
theorem calls_eq_nil_of_stop {settings : Idle.Settings} {history : List Idle.Moment}
    {life after : Idle.Life} {calls : List Idle.Exchange} (lived : Lived settings history life)
    (idle : life.run = none) (step : Idle.Step settings life ⟨.stop, calls⟩ after) :
    calls = [] ∧ after.run = none := by
  have unconnected : life.idler.connection = none :=
    lived.connectedInRun.resolve_right fun ⟨point, stands, _⟩ => by cases idle.symm.trans stands
  cases Idle.happens_step step with
  | stop run sends =>
    refine ⟨?_, idle⟩
    cases sends with
    | unfit => rfl
    | gone connection own | sent connection _ _ _ own => cases unconnected.symm.trans own

/-- A pusher that has ended is not touched by being told to end again: nothing is sent for it. -/
theorem Watched.spent {settings : Idle.Settings} {backoff : Backoff} {history : List Moment}
    {watch after : Watch} {moment : Moment} (watched : Watched settings backoff history watch)
    (ended : watch.pusher.point = .ended) (step : Step settings watch moment after)
    (stops : moment.stops = true) :
    after.pusher = watch.pusher ∧ after.life.run = none ∧
      ∀ own, moment.idler? = some own → own.calls = [] := by
  have idle : watch.life.run = none := watched.waits.resolve_right fun runs => by
    cases runs.symm.trans ended
  cases step with
  | look | tell | wake => cases stops
  | signal => exact ⟨rfl, idle, fun own is => by cases is⟩
  | @idler _ _ _ _ own step =>
    obtain ⟨dealing, calls⟩ := own
    cases dealing with
    | stop =>
      obtain ⟨silent, finished⟩ := calls_eq_nil_of_stop watched.lived idle step
      exact ⟨rfl, finished, fun own is => by cases is; exact silent⟩
    | _ => cases stops

/-! ## All calls -/

/-- Whatever lists an account is started and updated with and stopped in between, each call leaves it
with the folders of its list and one pusher for each of them: those that stay keep theirs, those that
leave are stopped, once, and those that enter get one, once, after that.  A pusher that is stopped is
told to end a second time as it is given up; by then it has ended and is not touched. -/
theorem served_bookkept {past : List Call} {watchers : Watchers} {before after : Crew} {call : Call}
    (served : Served past watchers before) (serves : before.Serves call after) :
    Bookkept watchers before call after ∧
      ∀ {settings : Idle.Settings} {backoff : Backoff} {history : List Moment}
        {watch next : Watch} {moment : Moment}, Watched settings backoff history watch →
        watch.pusher.point = .ended → Step settings watch moment next → moment.stops = true →
        next.pusher = watch.pusher ∧ next.life.run = none ∧
          ∀ own, moment.idler? = some own → own.calls = [] := by
  have later := served.call serves
  have sound := later.sound
  refine ⟨⟨⟨later.folders_eq.symm, ?_, fun folder => ?_⟩, fun folder => ?_, later.single,
    fun member live listed => ?_, fun member => ?_, served.conducted serves⟩, ?_⟩
  · exact after.folders_ordered.imp Batteries.compareOfLessAndEq_eq_lt.1
  · exact Crew.mem_folders.trans serves.mem_holds
  · rw [Crew.mem_folders]
    refine ⟨fun is => ?_, ?_⟩
    · obtain ⟨member, holds, same⟩ := sound.exists_holds is
      exact ⟨member, sound.live_iff.2 holds, same⟩
    · rintro ⟨member, live, rfl⟩
      exact (sound.live_iff.1 live).mem
  · exact sound.live_iff.2 (serves.keeps (served.sound.live_iff.1 live) listed)
  · exact ⟨sound.count_le_one (.inl rfl), sound.count_le_one (.inr rfl)⟩
  · exact fun watched ended step stops => watched.spent ended step stops

/-! ### An exchange -/

namespace Crew

/-- The crew of an account that was started with two folders, one of them listed twice. -/
def pair : Crew :=
  ["B", "A", "B"].foldl engage .new

/-- The crew after one of the two folders left and another one entered. -/
def exchanged : Crew :=
  ["A", "C"].foldl engage (["B"].foldl dismiss pair)

end Crew

theorem served_bookkept_exchange :
    Served [.start ["B", "A", "B"]] (Watchers.empty.serve (.start ["B", "A", "B"])).2 .pair ∧
      Crew.pair.Serves (.update ["A", "C"]) .exchanged ∧
      Crew.exchanged.dealings = [.begins ⟨0, "B"⟩, .begins ⟨1, "A"⟩, .halts ⟨0, "B"⟩,
        .joins ⟨0, "B"⟩, .halts ⟨0, "B"⟩, .begins ⟨2, "C"⟩] ∧
      Bookkept (Watchers.empty.serve (.start ["B", "A", "B"])).2 .pair (.update ["A", "C"])
        .exchanged ∧
      ∃ watch next, Watched ⟨"B", 1000⟩ (.starting 1 2) [.look, .signal] watch ∧
        watch.pusher.point = .ended ∧ Step ⟨"B", 1000⟩ watch (.idler ⟨.stop, []⟩) next ∧
        next.pusher = watch.pusher ∧ next.life.run = none := by
  have nobody : List.Perm []
      (Crew.new.folders.filter fun folder => !(["B", "A", "B"] : List String).contains folder) := by
    decide
  have leaver : List.Perm ["B"]
      (Crew.pair.folders.filter fun folder => !(["A", "C"] : List String).contains folder) := by
    decide
  have started : Served [.start ["B", "A", "B"]]
      (Watchers.empty.serve (.start ["B", "A", "B"])).2 .pair :=
    .call .new (.start nobody)
  have exchange : Crew.pair.Serves (.update ["A", "C"]) .exchanged := .update leaver
  have watched : Watched ⟨"B", 1000⟩ (.starting 1 2) [.look, .signal]
      ⟨⟨.ended, .starting 1 2⟩, true, .new⟩ :=
    .step (.step .new .signal) .look
  have again : Step ⟨"B", 1000⟩ ⟨⟨.ended, .starting 1 2⟩, true, .new⟩ (.idler ⟨.stop, []⟩)
      ⟨⟨.ended, .starting 1 2⟩, true, ⟨.notStarted, true, .stopped, none, none⟩, none⟩ :=
    .idler (.stop (Idle.yields_willing rfl rfl)) nofun
  obtain ⟨bookkept, spent⟩ := served_bookkept started exchange
  obtain ⟨same, idle, _⟩ := spent watched rfl again rfl
  exact ⟨started, exchange, by decide, bookkept, _, _, watched, rfl, again, same, idle⟩

end MailReplica.Push
