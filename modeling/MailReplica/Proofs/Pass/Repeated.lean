import MailReplica.Proofs.Pass.Protocol
import MailReplica.Proofs.Pass.Stages
import MailReplica.Proofs.Pass.Steady

/-! # Messages that a listing names more than once

A run decides what to download by a look at the store that it takes before the first download.  So a
message that the store did not name is asked for and told to be new as often as the listing names it
(`run_meets_as_listed`): once at most if the listing names no UID twice, and else again, although it
is in the store by then.
-/

namespace MailReplica.Reconcile

open Store (Memory)

/-! ## What is asked for and what is told to be new -/

/-- The UID of the message that the server is asked for. -/
def Exchange.fetched? : Exchange → Option UInt32
  | .fetch uid _ _ => some uid
  | _ => none

def fetchedIn (asked : List Exchange) : List UInt32 :=
  asked.filterMap Exchange.fetched?

/-- The name of the message that is told to be new. -/
def Event.announced? : Event → Option String
  | newMessage _ id _ => some id
  | _ => none

def announcedIn (events : List Event) : List String :=
  events.filterMap Event.announced?

/-- How often a listing names a message that is to be downloaded. -/
def timesNew (known : Std.ExtTreeMap String (Option Instant)) (listed : List Listed) (id : String) :
    Nat :=
  listed.countP fun message => message.id == id && Pass.isNew known message

theorem fetchedIn_append (first second : List Exchange) :
    fetchedIn (first ++ second) = fetchedIn first ++ fetchedIn second :=
  List.filterMap_append

theorem announcedIn_append (first second : List Event) :
    announcedIn (first ++ second) = announcedIn first ++ announcedIn second :=
  List.filterMap_append

theorem count_newMessages (known : Std.ExtTreeMap String (Option Instant)) (listed : List Listed)
    (id : String) :
    ((Pass.newMessages known listed).map Listed.id).count id = timesNew known listed id := by
  have sorted : (Pass.newMessages known listed).Perm (listed.filter (Pass.isNew known)) :=
    List.mergeSort_perm _ _
  rw [(sorted.map Listed.id).count_eq, List.count, List.countP_map, List.countP_filter]
  rfl

/-- Listed messages have the same UID if and only if they have the same name. -/
theorem count_uid (listed : List Listed) (uid : UInt32) :
    (listed.map Listed.uid).count uid =
      (listed.map Listed.id).count (Nat.repr uid.toNat) := by
  rw [List.count, List.count, List.countP_map, List.countP_map]
  refine List.countP_congr fun message _ => ?_
  simp only [Function.comp_apply, beq_iff_eq]
  exact ⟨fun same => by rw [Listed.id, same],
    fun same => UInt32.toNat.inj (Nat.repr_injective same)⟩

/-! ## In outline -/

section Outline

variable {folder : String} {settings : PassSettings}

theorem fetchedIn_fetches {fetched : List Listed} {fetches : List Exchange}
    (fetching : Outline.Fetches settings fetched fetches) :
    fetchedIn fetches = fetched.map Listed.uid := by
  induction fetching with
  | nil => rfl
  | cons first _ ih =>
    obtain ⟨answer, rfl⟩ := first
    exact congrArg (_ :: ·) ih

theorem announcedIn_told (outline : Outline) :
    announcedIn (outline.told folder settings) = outline.fresh.map Listed.id := by
  have updated : announcedIn (outline.updated.map (Outline.tellUpdated folder settings)) = [] := by
    refine List.filterMap_eq_nil_iff.2 fun event told => ?_
    obtain ⟨message, _, rfl⟩ := List.mem_map.1 told
    unfold Outline.tellUpdated
    split <;> rfl
  have gone : announcedIn (outline.gone.map (.removed folder)) = [] := by
    refine List.filterMap_eq_nil_iff.2 fun event told => ?_
    obtain ⟨id, _, rfl⟩ := List.mem_map.1 told
    rfl
  have fresh : announcedIn (outline.fresh.map (Outline.tellNew folder outline.highestUid)) =
      outline.fresh.map Listed.id := by
    rw [announcedIn, List.filterMap_map, ← List.filterMap_eq_map]
    rfl
  rw [Outline.told, announcedIn_append, announcedIn_append, updated, gone, fresh,
    List.nil_append, List.append_nil]

/-- The messages that a run asked for, and those of them that it told to be new, both in the order
in which it was to download them. -/
structure Meets (folder : String) (settings : PassSettings) (trace : Trace)
    (fetched fresh : List Listed) : Prop where
  asked : fetchedIn trace.asked = fetched.map Listed.uid
  told : announcedIn trace.told = fresh.map Listed.id
  begun : fresh <+: fetched
  listed : fetched <+: Pass.newMessages (knownIn trace.kept)
    ((listedIn trace.asked).filter (Pass.isRecent settings))
  /-- Nothing is left out where no call went wrong. -/
  complete : trace.Clean folder → fresh = Pass.newMessages (knownIn trace.kept)
    ((listedIn trace.asked).filter (Pass.isRecent settings))

/-- A run that stopped before its listing has met no message. -/
theorem meets_nothing {trace : Trace} (asked : fetchedIn trace.asked = [])
    (told : announcedIn trace.told = []) (unclean : ¬trace.Clean folder) :
    ∃ fetched fresh, Meets folder settings trace fetched fresh :=
  ⟨[], [], asked, told, List.nil_prefix, List.nil_prefix, fun clean => absurd clean unclean⟩

theorem meets_of_grammatical {trace : Trace} (grammatical : Grammatical folder settings trace) :
    ∃ fetched fresh, Meets folder settings trace fetched fresh := by
  cases grammatical with
  | unprepared failure =>
    refine meets_nothing rfl rfl fun clean => ?_
    cases clean.kept _ (List.mem_singleton_self _)
  | absent failure kept =>
    refine meets_nothing rfl rfl fun clean => ?_
    cases clean.asked _ (List.mem_singleton_self _)
  | unopened failure kept =>
    refine meets_nothing rfl rfl fun clean => ?_
    cases clean.asked (.openFolder .readOnly (.error failure)) (by simp)
  | uncounted answer kept unusable =>
    refine meets_nothing rfl rfl fun clean => ?_
    obtain ⟨answered, notNegative⟩ :=
      (Pass.halt?_eq_none_iff _).1 (clean.asked (.count answer) (by simp))
    cases answer with
    | error failure => cases answered
    | ok count => exact absurd (notNegative count rfl) (Int.not_le.2 (unusable count rfl))
  | @opened count trace usable continues =>
    obtain ⟨outline, lists, fetches, expunges, continued⟩ := continues
    -- Only the requests for messages name messages, and only the listing lists any.
    have unlisted : fetchedIn lists = [] := by
      obtain rfl | ⟨first, last, answer, _, rfl⟩ := continued.listing <;> rfl
    have unexpunged : fetchedIn expunges = [] ∧ listedIn expunges = [] := by
      obtain rfl | ⟨_, _, answer, rfl⟩ := continued.expunging <;> exact ⟨rfl, rfl⟩
    have listed : listedIn (.folder folder (.ok ()) :: .openFolder .readOnly (.ok ()) ::
        .count (.ok count) :: (trace.asked ++ [.close])) = listedIn lists := by
      change listedIn (trace.asked ++ [.close]) = _
      rw [continued.asked]
      simp only [Pass.listedIn_append, Pass.listedIn_fetches continued.fetching, unexpunged.2]
      simp [listedIn, Exchange.listing]
    refine ⟨outline.fetched, outline.fresh, ?_, ?_, continued.fits.fresh, ?_, ?_⟩
    · change fetchedIn (trace.asked ++ [.close]) = _
      rw [continued.asked]
      simp only [fetchedIn_append, unlisted, unexpunged.1, fetchedIn_fetches continued.fetching]
      simp [fetchedIn, Exchange.fetched?]
    · change announcedIn trace.told = _
      rw [continued.told, announcedIn_told]
    · rw [listed]
      exact continued.fits.fetched
    · intro clean
      rw [listed]
      refine (continued.complete ⟨fun exchange made => clean.asked exchange ?_, clean.kept⟩).1
      simp [made]

end Outline

/-! ## Runs -/

namespace Pass

variable {σ ρ : Type}

/-- Over any sides a run asks for a message, and tells it to be new, at most as often as the listing
names it as one to be downloaded, and exactly so often if the run does not fail. -/
theorem run_meets_as_listed (sides : Sides σ ρ) (folder : String) (settings : PassSettings)
    (store : σ) (server : ρ) :
    let asked := serverCalls sides folder settings store server
    let told := events (run sides folder settings store server)
    let times := timesNew (knownIn (storeCalls sides folder settings store server))
      (recentIn sides folder settings store server)
    (∀ uid, (fetchedIn asked).count uid ≤ times (Nat.repr uid.toNat)) ∧
      (∀ id, (announcedIn told).count id ≤ times id) ∧
      ((∀ event ∈ told, event.isFailure = false) →
        (∀ uid, (fetchedIn asked).count uid = times (Nat.repr uid.toNat)) ∧
          ∀ id, (announcedIn told).count id = times id) := by
  dsimp only
  obtain ⟨told, _, tells, grammatical, ending⟩ := run_traced sides folder settings store server
  obtain ⟨fetched, fresh, meets⟩ := meets_of_grammatical grammatical
  have announced : announcedIn (events (run sides folder settings store server)) =
      fresh.map Listed.id := by
    rw [tells, ← meets.told]
    change announcedIn (told ++ failureOf folder _ ++ [.finished folder]) = _
    cases (whole sides folder settings (begun folder store server)).1 with
    | ok => simp [failureOf, announcedIn, Event.announced?]
    | error halt => simp [failureOf, announcedIn, Event.announced?]
  have fewer {met : List Listed}
      (part : met <+: newMessages (knownIn (storeCalls sides folder settings store server))
        (recentIn sides folder settings store server)) (id : String) :
      (met.map Listed.id).count id ≤
        timesNew (knownIn (storeCalls sides folder settings store server))
          (recentIn sides folder settings store server) id := by
    rw [← count_newMessages]
    exact (part.sublist.map Listed.id).count_le id
  rw [meets.asked, announced]
  refine ⟨fun uid => ?_, fewer (meets.begun.trans meets.listed), fun unfailed => ?_⟩
  · rw [count_uid]
    exact fewer meets.listed _
  · have clean : Trace.Clean folder ⟨told, serverCalls sides folder settings store server,
        storeCalls sides folder settings store server⟩ := by
      by_contra unclean
      obtain ⟨event, told, failed⟩ := (failed_iff grammatical ending).2 unclean
      rw [← tells] at told
      rw [unfailed event told] at failed
      cases failed
    -- What is told to be new is all there is, so it is also all that is asked for.
    have all := meets.complete clean
    have same : fetched = fresh :=
      (meets.listed.trans (all ▸ List.prefix_rfl)).eq_of_length_le meets.begun.length_le
    subst same
    rw [all]
    exact ⟨fun uid => by rw [count_uid, count_newMessages]; rfl, fun id => count_newMessages _ _ id⟩

/-- A server that names its only message twice. -/
def twiceListed : Answers where
  count := 1
  listing _ _ _ := [⟨5, ∅, none, some 2⟩, ⟨5, ∅, none, some 2⟩]
  body _ _ := [72, 105]

/-- What a run tells that meets a message twice. -/
theorem events_twiceListed :
    events (run (⟨Memory.handler, twiceListed.server none⟩ : Sides Memory Unit) "INBOX" .usual
      .empty ()) = [.started "INBOX", .authenticated, .newMessage "INBOX" "5" false,
      .newMessage "INBOX" "5" false, .finished "INBOX"] := by
  let sides : Sides Memory Unit := ⟨Memory.handler, twiceListed.server none⟩
  let listed : List Listed := [⟨5, ∅, none, some 2⟩, ⟨5, ∅, none, some 2⟩]
  let heard : Progress Memory Unit := (hearing sides "INBOX" .usual (begun "INBOX" .empty ())).2
  obtain ⟨_, told, _⟩ := run_whole sides "INBOX" .usual .empty ()
  have reaches : whole sides "INBOX" .usual (begun "INBOX" .empty ()) =
      dealing sides "INBOX" .usual (⟨0, none⟩, listed) heard := by
    rw [whole_stages, bind_apply]
    rfl
  have knows : keep .readLocal (sides.store.call (.dates "INBOX")) heard = (.ok ∅, heard) := rfl
  -- Sorting does not evaluate, so it is done by hand where the run comes to it.
  have sorted : newMessages ∅ listed = listed := List.mergeSort_of_pairwise (by decide)
  rw [told, reaches]
  unfold dealing
  rw [bind_apply, knows]
  unfold reconcile
  dsimp only
  rw [sorted]
  decide +kernel

/-- A run that does not fail asks for a message twice and tells it to be new twice. -/
theorem run_meets_as_listed_twice :
    let sides : Sides Memory Unit := ⟨Memory.handler, twiceListed.server none⟩
    let asked := serverCalls sides "INBOX" .usual .empty ()
    let told := events (run sides "INBOX" .usual .empty ())
    (∀ event ∈ told, event.isFailure = false) ∧
      (fetchedIn asked).count 5 = 2 ∧ (announcedIn told).count "5" = 2 := by
  intro sides asked told
  have unfailed : ∀ event ∈ told, event.isFailure = false := by
    rw [show told = _ from events_twiceListed]
    decide
  have announced : (announcedIn told).count "5" = 2 := by
    rw [show told = _ from events_twiceListed]
    decide
  obtain ⟨fetches, announces⟩ :=
    (run_meets_as_listed sides "INBOX" .usual .empty ()).2.2 unfailed
  exact ⟨unfailed, (fetches 5).trans ((announces "5").symm.trans announced), announced⟩

end Pass

end MailReplica.Reconcile
