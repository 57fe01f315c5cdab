import Mathlib.Data.List.DropRight
import MailReplica.Proofs.Pass.Success
import MailReplica.Proofs.Remote.Listing

/-! # Messages around the cutoff

A server compares calendar days, each on the clock of its own date, while a pass compares instants.
A message that came after the cutoff on a clock behind that of the cutoff can fall on the day before,
and then the pass takes it for vanished (`held_iff_since`).
-/

namespace MailReplica

/-- A date that is not before another falls on its day or a later one if its clock is not behind. -/
theorem DatedInstant.day_le_day {left right : DatedInstant}
    (notBefore : right.instant.before left.instant = false) (clocks : left.offset ≤ right.offset) :
    left.day ≤ right.day := by
  have seconds : left.instant.seconds ≤ right.instant.seconds := by
    unfold Instant.before at notBefore
    simp only [Bool.or_eq_false_iff, decide_eq_false_iff_not] at notBefore
    exact Int.not_lt.1 notBefore.1
  unfold DatedInstant.day
  exact Int.ediv_le_ediv (by decide) (Int.add_le_add seconds clocks)

namespace Reconcile

open Remote (Folder MailServer Posted Serves mem_since numbered numbered_sublist since)
open Store (Copy InMemory Memory)

namespace Pass

/-! ## What any server leads to -/

section

variable {σ ρ : Type} {sides : Sides σ ρ} {memory : σ → Memory} {folder : String}
  {settings : PassSettings} {store : σ} {server : ρ}

/-- The messages of the copy that outlive the numbering which the server reports to a run. -/
def survivors (sides : Sides σ ρ) (memory : σ → Memory) (folder : String) (store : σ)
    (server : ρ) : Std.ExtTreeMap String MessageRecord :=
  surviving (reported sides folder store server) ((memory store).copy folder)

/-- A pass that reports no failure leaves each message as `target` says of the listing that it
heard. -/
theorem run_targets (inMemory : InMemory sides.store memory) (answers : Answers)
    (unfailed : ∀ event ∈ events (run sides folder settings store server),
      event.isFailure = false) :
    ∃ count after listed, CountedAs sides.server folder server count after ∧
      HeardListing sides.server answers settings count after listed ∧
      (listed.Pairwise (fun left right => left.id ≠ right.id) → ∃ body, ∀ id : String,
        ((memory (run sides folder settings store server).store).copy folder).messages[id]? =
          target settings listed body id (survivors sides memory folder store server)[id]?) := by
  cases run_course inMemory answers settings store server with
  | unopened went => exact absurd (went.completed unfailed) nofun
  | @opened count after _ _ _ _ counted _ heard _ all went =>
    obtain rfl := all (went.completed unfailed)
    obtain ⟨listed, bodies, heardListing, heardBodies, rfl⟩ := heard
    refine ⟨count, after, listed, counted, heardListing, fun distinct => ?_⟩
    obtain ⟨body, rfl⟩ := exists_body (Plan.pairwise_newMessages distinct) heardBodies
    refine ⟨body, fun id => ?_⟩
    rw [Plan.reconcile_eq distinct] at went
    have ended := congrArg Copy.messages (went.copy.trans (replay_append _ _ _))
    calc ((memory _).copy folder).messages[id]?
        = (replay (replay (Plan.renumbered _ _) (Plan.work folder settings listed body _))
            (Plan.raise _ listed)).messages[id]? := by
          exact congrArg (·[id]?) (ended.trans (congrArg Copy.messages (replay_append _ _ _)))
      _ = target settings listed body id (Plan.renumbered _ _).messages[id]? := by
          rw [replay_raise]
          exact getElem?_work distinct id
      _ = target settings listed body id (surviving _ _)[id]? := by
          rw [renumbered_messages]
          rfl

end

/-! ## A server that finds messages since a day -/

/-- The messages of a mailbox that a pass looks at. -/
def inWindow (settings : PassSettings) (posted : List Posted) : List Posted :=
  match windowOf settings posted.length with
  | none => []
  | some (first, last) => numbered posted first last

/-- A pass looks at the messages that came last, as many as the limit allows. -/
theorem inWindow_eq_rtake {settings : PassSettings} {posted : List Posted}
    (few : posted.length < UInt32.size) :
    inWindow settings posted =
      if settings.visibleLimit = 0 then posted else posted.rtake settings.visibleLimit.toNat := by
  have counted : (UInt32.ofNat (min (posted.length : Int).toNat (UInt32.size - 1))).toNat =
      posted.length := by
    rw [toNat_counted, Int.toNat_natCast]
    exact Nat.min_eq_left (Nat.le_pred_of_lt few)
  unfold inWindow
  cases found : windowOf settings posted.length with
  | none =>
    have none : (posted.length : Int) ≤ 0 := windowOf_eq_none_iff.1 found
    have empty : posted = [] := List.length_eq_zero_iff.1 (by omega)
    simp [empty]
  | some range =>
    obtain ⟨ends, begins⟩ := ends_window found
    rw [counted] at begins
    dsimp only
    unfold numbered List.rtake
    rw [ends, counted, List.take_length, begins]
    split <;> simp

/-- What a server with the messages `posted` answers to a pass. -/
def sinceAnswers (cutoff : DatedInstant) (posted : List Posted) : Answers where
  count := posted.length
  listing first last _ := (since cutoff (numbered posted first last)).map Posted.listed
  body _ _ := []

section

variable {ε : Type} {server : MailServer ε} {account : ServerSettings} {folder : String}
  {posted : List Posted} {cutoff : DatedInstant} {IsOpen : ε → Prop}

theorem counted_posted (serves : Serves server folder posted cutoff IsOpen)
    {before after : Folder × ε} {count : Int}
    (counted : CountedAs (Folder.passServer server account) folder before count after) :
    count = posted.length ∧ IsOpen after.2 := by
  obtain ⟨found, opened, got, opens, counts⟩ := counted
  cases got
  obtain ⟨_, told, selected, counted⟩ := Folder.openAs_ok opens
  obtain ⟨sameLength, isOpen⟩ := serves.select selected
  obtain ⟨handle, _, read, counts⟩ := bind_ok counts
  cases read
  unfold Folder.count at counts
  rw [counted] at counts
  cases counts
  exact ⟨congrArg Int.ofNat sameLength, isOpen⟩

/-- The listing that a pass hears, without the messages that are not recent. -/
theorem heard_since {settings : PassSettings}
    (serves : Serves server folder posted cutoff IsOpen) (cut : settings.cutoff = some cutoff)
    {state : Folder × ε} (isOpen : IsOpen state.2) {listed : List Listed}
    (heard : HeardListing (Folder.passServer server account) (sinceAnswers cutoff posted)
      settings posted.length state listed) :
    listed.Perm (((since cutoff (inWindow settings posted)).map Posted.listed).filter
      (isRecent settings)) := by
  unfold HeardListing at heard
  unfold inWindow
  cases found : windowOf settings posted.length with
  | none =>
    rw [found] at heard
    dsimp only at heard
    rw [heard]
    exact .nil
  | some range =>
    obtain ⟨first, last⟩ := range
    rw [found] at heard
    obtain ⟨raw, told, rfl⟩ := heard
    refine List.Perm.filter _ ?_
    obtain rfl | answered := told
    · exact .refl _
    · rw [cut] at answered
      exact Folder.list_since serves (window_range found) isOpen (Prod.ext answered rfl)

theorem inWindow_sublist (settings : PassSettings) (posted : List Posted) :
    (inWindow settings posted).Sublist posted := by
  unfold inWindow
  split
  · exact List.nil_sublist posted
  · exact numbered_sublist posted _ _

section

variable {settings : PassSettings} {listed : List Listed}
  (perm : listed.Perm (((since cutoff (inWindow settings posted)).map Posted.listed).filter
    (isRecent settings)))
include perm

theorem pairwise_heard (distinct : (posted.map Posted.uid).Nodup) :
    listed.Pairwise fun left right => left.id ≠ right.id := by
  have within : (since cutoff (inWindow settings posted)).Sublist posted :=
    List.filter_sublist.trans (inWindow_sublist settings posted)
  rw [perm.pairwise_iff Ne.symm]
  refine List.Pairwise.filter _ (Listed.pairwise_id ?_)
  rw [List.map_map]
  exact distinct.sublist (within.map Posted.uid)

theorem mem_heard (cut : settings.cutoff = some cutoff) {message : Posted}
    (member : message ∈ inWindow settings posted)
    (notBefore : message.date.instant.before cutoff.instant = false)
    (onDay : cutoff.day ≤ message.date.day) : message.listed ∈ listed := by
  rw [perm.mem_iff, List.mem_filter]
  refine ⟨List.mem_map_of_mem (mem_since.2 ⟨member, onDay⟩), ?_⟩
  unfold isRecent Posted.listed
  rw [cut]
  simpa using notBefore

theorem unheard (distinct : (posted.map Posted.uid).Nodup) {message : Posted}
    (member : message ∈ inWindow settings posted) (dayBefore : ¬cutoff.day ≤ message.date.day) :
    ∀ other ∈ listed, other.id ≠ message.listed.id := by
  intro other isListed same
  rw [perm.mem_iff, List.mem_filter, List.mem_map] at isListed
  obtain ⟨⟨other, isSince, rfl⟩, _⟩ := isListed
  obtain ⟨inWindow, onDay⟩ := mem_since.1 isSince
  have within := inWindow_sublist settings posted
  obtain rfl := List.inj_on_of_nodup_map distinct (within.subset inWindow)
    (within.subset member) (Listed.uid_eq_of_id_eq same)
  exact dayBefore onDay

end

end

/-- A listed message that is not marked for removal is there after a pass, unless the copy that was
there is dated before the cutoff. -/
theorem isSome_listed {settings : PassSettings} {message : Listed} {body : Listed → Octets}
    {record? : Option MessageRecord} (live : message.isDeleted = false)
    (recentHere : ∀ record, record? = some record → predates settings record.date = false) :
    (record?.elim (gained settings body message) (kept settings message)).isSome = true := by
  cases record? with
  | none =>
    rw [Option.elim_none, gained, live]
    rfl
  | some record =>
    rw [Option.elim_some, kept, live, recentHere record rfl]
    simp

section

variable {σ ε : Type} {sides : Sides σ (Folder × ε)} {memory : σ → Memory}
  {server : MailServer ε} {account : ServerSettings} {folder : String} {posted : List Posted}
  {cutoff : DatedInstant} {IsOpen : ε → Prop} {settings : PassSettings} {store : σ}
  {handle : Folder × ε}

/-- What a pass leaves of a message that is not before the cutoff: nothing, exactly if the clock of
the message still showed the day before that of the cutoff, and the pass removes what has vanished or
did not know the message.  A message whose clock is not behind that of the cutoff is there. -/
theorem held_iff_since (inMemory : InMemory sides.store memory)
    (hosted : sides.server = Folder.passServer server account)
    (serves : Serves server folder posted cutoff IsOpen) (cut : settings.cutoff = some cutoff)
    (unfailed : ∀ event ∈ events (run sides folder settings store handle),
      event.isFailure = false)
    {message : Posted} (member : message ∈ inWindow settings posted)
    (live : message.listed.isDeleted = false)
    (notBefore : message.date.instant.before cutoff.instant = false)
    (recentHere : ∀ record : MessageRecord,
      (survivors sides memory folder store handle)[message.listed.id]? = some record →
      predates settings record.date = false) :
    (message.listed.id ∈
          ((memory (run sides folder settings store handle).store).copy folder).messages ↔
        cutoff.day ≤ message.date.day ∨ settings.removeVanished = false ∧
          message.listed.id ∈ survivors sides memory folder store handle) ∧
      (cutoff.offset ≤ message.date.offset → message.listed.id ∈
        ((memory (run sides folder settings store handle).store).copy folder).messages) := by
  obtain ⟨count, after, listed, counted, heard, leads⟩ :=
    run_targets inMemory (sinceAnswers cutoff posted) unfailed
  rw [hosted] at counted heard
  obtain ⟨rfl, isOpen⟩ := counted_posted serves counted
  have perm := heard_since serves cut isOpen heard
  have distinct := pairwise_heard perm serves.distinct
  obtain ⟨body, targets⟩ := leads distinct
  have held : message.listed.id ∈
      ((memory (run sides folder settings store handle).store).copy folder).messages ↔
      cutoff.day ≤ message.date.day ∨ settings.removeVanished = false ∧
        message.listed.id ∈ survivors sides memory folder store handle := by
    rw [← Std.ExtTreeMap.isSome_getElem?_iff_mem, targets, ← Std.ExtTreeMap.isSome_getElem?_iff_mem]
    -- The search decides: what it does not find is not listed, whatever its instant.
    by_cases onDay : cutoff.day ≤ message.date.day
    · rw [target_listed distinct (mem_heard perm cut member notBefore onDay)]
      simp only [isSome_listed live recentHere, onDay, true_or]
    · rw [target_unlisted (unheard perm serves.distinct member onDay)]
      cases settings.removeVanished <;> simp [onDay]
  refine ⟨held, fun clocks => held.2 (.inl ?_)⟩
  exact DatedInstant.day_le_day notBefore clocks

end

/-! ## A message of the evening before -/

/-- Half past midnight, on a clock two hours ahead. -/
def halfPastMidnight : DatedInstant :=
  ⟨⟨1641335400, 0⟩, 7200⟩

/-- A message that came half an hour later, when it was the evening before on its own clock. -/
def eveningMessage : Posted :=
  ⟨1, [], ⟨⟨1641337200, 0⟩, 0⟩, 59⟩

/-- A server with that message, which no search finds. -/
def eveningServer : MailServer Unit where
  logIn _ state := (.ok (), state)
  run request state :=
    match request with
    | .select _ _ => (.ok ⟨1, none⟩, state)
    | .search _ => (.ok ∅, state)
    | .fetch _ _ | .fetchByUid _ _ =>
      (.ok [⟨some 1, [], some eveningMessage.date, some 59, none, none⟩], state)
    | .folders _ => (.ok ["INBOX"], state)
    | .expunge | .logOut => (.ok (), state)

theorem serves_evening :
    Serves eveningServer "INBOX" [eveningMessage] halfPastMidnight fun _ => True where
  distinct := by decide
  select := by
    rintro mode state next told answered
    cases answered
    exact ⟨rfl, trivial⟩
  search := by
    rintro first last state next found _ answered
    cases answered
    refine ⟨fun uid => ?_, trivial⟩
    have nothing : since halfPastMidnight (numbered [eveningMessage] first last) = [] := by
      refine List.sublist_nil.1 ?_
      exact (numbered_sublist [eveningMessage] first last).filter _
    simp [nothing]
  fetch := by
    rintro uids state next told _ nonempty _ known answered
    cases answered
    obtain ⟨uid, member⟩ := List.exists_mem_of_ne_nil uids nonempty
    have asked : eveningMessage.uid ∈ uids := by
      have same := known uid member
      rw [List.map_singleton, List.mem_singleton] at same
      rwa [same] at member
    have filtered : [eveningMessage].filter (fun message => decide (message.uid ∈ uids)) =
        [eveningMessage] :=
      List.filter_cons_of_pos (decide_eq_true asked)
    rw [filtered]
    exact .refl _

def sinceMidnight : PassSettings :=
  { PassSettings.usual with cutoff := some halfPastMidnight }

def eveningKnown : Memory :=
  Memory.empty.replay [.inFolder "INBOX"
    (.save ⟨"1", ∅, .full, some eveningMessage.date.instant, none, "", "", none⟩)]

def eveningSides : Sides Memory (Folder × Unit) :=
  ⟨Memory.handler, Folder.passServer eveningServer ⟨"localhost", 143, .plain, "user", "secret"⟩⟩

def eveningHandle : Folder × Unit :=
  (Folder.new ⟨"localhost", 143, .plain, "user", "secret"⟩ "INBOX", ())

/-- A pass removes the message, which the cutoff is before. -/
theorem held_iff_since_evening :
    (∀ event ∈ events (run eveningSides "INBOX" sinceMidnight eveningKnown eveningHandle),
        event.isFailure = false) ∧
      eveningMessage.date.instant.before halfPastMidnight.instant = false ∧
      eveningMessage.listed.id ∈ (eveningKnown.copy "INBOX").messages ∧
      eveningMessage.listed.id ∉ ((run eveningSides "INBOX" sinceMidnight eveningKnown
        eveningHandle).store.copy "INBOX").messages := by
  have unfailed : ∀ event ∈
      events (run eveningSides "INBOX" sinceMidnight eveningKnown eveningHandle),
      event.isFailure = false := by
    decide +kernel
  have recentHere : ∀ record : MessageRecord,
      (survivors eveningSides id "INBOX" eveningKnown eveningHandle)[eveningMessage.listed.id]? =
        some record → predates sinceMidnight record.date = false := by
    have known : (survivors eveningSides id "INBOX" eveningKnown eveningHandle)[
        eveningMessage.listed.id]? =
        some ⟨"1", ∅, .full, some eveningMessage.date.instant, none, "", "", none⟩ := by
      decide +kernel
    rw [known]
    rintro _ ⟨⟩
    decide
  have held := held_iff_since Memory.inMemory_handler rfl serves_evening rfl unfailed
    (List.mem_singleton_self _) (by decide) (by decide) recentHere
  refine ⟨unfailed, by decide, by decide, fun stays => ?_⟩
  obtain onDay | ⟨keeps, _⟩ := held.1.1 stays
  · exact absurd onDay (by decide)
  · cases keeps

end Pass

end Reconcile

end MailReplica
