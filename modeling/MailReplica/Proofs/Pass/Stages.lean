import MailReplica.Proofs.Pass.Grammar
import MailReplica.Proofs.Pass.Target

/-! # The stages of a run

A run first settles the numbering of its folder, then hears a listing, and then deals with messages.
What it does to the store splits accordingly (`run_staged`): some deeds that settle the numbering,
and once there is a listing the first so many deeds of the plan for it.
-/

namespace MailReplica.Reconcile.Pass

open Store (Act Copy Entry FolderState Memory Watch)

variable {σ ρ κ : Type}

/-- The store when a run has settled the numbering, or has failed to. -/
def settledStore (sides : Sides σ ρ) (folder : String) (store : σ) (server : ρ) : σ :=
  (settling sides folder (begun folder store server)).2.store

/-- The first two stages of a run: settles the numbering and asks for a listing. -/
def hearing (sides : Sides σ ρ) (folder : String) (settings : PassSettings) :
    Pass σ ρ (FolderState × List Listed) := do
  let settled ← settling sides folder
  return (settled.2, ← listing sides settings settled.1)

/-- The last stage of a run: deals with the messages of a listing. -/
def dealing (sides : Sides σ ρ) (folder : String) (settings : PassSettings)
    (heard : FolderState × List Listed) : Pass σ ρ Unit := do
  let known ← keep .readLocal (sides.store.call (.dates folder))
  reconcile sides folder settings heard.1 heard.2 known
  if settings.expungePolicy = .onPoll then
    ask sides .expunge .expunge

theorem whole_stages (sides : Sides σ ρ) (folder : String) (settings : PassSettings) :
    whole sides folder settings = hearing sides folder settings >>= dealing sides folder settings := by
  unfold whole hearing continuing dealing
  simp only [bind_assoc, pure_bind]

theorem Lockstep.hearing {σ' ρ' : Type} {sides : Sides σ ρ} {sides' : Sides σ' ρ'}
    {pairing : Pairing σ ρ σ' ρ'} (lockstep : Lockstep sides sides' pairing) (folder : String)
    (settings : PassSettings) :
    InStep pairing (Pass.hearing sides folder settings) (Pass.hearing sides' folder settings) :=
  (lockstep.settling folder).bind fun settled =>
    (lockstep.listing settings settled.1).bind fun _ => inStep_pure _

/-! ## What was heard -/

theorem listedIn_append (first second : List Exchange) :
    listedIn (first ++ second) = listedIn first ++ listedIn second :=
  List.flatMap_append

theorem listedIn_fetches {settings : PassSettings} {fetched : List Listed}
    {fetches : List Exchange} (fetching : Outline.Fetches settings fetched fetches) :
    listedIn fetches = [] := by
  induction fetching with
  | nil => rfl
  | cons first _ ih =>
    obtain ⟨answer, rfl⟩ := first
    exact ih

section

variable (sides : Sides σ ρ) (folder : String) (settings : PassSettings)

theorem settling_leaves :
    Leaves folder (settling sides.noting folder) (fun _ trace => listedIn trace.asked = [])
      fun _ => True := by
  have parts : settling sides.noting folder = (do
      prepare sides.noting folder
      let count ← openAndCount sides.noting folder
      let state ← (do
        let state ← keep .loadState (FolderState.load sides.noting.store folder)
        checkValidity sides.noting folder state)
      return (count, state)) := by
    unfold settling opening
    simp only [bind_assoc]
  have prepares : Leaves folder (prepare sides.noting folder) _ (Grammatical folder .usual) :=
    prepare_leaves sides
  rw [parts]
  refine prepares.andThen (fun _ _ => trivial) ?_
  rintro _ _ _ rfl
  refine (openAndCount_leaves sides).andThen (fun _ _ => trivial) ?_
  rintro count _ _ ⟨_, rfl⟩
  refine ((load_leaves sides).andQuietly fun state =>
    checkValidity_leaves sides state).andThen (fun _ _ => trivial) ?_
  rintro state ⟨_, _, kept⟩ _ ⟨rfl, rfl, _⟩
  exact leaves_pure rfl

theorem hearing_leaves :
    Leaves folder (hearing sides.noting folder settings)
      (fun heard trace => (listedIn trace.asked).filter (isRecent settings) = heard.2)
      fun _ => True := by
  unfold hearing
  refine (settling_leaves sides folder).andThen (fun _ _ => trivial) ?_
  intro settled trace _ none
  refine (listing_leaves sides settled.1).andThen (fun _ _ => trivial) ?_
  rintro _ _ _ ⟨lists, _, rfl, rfl⟩
  refine leaves_pure ?_
  simp only [Trace.asked_append, listedIn_append, none, List.nil_append, Trace.empty]
  rw [List.filter_append]
  exact List.append_nil _

theorem dealing_leaves (heard : FolderState × List Listed) :
    Leaves folder (dealing sides.noting folder settings heard)
      (fun _ trace => listedIn trace.asked = []) fun trace => listedIn trace.asked = [] := by
  unfold dealing
  refine (leaves_call sides _ (.dates folder) .readLocal).andThen ?_ ?_
  · rintro _ ⟨failure, rfl⟩
    rfl
  rintro known _ _ rfl
  refine (reconcile_leaves sides heard.1 heard.2 known).andThen ?_ ?_
  · rintro trace ⟨outline, _, writes⟩
    exact listedIn_fetches writes.asked
  rintro _ trace _ ⟨outline, _, _, writes⟩
  have none (expunges : List Exchange) (only : listedIn expunges = []) :
      listedIn (trace.asked ++ expunges) = [] := by
    rw [listedIn_append, listedIn_fetches writes.asked, only, List.append_nil]
  split
  · refine (leaves_ask sides _ .expunge (fun _ => rfl) fun _ => rfl).mono ?_ ?_
    · rintro _ _ _ rfl
      exact none [.expunge (.ok ())] rfl
    · rintro _ ⟨failure, rfl⟩
      exact none [.expunge (.error failure)] rfl
  · exact leaves_pure (none [] rfl)

end

/-- The listing of a run is what the server answered in it, apart from the messages that are not
recent. -/
theorem listedIn_serverCalls {sides : Sides σ ρ} {folder : String} {settings : PassSettings}
    {store : σ} {server : ρ} {state : FolderState} {listed : List Listed} {after : Progress σ ρ}
    (hears : hearing sides folder settings (begun folder store server) =
      (.ok (state, listed), after)) :
    (listedIn (serverCalls sides folder settings store server)).filter (isRecent settings) =
      listed := by
  have same := ((lockstep_noting sides).hearing folder settings).withoutNotes_eq
    (begun folder ⟨store, []⟩ ⟨server, []⟩)
  obtain ⟨_, _, asked⟩ :=
    run_whole sides.noting folder settings (⟨store, []⟩ : Noted σ Store.Exchange)
      (⟨server, []⟩ : Noted ρ Exchange)
  rw [whole_stages, bind_apply] at asked
  have closing (notes : Noted ρ Exchange) (got : Bool) :
      listedIn (if got then sides.noting.server.close notes else notes).notes =
        listedIn notes.notes := by
    cases got with
    | false => rfl
    | true => exact (listedIn_append _ _).trans (List.append_nil _)
  rw [serverCalls, notedRun, asked, closing]
  change hearing sides folder settings (begun folder store server) = _ at same
  rw [hears] at same
  rcases heard : hearing sides.noting folder settings (begun folder ⟨store, []⟩ ⟨server, []⟩) with
    ⟨_ | _, noted⟩
  · rw [heard] at same
    cases same
  · rw [heard] at same
    cases same
    obtain ⟨_, ended, trace, adds, _, lists⟩ | ⟨_, ended, _⟩ :=
      (hearing_leaves sides folder settings _).of_run heard
    case inr => cases ended
    cases ended
    dsimp only
    -- Whether the run halts later on or not, no other listing is asked for.
    have deals : ∃ trace' : Trace,
        Adds noted trace' (dealing sides.noting folder settings (state, listed) noted).2 ∧
          listedIn trace'.asked = [] := by
      obtain ⟨_, _, trace', adds', _, none⟩ | ⟨_, _, trace', adds', _, none⟩ :=
        (dealing_leaves sides folder settings (state, listed) noted).of_run rfl
      · exact ⟨trace', adds', none⟩
      · exact ⟨trace', adds', none⟩
    obtain ⟨trace', adds', none⟩ := deals
    rw [adds'.asked, adds.asked, listedIn_append, listedIn_append, none, List.append_nil]
    exact lists

/-! ## What was done -/

section

variable {watch : Watch σ κ} {sides : Sides σ ρ} {folder : String} {settings : PassSettings}
  {store : σ} {server : ρ}

/-- The deeds about messages that a run does, once it has settled the numbering of `copy`, and how
the run ends then. -/
inductive Deals (sides : Sides σ ρ) (answers : Answers) (folder : String) (settings : PassSettings)
    (store : σ) (server : ρ) (copy : Copy) : List Deed → Except Halt Unit → Prop where
  | unheard (halt : Halt) : Deals sides answers folder settings store server copy [] (.error halt)
  | heard {listed : List Listed} {bodies : List Octets} {deeds : List Deed}
      {result : Except Halt Unit} {after : Progress σ ρ}
      (hears : hearing sides folder settings (begun folder store server) =
        (.ok (copy.state, listed), after))
      (fetched : HeardBodies sides.server answers settings after.server
        (newMessages (datesOf copy) listed) bodies)
      (begins : deeds <+: ⟨.look, []⟩ :: Plan.reconcile folder settings listed bodies copy)
      (all : result = .ok () →
        deeds = ⟨.look, []⟩ :: Plan.reconcile folder settings listed bodies copy) :
    Deals sides answers folder settings store server copy deeds result

theorem opening_reports (sides : Sides σ ρ) (folder : String) (store : σ) (server : ρ) :
    Ends (opening sides folder) (begun folder store server)
      (fun _ opened => sides.server.validity opened.server = reported sides folder store server)
      (fun _ _ => True) := by
  unfold Ends reported
  match opening sides folder (begun folder store server) with
  | (.ok count, opened) => rfl
  | (.error halt, after) => trivial

/-- The plan by which the numbering is settled was done, and `state` is what it leads to. -/
def HasSettled (watch : Watch σ κ) (sides : Sides σ ρ) (folder : String) (store : σ) (server : ρ)
    (state : FolderState) (after : Progress σ ρ) : Prop :=
  state = (copyAt watch folder after).state ∧
    ∃ middle, Opening watch folder store true true middle ∧
      After watch folder middle
        (Plan.settle (reported sides folder store server) ((watch.memory store).copy folder)) after

/-- The first so many deeds of that plan were done. -/
def HaltedSettling (watch : Watch σ κ) (sides : Sides σ ρ) (folder : String) (store : σ)
    (server : ρ) (after : Progress σ ρ) : Prop :=
  ∃ made opened middle deeds, Opening watch folder store made opened middle ∧
    deeds <+: Plan.settle (reported sides folder store server) ((watch.memory store).copy folder) ∧
    After watch folder middle deeds after

/-- Settling the numbering does the first so many deeds of its plan, and all of them if it comes to
its end. -/
theorem settling_ends (faithful : watch.Faithful sides.store) :
    Ends (settling sides folder) (begun folder store server)
      (fun settled => HasSettled watch sides folder store server settled.2)
      (fun _ => HaltedSettling watch sides folder store server) := by
  unfold settling
  apply Ends.bind
  refine Ends.mono ((opening_ends faithful).and (opening_reports sides folder store server)) ?_ ?_
  -- Halted while opening, the run has done none of the deeds.
  case refine_2 =>
    rintro halt after ⟨⟨made, opened, start⟩, _⟩
    exact ⟨made, opened, after, [], start, List.nil_prefix, .refl watch folder after⟩
  rintro count middle ⟨⟨start, _, _⟩, reports⟩
  have atCopy : copyAt watch folder middle = (watch.memory store).copy folder := by
    unfold copyAt
    rw [start.memory, making_copy]
  have settles : Follows watch folder
      (do
        let state ← keep .loadState (FolderState.load sides.store folder)
        return (count, ← checkValidity sides folder state)) middle
      (· = Plan.settle (reported sides folder store server) ((watch.memory store).copy folder))
      fun settled after => settled.2 = (copyAt watch folder after).state := by
    refine (Follows.andThen (Plan.renumber (reported sides folder store server)
      ((watch.memory store).copy folder).state ++ []) (load_follows faithful) ?_).mono ?_
      fun _ _ done => done
    · rintro state loaded moved ⟨rfl, sameServer⟩
      have atLoaded : copyAt watch folder loaded = copyAt watch folder middle := moved.copyAt
      rw [← reports, ← sameServer, ← atCopy]
      refine Follows.andThen [] (checkValidity_follows faithful (congrArg _ atLoaded.symm)) ?_
      rintro state checked _ ⟨same, _⟩
      exact follows_pure same
    · rintro _ rfl
      rw [List.append_nil]
      rfl
  refine Ends.mono settles ?_ ?_
  · rintro settled after ⟨_, rfl, moved, same⟩
    exact ⟨same, middle, start, moved⟩
  · rintro halt after ⟨_, deeds, rfl, begins, moved⟩
    exact ⟨true, true, middle, deeds, start, begins, moved⟩

theorem listing_store (sides : Sides σ ρ) (settings : PassSettings) (count : Int)
    (before : Progress σ ρ) : (listing sides settings count before).2.store = before.store := by
  have keeps : Ends (listing sides settings count) before
      (fun _ after => after.store = before.store) fun _ after => after.store = before.store := by
    unfold listing
    dsimp only
    split
    · exact ends_pure rfl
    · apply Ends.bind
      apply ends_ask
      · intro listed server _
        exact ends_pure rfl
      · intro failure server _
        rfl
  unfold Ends at keeps
  split at keeps
  next ran => rw [ran]; exact keeps
  next ran => rw [ran]; exact keeps

/-- The listing is heard from the server alone. -/
theorem hearing_store (sides : Sides σ ρ) (folder : String) (settings : PassSettings)
    (before : Progress σ ρ) :
    (hearing sides folder settings before).2.store = (settling sides folder before).2.store := by
  unfold hearing
  rw [bind_apply]
  match settling sides folder before with
  | (.error halt, after) => rfl
  | (.ok (count, state), after) =>
    have same := listing_store sides settings count after
    dsimp only
    rw [bind_apply]
    match listed : listing sides settings count after with
    | (.error halt, after') => rw [listed] at same; exact same
    | (.ok listed, after') => rw [listed] at same; exact same

theorem settledStore_of_hears {result : Except Halt (FolderState × List Listed)}
    {after : Progress σ ρ}
    (hears : hearing sides folder settings (begun folder store server) = (result, after)) :
    settledStore sides folder store server = after.store := by
  rw [settledStore, ← hearing_store sides folder settings, hears]

theorem hearing_ends (faithful : watch.Faithful sides.store) :
    Ends (hearing sides folder settings) (begun folder store server)
      (fun heard => HasSettled watch sides folder store server heard.1)
      (fun _ => HaltedSettling watch sides folder store server) := by
  unfold hearing
  apply Ends.bind
  refine Ends.mono (settling_ends faithful) ?_ fun _ _ halted => halted
  rintro ⟨count, _⟩ settled ⟨rfl, middle, start, moved⟩
  have answers : Answers := ⟨0, fun _ _ _ => [], fun _ _ => []⟩
  have lists : Follows watch folder (listing sides settings count) settled _ _ :=
    listing_follows answers settings count
  apply Ends.bind
  refine Ends.mono lists ?_ ?_
  · rintro listed after ⟨_, rfl, moved', _⟩
    refine ends_pure ⟨congrArg Copy.state moved'.copyAt.symm, middle, start, ?_⟩
    have moved'' := moved.trans moved'
    rwa [List.append_nil] at moved''
  · rintro halt after ⟨_, deeds, rfl, none, moved'⟩
    rw [List.prefix_nil.1 none] at moved'
    have moved'' := moved.trans moved'
    rw [List.append_nil] at moved''
    exact ⟨true, true, middle, _, start, List.prefix_rfl, moved''⟩

/-- A run does some deeds that settle the numbering, and then some about messages. -/
theorem run_staged (faithful : watch.Faithful sides.store) (answers : Answers)
    (settings : PassSettings) (store : σ) (server : ρ) :
    ∃ made opened settles deals result,
      settles <+: Plan.settle (reported sides folder store server)
        ((watch.memory store).copy folder) ∧
      watch.memory (settledStore sides folder store server) =
        (watch.memory store).replay (runEntries folder made settles) ∧
      Went watch folder store made opened (settles ++ deals) result
        (run sides folder settings store server) ∧
      Deals sides answers folder settings store server
        ((watch.memory (settledStore sides folder store server)).copy folder) deals result := by
  obtain ⟨kept, told, _⟩ := run_whole sides folder settings store server
  rw [whole_stages, bind_apply] at kept told
  have replayed {made opened : Bool} {middle after : Progress σ ρ} {deeds : List Deed}
      (start : Opening watch folder store made opened middle)
      (moved : After watch folder middle deeds after) :
      watch.memory after.store = (watch.memory store).replay (runEntries folder made deeds) := by
    rw [moved.memory, start.memory]
    exact List.foldl_append.symm
  unfold settledStore
  rw [← hearing_store sides folder settings]
  match heard : hearing sides folder settings (begun folder store server) with
  | (.error halt, after) =>
    obtain ⟨_, ended, _⟩ | ⟨_, _, made, opened, middle, deeds, start, begins, moved⟩ :=
      (hearing_ends faithful).of_run heard
    · cases ended
    rw [heard] at kept told
    refine ⟨made, opened, deeds, [], .error halt, begins, replayed start moved, ?_, .unheard halt⟩
    rw [List.append_nil]
    exact start.went moved kept told
  | (.ok (state, listed), after) =>
    obtain ⟨_, ended, same, middle, start, moved⟩ | ⟨_, ended, _⟩ :=
      (hearing_ends faithful).of_run heard
    case inr => cases ended
    cases ended
    dsimp only at same
    subst same
    rw [heard] at kept told
    dsimp only at kept told
    have deals : Follows watch folder
        (dealing sides folder settings ((copyAt watch folder after).state, listed)) after _ _ :=
      reconciling_follows faithful answers settings listed rfl .start
    match dealt : dealing sides folder settings ((copyAt watch folder after).state, listed) after with
    | (result, ended) =>
      rw [dealt] at kept told
      obtain ⟨_, rfl, _, ⟨bodies, fetched, rfl⟩, moved', _⟩ |
        ⟨halt, rfl, _, deeds, ⟨bodies, fetched, rfl⟩, begins, moved'⟩ := deals.of_run dealt
      · exact ⟨true, true, _, _, .ok (), List.prefix_rfl, replayed start moved,
          start.went (moved.trans moved') kept told,
          .heard heard fetched List.prefix_rfl fun _ => rfl⟩
      · exact ⟨true, true, _, deeds, .error halt, List.prefix_rfl, replayed start moved,
          start.went (moved.trans moved') kept told, .heard heard fetched begins nofun⟩

/-- What a run leaves of its folder is what its deeds about messages make of it. -/
theorem copy_staged {made opened : Bool} {settles deals : List Deed} {result : Except Halt Unit}
    (settled : watch.memory (settledStore sides folder store server) =
      (watch.memory store).replay (runEntries folder made settles))
    (went : Went watch folder store made opened (settles ++ deals) result
      (run sides folder settings store server)) :
    (watch.memory (run sides folder settings store server).store).copy folder =
      replay ((watch.memory (settledStore sides folder store server)).copy folder) deals := by
  rw [went.copy, replay_append, settled, copy_runEntries]

/-- The recent messages that a run heard to be listed. -/
def recentIn (sides : Sides σ ρ) (folder : String) (settings : PassSettings) (store : σ)
    (server : ρ) : List Listed :=
  (listedIn (serverCalls sides folder settings store server)).filter (isRecent settings)

/-- All that a run does about messages, when it knows the copy of a folder and hears a listing;
`body` gives the octets of messages. -/
def planned (folder : String) (settings : PassSettings) (listed : List Listed)
    (body : Listed → Octets) (copy : Copy) : List Deed :=
  ⟨.look, []⟩ :: (Plan.work folder settings listed body copy ++ Plan.raise copy.state listed)

theorem pairwise_recentIn
    (distinct : ((listedIn (serverCalls sides folder settings store server)).map Listed.uid).Nodup) :
    (recentIn sides folder settings store server).Pairwise fun left right => left.id ≠ right.id :=
  (Listed.pairwise_id distinct).filter _

/-- If no UID is listed twice, then there is one plan for a listing and the octets of its
messages. -/
theorem Deals.planned {answers : Answers} {copy : Copy} {deals : List Deed}
    {result : Except Halt Unit}
    (dealt : Deals sides answers folder settings store server copy deals result)
    (apart : (recentIn sides folder settings store server).Pairwise
      fun left right => left.id ≠ right.id) :
    ∃ body,
      let plan := planned folder settings (recentIn sides folder settings store server) body copy
      deals <+: plan ∧ (result = .ok () → deals = plan) := by
  cases dealt with
  | unheard halt => exact ⟨fun _ => [], List.nil_prefix, nofun⟩
  | @heard listed bodies _ _ after hears fetched begins all =>
    have same : recentIn sides folder settings store server = listed := listedIn_serverCalls hears
    rw [same] at apart ⊢
    obtain ⟨body, rfl⟩ := exists_body (Plan.pairwise_newMessages apart) fetched
    rw [Plan.reconcile_eq apart] at begins all
    exact ⟨body, begins, all⟩

end

end MailReplica.Reconcile.Pass
