import MailReplica.Proofs.Pass.Outline

/-! # The grammar of a run

`Grammatical` lists the forms that a run can take, by what it tells, asks the server and asks the
store.  Whatever the sides answer, a run has one of them, and it ends well or names a call that went
wrong (`run_traced`).
-/

namespace MailReplica.Reconcile

open Store (FolderState)

/-! ## Forms of a run -/

/-- Why the server refused a call, if it did. -/
def Exchange.failure? : Exchange → Option Failure
  | .folder _ answer | .openFolder _ answer | .expunge answer => refusal? answer
  | .count answer => refusal? answer
  | .list _ _ _ answer => refusal? answer
  | .fetch _ _ answer => refusal? answer
  | .close => none

def Exchange.listing : Exchange → List Listed
  | .list _ _ _ (.ok listed) => listed
  | _ => []

/-- All messages that a server listed. -/
def listedIn (asked : List Exchange) : List Listed :=
  asked.flatMap Exchange.listing

/-- The messages that a store named first, with their dates. -/
def knownIn (kept : List Store.Exchange) : Std.ExtTreeMap String (Option Instant) :=
  (kept.findSome? Store.Exchange.dates?).getD ∅

/-- One request for the latest messages, or none. -/
def IsListing (settings : PassSettings) (count : Int) (lists : List Exchange) : Prop :=
  lists = [] ∨ ∃ first last answer, Pass.windowOf settings count = some (first, last) ∧
    lists = [.list first last settings.cutoff answer]

/-- One request to expunge, after which nothing went wrong that is in `trace`, or none. -/
def IsExpunging (folder : String) (settings : PassSettings) (trace : Trace)
    (expunges : List Exchange) : Prop :=
  expunges = [] ∨ settings.expungePolicy = .onPoll ∧ trace.Clean folder ∧
    ∃ answer, expunges = [.expunge answer]

/-- What a run over an open folder that holds `count` messages tells and asks from its listing on.
If `all` holds then nothing was left out. -/
structure Continued (folder : String) (settings : PassSettings) (count : Int) (all : Prop)
    (outline : Outline) (lists fetches expunges : List Exchange) (trace : Trace) : Prop where
  told : trace.told = outline.told folder settings
  asked : trace.asked = lists ++ fetches ++ expunges
  listing : IsListing settings count lists
  fits : outline.Fits settings (knownIn trace.kept)
    ((listedIn lists).filter (Pass.isRecent settings))
  fetching : Outline.Fetches settings outline.fetched fetches
  expunging : IsExpunging folder settings ⟨[], lists ++ fetches, trace.kept⟩ expunges
  complete : all →
    outline.fresh = Pass.newMessages (knownIn trace.kept)
        ((listedIn lists).filter (Pass.isRecent settings)) ∧
      (settings.expungePolicy = .onPoll → expunges ≠ [])

def Continues (folder : String) (settings : PassSettings) (count : Int) (all : Prop)
    (trace : Trace) : Prop :=
  ∃ outline lists fetches expunges,
    Continued folder settings count all outline lists fetches expunges trace

/-- What is told, asked of the server and asked of the store in a run over `folder`, except for its
start, its failure and its end. -/
inductive Grammatical (folder : String) (settings : PassSettings) : Trace → Prop where
  | unprepared (failure : Store.Failure) :
    Grammatical folder settings ⟨[], [], [.createFolders [⟨folder, folder⟩] (.error failure)]⟩
  | absent (failure : Failure) (kept : List Store.Exchange) :
    Grammatical folder settings ⟨[], [.folder folder (.error failure)], kept⟩
  | unopened (failure : Failure) (kept : List Store.Exchange) :
    Grammatical folder settings
      ⟨[], [.folder folder (.ok ()), .openFolder .readOnly (.error failure), .close], kept⟩
  | uncounted (answer : Except Failure Int) (kept : List Store.Exchange)
      (unusable : ∀ count, answer = .ok count → count < 0) :
    Grammatical folder settings
      ⟨[.authenticated],
        [.folder folder (.ok ()), .openFolder .readOnly (.ok ()), .count answer, .close], kept⟩
  | opened {count : Int} {trace : Trace} (usable : 0 ≤ count)
      (continues : Continues folder settings count (trace.Clean folder) trace) :
    Grammatical folder settings
      ⟨.authenticated :: trace.told,
        .folder folder (.ok ()) :: .openFolder .readOnly (.ok ()) :: .count (.ok count) ::
          (trace.asked ++ [.close]), trace.kept⟩

/-- A pass that stops before it knows what the store holds has done nothing about messages. -/
theorem continues_blank {folder : String} {settings : PassSettings} {count : Int} {all : Prop}
    {lists : List Exchange} (listing : IsListing settings count lists)
    (kept : List Store.Exchange) (not_all : ¬all) :
    Continues folder settings count all ⟨[], lists, kept⟩ :=
  ⟨.blank 0, lists, [], [], rfl, by simp, listing, Outline.fits_blank 0, .nil, .inl rfl,
    fun all => absurd all not_all⟩

/-- Quiet calls on the store that came before make no difference to what a run does from its listing
on. -/
theorem Continues.after {folder : String} {settings : PassSettings} {count : Int} {all all' : Prop}
    {trace : Trace}
    {earlier : List Store.Exchange} (continues : Continues folder settings count all trace)
    (nameless : earlier.findSome? Store.Exchange.dates? = none)
    (answered : ∀ exchange ∈ earlier, exchange.failure? = none) (enough : all' → all) :
    Continues folder settings count all' ⟨trace.told, trace.asked, earlier ++ trace.kept⟩ := by
  obtain ⟨outline, lists, fetches, expunges, continued⟩ := continues
  have same : knownIn (earlier ++ trace.kept) = knownIn trace.kept := by
    unfold knownIn
    rw [findSome?_dates_append nameless]
  refine ⟨outline, lists, fetches, expunges, continued.told, continued.asked, continued.listing,
    ?_, continued.fetching, ?_, ?_⟩
  · rw [same]
    exact continued.fits
  · refine continued.expunging.imp id fun ⟨onPoll, clean, expunged⟩ => ⟨onPoll, ?_, expunged⟩
    exact ⟨clean.asked, List.forall_mem_append.2 ⟨answered, clean.kept⟩⟩
  · rw [same]
    exact fun all => continued.complete (enough all)

namespace Pass

variable {σ ρ α β : Type} {folder : String} {settings : PassSettings} (sides : Sides σ ρ)

/-! ## Before the listing -/

theorem load_leaves :
    Leaves folder
      (keep .loadState (FolderState.load sides.noting.store folder) : NotedPass σ ρ FolderState)
      (fun _ trace => trace.Quiet []) fun trace => trace.Quiet [] := by
  unfold FolderState.load
  simp only [keep_bind]
  exact (leaves_quiet sides _ _ (.loadState _) fun _ => rfl).andQuietly fun _ =>
    (leaves_quiet sides _ _ (.loadState _) fun _ => rfl).andQuietly fun _ =>
      leaves_pure Trace.quiet_empty

theorem checkValidity_leaves (state : FolderState) :
    Leaves folder (checkValidity sides.noting folder state)
      (fun _ trace => trace.Quiet []) fun trace => trace.Quiet [] := by
  have unchanged : Leaves folder (pure state : NotedPass σ ρ FolderState)
      (fun _ trace => trace.Quiet []) fun trace => trace.Quiet [] := leaves_pure Trace.quiet_empty
  have ended (state : FolderState) : Leaves folder
      (keep .resetState (pure state) : NotedPass σ ρ FolderState)
      (fun _ trace => trace.Quiet []) fun trace => trace.Quiet [] := leaves_pure Trace.quiet_empty
  unfold checkValidity
  refine leaves_get fun progress => ?_
  split
  · exact unchanged
  · unfold FolderState.recordValidity
    simp only [keep_bind]
    exact (leaves_quiet sides _ _ (.storeValidity _) fun _ => rfl).andQuietly fun _ => ended _
  · split
    · exact unchanged
    · unfold FolderState.startOver
      simp only [keep_bind]
      exact (leaves_quiet sides _ _ .clear fun _ => rfl).andQuietly fun _ =>
        (leaves_quiet sides _ _ (.resetState _ _) fun _ => rfl).andQuietly fun _ =>
          (leaves_quiet sides _ _ (.resetState _ _) fun _ => rfl).andQuietly fun _ => ended _

theorem listing_leaves (count : Int) :
    Leaves folder (listing sides.noting settings count)
      (fun listed trace => ∃ lists, IsListing settings count lists ∧
        listed = (listedIn lists).filter (isRecent settings) ∧ trace = ⟨[], lists, []⟩)
      fun trace => ∃ lists, IsListing settings count lists ∧ listedIn lists = [] ∧
        trace = ⟨[], lists, []⟩ := by
  unfold listing
  dsimp only
  split
  · exact leaves_pure ⟨[], .inl rfl, rfl, rfl⟩
  next first last window =>
    refine (leaves_ask sides _ (.list first last settings.cutoff) (fun _ => rfl)
      fun _ => rfl).andThen ?_ ?_
    · rintro _ ⟨failure, rfl⟩
      exact ⟨_, .inr ⟨first, last, _, window, rfl⟩, rfl, rfl⟩
    · rintro listed _ _ rfl
      refine leaves_pure ⟨_, .inr ⟨first, last, .ok listed, window, rfl⟩, ?_, rfl⟩
      simp [listedIn, Exchange.listing]

/-! ## From the listing on -/

/-- The trace of a pass that has its listing and knows what the store holds, and then does what is
outlined. -/
theorem continues_of {count : Int} {all : Prop} {outline : Outline}
    {lists expunges : List Exchange} {known : Std.ExtTreeMap String (Option Instant)}
    {trace : Trace} (listing : IsListing settings count lists)
    (fits : outline.Fits settings known ((listedIn lists).filter (isRecent settings)))
    (writes : outline.Writes folder settings trace)
    (expunging : IsExpunging folder settings
      ⟨[], lists ++ trace.asked, .dates folder (.ok known) :: trace.kept⟩ expunges)
    (complete : all →
      outline.fresh = newMessages known ((listedIn lists).filter (isRecent settings)) ∧
        (settings.expungePolicy = .onPoll → expunges ≠ [])) :
    Continues folder settings count all
      (⟨[], lists, []⟩ ++ (⟨[], [], [.dates folder (.ok known)]⟩ ++
        (trace ++ ⟨[], expunges, []⟩))) := by
  have kept : (⟨[], lists, []⟩ ++ (⟨[], [], [.dates folder (.ok known)]⟩ ++
      (trace ++ ⟨[], expunges, []⟩)) : Trace).kept =
        .dates folder (.ok known) :: trace.kept := by simp
  have knows : knownIn (.dates folder (.ok known) :: trace.kept) = known := rfl
  refine ⟨outline, lists, trace.asked, expunges, ?_, ?_, listing, ?_, writes.asked, ?_, ?_⟩
  · simpa using writes.told
  · simp
  · rwa [kept, knows]
  · rwa [kept]
  · rwa [kept, knows]

theorem continuing_leaves (settled : Int × FolderState) :
    Leaves folder (continuing sides.noting folder settings settled)
      (fun _ => Continues folder settings settled.1 True)
      (Continues folder settings settled.1 False) := by
  unfold continuing
  refine (listing_leaves sides settled.1).andThen ?_ ?_
  · rintro _ ⟨lists, listing, _, rfl⟩
    exact continues_blank listing [] not_false
  rintro _ _ listed ⟨lists, listing, rfl, rfl⟩
  refine (leaves_call sides _ (.dates folder) .readLocal).andThen ?_ ?_
  · rintro _ ⟨failure, rfl⟩
    have halted : Continues folder settings settled.1 False _ :=
      continues_blank listing [.dates folder (.error failure)] not_false
    rwa [← List.append_nil lists] at halted
  rintro known _ looked rfl
  refine (reconcile_leaves sides settled.2 _ known).andThen ?_ ?_
  · rintro trace ⟨outline, fits, writes⟩
    have halted : Continues folder settings settled.1 False _ :=
      continues_of listing fits writes (.inl rfl) nofun
    rwa [show (⟨[], [], []⟩ : Trace) = .empty from rfl, Trace.append_empty] at halted
  rintro _ trace reconciled ⟨outline, fits, fresh, writes⟩
  have joined := (listed.append looked).append reconciled
  have clean : Trace.Clean folder
      ⟨[], lists ++ trace.asked, .dates folder (.ok known) :: trace.kept⟩ :=
    ⟨by simpa using joined.asked, joined.kept⟩
  split
  next onPoll =>
    refine (leaves_ask sides _ .expunge (fun _ => rfl) fun _ => rfl).mono ?_ ?_
    · rintro _ _ _ rfl
      exact continues_of listing fits writes (.inr ⟨onPoll, clean, _, rfl⟩) fun _ =>
        ⟨fresh, fun _ => List.cons_ne_nil _ _⟩
    · rintro _ ⟨failure, rfl⟩
      exact continues_of listing fits writes (.inr ⟨onPoll, clean, _, rfl⟩) nofun
  next other =>
    exact leaves_pure (continues_of listing fits writes (.inl rfl) fun _ =>
      ⟨fresh, fun onPoll => absurd onPoll other⟩)

/-! ## Before the numbering is settled -/

theorem count_leaves :
    Leaves folder
      (do
        let count ← ask sides.noting .getCount .count
        if count < 0 then
          throw ⟨.checkCount, .sync ("Message count " ++ count.repr ++ " for folder " ++ folder)⟩
        else return count)
      (fun count trace => 0 ≤ count ∧ trace = ⟨[], [.count (.ok count)], []⟩)
      fun trace => ∃ answer, (∀ count, answer = .ok count → count < 0) ∧
        trace = ⟨[], [.count answer], []⟩ := by
  intro before
  apply Ends.bind
  rw [Ends, ask_noting]
  match sides.server.run .count before.server.state with
  | (.ok count, state) =>
    dsimp only
    split
    next negative =>
      -- No call failed, but its answer ends the pass.
      refine ends_throw ⟨_, ⟨rfl, rfl, (List.append_nil _).symm⟩, ?_, .ok count, ?_, rfl⟩
      · exact .asked (List.nil_append _).symm (if_pos negative)
          ⟨List.forall_mem_nil _, List.forall_mem_nil _⟩
      · rintro _ ⟨⟩
        exact negative
    next usable =>
      refine ends_pure ⟨_, ⟨rfl, rfl, (List.append_nil _).symm⟩,
        ⟨?_, List.forall_mem_nil _⟩, Int.not_lt.1 usable, rfl⟩
      rintro _ (_ | ⟨_, ⟨⟩⟩)
      exact if_neg usable
  | (.error failure, state) =>
    refine ⟨_, ⟨rfl, rfl, (List.append_nil _).symm⟩, ?_, .error failure, nofun, rfl⟩
    exact .asked (List.nil_append _).symm rfl ⟨List.forall_mem_nil _, List.forall_mem_nil _⟩

theorem openAndCount_leaves :
    Leaves folder (openAndCount sides.noting folder)
      (fun count trace => 0 ≤ count ∧
        trace = ⟨[.authenticated], [.openFolder .readOnly (.ok ()), .count (.ok count)], []⟩)
      fun trace => (∃ failure, trace = ⟨[], [.openFolder .readOnly (.error failure)], []⟩) ∨
        ∃ answer, (∀ count, answer = .ok count → count < 0) ∧
          trace = ⟨[.authenticated], [.openFolder .readOnly (.ok ()), .count answer], []⟩ := by
  unfold openAndCount
  refine (leaves_ask sides _ (.openFolder .readOnly) (fun _ => rfl) fun _ => rfl).andThen ?_ ?_
  · rintro _ ⟨failure, rfl⟩
    exact .inl ⟨failure, rfl⟩
  rintro _ _ _ rfl
  refine (leaves_tell .authenticated).andThen (fun _ never => never.elim) ?_
  rintro _ _ _ rfl
  refine (count_leaves sides).mono ?_ ?_
  · rintro count _ _ ⟨usable, rfl⟩
    exact ⟨usable, rfl⟩
  · rintro _ ⟨answer, unusable, rfl⟩
    exact .inr ⟨answer, unusable, rfl⟩

/-- What a part of a run adds that has got hold of the folder and lets it go afterwards. -/
def Aligned (folder : String) (settings : PassSettings) (trace : Trace) : Prop :=
  Grammatical folder settings
    ⟨trace.told, .folder folder (.ok ()) :: (trace.asked ++ [.close]),
      .createFolders [⟨folder, folder⟩] (.ok ()) :: trace.kept⟩

/-- A run that has counted the messages and goes on. -/
theorem aligned_of {count : Int} {trace : Trace} (usable : 0 ≤ count)
    (continues : Continues folder settings count (trace.Clean folder)
      ⟨trace.told, trace.asked, .createFolders [⟨folder, folder⟩] (.ok ()) :: trace.kept⟩) :
    Aligned folder settings
      (⟨[.authenticated], [.openFolder .readOnly (.ok ()), .count (.ok count)], []⟩ ++ trace) := by
  obtain ⟨outline, lists, fetches, expunges, continued⟩ := continues
  refine .opened usable ⟨outline, lists, fetches, expunges, { continued with complete := ?_ }⟩
  intro clean
  exact continued.complete ⟨clean.asked, fun exchange made =>
    clean.kept exchange (List.mem_cons_of_mem _ made)⟩

theorem align_leaves :
    Leaves folder (align sides.noting folder settings) (fun _ => Aligned folder settings)
      (Aligned folder settings) := by
  have parts : align sides.noting folder settings = (do
      let count ← openAndCount sides.noting folder
      let state ← (do
        let state ← keep .loadState (FolderState.load sides.noting.store folder)
        checkValidity sides.noting folder state)
      continuing sides.noting folder settings (count, state)) := by
    simp only [bind_assoc]
    rfl
  rw [parts]
  refine (openAndCount_leaves sides).andThen ?_ ?_
  · rintro _ (⟨failure, rfl⟩ | ⟨answer, unusable, rfl⟩)
    · exact .unopened failure _
    · exact .uncounted answer _ unusable
  rintro count _ opened ⟨usable, rfl⟩
  have settles := ((load_leaves sides).andQuietly fun state =>
    checkValidity_leaves sides state : Leaves folder _ _ _).blaming
  refine settles.andThen ?_ ?_
  · rintro ⟨_, _, kept⟩ ⟨⟨rfl, rfl, nameless⟩, unclean⟩
    exact aligned_of usable (continues_blank (.inl rfl) _ unclean)
  rintro state ⟨_, _, kept⟩ clean ⟨rfl, rfl, nameless⟩
  have aligned {all : Prop} {trace : Trace}
      (continues : Continues folder settings count all trace) (enough : trace.Clean folder → all) :
      Aligned folder settings
        (⟨[.authenticated], [.openFolder .readOnly (.ok ()), .count (.ok count)], []⟩ ++
          (⟨[], [], kept⟩ ++ trace)) := by
    have nameless : List.findSome? Store.Exchange.dates?
        (.createFolders [⟨folder, folder⟩] (.ok ()) :: kept) = none := nameless
    refine aligned_of usable
      (continues.after nameless (List.forall_mem_cons.2 ⟨rfl, clean.kept⟩) ?_)
    intro clean
    exact enough ⟨clean.asked, fun exchange made =>
      clean.kept exchange (List.mem_append_right _ made)⟩
  refine (continuing_leaves sides (count, state)).blaming.mono ?_ ?_
  · intro _ trace _ continues
    exact aligned continues fun _ => trivial
  · rintro trace ⟨continues, unclean⟩
    exact aligned continues fun clean => unclean clean

/-! ## Whole runs -/

theorem prepare_leaves :
    Leaves folder (prepare sides.noting folder)
      (fun _ trace => trace = ⟨[], [.folder folder (.ok ())],
        [.createFolders [⟨folder, folder⟩] (.ok ())]⟩)
      (Grammatical folder settings) := by
  unfold prepare
  refine (leaves_call sides _ (.createFolders [⟨folder, folder⟩]) .prepare).andThen ?_ ?_
  · rintro _ ⟨failure, rfl⟩
    exact .unprepared failure
  rintro _ _ _ rfl
  refine (leaves_ask sides _ (.folder folder) (fun _ => rfl) fun _ => rfl).mono ?_ ?_
  · rintro _ _ _ rfl
    rfl
  · rintro _ ⟨failure, rfl⟩
    exact .absent failure _

/-- How a run ends: well, or with a failure that names the call which went wrong. -/
inductive Ending (folder : String) (trace : Trace) : List Event → Prop where
  | well (clean : trace.Clean folder) : Ending folder trace []
  | ill {halt : Halt} (blamed : trace.Blamed folder halt) :
    Ending folder trace
      [.failed folder (halt.step.text folder ++ ": " ++ halt.failure.text) halt.failure]

/-- Letting the folder go cannot fail. -/
theorem Ending.close {trace : Trace} {failure : List Event} (ending : Ending folder trace failure) :
    Ending folder ⟨trace.told, trace.asked ++ [.close], trace.kept⟩ failure := by
  cases ending with
  | well clean =>
    have asked : ∀ exchange ∈ trace.asked ++ [.close], exchange.halt? folder = none :=
      List.forall_mem_append.2 ⟨clean.asked, List.forall_mem_singleton.2 rfl⟩
    exact .well ⟨asked, clean.kept⟩
  | ill blamed =>
    refine .ill (blamed.imp ?_ id)
    rintro ⟨exchange, made, halts⟩
    exact ⟨exchange, List.mem_append_left _ made, halts⟩

/-- What a run over noting sides adds until it lets the folder go.  It lets it go if it got hold of
it. -/
theorem whole_traced (sides : Sides σ ρ) (folder : String) (settings : PassSettings) (store : σ)
    (server : ρ) :
    let start : NotedProgress σ ρ := begun folder ⟨store, []⟩ ⟨server, []⟩
    let ended := whole sides.noting folder settings start
    ∃ trace, Adds start trace ended.2 ∧
      let whole : Trace := ⟨trace.told,
        trace.asked ++ if (prepare sides.noting folder start).1.isOk then [.close] else [],
        trace.kept⟩
      Grammatical folder settings whole ∧ Ending folder whole (failureOf folder ended.1) := by
  dsimp only
  rw [whole_eq, bind_apply]
  have prepares : Leaves folder (prepare sides.noting folder) _ (Grammatical folder settings) :=
    prepare_leaves sides
  match ran : prepare sides.noting folder (begun folder ⟨store, []⟩ ⟨server, []⟩) with
  | (.error halt, after) =>
    obtain ⟨_, ended, _⟩ | ⟨_, ended, trace, adds, blames, grammatical⟩ :=
      (prepares _).of_run ran
    · cases ended
    cases ended
    refine ⟨trace, adds, ?_⟩
    change Grammatical folder settings ⟨trace.told, trace.asked ++ [], trace.kept⟩ ∧
      Ending folder ⟨trace.told, trace.asked ++ [], trace.kept⟩ (failureOf folder (.error halt))
    rw [List.append_nil]
    exact ⟨grammatical, .ill blames.blamed⟩
  | (.ok (), middle) =>
    obtain ⟨_, _, first, adds, clean, rfl⟩ | ⟨_, ended, _⟩ := (prepares _).of_run ran
    case inr => cases ended
    dsimp only
    match ended : align sides.noting folder settings middle with
    | (result, after) =>
      obtain ⟨_, rfl, trace, adds', clean', aligned⟩ | ⟨_, rfl, trace, adds', blames, aligned⟩ :=
        (align_leaves sides middle).of_run ended
      · exact ⟨_, adds.trans adds', aligned, (Ending.well (clean.append clean')).close⟩
      · exact ⟨_, adds.trans adds', aligned,
          (Ending.ill (clean.append_blames blames).blamed).close⟩

/-- Every run is made up of such calls and events, and ends so. -/
theorem run_traced (sides : Sides σ ρ) (folder : String) (settings : PassSettings) (store : σ)
    (server : ρ) :
    let ended := whole sides folder settings (begun folder store server)
    ∃ told, ended.2.told = told.reverse ++ [.started folder] ∧
      events (run sides folder settings store server) =
        .started folder :: (told ++ failureOf folder ended.1 ++ [.finished folder]) ∧
      Grammatical folder settings
        ⟨told, serverCalls sides folder settings store server,
          storeCalls sides folder settings store server⟩ ∧
      Ending folder
        ⟨told, serverCalls sides folder settings store server,
          storeCalls sides folder settings store server⟩ (failureOf folder ended.1) := by
  obtain ⟨_, told, _⟩ := run_whole sides folder settings store server
  obtain ⟨kept, _, asked⟩ :=
    run_whole sides.noting folder settings (⟨store, []⟩ : Noted σ Store.Exchange)
      (⟨server, []⟩ : Noted ρ Exchange)
  obtain ⟨trace, adds, grammatical, ending⟩ := whole_traced sides folder settings store server
  have storeCalled : storeCalls sides folder settings store server = trace.kept := by
    rw [storeCalls, notedRun, kept, adds.kept]
    rfl
  have serverCalled : serverCalls sides folder settings store server = trace.asked ++
      if (prepare sides.noting folder (begun folder ⟨store, []⟩ ⟨server, []⟩)).1.isOk then [.close]
      else [] := by
    rw [serverCalls, notedRun, asked]
    split
    · change _ ++ [Exchange.close] = _
      rw [adds.asked]
      rfl
    · rw [adds.asked, List.append_nil]
      rfl
  have tells : (withoutNotes (whole sides.noting folder settings
      (begun folder ⟨store, []⟩ ⟨server, []⟩)).2).told = trace.told.reverse ++ [.started folder] :=
    adds.told
  dsimp only
  rw [told, whole_noting, storeCalled, serverCalled]
  refine ⟨trace.told, tells, ?_, grammatical, ending⟩
  dsimp only
  cases (whole sides.noting folder settings (begun folder ⟨store, []⟩ ⟨server, []⟩)).1 <;>
    simp [settle, failureOf, tells]

end Pass

end MailReplica.Reconcile
