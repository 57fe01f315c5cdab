import Mathlib.Data.List.Forall2
import MailReplica.Proofs.Pass.Ends
import MailReplica.Proofs.Pass.Plan

/-! # A pass follows its plan

Whatever fails, a pass does the first so many deeds of a plan, and one that comes to its end has done
all of them (`replicate_follows`).  The plan is that of the copy which the pass meets and of the
answers which the server gives.  Nothing is assumed of the server; the store is one in memory whose
calls may fail.
-/

namespace MailReplica.Reconcile

open Store (Act Copy Entry FolderState Memory Watch)

/-! ## What a server is heard to say -/

structure Answers where
  count : Int
  listing : UInt32 → UInt32 → Option DatedInstant → List Listed
  body : UInt32 → FetchExtent → Octets

def Answers.reply {α : Type} (answers : Answers) : ServerCall α → α
  | .folder _ => ()
  | .openFolder _ => ()
  | .count => answers.count
  | .list first last cutoff => answers.listing first last cutoff
  | .fetch uid extent => answers.body uid extent
  | .expunge => ()

/-- Whether a call leaves the folder at hand and the messages in it as they are. -/
def ServerCall.isQuiet {α : Type} : ServerCall α → Bool
  | .folder _ | .expunge => false
  | .openFolder _ | .count | .list _ _ _ | .fetch _ _ => true

/-- The states that quiet calls lead to, whether they fail or not. -/
inductive Reached {ρ : Type} (server : Server ρ) (start : ρ) : ρ → Prop where
  | start : Reached server start start
  | call {α : Type} (request : ServerCall α) (quiet : request.isQuiet = true) {state : ρ}
      (reached : Reached server start state) : Reached server start (server.run request state).2

theorem Reached.trans {ρ : Type} {server : Server ρ} {start middle state : ρ}
    (first : Reached server start middle) (second : Reached server middle state) :
    Reached server start state := by
  induction second with
  | start => exact first
  | call request quiet _ ih => exact .call request quiet ih

theorem Reached.of_run {ρ α : Type} {server : Server ρ} {start state next : ρ}
    {result : Except Failure α} {request : ServerCall α} (reached : Reached server start state)
    (quiet : request.isQuiet = true) (ran : server.run request state = (result, next)) :
    Reached server start next := by
  have called := Reached.call request quiet reached
  rwa [ran] at called

/-- A value that a server answers to a call in a state that was reached, or the one of `answers`,
which stands in where a server does not get to answer. -/
def Heard {ρ α : Type} (server : Server ρ) (answers : Answers) (start : ρ) (call : ServerCall α)
    (value : α) : Prop :=
  value = answers.reply call ∨
    ∃ state, Reached server start state ∧ (server.run call state).1 = .ok value

theorem heard_reply {ρ α : Type} (server : Server ρ) (answers : Answers) (start : ρ)
    (call : ServerCall α) : Heard server answers start call (answers.reply call) := .inl rfl

/-- The numbers of the messages that a pass lists in a folder of `count` messages. -/
def Pass.windowOf (settings : PassSettings) (count : Int) : Option (UInt32 × UInt32) :=
  window (UInt32.ofNat (min count.toNat (UInt32.size - 1))) settings.visibleLimit

/-- A listing, reduced to the messages that are recent enough, as a server gives it in `state`, or
as `answers` has it. -/
def HeardListing {ρ : Type} (server : Server ρ) (answers : Answers) (settings : PassSettings)
    (count : Int) (state : ρ) (listed : List Listed) : Prop :=
  match Pass.windowOf settings count with
  | none => listed = []
  | some (first, last) =>
    ∃ raw, (raw = answers.listing first last settings.cutoff ∨
        (server.run (.list first last settings.cutoff) state).1 = .ok raw) ∧
      listed = raw.filter (Pass.isRecent settings)

/-- Octets of messages, one for each, as they are heard of a server. -/
def HeardBodies {ρ : Type} (server : Server ρ) (answers : Answers) (settings : PassSettings)
    (start : ρ) : List Listed → List Octets → Prop :=
  List.Forall₂ fun listed raw =>
    Heard server answers start (.fetch listed.uid (Pass.extent settings listed).1) raw

theorem heardBodies_reply {ρ : Type} (server : Server ρ) (answers : Answers)
    (settings : PassSettings) (start : ρ) (listed : List Listed) :
    HeardBodies server answers settings start listed
      (listed.map fun message => answers.body message.uid (Pass.extent settings message).1) := by
  unfold HeardBodies
  induction listed with
  | nil => exact .nil
  | cons message rest ih => exact .cons (heard_reply server answers start _) ih

/-- Octets that are heard for messages of different names are a function of the message. -/
theorem exists_body {ρ : Type} {server : Server ρ} {answers : Answers} {settings : PassSettings}
    {start : ρ} {listed : List Listed} {bodies : List Octets}
    (distinct : listed.Pairwise fun left right => left.id ≠ right.id)
    (heard : HeardBodies server answers settings start listed bodies) :
    ∃ body : Listed → Octets, bodies = listed.map body := by
  unfold HeardBodies at heard
  induction heard with
  | nil => exact ⟨fun _ => [], rfl⟩
  | @cons message raw rest bodies _ _ ih =>
    obtain ⟨differ, distinct⟩ := List.pairwise_cons.1 distinct
    obtain ⟨body, rfl⟩ := ih distinct
    -- No later message has the name of this one, so its octets can be put in front.
    refine ⟨fun other => if other.id = message.id then raw else body other, ?_⟩
    rw [List.map_cons, if_pos rfl]
    congr 1
    refine List.map_congr_left fun other member => ?_
    rw [if_neg (differ other member).symm]

/-! ## Progress by deeds -/

def entriesOf (folder : String) (deeds : List Deed) : List Entry :=
  deeds.map fun deed => .inFolder folder deed.act

namespace Pass

variable {σ ρ κ α β : Type}

structure After (watch : Watch σ κ) (folder : String) (before : Progress σ ρ) (deeds : List Deed)
    (after : Progress σ ρ) : Prop where
  memory : watch.memory after.store = (watch.memory before.store).replay (entriesOf folder deeds)
  journal : watch.journal after.store =
    (entriesOf folder deeds).foldl watch.note (watch.journal before.store)
  told : after.told = (toldBy deeds).reverse ++ before.told

/-- A part of a pass does the deeds of one of the given plans, or halts after the first so many of
them. -/
def Follows (watch : Watch σ κ) (folder : String) (part : Pass σ ρ α) (before : Progress σ ρ)
    (plans : List Deed → Prop) (Done : α → Progress σ ρ → Prop) : Prop :=
  Ends part before
    (fun value after => ∃ plan, plans plan ∧ After watch folder before plan after ∧ Done value after)
    (fun _ after => ∃ plan done, plans plan ∧ done <+: plan ∧ After watch folder before done after)

def copyAt (watch : Watch σ κ) (folder : String) (progress : Progress σ ρ) : Copy :=
  (watch.memory progress.store).copy folder

section Rules

variable {watch : Watch σ κ} {folder : String} {before middle after : Progress σ ρ}

theorem copy_replay (store : Memory) (folder : String) (deeds : List Deed) :
    (store.replay (entriesOf folder deeds)).copy folder = replay (store.copy folder) deeds := by
  induction deeds generalizing store with
  | nil => rfl
  | cons deed deeds ih =>
    have acted := Entry.copy_apply store folder folder deed.act
    rw [if_pos rfl] at acted
    calc (store.replay (entriesOf folder (deed :: deeds))).copy folder
        = replay (((Entry.inFolder folder deed.act).apply store).copy folder) deeds := ih _
      _ = replay (store.copy folder) (deed :: deeds) := by rw [acted]; rfl

theorem After.copyAt {deeds : List Deed} (moved : After watch folder before deeds after) :
    copyAt watch folder after = replay (copyAt watch folder before) deeds := by
  unfold Pass.copyAt
  rw [moved.memory, copy_replay]

theorem After.refl (watch : Watch σ κ) (folder : String) (before : Progress σ ρ) :
    After watch folder before [] before := ⟨rfl, rfl, rfl⟩

theorem After.trans {first second : List Deed} (left : After watch folder before first middle)
    (right : After watch folder middle second after) :
    After watch folder before (first ++ second) after where
  memory := by
    rw [right.memory, left.memory]
    simp [entriesOf, Memory.replay]
  journal := by
    rw [right.journal, left.journal]
    simp [entriesOf]
  told := by
    rw [right.told, left.told]
    simp [toldBy]

variable {part : Pass σ ρ α} {next : α → Pass σ ρ β}

theorem Follows.mono {plans plans' : List Deed → Prop} {Done Done' : α → Progress σ ρ → Prop}
    (follows : Follows watch folder part before plans Done)
    (weaker : ∀ plan, plans plan → plans' plan)
    (done : ∀ value after, Done value after → Done' value after) :
    Follows watch folder part before plans' Done' := by
  refine Ends.mono follows ?_ ?_
  · rintro value after ⟨plan, planned, moved, ended⟩
    exact ⟨plan, weaker plan planned, moved, done value after ended⟩
  · rintro halt after ⟨plan, did, planned, some, moved⟩
    exact ⟨plan, did, weaker plan planned, some, moved⟩

/-- Parts in sequence follow their plans in sequence.  There has to be a plan for the second part
even if the first one halts. -/
theorem Follows.bind {plans joined : List Deed → Prop} {Done : α → Progress σ ρ → Prop}
    {Done' : β → Progress σ ρ → Prop} (rest : List Deed → Prop)
    (first : Follows watch folder part before plans Done)
    (inhabited : ∃ plan, rest plan)
    (join : ∀ left right, plans left → rest right → joined (left ++ right))
    (second : ∀ value after plan, plans plan → After watch folder before plan after →
      Done value after → Follows watch folder (next value) after rest Done') :
    Follows watch folder (part >>= next) before joined Done' := by
  apply Ends.bind
  refine Ends.mono first ?_ ?_
  · rintro value middle ⟨left, planned, moved, done⟩
    refine Ends.mono (second value middle left planned moved done) ?_ ?_
    · rintro value after ⟨right, planned', moved', done'⟩
      exact ⟨left ++ right, join left right planned planned', moved.trans moved', done'⟩
    · rintro halt after ⟨right, did, planned', some, moved'⟩
      exact ⟨left ++ right, left ++ did, join left right planned planned',
        (List.prefix_append_right_inj left).2 some, moved.trans moved'⟩
  · -- The second part never ran, but what the first one did has to start a whole plan.
    rintro halt after ⟨left, did, planned, some, moved⟩
    obtain ⟨right, planned'⟩ := inhabited
    exact ⟨left ++ right, did, join left right planned planned',
      some.trans (List.prefix_append left right), moved⟩

theorem Follows.andThen {left : List Deed} {Done : α → Progress σ ρ → Prop}
    {Done' : β → Progress σ ρ → Prop} (right : List Deed)
    (first : Follows watch folder part before (· = left) Done)
    (second : ∀ value after, After watch folder before left after → Done value after →
      Follows watch folder (next value) after (· = right) Done') :
    Follows watch folder (part >>= next) before (· = left ++ right) Done' := by
  refine Follows.bind (· = right) first ⟨right, rfl⟩ ?_ ?_
  · rintro _ _ rfl rfl
    rfl
  · rintro value after _ rfl moved done
    exact second value after moved done

theorem follows_pure {Done : α → Progress σ ρ → Prop} {value : α} (done : Done value before) :
    Follows watch folder (pure value) before (· = []) Done :=
  ends_pure ⟨[], rfl, .refl watch folder before, done⟩

/-- The numbering is read off the progress, which is no call. -/
theorem follows_get {next : Progress σ ρ → Pass σ ρ β} {plans : List Deed → Prop}
    {Done : β → Progress σ ρ → Prop}
    (follows : Follows watch folder (next before) before plans Done) :
    Follows watch folder (get >>= next) before plans Done :=
  follows

end Rules

/-! ## Single calls -/

section Parts

variable {watch : Watch σ κ} {folder : String} {before : Progress σ ρ} {sides : Sides σ ρ}

/-- A call on the folder is a deed, answered from the copy at hand.  It says nothing to the server. -/
theorem follows_call (faithful : watch.Faithful sides.store) (step : Step) (call : Store.Call α)
    {act : Act} (acts : Entry.of call = .inFolder folder act) :
    Follows watch folder (keep step (sides.store.call call)) before (· = [⟨act, []⟩])
      fun value after => value = (Memory.answer call (watch.memory before.store)).1 ∧
        after.server = before.server := by
  apply ends_call
  · intro value store answered
    obtain ⟨answer, memory, journal⟩ := faithful.answered call before.store answered
    rw [acts] at memory journal
    exact ⟨_, rfl, ⟨memory, journal, rfl⟩, answer, rfl⟩
  · intro failure store refused
    obtain ⟨memory, journal⟩ := faithful.refused call before.store refused
    exact ⟨_, [], rfl, List.nil_prefix, memory, journal, rfl⟩

/-- Asking the server is no deed. -/
theorem follows_ask (step : Step) (call : ServerCall α) :
    Follows watch folder (ask sides step call) before (· = [])
      fun value after => sides.server.run call before.server = (.ok value, after.server) := by
  apply ends_ask
  · intro value server answered
    exact ⟨[], rfl, ⟨rfl, rfl, rfl⟩, answered⟩
  · intro failure server _
    exact ⟨[], [], rfl, List.nil_prefix, rfl, rfl, rfl⟩

theorem follows_deed (faithful : watch.Faithful sides.store) (step : Step) (call : Store.Call Unit)
    {act : Act} (acts : Entry.of call = .inFolder folder act) (events : List Event)
    {telling : Pass σ ρ Unit}
    (tells : ∀ progress, telling progress =
      (.ok (), { progress with told := events.reverse ++ progress.told })) :
    Follows watch folder (do keep step (sides.store.call call); telling) before
      (· = [⟨act, events⟩]) fun _ after => after.server = before.server := by
  apply Ends.bind
  apply ends_call
  · intro value store answered
    obtain ⟨_, memory, journal⟩ := faithful.answered call before.store answered
    rw [acts] at memory journal
    unfold Ends
    rw [tells]
    exact ⟨_, rfl, ⟨memory, journal, by simp [toldBy]⟩, rfl⟩
  · intro failure store refused
    obtain ⟨memory, journal⟩ := faithful.refused call before.store refused
    exact ⟨_, [], rfl, List.nil_prefix, memory, journal, rfl⟩

/-! ## Parts of a pass -/

theorem load_follows (faithful : watch.Faithful sides.store) :
    Follows watch folder (keep .loadState (FolderState.load sides.store folder)) before
      (· = Plan.load) fun state after =>
        state = (copyAt watch folder before).state ∧ after.server = before.server := by
  unfold FolderState.load
  rw [keep_bind]
  apply Follows.andThen [⟨.readNumber FolderState.validityKey, []⟩]
    (follows_call faithful .loadState (.number folder FolderState.highestKey) rfl)
  rintro highest middle moved ⟨readHighest, server⟩
  rw [keep_bind]
  apply Follows.andThen []
    (follows_call faithful .loadState (.number folder FolderState.validityKey) rfl)
  rintro validity after moved' ⟨readValidity, server'⟩
  apply follows_pure
  refine ⟨?_, server'.trans server⟩
  have same : copyAt watch folder middle = copyAt watch folder before := moved.copyAt
  subst readHighest readValidity
  simp only [Memory.answer, Memory.number_eq_copy]
  unfold copyAt at same ⊢
  rw [same]
  rfl

theorem recordValidity_follows (faithful : watch.Faithful sides.store) {state : FolderState}
    (loaded : state = (copyAt watch folder before).state) (validity : UInt64) :
    Follows watch folder
      (keep .storeValidity (state.recordValidity sides.store folder validity)) before
      (· = [⟨.setNumber FolderState.validityKey validity.toInt64, []⟩]) fun state after =>
        state = (copyAt watch folder after).state ∧ after.server = before.server := by
  unfold FolderState.recordValidity
  rw [keep_bind]
  apply Follows.andThen []
    (follows_call faithful .storeValidity (.setNumber folder FolderState.validityKey _) rfl)
  rintro _ after moved ⟨_, server⟩
  apply follows_pure
  refine ⟨?_, server⟩
  rw [moved.copyAt, loaded]
  exact (Copy.state_setValidity _ validity).symm

theorem startOver_follows (faithful : watch.Faithful sides.store) (validity : UInt64) :
    Follows watch folder (keep .resetState (FolderState.startOver sides.store folder validity))
      before
      (· = [⟨.setNumber FolderState.highestKey 0, []⟩,
        ⟨.setNumber FolderState.validityKey validity.toInt64, []⟩]) fun state after =>
        state = (copyAt watch folder after).state ∧ after.server = before.server := by
  unfold FolderState.startOver
  rw [keep_bind]
  apply Follows.andThen [⟨.setNumber FolderState.validityKey validity.toInt64, []⟩]
    (follows_call faithful .resetState (.setNumber folder FolderState.highestKey 0) rfl)
  rintro _ zeroed moved ⟨_, server⟩
  rw [keep_bind]
  apply Follows.andThen []
    (follows_call faithful .resetState (.setNumber folder FolderState.validityKey _) rfl)
  rintro _ after moved' ⟨_, server'⟩
  apply follows_pure
  refine ⟨?_, server'.trans server⟩
  have zero : (copyAt watch folder zeroed).state =
      { (copyAt watch folder before).state with highestUid := 0 } := by
    rw [moved.copyAt]
    exact Copy.state_setHighest _ 0
  have recorded : (copyAt watch folder after).state =
      { (copyAt watch folder zeroed).state with validity := some validity } := by
    rw [moved'.copyAt]
    exact Copy.state_setValidity _ validity
  rw [recorded, zero]

theorem checkValidity_follows (faithful : watch.Faithful sides.store) {state : FolderState}
    (loaded : state = (copyAt watch folder before).state) :
    Follows watch folder (checkValidity sides folder state) before
      (· = Plan.renumber (sides.server.validity before.server) state) fun state after =>
        state = (copyAt watch folder after).state ∧ after.server = before.server := by
  unfold checkValidity
  apply follows_get
  unfold Plan.renumber
  cases sides.server.validity before.server with
  | none => exact follows_pure ⟨loaded, rfl⟩
  | some validity =>
    cases state.validity with
    | none => exact recordValidity_follows faithful loaded validity
    | some known =>
      dsimp only
      by_cases same : known = validity
      · rw [if_pos same, if_pos same]
        exact follows_pure ⟨loaded, rfl⟩
      · rw [if_neg same, if_neg same]
        apply Follows.andThen _ (follows_call faithful .clear (.removeAll folder) rfl)
        rintro _ cleared _ ⟨_, server⟩
        rw [← server]
        exact startOver_follows faithful validity

theorem listing_follows (answers : Answers) (settings : PassSettings) (count : Int) :
    Follows watch folder (listing sides settings count) before (· = [])
      fun listed after =>
        HeardListing sides.server answers settings count before.server listed ∧
          Reached sides.server before.server after.server := by
  unfold listing HeardListing
  change Follows watch folder (match windowOf settings count with
    | none => pure []
    | some (first, last) => do
      let listed ← ask sides (.list first last) (.list first last settings.cutoff)
      return listed.filter (isRecent settings)) before _ _
  cases windowOf settings count with
  | none => exact follows_pure ⟨rfl, .start⟩
  | some range =>
    obtain ⟨first, last⟩ := range
    apply Follows.andThen [] (follows_ask (.list first last) _)
    rintro raw after _ answered
    exact follows_pure ⟨⟨raw, .inr (by rw [answered]), rfl⟩, Reached.start.of_run rfl answered⟩

theorem updateKnown_follows (faithful : watch.Faithful sides.store) (settings : PassSettings)
    (listed : Listed) :
    Follows watch folder (updateKnown sides folder settings listed) before
      (· = Plan.update folder settings listed (copyAt watch folder before).messages[listed.id]?)
      fun _ after => after.server = before.server := by
  unfold updateKnown Plan.update
  dsimp only
  by_cases removed : (listed.isDeleted && settings.removeVanished) = true
  · rw [if_pos removed, if_pos removed]
    exact follows_deed faithful _ (.remove folder _) rfl [.removed folder listed.id] fun _ => rfl
  · rw [if_neg removed, if_neg removed]
    apply Follows.andThen (Plan.reflag folder settings listed _)
      (follows_call faithful _ (.flags folder listed.id) rfl)
    rintro flags read moved ⟨answered, server⟩
    have stored : flags =
        (copyAt watch folder before).messages[listed.id]?.map MessageRecord.flags := by
      rw [answered]
      exact congrArg (fun messages => (messages.get? listed.id).map MessageRecord.flags)
        (Memory.messages_eq_copy _ folder)
    rw [← stored]
    unfold Plan.reflag
    rw [← server]
    split
    · exact follows_pure rfl
    · exact follows_deed faithful _ (.setFlags folder _ _) rfl [.flagsUpdated folder listed.id]
        fun _ => rfl

theorem updates_follow (faithful : watch.Faithful sides.store) (settings : PassSettings)
    (listed : List Listed) :
    Follows watch folder (listed.forM (updateKnown sides folder settings)) before
      (· = Plan.updates folder settings listed (copyAt watch folder before))
      fun _ after => after.server = before.server := by
  induction listed generalizing before with
  | nil => exact follows_pure rfl
  | cons message rest ih =>
    apply Follows.andThen _ (updateKnown_follows faithful settings message)
    rintro _ after moved server
    rw [← moved.copyAt, ← server]
    exact ih

theorem download_follows (faithful : watch.Faithful sides.store) (answers : Answers)
    (settings : PassSettings) (state : FolderState) (listed : Listed) {start : ρ}
    (reached : Reached sides.server start before.server) :
    Follows watch folder (download sides folder settings state listed) before
      (fun plan => ∃ raw, Heard sides.server answers start
          (.fetch listed.uid (extent settings listed).1) raw ∧
        plan = [Plan.save folder settings state listed raw])
      fun _ after => Reached sides.server start after.server := by
  unfold download
  dsimp only
  -- What is saved is not known before the server answers, so there is a plan for each answer.
  refine Follows.bind
    (fun plan => ∃ raw, Heard sides.server answers start
      (.fetch listed.uid (extent settings listed).1) raw ∧
      plan = [Plan.save folder settings state listed raw])
    (follows_ask (.download listed.id) _) ⟨_, _, heard_reply sides.server answers start _, rfl⟩
    ?_ ?_
  · rintro _ _ rfl planned
    exact planned
  · rintro raw after _ rfl moved answered
    refine (follows_deed faithful (.save listed.id) (.save folder _) rfl
      [.newMessage folder listed.id (listed.uid.toUInt64 ≤ state.highestUid)]
      fun _ => rfl).mono ?_ ?_
    · rintro _ rfl
      exact ⟨raw, .inr ⟨_, reached, by rw [answered]⟩, rfl⟩
    · intro _ saved server
      rw [server]
      exact reached.of_run rfl answered

theorem saves_follow (faithful : watch.Faithful sides.store) (answers : Answers)
    (settings : PassSettings) (state : FolderState) (listed : List Listed) {start : ρ}
    (reached : Reached sides.server start before.server) :
    Follows watch folder (listed.forM (download sides folder settings state)) before
      (fun plan => ∃ bodies, HeardBodies sides.server answers settings start listed bodies ∧
        plan = Plan.saves folder settings state listed bodies)
      fun _ _ => True := by
  induction listed generalizing before with
  | nil =>
    refine (follows_pure trivial).mono ?_ fun _ _ done => done
    rintro _ rfl
    exact ⟨[], .nil, rfl⟩
  | cons message rest ih =>
    refine Follows.bind
      (fun plan => ∃ bodies, HeardBodies sides.server answers settings start rest bodies ∧
        plan = Plan.saves folder settings state rest bodies)
      (download_follows faithful answers settings state message reached)
      ⟨_, _, heardBodies_reply sides.server answers settings start rest, rfl⟩ ?_ ?_
    · rintro _ _ ⟨raw, heard, rfl⟩ ⟨bodies, heardRest, rfl⟩
      exact ⟨raw :: bodies, .cons heard heardRest, rfl⟩
    · rintro _ after _ _ _ reached'
      exact ih reached'

theorem tells_all (toldOf : String → Event) (ids : List String) (progress : Progress σ ρ) :
    (ids.forM fun id => tell (toldOf id) : Pass σ ρ Unit) progress =
      (.ok (), { progress with told := (ids.map toldOf).reverse ++ progress.told }) := by
  induction ids generalizing progress with
  | nil => rfl
  | cons id rest ih =>
    refine (bind_apply (tell (toldOf id)) _ progress).trans ?_
    refine (ih { progress with told := toldOf id :: progress.told }).trans ?_
    simp

theorem removeVanished_follows (faithful : watch.Faithful sides.store) (settings : PassSettings)
    (listedIds : List String) (known : Std.ExtTreeMap String (Option Instant)) :
    Follows watch folder (removeVanished sides folder settings listedIds known) before
      (· = Plan.removal folder (vanished settings listedIds known))
      fun _ after => after.server = before.server := by
  unfold removeVanished Plan.removal
  dsimp only
  split
  · exact follows_pure rfl
  · exact follows_deed faithful _ (.remove folder _) rfl _ (tells_all _ _)

theorem raiseHighest_follows (faithful : watch.Faithful sides.store) (state : FolderState)
    (listed : List Listed) :
    Follows watch folder (raiseHighest sides folder state listed) before
      (· = Plan.raise state listed) fun _ _ => True := by
  unfold raiseHighest Plan.raise
  cases highestListed? listed with
  | none => exact follows_pure trivial
  | some uid =>
    unfold FolderState.raise
    dsimp only
    by_cases higher : state.highestUid < uid.toUInt64
    · rw [if_pos higher, if_pos higher, keep_bind]
      have stored : Follows watch folder
          (do
            keep .storeHighest
              (sides.store.call (.setNumber folder FolderState.highestKey uid.toUInt64.toInt64))
            keep .storeHighest (pure { state with highestUid := uid.toUInt64 }))
          before (· = [⟨.setNumber FolderState.highestKey uid.toUInt64.toInt64, []⟩])
          fun _ _ => True :=
        Follows.andThen [] (follows_call faithful _ _ rfl) fun _ _ _ _ => follows_pure trivial
      exact Follows.andThen [] stored fun _ _ _ _ => follows_pure trivial
    · rw [if_neg higher, if_neg higher]
      have unchanged : Follows watch folder
          (keep .storeHighest (pure state) : Pass σ ρ FolderState) before (· = []) fun _ _ => True :=
        follows_pure trivial
      exact Follows.andThen [] unchanged fun _ _ _ _ => follows_pure trivial

/-! ## The whole -/

/-- Plans that begin with `lead` and go on with what a pass hears about a folder of `count` messages
from a server, which is in `state` when it is asked for the listing; `copy` is the copy with its
numbering settled. -/
def PlanHeard (server : Server ρ) (answers : Answers) (folder : String) (settings : PassSettings)
    (count : Int) (state : ρ) (lead : List Deed) (copy : Copy) (plan : List Deed) : Prop :=
  ∃ listed bodies, HeardListing server answers settings count state listed ∧
    HeardBodies server answers settings state (newMessages (datesOf copy) listed) bodies ∧
    plan = lead ++ (⟨.look, []⟩ :: Plan.reconcile folder settings listed bodies copy)

theorem planHeard_reply (server : Server ρ) (answers : Answers) (folder : String)
    (settings : PassSettings) (count : Int) (state : ρ) (lead : List Deed) (copy : Copy) :
    ∃ plan, PlanHeard server answers folder settings count state lead copy plan := by
  obtain ⟨listed, heard⟩ : ∃ listed, HeardListing server answers settings count state listed := by
    unfold HeardListing
    cases windowOf settings count with
    | none => exact ⟨[], rfl⟩
    | some range => exact ⟨_, _, .inl rfl, rfl⟩
  exact ⟨_, listed, _, heard, heardBodies_reply server answers settings state _, rfl⟩

theorem PlanHeard.lead {server : Server ρ} {answers : Answers} {settings : PassSettings}
    {count : Int} {state : ρ} {lead : List Deed} {copy : Copy} {plan : List Deed}
    (heard : PlanHeard server answers folder settings count state lead copy plan)
    (first : List Deed) :
    PlanHeard server answers folder settings count state (first ++ lead) copy (first ++ plan) := by
  obtain ⟨listed, bodies, heardListing, heardBodies, rfl⟩ := heard
  exact ⟨listed, bodies, heardListing, heardBodies, (List.append_assoc first lead _).symm⟩

theorem ending_follows (faithful : watch.Faithful sides.store) (settings : PassSettings)
    (state : FolderState) (listed : List Listed)
    (known : Std.ExtTreeMap String (Option Instant)) :
    Follows watch folder
      (do
        if settings.removeVanished then
          removeVanished sides folder settings (listed.map Listed.id) known
        raiseHighest sides folder state listed) before
      (· = Plan.clean folder settings listed known ++ Plan.raise state listed) fun _ _ => True := by
  unfold Plan.clean
  split
  · apply Follows.andThen _ (removeVanished_follows faithful settings _ _)
    rintro _ _ _ _
    exact raiseHighest_follows faithful _ listed
  · exact raiseHighest_follows faithful _ listed

theorem reconcile_follows (faithful : watch.Faithful sides.store) (answers : Answers)
    (settings : PassSettings) (listed : List Listed) {copy : Copy}
    (atCopy : copyAt watch folder before = copy) {start : ρ}
    (reached : Reached sides.server start before.server) :
    Follows watch folder (reconcile sides folder settings copy.state listed (datesOf copy)) before
      (fun plan => ∃ bodies,
        HeardBodies sides.server answers settings start (newMessages (datesOf copy) listed) bodies ∧
        plan = Plan.reconcile folder settings listed bodies copy)
      fun _ _ => True := by
  unfold reconcile Plan.reconcile
  refine Follows.bind
    (fun plan => ∃ bodies,
      HeardBodies sides.server answers settings start (newMessages (datesOf copy) listed) bodies ∧
      plan = Plan.saves folder settings copy.state (newMessages (datesOf copy) listed) bodies ++
        (Plan.clean folder settings listed (datesOf copy) ++ Plan.raise copy.state listed))
    (updates_follow faithful settings _)
    ⟨_, _, heardBodies_reply sides.server answers settings start _, rfl⟩ ?_ ?_
  · rintro _ _ rfl ⟨bodies, heard, rfl⟩
    exact ⟨bodies, heard, by rw [atCopy]⟩
  · rintro _ updated _ rfl moved server
    rw [← server] at reached
    refine Follows.bind
      (· = Plan.clean folder settings listed (datesOf copy) ++ Plan.raise copy.state listed)
      (saves_follow faithful answers settings copy.state _ reached) ⟨_, rfl⟩ ?_ ?_
    · rintro _ _ ⟨bodies, heard, rfl⟩ rfl
      exact ⟨bodies, heard, rfl⟩
    · rintro _ saved _ _ _ _
      exact ending_follows faithful settings copy.state listed (datesOf copy)

theorem expunging_follows (settings : PassSettings) :
    Follows watch folder
      (if settings.expungePolicy = .onPoll then ask sides .expunge .expunge else pure ()) before
      (· = []) fun _ _ => True := by
  split
  · exact (follows_ask .expunge .expunge).mono (fun _ planned => planned) fun _ _ _ => trivial
  · exact follows_pure trivial

theorem reconciling_follows (faithful : watch.Faithful sides.store) (answers : Answers)
    (settings : PassSettings) (listed : List Listed) {copy : Copy}
    (atCopy : copyAt watch folder before = copy) {start : ρ}
    (reached : Reached sides.server start before.server) :
    Follows watch folder
      (do
        let known ← keep .readLocal (sides.store.call (.dates folder))
        reconcile sides folder settings copy.state listed known
        if settings.expungePolicy = .onPoll then
          ask sides .expunge .expunge) before
      (fun plan => ∃ bodies,
        HeardBodies sides.server answers settings start (newMessages (datesOf copy) listed) bodies ∧
        plan = ⟨.look, []⟩ :: Plan.reconcile folder settings listed bodies copy)
      fun _ _ => True := by
  refine Follows.bind
    (fun plan => ∃ bodies,
      HeardBodies sides.server answers settings start (newMessages (datesOf copy) listed) bodies ∧
      plan = Plan.reconcile folder settings listed bodies copy)
    (follows_call faithful .readLocal (.dates folder) rfl)
    ⟨_, _, heardBodies_reply sides.server answers settings start _, rfl⟩ ?_ ?_
  · rintro _ _ rfl ⟨bodies, heard, rfl⟩
    exact ⟨bodies, heard, rfl⟩
  rintro known looked _ rfl moved ⟨answered, server⟩
  rw [← server] at reached
  have atLooked : copyAt watch folder looked = copy := moved.copyAt.trans atCopy
  have dates : known = datesOf copy := by
    rw [answered, ← atCopy]
    exact congrArg (fun messages => messages.map fun _ record => record.date)
      (Memory.messages_eq_copy _ folder)
  subst dates
  refine Follows.bind (· = []) (reconcile_follows faithful answers settings listed atLooked reached)
    ⟨[], rfl⟩ ?_ ?_
  · rintro plan _ planned rfl
    simpa using planned
  · rintro _ _ _ _ _ _
    exact expunging_follows settings

/-- A pass over an open folder follows a plan, and one that comes to its end has done all of it. -/
theorem replicate_follows (faithful : watch.Faithful sides.store) (answers : Answers)
    (settings : PassSettings) (count : Int) {copy : Copy}
    (atCopy : copyAt watch folder before = copy) {reported : Option UInt64}
    (reports : sides.server.validity before.server = reported) :
    Follows watch folder (replicate sides folder settings count) before
      (PlanHeard sides.server answers folder settings count before.server
        (Plan.settle reported copy) (Plan.renumbered reported copy))
      fun _ _ => True := by
  unfold replicate
  -- Each step takes its own deeds off the lead, until the lead is empty and the listing is asked for.
  let heardAfter := fun lead : List Deed =>
    PlanHeard sides.server answers folder settings count before.server lead
      (Plan.renumbered reported copy)
  have inhabited : ∀ lead, ∃ plan, heardAfter lead plan := fun lead =>
    planHeard_reply sides.server answers folder settings count before.server lead _
  refine Follows.bind (heardAfter (Plan.renumber reported copy.state)) (load_follows faithful)
    (inhabited _) ?_ ?_
  · rintro _ plan rfl heard
    exact heard.lead Plan.load
  rintro state loaded _ rfl moved ⟨stateLoaded, sameServer⟩
  have atLoaded : copyAt watch folder loaded = copy := moved.copyAt.trans atCopy
  rw [atCopy] at stateLoaded
  subst stateLoaded
  refine Follows.bind (heardAfter []) (checkValidity_follows faithful (congrArg _ atLoaded.symm))
    (inhabited _) ?_ ?_
  · rintro _ plan rfl heard
    rw [sameServer, reports]
    simpa using heard.lead (Plan.renumber reported copy.state)
  rintro state checked _ rfl moved' ⟨stateChecked, sameServer'⟩
  have atChecked : copyAt watch folder checked = Plan.renumbered reported copy := by
    rw [moved'.copyAt, atLoaded, sameServer, reports]
    rfl
  rw [atChecked] at stateChecked
  subst stateChecked
  refine Follows.bind (heardAfter []) (listing_follows answers settings count) (inhabited _) ?_ ?_
  · rintro _ plan rfl heard
    exact heard
  rintro listed atListing _ rfl moved'' ⟨heardListing, reached⟩
  have atSettled : copyAt watch folder atListing = Plan.renumbered reported copy :=
    moved''.copyAt.trans atChecked
  rw [sameServer', sameServer] at heardListing reached
  exact (reconciling_follows faithful answers settings listed atSettled reached).mono
    (fun plan ⟨bodies, heardBodies, planned⟩ => ⟨listed, bodies, heardListing, heardBodies, planned⟩)
    fun _ _ done => done

end Parts

end Pass

end MailReplica.Reconcile
