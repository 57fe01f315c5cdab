import Mathlib.Data.List.Forall2
import MailReplica.Proofs.Pass.Trace

/-! # What a pass does about messages, in outline

When a pass has its listing and knows what the store holds, it tells and asks in a fixed order:
about the messages that both sides know in the order of the listing, about the new ones from the
lowest UID on, and about those that are gone from the lowest UID on.  An `Outline` says how far it
got with each of these; `reconcile_leaves` gives an outline for each way in which the pass can end
there.
-/

namespace MailReplica

/-- The messages that a store named, with their dates, if it did. -/
def Store.Exchange.dates? : Exchange → Option (Std.ExtTreeMap String (Option Instant))
  | .dates _ (.ok known) => some known
  | _ => none

namespace Reconcile

open Store (FolderState)

/-- What a pass did about messages, each kind in order. -/
structure Outline where
  /-- The highest UID known when the pass had settled its numbering. -/
  highestUid : UInt64
  /-- The listed messages that it told to be updated or removed. -/
  updated : List Listed
  /-- The listed messages that it told to be new. -/
  fresh : List Listed
  /-- The listed messages that it asked for. -/
  fetched : List Listed
  /-- The messages that it told to be gone. -/
  gone : List String

namespace Outline

/-- An outline of a pass that was given the listing `listed` when the store held `known`. -/
structure Fits (settings : PassSettings) (known : Std.ExtTreeMap String (Option Instant))
    (listed : List Listed) (outline : Outline) : Prop where
  updated : outline.updated.Sublist (listed.filter fun message => known.contains message.id)
  fetched : outline.fetched <+: Pass.newMessages known listed
  ordered : outline.fetched.Pairwise fun left right => left.uid ≤ right.uid
  fresh : outline.fresh <+: outline.fetched
  /-- One message at most was asked for in vain. -/
  last : outline.fetched.length ≤ outline.fresh.length + 1
  gone : outline.gone = [] ∨ settings.removeVanished = true ∧
    outline.fresh = Pass.newMessages known listed ∧
    outline.gone = Pass.vanished settings (listed.map Listed.id) known
  ascending : outline.gone.Pairwise fun left right => Pass.uidOf left ≤ Pass.uidOf right

/-- What is told of a message that both sides know. -/
def tellUpdated (folder : String) (settings : PassSettings) (message : Listed) : Event :=
  if message.isDeleted && settings.removeVanished then .removed folder message.id
  else .flagsUpdated folder message.id

def tellNew (folder : String) (highestUid : UInt64) (message : Listed) : Event :=
  .newMessage folder message.id (message.uid.toUInt64 ≤ highestUid)

def told (folder : String) (settings : PassSettings) (outline : Outline) : List Event :=
  outline.updated.map (tellUpdated folder settings) ++
    outline.fresh.map (tellNew folder outline.highestUid) ++ outline.gone.map (.removed folder)

/-- A request for each message in order, for as much of it as the settings allow. -/
def Fetches (settings : PassSettings) : List Listed → List Exchange → Prop :=
  List.Forall₂ fun message exchange =>
    ∃ answer, exchange = .fetch message.uid (Pass.extent settings message).1 answer

/-- A trace that tells and asks what is outlined, and that does not ask the store for its
messages. -/
structure Writes (folder : String) (settings : PassSettings) (outline : Outline) (trace : Trace) :
    Prop where
  told : trace.told = outline.told folder settings
  asked : Fetches settings outline.fetched trace.asked
  kept : trace.kept.findSome? Store.Exchange.dates? = none

/-- The outline of a pass that did not get to do anything about messages. -/
def blank (highestUid : UInt64) : Outline :=
  ⟨highestUid, [], [], [], []⟩

theorem fits_blank {settings : PassSettings} {known : Std.ExtTreeMap String (Option Instant)}
    {listed : List Listed} (highestUid : UInt64) : (blank highestUid).Fits settings known listed where
  updated := List.nil_sublist _
  fetched := List.nil_prefix
  ordered := .nil
  fresh := List.nil_prefix
  last := Nat.zero_le _
  gone := .inl rfl
  ascending := .nil

end Outline

/-! ## Quiet traces -/

/-- A trace that tells `events`, while it asks the server nothing and the store not for its
messages. -/
structure Trace.Quiet (events : List Event) (trace : Trace) : Prop where
  told : trace.told = events
  asked : trace.asked = []
  kept : trace.kept.findSome? Store.Exchange.dates? = none

theorem findSome?_dates_append {first second : List Store.Exchange}
    (none : first.findSome? Store.Exchange.dates? = none) :
    (first ++ second).findSome? Store.Exchange.dates? =
      second.findSome? Store.Exchange.dates? := by
  rw [List.findSome?_append, none, Option.none_or]

theorem Trace.Quiet.append {first second : Trace} {events events' : List Event}
    (left : first.Quiet events) (right : second.Quiet events') :
    (first ++ second).Quiet (events ++ events') where
  told := by rw [told_append, left.told, right.told]
  asked := by rw [asked_append, left.asked, right.asked, List.append_nil]
  kept := by rw [kept_append, findSome?_dates_append left.kept, right.kept]

theorem Trace.quiet_empty : Trace.empty.Quiet [] := ⟨rfl, rfl, rfl⟩

theorem Trace.append_empty (trace : Trace) : trace ++ empty = trace := by
  change Trace.mk (trace.told ++ []) (trace.asked ++ []) (trace.kept ++ []) = trace
  rw [List.append_nil, List.append_nil, List.append_nil]

namespace Pass

variable {σ ρ α β : Type} {folder : String} {settings : PassSettings}

theorem leaves_quiet (sides : Sides σ ρ) (step : Step) (call : Store.Call α)
    (makes : ∀ answer, step.Makes folder (.of call answer))
    (nameless : ∀ answer, (Store.Exchange.of call answer).dates? = none) :
    Leaves folder (keep step (sides.noting.store.call call) : NotedPass σ ρ α)
      (fun _ trace => trace.Quiet []) fun trace => trace.Quiet [] := by
  refine (leaves_call sides step call makes).mono ?_ ?_
  · rintro value _ _ rfl
    exact ⟨rfl, rfl, by simp [nameless]⟩
  · rintro _ ⟨failure, rfl⟩
    exact ⟨rfl, rfl, by simp [nameless]⟩

theorem leaves_telling (sides : Sides σ ρ) (step : Step) (call : Store.Call Unit)
    (makes : ∀ answer, step.Makes folder (.of call answer))
    (nameless : ∀ answer, (Store.Exchange.of call answer).dates? = none) (event : Event) :
    Leaves folder (do keep step (sides.noting.store.call call); tell event : NotedPass σ ρ Unit)
      (fun _ trace => trace.Quiet [event]) fun trace => trace.Quiet [] := by
  refine (leaves_quiet sides step call makes nameless).bind fun _ trace _ quiet => ?_
  refine (leaves_tell event).mono ?_ fun _ never => never.elim
  rintro _ _ _ rfl
  exact quiet.append ⟨rfl, rfl, rfl⟩

/-- Parts in sequence are quiet if each of them is. -/
theorem Leaves.andQuietly {part : NotedPass σ ρ α} {next : α → NotedPass σ ρ β}
    (first : Leaves folder part (fun _ trace => trace.Quiet []) fun trace => trace.Quiet [])
    (rest : ∀ value, Leaves folder (next value) (fun _ trace => trace.Quiet [])
      fun trace => trace.Quiet []) :
    Leaves folder (part >>= next) (fun _ trace => trace.Quiet []) fun trace => trace.Quiet [] := by
  refine first.bind fun value trace _ quiet => ?_
  exact (rest value).mono (fun _ _ _ quiet' => quiet.append quiet') fun _ quiet' =>
    quiet.append quiet'

/-! ## The messages of a listing -/

variable (sides : Sides σ ρ)

/-- A trace that tells of some of the messages that both sides know, in order. -/
def Updates (folder : String) (settings : PassSettings) (messages : List Listed) (trace : Trace) :
    Prop :=
  ∃ updated : List Listed, updated.Sublist messages ∧
    trace.Quiet (updated.map (Outline.tellUpdated folder settings))

theorem updateKnown_leaves (message : Listed) :
    Leaves folder (updateKnown sides.noting folder settings message)
      (fun _ => Updates folder settings [message]) (Updates folder settings [message]) := by
  have silent {trace : Trace} (quiet : trace.Quiet []) : Updates folder settings [message] trace :=
    ⟨[], List.nil_sublist _, quiet⟩
  have tells {trace : Trace} (quiet : trace.Quiet [Outline.tellUpdated folder settings message]) :
      Updates folder settings [message] trace := ⟨[message], List.Sublist.refl _, quiet⟩
  unfold updateKnown
  dsimp only
  split
  next removes =>
    refine (leaves_telling sides _ _ (.removeDeleted _) (fun _ => rfl) _).mono ?_ fun _ => silent
    intro _ trace _ quiet
    apply tells
    rwa [Outline.tellUpdated, if_pos removes]
  next spared =>
    refine (leaves_quiet sides _ _ (.readFlags _) fun _ => rfl).andThen (fun _ => silent) ?_
    intro flags trace _ quiet
    split
    · exact leaves_pure (silent (quiet.append Trace.quiet_empty))
    · refine (leaves_telling sides _ _ (.updateFlags _ _) (fun _ => rfl) _).mono ?_ fun _ quiet' =>
        silent (quiet.append quiet')
      intro _ trace' _ quiet'
      apply tells
      rw [Outline.tellUpdated, if_neg spared]
      exact quiet.append quiet'

theorem updates_leave (messages : List Listed) :
    Leaves folder (messages.forM (updateKnown sides.noting folder settings))
      (fun _ => Updates folder settings messages) (Updates folder settings messages) := by
  induction messages with
  | nil => exact leaves_pure ⟨[], .slnil, Trace.quiet_empty⟩
  | cons message rest ih =>
    -- Halted at the first message, the trace tells of this one at most.
    have first {updated : List Listed} (some : updated.Sublist [message]) :
        updated.Sublist (message :: rest) :=
      some.trans (List.singleton_sublist.2 (List.mem_cons_self))
    refine (updateKnown_leaves sides message).andThen ?_ ?_
    · rintro trace ⟨updated, some, quiet⟩
      exact ⟨updated, first some, quiet⟩
    rintro _ trace _ ⟨updated, some, quiet⟩
    have joined {trace' : Trace} : Updates folder settings rest trace' →
        Updates folder settings (message :: rest) (trace ++ trace') := by
      rintro ⟨updated', some', quiet'⟩
      refine ⟨updated ++ updated', some.append some', ?_⟩
      rw [List.map_append]
      exact quiet.append quiet'
    exact ih.mono (fun _ _ _ => joined) fun _ => joined

theorem download_leaves (state : FolderState) (message : Listed) :
    Leaves folder (download sides.noting folder settings state message)
      (fun _ => Outline.Writes folder settings
        ⟨state.highestUid, [], [message], [message], []⟩)
      (Outline.Writes folder settings ⟨state.highestUid, [], [], [message], []⟩) := by
  unfold download
  dsimp only
  refine (leaves_ask sides _ (.fetch message.uid _) (fun _ => rfl) fun _ => rfl).andThen ?_ ?_
  · rintro _ ⟨failure, rfl⟩
    exact ⟨rfl, .cons ⟨_, rfl⟩ .nil, rfl⟩
  rintro raw _ _ rfl
  refine (leaves_telling sides _ _ (.save (.ofDownload message raw _)) (fun _ => rfl) _).mono ?_ ?_
  · intro _ trace _ quiet
    refine ⟨?_, ?_, ?_⟩
    · simp [quiet.told, Outline.told, Outline.tellNew]
    · simp only [Trace.asked_append, quiet.asked]
      exact .cons ⟨_, rfl⟩ .nil
    · exact quiet.kept
  · intro trace quiet
    refine ⟨?_, ?_, ?_⟩
    · simp [quiet.told, Outline.told]
    · simp only [Trace.asked_append, quiet.asked]
      exact .cons ⟨_, rfl⟩ .nil
    · exact quiet.kept

/-- A trace of downloads that ended with the first so many of the messages, where one more may have
been asked for. -/
def Downloads (folder : String) (settings : PassSettings) (highestUid : UInt64)
    (messages : List Listed) (trace : Trace) : Prop :=
  ∃ fresh fetched : List Listed, fetched <+: messages ∧ fresh <+: fetched ∧
    fetched.length ≤ fresh.length + 1 ∧
    Outline.Writes folder settings ⟨highestUid, [], fresh, fetched, []⟩ trace

theorem writes_downloads {highestUid : UInt64} {first : Listed} {fresh fetched : List Listed}
    {trace trace' : Trace}
    (left : Outline.Writes folder settings ⟨highestUid, [], [first], [first], []⟩ trace)
    (right : Outline.Writes folder settings ⟨highestUid, [], fresh, fetched, []⟩ trace') :
    Outline.Writes folder settings ⟨highestUid, [], first :: fresh, first :: fetched, []⟩
      (trace ++ trace') where
  told := by
    rw [Trace.told_append, left.told, right.told]
    simp [Outline.told]
  asked := List.rel_append left.asked right.asked
  kept := (findSome?_dates_append left.kept).trans right.kept

theorem downloads_leave (state : FolderState) (messages : List Listed) :
    Leaves folder (messages.forM (download sides.noting folder settings state))
      (fun _ => Outline.Writes folder settings ⟨state.highestUid, [], messages, messages, []⟩)
      (Downloads folder settings state.highestUid messages) := by
  induction messages with
  | nil => exact leaves_pure ⟨rfl, .nil, rfl⟩
  | cons message rest ih =>
    refine (download_leaves sides state message).andThen ?_ ?_
    · intro trace failed
      exact ⟨[], [message], List.prefix_append [message] rest, List.nil_prefix, Nat.le_refl _,
        failed⟩
    rintro _ trace _ done
    refine ih.mono (fun _ _ _ done' => writes_downloads done done') ?_
    rintro trace' ⟨fresh, fetched, some, some', last, failed⟩
    exact ⟨message :: fresh, message :: fetched, List.cons_prefix_cons.2 ⟨rfl, some⟩,
      List.cons_prefix_cons.2 ⟨rfl, some'⟩, Nat.succ_le_succ last, writes_downloads done failed⟩

theorem tells_leave (toldOf : String → Event) (ids : List String) :
    Leaves folder (ids.forM fun id => tell (toldOf id) : NotedPass σ ρ Unit)
      (fun _ trace => trace.Quiet (ids.map toldOf)) fun _ => False := by
  induction ids with
  | nil => exact leaves_pure Trace.quiet_empty
  | cons id rest ih =>
    refine (leaves_tell (toldOf id)).bind ?_
    rintro _ _ _ rfl
    have first : Trace.Quiet [toldOf id] ⟨[toldOf id], [], []⟩ := ⟨rfl, rfl, rfl⟩
    exact ih.mono (fun _ _ _ quiet => first.append quiet) fun _ never => never

theorem removeVanished_leaves (listedIds : List String)
    (known : Std.ExtTreeMap String (Option Instant)) :
    Leaves folder (removeVanished sides.noting folder settings listedIds known)
      (fun _ trace =>
        trace.Quiet ((vanished settings listedIds known).map (.removed folder)))
      fun trace => trace.Quiet [] := by
  unfold removeVanished
  dsimp only
  split
  next none =>
    rw [List.isEmpty_iff.1 none]
    exact leaves_pure Trace.quiet_empty
  next =>
    refine (leaves_quiet sides _ _ (.removeVanished _) fun _ => rfl).bind ?_
    rintro _ trace _ quiet
    exact (tells_leave _ _).mono (fun _ _ _ quiet' => quiet.append quiet') fun _ never =>
      never.elim

theorem raiseHighest_leaves (state : FolderState) (listed : List Listed) :
    Leaves folder (raiseHighest sides.noting folder state listed)
      (fun _ trace => trace.Quiet []) fun trace => trace.Quiet [] := by
  have none {γ : Type} (value : γ) : Leaves folder (pure value : NotedPass σ ρ γ)
      (fun _ trace => trace.Quiet []) fun trace => trace.Quiet [] := leaves_pure Trace.quiet_empty
  unfold raiseHighest FolderState.raise
  split
  · exact none ()
  next uid _ =>
    split
    · simp only [keep_bind]
      exact ((leaves_quiet sides _ _ (.storeHighest _) fun _ => rfl).andQuietly fun _ =>
        none _).andQuietly fun _ => none ()
    · exact (none state).andQuietly fun _ => none ()

/-- A trace that tells either nothing or all of the messages that are gone. -/
def Cleanup (folder : String) (settings : PassSettings) (listedIds : List String)
    (known : Std.ExtTreeMap String (Option Instant)) (trace : Trace) : Prop :=
  ∃ gone, (gone = [] ∨ settings.removeVanished = true ∧
    gone = vanished settings listedIds known) ∧ trace.Quiet (gone.map (.removed folder))

theorem ending_leaves (state : FolderState) (listed : List Listed)
    (known : Std.ExtTreeMap String (Option Instant)) :
    Leaves folder
      (do
        if settings.removeVanished then
          removeVanished sides.noting folder settings (listed.map Listed.id) known
        raiseHighest sides.noting folder state listed)
      (fun _ => Cleanup folder settings (listed.map Listed.id) known)
      (Cleanup folder settings (listed.map Listed.id) known) := by
  have silent {trace : Trace} (quiet : trace.Quiet []) :
      Cleanup folder settings (listed.map Listed.id) known trace := ⟨[], .inl rfl, quiet⟩
  split
  next removes =>
    refine (removeVanished_leaves sides _ known).andThen (fun _ => silent) ?_
    intro _ trace _ quiet
    have cleaned {trace' : Trace} (quiet' : trace'.Quiet []) :
        Cleanup folder settings (listed.map Listed.id) known (trace ++ trace') := by
      refine ⟨_, .inr ⟨removes, rfl⟩, ?_⟩
      simpa using quiet.append quiet'
    exact (raiseHighest_leaves sides state listed).mono (fun _ _ _ => cleaned) fun _ => cleaned
  next =>
    exact (raiseHighest_leaves sides state listed).mono (fun _ _ _ => silent) fun _ => silent

theorem writes_all {highestUid : UInt64} {updated fresh fetched : List Listed}
    {gone : List String} {first second third : Trace}
    (updates : first.Quiet (updated.map (Outline.tellUpdated folder settings)))
    (downloads : Outline.Writes folder settings ⟨highestUid, [], fresh, fetched, []⟩ second)
    (cleanup : third.Quiet (gone.map (.removed folder))) :
    Outline.Writes folder settings ⟨highestUid, updated, fresh, fetched, gone⟩
      (first ++ (second ++ third)) where
  told := by
    simp only [Trace.told_append, updates.told, downloads.told, cleanup.told, Outline.told]
    simp
  asked := by
    simpa only [Trace.asked_append, updates.asked, cleanup.asked, List.nil_append,
      List.append_nil] using downloads.asked
  kept := by
    rw [Trace.kept_append, Trace.kept_append, findSome?_dates_append updates.kept,
      findSome?_dates_append downloads.kept, cleanup.kept]

theorem ordered_by {ι κ : Type} [LE κ] [DecidableLE κ] [Std.IsLinearPreorder κ] (key : ι → κ)
    (items : List ι) :
    (items.mergeSort fun left right => decide (key left ≤ key right)).Pairwise fun left right =>
      key left ≤ key right := by
  refine (List.pairwise_mergeSort ?_ ?_ items).imp of_decide_eq_true
  · intro first second third below above
    exact decide_eq_true (Std.le_trans (of_decide_eq_true below) (of_decide_eq_true above))
  · intro left right
    simpa using Std.le_total

theorem fits_of {outline : Outline} {known : Std.ExtTreeMap String (Option Instant)}
    {listed : List Listed}
    (updated : outline.updated.Sublist (listed.filter fun message => known.contains message.id))
    (fetched : outline.fetched <+: newMessages known listed)
    (fresh : outline.fresh <+: outline.fetched)
    (last : outline.fetched.length ≤ outline.fresh.length + 1)
    (gone : outline.gone = [] ∨ settings.removeVanished = true ∧
      outline.fresh = newMessages known listed ∧
      outline.gone = vanished settings (listed.map Listed.id) known) :
    outline.Fits settings known listed where
  updated := updated
  fetched := fetched
  ordered := (ordered_by Listed.uid _).sublist fetched.sublist
  fresh := fresh
  last := last
  gone := gone
  ascending := by
    obtain none | ⟨_, _, all⟩ := gone
    · rw [none]
      exact .nil
    · rw [all]
      exact ordered_by uidOf _

/-- Wherever a pass stops once it has its listing, what it told and asked has an outline. -/
theorem reconcile_leaves (state : FolderState) (listed : List Listed)
    (known : Std.ExtTreeMap String (Option Instant)) :
    Leaves folder (reconcile sides.noting folder settings state listed known)
      (fun _ trace => ∃ outline : Outline, outline.Fits settings known listed ∧
        outline.fresh = newMessages known listed ∧ outline.Writes folder settings trace)
      fun trace => ∃ outline : Outline, outline.Fits settings known listed ∧
        outline.Writes folder settings trace := by
  unfold reconcile
  refine (updates_leave sides _).andThen ?_ ?_
  -- Halted before the first download, the pass has asked for no octets.
  · rintro first ⟨updated, some, quiet⟩
    refine ⟨⟨state.highestUid, updated, [], [], []⟩, fits_of some List.nil_prefix List.nil_prefix
      (Nat.zero_le _) (.inl rfl), ?_, quiet.asked ▸ .nil, quiet.kept⟩
    simp [quiet.told, Outline.told]
  rintro _ first _ ⟨updated, some, updates⟩
  refine (downloads_leave sides state _).andThen ?_ ?_
  -- Halted among the downloads, it has told of no message that is gone.
  · rintro second ⟨fresh, fetched, someFetched, someFresh, last, downloads⟩
    refine ⟨⟨state.highestUid, updated, fresh, fetched, []⟩,
      fits_of some someFetched someFresh last (.inl rfl), ?_⟩
    have nothing : Trace.empty.Quiet (([] : List String).map (.removed folder)) :=
      Trace.quiet_empty
    have writes := writes_all updates downloads nothing
    rwa [Trace.append_empty] at writes
  rintro _ second _ downloads
  have cleaned {third : Trace}
      (cleanup : Cleanup folder settings (listed.map Listed.id) known third) :
      ∃ outline : Outline, outline.Fits settings known listed ∧
        outline.fresh = newMessages known listed ∧
        outline.Writes folder settings (first ++ (second ++ third)) := by
    obtain ⟨gone, all, quiet⟩ := cleanup
    refine ⟨_, fits_of some List.prefix_rfl List.prefix_rfl (Nat.le_succ _) ?_, rfl,
      writes_all updates downloads quiet⟩
    exact all.imp id fun ⟨removes, all⟩ => ⟨removes, rfl, all⟩
  refine (ending_leaves sides state listed known).mono (fun _ _ _ => cleaned) ?_
  intro third cleanup
  obtain ⟨outline, fits, _, writes⟩ := cleaned cleanup
  exact ⟨outline, fits, writes⟩

end Pass

end Reconcile

end MailReplica
