import MailReplica.Proofs.Pass.Course

/-! # What a run of a pass leaves behind

A run makes its folder known, opens the server's folder, and then follows a plan.  `Went` says what
the store, its journal and the events are after a run that did some deeds and perhaps halted;
`run_course` says that every run went so, with the first so many deeds of a plan, and with all of
them if it did not halt.
-/

namespace MailReplica.Reconcile

open Store (Act Copy Entry Memory Watch)

def Event.isFailure : Event → Bool
  | failed _ _ _ => true
  | _ => false

namespace Pass

variable {σ ρ κ : Type}

/-- The first part of a run: gets hold of the folder on both sides and opens it. -/
def opening (sides : Sides σ ρ) (folder : String) : Pass σ ρ Int := do
  prepare sides folder
  openAndCount sides folder

def making (folder : String) : Entry :=
  .create [⟨folder, folder⟩]

def failureOf (folder : String) : Except Halt Unit → List Event
  | .ok () => []
  | .error halt => [.failed folder (halt.text folder) halt.failure]

/-- What is left after a run on `folder`: whether it made the folder known, whether it opened the
server's folder, the deeds it did, and how it ended. -/
structure Went (watch : Watch σ κ) (folder : String) (store : σ) (made opened : Bool)
    (deeds : List Deed) (result : Except Halt Unit) (ended : Progress σ ρ) : Prop where
  memory : watch.memory ended.store =
    (watch.memory store).replay ((if made then [making folder] else []) ++ entriesOf folder deeds)
  journal : watch.journal ended.store =
    ((if made then [making folder] else []) ++ entriesOf folder deeds).foldl watch.note
      (watch.journal store)
  events : events ended = .started folder :: ((if opened then [.authenticated] else []) ++
    toldBy deeds ++ failureOf folder result ++ [.finished folder])

section

variable {watch : Watch σ κ} {folder : String} {store : σ} {server : ρ} {sides : Sides σ ρ}

def begun (folder : String) (store : σ) (server : ρ) : Progress σ ρ :=
  ⟨store, server, [.started folder]⟩

/-- What is left of the store when the first part of a run has ended, and what was told in it. -/
structure Opening (watch : Watch σ κ) (folder : String) (store : σ) (made opened : Bool)
    (after : Progress σ ρ) : Prop where
  memory : watch.memory after.store =
    (watch.memory store).replay (if made then [making folder] else [])
  journal : watch.journal after.store =
    (if made then [making folder] else []).foldl watch.note (watch.journal store)
  told : after.told = (if opened then [.authenticated] else []) ++ [.started folder]

/-- The calls by which a run learns how many messages there are. -/
def CountedAs (remote : Server ρ) (folder : String) (before : ρ) (count : Int) (after : ρ) : Prop :=
  ∃ found opened, remote.run (.folder folder) before = (.ok (), found) ∧
    remote.run (.openFolder .readOnly) found = (.ok (), opened) ∧
    remote.run .count opened = (.ok count, after)

theorem opening_ends (faithful : watch.Faithful sides.store) :
    Ends (opening sides folder) (begun folder store server)
      (fun count after => Opening watch folder store true true after ∧ 0 ≤ count ∧
        CountedAs sides.server folder server count after.server)
      (fun _ after => ∃ made opened, Opening watch folder store made opened after) := by
  unfold opening prepare
  apply Ends.bind
  apply Ends.bind
  apply ends_call
  case refused =>
    intro failure next refused
    obtain ⟨memory, journal⟩ := faithful.refused _ _ refused
    exact ⟨false, false, memory, journal, rfl⟩
  intro _ next answered
  obtain ⟨_, memory, journal⟩ := faithful.answered _ _ answered
  apply ends_ask
  case refused =>
    intro failure next' _
    exact ⟨true, false, memory, journal, rfl⟩
  intro _ found got
  unfold openAndCount
  apply Ends.bind
  apply ends_ask
  case refused =>
    intro failure next'' _
    exact ⟨true, false, memory, journal, rfl⟩
  intro _ opened opens
  apply Ends.bind
  apply ends_tell
  apply Ends.bind
  apply ends_ask
  case refused =>
    intro failure next''' _
    exact ⟨true, true, memory, journal, rfl⟩
  intro count next''' counted
  split
  · exact ends_throw ⟨true, true, memory, journal, rfl⟩
  next notNegative =>
    exact ends_pure ⟨⟨memory, journal, rfl⟩, Int.not_lt.1 notNegative, found, opened, got, opens,
      counted⟩

theorem run_eq (sides : Sides σ ρ) (folder : String) (settings : PassSettings) (store : σ)
    (server : ρ) :
    run sides folder settings store server =
      let ended :=
        match prepare sides folder (begun folder store server) with
        | (.error halt, progress) => settle folder (.error halt) progress
        | (.ok (), progress) =>
          let settled := settle folder (align sides folder settings progress).1
            (align sides folder settings progress).2
          { settled with server := sides.server.close settled.server }
      { ended with told := .finished folder :: ended.told } := rfl

theorem run_of_halted (settings : PassSettings) {halt : Halt} {after : Progress σ ρ}
    (halted : opening sides folder (begun folder store server) = (.error halt, after)) :
    (run sides folder settings store server).store = after.store ∧
      events (run sides folder settings store server) =
        (settle folder (.error halt) after).told.reverse ++ [.finished folder] := by
  unfold opening at halted
  rw [bind_apply] at halted
  unfold events
  rw [run_eq]
  match prepared : prepare sides folder (begun folder store server) with
  | (.error _, _) =>
    rw [prepared] at halted
    cases halted
    simp [settle]
  | (.ok (), middle) =>
    rw [prepared] at halted
    have aligned : align sides folder settings middle = (.error halt, after) := by
      unfold align
      rw [bind_apply, show openAndCount sides folder middle = _ from halted]
    simp [aligned, settle]

theorem run_of_opened {settings : PassSettings} {count : Int} {middle after : Progress σ ρ}
    {result : Except Halt Unit}
    (opened : opening sides folder (begun folder store server) = (.ok count, middle))
    (replicated : replicate sides folder settings count middle = (result, after)) :
    (run sides folder settings store server).store = after.store ∧
      events (run sides folder settings store server) =
        (settle folder result after).told.reverse ++ [.finished folder] := by
  unfold opening at opened
  rw [bind_apply] at opened
  unfold events
  rw [run_eq]
  match prepared : prepare sides folder (begun folder store server) with
  | (.error _, _) =>
    rw [prepared] at opened
    cases opened
  | (.ok (), prepared') =>
    rw [prepared] at opened
    have aligned : align sides folder settings prepared' = (result, after) := by
      unfold align
      rw [bind_apply, show openAndCount sides folder prepared' = _ from opened, ← replicated]
    cases result <;> simp [aligned, settle]

/-- The numbering that the server reports when a run has opened the folder.  A run that does not get
there hears of none. -/
def reported (sides : Sides σ ρ) (folder : String) (store : σ) (server : ρ) : Option UInt64 :=
  match opening sides folder (begun folder store server) with
  | (.ok _, opened) => sides.server.validity opened.server
  | (.error _, _) => none

theorem making_copy (store : Memory) (place folder : String) (made : Bool) :
    (store.replay (if made then [making place] else [])).copy folder = store.copy folder := by
  cases made with
  | false => rfl
  | true => exact Entry.copy_create store _ folder

theorem Opening.went {made opened : Bool} {middle after ended : Progress σ ρ} {deeds : List Deed}
    {result : Except Halt Unit} (start : Opening watch folder store made opened middle)
    (moved : After watch folder middle deeds after) (kept : ended.store = after.store)
    (told : events ended = (settle folder result after).told.reverse ++ [.finished folder]) :
    Went watch folder store made opened deeds result ended where
  memory := by
    rw [kept, moved.memory, start.memory]
    exact List.foldl_append.symm
  journal := by
    rw [kept, moved.journal, start.journal]
    exact List.foldl_append.symm
  events := by
    have settled : (settle folder result after).told.reverse =
        after.told.reverse ++ failureOf folder result := by
      cases result <;> simp [settle, failureOf]
    rw [told, settled, moved.told, start.told]
    cases opened <;> simp

theorem Went.copy {made opened : Bool} {deeds : List Deed} {result : Except Halt Unit}
    {ended : Progress σ ρ} (went : Went watch folder store made opened deeds result ended) :
    (watch.memory ended.store).copy folder = replay ((watch.memory store).copy folder) deeds := by
  calc (watch.memory ended.store).copy folder
      = (((watch.memory store).replay (if made then [making folder] else [])).replay
          (entriesOf folder deeds)).copy folder := by
        rw [went.memory]
        exact congrArg (Memory.copy · folder) List.foldl_append
    _ = replay ((watch.memory store).copy folder) deeds := by rw [copy_replay, making_copy]

theorem Went.completed {made opened : Bool} {deeds : List Deed} {result : Except Halt Unit}
    {ended : Progress σ ρ} (went : Went watch folder store made opened deeds result ended)
    (unfailed : ∀ event ∈ Pass.events ended, event.isFailure = false) : result = .ok () := by
  cases result with
  | ok => rfl
  | error halt =>
    have failed : Event.failed folder (halt.text folder) halt.failure ∈ Pass.events ended := by
      simp [went.events, failureOf]
    exact nomatch unfailed _ failed

/-- How a run goes: it does not get to open the folder, or it does the first so many deeds of a plan
that it is heard to follow. -/
inductive Course (watch : Watch σ κ) (sides : Sides σ ρ) (answers : Answers) (folder : String)
    (settings : PassSettings) (store : σ) (server : ρ) (ended : Progress σ ρ) : Prop where
  | unopened {made opened : Bool} {halt : Halt}
      (went : Went watch folder store made opened [] (.error halt) ended)
  | opened {count : Int} {after : ρ} {plan deeds : List Deed} {result : Except Halt Unit}
      (notNegative : 0 ≤ count) (counted : CountedAs sides.server folder server count after)
      (reports : sides.server.validity after = reported sides folder store server)
      (heard : PlanHeard sides.server answers folder settings count after
        (Plan.settle (reported sides folder store server) ((watch.memory store).copy folder))
        (Plan.renumbered (reported sides folder store server) ((watch.memory store).copy folder))
        plan)
      (some : deeds <+: plan)
      (all : result = .ok () → deeds = plan)
      (went : Went watch folder store true true deeds result ended)

/-- Every run takes such a course. -/
theorem run_course (faithful : watch.Faithful sides.store) (answers : Answers)
    (settings : PassSettings) (store : σ) (server : ρ) :
    Course watch sides answers folder settings store server
      (run sides folder settings store server) := by
  match began : opening sides folder (begun folder store server) with
  | (.error halt, middle) =>
    -- A run that halts this early has done no deed, whatever its plan would have been.
    have ends := (opening_ends faithful).of_run began
    simp only [reduceCtorEq, false_and, exists_false, false_or, Except.error.injEq] at ends
    obtain ⟨_, rfl, made, opened, start⟩ := ends
    obtain ⟨kept, told⟩ := run_of_halted settings began
    exact .unopened (start.went (.refl watch folder middle) kept told)
  | (.ok count, middle) =>
    have ends := (opening_ends faithful).of_run began
    simp only [reduceCtorEq, false_and, exists_false, or_false, Except.ok.injEq] at ends
    obtain ⟨_, rfl, start, notNegative, counted⟩ := ends
    have reports : sides.server.validity middle.server = reported sides folder store server := by
      unfold reported
      rw [began]
    have atCopy : copyAt watch folder middle = (watch.memory store).copy folder := by
      unfold copyAt
      rw [start.memory, making_copy]
    have follows := replicate_follows faithful answers settings count atCopy reports
    match ran : replicate sides folder settings count middle with
    | (result, after) =>
      -- Settling how it ended and letting the folder go leave the store alone.
      obtain ⟨kept, told⟩ := run_of_opened began ran
      obtain ⟨_, rfl, plan, heard, moved, _⟩ | ⟨halt, rfl, plan, deeds, heard, some, moved⟩ :=
        follows.of_run ran
      · exact .opened notNegative counted reports heard List.prefix_rfl
          (fun _ => rfl) (start.went moved kept told)
      · have halted : (.error halt : Except Halt Unit) ≠ .ok () := nofun
        exact .opened notNegative counted reports heard some
          (fun ended => absurd ended halted) (start.went moved kept told)

end

end Pass

/-! ## The journal of a run -/

section Entries

variable {folder : String}

def runEntries (folder : String) (made : Bool) (deeds : List Deed) : List Entry :=
  (if made then [Pass.making folder] else []) ++ entriesOf folder deeds

theorem prefix_runEntries {made : Bool} {deeds : List Deed} {part : List Entry}
    (some : part <+: runEntries folder made deeds) :
    ∃ made' deeds', deeds' <+: deeds ∧ part = runEntries folder made' deeds' := by
  have mapped {entries : List Entry} (fewer : entries <+: entriesOf folder deeds) :
      ∃ deeds', deeds' <+: deeds ∧ entries = entriesOf folder deeds' := by
    obtain ⟨rest, whole⟩ := fewer
    obtain ⟨deeds', others, rfl, rfl, rfl⟩ := List.map_eq_append_iff.1 whole.symm
    exact ⟨deeds', List.prefix_append deeds' others, rfl⟩
  cases made with
  | false =>
    obtain ⟨deeds', fewer, rfl⟩ := mapped some
    exact ⟨false, deeds', fewer, rfl⟩
  | true =>
    obtain rfl | ⟨rest, rfl, others⟩ := List.prefix_cons_iff.1 some
    · exact ⟨false, [], List.nil_prefix, rfl⟩
    · obtain ⟨deeds', fewer, rfl⟩ := mapped others
      exact ⟨true, deeds', fewer, rfl⟩

theorem mem_runEntries {made : Bool} {deeds : List Deed} {act : Act}
    (did : .inFolder folder act ∈ runEntries folder made deeds) :
    ∃ deed ∈ deeds, deed.act = act := by
  obtain creating | did := List.mem_append.1 did
  · cases made <;> simp [Pass.making] at creating
  · obtain ⟨deed, did, same⟩ := List.mem_map.1 did
    exact ⟨deed, did, by simpa using same⟩

theorem copy_runEntries (memory : Memory) (made : Bool) (deeds : List Deed) :
    (memory.replay (runEntries folder made deeds)).copy folder =
      replay (memory.copy folder) deeds := by
  cases made with
  | false => exact Pass.copy_replay memory folder deeds
  | true =>
    rw [← Entry.copy_create memory [⟨folder, folder⟩] folder]
    exact Pass.copy_replay ((Pass.making folder).apply memory) folder deeds

end Entries

end MailReplica.Reconcile
