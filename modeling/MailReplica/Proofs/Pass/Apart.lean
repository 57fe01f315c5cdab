import Mathlib.Logic.Function.Basic
import MailReplica.Proofs.Pass.Falter
import MailReplica.Proofs.Pass.Steady
import MailReplica.Proofs.Store.Confined

/-! # Passes over different folders

A pass names its folder in every call, so it is the pass of a store and a server whose calls are all
turned to that folder (`whole_inFolder`).  Over a confined store and a server with a branch for each
folder, two passes over one folder that meet the same part and the same branch keep in step, and
leave all other parts and branches as they are (`run_level`).  From this follows that passes over
different folders commute (`runs_commute`).
-/

namespace MailReplica.Reconcile

open Store (Confined FolderState Handler Memory Tables)

variable {σ ρ κ : Type}

/-! ## Servers with branches -/

/-- What a server with a branch for each folder is at. -/
structure Branches (ρ : Type) where
  /-- The folder that is held. -/
  held : Option String
  branch : String → ρ

namespace Branches

/-- Nothing is held. -/
def idle (branch : String → ρ) : Branches ρ :=
  ⟨none, branch⟩

def put (state : Branches ρ) (folder : String) (after : ρ) (held : Option String) : Branches ρ :=
  ⟨held, Function.update state.branch folder after⟩

end Branches

/-- The folder that is held answers a call. -/
def Server.atHeld {α : Type} (servers : String → Server ρ) (call : ServerCall α)
    (state : Branches ρ) : Except Failure α × Branches ρ :=
  match state.held with
  | none => (.error (.invalidState "no folder is held"), state)
  | some id =>
    let (answer, after) := (servers id).run call (state.branch id)
    (answer, state.put id after (some id))

/-- A server whose folders are independent: one server for each of them, put together.  Which of
them answers a call is decided by the folder that is asked for, and then by the one that is held. -/
def Server.branching (servers : String → Server ρ) : Server (Branches ρ) where
  run call state :=
    match call with
    | .folder id =>
      let (answer, after) := (servers id).run (.folder id) (state.branch id)
      (answer, state.put id after (if answer.isOk then some id else state.held))
    | call => atHeld servers call state
  validity state := state.held.bind fun id => (servers id).validity (state.branch id)
  close state :=
    match state.held with
    | none => state
    | some id => state.put id ((servers id).close (state.branch id)) none

/-- A call with `folder` in the place of the folder that it is about. -/
def ServerCall.inFolder {α : Type} (folder : String) (call : ServerCall α) : ServerCall α :=
  match call with
  | .folder _ => .folder folder
  | call => call

/-- The sides with every call turned to `folder`. -/
def Sides.inFolder (sides : Sides σ ρ) (folder : String) : Sides σ ρ where
  store := ⟨fun call => sides.store.run (call.inFolder folder)⟩
  server := { sides.server with run := fun call => sides.server.run (call.inFolder folder) }

namespace Pass

theorem prepare_inFolder (sides : Sides σ ρ) (folder : String) :
    prepare (sides.inFolder folder) folder = prepare sides folder := rfl

theorem whole_inFolder (sides : Sides σ ρ) (folder : String) (settings : PassSettings) :
    whole (sides.inFolder folder) folder settings = whole sides folder settings := rfl

/-! ## Two runs on one level -/

variable {α : Type}

/-- Two runs of which it is known all along that `now` holds, and that halt together. -/
def Pairing.level {σ' ρ' : Type} (now : Progress σ ρ → Progress σ' ρ' → Prop) :
    Pairing σ ρ σ' ρ' where
  now := now
  parted halt after halted after' := halted = some halt ∧ now after after'

section Level

variable {now : Progress σ ρ → Progress σ ρ → Prop} {part part' : Pass σ ρ α}

theorem inStep_level
    (level : ∀ before before', now before before' →
      (part before).1 = (part' before').1 ∧ now (part before).2 (part' before').2) :
    InStep (.level now) part part' where
  together before before' holds := by
    obtain ⟨same, after⟩ := level before before' holds
    unfold Ends
    split
    next ran =>
      rw [ran] at same after
      exact ⟨(part' before').2, Prod.ext same.symm rfl, after⟩
    next ran =>
      rw [ran] at same after
      exact ⟨by rw [← same]; rfl, after⟩
  alone _ _ _ parted := nomatch parted.1

theorem InStep.level (inStep : InStep (.level now) part part') {before before' : Progress σ ρ}
    (holds : now before before') :
    (part before).1 = (part' before').1 ∧ now (part before).2 (part' before').2 := by
  obtain ⟨value, ended, after', ran, after⟩ | ⟨halt, ended, halted, after⟩ :=
    (inStep.together before before' holds).of_run rfl
  · rw [ran]
    exact ⟨ended, after⟩
  · refine ⟨?_, after⟩
    rw [ended]
    match result : (part' before').1 with
    | .ok value => rw [result] at halted; cases halted
    | .error halt' => rw [result] at halted; cases halted; rfl

end Level

/-! ## Two runs over one folder -/

end Pass

namespace Branches

theorem held_close (servers : String → Server ρ) (state : Branches ρ) :
    ((Server.branching servers).close state).held = none := by
  dsimp only [Server.branching]
  split
  · assumption
  · rfl

theorem eq_idle {state : Branches ρ} (held : state.held = none) : state = .idle state.branch := by
  obtain ⟨_, branch⟩ := state
  obtain rfl := held
  rfl

/-- Two runs over `folder` have met the same of it so far, have held no other, and have left all
others as they found them at their starts. -/
structure Beside (folder : String) (start start' left right : Branches ρ) : Prop where
  own : left.branch folder = right.branch folder
  held : left.held = right.held
  holds : left.held = none ∨ left.held = some folder
  others : ∀ other, other ≠ folder →
    left.branch other = start.branch other ∧ right.branch other = start'.branch other

namespace Beside

variable {folder : String} {start start' left right : Branches ρ}

/-- The branches of both are replaced by the same one. -/
theorem put (beside : Beside folder start start' left right) (after : ρ) {held : Option String}
    (holds : held = none ∨ held = some folder) :
    Beside folder start start' (left.put folder after held) (right.put folder after held) where
  own := by simp [Branches.put]
  held := rfl
  holds := holds
  others other apart := by simpa [Branches.put, apart] using beside.others other apart

variable {α : Type} (servers : String → Server ρ)

theorem atHeld (beside : Beside folder start start' left right) (call : ServerCall α) :
    (Server.atHeld servers call left).1 = (Server.atHeld servers call right).1 ∧
      Beside folder start start' (Server.atHeld servers call left).2
        (Server.atHeld servers call right).2 := by
  unfold Server.atHeld
  rw [← beside.held]
  obtain holds | holds := beside.holds
  · rw [holds]
    exact ⟨rfl, beside⟩
  · rw [holds]
    dsimp only
    rw [← beside.own]
    exact ⟨rfl, beside.put _ (.inr rfl)⟩

theorem run (beside : Beside folder start start' left right) (call : ServerCall α) :
    let answered := (Server.branching servers).run (call.inFolder folder)
    (answered left).1 = (answered right).1 ∧
      Beside folder start start' (answered left).2 (answered right).2 := by
  cases call with
  | folder =>
    dsimp only [Server.branching, ServerCall.inFolder]
    rw [← beside.own, ← beside.held]
    refine ⟨rfl, beside.put _ ?_⟩
    split
    · exact .inr rfl
    · exact beside.holds
  | openFolder | count | list | fetch | expunge => exact beside.atHeld servers _

theorem validity (beside : Beside folder start start' left right) :
    (Server.branching servers).validity left = (Server.branching servers).validity right := by
  dsimp only [Server.branching]
  rw [← beside.held]
  obtain holds | holds := beside.holds
  · rw [holds]
    rfl
  · rw [holds, Option.bind_some, Option.bind_some, beside.own]

theorem close (beside : Beside folder start start' left right) :
    Beside folder start start' ((Server.branching servers).close left)
      ((Server.branching servers).close right) := by
  dsimp only [Server.branching]
  rw [← beside.held]
  obtain holds | holds := beside.holds
  · rw [holds]
    exact beside
  · rw [holds]
    dsimp only
    rw [← beside.own]
    exact beside.put _ (.inl rfl)

end Beside

end Branches

namespace Pass

/-- Two runs over `folder` that have met the same so far, and have left all other folders as they
found them at their starts. -/
structure Beside (part : String → σ → κ) (folder : String)
    (start start' before before' : Progress σ (Branches ρ)) : Prop where
  own : part folder before.store = part folder before'.store
  others : ∀ other, other ≠ folder →
    part other before.store = part other start.store ∧
      part other before'.store = part other start'.store
  server : Branches.Beside folder start.server start'.server before.server before'.server
  told : before.told = before'.told

theorem keep_fst (step : Step) (store : Handler σ) (call : Store.Call α)
    (before : Progress σ ρ) :
    (keep step (store.call call) before).1 =
      (store.run call before.store).1.mapError fun failure => ⟨step, .storage failure.text⟩ := by
  unfold keep Handler.call
  match store.run call before.store with
  | (.ok value, after) => rfl
  | (.error failure, after) => rfl

theorem ask_fst (sides : Sides σ ρ) (step : Step) (call : ServerCall α) (before : Progress σ ρ) :
    (ask sides step call before).1 =
      (sides.server.run call before.server).1.mapError fun failure => ⟨step, failure⟩ := by
  unfold ask
  match sides.server.run call before.server with
  | (.ok value, after) => rfl
  | (.error failure, after) => rfl

section Steps

variable {part : String → σ → κ} {folder : String} {store : Handler σ}
  {servers : String → Server ρ} {start start' : Progress σ (Branches ρ)}

theorem lockstep_level (confined : Confined store part) :
    let sides : Sides σ (Branches ρ) := (Sides.mk store (.branching servers)).inFolder folder
    Lockstep sides sides (.level (Beside part folder start start')) where
  call step call := by
    refine inStep_level fun before before' beside => ?_
    have within := confined.within folder call
    rw [keep_fst, keep_fst, keep_snd, keep_snd]
    refine ⟨congrArg _ (confined.answer folder call beside.own), within.own beside.own,
      fun other apart => ?_, beside.server, beside.told⟩
    obtain ⟨left, right⟩ := beside.others other apart
    exact ⟨(within.others apart _).trans left, (within.others apart _).trans right⟩
  ask step call := by
    refine inStep_level fun before before' beside => ?_
    obtain ⟨answer, after⟩ := beside.server.run servers call
    rw [ask_fst, ask_fst, ask_snd, ask_snd]
    exact ⟨congrArg _ answer, beside.own, beside.others, after, beside.told⟩
  tell event := inStep_level fun before before' beside =>
    ⟨rfl, beside.own, beside.others, beside.server, congrArg (event :: ·) beside.told⟩
  throw halt := inStep_level fun before before' beside => ⟨rfl, beside⟩
  validity before before' beside := beside.server.validity servers

theorem told_after_settle (folder : String) (result : Except Halt Unit)
    (progress : Progress σ (Branches ρ)) :
    (settle folder result progress).told =
      (failureOf folder result).reverse ++ progress.told := by
  cases result <;> rfl

/-- A run that does not get hold of its folder holds nothing. -/
theorem held_of_halted {sides : Sides σ (Branches ρ)} {branch : String → ρ} {state : σ}
    (branching : sides.server = .branching servers) {halt : Halt}
    {after : Progress σ (Branches ρ)}
    (halted : prepare sides folder (begun folder state (.idle branch)) = (.error halt, after)) :
    after.server.held = none := by
  have ends : Ends (prepare sides folder) (begun folder state (.idle branch)) (fun _ _ => True)
      fun _ after => after.server.held = none := by
    refine Ends.bind (ends_call _ _ _ (fun _ _ _ => ?_) fun _ _ _ => rfl)
    refine ends_ask _ _ _ (fun _ _ _ => trivial) fun failure after refused => ?_
    rw [branching] at refused
    obtain ⟨answer, rfl⟩ := Prod.mk.inj refused
    dsimp only [Branches.put]
    rw [answer]
    rfl
  obtain ⟨_, absurd, _⟩ | ⟨_, _, held⟩ := ends.of_run halted
  · cases absurd
  · exact held

/-- What a run over a folder does, and what it leaves, compared with another run over it. -/
structure Level (part : String → σ → κ) (folder : String) (branch branch' : String → ρ)
    (state : σ) (ended ended' : Progress σ (Branches ρ)) : Prop where
  events : events ended = events ended'
  own : part folder ended.store = part folder ended'.store
  others : ∀ other, other ≠ folder → part other ended.store = part other state
  server : Branches.Beside folder (.idle branch) (.idle branch') ended.server ended'.server
  held : ended.server.held = none

/-- Runs over one folder that meet the same of it leave the same of it and tell the same, and they
leave all other folders as they are. -/
theorem run_level (confined : Confined store part) (settings : PassSettings)
    {branch branch' : String → ρ} {state state' : σ}
    (own : part folder state = part folder state') (sameBranch : branch folder = branch' folder) :
    let sides : Sides σ (Branches ρ) := ⟨store, .branching servers⟩
    Level part folder branch branch' state (run sides folder settings state (.idle branch))
      (run sides folder settings state' (.idle branch')) := by
  intro sides
  have beside : Beside part folder ⟨state, .idle branch, []⟩ ⟨state', .idle branch', []⟩
      (begun folder state (.idle branch)) (begun folder state' (.idle branch')) :=
    ⟨own, fun _ _ => ⟨rfl, rfl⟩, ⟨sameBranch, rfl, .inl rfl, fun _ _ => ⟨rfl, rfl⟩⟩, rfl⟩
  have lockstep : Lockstep (sides.inFolder folder) (sides.inFolder folder)
      (.level (Beside part folder ⟨state, .idle branch, []⟩ ⟨state', .idle branch', []⟩)) :=
    lockstep_level confined
  obtain ⟨prepared, _⟩ := (lockstep.prepare folder).level beside
  obtain ⟨result, ended⟩ := (lockstep.whole folder settings).level beside
  rw [prepare_inFolder] at prepared
  rw [whole_inFolder] at result ended
  obtain ⟨left, told, server⟩ := run_whole sides folder settings state (.idle branch)
  obtain ⟨left', told', server'⟩ := run_whole sides folder settings state' (.idle branch')
  have events : Pass.events (run sides folder settings state (.idle branch)) =
      Pass.events (run sides folder settings state' (.idle branch')) := by
    rw [told, told', told_after_settle, told_after_settle, result, ended.told]
  refine ⟨events, ?_, fun other apart => ?_, ?_, ?_⟩
  · rw [left, left']
    exact ended.own
  · rw [left]
    exact (ended.others other apart).1
  · rw [server, server', prepared]
    split
    · exact ended.server.close servers
    · exact ended.server
  · rw [server]
    match ran : prepare sides folder (begun folder state (.idle branch)) with
    | (.ok (), after) => exact Branches.held_close servers _
    | (.error halt, after) =>
      rw [whole_eq, bind_apply, ran]
      exact held_of_halted rfl ran

end Steps

/-! ## Runs over two folders -/

/-- A run that goes on from what another one left. -/
def runAfter (sides : Sides σ ρ) (folder : String) (settings : PassSettings)
    (progress : Progress σ ρ) : Progress σ ρ :=
  run sides folder settings progress.store progress.server

/-- It does not matter which of two runs goes first. -/
structure Commute (sides : Sides σ ρ) (first second : String) (settings settings' : PassSettings)
    (start : Progress σ ρ) : Prop where
  store : (runAfter sides second settings' (runAfter sides first settings start)).store =
    (runAfter sides first settings (runAfter sides second settings' start)).store
  server : (runAfter sides second settings' (runAfter sides first settings start)).server =
    (runAfter sides first settings (runAfter sides second settings' start)).server
  toldOfFirst : events (runAfter sides first settings start) =
    events (runAfter sides first settings (runAfter sides second settings' start))
  toldOfSecond : events (runAfter sides second settings' (runAfter sides first settings start)) =
    events (runAfter sides second settings' start)

section Commute

variable {part : String → σ → κ} {store : Handler σ} {servers : String → Server ρ}
  {branch : String → ρ}

/-- A run after one over another folder does what it would have done before it. -/
theorem level_after (confined : Confined store part) {folder other : String}
    (apart : folder ≠ other) (settings settings' : PassSettings) (state : σ) :
    let sides : Sides σ (Branches ρ) := ⟨store, .branching servers⟩
    let before := run sides other settings' state (.idle branch)
    Level part folder before.server.branch branch before.store
      (runAfter sides folder settings before) (run sides folder settings state (.idle branch)) := by
  intro sides before
  have left : Level part other branch branch state before before :=
    run_level confined settings' rfl rfl
  unfold runAfter
  rw [Branches.eq_idle left.held]
  exact run_level confined settings (left.others folder apart) (left.server.others folder apart).1

theorem commute_of_confined (confined : Confined store part) {first second : String}
    (apart : first ≠ second) (settings settings' : PassSettings) (state : σ) :
    Commute ⟨store, .branching servers⟩ first second settings settings'
      ⟨state, .idle branch, []⟩ := by
  let sides : Sides σ (Branches ρ) := ⟨store, .branching servers⟩
  let one := run sides first settings state (.idle branch)
  let two := run sides second settings' state (.idle branch)
  have left : Level part first branch branch state one one := run_level confined settings rfl rfl
  have right : Level part second branch branch state two two := run_level confined settings' rfl rfl
  have secondAfter : Level part second one.server.branch branch one.store
      (runAfter sides second settings' one) two :=
    level_after confined apart.symm settings' settings state
  have firstAfter : Level part first two.server.branch branch two.store
      (runAfter sides first settings two) one :=
    level_after confined apart settings settings' state
  refine ⟨confined.whole fun folder => ?_, ?_, firstAfter.events.symm, secondAfter.events⟩
  · -- What is left of a folder is what the run over it left, whichever run was over it.
    change part folder (runAfter sides second settings' one).store =
      part folder (runAfter sides first settings two).store
    by_cases isFirst : folder = first
    · subst isFirst
      rw [secondAfter.others folder apart, firstAfter.own]
    · rw [firstAfter.others folder isFirst]
      by_cases isSecond : folder = second
      · subst isSecond
        exact secondAfter.own
      · rw [secondAfter.others folder isSecond, left.others folder isFirst,
          right.others folder isSecond]
  · change (runAfter sides second settings' one).server = (runAfter sides first settings two).server
    rw [Branches.eq_idle secondAfter.held, Branches.eq_idle firstAfter.held]
    refine congrArg Branches.idle (funext fun folder => ?_)
    by_cases isFirst : folder = first
    · subst isFirst
      rw [(secondAfter.server.others folder apart).1, firstAfter.server.own]
      rfl
    · rw [(firstAfter.server.others folder isFirst).1]
      by_cases isSecond : folder = second
      · subst isSecond
        exact secondAfter.server.own
      · rw [(secondAfter.server.others folder isSecond).1]
        have untouched := (right.server.others folder isSecond).1
        exact (left.server.others folder isFirst).1.trans untouched.symm

end Commute

/-- Passes over different folders commute, on either store, over any server whose folders are
independent, and whatever calls fail for reasons that lie in them: in either order they leave the
same store and the same server, and each of them tells the same. -/
theorem runs_commute {first second : String} (apart : first ≠ second)
    (settings settings' : PassSettings) (servers : String → Server ρ) (branch : String → ρ)
    (faults : {α : Type} → Store.Call α → Option Store.Failure) :
    (∀ memory : Memory, Commute ⟨Memory.handler.failing faults, .branching servers⟩ first second
        settings settings' ⟨memory, .idle branch, []⟩) ∧
      ∀ tables : Tables, Commute ⟨Tables.handler.failing faults, .branching servers⟩ first second
        settings settings' ⟨tables, .idle branch, []⟩ :=
  ⟨commute_of_confined (Memory.confined.failing faults) apart settings settings',
    commute_of_confined (Tables.confined.failing faults) apart settings settings'⟩

/-- No message can be kept in the archive. -/
def archiveFull {α : Type} : Store.Call α → Option Store.Failure
  | .save folder _ => if folder = "Archive" then some (.refused "disk full") else none
  | _ => none

theorem runs_commute_archiveFull :
    let servers (folder : String) : Server Unit :=
      twoListed.server (if folder = "INBOX" then some 9 else none)
    let sides : Sides Memory (Branches Unit) :=
      ⟨Memory.handler.failing archiveFull, .branching servers⟩
    let start : Progress Memory (Branches Unit) := ⟨twoKnown, .idle fun _ => (), []⟩
    "INBOX" ≠ "Archive" ∧
      (events (runAfter sides "INBOX" .usual start)).any Event.isFailure = false ∧
      (events (runAfter sides "Archive" .usual start)).any Event.isFailure = true ∧
      Commute sides "INBOX" "Archive" .usual .usual start := by
  intro servers sides start
  have apart : "INBOX" ≠ "Archive" := by decide
  exact ⟨apart, by decide +kernel, by decide +kernel,
    (runs_commute apart .usual .usual servers (fun _ => ()) archiveFull).1 twoKnown⟩

end Pass

end MailReplica.Reconcile
