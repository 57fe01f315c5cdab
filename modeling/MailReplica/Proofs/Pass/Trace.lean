import MailReplica.Proofs.Pass.Transcript

/-! # What a part of a pass adds to its transcript

A part of a pass over noting sides adds to what is told and to the notes on both sides; what it adds
is its `Trace`.  `Leaves` speaks about the traces of a part, whatever was noted before.  A part that
comes to its end leaves a clean trace, in which no call went wrong; the trace of a part that halts
has one call that is to blame, the last one (`Trace.Blames`).
-/

namespace MailReplica.Reconcile

/-! ## Calls that end a pass -/

/-- Why an exchange with the server ends a pass over `folder`, if it does. -/
def Exchange.halt? (folder : String) : Exchange → Option Halt
  | .folder _ (.error failure) => some ⟨.getFolder, failure⟩
  | .openFolder _ (.error failure) => some ⟨.openFolder, failure⟩
  | .count (.error failure) => some ⟨.getCount, failure⟩
  | .count (.ok messages) =>
    if messages < 0 then
      some ⟨.checkCount, .sync ("Message count " ++ messages.repr ++ " for folder " ++ folder)⟩
    else none
  | .list first last _ (.error failure) => some ⟨.list first last, failure⟩
  | .fetch uid _ (.error failure) => some ⟨.download (Nat.repr uid.toNat), failure⟩
  | .expunge (.error failure) => some ⟨.expunge, failure⟩
  | _ => none

/-- The calls on the store that the steps of a pass over `folder` make. -/
inductive Step.Makes (folder : String) : Step → Store.Exchange → Prop where
  | prepare (answer : Except Store.Failure Unit) :
    Makes folder .prepare (.createFolders [⟨folder, folder⟩] answer)
  | loadState (key : String) (answer : Except Store.Failure (Option Int64)) :
    Makes folder .loadState (.number folder key answer)
  | clear (answer : Except Store.Failure Unit) : Makes folder .clear (.removeAll folder answer)
  | resetState (key : String) (value : Int64) (answer : Except Store.Failure Unit) :
    Makes folder .resetState (.setNumber folder key value answer)
  | storeValidity (value : Int64) (answer : Except Store.Failure Unit) :
    Makes folder .storeValidity
      (.setNumber folder Store.FolderState.validityKey value answer)
  | readLocal (answer : Except Store.Failure (Std.ExtTreeMap String (Option Instant))) :
    Makes folder .readLocal (.dates folder answer)
  | removeDeleted (id : String) (answer : Except Store.Failure Unit) :
    Makes folder (.removeDeleted id) (.remove folder [id] answer)
  | readFlags (id : String) (answer : Except Store.Failure (Option FlagSet)) :
    Makes folder (.readFlags id) (.flags folder id answer)
  | updateFlags (id : String) (flags : FlagSet) (answer : Except Store.Failure Unit) :
    Makes folder (.updateFlags id) (.setFlags folder [id] flags answer)
  | save (record : MessageRecord) (answer : Except Store.Failure Unit) :
    Makes folder (.save record.id) (.save folder record answer)
  | removeVanished (ids : List String) (answer : Except Store.Failure Unit) :
    Makes folder (.removeVanished ids.length) (.remove folder ids answer)
  | storeHighest (value : Int64) (answer : Except Store.Failure Unit) :
    Makes folder .storeHighest (.setNumber folder Store.FolderState.highestKey value answer)

/-- An exchange with the store that ends a pass as `halt` says. -/
structure Halt.IsFrom (halt : Halt) (folder : String) (exchange : Store.Exchange) : Prop where
  makes : halt.step.Makes folder exchange
  refused : ∃ failure, exchange.failure? = some failure ∧ halt.failure = .storage failure.text

/-! ## Traces -/

/-- What is told, asked of the server and asked of the store, each from the first on. -/
structure Trace where
  told : List Event
  asked : List Exchange
  kept : List Store.Exchange

namespace Trace

def empty : Trace :=
  ⟨[], [], []⟩

instance : Append Trace where
  append first second :=
    ⟨first.told ++ second.told, first.asked ++ second.asked, first.kept ++ second.kept⟩

section

variable {folder : String} {halt : Halt} {first second trace : Trace}

@[simp]
theorem told_append : (first ++ second).told = first.told ++ second.told := rfl

@[simp]
theorem asked_append : (first ++ second).asked = first.asked ++ second.asked := rfl

@[simp]
theorem kept_append : (first ++ second).kept = first.kept ++ second.kept := rfl

/-- No call of a trace ends a pass. -/
structure Clean (folder : String) (trace : Trace) : Prop where
  asked : ∀ exchange ∈ trace.asked, exchange.halt? folder = none
  kept : ∀ exchange ∈ trace.kept, exchange.failure? = none

theorem Clean.append (left : first.Clean folder) (right : second.Clean folder) :
    (first ++ second).Clean folder where
  asked exchange made := (List.mem_append.1 made).elim (left.asked exchange) (right.asked exchange)
  kept exchange made := (List.mem_append.1 made).elim (left.kept exchange) (right.kept exchange)

/-- The last call of a trace, on one of the two sides, ends the pass as `halt` says. -/
inductive Blames (folder : String) (halt : Halt) (trace : Trace) : Prop where
  | asked {earlier : List Exchange} {exchange : Exchange}
      (split : trace.asked = earlier ++ [exchange]) (halts : exchange.halt? folder = some halt)
      (clean : Clean folder { trace with asked := earlier })
  | kept {earlier : List Store.Exchange} {exchange : Store.Exchange}
      (split : trace.kept = earlier ++ [exchange]) (halts : halt.IsFrom folder exchange)
      (clean : Clean folder { trace with kept := earlier })

theorem Clean.append_blames (left : first.Clean folder) (right : second.Blames folder halt) :
    (first ++ second).Blames folder halt := by
  cases right with
  -- What comes before the call to blame is clean on its side, and all is on the other side.
  | @asked earlier exchange split halts clean =>
    have whole : (first ++ second).asked = (first.asked ++ earlier) ++ [exchange] := by
      rw [asked_append, split, List.append_assoc]
    exact .asked whole halts (left.append clean)
  | @kept earlier exchange split halts clean =>
    have whole : (first ++ second).kept = (first.kept ++ earlier) ++ [exchange] := by
      rw [kept_append, split, List.append_assoc]
    exact .kept whole halts (left.append clean)

/-- Some call of a trace ends the pass as `halt` says. -/
def Blamed (folder : String) (halt : Halt) (trace : Trace) : Prop :=
  (∃ exchange ∈ trace.asked, exchange.halt? folder = some halt) ∨
    ∃ exchange ∈ trace.kept, halt.IsFrom folder exchange

theorem Blames.blamed (blames : trace.Blames folder halt) : trace.Blamed folder halt := by
  cases blames with
  | asked split halts _ =>
    exact .inl ⟨_, split ▸ List.mem_append_right _ (List.mem_singleton_self _), halts⟩
  | kept split halts _ =>
    exact .inr ⟨_, split ▸ List.mem_append_right _ (List.mem_singleton_self _), halts⟩

theorem Blamed.not_clean (blamed : trace.Blamed folder halt) : ¬trace.Clean folder := by
  intro clean
  obtain ⟨exchange, made, halts⟩ | ⟨exchange, made, halts⟩ := blamed
  · rw [clean.asked exchange made] at halts
    cases halts
  · obtain ⟨failure, refused, _⟩ := halts.refused
    rw [clean.kept exchange made] at refused
    cases refused

end

end Trace

namespace Pass

variable {σ ρ α β : Type}

abbrev NotedProgress (σ ρ : Type) :=
  Progress (Noted σ Store.Exchange) (Noted ρ Exchange)

abbrev NotedPass (σ ρ : Type) :=
  Pass (Noted σ Store.Exchange) (Noted ρ Exchange)

/-- What is added between two progresses over noting sides. -/
structure Adds (before : NotedProgress σ ρ) (trace : Trace) (after : NotedProgress σ ρ) :
    Prop where
  told : after.told = trace.told.reverse ++ before.told
  asked : after.server.notes = before.server.notes ++ trace.asked
  kept : after.store.notes = before.store.notes ++ trace.kept

/-- From wherever it starts, a part of a pass comes to its end with a clean trace, or halts with one
that ends with the call to blame. -/
def Leaves (folder : String) (part : NotedPass σ ρ α) (Done : α → Trace → Prop)
    (Halted : Trace → Prop) : Prop :=
  ∀ before, Ends part before
    (fun value after => ∃ trace, Adds before trace after ∧ trace.Clean folder ∧ Done value trace)
    (fun halt after => ∃ trace, Adds before trace after ∧ trace.Blames folder halt ∧ Halted trace)

theorem Adds.trans {before middle after : NotedProgress σ ρ} {first second : Trace}
    (left : Adds before first middle) (right : Adds middle second after) :
    Adds before (first ++ second) after where
  told := by rw [right.told, left.told]; simp
  asked := by rw [right.asked, left.asked]; simp
  kept := by rw [right.kept, left.kept]; simp

/-! ## Rules -/

section Rules

variable {folder : String} {part : NotedPass σ ρ α} {next : α → NotedPass σ ρ β}

theorem Leaves.mono {Done Done' : α → Trace → Prop} {Halted Halted' : Trace → Prop}
    (leaves : Leaves folder part Done Halted)
    (done : ∀ value trace, trace.Clean folder → Done value trace → Done' value trace)
    (halted : ∀ trace, Halted trace → Halted' trace) : Leaves folder part Done' Halted' := by
  intro before
  refine Ends.mono (leaves before) ?_ ?_
  · rintro value after ⟨trace, adds, clean, ended⟩
    exact ⟨trace, adds, clean, done value trace clean ended⟩
  · rintro halt after ⟨trace, adds, blames, ended⟩
    exact ⟨trace, adds, blames, halted trace ended⟩

/-- A part that halts leaves no clean trace. -/
theorem Leaves.blaming {Done : α → Trace → Prop} {Halted : Trace → Prop}
    (leaves : Leaves folder part Done Halted) :
    Leaves folder part Done fun trace => Halted trace ∧ ¬trace.Clean folder := by
  intro before
  refine Ends.mono (leaves before) (fun _ _ done => done) ?_
  rintro halt after ⟨trace, adds, blames, halted⟩
  exact ⟨trace, adds, blames, halted, blames.blamed.not_clean⟩

/-- Parts in sequence add one trace after the other. -/
theorem Leaves.bind {Done : α → Trace → Prop} {Done' : β → Trace → Prop} {Halted : Trace → Prop}
    (first : Leaves folder part Done Halted)
    (rest : ∀ value trace, trace.Clean folder → Done value trace →
      Leaves folder (next value) (fun value' trace' => Done' value' (trace ++ trace'))
        (fun trace' => Halted (trace ++ trace'))) :
    Leaves folder (part >>= next) Done' Halted := by
  intro before
  apply Ends.bind
  refine Ends.mono (first before) ?_ fun _ _ halted => halted
  rintro value middle ⟨trace, adds, clean, done⟩
  refine Ends.mono (rest value trace clean done middle) ?_ ?_
  · rintro value' after ⟨trace', adds', clean', done'⟩
    exact ⟨trace ++ trace', adds.trans adds', clean.append clean', done'⟩
  · rintro halt after ⟨trace', adds', blames, halted⟩
    exact ⟨trace ++ trace', adds.trans adds', clean.append_blames blames, halted⟩

theorem Leaves.andThen {Done : α → Trace → Prop} {Done' : β → Trace → Prop}
    {Halted Halted' : Trace → Prop} (first : Leaves folder part Done Halted)
    (halted : ∀ trace, Halted trace → Halted' trace)
    (rest : ∀ value trace, trace.Clean folder → Done value trace →
      Leaves folder (next value) (fun value' trace' => Done' value' (trace ++ trace'))
        (fun trace' => Halted' (trace ++ trace'))) :
    Leaves folder (part >>= next) Done' Halted' :=
  (first.mono (fun _ _ _ done => done) halted).bind rest

theorem leaves_pure {Done : α → Trace → Prop} {Halted : Trace → Prop} {value : α}
    (done : Done value .empty) :
    Leaves folder (pure value : NotedPass σ ρ α) Done Halted := by
  intro before
  refine ends_pure ⟨.empty, ⟨rfl, ?_, ?_⟩, ⟨?_, ?_⟩, done⟩ <;> simp [Trace.empty]

theorem leaves_tell (event : Event) :
    Leaves folder (tell event : NotedPass σ ρ Unit)
      (fun _ trace => trace = ⟨[event], [], []⟩) fun _ => False := by
  intro before
  refine ends_tell ⟨_, ⟨rfl, ?_, ?_⟩, ⟨?_, ?_⟩, rfl⟩ <;> simp

/-- The progress at hand is read without a call. -/
theorem leaves_get {next : NotedProgress σ ρ → NotedPass σ ρ β} {Done : β → Trace → Prop}
    {Halted : Trace → Prop} (each : ∀ progress, Leaves folder (next progress) Done Halted) :
    Leaves folder (get >>= next) Done Halted := fun before => each before before

theorem leaves_ask (sides : Sides σ ρ) (step : Step) (call : ServerCall α)
    (answered : ∀ value, (Exchange.of call (.ok value)).halt? folder = none)
    (refused : ∀ failure, (Exchange.of call (.error failure)).halt? folder = some ⟨step, failure⟩) :
    Leaves folder (ask sides.noting step call)
      (fun value trace => trace = ⟨[], [.of call (.ok value)], []⟩)
      fun trace => ∃ failure, trace = ⟨[], [.of call (.error failure)], []⟩ := by
  intro before
  unfold Ends
  rw [ask_noting]
  match sides.server.run call before.server.state with
  | (.ok value, state) =>
    refine ⟨_, ⟨rfl, rfl, (List.append_nil _).symm⟩, ⟨?_, List.forall_mem_nil _⟩, rfl⟩
    simpa using answered value
  | (.error failure, state) =>
    refine ⟨_, ⟨rfl, rfl, (List.append_nil _).symm⟩, ?_, failure, rfl⟩
    exact .asked (List.nil_append _).symm (refused failure)
      ⟨List.forall_mem_nil _, List.forall_mem_nil _⟩

theorem leaves_call (sides : Sides σ ρ) (step : Step) (call : Store.Call α)
    (makes : ∀ answer, step.Makes folder (.of call answer)) :
    Leaves folder (keep step (sides.noting.store.call call) : NotedPass σ ρ α)
      (fun value trace => trace = ⟨[], [], [.of call (.ok value)]⟩)
      fun trace => ∃ failure, trace = ⟨[], [], [.of call (.error failure)]⟩ := by
  intro before
  unfold Ends
  rw [keep_noting]
  match sides.store.run call before.store.state with
  | (.ok value, state) =>
    refine ⟨_, ⟨rfl, (List.append_nil _).symm, rfl⟩, ⟨List.forall_mem_nil _, ?_⟩, rfl⟩
    simp [Store.Exchange.failure?_of, refusal?]
  | (.error failure, state) =>
    refine ⟨_, ⟨rfl, (List.append_nil _).symm, rfl⟩, ?_, failure, rfl⟩
    refine .kept (List.nil_append _).symm ⟨makes _, failure, ?_, rfl⟩
      ⟨List.forall_mem_nil _, List.forall_mem_nil _⟩
    rw [Store.Exchange.failure?_of]
    rfl

end Rules

end Pass

end MailReplica.Reconcile
