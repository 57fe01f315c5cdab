import MailReplica.Proofs.Pass.Halves

/-! # Passes side by side

Two passes whose stores and servers give the same answers do the same.  `InStep` says so of a part
of a pass that runs twice, on two pairs of sides, up to where the first run halts; what is known of
the two runs, then and before, is up to a `Pairing`.  If single steps keep in step, then so does
every part of a pass, whatever the pairing is (`Lockstep.whole`).
-/

namespace MailReplica

/-- Why something failed, if it did. -/
def refusal? {ε α : Type} : Except ε α → Option ε
  | .ok _ => none
  | .error reason => some reason

namespace Reconcile.Pass

open Store (FolderState)

variable {σ ρ σ' ρ' α β : Type}

/-- What holds of two runs of a part of a pass: while both go on, and once the first one has halted.
The second one may then have halted as well, or go on. -/
structure Pairing (σ ρ σ' ρ' : Type) where
  now : Progress σ ρ → Progress σ' ρ' → Prop
  parted : Halt → Progress σ ρ → Option Halt → Progress σ' ρ' → Prop

/-- Two parts come to the same value as long as the first one does not halt. -/
structure InStep (pairing : Pairing σ ρ σ' ρ') (part : Pass σ ρ α) (part' : Pass σ' ρ' α) :
    Prop where
  together : ∀ before before', pairing.now before before' →
    Ends part before
      (fun value after => ∃ after', part' before' = (.ok value, after') ∧ pairing.now after after')
      (fun halt after =>
        pairing.parted halt after (refusal? (part' before').1) (part' before').2)
  /-- Once the first run has halted, the second one may do the part on its own. -/
  alone : ∀ halt after before', pairing.parted halt after none before' →
    pairing.parted halt after (refusal? (part' before').1) (part' before').2

section Rules

variable {pairing : Pairing σ ρ σ' ρ'} {part : Pass σ ρ α} {part' : Pass σ' ρ' α}
  {next : α → Pass σ ρ β} {next' : α → Pass σ' ρ' β}

theorem parted_bind (rest : ∀ value, InStep pairing (next value) (next' value)) {halt : Halt}
    {after : Progress σ ρ} {before' : Progress σ' ρ'}
    (parted : pairing.parted halt after (refusal? (part' before').1) (part' before').2) :
    pairing.parted halt after (refusal? ((part' >>= next') before').1)
      ((part' >>= next') before').2 := by
  rw [bind_apply]
  -- The second run does the rest on its own, unless it has halted too.
  match ran : part' before' with
  | (.ok value, after') =>
    rw [ran] at parted
    exact (rest value).alone halt after after' parted
  | (.error halt', after') =>
    rw [ran] at parted
    exact parted

theorem InStep.bind (first : InStep pairing part part')
    (rest : ∀ value, InStep pairing (next value) (next' value)) :
    InStep pairing (part >>= next) (part' >>= next') where
  together before before' now := by
    apply Ends.bind
    refine Ends.mono (first.together before before' now) ?_ fun _ _ => parted_bind rest
    rintro value after ⟨after', ran, now'⟩
    rw [bind_apply, ran]
    exact (rest value).together after after' now'
  alone halt after before' parted := parted_bind rest (first.alone halt after before' parted)

theorem inStep_pure (value : α) :
    InStep pairing (pure value : Pass σ ρ α) (pure value : Pass σ' ρ' α) where
  together _ before' now := ends_pure ⟨before', rfl, now⟩
  alone _ _ _ parted := parted

theorem inStep_forM {ι : Type} {work : ι → Pass σ ρ Unit} {work' : ι → Pass σ' ρ' Unit}
    (each : ∀ item, InStep pairing (work item) (work' item)) (items : List ι) :
    InStep pairing (items.forM work) (items.forM work') := by
  induction items with
  | nil => exact inStep_pure ()
  | cons item rest ih => exact (each item).bind fun _ => ih

end Rules

/-- Single steps on two pairs of sides keep in step. -/
structure Lockstep (sides : Sides σ ρ) (sides' : Sides σ' ρ') (pairing : Pairing σ ρ σ' ρ') :
    Prop where
  call : ∀ {α : Type} (step : Step) (call : Store.Call α),
    InStep pairing (keep step (sides.store.call call)) (keep step (sides'.store.call call))
  ask : ∀ {α : Type} (step : Step) (call : ServerCall α),
    InStep pairing (ask sides step call) (ask sides' step call)
  tell : ∀ event, InStep pairing (tell event) (tell event)
  throw : ∀ halt, InStep pairing (throw halt : Pass σ ρ Int) (throw halt : Pass σ' ρ' Int)
  validity : ∀ before before', pairing.now before before' →
    sides.server.validity before.server = sides'.server.validity before'.server

namespace Lockstep

variable {sides : Sides σ ρ} {sides' : Sides σ' ρ'} {pairing : Pairing σ ρ σ' ρ'}
  (lockstep : Lockstep sides sides' pairing) (folder : String) (settings : PassSettings)
include lockstep

/-! ## The first half -/

theorem prepare : InStep pairing (Pass.prepare sides folder) (Pass.prepare sides' folder) :=
  (lockstep.call _ _).bind fun _ => lockstep.ask _ _

theorem openAndCount :
    InStep pairing (Pass.openAndCount sides folder) (Pass.openAndCount sides' folder) := by
  refine (lockstep.ask _ _).bind fun _ => (lockstep.tell _).bind fun _ =>
    (lockstep.ask _ _).bind fun count => ?_
  split
  · exact lockstep.throw _
  · exact inStep_pure count

theorem load :
    InStep pairing (keep .loadState (FolderState.load sides.store folder))
      (keep .loadState (FolderState.load sides'.store folder)) := by
  unfold FolderState.load
  simp only [keep_bind]
  exact (lockstep.call _ _).bind fun _ => (lockstep.call _ _).bind fun _ => inStep_pure _

theorem startOver (validity : UInt64) :
    InStep pairing (keep .resetState (FolderState.startOver sides.store folder validity))
      (keep .resetState (FolderState.startOver sides'.store folder validity)) := by
  unfold FolderState.startOver
  simp only [keep_bind]
  exact (lockstep.call _ _).bind fun _ => (lockstep.call _ _).bind fun _ => inStep_pure _

theorem recordValidity (state : FolderState) (validity : UInt64) :
    InStep pairing (keep .storeValidity (state.recordValidity sides.store folder validity))
      (keep .storeValidity (state.recordValidity sides'.store folder validity)) := by
  unfold FolderState.recordValidity
  simp only [keep_bind]
  exact (lockstep.call _ _).bind fun _ => inStep_pure _

/-- Work that depends on the numbering reported keeps in step if it does for each numbering. -/
theorem read (next : Option UInt64 → Pass σ ρ β) (next' : Option UInt64 → Pass σ' ρ' β)
    (each : ∀ numbering, InStep pairing (next numbering) (next' numbering)) :
    InStep pairing (get >>= fun progress => next (sides.server.validity progress.server))
      (get >>= fun progress => next' (sides'.server.validity progress.server)) where
  together before before' now := by
    change Ends (next (sides.server.validity before.server)) before
      (fun value after => ∃ after', next' (sides'.server.validity before'.server) before' =
        (.ok value, after') ∧ pairing.now after after') _
    rw [lockstep.validity before before' now]
    exact (each _).together before before' now
  alone halt after before' parted := (each _).alone halt after before' parted

theorem checkValidity (state : FolderState) :
    InStep pairing (Pass.checkValidity sides folder state)
      (Pass.checkValidity sides' folder state) := by
  refine lockstep.read
    (fun numbering => Pass.checkValidity (sides.reporting numbering) folder state)
    (fun numbering => Pass.checkValidity (sides'.reporting numbering) folder state) ?_
  -- With one numbering for both, what is left depends on the state that was loaded alone.
  intro numbering
  unfold Pass.checkValidity
  cases numbering with
  | none => exact inStep_pure state
  | some validity =>
    cases stored : state.validity with
    | none => exact lockstep.recordValidity folder state validity
    | some known =>
      dsimp only [Sides.reporting]
      by_cases same : known = validity
      · simp only [if_pos same]
        exact inStep_pure state
      · simp only [if_neg same]
        exact (lockstep.call _ _).bind fun _ => lockstep.startOver folder validity

theorem opening : InStep pairing (Pass.opening sides folder) (Pass.opening sides' folder) :=
  (lockstep.prepare folder).bind fun _ => lockstep.openAndCount folder

theorem settling : InStep pairing (Pass.settling sides folder) (Pass.settling sides' folder) :=
  (lockstep.opening folder).bind fun _ => (lockstep.load folder).bind fun state =>
    (lockstep.checkValidity folder state).bind fun _ => inStep_pure _

/-! ## The second half -/

theorem listing (count : Int) :
    InStep pairing (Pass.listing sides settings count) (Pass.listing sides' settings count) := by
  unfold Pass.listing
  dsimp only
  split
  · exact inStep_pure []
  · exact (lockstep.ask _ _).bind fun _ => inStep_pure _

theorem updateKnown (listed : Listed) :
    InStep pairing (Pass.updateKnown sides folder settings listed)
      (Pass.updateKnown sides' folder settings listed) := by
  unfold Pass.updateKnown
  dsimp only
  split
  · exact (lockstep.call _ _).bind fun _ => lockstep.tell _
  · refine (lockstep.call _ _).bind fun flags => ?_
    split
    · exact inStep_pure ()
    · exact (lockstep.call _ _).bind fun _ => lockstep.tell _

theorem download (state : FolderState) (listed : Listed) :
    InStep pairing (Pass.download sides folder settings state listed)
      (Pass.download sides' folder settings state listed) :=
  (lockstep.ask _ _).bind fun _ => (lockstep.call _ _).bind fun _ => lockstep.tell _

theorem removeVanished (ids : List String) (known : Std.ExtTreeMap String (Option Instant)) :
    InStep pairing (Pass.removeVanished sides folder settings ids known)
      (Pass.removeVanished sides' folder settings ids known) := by
  unfold Pass.removeVanished
  dsimp only
  split
  · exact inStep_pure ()
  · exact (lockstep.call _ _).bind fun _ => inStep_forM (fun _ => lockstep.tell _) _

theorem raiseHighest (state : FolderState) (listed : List Listed) :
    InStep pairing (Pass.raiseHighest sides folder state listed)
      (Pass.raiseHighest sides' folder state listed) := by
  unfold Pass.raiseHighest FolderState.raise
  split
  · exact inStep_pure ()
  · split
    · simp only [keep_bind]
      exact ((lockstep.call _ _).bind fun _ => inStep_pure _).bind fun _ => inStep_pure ()
    · exact inStep_pure ()

theorem reconcile (state : FolderState) (listed : List Listed)
    (known : Std.ExtTreeMap String (Option Instant)) :
    InStep pairing (Pass.reconcile sides folder settings state listed known)
      (Pass.reconcile sides' folder settings state listed known) := by
  refine (inStep_forM (lockstep.updateKnown folder settings) _).bind fun _ =>
    (inStep_forM (lockstep.download folder settings state) _).bind fun _ => ?_
  split
  · exact (lockstep.removeVanished folder settings _ known).bind fun _ =>
      lockstep.raiseHighest folder state listed
  · exact lockstep.raiseHighest folder state listed

theorem continuing (settled : Int × FolderState) :
    InStep pairing (Pass.continuing sides folder settings settled)
      (Pass.continuing sides' folder settings settled) := by
  refine (lockstep.listing settings _).bind fun listed => (lockstep.call _ _).bind fun known =>
    (lockstep.reconcile folder settings _ listed known).bind fun _ => ?_
  split
  · exact lockstep.ask _ _
  · exact inStep_pure ()

/-- Whole runs keep in step if single steps do. -/
theorem whole :
    InStep pairing (Pass.whole sides folder settings) (Pass.whole sides' folder settings) :=
  (lockstep.settling folder).bind (lockstep.continuing folder settings)

end Lockstep

end Reconcile.Pass

end MailReplica
