import Mathlib.Algebra.Group.Nat.Defs
import MailReplica.Store.FolderState
import MailReplica.Store.Memory

/-! # The journal of a store in memory

Each call on a store in memory leaves an entry in its journal: what the call did, without the type
of its answer.  The entries decide what the store holds.  Of one folder a pass can see the messages
and the numbers, its *copy*; an entry about another folder leaves the copy as it is
(`Entry.copy_apply`).  Passes run against any store whose calls either fail without effect or are
answered as the store in memory answers them (`Watch.Faithful`).
-/

namespace MailReplica.Store

/-! ## Numbers with a sign -/

/-- A number without a sign is read back from a number with one, of the same bits, unless those
bits say that it is below zero. -/
theorem toUInt64_max_toInt64 (value : UInt64) :
    (max value.toInt64 0).toUInt64 = if value.toNat < 2 ^ 63 then value else 0 := by
  have sign : 0 ≤ value.toInt64.toInt ↔ 2 * value.toNat < 2 ^ 64 := BitVec.toInt_pos_iff
  change (if value.toInt64 ≤ 0 then 0 else value.toInt64).toUInt64 = _
  by_cases small : value.toNat < 2 ^ 63
  · rw [if_pos small]
    split
    next notPositive =>
      rw [Int64.le_iff_toInt_le] at notPositive
      have zero : value.toInt64 = 0 :=
        Int64.toInt_inj.1 (Int.le_antisymm notPositive (sign.2 (by omega)))
      rw [← UInt64.toUInt64_toInt64 value, zero]
    next => exact UInt64.toUInt64_toInt64 value
  · have negative : value.toInt64 ≤ 0 := by
      rw [Int64.le_iff_toInt_le]
      exact Int.le_of_lt (Int.not_le.1 fun positive => small (by have := sign.1 positive; omega))
    rw [if_neg small, if_pos negative]
    rfl

/-- No number that is read back reaches `2 ^ 63`. -/
theorem toNat_toUInt64_max_lt (value : Int64) : (max value 0).toUInt64.toNat < 2 ^ 63 := by
  change (if value ≤ 0 then 0 else value).toUInt64.toNat < _
  split
  next => decide
  next positive =>
    rw [Int64.le_iff_toInt_le, Int.not_le] at positive
    have clamped := Int64.toNat_toUInt64_of_le (Int64.le_iff_toInt_le.2 (Int.le_of_lt positive))
    have bound := value.toInt_lt
    rw [clamped, Int64.toNatClampNeg]
    omega

/-! ## Copies of folders -/

/-- What a pass can see of a folder. -/
@[ext]
structure Copy where
  messages : Std.ExtTreeMap String MessageRecord
  numbers : Std.ExtTreeMap String Int64

def Copy.empty : Copy :=
  ⟨∅, ∅⟩

def MemoryFolder.copy (found : MemoryFolder) : Copy :=
  ⟨found.messages, found.numbers⟩

/-- What a store in memory holds of a folder. -/
def Memory.copy (store : Memory) (folder : String) : Copy :=
  ((store.folders.get? folder).map MemoryFolder.copy).getD .empty

def Copy.state (copy : Copy) : FolderState where
  highestUid := (copy.numbers[FolderState.highestKey]?.map fun value => (max value 0).toUInt64).getD 0
  validity := copy.numbers[FolderState.validityKey]?.map Int64.toUInt64

/-- What a call on one folder does to it. -/
inductive Act where
  /-- Reads messages. -/
  | look
  | readNumber (key : String)
  | save (record : MessageRecord)
  | setFlags (ids : List String) (flags : FlagSet)
  | remove (ids : List String)
  | removeAll
  | setNumber (key : String) (value : Int64)
  deriving DecidableEq

def Act.on (copy : Copy) : Act → Copy
  | look | readNumber _ => copy
  | save record => { copy with messages := copy.messages.insert record.id record }
  | setFlags ids flags =>
    { copy with
      messages := ids.foldl (fun messages id =>
        messages.modify id fun record => { record with flags }) copy.messages }
  | remove ids => { copy with messages := ids.foldl .erase copy.messages }
  | removeAll => { copy with messages := ∅ }
  | setNumber key value => { copy with numbers := copy.numbers.insert key value }

/-- What becomes of the message `id` when its folder sees an act. -/
def Act.onRecord (id : String) (record? : Option MessageRecord) : Act → Option MessageRecord
  | save record => if record.id = id then some record else record?
  | setFlags ids flags =>
    if id ∈ ids then record?.map fun record => { record with flags } else record?
  | remove ids => if id ∈ ids then none else record?
  | removeAll => none
  | look | readNumber _ | setNumber _ _ => record?

theorem Copy.state_setValidity (copy : Copy) (validity : UInt64) :
    ((Act.setNumber FolderState.validityKey validity.toInt64).on copy).state =
      { copy.state with validity := some validity } := by
  have keys : FolderState.validityKey ≠ FolderState.highestKey := by decide
  simp [Act.on, Copy.state, Std.ExtTreeMap.getElem?_insert, keys]

theorem Copy.state_setHighest (copy : Copy) (value : Int64) :
    ((Act.setNumber FolderState.highestKey value).on copy).state =
      { copy.state with highestUid := (max value 0).toUInt64 } := by
  have keys : FolderState.highestKey ≠ FolderState.validityKey := by decide
  simp [Act.on, Copy.state, Std.ExtTreeMap.getElem?_insert, keys]

/-! ## Entries -/

/-- What a call does to a store in memory, without the type of its answer. -/
inductive Entry where
  | create (folders : List FolderInfo)
  | inFolder (folder : String) (act : Act)
  deriving DecidableEq

def Entry.of {α : Type} : Call α → Entry
  | .createFolders folders => .create folders
  | .ids folder => .inFolder folder .look
  | .dates folder => .inFolder folder .look
  | .message folder _ => .inFolder folder .look
  | .flags folder _ => .inFolder folder .look
  | .save folder record => .inFolder folder (.save record)
  | .setFlags folder ids flags => .inFolder folder (.setFlags ids flags)
  | .remove folder ids => .inFolder folder (.remove ids)
  | .removeAll folder => .inFolder folder .removeAll
  | .number folder key => .inFolder folder (.readNumber key)
  | .setNumber folder key value => .inFolder folder (.setNumber key value)

def Entry.apply (store : Memory) : Entry → Memory
  | create folders => (Memory.answer (.createFolders folders) store).2
  | .inFolder _ .look | .inFolder _ (.readNumber _) => store
  | .inFolder folder (.save record) => (Memory.answer (.save folder record) store).2
  | .inFolder folder (.setFlags ids flags) => (Memory.answer (.setFlags folder ids flags) store).2
  | .inFolder folder (.remove ids) => (Memory.answer (.remove folder ids) store).2
  | .inFolder folder .removeAll => (Memory.answer (.removeAll folder) store).2
  | .inFolder folder (.setNumber key value) => (Memory.answer (.setNumber folder key value) store).2

theorem Memory.answer_snd {α : Type} (call : Call α) (store : Memory) :
    (answer call store).2 = (Entry.of call).apply store := by
  cases call <;> rfl

def Memory.replay (store : Memory) (entries : List Entry) : Memory :=
  entries.foldl Entry.apply store

/-! ## What an act does to one message -/

section Maps

variable {α : Type}

theorem getElem?_foldl_erase (ids : List String) (map : Std.ExtTreeMap String α) (id : String) :
    (ids.foldl .erase map)[id]? = if id ∈ ids then none else map[id]? := by
  induction ids generalizing map with
  | nil => simp
  | cons first rest ih =>
    rw [List.foldl_cons, ih, Std.ExtTreeMap.getElem?_erase]
    by_cases same : first = id
    · simp [same]
    · have other : id ≠ first := fun equal => same equal.symm
      simp [same, other]

/-- A change that makes no difference when it is made again is made to each value once. -/
theorem getElem?_foldl_modify {change : α → α}
    (again : ∀ value, change (change value) = change value) (ids : List String)
    (map : Std.ExtTreeMap String α) (id : String) :
    (ids.foldl (fun map id => map.modify id change) map)[id]? =
      if id ∈ ids then map[id]?.map change else map[id]? := by
  induction ids generalizing map with
  | nil => simp
  | cons first rest ih =>
    rw [List.foldl_cons, ih, Std.ExtTreeMap.getElem?_modify]
    by_cases same : first = id
    · subst same
      cases map[first]? <;> simp [again]
    · have other : id ≠ first := fun equal => same equal.symm
      simp [same, other]

end Maps

/-- What an act does to one message depends on that message alone. -/
theorem Act.getElem?_on (act : Act) (copy : Copy) (id : String) :
    (act.on copy).messages[id]? = act.onRecord id copy.messages[id]? := by
  cases act with
  | look => rfl
  | readNumber key => rfl
  | save record =>
    simp only [on, onRecord, Std.ExtTreeMap.getElem?_insert, Std.LawfulEqCmp.compare_eq_iff_eq]
  | setFlags ids flags =>
    exact @getElem?_foldl_modify _ (fun record => { record with flags }) (fun _ => rfl) ids
      copy.messages id
  | remove ids => exact getElem?_foldl_erase ids copy.messages id
  | removeAll => simp [on, onRecord]
  | setNumber key value => rfl

/-! ## What an entry does to a copy -/

theorem Memory.messages_eq_copy (store : Memory) (folder : String) :
    store.messages folder = (store.copy folder).messages := by
  unfold messages copy
  cases store.folders.get? folder with
  | none => rfl
  | some found => rfl

theorem Memory.number_eq_copy (store : Memory) (folder key : String) :
    store.number folder key = (store.copy folder).numbers[key]? := by
  unfold number copy
  cases store.folders.get? folder with
  | none => simp [Copy.empty]
  | some found => simp [MemoryFolder.copy]

theorem Memory.copy_create (store : Memory) (info : FolderInfo) (folder : String) :
    (store.create info).copy folder = store.copy folder := by
  simp only [create, copy, Std.ExtTreeMap.get?_eq_getElem?, Std.ExtTreeMap.getElem?_insertIfNew]
  split
  next fresh =>
    obtain ⟨same, absent⟩ := fresh
    obtain rfl := Std.LawfulEqCmp.eq_of_compare same
    have absent : store.folders[info.id]? = none := by simpa using absent
    rw [absent]
    rfl
  next => rfl

theorem Memory.copy_foldl_create (store : Memory) (infos : List FolderInfo) (folder : String) :
    (infos.foldl create store).copy folder = store.copy folder := by
  induction infos generalizing store with
  | nil => rfl
  | cons info infos ih => rw [List.foldl_cons, ih, copy_create]

/-- A folder that is written to comes into being where it does not exist. -/
theorem Memory.copy_write {change : MemoryFolder → MemoryFolder} {act : Act}
    (acts : ∀ found, (change found).copy = act.on found.copy) (store : Memory)
    (place folder : String) :
    (store.write place change).copy folder =
      if place = folder then act.on (store.copy folder) else store.copy folder := by
  simp only [write, copy, Std.ExtTreeMap.get?_eq_getElem?, Std.ExtTreeMap.getElem?_alter,
    Std.LawfulEqCmp.compare_eq_iff_eq]
  split
  next same =>
    subst same
    cases store.folders[place]? with
    | none => exact acts _
    | some found => exact acts found
  next => rfl

/-- A folder that does not exist stays so, which makes no difference to an act that leaves the empty
folder empty. -/
theorem Memory.copy_update {change : MemoryFolder → MemoryFolder} {act : Act}
    (acts : ∀ found, (change found).copy = act.on found.copy) (idle : act.on .empty = .empty)
    (store : Memory) (place folder : String) :
    (store.update place change).copy folder =
      if place = folder then act.on (store.copy folder) else store.copy folder := by
  simp only [update, copy, Std.ExtTreeMap.get?_eq_getElem?, Std.ExtTreeMap.getElem?_modify,
    Std.LawfulEqCmp.compare_eq_iff_eq]
  split
  next same =>
    subst same
    cases store.folders[place]? with
    -- The folder is not written, while its copy sees the act.
    | none => exact idle.symm
    | some found => exact acts found
  next => rfl

theorem MemoryFolder.copy_foldl_setFlags (ids : List String) (flags : FlagSet)
    (found : MemoryFolder) :
    (ids.foldl (setFlags flags) found).copy = (Act.setFlags ids flags).on found.copy := by
  induction ids generalizing found with
  | nil => rfl
  | cons id ids ih => rw [List.foldl_cons, ih]; rfl

theorem MemoryFolder.copy_foldl_remove (ids : List String) (found : MemoryFolder) :
    (ids.foldl remove found).copy = (Act.remove ids).on found.copy := by
  induction ids generalizing found with
  | nil => rfl
  | cons id ids ih => rw [List.foldl_cons, ih]; rfl

theorem Act.setFlags_empty (ids : List String) (flags : FlagSet) :
    (setFlags ids flags).on .empty = .empty := by
  refine Copy.ext (Std.ExtTreeMap.ext_getElem? fun id => ?_) rfl
  rw [getElem?_on]
  simp [onRecord, Copy.empty]

theorem Act.remove_empty (ids : List String) : (remove ids).on .empty = .empty := by
  refine Copy.ext (Std.ExtTreeMap.ext_getElem? fun id => ?_) rfl
  rw [getElem?_on]
  simp [onRecord, Copy.empty]

/-- An entry about a folder acts on its copy, and leaves the copy of any other as it is. -/
theorem Entry.copy_apply (store : Memory) (place folder : String) (act : Act) :
    ((inFolder place act).apply store).copy folder =
      if place = folder then act.on (store.copy folder) else store.copy folder := by
  cases act with
  | look => simp [apply, Act.on]
  | readNumber key => simp [apply, Act.on]
  | save record => exact Memory.copy_write (fun _ => rfl) store place folder
  | setFlags ids flags =>
    exact Memory.copy_update (MemoryFolder.copy_foldl_setFlags ids flags)
      (Act.setFlags_empty ids flags) store place folder
  | remove ids =>
    exact Memory.copy_update (MemoryFolder.copy_foldl_remove ids) (Act.remove_empty ids) store
      place folder
  | removeAll => exact Memory.copy_update (fun _ => rfl) rfl store place folder
  | setNumber key value => exact Memory.copy_write (fun _ => rfl) store place folder

theorem Entry.copy_create (store : Memory) (infos : List FolderInfo) (folder : String) :
    ((create infos).apply store).copy folder = store.copy folder :=
  Memory.copy_foldl_create store infos folder

end MailReplica.Store
