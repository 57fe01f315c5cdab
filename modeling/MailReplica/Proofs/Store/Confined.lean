import MailReplica.Store.Memory
import MailReplica.Store.Table

/-! # Stores that keep folders apart

Of each folder a store holds a part.  A store is confined if a call about one folder is answered by
that folder's part alone and leaves the parts of all others as they are (`Confined`).  Both stores
are (`Memory.confined`, `Tables.confined`), and they stay so when calls fail for reasons that lie in
the call (`Confined.failing`).
-/

namespace MailReplica.Store

variable {σ κ α : Type}

/-! ## Calls about one folder -/

/-- A call with `folder` in the place of the folder that it is about. -/
def Call.inFolder (folder : String) (call : Call α) : Call α :=
  match call with
  | .createFolders _ => .createFolders [⟨folder, folder⟩]
  | .ids _ => .ids folder
  | .dates _ => .dates folder
  | .message _ name => .message folder name
  | .flags _ name => .flags folder name
  | .save _ record => .save folder record
  | .setFlags _ named set => .setFlags folder named set
  | .remove _ named => .remove folder named
  | .removeAll _ => .removeAll folder
  | .number _ key => .number folder key
  | .setNumber _ key value => .setNumber folder key value

/-- A store of which each call that meets a fault fails, and does not reach the store.  What fails
lies in the call, and so in its folder and its arguments. -/
def Handler.failing (store : Handler σ) (faults : {α : Type} → Call α → Option Failure) :
    Handler σ where
  run call state :=
    match faults call with
    | some failure => (.error failure, state)
    | none => store.run call state

/-! ## Parts -/

/-- A change of a store that stays within one folder. -/
structure Within (part : String → σ → κ) (folder : String) (change : σ → σ) : Prop where
  own : ∀ {left right}, part folder left = part folder right →
    part folder (change left) = part folder (change right)
  others : ∀ {other}, other ≠ folder → ∀ state, part other (change state) = part other state

/-- A store that keeps folders apart. -/
structure Confined (store : Handler σ) (part : String → σ → κ) : Prop where
  answer : ∀ (folder : String) {α : Type} (call : Call α) {left right : σ},
    part folder left = part folder right →
      (store.run (call.inFolder folder) left).1 = (store.run (call.inFolder folder) right).1
  within : ∀ (folder : String) {α : Type} (call : Call α),
    Within part folder fun state => (store.run (call.inFolder folder) state).2
  /-- The parts are all that there is. -/
  whole : ∀ {left right : σ}, (∀ folder, part folder left = part folder right) → left = right

section Within

variable {part : String → σ → κ} {folder : String}

theorem Within.of_idle {change : σ → σ} (idle : ∀ state, change state = state) :
    Within part folder change := by
  obtain rfl : change = id := funext idle
  exact ⟨id, fun _ _ => rfl⟩

theorem Within.foldl {ι : Type} {change : σ → ι → σ}
    (each : ∀ item, Within part folder fun state => change state item) (items : List ι) :
    Within part folder fun state => items.foldl change state := by
  induction items with
  | nil => exact .of_idle fun _ => rfl
  | cons item rest ih =>
    refine ⟨fun same => ih.own ((each item).own same), fun apart state => ?_⟩
    exact (ih.others apart (change state item)).trans ((each item).others apart state)

end Within

theorem Confined.failing {store : Handler σ} {part : String → σ → κ}
    (confined : Confined store part) (faults : {α : Type} → Call α → Option Failure) :
    Confined (store.failing faults) part where
  answer folder _ call _ _ same := by
    simp only [Handler.failing]
    cases faults (call.inFolder folder) with
    | some failure => rfl
    | none => exact confined.answer folder call same
  within folder _ call := by
    simp only [Handler.failing]
    cases faults (call.inFolder folder) with
    | some failure => exact .of_idle fun _ => rfl
    | none => exact confined.within folder call
  whole := confined.whole

/-! ## The store in memory -/

namespace Memory

/-- What a store in memory holds under a folder's id. -/
def part (folder : String) (store : Memory) : Option MemoryFolder :=
  store.folders[folder]?

variable (folder : String)

theorem part_create (store : Memory) (info : FolderInfo) :
    (store.create info).part folder =
      if info.id = folder ∧ store.part folder = none then some (.empty info.name)
      else store.part folder := by
  simp only [create, part, Std.ExtTreeMap.getElem?_insertIfNew, Std.LawfulEqCmp.compare_eq_iff_eq]
  by_cases same : info.id = folder
  · subst same
    simp
  · simp [same]

theorem within_create : Within part folder fun store => store.create ⟨folder, folder⟩ := by
  constructor
  case own =>
    intro left right same
    simp only [part_create, same]
  case others =>
    intro other apart store
    rw [part_create, if_neg fun fresh => apart fresh.1.symm]

theorem within_write (change : MemoryFolder → MemoryFolder) :
    Within part folder fun store => store.write folder change := by
  constructor
  case own =>
    intro left right same
    unfold part at same
    simp only [part, write, Std.ExtTreeMap.getElem?_alter_self, same]
  case others =>
    intro other apart store
    simp only [part, write, Std.ExtTreeMap.getElem?_alter, Std.LawfulEqCmp.compare_eq_iff_eq,
      if_neg apart.symm]

theorem within_update (change : MemoryFolder → MemoryFolder) :
    Within part folder fun store => store.update folder change := by
  constructor
  case own =>
    intro left right same
    unfold part at same
    simp only [part, update, Std.ExtTreeMap.getElem?_modify_self, same]
  case others =>
    intro other apart store
    simp only [part, update, Std.ExtTreeMap.getElem?_modify, Std.LawfulEqCmp.compare_eq_iff_eq,
      if_neg apart.symm]

theorem messages_eq_part (store : Memory) :
    store.messages folder = ((store.part folder).map MemoryFolder.messages).getD ∅ := rfl

theorem number_eq_part (store : Memory) (key : String) :
    store.number folder key = (store.part folder).bind (·.numbers.get? key) := rfl

theorem confined : Confined handler part where
  answer folder _ call left right same := by
    cases call <;>
      simp only [handler, Call.inFolder, answer, messages_eq_part, number_eq_part, same]
  within folder _ call := by
    cases call with
    | createFolders => exact within_create folder
    | save _ record =>
      exact within_write folder fun found =>
        { found with messages := found.messages.insert record.id record }
    | setNumber _ key value =>
      exact within_write folder fun found =>
        { found with numbers := found.numbers.insert key value }
    | setFlags _ ids flags => exact within_update folder _
    | remove _ ids => exact within_update folder _
    | removeAll => exact within_update folder _
    | ids | dates | message | flags | number => exact .of_idle fun _ => rfl
  whole same := by
    refine congrArg Memory.mk (Std.ExtTreeMap.ext_getElem? ?_)
    exact same

end Memory

/-! ## The store in tables -/

section Maps

variable {β : Type} (map : Std.ExtTreeMap String β) (key : String)

theorem modify_eq_alter (change : β → β) :
    map.modify key change = map.alter key (Option.map change) := by
  refine Std.ExtTreeMap.ext_getElem? fun other => ?_
  rw [Std.ExtTreeMap.getElem?_modify, Std.ExtTreeMap.getElem?_alter]

theorem erase_eq_alter : map.erase key = map.alter key fun _ => none := by
  refine Std.ExtTreeMap.ext_getElem? fun other => ?_
  rw [Std.ExtTreeMap.getElem?_erase, Std.ExtTreeMap.getElem?_alter]

end Maps

/-- What tables hold under a folder's id. -/
structure TablesPart where
  name : Option String
  rows : Option (Std.ExtTreeMap String MessageRow)
  numbers : Option (Std.ExtTreeMap String Int64)

namespace Tables

def part (folder : String) (tables : Tables) : TablesPart :=
  ⟨tables.folders[folder]?, tables.messages[folder]?, tables.numbers[folder]?⟩

variable (folder : String)

theorem within_create : Within part folder fun tables => tables.create ⟨folder, folder⟩ := by
  constructor
  case own =>
    intro left right same
    simp only [part, TablesPart.mk.injEq] at same
    simp only [part, create, Std.ExtTreeMap.getElem?_insertIfNew,
      Std.ExtTreeMap.mem_iff_isSome_getElem?, same]
  case others =>
    intro other apart tables
    simp only [part, create, Std.ExtTreeMap.getElem?_insertIfNew,
      Std.LawfulEqCmp.compare_eq_iff_eq, apart.symm, false_and, if_false]

/-- Rows of messages are changed within their folder. -/
theorem within_messages
    (change : Option (Std.ExtTreeMap String MessageRow) →
      Option (Std.ExtTreeMap String MessageRow)) :
    Within part folder fun tables =>
      { tables with messages := tables.messages.alter folder change } := by
  constructor
  case own =>
    intro left right same
    simp only [part, TablesPart.mk.injEq] at same
    simp only [part, Std.ExtTreeMap.getElem?_alter_self, same]
  case others =>
    intro other apart tables
    simp only [part, Std.ExtTreeMap.getElem?_alter, Std.LawfulEqCmp.compare_eq_iff_eq,
      if_neg apart.symm]

theorem within_numbers
    (change : Option (Std.ExtTreeMap String Int64) → Option (Std.ExtTreeMap String Int64)) :
    Within part folder fun tables =>
      { tables with numbers := tables.numbers.alter folder change } := by
  constructor
  case own =>
    intro left right same
    simp only [part, TablesPart.mk.injEq] at same
    simp only [part, Std.ExtTreeMap.getElem?_alter_self, same]
  case others =>
    intro other apart tables
    simp only [part, Std.ExtTreeMap.getElem?_alter, Std.LawfulEqCmp.compare_eq_iff_eq,
      if_neg apart.symm]

theorem answer_message (id : String) (tables : Tables) :
    (answer (.message folder id) tables).2 = tables := by
  simp only [answer]
  split <;> rfl

theorem answer_flags (id : String) (tables : Tables) :
    (answer (.flags folder id) tables).2 = tables := by
  simp only [answer]
  split <;> rfl

theorem confined : Confined handler part where
  answer folder _ call left right same := by
    simp only [part, TablesPart.mk.injEq] at same
    cases call with
    | ids | dates | message | flags | number =>
      simp only [handler, Call.inFolder, answer, rows, Std.ExtTreeMap.get?_eq_getElem?, same]
      try (split <;> rfl)
    | _ => rfl
  within folder _ call := by
    cases call with
    | createFolders => exact within_create folder
    | save _ record => exact within_messages folder _
    | setFlags _ ids flags =>
      refine .foldl (fun id => ?_) ids
      simp only [updateRow, modify_eq_alter]
      exact within_messages folder _
    | remove _ ids =>
      refine .foldl (fun id => ?_) ids
      simp only [deleteRow, modify_eq_alter]
      exact within_messages folder _
    | removeAll =>
      simp only [handler, Call.inFolder, answer, erase_eq_alter]
      exact within_messages folder _
    | setNumber _ key value => exact within_numbers folder _
    | message _ id => exact .of_idle (answer_message folder id)
    | flags _ id => exact .of_idle (answer_flags folder id)
    | ids | dates | number => exact .of_idle fun _ => rfl
  whole := by
    intro left right same
    obtain ⟨folders, messages, numbers⟩ := left
    obtain ⟨folders', messages', numbers'⟩ := right
    simp only [part, TablesPart.mk.injEq] at same
    obtain rfl : folders = folders' := Std.ExtTreeMap.ext_getElem? fun folder => (same folder).1
    obtain rfl : messages = messages' :=
      Std.ExtTreeMap.ext_getElem? fun folder => (same folder).2.1
    obtain rfl : numbers = numbers' :=
      Std.ExtTreeMap.ext_getElem? fun folder => (same folder).2.2
    rfl

end Tables

end MailReplica.Store
