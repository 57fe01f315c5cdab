import MailReplica.Proofs.Flag.Stored
import MailReplica.Proofs.Store.Journal
import MailReplica.Store.Table

/-! # The two stores are alike

The store in tables keeps texts where the store in memory keeps flags, and whole seconds where it
keeps instants.  A set of flags is read back from its stored text as it was
(`FlagSet.ofStored_stored`), whatever its keywords are made of.  An entry of the journal acts on the
row of a message as it acts on the message (`Act.onRow_map`), so the tables mirror the memory after
any calls (`Mirrors.step`), and stores that mirror each other answer a call alike
(`Mirrors.answer`).
-/

namespace MailReplica

namespace Store

/-! ## What an entry does to a row -/

/-- What an entry does to a folder. -/
def Entry.on (folder : String) : Entry → Act
  | create _ => .look
  | inFolder place act => if place = folder then act else .look

namespace Act

/-- What becomes of the row of the message `id` when its folder sees an act. -/
def onRow (id : String) (row? : Option MessageRow) : Act → Option MessageRow
  | save record => if record.id = id then some (.ofRecord record) else row?
  | setFlags ids flags =>
    if id ∈ ids then row?.map fun row => { row with flags := flags.stored } else row?
  | remove ids => if id ∈ ids then none else row?
  | removeAll => none
  | look | readNumber _ | setNumber _ _ => row?

/-- What becomes of the number with a key when its folder sees an act. -/
def onNumber (key : String) (value? : Option Int64) : Act → Option Int64
  | setNumber own value => if own = key then some value else value?
  | _ => value?

theorem onRow_map (act : Act) (id : String) (record? : Option MessageRecord) :
    act.onRow id (record?.map MessageRow.ofRecord) =
      (act.onRecord id record?).map MessageRow.ofRecord := by
  cases act with
  | save record =>
    simp only [onRow, onRecord]
    split <;> rfl
  | setFlags ids flags =>
    simp only [onRow, onRecord]
    split
    · rw [Option.map_map, Option.map_map]
      rfl
    · rfl
  | remove ids =>
    simp only [onRow, onRecord]
    split <;> rfl
  | _ => rfl

theorem getElem?_numbers_on (act : Act) (copy : Copy) (key : String) :
    (act.on copy).numbers[key]? = act.onNumber key copy.numbers[key]? := by
  cases act with
  | setNumber own value =>
    simp only [on, onNumber, Std.ExtTreeMap.getElem?_insert, Std.LawfulEqCmp.compare_eq_iff_eq]
  | _ => rfl

/-- A message that is kept under its own name is kept so. -/
theorem id_onRecord {act : Act} {id : String} {record? : Option MessageRecord}
    (named : ∀ record ∈ record?, record.id = id) :
    ∀ record ∈ act.onRecord id record?, record.id = id := by
  cases act with
  | save record =>
    simp only [onRecord]
    split
    next own => exact fun _ same => Option.mem_some.1 same ▸ own
    next => exact named
  | setFlags ids flags =>
    simp only [onRecord]
    split
    · intro record member
      obtain ⟨before, held, rfl⟩ := Option.mem_map.1 member
      exact named before held
    · exact named
  | remove ids =>
    simp only [onRecord]
    split
    · rintro _ ⟨⟩
    · exact named
  | removeAll => rintro _ ⟨⟩
  | look | readNumber _ | setNumber _ _ => exact named

end Act

theorem Entry.copy_apply_on (store : Memory) (entry : Entry) (folder : String) :
    (entry.apply store).copy folder = (entry.on folder).on (store.copy folder) := by
  cases entry with
  | create infos => exact copy_create store infos folder
  | inFolder place act =>
    rw [copy_apply, on]
    split <;> rfl

/-! ## What a call does to the tables -/

namespace Tables

/-- The number of a folder with a key. -/
def number (tables : Tables) (folder key : String) : Option Int64 :=
  (tables.numbers.get? folder).bind (·.get? key)

variable {α : Type} (tables : Tables) (folders : List FolderInfo) (place folder id : String)

theorem messages_foldl_create : (folders.foldl create tables).messages = tables.messages := by
  induction folders generalizing tables with
  | nil => rfl
  | cons info folders ih => exact ih _

theorem numbers_foldl_create : (folders.foldl create tables).numbers = tables.numbers := by
  induction folders generalizing tables with
  | nil => rfl
  | cons info folders ih => exact ih _

theorem rows_insertRow (row : MessageRow) :
    (tables.insertRow place id row).rows folder =
      if place = folder then (tables.rows folder).insert id row else tables.rows folder := by
  simp only [insertRow, rows, Std.ExtTreeMap.get?_eq_getElem?, Std.ExtTreeMap.getElem?_alter,
    Std.LawfulEqCmp.compare_eq_iff_eq]
  split
  next same => subst same; rfl
  next => rfl

theorem rows_updateRow (change : MessageRow → MessageRow) :
    (tables.updateRow place id change).rows folder =
      if place = folder then (tables.rows folder).modify id change else tables.rows folder := by
  simp only [updateRow, rows, Std.ExtTreeMap.get?_eq_getElem?, Std.ExtTreeMap.getElem?_modify,
    Std.LawfulEqCmp.compare_eq_iff_eq]
  split
  next same =>
    subst same
    cases tables.messages[place]? with
    | none => exact Std.ExtTreeMap.ext_getElem? fun id => by simp [Std.ExtTreeMap.getElem?_modify]
    | some found => rfl
  next => rfl

theorem rows_deleteRow :
    (tables.deleteRow place id).rows folder =
      if place = folder then (tables.rows folder).erase id else tables.rows folder := by
  simp only [deleteRow, rows, Std.ExtTreeMap.get?_eq_getElem?, Std.ExtTreeMap.getElem?_modify,
    Std.LawfulEqCmp.compare_eq_iff_eq]
  split
  next same =>
    subst same
    cases tables.messages[place]? with
    | none => exact Std.ExtTreeMap.ext_getElem? fun id => by simp
    | some found => rfl
  next => rfl

theorem rows_foldl_updateRow (ids : List String) (change : MessageRow → MessageRow) :
    (ids.foldl (fun tables id => tables.updateRow place id change) tables).rows folder =
      if place = folder then ids.foldl (fun rows id => rows.modify id change) (tables.rows folder)
      else tables.rows folder := by
  induction ids generalizing tables with
  | nil => exact (ite_self _).symm
  | cons id ids ih =>
    rw [List.foldl_cons, ih, rows_updateRow, List.foldl_cons]
    split <;> rfl

theorem rows_foldl_deleteRow (ids : List String) :
    (ids.foldl (fun tables id => tables.deleteRow place id) tables).rows folder =
      if place = folder then ids.foldl .erase (tables.rows folder) else tables.rows folder := by
  induction ids generalizing tables with
  | nil => exact (ite_self _).symm
  | cons id ids ih =>
    rw [List.foldl_cons, ih, rows_deleteRow, List.foldl_cons]
    split <;> rfl

theorem numbers_foldl_updateRow (ids : List String) (change : MessageRow → MessageRow) :
    (ids.foldl (fun tables id => tables.updateRow place id change) tables).numbers =
      tables.numbers := by
  induction ids generalizing tables with
  | nil => rfl
  | cons id ids ih => exact ih _

theorem numbers_foldl_deleteRow (ids : List String) :
    (ids.foldl (fun tables id => tables.deleteRow place id) tables).numbers = tables.numbers := by
  induction ids generalizing tables with
  | nil => rfl
  | cons id ids ih => exact ih _

/-- A call acts on the rows as its entry in the journal does. -/
theorem getElem?_rows_answer (call : Call α) :
    ((answer call tables).2.rows folder)[id]? =
      ((Entry.of call).on folder).onRow id (tables.rows folder)[id]? := by
  cases call with
  | createFolders folders =>
    show ((folders.foldl create tables).rows folder)[id]? = _
    rw [rows, messages_foldl_create]
    rfl
  | message place own | flags place own =>
    simp only [answer, Entry.of, Entry.on, ite_self]
    split <;> rfl
  | save place record =>
    simp only [answer, rows_insertRow, Entry.of, Entry.on]
    split
    · simp only [Act.onRow, Std.ExtTreeMap.getElem?_insert, Std.LawfulEqCmp.compare_eq_iff_eq]
    · rfl
  | setFlags place ids flags =>
    simp only [answer, rows_foldl_updateRow, Entry.of, Entry.on]
    split
    · exact @getElem?_foldl_modify _ (fun row => { row with flags := flags.stored })
        (fun _ => rfl) ids (tables.rows folder) id
    · rfl
  | remove place ids =>
    simp only [answer, rows_foldl_deleteRow, Entry.of, Entry.on]
    split
    · exact getElem?_foldl_erase ids _ id
    · rfl
  | removeAll place =>
    simp only [answer, rows, Std.ExtTreeMap.get?_eq_getElem?, Std.ExtTreeMap.getElem?_erase,
      Std.LawfulEqCmp.compare_eq_iff_eq, Entry.of, Entry.on]
    split
    · exact Std.ExtTreeMap.getElem?_empty
    · rfl
  | ids place | dates place | number place key | setNumber place key value =>
    simp only [Entry.of, Entry.on]
    split <;> rfl

theorem number_answer (call : Call α) (key : String) :
    (answer call tables).2.number folder key =
      ((Entry.of call).on folder).onNumber key (tables.number folder key) := by
  cases call with
  | createFolders folders =>
    show (folders.foldl create tables).number folder key = _
    rw [number, numbers_foldl_create]
    rfl
  | message place own | flags place own =>
    simp only [answer, Entry.of, Entry.on, ite_self]
    split <;> rfl
  | setFlags place ids flags =>
    simp only [answer, number, numbers_foldl_updateRow, Entry.of, Entry.on]
    split <;> rfl
  | remove place ids =>
    simp only [answer, number, numbers_foldl_deleteRow, Entry.of, Entry.on]
    split <;> rfl
  | setNumber place own value =>
    simp only [answer, number, Std.ExtTreeMap.get?_eq_getElem?, Std.ExtTreeMap.getElem?_alter,
      Std.LawfulEqCmp.compare_eq_iff_eq, Entry.of, Entry.on]
    split
    next same =>
      subst same
      cases tables.numbers[place]? <;>
        simp [Act.onNumber, Std.ExtTreeMap.getElem?_insert]
    next => rfl
  | ids place | dates place | number place own | save place record | removeAll place =>
    simp only [Entry.of, Entry.on]
    split <;> rfl

end Tables

/-! ## Tables that mirror a store in memory -/

/-- What the tables say of each message and each number is what the store in memory holds. -/
structure Mirrors (tables : Tables) (memory : Memory) : Prop where
  row : ∀ folder id : String,
    (tables.rows folder)[id]? = (memory.copy folder).messages[id]?.map MessageRow.ofRecord
  /-- Messages are kept under their own names. -/
  named : ∀ folder id : String, ∀ record ∈ (memory.copy folder).messages[id]?, record.id = id
  number : ∀ folder key : String, tables.number folder key = (memory.copy folder).numbers[key]?

/-- A call of any type. -/
abbrev AnyCall := (α : Type) × Call α

/-- The state of a store after some calls. -/
def Handler.after {σ : Type} (store : Handler σ) (calls : List AnyCall) (start : σ) : σ :=
  calls.foldl (fun state call => (store.run call.2 state).2) start

/-- An answer with its dates in whole seconds. -/
def Call.inSeconds : {α : Type} → Call α → α → α
  | _, .dates _, found => found.map fun _ date => date.map Instant.floor
  | _, .message _ _, record? =>
    record?.map fun record => { record with date := record.date.map Instant.floor }
  | _, _, answer => answer

namespace Mirrors

variable {tables : Tables} {memory : Memory} {α : Type}

theorem empty : Mirrors .empty .empty where
  row _ _ := by simp [Tables.rows, Tables.empty, Memory.copy, Memory.empty, Copy.empty]
  named _ _ := by simp [Memory.copy, Memory.empty, Copy.empty]
  number _ _ := by simp [Tables.number, Tables.empty, Memory.copy, Memory.empty, Copy.empty]

theorem step (mirrors : Mirrors tables memory) (call : Call α) :
    Mirrors (Tables.answer call tables).2 (Memory.answer call memory).2 where
  row folder id := by
    rw [Tables.getElem?_rows_answer, mirrors.row, Act.onRow_map, Memory.answer_snd,
      Entry.copy_apply_on, Act.getElem?_on]
  named folder id := by
    rw [Memory.answer_snd, Entry.copy_apply_on, Act.getElem?_on]
    exact Act.id_onRecord (mirrors.named folder id)
  number folder key := by
    rw [Tables.number_answer, mirrors.number, Memory.answer_snd, Entry.copy_apply_on,
      Act.getElem?_numbers_on]

theorem after (calls : List AnyCall) (mirrors : Mirrors tables memory) :
    Mirrors (Tables.handler.after calls tables) (Memory.handler.after calls memory) := by
  induction calls generalizing tables memory with
  | nil => exact mirrors
  | cons call calls ih => exact ih (mirrors.step call.2)

theorem rows_eq (mirrors : Mirrors tables memory) (folder : String) :
    tables.rows folder = (memory.messages folder).map fun _ record => .ofRecord record := by
  refine Std.ExtTreeMap.ext_getElem? fun id => ?_
  rw [mirrors.row, Memory.messages_eq_copy, Std.ExtTreeMap.getElem?_map]

/-- A row is read as the record that it was made of, with its date in whole seconds. -/
theorem record_ofRecord (record : MessageRecord) (folder : String) :
    (MessageRow.ofRecord record).record folder record.id =
      .ok { record with date := record.date.map Instant.floor } := by
  simp only [MessageRow.record, MessageRow.ofRecord, FlagSet.ofStored_stored,
    DownloadState.ofText_text, MessageRow.instant?, Option.map_map]
  rfl

theorem answer (mirrors : Mirrors tables memory) (call : Call α) :
    (Tables.answer call tables).1 = .ok (call.inSeconds (Memory.answer call memory).1) := by
  cases call with
  | ids folder =>
    simp only [Tables.answer, Memory.answer, Call.inSeconds, mirrors.rows_eq,
      Std.ExtTreeMap.keys_map]
  | dates folder =>
    simp only [Tables.answer, Memory.answer, Call.inSeconds, mirrors.rows_eq]
    refine congrArg Except.ok (Std.ExtTreeMap.ext_getElem? fun id => ?_)
    simp only [Std.ExtTreeMap.getElem?_map, Option.map_map]
    refine congrArg (Option.map · _) (funext fun record => ?_)
    exact Option.map_map ..
  | message folder id =>
    have row := mirrors.row folder id
    have named := mirrors.named folder id
    simp only [Tables.answer, Memory.answer, Call.inSeconds, Std.ExtTreeMap.get?_eq_getElem?, row,
      Memory.messages_eq_copy]
    cases held : (memory.copy folder).messages[id]? with
    | none => rfl
    | some record =>
      obtain rfl := named record held
      show Except.map some ((MessageRow.ofRecord record).record folder record.id) = _
      rw [record_ofRecord]
      rfl
  | flags folder id =>
    simp only [Tables.answer, Memory.answer, Call.inSeconds, Std.ExtTreeMap.get?_eq_getElem?,
      mirrors.row, Memory.messages_eq_copy]
    cases (memory.copy folder).messages[id]? with
    | none => rfl
    | some record =>
      show Except.map some ((FlagSet.ofStored record.flags.stored).mapError _) = _
      rw [FlagSet.ofStored_stored]
      rfl
  | number folder key =>
    have number := mirrors.number folder key
    rw [← Memory.number_eq_copy] at number
    exact congrArg Except.ok number
  | createFolders | save | setFlags | remove | removeAll | setNumber => rfl

end Mirrors

/-- After any calls on both stores, the store in tables answers each call as the store in memory
does, with dates in whole seconds, and neither fails. -/
theorem answers_alike (calls : List AnyCall) {α : Type} (call : Call α) :
    ∃ answer, (Memory.handler.run call (Memory.handler.after calls .empty)).1 = .ok answer ∧
      (Tables.handler.run call (Tables.handler.after calls .empty)).1 =
        .ok (call.inSeconds answer) :=
  ⟨_, rfl, (Mirrors.empty.after calls).answer call⟩

end Store

end MailReplica
