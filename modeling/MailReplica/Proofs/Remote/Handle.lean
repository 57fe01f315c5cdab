import MailReplica.Proofs.Work
import MailReplica.Remote.Folder

/-! # How a handle works

A call goes to the server in a session, and nowhere without one (`call_apply`).  Opening begins a
session if there is none (`openAs_apply`), and then remembers what the server tells of the folder
(`select_apply`).  Closing leaves the number of the numbering as it is (`close_apply`).
-/

namespace MailReplica.Remote.Folder

variable {ε α : Type} {server : MailServer ε} {folder : Folder} {session : ε}

theorem call_apply (server : MailServer ε) (request : SessionCall α) (before : Folder × ε) :
    call server request before =
      if before.1.inSession = true then
        ((server.run request before.2).1.mapError SessionFailure.toFailure,
          before.1, (server.run request before.2).2)
      else (.error before.1.notOpen, before) := by
  change (if before.1.inSession = true then _ else _ : FolderWork ε α) before = _
  split <;> rfl

theorem call_of_ok {request : SessionCall α} {after : ε} {value : α}
    (opened : folder.inSession = true)
    (answered : server.run request session = (.ok value, after)) :
    call server request (folder, session) = (.ok value, folder, after) := by
  rw [call_apply, if_pos opened, answered]
  rfl

theorem call_ok {request : SessionCall α} {before after : Folder × ε} {value : α}
    (ran : call server request before = (.ok value, after)) :
    ∃ next, server.run request before.2 = (.ok value, next) ∧ after = (before.1, next) := by
  rw [call_apply] at ran
  split at ran
  · match answered : server.run request before.2 with
    | (.ok told, next) =>
      rw [answered] at ran
      cases ran
      exact ⟨next, rfl, rfl⟩
    | (.error failure, next) =>
      rw [answered] at ran
      cases ran
  · cases ran

theorem logIn_apply (server : MailServer ε) (folder : Folder) (session : ε) :
    logIn server (folder, session) =
      match server.logIn folder.settings session with
      | (.ok (), after) => (.ok (), { folder with inSession := true }, after)
      | (.error failure, after) => (.error failure, folder, after) := by
  change ((server.logIn folder.settings session).1 >>= _ : FolderWork ε Unit)
    (folder, (server.logIn folder.settings session).2) = _
  match server.logIn folder.settings session with
  | (.ok (), after) => rfl
  | (.error failure, after) => rfl

theorem logIn_ok {after : Folder × ε} (ran : logIn server (folder, session) = (.ok (), after)) :
    after.1 = { folder with inSession := true } := by
  rw [logIn_apply] at ran
  split at ran
  · cases ran
    rfl
  · cases ran

/-- Opens the folder in the session at hand. -/
def select (server : MailServer ε) (mode : OpenMode) : FolderWork ε Unit := do
  let selected ← call server (.select mode (← handle).id)
  change fun folder =>
    { folder with mode := some mode, count? := some selected.count, validity? := selected.validity }

theorem select_apply (mode : OpenMode) (inSession : folder.inSession = true) :
    select server mode (folder, session) =
      match server.run (.select mode folder.id) session with
      | (.ok told, after) =>
        (.ok (), { folder with
          mode := some mode, count? := some told.count, validity? := told.validity }, after)
      | (.error failure, after) => (.error failure.toFailure, folder, after) := by
  have got : handle (folder, session) = (.ok folder, folder, session) := rfl
  rw [select, bind_of_ok got, bind_apply, call_apply, if_pos inSession]
  match server.run (.select mode folder.id) session with
  | (.ok told, after) => rfl
  | (.error failure, after) => rfl

theorem openAs_apply (server : MailServer ε) (mode : OpenMode) (folder : Folder) (session : ε) :
    openAs server mode (folder, session) =
      if folder.inSession = true then select server mode (folder, session)
      else (logIn server >>= fun _ => select server mode) (folder, session) := by
  change (if folder.inSession = true then select server mode
    else logIn server >>= fun _ => select server mode) (folder, session) = _
  split <;> rfl

theorem select_ok {mode : OpenMode} {before after : Folder × ε}
    (inSession : before.1.inSession = true)
    (ran : select server mode before = (.ok (), after)) :
    ∃ told, server.run (.select mode before.1.id) before.2 = (.ok told, after.2) ∧
      after.1.count? = some told.count := by
  rw [select_apply mode inSession] at ran
  match answered : server.run (.select mode before.1.id) before.2 with
  | (.ok told, later) =>
    rw [answered] at ran
    cases ran
    exact ⟨told, rfl, rfl⟩
  | (.error failure, later) =>
    rw [answered] at ran
    cases ran

theorem openAs_ok {mode : OpenMode} {after : Folder × ε}
    (ran : openAs server mode (folder, session) = (.ok (), after)) :
    ∃ before told, server.run (.select mode folder.id) before = (.ok told, after.2) ∧
      after.1.count? = some told.count := by
  rw [openAs_apply] at ran
  split at ran
  next inSession => exact ⟨session, select_ok inSession ran⟩
  next =>
    obtain ⟨_, ⟨begun, before⟩, began, ran⟩ := bind_ok ran
    obtain rfl := logIn_ok began
    exact ⟨before, select_ok rfl ran⟩

theorem close_apply (server : MailServer ε) (folder : Folder) (session : ε) :
    close server (folder, session) =
      (.ok (), { folder with inSession := false, mode := none, count? := none },
        if folder.inSession = true then (server.run .logOut session).2 else session) := by
  change (if folder.inSession = true then _ else _ : FolderWork ε Unit) (folder, session) = _
  split <;> rfl

/-! ## Without a session -/

theorem call_of_not_inSession (request : SessionCall α) (without : folder.inSession = false) :
    call server request (folder, session) = (.error folder.notOpen, folder, session) := by
  rw [call_apply, without]
  rfl

/-- Without a session only an empty range can be listed, and no call is made. -/
theorem list_of_not_inSession (first last : UInt32) (cutoff : Option DatedInstant)
    (without : folder.inSession = false) :
    list server first last cutoff (folder, session) =
      (if first = 0 ∨ last < first then .ok [] else .error folder.notOpen, folder, session) := by
  unfold list
  split
  · rfl
  · cases cutoff with
    | none => exact bind_of_error (call_of_not_inSession _ without)
    | some cutoff => exact bind_of_error (call_of_not_inSession _ without)

theorem fetch_of_not_inSession (uid : UInt32) (extent : FetchExtent)
    (without : folder.inSession = false) :
    fetch server uid extent (folder, session) = (.error folder.notOpen, folder, session) :=
  bind_of_error (call_of_not_inSession _ without)

end MailReplica.Remote.Folder
