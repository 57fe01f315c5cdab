import MailReplica.Proofs.Remote.Handle

/-! # What a handle remembers

What a handle reports is told by what happened to it: by the log-ins and the openings that succeeded
and by the closings (`openAs_records`).  Each use of a handle keeps what it remembers in step with
that (`Remembers.step`), so it is in step after any uses of it (`remembers_afterUses`).  The number
of messages is the one of the opening that stands; the number of the numbering is the one of the
last opening, which a closing does not take back (`handle_reports`).
-/

namespace MailReplica.Remote

variable {ε : Type}

/-! ## What happened to a handle -/

/-- What happens to a handle. -/
inductive Event where
  | loggedIn
  /-- The server opened the folder, and told this of it. -/
  | opened (mode : OpenMode) (told : Selected)
  | closed
  deriving DecidableEq

/-- The opening that stands: the last one since the handle was closed.  Events are latest first. -/
def standing : List Event → Option (OpenMode × Selected)
  | [] | .closed :: _ => none
  | .opened mode told :: _ => some (mode, told)
  | .loggedIn :: earlier => standing earlier

/-- What the server told at the last opening. -/
def lastTold : List Event → Option Selected
  | [] => none
  | .opened _ told :: _ => some told
  | .closed :: earlier | .loggedIn :: earlier => lastTold earlier

/-- Whether a log-in succeeded since the handle was closed. -/
def begun : List Event → Bool
  | [] | .closed :: _ => false
  | .loggedIn :: _ => true
  | .opened _ _ :: earlier => begun earlier

theorem lastTold_of_standing {events : List Event} {mode : OpenMode} {told : Selected}
    (stands : standing events = some (mode, told)) : lastTold events = some told := by
  induction events with
  | nil => cases stands
  | cons event earlier ih =>
    cases event with
    | loggedIn => exact ih stands
    | opened mode' told' =>
      cases stands
      rfl
    | closed => cases stands

/-! ## Recording -/

namespace MailServer

/-- The event that the answer to a call makes. -/
def event? {α : Type} : SessionCall α → Except SessionFailure α → Option Event
  | .select mode _, .ok told => some (.opened mode told)
  | _, _ => none

/-- The server with a record of what happens, latest first. -/
def recorded (server : MailServer ε) : MailServer (ε × List Event) where
  logIn settings := fun (state, events) =>
    let (result, later) := server.logIn settings state
    (result, later, (result.toOption.map fun _ => .loggedIn).toList ++ events)
  run request := fun (state, events) =>
    let (result, later) := server.run request state
    (result, later, (event? request result).toList ++ events)

theorem recorded_logIn (server : MailServer ε) (settings : ServerSettings) (state : ε)
    (events : List Event) :
    server.recorded.logIn settings (state, events) =
      match server.logIn settings state with
      | (.ok (), later) => (.ok (), later, .loggedIn :: events)
      | (.error failure, later) => (.error failure, later, events) := by
  match answered : server.logIn settings state with
  | (.ok (), later) => simp only [recorded, answered]; rfl
  | (.error failure, later) => simp only [recorded, answered]; rfl

theorem recorded_select (server : MailServer ε) (mode : OpenMode) (id : String) (state : ε)
    (events : List Event) :
    server.recorded.run (.select mode id) (state, events) =
      match server.run (.select mode id) state with
      | (.ok told, later) => (.ok told, later, .opened mode told :: events)
      | (.error failure, later) => (.error failure, later, events) := by
  match answered : server.run (.select mode id) state with
  | (.ok told, later) => simp only [recorded, answered]; rfl
  | (.error failure, later) => simp only [recorded, answered]; rfl

end MailServer

/-! ## Uses -/

/-- A use of a handle. -/
inductive Use where
  | openAs (mode : OpenMode)
  | list (first last : UInt32) (cutoff : Option DatedInstant)
  | fetch (uid : UInt32) (extent : FetchExtent)
  | expunge
  | close

/-- Records that a handle was closed. -/
def noteClosed : Folder × ε × List Event → Folder × ε × List Event
  | (folder, state, events) => (folder, state, .closed :: events)

/-- What is left of a handle and a server after a use, with the record. -/
def Use.run (server : MailServer ε) (before : Folder × ε × List Event) :
    Use → Folder × ε × List Event
  | openAs mode => (Folder.openAs server.recorded mode before).2
  | list first last cutoff => (Folder.list server.recorded first last cutoff before).2
  | fetch uid extent => (Folder.fetch server.recorded uid extent before).2
  | expunge => (Folder.expunge server.recorded before).2
  | close => noteClosed (Folder.close server.recorded before).2

def afterUses (server : MailServer ε) (uses : List Use) (start : Folder × ε × List Event) :
    Folder × ε × List Event :=
  uses.foldl (Use.run server) start

/-- An opening in a session records itself if it succeeds, and nothing else. -/
theorem select_records (server : MailServer ε) (mode : OpenMode)
    {before : Folder × ε × List Event} (inSession : before.1.inSession = true) :
    let ended := Folder.select server.recorded mode before
    (∃ told, ended.1 = .ok () ∧ ended.2.2.2 = .opened mode told :: before.2.2) ∨
      ended.1 ≠ .ok () ∧ ended.2.2.2 = before.2.2 := by
  obtain ⟨folder, state, events⟩ := before
  rw [Folder.select_apply mode inSession, server.recorded_select]
  match server.run (.select mode folder.id) state with
  | (.ok told, later) => exact .inl ⟨told, rfl, rfl⟩
  | (.error failure, later) => exact .inr ⟨nofun, rfl⟩

/-- An opening records a log-in if it had to begin a session and could, and then itself if it
succeeds. -/
theorem openAs_records (server : MailServer ε) (mode : OpenMode) (before : Folder × ε × List Event) :
    let ended := Folder.openAs server.recorded mode before
    ∃ begins, (begins = [] ∨ begins = [.loggedIn]) ∧
      ((∃ told, ended.1 = .ok () ∧
          ended.2.2.2 = .opened mode told :: (begins ++ before.2.2)) ∨
        ended.1 ≠ .ok () ∧ ended.2.2.2 = begins ++ before.2.2) := by
  obtain ⟨folder, state, events⟩ := before
  rw [Folder.openAs_apply]
  split
  next inSession => exact ⟨[], .inl rfl, select_records server mode inSession⟩
  next =>
    rw [bind_apply, Folder.logIn_apply, server.recorded_logIn]
    match server.logIn folder.settings state with
    | (.ok (), later) => exact ⟨[.loggedIn], .inr rfl, select_records server mode rfl⟩
    | (.error failure, later) => exact ⟨[], .inl rfl, .inr ⟨nofun, rfl⟩⟩

/-! ## In step -/

/-- What a handle remembers is in step with what happened to it. -/
structure Remembers (settings : ServerSettings) (id : String) (after : Folder × ε × List Event) :
    Prop where
  settings : after.1.settings = settings
  id : after.1.id = id
  inSession : after.1.inSession = begun after.2.2
  mode : after.1.mode = (standing after.2.2).map (·.1)
  count : after.1.count? = (standing after.2.2).map (·.2.count)
  validity : after.1.validity? = (lastTold after.2.2).bind (·.validity)

section Step

variable {server : MailServer ε} {settings : ServerSettings} {id : String} {α : Type}

theorem remembers_new (settings : ServerSettings) (id : String) (state : ε) :
    Remembers settings id (Folder.new settings id, state, []) :=
  ⟨rfl, rfl, rfl, rfl, rfl, rfl⟩

theorem Remembers.of_state {folder : Folder} {state later : ε} {events : List Event}
    (remembers : Remembers settings id (folder, state, events)) :
    Remembers settings id (folder, later, events) :=
  ⟨remembers.settings, remembers.id, remembers.inSession, remembers.mode, remembers.count,
    remembers.validity⟩

/-- A call that makes no event changes nothing that a handle remembers. -/
theorem preserves_call {request : SessionCall α}
    (quiet : ∀ result, MailServer.event? request result = none) :
    Preserves (@Remembers ε settings id) (Folder.call server.recorded request) := by
  rintro ⟨folder, state, events⟩ remembers
  rw [Folder.call_apply]
  split
  · simp only [MailServer.recorded, quiet, Option.toList_none, List.nil_append]
    exact remembers.of_state
  · exact remembers

theorem preserves_logIn (server : MailServer ε) :
    Preserves (@Remembers ε settings id) (Folder.logIn server.recorded) := by
  rintro ⟨folder, state, events⟩ remembers
  rw [Folder.logIn_apply, server.recorded_logIn]
  match server.logIn folder.settings state with
  | (.ok (), later) =>
    exact ⟨remembers.settings, remembers.id, rfl, remembers.mode, remembers.count,
      remembers.validity⟩
  | (.error failure, later) => exact remembers.of_state

/-- The answer to an opening is recorded before the handle remembers it, so the handle is in step
again only behind both. -/
theorem remembers_select {server : MailServer ε} {mode : OpenMode}
    {before : Folder × ε × List Event} (inSession : before.1.inSession = true)
    (remembers : Remembers settings id before) :
    Remembers settings id (Folder.select server.recorded mode before).2 := by
  obtain ⟨folder, state, events⟩ := before
  rw [Folder.select_apply mode inSession, server.recorded_select]
  match server.run (.select mode folder.id) state with
  | (.ok told, later) =>
    exact ⟨remembers.settings, remembers.id, remembers.inSession, rfl, rfl, rfl⟩
  | (.error failure, later) => exact remembers.of_state

theorem preserves_openAs (server : MailServer ε) (mode : OpenMode) :
    Preserves (@Remembers ε settings id) (Folder.openAs server.recorded mode) := by
  rintro ⟨folder, session⟩ remembers
  rw [Folder.openAs_apply]
  split
  next inSession => exact remembers_select inSession remembers
  next =>
    have middle := preserves_logIn server (folder, session) remembers
    rw [bind_apply]
    match ran : Folder.logIn server.recorded (folder, session) with
    | (.ok (), begun, session') =>
      rw [ran] at middle
      obtain rfl := Folder.logIn_ok ran
      exact remembers_select rfl middle
    | (.error failure, after) =>
      rw [ran] at middle
      exact middle

theorem preserves_list (server : MailServer ε) (first last : UInt32)
    (cutoff : Option DatedInstant) :
    Preserves (@Remembers ε settings id) (Folder.list server.recorded first last cutoff) := by
  unfold Folder.list
  split
  · exact preserves_pure []
  dsimp only
  cases cutoff with
  | none => exact (preserves_call fun _ => rfl).bind fun told => preserves_pure _
  | some cutoff =>
    refine (preserves_call fun _ => rfl).bind fun found => ?_
    split
    · exact (preserves_pure []).bind fun told => preserves_pure _
    · exact (preserves_call fun _ => rfl).bind fun told => preserves_pure _

theorem preserves_fetch (server : MailServer ε) (uid : UInt32) (extent : FetchExtent) :
    Preserves (@Remembers ε settings id) (Folder.fetch server.recorded uid extent) := by
  unfold Folder.fetch
  refine (preserves_call fun _ => rfl).bind fun told => ?_
  split
  · exact preserves_throw _
  · split
    · exact preserves_throw _
    · exact preserves_pure _

theorem preserves_expunge (server : MailServer ε) :
    Preserves (@Remembers ε settings id) (Folder.expunge server.recorded) := by
  unfold Folder.expunge
  refine Preserves.bind (fun _ remembers => remembers) fun folder => ?_
  have expunges : Preserves (@Remembers ε settings id)
      (Folder.call server.recorded .expunge) := preserves_call fun _ => rfl
  dsimp only
  split
  · exact expunges
  · exact (preserves_openAs server .readWrite).bind fun _ => expunges

/-- Closing forgets the session, the mode and the number of messages. -/
theorem remembers_close (server : MailServer ε) {before : Folder × ε × List Event}
    (remembers : Remembers settings id before) :
    Remembers settings id (noteClosed (Folder.close server.recorded before).2) := by
  obtain ⟨folder, state, events⟩ := before
  rw [Folder.close_apply]
  split
  · exact ⟨remembers.settings, remembers.id, rfl, rfl, rfl, remembers.validity⟩
  · exact ⟨remembers.settings, remembers.id, rfl, rfl, rfl, remembers.validity⟩

/-- What a use leaves is in step with what happened. -/
theorem Remembers.step {before : Folder × ε × List Event}
    (remembers : Remembers settings id before) (use : Use) :
    Remembers settings id (use.run server before) := by
  cases use with
  | openAs mode => exact preserves_openAs server mode before remembers
  | list first last cutoff => exact preserves_list server first last cutoff before remembers
  | fetch uid extent => exact preserves_fetch server uid extent before remembers
  | expunge => exact preserves_expunge server before remembers
  | close => exact remembers_close server remembers

theorem remembers_afterUses (server : MailServer ε) (uses : List Use)
    {start : Folder × ε × List Event}
    (remembers : Remembers settings id start) :
    Remembers settings id (afterUses server uses start) := by
  induction uses generalizing start with
  | nil => exact remembers
  | cons use uses ih => exact ih (remembers.step use)

end Step

/-! ## What a handle reports -/

/-- The number of the last opening is the one of the opening that stands, unless none stands and the
last one told a number. -/
theorem lastTold_eq_standing (events : List Event) :
    ((lastTold events).bind (·.validity)).map UInt32.toUInt64 =
        (standing events).bind (fun opening => opening.2.validity.map UInt32.toUInt64) ↔
      (standing events).isSome ∨ ∀ told ∈ lastTold events, told.validity = none := by
  cases stands : standing events with
  | some opening =>
    rw [lastTold_of_standing stands]
    exact ⟨fun _ => .inl rfl, fun _ => rfl⟩
  | none =>
    simp only [Option.bind_none, Option.map_eq_none_iff, Option.bind_eq_none_iff, Option.isSome_none,
      Bool.false_eq_true, false_or, Option.mem_def]

/-- After any uses a handle reports the number of messages that the opening that stands told, and
fails if none stands.  It reports the number of the numbering that the last opening told, even if
the handle was closed since: it is stale if, and only if, no opening stands and the last one told a
number.  With no log-in since it was closed, it lists nothing but an empty range and downloads
nothing, and makes no call. -/
theorem handle_reports (server : MailServer ε) (settings : ServerSettings) (id : String) (state : ε)
    (uses : List Use) :
    let after := afterUses server uses (Folder.new settings id, state, [])
    let folder := after.1
    let events := after.2.2
    let notOpen := Failure.invalidState ("Folder " ++ id ++ " is not open")
    folder.count =
        (match standing events with
        | some (_, told) => .ok told.count.toNat
        | none => .error notOpen) ∧
      folder.validity = ((lastTold events).bind (·.validity)).map UInt32.toUInt64 ∧
      (folder.validity =
          (standing events).bind (fun opening => opening.2.validity.map UInt32.toUInt64) ↔
        (standing events).isSome ∨ ∀ told ∈ lastTold events, told.validity = none) ∧
      (begun events = false → ∀ session,
        (∀ first last cutoff, Folder.list server first last cutoff (folder, session) =
          (if first = 0 ∨ last < first then .ok [] else .error notOpen, folder, session)) ∧
        ∀ uid extent, Folder.fetch server uid extent (folder, session) =
          (.error notOpen, folder, session)) := by
  intro after folder events notOpen
  have remembers := remembers_afterUses server uses (remembers_new settings id state)
  have validity : folder.validity = ((lastTold events).bind (·.validity)).map UInt32.toUInt64 :=
    congrArg (Option.map UInt32.toUInt64) remembers.validity
  have failure : folder.notOpen = notOpen := by
    rw [Folder.notOpen, remembers.id]
  refine ⟨?_, validity, validity ▸ lastTold_eq_standing events, fun without session => ?_⟩
  · rw [Folder.count, remembers.count, failure]
    cases standing events with
    | some opening => rfl
    | none => rfl
  · have noSession : folder.inSession = false := remembers.inSession.trans without
    rw [← failure]
    exact ⟨fun first last cutoff => Folder.list_of_not_inSession first last cutoff noSession,
      fun uid extent => Folder.fetch_of_not_inSession uid extent noSession⟩

/-- A server that opens each folder, with three messages in a numbering with a number. -/
def numbering : MailServer Unit where
  logIn _ state := (.ok (), state)
  run request state :=
    match request with
    | .select _ _ => (.ok ⟨3, some 7⟩, state)
    | _ => (.error .connectionLost, state)

/-- A handle that is closed still reports the number of the numbering. -/
theorem handle_reports_closed :
    let uses := [.openAs .readOnly, .close]
    let new := Folder.new ⟨"localhost", 143, .plain, "alice", "secret"⟩ "INBOX"
    let after := afterUses numbering uses (new, (), [])
    after.2.2 = [.closed, .opened .readOnly ⟨3, some 7⟩, .loggedIn] ∧
      after.1.count = .error (.invalidState "Folder INBOX is not open") ∧
      after.1.validity = some 7 := by
  intro uses new after
  have happened : after.2.2 = [.closed, .opened .readOnly ⟨3, some 7⟩, .loggedIn] := rfl
  obtain ⟨count, validity, -, -⟩ := handle_reports numbering new.settings "INBOX" () uses
  exact ⟨happened, count, validity⟩

end MailReplica.Remote
