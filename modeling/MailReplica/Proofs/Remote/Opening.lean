import MailReplica.Proofs.Remote.Standing

/-! # Folders are opened by authenticated clients

A client that connects asks for its folder when it has taken the greeting of the server and, unless
the greeting makes it needless, the completion of its request to log in (`connect_ends`).  When
connecting fails behind the greeting, though, the connection is left to the next call, and that asks
for the folder at once.  So folders are asked for by clients that are not authenticated exactly when
one is to be opened on such a half open connection (`opens_guarded`).

What is known of a connection is carried from call to call by `Talking`: what passed on it, and the
responses that the client has taken of what it heard.
-/

namespace MailReplica.Remote

open Wire Dialogue

variable {ε : Type}

/-! ## Talking to a server -/

/-- A connection is open without encryption: what passed on it, and what of it the client has
taken. -/
structure Talking (passed : Passed) (taken : List Response)
    (state : Connection × (ε × List Exchange)) : Prop where
  plain : state.1.settings.security = .plain
  isOpen : state.1.isOpen = true
  present : passed? state.2.2 = some passed
  tells : Tells passed.heard taken state.1.unread

section Talking

variable {passed : Passed} {taken responses : List Response}
  {before after : Connection × (ε × List Exchange)}

theorem Talking.took (talking : Talking passed taken before) (took : Took responses before after) :
    Talking passed (taken ++ responses) after where
  plain := took.settings ▸ talking.plain
  isOpen := took.isOpen.trans talking.isOpen
  present := took.network ▸ talking.present
  tells := talking.tells.trans took.tells

theorem Connection.unread_expecting {connection : Connection} (more : List Arrival)
    (isOpen : connection.isOpen = true) :
    (connection.expecting more).unread = connection.unread ++ octetsOf more := by
  obtain ⟨arrivals, is⟩ := Option.isSome_iff_exists.1 isOpen
  simp [Connection.unread, Connection.expecting, is]

theorem Talking.asked (talking : Talking passed taken before) (octets : Octets)
    (more : List Arrival) (state : ε) :
    Talking (passed.after octets more) taken
      (before.1.asked more, state, .sent octets more :: before.2.2) where
  plain := talking.plain
  isOpen := (Option.isSome_map ..).trans talking.isOpen
  present := congrArg (Option.map _) talking.present
  tells := Connection.unread_expecting more talking.isOpen ▸ talking.tells.append (octetsOf more)

/-- A request was sent, and responses were taken after it. -/
def Asked (text : String) (passed : Passed) (taken : List Response)
    (before after : Connection × (ε × List Exchange)) : Prop :=
  ∃ more, after.2.2 = .sent (request before.1.nextTag text) more :: before.2.2 ∧
    Talking (passed.after (request before.1.nextTag text) more) taken after

theorem talking_command (network : Network ε) (text : String)
    (talking : Talking passed taken before) :
    Ends (command network.recorded text) before
      (fun _ after => ∃ responses completion,
        Asked text passed (taken ++ (responses ++ [completion])) before after ∧
          completion.completes (requestTag before.1.nextTag) = true ∧ completion.isSuccess = true)
      fun _ after => ∃ responses, Asked text passed (taken ++ responses) before after := by
  have asked := talking.asked (request before.1.nextTag text)
  refine (command_ends network.recorded text talking.isOpen).mono ?_ ?_
  · rintro _ after ⟨responses, completion, took, completes⟩
    exact ⟨responses, completion, ⟨_, congrArg Prod.snd took.network, (asked _ _).took took⟩,
      completes⟩
  · rintro _ after ⟨responses, took⟩
    exact ⟨responses, _, congrArg Prod.snd took.network, (asked _ _).took took⟩

end Talking

/-! ## Without asking for a folder -/

/-- No connection is there, for the client and in the record, or one is talked on. -/
inductive Sound (state : Connection × (ε × List Exchange)) : Prop
  | closed (plain : state.1.settings.security = .plain) (closed : state.1.arrivals = none)
      (absent : passed? state.2.2 = none)
  | talking (passed : Passed) (taken : List Response) (talking : Talking passed taken state)

/-- From one state to another no folder was asked for. -/
structure Quiet (before after : Connection × (ε × List Exchange)) : Prop where
  sound : Sound after
  guarded : Guarded after.2.2 ↔ Guarded before.2.2

/-- From one state to another no folder was asked for, and the responses that the client has taken
in the end authenticate it. -/
structure Welcome (before after : Connection × (ε × List Exchange)) : Prop extends
    Quiet before after where
  known : ∃ passed taken, Talking passed taken after ∧ authenticates passed.logins taken = true

section Quiet

variable {passed : Passed} {taken responses : List Response} {text : String}
  {start before after : Connection × (ε × List Exchange)}

theorem Quiet.trans (first : Quiet start before) (second : Quiet before after) :
    Quiet start after :=
  ⟨second.sound, second.guarded.trans first.guarded⟩

theorem Talking.took_quiet (talking : Talking passed taken before)
    (took : Took responses before after) : Quiet before after :=
  ⟨.talking _ _ (talking.took took), by rw [took.network]⟩

theorem Asked.quiet (asked : Asked text passed taken before after)
    (harmless : opensFolder (request before.1.nextTag text) = false) : Quiet before after := by
  obtain ⟨more, record, talking⟩ := asked
  refine ⟨.talking _ _ talking, ?_⟩
  rw [record, guarded_sent, harmless]
  simp only [Bool.false_eq_true, false_implies, true_and]

theorem welcome_command (network : Network ε) (talking : Talking passed taken before)
    (known : authenticates passed.logins taken = true)
    (harmless : opensFolder (request before.1.nextTag text) = false) :
    Ends (command network.recorded text) before (fun _ => Welcome before)
      fun _ => Quiet before := by
  refine (talking_command network text talking).mono ?_ ?_
  · rintro _ after ⟨responses, completion, asked, _⟩
    refine ⟨asked.quiet harmless, ?_⟩
    obtain ⟨more, _, talking⟩ := asked
    exact ⟨_, _, talking,
      authenticates_mono (passed.logins_after _ more) (List.prefix_append taken _) known⟩
  · rintro _ after ⟨responses, asked⟩
    exact asked.quiet harmless

end Quiet

/-! ## Connecting -/

section Connect

variable {passed : Passed} {greeting : Response} {before : Connection × (ε × List Exchange)}
  (network : Network ε)

theorem reach_ends (plain : before.1.settings.security = .plain) (closed : before.1.arrivals = none)
    (absent : passed? before.2.2 = none) :
    Ends (reach network.recorded) before
      (fun _ after => Quiet before after ∧ ∃ passed, Talking passed [] after)
      fun _ => Quiet before := by
  obtain ⟨⟨settings, folder, arrivals, pending, nextTag, timeout, capabilities⟩, state, record⟩ :=
    before
  refine .bind (ends_get ?_)
  simp only [Network.recorded_connect]
  refine .bind (ends_set ?_)
  cases (network.connect settings.host settings.port state).1 with
  | ok arrivals =>
    dsimp only
    rw [if_neg (by rw [plain]; decide)]
    refine .bind (ends_pure (ends_change ?_))
    have talking : Talking ⟨octetsOf arrivals, []⟩ []
        (⟨settings, folder, some arrivals, [], nextTag, timeout, capabilities⟩,
          (network.connect settings.host settings.port state).2, .connected arrivals :: record) :=
      ⟨plain, rfl, rfl, .nothing _⟩
    exact ⟨⟨.talking _ _ talking, guarded_cons rfl⟩, _, talking⟩
  | error failure => exact .bind (ends_throw ⟨.closed plain closed absent, Iff.rfl⟩)

theorem greet_ends (talking : Talking passed [] before) :
    Ends greet before
      (fun loggedIn after => Quiet before after ∧ ∃ greeting, Talking passed [greeting] after ∧
        greeting.kind = .condition (if loggedIn then .preAuth else .ok))
      fun _ => Quiet before := by
  refine .bind ((read_ends before).mono (fun greeting after took => ?_)
    fun _ after took => talking.took_quiet took)
  have quiet := talking.took_quiet took
  split
  next is => exact ends_pure ⟨quiet, greeting, talking.took took, is⟩
  next is => exact ends_pure ⟨quiet, greeting, talking.took took, is⟩
  next => exact ends_throw quiet

/-- The completion of the request to log in authenticates a client that was greeted. -/
theorem logIn_ends (talking : Talking passed [greeting] before)
    (greets : greeting.kind = .condition .ok) (settings : ServerSettings) :
    Ends (command network.recorded (logIn settings)) before (fun _ => Welcome before)
      fun _ => Quiet before := by
  rw [logIn_eq]
  have harmless : opensFolder (request before.1.nextTag
      (Order.text ⟨"LOGIN", [settings.username, settings.password]⟩)) = false :=
    (opensFolder_request (by decide)).trans (by decide)
  refine (talking_command network _ talking).mono ?_ ?_
  · rintro _ after ⟨responses, completion, asked, completes, success⟩
    refine ⟨asked.quiet harmless, ?_⟩
    obtain ⟨more, _, talking⟩ := asked
    refine ⟨_, _, talking, ?_⟩
    have asks : logsIn (request before.1.nextTag
        (Order.text ⟨"LOGIN", [settings.username, settings.password]⟩)) = true := by
      rw [logsIn, wordOf_request (by decide)]
      decide
    have asked : Text.encode (requestTag before.1.nextTag) ∈ (passed.after (request before.1.nextTag
        (Order.text ⟨"LOGIN", [settings.username, settings.password]⟩)) more).logins := by
      rw [Passed.after, if_pos asks, tagOf_request]
      exact List.mem_cons_self
    have completesOne := completesOne_iff.2 ⟨_, kind_of_completes completes success, asked⟩
    simp only [authenticates, List.singleton_append, greets, List.any_append, List.any_cons,
      completesOne, Bool.true_or, Bool.or_true, beq_self_eq_true, Bool.and_self]
  · rintro _ after ⟨responses, asked⟩
    exact asked.quiet harmless

theorem connect_ends (plain : before.1.settings.security = .plain)
    (closed : before.1.arrivals = none) (absent : passed? before.2.2 = none) :
    Ends (connect network.recorded) before (fun _ => Welcome before) fun _ => Quiet before := by
  refine .bind (ends_connection (.bind ((reach_ends network plain closed absent).mono ?_
    fun _ _ quiet => quiet)))
  rintro _ reached ⟨quiet, passed, talking⟩
  refine .bind ((greet_ends talking).mono ?_ fun _ _ later => quiet.trans later)
  rintro loggedIn greeted ⟨later, greeting, talking, is⟩
  have asksForCapabilities (state : Connection × (ε × List Exchange))
      (welcome : Welcome before state) :
      Ends (command network.recorded "CAPABILITY") state (fun _ => Welcome before)
        fun _ => Quiet before := by
    obtain ⟨passed, taken, talking, known⟩ := welcome.known
    exact (welcome_command network talking known (opensFolder_capability _)).mono
      (fun _ _ later => ⟨welcome.toQuiet.trans later.toQuiet, later.known⟩)
      fun _ _ later => welcome.toQuiet.trans later
  have quiet := quiet.trans later
  have plainly : ¬before.1.settings.security = .startTls := by
    rw [plain]
    decide
  dsimp only
  rw [if_neg plainly]
  cases loggedIn with
  | true =>
    refine asksForCapabilities _ ⟨quiet, passed, _, talking, ?_⟩
    rw [authenticates, is]
    rfl
  | false =>
    refine .bind ((logIn_ends network talking is _).mono (fun _ _ welcome => ?_)
      fun _ _ later => quiet.trans later)
    exact asksForCapabilities _ ⟨quiet.trans welcome.toQuiet, welcome.known⟩

end Connect

/-! ## Calls -/

/-- What can be asked of a connection. -/
inductive Call where
  | openFolder (mode : OpenMode)
  | isCapable
  | close

namespace Call

def opens : Call → Bool
  | openFolder _ => true
  | isCapable | close => false

def run (network : Network ε) : Call → Dialogue ε Unit
  | openFolder mode => Dialogue.openFolder network mode
  | isCapable => Dialogue.isCapable network >>= fun _ => pure ()
  | close => Dialogue.close network

end Call

/-- A connection with a record, after calls one after another. -/
def afterCalls (network : Network ε) (start : Connection × (ε × List Exchange))
    (calls : List Call) : Connection × (ε × List Exchange) :=
  calls.foldl (fun state call => (call.run network.recorded state).2) start

/-- No connection is half open in the end if none was in the beginning. -/
def Settles (before after : Connection × (ε × List Exchange)) : Prop :=
  isHalfOpen before.2.2 = false → isHalfOpen after.2.2 = false

/-- By a call a record stays guarded, unless it is to open a folder and finds a half open
connection. -/
structure Called (call : Call) (before after : Connection × (ε × List Exchange)) : Prop where
  sound : Sound after
  guarded : Guarded after.2.2 ↔
    Guarded before.2.2 ∧ (call.opens = true → isHalfOpen before.2.2 = false)

/-- A folder was asked for on an open connection. -/
structure AskedForFolder (before after : Connection × (ε × List Exchange)) : Prop where
  sound : Sound after
  guarded : Guarded after.2.2 ↔ isAuthenticated before.2.2 = true ∧ Guarded before.2.2
  settles : Settles before after
  /-- Nothing else passed. -/
  alone : ∃ octets arrivals, opensFolder octets = true ∧
    after.2.2 = .sent octets arrivals :: before.2.2

section Calls

variable {passed : Passed} {taken : List Response} {text : String} {call : Call}
  {before after : Connection × (ε × List Exchange)} (network : Network ε)

theorem Talking.isHalfOpen_eq (talking : Talking passed taken before) :
    isHalfOpen before.2.2 = !passed.isAuthenticated := by
  rw [isHalfOpen, talking.present, Option.any_some]

theorem Talking.isAuthenticated_eq (talking : Talking passed taken before) :
    isAuthenticated before.2.2 = passed.isAuthenticated := by
  rw [isAuthenticated, talking.present, Option.any_some]

theorem Asked.settles (asked : Asked text passed taken before after)
    (present : passed? before.2.2 = some passed) : Settles before after := by
  intro settled
  have known : passed.isAuthenticated = true := by simpa [isHalfOpen, present] using settled
  obtain ⟨more, _, talking⟩ := asked
  rw [talking.isHalfOpen_eq, passed.isAuthenticated_after _ more known]
  rfl

theorem Welcome.isAuthenticated (welcome : Welcome before after) :
    isAuthenticated after.2.2 = true := by
  obtain ⟨passed, taken, talking, known⟩ := welcome.known
  rw [talking.isAuthenticated_eq]
  exact authenticates_mono (List.Subset.refl _) talking.tells.isPrefix known

theorem Welcome.isHalfOpen (welcome : Welcome before after) : isHalfOpen after.2.2 = false := by
  have known := welcome.isAuthenticated
  obtain ⟨passed, taken, talking, _⟩ := welcome.known
  rw [talking.isHalfOpen_eq, ← talking.isAuthenticated_eq, known]
  rfl

theorem opensFolder_openVerb (number : UInt32) (mode : OpenMode) (folder : String) :
    opensFolder (request number (Order.text ⟨openVerb mode, [folder]⟩)) = true := by
  have plain : isWord (Text.encode (openVerb mode)) = true := by cases mode <;> decide
  rw [opensFolder_request plain]
  cases mode <;> decide

theorem Asked.forFolder {mode : OpenMode} {folder : String}
    (asked : Asked (Order.text ⟨openVerb mode, [folder]⟩) passed taken before after)
    (present : passed? before.2.2 = some passed) : AskedForFolder before after := by
  have settles := asked.settles present
  obtain ⟨more, record, talking⟩ := asked
  have opens := opensFolder_openVerb before.1.nextTag mode folder
  refine ⟨.talking _ _ talking, ?_, settles, _, _, opens, record⟩
  rw [record, guarded_sent]
  simp only [opens, true_implies]

theorem askForFolder_ends (mode : OpenMode) (talking : Talking passed taken before) :
    Ends (connection >>= fun found =>
        command network.recorded (openVerb mode ++ " " ++ Quoted.write found.folder)) before
      (fun _ => AskedForFolder before) fun _ => AskedForFolder before := by
  refine .bind (ends_connection ?_)
  rw [verb_write_eq]
  exact (talking_command network _ talking).mono
    (fun _ _ ⟨_, _, asked, _⟩ => asked.forFolder talking.present)
    fun _ _ ⟨_, asked⟩ => asked.forFolder talking.present

theorem openFolder_ends_open (mode : OpenMode) (talking : Talking passed taken before) :
    Ends (openFolder network.recorded mode) before (fun _ => AskedForFolder before)
      fun _ => AskedForFolder before := by
  refine .bind (ends_connection ?_)
  dsimp only
  rw [if_pos talking.isOpen]
  exact askForFolder_ends network mode talking

theorem openFolder_ends (mode : OpenMode) (sound : Sound before) :
    Ends (openFolder network.recorded mode) before
      (fun _ after => Called (.openFolder mode) before after ∧ Settles before after)
      fun _ => Called (.openFolder mode) before := by
  cases sound with
  | closed plain closed absent =>
    have settled : isHalfOpen before.2.2 = false := by rw [isHalfOpen, absent]; rfl
    have isOpen : ¬before.1.isOpen = true := by rw [Connection.isOpen, closed]; decide
    refine .bind (ends_connection ?_)
    dsimp only
    rw [if_neg isOpen]
    refine .bind ((connect_ends network plain closed absent).mono (fun _ connected welcome => ?_)
      fun _ after quiet => ⟨quiet.sound, quiet.guarded.trans (by simp [settled])⟩)
    have guarded {after : Connection × (ε × List Exchange)}
        (asked : AskedForFolder connected after) :
        Called (.openFolder mode) before after :=
      ⟨asked.sound, by simp [asked.guarded, welcome.guarded, welcome.isAuthenticated, settled]⟩
    obtain ⟨passed, taken, talking, _⟩ := welcome.known
    exact (askForFolder_ends network mode talking).mono
      (fun _ after asked => ⟨guarded asked, fun _ => asked.settles welcome.isHalfOpen⟩)
      fun _ after asked => guarded asked
  | talking passed taken talking =>
    have guarded {after : Connection × (ε × List Exchange)} (asked : AskedForFolder before after) :
        Called (.openFolder mode) before after := by
      refine ⟨asked.sound, ?_⟩
      rw [asked.guarded, talking.isAuthenticated_eq, talking.isHalfOpen_eq]
      simp [Call.opens, and_comm]
    exact (openFolder_ends_open network mode talking).mono
      (fun _ after asked => ⟨guarded asked, asked.settles⟩) fun _ after asked => guarded asked

theorem isCapable_ends (sound : Sound before) :
    Ends (isCapable network.recorded) before
      (fun _ after => Quiet before after ∧ Settles before after)
      fun _ after => Quiet before after ∧ Settles before after := by
  have harmless := opensFolder_capability before.1.nextTag
  refine .bind (ends_connection ?_)
  split
  · refine .bind ?_
    cases sound with
    | closed plain closed absent =>
      refine (command_ends_closed network.recorded _ closed).mono (fun _ _ => nofun) ?_
      rintro _ _ rfl
      exact ⟨⟨.closed plain closed absent, Iff.rfl⟩, id⟩
    | talking passed taken talking =>
      exact (talking_command network _ talking).mono
        (fun _ _ ⟨_, _, asked, _⟩ => ⟨asked.quiet harmless, asked.settles talking.present⟩)
        fun _ _ ⟨_, asked⟩ => ⟨asked.quiet harmless, asked.settles talking.present⟩
  · exact ⟨⟨sound, Iff.rfl⟩, id⟩

theorem close_ends (sound : Sound before) :
    Ends (close network.recorded) before
      (fun _ after => Quiet before after ∧ Settles before after)
      fun _ after => Quiet before after ∧ Settles before after := by
  have harmless : opensFolder (request before.1.nextTag (Order.text ⟨"LOGOUT", []⟩)) = false :=
    (opensFolder_request (by decide)).trans (by decide)
  have line : Text.encode ("M" ++ Nat.repr before.1.nextTag.toNat ++ " LOGOUT\r\n") =
      request before.1.nextTag (Order.text ⟨"LOGOUT", []⟩) :=
    congrArg Text.encode (by simp [requestTag, Order.text, Order.tail, ← String.toList_inj])
  obtain ⟨connection, state, record⟩ := before
  refine .bind (ends_get ?_)
  cases sound with
  | closed plain closed absent =>
    have isOpen : ¬connection.isOpen = true := by rw [Connection.isOpen, closed]; decide
    dsimp only
    rw [if_neg isOpen]
    exact ends_change ⟨⟨.closed plain rfl absent, Iff.rfl⟩, id⟩
  | talking passed taken talking =>
    dsimp only
    rw [if_pos talking.isOpen]
    refine .bind (ends_set (ends_change ⟨⟨.closed talking.plain rfl rfl, ?_⟩, fun _ => rfl⟩))
    rw [line]
    refine (guarded_cons rfl).trans ((guarded_sent _ _).trans ?_)
    rw [harmless]
    simp only [Bool.false_eq_true, false_implies, true_and]

theorem Quiet.called (quiet : Quiet before after) (harmless : call.opens = false) :
    Called call before after :=
  ⟨quiet.sound, by simp [quiet.guarded, harmless]⟩

theorem call_ends (call : Call) (sound : Sound before) :
    Ends (call.run network.recorded) before
      (fun _ after => Called call before after ∧ Settles before after)
      fun _ after => Called call before after ∧ (call.opens = false → Settles before after) := by
  cases call with
  | openFolder mode =>
    exact (openFolder_ends network mode sound).mono (fun _ _ called => called)
      fun _ _ called => ⟨called, nofun⟩
  | isCapable =>
    exact .bind ((isCapable_ends network sound).mono
      (fun _ _ ⟨quiet, settles⟩ => ends_pure ⟨quiet.called rfl, settles⟩)
      fun _ _ ⟨quiet, settles⟩ => ⟨quiet.called rfl, fun _ => settles⟩)
  | close =>
    exact (close_ends network sound).mono
      (fun _ _ ⟨quiet, settles⟩ => ⟨quiet.called rfl, settles⟩)
      fun _ _ ⟨quiet, settles⟩ => ⟨quiet.called rfl, fun _ => settles⟩

end Calls

/-! ## Runs -/

section Runs

variable {start : Connection × (ε × List Exchange)} (network : Network ε)

theorem called (call : Call) (sound : Sound start) :
    Called call start (call.run network.recorded start).2 :=
  ((call_ends network call sound).mono (fun _ _ => And.left) fun _ _ => And.left).always

theorem sound_afterCalls (sound : Sound start) (calls : List Call) :
    Sound (afterCalls network start calls) := by
  induction calls generalizing start with
  | nil => exact sound
  | cons call others ih => exact ih (called network call sound).sound

theorem forall_split_cons {α : Type} {first : α} {others : List α} {Holds : List α → α → Prop} :
    (∀ earlier one later, first :: others = earlier ++ one :: later → Holds earlier one) ↔
      Holds [] first ∧
        ∀ earlier one later, others = earlier ++ one :: later → Holds (first :: earlier) one := by
  constructor
  · intro all
    exact ⟨all [] first others rfl, fun earlier one later is =>
      all (first :: earlier) one later (congrArg _ is)⟩
  · rintro ⟨now, afterwards⟩ earlier one later is
    cases earlier with
    | nil => cases is; exact now
    | cons head earlier => cases is; exact afterwards earlier one later rfl

/-- A record stays guarded as long as no folder is to be opened on a half open connection. -/
theorem guarded_afterCalls (sound : Sound start) (calls : List Call) :
    Guarded (afterCalls network start calls).2.2 ↔
      Guarded start.2.2 ∧ ∀ earlier call later, calls = earlier ++ call :: later →
        call.opens = true → isHalfOpen (afterCalls network start earlier).2.2 = false := by
  induction calls generalizing start with
  | nil => simp [afterCalls]
  | cons call others ih =>
    have now := called network call sound
    rw [forall_split_cons, ← and_assoc]
    exact (ih now.sound).trans (and_congr_left' now.guarded)

/-- Only a failing call that was to open a folder leaves a half open connection. -/
theorem failed_of_isHalfOpen (sound : Sound start) (settled : isHalfOpen start.2.2 = false)
    (calls : List Call) (halfOpen : isHalfOpen (afterCalls network start calls).2.2 = true) :
    ∃ earlier call later failure, calls = earlier ++ call :: later ∧ call.opens = true ∧
      (call.run network.recorded (afterCalls network start earlier)).1 = .error failure := by
  induction calls generalizing start with
  | nil => cases settled.symm.trans halfOpen
  | cons call others ih =>
    have now := called network call sound
    by_cases settles : Settles start (call.run network.recorded start).2
    · obtain ⟨earlier, one, later, failure, is, opens, failed⟩ :=
        ih now.sound (settles settled) halfOpen
      exact ⟨call :: earlier, one, later, failure, congrArg _ is, opens, failed⟩
    · obtain ⟨_, _, _, does⟩ | ⟨failure, failed, _, does⟩ := (call_ends network call sound).outcome
      · exact absurd does settles
      · cases opens : call.opens with
        | true => exact ⟨[], call, others, failure, rfl, opens, failed⟩
        | false => exact absurd (does opens) settles

/-- On a half open connection a folder is asked for at once. -/
theorem alone_of_isHalfOpen (sound : Sound start) (halfOpen : isHalfOpen start.2.2 = true)
    (mode : OpenMode) :
    ∃ octets arrivals, opensFolder octets = true ∧
      (openFolder network.recorded mode start).2.2.2 = .sent octets arrivals :: start.2.2 := by
  cases sound with
  | closed _ _ absent =>
    rw [isHalfOpen, absent] at halfOpen
    cases halfOpen
  | talking passed taken talking => exact (openFolder_ends_open network mode talking).always.alone

/-- A client that has connected anew has taken responses that authenticate it. -/
theorem authenticates_of_connect (sound : Sound start) (closed : start.1.isOpen = false)
    {connected : Connection × (ε × List Exchange)}
    (connects : connect network.recorded start = (.ok (), connected)) :
    ∃ passed taken, passed? connected.2.2 = some passed ∧
      Tells passed.heard taken connected.1.unread ∧
      authenticates passed.logins taken = true := by
  cases sound with
  | closed plain closed absent =>
    have ends := connect_ends network plain closed absent
    rw [Ends, connects] at ends
    obtain ⟨passed, taken, talking, known⟩ := ends.known
    exact ⟨passed, taken, talking.present, talking.tells, known⟩
  | talking passed taken talking => cases closed.symm.trans talking.isOpen

end Runs

/-- Calls one after another on a connection without encryption.  Each folder is asked for on a
connection on which the client is authenticated, unless one is to be opened while the connection is
half open.  It is half open only after a call that was to open a folder has failed, and then the
next such call asks for the folder at once, without a greeting and a request to log in.  A call that
finds no connection first makes one, and goes on only when the client has taken responses that
authenticate it. -/
theorem opens_guarded (network : Network ε) (settings : ServerSettings) (folder : String)
    (state : ε) (plain : settings.security = .plain) (calls : List Call) :
    let after := afterCalls network (Connection.new settings folder, state, [])
    (Guarded (after calls).2.2 ↔ ∀ earlier call later, calls = earlier ++ call :: later →
      call.opens = true → isHalfOpen (after earlier).2.2 = false) ∧
    (isHalfOpen (after calls).2.2 = true →
      (∃ earlier call later failure, calls = earlier ++ call :: later ∧ call.opens = true ∧
        (call.run network.recorded (after earlier)).1 = .error failure) ∧
      ∀ mode, ∃ octets arrivals, opensFolder octets = true ∧
        (openFolder network.recorded mode (after calls)).2.2.2 =
          .sent octets arrivals :: (after calls).2.2) ∧
    ((after calls).1.isOpen = false → ∀ connected,
      connect network.recorded (after calls) = (.ok (), connected) →
        ∃ passed taken, passed? connected.2.2 = some passed ∧
          Tells passed.heard taken connected.1.unread ∧
          authenticates passed.logins taken = true) := by
  intro after
  have fresh : Sound (Connection.new settings folder, state, ([] : List Exchange)) :=
    .closed plain rfl rfl
  have sound := sound_afterCalls network fresh calls
  refine ⟨(guarded_afterCalls network fresh calls).trans (and_iff_right guarded_nil), ?_, ?_⟩
  · intro halfOpen
    exact ⟨failed_of_isHalfOpen network fresh rfl calls halfOpen,
      alone_of_isHalfOpen network sound halfOpen⟩
  · exact fun closed _ connects => authenticates_of_connect network sound closed connects

/-- A network on which a server turns each client away, and leaves the connection to it. -/
def refuser : Network Unit where
  connect _ _ state := (.ok [.data (Text.encode "* BYE busy\r\n")], state)
  send _ state := (.ok [], state)
  close state := state

/-- The settings of a client that is turned away. -/
def alice : ServerSettings :=
  ⟨"localhost", 143, .plain, "alice", "secret"⟩

theorem opens_guarded_refused :
    isHalfOpen (afterCalls refuser (Connection.new alice "INBOX", (), [])
        [.openFolder .readOnly]).2.2 = true ∧
      ¬Guarded (afterCalls refuser (Connection.new alice "INBOX", (), [])
        [.openFolder .readOnly, .openFolder .readOnly]).2.2 := by
  have halfOpen : isHalfOpen (afterCalls refuser (Connection.new alice "INBOX", (), [])
      [.openFolder .readOnly]).2.2 = true := by
    decide +kernel
  refine ⟨halfOpen, fun guarded => ?_⟩
  have guards := (opens_guarded refuser alice "INBOX" () rfl
    [.openFolder .readOnly, .openFolder .readOnly]).1
  have settled := guards.1 guarded [.openFolder .readOnly] (.openFolder .readOnly) [] rfl rfl
  cases settled.symm.trans halfOpen

end MailReplica.Remote
