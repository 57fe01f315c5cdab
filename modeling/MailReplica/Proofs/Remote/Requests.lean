import MailReplica.Proofs.Remote.Exchange
import MailReplica.Proofs.Wire.Quoted

/-! # The requests that open a folder

Each request is sent at once: a tag, a word, and arguments as quoted strings.  It is one line, and
its arguments are read as they were given, exactly when no line end stands in any of them
(`openFolder_requests`).  Nothing looks out for line ends, so a user name, a password or the name of
a folder that holds one brings lines of its own into what is sent.
-/

namespace MailReplica.Remote

open Wire

variable {ε : Type}

/-! ## Requests -/

/-- A request with arguments. -/
structure Order where
  verb : String
  arguments : List String

namespace Order

/-- The arguments as they are sent, each after a blank. -/
def tail (arguments : List String) : List Char :=
  arguments.flatMap fun argument => ' ' :: (Quoted.write argument).toList

def text (order : Order) : String :=
  order.verb ++ String.ofList (tail order.arguments)

end Order

theorem logIn_eq (settings : ServerSettings) :
    Dialogue.logIn settings = Order.text ⟨"LOGIN", [settings.username, settings.password]⟩ := by
  simp [Dialogue.logIn, Order.text, Order.tail, ← String.toList_inj]

theorem verb_write_eq (verb argument : String) :
    verb ++ " " ++ Quoted.write argument = Order.text ⟨verb, [argument]⟩ := by
  simp [Order.text, Order.tail, ← String.toList_inj]

/-- The requests that may be made to open a folder. -/
def orders (settings : ServerSettings) (folder : String) (mode : OpenMode) : List Order :=
  [⟨"STARTTLS", []⟩, ⟨"LOGIN", [settings.username, settings.password]⟩, ⟨"CAPABILITY", []⟩,
    ⟨Dialogue.openVerb mode, [folder]⟩]

/-- Quoted strings, each after a blank, up to the end of a line. -/
inductive ReadsAs : List Char → List String → Prop
  | done : ReadsAs ['\r', '\n'] []
  | argument {chars content rest : List Char} {arguments : List String}
      (read : Quoted.read? chars = some (content, rest)) (others : ReadsAs rest arguments) :
      ReadsAs (' ' :: chars) (String.ofList content :: arguments)

/-- A text is a request with a tag, a word and arguments. -/
def IsRequest (text tag verb : String) (arguments : List String) : Prop :=
  ∃ chars, text = tag ++ " " ++ verb ++ String.ofList chars ∧ ReadsAs chars arguments

/-- Octets that are one line: they end with a line end, and there is no part of one before. -/
def IsLine (octets : Octets) : Prop :=
  ∃ body, octets = body ++ [Octet.cr, Octet.lf] ∧ Octet.cr ∉ body ∧ Octet.lf ∉ body

section Requests

theorem readsAs_tail (arguments read : List String) :
    ReadsAs (Order.tail arguments ++ ['\r', '\n']) read ↔
      read = arguments ∧ ∀ argument ∈ arguments, ¬HoldsLineEnd argument := by
  induction arguments generalizing read with
  | nil =>
    constructor
    · intro reads
      cases reads with
      | done => exact ⟨rfl, nofun⟩
    · rintro ⟨rfl, _⟩
      exact .done
  | cons argument others ih =>
    have chars : Order.tail (argument :: others) ++ ['\r', '\n'] =
        ' ' :: ((Quoted.write argument).toList ++ (Order.tail others ++ ['\r', '\n'])) := by
      rw [← List.append_assoc]
      rfl
    have written := Quoted.read?_write argument (Order.tail others ++ ['\r', '\n'])
    rw [chars, List.forall_mem_cons]
    constructor
    · intro reads
      cases reads with
      | @argument _ content rest arguments found reads =>
        by_cases ends : HoldsLineEnd argument
        · rw [written, if_pos ends] at found
          cases found
        · rw [written, if_neg ends] at found
          cases found
          obtain ⟨rfl, plain⟩ := (ih arguments).1 reads
          exact ⟨by rw [String.ofList_toList], ends, plain⟩
    · rintro ⟨rfl, ends, plain⟩
      have reads := (ih others).2 ⟨rfl, plain⟩
      have found := written.trans (if_neg ends)
      simpa only [String.ofList_toList] using ReadsAs.argument found reads

theorem isRequest_line (number : UInt32) (order : Order) (arguments : List String) :
    IsRequest (requestTag number ++ " " ++ order.text ++ "\r\n") (requestTag number) order.verb
        arguments ↔
      arguments = order.arguments ∧ ∀ argument ∈ order.arguments, ¬HoldsLineEnd argument := by
  have line : requestTag number ++ " " ++ order.text ++ "\r\n" =
      requestTag number ++ " " ++ order.verb ++
        String.ofList (Order.tail order.arguments ++ ['\r', '\n']) := by
    simp [Order.text, ← String.toList_inj]
  rw [IsRequest, line, ← readsAs_tail]
  constructor
  · rintro ⟨chars, same, reads⟩
    have same := congrArg String.toList same
    simp only [String.toList_append, String.toList_ofList] at same
    exact List.append_cancel_left same ▸ reads
  · exact fun reads => ⟨_, rfl, reads⟩

theorem holdsLineEnd_tail (arguments : List String) :
    HoldsLineEnd (String.ofList (Order.tail arguments)) ↔
      ∃ argument ∈ arguments, HoldsLineEnd argument := by
  have member (c : Char) (plain : (c ≠ '"' ∧ c ≠ '\\') ∧ c ≠ ' ') :
      c ∈ Order.tail arguments ↔ ∃ argument ∈ arguments, c ∈ argument.toList := by
    simp only [Order.tail, List.mem_flatMap, List.mem_cons, plain.2, false_or,
      Quoted.mem_write plain.1]
  rw [HoldsLineEnd, String.toList_ofList, member _ (by decide), member _ (by decide)]
  simp only [HoldsLineEnd, and_or_left, exists_or]

theorem not_holdsLineEnd_requestTag (number : UInt32) : ¬HoldsLineEnd (requestTag number) := by
  rintro (member | member) <;> cases mem_requestTag member <;> contradiction

theorem isLine_encode (text : String) :
    IsLine (Text.encode (text ++ "\r\n")) ↔ ¬HoldsLineEnd text := by
  have ending : Text.encode "\r\n" = [Octet.cr, Octet.lf] := by decide
  rw [Text.encode_append, ending, HoldsLineEnd, not_or, ← Text.cr_mem_encode,
    ← Text.lf_mem_encode]
  constructor
  · rintro ⟨body, same, plain⟩
    exact List.append_cancel_right same ▸ plain
  · exact fun plain => ⟨_, rfl, plain⟩

theorem isLine_request (number : UInt32) (order : Order) (plain : ¬HoldsLineEnd order.verb) :
    IsLine (request number order.text) ↔
      ∀ argument ∈ order.arguments, ¬HoldsLineEnd argument := by
  have blank : ¬HoldsLineEnd " " := by decide
  rw [request, isLine_encode, Order.text, holdsLineEnd_append, holdsLineEnd_append,
    holdsLineEnd_append, holdsLineEnd_tail]
  simp only [not_holdsLineEnd_requestTag, blank, plain, false_or, not_exists, not_and]

end Requests

/-! ## Opening a folder -/

/-- Nothing but requests that open the folder was sent. -/
structure Asking (settings : ServerSettings) (folder : String) (mode : OpenMode)
    (state : Connection × (ε × List Exchange)) : Prop where
  ofSettings : state.1.settings = settings
  ofFolder : state.1.folder = folder
  sent : ∀ octets ∈ sentIn state.2.2, ∃ number, ∃ order ∈ orders settings folder mode,
    octets = request number order.text

section Asking

open Dialogue

variable {settings : ServerSettings} {folder : String} {mode : OpenMode}
  {before after : Connection × (ε × List Exchange)}

theorem Asking.took {responses : List Response} (asking : Asking settings folder mode before)
    (took : Took responses before after) : Asking settings folder mode after where
  ofSettings := took.settings.trans asking.ofSettings
  ofFolder := took.folder.trans asking.ofFolder
  sent := took.network ▸ asking.sent

theorem Asking.unsent (asking : Asking settings folder mode before)
    (sameSettings : after.1.settings = before.1.settings)
    (sameFolder : after.1.folder = before.1.folder) (same : sentIn after.2.2 = sentIn before.2.2) :
    Asking settings folder mode after where
  ofSettings := sameSettings.trans asking.ofSettings
  ofFolder := sameFolder.trans asking.ofFolder
  sent := same ▸ asking.sent

variable (network : Network ε)

theorem keeps_read : Keeps (@Asking ε settings folder mode) read := fun before asking =>
  (read_ends before).mono (fun _ _ took => asking.took took) fun _ _ took => asking.took took

theorem keeps_command (order : Order) (ordered : order ∈ orders settings folder mode) :
    Keeps (@Asking ε settings folder mode) (command network.recorded order.text) := by
  intro before asking
  by_cases isOpen : before.1.isOpen
  · have asked (more : List Arrival) (state : ε) : Asking settings folder mode
        (before.1.asked more,
          (state, .sent (request before.1.nextTag order.text) more :: before.2.2)) :=
      ⟨asking.ofSettings, asking.ofFolder,
        List.forall_mem_cons.2 ⟨⟨before.1.nextTag, order, ordered, rfl⟩, asking.sent⟩⟩
    exact (command_ends network.recorded order.text isOpen).mono
      (fun _ _ ⟨_, _, took, _⟩ => (asked _ _).took took) fun _ _ ⟨_, took⟩ => (asked _ _).took took
  · have closed : before.1.arrivals = none := by simpa [Connection.isOpen] using isOpen
    refine (command_ends_closed network.recorded order.text closed).mono (fun _ _ => nofun) ?_
    rintro _ _ rfl
    exact ⟨asking.ofSettings, asking.ofFolder, asking.sent⟩

theorem keeps_encrypt : Keeps (@Asking ε settings folder mode) (encrypt network.recorded) := by
  rintro ⟨connection, state, record⟩ asking
  refine .bind (ends_get ?_)
  simp only [Network.recorded_encrypt]
  cases (network.encrypt connection.settings.host state).1 with
  | ok arrivals => exact .bind (ends_set (ends_pure (asking.unsent rfl rfl rfl)))
  | error failure => exact .bind (ends_set (ends_throw (asking.unsent rfl rfl rfl)))

theorem keeps_reach : Keeps (@Asking ε settings folder mode) (reach network.recorded) := by
  rintro ⟨connection, state, record⟩ asking
  have reached (arrivals : List Arrival) : Keeps (@Asking ε settings folder mode)
      (change fun connection => { connection with pending := [], arrivals := some arrivals }) :=
    keeps_change fun _ _ asking => asking.unsent rfl rfl rfl
  refine .bind (ends_get ?_)
  simp only [Network.recorded_connect]
  refine .bind (ends_set ?_)
  cases (network.connect connection.settings.host connection.settings.port state).1 with
  | ok arrivals =>
    dsimp only
    split
    · exact (keeps_encrypt network).bind reached _ (asking.unsent rfl rfl rfl)
    · exact reached arrivals _ (asking.unsent rfl rfl rfl)
  | error failure => exact .bind (ends_throw (asking.unsent rfl rfl rfl))

theorem keeps_greet : Keeps (@Asking ε settings folder mode) greet := by
  refine keeps_read.bind fun greeting => ?_
  split
  · exact keeps_pure false
  · exact keeps_pure true
  · exact keeps_throw _

theorem keeps_startTls : Keeps (@Asking ε settings folder mode) (startTls network.recorded) :=
  (keeps_command network ⟨"STARTTLS", []⟩ (by simp [orders])).bind fun _ =>
    (keeps_encrypt network).bind fun _ => keeps_change fun _ _ asking => asking.unsent rfl rfl rfl

theorem keeps_connect : Keeps (@Asking ε settings folder mode) (connect network.recorded) := by
  intro before asking
  refine .bind (ends_connection ?_)
  rw [asking.ofSettings]
  refine (keeps_reach network).bind (fun _ => keeps_greet.bind fun loggedIn => ?_) before asking
  have asksForCapabilities : Keeps (@Asking ε settings folder mode)
      (command network.recorded "CAPABILITY") :=
    keeps_command network ⟨"CAPABILITY", []⟩ (by simp [orders])
  have logsIn : Keeps (@Asking ε settings folder mode)
      (command network.recorded (logIn settings)) := by
    rw [logIn_eq]
    exact keeps_command network _ (by simp [orders])
  have logsInFirst : Keeps (@Asking ε settings folder mode)
      (if loggedIn then command network.recorded "CAPABILITY"
        else command network.recorded (logIn settings) >>= fun _ =>
          command network.recorded "CAPABILITY") := by
    split
    · exact asksForCapabilities
    · exact logsIn.bind fun _ => asksForCapabilities
  dsimp only
  split
  · exact (keeps_startTls network).bind fun _ => logsInFirst
  · exact logsInFirst

theorem keeps_openFolder :
    Keeps (@Asking ε settings folder mode) (openFolder network.recorded mode) := by
  intro before asking
  have opens : Keeps (@Asking ε settings folder mode)
      (connection >>= fun found =>
        command network.recorded (openVerb mode ++ " " ++ Quoted.write found.folder)) := by
    intro before asking
    refine .bind (ends_connection ?_)
    rw [asking.ofFolder, verb_write_eq]
    exact keeps_command network _ (by simp [orders]) before asking
  refine .bind (ends_connection ?_)
  split
  · exact opens before asking
  · exact (keeps_connect network).bind (fun _ => opens) before asking

theorem plain_verb {order : Order} (ordered : order ∈ orders settings folder mode) :
    ¬HoldsLineEnd order.verb := by
  simp only [orders, List.mem_cons, List.not_mem_nil, or_false] at ordered
  obtain rfl | rfl | rfl | rfl := ordered
  · exact (by decide : ¬HoldsLineEnd "STARTTLS")
  · exact (by decide : ¬HoldsLineEnd "LOGIN")
  · exact (by decide : ¬HoldsLineEnd "CAPABILITY")
  · cases mode with
    | readOnly => exact (by decide : ¬HoldsLineEnd "EXAMINE")
    | readWrite => exact (by decide : ¬HoldsLineEnd "SELECT")

end Asking

/-- Whatever the settings, the folder and the network: each request that is sent while a folder is
opened is one line exactly when no line end stands in an argument of it, and is read as its
arguments exactly then. -/
theorem openFolder_requests (network : Network ε) (mode : OpenMode) (connection : Connection)
    (state : ε) :
    let after := (Dialogue.openFolder network.recorded mode (connection, state, [])).2
    ∀ octets ∈ sentIn after.2.2, ∃ number, ∃ order ∈ orders connection.settings connection.folder
        mode,
      let line := requestTag number ++ " " ++ order.text ++ "\r\n"
      octets = Text.encode line ∧
        (IsLine octets ↔ ∀ argument ∈ order.arguments, ¬HoldsLineEnd argument) ∧
        ∀ arguments, IsRequest line (requestTag number) order.verb arguments ↔
          arguments = order.arguments ∧ ∀ argument ∈ order.arguments, ¬HoldsLineEnd argument := by
  intro after octets sent
  have asking : Asking connection.settings connection.folder mode after :=
    (keeps_openFolder network (connection, state, []) ⟨rfl, rfl, nofun⟩).always
  obtain ⟨number, order, ordered, rfl⟩ := asking.sent octets sent
  exact ⟨number, order, ordered, rfl, isLine_request number order (plain_verb ordered),
    isRequest_line number order⟩

/-- A network on which a server greets each client and then ends its side. -/
def greeter : Network Unit where
  connect _ _ state := (.ok [.data (Text.encode "* OK ready\r\n"), .closed], state)
  send _ state := (.ok [], state)
  close state := state

/-- A user name with a command of its own in it. -/
def smuggler : ServerSettings :=
  ⟨"localhost", 143, .plain, "user\r\nX1 DELETE INBOX", "secret"⟩

/-- The line that should log in as `smuggler`. -/
def smuggled : String :=
  "M1 LOGIN \"user\r\nX1 DELETE INBOX\" \"secret\""

theorem openFolder_requests_smuggled :
    sentIn (Dialogue.openFolder greeter.recorded .readOnly
        (Connection.new smuggler "INBOX", (), [])).2.2.2 = [Text.encode (smuggled ++ "\r\n")] ∧
      ¬IsLine (Text.encode (smuggled ++ "\r\n")) ∧
      ∃ order ∈ orders smuggler "INBOX" .readOnly, IsLine (Text.encode (smuggled ++ "\r\n")) ↔
        ∀ argument ∈ order.arguments, ¬HoldsLineEnd argument := by
  have sent : sentIn (Dialogue.openFolder greeter.recorded .readOnly
      (Connection.new smuggler "INBOX", (), [])).2.2.2 = [Text.encode (smuggled ++ "\r\n")] := by
    decide +kernel
  have member := sent ▸ List.mem_singleton_self (Text.encode (smuggled ++ "\r\n"))
  obtain ⟨_, order, ordered, _, isLine, _⟩ := openFolder_requests greeter .readOnly _ () _ member
  have holds : HoldsLineEnd smuggled := by decide
  exact ⟨sent, fun is => (isLine_encode smuggled).1 is holds, order, ordered, isLine⟩

end MailReplica.Remote
