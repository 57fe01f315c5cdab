import MailReplica.Configuration.Basic

/-! # The command line

The words of a command line: options for the whole program, the name of a command, and the options
of the command.  An option has a long name and may have a letter; its value follows it as a word of
its own, after an equals sign, or right after its letter.
-/

namespace MailReplica

/-- What the program is told to do. -/
inductive Command where
  /-- Runs one pass over a folder. -/
  | sync (folder : String) (account : Option String)
  /-- Waits for changes in the folders of an account and runs a pass at every change. -/
  | watch (account : Option String)
  /-- Lists the folders of the server and makes them known to the local store. -/
  | folders (account : Option String)
  | listAccounts
  /-- Keeps the password of an account, or forgets it. -/
  | setPassword (account : Option String) (delete : Bool)
  deriving DecidableEq

structure Arguments where
  /-- The path of the configuration. -/
  configuration : String
  debug : Bool
  command : Command
  deriving DecidableEq

/-- Why a command line is not carried out. -/
inductive Interruption where
  /-- It asks for an explanation. -/
  | help (text : String)
  | version
  /-- It cannot be understood. -/
  | misuse (message : String)
  deriving DecidableEq

namespace Arguments

structure Choice where
  letter : Option Char
  name : String
  /-- What its value is called, if it has one. -/
  value : Option String
  description : String

/-- Options that were given, by long name; those without a value have an empty one. -/
abbrev Given := List (String × String)

/-! ## Reading options -/

/-- What a word says: options, and the name of one whose value is the next word. -/
structure WordMeaning where
  given : Given
  awaiting : Option String

/-- The option that a word names, if it is one of `choices`. -/
def find (choices : List Choice) (accepts : Choice → Bool) (word : String) :
    Except Interruption Choice :=
  match choices.find? accepts with
  | some choice => .ok choice
  | none => .error (.misuse ("unexpected argument '" ++ word ++ "'"))

/-- The meaning of the word of a long name. -/
def readLong (choices : List Choice) (word : String) : Except Interruption WordMeaning := do
  let body := word.toList.drop 2
  let name := String.ofList (body.takeWhile (· != '='))
  let choice ← find choices (fun choice => choice.name == name) word
  match choice.value, body.dropWhile (· != '=') with
  | some _, _ :: value => return ⟨[(name, String.ofList value)], none⟩
  | some _, [] => return ⟨[], some name⟩
  | none, [] => return ⟨[(name, "")], none⟩
  | none, _ :: _ => throw (.misuse ("unexpected value for '--" ++ name ++ "'"))

def readLetters (choices : List Choice) : List Char → Given → Except Interruption WordMeaning
  | [], given => .ok ⟨given, none⟩
  | letter :: rest, given => do
    let word := String.ofList ['-', letter]
    let choice ← find choices (fun choice => choice.letter == some letter) word
    match choice.value, rest with
    | none, _ => readLetters choices rest (given ++ [(choice.name, "")])
    | some _, [] => return ⟨given, some choice.name⟩
    | some _, '=' :: value => return ⟨given ++ [(choice.name, String.ofList value)], none⟩
    | some _, value => return ⟨given ++ [(choice.name, String.ofList value)], none⟩

def givesOptions (word : String) : Bool :=
  word.startsWith "-" && word != "-"

/-- The meaning of a word that gives options. -/
def readWord (choices : List Choice) (word : String) : Except Interruption WordMeaning :=
  if word.startsWith "--" then readLong choices word
  else readLetters choices (word.toList.drop 1) []

/-- Adds options to those given before; none can be given twice. -/
def add (help : String) (given : Given) (more : Given) : Except Interruption Given :=
  more.foldlM (fun (given : Given) (name, value) =>
    if name = "help" then .error (.help help)
    else if name = "version" then .error .version
    else if (given.lookup name).isSome then
      .error (.misuse ("the argument '--" ++ name ++ "' cannot be used multiple times"))
    else .ok (given ++ [(name, value)])) given

/-- Reads options up to the first word that gives none; the result is the options and the words from
there on.  `help` is the explanation that can be asked for. -/
def readOptions (choices : List Choice) (help : String) :
    Given → List String → Except Interruption (Given × List String)
  | given, [] => .ok (given, [])
  | given, word :: rest =>
    if givesOptions word then do
      let meaning ← readWord choices word
      let given ← add help given meaning.given
      match meaning.awaiting with
      | none => readOptions choices help given rest
      | some name =>
        match rest with
        | value :: rest =>
          if givesOptions value then missing name
          else do readOptions choices help (← add help given [(name, value)]) rest
        | [] => missing name
    else .ok (given, word :: rest)
where
  missing (name : String) : Except Interruption (Given × List String) :=
    .error (.misuse ("a value is required for '--" ++ name ++ "'"))

/-! ## What can be asked for -/

def programName : String := "mailsync"

def programVersion : String := "0.1.0"

def programDescription : String :=
  "Keeps a local copy of IMAP folders in sync, using IDLE when the server supports it"

/-- The folder of a pass unless one is given. -/
def usualFolder : String := "INBOX"

/-- The option that asks for an explanation. -/
def helpChoice : Choice :=
  ⟨some 'h', "help", none, "Print help"⟩

def programChoices : List Choice :=
  [⟨some 'c', "config", some "CONFIG",
      "Path to config file [default: " ++ Configuration.usualPath ++ "]"⟩,
    ⟨some 'd', "debug", none, "Enable debug logging"⟩,
    helpChoice,
    ⟨some 'V', "version", none, "Print version"⟩]

def accountChoice (description : String) : Choice :=
  ⟨some 'a', "account", some "ACCOUNT", description⟩

structure Kind where
  name : String
  description : String
  choices : List Choice
  /-- The command with options. -/
  command : Given → Command

def kinds : List Kind :=
  let named := "Account name or email address"
  let account := accountChoice (named ++ " (defaults to the default account)")
  [⟨"sync", "Run one sync pass for a folder",
      [⟨some 'f', "folder", some "FOLDER",
        "Folder to synchronize [default: " ++ usualFolder ++ "]"⟩, account, helpChoice],
      fun given => .sync ((given.lookup "folder").getD usualFolder) (given.lookup "account")⟩,
    ⟨"watch", "Watch the account's push folders with IDLE and sync on every change",
      [account, helpChoice], fun given => .watch (given.lookup "account")⟩,
    ⟨"folders", "List the server's folders and register them locally",
      [account, helpChoice], fun given => .folders (given.lookup "account")⟩,
    ⟨"list-accounts", "List configured accounts", [helpChoice], fun _ => .listAccounts⟩,
    ⟨"set-password", "Store the IMAP password in the system keyring (read from stdin)",
      [accountChoice named, ⟨none, "delete", none, "Remove the stored password instead"⟩,
        helpChoice],
      fun given => .setPassword (given.lookup "account") (given.lookup "delete").isSome⟩]

/-! ## Explanations -/

/-- Two columns of text, the second one two blanks after the widest entry of the first. -/
def columns (rows : List (String × String)) : String :=
  let width := (rows.map fun row => row.1.length).foldl max 0
  String.join (rows.map fun (left, right) =>
    "  " ++ left ++ "".pushn ' ' (width - left.length) ++ "  " ++ right ++ "\n")

def Choice.form (choice : Choice) : String :=
  let letter :=
    match choice.letter with
    | some letter => "-" ++ letter.toString ++ ", "
    | none => "    "
  let value :=
    match choice.value with
    | some value => " <" ++ value ++ ">"
    | none => ""
  letter ++ "--" ++ choice.name ++ value

def explainChoices (choices : List Choice) : String :=
  "Options:\n" ++ columns (choices.map fun choice => (choice.form, choice.description))

def programHelp : String :=
  let entries := kinds.map fun kind => (kind.name, kind.description)
  programDescription ++ "\n\nUsage: " ++ programName ++ " [OPTIONS] <COMMAND>\n\nCommands:\n" ++
    columns (entries ++ [("help", "Print this message or the help of the given subcommand(s)")]) ++
    "\n" ++ explainChoices programChoices

/-- The explanation of a kind of command. -/
def Kind.help (kind : Kind) : String :=
  kind.description ++ "\n\nUsage: " ++ programName ++ " " ++ kind.name ++ " [OPTIONS]\n\n" ++
    explainChoices kind.choices

/-! ## Reading a command line -/

/-- The kind of command with a name. -/
def kindNamed (name : String) : Except Interruption Kind :=
  match kinds.find? (fun kind => kind.name == name) with
  | some kind => .ok kind
  | none => .error (.misuse ("unrecognized subcommand '" ++ name ++ "'"))

def readCommand : List String → Except Interruption Command
  | [] => .error (.misuse "a subcommand is required")
  | ["help"] => .error (.help programHelp)
  | "help" :: name :: _ => do
    let kind ← kindNamed name
    throw (.help kind.help)
  | name :: words => do
    let kind ← kindNamed name
    let (given, rest) ← readOptions kind.choices kind.help [] words
    match rest with
    | [] => return kind.command given
    | word :: _ => throw (.misuse ("unexpected argument '" ++ word ++ "'"))

def read (words : List String) : Except Interruption Arguments := do
  let (given, rest) ← readOptions programChoices programHelp [] words
  let command ← readCommand rest
  let configuration := (given.lookup "config").getD Configuration.usualPath
  return ⟨configuration, (given.lookup "debug").isSome, command⟩

end Arguments

end MailReplica
