import MailReplica.Text.Shown

/-! # Accounts

An account names a mailbox on a server and the folders to watch in it.
-/

namespace MailReplica

/-- How the connection to a server is encrypted. -/
inductive Security where
  | plain
  /-- Encryption starts on request of the client. -/
  | startTls
  | tls
  deriving DecidableEq

namespace Security

/-- The kinds of encryption with their names in a configuration. -/
def named : List (String × Security) :=
  [("None", plain), ("StartTLS", startTls), ("SSL", tls)]

/-- The name of a kind of encryption in a configuration. -/
def name : Security → String
  | plain => "None"
  | startTls => "StartTLS"
  | tls => "SSL"

end Security

structure Account where
  name : String
  email : String
  host : String
  port : UInt16
  security : Security
  username : String
  /-- The password, unless it is kept elsewhere. -/
  password : Option String
  /-- The folders to watch for changes. -/
  watchedFolders : List String
  deriving DecidableEq

/-- What it takes to log in to a server. -/
structure ServerSettings where
  host : String
  port : UInt16
  security : Security
  username : String
  password : String
  deriving DecidableEq

namespace ServerSettings

/-- A description of the settings that leaves out the password. -/
def description (settings : ServerSettings) : String :=
  "ServerSettings \x7b host: " ++ Text.shown settings.host ++ ", port: " ++
    Nat.repr settings.port.toNat ++ ", security: " ++ settings.security.name ++ ", username: " ++
    Text.shown settings.username ++ ", .. \x7d"

end ServerSettings

namespace Account

/-- The folders to watch unless a configuration says otherwise. -/
def usualFolders : List String := ["INBOX"]

def sample : Account where
  name := "Default Account"
  email := "user@example.com"
  host := "imap.example.com"
  port := 993
  security := .tls
  username := "user@example.com"
  password := none
  watchedFolders := usualFolders

/-- The settings to log in with, if the account has a password; an empty password is none. -/
def serverSettings? (account : Account) : Option ServerSettings :=
  match account.password with
  | none | some "" => none
  | some password =>
    some ⟨account.host, account.port, account.security, account.username, password⟩

end Account

end MailReplica
