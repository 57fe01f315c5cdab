import MailReplica.Configuration.File
import MailReplica.Proofs.Flag.Stored
import MailReplica.Proofs.Json.Numeral
import MailReplica.Proofs.Text.Decode

/-! # Configurations read back

Every part of a configuration is restored from its text: numbers of each size, names, accounts, the
options of passes and of waiting.  What is left out of the text, a missing password or database
path, is filled in by reading as missing.  So a configuration that was saved is loaded as it was, and
saving it again changes nothing (`Configuration.load_save`).
-/

namespace MailReplica

open Json

/-! ## Numbers and names -/

theorem restores_port :
    Restores (UInt16.ofNat <$> natural UInt16.size) fun port => .natural port.toNat := by
  intro style port
  have takes := (takes_natural port.toNat_lt (by decide) style).map UInt16.ofNat
  rwa [UInt16.ofNat_toNat] at takes

theorem PassOptions.restores_number : Restores number fun value => .natural value.toNat := by
  intro style value
  have takes := (takes_natural value.toNat_lt (by decide) style).map UInt32.ofNat
  rwa [UInt32.ofNat_toNat] at takes

theorem restores_long :
    Restores (UInt64.ofNat <$> natural UInt64.size) fun value => .natural value.toNat := by
  intro style value
  have takes := (takes_natural value.toNat_lt (by decide) style).map UInt64.ofNat
  rwa [UInt64.ofNat_toNat] at takes

theorem Security.restores_name :
    Restores (namedReader named) fun security => .text security.name := by
  intro style security
  cases security <;> exact takes_choice_plain rfl

theorem ExpungePolicy.restores_name :
    Restores (namedReader named) fun policy => .text policy.name := by
  intro style policy
  cases policy <;> exact takes_choice_plain rfl

/-! ## Accounts -/

namespace Account

theorem restores_layout : Restores reader layout := by
  intro style account
  obtain ⟨name, email, host, port, security, username, password?, folders⟩ := account
  have always : Fills Draft.member style.inner Draft.empty
      [("name", .text name), ("email", .text email), ("imap_server", .text host),
        ("imap_port", .natural port.toNat), ("imap_security", .text security.name),
        ("imap_username", .text username)]
      ⟨some name, some email, some host, some port, some security, some username, none, none⟩ :=
    .field restores_text name (fun seen => Draft.mk seen none none none none none none none) rfl <|
    .field restores_text email
      (fun seen => Draft.mk (some name) seen none none none none none none) rfl <|
    .field restores_text host
      (fun seen => Draft.mk (some name) (some email) seen none none none none none) rfl <|
    .field restores_port port
      (fun seen => Draft.mk (some name) (some email) (some host) seen none none none none) rfl <|
    .field Security.restores_name security
      (fun seen => Draft.mk (some name) (some email) (some host) (some port) seen none none none)
      rfl <|
    .field restores_text username
      (fun seen => Draft.mk (some name) (some email) (some host) (some port) (some security) seen
        none none) rfl .done
  refine takes_record ((always.append (fills_toList restores_text opens_text
    (fun seen => Draft.mk (some name) (some email) (some host) (some port) (some security)
      (some username) seen none) rfl password?)).append
    (.field (restores_list restores_text opens_text) folders
      (fun seen => Draft.mk (some name) (some email) (some host) (some port) (some security)
        (some username) (password?.map some) seen) rfl .done)) ?_
  cases password? <;> rfl

theorem opens_layout : Opens layout :=
  fun _ _ => ⟨'{', _, rfl, rfl, by decide, by decide⟩

end Account

/-! ## Options -/

namespace PassOptions

theorem opens_number : Opens fun value : UInt32 => .natural value.toNat :=
  fun style value => opens_natural style value.toNat

theorem restores_layout : Restores reader layout := by
  intro style options
  obtain ⟨policy, days?, removes, largest, limit, flags⟩ := options
  exact takes_record (
    .field ExpungePolicy.restores_name policy (fun seen => Draft.mk seen none none none none none)
      rfl <|
    .field (restores_optional restores_number opens_number) days?
      (fun seen => Draft.mk (some policy) seen none none none none) rfl <|
    .field restores_truth removes
      (fun seen => Draft.mk (some policy) (some days?) seen none none none) rfl <|
    .field restores_number largest
      (fun seen => Draft.mk (some policy) (some days?) (some removes) seen none none) rfl <|
    .field restores_number limit
      (fun seen => Draft.mk (some policy) (some days?) (some removes) (some largest) seen none)
      rfl <|
    .field (restores_list Flag.restores_layout Flag.opens_layout) flags
      (fun seen => Draft.mk (some policy) (some days?) (some removes) (some largest) (some limit)
        seen) rfl .done) rfl

end PassOptions

namespace WatchOptions

theorem restores_layout : Restores reader layout := by
  intro style options
  obtain ⟨enabled, minutes⟩ := options
  exact takes_record (
    .field restores_truth enabled (fun seen => Draft.mk seen none) rfl <|
    .field restores_long minutes (fun seen => Draft.mk (some enabled) seen) rfl .done) rfl

end WatchOptions

/-! ## Configurations -/

namespace Configuration

theorem restores_layout : Restores reader layout := by
  intro style configuration
  obtain ⟨accounts, usual, pass, watch, path?⟩ := configuration
  have always : Fills Draft.member style.inner Draft.empty
      [("accounts", .list (accounts.map Account.layout)), ("default_account", .natural usual.toNat),
        ("sync", pass.layout), ("push", watch.layout)]
      ⟨some accounts, some usual, some pass, some watch, none⟩ :=
    .field (restores_list Account.restores_layout Account.opens_layout) accounts
      (fun seen => Draft.mk seen none none none none) rfl <|
    .field restores_long usual (fun seen => Draft.mk (some accounts) seen none none none) rfl <|
    .field PassOptions.restores_layout pass
      (fun seen => Draft.mk (some accounts) (some usual) seen none none) rfl <|
    .field WatchOptions.restores_layout watch
      (fun seen => Draft.mk (some accounts) (some usual) (some pass) seen none) rfl .done
  refine takes_record (always.append (fills_toList restores_text opens_text
    (fun seen => Draft.mk (some accounts) (some usual) (some pass) (some watch) seen) rfl path?)) ?_
  cases path? <;> rfl

theorem ofDocument_document (configuration : Configuration) :
    ofDocument configuration.document = .ok configuration :=
  readText_ofList (restores_layout (.indented 0) configuration)

end Configuration

/-! ## Files -/

namespace FileTree

variable {tree after : FileTree} {place other : Place} {content : Octets} {slash : Bool}

theorem write_eq_ok (written : tree.write place slash content = .ok after) :
    slash = false ∧ tree.find? place ≠ some .directory ∧
      after = (place, .file content) :: tree.filter (·.1 != place) := by
  unfold write at written
  match found : tree.find? place, slash with
  | some .directory, _ | none, true | some (.file _), true =>
    rw [found] at written
    cases written
  | none, false | some (.file _), false =>
    rw [found] at written
    cases written
    exact ⟨rfl, nofun, rfl⟩

theorem find?_cons_self {entry : FileEntry} {others : FileTree}
    (free : tree.find? place ≠ some .directory) :
    find? ((place, entry) :: others) place = some entry := by
  unfold find? at free ⊢
  split at free
  · exact absurd rfl free
  · exact absurd rfl free
  · exact List.lookup_cons_self

theorem find?_replace {entry : FileEntry} (different : other ≠ place) :
    find? ((place, entry) :: tree.filter (·.1 != place)) other = tree.find? other := by
  have kept : List.lookup other (tree.filter (·.1 != place)) = List.lookup other tree := by
    induction tree with
    | nil => rfl
    | cons first tree ih =>
      obtain ⟨key, entry⟩ := first
      obtain rfl | another := eq_or_ne key place
      · simp [List.lookup_cons, beq_eq_false_iff_ne.2 different, ih]
      · simp [List.lookup_cons, another, ih]
  unfold find?
  split
  · rfl
  · rfl
  · rw [List.lookup_cons, beq_eq_false_iff_ne.2 different]
    exact kept

theorem read_cons_self {others : FileTree} (free : tree.find? place ≠ some .directory) :
    read ((place, .file content) :: others) place = .ok content := by
  rw [read, find?_cons_self free]

theorem write_cons_self {others : FileTree} (free : tree.find? place ≠ some .directory) :
    write ((place, .file content) :: others) place false content =
      .ok ((place, .file content) :: others.filter (·.1 != place)) := by
  unfold write
  rw [find?_cons_self free]
  simp only [List.filter_cons, bne_self_eq_false, Bool.false_eq_true, if_false]

/-- What stands at a place is not on the way to it. -/
theorem wayIsOpen_replace {entry : FileEntry} :
    wayIsOpen ((place, entry) :: tree.filter (·.1 != place)) place = tree.wayIsOpen place := by
  unfold wayIsOpen
  rw [Bool.eq_iff_iff, List.all_eq_true, List.all_eq_true]
  refine forall₂_congr fun count within => ?_
  have shorter : place.take count ≠ place := by
    intro same
    have := congrArg List.length same
    rw [List.length_take] at this
    have := List.mem_range.1 within
    omega
  rw [find?_replace shorter]

end FileTree

namespace Configuration

variable {configuration : Configuration} {tree after : FileTree} {path : String}

theorem save_eq_ok (saved : configuration.save tree path = .ok after) :
    path ≠ "" ∧ tree.wayIsOpen (Place.ofPath path) = true ∧
      tree.write (Place.ofPath path) (path.endsWith "/") (Text.encode configuration.document) =
        .ok after := by
  unfold save at saved
  dsimp only at saved
  split at saved
  · cases saved
  next named =>
  split at saved
  next opened =>
    refine ⟨named, opened, ?_⟩
    match written : tree.write (Place.ofPath path) (path.endsWith "/")
        (Text.encode configuration.document) with
    | .ok result =>
      rw [written] at saved
      cases saved
      rfl
    | .error refusal =>
      rw [written] at saved
      cases saved
  · cases saved

/-- What is written for a configuration is read as that configuration, whatever its texts, numbers and
flags are, and with or without the parts that may be missing.  So a configuration that was saved is
loaded as it was, and saving what is loaded leaves the files as they are. -/
theorem load_save (configuration : Configuration) :
    ofDocument configuration.document = .ok configuration ∧
      ∀ tree path after, configuration.save tree path = .ok after →
        after.read (Place.ofPath path) = .ok (Text.encode configuration.document) ∧
        load after path = .ok configuration ∧
        ∀ loaded, load after path = .ok loaded → loaded.save after path = .ok after := by
  refine ⟨ofDocument_document configuration, fun tree path after saved => ?_⟩
  obtain ⟨named, opened, written⟩ := save_eq_ok saved
  obtain ⟨plain, free, rfl⟩ := FileTree.write_eq_ok written
  have loads (others : FileTree) : load ((Place.ofPath path,
      .file (Text.encode configuration.document)) :: others) path = .ok configuration := by
    rw [load, FileTree.read_cons_self free]
    dsimp only
    rw [Text.decode?_encode]
    dsimp only
    rw [ofDocument_document]
    rfl
  refine ⟨FileTree.read_cons_self free, loads _, fun loaded same => ?_⟩
  obtain rfl := Except.ok.inj ((loads _).symm.trans same)
  rw [save, if_neg named, FileTree.wayIsOpen_replace, if_pos opened, plain,
    FileTree.write_cons_self free, List.filter_filter]
  simp only [Bool.and_self]
  rfl

/-- A configuration with texts of all kinds, and with parts that are missing. -/
def assorted : Configuration where
  accounts :=
    [{ Account.sample with name := "Büro \"A\" \\ \n\x01", password := some "" },
      { Account.sample with port := 0, watchedFolders := [] }]
  defaultAccount := 18446744073709551615
  pass := { PassOptions.usual with trackedFlags := [.custom "Seen", .seen, .seen, .custom "\x7f é"] }
  watch := .usual
  databasePath := none

theorem load_save_assorted :
    ∃ after, assorted.save [] "m" = .ok after ∧ load after "m" = .ok assorted := by
  have names : "m".splitOn "/" = ["m"] := by
    have next : String.Pos.Raw.next "m" (String.Pos.Raw.unoffsetBy 0 0) = ⟨1⟩ := by decide +kernel
    rw [String.splitOn, if_neg (by decide), String.splitOnAux, if_neg (by decide +kernel),
      if_neg (by decide +kernel), next, String.splitOnAux, if_pos (by decide +kernel)]
    decide +kernel
  have place : Place.ofPath "m" = [".", "m"] := by
    rw [Place.ofPath, names]
    rfl
  have saved : assorted.save [] "m" =
      .ok [([".", "m"], .file (Text.encode assorted.document))] := by
    have plain : "m".endsWith "/" = false := by decide +kernel
    rw [save, if_neg (by decide), place, if_pos (by decide), plain]
    rfl
  exact ⟨_, saved, ((load_save assorted).2 [] "m" _ saved).2.1⟩

end Configuration

end MailReplica
