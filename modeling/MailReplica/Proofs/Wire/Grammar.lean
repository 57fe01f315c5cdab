import MailReplica.Proofs.Wire.Stream
import MailReplica.Wire.Reply

/-! # The grammar of replies on a stream

Each scanner of the grammar grows with its input, since it is put together of scanners that do; the
lemmas follow the definitions.  A reply takes at least one octet (`growing_reply`).

The description of a message's structure is read only so deep, by the number of octets that have
arrived.  Each level takes an opening parenthesis, so the bound is never met, and it makes no
difference that it is another one when more octets have arrived (`grows_bodyStructure`).
-/

namespace MailReplica.Wire.Grammar

open Scanner Token

variable {limit least : Nat}

section Combinators

variable {α : Type} {short long : Scanner α}

theorem grows_skip (grows : Grows limit least short long) :
    Grows limit least (skip short) (skip long) :=
  grows.map _

theorem grows_after (name : String) (grows : Grows limit 0 short long) :
    Grows limit 0 (after name short) (after name long) :=
  (Grows.keyword name).following grows

theorem grows_spaced {shorts longs : List (Scanner Unit)}
    (grow : List.Forall₂ (Grows limit 0) shorts longs) :
    Grows limit 0 (spaced shorts) (spaced longs) := by
  induction grow with
  | nil => exact .succeed ()
  | cons grows others ih =>
    cases others with
    | nil => exact grows
    | cons => exact grows.bind fun _ => (Grows.word _).bind fun _ => ih

theorem grows_optionals {shorts longs : List (Scanner Unit)}
    (grow : List.Forall₂ (Grows limit 0) shorts longs) :
    Grows limit 0 (optionals shorts) (optionals longs) := by
  induction grow with
  | nil => exact .succeed ()
  | cons grows _ ih => exact ((Grows.word _).following grows).optional.bind fun _ => ih

/-- Values that each have a space before them. -/
theorem grows_many_following (grows : Grows limit 0 short long) :
    Grows limit 0 (many (following (word " ") short)) (many (following (word " ") long)) :=
  ((Grows.word_takes (by decide)).following grows).many

/-- A word that stands for a value. -/
theorem grows_mark {β : Type} (name : String) (apply : Unit → β) :
    Grows limit 0 (apply <$> keyword name) (apply <$> keyword name) :=
  (Grows.keyword name).map apply

theorem grows_afterNumber {β : Type} (name : String) (apply : UInt32 → β) :
    Grows limit 0 (apply <$> after name number) (apply <$> after name number) :=
  (grows_after name grows_number.weaken).map apply

theorem grows_afterNumber64 {β : Type} (name : String) (apply : UInt64 → β) :
    Grows limit 0 (apply <$> after name number64) (apply <$> after name number64) :=
  (grows_after name grows_number64.weaken).map apply

end Combinators

/-! ## Flags, names and codes -/

theorem grows_flag : Grows limit 0 flag flag :=
  .orElse ((Grows.word _).bind fun _ => (Grows.run _).bind fun _ => .succeed _)
    (grows_utf8 (Grows.run1 _)).weaken

theorem grows_flagList : Grows limit 0 flagList flagList :=
  (Grows.listOf fun _ _ => ((Grows.word _).map _).orElse grows_flag).weaken

theorem grows_mailboxName : Grows limit 0 mailboxName mailboxName :=
  (grows_astring.map _).weaken

theorem grows_capability : Grows limit 0 capability capability :=
  .choice <| .cons ((Grows.keyword _).map _) <|
    .cons ((grows_after _ grows_atom.weaken).map _) <| .cons grows_atom.weaken .nil

theorem grows_capabilityData : Grows limit 0 capabilityData capabilityData :=
  (grows_after _ (grows_many_following grows_capability)).convert _

theorem grows_uidSet : Grows limit 0 uidSet uidSet :=
  grows_skip <| .separated1 (.word_takes (by decide)) <| .orElse
    (grows_number.weaken.bind fun _ => (Grows.word _).bind fun _ => grows_skip grows_number.weaken)
    (grows_skip grows_number.weaken)

theorem grows_skipNumber : Grows limit 0 (skip number) (skip number) :=
  grows_skip grows_number.weaken

theorem grows_code : Grows limit 0 code code := by
  refine (Grows.word _).bind fun _ => .bind (.choice ?_) fun _ => (Grows.word _).bind fun _ =>
    .succeed _
  have charsets : Grows limit 0 (Scanner.optional (following (word " ") (listOf1 astring)))
      (Scanner.optional (following (word " ") (listOf1 astring))) :=
    ((Grows.word _).following (Grows.listOf1 fun _ _ => grows_astring.weaken).weaken).optional
  exact .cons (grows_mark _ _) <| .cons ((grows_after _ charsets).map _) <|
    .cons (grows_capabilityData.map _) <| .cons (grows_mark _ _) <|
    .cons ((grows_after _ grows_flagList).map _) <| .cons (grows_afterNumber _ _) <|
    .cons (grows_afterNumber _ _) <| .cons (grows_afterNumber _ _) <| .cons (grows_mark _ _) <|
    .cons (grows_mark _ _) <| .cons (grows_mark _ _) <| .cons (grows_afterNumber64 _ _) <|
    .cons ((grows_after _ (grows_spaced
      (.cons grows_skipNumber <| .cons grows_uidSet .nil))).map _) <|
    .cons ((grows_after _ (grows_spaced
      (.cons grows_skipNumber <| .cons grows_uidSet <| .cons grows_uidSet .nil))).map _) <|
    .cons (grows_mark _ _) <| .cons (grows_afterNumber64 _ _) <| .cons (grows_afterNumber64 _ _) <|
    .cons (grows_mark _ _) <| .cons (grows_mark _ _) .nil

theorem grows_codeAndText : Grows limit 0 codeAndText codeAndText := by
  refine grows_code.optional.bind fun code => grows_text.bind fun text => ?_
  split
  · exact .succeed _
  · split <;> exact .succeed _

theorem grows_trailingText : Grows limit 0 trailingText trailingText :=
  ((Grows.word _).following grows_codeAndText).optional.map _

theorem grows_condition : Grows limit 0 condition condition :=
  .choice <| .cons (grows_mark _ _) <| .cons (grows_mark _ _) <| .cons (grows_mark _ _) <|
    .cons (grows_mark _ _) <| .cons (grows_mark _ _) .nil

/-! ## Data about mailboxes -/

theorem grows_nameAttribute : Grows limit 0 nameAttribute nameAttribute := by
  refine .choice_self fun scanner member => ?_
  obtain named | other := List.mem_append.1 member
  · obtain ⟨name, _, rfl⟩ := List.mem_map.1 named
    exact .keyword name
  · obtain rfl := List.mem_singleton.1 other
    exact (Grows.word _).following (grows_skip (.run _))

theorem grows_mailboxEntry : Grows limit 0 mailboxEntry mailboxEntry :=
  (Grows.listOf fun _ _ => grows_nameAttribute).weaken.bind fun _ => (Grows.word _).bind fun _ =>
    ((grows_skip (grows_utf8 grows_quoted).weaken).orElse grows_nil).bind fun _ =>
      (Grows.word _).bind fun _ => grows_mailboxName

theorem grows_statusItem : Grows limit 0 statusItem statusItem := by
  refine .choice_self fun scanner member => ?_
  obtain rfl | named := List.mem_cons.1 member
  · exact grows_after _ (grows_skip grows_number64.weaken)
  · obtain ⟨name, _, rfl⟩ := List.mem_map.1 named
    exact grows_after name grows_skipNumber

theorem grows_spacedNumbers : Grows limit 0 spacedNumbers spacedNumbers :=
  grows_many_following grows_number.weaken

theorem grows_labelList : Grows limit 0 labelList labelList :=
  grows_after _ <| grows_skip <| .weaken <| .listOf fun _ _ =>
    grows_flag.orElse (grows_utf8 grows_quoted).weaken

theorem grows_labelNumber : Grows limit 0 labelNumber labelNumber :=
  .orElse (grows_after _ (grows_skip grows_number64.weaken))
    (grows_after _ (grows_skip grows_number64.weaken))

theorem grows_mailboxData : Grows limit 0 mailboxData mailboxData := by
  have counted (name : String) (apply : UInt32 → Reply) :
      Grows limit 0 (do let count ← number; keyword name; pure (apply count))
        (do let count ← number; keyword name; pure (apply count)) :=
    grows_number.weaken.bind fun _ => (Grows.keyword _).bind fun _ => .succeed _
  exact .choice <| .cons ((grows_after _ grows_flagList).map _) <| .cons (counted _ _) <|
    .cons ((grows_after _ grows_mailboxEntry).map _) <|
    .cons ((grows_after _ grows_mailboxEntry).map _) <|
    .cons ((grows_after _ (grows_spaced (.cons (grows_skip grows_mailboxName) <|
      .cons (grows_skip (Grows.listOf fun _ _ => grows_statusItem).weaken) .nil))).map _) <|
    .cons (counted _ _) <|
    .cons ((grows_after _ grows_spacedNumbers).bind fun _ => (Grows.word _).optional.bind fun _ =>
      .succeed _) <|
    .cons (grows_labelList.map _) <| .cons (grows_labelNumber.map _) <|
    .cons ((grows_after _ grows_spacedNumbers).map _) .nil

/-! ## The structure of a message -/

theorem grows_skipNstring : Grows limit 0 (skip nstring) (skip nstring) :=
  grows_skip grows_nstring

theorem grows_skipNstringText : Grows limit 0 (skip nstringText) (skip nstringText) :=
  grows_skip grows_nstringText

theorem grows_skipStringText : Grows limit 0 (skip stringText) (skip stringText) :=
  grows_skip grows_stringText.weaken

theorem grows_address : Grows limit 1 address address :=
  .parenthesized fun _ _ => grows_spaced <| List.forall₂_same.2 fun scanner member => by
    obtain rfl := List.eq_of_mem_replicate member
    exact grows_skipNstring

theorem grows_addresses : Grows limit 0 addresses addresses :=
  grows_nil.orElse <| grows_skip <| .weaken <| .parenthesized fun _ _ => .weaken <| .many1 <|
    grows_address.bind fun _ => (Grows.word _).optional

theorem grows_envelope : Grows limit 0 envelope envelope :=
  .weaken <| .parenthesized fun _ _ => grows_spaced <| List.forall₂_same.2 fun scanner member => by
    simp only [List.mem_append, List.mem_cons, List.mem_replicate, List.not_mem_nil] at member
    obtain ((rfl | rfl | none) | ⟨_, rfl⟩) | (rfl | rfl | none) := member
    case inl.inr => exact grows_addresses
    all_goals first | exact grows_skipNstring | exact none.elim

theorem grows_parameters : Grows limit 0 parameters parameters :=
  grows_nil.orElse <| grows_skip <| .weaken <| .listOf1 fun _ _ => grows_spaced <|
    .cons grows_skipStringText <| .cons grows_skipStringText .nil

theorem grows_transferEncoding : Grows limit 0 transferEncoding transferEncoding := by
  refine .orElse ((Grows.word _).bind fun _ => .bind (.choice_self fun scanner member => ?_)
    fun _ => Grows.word _) grows_skipStringText
  obtain ⟨name, _, rfl⟩ := List.mem_map.1 member
  exact .keyword name

theorem grows_partFields : Grows limit 0 partFields partFields :=
  grows_spaced <| .cons grows_parameters <| .cons grows_skipNstringText <|
    .cons grows_skipNstringText <| .cons grows_transferEncoding <| .cons grows_skipNumber .nil

theorem grows_disposition : Grows limit 0 disposition disposition :=
  grows_nil.orElse <| .weaken <| .parenthesized fun _ _ => grows_spaced <|
    .cons grows_skipStringText <| .cons grows_parameters .nil

theorem grows_languages : Grows limit 0 languages languages :=
  grows_skipNstringText.orElse <| grows_skip <| .weaken <| .listOf1 fun _ _ =>
    grows_stringText.weaken

/-- Each list that an extension stands in takes an opening parenthesis, so a depth beyond the number
of octets is as good as any other. -/
theorem grows_partExtension {depth depth' : Nat} (enough : limit < depth)
    (enough' : limit < depth') : Grows limit 0 (partExtension depth) (partExtension depth') := by
  induction depth generalizing limit depth' with
  | zero => cases enough
  | succ depth ih =>
    cases depth' with
    | zero => cases enough'
    | succ depth' =>
      refine .choice <| .cons grows_skipNumber <| .cons grows_skipNstringText <| .cons ?_ .nil
      exact grows_skip <| .weaken <| .listOf1 fun fewer less => ih (by omega) (by omega)

theorem grows_bodyStructure {depth depth' : Nat} (enough : limit < depth)
    (enough' : limit < depth') : Grows limit 1 (bodyStructure depth) (bodyStructure depth') := by
  induction depth generalizing limit depth' with
  | zero => cases enough
  | succ depth ih =>
    cases depth' with
    | zero => cases enough'
    | succ depth' =>
      refine .parenthesized fun fewer less => ?_
      have inner : Grows fewer 1 (bodyStructure depth) (bodyStructure depth') :=
        ih (by omega) (by omega)
      have extension : Grows fewer 0 (partExtension depth) (partExtension depth') :=
        grows_partExtension (by omega) (by omega)
      have rest {fields : Scanner Unit} (grows : Grows fewer 0 fields fields) :
          Grows fewer 0
            (optionals [fields, disposition, languages, skip nstringText, partExtension depth])
            (optionals [fields, disposition, languages, skip nstringText, partExtension depth']) :=
        grows_optionals <| .cons grows <| .cons grows_disposition <| .cons grows_languages <|
          .cons grows_skipNstringText <| .cons extension .nil
      exact .choice <|
        .cons (.bind (grows_spaced <| .cons (.keyword _) <| .cons grows_skipStringText <|
          .cons grows_partFields <| .cons grows_skipNumber .nil) fun _ =>
            rest grows_skipNstringText) <|
        .cons (.bind (grows_spaced <| .cons (.keyword _) <| .cons grows_partFields <|
          .cons grows_envelope <| .cons inner.weaken <| .cons grows_skipNumber .nil) fun _ =>
            rest grows_skipNstringText) <|
        .cons (.bind (grows_spaced <| .cons grows_skipStringText <| .cons grows_skipStringText <|
          .cons grows_partFields .nil) fun _ => rest grows_skipNstringText) <|
        .cons (inner.many1.weaken.bind fun _ => (Grows.word _).bind fun _ =>
          grows_stringText.weaken.bind fun _ => rest grows_parameters) .nil

/-- The depth to read to is taken from what has arrived. -/
theorem grows_wholeStructure {α : Type} (value : α) :
    Grows limit 0 (fun input => ((fun _ => value) <$> bodyStructure (input.length + 1)) input)
      fun input => ((fun _ => value) <$> bodyStructure (input.length + 1)) input :=
  fun input more _ =>
    have deeper : input.length < (input ++ more).length + 1 := by
      rw [List.length_append]
      omega
    ((grows_bodyStructure (Nat.lt_succ_self _) deeper).weaken.map _) input more (Nat.le_refl _)

/-! ## What a fetch tells -/

theorem grows_messageSection : Grows limit 0 messageSection messageSection :=
  .choice <|
    .cons ((Grows.keyword _).bind fun _ => (Grows.keyword _).optional.bind fun _ =>
      (Grows.word _).bind fun _ => (Grows.listOf fun _ _ => grows_astring.weaken).weaken.bind
        fun _ => .succeed _) <|
    .cons (grows_mark _ _) <| .cons (grows_mark _ _) .nil

theorem grows_partSection : Grows limit 0 partSection partSection :=
  grows_number.weaken.bind fun _ =>
    (((Grows.word_takes (by decide)).following grows_number.weaken).many).bind fun _ =>
      ((Grows.word _).following ((grows_skip grows_messageSection).orElse
        (.keyword _))).optional.bind fun _ => .succeed _

theorem grows_bodySection : Grows limit 0 bodySection bodySection :=
  (Grows.keyword _).bind fun _ => (Grows.word _).bind fun _ =>
    (grows_messageSection.orElse grows_partSection).optional.bind fun _ =>
      (Grows.word _).bind fun _ =>
        ((Grows.word _).bind fun _ => grows_number.weaken.bind fun _ => .word _).optional.bind
          fun _ => (Grows.word _).bind fun _ => grows_nstring.bind fun _ => .succeed _

theorem grows_internalDate : Grows limit 0 internalDate internalDate := by
  refine (grows_after _ grows_nstringText).bind fun text => ?_
  cases text with
  | some text => exact .succeed _
  | none => exact .unrepresentable

theorem grows_fetchItem : Grows limit 0 fetchItem fetchItem :=
  .choice <| .cons grows_bodySection <| .cons (grows_after _ (grows_wholeStructure _)) <|
    .cons ((grows_after _ grows_envelope).map _) <| .cons grows_internalDate <|
    .cons ((grows_after _ grows_flagList).map _) <|
    .cons ((grows_after _ (Grows.parenthesized fun _ _ => grows_number64.weaken).weaken).map _) <|
    .cons ((grows_after _ grows_nstring).map _) <|
    .cons ((grows_after _ ((Grows.word _).optional.bind fun _ => grows_nstring)).map _) <|
    .cons (grows_afterNumber _ _) <| .cons ((grows_after _ grows_nstring).map _) <|
    .cons (grows_afterNumber _ _) <| .cons (grows_labelList.map _) <|
    .cons (grows_labelNumber.map _) .nil

theorem grows_fetch : Grows limit 0 fetch fetch :=
  grows_number.weaken.bind fun _ => (Grows.keyword _).bind fun _ =>
    (Grows.listOf1 fun _ _ => grows_fetchItem).weaken.bind fun _ => .succeed _

theorem grows_expunge : Grows limit 0 expunge expunge :=
  grows_number.weaken.bind fun _ => (Grows.keyword _).bind fun _ => .succeed _

/-! ## Extensions -/

theorem grows_entryComponent : Grows limit 1 entryComponent entryComponent :=
  (Grows.word_takes (by decide)).bind fun _ => grows_skip (Grows.run1 _).weaken

theorem grows_entryName : Grows limit 0 entryName entryName := by
  have named : Grows limit 0 (orElse (word "/comment") (following (word "/vendor") entryComponent))
      (orElse (word "/comment") (following (word "/vendor") entryComponent)) :=
    (Grows.word _).orElse ((Grows.word _).following grows_entryComponent.weaken)
  exact .bind (((Grows.word _).following named).orElse
    ((Grows.word _).following ((Grows.word _).orElse named))) fun _ =>
      grows_skip grows_entryComponent.many

theorem grows_annotations : Grows limit 0 annotations annotations :=
  (Grows.keyword _).bind fun _ => grows_quoted.weaken.bind fun _ => (Grows.word _).bind fun _ =>
    .orElse
      (grows_skip <| .weaken <| .listOf1 fun _ _ => grows_spaced <| .cons grows_entryName <|
        .cons (grows_nil.orElse (grows_skip (grows_utf8 grows_string).weaken)) .nil)
      (grows_skip ((Grows.word_takes (by decide)).separated grows_entryName))

theorem grows_quota : Grows limit 0 quota quota :=
  (Grows.keyword _).bind fun _ => grows_blanks.weaken.bind fun _ => grows_astring.weaken.bind
    fun _ => grows_blanks.weaken.bind fun _ => grows_skip <| .weaken <| .listOf fun _ _ =>
      .bind (.choice <| .cons (.keyword _) <| .cons (.keyword _) <|
        .cons (grows_skip grows_atom.weaken) .nil) fun _ =>
          grows_blanks.weaken.bind fun _ => grows_number64.weaken.bind fun _ =>
            grows_blanks.weaken.bind fun _ => grows_skip grows_number64.weaken

theorem grows_quotaRoot : Grows limit 0 quotaRoot quotaRoot :=
  (Grows.keyword _).bind fun _ => grows_blanks.weaken.bind fun _ => grows_astring.weaken.bind
    fun _ => grows_skip (grows_blanks.following grows_astring.weaken).many

theorem grows_identification : Grows limit 0 identification identification :=
  grows_after _ <| grows_nil.orElse <| .weaken <| .parenthesized fun _ _ => grows_skip <|
    (Grows.word_takes (by decide)).separated1 <| grows_spaced <| .cons grows_skipStringText <|
      .cons grows_skipNstringText .nil

/-- So many texts, each with blanks before it. -/
def texts (count : Nat) : Scanner Unit :=
  (List.replicate count ()).foldr (fun _ others => do
    blanks
    let _ ← astring
    others) (succeed ())

theorem grows_texts (count : Nat) : Grows limit 0 (texts count) (texts count) := by
  induction count with
  | zero => exact .succeed ()
  | succ count ih => exact grows_blanks.weaken.bind fun _ => grows_astring.weaken.bind fun _ => ih

theorem grows_texts_succ (count : Nat) : Grows limit 1 (texts (count + 1)) (texts (count + 1)) :=
  grows_blanks.bind fun _ => grows_astring.weaken.bind fun _ => grows_texts count

theorem grows_rights : Grows limit 0 rights rights :=
  .choice <|
    .cons ((Grows.keyword _).bind fun _ => grows_blanks.weaken.bind fun _ =>
      grows_mailboxName.bind fun _ => grows_skip (grows_texts_succ 1).many) <|
    .cons ((Grows.keyword _).bind fun _ => (grows_texts 3).bind fun _ =>
      grows_skip (grows_texts_succ 0).many) <|
    .cons ((Grows.keyword _).bind fun _ => grows_texts 2) .nil

theorem grows_vanished : Grows limit 0 vanished vanished :=
  (Grows.keyword _).bind fun _ => (Grows.keyword _).optional.bind fun _ =>
    (Grows.word _).bind fun _ => grows_uidSet

/-! ## Replies -/

theorem grows_continuation : Grows limit 1 continuation continuation :=
  (Grows.word_takes (by decide)).bind fun _ => (Grows.word _).optional.bind fun _ =>
    grows_codeAndText.bind fun _ => (Grows.word _).bind fun _ => .succeed _

theorem grows_untagged : Grows limit 1 untagged untagged := by
  refine (Grows.word_takes (by decide)).bind fun _ => .bind (.choice ?_) fun _ =>
    (Grows.word_takes (by decide)).many.bind fun _ => (Grows.word _).bind fun _ => .succeed _
  exact .cons (grows_condition.bind fun _ => grows_trailingText.bind fun _ => .succeed _) <|
    .cons grows_mailboxData <| .cons grows_expunge <| .cons grows_fetch <|
    .cons (grows_capabilityData.map _) <|
    .cons ((grows_after _ (grows_many_following grows_capability)).map _) <|
    .cons (grows_annotations.map _) <| .cons (grows_vanished.map _) <|
    .cons (grows_quota.map _) <| .cons (grows_quotaRoot.map _) <|
    .cons (grows_identification.map _) <| .cons (grows_rights.map _) .nil

theorem grows_completion : Grows limit 1 completion completion :=
  (grows_utf8 (Grows.run1 _)).bind fun _ => (Grows.word _).bind fun _ =>
    grows_condition.bind fun _ => grows_trailingText.bind fun _ => (Grows.word _).bind fun _ =>
      .succeed _

theorem grows_reply : Grows limit 1 reply reply :=
  .choice <| .cons grows_continuation <| .cons grows_untagged <| .cons grows_completion .nil

theorem growing_reply : Growing reply :=
  fun _ => grows_reply

end MailReplica.Wire.Grammar
