import Mathlib.Data.List.Forall2
import MailReplica.Wire.Token

/-! # Scanners of a stream

Octets arrive little by little, and a scanner sees those that have arrived.  A scanner *grows* with
its input when what it makes of some octets is what it makes of them whatever follows, unless it
waits for more (`Grows`).  All ways to put scanners together keep this, those that read values as
long as there are any under the condition that each value takes an octet.

A scanner of nested values that goes only so deep is related to one that goes to another depth: they
agree on inputs that are too short for either bound to matter.
-/

namespace MailReplica.Wire

variable {α β : Type}

/-- What becomes of a result when `more` octets follow the `size` octets that it was made of: a
result other than the wait for more stays as it is.  A value takes at least `least` of the octets. -/
inductive Scan.Carries (size least : Nat) (more : Octets) : Scan α → Scan α → Prop
  | found (value : α) (rest : Octets) (takes : rest.length + least ≤ size) :
      Carries size least more (.found value rest) (.found value (rest ++ more))
  | incomplete (later : Scan α) : Carries size least more .incomplete later
  | rejected : Carries size least more .rejected .rejected
  | unrepresentable : Carries size least more .unrepresentable .unrepresentable

theorem Scan.Carries.mono {size size' least least' : Nat} {more : Octets} {now later : Scan α}
    (carries : now.Carries size least more later) (le : size + least' ≤ size' + least) :
    now.Carries size' least' more later := by
  cases carries with
  | found value rest takes => exact .found value rest (by omega)
  | incomplete => exact .incomplete _
  | rejected => exact .rejected
  | unrepresentable => exact .unrepresentable

namespace Scanner

/-- What `short` makes of at most `limit` octets, `long` makes of them whatever follows, unless
`short` waits for more.  A value takes at least `least` octets. -/
def Grows (limit least : Nat) (short long : Scanner α) : Prop :=
  ∀ input more : Octets, input.length ≤ limit →
    (short input).Carries input.length least more (long (input ++ more))

/-- What a scanner of a stream makes of some octets, it makes of them whatever follows, unless it
waits for more; and a value takes at least one octet. -/
def Growing (scanner : Scanner α) : Prop :=
  ∀ limit, Grows limit 1 scanner scanner

variable {limit least : Nat}

namespace Grows

section Combinators

variable {short long : Scanner α}

theorem weaken (grows : Grows limit least short long) : Grows limit 0 short long :=
  fun input _ within => (grows input _ within).mono (by omega)

theorem succeed (value : α) : Grows limit 0 (pure value) (pure value) :=
  fun input _ _ => .found value input (Nat.le_refl _)

theorem reject : Grows limit least (reject : Scanner α) reject :=
  fun _ _ _ => .rejected

theorem unrepresentable :
    Grows limit least (fun _ => .unrepresentable : Scanner α) fun _ => .unrepresentable :=
  fun _ _ _ => .unrepresentable

theorem restrict {fewer : Nat} (grows : Grows limit least short long) (le : fewer ≤ limit) :
    Grows fewer least short long :=
  fun input more within => grows input more (Nat.le_trans within le)

/-- What is read next sees no more than the first scanner leaves. -/
theorem bind_within {next next' : α → Scanner β} (first : Grows limit least short long)
    (second : ∀ value fewer, fewer + least ≤ limit → Grows fewer 0 (next value) (next' value)) :
    Grows limit least (short >>= next) (long >>= next') := by
  intro input more within
  show Scan.Carries _ _ _ (andThen short next input) (andThen long next' (input ++ more))
  have carries := first input more within
  unfold andThen
  generalize short input = now, long (input ++ more) = later at carries ⊢
  cases carries with
  | found value rest takes =>
    exact (second value rest.length (by omega) rest more (Nat.le_refl _)).mono (by omega)
  | incomplete => exact .incomplete _
  | rejected => exact .rejected
  | unrepresentable => exact .unrepresentable

theorem bind {next next' : α → Scanner β} (first : Grows limit least short long)
    (second : ∀ value, Grows limit 0 (next value) (next' value)) :
    Grows limit least (short >>= next) (long >>= next') :=
  first.bind_within fun value _ le => (second value).restrict (Nat.le_of_add_right_le le)

theorem map (apply : α → β) (grows : Grows limit least short long) :
    Grows limit least (apply <$> short) (apply <$> long) :=
  grows.bind fun value => succeed (apply value)

theorem convert (apply : α → Option β) (grows : Grows limit least short long) :
    Grows limit least (convert short apply) (convert long apply) := by
  intro input more within
  have carries := grows input more within
  unfold Scanner.convert
  generalize short input = now, long (input ++ more) = later at carries ⊢
  cases carries with
  | found value rest takes =>
    cases result : apply value with
    | none => simpa only [result] using .rejected
    | some result' => simpa only [result] using .found result' rest takes
  | incomplete => exact .incomplete _
  | rejected => exact .rejected
  | unrepresentable => exact .unrepresentable

theorem orElse {short' long' : Scanner α} (first : Grows limit least short long)
    (second : Grows limit least short' long') :
    Grows limit least (orElse short short') (orElse long long') := by
  intro input more within
  have carries := first input more within
  unfold Scanner.orElse
  generalize short input = now, long (input ++ more) = later at carries ⊢
  cases carries with
  | found value rest takes => exact .found value rest takes
  | incomplete => exact .incomplete _
  | rejected => exact second input more within
  | unrepresentable => exact .unrepresentable

theorem optional (grows : Grows limit least short long) :
    Grows limit 0 (optional short) (optional long) :=
  (grows.weaken.map some).orElse (succeed none)

theorem choice {shorts longs : List (Scanner α)}
    (grow : List.Forall₂ (Grows limit least) shorts longs) :
    Grows limit least (choice shorts) (choice longs) := by
  induction grow with
  | nil => exact reject
  | cons grows others ih =>
    cases others with
    | nil => exact grows
    | cons => exact grows.orElse ih

/-- A choice among scanners each of which grows. -/
theorem choice_self {scanners : List (Scanner α)}
    (grow : ∀ scanner ∈ scanners, Grows limit least scanner scanner) :
    Grows limit least (Scanner.choice scanners) (Scanner.choice scanners) :=
  choice (List.forall₂_same.2 grow)

theorem manyWithin (grows : Grows limit 1 short long) {fuel fuel' : Nat} (values : List α)
    (input more : Octets) (within : input.length ≤ limit) (enough : input.length < fuel)
    (enough' : (input ++ more).length < fuel') :
    (manyWithin short fuel values input).Carries input.length 0 more
      (manyWithin long fuel' values (input ++ more)) := by
  induction fuel generalizing fuel' values input with
  | zero => cases enough
  | succ fuel ih =>
    cases fuel' with
    | zero => cases enough'
    | succ fuel' =>
      have carries := grows input more within
      unfold Scanner.manyWithin
      generalize short input = now, long (input ++ more) = later at carries ⊢
      cases carries with
      | found value rest takes =>
        rw [List.length_append] at enough'
        exact (ih (value :: values) rest (by omega) (by omega)
          (by rw [List.length_append]; omega)).mono (by omega)
      | incomplete => exact .incomplete _
      | rejected => exact .found _ _ (Nat.le_refl _)
      | unrepresentable => exact .unrepresentable

theorem many (grows : Grows limit 1 short long) : Grows limit 0 (many short) (many long) :=
  fun input more within =>
    grows.manyWithin [] input more within (Nat.lt_succ_self _) (Nat.lt_succ_self _)

theorem many1 (grows : Grows limit 1 short long) : Grows limit 1 (many1 short) (many1 long) :=
  grows.bind fun first => grows.many.bind fun others => succeed (first :: others)

theorem following {separator separator' : Scanner Unit}
    (first : Grows limit least separator separator') (second : Grows limit 0 short long) :
    Grows limit least (following separator short) (following separator' long) :=
  first.bind fun _ => second

theorem separated1 {separator separator' : Scanner Unit}
    (between : Grows limit 1 separator separator') (grows : Grows limit least short long) :
    Grows limit least (separated1 separator short) (separated1 separator' long) :=
  grows.bind fun first =>
    (between.following grows.weaken).many.bind fun others => succeed (first :: others)

theorem separated {separator separator' : Scanner Unit}
    (between : Grows limit 1 separator separator') (grows : Grows limit least short long) :
    Grows limit 0 (separated separator short) (separated separator' long) :=
  (between.separated1 grows.weaken).orElse (succeed [])

end Combinators

/-! ### Octets -/

theorem matching (same : UInt8 → UInt8 → Bool) (expected : Octets) :
    Grows limit expected.length (matching same expected) (matching same expected) := by
  intro input more within
  induction expected generalizing input with
  | nil => exact .found () input (Nat.le_refl _)
  | cons first others ih =>
    cases input with
    | nil => exact .incomplete _
    | cons octet rest =>
      simp only [Scanner.matching, List.cons_append]
      split
      · exact (ih rest (Nat.le_of_succ_le within)).mono (by simp; omega)
      · exact .rejected

theorem word (text : String) : Grows limit 0 (word text) (word text) :=
  (matching _ _).weaken

theorem keyword (text : String) : Grows limit 0 (keyword text) (keyword text) :=
  (matching _ _).weaken

/-- A word takes an octet unless it is empty. -/
theorem word_takes {text : String} (solid : Text.encode text ≠ []) :
    Grows limit 1 (Scanner.word text) (Scanner.word text) :=
  fun input _ within => (matching _ _ input _ within).mono (by
    have := List.length_pos_iff.2 solid
    omega)

/-- A run ends before an octet that has arrived, or it waits for more. -/
theorem run_go (accepts : UInt8 → Bool) (input read : Octets) :
    run.go accepts read input = .incomplete ∨ ∃ taken rest, input = taken ++ rest ∧
      ∀ more, run.go accepts read (input ++ more) = .found (read.reverse ++ taken) (rest ++ more) := by
  induction input generalizing read with
  | nil => exact .inl rfl
  | cons octet rest ih =>
    simp only [run.go, List.cons_append]
    cases accepts octet with
    | false => exact .inr ⟨[], octet :: rest, rfl, fun more => by simp⟩
    | true =>
      refine (ih (octet :: read)).imp id fun ⟨taken, left, split, goes⟩ => ?_
      exact ⟨octet :: taken, left, congrArg _ split, fun more => by simpa using goes more⟩

theorem run (accepts : UInt8 → Bool) : Grows limit 0 (run accepts) (run accepts) := by
  intro input more _
  show (run.go accepts [] input).Carries _ _ _ (run.go accepts [] (input ++ more))
  obtain waits | ⟨taken, rest, rfl, goes⟩ := run_go accepts input []
  · rw [waits]
    exact .incomplete _
  · have now := goes []
    rw [List.append_nil, List.append_nil] at now
    rw [now, goes more]
    exact .found _ rest (by simp)

/-- A run that has to hold an octet takes one. -/
theorem run1 (accepts : UInt8 → Bool) : Grows limit 1 (run1 accepts) (run1 accepts) := by
  intro input more _
  unfold Scanner.run1 Scanner.convert Scanner.run
  obtain waits | ⟨taken, rest, rfl, goes⟩ := run_go accepts input []
  · rw [waits]
    exact .incomplete _
  · have now := goes []
    rw [List.append_nil, List.append_nil] at now
    rw [now, goes more]
    cases taken with
    | nil => exact .rejected
    | cons octet taken => exact .found _ rest (by simp)

theorem take (count : Nat) : Grows limit 0 (take count) (take count) := by
  intro input more _
  unfold Scanner.take
  by_cases short : input.length < count
  · rw [if_pos short]
    exact .incomplete _
  · have enough : ¬ (input ++ more).length < count := by
      rw [List.length_append]
      omega
    rw [if_neg short, if_neg enough, List.take_append_of_le_length (by omega),
      List.drop_append_of_le_length (by omega)]
    exact .found _ _ (by simp)

/-! ### Lists -/

section Lists

variable {short long : Scanner α}

/-- What stands in parentheses sees less of the input. -/
theorem parenthesized (grows : ∀ fewer < limit, Grows fewer 0 short long) :
    Grows limit 1 (parenthesized short) (parenthesized long) :=
  (word_takes (by decide)).bind_within fun _ fewer less =>
    (grows fewer less).bind fun value => (word ")").bind fun _ => succeed value

theorem listOf (grows : ∀ fewer < limit, Grows fewer 0 short long) :
    Grows limit 1 (listOf short) (listOf long) :=
  parenthesized fun fewer less =>
    ((word_takes (by decide)).separated (grows fewer less)).bind fun values =>
      (word " ").optional.bind fun _ => succeed values

theorem listOf1 (grows : ∀ fewer < limit, Grows fewer 0 short long) :
    Grows limit 1 (listOf1 short) (listOf1 long) :=
  parenthesized fun fewer less =>
    ((word_takes (by decide)).separated1 (grows fewer less)).bind fun values =>
      (word " ").optional.bind fun _ => succeed values

end Lists

end Grows

end Scanner

/-! ## Tokens -/

namespace Token

open Scanner

variable {limit least : Nat}

theorem grows_numberBelow (size : Nat) :
    Grows limit 1 (numberBelow size) (numberBelow size) :=
  (Grows.run1 _).convert _

theorem grows_number : Grows limit 1 number number :=
  (grows_numberBelow _).map _

theorem grows_number64 : Grows limit 1 number64 number64 :=
  (grows_numberBelow _).map _

theorem grows_utf8 {short long : Scanner Octets} (grows : Grows limit least short long) :
    Grows limit least (utf8 short) (utf8 long) :=
  grows.convert _

/-- The content of a quoted string is told from what follows it by one octet, or by two if the first
is a backslash. -/
theorem quotedContent_go (input more read : Octets) :
    (quotedContent read input).Carries input.length 0 more
      (quotedContent read (input ++ more)) := by
  fun_induction quotedContent read input with
  | case1 | case2 => exact .incomplete _
  | case3 read octet ends =>
    obtain ⟨plain, ends⟩ : octet ≠ Octet.backslash ∧
        (isText octet && !isQuotedSpecial octet) = false := by simpa using ends
    have found : quotedContent read (octet :: more) = .found read.reverse (octet :: more) := by
      cases more <;> simp [quotedContent, plain, ends]
    exact found ▸ .found read.reverse [octet] (Nat.le_refl _)
  | case4 read octet next rest backslash special ih =>
    simp only [List.cons_append, quotedContent, backslash, special, if_true]
    exact ih.mono (by simp only [List.length_cons]; omega)
  | case5 read octet next rest backslash plain =>
    simp only [List.cons_append, quotedContent, backslash, plain, if_true]
    exact .rejected
  | case6 read octet next rest plain goes ih =>
    simp only [List.cons_append, quotedContent, plain, goes, if_true]
    exact ih.mono (by simp only [List.length_cons]; omega)
  | case7 read octet next rest plain ends =>
    simp only [List.cons_append, quotedContent, plain, ends]
    exact .found read.reverse (octet :: next :: rest) (Nat.le_refl _)

theorem grows_quoted : Grows limit 1 quoted quoted :=
  (Grows.word_takes (by decide)).bind fun _ =>
    Grows.bind (fun input more _ => quotedContent_go input more []) fun content =>
      (Grows.word _).bind fun _ => .succeed content

theorem grows_literal : Grows limit 1 literal literal :=
  (Grows.word_takes (by decide)).bind fun _ => grows_number.weaken.bind fun count =>
    (Grows.word _).bind fun _ => (Grows.word _).bind fun _ => .take count.toNat

theorem grows_string : Grows limit 1 string string :=
  grows_quoted.orElse grows_literal

theorem grows_stringText : Grows limit 1 stringText stringText :=
  grows_utf8 grows_string

theorem grows_nil : Grows limit 0 nil nil :=
  .keyword "NIL"

theorem grows_nstring : Grows limit 0 nstring nstring :=
  (grows_nil.map _).orElse (grows_string.weaken.map some)

theorem grows_nstringText : Grows limit 0 nstringText nstringText :=
  (grows_nil.map _).orElse (grows_stringText.weaken.map some)

theorem grows_atom : Grows limit 1 atom atom :=
  grows_utf8 (.run1 _)

theorem grows_astring : Grows limit 1 astring astring :=
  grows_utf8 ((Grows.run1 _).orElse grows_string)

theorem grows_text : Grows limit 0 text text :=
  grows_utf8 (.run _)

theorem grows_blanks : Grows limit 1 blanks blanks :=
  (Grows.run1 _).map _

end Token

end MailReplica.Wire
