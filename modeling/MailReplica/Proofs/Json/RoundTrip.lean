import Mathlib.Tactic.IntervalCases
import MailReplica.Json.Layout
import MailReplica.Json.Reader

/-! # Reading what was written

A reader takes characters for a value when it takes them and nothing more, after any blanks and
wherever a number would end (`Takes`).  It restores a kind of values if it takes what is written for
each of them, in either style, for that value (`Restores`).  Strings are restored
(`restores_text`), and lists are if their elements are (`restores_list`); an object is read member by
member, where each member fills in what has been read so far (`Fills`, `takes_record`).
-/

namespace MailReplica.Json

variable {α β σ : Type}

/-! ## Readers and the characters that they take -/

def IsBlank (chars : List Char) : Prop :=
  ∀ c ∈ chars, isGap c = true

/-- No number goes on with this character. -/
abbrev BreaksNumber (c : Char) : Prop :=
  isDigit c = false ∧ c ≠ '.' ∧ c ≠ 'e' ∧ c ≠ 'E'

/-- No number goes on with these characters. -/
def EndsNumber (rest : List Char) : Prop :=
  ∀ c ∈ rest.head?, BreaksNumber c

/-- A reader takes `chars` for `value`, after blanks and wherever a number would end. -/
def Takes (read : Reader α) (chars : List Char) (value : α) : Prop :=
  ∀ gap rest, IsBlank gap → EndsNumber rest →
    read.run (gap ++ (chars ++ rest)) = .ok (value, rest)

/-- A reader takes what is written for a value for that value, in either style. -/
def Restores (read : Reader α) (layout : α → Layout) : Prop :=
  ∀ style value, Takes read (layout value style) value

/-- What is written for each value begins with a character that is no blank, closes no list and
begins no mark of absence. -/
def Opens (layout : α → Layout) : Prop :=
  ∀ style value, ∃ first rest, layout value style = first :: rest ∧ isGap first = false ∧
    first ≠ ']' ∧ first ≠ 'n'

theorem isBlank_nil : IsBlank [] :=
  nofun

theorem isBlank_lineBreak (style : Style) : IsBlank style.lineBreak := by
  cases style with
  | compact => exact isBlank_nil
  | indented depth =>
    intro c member
    obtain rfl | member := List.mem_cons.1 member
    · rfl
    · rw [List.eq_of_mem_replicate member]
      rfl

theorem breaksNumber_of_isGap {c : Char} (gap : isGap c = true) : BreaksNumber c := by
  simp only [isGap, Bool.or_eq_true, beq_iff_eq] at gap
  obtain ((rfl | rfl) | rfl) | rfl := gap <;> decide

theorem endsNumber_cons {c : Char} (rest : List Char) (breaks : BreaksNumber c) :
    EndsNumber (c :: rest) :=
  fun _ is => Option.some_inj.1 is ▸ breaks

theorem EndsNumber.blank {gap rest : List Char} (ends : EndsNumber rest) (blank : IsBlank gap) :
    EndsNumber (gap ++ rest) := by
  cases gap with
  | nil => exact ends
  | cons c gap => exact endsNumber_cons _ (breaksNumber_of_isGap (blank c List.mem_cons_self))

theorem run_bind_of_ok {read : Reader α} {next : α → Reader β} {chars rest : List Char} {value : α}
    (ran : read.run chars = .ok (value, rest)) :
    (read >>= next).run chars = (next value).run rest := by
  rw [StateT.run_bind, ran]
  rfl

theorem run_map_of_ok {read : Reader α} {apply : α → β} {chars rest : List Char} {value : α}
    (ran : read.run chars = .ok (value, rest)) :
    (apply <$> read).run chars = .ok (apply value, rest) := by
  rw [StateT.run_map, ran]
  rfl

theorem Takes.map {read : Reader α} {chars : List Char} {value : α} (takes : Takes read chars value)
    (apply : α → β) : Takes (apply <$> read) chars (apply value) :=
  fun gap rest blank ends => run_map_of_ok (takes gap rest blank ends)

section Value

variable {read : Char → Reader α} {first : Char} {gap : List Char}

theorem run_peek (blank : IsBlank gap) (solid : isGap first = false) (rest : List Char) :
    peek.run (gap ++ first :: rest) = .ok (some first, first :: rest) := by
  have dropped : (gap ++ first :: rest).dropWhile isGap = first :: rest := by
    rw [List.dropWhile_append_of_pos blank, List.dropWhile_cons_of_neg (by simp [solid])]
  simp only [peek, StateT.run_bind, StateT.run_modify, StateT.run_get, pure_bind, StateT.run_pure,
    dropped, List.head?_cons]
  rfl

/-- A value is read by its first character. -/
theorem run_value (blank : IsBlank gap) (solid : isGap first = false) (rest : List Char) :
    (value read).run (gap ++ first :: rest) = (read first).run (first :: rest) :=
  run_bind_of_ok (run_peek blank solid rest)

theorem takes_value {chars : List Char} {result : α} (solid : isGap first = false)
    (ran : ∀ rest, EndsNumber rest →
      (read first).run (first :: (chars ++ rest)) = .ok (result, rest)) :
    Takes (value read) (first :: chars) result := by
  intro gap rest blank ends
  rw [List.cons_append, run_value blank solid]
  exact ran rest ends

theorem run_advance (c : Char) (rest : List Char) : advance.run (c :: rest) = .ok ((), rest) :=
  rfl

theorem run_colon (blank : IsBlank gap) (style : Style) (rest : List Char) :
    ∃ space, IsBlank space ∧ colon.run (gap ++ (style.colon ++ rest)) = .ok ((), space ++ rest) := by
  cases style with
  | compact => exact ⟨[], isBlank_nil, run_value blank rfl rest⟩
  | indented => exact ⟨[' '], by simp [IsBlank, isGap], run_value blank rfl (' ' :: rest)⟩

theorem run_closeList (blank : IsBlank gap) (rest : List Char) :
    closeList.run (gap ++ ']' :: rest) = .ok ((), rest) :=
  run_value blank rfl rest

theorem run_closeRecord (blank : IsBlank gap) (rest : List Char) :
    closeRecord.run (gap ++ '}' :: rest) = .ok ((), rest) :=
  run_value blank rfl rest

end Value

/-! ## Strings -/

theorem numberedChar_escape {c : Char} (control : c.toNat < 0x20) (rest : List Char) :
    numberedChar ('0' :: '0' :: hexDigit (c.toNat / 16) :: hexDigit (c.toNat % 16) :: rest) =
      .ok (c, rest) := by
  have number : Char.ofNat c.toNat = c := Char.ofNat_toNat c
  generalize c.toNat = value at *
  subst number
  interval_cases value <;> rfl

theorem stringChar_escape (c : Char) (rest : List Char) :
    stringChar (escape c ++ rest) = .ok (some c, rest) := by
  unfold escape
  split
  case h_8 =>
    split
    next control =>
      show (numberedChar ('0' :: '0' :: hexDigit _ :: hexDigit _ :: rest)).map _ = _
      rw [numberedChar_escape control]
      rfl
    next plain =>
      unfold stringChar
      split
      all_goals simp_all
  all_goals rfl

theorem length_le_flatMap_escape (chars : List Char) :
    chars.length ≤ (chars.flatMap escape).length := by
  induction chars with
  | nil => exact Nat.le_refl _
  | cons c chars ih =>
    have some : 1 ≤ (escape c).length := by
      unfold escape
      repeat' split
      all_goals simp
    simp only [List.flatMap_cons, List.length_append, List.length_cons]
    omega

theorem stringBody_flatMap_escape (chars read rest : List Char) {fuel : Nat}
    (enough : chars.length < fuel) :
    (stringBody fuel read).run (chars.flatMap escape ++ '"' :: rest) =
      .ok (String.ofList (read.reverse ++ chars), rest) := by
  induction chars generalizing read fuel with
  | nil =>
    obtain ⟨fuel, rfl⟩ := Nat.exists_eq_succ_of_ne_zero (Nat.ne_zero_of_lt enough)
    rw [List.append_nil]
    rfl
  | cons c chars ih =>
    obtain ⟨fuel, rfl⟩ := Nat.exists_eq_succ_of_ne_zero (Nat.ne_zero_of_lt enough)
    have next := ih (c :: read) (Nat.lt_of_succ_lt_succ enough)
    rw [List.flatMap_cons, List.append_assoc]
    simp only [stringBody, StateT.run_bind, StateT.run_get, pure_bind, StateT.run_monadLift,
      stringChar_escape]
    rw [List.reverse_cons, List.append_assoc] at next
    exact next

theorem run_string (value : String) (rest : List Char) :
    string.run (value.toList.flatMap escape ++ '"' :: rest) = .ok (value, rest) := by
  have enough : value.toList.length <
      (value.toList.flatMap escape ++ '"' :: rest).length + 1 := by
    have := length_le_flatMap_escape value.toList
    simp only [List.length_append]
    omega
  have read := stringBody_flatMap_escape value.toList [] rest enough
  rw [List.reverse_nil, List.nil_append, String.ofList_toList] at read
  exact read

theorem quoted_append (value : String) (rest : List Char) :
    quoted value ++ rest = '"' :: (value.toList.flatMap escape ++ '"' :: rest) := by
  simp [quoted]

theorem run_text {gap : List Char} (blank : IsBlank gap) (value : String) (rest : List Char) :
    text.run (gap ++ (quoted value ++ rest)) = .ok (value, rest) := by
  rw [quoted_append]
  exact (run_value blank rfl _).trans (run_string value rest)

theorem restores_text : Restores text Layout.text :=
  fun _ value _ rest blank _ => run_text blank value rest

theorem opens_text : Opens Layout.text :=
  fun _ _ => ⟨'"', _, rfl, rfl, by decide, by decide⟩

/-! ## Truth values and missing values -/

theorem restores_truth : Restores truth Layout.truth := by
  intro style value
  cases value with
  | true => exact takes_value rfl fun _ _ => rfl
  | false => exact takes_value rfl fun _ _ => rfl

theorem restores_optional {read : Reader α} {layout : α → Layout} (restores : Restores read layout)
    (opens : Opens layout) : Restores (optional read) (Layout.optional layout) := by
  intro style value? gap rest blank ends
  cases value? with
  | none =>
    exact run_bind_of_ok (run_peek blank rfl ('u' :: 'l' :: 'l' :: rest))
  | some value =>
    obtain ⟨first, others, written, solid, _, present⟩ := opens style value
    have taken := restores style value [] rest isBlank_nil ends
    rw [List.nil_append, written] at taken
    rw [Layout.optional, written, List.cons_append, optional,
      run_bind_of_ok (run_peek blank solid _), if_neg (by simpa using present)]
    exact run_map_of_ok taken

/-! ## Lists -/

/-- Parts that are not empty have as many characters, wherever they stand in a text. -/
theorem length_lt_append_flatMap {part : α → List Char} (full : ∀ value, part value ≠ [])
    (values : List α) (front first gap : List Char) (last : Char) (rest : List Char) :
    values.length <
      (front ++ (first ++ (values.flatMap part ++ (gap ++ last :: rest)))).length := by
  have parts : values.length ≤ (values.flatMap part).length := by
    induction values with
    | nil => exact Nat.le_refl _
    | cons value values ih =>
      have some := List.length_pos_iff.2 (full value)
      rw [List.flatMap_cons, List.length_append, List.length_cons]
      omega
  simp only [List.length_append, List.length_cons]
  omega

section List

variable {element : Reader α} {layout : α → Layout} {gap : List Char}

theorem run_nextElement_first (restores : Restores element layout) (opens : Opens layout)
    (style : Style) (value : α) (blank : IsBlank gap) {rest : List Char} (ends : EndsNumber rest) :
    (nextElement true element).run (gap ++ (layout value style ++ rest)) =
      .ok (some value, rest) := by
  obtain ⟨first, others, written, solid, goes, _⟩ := opens style value
  have taken := restores style value [] rest isBlank_nil ends
  rw [List.nil_append, written] at taken
  rw [written, List.cons_append, nextElement, run_value blank solid, if_neg goes, if_pos rfl]
  exact run_map_of_ok taken

theorem run_nextElement_other (restores : Restores element layout) (opens : Opens layout)
    (style : Style) (value : α) (blank : IsBlank gap) {rest : List Char} (ends : EndsNumber rest) :
    (nextElement false element).run (',' :: (gap ++ (layout value style ++ rest))) =
      .ok (some value, rest) := by
  obtain ⟨first, others, written, solid, goes, _⟩ := opens style value
  have taken := restores style value [] rest isBlank_nil ends
  rw [List.nil_append, written] at taken
  refine (run_value isBlank_nil rfl _).trans ?_
  change (Json.value _).run (gap ++ (layout value style ++ rest)) = _
  rw [written, List.cons_append, run_value blank solid, if_neg goes]
  exact run_map_of_ok taken

/-- The elements of a list after its first. -/
def others (layout : α → Layout) (style : Style) (values : List α) : List Char :=
  values.flatMap fun value => ',' :: (style.lineBreak ++ layout value style)

theorem EndsNumber.others {rest : List Char} (ends : EndsNumber rest) (layout : α → Layout)
    (style : Style) (values : List α) : EndsNumber (others layout style values ++ rest) := by
  cases values with
  | nil => exact ends
  | cons => exact endsNumber_cons _ (by decide)

theorem elements_others (restores : Restores element layout) (opens : Opens layout) (style : Style)
    (values rest : List α) (last : α) (blank : IsBlank gap) (after : List Char) {fuel : Nat}
    (enough : values.length < fuel) :
    (elements element fuel (last :: rest)).run
        (others layout style values ++ (gap ++ ']' :: after)) =
      .ok ((last :: rest).reverse ++ values, ']' :: after) := by
  induction values generalizing rest last fuel with
  | nil =>
    obtain ⟨fuel, rfl⟩ := Nat.exists_eq_succ_of_ne_zero (Nat.ne_zero_of_lt enough)
    have none : (nextElement false element).run (gap ++ ']' :: after) = .ok (none, ']' :: after) :=
      run_value blank rfl after
    rw [List.append_nil]
    exact run_bind_of_ok none
  | cons value values ih =>
    obtain ⟨fuel, rfl⟩ := Nat.exists_eq_succ_of_ne_zero (Nat.ne_zero_of_lt enough)
    have next := ih (last :: rest) value (Nat.lt_of_succ_lt_succ enough)
    have ends := ((endsNumber_cons after (by decide : BreaksNumber ']')).blank blank).others
      layout style values
    rw [List.reverse_cons, List.append_assoc] at next
    rw [others, List.flatMap_cons, List.append_assoc, List.cons_append, List.append_assoc]
    exact (run_bind_of_ok
      (run_nextElement_other restores opens style value (isBlank_lineBreak style) ends)).trans next

theorem elements_first (restores : Restores element layout) (opens : Opens layout) (style : Style)
    (value : α) (values : List α) (blank : IsBlank gap) (after : List Char) {fuel : Nat}
    (enough : values.length < fuel) :
    (elements element (fuel + 1) []).run
        (style.lineBreak ++ (layout value style ++
          (others layout style values ++ (gap ++ ']' :: after)))) =
      .ok (value :: values, ']' :: after) := by
  have ends := ((endsNumber_cons after (by decide : BreaksNumber ']')).blank blank).others
    layout style values
  exact (run_bind_of_ok
    (run_nextElement_first restores opens style value (isBlank_lineBreak style) ends)).trans
    (elements_others restores opens style values [] value blank after enough)

theorem layout_list_cons (layout : α → Layout) (style : Style) (value : α) (values : List α) :
    Layout.list ((value :: values).map layout) style =
      '[' :: (style.inner.lineBreak ++ (layout value style.inner ++
        (others layout style.inner values ++ (style.lineBreak ++ [']'])))) := by
  simp [Layout.list, Layout.bracketed, others, List.flatMap_map]

theorem restores_list (restores : Restores element layout) (opens : Opens layout) :
    Restores (list element) fun values => .list (values.map layout) := by
  intro style values
  change Takes (list element) (Layout.list (values.map layout) style) values
  cases values with
  | nil => exact takes_value rfl fun _ _ => rfl
  | cons value values =>
    rw [layout_list_cons]
    refine takes_value rfl fun after _ => ?_
    simp only [List.append_assoc, List.singleton_append]
    have blank := isBlank_lineBreak style
    generalize written : style.inner.lineBreak ++ (layout value style.inner ++
      (others layout style.inner values ++ (style.lineBreak ++ ']' :: after))) = chars
    -- The reader allows for as many elements as there are characters left.
    have enough : values.length < chars.length := by
      rw [← written]
      exact length_lt_append_flatMap (fun _ => List.cons_ne_nil _ _) values ..
    have read : (elements element (chars.length + 1) []).run chars =
        .ok (value :: values, ']' :: after) := by
      rw [← written]
      exact elements_first restores opens style.inner value values blank after (written ▸ enough)
    rw [if_pos trivial]
    change StateT.run (elements element (chars.length + 1) [] >>= fun values => do
      closeList
      return values) chars = _
    exact (run_bind_of_ok read).trans (run_bind_of_ok (run_closeList isBlank_nil after))

end List

/-! ## Records -/

/-- The members of an object after its first. -/
def otherMembers (style : Style) (fields : List (String × Layout)) : List Char :=
  fields.flatMap fun field => ',' :: (style.lineBreak ++ Layout.member field.1 field.2 style)

/-- Reading the members `fields` one after the other makes `final` of what has been read. -/
inductive Fills (member : σ → String → Reader σ) (style : Style) :
    σ → List (String × Layout) → σ → Prop
  | done {read : σ} : Fills member style read [] read
  | next {read after final : σ} {name : String} {layout : Layout} {fields : List (String × Layout)}
      (takes : Takes (member read name) (style.colon ++ layout style) after)
      (rest : Fills member style after fields final) :
      Fills member style read ((name, layout) :: fields) final

section Record

variable {member : σ → String → Reader σ} {style : Style} {read after start final : σ}
  {fields : List (String × Layout)} {gap : List Char} {name : String} {layout : Layout}

theorem EndsNumber.otherMembers {rest : List Char} (ends : EndsNumber rest) (style : Style)
    (fields : List (String × Layout)) : EndsNumber (otherMembers style fields ++ rest) := by
  cases fields with
  | nil => exact ends
  | cons => exact endsNumber_cons _ (by decide)

theorem Fills.append {others : List (String × Layout)} (fills : Fills member style read fields after)
    (more : Fills member style after others final) :
    Fills member style read (fields ++ others) final := by
  induction fills with
  | done => exact more
  | next takes _ ih => exact .next takes (ih more)

theorem run_nextName_first (blank : IsBlank gap) (name : String) (rest : List Char) :
    (nextName true).run (gap ++ (quoted name ++ rest)) = .ok (some name, rest) := by
  have read := run_text isBlank_nil name rest
  rw [List.nil_append, quoted_append] at read
  rw [quoted_append, nextName, run_value blank rfl]
  exact run_map_of_ok read

theorem run_nextName_other (blank : IsBlank gap) (name : String) (rest : List Char) :
    (nextName false).run (',' :: (gap ++ (quoted name ++ rest))) = .ok (some name, rest) := by
  have read := run_text isBlank_nil name rest
  rw [List.nil_append, quoted_append] at read
  refine (run_value isBlank_nil rfl _).trans ?_
  change (Json.value _).run (gap ++ (quoted name ++ rest)) = _
  rw [quoted_append, run_value blank rfl]
  exact run_map_of_ok read

theorem run_nextName_none (blank : IsBlank gap) (first : Bool) (rest : List Char) :
    (nextName first).run (gap ++ '}' :: rest) = .ok (none, '}' :: rest) :=
  run_value blank rfl rest

theorem members_other (fills : Fills member style read fields final) (blank : IsBlank gap)
    (rest : List Char) {fuel : Nat} (enough : fields.length < fuel) :
    (members member fuel false read).run (otherMembers style fields ++ (gap ++ '}' :: rest)) =
      .ok (final, '}' :: rest) := by
  induction fills generalizing fuel with
  | done =>
    obtain ⟨fuel, rfl⟩ := Nat.exists_eq_succ_of_ne_zero (Nat.ne_zero_of_lt enough)
    exact run_bind_of_ok (run_nextName_none blank false rest)
  | @next _ _ _ name layout fields takes fills ih =>
    obtain ⟨fuel, rfl⟩ := Nat.exists_eq_succ_of_ne_zero (Nat.ne_zero_of_lt enough)
    have ends := ((endsNumber_cons rest (by decide : BreaksNumber '}')).blank
      blank).otherMembers style fields
    have taken := takes [] _ isBlank_nil ends
    rw [otherMembers, List.flatMap_cons, Layout.member]
    simp only [List.append_assoc, List.cons_append]
    refine (run_bind_of_ok (run_nextName_other (isBlank_lineBreak style) name _)).trans ?_
    rw [List.nil_append, List.append_assoc] at taken
    exact (run_bind_of_ok taken).trans (ih (Nat.lt_of_succ_lt_succ enough))

theorem members_first (takes : Takes (member read name) (style.colon ++ layout style) after)
    (fills : Fills member style after fields final) (blank : IsBlank gap) (rest : List Char)
    {fuel : Nat} (enough : fields.length < fuel) :
    (members member (fuel + 1) true read).run (style.lineBreak ++
        (Layout.member name layout style ++ (otherMembers style fields ++ (gap ++ '}' :: rest)))) =
      .ok (final, '}' :: rest) := by
  have ends := ((endsNumber_cons rest (by decide : BreaksNumber '}')).blank
    blank).otherMembers style fields
  have taken := takes [] _ isBlank_nil ends
  rw [List.nil_append, List.append_assoc] at taken
  rw [Layout.member]
  simp only [List.append_assoc]
  refine (run_bind_of_ok (run_nextName_first (isBlank_lineBreak style) name _)).trans ?_
  exact (run_bind_of_ok taken).trans (members_other fills blank rest enough)

theorem layout_record_cons (name : String) (layout : Layout) (fields : List (String × Layout))
    (style : Style) :
    Layout.record ((name, layout) :: fields) style =
      '{' :: (style.inner.lineBreak ++ (Layout.member name layout style.inner ++
        (otherMembers style.inner fields ++ (style.lineBreak ++ ['}'])))) := by
  simp [Layout.record, Layout.bracketed, otherMembers, List.flatMap_map]

theorem takes_record {finish : σ → Reader α} {inOrder : Reader α} {value : α}
    (fills : Fills member style.inner start fields final) (finished : finish final = pure value) :
    Takes (record member start finish inOrder) (Layout.record fields style) value := by
  have closes (rest : List Char) : (do
      let result ← finish final
      closeRecord
      return result : Reader α).run ('}' :: rest) = .ok (value, rest) := by
    rw [finished, pure_bind]
    exact run_bind_of_ok (run_closeRecord isBlank_nil rest)
  cases fills with
  | done => exact takes_value rfl fun rest _ => closes rest
  | @next _ after _ name layout fields takes fills =>
    rw [layout_record_cons]
    refine takes_value rfl fun rest _ => ?_
    simp only [List.append_assoc, List.singleton_append]
    have blank := isBlank_lineBreak style
    generalize written : style.inner.lineBreak ++ (Layout.member name layout style.inner ++
      (otherMembers style.inner fields ++ (style.lineBreak ++ '}' :: rest))) = chars
    -- The reader allows for as many members as there are characters left.
    have enough : fields.length < chars.length := by
      rw [← written]
      exact length_lt_append_flatMap (fun _ => List.cons_ne_nil _ _) fields ..
    have read : (members member (chars.length + 1) true start).run chars =
        .ok (final, '}' :: rest) := by
      rw [← written]
      exact members_first takes fills blank rest (written ▸ enough)
    rw [if_neg (by decide), if_pos trivial]
    change StateT.run (members member (chars.length + 1) true start >>= fun read => do
      let result ← finish read
      closeRecord
      return result) chars = _
    exact (run_bind_of_ok read).trans (closes rest)

/-- The value of a member that comes for the first time is taken with its colon. -/
theorem Takes.once {content : Reader α} {chars : List Char} {value : α}
    (takes : Takes content chars value) (style : Style) (fill : Option α → σ) :
    Takes (once none content >>= fun seen => pure (fill seen)) (style.colon ++ chars)
      (fill (some value)) := by
  intro gap rest blank ends
  obtain ⟨space, spaced, passed⟩ := run_colon blank style (chars ++ rest)
  have read : (Json.once none content).run (gap ++ (style.colon ++ (chars ++ rest))) =
      .ok (some value, rest) :=
    (run_bind_of_ok passed).trans (run_map_of_ok (takes space rest spaced ends))
  rw [List.append_assoc]
  exact run_bind_of_ok read

theorem Fills.field {content : Reader α} {layout : α → Layout} (restores : Restores content layout)
    (value : α) (fill : Option α → σ)
    (reads : member (fill none) name = once none content >>= fun seen => pure (fill seen))
    (rest : Fills member style (fill (some value)) fields final) :
    Fills member style (fill none) ((name, layout value) :: fields) final :=
  .next (reads ▸ (restores style value).once style fill) rest

/-- A member that is left out where there is no value. -/
theorem fills_toList {content : Reader α} {layout : α → Layout} (restores : Restores content layout)
    (opens : Opens layout) (fill : Option (Option α) → σ)
    (reads : member (fill none) name =
      once none (optional content) >>= fun seen => pure (fill seen)) (value? : Option α) :
    Fills member style (fill none) (value?.map fun value => (name, layout value)).toList
      (fill (value?.map some)) := by
  cases value? with
  | none => exact .done
  | some value => exact .field (restores_optional restores opens) (some value) fill reads .done

end Record

/-! ## Choices -/

section Choice

variable {plain : String → Option α} {holding : String → Option (Reader α)} {name : String}
  {value : α}

theorem takes_choice_plain (is : plain name = some value) :
    Takes (choice plain holding) (quoted name) value := by
  intro gap rest blank _
  have read := run_text isBlank_nil name rest
  rw [List.nil_append, quoted_append] at read
  rw [quoted_append, choice, run_value blank rfl, if_pos rfl, run_bind_of_ok read, is]
  rfl

theorem takes_choice_holding {content : Reader α} {layout : Layout} {style : Style}
    (unnamed : plain name = none) (holds : holding name = some content)
    (takes : Takes content (layout style.inner) value) :
    Takes (choice plain holding) (Layout.record [(name, layout)] style) value := by
  rw [layout_record_cons]
  refine takes_value rfl fun rest _ => ?_
  simp only [otherMembers, Layout.member, List.flatMap_nil, List.nil_append, List.append_assoc,
    List.singleton_append]
  have blank := isBlank_lineBreak style
  obtain ⟨space, spaced, passed⟩ := run_colon isBlank_nil style.inner
    (layout style.inner ++ (style.lineBreak ++ '}' :: rest))
  have taken := takes space (style.lineBreak ++ '}' :: rest) spaced
    ((endsNumber_cons rest (by decide)).blank blank)
  rw [if_neg (by decide), if_pos trivial]
  refine (run_bind_of_ok (run_advance '{' _)).trans ?_
  refine (run_bind_of_ok (run_text (isBlank_lineBreak style.inner) name _)).trans ?_
  rw [unnamed, holds]
  change StateT.run (do
    colon
    let value ← content
    closeRecord
    return value) _ = _
  refine (run_bind_of_ok passed).trans ?_
  exact (run_bind_of_ok taken).trans (run_bind_of_ok (run_closeRecord blank rest))

end Choice

/-- A text is read as what it was written for. -/
theorem readText_ofList {read : Reader α} {chars : List Char} {value : α}
    (takes : Takes read chars value) : readText read (String.ofList chars) = .ok value := by
  have whole := takes [] [] isBlank_nil nofun
  rw [List.nil_append, List.append_nil] at whole
  rw [readText, String.toList_ofList, whole]
  rfl

end MailReplica.Json
