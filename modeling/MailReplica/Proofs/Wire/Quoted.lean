import MailReplica.Proofs.Text.Encode
import MailReplica.Wire.Quoted

/-! # Quoted strings are read as they were written

What is written for a text is read as that text, whatever follows, if no line end stands in the
text; and it is no quoted string otherwise (`read?_write`).  A reader that goes by marks and
backslashes alone, and lets line ends stand, reads every text back (`unquote?_write`): writing loses
nothing, and what follows is left as it was (`write_lossless`).
-/

namespace MailReplica.Wire

/-- Whether a carriage return or a line feed stands in a text. -/
def HoldsLineEnd (text : String) : Prop :=
  '\r' ∈ text.toList ∨ '\n' ∈ text.toList

instance (text : String) : Decidable (HoldsLineEnd text) :=
  inferInstanceAs (Decidable (_ ∨ _))

theorem holdsLineEnd_append (first second : String) :
    HoldsLineEnd (first ++ second) ↔ HoldsLineEnd first ∨ HoldsLineEnd second := by
  simp only [HoldsLineEnd, String.toList_append, List.mem_append]
  exact or_or_or_comm

namespace Quoted

theorem readBody_quote (rest : List Char) : readBody ('"' :: rest) = some ([], rest) := by
  rw [readBody]

theorem readBody_escape_append (c : Char) (rest : List Char) :
    readBody (escape c ++ rest) =
      if c = '\r' ∨ c = '\n' then none
      else (readBody rest).map fun (content, rest) => (c :: content, rest) := by
  by_cases mark : c = '"'
  · subst mark
    exact readBody.eq_3 rest
  by_cases slash : c = '\\'
  · subst slash
    exact readBody.eq_4 rest
  rw [escape, if_neg (not_or.2 ⟨mark, slash⟩), List.singleton_append, readBody]
  · simp only [slash, false_or]
  · exact mark
  all_goals exact fun _ is => absurd is slash

theorem readBody_write (content rest : List Char) :
    readBody (content.flatMap escape ++ '"' :: rest) =
      if '\r' ∈ content ∨ '\n' ∈ content then none else some (content, rest) := by
  induction content with
  | nil => exact readBody_quote rest
  | cons c content ih =>
    rw [List.flatMap_cons, List.append_assoc, readBody_escape_append, ih]
    by_cases ends : c = '\r' ∨ c = '\n'
    · have holds : '\r' ∈ c :: content ∨ '\n' ∈ c :: content := by
        obtain rfl | rfl := ends
        · exact .inl List.mem_cons_self
        · exact .inr List.mem_cons_self
      rw [if_pos ends, if_pos holds]
    · have others : ('\r' ∈ c :: content ∨ '\n' ∈ c :: content) ↔
          ('\r' ∈ content ∨ '\n' ∈ content) := by
        simp only [List.mem_cons]
        grind
      simp only [if_neg ends, others]
      split <;> rfl

/-- What is written for a text is read as that text, unless a line end stands in it. -/
theorem read?_write (text : String) (rest : List Char) :
    read? ((write text).toList ++ rest) =
      if HoldsLineEnd text then none else some (text.toList, rest) := by
  rw [write, String.toList_ofList, List.cons_append, List.append_assoc]
  exact readBody_write text.toList rest

theorem mem_escape {c : Char} (plain : c ≠ '"' ∧ c ≠ '\\') (of : Char) :
    c ∈ escape of ↔ c = of := by
  unfold escape
  split
  · simp only [List.mem_cons, List.not_mem_nil, or_false, plain.2, false_or]
  · exact List.mem_singleton

theorem mem_write {c : Char} (plain : c ≠ '"' ∧ c ≠ '\\') (text : String) :
    c ∈ (write text).toList ↔ c ∈ text.toList := by
  simp only [write, String.toList_ofList, List.mem_cons, List.mem_append, List.mem_flatMap,
    mem_escape plain, plain.1, List.not_mem_nil, false_or, or_false, exists_eq_right']

/-! ## By marks and backslashes alone -/

/-- Reads up to the mark that ends a quoted string: the character behind a backslash is taken as it
is, and a mark with no backslash before it ends the string.  The result is the content and what
follows. -/
def unquoteBody : List Char → Option (List Char × List Char)
  | [] => none
  | '"' :: rest => some ([], rest)
  | '\\' :: c :: rest => (unquoteBody rest).map fun (content, rest) => (c :: content, rest)
  | c :: rest =>
    if c = '\\' then none
    else (unquoteBody rest).map fun (content, rest) => (c :: content, rest)

/-- Reads a quoted string that starts with the first character; the result is the content and what
follows. -/
def unquote? : List Char → Option (List Char × List Char)
  | '"' :: rest => unquoteBody rest
  | _ => none

/-- A text with each occurrence of a character replaced. -/
def replaced (c : Char) (replacement text : List Char) : List Char :=
  text.flatMap fun other => if other = c then replacement else [other]

theorem unquoteBody_plain {c : Char} (plain : c ≠ '"' ∧ c ≠ '\\') (rest : List Char) :
    unquoteBody (c :: rest) =
      (unquoteBody rest).map fun (content, rest) => (c :: content, rest) := by
  rw [unquoteBody.eq_4 c rest plain.1 (fun _ _ slash _ => plain.2 slash), if_neg plain.2]

theorem unquoteBody_escape_append (c : Char) (rest : List Char) :
    unquoteBody (escape c ++ rest) =
      (unquoteBody rest).map fun (content, rest) => (c :: content, rest) := by
  by_cases special : c = '"' ∨ c = '\\'
  · rw [escape, if_pos special]
    exact unquoteBody.eq_3 c rest
  · rw [escape, if_neg special]
    exact unquoteBody_plain (not_or.1 special) rest

theorem unquoteBody_write (content rest : List Char) :
    unquoteBody (content.flatMap escape ++ '"' :: rest) = some (content, rest) := by
  induction content with
  | nil => exact unquoteBody.eq_2 rest
  | cons c content ih =>
    rw [List.flatMap_cons, List.append_assoc, unquoteBody_escape_append, ih]
    rfl

theorem unquote?_write (text : String) (rest : List Char) :
    unquote? ((write text).toList ++ rest) = some (text.toList, rest) := by
  rw [write, String.toList_ofList, List.cons_append, List.append_assoc]
  exact unquoteBody_write text.toList rest

/-- What stands up to the closing mark tells the content, whatever follows. -/
theorem unquoteBody_append {text content after : List Char} (more : List Char)
    (reads : unquoteBody text = some (content, after)) :
    unquoteBody (text ++ more) = some (content, after ++ more) := by
  fun_induction unquoteBody text generalizing content after with
  | case1 => cases reads
  | case2 rest =>
    cases reads
    exact unquoteBody.eq_2 (rest ++ more)
  | case3 c rest ih =>
    obtain ⟨⟨inner, left⟩, readsRest, found⟩ := Option.map_eq_some_iff.1 reads
    cases found
    rw [List.cons_append, List.cons_append, unquoteBody.eq_3, ih readsRest]
    rfl
  | case4 rest => cases reads
  | case5 c rest mark _ slash ih =>
    obtain ⟨⟨inner, left⟩, readsRest, found⟩ := Option.map_eq_some_iff.1 reads
    cases found
    rw [List.cons_append, unquoteBody_plain ⟨mark, slash⟩, ih readsRest]
    rfl

theorem unquote?_append {text content after : List Char} (more : List Char)
    (reads : unquote? text = some (content, after)) :
    unquote? (text ++ more) = some (content, after ++ more) := by
  cases text with
  | nil => cases reads
  | cons c text =>
    by_cases mark : c = '"'
    · subst mark
      exact unquoteBody_append more reads
    · rw [unquote?.eq_2 _ fun rest is => mark (List.cons.inj is).1] at reads
      cases reads

/-- Two replacements, one after the other, come to the same as escaping each character: the second
does not touch what the first put in. -/
theorem flatMap_escape (text : List Char) :
    text.flatMap escape = replaced '"' ['\\', '"'] (replaced '\\' ['\\', '\\'] text) := by
  rw [replaced, replaced, List.flatMap_assoc]
  refine congrArg text.flatMap (funext fun c => ?_)
  by_cases slash : c = '\\'
  · subst slash
    rfl
  by_cases mark : c = '"'
  · subst mark
    rfl
  · rw [escape, if_neg (not_or.2 ⟨mark, slash⟩), if_neg slash, List.flatMap_singleton, if_neg mark]

/-- Writing loses nothing.  What is written for a text is the text after the two replacements,
between marks.  It is read as the text, and whatever follows is left as it was; no beginning of it
is a quoted string.  So texts that are written alike, whatever follows them, are the same. -/
theorem write_lossless (text : String) :
    (write text).toList =
        '"' :: (replaced '"' ['\\', '"'] (replaced '\\' ['\\', '\\'] text.toList) ++ ['"']) ∧
      (∀ rest, unquote? ((write text).toList ++ rest) = some (text.toList, rest)) ∧
      (∀ before after, (write text).toList = before ++ after → after ≠ [] →
        unquote? before = none) ∧
      ∀ other rest otherRest, (write text).toList ++ rest = (write other).toList ++ otherRest →
        text = other ∧ rest = otherRest := by
  refine ⟨?_, unquote?_write text, fun before after cut more => ?_,
    fun other rest otherRest alike => ?_⟩
  · rw [write, String.toList_ofList, flatMap_escape]
  · -- A reading of a beginning would also be one of the whole, and leave something over.
    rw [Option.eq_none_iff_forall_ne_some]
    rintro ⟨content, left⟩ reads
    have whole := unquote?_append after reads
    rw [← cut, ← List.append_nil (write text).toList, unquote?_write] at whole
    have remains : [] = left ++ after := (Prod.mk.inj (Option.some.inj whole)).2
    exact more (List.append_eq_nil_iff.1 remains.symm).2
  · have same : some (text.toList, rest) = some (other.toList, otherRest) := by
      rw [← unquote?_write text rest, alike, unquote?_write]
    obtain ⟨texts, rests⟩ := Prod.mk.inj (Option.some.inj same)
    exact ⟨String.toList_inj.1 texts, rests⟩

/-- A text that ends in a backslash, with a mark before it. -/
theorem write_lossless_backslash :
    write "a\"\\" = "\"a\\\"\\\\\"" ∧
      unquote? (write "a\"\\" ++ " \"b\"").toList = some ("a\"\\".toList, " \"b\"".toList) ∧
      unquote? "\"a\\\"\\\\".toList = none := by
  obtain ⟨written, reads, cuts, -⟩ := write_lossless "a\"\\"
  have spelled : write "a\"\\" = "\"a\\\"\\\\\"" := String.toList_inj.1 (written.trans (by decide))
  refine ⟨spelled, ?_, cuts _ ['"'] (by rw [spelled]; decide) (List.cons_ne_nil _ _)⟩
  rw [String.toList_append]
  exact reads _

end Quoted

end MailReplica.Wire
