import MailReplica.Header.EncodedWord

/-! # Unstructured text

The value of a field such as `Subject`: words and encoded words, each run of blanks and line ends
between them read as one space, and none between two encoded words.
-/

namespace MailReplica.Header

theorem afterEquals?_length {octets rest : Octets} (found : afterEquals? octets = some rest) :
    rest.length < octets.length := by
  cases octets with
  | nil => simp [afterEquals?] at found
  | cons octet tail =>
    simp only [afterEquals?] at found
    split at found
    · injection found with same
      simp [same]
    · simp at found

theorem readQuoted_length {folded : Bool} {state : QuotedState} {read octets data rest : Octets}
    (result : readQuoted folded state read octets = some (data, rest)) :
    rest.length < octets.length := by
  induction octets generalizing folded state read with
  | nil => simp [readQuoted] at result
  | cons octet tail ih =>
    simp only [readQuoted] at result
    simp only [List.length_cons]
    repeat' split at result
    all_goals first
      | exact Nat.lt_succ_of_lt (ih result)
      | (rename_i found
         simp only [Option.some.injEq, Prod.mk.injEq] at result
         have := afterEquals?_length found
         have := result.2
         subst this
         omega)
      | simp at result

theorem readBase64_length {group : List Nat} {read octets data rest : Octets}
    (result : readBase64 group read octets = some (data, rest)) :
    rest.length < octets.length := by
  induction octets generalizing group read with
  | nil => simp [readBase64] at result
  | cons octet tail ih =>
    simp only [readBase64] at result
    simp only [List.length_cons]
    repeat' split at result
    all_goals first
      | exact Nat.lt_succ_of_lt (ih result)
      | (obtain ⟨after, found, same⟩ := Option.map_eq_some_iff.1 result
         simp only [Prod.mk.injEq] at same
         have := afterEquals?_length found
         have := same.2
         subst this
         omega)
      | simp at result

/-- An encoded word takes at least one octet. -/
theorem encodedWord?_length {octets rest : Octets} {word : String}
    (result : encodedWord? octets = some (word, rest)) : rest.length < octets.length := by
  unfold encodedWord? at result
  split at result
  · rename_i afterMark
    dsimp only at result
    split at result
    · rename_i form data shape
      have dropped := congrArg List.length shape
      simp only [List.length_drop, List.length_cons] at dropped
      simp only [List.length_cons]
      split at result
      · simp at result
      · obtain ⟨⟨read, after⟩, found, same⟩ := Option.map_eq_some_iff.1 result
        simp only [Prod.mk.injEq] at same
        obtain ⟨_, rfl⟩ := same
        split at found
        · have := readQuoted_length found
          omega
        · split at found
          · have := readBase64_length found
            omega
          · simp at found
    · simp at result
  · simp at result

/-- A text that is being put together. -/
structure PhraseState where
  /-- The pieces of the text, latest first. -/
  pieces : List String
  /-- The octets of the current word, latest first. -/
  word : Octets
  /-- The blanks after the current word, latest first. -/
  gap : Octets
  /-- Whether the latest piece is an encoded word, or there is no piece yet. -/
  afterEncoded : Bool

namespace PhraseState

def start : PhraseState := ⟨[], [], [], true⟩

/-- Ends the current word, if there is one. -/
def endWord (state : PhraseState) : PhraseState :=
  if state.word.isEmpty then state
  else
    let before := if state.pieces.isEmpty then [] else " " :: state.pieces
    ⟨Text.decodeLossy state.word.reverse :: before, [], [], false⟩

def addEncoded (state : PhraseState) (text : String) : PhraseState :=
  let ended := state.endWord
  let before := if ended.afterEncoded then ended.pieces else " " :: ended.pieces
  ⟨text :: before, [], [], true⟩

/-- Adds an octet to the current word, with the blanks before it. -/
def addOctet (state : PhraseState) (octet : UInt8) : PhraseState :=
  { state with word := octet :: (state.gap ++ state.word), gap := [] }

/-- Notes a blank, which is part of a word only if the word goes on after it. -/
def addGap (state : PhraseState) (octet : UInt8) : PhraseState :=
  if state.word.isEmpty then state else { state with gap := octet :: state.gap }

def text (state : PhraseState) : String :=
  String.join state.pieces.reverse

end PhraseState

/-- The text of a field's value, read on from `state`.  A value without a line end has no text. -/
def phraseFrom (state : PhraseState) : Octets → String
  | [] => ""
  | octet :: rest =>
    if octet == Octet.lf then
      if continuesLine rest then phraseFrom state.endWord rest else state.endWord.text
    else if Octet.isGap octet || octet == Octet.cr then phraseFrom (state.addGap octet) rest
    else if octet == Octet.equals then
      match word : encodedWord? rest with
      | some (text, after) =>
        have := encodedWord?_length word
        phraseFrom (state.addEncoded text) after
      | none => phraseFrom (state.addOctet octet) rest
    else phraseFrom (state.addOctet octet) rest
termination_by octets => octets.length
decreasing_by
  all_goals simp only [List.length_cons]
  all_goals omega

/-- The text of the value of an unstructured field. -/
def phrase (value : Octets) : String :=
  phraseFrom .start value

end MailReplica.Header
