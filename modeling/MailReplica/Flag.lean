import MailReplica.Text.Blank
import Std.Data.ExtTreeSet

/-! # Message flags

A flag is one of six standard flags or a keyword of its own.  Flags are ordered, the standard ones
before the keywords, so a set of flags has one representation and equal sets are equal values.
-/

namespace MailReplica

inductive Flag where
  | seen
  | answered
  | flagged
  | deleted
  | draft
  | forwarded
  | custom (name : String)
  deriving DecidableEq

namespace Flag

/-- The place of a flag among the standard flags; keywords share the last place. -/
def rank : Flag → Nat
  | seen => 0
  | answered => 1
  | flagged => 2
  | deleted => 3
  | draft => 4
  | forwarded => 5
  | custom _ => 6

/-- The name of a keyword; empty for a standard flag. -/
def keyword : Flag → String
  | custom name => name
  | _ => ""

theorem eq_of_rank_keyword {left right : Flag} (rank_eq : left.rank = right.rank)
    (keyword_eq : left.keyword = right.keyword) : left = right := by
  cases left <;> cases right <;> simp_all [rank, keyword]

instance : Ord Flag where
  compare := compareLex (compareOn rank) (compareOn keyword)

instance : Std.TransOrd Flag :=
  inferInstanceAs (Std.TransCmp (compareLex (compareOn rank) (compareOn keyword)))

instance : Std.LawfulEqOrd Flag where
  compare_self := Std.ReflCmp.compare_self
  eq_of_compare {left right} same := by
    have both : (compare left.rank right.rank).then (compare left.keyword right.keyword) = .eq :=
      same
    have both := Ordering.then_eq_eq.1 both
    exact eq_of_rank_keyword (Std.LawfulEqCmp.eq_of_compare both.1)
      (Std.LawfulEqCmp.eq_of_compare both.2)

/-- The flag that an atom of the protocol stands for.  Blanks around the atom do not count, and the
standard names are known in any case.  `\Recent` tells about the session and not about the message,
so it stands for no flag, and neither does a blank atom. -/
def ofAtom? (atom : String) : Option Flag :=
  let name := Text.trim atom
  if name = "" then none
  else
    match Text.foldCase name with
    | "\\seen" => some seen
    | "\\answered" => some answered
    | "\\flagged" => some flagged
    | "\\deleted" => some deleted
    | "\\draft" => some draft
    | "\\recent" => none
    | "$forwarded" => some forwarded
    | _ => some (custom name)

/-- The atom that stands for a flag. -/
def atom : Flag → String
  | seen => "\\Seen"
  | answered => "\\Answered"
  | flagged => "\\Flagged"
  | deleted => "\\Deleted"
  | draft => "\\Draft"
  | forwarded => "$Forwarded"
  | custom name => name

/-- The name of a standard flag in stored text; none for a keyword. -/
def standardName? : Flag → Option String
  | seen => some "Seen"
  | answered => some "Answered"
  | flagged => some "Flagged"
  | deleted => some "Deleted"
  | draft => some "Draft"
  | forwarded => some "Forwarded"
  | custom _ => none

/-- The standard flags with their names in stored text, in their order. -/
def standard : List (String × Flag) :=
  [("Seen", seen), ("Answered", answered), ("Flagged", flagged), ("Deleted", deleted),
    ("Draft", draft), ("Forwarded", forwarded)]

end Flag

abbrev FlagSet := Std.ExtTreeSet Flag

namespace FlagSet

/-- The flags of `flags` that are also in `tracked`. -/
def restrict (flags tracked : FlagSet) : FlagSet :=
  flags.filter (tracked.contains ·)

/-- The flags of `flags` that are not in `tracked`. -/
def without (flags tracked : FlagSet) : FlagSet :=
  flags.filter (fun flag => !tracked.contains flag)

/-- `flags` with everything about the flags in `tracked` replaced by what `source` says. -/
def replaceTracked (flags source tracked : FlagSet) : FlagSet :=
  (source.restrict tracked).foldl (·.insert ·) (flags.without tracked)

end FlagSet

end MailReplica
