import LanguageClient.Text.LowerCase

/-!
# Matching

A candidate is offered if the text typed so far occurs in its filter text. `MatchClass` says how
well it fits: at the start as it was typed, at the start but for the case of its letters, or
further inside.
-/

namespace LanguageClient

/-- Whether the case of letters counts. -/
inductive CasePolicy
  | sensitive
  | insensitive
  deriving DecidableEq, Repr

/-- Whether two characters count as one. Without regard to case, they do if their lower case is
the same. -/
def CasePolicy.same : CasePolicy → Char → Char → Bool
  | sensitive, a, b => a == b
  | insensitive, a, b => a == b || Text.lowerCase a == Text.lowerCase b

/-- How the filter text of a candidate matches the text typed, the best first. -/
inductive MatchClass
  | exactPrefix
  | foldedPrefix
  | contains
  deriving DecidableEq, Repr

/-- The place of a class among all classes. -/
def MatchClass.rank : MatchClass → Nat
  | exactPrefix => 0
  | foldedPrefix => 1
  | contains => 2

namespace Text

/-- Whether `needle` stands at the start of a text, character by character. -/
def startsWith (same : Char → Char → Bool) : Text → Text → Bool
  | [], _ => true
  | _ :: _, [] => false
  | n :: needle, c :: rest => same c n && startsWith same needle rest

/-- The offset of the first occurrence of `needle` in a text. -/
def find? (same : Char → Char → Bool) (needle : Text) : Text → Option Nat
  | [] => if needle.isEmpty then some 0 else none
  | c :: rest =>
    if startsWith same needle (c :: rest) then some 0
    else (find? same needle rest).map (· + 1)

end Text

/-- How `filter` matches the text typed, if it does. -/
def matchClass (policy : CasePolicy) (filter typed : Text) : Option MatchClass :=
  if typed.isPrefixOf filter then some .exactPrefix
  else match Text.find? policy.same typed filter with
    | some 0 => some .foldedPrefix
    | some _ => some .contains
    | none => none

end LanguageClient
