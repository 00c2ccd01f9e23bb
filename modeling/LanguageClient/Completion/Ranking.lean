import LanguageClient.Completion.Candidate
import LanguageClient.Completion.Match

/-!
# Ranking

Of the candidates of one request, those that match what was typed are kept, the best match
first. Within a class they stand in the order of their sort texts, if any candidate at all
declares one, and then in the order in which servers reported them.
-/

namespace LanguageClient

/-- A candidate that matches, with the part of the document that it replaces. -/
structure Ranked where
  candidate : Candidate
  matchClass : MatchClass
  replace : ReplaceRange
  deriving Repr

namespace Ranked

/-- The text typed between the start of a replaced part and the invocation. -/
def typed (d : Document) (invocation : Nat) (replace : ReplaceRange) : Text :=
  if replace.start < invocation then (d.slice replace.start invocation).toOption.getD []
  else []

/-- A candidate with its class, if its range can be found and it matches. -/
def ofCandidate? (policy : CasePolicy) (d : Document) (invocation : Nat) (c : Candidate) :
    Option Ranked := do
  let replace ← (c.replaceRange d invocation).toOption
  let cls ← LanguageClient.matchClass policy c.filterText.toList (typed d invocation replace)
  return ⟨c, cls, replace⟩

/-- The order of candidates. -/
def compare (useSortText : Bool) (a b : Ranked) : Ordering :=
  (Ord.compare a.matchClass.rank b.matchClass.rank).then <|
    (if useSortText then Ord.compare a.candidate.sortText b.candidate.sortText else .eq).then <|
      (Ord.compare a.candidate.position.server b.candidate.position.server).then
        (Ord.compare a.candidate.position.item b.candidate.position.item)

end Ranked

/-- The candidates that match, in the order in which they are offered. -/
def rank (policy : CasePolicy) (d : Document) (invocation : Nat) (candidates : List Candidate) :
    List Ranked :=
  let useSortText := candidates.any (·.hasSortText)
  (candidates.filterMap (Ranked.ofCandidate? policy d invocation)).mergeSort fun a b =>
    (Ranked.compare useSortText a b).isLE

end LanguageClient
