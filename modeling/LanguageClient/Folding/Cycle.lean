import LanguageClient.Protocol.FoldingRange
import LanguageClient.Server.Request

/-!
# Folding cycles

A cycle asks several servers for the folding ranges of one document and merges what they answer.
Of the ranges with the same first and last line the first one counts. As long as no range has
come in, nothing is to be applied until every server has answered, so that folds are not cleared
too early.
-/

namespace LanguageClient

/-- The number of a document in its session. -/
abbrev DocumentId := Nat

/-- One round of folding requests about one document, with the ranges that came in so far and
the number of servers that answered with success. -/
structure Cycle where
  document : DocumentId
  requests : List RequestId
  ranges : List FoldingRange := []
  succeeded : Nat := 0
  deriving DecidableEq, Repr

namespace Cycle

/-- Adds a range unless one with the same lines is there. -/
def insertRange (ranges : List FoldingRange) (r : FoldingRange) : List FoldingRange :=
  if ranges.any fun r' => r'.startLine == r.startLine && r'.endLine == r.endLine then ranges
  else ranges ++ [r]

/-- The ranges to be applied, if it is time to apply them. -/
def applicable? (c : Cycle) : Option (List FoldingRange) :=
  if c.ranges.isEmpty && c.succeeded < c.requests.length then none else some c.ranges

/-- Takes the outcome of one request. Returns also the ranges to be applied, if any. -/
def record (c : Cycle) : Outcome FoldingAnswer → Cycle × Option (List FoldingRange)
  | .resolved answer =>
    let c := { c with
      ranges := (answer.getD []).foldl insertRange c.ranges
      succeeded := c.succeeded + 1 }
    (c, c.applicable?)
  | .cancelled => (c, none)
  | .failed _ => (c, none)

end Cycle

end LanguageClient
