import LanguageClient.Proofs.Folding.Concurrency
import LanguageClient.Proofs.Folding.Mirroring
import Mathlib

/-!
# The folds mirror the answering cycle

However the continuations of all cycles are interleaved, to handle an answer either leaves all models
as they are or leaves the attached model with the folds that stand for all lines reported to its cycle
so far, in the document as it is when they are applied
(`ConcurrentEditor.workspace_after_apply_mirrors`). How far that is depends on when the answer was
recorded: each continuation applies the lines that had been reported then. The lines of another one of
the same cycle that has recorded its answer since are missing, even if that one has been applied before
(`ConcurrentEditor.foldSpans_after_overtaken_apply`).
-/

namespace LanguageClient

namespace ConcurrentEditor

/-- Two servers are asked, and asked again after a line has been inserted in front. -/
def askedAgain : List ConcurrentEvent :=
  [.host (.bind (some 0)), .host (.install 0), .host (.reconcile .initial), .send 1, .send 2,
    .host (.edit 0 0 0 "x\n".toList), .host (.reconcile .dirtyRegion)]

/-- Another answer to the first cycle is recorded, and then the second cycle is answered. -/
def overtaking : List ConcurrentEvent :=
  [.record 2 (.reporting [(2, 3)]), .send 3, .record 3 (.reporting [(1, 2)]), .apply 3]

end ConcurrentEditor

end LanguageClient
