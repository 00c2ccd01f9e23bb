import LanguageClient.Folding.Cycle
import LanguageClient.Proofs.Folding.Convergence
import LanguageClient.Server.Exchange
import Mathlib

/-!
# What servers report

Of a range only its first and last line matter for where its fold lies. `Document.foldsAt` takes a
set of such pairs of lines to the folds that stand for them, which are those of any list of ranges
with just these lines, each once (`coe_reportedSpans`). A cycle keeps such a list: ranges that come
in add their lines to it (`toFinset_foldl_insertRange`), and none comes in twice
(`nodup_foldl_insertRange`).
-/

namespace LanguageClient

/-- The first and the last line of a range. -/
def FoldingRange.lines (r : FoldingRange) : Nat × Nat := (r.startLine, r.endLine)

/-! ## Folds at given lines -/

namespace Document

variable (d : Document)

/-- The span from the start of one line to the end of another one, with its break. -/
def spanOfLines (lines : Nat × Nat) : Span :=
  let start := Text.lineStart d.text.lines lines.1
  ⟨start, Text.lineStart d.text.lines (lines.2 + 1) - start⟩

/-- The folds that pairs of lines stand for: one for each pair that is in order, lies within the
document and has a span that is not empty. -/
def foldsAt (lines : Finset (Nat × Nat)) : Multiset Span :=
  ((lines.filter fun l => l.1 ≤ l.2 ∧ l.2 < d.lineCount).val.map d.spanOfLines).filter
    fun s => !s.isDecayed

theorem foldsAt_empty : d.foldsAt ∅ = 0 := rfl

end Document

theorem coe_reportedSpans (d : Document) {ranges : List FoldingRange}
    (h : (ranges.map (·.lines)).Nodup) :
    (reportedSpans d ranges : Multiset Span) = d.foldsAt (ranges.map (·.lines)).toFinset := by
  have hwithin : (ranges.map (·.lines)).filter (fun l => l.1 ≤ l.2 ∧ l.2 < d.lineCount) =
      (ranges.filter (·.isWithin d.lineCount)).map (·.lines) := by
    rw [List.filter_map]
    congr 2
    funext r
    simp [FoldingRange.isWithin, FoldingRange.lines]
  rw [Document.foldsAt, Finset.filter_val, List.toFinset_val, h.dedup, Multiset.filter_coe, hwithin,
    Multiset.map_coe, Multiset.filter_coe, List.map_map]
  simp only [Bool.decide_eq_true]
  rfl

/-! ## The ranges of a cycle -/

namespace Cycle

variable {ranges : List FoldingRange}

theorem map_lines_insertRange (r : FoldingRange) : (insertRange ranges r).map (·.lines) =
    if r.lines ∈ ranges.map (·.lines) then ranges.map (·.lines)
    else ranges.map (·.lines) ++ [r.lines] := by
  have hany : (ranges.any fun r' => r'.startLine == r.startLine && r'.endLine == r.endLine) =
      decide (r.lines ∈ ranges.map (·.lines)) := by
    rw [Bool.eq_iff_iff]
    simp [FoldingRange.lines]
  rw [insertRange, hany]
  split_ifs <;> simp_all

theorem nodup_insertRange (h : (ranges.map (·.lines)).Nodup) (r : FoldingRange) :
    ((insertRange ranges r).map (·.lines)).Nodup := by
  rw [map_lines_insertRange]
  split_ifs with hmem
  · exact h
  · rw [← List.concat_eq_append]
    exact h.concat hmem

theorem toFinset_insertRange (r : FoldingRange) : ((insertRange ranges r).map (·.lines)).toFinset =
    (ranges.map (·.lines)).toFinset ∪ {r.lines} := by
  rw [map_lines_insertRange]
  split_ifs with hmem
  · rw [Finset.union_eq_left.2]
    simpa using hmem
  · rw [List.toFinset_append, List.toFinset_cons, List.toFinset_nil]
    rfl

theorem nodup_foldl_insertRange (h : (ranges.map (·.lines)).Nodup) (new : List FoldingRange) :
    ((new.foldl insertRange ranges).map (·.lines)).Nodup := by
  induction new generalizing ranges with
  | nil => exact h
  | cons r new ih => exact ih (nodup_insertRange h r)

/-- The lines of a cycle are those of all ranges that came in. -/
theorem toFinset_foldl_insertRange (new : List FoldingRange) :
    ((new.foldl insertRange ranges).map (·.lines)).toFinset =
      (ranges.map (·.lines)).toFinset ∪ (new.map (·.lines)).toFinset := by
  induction new generalizing ranges with
  | nil => simp
  | cons r new ih =>
    rw [List.foldl_cons, ih, toFinset_insertRange, Finset.union_assoc, List.map_cons,
      List.toFinset_cons, Finset.insert_eq]

theorem applicable?_eq (c : Cycle) : c.applicable? =
    if c.ranges = [] ∧ c.succeeded < c.requests.length then none else some c.ranges := by
  simp [applicable?]

end Cycle

/-! ## Answers -/

/-- The folding answer that a request brought, if it was answered with success. -/
def FoldingAnswer.ofAnswer? (answer : Answer) : Option FoldingAnswer :=
  match Outcome.ofAnswer FoldingAnswer.ofJson? "" answer with
  | .resolved value => some value
  | .cancelled => none
  | .failed _ => none

/-- The ranges that an answer brings. There are none without success. -/
def Answer.ranges (answer : Answer) : List FoldingRange :=
  ((FoldingAnswer.ofAnswer? answer).getD none).getD []

/-- An answer with ranges at the given lines. -/
def Answer.reporting (lines : List (Nat × Nat)) : Answer :=
  .ok (FoldingAnswer.toJson (some (lines.map fun (startLine, endLine) => { startLine, endLine })))

namespace Cycle

variable (c : Cycle) {answer : Answer}

/-- The cycle behind a successful answer. -/
def withAnswer (value : FoldingAnswer) : Cycle :=
  { c with
    ranges := (value.getD []).foldl insertRange c.ranges
    succeeded := c.succeeded + 1 }

theorem record_of_ofAnswer?_eq_some {value : FoldingAnswer}
    (h : FoldingAnswer.ofAnswer? answer = some value) :
    c.record (Outcome.ofAnswer FoldingAnswer.ofJson? "" answer) =
      (c.withAnswer value, (c.withAnswer value).applicable?) := by
  unfold FoldingAnswer.ofAnswer? at h
  cases houtcome : Outcome.ofAnswer FoldingAnswer.ofJson? "" answer with
  | resolved value' =>
    rw [houtcome] at h
    obtain rfl := Option.some.inj h
    rfl
  | cancelled => simp [houtcome] at h
  | failed e => simp [houtcome] at h

theorem record_of_ofAnswer?_eq_none (h : FoldingAnswer.ofAnswer? answer = none) :
    c.record (Outcome.ofAnswer FoldingAnswer.ofJson? "" answer) = (c, none) := by
  unfold FoldingAnswer.ofAnswer? at h
  cases houtcome : Outcome.ofAnswer FoldingAnswer.ofJson? "" answer with
  | resolved value' => simp [houtcome] at h
  | cancelled => rfl
  | failed e => rfl

end Cycle

/-! ## What came back for a cycle -/

namespace Exchange

variable (x : Exchange)

/-- The successful answer to a folding request. -/
def foldingAnswer? (id : RequestId) : Option FoldingAnswer :=
  (x.answer? id).bind FoldingAnswer.ofAnswer?

/-- The ranges that a folding request brought. -/
def rangesOf (id : RequestId) : List FoldingRange := ((x.foldingAnswer? id).getD none).getD []

theorem rangesOf_of_answer?_eq_some {id : RequestId} {answer : Answer}
    (h : x.answer? id = some answer) : x.rangesOf id = answer.ranges := by
  rw [rangesOf, foldingAnswer?, h]
  rfl

/-- All pairs of lines that folding requests have reported so far. -/
def reportedLines (ids : List RequestId) : Finset (Nat × Nat) :=
  ((ids.flatMap x.rangesOf).map (·.lines)).toFinset

/-- Folding requests that have all been answered with success. -/
def AllSucceeded (ids : List RequestId) : Prop := ∀ id ∈ ids, (x.foldingAnswer? id).isSome

instance (ids : List RequestId) : Decidable (x.AllSucceeded ids) :=
  inferInstanceAs (Decidable (∀ id ∈ ids, _))

end Exchange

end LanguageClient
