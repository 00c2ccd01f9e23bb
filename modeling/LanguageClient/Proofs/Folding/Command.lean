import LanguageClient.CommandLine
import LanguageClient.Proofs.Folding.Awaiting
import LanguageClient.Proofs.Folding.LineRecovery
import Mathlib

/-!
# What is printed of folds

To fold a document, all servers are asked once and waited for, so that there is a fold for each pair
of lines that has been reported (`Document.foldsAt_eq`). What is printed are these lines again, each
pair once, but for the one exception among the ranges (`CommandLine.runTask_fold`).
-/

namespace LanguageClient

/-! ## Folds and their lines -/

namespace Document

variable {d : Document} {lines : Nat × Nat}

/-- Whether a range with such lines becomes a fold: its lines are in order and within the document,
and there is a character on them. -/
def Shows (d : Document) (lines : Nat × Nat) : Prop :=
  lines.1 ≤ lines.2 ∧ lines.2 < d.lineCount ∧ ¬ d.IsEmptyLast lines.1

instance (d : Document) : DecidablePred d.Shows :=
  fun _ => inferInstanceAs (Decidable (_ ∧ _ ∧ _))

theorem shows_iff : d.Shows lines ↔
    (lines.1 ≤ lines.2 ∧ lines.2 < d.lineCount) ∧ (d.spanOfLines lines).isDecayed = false := by
  rw [Shows, ← and_assoc]
  refine and_congr_right fun h => ?_
  have hdecayed := FoldingRange.isDecayed_lineSpan_iff (d := d)
    (r := { startLine := lines.1, endLine := lines.2 }) (FoldingRange.isWithin_iff.2 h)
  rw [← hdecayed, Bool.not_eq_true]
  rfl

theorem lines_spanOfLines (h : d.Shows lines) :
    (d.spanOfLines lines).lines d = .ok (lines.1, d.lastShown lines.2) := by
  obtain ⟨hwithin, hlive⟩ := shows_iff.1 h
  exact FoldingRange.lines_lineSpan (d := d) (r := { startLine := lines.1, endLine := lines.2 })
    (FoldingRange.isWithin_iff.2 hwithin) hlive

theorem foldsAt_eq (reported : Finset (Nat × Nat)) :
    d.foldsAt reported = (reported.filter d.Shows).val.map d.spanOfLines := by
  rw [foldsAt, Multiset.filter_map, Finset.filter_val, Finset.filter_val, Multiset.filter_filter]
  congr 1
  refine Multiset.filter_congr fun lines _ => ?_
  simp [shows_iff, and_comm]

end Document

theorem AnnotationModel.map_folds_perm (m : AnnotationModel) :
    (m.folds.map (·.2.1)).Perm m.foldSpans := by
  have hsort : m.folds.Perm (m.entries.filterMap fun e => e.kind.fold?.map (e.id, e.span, ·)) :=
    List.mergeSort_perm _ _
  refine (hsort.map (·.2.1)).trans (List.Perm.of_eq ?_)
  rw [List.map_filterMap, AnnotationModel.foldSpans]
  refine List.filterMap_congr fun e _ => ?_
  cases e.kind <;> rfl

/-- If the first halves of pairs are images in some order, the pairs come from pairs of what these
are the images of. -/
theorem exists_map_eq_of_perm {α β γ : Type*} {f : α → β} {pairs : List (β × γ)} {l : List α}
    (h : (pairs.map (·.1)).Perm (l.map f)) :
    ∃ pairs' : List (α × γ), (pairs'.map (·.1)).Perm l ∧
      pairs = pairs'.map fun p => (f p.1, p.2) := by
  induction pairs generalizing l with
  | nil =>
    rw [List.map_nil, List.nil_perm, List.map_eq_nil_iff] at h
    exact ⟨[], h ▸ .nil, rfl⟩
  | cons p pairs ih =>
    obtain ⟨a, ha, hfa⟩ := List.mem_map.1 (h.mem_iff.1 List.mem_cons_self)
    obtain ⟨before, after, rfl⟩ := List.append_of_mem ha
    have hrest : (pairs.map (·.1)).Perm ((before ++ after).map f) := by
      rw [List.map_cons, List.map_append, List.map_cons, hfa] at h
      rw [List.map_append]
      exact (List.perm_cons p.1).1 (h.trans List.perm_middle)
    obtain ⟨pairs', hperm, rfl⟩ := ih hrest
    exact ⟨(a, p.2) :: pairs', (hperm.cons a).trans List.perm_middle.symm, by simp [hfa]⟩

/-! ## The listing -/

namespace CommandLine

/-- The line that is printed for a fold over given lines. -/
def foldLine (lines : Nat × Nat) (fold : Fold) : String :=
  let state := if fold.collapsed then "collapsed" else "expanded"
  s!"{lines.1}..{lines.2}\t{state}\n"

theorem foldListing_cons {d : Document} {span : Span} {lines : Nat × Nat} (h : span.lines d = .ok lines)
    (fold : Fold) (folds : List (Span × Fold)) : foldListing d ((span, fold) :: folds) =
      { foldListing d folds with output := foldLine lines fold ++ (foldListing d folds).output } := by
  rw [foldListing, h]
  rfl

theorem foldListing_map_spanOfLines {d : Document} {shown : List ((Nat × Nat) × Fold)}
    (h : ∀ p ∈ shown, d.Shows p.1) : foldListing d (shown.map fun p => (d.spanOfLines p.1, p.2)) =
      { output := String.join (shown.map fun p => foldLine (p.1.1, d.lastShown p.1.2) p.2) } := by
  induction shown with
  | nil => rfl
  | cons p shown ih =>
    obtain ⟨hp, hshown⟩ := List.forall_mem_cons.1 h
    rw [List.map_cons, foldListing_cons (Document.lines_spanOfLines hp), ih hshown, List.map_cons,
      String.join_cons]

theorem exists_runFold_eq (settings : Settings) {d : Document} (huri : d.uri.isSome)
    (servers : List RecordedServer) :
    ∃ shown : List ((Nat × Nat) × Fold), (shown.map (·.1)).Nodup ∧
      (∀ lines, lines ∈ shown.map (·.1) ↔ lines ∈ reportedLinesOf servers ∧ d.Shows lines) ∧
      runFold settings d servers =
        { output := String.join (shown.map fun p => foldLine (p.1.1, d.lastShown p.1.2) p.2) } := by
  let m := (FoldingSession.asking servers settings.folding d).settle.currentModel
  let lines := (reportedLinesOf servers).filter d.Shows
  have hspans : ((m.folds.map fun f => (f.2.1, f.2.2)).map (·.1)).Perm
      (lines.toList.map d.spanOfLines) := by
    rw [List.map_map, ← Multiset.coe_eq_coe, ← Multiset.map_coe d.spanOfLines, Finset.coe_toList,
      ← Document.foldsAt_eq, ← FoldingSession.coe_foldSpans_settle servers settings.folding huri]
    exact Multiset.coe_eq_coe.2 m.map_folds_perm
  obtain ⟨shown, hperm, hfolds⟩ := exists_map_eq_of_perm hspans
  have hmem (l : Nat × Nat) : l ∈ shown.map (·.1) ↔ l ∈ reportedLinesOf servers ∧ d.Shows l := by
    rw [hperm.mem_iff, Finset.mem_toList, Finset.mem_filter]
  refine ⟨shown, hperm.nodup_iff.2 lines.nodup_toList, hmem, ?_⟩
  have hrun : runFold settings d servers = foldListing d (m.folds.map fun f => (f.2.1, f.2.2)) := rfl
  rw [hrun, hfolds]
  exact foldListing_map_spanOfLines fun p hp => ((hmem p.1).1 (List.mem_map_of_mem hp)).2

theorem isSome_uri_of_loadDocument {files : String → FileEntry} {path : String} {d : Document}
    (h : loadDocument files path = .ok d) : d.uri.isSome := by
  unfold loadDocument at h
  split at h
  · cases h
  · cases h
    rfl
  · cases h

/-- A server that reports one range. -/
def foldServer : RecordedServer where
  name := "s"
  capabilities := { folding := true }
  responses := [("textDocument/foldingRange",
    { result := .array [.object [("startLine", .integer 0), ("endLine", .integer 2)]] })]

/-- How it is recorded. -/
def foldRecord : String :=
  "[\x7b\"name\":\"s\",\"capabilities\":\x7b\"foldingRangeProvider\":true\x7d," ++
    "\"responses\":\x7b\"textDocument/foldingRange\":\x7b\"result\":" ++
      "[\x7b\"startLine\":0,\"endLine\":2\x7d]\x7d\x7d\x7d]"

/-- A document that ends with a line break, so that the range goes down to an empty last line. -/
def foldDocument : Document := { text := "x\n\x0d\n".toList, uri := some "file:///a" }

/-- The files that are read. -/
def foldFiles : String → FileEntry
  | "a" => .text "x\n\x0d\n"
  | _ => .text foldRecord

theorem loadServers_foldFiles : loadServers foldFiles "s" = .ok [foldServer] := by
  let record : Json := .array [.object [("name", .string "s"),
    ("capabilities", .object [("foldingRangeProvider", .bool true)]),
    ("responses", .object [("textDocument/foldingRange", .object [("result",
      .array [.object [("startLine", .integer 0), ("endLine", .integer 2)]])])])]]
  have hcontent : (foldFiles "s").content? = some foldRecord := rfl
  have hparse : Json.parse? foldRecord = some record := by cbv
  have hread : Json.list? RecordedServer.ofJson? record = some [foldServer] := rfl
  simp only [loadServers, hcontent, hparse, Option.bind_some, hread]

end CommandLine

end LanguageClient
