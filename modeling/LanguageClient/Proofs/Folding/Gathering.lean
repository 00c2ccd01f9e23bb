import LanguageClient.Proofs.Folding.Report
import LanguageClient.Proofs.Server.Ends
import Mathlib

/-!
# What a cycle has gathered

Every request of a run belongs to one cycle, and each cycle holds what its requests have brought so
far (`Exchange.Serves`). This is kept when a cycle begins, of which `Reconciler.Began` says all
that happens, and when an answer comes in, which reaches its own cycle and no other
(`Reconciler.recordIn_append_cons`).
-/

namespace LanguageClient

/-! ## The beginning of a cycle -/

namespace Reconciler

/-- Whether a reconciler has kept the document and the model that it works on. -/
structure SameBinding (r r' : Reconciler) : Prop where
  document_eq : r'.document = r.document
  attached_eq : r'.attached = r.attached
  installed_eq : r'.installed = r.installed

/-- How a cycle about a document with a stamp begins. -/
structure Began (r : Reconciler) (x : Exchange) (document : DocumentId) (stamp : Nat)
    (r' : Reconciler) (x' : Exchange) : Prop extends SameBinding r r' where
  lastStamp_eq : r'.lastStamp = some stamp
  cycles_eq : r'.cycles = r.cycles ++ [{ document, requests := r'.requests }]
  ends_eq : x'.ends = x.ends ++ r'.requests.map (·, none)
  requests_eq : ∃ count, r'.requests = List.range' (x.ends.length + 1) count

variable {r : Reconciler} {w : Workspace}

theorem target?_eq_some_iff {id : DocumentId} {d : Document} {uri : String} :
    r.target? w = some (id, d, uri) ↔ r.isUninstalled = false ∧ r.document = some id ∧
      r.attached.isSome ∧ w.documents[id]? = some d ∧ d.uri = some uri := by
  rw [target?]
  simp only [Option.bind_eq_bind, Option.bind_eq_some_iff, Option.pure_def, Option.some.injEq,
    Prod.mk.injEq, Bool.not_eq_true', Option.isSome_iff_exists]
  constructor
  · rintro ⟨_, huninstalled, id', hid, mid, hmid, d', hd, uri', huri, rfl, rfl, rfl⟩
    exact ⟨by simpa using huninstalled, hid, ⟨mid, hmid⟩, hd, huri⟩
  · rintro ⟨huninstalled, hid, ⟨mid, hmid⟩, hd, huri⟩
    exact ⟨(), by simpa using huninstalled, id, hid, mid, hmid, d, hd, uri, huri, rfl, rfl, rfl⟩

variable (x : Exchange) (settings : FoldingSettings) (trigger : Trigger)

theorem start_of_target?_eq_none (h : r.target? w = none) :
    r.start w x settings trigger = (r, x) := by
  rw [start, h]

variable {trigger} {id : DocumentId} {d : Document} {uri : String}
  (h : r.target? w = some (id, d, uri))

include h

theorem start_of_isUpToDate (hstamp : r.isUpToDate trigger d.stamp) :
    r.start w x settings trigger = (r, x) := by
  rw [start, h]
  exact if_pos hstamp

theorem began_start (hstamp : ¬ r.isUpToDate trigger d.stamp) :
    Began r x id d.stamp (r.start w x settings trigger).1 (r.start w x settings trigger).2 := by
  rw [start, h]
  dsimp only
  rw [if_neg hstamp]
  exact {
    document_eq := rfl
    attached_eq := rfl
    installed_eq := rfl
    lastStamp_eq := rfl
    cycles_eq := rfl
    ends_eq := by
      rw [Exchange.ends_dispatch, Exchange.ends_cancelAll]
    requests_eq := ⟨_, by rw [Exchange.snd_dispatch, Exchange.ends_cancelAll]⟩ }

omit h in
/-- The requests of a cycle that begins have new numbers. -/
theorem Began.length_lt {x x' : Exchange} {r' : Reconciler} {stamp : Nat}
    (hbegan : r.Began x id stamp r' x') {q : RequestId} (hq : q ∈ r'.requests) :
    x.requests.length < q := by
  obtain ⟨count, hrequests⟩ := hbegan.requests_eq
  rw [hrequests, List.mem_range'_1, Exchange.length_ends] at hq
  exact hq.1

omit h in
/-- A cycle begins, or nothing happens. -/
theorem start_cases (r : Reconciler) (w : Workspace) (trigger : Trigger) :
    r.start w x settings trigger = (r, x) ∨ ∃ id d uri, r.target? w = some (id, d, uri) ∧
      ¬ r.isUpToDate trigger d.stamp ∧
      Began r x id d.stamp (r.start w x settings trigger).1 (r.start w x settings trigger).2 := by
  cases htarget : r.target? w with
  | none => exact .inl (start_of_target?_eq_none x settings trigger htarget)
  | some target =>
    obtain ⟨id, d, uri⟩ := target
    by_cases hstamp : r.isUpToDate trigger d.stamp
    · exact .inl (start_of_isUpToDate x settings htarget hstamp)
    · exact .inr ⟨id, d, uri, rfl, hstamp, began_start x settings htarget hstamp⟩

end Reconciler

/-! ## The answers of a cycle -/

namespace Exchange

variable {x x' : Exchange} {ids : List RequestId}

theorem mem_reportedLines {lines : Nat × Nat} :
    lines ∈ x.reportedLines ids ↔ ∃ id ∈ ids, lines ∈ (x.rangesOf id).map (·.lines) := by
  rw [reportedLines, List.mem_toFinset, List.map_flatMap, List.mem_flatMap]

theorem reportedLines_congr (h : ∀ id ∈ ids, x'.foldingAnswer? id = x.foldingAnswer? id) :
    x'.reportedLines ids = x.reportedLines ids := by
  have hflat : ids.flatMap x'.rangesOf = ids.flatMap x.rangesOf :=
    List.flatMap_congr fun id hid => by rw [rangesOf, rangesOf, h id hid]
  rw [reportedLines, reportedLines, hflat]

theorem reportedLines_eq_empty (h : ∀ id ∈ ids, x.foldingAnswer? id = none) :
    x.reportedLines ids = ∅ := by
  have hranges : ids.flatMap x.rangesOf = [] :=
    List.flatMap_eq_nil_iff.2 fun id hid => by rw [rangesOf, h id hid]; rfl
  rw [reportedLines, hranges]
  rfl

theorem foldingAnswer?_congr (h : x'.ends = x.ends) (id : RequestId) :
    x'.foldingAnswer? id = x.foldingAnswer? id := by
  rw [foldingAnswer?, foldingAnswer?, answer?_congr h]

variable {id : RequestId} (hopen : x.isOpen id) (answer : Answer)

include hopen

theorem foldingAnswer?_eq_none_of_isOpen : x.foldingAnswer? id = none := by
  rw [foldingAnswer?, answer?_eq_none_of_isOpen x hopen]
  rfl

theorem foldingAnswer?_conclude_self :
    (x.conclude id answer).foldingAnswer? id = FoldingAnswer.ofAnswer? answer := by
  rw [foldingAnswer?, answer?_conclude hopen, if_pos rfl]
  rfl

theorem foldingAnswer?_conclude_of_ne {id' : RequestId} (hne : id' ≠ id) :
    (x.conclude id answer).foldingAnswer? id' = x.foldingAnswer? id' := by
  rw [foldingAnswer?, answer?_conclude hopen, if_neg hne]
  rfl

/-- An answer without success leaves everything as it was. -/
theorem foldingAnswer?_conclude_of_eq_none (hanswer : FoldingAnswer.ofAnswer? answer = none)
    (id' : RequestId) : (x.conclude id answer).foldingAnswer? id' = x.foldingAnswer? id' := by
  by_cases hne : id' = id
  · rw [hne, foldingAnswer?_conclude_self hopen, hanswer, foldingAnswer?_eq_none_of_isOpen hopen]
  · exact foldingAnswer?_conclude_of_ne hopen answer hne

/-- The ranges of an answer are added to what was reported. -/
theorem reportedLines_conclude (hid : id ∈ ids) {value : FoldingAnswer}
    (hanswer : FoldingAnswer.ofAnswer? answer = some value) :
    (x.conclude id answer).reportedLines ids =
      x.reportedLines ids ∪ ((value.getD []).map (·.lines)).toFinset := by
  have hself : (x.conclude id answer).rangesOf id = value.getD [] := by
    rw [rangesOf, foldingAnswer?_conclude_self hopen, hanswer]
    rfl
  have hnone : x.rangesOf id = [] := by
    rw [rangesOf, foldingAnswer?_eq_none_of_isOpen hopen]
    rfl
  have hother : ∀ id' ≠ id, (x.conclude id answer).rangesOf id' = x.rangesOf id' :=
    fun id' hne => by rw [rangesOf, rangesOf, foldingAnswer?_conclude_of_ne hopen answer hne]
  ext lines
  rw [Finset.mem_union, List.mem_toFinset, mem_reportedLines, mem_reportedLines, ← hself]
  constructor
  · rintro ⟨id', hid', hlines⟩
    by_cases hne : id' = id
    · exact .inr (hne ▸ hlines)
    · exact .inl ⟨id', hid', hother id' hne ▸ hlines⟩
  · rintro (⟨id', hid', hlines⟩ | hlines)
    · refine ⟨id', hid', ?_⟩
      rwa [hother id' fun hne => by simp [hne, hnone] at hlines]
    · exact ⟨id, hid, hlines⟩

/-- One more request has been answered with success. -/
theorem countP_conclude (hid : id ∈ ids) (hnodup : ids.Nodup) {value : FoldingAnswer}
    (hanswer : FoldingAnswer.ofAnswer? answer = some value) :
    ids.countP (fun id' => ((x.conclude id answer).foldingAnswer? id').isSome) =
      ids.countP (fun id' => (x.foldingAnswer? id').isSome) + 1 := by
  have hrest : (ids.erase id).countP (fun id' => ((x.conclude id answer).foldingAnswer? id').isSome) =
      (ids.erase id).countP (fun id' => (x.foldingAnswer? id').isSome) := by
    refine List.countP_congr fun id' hid' => ?_
    rw [foldingAnswer?_conclude_of_ne hopen answer]
    rintro rfl
    exact hnodup.not_mem_erase hid'
  rw [(List.perm_cons_erase hid).countP_eq, (List.perm_cons_erase hid).countP_eq, List.countP_cons,
    List.countP_cons, hrest, foldingAnswer?_conclude_self hopen, hanswer,
    foldingAnswer?_eq_none_of_isOpen hopen]
  simp

end Exchange

/-- A cycle holds what its requests have brought: each reported pair of lines once, and how many
were answered with success. -/
structure Cycle.Reflects (c : Cycle) (x : Exchange) : Prop where
  nodup : (c.ranges.map (·.lines)).Nodup
  lines : (c.ranges.map (·.lines)).toFinset = x.reportedLines c.requests
  succeeded : c.succeeded = c.requests.countP fun id => (x.foldingAnswer? id).isSome

namespace Cycle

theorem requests_record (c : Cycle) (outcome : Outcome FoldingAnswer) :
    (c.record outcome).1.requests = c.requests := by
  cases outcome <;> rfl

theorem document_record (c : Cycle) (outcome : Outcome FoldingAnswer) :
    (c.record outcome).1.document = c.document := by
  cases outcome <;> rfl

namespace Reflects

variable {c : Cycle} {x x' : Exchange}

theorem congr (h : c.Reflects x)
    (hanswer : ∀ id ∈ c.requests, x'.foldingAnswer? id = x.foldingAnswer? id) : c.Reflects x' where
  nodup := h.nodup
  lines := h.lines.trans (Exchange.reportedLines_congr hanswer).symm
  succeeded := h.succeeded.trans (List.countP_congr fun id hid => by rw [hanswer id hid])

/-- A cycle that begins reflects that nothing has come in. -/
theorem of_forall_eq_none {document : DocumentId} {ids : List RequestId}
    (h : ∀ id ∈ ids, x.foldingAnswer? id = none) :
    ({ document, requests := ids } : Cycle).Reflects x where
  nodup := List.nodup_nil
  lines := (Exchange.reportedLines_eq_empty h).symm
  succeeded := (List.countP_eq_zero.2 fun id hid => by simp [h id hid]).symm

variable {id : RequestId}

theorem withAnswer (h : c.Reflects x) (hid : id ∈ c.requests) (hnodup : c.requests.Nodup)
    (hopen : x.isOpen id) {answer : Answer} {value : FoldingAnswer}
    (hanswer : FoldingAnswer.ofAnswer? answer = some value) :
    (c.withAnswer value).Reflects (x.conclude id answer) where
  nodup := nodup_foldl_insertRange h.nodup _
  lines := by
    rw [Cycle.withAnswer, toFinset_foldl_insertRange, h.lines,
      Exchange.reportedLines_conclude hopen answer hid hanswer]
  succeeded := by
    rw [Cycle.withAnswer, Exchange.countP_conclude hopen answer hid hnodup hanswer, h.succeeded]

theorem record (h : c.Reflects x) (hid : id ∈ c.requests) (hnodup : c.requests.Nodup)
    (hopen : x.isOpen id) (answer : Answer) :
    (c.record (Outcome.ofAnswer FoldingAnswer.ofJson? "" answer)).1.Reflects
      (x.conclude id answer) := by
  cases hanswer : FoldingAnswer.ofAnswer? answer with
  | some value =>
    rw [record_of_ofAnswer?_eq_some c hanswer]
    exact h.withAnswer hid hnodup hopen hanswer
  | none =>
    rw [record_of_ofAnswer?_eq_none c hanswer]
    exact h.congr fun id' _ => Exchange.foldingAnswer?_conclude_of_eq_none hopen answer hanswer id'

end Reflects

end Cycle

/-! ## The cycles of a run -/

namespace Reconciler

/-- Answers change neither the documents nor the requests of cycles. -/
theorem map_fst_recordIn (id : RequestId) (outcome : Outcome FoldingAnswer) (cycles : List Cycle) :
    (recordIn id outcome cycles).1.map (fun c => (c.document, c.requests)) =
      cycles.map fun c => (c.document, c.requests) := by
  induction cycles with
  | nil => rfl
  | cons c cycles ih =>
    rw [recordIn]
    split_ifs
    · simp [Cycle.document_record, Cycle.requests_record]
    · simp [ih]

/-- An answer changes nothing of a reconciler but its cycles. -/
theorem fst_receive (r : Reconciler) (w : Workspace) (collapseImports : Bool) (id : RequestId)
    (answer : Answer) : (r.receive w collapseImports id answer).1 = { r with
      cycles := (recordIn id (Outcome.ofAnswer FoldingAnswer.ofJson? "" answer) r.cycles).1 } := rfl

/-- An answer goes to the cycle that holds its request. -/
theorem recordIn_append_cons {id : RequestId} (outcome : Outcome FoldingAnswer)
    {before after : List Cycle} {c : Cycle} (hbefore : ∀ b ∈ before, id ∉ b.requests)
    (hid : id ∈ c.requests) : recordIn id outcome (before ++ c :: after) =
      (before ++ (c.record outcome).1 :: after, (c.record outcome).2.map (c.document, ·)) := by
  induction before with
  | nil => simp [recordIn, hid]
  | cons b before ih =>
    obtain ⟨hb, hbefore⟩ := List.forall_mem_cons.1 hbefore
    simp [recordIn, hb, ih hbefore]

end Reconciler

/-- The requests of an exchange are those of the cycles, in order and numbered from one on, and the
cycles reflect what they have brought. -/
structure Exchange.Serves (x : Exchange) (cycles : List Cycle) : Prop where
  numbered : x.ends.map (·.1) = List.range' 1 x.ends.length
  sent : cycles.flatMap (·.requests) = x.ends.map (·.1)
  reflects : ∀ c ∈ cycles, c.Reflects x

namespace Exchange.Serves

variable {x x' : Exchange} {cycles : List Cycle}

theorem of_ends_eq (h : x.Serves cycles) (hends : x'.ends = x.ends) : x'.Serves cycles where
  numbered := by rw [hends, h.numbered]
  sent := by rw [hends, h.sent]
  reflects c hc := (h.reflects c hc).congr fun id _ => foldingAnswer?_congr hends id

theorem nodup_requests (h : x.Serves cycles) : (cycles.flatMap (·.requests)).Nodup := by
  rw [h.sent, h.numbered]
  exact List.nodup_range'

theorem nodup (h : x.Serves cycles) {c : Cycle} (hc : c ∈ cycles) : c.requests.Nodup :=
  (List.nodup_flatMap.1 h.nodup_requests).1 c hc

/-- A request belongs to one cycle only. -/
theorem exists_eq_append_cons (h : x.Serves cycles) {c : Cycle} (hc : c ∈ cycles) {id : RequestId}
    (hid : id ∈ c.requests) : ∃ before after, cycles = before ++ c :: after ∧
      (∀ b ∈ before, id ∉ b.requests) ∧ ∀ b ∈ after, id ∉ b.requests := by
  obtain ⟨before, after, rfl⟩ := List.append_of_mem hc
  have hpairwise := (List.nodup_flatMap.1 h.nodup_requests).2
  rw [List.pairwise_append, List.pairwise_cons] at hpairwise
  obtain ⟨-, ⟨hafter, -⟩, hbefore⟩ := hpairwise
  exact ⟨before, after, rfl, fun b hb hb' => hbefore b hb c List.mem_cons_self hb' hid,
    fun b hb hb' => hafter b hb hid hb'⟩

theorem exists_mem_of_isOpen (h : x.Serves cycles) {id : RequestId} (hopen : x.isOpen id) :
    ∃ c ∈ cycles, id ∈ c.requests := by
  have hmem : id ∈ x.ends.map (·.1) :=
    List.mem_map_of_mem (List.mem_of_find?_eq_some (x.isOpen_iff.1 hopen))
  rw [← h.sent] at hmem
  exact List.mem_flatMap.1 hmem

theorem began (h : x.Serves cycles) {r r' : Reconciler} (hcycles : r.cycles = cycles)
    {document : DocumentId} {stamp : Nat} (hbegan : r.Began x document stamp r' x') :
    x'.Serves r'.cycles := by
  obtain ⟨count, hrequests⟩ := hbegan.requests_eq
  have hends : x'.ends.map (·.1) = x.ends.map (·.1) ++ r'.requests := by
    rw [hbegan.ends_eq, List.map_append, List.map_map]
    simp [Function.comp_def]
  have hanswer : ∀ id, x'.foldingAnswer? id = x.foldingAnswer? id := fun id => by
    rw [foldingAnswer?, foldingAnswer?, answer?_of_ends_eq_append hbegan.ends_eq]
  rw [hbegan.cycles_eq, hcycles]
  refine ⟨?_, ?_, fun c hc => ?_⟩
  · rw [hends, h.numbered, hbegan.ends_eq, List.length_append, List.length_map, hrequests,
      List.length_range', Nat.add_comm _ 1, ← List.range'_append_1]
  · rw [List.flatMap_append, h.sent, hends, List.flatMap_singleton]
  · rcases List.mem_append.1 hc with hc | hc
    · exact (h.reflects c hc).congr fun id _ => hanswer id
    · -- the new numbers are behind all that were sent
      obtain rfl := List.mem_singleton.1 hc
      refine .of_forall_eq_none fun id hid => ?_
      have hnone : x.ends.find? (·.1 == id) = none := by
        refine List.find?_eq_none.2 fun e he hid' => ?_
        have hmem : e.1 ∈ List.range' 1 x.ends.length := h.numbered ▸ List.mem_map_of_mem he
        rw [hrequests] at hid
        rw [List.mem_range'_1] at hmem hid
        rw [← beq_iff_eq.1 hid'] at hid
        omega
      rw [hanswer, foldingAnswer?, answer?_eq, hnone]
      rfl

/-- The requests of a cycle that begins are open. -/
theorem isOpen_of_began (h : x'.Serves cycles) {r r' : Reconciler} {document : DocumentId}
    {stamp : Nat} (hbegan : r.Began x document stamp r' x') {id : RequestId}
    (hid : id ∈ r'.requests) : x'.isOpen id := by
  refine isOpen_of_mem_ends ?_ ?_
  · rw [h.numbered]
    exact List.nodup_range'
  · rw [hbegan.ends_eq]
    exact List.mem_append_right _ (List.mem_map_of_mem hid)

theorem record {r : Reconciler} (h : x.Serves r.cycles) {id : RequestId} (hopen : x.isOpen id)
    (answer : Answer) : (x.conclude id answer).Serves (r.record id answer).1.cycles := by
  obtain ⟨c, hc, hid⟩ := h.exists_mem_of_isOpen hopen
  obtain ⟨before, after, hcycles, hbefore, hafter⟩ := h.exists_eq_append_cons hc hid
  set outcome := Outcome.ofAnswer FoldingAnswer.ofJson? "" answer with houtcome
  have hrecord : (r.record id answer).1.cycles = before ++ (c.record outcome).1 :: after := by
    rw [Reconciler.record, ← houtcome, hcycles, Reconciler.recordIn_append_cons _ hbefore hid]
  have hother : ∀ b ∈ r.cycles, id ∉ b.requests → b.Reflects (x.conclude id answer) :=
    fun b hb hid' => (h.reflects b hb).congr fun id' hmem =>
      foldingAnswer?_conclude_of_ne hopen answer fun heq => hid' (heq ▸ hmem)
  have hfst : (x.conclude id answer).ends.map (·.1) = x.ends.map (·.1) :=
    map_fst_ends_conclude answer
  have hlength : (x.conclude id answer).ends.length = x.ends.length := by
    rw [ends_conclude, List.length_map]
  refine ⟨?_, ?_, ?_⟩
  · rw [hfst, h.numbered, hlength]
  · rw [hfst, ← h.sent, hrecord, hcycles]
    simp [Cycle.requests_record]
  · rw [hrecord]
    intro b hb
    rcases List.mem_append.1 hb with hb | hb
    · exact hother b (hcycles ▸ List.mem_append_left _ hb) (hbefore b hb)
    · rcases List.mem_cons.1 hb with rfl | hb
      · exact (h.reflects c hc).record hid (h.nodup hc) hopen answer
      · exact hother b (hcycles ▸ List.mem_append_right _ (List.mem_cons_of_mem _ hb))
          (hafter b hb)

end Exchange.Serves

end LanguageClient
