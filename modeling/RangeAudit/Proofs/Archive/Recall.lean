import RangeAudit.Proofs.Interleaving.World

namespace RangeAudit

/-!
# What the engine keeps cannot be seen

The engine keeps the analyses and the detailed paths that it has read.  What could not be read is not kept,
and an analysis may also be read on the way to the paths of a function; but whatever was asked before, the
engine answers as if it had read nothing yet.

* `Archive.answer` — what an archive answers to a query, read anew;
* `Engine.Recalls` — the invariant: what the engine keeps is what its archive answers;
* `Engine.Recalls.serve` — a query keeps it, and is answered from the archive;
* `Archive.oracle_eq_answer`, `Engine.Recalls.serve_fst` — hence every answer is that of a fresh engine.
-/

open Wire (Value)

namespace Archive

/-- The coarse paths of a function, from the analysis of the first contract that lists it. -/
def coarsePaths (archive : Archive) (functionId : Int) : Except Fault (List PathTrace) :=
  match Contract.ownerOf? archive.contracts functionId with
  | none => .ok []
  | some owner =>
    if archive.analyses.has owner.name then
      (archive.analysis owner.name).map fun a => a.pathsOf functionId
    else .ok []

/-- The paths of a function as detailed as the archive has them. -/
def detail (archive : Archive) (functionId : Int) : Except Fault (List PathTrace) :=
  match archive.exportedDetail? functionId with
  | some v => pathsOfWire v
  | none => archive.coarsePaths functionId

/-- What an archive answers to a query. -/
def answer (archive : Archive) : (q : Query) → Except Fault q.Answer
  | .contracts => .ok archive.contracts
  | .analysis name => archive.analysis name
  | .source nodeId => archive.source nodeId
  | .flowGraph functionId => .ok (archive.flowGraph functionId)
  | .detail functionId => archive.detail functionId

end Archive

namespace Engine

/-- No drill has planted a fault, and what the engine keeps is what its archive answers. -/
structure Recalls (archive : Archive) (e : Engine) : Prop where
  reads : e.archive = archive
  undrilled : e.planted = []
  analyses : ∀ entry ∈ e.analyses, archive.analysis entry.1 = .ok entry.2
  details : ∀ entry ∈ e.details, archive.detail entry.1 = .ok entry.2

variable {archive : Archive} {e : Engine}

/-- An engine that has read nothing yet keeps nothing. -/
theorem recalls_fresh (archive : Archive) : (fresh archive).Recalls archive :=
  ⟨rfl, rfl, fun _ h => absurd h List.not_mem_nil, fun _ h => absurd h List.not_mem_nil⟩

namespace Recalls

theorem plantedIn (h : e.Recalls archive) (method : EngineMethod) : e.plantedIn method = none := by
  rw [Engine.plantedIn, h.undrilled, Entries.find?_nil]

/-- An analysis is kept as it was read. -/
theorem readAnalysis (h : e.Recalls archive) (name : String) :
    (e.readAnalysis name).1 = archive.analysis name ∧ (e.readAnalysis name).2.Recalls archive := by
  unfold Engine.readAnalysis
  cases hkept : e.analyses.find? name with
  -- What was kept was read from the archive, so it is what a read would give.
  | some a => exact ⟨(h.analyses _ (Entries.mem_of_find? hkept)).symm, h⟩
  | none =>
    dsimp only
    rw [h.reads]
    cases hread : archive.analysis name with
    | error fault => exact ⟨rfl, h⟩
    | ok a =>
      refine ⟨rfl, rfl, h.undrilled, ?_, h.details⟩
      intro entry hentry
      rcases Entries.mem_put hentry with rfl | hold
      · exact hread
      · exact h.analyses entry hold

theorem analysis (h : e.Recalls archive) (name : String) :
    (e.analysis name).1 = archive.analysis name ∧ (e.analysis name).2.Recalls archive := by
  rw [Engine.analysis, h.plantedIn]
  exact h.readAnalysis name

/-- The coarse paths are read from the analysis, whether this was kept or not. -/
theorem paths (h : e.Recalls archive) (functionId : Int) :
    (e.paths functionId).1 = archive.coarsePaths functionId ∧
      (e.paths functionId).2.Recalls archive := by
  have howner : e.ownerOf functionId = .ok (Contract.ownerOf? archive.contracts functionId) := by
    rw [Engine.ownerOf, guarded, h.plantedIn, h.reads]
  rw [Engine.paths, h.plantedIn, howner, Archive.coarsePaths, h.reads]
  cases Contract.ownerOf? archive.contracts functionId with
  | none => exact ⟨rfl, h⟩
  | some owner =>
    dsimp only
    split
    · obtain ⟨hanalysis, hkeeps⟩ := h.analysis owner.name
      exact ⟨by rw [← hanalysis], hkeeps⟩
    · exact ⟨rfl, h⟩

/-- Detailed paths are read from the archive if it has them, and coarse ones from the analysis otherwise. -/
theorem exportedPaths (h : e.Recalls archive) (functionId : Int) :
    (e.exportedPaths functionId).1 = archive.detail functionId ∧
      (e.exportedPaths functionId).2.Recalls archive := by
  rw [Engine.exportedPaths, Archive.detail, h.reads]
  cases archive.exportedDetail? functionId with
  | some v => exact ⟨rfl, h⟩
  | none => exact h.paths functionId

/-- Detailed paths are kept as they were read. -/
theorem readDetail (h : e.Recalls archive) (functionId : Int) :
    (e.readDetail functionId).1 = archive.detail functionId ∧
      (e.readDetail functionId).2.Recalls archive := by
  unfold Engine.readDetail
  cases hkept : e.details.find? functionId with
  | some paths => exact ⟨(h.details _ (Entries.mem_of_find? hkept)).symm, h⟩
  | none =>
    -- On the way to the paths the engine may have read an analysis, so it is not the same engine any more.
    obtain ⟨hpaths, hkeeps⟩ := h.exportedPaths functionId
    dsimp only
    split
    · rename_i paths e' hread
      rw [hread] at hpaths hkeeps
      refine ⟨hpaths, { hkeeps with details := ?_ }⟩
      intro entry hentry
      rcases Entries.mem_put hentry with rfl | hold
      · exact hpaths.symm
      · exact hkeeps.details entry hold
    · rename_i fault e' hread
      rw [hread] at hpaths hkeeps
      exact ⟨hpaths, hkeeps⟩

/-- **Step lemma.** A query is answered from the archive, and what the engine keeps then is what the archive
    answers. -/
theorem serve (h : e.Recalls archive) (q : Query) :
    (e.serve q).1 = archive.answer q ∧ (e.serve q).2.Recalls archive := by
  rw [Engine.serve, h.plantedIn]
  cases q with
  | contracts => exact ⟨by rw [← h.reads]; rfl, h⟩
  | analysis name => exact h.readAnalysis name
  | source nodeId => exact ⟨by rw [← h.reads]; rfl, h⟩
  | flowGraph functionId => exact ⟨by rw [← h.reads]; rfl, h⟩
  | detail functionId => exact h.readDetail functionId

end Recalls

end Engine

/-- A fresh engine answers from its archive. -/
theorem Archive.oracle_eq_answer (archive : Archive) : archive.oracle = archive.answer :=
  funext fun q => ((Engine.recalls_fresh archive).serve q).1

/-- Whatever an engine has read, it answers as a fresh one. -/
theorem Engine.Recalls.serve_fst {archive : Archive} {e : Engine} (h : e.Recalls archive) (q : Query) :
    (e.serve q).1 = archive.oracle q := by
  rw [(h.serve q).1, archive.oracle_eq_answer]

end RangeAudit
