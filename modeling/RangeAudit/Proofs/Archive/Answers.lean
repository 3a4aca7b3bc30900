import RangeAudit.Archive.Call
import RangeAudit.Proofs.Archive.Recall

namespace RangeAudit

/-!
# Every call is answered like the first one

The engine is asked by name, any number of times, with any arguments.  Some calls are refused before they
reach it, some fail, and some make it keep what it has read for them; a call for the paths of a function may
make it keep an analysis as well.  None of this can be told from the answers.

* `Engine.answers` — the answers to calls that are made one after the other;
* `Engine.Recalls.ask`, `Engine.Recalls.call` — what a call is answered does not depend on what the engine has
  kept, and what it keeps then is again what its archive answers;
* `Engine.answers_eq_first` — hence every call is answered as it is by an engine that has read nothing yet.
-/

open Wire (Value)

namespace Engine

/-- The answers to calls that are made one after the other, each by the name of a method and a list of
    arguments. -/
def answers (e : Engine) : List (String × List Value) → List (Except Fault Answer)
  | [] => []
  | (name, arguments) :: rest =>
    (e.call name arguments).1 :: (e.call name arguments).2.answers rest

variable {archive : Archive} {e e' : Engine}

namespace Recalls

/-- Where no drill has planted a fault, a method has the value that it computes. -/
theorem guarded (h : e.Recalls archive) (method : EngineMethod) (x : Except Fault α) :
    e.guarded method x = x := by
  rw [Engine.guarded, h.plantedIn]

theorem detail (h : e.Recalls archive) (functionId : Int) :
    (e.detail functionId).1 = archive.detail functionId ∧
      (e.detail functionId).2.Recalls archive := by
  rw [Engine.detail, h.plantedIn]
  exact h.readDetail functionId

/-- Engines that have read from the same archive answer alike about a name. -/
theorem askNamed (h : e.Recalls archive) (h' : e'.Recalls archive) (method : EngineMethod) (v : Value) :
    (e.askNamed method v).1 = (e'.askNamed method v).1 ∧ (e.askNamed method v).2.Recalls archive := by
  unfold Engine.askNamed
  split
  · -- An analysis that was asked for is kept.
    rename_i name
    obtain ⟨hanswer, hkeeps⟩ := h.analysis name
    obtain ⟨hanswer', -⟩ := h'.analysis name
    exact ⟨congrArg (Except.map Answer.analysis) (hanswer.trans hanswer'.symm), hkeeps⟩
  · exact ⟨rfl, h⟩
  · refine ⟨?_, h⟩
    simp only [contractNamed, h.guarded, h'.guarded, h.reads, h'.reads]
  · exact ⟨rfl, h⟩

/-- Engines that have read from the same archive answer alike about an id. -/
theorem askAbout (h : e.Recalls archive) (h' : e'.Recalls archive) (method : EngineMethod) (id : Int) :
    (e.askAbout method id).1 = (e'.askAbout method id).1 ∧
      (e.askAbout method id).2.Recalls archive := by
  unfold Engine.askAbout
  -- Only paths are kept: detailed ones as they are, coarse ones as a part of their analysis.
  split
  · obtain ⟨hanswer, hkeeps⟩ := h.paths id
    obtain ⟨hanswer', -⟩ := h'.paths id
    exact ⟨congrArg (Except.map Answer.paths) (hanswer.trans hanswer'.symm), hkeeps⟩
  · obtain ⟨hanswer, hkeeps⟩ := h.detail id
    obtain ⟨hanswer', -⟩ := h'.detail id
    exact ⟨congrArg (Except.map Answer.paths) (hanswer.trans hanswer'.symm), hkeeps⟩
  · refine ⟨?_, h⟩
    simp only [source, h.guarded, h'.guarded, h.reads, h'.reads]
  · refine ⟨?_, h⟩
    simp only [flowGraph, h.guarded, h'.guarded, h.reads, h'.reads]
  · refine ⟨?_, h⟩
    simp only [ownerOf, h.guarded, h'.guarded, h.reads, h'.reads]

/-- About what is the id of nothing every engine answers alike, as long as no drill has planted a fault. -/
theorem askAboutNothing (h : e.Recalls archive) (h' : e'.Recalls archive) (method : EngineMethod) :
    e.askAboutNothing method = e'.askAboutNothing method := by
  cases method <;> simp only [Engine.askAboutNothing, h.guarded, h'.guarded]

/-- **Step lemma.** Engines that have read from the same archive answer alike, whatever each of them has kept;
    and what they keep then is what the archive answers. -/
theorem ask (h : e.Recalls archive) (h' : e'.Recalls archive) (method : EngineMethod) (v : Value) :
    (e.ask method v).1 = (e'.ask method v).1 ∧ (e.ask method v).2.Recalls archive := by
  cases method with
  | listContracts =>
    refine ⟨?_, h⟩
    simp only [Engine.ask, listContracts, h.guarded, h'.guarded, h.reads, h'.reads]
  | contractNamed | analysis => exact h.askNamed h' _ v
  | ownerOf | paths | detail | source | flowGraph =>
    simp only [Engine.ask]
    cases v.equalInteger? with
    | some id => exact h.askAbout h' _ id
    | none =>
      dsimp only
      exact ⟨h.askAboutNothing h' _, h⟩

/-- A call that is refused before it reaches the engine is refused by every engine. -/
theorem call (h : e.Recalls archive) (h' : e'.Recalls archive) (name : String) (arguments : List Value) :
    (e.call name arguments).1 = (e'.call name arguments).1 ∧
      (e.call name arguments).2.Recalls archive := by
  unfold Engine.call
  split
  · exact ⟨rfl, h⟩
  · rename_i method hmethod
    split
    · exact ⟨rfl, h⟩
    · exact h.ask h' method (arguments.headD .null)

/-- **Run lemma.** Calls at an engine that has read from an archive before are answered as each of them is by
    an engine that has read nothing yet. -/
theorem answers (h : e.Recalls archive) (calls : List (String × List Value)) :
    e.answers calls = calls.map fun c => ((fresh archive).call c.1 c.2).1 := by
  induction calls generalizing e with
  | nil => rfl
  | cons c rest ih =>
    obtain ⟨name, arguments⟩ := c
    obtain ⟨hanswer, hkeeps⟩ := h.call (recalls_fresh archive) name arguments
    rw [Engine.answers, List.map_cons, hanswer, ih hkeeps]

end Recalls

/-- **What the engine keeps cannot be seen.** Whatever the archive, and whatever calls are made one after the
    other, those included that are refused or fail: each is answered as it is when it is the first call to an
    engine that has just been opened on the archive. -/
theorem answers_eq_first (archive : Archive) (calls : List (String × List Value)) :
    (fresh archive).answers calls = calls.map fun c => ((fresh archive).call c.1 c.2).1 :=
  (recalls_fresh archive).answers calls

-- The engine does keep something: the detailed paths that were asked for, and the analysis they came from.
example :
    ((fresh Archive.ofVaultAndToken).call "path_detail" [.int 10]).2.details.keys = [10] ∧
      ((fresh Archive.ofVaultAndToken).call "path_detail" [.int 10]).2.analyses.keys = ["Vault"] := by
  decide +kernel

end Engine

end RangeAudit
