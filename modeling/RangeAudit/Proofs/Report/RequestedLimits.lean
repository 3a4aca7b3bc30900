import RangeAudit.Proofs.Entries.LastValue
import RangeAudit.Proofs.Outcomes
import RangeAudit.Proofs.Report.GateReach

namespace RangeAudit

/-!
# Which of the requested limits a gate enforces

Limits for the numbers of lines are requested in a list of specifications, and a gate has one limit for each
level: a specification takes the place of those before it for the same level.  So a list enforces all that
it requests only as long as no limit is followed by a greater one.

* `Gate.Requested`, `Gate.InForce` — the limits in a list, and those that no later one replaces;
* `Gate.Enforces` — a gate reports a violation if and only if a limit is reached;
* `Gate.mem_limitsOf_iff` — the limits of the gate are those in force;
* `Gate.enforces_inForce_and_requested_iff` — they are enforced, and what is requested is enforced if and
  only if nothing is loosened.

`Gate.not_always_enforces_requested` gives two requests for a level and a profile that violates the first of
them, in which the gate finds nothing.
-/

/-- A profile has as many lines of a level as a limit allows, or more. -/
def GateInput.Reaches (input : GateInput) (limit : RiskLevel × Int) : Prop :=
  ∃ count, input.lineCount limit.1 = .ok count ∧ limit.2 ≤ count

namespace Gate

/-- The limits that are requested, in order. -/
def requests (specs : List String) : List (RiskLevel × Int) :=
  specs.filterMap fun spec => (limitOf spec).toOption

/-- The limit of some specification. -/
def Requested (specs : List String) (limit : RiskLevel × Int) : Prop :=
  ∃ spec ∈ specs, limitOf spec = .ok limit

/-- The limit of a specification after which none is for the same level. -/
def InForce (specs : List String) (limit : RiskLevel × Int) : Prop :=
  Entries.LastIn (requests specs) limit

/-- Some limit is followed by a greater one for its level, and this one stays. -/
def Loosened (specs : List String) : Prop :=
  ∃ level strict loose, Requested specs (level, strict) ∧ InForce specs (level, loose) ∧ strict < loose

/-- Whenever the numbers of lines of the levels in question can be read, a violation is reported if
    and only if one of these limits is reached. -/
def Enforces (limits : Entries RiskLevel Int) (asked : RiskLevel × Int → Prop) : Prop :=
  ∀ input : GateInput, (∀ limit, asked limit → ∃ count, input.lineCount limit.1 = .ok count) →
    ∃ found, violations { limits := limits } input = .ok found ∧
      (found ≠ [] ↔ ∃ limit, asked limit ∧ input.Reaches limit)

/-! ### The limits of the gate -/

/-- The requests are the limits that are asked for. -/
theorem mem_requests_iff (specs : List String) (limit : RiskLevel × Int) :
    limit ∈ requests specs ↔ Requested specs limit := by
  simp only [requests, List.mem_filterMap, Except.toOption_eq_some, Requested]

/-- If all limits can be read, the gate has the last of each level. -/
theorem limitsOf_eq_ofList {specs : List String} {limits : Entries RiskLevel Int}
    (h : limitsOf specs = .ok limits) : Entries.ofList (requests specs) = limits := by
  rw [limitsOf] at h
  cases hrequested : specs.mapM limitOf with
  | error e =>
    rw [hrequested] at h
    cases h
  | ok requested =>
    rw [hrequested] at h
    -- All the specs could be read, so reading them one by one drops none.
    have hmap : specs.map limitOf = requested.map .ok := Except.mapM_eq_ok_iff.mp hrequested
    have hrequests : requests specs = requested := by
      calc requests specs
          = (specs.map limitOf).filterMap Except.toOption := by rw [List.filterMap_map]; rfl
        _ = requested := by rw [hmap, List.filterMap_map]; exact List.filterMap_some
    rw [hrequests]
    exact Except.ok.inj h

/-- The limits of the gate are those in force. -/
theorem mem_limitsOf_iff {specs : List String} {limits : Entries RiskLevel Int}
    (h : limitsOf specs = .ok limits) (limit : RiskLevel × Int) :
    limit ∈ limits ↔ InForce specs limit := by
  rw [← limitsOf_eq_ofList h, Entries.mem_ofList_iff, InForce]

/-- A limit in force was asked for. -/
theorem InForce.requested {specs : List String} {limit : RiskLevel × Int} (h : InForce specs limit) :
    Requested specs limit := by
  obtain ⟨before, after, hsplit, -⟩ := h
  rw [← mem_requests_iff, hsplit]
  exact List.mem_append_right _ List.mem_cons_self

/-- For a level there is one limit in force. -/
theorem InForce.unique {specs : List String} {level : RiskLevel} {bound other : Int}
    (h : InForce specs (level, bound)) (hother : InForce specs (level, other)) : bound = other := by
  rw [InForce, ← Entries.find?_ofList_eq_some_iff] at h hother
  exact Option.some.inj (h.symm.trans hother)

/-- For every level that is requested, a limit is in force. -/
theorem Requested.exists_inForce {specs : List String} {limit : RiskLevel × Int}
    (h : Requested specs limit) : ∃ bound, InForce specs (limit.1, bound) :=
  Entries.exists_lastIn_of_mem ((mem_requests_iff ..).mpr h)

/-- A limit allows no line less than one. -/
theorem one_le_of_limitOf {spec : String} {limit : RiskLevel × Int} (h : limitOf spec = .ok limit) :
    1 ≤ limit.2 := by
  unfold limitOf at h
  grind

/-! ### What the gate reports -/

/-- A gate without a threshold enforces the limits that it has. -/
theorem enforces_limits (limits : Entries RiskLevel Int) : Enforces limits (· ∈ limits) := by
  intro input hreads
  -- Every limit's count can be read, so judging the limits one by one cannot fail.
  choose! count hcount using hreads
  let judged (limit : RiskLevel × Int) : Option Violation :=
    if limit.2 ≤ count limit then some (.limit limit.1 (count limit) limit.2) else none
  let sorted := limits.mergeSort fun a b => !(b.1.name < a.1.name)
  have hjudged : sorted.mapM (limitViolation? input) = .ok (sorted.map judged) := by
    rw [Except.mapM_eq_ok_iff, List.map_map]
    refine List.map_congr_left fun limit hmem => ?_
    exact limitViolation?_eq (hcount limit (List.mem_mergeSort.mp hmem))
  have hmany : limitViolations limits input = .ok (sorted.filterMap judged) := by
    rw [limitViolations, hjudged]
    exact congrArg Except.ok (List.filterMap_map ..)
  refine ⟨sorted.filterMap judged, ?_, ?_⟩
  · rw [violations, hmany]
    rfl
  · -- A limit yields a violation exactly when its count is reached.
    have hreached : ∀ limit ∈ limits, judged limit ≠ none ↔ input.Reaches limit := by
      intro limit hmem
      have hreaches : input.Reaches limit ↔ limit.2 ≤ count limit := by
        simp only [GateInput.Reaches, hcount limit hmem, Except.ok.injEq, exists_eq_left']
      rw [hreaches]
      simp [judged]
    constructor
    · intro hfound
      obtain ⟨violation, hviolation⟩ := List.exists_mem_of_ne_nil _ hfound
      obtain ⟨limit, hmem, hlimit⟩ := List.mem_filterMap.mp hviolation
      have hmem : limit ∈ limits := List.mem_mergeSort.mp hmem
      exact ⟨limit, hmem, (hreached limit hmem).mp (by simp [hlimit])⟩
    · rintro ⟨limit, hmem, hreaches⟩ hnone
      refine (hreached limit hmem).mpr hreaches ?_
      exact List.filterMap_eq_nil_iff.mp hnone limit (List.mem_mergeSort.mpr hmem)

/-- The name of a level is found in a profile that gives its number of lines only. -/
theorem lineCount_single (level other : RiskLevel) (count : Int) :
    GateInput.lineCount { lineCounts := [(level.name, .ok count)] } other =
      .ok (if other = level then count else 0) := by
  have hname : level.name = other.name ↔ other = level :=
    RiskLevel.name_injective.eq_iff.trans eq_comm
  simp only [GateInput.lineCount, Entries.find?_cons, Entries.find?_nil, hname]
  split <;> rfl

section

variable {specs : List String} {limits : Entries RiskLevel Int} (hspecs : limitsOf specs = .ok limits)
include hspecs

/-- The limits that are enforced are those in force. -/
theorem enforces_inForce : Enforces limits (InForce specs) := by
  have hmem : (· ∈ limits) = InForce specs := funext fun limit => propext (mem_limitsOf_iff hspecs limit)
  exact hmem ▸ enforces_limits limits

/-- A profile with as many lines as the strict limit allows, and no others, is within the loose one. -/
theorem Loosened.not_enforces_requested (h : Loosened specs) : ¬ Enforces limits (Requested specs) := by
  intro hall
  obtain ⟨level, strict, loose, hstrict, hloose, hlt⟩ := h
  -- The count is the stricter limit of the level: that one is reached, the looser one in force is not.
  let input : GateInput := { lineCounts := [(level.name, .ok strict)] }
  have hreads : ∀ other, ∃ count, input.lineCount other = .ok count :=
    fun other => ⟨_, lineCount_single level other strict⟩
  obtain ⟨found, hfound, hiff⟩ := hall input fun limit _ => hreads limit.1
  obtain ⟨same, hsame, hiff'⟩ := enforces_inForce hspecs input fun limit _ => hreads limit.1
  obtain rfl : found = same := Except.ok.inj (hfound.symm.trans hsame)
  have hviolated : found ≠ [] :=
    hiff.mpr ⟨(level, strict), hstrict, strict, by rw [lineCount_single, if_pos rfl], le_rfl⟩
  obtain ⟨⟨other, bound⟩, hin, count, hcount, hle⟩ := hiff'.mp hviolated
  rw [lineCount_single, Except.ok.injEq] at hcount
  by_cases hother : other = level
  · subst hother
    have hbound : bound = loose := hin.unique hloose
    rw [if_pos rfl] at hcount
    omega
  · -- No line has another level, and a limit is at least one.
    obtain ⟨spec, -, hspec⟩ := hin.requested
    have hone : 1 ≤ bound := one_le_of_limitOf hspec
    rw [if_neg hother] at hcount
    dsimp only at hle
    omega

/-- If no limit is loosened by a later one, all that is asked for is enforced. -/
theorem enforces_requested_of_not_loosened (h : ¬ Loosened specs) : Enforces limits (Requested specs) := by
  intro input hreads
  obtain ⟨found, hfound, hiff⟩ := enforces_inForce hspecs input fun limit h => hreads limit h.requested
  refine ⟨found, hfound, hiff.trans ⟨?_, ?_⟩⟩
  · rintro ⟨limit, hin, hreaches⟩
    exact ⟨limit, hin.requested, hreaches⟩
  · rintro ⟨limit, hrequested, count, hcount, hle⟩
    obtain ⟨bound, hin⟩ := hrequested.exists_inForce
    have hbound : bound ≤ limit.2 := by
      by_contra hlt
      exact h ⟨limit.1, limit.2, bound, hrequested, hin, not_le.mp hlt⟩
    exact ⟨(limit.1, bound), hin, count, hcount, hbound.trans hle⟩

end

/-- **Which requests are enforced.** Of the limits in a list of specifications, a gate enforces those that no
    later specification replaces.  It enforces all of them, on every profile, if and only if no limit is
    followed by a greater one for its level that stays. -/
theorem enforces_inForce_and_requested_iff {specs : List String} {limits : Entries RiskLevel Int}
    (hspecs : limitsOf specs = .ok limits) :
    Enforces limits (InForce specs) ∧ (Enforces limits (Requested specs) ↔ ¬ Loosened specs) :=
  ⟨enforces_inForce hspecs, fun hall hloosened => hloosened.not_enforces_requested hspecs hall,
    enforces_requested_of_not_loosened hspecs⟩

/-- The second limit for red loosens the first. -/
theorem enforces_inForce_and_requested_iff_of_threeLimits :
    limitsOf ["red=1", " Orange = 2", "RED=+5 "] = .ok [(.red, 5), (.orange, 2)] ∧
      Enforces [(.red, 5), (.orange, 2)] (InForce ["red=1", " Orange = 2", "RED=+5 "]) ∧
      (Enforces [(.red, 5), (.orange, 2)] (Requested ["red=1", " Orange = 2", "RED=+5 "]) ↔
        ¬ Loosened ["red=1", " Orange = 2", "RED=+5 "]) := by
  have hspecs : limitsOf ["red=1", " Orange = 2", "RED=+5 "] = .ok [(.red, 5), (.orange, 2)] := by
    refine Except.toOption_eq_some.mp ?_
    decide +kernel
  exact ⟨hspecs, enforces_inForce_and_requested_iff hspecs⟩

/-- **A request need not be enforced.** A list of specifications may be accepted, and a profile may reach one
    of the limits that it requests, without a violation. -/
theorem not_always_enforces_requested :
    ¬ ∀ (specs : List String) (limits : Entries RiskLevel Int) (p : RiskProfile),
      limitsOf specs = .ok limits →
      ∃ found, violations { limits := limits } p.gateInput = .ok found ∧
        (found ≠ [] ↔ ∃ limit, Requested specs limit ∧ p.gateInput.Reaches limit) := by
  intro h
  -- Two red lines: the first limit allows none, the later one up to four.
  let p : RiskProfile := { overall := .red, lineCounts := [(.red, 2)], score := 20, checks := [] }
  have hspecs : limitsOf ["red=1", "red=5"] = .ok [(.red, 5)] := by
    refine Except.toOption_eq_some.mp ?_
    decide +kernel
  have hfirst : limitOf "red=1" = .ok (.red, 1) := by
    refine Except.toOption_eq_some.mp ?_
    decide +kernel
  have hnone : violations { limits := [(.red, 5)] } p.gateInput = .ok [] := by
    refine Except.toOption_eq_some.mp ?_
    decide +kernel
  obtain ⟨found, hfound, hiff⟩ := h ["red=1", "red=5"] [(.red, 5)] p hspecs
  refine hiff.mpr ⟨(.red, 1), ⟨"red=1", by simp, hfirst⟩, 2, p.lineCount_gateInput .red, by decide⟩ ?_
  exact Except.ok.inj (hfound.symm.trans hnone)

end Gate

end RangeAudit
