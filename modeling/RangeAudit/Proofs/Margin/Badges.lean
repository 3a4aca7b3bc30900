import Mathlib.Data.List.Permutation
import RangeAudit.Margin.Lines
import RangeAudit.Proofs.Entries.FirstOccurrence
import RangeAudit.Proofs.Risk.LineLevels

namespace RangeAudit

/-!
# The static badge of a line

The static badges are put on in five passes, and a line keeps the first that it gets.  So the badge of a line is
the first of those that apply to it, if they are listed pass by pass.

* `applicableBadges` — the badges that apply to a line, the most important first;
* `findingsBadge?_cons` — the badge of findings, by their distinct kinds;
* `foldl_putBadge`, `find?_foldl_putBadge` — one pass puts badges on lines that have none;
* `find?_gatheredBadges` — what all passes leave on a line;
* `find?_staticBadges_eq_head?` — the badges come by ascending line, and each is the first that applies.
-/

/-! ### The badges that apply -/

/-- The badge of findings: their distinct kinds in order, marked by whether the first of them breaks arithmetic. -/
def findingsBadge? : List ArithCheck → Option Badge
  | [] => none
  | first :: rest => some {
      text := "⚠ " ++ ", ".intercalate ((first :: rest).map ArithCheck.check).eraseDups
      kind := if first.check ∈ breakingKinds then .truncation else .precision }

/-- The badges that apply to a line, the most important first: that of the findings placed on it; that
    of an assertion; that of a call that leaves the contract; those of the variables there that have
    two writers or more; and those of the variables there that have neither bound. -/
def applicableBadges (paths : List PathTrace) (index : NodeIndex) (source : String)
    (accesses : List StateAccess) (globals : List GlobalRange) (config : Config) (line : Int) : List Badge :=
  (findingsBadge? (((placedChecks paths index source config).find? line).getD [])).toList ++
  (if line ∈ Entries.keys (assertionLines source) then [⟨"↓ NARROWING POINT", .narrowed⟩] else []) ++
  (if line ∈ Entries.keys (externalCallLines source) then [⟨"⚡ EXTERNAL CALL", .external⟩] else []) ++
  ((accesses.filter fun a => 2 ≤ a.writers.length ∧ index.lineOf? (some a.varId) = some line).map fun a =>
    ⟨"MULTI-WRITER: " ++ ", ".intercalate (a.writers.map FunctionRef.functionName), .info⟩) ++
  ((globals.filter fun g =>
      g.bound.low = none ∧ g.bound.high = none ∧ index.lineOf? (some g.varId) = some line).map fun g =>
    ⟨g.varName ++ ": UNRESTRICTED", .truncation⟩)

/-- The first kind is that of the first finding. -/
theorem findingsBadge?_cons (first : ArithCheck) (rest : List ArithCheck) :
    findingsBadge? (first :: rest) = some (Badge.ofChecks (first :: rest)) := by
  have hkinds : ((first :: rest).map ArithCheck.check).eraseDups =
      first.check :: ((rest.map ArithCheck.check).filter fun kind => !kind == first.check).eraseDups := by
    rw [List.map_cons, List.eraseDups_cons]
  have hred : (checkLevel first.check = .red) ↔ first.check ∈ breakingKinds := by
    rw [checkLevel_eq]
    by_cases h : first.check ∈ breakingKinds <;> simp [h]
  rw [findingsBadge?, Badge.ofChecks, distinctBy_id, hkinds]
  simp only [hred]

/-! ### One pass -/

section Pass

variable {α : Type} (line? : α → Option Int) (badge : α → Badge)

/-- A pass puts the badges of the elements that have a line. -/
theorem foldl_putBadge (xs : List α) (badges : Entries Int Badge) :
    xs.foldl (fun badges x => putBadge badges (line? x) (badge x)) badges =
      (xs.filterMap fun x => (line? x).map fun line => (line, badge x)).foldl Entries.putNew badges := by
  induction xs generalizing badges with
  | nil => rfl
  | cons x rest ih =>
    rw [List.foldl_cons, ih, List.filterMap_cons]
    cases line? x with
    | none => rfl
    | some line => rfl

/-- A line that has a badge keeps it, and another gets that of the first element with this line. -/
theorem find?_foldl_putBadge (xs : List α) (badges : Entries Int Badge) (line : Int) :
    (xs.foldl (fun badges x => putBadge badges (line? x) (badge x)) badges).find? line =
      (badges.find? line).or ((xs.find? fun x => line? x == some line).map badge) := by
  rw [foldl_putBadge, Entries.find?_foldl_putNew, Entries.find?_filterMap]

theorem nodup_keys_foldl_putBadge {badges : Entries Int Badge} (h : badges.keys.Nodup) (xs : List α) :
    (xs.foldl (fun badges x => putBadge badges (line? x) (badge x)) badges).keys.Nodup := by
  rw [foldl_putBadge]
  exact Entries.nodup_keys_foldl Entries.nodup_keys_putNew h _

end Pass

/-- The lines of calls all get the same badge. -/
theorem map_find?_lines (lines : Entries Int String) (line : Int) (badge : Badge) :
    (List.find? (fun entry : Int × String => some entry.1 == some line) lines).map (fun _ => badge) =
      (if line ∈ lines.keys then [badge] else []).head? := by
  have hsome : (List.find? (fun entry : Int × String => some entry.1 == some line) lines).isSome ↔
      line ∈ lines.keys := by
    simp [List.find?_isSome, Entries.keys]
  by_cases h : line ∈ lines.keys
  · obtain ⟨entry, hentry⟩ := Option.isSome_iff_exists.mp (hsome.mpr h)
    rw [hentry, if_pos h]
    rfl
  · have hnone := Option.not_isSome_iff_eq_none.mp (mt hsome.mp h)
    rw [hnone, if_neg h]
    rfl

/-- Among the elements that count for a pass, the first with the line is the first of those that apply. -/
theorem map_find?_filter {α : Type} {p q r : α → Bool} (hr : ∀ x, r x = true ↔ p x = true ∧ q x = true)
    (badge : α → Badge) (xs : List α) :
    ((xs.filter p).find? q).map badge = ((xs.filter r).map badge).head? := by
  have hfilter : (xs.filter p).filter q = xs.filter r := by
    rw [List.filter_filter]
    apply List.filter_congr
    intro x _
    rw [Bool.eq_iff_iff, Bool.and_eq_true, hr, and_comm]
  rw [List.head?_map, ← hfilter, List.head?_filter]

/-! ### All passes -/

section Passes

variable (paths : List PathTrace) (index : NodeIndex) (accesses : List StateAccess)
  (globals : List GlobalRange) (config : Config) {source : String}

/-- The badges that the five passes leave, in the order in which their lines came. -/
def gatheredBadges (source : String) : Entries Int Badge :=
  let found := (placedChecks paths index source config).map fun entry => (entry.1, Badge.ofChecks entry.2)
  let asserted := (assertionLines source).foldl
    (fun badges line => putBadge badges (some line.1) ⟨"↓ NARROWING POINT", .narrowed⟩) found
  let called := (externalCallLines source).foldl
    (fun badges line => putBadge badges (some line.1) ⟨"⚡ EXTERNAL CALL", .external⟩) asserted
  let written := (accesses.filter fun a => 2 ≤ a.writers.length).foldl
    (fun badges a => putBadge badges (index.lineOf? (some a.varId)) (writersBadge a)) called
  (globals.filter GlobalRange.unrestricted).foldl
    (fun badges g => putBadge badges (index.lineOf? (some g.varId)) (unrestrictedBadge g)) written

/-- Where there is a source, the badges are those that were gathered, sorted by line. -/
theorem staticBadges_eq_byLine (hsource : source ≠ "") :
    staticBadges source paths index accesses globals config =
      byLine (gatheredBadges paths index accesses globals config source) := by
  have hempty : ¬ source.isEmpty = true := fun h => hsource (String.isEmpty_iff.mp h)
  rw [staticBadges, if_neg hempty]
  rfl

theorem nodup_keys_gatheredBadges (hsource : source ≠ "") :
    (gatheredBadges paths index accesses globals config source).keys.Nodup := by
  have hfound : (Entries.keys ((placedChecks paths index source config).map fun entry =>
      (entry.1, Badge.ofChecks entry.2))).Nodup := by
    rw [Entries.keys, List.map_map]
    exact nodup_keys_placedChecks paths index config hsource
  unfold gatheredBadges
  iterate 4 refine nodup_keys_foldl_putBadge _ _ ?_ _
  exact hfound

/-- The findings of a line come first. -/
theorem find?_map_ofChecks (hsource : source ≠ "") (line : Int) :
    Entries.find? ((placedChecks paths index source config).map fun entry =>
        (entry.1, Badge.ofChecks entry.2)) line =
      findingsBadge? (((placedChecks paths index source config).find? line).getD []) := by
  have hfind := Entries.find?_map Function.injective_id Badge.ofChecks
    (placedChecks paths index source config) line
  refine hfind.trans ?_
  cases hplaced : (placedChecks paths index source config).find? line with
  | none => rfl
  | some found =>
    have hne : found ≠ [] :=
      ne_nil_of_mem_placedChecks paths index config hsource _ (Entries.mem_of_find? hplaced)
    obtain ⟨first, rest, rfl⟩ := List.exists_cons_of_ne_nil hne
    rw [Option.map_some, Option.getD_some, findingsBadge?_cons]

/-- On each line the passes leave the first badge that applies. -/
theorem find?_gatheredBadges (hsource : source ≠ "") (line : Int) :
    (gatheredBadges paths index accesses globals config source).find? line =
      (applicableBadges paths index source accesses globals config line).head? := by
  have hasserted := map_find?_lines (assertionLines source) line ⟨"↓ NARROWING POINT", .narrowed⟩
  have hcalled := map_find?_lines (externalCallLines source) line ⟨"⚡ EXTERNAL CALL", .external⟩
  have hwritten := map_find?_filter (p := fun a : StateAccess => 2 ≤ a.writers.length)
    (q := fun a => index.lineOf? (some a.varId) == some line)
    (r := fun a => 2 ≤ a.writers.length ∧ index.lineOf? (some a.varId) = some line)
    (fun a => by simp) writersBadge accesses
  have hunbounded := map_find?_filter (p := GlobalRange.unrestricted)
    (q := fun g => index.lineOf? (some g.varId) == some line)
    (r := fun g => g.bound.low = none ∧ g.bound.high = none ∧ index.lineOf? (some g.varId) = some line)
    (fun g => by simp [GlobalRange.unrestricted, Bound.isAbsent, and_assoc])
    unrestrictedBadge globals
  -- A badge is put only where none is yet, so a line has the first of the five that applies.
  unfold gatheredBadges applicableBadges
  simp only [find?_foldl_putBadge, List.head?_append]
  rw [find?_map_ofChecks paths index config hsource, hasserted, hcalled, hwritten, hunbounded]
  cases findingsBadge? (((placedChecks paths index source config).find? line).getD []) <;> rfl

/-- **The priority of static badges.** For a source that is not empty, whatever the paths, index, variables and
    settings are: the badges come by ascending line; the badge of a line is the first that applies to it, so there
    is none if none applies; and the findings of a line always have a first kind. -/
theorem find?_staticBadges_eq_head? (paths : Option (List PathTrace)) (hsource : source ≠ "") :
    let badges := staticBadges source (paths.getD []) index accesses globals config
    badges.keys.Pairwise (· < ·) ∧
    (∀ line, badges.find? line =
      (applicableBadges (paths.getD []) index source accesses globals config line).head?) ∧
    ∀ entry ∈ placedChecks (paths.getD []) index source config,
      ∃ first others, distinctBy id (entry.2.map ArithCheck.check) = first :: others := by
  intro badges
  have hbadges : badges = byLine (gatheredBadges (paths.getD []) index accesses globals config source) :=
    staticBadges_eq_byLine (paths.getD []) index accesses globals config hsource
  have hkeys := nodup_keys_gatheredBadges (paths.getD []) index accesses globals config hsource
  refine ⟨?_, fun line => ?_, fun entry hentry => ?_⟩
  · rw [hbadges]
    exact pairwise_keys_byLine hkeys
  · rw [hbadges, find?_byLine hkeys]
    exact find?_gatheredBadges (paths.getD []) index accesses globals config hsource line
  · -- The badge text begins with the first kind of check, so a placed entry must not be empty.
    have hne := ne_nil_of_mem_placedChecks (paths.getD []) index config hsource entry hentry
    obtain ⟨c, rest, hfound⟩ := List.exists_cons_of_ne_nil hne
    rw [hfound]
    exact ⟨_, _, rfl⟩

end Passes

/-- A source in which each of the five reasons for a badge meets a more important one on some line. -/
def sourceOfBadges : String :=
  "require(a / b > 0);\nrequire(to.send(1));\nto.send(1);\nuint total;\nuint owner;\nreturn;"

/-- A path with two findings of one kind and one of another. -/
def pathsOfBadges : List PathTrace :=
  [{ index := 0, exit := .returns, feasible := true,
     checks := [{ node := 10, check := "DivisionTruncation" }, { node := 11, check := "Overflow" },
       { node := 12, check := "DivisionTruncation" }] }]

/-- The findings are on the first line, and the variables on the third, fourth and fifth. -/
def placesOfBadges : List LinePlace :=
  [⟨1, 8, 10⟩, ⟨1, 8, 11⟩, ⟨1, 8, 12⟩, ⟨3, 0, 30⟩, ⟨4, 0, 40⟩, ⟨4, 5, 41⟩, ⟨5, 0, 50⟩, ⟨5, 5, 51⟩]

/-- Two functions. -/
def writersOfBadges : List FunctionRef :=
  [⟨1, "deposit", none⟩, ⟨2, "withdraw", none⟩]

/-- Of the variables on the fourth line the first has one writer. -/
def accessesOfBadges : List StateAccess :=
  [{ varId := 30, varName := "to", writers := writersOfBadges },
    { varId := 40, varName := "fee", writers := writersOfBadges.take 1 },
    { varId := 41, varName := "total", writers := writersOfBadges }]

/-- Of the variables on the fifth line the first has a bound. -/
def globalsOfBadges : List GlobalRange :=
  [{ varId := 41, varName := "total" }, { varId := 50, varName := "limit", bound := { low := some 0 } },
    { varId := 51, varName := "owner" }]

theorem ofPlaces_placesOfBadges :
    NodeIndex.ofPlaces placesOfBadges =
      { lines := [(10, 1), (11, 1), (12, 1), (30, 3), (40, 4), (41, 4), (50, 5), (51, 5)]
        nodes := [(1, [10, 11, 12]), (3, [30]), (4, [40, 41]), (5, [50, 51])] } := by
  cbv

/-- On each line the first kind of badge that applies is shown. -/
theorem find?_staticBadges_eq_head?_of_sourceOfBadges :
    sourceOfBadges ≠ "" ∧
      let badges := staticBadges sourceOfBadges pathsOfBadges (NodeIndex.ofPlaces placesOfBadges)
        accessesOfBadges globalsOfBadges {}
      badges.keys.Pairwise (· < ·) ∧
      badges.find? 1 = some ⟨"⚠ DivisionTruncation, Overflow", .precision⟩ ∧
      badges.find? 2 = some ⟨"↓ NARROWING POINT", .narrowed⟩ ∧
      badges.find? 3 = some ⟨"⚡ EXTERNAL CALL", .external⟩ ∧
      badges.find? 4 = some ⟨"MULTI-WRITER: deposit, withdraw", .info⟩ ∧
      badges.find? 5 = some ⟨"owner: UNRESTRICTED", .truncation⟩ ∧ badges.find? 6 = none := by
  have hsource : sourceOfBadges ≠ "" := by decide
  obtain ⟨hkeys, hfind, -⟩ := find?_staticBadges_eq_head? (NodeIndex.ofPlaces placesOfBadges) accessesOfBadges
    globalsOfBadges {} (some pathsOfBadges) hsource
  refine ⟨hsource, hkeys, ?_⟩
  simp only [Option.getD_some] at hfind
  simp only [hfind]
  rw [ofPlaces_placesOfBadges]
  decide +kernel

end RangeAudit
