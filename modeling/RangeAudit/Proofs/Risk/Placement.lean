import Mathlib.Data.List.Basic
import Mathlib.Data.List.Infix
import Mathlib.Data.List.Nodup
import RangeAudit.Proofs.Entries.FirstOfKey
import RangeAudit.Proofs.Entries.Passes
import RangeAudit.Proofs.Text.Lines

namespace RangeAudit

/-!
# Where findings are placed

A finding belongs to the line of its node.  If the node is on no line, it belongs to the first source line that
contains the text of the operation, provided that the text is long enough to be searched for.  Of the findings
on feasible paths the first of each key is placed, where it belongs and nowhere else.

* `ShownOn`, `FirstShownOn` — the lines that contain a text, and the first of them;
* `Belongs` — the line of a finding;
* `Precedes` — the order of the findings on a line;
* `foldl_placeByText`, `findingsOn_eq` — what the two passes leave on a line;
* `mem_placedChecks_iff` — nothing is lost, nothing is placed twice, and nothing else is placed.
-/

/-! ### Lines that contain a text -/

namespace Text

/-- A list occurs in another if it stands somewhere in it. -/
theorem occursIn_iff_infix [BEq α] [LawfulBEq α] (needle cs : List α) :
    occursIn needle cs = true ↔ needle <:+: cs := by
  induction cs with
  | nil => simp [occursIn]
  | cons c rest ih =>
    rw [occursIn, Bool.or_eq_true, ih, List.isPrefixOf_iff_prefix, List.infix_cons_iff]

end Text

/-- The source has a line of this number, and the line contains the text. -/
def ShownOn (source : String) (line : Int) (text : String) : Prop :=
  ∃ (k : Nat) (content : String), line = k + 1 ∧ (Text.linesOf source)[k]? = some content ∧
    Text.codesOf text <:+: Text.codesOf content

/-- The first line that contains the text. -/
structure FirstShownOn (source : String) (line : Int) (text : String) : Prop where
  shown : ShownOn source line text
  first : ∀ other, ShownOn source other text → line ≤ other

section Search

variable {source text : String} {line : Int}

/-- A text is shown on a line if one of the numbered lines contains it. -/
theorem shownOn_iff_mem :
    ShownOn source line text ↔
      ∃ numbered ∈ Text.numberedLines source, (numbered.1 : Int) = line ∧
        Text.contains numbered.2 text = true := by
  simp only [ShownOn, Text.numberedLines, List.mem_map, Prod.exists, List.mem_zipIdx_iff_getElem?,
    Text.contains, Text.occursIn_iff_infix]
  constructor
  · rintro ⟨k, content, rfl, hcontent, hinfix⟩
    exact ⟨k + 1, content, ⟨content, k, hcontent, rfl⟩, by simp, hinfix⟩
  · rintro ⟨number, content, ⟨content', k, hcontent, heq⟩, rfl, hinfix⟩
    obtain ⟨rfl, rfl⟩ := Prod.mk.inj heq
    exact ⟨k, content', by simp, hcontent, hinfix⟩

/-- A search from the first line on ends at the first line that contains the text. -/
theorem firstShownOn_of_find? {numbered : Nat × String}
    (h : (Text.numberedLines source).find? (fun line => Text.contains line.2 text) = some numbered) :
    FirstShownOn source numbered.1 text := by
  obtain ⟨hcontains, before, after, hsplit, hbefore⟩ := List.find?_eq_some_iff_append.mp h
  have hmem : numbered ∈ Text.numberedLines source := List.mem_of_find?_eq_some h
  refine ⟨shownOn_iff_mem.mpr ⟨numbered, hmem, rfl, hcontains⟩, fun other hother => ?_⟩
  obtain ⟨candidate, hcandidate, rfl, hshown⟩ := shownOn_iff_mem.mp hother
  have hsorted := Text.pairwise_numberedLines source
  rw [hsplit] at hcandidate hsorted
  -- No line before the one found contains the text, and those after it have greater numbers.
  rcases List.mem_append.mp hcandidate with hmem | hmem
  · have hnot := hbefore candidate hmem
    rw [hshown] at hnot
    cases hnot
  · rcases List.mem_cons.mp hmem with rfl | hmem
    · exact Int.le_refl _
    · have hlt := (List.pairwise_cons.mp (List.pairwise_append.mp hsorted).2.1).1 candidate hmem
      exact Int.ofNat_le.mpr (Nat.le_of_lt hlt)

/-- There is only one first line that shows a text. -/
theorem FirstShownOn.unique {other : Int} (h : FirstShownOn source line text)
    (hother : FirstShownOn source other text) : line = other :=
  Int.le_antisymm (h.first other hother.shown) (hother.first line h.shown)

/-- A text that is on some line is found. -/
theorem ShownOn.exists_find? (h : ShownOn source line text) :
    ∃ numbered, (Text.numberedLines source).find? (fun line => Text.contains line.2 text) = some numbered := by
  obtain ⟨numbered, hmem, -, hcontains⟩ := shownOn_iff_mem.mp h
  exact Option.isSome_iff_exists.mp (List.find?_isSome.mpr ⟨numbered, hmem, hcontains⟩)

end Search

/-! ### The line of a finding -/

/-- The text of the operation without blanks at its ends. -/
def ArithCheck.operation (c : ArithCheck) : String :=
  Text.trim (c.text.getD "")

/-- The line of a finding: that of its node; without one, the first that contains the text of the
    operation, if this is long enough. -/
inductive Belongs (index : NodeIndex) (source : String) (config : Config) (c : ArithCheck) (line : Int) :
    Prop where
  | byNode (mapped : index.lineOf? (some c.node) = some line)
  | byText (unmapped : index.lineOf? (some c.node) = none)
      (long : config.minFallbackLength ≤ Text.size c.operation)
      (first : FirstShownOn source line c.operation)

/-- A finding is placed by its text on the first line that shows it, if the text is long enough. -/
theorem fallbackLine?_eq_some_iff (c : ArithCheck) (source : String) (config : Config) (line : Int) :
    fallbackLine? c source config = some line ↔
      config.minFallbackLength ≤ Text.size c.operation ∧ FirstShownOn source line c.operation := by
  have hdefinition : fallbackLine? c source config =
      if (Text.size c.operation : Int) < config.minFallbackLength then none
      else ((Text.numberedLines source).find? fun line => Text.contains line.2 c.operation).map
        fun line => (line.1 : Int) := rfl
  rw [hdefinition]
  by_cases hshort : (Text.size c.operation : Int) < config.minFallbackLength
  · have hlong : ¬ config.minFallbackLength ≤ Text.size c.operation := Int.not_le.mpr hshort
    rw [if_pos hshort]
    exact iff_of_false (by simp) fun h => hlong h.1
  · rw [if_neg hshort, Option.map_eq_some_iff]
    constructor
    · rintro ⟨numbered, hfound, rfl⟩
      exact ⟨Int.not_lt.mp hshort, firstShownOn_of_find? hfound⟩
    · rintro ⟨-, hfirst⟩
      obtain ⟨numbered, hfound⟩ := hfirst.shown.exists_find?
      exact ⟨numbered, hfound, (firstShownOn_of_find? hfound).unique hfirst⟩

section Lines

variable {index : NodeIndex} {source : String} {config : Config} {c : ArithCheck}

/-- A finding is placed by its node if the node is mapped, and by its text only otherwise. -/
theorem belongs_iff (line : Int) :
    Belongs index source config c line ↔
      index.lineOf? (some c.node) = some line ∨
        index.lineOf? (some c.node) = none ∧ fallbackLine? c source config = some line := by
  rw [fallbackLine?_eq_some_iff]
  constructor
  · rintro (hmapped | ⟨hunmapped, hlong, hfirst⟩)
    · exact .inl hmapped
    · exact .inr ⟨hunmapped, hlong, hfirst⟩
  · rintro (hmapped | ⟨hunmapped, hlong, hfirst⟩)
    · exact .byNode hmapped
    · exact .byText hunmapped hlong hfirst

/-- A finding belongs to one line. -/
theorem Belongs.unique {line other : Int} (h : Belongs index source config c line)
    (hother : Belongs index source config c other) : line = other := by
  rcases (belongs_iff line).mp h with hline | ⟨hnone, hline⟩
  · rcases (belongs_iff other).mp hother with hsame | ⟨hnone, -⟩
    · exact Option.some.inj (hline.symm.trans hsame)
    · rw [hnone] at hline
      cases hline
  · rcases (belongs_iff other).mp hother with hsome | ⟨-, hsame⟩
    · rw [hnone] at hsome
      cases hsome
    · exact Option.some.inj (hline.symm.trans hsame)

/-- A finding has a line if its node has one, or its text is long enough and in the source. -/
theorem exists_belongs_iff :
    (∃ line, Belongs index source config c line) ↔
      index.lineOf? (some c.node) ≠ none ∨
        config.minFallbackLength ≤ Text.size c.operation ∧ ∃ line, ShownOn source line c.operation := by
  constructor
  · rintro ⟨line, hmapped | ⟨-, hlong, hfirst⟩⟩
    · exact .inl (by simp [hmapped])
    · exact .inr ⟨hlong, line, hfirst.shown⟩
  · intro h
    cases hnode : index.lineOf? (some c.node) with
    | some line => exact ⟨line, .byNode hnode⟩
    | none =>
      obtain ⟨hlong, line, hshown⟩ := h.resolve_left (by simp [hnode])
      obtain ⟨numbered, hfound⟩ := hshown.exists_find?
      exact ⟨numbered.1, .byText hnode hlong (firstShownOn_of_find? hfound)⟩

end Lines

/-! ### Two passes -/

/-- The first pass places the findings whose nodes are mapped. -/
theorem placeMapped_eq_collect (index : NodeIndex) :
    placeMapped index = Entries.collect fun c => index.lineOf? (some c.node) := by
  funext placed c
  show placeMapped index placed c = Entries.collect (fun c => index.lineOf? (some c.node)) placed c
  unfold placeMapped
  cases hline : index.lineOf? (some c.node) with
  | none => exact Eq.symm (Entries.collect_of_eq_none (fun c => index.lineOf? (some c.node)) hline placed)
  | some line => exact Eq.symm (Entries.collect_of_eq_some (fun c => index.lineOf? (some c.node)) hline placed)

/-- A finding is added to the line of its text if no other finding of its key is there. -/
theorem placeByText_eq_collect {source : String} {config : Config} {placed : Entries Int (List ArithCheck)}
    {c : ArithCheck} (h : ∀ line, ∀ other ∈ (placed.find? line).getD [], other.key ≠ c.key) :
    placeByText source config placed c =
      Entries.collect (fun c => fallbackLine? c source config) placed c := by
  unfold placeByText
  cases hline : fallbackLine? c source config with
  | none => exact Eq.symm (Entries.collect_of_eq_none (fun c => fallbackLine? c source config) hline placed)
  | some line =>
    have hnew : (((placed.find? line).getD []).any fun other => other.key == c.key) = false := by
      rw [List.any_eq_false]
      intro other hother heq
      exact h line other hother (beq_iff_eq.mp heq)
    rw [Entries.collect_of_eq_some (fun c => fallbackLine? c source config) hline]
    simp only [Entries.update, hnew, Bool.false_eq_true, if_false]

/-- As long as no key is placed twice, the check for findings of the same key never applies. -/
theorem foldl_placeByText {source : String} {config : Config} {cs : List ArithCheck}
    (hcs : (cs.map ArithCheck.key).Nodup) {placed : Entries Int (List ArithCheck)}
    (hplaced : ∀ line, ∀ other ∈ (placed.find? line).getD [], other.key ∉ cs.map ArithCheck.key) :
    cs.foldl (placeByText source config) placed =
      cs.foldl (Entries.collect fun c => fallbackLine? c source config) placed := by
  -- No key occurs twice among the checks to come or the placed ones, so the test for a placed key never fires.
  induction cs generalizing placed with
  | nil => rfl
  | cons c rest ih =>
    obtain ⟨hfirst, hrest⟩ := List.nodup_cons.mp hcs
    have hnew : ∀ line, ∀ other ∈ (placed.find? line).getD [], other.key ≠ c.key := by
      intro line other hother heq
      exact hplaced line other hother (List.mem_cons.mpr (.inl heq))
    rw [List.foldl_cons, List.foldl_cons, placeByText_eq_collect hnew]
    refine ih hrest fun line other hother hmem => ?_
    rw [Entries.getD_find?_collect, List.mem_append] at hother
    rcases hother with hother | hother
    · exact hplaced line other hother (List.mem_cons_of_mem _ hmem)
    · split at hother
      · rw [List.mem_singleton.mp hother] at hmem
        exact hfirst hmem
      · cases hother

section Placed

variable (paths : List PathTrace) (index : NodeIndex) {source : String} (config : Config)

/-- The findings on a line. -/
def findingsOn (source : String) (line : Int) : List ArithCheck :=
  ((placedChecks paths index source config).find? line).getD []

variable (hsource : source ≠ "")
include hsource

/-- The second pass can be told from the first by nothing but where the line comes from. -/
theorem placedChecks_eq_collect :
    placedChecks paths index source config =
      ((feasibleChecks paths).filter fun c => (index.lineOf? (some c.node)).isNone).foldl
        (Entries.collect fun c => fallbackLine? c source config)
        ((feasibleChecks paths).foldl (Entries.collect fun c => index.lineOf? (some c.node)) []) := by
  have hempty : ¬ source.isEmpty = true := fun h => hsource (String.isEmpty_iff.mp h)
  have hkeys : ((feasibleChecks paths).map ArithCheck.key).Nodup := nodup_map_distinctBy _
  have hinjective := (List.nodup_map_iff_inj_on (List.Nodup.of_map _ hkeys)).mp hkeys
  rw [placedChecks, if_neg hempty, placeMapped_eq_collect]
  refine foldl_placeByText (hkeys.sublist (List.filter_sublist.map _)) fun line other hother hmem => ?_
  -- What the first pass placed has a line, and what is left for the second has none.
  rw [Entries.getD_find?_foldl_collect, Entries.find?_nil, Option.getD_none, List.nil_append,
    List.mem_filter, decide_eq_true_eq] at hother
  obtain ⟨c, hc, hkey⟩ := List.mem_map.mp hmem
  obtain ⟨hfeasible, hunmapped⟩ := List.mem_filter.mp hc
  obtain rfl := hinjective c hfeasible other hother.1 hkey
  rw [hother.2] at hunmapped
  cases hunmapped

/-- The findings of the first pass stand before those of the second, and each pass keeps their order. -/
theorem findingsOn_eq (line : Int) :
    findingsOn paths index config source line =
      ((feasibleChecks paths).filter fun c => index.lineOf? (some c.node) = some line) ++
        (feasibleChecks paths).filter fun c =>
          index.lineOf? (some c.node) = none ∧ fallbackLine? c source config = some line := by
  rw [findingsOn, placedChecks_eq_collect paths index config hsource, Entries.getD_find?_foldl_collect,
    Entries.getD_find?_foldl_collect, Entries.find?_nil, Option.getD_none, List.nil_append,
    List.filter_filter]
  congr 1
  apply List.filter_congr
  intro c _
  rw [Bool.decide_and, Bool.and_comm]
  cases index.lineOf? (some c.node) <;> rfl

/-- Each line has one list. -/
theorem nodup_keys_placedChecks : (placedChecks paths index source config).keys.Nodup := by
  have hnil : (Entries.keys ([] : Entries Int (List ArithCheck))).Nodup := List.nodup_nil
  rw [placedChecks_eq_collect paths index config hsource]
  exact Entries.nodup_keys_foldl Entries.nodup_keys_collect
    (Entries.nodup_keys_foldl Entries.nodup_keys_collect hnil _) _

/-- No line has an empty list. -/
theorem ne_nil_of_mem_placedChecks :
    ∀ entry ∈ placedChecks paths index source config, entry.2 ≠ [] := by
  rw [placedChecks_eq_collect paths index config hsource]
  refine Entries.ne_nil_of_mem_foldl_collect (Entries.ne_nil_of_mem_foldl_collect ?_ _) _
  exact fun entry hentry => absurd hentry List.not_mem_nil

/-- There is an entry for the lines with findings. -/
theorem find?_placedChecks (line : Int) :
    (placedChecks paths index source config).find? line =
      if findingsOn paths index config source line = [] then none
      else some (findingsOn paths index config source line) := by
  rw [findingsOn]
  cases hfind : (placedChecks paths index source config).find? line with
  | none => rfl
  | some found =>
    have hne : found ≠ [] :=
      ne_nil_of_mem_placedChecks paths index config hsource _ (Entries.mem_of_find? hfind)
    rw [Option.getD_some, if_neg hne]

/-- A line has the findings on it, if there are any. -/
theorem mem_placedChecks_iff_findingsOn (line : Int) (found : List ArithCheck) :
    (line, found) ∈ placedChecks paths index source config ↔
      found ≠ [] ∧ findingsOn paths index config source line = found := by
  rw [← Entries.find?_eq_some_iff (nodup_keys_placedChecks paths index config hsource),
    find?_placedChecks paths index config hsource]
  by_cases hnil : findingsOn paths index config source line = []
  · rw [if_pos hnil, hnil]
    exact iff_of_false (by simp) fun h => h.1 h.2.symm
  · rw [if_neg hnil, Option.some.injEq]
    constructor
    · rintro rfl
      exact ⟨hnil, rfl⟩
    · exact fun h => h.2

/-- A line with findings is one that is listed with a list that is not empty. -/
theorem exists_mem_placedChecks_iff (line : Int) :
    (∃ found, (line, found) ∈ placedChecks paths index source config ∧ found ≠ []) ↔
      findingsOn paths index config source line ≠ [] := by
  simp only [mem_placedChecks_iff_findingsOn paths index config hsource]
  constructor
  · rintro ⟨found, ⟨-, rfl⟩, hne⟩
    exact hne
  · intro hne
    exact ⟨_, ⟨hne, rfl⟩, hne⟩

/-- The findings of a line are those of the list that it is listed with. -/
theorem exists_found_iff (c : ArithCheck) (line : Int) :
    (∃ found, (line, found) ∈ placedChecks paths index source config ∧ c ∈ found) ↔
      c ∈ findingsOn paths index config source line := by
  simp only [mem_placedChecks_iff_findingsOn paths index config hsource]
  constructor
  · rintro ⟨found, ⟨-, rfl⟩, hc⟩
    exact hc
  · intro hc
    exact ⟨_, ⟨List.ne_nil_of_mem hc, rfl⟩, hc⟩

/-- The findings on a line are the feasible ones that belong there. -/
theorem mem_findingsOn_iff (c : ArithCheck) (line : Int) :
    c ∈ findingsOn paths index config source line ↔
      c ∈ feasibleChecks paths ∧ Belongs index source config c line := by
  rw [findingsOn_eq paths index config hsource, belongs_iff, List.mem_append, List.mem_filter,
    List.mem_filter, decide_eq_true_eq, decide_eq_true_eq, and_or_left]

end Placed

/-! ### The findings of a line -/

/-- The finding is one of a feasible path, and no finding of a feasible path before it has its key. -/
def FirstFeasible (paths : List PathTrace) (c : ArithCheck) : Prop :=
  FirstIn ArithCheck.key ((paths.filter PathTrace.feasible).flatMap PathTrace.checks) c

/-- The order on a line: findings whose node is there come before those whose text is, and else the
    order is that in which the keys first occur on feasible paths. -/
def Precedes (paths : List PathTrace) (index : NodeIndex) (c d : ArithCheck) : Prop :=
  index.lineOf? (some c.node) ≠ none ∧ index.lineOf? (some d.node) = none ∨
    (index.lineOf? (some c.node) = none ↔ index.lineOf? (some d.node) = none) ∧
      placeOf ArithCheck.key ((paths.filter PathTrace.feasible).flatMap PathTrace.checks) c.key <
        placeOf ArithCheck.key ((paths.filter PathTrace.feasible).flatMap PathTrace.checks) d.key

/-- Findings of which one precedes the other have different keys. -/
theorem Precedes.key_ne {paths : List PathTrace} {index : NodeIndex} {c d : ArithCheck}
    (h : Precedes paths index c d) : c.key ≠ d.key := by
  intro hkey
  have hnode : c.node = d.node := congrArg Prod.fst hkey
  rcases h with ⟨hmapped, hunmapped⟩ | ⟨-, hplace⟩
  · rw [hnode] at hmapped
    exact hmapped hunmapped
  · rw [hkey] at hplace
    exact Nat.lt_irrefl _ hplace

/-- Of the findings with the same key, the first on a feasible path counts. -/
theorem mem_feasibleChecks_iff (paths : List PathTrace) (c : ArithCheck) :
    c ∈ feasibleChecks paths ↔ FirstFeasible paths c :=
  mem_distinctBy_iff ..

/-- On a line, findings that are placed by their nodes come first, and then those that are placed by their
    texts, each in the order in which they occur. -/
theorem pairwise_precedes_findingsOn (paths : List PathTrace) (index : NodeIndex) (config : Config)
    {source : String} (hsource : source ≠ "") (line : Int) :
    (findingsOn paths index config source line).Pairwise (Precedes paths index) := by
  have hplace : (feasibleChecks paths).Pairwise fun c d =>
      placeOf ArithCheck.key (occurringChecks paths) c.key <
        placeOf ArithCheck.key (occurringChecks paths) d.key := pairwise_place_distinctBy _
  rw [findingsOn_eq paths index config hsource, List.pairwise_append]
  refine ⟨?_, ?_, ?_⟩
  -- Within a pass the first occurrences decide, and between the passes that only the first knows the node.
  · refine (hplace.sublist List.filter_sublist).imp_of_mem fun {c d} hc hd hlt => .inr ⟨?_, hlt⟩
    have hcline := of_decide_eq_true (List.mem_filter.mp hc).2
    have hdline := of_decide_eq_true (List.mem_filter.mp hd).2
    rw [hcline, hdline]
  · refine (hplace.sublist List.filter_sublist).imp_of_mem fun {c d} hc hd hlt => .inr ⟨?_, hlt⟩
    have hcline := of_decide_eq_true (List.mem_filter.mp hc).2
    have hdline := of_decide_eq_true (List.mem_filter.mp hd).2
    rw [hcline.1, hdline.1]
  · intro c hc d hd
    have hcline := of_decide_eq_true (List.mem_filter.mp hc).2
    have hdline := of_decide_eq_true (List.mem_filter.mp hd).2
    exact .inl ⟨by simp [hcline], hdline.1⟩

/-- On no two lines, and not twice on one, are findings of the same key. -/
theorem nodup_keys_of_placed (paths : List PathTrace) (index : NodeIndex) (config : Config)
    {source : String} (hsource : source ≠ "") :
    ((placedChecks paths index source config).flatMap fun entry =>
      entry.2.map ArithCheck.key).Nodup := by
  have hentry : ∀ entry ∈ placedChecks paths index source config,
      findingsOn paths index config source entry.1 = entry.2 := fun entry hmem =>
    ((mem_placedChecks_iff_findingsOn paths index config hsource entry.1 entry.2).mp hmem).2
  refine List.nodup_flatMap.mpr ⟨fun entry hmem => ?_, ?_⟩
  · rw [← hentry entry hmem]
    have hordered := pairwise_precedes_findingsOn paths index config hsource entry.1
    exact List.pairwise_map.mpr (hordered.imp Precedes.key_ne)
  -- Two findings of one key are the same finding, and this belongs to one line.
  · have hlines := List.pairwise_map.mp (nodup_keys_placedChecks paths index config hsource)
    refine hlines.imp_of_mem fun {entry other} hmem hmem' hne => ?_
    intro key hkey hkey'
    obtain ⟨c, hc, rfl⟩ := List.mem_map.mp hkey
    obtain ⟨d, hd, hsame⟩ := List.mem_map.mp hkey'
    rw [← hentry entry hmem, mem_findingsOn_iff paths index config hsource, mem_feasibleChecks_iff] at hc
    rw [← hentry other hmem', mem_findingsOn_iff paths index config hsource, mem_feasibleChecks_iff] at hd
    obtain rfl := hc.1.unique hd.1 hsame.symm
    exact hne (hc.2.unique hd.2)

/-- **Nothing is lost, and nothing is placed twice.** For a source that is not empty: a finding is among those of
    a line if and only if it is the first of its key on a feasible path and belongs there; so it is placed if
    and only if its node is on a line, or its text is long enough and on a line.  Every key is placed once at
    most, on all lines together.  Every line is listed once and has a finding, and on each the findings by
    node stand before those by text, in the order of their first occurrences. -/
theorem mem_placedChecks_iff (paths : List PathTrace) (index : NodeIndex) (config : Config)
    {source : String} (hsource : source ≠ "") :
    let placed := placedChecks paths index source config
    (∀ c line, (∃ found, (line, found) ∈ placed ∧ c ∈ found) ↔
      FirstFeasible paths c ∧ Belongs index source config c line) ∧
    (∀ c, (∃ entry ∈ placed, c ∈ entry.2) ↔
      FirstFeasible paths c ∧ (index.lineOf? (some c.node) ≠ none ∨
        config.minFallbackLength ≤ Text.size c.operation ∧ ∃ line, ShownOn source line c.operation)) ∧
    (placed.flatMap fun entry => entry.2.map ArithCheck.key).Nodup ∧
    placed.keys.Nodup ∧
    ∀ entry ∈ placed, entry.2 ≠ [] ∧ entry.2.Pairwise (Precedes paths index) := by
  intro placed
  -- A finding stands on a line if its check is the first feasible one of its key and belongs there.
  have hplaced : ∀ c line, (∃ found, (line, found) ∈ placed ∧ c ∈ found) ↔
      FirstFeasible paths c ∧ Belongs index source config c line := by
    intro c line
    rw [← mem_feasibleChecks_iff, ← mem_findingsOn_iff paths index config hsource]
    exact exists_found_iff paths index config hsource c line
  refine ⟨hplaced, fun c => ?_, nodup_keys_of_placed paths index config hsource,
    nodup_keys_placedChecks paths index config hsource, fun entry hentry => ?_⟩
  · rw [← exists_belongs_iff, ← exists_and_left]
    constructor
    · rintro ⟨⟨line, found⟩, hmem, hc⟩
      exact ⟨line, (hplaced c line).mp ⟨found, hmem, hc⟩⟩
    · rintro ⟨line, hbelongs⟩
      obtain ⟨found, hmem, hc⟩ := (hplaced c line).mpr hbelongs
      exact ⟨(line, found), hmem, hc⟩
  · obtain ⟨hne, hfound⟩ :=
      (mem_placedChecks_iff_findingsOn paths index config hsource entry.1 entry.2).mp hentry
    have hordered := pairwise_precedes_findingsOn paths index config hsource entry.1
    rw [hfound] at hordered
    exact ⟨hne, hordered⟩

/-- A finding without a text. -/
def sumByNode : ArithCheck := { node := 5, check := "Overflow" }

/-- A finding with a text between blanks. -/
def sumByText : ArithCheck := { node := 6, check := "Overflow", text := some " a + b " }

/-- A finding of another kind. -/
def quotientByText : ArithCheck := { node := 8, check := "DivByZero", text := some "b / c" }

/-- An infeasible path, and two feasible ones with a finding in common and one whose text is too short. -/
def pathsOfSums : List PathTrace :=
  [{ index := 0, exit := .reverts, feasible := false, checks := [quotientByText, { sumByNode with node := 9 }] },
    { index := 1, exit := .returns, feasible := true,
      checks := [sumByText, sumByNode, { node := 7, check := "DivByZero", text := some "c" }] },
    { index := 2, exit := .returns, feasible := true,
      checks := [{ sumByNode with severity := "high" }, quotientByText] }]

/-- A source with the text of a sum on two lines. -/
def sourceOfSums : String :=
  "q = b / c;\nx = a + b;\ny = a + b;"

/-- The node of the finding without a text is on the second line. -/
def indexOfSums : NodeIndex :=
  NodeIndex.ofPlaces [⟨2, 4, 5⟩]

/-- Two findings are on the second line, of which one is placed by its text, and one is on the first. -/
theorem placedChecks_pathsOfSums :
    placedChecks pathsOfSums indexOfSums sourceOfSums {} =
      [(2, [sumByNode, sumByText]), (1, [quotientByText])] := by
  decide +kernel

/-- The quotient belongs to the first line by its text, and on the second line the sum that is mapped comes
    first. -/
theorem mem_placedChecks_iff_of_pathsOfSums :
    sourceOfSums ≠ "" ∧
      (FirstFeasible pathsOfSums quotientByText ∧
        Belongs indexOfSums sourceOfSums {} quotientByText 1) ∧
      [sumByNode, sumByText].Pairwise (Precedes pathsOfSums indexOfSums) := by
  have hsource : sourceOfSums ≠ "" := by decide
  have h := mem_placedChecks_iff pathsOfSums indexOfSums {} hsource
  rw [placedChecks_pathsOfSums] at h
  obtain ⟨hplaced, -, -, -, hordered⟩ := h
  refine ⟨hsource, (hplaced quotientByText 1).mp ⟨[quotientByText], by simp, by simp⟩, ?_⟩
  exact (hordered (2, [sumByNode, sumByText]) (by simp)).2

end RangeAudit
