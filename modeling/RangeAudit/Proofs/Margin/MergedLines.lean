import RangeAudit.Proofs.Session.Views
import RangeAudit.Proofs.Text.Lines

namespace RangeAudit

/-!
# The margin shows what the single views show

The margin of a session puts the risk, the domain changes and the badge of every line together.  The risks and the
domain changes are also views of their own, and each of the three views is kept apart from the others; still they
agree line by line, in whatever order they are read.

* `Session.readAll`, `Session.Ready.readAll` — reading views leaves a session as it is, up to what is kept;
* `MarginLine.ShowsBesides` — a line shows what the single views have for its number;
* `showsBesides_of_mem_marginLines` — every line of a margin does;
* `World.marginLines_agree` — after every run the margin shows the lines of the source in order, and each line
  shows what the single views have for it.
-/

/-! ### The margin of a source -/

section Margin

variable {source : String}

/-- A source that is not empty is shown line by line. -/
theorem plainLines_of_ne (hsource : source ≠ "") :
    plainLines source = (Text.numberedLines source).map fun line => { number := line.1, text := line.2 } := by
  have hempty : ¬ source.isEmpty = true := fun h => hsource (String.isEmpty_iff.mp h)
  rw [plainLines, if_neg hempty]

/-- The line has the risk that one view has for its number, the domain changes that another has for
    it, and the badge that is put there unless there are domain changes. -/
structure MarginLine.ShowsBesides (line : MarginLine) (risks : Entries Int LineRisk)
    (notes : Entries Int (List RangeNote)) (badges : Entries Int Badge) : Prop where
  risk_eq : line.risk = risks.find? line.number
  ranges_eq : line.ranges = (notes.find? line.number).getD []
  badge_eq : line.badge = if line.ranges = [] then badges.find? line.number else none

variable (paths : Option (List PathTrace)) (index : NodeIndex) (selected : Option Int)
  (accesses : List StateAccess) (globals : List GlobalRange) (config : Config)

/-- The lines are numbered from one, without a gap, whatever stands beside them. -/
theorem map_number_marginLines (hsource : source ≠ "") :
    (marginLines source paths index selected accesses globals config).map MarginLine.number =
      List.range' 1 (source.toList.count '\n' + 1) := by
  rw [marginLines, plainLines_of_ne hsource, List.map_map, List.map_map, ← Text.length_linesOf,
    ← Text.map_fst_numberedLines]
  rfl

/-- The texts of the lines are the lines of the source. -/
theorem map_text_marginLines (hsource : source ≠ "") :
    (marginLines source paths index selected accesses globals config).map MarginLine.text =
      Text.linesOf source := by
  rw [marginLines, plainLines_of_ne hsource, List.map_map, List.map_map, ← Text.map_snd_numberedLines]
  rfl

/-- Beside a line stands what the three maps have for it, and nothing else. -/
theorem showsBesides_of_mem_marginLines {line : MarginLine}
    (h : line ∈ marginLines source paths index selected accesses globals config) :
    line.ShowsBesides (lineRisks paths index source config)
      (rangeNotes (activePath? (paths.getD []) selected) index config)
      (staticBadges source (paths.getD []) index accesses globals config) := by
  rw [marginLines] at h
  obtain ⟨plain, -, rfl⟩ := List.mem_map.mp h
  refine ⟨rfl, rfl, ?_⟩
  simp only [List.isEmpty_iff]

end Margin

/-! ### Reading views in any order -/

namespace Session

/-- A session after some of its kept views were read, one after the other. -/
def readAll (s : Session) (views : List KeptView) : Session :=
  views.foldl read s

/-- Reading views only keeps them. -/
theorem readAll_eq (s : Session) (views : List KeptView) :
    ∃ memo, s.readAll views = { s with memo := memo } := by
  induction views generalizing s with
  | nil => exact ⟨s.memo, rfl⟩
  | cons view rest ih =>
    obtain ⟨memo, hread⟩ := s.read_eq view
    obtain ⟨memo', hrest⟩ := ih (s.read view)
    refine ⟨memo', ?_⟩
    show (s.read view).readAll rest = _
    rw [hrest, hread]

namespace Ready

variable {s : Session}

/-- A session that is ready stays ready when views are read. -/
theorem readAll (h : s.Ready) (views : List KeptView) : (s.readAll views).Ready := by
  induction views generalizing s with
  | nil => exact h
  | cons view rest ih => exact ih (h.read view)

/-- Whatever was read before, a view answers the same. -/
theorem riskMap_readAll (h : s.Ready) (views : List KeptView) :
    (s.readAll views).riskMap.1 =
      .ok (lineRisks s.knownPaths s.display.index s.display.source.text s.config) := by
  rw [(h.readAll views).riskMap]
  obtain ⟨memo, hread⟩ := s.readAll_eq views
  rw [hread]
  rfl

/-- The notes on ranges are the same whatever was read before. -/
theorem rangeNotes_readAll (h : s.Ready) (views : List KeptView) :
    (s.readAll views).rangeNotes.1 =
      .ok (RangeAudit.rangeNotes (activePath? (s.knownPaths.getD []) s.selection.pathIndex)
        s.display.index s.config) := by
  rw [(h.readAll views).rangeNotes]
  obtain ⟨memo, hread⟩ := s.readAll_eq views
  rw [hread]
  rfl

/-- The lines are the same whatever was read before. -/
theorem marginLines_readAll (h : s.Ready) (views : List KeptView) :
    (s.readAll views).marginLines.1 =
      .ok (RangeAudit.marginLines s.display.source.text s.knownPaths s.display.index
        s.selection.pathIndex ((s.analysis?.getD {}).scopedAccesses s.selection.functionId)
        ((s.analysis?.getD {}).scopedRanges s.selection.functionId) s.config) := by
  rw [(h.readAll views).marginLines]
  obtain ⟨memo, hread⟩ := s.readAll_eq views
  rw [hread]
  rfl

end Ready

end Session

namespace World

/-- **The merged view agrees with the single views.** After every run, whatever the engine answers, while contracts
    are loaded and a source that is not empty is displayed: whichever views are read before each of them, the
    margin, the risks and the domain changes are shown, and so are the paths and the state that the selected
    function touches.  The margin has a line for each line of the source, numbered from one; their texts hold no
    line feed, and joined by line feeds they are the source.  Every line has the risk and the domain changes
    that the single views have for its number, and the static badge of its number if it has no domain change. -/
theorem marginLines_agree (config : Config) (moves : List Move)
    (hloaded : ((fresh config).run moves).session.contracts.isSome)
    (hsource : ((fresh config).run moves).session.display.source.text ≠ "")
    (beforeLines beforeRisks beforeNotes : List KeptView) :
    let s := ((fresh config).run moves).session
    ∃ lines risks notes paths accesses globals,
      (s.readAll beforeLines).marginLines.1 = .ok lines ∧
      (s.readAll beforeRisks).riskMap.1 = .ok risks ∧
      (s.readAll beforeNotes).rangeNotes.1 = .ok notes ∧
      s.paths = .ok paths ∧ s.stateAccesses = .ok accesses ∧ s.globalRanges = .ok globals ∧
      lines.map MarginLine.number = List.range' 1 (s.display.source.text.toList.count '\n' + 1) ∧
      (∀ line ∈ lines, '\n' ∉ line.text.toList) ∧
      "\n".intercalate (lines.map MarginLine.text) = s.display.source.text ∧
      ∀ line ∈ lines, line.ShowsBesides risks notes
        (staticBadges s.display.source.text (paths.getD []) s.display.index accesses globals s.config) := by
  intro s
  -- At a session that shows a source every view can be read, whatever was read before it.
  have hready : s.Ready := ready_run config moves hloaded
  have htexts := map_text_marginLines s.knownPaths s.display.index s.selection.pathIndex
    ((s.analysis?.getD {}).scopedAccesses s.selection.functionId)
    ((s.analysis?.getD {}).scopedRanges s.selection.functionId) s.config hsource
  refine ⟨_, _, _, _, _, _, hready.marginLines_readAll beforeLines, hready.riskMap_readAll beforeRisks,
    hready.rangeNotes_readAll beforeNotes, hready.paths, hready.contractList_map _, hready.contractList_map _,
    map_number_marginLines _ _ _ _ _ _ hsource, fun line hline => ?_, ?_, fun line hline => ?_⟩
  · have hmem := List.mem_map_of_mem (f := MarginLine.text) hline
    rw [htexts] at hmem
    exact Text.not_mem_of_mem_linesOf hmem
  · rw [htexts]
    exact Text.intercalate_linesOf _
  · exact showsBesides_of_mem_marginLines _ _ _ _ _ _ hline

/-- An archive with a finding on the second line of a source of two lines. -/
def archiveOfSecondLine : Archive where
  contracts := [{ id := 1, name := "Vault", functions := [{ id := 10, name := "deposit" }] }]
  analyses :=
    [("Vault", .obj [("functions", .arr [.obj [("functionId", .int 10), ("functionName", .str "deposit"),
      ("paths", .arr [.obj [("feasible", .bool true),
        ("arithChecks", .arr [.obj [("opNode", .int 5), ("check", .str "Overflow")]])]])]])])]
  sources :=
    [(10, .obj [("source", .str "// deposit\nx = a + b;"), ("lineMap", .arr [.arr [.int 2, .int 0, .int 5]])])]

/-- The function with the finding is selected, and its source and its paths come. -/
def visitOfSecondLine : List Move :=
  let engine := archiveOfSecondLine.oracle
  [.issue .load, .reply 0 engine,
    .issue (.dispatch (.selectFunction 10 none)), .reply 0 engine, .reply 0 engine]

/-- The lines of this session agree with its maps. -/
theorem marginLines_agree_of_visitOfSecondLine :
    let s := ((fresh {}).run visitOfSecondLine).session
    s.contracts.isSome ∧ s.display.source.text ≠ "" ∧
      ∃ lines risks notes paths accesses globals,
        (s.readAll [.risks, .lines]).marginLines.1 = .ok lines ∧
        (s.readAll []).riskMap.1 = .ok risks ∧
        (s.readAll [.lines]).rangeNotes.1 = .ok notes ∧
        s.paths = .ok paths ∧ s.stateAccesses = .ok accesses ∧ s.globalRanges = .ok globals ∧
        lines.map MarginLine.number = List.range' 1 (s.display.source.text.toList.count '\n' + 1) ∧
        (∀ line ∈ lines, '\n' ∉ line.text.toList) ∧
        "\n".intercalate (lines.map MarginLine.text) = s.display.source.text ∧
        ∀ line ∈ lines, line.ShowsBesides risks notes
          (staticBadges s.display.source.text (paths.getD []) s.display.index accesses globals s.config) := by
  have hloaded : ((fresh {}).run visitOfSecondLine).session.contracts.isSome := by decide +kernel
  have hsource : ((fresh {}).run visitOfSecondLine).session.display.source.text ≠ "" := by decide +kernel
  exact ⟨hloaded, hsource, marginLines_agree {} visitOfSecondLine hloaded hsource [.risks, .lines] [] [.lines]⟩

example :
    ((fresh {}).run visitOfSecondLine).session.marginLines.1.toOption.map
        (·.map fun line => (line.number, line.risk.map LineRisk.level)) =
      some [(1, none), (2, some .red)] := by
  decide +kernel

end World

end RangeAudit
