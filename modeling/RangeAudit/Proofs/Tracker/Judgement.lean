import RangeAudit.Proofs.Domain.Writing
import RangeAudit.Proofs.Entries.LastValue
import RangeAudit.Proofs.Tracker.Mentions
import RangeAudit.Proofs.Wire.NumberLength

namespace RangeAudit

/-!
# Every change along a path is judged

A change is judged by texts, and fails if one of them cannot be written.  The domains along a path come from a
document, where no number is so long, so this does not happen: the tracker, and whoever folds up the steps like it,
may ask for the verdict alone.

* `ValueRange.writable_ofWire` — a range that is read from a document can be written;
* `PathTrace.Writable`, `PathTrace.writable_ofWire` — and so can all ranges on a path;
* `Tracker.judge_eq_ok` — hence every domain that a step mentions is judged against the one before.
-/

open Wire (Value)

/-! ### Ranges -/

/-- The ends of an interval that is read fit. -/
theorem Interval.fits_of_ofWire? {v : Value} (hv : v.Fits) {piece : Interval} (h : ofWire? v = some piece) :
    Numeral.Fits piece.low ∧ Numeral.Fits piece.high := by
  unfold ofWire? at h
  split at h
  · rename_i first second
    obtain ⟨low, hlow, hrest⟩ := Option.bind_eq_some_iff.mp h
    obtain ⟨high, hhigh, hordered⟩ := Option.bind_eq_some_iff.mp hrest
    have hends : ∀ end? ∈ [first, second], Value.Fits end? := fun _ hend => hv.of_mem_items hend
    split at hordered
    · cases hordered
      exact ⟨(hends first List.mem_cons_self).of_int? hlow,
        (hends second (List.mem_cons_of_mem _ List.mem_cons_self)).of_int? hhigh⟩
    · cases hordered
  · cases h

namespace ValueRange

/-- A piece shows its ends, and nothing else. -/
theorem eq_end_of_mem_pieceNumbers {piece : Interval} {n : Int} (h : n ∈ pieceNumbers piece) :
    n = piece.low ∨ n = piece.high := by
  unfold pieceNumbers at h
  split at h
  · exact .inl (List.mem_singleton.mp h)
  · simpa using h

/-- The ends of the intervals, the exclusions and the bounds: if they all fit, the range can be written. -/
theorem writable_of_fits {r : ValueRange}
    (hintervals : ∀ piece ∈ r.intervals, Numeral.Fits piece.low ∧ Numeral.Fits piece.high)
    (hexclusions : ∀ n ∈ r.exclusions, Numeral.Fits n) (hlow : ∀ n ∈ r.low, Numeral.Fits n)
    (hhigh : ∀ n ∈ r.high, Numeral.Fits n) : r.Writable := by
  unfold Writable shownNumbers
  -- A range shows the numbers of the form that counts.
  rcases pieces_or_bounds_or_top r with hpieces | hbounds | htop
  · rw [shape_of_ne_nil hpieces]
    intro n hn
    rcases List.mem_append.mp hn with hpiece | hexcluded
    · obtain ⟨piece, hmem, hshown⟩ := List.mem_flatMap.mp hpiece
      obtain ⟨hfirst, hlast⟩ := hintervals piece hmem
      rcases eq_end_of_mem_pieceNumbers hshown with rfl | rfl
      · exact hfirst
      · exact hlast
    · exact hexclusions n hexcluded
  · rw [hbounds.shape_eq]
    exact List.forall_mem_append.mpr ⟨fun n hn => hlow n (Option.mem_toList.mp hn),
      fun n hn => hhigh n (Option.mem_toList.mp hn)⟩
  · rw [shape_of_isTop htop]
    exact List.forall_mem_nil _

/-- A range that is read from a document can be written. -/
theorem writable_ofWire {v : Value} (hv : v.Fits) : (ofWire v).Writable := by
  refine writable_of_fits (fun piece hpiece => ?_) (fun n hn => ?_) (fun n hn => ?_) (fun n hn => ?_)
  · obtain ⟨item, hitem, hread⟩ := List.mem_filterMap.mp hpiece
    exact Interval.fits_of_ofWire? ((hv.field _).of_mem_items hitem) hread
  · obtain ⟨item, hitem, hread⟩ := List.mem_filterMap.mp hn
    exact ((hv.field _).of_mem_items hitem).of_int? hread
  · exact (hv.field "min").of_int? hn
  · exact (hv.field "max").of_int? hn

/-- Where both ranges can be written, the verdict is reached. -/
theorem judge_eq_ok {previous : Option ValueRange} {current : ValueRange}
    (hprevious : ∀ r ∈ previous, r.Writable) (hcurrent : current.Writable) (kind : Option StepKind) :
    judge previous current kind = .ok (classify previous current kind) := by
  cases previous with
  | none => rfl
  | some r => rw [judge_eq, if_pos ⟨hprevious r rfl, hcurrent⟩]

end ValueRange

/-! ### Paths -/

/-- All ranges that the steps of a path mention can be written. -/
def PathTrace.Writable (path : PathTrace) : Prop :=
  ∀ step ∈ path.steps, ∀ mention ∈ step.ranges, mention.2.Writable

/-- The ranges that are read from a mapping can be written. -/
theorem writable_of_mem_rangesOfWire {v : Value} (hv : v.Fits) {mention : String × ValueRange}
    (h : mention ∈ rangesOfWire v) : mention.2.Writable := by
  cases hv with
  | obj hfields =>
    obtain ⟨field, hfield, rfl⟩ := List.mem_map.mp (Entries.mem_of_mem_ofList h)
    exact ValueRange.writable_ofWire (hfields field hfield)
  | null | bool | int | real | str | arr => cases h

/-- The ranges of a step that is read can be written. -/
theorem Step.writable_ofWire {v : Value} (hv : v.Fits) {mention : String × ValueRange}
    (h : mention ∈ (Step.ofWire v).ranges) : mention.2.Writable := by
  cases v with
  | obj fields => exact writable_of_mem_rangesOfWire (hv.field "ranges") h
  | null | bool | int | real | str | arr => cases h

/-- The ranges on a path that is read can be written. -/
theorem PathTrace.writable_ofWire {position : Int} {v : Value} (hv : v.Fits) {path : PathTrace}
    (h : PathTrace.ofWire position v = .ok path) : path.Writable := by
  cases v with
  | obj fields =>
    obtain rfl := Except.ok.inj h
    intro step hstep mention hmention
    obtain ⟨item, hitem, rfl⟩ := List.mem_map.mp hstep
    exact Step.writable_ofWire ((hv.field "statements").of_mem_items hitem) hmention
  | null | bool | int | real | str | arr => cases h

/-- A path of a list is read from one of the values in it. -/
theorem exists_ofWire_of_mem_pathsFrom {items : List Value} {position : Nat} {paths : List PathTrace}
    (h : pathsFrom position items = .ok paths) {path : PathTrace} (hpath : path ∈ paths) :
    ∃ item ∈ items, ∃ k, PathTrace.ofWire k item = .ok path := by
  induction items generalizing position paths with
  | nil =>
    cases h
    cases hpath
  | cons item rest ih =>
    obtain ⟨first, hfirst, hnext⟩ := Except.bind_eq_ok_iff.mp h
    obtain ⟨others, hothers, hreturn⟩ := Except.bind_eq_ok_iff.mp hnext
    cases hreturn
    rcases List.mem_cons.mp hpath with rfl | hpath
    · exact ⟨item, List.mem_cons_self, position, hfirst⟩
    · obtain ⟨other, hother, hread⟩ := ih hothers hpath
      exact ⟨other, List.mem_cons_of_mem _ hother, hread⟩

/-- A path of a document is read from one of the values in it. -/
theorem exists_ofWire_of_mem_paths {v : Value} {paths : List PathTrace} (h : pathsOfWire v = .ok paths)
    {path : PathTrace} (hpath : path ∈ paths) : ∃ item ∈ v.items, ∃ k, PathTrace.ofWire k item = .ok path := by
  cases v with
  | arr items => exact exists_ofWire_of_mem_pathsFrom h hpath
  | null =>
    cases h
    cases hpath
  | bool | int | real | str | obj => cases h

/-- **Along a path, every change is judged.** Take a path from a list that was read from a document, and a domain
    that one of its steps mentions.  Whatever the kind of the step is taken for, it is judged against the domain
    that the variable had before, and the verdict is what `ValueRange.classify` says. -/
theorem Tracker.judge_eq_ok {v : Value} (hv : v.Fits) {paths : List PathTrace} (hpaths : pathsOfWire v = .ok paths)
    {t : Tracker} (hpath : t.path ∈ paths) {k : Nat} {step : Step} (hstep : t.path.steps[k]? = some step)
    {mention : String × ValueRange} (hmention : mention ∈ step.ranges) (kind : Option StepKind) :
    let held := ((Tracked.after t.path.steps k).find? mention.1).map Tracked.range
    ValueRange.judge held mention.2 kind = .ok (ValueRange.classify held mention.2 kind) := by
  intro held
  obtain ⟨item, hitem, _, hread⟩ := exists_ofWire_of_mem_paths hpaths hpath
  have honce : t.path.ListsOnce := listsOnce_of_ofWire hread
  have hwritable : t.path.Writable := PathTrace.writable_ofWire (hv.of_mem_items hitem) hread
  refine ValueRange.judge_eq_ok (fun r hr => ?_) (hwritable step (List.mem_of_getElem? hstep) mention hmention) kind
  -- The domain before is one that an earlier step mentions.
  obtain ⟨found, hfound, rfl⟩ := Option.map_eq_some_iff.mp hr
  obtain ⟨earlier, hearlier, hmentioned⟩ := ((Tracked.find?_after_eq_some_iff honce _ _ _).mp hfound).mentioned
  exact hwritable earlier (List.mem_of_getElem? hearlier) _ hmentioned

end RangeAudit
