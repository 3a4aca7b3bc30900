import Mathlib.Logic.Relation
import RangeAudit.Proofs.Wire.Documents

namespace RangeAudit.Wire

/-!
# Edits that a reader does not see

A document is edited place by place: an integer is replaced by its numeral where a number is read, or an entry
is inserted into a list that refuses it.  Each edit leaves a value that agrees with the one before it, and so
any number of edits, at any depth, leave what is read as it was: the same records in the same order, or the
same fault.

* `Schema.Respell`, `Schema.Respelled` — numbers are written as texts;
* `Schema.Litter`, `Schema.Littered` — entries are inserted that are refused;
* `read_eq_of_respelled`, `read_eq_of_littered` — nothing else is read afterwards.
-/

namespace Schema

/-- An integer is replaced by its numeral where a number is read. -/
inductive Respell : Schema → Value → Value → Prop where
  | numeral {n : Int} : Numeral.Fits n → Respell number (.int n) (.str (Numeral.render n))

/-- A list gets an entry that it refuses. -/
inductive Litter : Schema → Value → Value → Prop where
  | entry {refused : Value → Prop} {s : Schema} {w : Value} (before after : List Value) : refused w →
      Litter (list refused s) (.arr (before ++ after)) (.arr (before ++ w :: after))

/-- Any number of integers, at any places where numbers are read, are replaced by their numerals. -/
def Respelled (s : Schema) : Value → Value → Prop :=
  Relation.ReflTransGen (Within Respell s)

/-- Any number of lists, at any depth, get any number of entries that they refuse. -/
def Littered (s : Schema) : Value → Value → Prop :=
  Relation.ReflTransGen (Within Litter s)

/-- A number that is spelled in another way, anywhere in a value, leaves it in agreement. -/
theorem Respell.agree {s : Schema} {v w : Value} (h : Respell s v w) : s.Agree v w := by
  cases h with
  | numeral hfits => exact (Numeral.parse?_render hfits).symm

/-- Refused entries that are put into lists, anywhere in a value, leave it in agreement. -/
theorem Litter.agree {s : Schema} {v w : Value} (h : Litter s v w) : s.Agree v w := by
  cases h with
  | @entry refused s w before after hrefused =>
    have hafter : Padded refused s.Agree after (w :: after) := .refused hrefused (.refl (Agree.refl s) after)
    exact .inr ⟨_, _, rfl, rfl, hafter.append_left (Agree.refl s) before⟩

/-- **Run.** What reads values that agree as the same sees nothing of any number of changes. -/
theorem read_eq_of_changes {α : Type} {change : Schema → Value → Value → Prop} {s : Schema} {read : Value → α}
    (hchange : ∀ s v w, change s v w → s.Agree v w) (hread : ∀ v w, s.Agree v w → read v = read w)
    {v w : Value} (h : Relation.ReflTransGen (Within change s) v w) : read v = read w := by
  induction h with
  | refl => rfl
  | tail _ hlast ih => exact ih.trans (hread _ _ (agree_of_within hchange hlast))

end Schema

open Schema

/-- Every kind of document is read as before. -/
theorem documents_eq_of_changes {change : Schema → Value → Value → Prop}
    (hchange : ∀ s v w, change s v w → s.Agree v w) :
    (∀ v w, Relation.ReflTransGen (Within change Contract.listSchema) v w →
        contractsOfWire v = contractsOfWire w) ∧
      (∀ v w, Relation.ReflTransGen (Within change Analysis.schema) v w →
        Analysis.ofWire v = Analysis.ofWire w) ∧
      (∀ v w, Relation.ReflTransGen (Within change PathTrace.listSchema) v w →
        pathsOfWire v = pathsOfWire w) ∧
      (∀ v w, Relation.ReflTransGen (Within change MappedSource.schema) v w →
        MappedSource.ofWire v = MappedSource.ofWire w) :=
  ⟨fun _ _ => read_eq_of_changes hchange fun _ _ => contractsOfWire_eq,
    fun _ _ => read_eq_of_changes hchange fun _ _ => Analysis.ofWire_eq,
    fun _ _ => read_eq_of_changes hchange fun _ _ => pathsOfWire_eq,
    fun _ _ => read_eq_of_changes hchange fun _ _ => MappedSource.ofWire_eq⟩

/-- **Numbers may be written as texts.**  Integers and their numerals are the same to every reader of
    a document, errors included. -/
theorem read_eq_of_respelled :
    (∀ v w, Contract.listSchema.Respelled v w → contractsOfWire v = contractsOfWire w) ∧
      (∀ v w, Analysis.schema.Respelled v w → Analysis.ofWire v = Analysis.ofWire w) ∧
      (∀ v w, PathTrace.listSchema.Respelled v w → pathsOfWire v = pathsOfWire w) ∧
      (∀ v w, MappedSource.schema.Respelled v w → MappedSource.ofWire v = MappedSource.ofWire w) :=
  documents_eq_of_changes fun _ _ _ => Respell.agree

/-- One number in each of the four documents is written as a text. -/
theorem read_eq_of_respelled_of_fourNumbers :
    contractsOfWire (.arr [.obj [("id", .int 1), ("functions", .arr [.obj [("id", .int 10)]])]]) =
        contractsOfWire (.arr [.obj [("id", .int 1), ("functions", .arr [.obj [("id", .str "10")]])]]) ∧
      Analysis.ofWire (.obj [("globalRanges", .arr [.obj [("varId", .int 3), ("max", .int 0)]])]) =
        Analysis.ofWire (.obj [("globalRanges", .arr [.obj [("varId", .int 3), ("max", .str "0")]])]) ∧
      pathsOfWire (.arr [.obj [("statements", .arr [.obj [("ranges", .obj [("x",
          .obj [("intervals", .arr [.arr [.int (-5), .int 7]])])])]])]]) =
        pathsOfWire (.arr [.obj [("statements", .arr [.obj [("ranges", .obj [("x",
          .obj [("intervals", .arr [.arr [.str "-5", .int 7]])])])]])]]) ∧
      MappedSource.ofWire (.obj [("lineMap", .arr [.arr [.int 3, .int 0, .int 42]])]) =
        MappedSource.ofWire (.obj [("lineMap", .arr [.arr [.int 3, .int 0, .str "42"]])]) := by
  -- One edit each, put at its place by the frames around it.
  have hnumeral : ∀ n : Int, Numeral.Fits n → Within Respell .number (.int n) (.str (Numeral.render n)) :=
    fun n hfits => .here (.numeral hfits)
  have hid := hnumeral 10 (by decide)
  have hmax := hnumeral 0 (by decide)
  have hlow := hnumeral (-5) (by decide)
  have hnode := hnumeral 42 (by decide)
  exact ⟨read_eq_of_respelled.1 _ _ (.single (.entry [] [] (.member [("id", .int 1)] "functions" []
      (.entry [] [] (.member [] "id" [] hid))))),
    read_eq_of_respelled.2.1 _ _ (.single (.member [] "globalRanges" []
      (.entry [] [] (.member [("varId", .int 3)] "max" [] hmax)))),
    read_eq_of_respelled.2.2.1 _ _ (.single (.entry [] [] (.member [] "statements" [] (.entry [] []
      (.member [] "ranges" [] (.member [] "x" [] (.member [] "intervals" [] (.entry [] []
      (.entry [] [.int 7] hlow))))))))),
    read_eq_of_respelled.2.2.2 _ _ (.single (.member [] "lineMap" [] (.entry [] []
      (.entry [.int 3, .int 0] [] hnode))))⟩

/-- **What cannot be read is left out alone.**  A refused entry changes nothing for the entries around
    it, in any list of a document, errors included. -/
theorem read_eq_of_littered :
    (∀ v w, Contract.listSchema.Littered v w → contractsOfWire v = contractsOfWire w) ∧
      (∀ v w, Analysis.schema.Littered v w → Analysis.ofWire v = Analysis.ofWire w) ∧
      (∀ v w, PathTrace.listSchema.Littered v w → pathsOfWire v = pathsOfWire w) ∧
      (∀ v w, MappedSource.schema.Littered v w → MappedSource.ofWire v = MappedSource.ofWire w) :=
  documents_eq_of_changes fun _ _ _ => Litter.agree

/-- One entry that is refused is put into each of the four documents. -/
theorem read_eq_of_littered_of_fourEntries :
    contractsOfWire (.arr [.obj [("id", .int 1)]]) =
        contractsOfWire (.arr [.str "interface", .obj [("id", .int 1)]]) ∧
      Analysis.ofWire (.obj [("functions", .arr [.obj [("functionId", .int 10)]])]) =
        Analysis.ofWire (.obj [("functions", .arr [.obj [("paths", .arr [.null])],
          .obj [("functionId", .int 10)]])]) ∧
      pathsOfWire (.arr [.obj [("statements", .arr [.obj [("ranges", .obj [("x",
          .obj [("intervals", .arr [.arr [.int 1, .int 2]])])])]])]]) =
        pathsOfWire (.arr [.obj [("statements", .arr [.obj [("ranges", .obj [("x",
          .obj [("intervals", .arr [.arr [.int 1, .int 2], .arr [.int 9, .int 4]])])])]])]]) ∧
      MappedSource.ofWire (.obj [("lineMap", .arr [.arr [.int 3, .int 0, .int 42]])]) =
        MappedSource.ofWire (.obj [("lineMap", .arr [.arr [.int 3, .int 0],
          .arr [.int 3, .int 0, .int 42]])]) := by
  -- One refused entry for each list: no record, no function id, an inverted interval, too few numbers.
  have hcontract : NoRecord ["id"] (.str "interface") := .inl rfl
  have hfunction : NoRecord ["functionId"] (.obj [("paths", .arr [.null])]) :=
    noRecord_singleton_iff.mpr rfl
  have hinterval : Interval.Refused (.arr [.int 9, .int 4]) :=
    .inr ⟨.int 9, .int 4, 9, 4, rfl, rfl, rfl, by decide⟩
  have hplace : NoNumbers 3 (.arr [.int 3, .int 0]) := by
    rintro items ⟨rfl⟩ ⟨⟩
  exact ⟨read_eq_of_littered.1 _ _ (.single (.here (.entry [] [.obj [("id", .int 1)]] hcontract))),
    read_eq_of_littered.2.1 _ _ (.single (.member [] "functions" []
      (.here (.entry [] [.obj [("functionId", .int 10)]] hfunction)))),
    read_eq_of_littered.2.2.1 _ _ (.single (.entry [] [] (.member [] "statements" [] (.entry [] []
      (.member [] "ranges" [] (.member [] "x" [] (.member [] "intervals" []
      (.here (.entry [.arr [.int 1, .int 2]] [] hinterval))))))))),
    read_eq_of_littered.2.2.2 _ _ (.single (.member [] "lineMap" []
      (.here (.entry [] [.arr [.int 3, .int 0, .int 42]] hplace))))⟩

end RangeAudit.Wire
