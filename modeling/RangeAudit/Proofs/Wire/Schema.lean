import Mathlib.Data.List.Forall2
import RangeAudit.Analysis.Reading
import RangeAudit.Proofs.Numeral.RoundTrip

namespace RangeAudit.Wire

/-!
# What is read of a value

Documents are read leniently: a number may be written as a text, and a list leaves out the entries that it
cannot read.  A schema says at which places of a value a number or a list is read.  Two values agree under a
schema if they differ only in what a reader does not see: in how a number is written, and in entries that a
list refuses.

* `Schema`, `Schema.object` — the places of a value;
* `Schema.Padded`, `Schema.Agree` — lists with more refused entries, and values that agree;
* `Schema.Agree.intField?_eq` and its likes — members of objects that agree are read as the same;
* `Schema.Agree.filterMap_items`, `Schema.Agree.filterMap_objects` — so are lists that agree;
* `Schema.Within` — a change at one place of a value; `Schema.agree_of_within`.
-/

/-- What is read of a value. -/
inductive Schema where
  /-- The value as a whole, or nothing. -/
  | whole
  /-- An integer, or a text that is a numeral. -/
  | number
  /-- The entries of an array other than the refused ones. -/
  | list (refused : Value → Prop) (entry : Schema)
  /-- The members of an object. -/
  | members (member : String → Schema)

namespace Schema

/-- An object of which some members are not read as a whole. -/
def object (named : Entries String Schema) : Schema :=
  .members fun key => (named.find? key).getD .whole

/-- No entry is refused. -/
def never (_ : Value) : Prop :=
  False

/-- Corresponding entries are related; the second list has refused entries besides. -/
inductive Padded (refused : Value → Prop) (related : Value → Value → Prop) :
    List Value → List Value → Prop where
  | nil : Padded refused related [] []
  | entry {v w : Value} {vs ws : List Value} : related v w → Padded refused related vs ws →
      Padded refused related (v :: vs) (w :: ws)
  | refused {w : Value} {vs ws : List Value} : refused w → Padded refused related vs ws →
      Padded refused related vs (w :: ws)

/-- The values are the same, up to numbers that are written in another way and to entries that are
    refused. -/
def Agree : Schema → Value → Value → Prop
  | whole, v, w => v = w
  | number, v, w => v.int? = w.int?
  | list refused entry, v, w =>
    v = w ∨ ∃ vs ws, v = .arr vs ∧ w = .arr ws ∧ Padded refused entry.Agree vs ws
  | members member, v, w =>
    v = w ∨ ∃ fs gs, v = .obj fs ∧ w = .obj gs ∧
      List.Forall₂ (fun f g => f.1 = g.1 ∧ (member f.1).Agree f.2 g.2) fs gs

/-- Every value agrees with itself. -/
theorem Agree.refl (s : Schema) (v : Value) : s.Agree v v := by
  cases s with
  | whole | number => rfl
  | list | members => exact .inl rfl

/-! ### Members -/

/-- What is found under a key of entries that correspond to each other. -/
theorem rel_find?_of_forall₂ {κ ν : Type} [DecidableEq κ] (related : κ → ν → ν → Prop)
    {fs gs : Entries κ ν} (h : List.Forall₂ (fun f g => f.1 = g.1 ∧ related f.1 f.2 g.2) fs gs) (key : κ) :
    Option.Rel (related key) (Entries.find? fs key) (Entries.find? gs key) := by
  induction h with
  | nil => exact .none
  | @cons f g fs gs hfg _ ih =>
    rw [Entries.find?_cons f.1 f.2, Entries.find?_cons g.1 g.2, ← hfg.1]
    by_cases hkey : f.1 = key
    · rw [if_pos hkey, if_pos hkey]
      exact .some (hkey ▸ hfg.2)
    · rw [if_neg hkey, if_neg hkey]
      exact ih

namespace Agree

variable {member : String → Schema} {named : Entries String Schema} {v w : Value}

/-- So does what is found under a key. -/
theorem rel_refl (s : Schema) (found : Option Value) : Option.Rel s.Agree found found := by
  cases found with
  | none => exact .none
  | some v => exact .some (refl s v)

/-- What is found under a key agrees under the schema of the key. -/
theorem rel_field? (h : (members member).Agree v w) (key : String) :
    Option.Rel (member key).Agree (v.field? key) (w.field? key) := by
  rcases h with rfl | ⟨fs, gs, rfl, rfl, hmembers⟩
  · exact rel_refl ..
  · exact rel_find?_of_forall₂ (fun key => (member key).Agree) hmembers key

/-- Of two values that agree, both are objects or none is. -/
theorem isObject_eq (h : (members member).Agree v w) : v.isObject = w.isObject := by
  rcases h with rfl | ⟨fs, gs, rfl, rfl, -⟩ <;> rfl

/-- A member that is looked into, or what stands for it if it is absent. -/
theorem field?_getD (h : (object named).Agree v w) (key : String) {s : Schema}
    (hkey : named.find? key = some s) {default default' : Value} (hdefault : s.Agree default default') :
    s.Agree ((v.field? key).getD default) ((w.field? key).getD default') := by
  have hrel := rel_field? h key
  rw [hkey, Option.getD_some] at hrel
  generalize v.field? key = before, w.field? key = after at hrel ⊢
  cases hrel with
  | none => exact hdefault
  | some h => exact h

/-- A member that is looked into; an absent one is null. -/
theorem field (h : (object named).Agree v w) (key : String) {s : Schema} (hkey : named.find? key = some s) :
    s.Agree (v.field key) (w.field key) :=
  h.field?_getD key hkey (refl s .null)

/-- A member that is read as a whole. -/
theorem field?_eq (h : (object named).Agree v w) (key : String) (hkey : named.find? key = none) :
    v.field? key = w.field? key := by
  have hrel := rel_field? h key
  rw [hkey, Option.getD_none] at hrel
  generalize v.field? key = before, w.field? key = after at hrel ⊢
  cases hrel with
  | none => rfl
  | some h => exact congrArg some h

/-- A text with a default is read as a whole. -/
theorem textField_eq (h : (object named).Agree v w) (key default : String)
    (hkey : named.find? key = none) : v.textField key default = w.textField key default := by
  rw [Value.textField, Value.textField, h.field?_eq key hkey]

/-- A truth value with a default is read as a whole. -/
theorem flagField_eq (h : (object named).Agree v w) (key : String) (default : Bool)
    (hkey : named.find? key = none) : v.flagField key default = w.flagField key default := by
  rw [Value.flagField, Value.flagField, h.field?_eq key hkey]

/-- A text that may be absent is read as a whole. -/
theorem stringField?_eq (h : (object named).Agree v w) (key : String) (hkey : named.find? key = none) :
    v.stringField? key = w.stringField? key := by
  rw [Value.stringField?, Value.stringField?, Value.field, Value.field, h.field?_eq key hkey]

/-- A number may be spelled in another way. -/
theorem intField?_eq (h : (object named).Agree v w) (key : String) (hkey : named.find? key = some number) :
    v.intField? key = w.intField? key :=
  h.field key hkey

/-- A number with a default may be spelled in another way. -/
theorem intField_eq (h : (object named).Agree v w) (key : String) (default : Int)
    (hkey : named.find? key = some number) : v.intField key default = w.intField key default := by
  rw [Value.intField, Value.intField, h.intField?_eq key hkey]

end Agree

/-! ### Lists -/

section Lists

variable {refused : Value → Prop} {related : Value → Value → Prop} {entry : Schema} {v w : Value}

/-- A list has as many entries as itself. -/
theorem Padded.refl (h : ∀ v, related v v) (vs : List Value) : Padded refused related vs vs := by
  induction vs with
  | nil => exact .nil
  | cons v vs ih => exact .entry (h v) ih

/-- A list without refused entries is not padded. -/
theorem Padded.forall₂ {vs ws : List Value} (h : Padded never related vs ws) :
    List.Forall₂ related vs ws := by
  induction h with
  | nil => exact .nil
  | entry h _ ih => exact .cons h ih
  | refused h => exact h.elim

/-- What stands in front of a padded list makes no difference. -/
theorem Padded.append_left (hrefl : ∀ v, related v v) {vs ws : List Value} (h : Padded refused related vs ws)
    (before : List Value) : Padded refused related (before ++ vs) (before ++ ws) := by
  induction before with
  | nil => exact h
  | cons v before ih => exact .entry (hrefl v) ih

/-- Selecting entries keeps the correspondence, if those that correspond are selected together. -/
theorem Padded.filter {vs ws : List Value} (h : Padded refused related vs ws) {p : Value → Bool}
    (hp : ∀ v w, related v w → p v = p w) :
    Padded (fun w => refused w ∧ p w = true) related (vs.filter p) (ws.filter p) := by
  induction h with
  | nil => exact .nil
  | @entry v w vs ws hentry _ ih =>
    by_cases hw : p w = true
    · rw [List.filter_cons_of_pos (hp v w hentry ▸ hw), List.filter_cons_of_pos hw]
      exact .entry hentry ih
    · rw [List.filter_cons_of_neg (hp v w hentry ▸ hw), List.filter_cons_of_neg hw]
      exact ih
  | @refused w vs ws hrefused _ ih =>
    by_cases hw : p w = true
    · rw [List.filter_cons_of_pos hw]
      exact .refused ⟨hrefused, hw⟩ ih
    · rw [List.filter_cons_of_neg hw]
      exact ih

/-- **Padding is passed over.** A reader that rejects the refused entries, and reads the others alike, reads the
    same. -/
theorem Padded.filterMap_eq {α : Type} {vs ws : List Value} (h : Padded refused related vs ws)
    {read : Value → Option α} (hrelated : ∀ v w, related v w → read v = read w)
    (hrefused : ∀ w, refused w → read w = none) : vs.filterMap read = ws.filterMap read := by
  induction h with
  | nil => rfl
  | entry h _ ih => rw [List.filterMap_cons, List.filterMap_cons, hrelated _ _ h, ih]
  | refused h _ ih => rw [List.filterMap_cons_none (hrefused _ h), ih]

namespace Agree

/-- The entries of lists that agree; what is no array has no entries. -/
theorem padded_items (h : (list refused entry).Agree v w) : Padded refused entry.Agree v.items w.items := by
  rcases h with rfl | ⟨vs, ws, rfl, rfl, hpadded⟩
  · exact .refl (Agree.refl entry) v.items
  · exact hpadded

/-- Arrays of numbers that agree write the same integers. -/
theorem forall₂_int?_eq (h : (list never number).Agree v w) :
    v = w ∨ ∃ vs ws, v = .arr vs ∧ w = .arr ws ∧ List.Forall₂ (fun v w => v.int? = w.int?) vs ws :=
  h.imp_right fun ⟨vs, ws, hv, hw, hpadded⟩ => ⟨vs, ws, hv, hw, hpadded.forall₂⟩

/-- A list from which the refused entries are rejected. -/
theorem filterMap_items {α : Type} (h : (list refused entry).Agree v w) {read : Value → Option α}
    (hentry : ∀ v w, entry.Agree v w → read v = read w) (hrefused : ∀ w, refused w → read w = none) :
    v.items.filterMap read = w.items.filterMap read :=
  h.padded_items.filterMap_eq hentry hrefused

/-- Of a list that refuses nothing every entry is read. -/
theorem map_items {α : Type} (h : (list never entry).Agree v w) {read : Value → α}
    (hentry : ∀ v w, entry.Agree v w → read v = read w) : v.items.map read = w.items.map read := by
  have hitems := h.padded_items.forall₂
  generalize v.items = vs, w.items = ws at hitems
  induction hitems with
  | nil => rfl
  | cons hfirst _ ih => rw [List.map_cons, List.map_cons, hentry _ _ hfirst, ih]

/-- Of the entries that are objects, at most the refused ones are additional. -/
theorem padded_objects {member : String → Schema} (h : (list refused (members member)).Agree v w) :
    Padded (fun w => refused w ∧ w.isObject = true) (members member).Agree v.objects w.objects :=
  h.padded_items.filter fun _ _ hentry => hentry.isObject_eq

/-- A list of objects from which the refused ones are rejected; entries that are no objects are rejected
    before. -/
theorem filterMap_objects {α : Type} {member : String → Schema}
    (h : (list refused (members member)).Agree v w) {read : Value → Option α}
    (hentry : ∀ v w, (members member).Agree v w → read v = read w)
    (hrefused : ∀ w, refused w → read w = none) : v.objects.filterMap read = w.objects.filterMap read :=
  h.padded_objects.filterMap_eq hentry fun w hw => hrefused w hw.1

/-- A member that is such a list. -/
theorem filterMap_objectsField {α : Type} {named : Entries String Schema} {member : String → Schema}
    (h : (object named).Agree v w) (key : String)
    (hkey : named.find? key = some (list refused (members member))) {read : Value → Option α}
    (hentry : ∀ v w, (members member).Agree v w → read v = read w)
    (hrefused : ∀ w, refused w → read w = none) :
    (v.objectsField key).filterMap read = (w.objectsField key).filterMap read :=
  (h.field key hkey).filterMap_objects hentry hrefused

end Agree

end Lists

/-! ### Changes at one place -/

/-- A change at one place of a value; the schema says what is read there. -/
inductive Within (change : Schema → Value → Value → Prop) : Schema → Value → Value → Prop where
  | here {s : Schema} {v w : Value} : change s v w → Within change s v w
  | entry {refused : Value → Prop} {s : Schema} {v w : Value} (before after : List Value) :
      Within change s v w →
      Within change (list refused s) (.arr (before ++ v :: after)) (.arr (before ++ w :: after))
  | member {member : String → Schema} {v w : Value} (before : List (String × Value)) (key : String)
      (after : List (String × Value)) : Within change (member key) v w →
      Within change (members member) (.obj (before ++ (key, v) :: after))
        (.obj (before ++ (key, w) :: after))

/-- **Step.** If readers see nothing of a change where it is made, they see nothing of it in the whole
    value. -/
theorem agree_of_within {change : Schema → Value → Value → Prop}
    (hchange : ∀ s v w, change s v w → s.Agree v w) {s : Schema} {v w : Value} (h : Within change s v w) :
    s.Agree v w := by
  induction h with
  | here h => exact hchange _ _ _ h
  | @entry refused s v w before after _ ih =>
    have hafter : Padded refused s.Agree (v :: after) (w :: after) := .entry ih (.refl (Agree.refl s) after)
    exact .inr ⟨_, _, rfl, rfl, hafter.append_left (Agree.refl s) before⟩
  | @member member v w before key after _ ih =>
    have hsame : ∀ fields, List.Forall₂ (fun f g : String × Value => f.1 = g.1 ∧ (member f.1).Agree f.2 g.2)
        fields fields := fun fields => List.forall₂_same.mpr fun f _ => ⟨rfl, Agree.refl (member f.1) f.2⟩
    exact .inr ⟨_, _, rfl, rfl, List.rel_append (hsame before) (.cons ⟨rfl, ih⟩ (hsame after))⟩

end Schema

end RangeAudit.Wire
