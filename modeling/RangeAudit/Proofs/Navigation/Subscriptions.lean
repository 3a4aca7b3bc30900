import RangeAudit.Navigation.State

namespace RangeAudit

/-!
# Whom a navigator tells

Whoever subscribes to a navigator gets a handle, by which the subscription is to be cancelled.  A handle knows
only the callback that it was given for, and takes away the first subscription of that callback; so if one
callback is registered several times, a handle may take away a subscription that is not its own.

* `SubscriberAct`, `Registry.act` — what is done to a navigator, and the handles that it has given out;
* `Subscription`, `note` — the subscriptions as they are meant: each is open until its own handle is called;
* `Registry.TellsOpen` — the callbacks of the open subscriptions are told of a change, and nobody else;
* `HarmlessCall` — a handle takes away what its own subscription stands for;
* `Registry.tellsOpen_act_iff` — the step lemma: the right callbacks are told after an act if and only if it is
  harmless;
* `Registry.tellsOpen_along_iff` — hence they are always told exactly in the runs in which all handles are
  called harmlessly, as they are if no callback is registered twice (`harmlessAlong_of_nodup`).
-/

/-- What is done to a navigator.  Subscriptions are numbered from zero in the order in which they are made, and
    the handle of a subscription bears its number. -/
inductive SubscriberAct (σ : Type) where
  | subscribe (callback : σ)
  | callHandle (number : Nat)
  | reset
  | event (hasSummary : Int → Bool) (event : NavigationEvent)

/-- A navigator, and for each handle that it has given out the callback that it was given for. -/
structure Registry (σ : Type) where
  navigator : Navigator σ := {}
  handles : List σ := []

/-- A subscription as it is meant. -/
structure Subscription (σ : Type) where
  callback : σ
  isOpen : Bool := true
  deriving DecidableEq

section Subscriptions

variable {σ : Type}

/-! ### Subscriptions as they are meant -/

/-- The callbacks of the open subscriptions, in the order of subscription. -/
def openCallbacks (subscriptions : List (Subscription σ)) : List σ :=
  (subscriptions.filter Subscription.isOpen).map Subscription.callback

/-- A subscription whose handle is called is not open any more. -/
def Subscription.close (s : Subscription σ) : Subscription σ :=
  { s with isOpen := false }

/-- The subscriptions after an act. -/
def note (subscriptions : List (Subscription σ)) : SubscriberAct σ → List (Subscription σ)
  | .subscribe callback => subscriptions ++ [{ callback := callback }]
  | .callHandle k => subscriptions.modify k Subscription.close
  | .reset => subscriptions
  | .event _ _ => subscriptions

/-- Who is to be told of an act, and of which selection: a reset and a change of the selection are told to the
    callbacks of the open subscriptions. -/
def due (subscriptions : List (Subscription σ)) (s : Selection) : SubscriberAct σ → List (σ × Selection)
  | .subscribe _ => []
  | .callHandle _ => []
  | .reset => (openCallbacks subscriptions).map fun callback => (callback, {})
  | .event hasSummary event =>
    if (s.apply hasSummary event).1 = s then []
    else (openCallbacks subscriptions).map fun callback => (callback, (s.apply hasSummary event).1)

@[simp] theorem openCallbacks_append (subscriptions more : List (Subscription σ)) :
    openCallbacks (subscriptions ++ more) = openCallbacks subscriptions ++ openCallbacks more := by
  simp [openCallbacks]

theorem openCallbacks_cons_open {s : Subscription σ} (h : s.isOpen = true)
    (rest : List (Subscription σ)) : openCallbacks (s :: rest) = s.callback :: openCallbacks rest := by
  simp [openCallbacks, h]

theorem openCallbacks_cons_closed {s : Subscription σ} (h : s.isOpen = false)
    (rest : List (Subscription σ)) : openCallbacks (s :: rest) = openCallbacks rest := by
  simp [openCallbacks, h]

theorem mem_openCallbacks_iff {subscriptions : List (Subscription σ)} {callback : σ} :
    callback ∈ openCallbacks subscriptions ↔
      ∃ s ∈ subscriptions, s.isOpen = true ∧ s.callback = callback := by
  simp [openCallbacks, and_assoc]

/-- Closing a subscription takes no callback but its own out of the open ones, and that only if it was open. -/
theorem openCallbacks_modify_close {subscriptions : List (Subscription σ)} {k : Nat} {s : Subscription σ}
    (hs : subscriptions[k]? = some s) :
    ∃ later, openCallbacks (subscriptions.modify k Subscription.close) =
        openCallbacks (subscriptions.take k) ++ later ∧
      openCallbacks subscriptions =
        openCallbacks (subscriptions.take k) ++ if s.isOpen then s.callback :: later else later := by
  obtain ⟨hk, rfl⟩ := List.getElem?_eq_some_iff.mp hs
  refine ⟨openCallbacks (subscriptions.drop (k + 1)), ?_, ?_⟩
  · rw [List.modify_eq_take_cons_drop hk, openCallbacks_append, openCallbacks_cons_closed rfl]
  · have hsplit : subscriptions =
        subscriptions.take k ++ subscriptions[k] :: subscriptions.drop (k + 1) := by
      rw [← List.drop_eq_getElem_cons hk, List.take_append_drop]
    refine (congrArg openCallbacks hsplit).trans ?_
    rw [openCallbacks_append]
    split
    · rename_i hopen
      rw [openCallbacks_cons_open hopen]
    · rename_i hclosed
      rw [openCallbacks_cons_closed (by simpa using hclosed)]

/-! ### Harmless calls -/

/-- Calling a handle is harmless.  If its subscription is open, then between an older open subscription of the
    same callback and its own there is no open subscription of another callback, so that it does not matter
    which of the two is taken away.  If its subscription is closed, then no open one has the same callback. -/
def HarmlessCall (subscriptions : List (Subscription σ)) (k : Nat) : Prop :=
  ∀ s, subscriptions[k]? = some s →
    if s.isOpen then
      (openCallbacks (subscriptions.take k)).Pairwise fun older newer =>
        older = s.callback → newer = s.callback
    else s.callback ∉ openCallbacks subscriptions

/-- An act is harmless if it is no call of a handle, or a harmless one. -/
def Harmless (subscriptions : List (Subscription σ)) : SubscriberAct σ → Prop
  | .callHandle k => HarmlessCall subscriptions k
  | _ => True

/-- All acts of a run are harmless, each at the subscriptions as they are then. -/
def HarmlessAlong : List (Subscription σ) → List (SubscriberAct σ) → Prop
  | _, [] => True
  | subscriptions, a :: acts =>
    Harmless subscriptions a ∧ HarmlessAlong (note subscriptions a) acts

/-- The callback that an act registers. -/
def SubscriberAct.callback? : SubscriberAct σ → Option σ
  | .subscribe callback => some callback
  | .callHandle _ => none
  | .reset => none
  | .event _ _ => none

/-- If no callback is registered twice, every call of a handle is harmless. -/
theorem harmlessCall_of_nodup {subscriptions : List (Subscription σ)}
    (h : (subscriptions.map Subscription.callback).Nodup) (k : Nat) :
    HarmlessCall subscriptions k := by
  intro s hs
  obtain ⟨hk, rfl⟩ := List.getElem?_eq_some_iff.mp hs
  -- Subscriptions of the same callback are the same subscription.
  have hsame : ∀ {i : Nat} (hi : i < subscriptions.length),
      subscriptions[i].callback = subscriptions[k].callback → i = k := by
    intro i hi hcallback
    have hi' : i < (subscriptions.map Subscription.callback).length := by rwa [List.length_map]
    have hk' : k < (subscriptions.map Subscription.callback).length := by rwa [List.length_map]
    have heq : (subscriptions.map Subscription.callback)[i] =
        (subscriptions.map Subscription.callback)[k] := by
      rwa [List.getElem_map, List.getElem_map]
    exact (List.getElem_inj h).mp heq
  split
  · refine List.pairwise_of_forall_mem_list fun older holder _ _ heq => ?_
    obtain ⟨s, hs, -, rfl⟩ := mem_openCallbacks_iff.mp holder
    obtain ⟨i, hi, rfl⟩ := List.mem_take_iff_getElem.mp hs
    exact absurd (hsame (by omega) heq) (by omega)
  · rename_i hclosed
    intro hmem
    obtain ⟨s, hs, hopen, hcallback⟩ := mem_openCallbacks_iff.mp hmem
    obtain ⟨i, hi, rfl⟩ := List.getElem_of_mem hs
    obtain rfl := hsame hi hcallback
    exact hclosed hopen

theorem map_callback_note (subscriptions : List (Subscription σ)) (a : SubscriberAct σ) :
    (note subscriptions a).map Subscription.callback =
      subscriptions.map Subscription.callback ++ a.callback?.toList := by
  cases a with
  | subscribe callback => simp [note, SubscriberAct.callback?]
  | callHandle k =>
    rw [note, SubscriberAct.callback?, Option.toList_none, List.append_nil]
    refine List.ext_getElem? fun i => ?_
    rw [List.getElem?_map, List.getElem?_modify, List.getElem?_map]
    split <;> cases subscriptions[i]? <;> rfl
  | reset => simp [note, SubscriberAct.callback?]
  | event hasSummary event => simp [note, SubscriberAct.callback?]

/-- A run that registers no callback twice is harmless. -/
theorem harmlessAlong_of_nodup {subscriptions : List (Subscription σ)} {acts : List (SubscriberAct σ)}
    (h : (subscriptions.map Subscription.callback ++ acts.filterMap SubscriberAct.callback?).Nodup) :
    HarmlessAlong subscriptions acts := by
  induction acts generalizing subscriptions with
  | nil => trivial
  | cons a acts ih =>
    refine ⟨?_, ih ?_⟩
    · cases a with
      | callHandle k => exact harmlessCall_of_nodup (List.nodup_append.mp h).1 k
      | _ => trivial
    · rw [map_callback_note, List.append_assoc]
      cases hcallback : a.callback? with
      | none => rwa [List.filterMap_cons_none hcallback] at h
      | some callback => rwa [List.filterMap_cons_some hcallback] at h

/-- An entry can be moved to the front of a list if and only if all that is before it is equal to it. -/
theorem append_cons_eq_cons_append_iff {xs ys : List σ} {x : σ} :
    xs ++ x :: ys = x :: (xs ++ ys) ↔ ∀ y ∈ xs, y = x := by
  induction xs with
  | nil => simp
  | cons y xs ih =>
    simp only [List.cons_append, List.cons.injEq, List.mem_cons, forall_eq_or_imp]
    refine and_congr_right ?_
    rintro rfl
    exact ih

/-- Taking away the first entry that is equal to a given one leaves the same list as taking away that one, if
    and only if from the first one on there is nothing else between them. -/
theorem erase_append_cons_eq_iff [DecidableEq σ] {xs ys : List σ} {x : σ} :
    (xs ++ x :: ys).erase x = xs ++ ys ↔
      xs.Pairwise fun older newer => older = x → newer = x := by
  induction xs with
  | nil => simp
  | cons y xs ih =>
    rw [List.pairwise_cons, List.cons_append]
    -- An equal one in front is erased in its place, so all between the two must be equal as well.
    by_cases hy : y = x
    · subst hy
      rw [List.erase_cons_head, List.cons_append, append_cons_eq_cons_append_iff]
      constructor
      · intro hsame
        exact ⟨fun z hz _ => hsame z hz,
          List.pairwise_of_forall_mem_list fun _ _ z hz _ => hsame z hz⟩
      · exact fun hpairwise z hz => hpairwise.1 z hz rfl
    · rw [List.erase_cons_tail (by simpa using hy), List.cons_append, List.cons.injEq, ih]
      simp [hy]

/-- A handle takes away what its own subscription stands for if and only if the call is harmless. -/
theorem erase_openCallbacks_eq_iff [DecidableEq σ] {subscriptions : List (Subscription σ)} {k : Nat}
    {s : Subscription σ} (hs : subscriptions[k]? = some s) :
    (openCallbacks subscriptions).erase s.callback =
        openCallbacks (subscriptions.modify k Subscription.close) ↔
      HarmlessCall subscriptions k := by
  have hcall : HarmlessCall subscriptions k ↔
      if s.isOpen then
        (openCallbacks (subscriptions.take k)).Pairwise fun older newer =>
          older = s.callback → newer = s.callback
      else s.callback ∉ openCallbacks subscriptions := by
    simp [HarmlessCall, hs]
  -- Erasing takes the first equal callback and closing the `k`th: they agree if nothing else stands in between.
  obtain ⟨later, hclosed, hopen⟩ := openCallbacks_modify_close hs
  rw [hcall, hclosed]
  split
  · rename_i hisOpen
    rw [hopen, if_pos hisOpen]
    exact erase_append_cons_eq_iff
  · rename_i hisClosed
    rw [if_neg hisClosed] at hopen
    rw [← hopen]
    exact List.erase_eq_self_iff

end Subscriptions

/-! ### What the navigator does -/

namespace Registry

variable {σ : Type} {r : Registry σ} {subscriptions : List (Subscription σ)}

/-- Who is told of an act, and of which selection. -/
def notices (r : Registry σ) : SubscriberAct σ → List (σ × Selection)
  | .subscribe _ => []
  | .callHandle _ => []
  | .reset =>
    let (navigator, told) := r.navigator.reset
    told.map fun callback => (callback, navigator.selection)
  | .event hasSummary event =>
    let (navigator, _, told) := r.navigator.dispatch hasSummary event
    told.map fun callback => (callback, navigator.selection)

/-- Whatever is done next, the callbacks of the open subscriptions are told as they are to be, and nobody else
    is told. -/
def TellsOpen (r : Registry σ) (subscriptions : List (Subscription σ)) : Prop :=
  ∀ a, r.notices a = due subscriptions r.navigator.selection a

/-- The right callbacks are told if and only if the navigator has kept these. -/
theorem tellsOpen_iff :
    r.TellsOpen subscriptions ↔ r.navigator.subscribers = openCallbacks subscriptions := by
  constructor
  · intro h
    -- A reset is always told, so it shows who is told.
    have htold := congrArg (List.map Prod.fst) (h .reset)
    simpa [notices, due, Navigator.reset, Function.comp_def] using htold
  · rintro h (callback | k | _ | ⟨hasSummary, event⟩)
    · rfl
    · rfl
    · simp only [notices, due, Navigator.reset, h]
    · simp only [notices, due, Navigator.dispatch, h]
      split <;> rfl

variable [DecidableEq σ]

/-- The navigator and its handles after an act.  A handle that was not given out cannot be called. -/
def act (r : Registry σ) : SubscriberAct σ → Registry σ
  | .subscribe callback =>
    { navigator := r.navigator.subscribe callback, handles := r.handles ++ [callback] }
  | .callHandle k =>
    match r.handles[k]? with
    | some callback => { r with navigator := r.navigator.cancel callback }
    | none => r
  | .reset => { r with navigator := r.navigator.reset.1 }
  | .event hasSummary event => { r with navigator := (r.navigator.dispatch hasSummary event).1 }

/-- The registry after a run. -/
def after (r : Registry σ) (acts : List (SubscriberAct σ)) : Registry σ :=
  acts.foldl act r

/-- The handles know the callbacks of all subscriptions, open or not. -/
theorem handles_act (h : r.handles = subscriptions.map Subscription.callback) (a : SubscriberAct σ) :
    (r.act a).handles = (note subscriptions a).map Subscription.callback := by
  rw [map_callback_note, ← h]
  cases a with
  | subscribe callback => rfl
  | callHandle k =>
    rw [act, SubscriberAct.callback?, Option.toList_none, List.append_nil]
    split <;> rfl
  | reset => exact (List.append_nil _).symm
  | event hasSummary event => exact (List.append_nil _).symm

/-- **Step lemma.** When the right callbacks are told, they are told after an act if and only if the act is
    harmless. -/
theorem tellsOpen_act_iff (hhandles : r.handles = subscriptions.map Subscription.callback)
    (h : r.TellsOpen subscriptions) (a : SubscriberAct σ) :
    (r.act a).TellsOpen (note subscriptions a) ↔ Harmless subscriptions a := by
  rw [tellsOpen_iff] at h ⊢
  cases a with
  | subscribe callback =>
    simp [act, note, Harmless, Navigator.subscribe, h, openCallbacks]
  | callHandle k =>
    simp only [act, note, Harmless, hhandles, List.getElem?_map]
    cases hs : subscriptions[k]? with
    | none =>
      -- There is no such handle, so nothing is taken away and nothing is closed.
      rw [List.modify_eq_self (List.getElem?_eq_none_iff.mp hs)]
      simp [HarmlessCall, hs, h]
    | some s =>
      rw [← erase_openCallbacks_eq_iff hs, ← h]
      rfl
  | reset => simp [act, note, Harmless, Navigator.reset, h]
  | event hasSummary event => simp [act, note, Harmless, Navigator.dispatch, h]

/-- **Run lemma.** When the right callbacks are told, they are told throughout a run if and only if all its acts
    are harmless. -/
theorem tellsOpen_along_iff (hhandles : r.handles = subscriptions.map Subscription.callback)
    (h : r.TellsOpen subscriptions) (acts : List (SubscriberAct σ)) :
    (∀ before, before <+: acts → (r.after before).TellsOpen (before.foldl note subscriptions)) ↔
      HarmlessAlong subscriptions acts := by
  -- On the acts; a prefix of `a :: acts` is empty, or goes on after `a`.
  induction acts generalizing r subscriptions with
  | nil => simp [after, HarmlessAlong, h]
  | cons a acts ih =>
    rw [HarmlessAlong, ← tellsOpen_act_iff hhandles h a]
    constructor
    · intro hall
      have hact : (r.act a).TellsOpen (note subscriptions a) :=
        hall [a] ⟨acts, rfl⟩
      refine ⟨hact, (ih (handles_act hhandles a) hact).mp ?_⟩
      intro before hbefore
      exact hall (a :: before) (List.cons_prefix_cons.mpr ⟨rfl, hbefore⟩)
    · rintro ⟨hact, hrest⟩ before hbefore
      rcases List.prefix_cons_iff.mp hbefore with rfl | ⟨rest, rfl, hprefix⟩
      · exact h
      · exact (ih (handles_act hhandles a) hact).mpr hrest rest hprefix

/-- The subscriptions after a run of acts at a navigator without subscriptions. -/
def subscriptionsAfter (acts : List (SubscriberAct σ)) : List (Subscription σ) :=
  acts.foldl note []

/-- **When each handle cancels its own subscription.** Take any run of subscriptions, calls of handles, resets and
    events.  Throughout the run, every reset and every change of the selection are told, once for each
    subscription and in the order of subscription, to exactly the callbacks of the subscriptions whose own
    handle was not called, if and only if all calls of handles are harmless; and they are if no callback is
    registered twice. -/
theorem tellsOpen_iff_harmlessAlong (acts : List (SubscriberAct σ)) :
    ((∀ before, before <+: acts →
        (({} : Registry σ).after before).TellsOpen (subscriptionsAfter before)) ↔
      HarmlessAlong [] acts) ∧
      ((acts.filterMap SubscriberAct.callback?).Nodup → HarmlessAlong [] acts) := by
  refine ⟨tellsOpen_along_iff rfl ?_ acts, ?_⟩
  · exact tellsOpen_iff.mpr rfl
  · intro hnodup
    apply harmlessAlong_of_nodup
    show ([] ++ acts.filterMap SubscriberAct.callback?).Nodup
    rwa [List.nil_append]

/-- **A handle that is called again cancels the subscription of another handle**, if the callback was registered
    twice: then a reset is told to nobody, although the second subscription is open. -/
theorem not_always_tellsOpen :
    ¬ ∀ acts : List (SubscriberAct String),
      (({} : Registry String).after acts).TellsOpen (subscriptionsAfter acts) := by
  intro h
  have hreset := h [.subscribe "panel", .subscribe "panel", .callHandle 0, .callHandle 0] .reset
  exact absurd hreset (by decide)

-- Even if no handle is called twice, the order can be that of other subscriptions.
example :
    (({} : Registry String).after
        [.subscribe "panel", .subscribe "log", .subscribe "panel", .callHandle 2]).notices .reset =
      [("log", {}), ("panel", {})] := by
  decide

end Registry

end RangeAudit
