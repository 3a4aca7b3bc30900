import RangeAudit.Argument
import RangeAudit.Navigation.State
import RangeAudit.Wire.Writer

namespace RangeAudit

/-!
# Replays

A replay drives a navigator by recorded steps: subscriptions, resets, selections and events. A step may give
any value for an id and for the name of a subscriber. Ids are therefore numbered: an integer by the even number
that is twice as large, any other id by an odd number of its own. Ids are the same if they are equal as numbers
or are written alike.

* `Replay.step` : the replay after a step, the requests of the step, and the names of those who are told.
-/

open Wire (Value)

/-- A navigator that is driven by recorded steps. A subscriber is the number of its subscription. -/
structure Replay where
  navigator : Navigator Nat := {}
  /-- The latest subscription under each name. -/
  latest : Entries String Nat := []
  /-- The names of the subscribers. -/
  names : List Value := []
  /-- The ids that are no integers. -/
  oddIds : List Value := []
  /-- The functions that have a summary, if that is looked at. -/
  summaries : Option (List Value) := none

/-- What becomes of a step: the replay, the requests, and the names of those who are told. -/
abbrev ReplayOutcome := Replay × Except Fault (List Request) × List Value

namespace Replay

/-- The key of a value in a table. Equal numbers have the same key. -/
def keyText (v : Value) : String :=
  match v.equalInteger? with
  | some n => Numeral.render n
  | none => v.compact

/-- A value that can be looked up in a table. -/
def hashable (v : Value) : Except Fault Value :=
  (Argument.keyOf v).map fun _ => v

/-- A replay in which the given functions have a summary. -/
def withSummaries (functions : Value) : Except Fault Replay := do
  return { summaries := some (← (← Argument.elements functions).mapM hashable) }

/-! ### Ids -/

/-- The number of an id that is an integer. -/
def evenNumber (n : Int) : Int :=
  2 * n

/-- The number of an id. -/
def numberOf (r : Replay) : Value → Replay × Int
  | .int n => (r, evenNumber n)
  | v => ({ r with oddIds := r.oddIds ++ [v] }, evenNumber r.oddIds.length + 1)

/-- The id of a number. -/
def idOf (r : Replay) (n : Int) : Value :=
  if n % 2 = 0 then .int (n / 2) else r.oddIds[(n / 2).toNat]?.getD .null

/-- The key of an id that may be absent. -/
def idKey (r : Replay) (n : Option Int) : String :=
  keyText ((n.map r.idOf).getD .null)

/-- Do two selections have the same ids, and all else alike? -/
def sameSelection (r : Replay) (s t : Selection) : Bool :=
  r.idKey s.contractId == r.idKey t.contractId && r.idKey s.functionId == r.idKey t.functionId
    && { s with contractId := none, functionId := none } == { t with contractId := none, functionId := none }

/-- Does a function have a summary? -/
def hasSummary (r : Replay) (n : Int) : Bool :=
  (r.summaries.getD []).any fun v => keyText v == r.idKey (some n)

/-! ### Steps -/

/-- A step that is refused. -/
def refused (r : Replay) (fault : Fault) : ReplayOutcome :=
  (r, .error fault, [])

/-- A step without requests of which nobody is told. -/
def quiet (r : Replay) : ReplayOutcome :=
  (r, .ok [], [])

/-- The names of subscribers. -/
def namesOf (r : Replay) (subscribers : List Nat) : List Value :=
  subscribers.filterMap (r.names[·]?)

/-- An event in which the contract and the function are named by their numbers. -/
def numbered : NavigationEvent → NavigationEvent
  | .selectContract id => .selectContract (evenNumber id)
  | .selectFunction id contract => .selectFunction (evenNumber id) (contract.map evenNumber)
  | .navigateToFunction id contract => .navigateToFunction (evenNumber id) (contract.map evenNumber)
  | event => event

/-- An event. The selection stays as it is if it would only be written in another way. -/
def dispatch (r : Replay) (event : NavigationEvent) : ReplayOutcome :=
  let (n, requests, told) := r.navigator.dispatch r.hasSummary event
  if r.sameSelection n.selection r.navigator.selection then (r, .ok requests, [])
  else
    let s := n.selection
    -- an absent id selects nothing
    let s := { s with functionId := s.functionId.filter fun id => r.idKey (some id) != r.idKey none }
    ({ r with navigator := { n with selection := s } }, .ok requests, r.namesOf told)

/-- The selection of a function, or the way to it. -/
def select (r : Replay) (function contract : Value) (navigate : Bool) : ReplayOutcome :=
  match hashable function with
  | .error fault => if r.summaries.isSome then r.refused fault else chosen
  | .ok _ => chosen
where
  /-- The selection itself. -/
  chosen : ReplayOutcome :=
    let (r, f) := r.numberOf function
    let (r, c) := match contract with
      | .null => (r, none)
      | c => (r.numberOf c).map id some
    r.dispatch (if navigate then .navigateToFunction f c else .selectFunction f c)

/-- A subscription under a name. It counts even if it cannot be found by its name again. -/
def subscribe (r : Replay) (name : Value) : ReplayOutcome :=
  let subscriber := r.names.length
  let r := { r with navigator := r.navigator.subscribe subscriber, names := r.names ++ [name] }
  match hashable name with
  | .error fault => r.refused fault
  | .ok name => { r with latest := r.latest.put (keyText name) subscriber }.quiet

/-- The end of the latest subscription under a name. -/
def unsubscribe (r : Replay) (name : Value) : ReplayOutcome :=
  match hashable name with
  | .error fault => r.refused fault
  | .ok name =>
    match r.latest.find? (keyText name) with
    | some subscriber => { r with navigator := r.navigator.cancel subscriber }.quiet
    | none => r.refused (.noKey name.display)

/-- The initial selection; every subscriber is told. -/
def reset (r : Replay) : ReplayOutcome :=
  let (n, told) := r.navigator.reset
  ({ r with navigator := n }, .ok [], r.namesOf told)

/-- The step that the members of an object ask for. -/
def memberStep (r : Replay) (v : Value) : ReplayOutcome :=
  match v.field? "subscribe", v.field? "unsubscribe", (v.field "reset").truth, v.field? "select" with
  | some name, _, _, _ => r.subscribe name
  | none, some name, _, _ => r.unsubscribe name
  | none, none, true, _ => r.reset
  | none, none, false, some f => r.select f (v.field "contract") (v.field "navigate").truth
  | none, none, false, none =>
    match Argument.member v "event" >>= NavigationEvent.ofWire with
    | .ok event => r.dispatch (numbered event)
    | .error fault => r.refused fault

/-- One step. What is no object is refused, where a subscription is looked for in it or afterwards. -/
def step (r : Replay) (v : Value) : ReplayOutcome :=
  match v with
  | .obj _ => r.memberStep v
  | .str s => r.refused (if Text.contains s "subscribe" then .notAnIndex "string" "str" else .noMember "str" "get")
  | .arr items =>
    let subscribes := items.any fun item => ["subscribe", "unsubscribe"].any (item.text? == some ·)
    r.refused (if subscribes then .notAnIndex "list" "str" else .noMember "list" "get")
  | v => r.refused (.notSearchable v.typeName)

end Replay

end RangeAudit
