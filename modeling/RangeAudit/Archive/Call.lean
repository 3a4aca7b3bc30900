import RangeAudit.Archive.Engine
import RangeAudit.Argument

namespace RangeAudit

/-!
# Calls by name

The engine can be asked by the name of a method and a list of values. A call that does not fit the method
is refused before it reaches the engine.

* `EngineMethod.ofName?` : the method of a name;
* `Engine.call` : the answer to a call, and the engine afterwards;
* `Engine.callWritten` : the same for a call that is written as a sequence, the name of the method first.
-/

open Wire (Value)

namespace EngineMethod

/-- The methods with their names. -/
def named : List (String × EngineMethod) :=
  [("list_contracts", listContracts), ("contract_named", contractNamed),
   ("contract_of_function", ownerOf), ("analyze_contract", analysis), ("list_paths", paths),
   ("path_detail", detail), ("node_mapped_source", source), ("cfg", flowGraph)]

/-- The method of a name. -/
def ofName? (name : String) : Option EngineMethod :=
  Entries.find? named name

/-- The name of the parameter of a method, if it has one. -/
def parameter? : EngineMethod → Option String
  | listContracts => none
  | contractNamed | analysis => some "name"
  | source => some "node_id"
  | ownerOf | paths | detail | flowGraph => some "function_id"

/-- Does a method look its argument up in a table? -/
def looksUp : EngineMethod → Bool
  | analysis | detail | source | flowGraph => true
  | listContracts | contractNamed | ownerOf | paths => false

end EngineMethod

namespace Engine

/-- What a method answers. -/
inductive Answer where
  | contracts (contracts : List Contract)
  | contract (contract : Option Contract)
  | analysis (analysis : Analysis)
  | paths (paths : List PathTrace)
  | source (source : MappedSource)
  | flowGraph (graph : Option Value)
  deriving Inhabited

/-- The answer of a method to the name of a contract. A value that is no text names none. -/
def askNamed (e : Engine) (method : EngineMethod) (v : Value) : Except Fault Answer × Engine :=
  match method, v with
  | .analysis, .str name => let (a, e) := e.analysis name; (a.map .analysis, e)
  | .analysis, v => (.error (.noAnalysis v.display), e)
  | _, .str name => ((e.contractNamed name).map .contract, e)
  | _, _ => (.ok (.contract none), e)

/-- The answer of a method to an id. -/
def askAbout (e : Engine) (method : EngineMethod) (id : Int) : Except Fault Answer × Engine :=
  match method with
  | .paths => let (ps, e) := e.paths id; (ps.map .paths, e)
  | .detail => let (ps, e) := e.detail id; (ps.map .paths, e)
  | .source => ((e.source id).map .source, e)
  | .flowGraph => ((e.flowGraph id).map .flowGraph, e)
  | _ => ((e.ownerOf id).map .contract, e)

/-- The answer of a method to what is the id of nothing: there is no owner, and there are no data. -/
def askAboutNothing (e : Engine) (method : EngineMethod) : Except Fault Answer :=
  match method with
  | .paths => e.guarded .paths (e.guarded .ownerOf (.ok (.paths [])))
  | .detail => e.guarded .detail (e.guarded .paths (e.guarded .ownerOf (.ok (.paths []))))
  | .source => e.guarded .source (.ok (.source {}))
  | .flowGraph => e.guarded .flowGraph (.ok (.flowGraph none))
  | _ => e.guarded .ownerOf (.ok (.contract none))

/-- The answer of a method to an argument of any type. What is no number is the id of nothing. -/
def ask (e : Engine) (method : EngineMethod) (v : Value) : Except Fault Answer × Engine :=
  match method with
  | .listContracts => (e.listContracts.map .contracts, e)
  | .contractNamed | .analysis => e.askNamed method v
  | .ownerOf | .paths | .detail | .source | .flowGraph =>
    match v.equalInteger? with
    | some id => e.askAbout method id
    | none => (e.askAboutNothing method, e)

/-- Why a call does not fit a method, if it does not. -/
def misfit? (name : String) (method : EngineMethod) (arguments : List Value) : Option Fault :=
  match method.parameter?, arguments with
  | none, [] => none
  | some parameter, [] => some (.missingArgument name parameter)
  | some _, [v] =>
    match Argument.keyOf v with
    | .error fault => if method.looksUp then some fault else none
    | .ok _ => none
  | parameter, arguments => some (.surplusArguments name parameter.toList.length arguments.length)

/-- The answer to a call, and the engine afterwards. -/
def call (e : Engine) (name : String) (arguments : List Value) : Except Fault Answer × Engine :=
  match EngineMethod.ofName? name with
  | none => (.error (.noMember "DumpEngine" name), e)
  | some method =>
    match misfit? name method arguments with
    | some fault => (.error fault, e)
    | none => e.ask method (arguments.headD .null)

/-- The answer to a call that is written as a sequence, and the engine afterwards. -/
def callWritten (e : Engine) (v : Value) : Except Fault Answer × Engine :=
  match Argument.elements v with
  | .error _ => (.error (.notACall v.typeName), e)
  | .ok [] => (.error .emptyCall, e)
  | .ok (.str name :: arguments) => e.call name arguments
  | .ok (name :: _) => (.error (.nameNotText name.typeName), e)

end Engine

end RangeAudit
