import RangeAudit.Archive.Basic

namespace RangeAudit

/-!
# The engine

The engine answers from an archive and keeps what it has read: the analyses by contract and the
detailed paths by function. What could not be read is not kept, so it is tried again at the next call.

A drill may plant faults: a method with a planted fault fails with it, also when another method of the
engine calls it. A call takes its method as it is when the call is made, so a fault that is planted
while the call is held back does not reach it any more.

* `Query`, `Query.Answer` : what a session asks for, and the type of the answer;
* `Oracle` : answers to all queries;
* `Engine.answer` : the answer to a query where no fault is planted;
* `Engine.serve` : the answer to a query, and the engine afterwards.
-/

open Wire (Value)

/-- What a session asks the engine for. -/
inductive Query where
  | contracts
  | analysis (contract : String)
  | source (nodeId : Int)
  | flowGraph (functionId : Int)
  | detail (functionId : Int)
  deriving DecidableEq, Inhabited

/-- The type of the answer to a query. -/
abbrev Query.Answer : Query → Type
  | contracts => List Contract
  | analysis _ => Analysis
  | source _ => MappedSource
  | flowGraph _ => Option Value
  | detail _ => List PathTrace

/-- What an engine answers to each query. -/
abbrev Oracle := (q : Query) → Except Fault q.Answer

/-- The methods of the engine. -/
inductive EngineMethod where
  | listContracts
  | contractNamed
  | ownerOf
  | analysis
  | paths
  | detail
  | source
  | flowGraph
  deriving DecidableEq, Inhabited

/-- The method that answers a query. -/
def Query.method : Query → EngineMethod
  | contracts => .listContracts
  | analysis _ => .analysis
  | source _ => .source
  | flowGraph _ => .flowGraph
  | detail _ => .detail

/-- An archive with what was read from it so far, and the faults planted by a drill. -/
structure Engine where
  archive : Archive
  analyses : Entries String Analysis := []
  details : Entries Int (List PathTrace) := []
  planted : Entries EngineMethod Fault := []
  deriving Inhabited

namespace Engine

/-- An engine that has read nothing yet. -/
def fresh (archive : Archive) : Engine :=
  { archive }

/-- Plant a fault in a method. -/
def plant (e : Engine) (method : EngineMethod) (fault : Fault) : Engine :=
  { e with planted := e.planted.put method fault }

/-- The fault that is planted in a method, if there is one. -/
def plantedIn (e : Engine) (method : EngineMethod) : Option Fault :=
  e.planted.find? method

/-- A value of a method, unless a fault is planted there. -/
def guarded (e : Engine) (method : EngineMethod) (x : Except Fault α) : Except Fault α :=
  match e.plantedIn method with
  | some fault => .error fault
  | none => x

/-- All contracts. -/
def listContracts (e : Engine) : Except Fault (List Contract) :=
  e.guarded .listContracts (.ok e.archive.contracts)

/-- The first contract with a name. -/
def contractNamed (e : Engine) (name : String) : Except Fault (Option Contract) :=
  e.guarded .contractNamed (.ok (Contract.named? e.archive.contracts name))

/-- The first contract that lists a function. -/
def ownerOf (e : Engine) (functionId : Int) : Except Fault (Option Contract) :=
  e.guarded .ownerOf (.ok (Contract.ownerOf? e.archive.contracts functionId))

/-- The analysis of a contract, kept once it was read. -/
def readAnalysis (e : Engine) (name : String) : Except Fault Analysis × Engine :=
  match e.analyses.find? name with
  | some a => (.ok a, e)
  | none =>
    match e.archive.analysis name with
    | .ok a => (.ok a, { e with analyses := e.analyses.put name a })
    | .error fault => (.error fault, e)

/-- The analysis of a contract, unless a fault is planted there. -/
def analysis (e : Engine) (name : String) : Except Fault Analysis × Engine :=
  match e.plantedIn .analysis with
  | some fault => (.error fault, e)
  | none => e.readAnalysis name

/-- The coarse paths of a function, from the analysis of the first contract that lists it. -/
def paths (e : Engine) (functionId : Int) : Except Fault (List PathTrace) × Engine :=
  match e.plantedIn .paths with
  | some fault => (.error fault, e)
  | none =>
    match e.ownerOf functionId with
    | .error fault => (.error fault, e)
    | .ok none => (.ok [], e)
    | .ok (some owner) =>
      if e.archive.analyses.has owner.name then
        let (a, e) := e.analysis owner.name
        (a.map fun a => a.pathsOf functionId, e)
      else (.ok [], e)

/-- The paths of a function as detailed as the archive has them. -/
def exportedPaths (e : Engine) (functionId : Int) : Except Fault (List PathTrace) × Engine :=
  match e.archive.exportedDetail? functionId with
  | some v => (pathsOfWire v, e)
  | none => e.paths functionId

/-- The paths of a function as detailed as the archive has them, kept once they were read. -/
def readDetail (e : Engine) (functionId : Int) : Except Fault (List PathTrace) × Engine :=
  match e.details.find? functionId with
  | some paths => (.ok paths, e)
  | none =>
    match e.exportedPaths functionId with
    | (.ok paths, e) => (.ok paths, { e with details := e.details.put functionId paths })
    | (.error fault, e) => (.error fault, e)

/-- The detailed paths of a function, unless a fault is planted there. -/
def detail (e : Engine) (functionId : Int) : Except Fault (List PathTrace) × Engine :=
  match e.plantedIn .detail with
  | some fault => (.error fault, e)
  | none => e.readDetail functionId

/-- The source of a node. -/
def source (e : Engine) (nodeId : Int) : Except Fault MappedSource :=
  e.guarded .source (e.archive.source nodeId)

/-- The control-flow graph of a function. -/
def flowGraph (e : Engine) (functionId : Int) : Except Fault (Option Value) :=
  e.guarded .flowGraph (.ok (e.archive.flowGraph functionId))

/-- The answer to a query by a method in which no fault is planted. Faults in the methods that it
    calls itself still count. -/
def answer (e : Engine) : (q : Query) → Except Fault q.Answer × Engine
  | .contracts => (.ok e.archive.contracts, e)
  | .analysis name => e.readAnalysis name
  | .source nodeId => (e.archive.source nodeId, e)
  | .flowGraph functionId => (.ok (e.archive.flowGraph functionId), e)
  | .detail functionId => e.readDetail functionId

/-- The answer to a query by a method as a call took it: with the fault that was planted in it then,
    if there was one. -/
def serveAs (e : Engine) (taken : Option Fault) (q : Query) : Except Fault q.Answer × Engine :=
  match taken with
  | some fault => (.error fault, e)
  | none => e.answer q

/-- The answer to a query, and the engine afterwards. -/
def serve (e : Engine) (q : Query) : Except Fault q.Answer × Engine :=
  e.serveAs (e.plantedIn q.method) q

end Engine

end RangeAudit
