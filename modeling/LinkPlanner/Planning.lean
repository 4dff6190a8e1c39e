import LinkPlanner.Link.Collection
import LinkPlanner.Link.LinkstampCompile

/-! The setting in which links are planned. Planning declares artifacts and registers linkstamp compiles, and
what it has declared and registered stays so even if it fails later. -/

namespace LinkPlanner

/-- A build with the collaborators that planning calls on. -/
structure Env extends Build where
  /-- Makes the library list of a link, or refuses for a reason of its own. -/
  collector : CollectionRequest → Except String Collection := fun r => .ok r.collect
  /-- Accepts a linkstamp compile, or refuses it for a reason of its own. -/
  linkstampCompiler : LinkstampCompile → Except String Unit := fun _ => .ok ()

instance : Inhabited Env := ⟨{}⟩

/-- The steps of planning that are timed. -/
inductive Phase where
  | request
  | link
  | finalLink
  | ltoBackends
  | ltoIndexing
  | collectLibraries
  | compileLinkstamps
  | sharedBackends
deriving DecidableEq, Repr, Inhabited

def Phase.name : Phase → String
  | request => "Plan request"
  | link => "Plan link"
  | finalLink => "Plan final link"
  | ltoBackends => "Plan LTO backends"
  | ltoIndexing => "Plan LTO indexing"
  | collectLibraries => "Collect libraries to link"
  | compileLinkstamps => "Compile linkstamps"
  | sharedBackends => "Create shared LTO backends"

/-- What planning has brought about so far. -/
structure Session where
  declared : Declarations := .empty
  /-- Registered linkstamp compiles, in the order of registration. -/
  compiles : List LinkstampCompile := []
  /-- How many phases are open. -/
  depth : Nat := 0
  /-- The phases that have ended, in the order in which they did, each with the number of phases around it. -/
  closed : List (Nat × Phase) := []
deriving Inhabited

/-- A step of planning. It may fail, and what it has brought about by then remains. -/
abbrev Planning := ExceptT Failure (StateM Session)

namespace Planning

variable {α : Type}

def run (act : Planning α) (s : Session) : Except Failure α × Session := (ExceptT.run act).run s

/-- Fails for a cause, if there is one. -/
def ofCause (r : Except Cause α) : Planning α :=
  match r with
  | .ok a => pure a
  | .error c => throw { cause := c }

/-- Passes on the refusal of a collaborator. -/
def ofCollaborator (r : Except String α) : Planning α := ofCause (r.mapError .refused)

/-- Says of a failure of `act` in which circumstance it came up. -/
def within (c : Circumstance) (act : Planning α) : Planning α := fun s =>
  match act s with
  | (.error f, s) => (.error (f.within c), s)
  | r => r

/-- A phase lasts as long as `act` does, and ends also when `act` fails. -/
def during (p : Phase) (act : Planning α) : Planning α := fun s =>
  let (r, s') := act { s with depth := s.depth + 1 }
  (r, { s' with depth := s.depth, closed := s'.closed ++ [(s.depth, p)] })

def declare (as : List (Artifact × Sharing)) : Planning Unit :=
  modify fun s => { s with declared := as.foldl (fun d (a, sharing) => d.declare a sharing) s.declared }

/-- Declares an artifact that belongs to the target being planned. -/
def declareOwned (a : Artifact) : Planning Unit := declare [(a, .ownedByTarget)]

/-- Has a compile accepted by the environment and registers it. -/
def register (env : Env) (c : LinkstampCompile) : Planning Unit := do
  within (.compilingLinkstamp c.source) (ofCollaborator (env.linkstampCompiler c))
  modify fun s => { s with compiles := s.compiles ++ [c] }

/-- Makes and declares the shared backends of a library. -/
def createSharedBackends (env : Env) (lto : LtoContext) (objects : List Artifact) (usePic : Bool) :
    Planning SharedBackends :=
  during .sharedBackends do
    let backends := Backend.createShared env.toBuild lto objects usePic
    declare (backends.flatMap Backend.declarations)
    pure (.ofBackends backends)

end Planning
end LinkPlanner
