import LinkPlanner.Lto.BackendPlan

/-! The indexing step: a link over minimized bitcode that decides what each backend imports and which objects
the final link needs. -/

namespace LinkPlanner

/-- What comes after the backends of a link are planned. -/
inductive LtoPhase where
  /-- The link is indexed, and the final link uses unique backends. -/
  | indexed (plan : BackendPlan) (outputs : IndexingOutputs)
  /-- The link is not indexed, and the final link uses shared backends as they are. -/
  | sharedBackends (plan : BackendPlan)

namespace Link

/-! ### The inputs of the indexer -/

/-- The link's own objects, with bitcode in its minimized form. -/
def indexingObjects (link : Link) : OrderedSet ObjectInput :=
  .ofList (link.objects.toList.map fun o => o.withArtifact (link.lto.minimizedOrSelf o.artifact))

/-- What the indexer is given for a member of a library: its minimized form if it takes part in the indexing,
and otherwise the native object that its shared backend makes, because the indexer has to see every object of
the final link. -/
def indexingMember (includeStatic : Bool) (l : LibraryInput) (object : Artifact) : Except Cause Artifact :=
  if includeStatic then .ok (l.lto.minimizedOrSelf object)
  else match l.sharedBackend? object with
    | some backend => .ok backend.objectFile
    | none =>
      if l.lto.isBitcode object then .error (.memberWithoutSharedBackend object l.artifact)
      else .ok (l.lto.minimizedOrSelf object)

/-- A library as the indexer sees it. One without members stays what it is. -/
def indexingLibrary (includeStatic : Bool) (l : LibraryInput) : Except Cause LibraryInput :=
  if l.hasObjects then do
    let members ← l.objects.toList.mapM (indexingMember includeStatic l)
    .ok (l.withReplacedObjects (.ofList members))
  else .ok l

def indexingLibraries (link : Link) (includeStatic : Bool) : Except Cause (OrderedSet LibraryInput) := do
  .ok (.ofList (← link.libraries.toList.mapM (indexingLibrary includeStatic)))

end Link

namespace BackendPlan

/-- Tells the indexer how the path of a bitcode file becomes the path of its index, and that of its object
where objects lie elsewhere. -/
def prefixReplace (bin : Path) (roots : LtoRoots) : String :=
  let first := bin.text ++ ";" ++ (bin.join roots.outputRoot).text
  if roots.objectRoot == roots.outputRoot then first
  else first ++ ";" ++ (bin.join roots.objectRoot).text

/-- The file in which the indexer lists the objects that the final link needs. -/
def paramFile (build : Build) (p : BackendPlan) : Artifact :=
  build.derived (p.link.output.path.append "-lto-final.params")

/-- The object that the indexer makes for the final link. -/
def mergedObject (build : Build) (p : BackendPlan) : Artifact :=
  build.derived (p.link.output.path.append ".lto.merged.o")

/-- What the indexing step writes. -/
def indexingOutputs (build : Build) (p : BackendPlan) : OrderedSet Artifact :=
  .ofList (p.backends.toList.flatMap (·.sharing.indexingOutputs) ++ [p.paramFile build, p.mergedObject build])

/-- What the indexing link asks of the assembly. Linkstamps are left to the final link. -/
def indexingRequest (build : Build) (p : BackendPlan) (action : ActionName) (libraries : OrderedSet LibraryInput) :
    ActionRequest where
  action := action
  mnemonic := p.link.mnemonic.getD "CppLTOIndexing"
  progressMessage := "LTO indexing " ++ p.link.output.text
  objects := p.link.indexingObjects
  libraries := libraries
  nonCodeInputs := p.link.nonCodeInputs
  mapping := {}
  allowLtoIndexing := p.decision.allowIndexing
  linkstampOutputs := .empty
  outputs := p.indexingOutputs build
  linkVariables :=
    { thinltoIndexingParamFile := some (p.paramFile build)
      thinltoMergedObjectFile := some (p.mergedObject build)
      thinltoPrefixReplace := some (prefixReplace build.binDirectory p.roots) }
  userLinkFlags := p.link.linkopts ++ build.options.linkopts ++ build.options.ltoIndexOptions

/-- Plans the indexing step itself. -/
def assembleIndexing (env : Env) (p : BackendPlan) : Planning IndexingOutputs := do
  let build := env.toBuild
  match p.link.linkType.indexAction? with
  | none => .ofCause (.error (.indexingOf p.link.linkType))
  | some actionName => do
    let libraries ← .ofCause (p.link.indexingLibraries p.decision.includeStatic)
    let paramFile := p.paramFile build
    let mergedObject := p.mergedObject build
    Planning.declareOwned paramFile
    Planning.declareOwned mergedObject
    let (action, _) ← p.link.assemble env (p.indexingRequest build actionName libraries)
    pure { action, paramFile, mergedObject }

/-- Plans the indexing step if the link is indexed. -/
def planIndexing (env : Env) (p : BackendPlan) : Planning LtoPhase :=
  if p.decision.allowIndexing then
    .during .ltoIndexing do
      .indexed p <$> .within (.planningIndexing p.link.owner) (p.assembleIndexing env)
  else pure (.sharedBackends p)

/-- Plans the final link over the backends, with what the indexing step has left for it. -/
def planFinal (env : Env) (p : BackendPlan) (indexing : Option IndexingOutputs) : Planning LinkPlan :=
  p.link.planFinal env (some p.decision) p.mapping p.backends.toList indexing

end BackendPlan

/-- Plans the final link. -/
def LtoPhase.plan (env : Env) : LtoPhase → Planning LinkPlan
  | .indexed p outputs => p.planFinal env (some outputs)
  | .sharedBackends p => p.planFinal env none

/-- Plans a link with LTO, through all of its phases. -/
def Link.planWithLto (env : Env) (link : Link) : Planning LinkPlan := do
  let backends ← link.planBackends env
  let phase ← backends.planIndexing env
  phase.plan env

end LinkPlanner
