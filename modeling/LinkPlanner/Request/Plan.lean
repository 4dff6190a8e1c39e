import LinkPlanner.Lto.Indexing
import LinkPlanner.Request.Basic

/-! Planning a request. A link with bitcode among its inputs goes through LTO planning, unless it makes an
archive: archives are never indexed, and their bitcode gets shared backends instead. -/

namespace LinkPlanner

def ObjectRequest.artifact (build : Build) (o : ObjectRequest) : Artifact :=
  if o.tree then build.tree o.path else build.derived o.path

/-- Records the objects that are bitcode. -/
def ObjectRequest.ltoContext (build : Build) (objects : List ObjectRequest) : LtoContext :=
  (objects.filter (·.bitcode)).foldl
    (fun lto o => lto.record (o.artifact build) ⟨o.minimized.map build.derived, o.copts⟩) {}

/-- The library of a request, with the shared backends that it is to have. -/
def LibraryRequest.input (env : Env) (l : LibraryRequest) (usePic : Bool) : Planning LibraryInput := do
  let build := env.toBuild
  let lto := ObjectRequest.ltoContext build l.objects
  let objects := l.objects.map (·.artifact build)
  let plain := LibraryInput.ofArtifact (build.derived l.path) l.category
  let library :=
    { plain.withObjects objects lto with
      identifier := l.identifier.getD plain.identifier
      disableWholeArchive := l.disableWholeArchive
      mustKeepDebug := l.mustKeepDebug }
  if l.sharedBackends then
    let backends ← Planning.createSharedBackends env lto objects usePic
    .ofCause (library.withSharedBackends backends)
  else pure library

namespace LinkRequest

/-- The environment of a request: its build, with the usual collaborators. -/
def env (r : LinkRequest) : Env := { toBuild := r.build }

/-- The link of a request before its inputs are added. -/
def emptyLink (r : LinkRequest) : Link :=
  let t := r.target
  { Link.start r.build t.owner (r.build.derived t.output) with
    linkType := t.linkType
    linkingMode := t.linkingMode
    testOrTestOnly := t.testOnly
    useTestOnlyFlags := t.useTestOnlyFlags
    stamping := t.stamping
    nativeDeps := t.nativeDeps
    wholeArchive := t.wholeArchive
    usePicForLtoBackends := t.usePicForLtoBackends
    linkopts := t.linkopts
    additionalLinkstampDefines := t.linkstampDefines
    libraryIdentifier := t.identifier
    interfaceOutput := t.interfaceOutput.map r.build.derived
    mnemonic := t.mnemonic
    lto := ObjectRequest.ltoContext r.build r.objects
    linkstamps := .ofList <| r.linkstamps.map fun l => ⟨.source l.source, l.includes.map .source⟩ }

/-- The link of a request. Objects are added before libraries, and each library is added as soon as its shared
backends are made. -/
def link (r : LinkRequest) : Planning Link := do
  let start := r.emptyLink
  Planning.declareOwned start.output
  start.interfaceOutput.forM Planning.declareOwned
  let objects := r.objects.map fun o =>
    { ObjectInput.ofArtifact (o.artifact r.build) with mustKeepDebug := o.mustKeepDebug }
  let link ← .ofCause (objects.foldlM Link.addObject start)
  r.libraries.foldlM
    (fun link l => do .ofCause (link.addLibrary (← l.input r.env r.target.usePicForLtoBackends))) link

/-- Plans a request from the beginning. -/
def plan (r : LinkRequest) : Planning LinkPlan :=
  .during .request do
    let link ← .within (.settingUp r.target.owner) r.link
    if link.hasBitcode && !link.linkType.isArchive then link.planWithLto r.env else link.plan r.env

end LinkRequest
end LinkPlanner
