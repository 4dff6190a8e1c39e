import LinkPlanner.Link.Assembly

/-! The backends of a link: whether the link is indexed, and a backend for every bitcode file that it ends up
using. -/

namespace LinkPlanner

/-- A link whose inputs are settled, with the backends for its bitcode. -/
structure BackendPlan where
  link : Link
  decision : LtoDecision
  roots : LtoRoots
  backends : OrderedSet Backend
  mapping : BitcodeMapping
deriving Inhabited

/-- The backend that a library shares for one of its members. -/
def LibraryInput.requireSharedBackend (l : LibraryInput) (object : Artifact) : Except Cause Backend :=
  match l.sharedBackends with
  | none => .error (.noSharedBackends l.artifact)
  | some shared =>
    match shared.get? object with
    | some backend => .ok backend
    | none => .error (.noSharedBackendFor l.artifact object)

namespace Link

def ltoFacts (features : Features) (link : Link) : LtoFacts where
  allLinkstaticUseSharedBackends := features.isEnabled .thinLtoAllLinkstaticUseSharedNonltoBackends
  linkstaticTestsUseSharedBackends := features.isEnabled .thinLtoLinkstaticTestsUseSharedNonltoBackends
  testOrTestOnly := link.testOrTestOnly
  linkingMode := link.linkingMode
  hasOwnBitcode := !link.lto.isEmpty
  hasAnyBitcode := link.hasBitcode

/-- Unique backends go beside the output of their link, shared ones to a place of their own. -/
def ltoRoots (features : Features) (link : Link) (decision : LtoDecision) : LtoRoots :=
  if decision.allowIndexing then .forIndexing link.output features else .shared features

def bitcodeFiles (link : Link) (decision : LtoDecision) : BitcodeFiles :=
  .collect link.lto link.objects.toList link.libraries.toList decision.includeStatic

/-- The members of libraries that are bitcode, each with its library. -/
def bitcodeMembers (link : Link) : List (LibraryInput × Artifact) :=
  let compiled := libraryBitcode link.libraries.toList
  link.libraries.toList.flatMap fun l => (l.objects.toList.filter compiled.contains).map (l, ·)

/-- Backends of the members of libraries: new unique ones if the members take part in the indexing, and
otherwise those that the libraries share. -/
def memberBackends (build : Build) (link : Link) (decision : LtoDecision) (roots : LtoRoots)
    (files : BitcodeFiles) : Except Cause (List Backend) :=
  link.bitcodeMembers.mapM fun (l, object) =>
    if decision.includeStatic then
      .ok (.create build roots (some files) link.usePicForLtoBackends object (l.lto.copts object))
    else l.requireSharedBackend object

/-- New backends for the link's own bitcode, unique if the link is indexed. -/
def ownBackends (build : Build) (link : Link) (decision : LtoDecision) (roots : LtoRoots)
    (files : BitcodeFiles) : List Backend :=
  let allowed := if decision.allowIndexing then some files else none
  ((link.objects.toList.map (·.artifact)).filter link.lto.isBitcode).map fun a =>
    .create build roots allowed link.usePicForLtoBackends a (link.lto.copts a)

/-- Plans the backends of a link. What belongs to libraries already has been declared with them; all other
backends declare their files. -/
def planBackends (env : Env) (link : Link) : Planning BackendPlan :=
  .during .ltoBackends do
    link.ensureValid env
    let decision := (link.ltoFacts env.features).decide
    let roots := link.ltoRoots env.features decision
    let files := link.bitcodeFiles decision
    let members ← .within (.planningBackends link.owner) do
      .ofCause (files.checkRoots roots)
      .ofCause (link.memberBackends env.toBuild decision roots files)
    let own := link.ownBackends env.toBuild decision roots files
    let created := if decision.includeStatic then members ++ own else own
    Planning.declare (created.flatMap Backend.declarations)
    let backends := OrderedSet.ofList (members ++ own)
    pure { link, decision, roots, backends, mapping := .ofBackends backends.toList }

end Link
end LinkPlanner
