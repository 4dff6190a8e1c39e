import LinkPlanner.Link.Action
import LinkPlanner.Link.Soname
import LinkPlanner.Planning

/-! Putting link actions together. The final link and the smaller link that the indexer runs are assembled in
the same way. -/

namespace LinkPlanner

/-- Stands for the parameter file on a command line, until whoever runs the action puts its path there. -/
def linkerParamFilePlaceholder : String := "LINKER_PARAM_FILE_PLACEHOLDER"

/-- What tells the final link and the indexing link apart. -/
structure ActionRequest where
  action : ActionName
  mnemonic : String
  progressMessage : String
  objects : OrderedSet ObjectInput
  libraries : OrderedSet LibraryInput
  nonCodeInputs : OrderedSet Artifact
  mapping : BitcodeMapping
  allowLtoIndexing : Bool
  linkstampOutputs : LinkstampOutputs
  outputs : OrderedSet Artifact
  /-- The variables of this kind of action; those of every link are filled in. -/
  linkVariables : LinkVariables
  userLinkFlags : List String

namespace Link

/-! ### The command line -/

/-- Arguments may be moved to a parameter file. The tool that makes interface libraries reads the command line
itself, so with an interface output they may be only on Windows. -/
def canSplitCommandLine (build : Build) (link : Link) : Bool :=
  build.toolchain.supportsParamFiles &&
    match link.linkType with
    | .dynamicLibrary | .nodepsDynamicLibrary =>
      link.interfaceOutput.isNone || build.features.isEnabled .targetsWindows
    | .executable | .objcExecutable => true
    | .interfaceDynamicLibrary => false
    | _ => build.features.isEnabled .archiveParamFile

def parameterFileType (features : Features) : ParameterFileType :=
  if features.isEnabled .gccQuotingForParamFiles then .gccQuoted
  else if features.isEnabled .windowsQuotingForParamFiles then .windows
  else .unquoted

/-- The tool that runs in place of the linker, if one does. -/
def forcedTool? (build : Build) (link : Link) : Option Artifact :=
  if link.usesInterfaceTool build then build.toolchain.linkDynamicLibraryToolArtifact? else none

/-! ### Inputs -/

/-- The runtime libraries go last and are never kept whole. -/
def runtimeInputs (link : Link) : List LinkerInput :=
  link.runtimeLibraries.map fun a =>
    .library { LibraryInput.ofArtifact a link.runtimeLibraryCategory with disableWholeArchive := true }

/-- The objects of linkstamps. Those of linkstamps with one source are one object, and are linked once. -/
def linkstampObjects (r : ActionRequest) : OrderedSet Artifact := .ofList r.linkstampOutputs.values

/-- What the linker is given as files, before static libraries are expanded. -/
def linkerInputs (link : Link) (r : ActionRequest) : List LinkerInput :=
  r.objects.toList.map .object ++ (linkstampObjects r).toList.map (.object <| .ofArtifact ·) ++
    r.libraries.toList.map .library ++ link.runtimeInputs

def collectionRequest (build : Build) (link : Link) (r : ActionRequest) : CollectionRequest where
  inputs := link.linkerInputs r
  keepWhole := link.keepWhole build
  mapping := r.mapping
  allowLtoIndexing := r.allowLtoIndexing
  nativeDeps := link.nativeDeps
  linkType := link.linkType
  linkingMode := link.linkingMode
  output := link.output
  solibDirectory := build.binDirectory.join build.toolchain.solibDirectory
  toolchainLibrariesSolibDir := if link.linkType.isArchive then none else link.toolchainLibrariesSolibDir
  features := build.features

/-- What the action reads apart from linkstamp objects. The compiles of linkstamps may read the same. -/
def baseInputs (build : Build) (link : Link) (r : ActionRequest) (c : Collection) : OrderedSet Artifact :=
  .ofList <|
    c.expandedInputs.map (fun i => r.mapping.map i.artifact) ++ r.nonCodeInputs.toList ++ link.linkerFiles ++
      link.actionInputs.toList ++ (link.forcedTool? build).toList

/-- All that the action reads. -/
def allInputs (build : Build) (link : Link) (r : ActionRequest) (c : Collection) : OrderedSet Artifact :=
  let objects := r.linkstampOutputs.values
  (link.baseInputs build r c).insertAll (objects ++ objects.map r.mapping.map)

/-! ### The action -/

def linkVariables (build : Build) (link : Link) (r : ActionRequest) (c : Collection) : LinkVariables :=
  { r.linkVariables with
    outputExecpath := link.output.text
    isLinker := !link.linkType.isArchive
    isTransitiveDynamicLibrary := link.linkType.isTransitiveDynamicLibrary
    linkerParamFile := if link.canSplitCommandLine build then some linkerParamFilePlaceholder else none
    mustKeepDebug := link.mustKeepDebug
    useTestOnlyFlags := link.useTestOnlyFlags
    userLinkFlags := r.userLinkFlags
    librariesToLink := c.librariesToLink
    runtimeLibrarySearchDirectories := c.runtimeSearchDirectories
    librarySearchDirectories := c.searchDirectories }

/-- The execution requirements of a link, with those of the tool if its action is configured. -/
def allExecutionInfo (features : Features) (link : Link) (action : ActionName) : OrderedMap String String :=
  if features.isConfigured action then
    link.executionInfo.insertAll ((features.requirementsOf action.name).map (·, ""))
  else link.executionInfo

/-- The action for a collection of libraries. -/
def action (build : Build) (link : Link) (r : ActionRequest) (c : Collection) : LinkAction where
  mnemonic := r.mnemonic
  progressMessage := r.progressMessage
  inputs := link.allInputs build r c
  outputs := r.outputs
  commandLine :=
    { action := r.action
      splitCommandLine := link.canSplitCommandLine build
      parameterFileType := parameterFileType build.features
      forcedToolPath := link.forcedTool? build
      linkVariables := link.linkVariables build r c }
  environment := .ofList (build.features.environmentOf r.action.name)
  executionInfo := link.allExecutionInfo build.features r.action

/-- Linkstamps of a shared library of native dependencies name the library, because it belongs to no single
target. -/
def linkstampTemplate (build : Build) (link : Link) (r : ActionRequest) (c : Collection) : LinkstampTemplate where
  buildInfoHeaders := build.toolchain.buildInfoArtifacts link.stamping
  inputs := (link.baseInputs build r c).toList
  additionalDefines := link.additionalLinkstampDefines
  usePic :=
    build.options.forcePic || (link.linkType.isDynamicLibrary && build.features.isEnabled .supportsPic)
  labelReplacement := if link.nativeDeps && build.options.shareNativeDeps then link.output.text else link.owner
  outputReplacement := link.output.text

/-- Registers the linkstamp compiles of a link, in the order of the linkstamps. -/
def compileLinkstamps (env : Env) (compiles : List LinkstampCompile) : Planning Unit :=
  if compiles.isEmpty then pure () else .during .compileLinkstamps (compiles.forM (Planning.register env))

/-- Assembles an action and registers the linkstamp compiles it needs. -/
def assemble (env : Env) (link : Link) (r : ActionRequest) : Planning (LinkAction × List LinkstampCompile) := do
  let build := env.toBuild
  let c ← .within .collecting <| .during .collectLibraries <|
    .ofCollaborator (env.collector (link.collectionRequest build r))
  let compiles := LinkstampCompile.all r.linkstampOutputs (link.linkstampTemplate build r c)
  compileLinkstamps env compiles
  pure (link.action build r c, compiles)

/-! ### The final link -/

/-- How other links see the output. Only archives carry their members, with shared backends for those that are
bitcode. -/
def outputLibrary? (env : Env) (link : Link) (members : List Artifact) : Planning (Option LibraryInput) :=
  match link.linkType.outputCategory? with
  | none => pure none
  | some category => do
    let plain :=
      { LibraryInput.ofArtifact link.output category with identifier := link.libraryIdentifier.getD "" }
    if link.linkType.isArchive then
      let library := plain.withObjects members link.lto
      if link.lto.isEmpty then pure (some library)
      else
        let backends ← Planning.createSharedBackends env link.lto (link.objects.toList.map (·.artifact))
          link.usePicForLtoBackends
        some <$> .ofCause (library.withSharedBackends backends)
    else pure (some plain)

/-- How other links see the interface output: as the dynamic library that it stands for. -/
def interfaceLibrary? (link : Link) (members : List Artifact) : Option LibraryInput :=
  if link.linkType.outputCategory?.isNone then none
  else link.interfaceOutput.map fun a =>
    { LibraryInput.ofArtifact a .dynamicLibrary with
      identifier := link.libraryIdentifier.getD ""
      objects := .ofList members
      lto := link.lto }

/-- What the final link asks of the assembly. The merged object of an indexed build is one more object, and the
indexer's list of chosen objects is read beside the code. -/
def finalRequest (build : Build) (link : Link) (decision : Option LtoDecision) (mapping : BitcodeMapping)
    (indexing : Option IndexingOutputs) (linkstampOutputs : LinkstampOutputs) : ActionRequest where
  action := link.linkType.action
  mnemonic := link.mnemonic.getD "CppLink"
  progressMessage := "Linking " ++ link.output.text
  objects := link.objects.insertAll (indexing.toList.map (.ofArtifact ·.mergedObject))
  libraries := link.libraries
  nonCodeInputs := link.nonCodeInputs.insertAll (indexing.toList.map (·.paramFile))
  mapping := mapping
  allowLtoIndexing := decision.any (·.allowIndexing)
  linkstampOutputs := linkstampOutputs
  outputs := .ofList (link.output :: link.actionOutputs.toList ++ link.interfaceOutput.toList)
  linkVariables :=
    { runtimeSolibName := link.soname?
      interfaceLibrary := link.interfaceOutput.map fun a =>
        { builder := build.toolchain.linkDynamicLibraryToolArtifact?, input := link.output, output := a }
      thinltoParamFile := indexing.map (·.paramFile) }
  userLinkFlags := link.linkopts ++ build.options.linkopts

/-- Everything that the final link puts into its output from its own objects and its linkstamps. -/
def members (r : ActionRequest) : List Artifact :=
  (r.objects.toList.map (·.artifact) ++ r.linkstampOutputs.values).map r.mapping.map

/-- Plans the final link, after what has been decided and planned about LTO. -/
def planFinal (env : Env) (link : Link) (decision : Option LtoDecision) (mapping : BitcodeMapping)
    (backends : List Backend) (indexing : Option IndexingOutputs) : Planning LinkPlan :=
  .during .finalLink do
    let linkstampOutputs := Linkstamp.outputs env.toBuild link.output link.linkstamps.toList
    Planning.declare (linkstampOutputs.values.map (·, .ownedByTarget))
    let r := link.finalRequest env.toBuild decision mapping indexing linkstampOutputs
    let outputLibrary ← link.outputLibrary? env (members r)
    let (action, compiles) ← .within (.planningLink link.owner) (link.assemble env r)
    pure
      { owner := link.owner
        action
        ltoDecision := decision
        ltoIndexing := indexing.map (·.action)
        ltoBackends := backends
        bitcodeMapping := mapping
        linkstampCompiles := compiles
        outputLibrary
        interfaceOutputLibrary := link.interfaceLibrary? (members r) }

/-- Fails unless the link fulfils what every link must. -/
def ensureValid (env : Env) (link : Link) : Planning Unit :=
  .within (.checking link.output link.owner) (.ofCause (link.check env.toBuild))

/-- Plans a link without LTO. Bitcode among its inputs goes to the linker as it is. -/
def plan (env : Env) (link : Link) : Planning LinkPlan :=
  .during .link do
    link.ensureValid env
    link.planFinal env none {} [] none

end Link
end LinkPlanner
