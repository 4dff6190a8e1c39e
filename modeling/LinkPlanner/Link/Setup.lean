import LinkPlanner.Files.FileName
import LinkPlanner.Link.WholeArchive
import LinkPlanner.Lto.Mapping

/-! One link while its inputs are put together. Inputs are told apart by their artifacts: what is added a second
time changes nothing, except that debug information is kept as soon as any input asks for it. -/

namespace LinkPlanner

structure Link where
  /-- The label of the target, for messages and linkstamps. -/
  owner : String
  output : Artifact
  interfaceOutput : Option Artifact := none
  linkType : LinkType := .staticLibrary
  linkingMode : LinkingMode := .static
  libraryIdentifier : Option String := none
  mnemonic : Option String := none
  objects : OrderedSet ObjectInput := .empty
  nonCodeInputs : OrderedSet Artifact := .empty
  libraries : OrderedSet LibraryInput := .empty
  linkstamps : OrderedSet Linkstamp := .empty
  additionalLinkstampDefines : List String := []
  linkopts : List String := []
  /-- Which of the link's own objects are bitcode. -/
  lto : LtoContext := {}
  runtimeLibraryCategory : LibraryCategory := .staticLibrary
  runtimeLibraries : List Artifact := []
  linkerFiles : List Artifact := []
  /-- Where the dynamic language runtime lies, if it is to be looked for at run time. -/
  toolchainLibrariesSolibDir : Option Path := none
  /-- The output bundles the native dependencies of a target. -/
  nativeDeps : Bool := false
  wholeArchive : Bool := false
  mustKeepDebug : Bool := false
  useTestOnlyFlags : Bool := false
  testOrTestOnly : Bool := false
  stamping : Bool := false
  usePicForLtoBackends : Bool := false
  actionInputs : OrderedSet Artifact := .empty
  actionOutputs : OrderedSet Artifact := .empty
  executionInfo : OrderedMap String String := .empty
deriving Inhabited

namespace Link

/-- A link without inputs, with what the toolchain adds to every link. -/
def start (build : Build) (owner : String) (output : Artifact) : Link :=
  { owner, output
    runtimeLibraryCategory := build.toolchain.runtimeLibraryCategory
    runtimeLibraries := build.toolchain.runtimeLibraryArtifacts
    linkerFiles := build.toolchain.linkerFileArtifacts
    toolchainLibrariesSolibDir :=
      if build.features.isEnabled .staticLinkCppRuntimes then build.toolchain.dynamicRuntimeSolibDir else none }

/-! ### Inputs -/

/-- Adds an object file, or a tree of them. -/
def addObject (link : Link) (o : ObjectInput) : Except Cause Link :=
  if o.artifact.isTree || FileName.isObjectFile o.artifact.fileName then
    .ok { link with
      objects := link.objects.insert o
      mustKeepDebug := link.mustKeepDebug || o.mustKeepDebug }
  else .error (.notAnObjectFile o.artifact)

/-- Adds a static, dynamic or interface library. -/
def addLibrary (link : Link) (l : LibraryInput) : Except Cause Link :=
  if FileName.isArchive l.artifact.fileName || FileName.isSharedLibrary l.artifact.fileName then
    .ok { link with
      libraries := link.libraries.insert l
      mustKeepDebug := link.mustKeepDebug || l.mustKeepDebug }
  else .error (.notALibraryFile l.artifact)

/-- Adds one thing after the other, up to the first that is refused. -/
def addEach {α : Type} (add : Link → α → Except Cause Link) (link : Link) : List α → Link × Except Cause Unit
  | [] => (link, .ok ())
  | a :: rest =>
    match add link a with
    | .ok link => addEach add link rest
    | .error c => (link, .error c)

def addObjects : Link → List ObjectInput → Link × Except Cause Unit := addEach addObject

def addLibraries : Link → List LibraryInput → Link × Except Cause Unit := addEach addLibrary

def hasBitcode (link : Link) : Bool := LinkPlanner.hasBitcode link.lto link.libraries.toList

/-! ### What the inputs must fulfil -/

/-- The static libraries of the link are kept whole, unless one says otherwise for itself. -/
def keepWhole (build : Build) (link : Link) : Bool :=
  (WholeArchiveFacts.ofLink link.linkType link.linkopts link.linkingMode build.options build.features).keepWhole
    link.wholeArchive

/-- A link that does not ask for it keeps its libraries whole if its output is shared, neither a feature nor an option
forbids it, the linking is static, and a feature or an option asks for the old behaviour. -/
theorem keepWhole_iff (build : Build) (link : Link) :
    link.keepWhole build = true ↔
      link.wholeArchive = true ∨
        ((link.linkType.isDynamicLibrary = true ∨ LinkOptions.sharedFlag ∈ link.linkopts ∨
            build.options.hasSharedLinkOption = true) ∧
          build.features.isRequested .forceNoWholeArchive = false ∧
          build.options.incompatibleRemoveLegacyWholeArchive = false ∧ link.linkingMode = .static ∧
          (build.features.isRequested .legacyWholeArchive = true ∨ build.options.legacyWholeArchive = true)) := by
  unfold keepWhole WholeArchiveFacts.keepWhole
  rw [Bool.or_eq_true, WholeArchiveFacts.keepsWhole_rule_iff]
  unfold WholeArchiveFacts.ofLink
  simp only [Bool.or_eq_true, List.contains_iff_mem, or_assoc]

/-- The toolchain's tool for interface libraries runs in place of the linker. -/
def usesInterfaceTool (build : Build) (link : Link) : Bool :=
  link.linkType.isDynamicLibrary && build.features.isEnabled .supportsInterfaceSharedLibraries &&
    !build.features.hasToolPath link.linkType.action.name

/-- Fails with `c` unless the condition holds. -/
def require (condition : Bool) (c : Cause) : Except Cause Unit := if condition then .ok () else .error c

/-- Everything that can be checked before an artifact is declared. The first condition that fails is told. -/
def check (build : Build) (link : Link) : Except Cause Unit := do
  let type := link.linkType
  require (link.libraryIdentifier.isSome != type.isExecutable) .identifierMismatch
  require (link.interfaceOutput.isNone || type.isDynamicLibrary) (.interfaceOutputOf type)
  require (type != .interfaceDynamicLibrary) .interfaceLibraryLinked
  require (build.features.isConfigured type.action) (.actionNotConfigured type.action)
  if type.isArchive then
    require (link.linkingMode == .static) .archiveNotStatic
    require (!link.nativeDeps) .archiveOfNativeDeps
    require (!link.keepWhole build) .archiveKeptWhole
  if link.usesInterfaceTool build then
    require build.toolchain.linkDynamicLibraryTool.isSome .noInterfaceTool

end Link
end LinkPlanner
