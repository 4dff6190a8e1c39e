import LinkPlanner.Link.Collection
import LinkPlanner.Link.LinkstampCompile
import LinkPlanner.Lto.Decision

/-! What planning yields: the link actions, with the command line they run and the files they read and write. -/

namespace LinkPlanner

/-- How arguments are quoted in a parameter file. -/
inductive ParameterFileType where
  | unquoted
  | gccQuoted
  | windows
deriving DecidableEq, Repr, Inhabited

namespace ParameterFileType

def all : List ParameterFileType := [unquoted, gccQuoted, windows]

def name : ParameterFileType → String
  | unquoted => "unquoted"
  | gccQuoted => "gcc-quoted"
  | windows => "windows"

end ParameterFileType

structure InterfaceLibraryVariables where
  builder : Option Artifact
  input : Artifact
  output : Artifact
deriving Inhabited

/-- The values that the command line templates of a toolchain are filled with. -/
structure LinkVariables where
  outputExecpath : String := ""
  isLinker : Bool := false
  isTransitiveDynamicLibrary : Bool := false
  runtimeSolibName : Option String := none
  interfaceLibrary : Option InterfaceLibraryVariables := none
  /-- In the final link of an indexed build: the objects that the indexer has chosen. -/
  thinltoParamFile : Option Artifact := none
  /-- In the indexing link: where the indexer writes the objects it chooses. -/
  thinltoIndexingParamFile : Option Artifact := none
  thinltoMergedObjectFile : Option Artifact := none
  thinltoPrefixReplace : Option String := none
  linkerParamFile : Option String := none
  mustKeepDebug : Bool := false
  useTestOnlyFlags : Bool := false
  userLinkFlags : List String := []
  librariesToLink : List LibraryToLink := []
  runtimeLibrarySearchDirectories : OrderedSet String := .empty
  librarySearchDirectories : OrderedSet String := .empty
deriving Inhabited

structure LinkCommandLine where
  action : ActionName
  /-- Arguments may be moved to a parameter file. -/
  splitCommandLine : Bool
  parameterFileType : ParameterFileType
  /-- Runs in place of the tool that the toolchain configures. -/
  forcedToolPath : Option Artifact
  linkVariables : LinkVariables
deriving Inhabited

/-- A link or an indexing step. -/
structure LinkAction where
  mnemonic : String
  progressMessage : String
  /-- The first input is the primary one. -/
  inputs : OrderedSet Artifact
  outputs : OrderedSet Artifact
  commandLine : LinkCommandLine
  environment : OrderedMap String String
  executionInfo : OrderedMap String String
deriving Inhabited

/-- What the indexing step hands to the final link. -/
structure IndexingOutputs where
  action : LinkAction
  /-- Where the indexer lists the objects that the final link needs. -/
  paramFile : Artifact
  /-- An object that the indexer makes for the final link. -/
  mergedObject : Artifact
deriving Inhabited

/-- Everything that is planned for one target. -/
structure LinkPlan where
  owner : String
  action : LinkAction
  ltoDecision : Option LtoDecision
  ltoIndexing : Option LinkAction
  ltoBackends : List Backend
  bitcodeMapping : BitcodeMapping
  linkstampCompiles : List LinkstampCompile
  /-- The output as other links see it; nothing links an executable. -/
  outputLibrary : Option LibraryInput
  interfaceOutputLibrary : Option LibraryInput
deriving Inhabited

end LinkPlanner
