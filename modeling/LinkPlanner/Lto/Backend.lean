import LinkPlanner.Config.Build
import LinkPlanner.Files.Declarations
import LinkPlanner.Lto.Context

/-! LTO backends: the native object that is compiled from a bitcode file, with the files that its compile reads
and writes. -/

namespace LinkPlanner

/-- The directories under the bin directory where the outputs of backends go. -/
structure LtoRoots where
  /-- For index, imports and debug files. -/
  outputRoot : Path
  /-- For native objects. -/
  objectRoot : Path
deriving Inhabited

namespace LtoRoots

/-- Where the shared backends of all libraries go. -/
def sharedRoot : String := "shared.nonlto"

/-- Objects share the directory of the index files unless a feature separates them. -/
def under (outputRoot : Path) (features : Features) : LtoRoots where
  outputRoot := outputRoot
  objectRoot :=
    if features.isEnabled .useLtoNativeObjectDirectory then outputRoot.append "-obj" else outputRoot

/-- Roots for the unique backends of the link that makes `output`. -/
def forIndexing (output : Artifact) (features : Features) : LtoRoots :=
  under (output.path.append ".lto") features

def shared (features : Features) : LtoRoots := under (.ofString sharedRoot) features

end LtoRoots

/-- Whether a backend belongs to one link or to every link of a library. -/
inductive BackendSharing where
  /-- Compiled from the results of the indexing of one target. -/
  | unique (indexFile importsFile : Artifact)
  /-- Compiled from the bitcode alone. -/
  | shared
deriving Inhabited

namespace BackendSharing

def isShared : BackendSharing → Bool
  | unique _ _ => false
  | shared => true

/-- What the indexing step writes for the backend. -/
def indexingOutputs : BackendSharing → List Artifact
  | unique indexFile importsFile => [indexFile, importsFile]
  | shared => []

def name : BackendSharing → String
  | unique _ _ => "unique"
  | shared => "shared"

end BackendSharing

/-- What the backend compile reads and writes. -/
structure BackendCompile where
  inputs : OrderedSet Artifact
  outputs : OrderedSet Artifact
  /-- The bitcode that may be read when functions are imported; only unique backends import. -/
  allowedInputs : Option BitcodeFiles
  userCompileFlags : List String
  usePic : Bool
deriving Inhabited

structure Backend where
  bitcodeFile : Artifact
  objectFile : Artifact
  dwoFile : Option Artifact
  sharing : BackendSharing
  roots : LtoRoots
  compile : BackendCompile
deriving Inhabited

namespace Backend

/-- Backends are the same when they compile the same bitcode into the same output root. -/
instance : BEq Backend :=
  ⟨fun a b => a.bitcodeFile == b.bitcodeFile && a.roots.outputRoot == b.roots.outputRoot⟩

def isShared (b : Backend) : Bool := b.sharing.isShared

/-- Flags for the compile of a bitcode file: the link options of the build, the file's own flags, the backend
options of the build and at last those for some files only. -/
def userCompileFlags (options : LinkOptions) (bitcode : Artifact) (copts : List String) : List String :=
  options.linkopts ++ copts ++ options.ltoBackendOptions ++ options.perFileFlags bitcode

/-- The file of a backend: the bitcode's path under `root` with `suffix` after it, a tree if the bitcode is. -/
def file (build : Build) (root : Path) (bitcode : Artifact) (suffix : String) : Artifact :=
  { root := build.binDirectory, path := (root.join bitcode.path).append suffix, isTree := bitcode.isTree }

/-- The backend for a bitcode file. It is unique if the bitcode that it may import from is given. -/
def create (build : Build) (roots : LtoRoots) (allowed : Option BitcodeFiles) (usePic : Bool)
    (bitcode : Artifact) (copts : List String) : Backend :=
  let objectFile := file build roots.objectRoot bitcode ""
  let dwoFile :=
    if build.features.isEnabled .perObjectDebugInfo && build.options.fission then
      some (build.derived ((roots.outputRoot.join bitcode.path).withExtension "dwo"))
    else none
  let sharing :=
    if allowed.isSome then
      .unique (file build roots.outputRoot bitcode ".thinlto.bc") (file build roots.outputRoot bitcode ".imports")
    else .shared
  { bitcodeFile := bitcode, objectFile, dwoFile, sharing, roots
    compile :=
      { inputs := .ofList (bitcode :: sharing.indexingOutputs)
        outputs := .ofList (objectFile :: dwoFile.toList)
        allowedInputs := allowed
        userCompileFlags := userCompileFlags build.options bitcode copts
        usePic } }

/-- Everything that a backend declares. What several links can refer to is shareable. -/
def declarations (b : Backend) : List (Artifact × Sharing) :=
  let sharing := if b.isShared then .shareable else .ownedByTarget
  (b.objectFile :: b.dwoFile.toList ++ b.sharing.indexingOutputs).map (·, sharing)

end Backend

/-- Native objects compiled ahead of time from the bitcode of a library, by bitcode file. -/
abbrev SharedBackends := OrderedMap Artifact Backend

/-- A shared backend for each of the objects that is bitcode. A library makes them once, for the links that do
not index its members. -/
def Backend.createShared (build : Build) (lto : LtoContext) (objects : List Artifact) (usePic : Bool) :
    List Backend :=
  (objects.filter lto.isBitcode).map fun o =>
    create build (LtoRoots.shared build.features) none usePic o (lto.copts o)

/-- Backends by the bitcode that they compile; of two for the same bitcode the later one counts. -/
def SharedBackends.ofBackends (backends : List Backend) : SharedBackends :=
  .ofList (backends.map fun b => (b.bitcodeFile, b))

end LinkPlanner
