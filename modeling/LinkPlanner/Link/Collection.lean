import LinkPlanner.Lto.Mapping

/-! The libraries of a link as its command line lists them, in link order, and the directories in which dynamic
libraries are searched for. -/

namespace LinkPlanner

/-- One entry of the list from which the command line is made. -/
inductive LibraryToLink where
  | objectFile (path : Artifact)
  /-- The members of a static library, each listed by itself between start and end marks. -/
  | objectFileGroup (paths : List Artifact) (wholeArchive : Bool)
  | staticLibrary (path : Artifact) (wholeArchive : Bool)
  /-- A dynamic library that is found by its name in the search path. -/
  | dynamicLibrary (name : String)
  /-- A dynamic library that is not named `lib<name>.so`, listed by its path. -/
  | versionedDynamicLibrary (path : Artifact)
  | interfaceLibrary (path : Artifact)
deriving Inhabited

/-- What is known when the libraries of a link are collected. -/
structure CollectionRequest where
  /-- Objects, linkstamp objects, libraries and runtime libraries, in this order. -/
  inputs : List LinkerInput
  keepWhole : Bool
  mapping : BitcodeMapping
  /-- The link is the final one of an indexed build. The indexer lists the objects of unique backends in a
  parameter file, so they are not listed again; objects of shared backends are. -/
  allowLtoIndexing : Bool
  nativeDeps : Bool
  linkType : LinkType
  linkingMode : LinkingMode
  output : Artifact
  solibDirectory : Path
  toolchainLibrariesSolibDir : Option Path
  features : Features
deriving Inhabited

structure Collection where
  /-- The inputs, with static libraries replaced by their members where the linker sees these. -/
  expandedInputs : List LinkerInput := []
  librariesToLink : List LibraryToLink := []
  runtimeSearchDirectories : OrderedSet String := .empty
  searchDirectories : OrderedSet String := .empty
deriving Inhabited

/-- A run-time search path for `dir` that holds wherever the output ends up, as long as the two stay where they
are to each other. -/
def originRelative (outputDir dir : Path) : String :=
  let relative := (dir.relativeTo? outputDir).getD dir
  if relative.chars.isEmpty then "$ORIGIN" else "$ORIGIN/" ++ relative.text

/-- The `<name>` of a file named `lib<name>.so` or `lib<name>.dylib`, which a linker finds by that name. -/
def searchName? (fileName : List Char) : Option String :=
  match fileName with
  | 'l' :: 'i' :: 'b' :: rest =>
    [".so", ".dylib"].findSome? fun ending =>
      let n := rest.length - ending.toList.length
      let name := rest.take n
      if rest.drop n = ending.toList && !name.isEmpty && !name.contains '\n' then some (String.ofList name)
      else none
  | _ => none

namespace CollectionRequest

/-- Where the command line refers to an object, if it does. -/
def listedObject? (r : CollectionRequest) (a : Artifact) : Option Artifact :=
  if r.allowLtoIndexing && r.mapping.isIndexed a then none else some (r.mapping.map a)

/-- The linker sees the members of a static library one by one if it can do so, and has to if some member is
replaced by a backend's object. -/
def expands (r : CollectionRequest) (l : LibraryInput) : Bool :=
  l.category.isStatic && l.hasObjects &&
    (r.features.isEnabled .supportsStartEndLib || l.objects.toList.any r.mapping.contains)

/-- Whether a static library is kept whole. -/
def keepsWhole (r : CollectionRequest) (l : LibraryInput) : Bool :=
  !l.disableWholeArchive && (r.keepWhole || l.category.isAlwaysLink)

/-- The inputs that stand for one input. -/
def expand (r : CollectionRequest) : LinkerInput → List LinkerInput
  | .object o => [.object o]
  | .library l => if r.expands l then l.objects.toList.map (.object <| .ofArtifact ·) else [.library l]

/-- How the command line lists a dynamic or interface library. -/
def listDynamic (l : LibraryInput) : LibraryToLink :=
  if l.category = .interfaceLibrary then .interfaceLibrary l.artifact
  else match searchName? l.artifact.fileName with
    | some name => .dynamicLibrary name
    | none => .versionedDynamicLibrary l.artifact

/-- What the command line lists for one input; a group without members is not listed. -/
def list (r : CollectionRequest) : LinkerInput → Option LibraryToLink
  | .object o => (r.listedObject? o.artifact).map .objectFile
  | .library l =>
    if !l.category.isStatic then some (listDynamic l)
    else if r.expands l then
      match l.objects.toList.filterMap r.listedObject? with
      | [] => none
      | paths => some (.objectFileGroup paths (r.keepsWhole l))
    else some (.staticLibrary l.artifact (r.keepsWhole l))

def outputDir (r : CollectionRequest) : Path := r.output.execPath.directory

/-- The directories of the toolchain and of the build that dynamic libraries are looked for in at run time.
Archives only contain objects, so nothing is looked for. -/
def standingRuntimeDirs (r : CollectionRequest) : List Path :=
  if r.linkType.isArchive then []
  else r.toolchainLibrariesSolibDir.toList ++
    (if r.linkingMode = .dynamic || r.nativeDeps then [r.solibDirectory] else [])

/-- The directory of a library that is looked for at run time. -/
def runtimeDir? (r : CollectionRequest) : LinkerInput → Option Path
  | .library l => if l.category.isStatic || r.linkType.isArchive then none else some l.artifact.execPath.directory
  | .object _ => none

/-- The directory that has to be searched to find an input by its name. -/
def searchDir? : LinkerInput → Option String
  | .library l =>
    if l.category.isStatic then none
    else match listDynamic l with
      | .dynamicLibrary _ => some l.artifact.execPath.directory.text
      | _ => none
  | .object _ => none

/-- The collection of a request: every input is listed directly. -/
def collect (r : CollectionRequest) : Collection where
  expandedInputs := r.inputs.flatMap r.expand
  librariesToLink := r.inputs.filterMap r.list
  runtimeSearchDirectories :=
    .ofList <| (r.standingRuntimeDirs ++ r.inputs.filterMap r.runtimeDir?).map (originRelative r.outputDir)
  searchDirectories := .ofList (r.inputs.filterMap searchDir?)

end CollectionRequest
end LinkPlanner
