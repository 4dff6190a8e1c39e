import LinkPlanner.Failure
import LinkPlanner.Lto.Backend

/-! What goes into a link: object files, libraries and linkstamps. -/

namespace LinkPlanner

/-- An object file given to the link itself. -/
structure ObjectInput where
  artifact : Artifact
  identifier : String
  disableWholeArchive : Bool := false
  mustKeepDebug : Bool := false
deriving Inhabited

namespace ObjectInput

/-- An object is identified by its path under its root. -/
def ofArtifact (a : Artifact) : ObjectInput := { artifact := a, identifier := a.path.text }

/-- Objects are the same when they are the same artifact. -/
instance : BEq ObjectInput := ⟨fun x y => x.artifact == y.artifact⟩

/-- A tree holds objects whose names are known only once it has been produced. -/
def category (o : ObjectInput) : String := if o.artifact.isTree then "tree-artifact" else "object-file"

def withArtifact (o : ObjectInput) (a : Artifact) : ObjectInput := { o with artifact := a }

end ObjectInput

/-- A library given to the link. -/
structure LibraryInput where
  artifact : Artifact
  category : LibraryCategory
  identifier : String
  /-- The members of a static library. A library without members is passed to the linker as one file. -/
  objects : OrderedSet Artifact := .empty
  /-- Which members are bitcode. -/
  lto : LtoContext := {}
  sharedBackends : Option SharedBackends := none
  mustKeepDebug : Bool := false
  /-- Never kept whole, whatever the link asks for. -/
  disableWholeArchive : Bool := false
deriving Inhabited

namespace LibraryInput

/-- A library is identified by its path under its root. -/
def ofArtifact (a : Artifact) (category : LibraryCategory) : LibraryInput :=
  { artifact := a, category, identifier := a.path.text }

/-- Libraries are the same when they are the same artifact. -/
instance : BEq LibraryInput := ⟨fun x y => x.artifact == y.artifact⟩

def withObjects (l : LibraryInput) (objects : List Artifact) (lto : LtoContext) : LibraryInput :=
  { l with objects := .ofList objects, lto }

/-- Attaches shared backends, of which there has to be one for every bitcode file of the library. -/
def withSharedBackends (l : LibraryInput) (backends : SharedBackends) : Except Cause LibraryInput :=
  match l.lto.files.find? fun bitcode => !backends.contains bitcode with
  | some missing => .error (.sharedBackendsIncomplete l.artifact missing)
  | none => .ok { l with sharedBackends := some backends }

def hasObjects (l : LibraryInput) : Bool := !l.objects.isEmpty

/-- The library as the indexer sees it: other members, and none of the backends. -/
def withReplacedObjects (l : LibraryInput) (objects : OrderedSet Artifact) : LibraryInput :=
  { l with objects, sharedBackends := none, mustKeepDebug := false }

/-- The backend that the library shares for one of its members, if it has one. -/
def sharedBackend? (l : LibraryInput) (object : Artifact) : Option Backend :=
  l.sharedBackends.bind (·.get? object)

end LibraryInput

/-- Anything that the linker is given as a file. -/
inductive LinkerInput where
  | object (o : ObjectInput)
  | library (l : LibraryInput)
deriving Inhabited

def LinkerInput.artifact : LinkerInput → Artifact
  | .object o => o.artifact
  | .library l => l.artifact

/-- A source file that is compiled anew for every link, so that it can hold information about the build. -/
structure Linkstamp where
  source : Artifact
  declaredIncludes : List Artifact := []
deriving Inhabited

/-- Linkstamps are the same when they have the same source and the same includes in the same order. -/
instance : BEq Linkstamp := ⟨fun x y => x.source == y.source && x.declaredIncludes == y.declaredIncludes⟩

end LinkPlanner
