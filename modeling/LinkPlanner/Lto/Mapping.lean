import LinkPlanner.Link.Input

/-! The bitcode among the inputs of a link, and the native object that stands for each bitcode file. -/

namespace LinkPlanner

/-- The target's own objects or some library hold bitcode. -/
def hasBitcode (own : LtoContext) (libraries : List LibraryInput) : Bool :=
  !own.isEmpty || libraries.any (!·.lto.isEmpty)

/-- The bitcode files of all libraries. A member counts whichever library it is recorded with. -/
def libraryBitcode (libraries : List LibraryInput) : OrderedSet Artifact :=
  .ofList (libraries.flatMap (·.lto.files))

namespace BitcodeFiles

/-- The bitcode that takes part in indexing: members of libraries, where static libraries take part, and then
the target's own objects. -/
def collect (own : LtoContext) (objects : List ObjectInput) (libraries : List LibraryInput)
    (includeStatic : Bool) : BitcodeFiles :=
  let compiled := libraryBitcode libraries
  let members :=
    if includeStatic then libraries.flatMap fun l => l.objects.toList.filter compiled.contains else []
  .ofList (members ++ (objects.filter (own.isBitcode ·.artifact)).map (·.artifact))

/-- The files of a tree are named after the tree, so its objects must not go where its index files go. -/
def checkRoots (files : BitcodeFiles) (roots : LtoRoots) : Except Cause Unit :=
  match files.toList.find? (·.isTree) with
  | some tree =>
    if roots.outputRoot == roots.objectRoot then .error (.treeAmongIndexFiles tree) else .ok ()
  | none => .ok ()

end BitcodeFiles

/-- The native object for every bitcode file. Once the backends of a link are planned, whatever refers to a
bitcode file refers to its object. -/
structure BitcodeMapping where
  objects : OrderedMap Artifact Artifact := .empty
  /-- Bitcode whose object comes from a shared backend; the indexer does not list these. -/
  shared : OrderedSet Artifact := .empty
deriving Inhabited

namespace BitcodeMapping

def insert (m : BitcodeMapping) (bitcode object : Artifact) (isShared : Bool) : BitcodeMapping where
  objects := m.objects.insert bitcode object
  shared := if isShared then m.shared.insert bitcode else m.shared

/-- Maps the bitcode of every backend to its object. -/
def ofBackends (backends : List Backend) : BitcodeMapping :=
  backends.foldl (fun m b => m.insert b.bitcodeFile b.objectFile b.isShared) {}

def contains (m : BitcodeMapping) (a : Artifact) : Bool := m.objects.contains a

def get? (m : BitcodeMapping) (a : Artifact) : Option Artifact := m.objects.get? a

/-- The object for a bitcode file; anything else stands for itself. -/
def map (m : BitcodeMapping) (a : Artifact) : Artifact := (m.get? a).getD a

/-- The object comes from a backend that the indexing of this link feeds, so the indexer lists it. -/
def isIndexed (m : BitcodeMapping) (a : Artifact) : Bool := m.contains a && !m.shared.contains a

end BitcodeMapping
end LinkPlanner
