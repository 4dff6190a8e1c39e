import LinkPlanner.Files.Artifact
import LinkPlanner.Order.OrderedMap
import LinkPlanner.Order.OrderedSet

/-! Which outputs of a compilation are LTO bitcode, and what is known about each. -/

namespace LinkPlanner

structure BitcodeInfo where
  /-- A cut-down version that holds only what the indexer needs. -/
  minimized : Option Artifact := none
  /-- Extra flags for the backend compile of the file. -/
  copts : List String := []
deriving Inhabited

/-- The bitcode files of a compilation, in the order in which they were first recorded. -/
structure LtoContext where
  bitcode : OrderedMap Artifact BitcodeInfo := .empty
deriving Inhabited

namespace LtoContext

/-- Records a bitcode file; recorded again, it keeps its place and takes the new information. -/
def record (lto : LtoContext) (file : Artifact) (info : BitcodeInfo) : LtoContext :=
  ⟨lto.bitcode.insert file info⟩

def isBitcode (lto : LtoContext) (a : Artifact) : Bool := lto.bitcode.contains a

def files (lto : LtoContext) : List Artifact := lto.bitcode.keys

def isEmpty (lto : LtoContext) : Bool := lto.bitcode.isEmpty

/-- What the indexer reads in place of the artifact: the artifact itself if nothing smaller is recorded. -/
def minimizedOrSelf (lto : LtoContext) (a : Artifact) : Artifact :=
  ((lto.bitcode.get? a).bind (·.minimized)).getD a

def copts (lto : LtoContext) (a : Artifact) : List String := ((lto.bitcode.get? a).map (·.copts)).getD []

end LtoContext

/-- The bitcode files that take part in the indexing of a link. A unique backend compile may read these and no
others. -/
abbrev BitcodeFiles := OrderedSet Artifact

end LinkPlanner
