/-! What the name of a file says about its content. A name has an ending only if something stands before the
ending. -/

namespace LinkPlanner.FileName

/-- The name ends in one of the endings and is longer than that ending. -/
def hasEnding (endings : List String) (name : List Char) : Bool :=
  endings.any fun ending => ending.toList.length < name.length && ending.toList.isSuffixOf name

/-- Position-independent objects (`.pic.o`) are objects too. -/
def isObjectFile : List Char → Bool := hasEnding [".o", ".obj"]

def isArchive : List Char → Bool := hasEnding [".a", ".lo", ".lib"]

/-- What follows the first occurrence of `mark`, with what precedes it. -/
def splitAtFirst (mark : List Char) : List Char → Option (List Char × List Char)
  | [] => none
  | c :: rest =>
    if mark.isPrefixOf (c :: rest) then some ([], (c :: rest).drop mark.length)
    else (splitAtFirst mark rest).map fun (before, after) => (c :: before, after)

/-- A run of decimal digits. -/
def isVersionPart (part : List Char) : Bool := !part.isEmpty && part.all Char.isDigit

/-- A shared library with its version, such as `libx.so.1.22`. -/
def isVersionedSharedLibrary (name : List Char) : Bool :=
  match splitAtFirst ".so.".toList name with
  | some (before, version) => !before.isEmpty && (version.splitOn '.').all isVersionPart
  | none => false

/-- Shared libraries and the interface libraries that stand in for them. -/
def isSharedLibrary (name : List Char) : Bool :=
  hasEnding [".so", ".dylib", ".dll"] name || hasEnding [".ifso", ".tbd", ".lib"] name ||
    isVersionedSharedLibrary name

end LinkPlanner.FileName
