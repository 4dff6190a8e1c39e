import LinkPlanner.Link.Setup

/-! The name by which the dynamic loader knows a library. -/

namespace LinkPlanner

/-- Characters that cannot stand in a file name, and the `_` that marks their replacements. -/
def escapeChar : Char → List Char
  | '_' => ['_', 'U']
  | '/' => ['_', 'S']
  | '\\' => ['_', 'B']
  | ':' => ['_', 'C']
  | '@' => ['_', 'A']
  | c => [c]

/-- A path as a single file name; nothing of the path is lost. -/
def escapePath (cs : List Char) : List Char := cs.flatMap escapeChar

/-- The name of a dynamic library. A library without its dependencies is named after its whole path, because the
last part of it need not be unique. -/
def Link.soname? (link : Link) : Option String :=
  match link.linkType with
  | .nodepsDynamicLibrary => some ("lib" ++ String.ofList (escapePath ('_' :: link.output.path.chars)))
  | .dynamicLibrary => some (String.ofList link.output.fileName)
  | _ => none

end LinkPlanner
