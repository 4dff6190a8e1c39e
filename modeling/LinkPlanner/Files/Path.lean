/-! File paths. A path keeps the spelling it was written with, but it stands for the sequence of its
components, and paths are the same when their components are: a doubled or trailing `/` and a `.` after the
first component say nothing. A leading `.` counts, and `..` is never resolved, because what it leads to
depends on links that only the file system knows. -/

namespace LinkPlanner

/-- A path, as it was written. -/
structure Path where
  chars : List Char
deriving Inhabited

namespace Path

/-- One step of a path. -/
inductive Component where
  /-- The leading `/` of an absolute path. -/
  | root
  /-- A leading `.`. -/
  | here
  /-- A `..`, wherever it stands. -/
  | up
  | name (chars : List Char)
deriving DecidableEq, Repr

/-- The text of one component. -/
def Component.chars : Component → List Char
  | .root => ['/']
  | .here => ['.']
  | .up => ['.', '.']
  | .name cs => cs

/-- The root comes first, then `.`, then `..`, then the names in the order of their characters. -/
def Component.order : Component → Component → Ordering
  | .root, .root | .here, .here | .up, .up => .eq
  | .root, _ => .lt
  | _, .root => .gt
  | .here, _ => .lt
  | _, .here => .gt
  | .up, _ => .lt
  | _, .up => .gt
  | .name a, .name b => compare a b

def ofString (s : String) : Path := ⟨s.toList⟩

def text (p : Path) : String := String.ofList p.chars

instance : ToString Path := ⟨text⟩

/-- The empty path, which has no components. -/
def empty : Path := ⟨[]⟩

def isAbsolute (p : Path) : Bool := p.chars.head? == some '/'

/-! ### Components -/

/-- The text between the separators. -/
def pieces (cs : List Char) : List (List Char) := cs.splitOn '/'

/-- Empty pieces and `.` name no step. -/
def isSilent (piece : List Char) : Bool := piece == [] || piece == ['.']

/-- The step that a piece after the head of a path names. -/
def step? (piece : List Char) : Option Component :=
  if isSilent piece then none else if piece = ['.', '.'] then some .up else some (.name piece)

/-- The head of a path (`/`, a leading `.`, or nothing) and the text that follows it. -/
def anchor (p : Path) : Option Component × List Char :=
  match p.chars with
  | '/' :: rest => (some .root, rest)
  | ['.'] => (some .here, [])
  | '.' :: '/' :: rest => (some .here, '/' :: rest)
  | cs => (none, cs)

def components (p : Path) : List Component :=
  let (head, body) := p.anchor
  head.toList ++ (pieces body).filterMap step?

/-- Paths are the same when their components are. -/
instance : BEq Path := ⟨fun p q => p.components == q.components⟩

/-- Paths are ordered by their components, and a path comes before its extensions. -/
instance : Ord Path := ⟨fun p q => List.compareLex Component.order p.components q.components⟩

theorem beq_iff {p q : Path} : (p == q) = true ↔ p.components = q.components :=
  show (p.components == q.components) = true ↔ _ from beq_iff_eq

instance : EquivBEq Path where
  rfl := beq_iff.2 rfl
  symm h := beq_iff.2 (beq_iff.1 h).symm
  trans h₁ h₂ := beq_iff.2 ((beq_iff.1 h₁).trans (beq_iff.1 h₂))

/-! ### Taking apart and putting together -/

/-- The last component if it is a name. -/
def fileName? (p : Path) : Option (List Char) :=
  match p.components.getLast? with
  | some (.name cs) => some cs
  | _ => none

private def withHead (head : Option Component) (body : List (List Char)) : Path :=
  ⟨(head.elim [] Component.chars) ++ ['/'].intercalate body⟩

/-- The path without its last component and without what separates that from the rest. The root and the
empty path have none. -/
def parent? (p : Path) : Option Path :=
  let (head, body) := p.anchor
  match (pieces body).reverse.dropWhile isSilent with
  | _ :: before => some (withHead head (before.dropWhile isSilent).reverse)
  | [] => if head = some .here then some empty else none

/-- The directory that holds the file; the empty path if there is none to name. -/
def directory (p : Path) : Path := p.parent?.getD empty

/-- `q` seen from `p`: an absolute path stands for itself, any other goes after exactly one separator. -/
def join (p q : Path) : Path :=
  if q.isAbsolute then q
  else if p.chars = [] || p.chars.getLast? = some '/' then ⟨p.chars ++ q.chars⟩
  else ⟨p.chars ++ '/' :: q.chars⟩

/-- The path with `suffix` written after it; nothing is removed, so `a.o` and `.lto` give `a.o.lto`. -/
def append (p : Path) (suffix : String) : Path := ⟨p.chars ++ suffix.toList⟩

/-- A file name up to its last `.`; a `.` at its very start does not count. -/
def stem (name : List Char) : List Char :=
  match name.reverse.dropWhile (· != '.') with
  | [] | [_] => name
  | _ :: before => before.reverse

/-- The path with the extension of its file name replaced, or with one added if it has none. The old extension
is taken off the end of the path first. Of `..x` that leaves `..`, which is no file name, so nothing is added. -/
def withExtension (p : Path) (extension : String) : Path :=
  let (head, body) := p.anchor
  match p.fileName? with
  | none => p
  | some name =>
    let body := (pieces body).reverse
    let renamed :=
      if stem name = ['.'] && body.head? = some name then ['.', '.'] else stem name ++ '.' :: extension.toList
    withHead head (renamed :: (body.dropWhile isSilent).tail).reverse

/-! ### One path seen from another -/

/-- The walk from one list of components to another: `..` for what is left of the start, then what is left
of the goal. No walk leads out of a `..`. `moved` says whether a step has been taken already. -/
def walk (moved : Bool) : List Component → List Component → Option (List Component)
  | [], [] => some []
  | goal, [] => some goal
  | [], _ :: start => (walk true [] start).map (.up :: ·)
  | g :: goal, s :: start =>
    if !moved && g = s then walk false goal start
    else if s = .here then (walk true goal start).map (g :: ·)
    else if s = .up then none
    else some (.up :: start.map (fun _ => .up) ++ g :: goal)

/-- The path that leads from `start` to `goal`, if one can be told from their components. -/
def relativeTo? (goal start : Path) : Option Path :=
  if goal.isAbsolute = start.isAbsolute then
    (walk false goal.components start.components).map fun steps =>
      steps.foldl (fun p step => p.join ⟨step.chars⟩) empty
  else if goal.isAbsolute then some goal else none

end Path
end LinkPlanner
