/-! Options that apply only to some files, written `<filter>[,<filter>...]@<option>[,<option>...]`. A filter is
a pattern that is looked for in the path of the file; one that starts with `-` excludes. Empty filters and empty
options are dropped. What counts as a pattern, and where it is found, is left open here. -/

namespace LinkPlanner

/-- Tells of a text whether it is a pattern, and of a pattern in which texts it is found. -/
abbrev PatternReader := List Char → Option (List Char → Bool)

/-- A pattern with the text it was written as. -/
structure FileFilter where
  source : List Char
  /-- The pattern is found in the path. -/
  accepts : List Char → Bool
deriving Inhabited

def FileFilter.ofText? (patterns : PatternReader) (source : List Char) : Option FileFilter :=
  (patterns source).map (⟨source, ·⟩)

structure PerFileOptions where
  inclusions : List FileFilter := []
  exclusions : List FileFilter := []
  options : List (List Char) := []
deriving Inhabited

/-- Why a text is no such option. -/
inductive PerFileOptionsError where
  /-- There is no `@`. -/
  | noOptions (spec : List Char)
  | badFilter (pattern spec : List Char)

namespace PerFileOptionsError

def message : PerFileOptionsError → String
  | noOptions spec => "Expected \x60<filters>@<options>\x60, got \x60" ++ String.ofList spec ++ "\x60"
  | badFilter pattern spec =>
    "Invalid file filter \x60" ++ String.ofList pattern ++ "\x60 in \x60" ++ String.ofList spec ++ "\x60"

end PerFileOptionsError

namespace PerFileOptions

/-- A file is included if an inclusion accepts its path, or there are none, and no exclusion does. -/
def includes (o : PerFileOptions) (path : List Char) : Bool :=
  (o.inclusions.isEmpty || o.inclusions.any (·.accepts path)) && !o.exclusions.any (·.accepts path)

/-- The parts between commas that are not empty. -/
def listed (cs : List Char) : List (List Char) := (cs.splitOn ',').filter (!·.isEmpty)

/-- Adds one filter as it is written. -/
def addFilter (patterns : PatternReader) (spec : List Char) (o : PerFileOptions) (filter : List Char) :
    Except PerFileOptionsError PerFileOptions :=
  match filter with
  | '-' :: pattern =>
    match FileFilter.ofText? patterns pattern with
    | some x => .ok { o with exclusions := o.exclusions ++ [x] }
    | none => .error (.badFilter pattern spec)
  | pattern =>
    match FileFilter.ofText? patterns pattern with
    | some x => .ok { o with inclusions := o.inclusions ++ [x] }
    | none => .error (.badFilter pattern spec)

/-- Reads the written form. The first `@` ends the filters. -/
def parse (patterns : PatternReader) (spec : List Char) : Except PerFileOptionsError PerFileOptions :=
  match spec.dropWhile (· != '@') with
  | [] => .error (.noOptions spec)
  | _ :: options => do
    let o ← (listed (spec.takeWhile (· != '@'))).foldlM (addFilter patterns spec) {}
    .ok { o with options := listed options }

/-- The written form: inclusions, then exclusions, then the options. -/
def print (o : PerFileOptions) : List Char :=
  [','].intercalate (o.inclusions.map (·.source) ++ o.exclusions.map ('-' :: ·.source)) ++
    '@' :: [','].intercalate o.options

end PerFileOptions
end LinkPlanner
