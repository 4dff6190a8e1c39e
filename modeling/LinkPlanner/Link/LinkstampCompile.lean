import LinkPlanner.Link.Input

/-! Linkstamp compiles. Every distinct source is compiled once for a link, into an object that belongs to that
link alone. -/

namespace LinkPlanner

/-- The compile of one linkstamp source. -/
structure LinkstampCompile where
  source : Artifact
  output : Artifact
  declaredIncludes : List Artifact
  buildInfoHeaders : List Artifact
  /-- Inputs of the link that the compile may need too, such as headers that the link's dependencies generate. -/
  inputs : List Artifact
  additionalDefines : List String
  usePic : Bool
  /-- What the compiled linkstamp reports as the target. -/
  labelReplacement : String
  /-- What the compiled linkstamp reports as the output. -/
  outputReplacement : String
deriving Inhabited

/-- What all linkstamp compiles of a link have in common. -/
structure LinkstampTemplate where
  buildInfoHeaders : List Artifact
  inputs : List Artifact
  additionalDefines : List String
  usePic : Bool
  labelReplacement : String
  outputReplacement : String

/-- The object of every linkstamp of a link. -/
abbrev LinkstampOutputs := OrderedMap Linkstamp Artifact

namespace Linkstamp

/-- The directory beside the output where the objects of linkstamps go. -/
def objectsDirectory : String := "_objs"

/-- Where a linkstamp's object goes: in a directory named after the output, at the path of the source with the
extension of objects. -/
def outputPath (output source : Path) : Path :=
  let dir := output.directory.join (.ofString objectsDirectory)
  let dir := output.fileName?.elim dir fun name => dir.join ⟨name⟩
  dir.join (source.withExtension "o")

/-- Gives every linkstamp its object. Linkstamps with the same source have the same object. -/
def outputs (build : Build) (output : Artifact) (linkstamps : List Linkstamp) : LinkstampOutputs :=
  .ofList <| linkstamps.map fun l => (l, build.derived (outputPath output.path l.source.path))

end Linkstamp

namespace LinkstampCompile

/-- A source with its object and the includes of every linkstamp that has this source. -/
structure Group where
  source : Artifact
  output : Artifact
  includes : OrderedSet Artifact

/-- The distinct sources, in the order in which they first occur. Sources are told apart by their exec paths. -/
def groups (outputs : LinkstampOutputs) : OrderedMap Path Group :=
  outputs.entries.foldl
    (fun m (l, output) =>
      m.upsert l.source.execPath ⟨l.source, output, .ofList l.declaredIncludes⟩
        fun g => { g with includes := g.includes.insertAll l.declaredIncludes })
    .empty

/-- The compile of each distinct source. -/
def all (outputs : LinkstampOutputs) (t : LinkstampTemplate) : List LinkstampCompile :=
  (groups outputs).values.map fun g =>
    { source := g.source
      output := g.output
      declaredIncludes := g.includes.toList
      buildInfoHeaders := t.buildInfoHeaders
      inputs := t.inputs
      additionalDefines := t.additionalDefines
      usePic := t.usePic
      labelReplacement := t.labelReplacement
      outputReplacement := t.outputReplacement }

end LinkstampCompile
end LinkPlanner
