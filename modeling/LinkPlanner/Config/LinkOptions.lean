import LinkPlanner.Config.PerFileOptions
import LinkPlanner.Files.Artifact

/-! Options for all links of a build. -/

namespace LinkPlanner

structure LinkOptions where
  /-- Flags for every link, after those of the target. -/
  linkopts : List String := []
  /-- Flags for every backend compile. -/
  ltoBackendOptions : List String := []
  /-- Flags for every indexing step. -/
  ltoIndexOptions : List String := []
  /-- Backend flags for some bitcode files only. -/
  perFileLtoBackendOpts : List PerFileOptions := []
  /-- Static libraries are kept whole in links that produce something shared. -/
  legacyWholeArchive : Bool := false
  /-- The legacy rule is off, whatever else asks for it. -/
  incompatibleRemoveLegacyWholeArchive : Bool := false
  forcePic : Bool := false
  /-- Libraries of native dependencies are shared by the targets that need them. -/
  shareNativeDeps : Bool := false
  /-- Debug information goes to a file beside each object. -/
  fission : Bool := false
deriving Inhabited

namespace LinkOptions

/-- The flag that asks a linker for a shared output. -/
def sharedFlag : String := "-shared"

def hasSharedLinkOption (o : LinkOptions) : Bool := o.linkopts.contains sharedFlag

/-- The per-file backend flags for an artifact, in the order in which they were declared. -/
def perFileFlags (o : LinkOptions) (a : Artifact) : List String :=
  (o.perFileLtoBackendOpts.filter (·.includes a.execPath.chars)).flatMap (·.options.map String.ofList)

end LinkOptions
end LinkPlanner
