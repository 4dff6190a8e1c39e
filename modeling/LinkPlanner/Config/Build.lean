import LinkPlanner.Config.Feature
import LinkPlanner.Config.LinkOptions
import LinkPlanner.Config.Toolchain

/-! What all links of a build have in common. -/

namespace LinkPlanner

structure Build where
  /-- The directory, seen from the execution root, under which derived artifacts are placed. -/
  binDirectory : Path := .ofString "bin"
  toolchain : Toolchain := {}
  options : LinkOptions := {}
  features : Features := .withAllActions
deriving Inhabited

/-- The derived artifact at a path under the bin directory. -/
def Build.derived (b : Build) (path : Path) : Artifact := .derived b.binDirectory path

/-- The tree at a path under the bin directory. -/
def Build.tree (b : Build) (path : Path) : Artifact := .tree b.binDirectory path

end LinkPlanner
