import LinkPlanner.Files.Artifact
import LinkPlanner.Link.Kind

/-! The parts of a toolchain that links depend on. -/

namespace LinkPlanner

structure Toolchain where
  /-- The linker accepts `@file` arguments. -/
  supportsParamFiles : Bool := true
  /-- Where dynamic libraries are found at run time, seen from the bin directory. -/
  solibDirectory : Path := .ofString "_solib_k8"
  /-- Where the dynamic language runtime lies. It matters only when the runtime is linked statically: the dynamic
  parts of the link still look for it there. -/
  dynamicRuntimeSolibDir : Option Path := none
  /-- Language runtime libraries. They go after everything else and are never kept whole. -/
  runtimeLibraries : List Path := []
  runtimeLibraryCategory : LibraryCategory := .staticLibrary
  /-- What the linker itself needs to run. -/
  linkerFiles : List Path := []
  buildInfoFiles : List Path := []
  redactedBuildInfoFiles : List Path := []
  /-- The tool that makes an interface library together with a dynamic library. -/
  linkDynamicLibraryTool : Option Path := none
deriving Inhabited

namespace Toolchain

def runtimeLibraryArtifacts (t : Toolchain) : List Artifact := t.runtimeLibraries.map .source

def linkerFileArtifacts (t : Toolchain) : List Artifact := t.linkerFiles.map .source

/-- The build information that stamped outputs embed, or the stand-in for it. -/
def buildInfoArtifacts (t : Toolchain) (stamping : Bool) : List Artifact :=
  (if stamping then t.buildInfoFiles else t.redactedBuildInfoFiles).map .source

def linkDynamicLibraryToolArtifact? (t : Toolchain) : Option Artifact := t.linkDynamicLibraryTool.map .source

end Toolchain
end LinkPlanner
