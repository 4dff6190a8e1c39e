import LinkPlanner.Files.Artifact
import LinkPlanner.Link.Kind

/-! Why planning fails, and how a failure is told. A failure is a cause and the circumstances in which it came
up, from the outermost one inwards. -/

namespace LinkPlanner

/-- What sort of mistake a failure comes from. -/
inductive FailureKind where
  /-- The target or what it depends on is declared in a way that cannot be linked. -/
  | usage
  /-- The toolchain lacks something that the link needs. -/
  | configuration
  /-- Planning was driven wrongly; a user cannot mend that. -/
  | programming
deriving DecidableEq, Repr, Inhabited

namespace FailureKind

def label : FailureKind → String
  | usage => "usage error"
  | configuration => "configuration error"
  | programming => "internal error"

/-- How a message of this kind begins. -/
def announce (k : FailureKind) (message : String) : String := k.label ++ ": " ++ message

end FailureKind

/-- A word or a path inside a message. -/
def ticked (s : String) : String := "\x60" ++ s ++ "\x60"

inductive Cause where
  | notAnObjectFile (a : Artifact)
  | notALibraryFile (a : Artifact)
  /-- Exactly the links that are not executables have a library identifier. -/
  | identifierMismatch
  | interfaceOutputOf (t : LinkType)
  | interfaceLibraryLinked
  | actionNotConfigured (action : ActionName)
  | archiveNotStatic
  | archiveOfNativeDeps
  | archiveKeptWhole
  | noInterfaceTool
  /-- Shared backends were given to a library that lack one for some of its bitcode. -/
  | sharedBackendsIncomplete (library bitcode : Artifact)
  /-- Objects of a bitcode tree would lie among its index files. -/
  | treeAmongIndexFiles (tree : Artifact)
  | noSharedBackends (library : Artifact)
  | noSharedBackendFor (library object : Artifact)
  | indexingOf (t : LinkType)
  | memberWithoutSharedBackend (object library : Artifact)
  /-- A collaborator of planning refused, for a reason of its own. -/
  | refused (reason : String)
deriving Inhabited

namespace Cause

def kind? : Cause → Option FailureKind
  | interfaceOutputOf _ | treeAmongIndexFiles _ | noSharedBackends _ | indexingOf _ => some .usage
  | actionNotConfigured _ | noInterfaceTool => some .configuration
  | refused _ => none
  | _ => some .programming

def message : Cause → String
  | notAnObjectFile a => ticked a.text ++ " is not an object file"
  | notALibraryFile a => ticked a.text ++ " is not a library file"
  | identifierMismatch => "Executables must not have a library identifier and everything else must"
  | interfaceOutputOf t => "Interface output can only be used with dynamic library targets, not " ++ t.label
  | interfaceLibraryLinked => "Interface dynamic libraries can't be linked directly"
  | actionNotConfigured action => "Expected action_config for '" ++ action.name ++ "' to be configured"
  | archiveNotStatic => "Static library link must be static"
  | archiveOfNativeDeps => "The native deps flag must be false for static links"
  | archiveKeptWhole => "Whole-archive must be off for static links"
  | noInterfaceTool =>
    "Feature supports_interface_shared_libraries is enabled, but the toolchain has no link_dynamic_library_tool"
  | sharedBackendsIncomplete library bitcode =>
    "Library " ++ ticked library.text ++ " has no shared backend for bitcode file " ++ ticked bitcode.text
  | treeAmongIndexFiles tree =>
    "ThinLTO with tree artifacts requires feature use_lto_native_object_directory (bitcode tree " ++
      ticked tree.text ++ ")"
  | noSharedBackends library =>
    "Statically linked test target requires non-LTO backends for its library inputs, but library input " ++
      ticked library.text ++ " does not specify shared non-LTO backends"
  | noSharedBackendFor library object =>
    "Library " ++ ticked library.text ++ " has no shared backend for " ++ ticked object.text
  | indexingOf t => "LTO indexing is only possible for executables and dynamic libraries, not " ++ t.label
  | memberWithoutSharedBackend object library =>
    "Bitcode member " ++ ticked object.text ++ " of " ++ ticked library.text ++ " has no shared backend"
  | refused reason => reason

/-- The message with the kind of mistake before it, where there is one. -/
def text (c : Cause) : String := (c.kind?.map (·.announce c.message)).getD c.message

end Cause

/-- What planning was about when a failure came up. -/
inductive Circumstance where
  | settingUp (owner : String)
  | checking (output : Artifact) (owner : String)
  | planningLink (owner : String)
  | planningBackends (owner : String)
  | planningIndexing (owner : String)
  | collecting
  | compilingLinkstamp (source : Artifact)
deriving Inhabited

def Circumstance.message : Circumstance → String
  | settingUp owner => "Failed to set up link for " ++ ticked owner
  | checking output owner => "Invalid link of " ++ ticked output.text ++ " for " ++ ticked owner
  | planningLink owner => "Failed to plan link of " ++ ticked owner
  | planningBackends owner => "Failed to plan LTO backends for " ++ ticked owner
  | planningIndexing owner => "Failed to plan LTO indexing of " ++ ticked owner
  | collecting => "Failed to collect libraries to link"
  | compilingLinkstamp source => "Failed to compile linkstamp " ++ ticked source.text

structure Failure where
  cause : Cause
  circumstances : List Circumstance := []
deriving Inhabited

namespace Failure

def within (f : Failure) (c : Circumstance) : Failure := { f with circumstances := c :: f.circumstances }

def kind? (f : Failure) : Option FailureKind := f.cause.kind?

/-- The texts of a failure from the outermost circumstance to the cause. -/
def texts (f : Failure) : List String := f.circumstances.map (·.message) ++ [f.cause.text]

end Failure

/-! ### Reports -/

namespace Report

/-- All texts on one line. -/
def line (texts : List String) : String := ": ".intercalate texts

/-- A text of which every line but the first is moved in. -/
def hanging (indent : String) (text : String) : String :=
  String.ofList ((text.toList.splitOn '\n').intersperse ('\n' :: indent.toList)).flatten

/-- A number, right-aligned in five columns. -/
def aligned (n : Nat) : String :=
  let digits := Nat.toDigits 10 n
  String.ofList (List.replicate (5 - digits.length) ' ' ++ digits)

def numbered : Nat → List String → List String
  | _, [] => []
  | n, t :: rest => (aligned n ++ ": " ++ hanging "       " t) :: numbered (n + 1) rest

/-- The outermost text, and under it what it was caused by: one cause is moved in, several are numbered. -/
def block : List String → String
  | [] => ""
  | [t] => t
  | [t, cause] => t ++ "\n\nCaused by:\n    " ++ hanging "    " cause
  | t :: causes => t ++ "\n\nCaused by:\n" ++ "\n".intercalate (numbered 0 causes)

end Report
end LinkPlanner
