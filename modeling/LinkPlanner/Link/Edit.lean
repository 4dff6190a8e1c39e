import LinkPlanner.Link.Setup

/-! Links and libraries put together step by step. The settings of a link are always accepted; objects and libraries
are not. An edit that is refused part of the way through its list keeps what it has added before, and later edits go on
from there. A library whose backends are refused is lost, though. -/

namespace LinkPlanner

/-- A property of a link, or something that it always accepts. -/
inductive LinkSetting where
  | linkType (t : LinkType)
  | linkingMode (mode : LinkingMode)
  | libraryIdentifier (identifier : String)
  | mnemonic (mnemonic : String)
  | interfaceOutput (a : Artifact)
  | nonCodeInput (a : Artifact)
  | actionInput (a : Artifact)
  | actionOutput (a : Artifact)
  | linkstamp (l : Linkstamp)
  | linkstampDefines (defines : List String)
  /-- Flags go after those that the link has already. -/
  | linkopts (flags : List String)
  | lto (lto : LtoContext)
  | runtimeLibraries (category : LibraryCategory) (libraries : List Artifact)
  | linkerFiles (files : List Artifact)
  | toolchainLibrariesSolibDir (dir : Path)
  | nativeDeps (on : Bool)
  | wholeArchive (on : Bool)
  | useTestOnlyFlags (on : Bool)
  | testOrTestOnly (on : Bool)
  | stamping (on : Bool)
  | usePicForLtoBackends (on : Bool)
  /-- Requirements that the link has already are given their new values. -/
  | executionInfo (requirements : List (String × String))

/-- One step in putting a link together. -/
inductive LinkEdit where
  | set (s : LinkSetting)
  | addObjects (objects : List ObjectInput)
  | addLibraries (libraries : List LibraryInput)

namespace Link

def set (link : Link) : LinkSetting → Link
  | .linkType t => { link with linkType := t }
  | .linkingMode mode => { link with linkingMode := mode }
  | .libraryIdentifier identifier => { link with libraryIdentifier := some identifier }
  | .mnemonic mnemonic => { link with mnemonic := some mnemonic }
  | .interfaceOutput a => { link with interfaceOutput := some a }
  | .nonCodeInput a => { link with nonCodeInputs := link.nonCodeInputs.insert a }
  | .actionInput a => { link with actionInputs := link.actionInputs.insert a }
  | .actionOutput a => { link with actionOutputs := link.actionOutputs.insert a }
  | .linkstamp l => { link with linkstamps := link.linkstamps.insert l }
  | .linkstampDefines defines => { link with additionalLinkstampDefines := defines }
  | .linkopts flags => { link with linkopts := link.linkopts ++ flags }
  | .lto lto => { link with lto }
  | .runtimeLibraries category libraries =>
    { link with runtimeLibraryCategory := category, runtimeLibraries := libraries }
  | .linkerFiles files => { link with linkerFiles := files }
  | .toolchainLibrariesSolibDir dir => { link with toolchainLibrariesSolibDir := some dir }
  | .nativeDeps on => { link with nativeDeps := on }
  | .wholeArchive on => { link with wholeArchive := on }
  | .useTestOnlyFlags on => { link with useTestOnlyFlags := on }
  | .testOrTestOnly on => { link with testOrTestOnly := on }
  | .stamping on => { link with stamping := on }
  | .usePicForLtoBackends on => { link with usePicForLtoBackends := on }
  | .executionInfo requirements =>
    { link with executionInfo := link.executionInfo.insertAll requirements }

/-- The link after an edit, and why the edit was refused, if it was. -/
def edit (link : Link) : LinkEdit → Link × Except Cause Unit
  | .set s => (link.set s, .ok ())
  | .addObjects objects => link.addObjects objects
  | .addLibraries libraries => link.addLibraries libraries

/-- The link after several edits, whichever of them were refused. -/
def editAll (link : Link) (edits : List LinkEdit) : Link :=
  edits.foldl (fun link e => (link.edit e).1) link

end Link

/-! ### Libraries -/

/-- One step in putting a library together. -/
inductive LibraryCall where
  | identifier (identifier : String)
  /-- The members, and which of them are bitcode. -/
  | objects (objects : List Artifact) (lto : LtoContext)
  | sharedBackends (backends : SharedBackends)
  | mustKeepDebug (on : Bool)
  | disableWholeArchive (on : Bool)
  | replacedObjects (objects : OrderedSet Artifact)

namespace LibraryInput

def call (l : LibraryInput) : LibraryCall → Except Cause LibraryInput
  | .identifier identifier => .ok { l with identifier }
  | .objects objects lto => .ok (l.withObjects objects lto)
  | .sharedBackends backends => l.withSharedBackends backends
  | .mustKeepDebug on => .ok { l with mustKeepDebug := on }
  | .disableWholeArchive on => .ok { l with disableWholeArchive := on }
  | .replacedObjects objects => .ok (l.withReplacedObjects objects)

/-- The library after several calls, all of which have to be accepted. -/
def callAll (l : LibraryInput) (calls : List LibraryCall) : Except Cause LibraryInput := calls.foldlM call l

end LibraryInput
end LinkPlanner
