import LinkPlanner.Link.Kind
import LinkPlanner.Order.Sorted

/-! Toolchain features, already resolved for the target: which of them are on, which the target asked for, and
what the toolchain configures for each action. -/

namespace LinkPlanner

/-- The features that planning asks about. A toolchain may have any others. -/
inductive Feature where
  /-- Statically linked libraries take no part in the indexing of any target; their shared backends are used. -/
  | thinLtoAllLinkstaticUseSharedNonltoBackends
  /-- The same for tests and for what only tests use. -/
  | thinLtoLinkstaticTestsUseSharedNonltoBackends
  | useLtoNativeObjectDirectory
  | targetsWindows
  | archiveParamFile
  | gccQuotingForParamFiles
  | windowsQuotingForParamFiles
  | forceNoWholeArchive
  | legacyWholeArchive
  | staticLinkCppRuntimes
  | supportsInterfaceSharedLibraries
  | supportsStartEndLib
  | supportsPic
  | perObjectDebugInfo
deriving DecidableEq, Repr, Inhabited

namespace Feature

def all : List Feature :=
  [thinLtoAllLinkstaticUseSharedNonltoBackends, thinLtoLinkstaticTestsUseSharedNonltoBackends,
    useLtoNativeObjectDirectory, targetsWindows, archiveParamFile, gccQuotingForParamFiles,
    windowsQuotingForParamFiles, forceNoWholeArchive, legacyWholeArchive, staticLinkCppRuntimes,
    supportsInterfaceSharedLibraries, supportsStartEndLib, supportsPic, perObjectDebugInfo]

def name : Feature → String
  | thinLtoAllLinkstaticUseSharedNonltoBackends => "thin_lto_all_linkstatic_use_shared_nonlto_backends"
  | thinLtoLinkstaticTestsUseSharedNonltoBackends => "thin_lto_linkstatic_tests_use_shared_nonlto_backends"
  | useLtoNativeObjectDirectory => "use_lto_native_object_directory"
  | targetsWindows => "targets_windows"
  | archiveParamFile => "archive_param_file"
  | gccQuotingForParamFiles => "gcc_quoting_for_param_files"
  | windowsQuotingForParamFiles => "windows_quoting_for_param_files"
  | forceNoWholeArchive => "force_no_whole_archive"
  | legacyWholeArchive => "legacy_whole_archive"
  | staticLinkCppRuntimes => "static_link_cpp_runtimes"
  | supportsInterfaceSharedLibraries => "supports_interface_shared_libraries"
  | supportsStartEndLib => "supports_start_end_lib"
  | supportsPic => "supports_pic"
  | perObjectDebugInfo => "per_object_debug_info"

def ofName? (s : String) : Option Feature := all.find? (·.name == s)

end Feature

/-- A resolved feature configuration. Actions are named as the toolchain names them. -/
structure Features where
  enabled : NameSet := []
  requested : NameSet := []
  configuredActions : NameSet := []
  /-- Execution requirements of the tool that runs an action. -/
  toolRequirements : NameMap (List String) := []
  /-- Environment variables that the toolchain sets for an action. -/
  environment : NameMap (NameMap String) := []
  /-- Actions for which the toolchain names the linker binary itself. -/
  actionsWithToolPath : NameSet := []
deriving Inhabited

namespace Features

/-- Every action is configured and nothing else is set. -/
def withAllActions : Features := { configuredActions := .ofList (ActionName.all.map (·.name)) }

/-- A feature that is on counts as asked for too. -/
def enable (f : Features) (feature : Feature) : Features :=
  { f with
    enabled := f.enabled.insert feature.name
    requested := f.requested.insert feature.name }

def request (f : Features) (feature : Feature) : Features :=
  { f with requested := f.requested.insert feature.name }

/-- Without what a toolchain need not answer: the environment of actions and the linker binary. -/
def withoutOptional (f : Features) : Features :=
  { f with
    environment := []
    actionsWithToolPath := [] }

def isEnabledName (f : Features) (name : String) : Bool := f.enabled.contains name

def isEnabled (f : Features) (feature : Feature) : Bool := f.isEnabledName feature.name

def isRequested (f : Features) (feature : Feature) : Bool := f.requested.contains feature.name

def isConfiguredName (f : Features) (action : String) : Bool := f.configuredActions.contains action

def isConfigured (f : Features) (action : ActionName) : Bool := f.isConfiguredName action.name

def requirementsOf (f : Features) (action : String) : List String :=
  (NameMap.get? f.toolRequirements action).getD []

/-- Variables in the order of their names. -/
def environmentOf (f : Features) (action : String) : NameMap String :=
  (NameMap.get? f.environment action).getD []

def hasToolPath (f : Features) (action : String) : Bool := f.actionsWithToolPath.contains action

end Features
end LinkPlanner
