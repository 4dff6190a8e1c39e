import LinkPlanner.Config.Build
import LinkPlanner.Document.Fields

/-! Reading the configuration of a build out of documents. What is left out has its default. -/

namespace LinkPlanner

def LibraryCategory.ofDocument? (dialect : Dialect) : Document → Option LibraryCategory :=
  Document.choice? dialect all name

def LinkType.ofDocument? (dialect : Dialect) : Document → Option LinkType := Document.choice? dialect all name

def LinkingMode.ofDocument? (dialect : Dialect) : Document → Option LinkingMode :=
  Document.choice? dialect all name

def PerFileOptions.ofDocument? (patterns : PatternReader) (d : Document) : Option PerFileOptions := do
  (parse patterns (← d.string?).toList).toOption

namespace LinkOptions

def fieldNames : List String :=
  ["linkopts", "lto_backend_options", "lto_index_options", "per_file_lto_backend_opts", "legacy_whole_archive",
    "incompatible_remove_legacy_whole_archive", "force_pic", "share_native_deps", "fission"]

def ofDocument? (patterns : PatternReader) (dialect : Dialect) (d : Document) : Option LinkOptions := do
  let f ← Fields.of? dialect fieldNames d
  some
    { linkopts := ← f.withDefault "linkopts" [] Document.stringList?
      ltoBackendOptions := ← f.withDefault "lto_backend_options" [] Document.stringList?
      ltoIndexOptions := ← f.withDefault "lto_index_options" [] Document.stringList?
      perFileLtoBackendOpts :=
        ← f.withDefault "per_file_lto_backend_opts" [] (Document.list? (PerFileOptions.ofDocument? patterns))
      legacyWholeArchive := ← f.flag "legacy_whole_archive"
      incompatibleRemoveLegacyWholeArchive := ← f.flag "incompatible_remove_legacy_whole_archive"
      forcePic := ← f.flag "force_pic"
      shareNativeDeps := ← f.flag "share_native_deps"
      fission := ← f.flag "fission" }

end LinkOptions

namespace Toolchain

def fieldNames : List String :=
  ["supports_param_files", "solib_directory", "dynamic_runtime_solib_dir", "runtime_libraries",
    "runtime_library_category", "linker_files", "build_info_files", "redacted_build_info_files",
    "link_dynamic_library_tool"]

def ofDocument? (dialect : Dialect) (d : Document) : Option Toolchain := do
  let f ← Fields.of? dialect fieldNames d
  let usual : Toolchain := {}
  let paths := fun name => f.withDefault name [] (Document.list? Document.path?)
  some
    { supportsParamFiles := ← f.withDefault "supports_param_files" usual.supportsParamFiles Document.bool?
      solibDirectory := ← f.withDefault "solib_directory" usual.solibDirectory Document.path?
      dynamicRuntimeSolibDir := ← f.nullable "dynamic_runtime_solib_dir" Document.path?
      runtimeLibraries := ← paths "runtime_libraries"
      runtimeLibraryCategory :=
        ← f.withDefault "runtime_library_category" usual.runtimeLibraryCategory (LibraryCategory.ofDocument? dialect)
      linkerFiles := ← paths "linker_files"
      buildInfoFiles := ← paths "build_info_files"
      redactedBuildInfoFiles := ← paths "redacted_build_info_files"
      linkDynamicLibraryTool := ← f.nullable "link_dynamic_library_tool" Document.path? }

end Toolchain

namespace Features

def fieldNames : List String :=
  ["enabled", "requested", "configured_actions", "tool_requirements", "environment", "actions_with_tool_path"]

/-- Every action counts as configured unless the document says which are. -/
def ofDocument? (dialect : Dialect) (d : Document) : Option Features := do
  let f ← Fields.of? dialect fieldNames d
  some
    { enabled := ← f.withDefault "enabled" [] Document.nameSet?
      requested := ← f.withDefault "requested" [] Document.nameSet?
      configuredActions :=
        ← f.withDefault "configured_actions" withAllActions.configuredActions Document.nameSet?
      toolRequirements := ← f.withDefault "tool_requirements" [] (Document.nameMap? Document.stringList?)
      environment := ← f.withDefault "environment" [] (Document.nameMap? (Document.nameMap? Document.string?))
      actionsWithToolPath := ← f.withDefault "actions_with_tool_path" [] Document.nameSet? }

end Features
end LinkPlanner
