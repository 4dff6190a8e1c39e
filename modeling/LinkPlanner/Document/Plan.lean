import LinkPlanner.Document.Basic
import LinkPlanner.Link.Action

/-! Plans as documents. An artifact is written as its exec path, and a map as a table. What a plan does not have
is left out. -/

namespace LinkPlanner

def Artifact.toDocument (a : Artifact) : Document := .string a.text

namespace Document

def artifacts (as : List Artifact) : Document := array (as.map (·.toDocument))

/-- A table with one text for each key; keys that are written alike stay apart. -/
def pairs (es : List (String × String)) : Document := table (es.map fun e => (e.1, string e.2))

end Document

open Document

def LtoDecision.toDocument (d : LtoDecision) : Document :=
  table
    [("include_link_static_in_lto_indexing", bool d.includeStatic), ("allow_lto_indexing", bool d.allowIndexing)]

def LtoRoots.toDocument (r : LtoRoots) : Document :=
  table [("output_root", string r.outputRoot.text), ("object_root", string r.objectRoot.text)]

def BackendCompile.toDocument (c : BackendCompile) : Document :=
  record
    [("inputs", some (artifacts c.inputs.toList)),
      ("outputs", some (artifacts c.outputs.toList)),
      ("allowed_inputs", c.allowedInputs.map fun files => table [("files", artifacts files.toList)]),
      ("user_compile_flags", some (strings c.userCompileFlags)),
      ("use_pic", some (bool c.usePic))]

def BackendSharing.fields (s : BackendSharing) : List (String × Option Document) :=
  ("sharing", some (string s.name)) ::
    match s with
    | unique indexFile importsFile =>
      [("index_file", some indexFile.toDocument), ("imports_file", some importsFile.toDocument)]
    | shared => []

def Backend.toDocument (b : Backend) : Document :=
  record <|
    [("bitcode_file", some b.bitcodeFile.toDocument),
      ("object_file", some b.objectFile.toDocument),
      ("dwo_file", b.dwoFile.map (·.toDocument))] ++
    b.sharing.fields ++
    [("roots", some b.roots.toDocument), ("compile", some b.compile.toDocument)]

def ObjectInput.toDocument (o : ObjectInput) : Document :=
  table
    [("artifact", o.artifact.toDocument),
      ("category", string o.category),
      ("disable_whole_archive", bool o.disableWholeArchive),
      ("identifier", string o.identifier),
      ("must_keep_debug", bool o.mustKeepDebug)]

def LibraryInput.toDocument (l : LibraryInput) : Document :=
  record
    [("artifact", some l.artifact.toDocument),
      ("category", some (string l.category.name)),
      ("identifier", some (string l.identifier)),
      ("objects", some (artifacts l.objects.toList)),
      ("shared_backends",
        l.sharedBackends.map fun bs => pairs (bs.entries.map fun e => (e.1.text, e.2.objectFile.text))),
      ("must_keep_debug", some (bool l.mustKeepDebug)),
      ("disable_whole_archive", some (bool l.disableWholeArchive))]

def LibraryToLink.toDocument : LibraryToLink → Document
  | objectFile path => table [("type", string "object-file"), ("path", path.toDocument)]
  | objectFileGroup paths wholeArchive =>
    table
      [("type", string "object-file-group"), ("paths", artifacts paths), ("whole_archive", bool wholeArchive)]
  | staticLibrary path wholeArchive =>
    table
      [("type", string "static-library"), ("path", path.toDocument), ("whole_archive", bool wholeArchive)]
  | dynamicLibrary name => table [("type", string "dynamic-library"), ("name", string name)]
  | versionedDynamicLibrary path =>
    table [("type", string "versioned-dynamic-library"), ("path", path.toDocument)]
  | interfaceLibrary path => table [("type", string "interface-library"), ("path", path.toDocument)]

def InterfaceLibraryVariables.toDocument (v : InterfaceLibraryVariables) : Document :=
  record
    [("builder", v.builder.map (·.toDocument)),
      ("input", some v.input.toDocument),
      ("output", some v.output.toDocument)]

def LinkVariables.toDocument (v : LinkVariables) : Document :=
  record
    [("output_execpath", some (string v.outputExecpath)),
      ("is_linker", some (bool v.isLinker)),
      ("is_transitive_dynamic_library", some (bool v.isTransitiveDynamicLibrary)),
      ("runtime_solib_name", v.runtimeSolibName.map string),
      ("interface_library", v.interfaceLibrary.map (·.toDocument)),
      ("thinlto_param_file", v.thinltoParamFile.map (·.toDocument)),
      ("thinlto_indexing_param_file", v.thinltoIndexingParamFile.map (·.toDocument)),
      ("thinlto_merged_object_file", v.thinltoMergedObjectFile.map (·.toDocument)),
      ("thinlto_prefix_replace", v.thinltoPrefixReplace.map string),
      ("linker_param_file", v.linkerParamFile.map string),
      ("must_keep_debug", some (bool v.mustKeepDebug)),
      ("use_test_only_flags", some (bool v.useTestOnlyFlags)),
      ("user_link_flags", some (strings v.userLinkFlags)),
      ("libraries_to_link", some (array (v.librariesToLink.map (·.toDocument)))),
      ("runtime_library_search_directories", some (strings v.runtimeLibrarySearchDirectories.toList)),
      ("library_search_directories", some (strings v.librarySearchDirectories.toList))]

def LinkCommandLine.toDocument (c : LinkCommandLine) : Document :=
  record
    [("action_name", some (string c.action.name)),
      ("split_command_line", some (bool c.splitCommandLine)),
      ("parameter_file_type", some (string c.parameterFileType.name)),
      ("forced_tool_path", c.forcedToolPath.map (·.toDocument)),
      ("variables", some c.linkVariables.toDocument)]

def LinkAction.toDocument (a : LinkAction) : Document :=
  table
    [("mnemonic", string a.mnemonic),
      ("progress_message", string a.progressMessage),
      ("inputs", artifacts a.inputs.toList),
      ("outputs", artifacts a.outputs.toList),
      ("command_line", a.commandLine.toDocument),
      ("environment", pairs a.environment.entries),
      ("execution_info", pairs a.executionInfo.entries)]

def LinkstampCompile.toDocument (c : LinkstampCompile) : Document :=
  table
    [("source", c.source.toDocument),
      ("output", c.output.toDocument),
      ("declared_includes", artifacts c.declaredIncludes),
      ("build_info_headers", artifacts c.buildInfoHeaders),
      ("inputs", artifacts c.inputs),
      ("additional_defines", strings c.additionalDefines),
      ("use_pic", bool c.usePic),
      ("label_replacement", string c.labelReplacement),
      ("output_replacement", string c.outputReplacement)]

def BitcodeMapping.toDocument (m : BitcodeMapping) : Document :=
  pairs (m.objects.entries.map fun e => (e.1.text, e.2.text))

namespace LinkPlan

/-- The parts of a plan in order. Those that a plan need not have are there even if it does not have them. -/
def parts (p : LinkPlan) : List (String × Option Document) :=
  [("owner", some (string p.owner)),
    ("action", some p.action.toDocument),
    ("lto_decision", p.ltoDecision.map (·.toDocument)),
    ("lto_indexing", p.ltoIndexing.map (·.toDocument)),
    ("lto_backends", some (array (p.ltoBackends.map (·.toDocument)))),
    ("bitcode_mapping", some p.bitcodeMapping.toDocument),
    ("linkstamp_compiles", some (array (p.linkstampCompiles.map (·.toDocument)))),
    ("output_library", p.outputLibrary.map (·.toDocument)),
    ("interface_output_library", p.interfaceOutputLibrary.map (·.toDocument))]

/-- There is nothing in the part. -/
def isVoid : Option Document → Bool
  | none | some (.array []) | some (.table []) => true
  | _ => false

/-- The parts of a plan that there is something in. -/
def toDocument (p : LinkPlan) : Document := record (p.parts.filter (!isVoid ·.2))

end LinkPlan
end LinkPlanner
