import LinkPlanner.Document.Config

/-! Link requests: one target with the toolchain, options and features to plan it against, as a document
describes them. Paths of the target, of objects and of libraries are relative to the bin directory, those of
linkstamps to the root of the sources. -/

namespace LinkPlanner

structure TargetRequest where
  owner : String
  output : Path
  linkType : LinkType
  linkingMode : LinkingMode := .static
  identifier : Option String := none
  interfaceOutput : Option Path := none
  mnemonic : Option String := none
  testOnly : Bool := false
  useTestOnlyFlags : Bool := false
  stamping : Bool := false
  nativeDeps : Bool := false
  wholeArchive : Bool := false
  usePicForLtoBackends : Bool := false
  linkopts : List String := []
  linkstampDefines : List String := []
deriving Inhabited

/-- An object file of the link, or a member of a library. -/
structure ObjectRequest where
  path : Path
  tree : Bool := false
  bitcode : Bool := false
  /-- The minimized form of the bitcode. -/
  minimized : Option Path := none
  copts : List String := []
  mustKeepDebug : Bool := false
deriving Inhabited

structure LibraryRequest where
  path : Path
  category : LibraryCategory
  identifier : Option String := none
  objects : List ObjectRequest := []
  /-- The library has shared backends for its bitcode, as the link that made it would have given it. -/
  sharedBackends : Bool := false
  disableWholeArchive : Bool := false
  mustKeepDebug : Bool := false
deriving Inhabited

structure LinkstampRequest where
  source : Path
  includes : List Path := []
deriving Inhabited

structure LinkRequest where
  build : Build := {}
  target : TargetRequest
  objects : List ObjectRequest := []
  libraries : List LibraryRequest := []
  linkstamps : List LinkstampRequest := []
deriving Inhabited

/-! ### Reading -/

def TargetRequest.ofDocument? (dialect : Dialect) (d : Document) : Option TargetRequest := do
  let f ← Fields.of? dialect
    ["owner", "output", "link_type", "linking_mode", "identifier", "interface_output", "mnemonic", "test_only",
      "use_test_only_flags", "stamping", "native_deps", "whole_archive", "use_pic_for_lto_backends", "linkopts",
      "linkstamp_defines"] d
  some
    { owner := ← f.required "owner" Document.string?
      output := ← f.required "output" Document.path?
      linkType := ← f.required "link_type" (LinkType.ofDocument? dialect)
      linkingMode := ← f.withDefault "linking_mode" .static (LinkingMode.ofDocument? dialect)
      identifier := ← f.optional "identifier" Document.string?
      interfaceOutput := ← f.optional "interface_output" Document.path?
      mnemonic := ← f.optional "mnemonic" Document.string?
      testOnly := ← f.flag "test_only"
      useTestOnlyFlags := ← f.flag "use_test_only_flags"
      stamping := ← f.flag "stamping"
      nativeDeps := ← f.flag "native_deps"
      wholeArchive := ← f.flag "whole_archive"
      usePicForLtoBackends := ← f.flag "use_pic_for_lto_backends"
      linkopts := ← f.withDefault "linkopts" [] Document.stringList?
      linkstampDefines := ← f.withDefault "linkstamp_defines" [] Document.stringList? }

def ObjectRequest.ofDocument? (dialect : Dialect) (d : Document) : Option ObjectRequest := do
  let f ← Fields.of? dialect ["path", "tree", "bitcode", "minimized", "copts", "must_keep_debug"] d
  some
    { path := ← f.required "path" Document.path?
      tree := ← f.flag "tree"
      bitcode := ← f.flag "bitcode"
      minimized := ← f.optional "minimized" Document.path?
      copts := ← f.withDefault "copts" [] Document.stringList?
      mustKeepDebug := ← f.flag "must_keep_debug" }

def LibraryRequest.ofDocument? (dialect : Dialect) (d : Document) : Option LibraryRequest := do
  let f ← Fields.of? dialect
    ["path", "category", "identifier", "objects", "shared_backends", "disable_whole_archive", "must_keep_debug"] d
  some
    { path := ← f.required "path" Document.path?
      category := ← f.required "category" (LibraryCategory.ofDocument? dialect)
      identifier := ← f.optional "identifier" Document.string?
      objects := ← f.withDefault "objects" [] (Document.list? (ObjectRequest.ofDocument? dialect))
      sharedBackends := ← f.flag "shared_backends"
      disableWholeArchive := ← f.flag "disable_whole_archive"
      mustKeepDebug := ← f.flag "must_keep_debug" }

def LinkstampRequest.ofDocument? (dialect : Dialect) (d : Document) : Option LinkstampRequest := do
  let f ← Fields.of? dialect ["source", "includes"] d
  some
    { source := ← f.required "source" Document.path?
      includes := ← f.withDefault "includes" [] (Document.list? Document.path?) }

def LinkRequest.ofDocument? (patterns : PatternReader) (dialect : Dialect) (d : Document) : Option LinkRequest := do
  let f ← Fields.of? dialect
    ["bin_directory", "target", "options", "toolchain", "features", "objects", "libraries", "linkstamps"] d
  let usual : Build := {}
  some
    { build :=
        { binDirectory := ← f.withDefault "bin_directory" usual.binDirectory Document.path?
          options := ← f.withDefault "options" usual.options (LinkOptions.ofDocument? patterns dialect)
          toolchain := ← f.withDefault "toolchain" usual.toolchain (Toolchain.ofDocument? dialect)
          features := ← f.withDefault "features" usual.features (Features.ofDocument? dialect) }
      target := ← f.required "target" (TargetRequest.ofDocument? dialect)
      objects := ← f.withDefault "objects" [] (Document.list? (ObjectRequest.ofDocument? dialect))
      libraries := ← f.withDefault "libraries" [] (Document.list? (LibraryRequest.ofDocument? dialect))
      linkstamps := ← f.withDefault "linkstamps" [] (Document.list? (LinkstampRequest.ofDocument? dialect)) }

end LinkPlanner
