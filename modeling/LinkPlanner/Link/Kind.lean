/-! What a link can produce, and what follows from that alone: which tool runs, which toolchain action is used
and how other links see the result. -/

namespace LinkPlanner

/-- What a library file is to a link that consumes it. -/
inductive LibraryCategory where
  | staticLibrary
  | picStaticLibrary
  /-- A static library of which every member has to end up in the output, used or not. -/
  | alwaysLinkStaticLibrary
  | alwaysLinkPicStaticLibrary
  | dynamicLibrary
  | interfaceLibrary
deriving DecidableEq, Repr, Inhabited

namespace LibraryCategory

def all : List LibraryCategory :=
  [staticLibrary, picStaticLibrary, alwaysLinkStaticLibrary, alwaysLinkPicStaticLibrary, dynamicLibrary,
    interfaceLibrary]

def name : LibraryCategory → String
  | staticLibrary => "static-library"
  | picStaticLibrary => "pic-static-library"
  | alwaysLinkStaticLibrary => "always-link-static-library"
  | alwaysLinkPicStaticLibrary => "always-link-pic-static-library"
  | dynamicLibrary => "dynamic-library"
  | interfaceLibrary => "interface-library"

def isStatic : LibraryCategory → Bool
  | dynamicLibrary | interfaceLibrary => false
  | _ => true

def isAlwaysLink : LibraryCategory → Bool
  | alwaysLinkStaticLibrary | alwaysLinkPicStaticLibrary => true
  | _ => false

end LibraryCategory

/-- How symbols are bound. In static mode everything that can be linked statically is. -/
inductive LinkingMode where
  | static
  | dynamic
deriving DecidableEq, Repr, Inhabited

namespace LinkingMode

def all : List LinkingMode := [static, dynamic]

def name : LinkingMode → String
  | static => "static"
  | dynamic => "dynamic"

end LinkingMode

/-- The toolchain actions that a plan can use. -/
inductive ActionName where
  | cppLinkExecutable
  | objcExecutable
  | cppLinkStaticLibrary
  | objcFullyLink
  | cppLinkDynamicLibrary
  | cppLinkNodepsDynamicLibrary
  | ltoIndexExecutable
  | ltoIndexDynamicLibrary
  | ltoIndexNodepsDynamicLibrary
  | ltoBackend
  | linkstampCompile
deriving DecidableEq, Repr, Inhabited

namespace ActionName

def all : List ActionName :=
  [cppLinkExecutable, objcExecutable, cppLinkStaticLibrary, objcFullyLink, cppLinkDynamicLibrary,
    cppLinkNodepsDynamicLibrary, ltoIndexExecutable, ltoIndexDynamicLibrary, ltoIndexNodepsDynamicLibrary,
    ltoBackend, linkstampCompile]

/-- The name by which toolchains configure the action. -/
def name : ActionName → String
  | cppLinkExecutable => "c++-link-executable"
  | objcExecutable => "objc-executable"
  | cppLinkStaticLibrary => "c++-link-static-library"
  | objcFullyLink => "objc-fully-link"
  | cppLinkDynamicLibrary => "c++-link-dynamic-library"
  | cppLinkNodepsDynamicLibrary => "c++-link-nodeps-dynamic-library"
  | ltoIndexExecutable => "lto-index-for-executable"
  | ltoIndexDynamicLibrary => "lto-index-for-dynamic-library"
  | ltoIndexNodepsDynamicLibrary => "lto-index-for-nodeps-dynamic-library"
  | ltoBackend => "lto-backend"
  | linkstampCompile => "linkstamp-compile"

/-- The name that reports use for the action itself. -/
def label : ActionName → String
  | cppLinkExecutable => "CppLinkExecutable"
  | objcExecutable => "ObjcExecutable"
  | cppLinkStaticLibrary => "CppLinkStaticLibrary"
  | objcFullyLink => "ObjcFullyLink"
  | cppLinkDynamicLibrary => "CppLinkDynamicLibrary"
  | cppLinkNodepsDynamicLibrary => "CppLinkNodepsDynamicLibrary"
  | ltoIndexExecutable => "LtoIndexExecutable"
  | ltoIndexDynamicLibrary => "LtoIndexDynamicLibrary"
  | ltoIndexNodepsDynamicLibrary => "LtoIndexNodepsDynamicLibrary"
  | ltoBackend => "LtoBackend"
  | linkstampCompile => "LinkstampCompile"

def ofName? (s : String) : Option ActionName := all.find? (·.name == s)

end ActionName

/-- Which kind of tool makes the output. -/
inductive Tool where
  | linker
  | archiver
deriving DecidableEq, Repr, Inhabited

def Tool.name : Tool → String
  | .linker => "linker"
  | .archiver => "archiver"

/-- What kind of file a link produces. -/
inductive LinkType where
  | executable
  | objcExecutable
  | staticLibrary
  | picStaticLibrary
  | alwaysLinkStaticLibrary
  | alwaysLinkPicStaticLibrary
  | objcFullyLinkedArchive
  /-- Contains what it depends on as well. -/
  | dynamicLibrary
  /-- Contains only the objects of its own target. -/
  | nodepsDynamicLibrary
  /-- The stub that other targets link against in place of a dynamic library; it is never linked itself. -/
  | interfaceDynamicLibrary
deriving DecidableEq, Repr, Inhabited

namespace LinkType

def all : List LinkType :=
  [executable, objcExecutable, staticLibrary, picStaticLibrary, alwaysLinkStaticLibrary,
    alwaysLinkPicStaticLibrary, objcFullyLinkedArchive, dynamicLibrary, nodepsDynamicLibrary,
    interfaceDynamicLibrary]

def name : LinkType → String
  | executable => "executable"
  | objcExecutable => "objc-executable"
  | staticLibrary => "static-library"
  | picStaticLibrary => "pic-static-library"
  | alwaysLinkStaticLibrary => "always-link-static-library"
  | alwaysLinkPicStaticLibrary => "always-link-pic-static-library"
  | objcFullyLinkedArchive => "objc-fully-linked-archive"
  | dynamicLibrary => "dynamic-library"
  | nodepsDynamicLibrary => "nodeps-dynamic-library"
  | interfaceDynamicLibrary => "interface-dynamic-library"

/-- The name that reports use. -/
def label : LinkType → String
  | executable => "Executable"
  | objcExecutable => "ObjcExecutable"
  | staticLibrary => "StaticLibrary"
  | picStaticLibrary => "PicStaticLibrary"
  | alwaysLinkStaticLibrary => "AlwaysLinkStaticLibrary"
  | alwaysLinkPicStaticLibrary => "AlwaysLinkPicStaticLibrary"
  | objcFullyLinkedArchive => "ObjcFullyLinkedArchive"
  | dynamicLibrary => "DynamicLibrary"
  | nodepsDynamicLibrary => "NodepsDynamicLibrary"
  | interfaceDynamicLibrary => "InterfaceDynamicLibrary"

def tool : LinkType → Tool
  | staticLibrary | picStaticLibrary | alwaysLinkStaticLibrary | alwaysLinkPicStaticLibrary
  | objcFullyLinkedArchive => .archiver
  | _ => .linker

def isArchive (t : LinkType) : Bool := t.tool == .archiver

def isExecutable : LinkType → Bool
  | executable | objcExecutable => true
  | _ => false

def isDynamicLibrary : LinkType → Bool
  | dynamicLibrary | nodepsDynamicLibrary => true
  | _ => false

def isTransitiveDynamicLibrary : LinkType → Bool
  | dynamicLibrary => true
  | _ => false

/-- What the output is to another link; nothing links an executable. -/
def outputCategory? : LinkType → Option LibraryCategory
  | executable | objcExecutable => none
  | staticLibrary | objcFullyLinkedArchive => some .staticLibrary
  | picStaticLibrary => some .picStaticLibrary
  | alwaysLinkStaticLibrary => some .alwaysLinkStaticLibrary
  | alwaysLinkPicStaticLibrary => some .alwaysLinkPicStaticLibrary
  | dynamicLibrary | nodepsDynamicLibrary => some .dynamicLibrary
  | interfaceDynamicLibrary => some .interfaceLibrary

/-- The toolchain action that makes the output. -/
def action : LinkType → ActionName
  | executable => .cppLinkExecutable
  | objcExecutable => .objcExecutable
  | staticLibrary | picStaticLibrary | alwaysLinkStaticLibrary | alwaysLinkPicStaticLibrary =>
    .cppLinkStaticLibrary
  | objcFullyLinkedArchive => .objcFullyLink
  | dynamicLibrary | interfaceDynamicLibrary => .cppLinkDynamicLibrary
  | nodepsDynamicLibrary => .cppLinkNodepsDynamicLibrary

/-- The toolchain action for the indexing step of a link; archives and interface libraries are never
indexed. -/
def indexAction? (t : LinkType) : Option ActionName :=
  if t.isExecutable then some .ltoIndexExecutable
  else if t.isTransitiveDynamicLibrary then some .ltoIndexDynamicLibrary
  else if t.isDynamicLibrary then some .ltoIndexNodepsDynamicLibrary
  else none

end LinkType
end LinkPlanner
