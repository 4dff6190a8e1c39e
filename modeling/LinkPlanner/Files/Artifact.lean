import LinkPlanner.Files.Path

/-! Artifacts: names for the files and directories that actions read and write. Planning never looks at the
file system, so an artifact says where a file will be and nothing about what is in it. -/

namespace LinkPlanner

/-- A source file or the output of some action. The root is the directory, seen from the execution root, that
the path is relative to; it is empty for source files. A tree is a directory whose content is known only once
it has been produced. -/
structure Artifact where
  root : Path
  path : Path
  isTree : Bool := false
deriving Inhabited

namespace Artifact

/-- A file of the source tree. -/
def source (path : Path) : Artifact := ⟨.empty, path, false⟩

def derived (root path : Path) : Artifact := ⟨root, path, false⟩

def tree (root path : Path) : Artifact := ⟨root, path, true⟩

/-- An artifact is told by its root, its path under the root and whether it is a tree. -/
instance : BEq Artifact := ⟨fun a b => a.root == b.root && a.path == b.path && a.isTree == b.isTree⟩

theorem beq_iff {a b : Artifact} :
    (a == b) = true ↔ (a.root == b.root) = true ∧ (a.path == b.path) = true ∧ a.isTree = b.isTree :=
  show (a.root == b.root && a.path == b.path && a.isTree == b.isTree) = true ↔ _ by
    simp [and_assoc]

instance : EquivBEq Artifact where
  rfl := beq_iff.2 ⟨BEq.rfl, BEq.rfl, rfl⟩
  symm h := let ⟨h₁, h₂, h₃⟩ := beq_iff.1 h; beq_iff.2 ⟨BEq.symm h₁, BEq.symm h₂, h₃.symm⟩
  trans h k :=
    let ⟨h₁, h₂, h₃⟩ := beq_iff.1 h
    let ⟨k₁, k₂, k₃⟩ := beq_iff.1 k
    beq_iff.2 ⟨BEq.trans h₁ k₁, BEq.trans h₂ k₂, h₃.trans k₃⟩

/-- Ordered by root, then by path, and a file comes before the tree of the same name. -/
instance : Ord Artifact where
  compare a b := (compare a.root b.root).then ((compare a.path b.path).then (compare a.isTree b.isTree))

/-- The path from the execution root, which is how actions name the artifact. -/
def execPath (a : Artifact) : Path := a.root.join a.path

def text (a : Artifact) : String := a.execPath.text

instance : ToString Artifact := ⟨text⟩

/-- The name of the file; empty if the path does not end in one. -/
def fileName (a : Artifact) : List Char := a.path.fileName?.getD []

/-- The exec path, with the kind of artifact around it. -/
def describe (a : Artifact) : String :=
  (if a.isTree then "Tree(" else "Artifact(") ++ a.text ++ ")"

end Artifact
end LinkPlanner
