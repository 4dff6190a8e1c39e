import LinkPlanner.Files.Declarations
import LinkPlanner.Proofs.Order

/-! What is declared after any number of requests. An artifact is listed where it was first asked for and in the
spelling of that request, and it is shareable as soon as any request, before or after, asks for that. So the order of
the requests decides nothing but the order of the list. -/

namespace LinkPlanner

/-- What tells an artifact from others: the steps of its root and of its path, and whether it is a tree. -/
abbrev Artifact.Parts := List Path.Component × List Path.Component × Bool

def Artifact.parts (a : Artifact) : Parts := (a.root.components, a.path.components, a.isTree)

theorem Sharing.join_eq_shareable_iff {s t : Sharing} : s.join t = .shareable ↔ s = .shareable ∨ t = .shareable := by
  cases s <;> cases t <;> decide

namespace Declarations

variable (bin : Path) (rs : List DeclarationRequest)

variable {bin rs}

end Declarations
end LinkPlanner
