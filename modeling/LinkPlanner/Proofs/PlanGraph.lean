import Mathlib.Logic.Relation
import Mathlib.Order.Basic
import LinkPlanner.Proofs.ActionInputs

/-! The actions of a plan as a graph. An action feeds another one if it writes a file that the other one may
read, and a plan can be carried out only if no action is downstream of itself. A plan starts from what the
caller gives for the link, under names that are to be apart from those that the planner derives. -/

namespace LinkPlanner

/-! ### Steps -/

/-- One action of a plan. -/
inductive PlanStep where
  | indexing (action : LinkAction)
  | backend (b : Backend)
  | linkstamp (c : LinkstampCompile)
  | final (action : LinkAction)

/-- What a backend compile may read: its inputs and the bitcode that it may import from. -/
def Backend.reads (b : Backend) : List Artifact :=
  b.compile.inputs.toList ++ b.compile.allowedInputs.elim [] (·.toList)

namespace PlanStep

def reads : PlanStep → List Artifact
  | indexing action | final action => action.inputs.toList
  | backend b => b.reads
  | linkstamp c => c.source :: c.declaredIncludes ++ c.buildInfoHeaders ++ c.inputs

def writes : PlanStep → List Artifact
  | indexing action | final action => action.outputs.toList
  | backend b => b.compile.outputs.toList
  | linkstamp c => [c.output]

def Reads (s : PlanStep) (a : Artifact) : Prop := ∃ x ∈ s.reads, (x == a) = true

def Writes (s : PlanStep) (a : Artifact) : Prop := ∃ x ∈ s.writes, (x == a) = true

def Feeds (s t : PlanStep) : Prop := ∃ a ∈ s.writes, t.Reads a

instance (s : PlanStep) (a : Artifact) : Decidable (s.Writes a) :=
  inferInstanceAs (Decidable (∃ x ∈ s.writes, (x == a) = true))

theorem feeds_iff {s t : PlanStep} : s.Feeds t ↔ ∃ a ∈ t.reads, s.Writes a := by
  constructor
  · rintro ⟨x, hx, y, hy, hyx⟩
    exact ⟨y, hy, x, hx, BEq.symm hyx⟩
  · rintro ⟨y, hy, x, hx, hxy⟩
    exact ⟨x, hx, y, hy, BEq.symm hxy⟩

theorem Writes.congr {s : PlanStep} {a b : Artifact} (hs : s.Writes a) (hab : (a == b) = true) : s.Writes b := by
  obtain ⟨x, hx, hxa⟩ := hs
  exact ⟨x, hx, BEq.trans hxa hab⟩

end PlanStep

namespace LinkPlan

open PlanStep Relation

/-- The steps that come before the final link. -/
def innerSteps (plan : LinkPlan) : List PlanStep :=
  plan.ltoIndexing.toList.map .indexing ++ plan.ltoBackends.map .backend ++
    plan.linkstampCompiles.map .linkstamp

def steps (plan : LinkPlan) : List PlanStep := plan.innerSteps ++ [.final plan.action]

def Edge (plan : LinkPlan) (s t : PlanStep) : Prop := s ∈ plan.steps ∧ t ∈ plan.steps ∧ s.Feeds t

/-- Whatever is downstream of a step can be run only after it. -/
def Downstream (plan : LinkPlan) (s t : PlanStep) : Prop := TransGen plan.Edge s t

def Acyclic (plan : LinkPlan) : Prop := ∀ s, ¬ plan.Downstream s s

variable {plan : LinkPlan} {s t : PlanStep}

theorem mem_innerSteps :
    s ∈ plan.innerSteps ↔
      (∃ action ∈ plan.ltoIndexing, s = .indexing action) ∨ (∃ b ∈ plan.ltoBackends, s = .backend b) ∨
        ∃ c ∈ plan.linkstampCompiles, s = .linkstamp c := by
  unfold innerSteps
  simp only [List.mem_append, List.mem_map, Option.mem_toList, Option.mem_def, or_assoc, eq_comm (b := s)]

theorem mem_steps : s ∈ plan.steps ↔ s ∈ plan.innerSteps ∨ s = .final plan.action := by
  unfold steps
  rw [List.mem_append, List.mem_singleton]

/-- If ranks fall from every step but the final link to the steps that it feeds, they fall along every path that
does not lead through the final link. -/
theorem rank_lt_or_through_final {ρ : Type} [Preorder ρ] {rank : PlanStep → ρ}
    (hrank : ∀ s ∈ plan.innerSteps, ∀ t ∈ plan.steps, s.Feeds t → rank t < rank s)
    (hpath : plan.Downstream s t) :
    rank t < rank s ∨
      ReflTransGen plan.Edge s (.final plan.action) ∧ plan.Downstream (.final plan.action) t := by
  have hedge : ∀ {u v}, plan.Edge u v → rank v < rank u ∨ u = .final plan.action := by
    rintro u v ⟨hu, hv, hfeeds⟩
    rcases mem_steps.1 hu with hinner | hfinal
    · exact Or.inl (hrank u hinner v hv hfeeds)
    · exact Or.inr hfinal
  induction hpath with
  | single h =>
      rcases hedge h with hlt | rfl
      · exact Or.inl hlt
      · exact Or.inr ⟨.refl, .single h⟩
  | tail hpath h ih =>
      rcases hedge h with hlt | rfl
      · rcases ih with hlt' | ⟨hto, hfrom⟩
        · exact Or.inl (hlt.trans hlt')
        · exact Or.inr ⟨hto, hfrom.tail h⟩
      · exact Or.inr ⟨hpath.to_reflTransGen, .single h⟩

/-- With such ranks a cycle can only lead through the final link. -/
theorem acyclic_iff_of_rank {ρ : Type} [Preorder ρ] {rank : PlanStep → ρ}
    (hrank : ∀ s ∈ plan.innerSteps, ∀ t ∈ plan.steps, s.Feeds t → rank t < rank s) :
    plan.Acyclic ↔ ¬ plan.Downstream (.final plan.action) (.final plan.action) := by
  refine ⟨fun hacyclic => hacyclic _, fun hfinal s hcycle => ?_⟩
  rcases rank_lt_or_through_final hrank hcycle with hlt | ⟨hto, hfrom⟩
  · exact lt_irrefl _ hlt
  · exact hfinal (hfrom.trans_left hto)

end LinkPlan

/-! ### What the caller gives -/

namespace Link

/-- The backends that the libraries of the link bring along. -/
def libraryBackends (link : Link) : List Backend :=
  link.libraries.toList.flatMap fun l => l.sharedBackends.toList.flatMap (·.values)

/-- The objects that these backends make, in whichever link. -/
def sharedObjects (link : Link) : List Artifact := link.libraryBackends.map (·.objectFile)

/-- The code that is linked, with the minimized forms of bitcode. -/
def codeFiles (link : Link) : List Artifact :=
  link.objects.toList.flatMap (fun o => [o.artifact, link.lto.minimizedOrSelf o.artifact]) ++
    link.libraries.toList.flatMap (fun l =>
      l.artifact :: l.objects.toList.flatMap fun m => [m, l.lto.minimizedOrSelf m]) ++
    link.runtimeLibraries

/-- Every file that the caller gives for the link, but for the objects of shared backends. -/
def given (build : Build) (link : Link) : List Artifact :=
  link.codeFiles ++ link.libraryBackends.flatMap (fun b => b.bitcodeFile :: b.reads) ++
    link.linkstamps.toList.flatMap (fun s => s.source :: s.declaredIncludes) ++
    build.toolchain.buildInfoArtifacts link.stamping ++
    (link.nonCodeInputs.toList ++ link.linkerFiles ++ link.actionInputs.toList ++ (link.forcedTool? build).toList)

/-- Every file that the caller asks the link for. -/
def requested (link : Link) : List Artifact :=
  link.output :: link.actionOutputs.toList ++ link.interfaceOutput.toList

/-- The caller gives a file of this name. -/
def Gives (build : Build) (link : Link) (a : Artifact) : Prop := ∃ x ∈ link.given build, (x == a) = true

instance (build : Build) (link : Link) (a : Artifact) : Decidable (link.Gives build a) :=
  inferInstanceAs (Decidable (∃ x ∈ link.given build, (x == a) = true))

/-- A library brings along the backend that makes a file of this name. -/
def Shares (link : Link) (a : Artifact) : Prop := ∃ x ∈ link.sharedObjects, (x == a) = true

/-- No file that the caller gives has a name that the planner derives. -/
def GivenApart (build : Build) (link : Link) (plan : LinkPlan) : Prop :=
  ∀ a ∈ link.given build, ∀ s ∈ plan.innerSteps, ¬ s.Writes a

instance (build : Build) (link : Link) (plan : LinkPlan) : Decidable (link.GivenApart build plan) :=
  inferInstanceAs (Decidable (∀ a ∈ link.given build, ∀ s ∈ plan.innerSteps, ¬ s.Writes a))

/-- No file that the caller names has a name that the planner derives. The objects of shared backends are made
by the planner too, but by steps that read only what the caller gives. -/
structure NamesApart (build : Build) (link : Link) (plan : LinkPlan) : Prop where
  given : ∀ a ∈ link.given build, ∀ s ∈ plan.innerSteps, ¬ s.Writes a
  requested : ∀ a ∈ link.requested, ∀ s ∈ plan.innerSteps, ¬ s.Writes a
  shared : ∀ a ∈ link.sharedObjects, ∀ s ∈ plan.innerSteps, s.Writes a → ∀ x ∈ s.reads, link.Gives build x

instance (build : Build) (link : Link) (plan : LinkPlan) : Decidable (link.NamesApart build plan) :=
  decidable_of_iff
    ((∀ a ∈ link.given build, ∀ s ∈ plan.innerSteps, ¬ s.Writes a) ∧
      (∀ a ∈ link.requested, ∀ s ∈ plan.innerSteps, ¬ s.Writes a) ∧
      ∀ a ∈ link.sharedObjects, ∀ s ∈ plan.innerSteps, s.Writes a → ∀ x ∈ s.reads, link.Gives build x)
    ⟨fun h => ⟨h.1, h.2.1, h.2.2⟩, fun h => ⟨h.given, h.requested, h.shared⟩⟩

/-- The caller gives no file that the link is asked for. -/
def OutputsApart (build : Build) (link : Link) (plan : LinkPlan) : Prop :=
  ∀ a ∈ link.given build ++ link.sharedObjects, ¬ (PlanStep.final plan.action).Writes a

instance (build : Build) (link : Link) (plan : LinkPlan) : Decidable (link.OutputsApart build plan) :=
  inferInstanceAs (Decidable (∀ a ∈ link.given build ++ link.sharedObjects, ¬ (PlanStep.final plan.action).Writes a))

theorem Gives.congr {build : Build} {link : Link} {a b : Artifact} (ha : link.Gives build a)
    (hab : (a == b) = true) : link.Gives build b := by
  obtain ⟨x, hx, hxa⟩ := ha
  exact ⟨x, hx, BEq.trans hxa hab⟩

theorem GivenApart.not_writes {build : Build} {link : Link} {plan : LinkPlan} (hapart : link.GivenApart build plan)
    {a : Artifact} (ha : link.Gives build a) {s : PlanStep} (hs : s ∈ plan.innerSteps) : ¬ s.Writes a := by
  obtain ⟨x, hx, hxa⟩ := ha
  exact fun hwrites => hapart x hx s hs (hwrites.congr (BEq.symm hxa))

theorem NamesApart.givenApart {build : Build} {link : Link} {plan : LinkPlan} (hapart : link.NamesApart build plan) :
    link.GivenApart build plan :=
  hapart.given

/-- A run of the planner for a link, with or without LTO, that ends in a plan. -/
def Yields (env : Env) (link : Link) (plan : LinkPlan) : Prop :=
  (link.plan env).Yields plan ∨ (link.planWithLto env).Yields plan

end Link

/-! ### Collectors -/

/-- The files that stand for an input: its own, and the members of a library. -/
def LinkerInput.files : LinkerInput → List Artifact
  | .object o => [o.artifact]
  | .library l => l.artifact :: l.objects.toList

/-- The collector keeps the objects among the inputs, and adds nothing but files that stand for an input. -/
structure Env.CollectsInputs (env : Env) : Prop where
  keeps : ∀ r c, env.collector r = .ok c → ∀ o, .object o ∈ r.inputs →
    ∃ i ∈ c.expandedInputs, (i.artifact == o.artifact) = true
  adds : ∀ r c, env.collector r = .ok c → ∀ i ∈ c.expandedInputs, ∃ j ∈ r.inputs, i.artifact ∈ j.files

theorem Env.CollectsAsUsual.collectsInputs {env : Env} (h : env.CollectsAsUsual) : env.CollectsInputs where
  keeps r c hc o ho := by
    rw [h r c hc]
    exact ⟨.object o, CollectionRequest.mem_collect_expandedInputs.2 ⟨_, ho, List.mem_singleton_self _⟩, BEq.rfl⟩
  adds r c hc i hi := by
    rw [h r c hc] at hi
    obtain ⟨j, hj, hij⟩ := CollectionRequest.mem_collect_expandedInputs.1 hi
    refine ⟨j, hj, ?_⟩
    rcases CollectionRequest.artifact_of_mem_expand hij with rfl | ⟨l, rfl, hl⟩
    · cases i <;> exact List.mem_cons_self
    · exact List.mem_cons_of_mem _ hl

end LinkPlanner
