import LinkPlanner.Lto.Indexing
import LinkPlanner.Proofs.Yields

/-! What each phase of planning yields when it succeeds. The theorems about plans start from these
descriptions and open none of the phases. -/

namespace LinkPlanner

variable {env : Env} {link : Link}

/-! ### Actions -/

/-- An action and its linkstamp compiles are made from one collection of libraries. -/
theorem Link.assembled_of_yields {r : ActionRequest} {action : LinkAction} {compiles : List LinkstampCompile}
    (h : (link.assemble env r).Yields (action, compiles)) :
    ∃ c, env.collector (link.collectionRequest env.toBuild r) = .ok c ∧
      action = link.action env.toBuild r c ∧
      compiles = LinkstampCompile.all r.linkstampOutputs (link.linkstampTemplate env.toBuild r c) := by
  obtain ⟨c, hc, h⟩ := h.bind
  obtain ⟨-, -, h⟩ := h.bind
  have heq := Planning.eq_of_yields_pure h
  exact ⟨c, hc.within.during.ofCollaborator, congrArg Prod.fst heq, congrArg Prod.snd heq⟩

/-- What the final link asks of the assembly, with the linkstamp objects of the link. -/
def Link.finalAssembly (build : Build) (link : Link) (decision : Option LtoDecision) (mapping : BitcodeMapping)
    (indexing : Option IndexingOutputs) : ActionRequest :=
  link.finalRequest build decision mapping indexing
    (Linkstamp.outputs build link.output link.linkstamps.toList)

/-- A plan whose final link is made from the collection `c`. -/
structure LinkPlan.MadeFrom (env : Env) (link : Link) (r : ActionRequest) (c : Collection)
    (plan : LinkPlan) : Prop where
  collected : env.collector (link.collectionRequest env.toBuild r) = .ok c
  action_eq : plan.action = link.action env.toBuild r c
  compiles_eq : plan.linkstampCompiles =
    LinkstampCompile.all r.linkstampOutputs (link.linkstampTemplate env.toBuild r c)

theorem Link.planned_of_yields {decision : Option LtoDecision} {mapping : BitcodeMapping}
    {backends : List Backend} {indexing : Option IndexingOutputs} {plan : LinkPlan}
    (h : (link.planFinal env decision mapping backends indexing).Yields plan) :
    (∃ c, plan.MadeFrom env link (link.finalAssembly env.toBuild decision mapping indexing) c) ∧
      plan.ltoIndexing = indexing.map (·.action) ∧ plan.ltoBackends = backends ∧
      plan.bitcodeMapping = mapping := by
  obtain ⟨-, -, h⟩ := h.during.bind
  obtain ⟨outputLibrary, -, h⟩ := h.bind
  obtain ⟨⟨action, compiles⟩, hassemble, h⟩ := h.bind
  have heq := Planning.eq_of_yields_pure h
  subst heq
  obtain ⟨c, hc, haction, hcompiles⟩ := Link.assembled_of_yields hassemble.within
  exact ⟨⟨c, hc, haction, hcompiles⟩, rfl, rfl, rfl⟩

/-! ### Backends -/

/-- What the backend planning of a link has settled. -/
structure BackendPlan.Planned (env : Env) (link : Link) (p : BackendPlan) : Prop where
  link_eq : p.link = link
  decision_eq : p.decision = (link.ltoFacts env.features).decide
  roots_eq : p.roots = link.ltoRoots env.features p.decision
  backends_eq : ∃ members,
    link.memberBackends env.toBuild p.decision p.roots (link.bitcodeFiles p.decision) = .ok members ∧
    p.backends = .ofList
      (members ++ link.ownBackends env.toBuild p.decision p.roots (link.bitcodeFiles p.decision))
  mapping_eq : p.mapping = .ofBackends p.backends.toList

theorem Link.backends_planned_of_yields {p : BackendPlan} (h : (link.planBackends env).Yields p) :
    p.Planned env link := by
  obtain ⟨-, -, h⟩ := h.during.bind
  obtain ⟨members, hmembers, h⟩ := h.bind
  obtain ⟨-, -, hmembers⟩ := hmembers.within.bind
  obtain ⟨-, -, h⟩ := h.bind
  have heq := Planning.eq_of_yields_pure h
  subst heq
  exact ⟨rfl, rfl, rfl, ⟨members, hmembers.ofCause, rfl⟩, rfl⟩

/-! ### Indexing -/

/-- What the indexing step of a link is made from, with the action that its link type is indexed by. -/
theorem BackendPlan.indexing_of_yields_action {p : BackendPlan} {outputs : IndexingOutputs}
    (h : (p.assembleIndexing env).Yields outputs) :
    ∃ actionName libraries c,
      p.link.linkType.indexAction? = some actionName ∧
      p.link.indexingLibraries p.decision.includeStatic = .ok libraries ∧
      env.collector (p.link.collectionRequest env.toBuild
        (p.indexingRequest env.toBuild actionName libraries)) = .ok c ∧
      outputs.action = p.link.action env.toBuild (p.indexingRequest env.toBuild actionName libraries) c ∧
      outputs.paramFile = p.paramFile env.toBuild ∧ outputs.mergedObject = p.mergedObject env.toBuild := by
  unfold BackendPlan.assembleIndexing at h
  cases haction : p.link.linkType.indexAction? with
  | none =>
      rw [haction] at h
      cases h.ofCause
  | some actionName =>
      rw [haction] at h
      obtain ⟨libraries, hlibraries, h⟩ := h.bind
      obtain ⟨-, -, h⟩ := h.bind
      obtain ⟨-, -, h⟩ := h.bind
      obtain ⟨⟨action, compiles⟩, hassemble, h⟩ := h.bind
      have heq := Planning.eq_of_yields_pure h
      subst heq
      obtain ⟨c, hc, haction, -⟩ := Link.assembled_of_yields hassemble
      exact ⟨actionName, libraries, c, rfl, hlibraries.ofCause, hc, haction, rfl, rfl⟩

/-- What the indexing step of a link is made from. -/
theorem BackendPlan.indexing_of_yields {p : BackendPlan} {outputs : IndexingOutputs}
    (h : (p.assembleIndexing env).Yields outputs) :
    ∃ actionName libraries c,
      p.link.indexingLibraries p.decision.includeStatic = .ok libraries ∧
      env.collector (p.link.collectionRequest env.toBuild
        (p.indexingRequest env.toBuild actionName libraries)) = .ok c ∧
      outputs.action = p.link.action env.toBuild (p.indexingRequest env.toBuild actionName libraries) c ∧
      outputs.paramFile = p.paramFile env.toBuild ∧ outputs.mergedObject = p.mergedObject env.toBuild := by
  obtain ⟨actionName, libraries, c, -, h⟩ := indexing_of_yields_action h
  exact ⟨actionName, libraries, c, h⟩

theorem BackendPlan.indexAction_of_yields {p : BackendPlan} {outputs : IndexingOutputs}
    (h : (p.assembleIndexing env).Yields outputs) :
    p.link.linkType.indexAction? = some outputs.action.commandLine.action := by
  obtain ⟨actionName, libraries, c, hname, -, -, haction, -⟩ := indexing_of_yields_action h
  rw [hname, haction]
  rfl

/-- What the indexing step leaves for the final link: nothing if the link is not indexed. -/
inductive BackendPlan.Indexes (env : Env) (p : BackendPlan) : Option IndexingOutputs → Prop where
  | indexed {outputs : IndexingOutputs} (hallow : p.decision.allowIndexing = true)
      (houtputs : (p.assembleIndexing env).Yields outputs) : Indexes env p (some outputs)
  | notIndexed (hallow : p.decision.allowIndexing = false) : Indexes env p none

theorem BackendPlan.phase_of_yields {p : BackendPlan} {phase : LtoPhase}
    (h : (p.planIndexing env).Yields phase) :
    (∃ outputs, phase = .indexed p outputs ∧ p.Indexes env (some outputs)) ∨
      (phase = .sharedBackends p ∧ p.Indexes env none) := by
  unfold BackendPlan.planIndexing at h
  split at h
  · rename_i hallow
    obtain ⟨outputs, houtputs, rfl⟩ := h.during.map
    exact Or.inl ⟨outputs, rfl, .indexed hallow houtputs.within⟩
  · rename_i hallow
    exact Or.inr ⟨Planning.eq_of_yields_pure h, .notIndexed (Bool.not_eq_true _ ▸ hallow)⟩

theorem BackendPlan.indexed_of_yields {p q : BackendPlan} {outputs : IndexingOutputs}
    (h : (p.planIndexing env).Yields (.indexed q outputs)) :
    q = p ∧ p.decision.allowIndexing = true ∧ (p.assembleIndexing env).Yields outputs := by
  rcases phase_of_yields h with ⟨_, heq, hindexes⟩ | ⟨heq, -⟩
  · cases heq
    cases hindexes with
    | indexed hallow houtputs => exact ⟨rfl, hallow, houtputs⟩
  · cases heq

/-- All phases of a link with LTO. -/
theorem Link.phases_of_yields {plan : LinkPlan} (h : (link.planWithLto env).Yields plan) :
    ∃ p phase, (link.planBackends env).Yields p ∧ (p.planIndexing env).Yields phase ∧
      (phase.plan env).Yields plan := by
  obtain ⟨p, hp, h⟩ := h.bind
  obtain ⟨phase, hphase, h⟩ := h.bind
  exact ⟨p, phase, hp, hphase, h⟩

/-- All phases of a link with LTO, with what the first one has settled. -/
theorem Link.planned_phases_of_yields {plan : LinkPlan} (h : (link.planWithLto env).Yields plan) :
    ∃ (p : BackendPlan) (phase : LtoPhase), p.link = link ∧ p.Planned env p.link ∧
      (p.planIndexing env).Yields phase ∧ (phase.plan env).Yields plan := by
  obtain ⟨p, phase, hp, hphase, hplan⟩ := phases_of_yields h
  have hplanned := backends_planned_of_yields hp
  have hlink := hplanned.link_eq
  subst hlink
  exact ⟨p, phase, rfl, hplanned, hphase, hplan⟩

/-- The phases of a link whose plan has an indexing step. -/
theorem Link.indexed_phases_of_yields {plan : LinkPlan} (h : (link.planWithLto env).Yields plan)
    (hindexed : plan.ltoIndexing.isSome = true) :
    ∃ p outputs, (link.planBackends env).Yields p ∧ (p.planIndexing env).Yields (.indexed p outputs) ∧
      ((LtoPhase.indexed p outputs).plan env).Yields plan ∧ plan.ltoIndexing = some outputs.action := by
  obtain ⟨p, phase, hp, hphase, hplan⟩ := phases_of_yields h
  rcases BackendPlan.phase_of_yields hphase with ⟨outputs, rfl, -⟩ | ⟨rfl, -⟩
  · exact ⟨p, outputs, hp, hphase, hplan, (planned_of_yields hplan).2.1⟩
  · rw [(planned_of_yields hplan).2.1] at hindexed
    cases hindexed

end LinkPlanner
