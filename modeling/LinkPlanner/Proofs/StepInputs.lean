import LinkPlanner.Proofs.IndexedLibraries
import LinkPlanner.Proofs.PlanGraph

/-! What the steps of a plan read. Backends read what the caller gives and, if they are unique, what the
indexing step writes for them. The indexing step reads what the caller gives and the objects of shared
backends. Whatever else the final link reads is written by the steps before it. -/

namespace LinkPlanner

/-! ### What is given -/

namespace Link

variable {build : Build} {link : Link} {a : Artifact}

theorem mem_codeFiles :
    a ∈ link.codeFiles ↔
      (∃ o ∈ link.objects.toList, a = o.artifact ∨ a = link.lto.minimizedOrSelf o.artifact) ∨
        (∃ l ∈ link.libraries.toList, a = l.artifact ∨
          ∃ m ∈ l.objects.toList, a = m ∨ a = l.lto.minimizedOrSelf m) ∨ a ∈ link.runtimeLibraries := by
  unfold codeFiles
  simp only [List.mem_append, List.mem_flatMap, List.mem_cons, List.not_mem_nil, or_false, or_assoc]

theorem gives_of_mem (ha : a ∈ link.given build) : link.Gives build a := ⟨a, ha, BEq.rfl⟩

theorem gives_of_mem_codeFiles (ha : a ∈ link.codeFiles) : link.Gives build a :=
  gives_of_mem (List.mem_append_left _ (List.mem_append_left _ (List.mem_append_left _ (List.mem_append_left _ ha))))

theorem gives_object {o : ObjectInput} (ho : o ∈ link.objects.toList) : link.Gives build o.artifact :=
  gives_of_mem_codeFiles (mem_codeFiles.2 (Or.inl ⟨o, ho, Or.inl rfl⟩))

theorem gives_member {l : LibraryInput} (hl : l ∈ link.libraries.toList) (ha : a ∈ l.objects.toList) :
    link.Gives build a :=
  gives_of_mem_codeFiles (mem_codeFiles.2 (Or.inr (Or.inl ⟨l, hl, Or.inr ⟨a, ha, Or.inl rfl⟩⟩)))

theorem gives_of_libraryBackend {b : Backend} (hb : b ∈ link.libraryBackends) (ha : a ∈ b.bitcodeFile :: b.reads) :
    link.Gives build a :=
  gives_of_mem (List.mem_append_left _ (List.mem_append_left _ (List.mem_append_left _
    (List.mem_append_right _ (List.mem_flatMap.2 ⟨b, hb, ha⟩)))))

theorem gives_nonCodeInput (ha : a ∈ link.nonCodeInputs.toList) : link.Gives build a := by
  refine gives_of_mem (List.mem_append_right _ ?_)
  simp only [List.append_assoc]
  exact List.mem_append_left _ ha

/-- What an action reads and does not link is given, but for non-code inputs of its own. -/
theorem gives_of_mem_plainInputs {r : ActionRequest} (ha : a ∈ link.plainInputs build r) :
    a ∈ r.nonCodeInputs.toList ∨ link.Gives build a := by
  unfold plainInputs at ha
  simp only [List.append_assoc] at ha
  refine (List.mem_append.1 ha).imp_right fun ha => gives_of_mem (List.mem_append_right _ ?_)
  simp only [List.append_assoc]
  exact List.mem_append_right _ ha

theorem mem_libraryBackends {l : LibraryInput} {m : Artifact} {b : Backend} (hl : l ∈ link.libraries.toList)
    (hb : l.sharedBackend? m = some b) : b ∈ link.libraryBackends := by
  obtain ⟨backends, hbackends, hget⟩ := Option.bind_eq_some_iff.1 hb
  obtain ⟨e, he, -, rfl⟩ := OrderedMap.mem_of_get?_eq_some hget
  refine List.mem_flatMap.2 ⟨l, hl, List.mem_flatMap.2 ⟨backends, Option.mem_toList.2 hbackends, ?_⟩⟩
  exact List.mem_map_of_mem he

theorem shares_of_libraryBackend {b : Backend} (hb : b ∈ link.libraryBackends) : link.Shares b.objectFile :=
  ⟨_, List.mem_map_of_mem hb, BEq.rfl⟩

end Link

/-! ### Backends -/

/-- The backends of a plan: those that libraries bring along, and those that are made for given bitcode. Only
in an indexed link are some made that may import, and they may import given bitcode. -/
inductive Link.Backs (build : Build) (link : Link) (roots : LtoRoots) (indexed : Bool) : Backend → Prop where
  | library {b : Backend} (hb : b ∈ link.libraryBackends) : Backs build link roots indexed b
  | created {allowed : Option BitcodeFiles} {usePic : Bool} {bitcode : Artifact} {copts : List String}
      (hbitcode : link.Gives build bitcode)
      (hallowed : ∀ files ∈ allowed, indexed = true ∧ ∀ a ∈ files.toList, link.Gives build a) :
      Backs build link roots indexed (.create build roots allowed usePic bitcode copts)

namespace Link.Backs

variable {build : Build} {link : Link} {roots : LtoRoots} {indexed : Bool} {b : Backend}

theorem gives_bitcodeFile (hb : link.Backs build roots indexed b) : link.Gives build b.bitcodeFile := by
  cases hb with
  | library hb => exact gives_of_libraryBackend hb List.mem_cons_self
  | created hbitcode hallowed => exact hbitcode

/-- What a backend reads is given, but for the index files of a backend that imports. -/
theorem reads (hb : link.Backs build roots indexed b) {a : Artifact} (ha : a ∈ b.reads) :
    link.Gives build a ∨ indexed = true ∧ a ∈ b.sharing.indexingOutputs := by
  cases hb with
  | library hb => exact Or.inl (gives_of_libraryBackend hb (List.mem_cons_of_mem _ ha))
  | @created allowed usePic bitcode copts hbitcode hallowed =>
      rcases List.mem_append.1 ha with ha | ha
      · rcases List.mem_cons.1 (OrderedSet.mem_of_mem_ofList ha) with rfl | ha
        · exact Or.inl hbitcode
        · cases allowed with
          | none => cases ha
          | some files => exact Or.inr ⟨(hallowed files rfl).1, ha⟩
      · cases allowed with
        | none => cases ha
        | some files => exact Or.inl ((hallowed files rfl).2 a ha)

end Link.Backs

namespace BackendPlan

variable {env : Env} {link : Link} {p : BackendPlan}

theorem gives_of_mem_files {a : Artifact} (ha : a ∈ p.files.toList) : p.link.Gives env.toBuild a := by
  unfold files Link.bitcodeFiles BitcodeFiles.collect at ha
  rcases List.mem_append.1 (OrderedSet.mem_of_mem_ofList ha) with ha | ha
  · split at ha
    · obtain ⟨l, hl, ha⟩ := List.mem_flatMap.1 ha
      exact Link.gives_member hl (List.mem_filter.1 ha).1
    · cases ha
  · obtain ⟨o, ho, rfl⟩ := List.mem_map.1 ha
    exact Link.gives_object (List.mem_filter.1 ho).1

/-- A link in which library members may take part in the indexing is indexed as soon as there are any. -/
theorem Planned.allowIndexing_of_member (hp : p.Planned env p.link) {l : LibraryInput} {m : Artifact}
    (hmem : (l, m) ∈ p.link.bitcodeMembers) (hinclude : p.decision.includeStatic = true) :
    p.decision.allowIndexing = true := by
  obtain ⟨-, -, k, hk, hbitcode⟩ := Link.mem_bitcodeMembers.1 hmem
  have hsome : p.link.hasBitcode = true := by
    have hk' : (!k.lto.isEmpty) = true := by
      obtain ⟨e, he, -⟩ := OrderedMap.contains_iff.1 hbitcode
      unfold LtoContext.isEmpty OrderedMap.isEmpty
      rw [List.isEmpty_eq_false_iff.2 (List.ne_nil_of_mem he)]
      rfl
    unfold Link.hasBitcode LinkPlanner.hasBitcode
    rw [Bool.or_eq_true]
    exact Or.inr (List.any_eq_true.2 ⟨k, hk, hk'⟩)
  rw [hp.decision_eq] at hinclude ⊢
  change (p.link.hasBitcode && ((LtoFacts.decide _).includeStatic || _)) = true
  rw [hsome, hinclude]
  rfl

theorem Planned.backs (hp : p.Planned env p.link) {b : Backend} (hb : b ∈ p.backends.toList) :
    p.link.Backs env.toBuild p.roots p.decision.allowIndexing b := by
  cases hp.origin hb with
  | newMember hmem hinclude =>
      obtain ⟨hl, hm, -⟩ := Link.mem_bitcodeMembers.1 hmem
      refine .created (Link.gives_member hl hm) fun files hfiles => ?_
      cases hfiles
      exact ⟨hp.allowIndexing_of_member hmem hinclude, fun a ha => gives_of_mem_files ha⟩
  | sharedMember hmem hinclude hshared =>
      obtain ⟨backends, hbackends, hget⟩ := LibraryInput.requireSharedBackend_eq_ok hshared
      exact .library (Link.mem_libraryBackends (Link.mem_bitcodeMembers.1 hmem).1
        (Option.bind_eq_some_iff.2 ⟨backends, hbackends, hget⟩))
  | own hobject hbitcode =>
      refine .created (Link.gives_object hobject) fun files hfiles => ?_
      split at hfiles
      · rename_i hallow
        cases hfiles
        exact ⟨hallow, fun a ha => gives_of_mem_files ha⟩
      · cases hfiles

end BackendPlan

/-! ### The indexing step -/

/-- The indexing step reads what it is given and what shared backends make, and writes all that the backends and
the final link expect from it. -/
structure IndexingOutputs.Serves (build : Build) (link : Link) (backends : List Backend)
    (outputs : IndexingOutputs) : Prop where
  reads : ∀ a ∈ outputs.action.inputs.toList, link.Gives build a ∨ link.Shares a
  paramFile : (PlanStep.indexing outputs.action).Writes outputs.paramFile
  mergedObject : (PlanStep.indexing outputs.action).Writes outputs.mergedObject
  indexFiles : ∀ b ∈ backends, ∀ a ∈ b.sharing.indexingOutputs, (PlanStep.indexing outputs.action).Writes a

namespace BackendPlan

variable {env : Env} {p : BackendPlan} {outputs : IndexingOutputs}

/-- Whatever stands for an input of the indexer is given or made by a shared backend. -/
theorem gives_or_shares_of_mem_files {actionName : ActionName} {libraries : OrderedSet LibraryInput}
    (hlibraries : p.link.indexingLibraries p.decision.includeStatic = .ok libraries) {i : LinkerInput}
    (hi : i ∈ p.link.linkerInputs (p.indexingRequest env.toBuild actionName libraries)) {a : Artifact}
    (ha : a ∈ i.files) : p.link.Gives env.toBuild a ∨ p.link.Shares a := by
  rcases Link.mem_linkerInputs.1 hi with ⟨o, ho, rfl⟩ | ⟨s, hs, -⟩ | ⟨k, hk, rfl⟩ | hi
  · obtain ⟨q, hq, rfl⟩ := List.mem_map.1 (OrderedSet.mem_of_mem_ofList ho)
    left
    rw [List.mem_singleton.1 ha]
    exact Link.gives_of_mem_codeFiles (Link.mem_codeFiles.2 (Or.inl ⟨q, hq, Or.inr rfl⟩))
  · -- the indexing step has no linkstamps
    cases hs
  · obtain ⟨l, hl, hlk⟩ := (Link.indexingLibraries_library hlibraries).1 k hk
    rcases List.mem_cons.1 ha with rfl | ha
    · left
      rw [(Link.indexingLibrary_keeps hlk).1]
      exact Link.gives_of_mem_codeFiles (Link.mem_codeFiles.2 (Or.inr (Or.inl ⟨l, hl, Or.inl rfl⟩)))
    · obtain ⟨m, hm, hma⟩ := Link.exists_member_of_indexingLibrary ha hlk
      rcases Link.indexingMember_eq_ok hma with rfl | ⟨b, hb, rfl⟩
      · exact Or.inl (Link.gives_of_mem_codeFiles
          (Link.mem_codeFiles.2 (Or.inr (Or.inl ⟨l, hl, Or.inr ⟨m, hm, Or.inr rfl⟩⟩))))
      · exact Or.inr (Link.shares_of_libraryBackend (Link.mem_libraryBackends hl hb))
  · obtain ⟨x, hx, rfl⟩ := Link.mem_runtimeInputs hi
    rcases List.mem_cons.1 ha with rfl | ha
    · exact Or.inl (Link.gives_of_mem_codeFiles (Link.mem_codeFiles.2 (Or.inr (Or.inr hx))))
    · cases ha

theorem serves_of_yields (hcollect : env.CollectsInputs) (h : (p.assembleIndexing env).Yields outputs) :
    outputs.Serves env.toBuild p.link p.backends.toList := by
  obtain ⟨actionName, libraries, c, hlibraries, hc, haction, hparam, hmerged⟩ := indexing_of_yields h
  have hwrites : ∀ {a}, a ∈ p.backends.toList.flatMap (·.sharing.indexingOutputs) ++
      [p.paramFile env.toBuild, p.mergedObject env.toBuild] → (PlanStep.indexing outputs.action).Writes a := by
    intro a ha
    rw [haction]
    exact OrderedSet.exists_of_mem_ofList ha
  refine ⟨fun a ha => ?_, ?_, ?_, fun b hb a ha => ?_⟩
  · rw [haction, Link.inputs_action] at ha
    rcases Link.mem_allInputs ha with ⟨i, hi, rfl⟩ | hplain | ⟨s, hs, -⟩
    · obtain ⟨j, hj, hij⟩ := hcollect.adds _ c hc i hi
      have hmap : (p.indexingRequest env.toBuild actionName libraries).mapping.map i.artifact = i.artifact :=
        BitcodeMapping.map_of_not_contains rfl
      rw [hmap]
      exact gives_or_shares_of_mem_files hlibraries hj hij
    · exact Or.inl ((Link.gives_of_mem_plainInputs hplain).elim Link.gives_nonCodeInput id)
    · cases hs
  · rw [hparam]
    exact hwrites (List.mem_append_right _ List.mem_cons_self)
  · rw [hmerged]
    exact hwrites (List.mem_append_right _ (List.mem_cons_of_mem _ List.mem_cons_self))
  · exact hwrites (List.mem_append_left _ (List.mem_flatMap.2 ⟨b, hb, ha⟩))

end BackendPlan

/-! ### Whole plans -/

/-- How the steps of a plan are made, with the roots of its backends, what its indexing step leaves and what is
collected for its final link. -/
structure LinkPlan.Layout (env : Env) (link : Link) (roots : LtoRoots) (indexing : Option IndexingOutputs)
    (c : Collection) (plan : LinkPlan) : Prop where
  roots_eq : ∃ root, roots = .under root env.features
  indexing_eq : plan.ltoIndexing = indexing.map (·.action)
  backs : ∀ b ∈ plan.ltoBackends, link.Backs env.toBuild roots indexing.isSome b
  serves : ∀ outputs ∈ indexing, outputs.Serves env.toBuild link plan.ltoBackends
  made : ∃ decision, plan.MadeFrom env link
    (link.finalAssembly env.toBuild decision (.ofBackends plan.ltoBackends) indexing) c

theorem BackendPlan.Planned.under_roots {env : Env} {link : Link} {p : BackendPlan} (hp : p.Planned env link) :
    ∃ root, p.roots = .under root env.features := by
  rw [hp.roots_eq]
  exact link.exists_ltoRoots_eq env.features p.decision

theorem BackendPlan.layout_of_yields {env : Env} {p : BackendPlan} {phase : LtoPhase} {plan : LinkPlan}
    (hp : p.Planned env p.link) (hcollect : env.CollectsInputs) (hphase : (p.planIndexing env).Yields phase)
    (hfinal : (phase.plan env).Yields plan) :
    ∃ indexing c, p.Indexes env indexing ∧ plan.ltoBackends = p.backends.toList ∧ plan.bitcodeMapping = p.mapping ∧
      plan.Layout env p.link p.roots indexing c := by
  obtain ⟨indexing, c, hindexes, hmade, hindexing, hbackends, hmapping⟩ := BackendPlan.final_of_yields hphase hfinal
  have hallow : p.decision.allowIndexing = indexing.isSome := by
    cases hindexes with
    | indexed hallow houtputs => exact hallow
    | notIndexed hallow => exact hallow
  refine ⟨indexing, c, hindexes, hbackends, hmapping, hp.under_roots, hindexing, ?_, ?_, some p.decision, ?_⟩
  · intro b hb
    rw [hbackends] at hb
    exact hallow ▸ hp.backs hb
  · intro outputs houtputs
    cases hindexes with
    | indexed hallow houtputs' =>
        cases houtputs
        rw [hbackends]
        exact BackendPlan.serves_of_yields hcollect houtputs'
    | notIndexed hallow => cases houtputs
  · rw [hbackends, ← hp.mapping_eq]
    exact hmade

theorem Link.layout_of_yields {env : Env} {link : Link} {plan : LinkPlan} (hcollect : env.CollectsInputs)
    (hplan : link.Yields env plan) : ∃ roots indexing c, plan.Layout env link roots indexing c := by
  rcases hplan with hplan | hplan
  · obtain ⟨-, -, hfinal⟩ := hplan.during.bind
    obtain ⟨⟨c, hmade⟩, hindexing, hbackends, -⟩ := Link.planned_of_yields hfinal
    refine ⟨.under .empty env.features, none, c, ⟨_, rfl⟩, hindexing, ?_, (fun outputs h => nomatch h), none, ?_⟩
    · intro b hb
      rw [hbackends] at hb
      cases hb
    · rw [hbackends]
      exact hmade
  · obtain ⟨p, phase, rfl, hplanned, hphase, hfinal⟩ := Link.planned_phases_of_yields hplan
    obtain ⟨indexing, c, -, -, -, hlayout⟩ := BackendPlan.layout_of_yields hplanned hcollect hphase hfinal
    exact ⟨p.roots, indexing, c, hlayout⟩

/-- Every backend of a plan comes from the planning of backends, which is left out without LTO. -/
theorem Link.planned_of_mem_ltoBackends {env : Env} {link : Link} {plan : LinkPlan} (hplan : link.Yields env plan)
    {b : Backend} (hb : b ∈ plan.ltoBackends) : ∃ p : BackendPlan, p.Planned env link ∧ b ∈ p.backends.toList := by
  rcases hplan with hplan | hplan
  · obtain ⟨-, -, hfinal⟩ := hplan.during.bind
    rw [(Link.planned_of_yields hfinal).2.2.1] at hb
    cases hb
  · obtain ⟨p, phase, rfl, hplanned, hphase, hfinal⟩ := Link.planned_phases_of_yields hplan
    obtain ⟨-, -, -, -, -, hbackends, -⟩ := BackendPlan.final_of_yields hphase hfinal
    exact ⟨p, hplanned, hbackends ▸ hb⟩

/-- Every indexing step of a plan is assembled for the backends that are planned for its link. -/
theorem Link.assembled_of_mem_ltoIndexing {env : Env} {link : Link} {plan : LinkPlan} (hplan : link.Yields env plan)
    {action : LinkAction} (haction : action ∈ plan.ltoIndexing) :
    ∃ (p : BackendPlan) (outputs : IndexingOutputs), p.link = link ∧ p.Planned env p.link ∧
      p.decision.allowIndexing = true ∧ (p.assembleIndexing env).Yields outputs ∧ outputs.action = action := by
  rcases hplan with hplan | hplan
  · obtain ⟨-, -, hfinal⟩ := hplan.during.bind
    rw [(Link.planned_of_yields hfinal).2.1] at haction
    cases haction
  · obtain ⟨p, phase, rfl, hplanned, hphase, hfinal⟩ := Link.planned_phases_of_yields hplan
    obtain ⟨indexing, c, hindexes, -, hindexing, -⟩ := BackendPlan.final_of_yields hphase hfinal
    rw [hindexing] at haction
    cases hindexes with
    | indexed hallow houtputs => exact ⟨p, _, rfl, hplanned, hallow, houtputs, Option.some.inj haction⟩
    | notIndexed hallow => cases haction

/-! ### The final link -/

namespace LinkPlan.Layout

variable {env : Env} {link : Link} {roots : LtoRoots} {indexing : Option IndexingOutputs} {c : Collection}
  {plan : LinkPlan}

theorem indexing_mem_innerSteps (hlayout : plan.Layout env link roots indexing c) {outputs : IndexingOutputs}
    (houtputs : outputs ∈ indexing) : .indexing outputs.action ∈ plan.innerSteps := by
  refine mem_innerSteps.2 (Or.inl ⟨outputs.action, ?_, rfl⟩)
  rw [hlayout.indexing_eq, houtputs]
  rfl

/-- The object of a backend of the plan is made by that backend or by one that a library brings along. -/
theorem shares_or_writes_object (hlayout : plan.Layout env link roots indexing c) {b : Backend}
    (hb : b ∈ plan.ltoBackends) : link.Shares b.objectFile ∨ (PlanStep.backend b).Writes b.objectFile := by
  cases hlayout.backs b hb with
  | library hlibrary => exact Or.inl (Link.shares_of_libraryBackend hlibrary)
  | created hbitcode hallowed =>
      exact Or.inr (OrderedSet.exists_of_mem_ofList List.mem_cons_self)

/-- Without linkstamps, whatever stands for an input of the final link is given or made by the indexing step. -/
theorem gives_or_written_of_mem_files (hlayout : plan.Layout env link roots indexing c)
    (hnone : link.linkstamps.toList = []) {decision : Option LtoDecision} {mapping : BitcodeMapping}
    {i : LinkerInput} (hi : i ∈ link.linkerInputs (link.finalAssembly env.toBuild decision mapping indexing))
    {a : Artifact} (ha : a ∈ i.files) : link.Gives env.toBuild a ∨ ∃ s ∈ plan.innerSteps, s.Writes a := by
  rcases Link.mem_linkerInputs.1 hi with ⟨o, ho, rfl⟩ | ⟨s, hs, -⟩ | ⟨l, hl, rfl⟩ | hi
  · rw [List.mem_singleton.1 ha]
    rcases Link.of_mem_objects_finalAssembly ho with ho | ⟨outputs, houtputs, heq⟩
    · exact Or.inl (Link.gives_object ho)
    · rw [heq]
      exact Or.inr ⟨_, hlayout.indexing_mem_innerSteps houtputs, (hlayout.serves outputs houtputs).mergedObject⟩
  · change s ∈ (OrderedSet.ofList (Linkstamp.outputs _ _ link.linkstamps.toList).values).toList at hs
    rw [hnone] at hs
    cases hs
  · rcases List.mem_cons.1 ha with rfl | ha
    · exact Or.inl (Link.gives_of_mem_codeFiles (Link.mem_codeFiles.2 (Or.inr (Or.inl ⟨l, hl, Or.inl rfl⟩))))
    · exact Or.inl (Link.gives_member hl ha)
  · obtain ⟨x, hx, rfl⟩ := Link.mem_runtimeInputs hi
    rcases List.mem_cons.1 ha with rfl | ha
    · exact Or.inl (Link.gives_of_mem_codeFiles (Link.mem_codeFiles.2 (Or.inr (Or.inr hx))))
    · cases ha

/-- Without linkstamps, everything that the final link reads is given, made by a shared backend, or written by a
step before it. -/
theorem final_reads (hlayout : plan.Layout env link roots indexing c) (hcollect : env.CollectsInputs)
    (hnone : link.linkstamps.toList = []) {a : Artifact} (ha : a ∈ plan.action.inputs.toList) :
    link.Gives env.toBuild a ∨ link.Shares a ∨ ∃ s ∈ plan.innerSteps, s.Writes a := by
  obtain ⟨decision, hmade⟩ := hlayout.made
  rw [hmade.action_eq, Link.inputs_action] at ha
  rcases Link.mem_allInputs ha with ⟨i, hi, rfl⟩ | hplain | ⟨s, hs, -⟩
  · obtain ⟨j, hj, hij⟩ := hcollect.adds _ c hmade.collected i hi
    have hmapping : (link.finalAssembly env.toBuild decision (.ofBackends plan.ltoBackends) indexing).mapping =
      .ofBackends plan.ltoBackends := rfl
    rw [hmapping]
    cases hmapped : (BitcodeMapping.ofBackends plan.ltoBackends).contains i.artifact with
    | true =>
        obtain ⟨b, hb, -, heq⟩ := BitcodeMapping.exists_backend_of_contains hmapped
        rw [heq]
        refine Or.inr ((hlayout.shares_or_writes_object hb).imp_right fun hwrites => ?_)
        exact ⟨_, mem_innerSteps.2 (Or.inr (Or.inl ⟨b, hb, rfl⟩)), hwrites⟩
    | false =>
        rw [BitcodeMapping.map_of_not_contains hmapped]
        exact (hlayout.gives_or_written_of_mem_files hnone hj hij).imp_right Or.inr
  · rcases Link.gives_of_mem_plainInputs hplain with hnonCode | hgives
    · rcases Link.of_mem_nonCodeInputs_finalAssembly hnonCode with hgiven | ⟨outputs, houtputs, rfl⟩
      · exact Or.inl (Link.gives_nonCodeInput hgiven)
      · exact Or.inr (Or.inr ⟨_, hlayout.indexing_mem_innerSteps houtputs, (hlayout.serves outputs houtputs).paramFile⟩)
    · exact Or.inl hgives
  · change s ∈ (Linkstamp.outputs _ _ link.linkstamps.toList).values at hs
    rw [hnone] at hs
    cases hs

end LinkPlan.Layout
end LinkPlanner
