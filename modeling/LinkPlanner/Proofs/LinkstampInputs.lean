import LinkPlanner.Proofs.LinkstampGroups
import LinkPlanner.Proofs.StepInputs

/-! What linkstamp compiles read. All compiles of a link read what its action reads, noted down when the inputs
have been collected; the objects of the linkstamps are among these, so every compile lists the objects of all. -/

namespace LinkPlanner

/-! ### Compiles -/

namespace LinkstampCompile

/-- The compile lists a file of this name among the inputs of the link. -/
def Lists (c : LinkstampCompile) (a : Artifact) : Prop := ∃ x ∈ c.inputs, (x == a) = true

instance (c : LinkstampCompile) (a : Artifact) : Decidable (c.Lists a) :=
  inferInstanceAs (Decidable (∃ x ∈ c.inputs, (x == a) = true))

/-- A compile that lists its own object can never be run. -/
theorem Lists.not_acyclic {plan : LinkPlan} {c : LinkstampCompile} (hc : c ∈ plan.linkstampCompiles)
    (hlists : c.Lists c.output) : ¬ plan.Acyclic := by
  obtain ⟨x, hx, hxc⟩ := hlists
  have hstep : .linkstamp c ∈ plan.steps :=
    LinkPlan.mem_steps.2 (Or.inl (LinkPlan.mem_innerSteps.2 (Or.inr (Or.inr ⟨c, hc, rfl⟩))))
  have hreads : x ∈ (PlanStep.linkstamp c).reads := List.mem_append_right _ hx
  exact fun hacyclic =>
    hacyclic _ (.single ⟨hstep, hstep, _, List.mem_singleton_self _, x, hreads, hxc⟩)

variable {outputs : LinkstampOutputs} {t : LinkstampTemplate}

theorem mem_all {c : LinkstampCompile} (hc : c ∈ all outputs t) :
    c.inputs = t.inputs ∧ c.output ∈ outputs.values := by
  obtain ⟨g, hg, rfl⟩ := List.mem_map.1 hc
  obtain ⟨e, he, rfl⟩ := List.mem_map.1 hg
  obtain ⟨⟨⟨first, hfirst, -, houtput⟩, -⟩, -⟩ := madeOf_of_mem_groups he
  have hmem : first ∈ outputs.entries := (List.mem_filter.1 (List.mem_of_mem_head? hfirst)).1
  exact ⟨rfl, List.mem_map.2 ⟨first, hmem, houtput.symm⟩⟩

end LinkstampCompile

/-! ### Compiles of a plan -/

theorem Link.baseInputs_contains_unmapped {build : Build} {link : Link} {r : ActionRequest} {c : Collection}
    {i : LinkerInput} (hi : i ∈ c.expandedInputs) {a : Artifact} (hia : (i.artifact == a) = true)
    (ha : r.mapping.contains a = false) : (link.baseInputs build r c).contains a = true := by
  have hmap : r.mapping.map i.artifact = i.artifact :=
    BitcodeMapping.map_of_not_contains ((BitcodeMapping.contains_congr hia).trans ha)
  rw [← OrderedSet.contains_congr hia, ← hmap]
  exact baseInputs_contains_of_expanded hi

namespace LinkPlan.Layout

variable {env : Env} {link : Link} {roots : LtoRoots} {indexing : Option IndexingOutputs} {c : Collection}
  {plan : LinkPlan}

/-- There are linkstamp compiles exactly if there are linkstamps. -/
theorem linkstampCompiles_eq_nil_iff (hlayout : plan.Layout env link roots indexing c) :
    plan.linkstampCompiles = [] ↔ link.linkstamps.toList = [] := by
  obtain ⟨decision, hmade⟩ := hlayout.made
  have hsources : plan.linkstampCompiles.map (·.source.execPath) = link.linkstampSources.toList := by
    rw [hmade.compiles_eq]
    exact (link.compiles_stamp env.toBuild _).1
  rw [← List.map_eq_nil_iff, hsources]
  unfold Link.linkstampSources
  rw [OrderedSet.toList_ofList_eq_nil_iff, List.map_eq_nil_iff]

/-- What a step writes is no bitcode of the link, so nothing else stands for it in the final link. -/
theorem not_mapped_of_written (hlayout : plan.Layout env link roots indexing c)
    (hapart : link.GivenApart env.toBuild plan) {s : PlanStep} (hs : s ∈ plan.innerSteps) {a : Artifact}
    (ha : s.Writes a) : (BitcodeMapping.ofBackends plan.ltoBackends).contains a = false := by
  cases hmapped : (BitcodeMapping.ofBackends plan.ltoBackends).contains a with
  | false => rfl
  | true =>
      obtain ⟨b, hb, hba, -⟩ := BitcodeMapping.exists_backend_of_contains hmapped
      exact absurd ha (hapart.not_writes ((hlayout.backs b hb).gives_bitcodeFile.congr hba) hs)

/-- Every linkstamp compile lists the objects of all linkstamp compiles. -/
theorem compile_lists (hlayout : plan.Layout env link roots indexing c) (hcollect : env.CollectsInputs)
    (hapart : link.NamesApart env.toBuild plan) {d e : LinkstampCompile} (hd : d ∈ plan.linkstampCompiles)
    (he : e ∈ plan.linkstampCompiles) : d.Lists e.output := by
  have hnot := hlayout.not_mapped_of_written hapart.givenApart
    (LinkPlan.mem_innerSteps.2 (Or.inr (Or.inr ⟨e, he, rfl⟩)))
    ⟨_, List.mem_singleton_self _, BEq.rfl⟩
  obtain ⟨decision, hmade⟩ := hlayout.made
  rw [hmade.compiles_eq] at hd he
  unfold LinkstampCompile.Lists
  rw [(LinkstampCompile.mem_all hd).1]
  obtain ⟨t, ht, hte⟩ := Link.linkstampObjects_contains (LinkstampCompile.mem_all he).2
  have hinput : .object (.ofArtifact t) ∈
      link.linkerInputs (link.finalAssembly env.toBuild decision (.ofBackends plan.ltoBackends) indexing) :=
    Link.mem_linkerInputs.2 (Or.inr (Or.inl ⟨t, ht, rfl⟩))
  obtain ⟨i, hi, hit⟩ := hcollect.keeps _ c hmade.collected _ hinput
  exact OrderedSet.contains_iff.1 (Link.baseInputs_contains_unmapped hi (BEq.trans (b := t) hit hte) hnot)

end LinkPlan.Layout
end LinkPlanner
