import LinkPlanner.Proofs.Listing

/-! What an assembled action reads. Everything that is linked is read under the name that the mapping gives
it; files that are no code are read as they are. -/

namespace LinkPlanner

theorem BitcodeMapping.get?_congr {m : BitcodeMapping} {a b : Artifact} (hab : (a == b) = true) :
    m.get? a = m.get? b :=
  OrderedMap.get?_congr hab

theorem BitcodeMapping.map_congr {m : BitcodeMapping} {a b : Artifact} (hab : (a == b) = true) :
    (m.map a == m.map b) = true := by
  unfold map
  rw [get?_congr hab]
  cases m.get? b with
  | none => exact hab
  | some o => exact BEq.rfl

namespace Link

variable {build : Build} {link : Link} {r : ActionRequest} {c : Collection}

/-! ### What the collector is given -/

theorem mem_linkerInputs {i : LinkerInput} :
    i ∈ link.linkerInputs r ↔
      (∃ o ∈ r.objects.toList, i = .object o) ∨
        (∃ s ∈ (linkstampObjects r).toList, i = .object (.ofArtifact s)) ∨
        (∃ l ∈ r.libraries.toList, i = .library l) ∨ i ∈ link.runtimeInputs := by
  unfold linkerInputs
  simp only [List.mem_append, List.mem_map, or_assoc, eq_comm (a := i)]

theorem mem_runtimeInputs {i : LinkerInput} (hi : i ∈ link.runtimeInputs) :
    ∃ a ∈ link.runtimeLibraries, i =
      .library { LibraryInput.ofArtifact a link.runtimeLibraryCategory with disableWholeArchive := true } := by
  obtain ⟨a, ha, rfl⟩ := List.mem_map.1 hi
  exact ⟨a, ha, rfl⟩

theorem linkstampObjects_contains {s : Artifact} (hs : s ∈ r.linkstampOutputs.values) :
    ∃ t ∈ (linkstampObjects r).toList, (t == s) = true :=
  OrderedSet.exists_of_mem_ofList hs

/-- An own object of the link is an object of its final link. -/
theorem mem_objects_finalAssembly {decision : Option LtoDecision} {mapping : BitcodeMapping}
    {indexing : Option IndexingOutputs} {o : ObjectInput} (ho : o ∈ link.objects.toList) :
    o ∈ (link.finalAssembly build decision mapping indexing).objects.toList := by
  obtain ⟨added, hadded, -⟩ :=
    OrderedSet.toList_insertAll link.objects (indexing.toList.map (.ofArtifact ·.mergedObject))
  change o ∈ (link.objects.insertAll _).toList
  rw [hadded]
  exact List.mem_append_left _ ho

/-- The final link has no objects but its own and the merged object of its indexing. -/
theorem of_mem_objects_finalAssembly {decision : Option LtoDecision} {mapping : BitcodeMapping}
    {indexing : Option IndexingOutputs} {o : ObjectInput}
    (ho : o ∈ (link.finalAssembly build decision mapping indexing).objects.toList) :
    o ∈ link.objects.toList ∨ ∃ outputs ∈ indexing, o.artifact = outputs.mergedObject := by
  rcases OrderedSet.mem_of_mem_insertAll ho with ho | ho
  · exact Or.inl ho
  · obtain ⟨outputs, houtputs, rfl⟩ := List.mem_map.1 ho
    exact Or.inr ⟨outputs, Option.mem_toList.1 houtputs, rfl⟩

/-- The final link has no non-code inputs but its own and the parameter file of its indexing. -/
theorem of_mem_nonCodeInputs_finalAssembly {decision : Option LtoDecision} {mapping : BitcodeMapping}
    {indexing : Option IndexingOutputs} {a : Artifact}
    (ha : a ∈ (link.finalAssembly build decision mapping indexing).nonCodeInputs.toList) :
    a ∈ link.nonCodeInputs.toList ∨ ∃ outputs ∈ indexing, a = outputs.paramFile := by
  rcases OrderedSet.mem_of_mem_insertAll ha with ha | ha
  · exact Or.inl ha
  · obtain ⟨outputs, houtputs, rfl⟩ := List.mem_map.1 ha
    exact Or.inr ⟨outputs, Option.mem_toList.1 houtputs, rfl⟩

/-! ### What is read -/

/-- What an action reads and does not link. -/
def plainInputs (build : Build) (link : Link) (r : ActionRequest) : List Artifact :=
  r.nonCodeInputs.toList ++ link.linkerFiles ++ link.actionInputs.toList ++ (link.forcedTool? build).toList

theorem inputs_action : (link.action build r c).inputs = link.allInputs build r c := rfl

theorem librariesToLink_action :
    (link.action build r c).commandLine.linkVariables.librariesToLink = c.librariesToLink := rfl

theorem mem_baseInputs {x : Artifact} (hx : x ∈ (link.baseInputs build r c).toList) :
    (∃ i ∈ c.expandedInputs, x = r.mapping.map i.artifact) ∨ x ∈ link.plainInputs build r := by
  have hx := OrderedSet.mem_of_mem_ofList hx
  rw [List.append_assoc, List.append_assoc, List.append_assoc, List.mem_append] at hx
  rcases hx with hx | hx
  · obtain ⟨i, hi, rfl⟩ := List.mem_map.1 hx
    exact Or.inl ⟨i, hi, rfl⟩
  · right
    unfold plainInputs
    rwa [List.append_assoc, List.append_assoc]

theorem mem_allInputs {x : Artifact} (hx : x ∈ (link.allInputs build r c).toList) :
    (∃ i ∈ c.expandedInputs, x = r.mapping.map i.artifact) ∨ x ∈ link.plainInputs build r ∨
      ∃ s ∈ r.linkstampOutputs.values, x = s ∨ x = r.mapping.map s := by
  rcases OrderedSet.mem_of_mem_insertAll hx with hx | hx
  · exact (mem_baseInputs hx).imp_right Or.inl
  · refine Or.inr (Or.inr ?_)
    rcases List.mem_append.1 hx with hx | hx
    · exact ⟨x, hx, Or.inl rfl⟩
    · obtain ⟨s, hs, rfl⟩ := List.mem_map.1 hx
      exact ⟨s, hs, Or.inr rfl⟩

theorem baseInputs_contains_of_expanded {i : LinkerInput} (hi : i ∈ c.expandedInputs) :
    (link.baseInputs build r c).contains (r.mapping.map i.artifact) = true := by
  apply OrderedSet.contains_ofList_of_mem
  simp only [List.append_assoc]
  exact List.mem_append_left _ (List.mem_map_of_mem hi)

theorem baseInputs_contains_of_nonCodeInputs {a : Artifact} (ha : r.nonCodeInputs.contains a = true) :
    (link.baseInputs build r c).contains a = true := by
  obtain ⟨x, hx, hxa⟩ := OrderedSet.contains_iff.1 ha
  rw [← OrderedSet.contains_congr hxa]
  apply OrderedSet.contains_ofList_of_mem
  simp only [List.append_assoc]
  exact List.mem_append_right _ (List.mem_append_left _ hx)

theorem allInputs_contains_of_baseInputs {a : Artifact} (ha : (link.baseInputs build r c).contains a = true) :
    (link.allInputs build r c).contains a = true := by
  unfold allInputs
  rw [OrderedSet.contains_insertAll, ha, Bool.true_or]

theorem allInputs_contains_of_expanded {i : LinkerInput} (hi : i ∈ c.expandedInputs) :
    (link.allInputs build r c).contains (r.mapping.map i.artifact) = true :=
  allInputs_contains_of_baseInputs (baseInputs_contains_of_expanded hi)

end Link

/-! ### The final link -/

namespace BackendPlan

/-- What the assembly of the final link is asked for. -/
def finalRequest (env : Env) (p : BackendPlan) (indexing : Option IndexingOutputs) : ActionRequest :=
  p.link.finalAssembly env.toBuild (some p.decision) p.mapping indexing

/-- What the collector is asked for the final link. -/
def finalCollection (env : Env) (p : BackendPlan) (indexing : Option IndexingOutputs) : CollectionRequest :=
  p.link.collectionRequest env.toBuild (p.finalRequest env indexing)

/-- A final link over backends, whether it is indexed or not. -/
theorem final_of_yields {env : Env} {p : BackendPlan} {phase : LtoPhase} {plan : LinkPlan}
    (hphase : (p.planIndexing env).Yields phase) (hplan : (phase.plan env).Yields plan) :
    ∃ indexing c, p.Indexes env indexing ∧ plan.MadeFrom env p.link (p.finalRequest env indexing) c ∧
      plan.ltoIndexing = indexing.map (·.action) ∧ plan.ltoBackends = p.backends.toList ∧
      plan.bitcodeMapping = p.mapping := by
  rcases phase_of_yields hphase with ⟨outputs, rfl, hindexes⟩ | ⟨rfl, hindexes⟩
  · obtain ⟨⟨c, hc⟩, hrest⟩ := Link.planned_of_yields hplan
    exact ⟨some outputs, c, hindexes, hc, hrest⟩
  · obtain ⟨⟨c, hc⟩, hrest⟩ := Link.planned_of_yields hplan
    exact ⟨none, c, hindexes, hc, hrest⟩

end BackendPlan
end LinkPlanner
