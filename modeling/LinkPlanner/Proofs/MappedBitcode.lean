import LinkPlanner.Proofs.ActionInputs

/-! No mapped bitcode reaches the final link of an LTO build. Everything that is linked goes through the mapping, so a
bitcode file that it has is read only under a name that stands for something else too. It has all bitcode of the link
but for members that are compiled by no backend: those for which a library has filed the backend of another file. -/

namespace LinkPlanner

/-- The files that the final link reads as they are: objects of backends and of linkstamps, the parameter
file of the indexing, files of the toolchain, and inputs that are no code. -/
def LinkPlan.readAsIs (env : Env) (link : Link) (plan : LinkPlan) : List Artifact :=
  plan.ltoBackends.map (·.objectFile) ++
    ((Linkstamp.outputs env.toBuild link.output link.linkstamps.toList).values ++
    (plan.action.commandLine.linkVariables.thinltoParamFile.toList ++
    (link.linkerFiles ++ (link.forcedTool? env.toBuild).toList ++
    (link.nonCodeInputs.toList ++ link.actionInputs.toList))))

/-- A member of a static library. -/
def Link.StaticMember (link : Link) (a : Artifact) : Prop :=
  ∃ l ∈ link.libraries.toList, l.category.isStatic = true ∧ ∃ m ∈ l.objects.toList, (m == a) = true

/-- What maps to a mapped file is the object of a backend. -/
theorem BitcodeMapping.exists_backend_of_map_eq {backends : List Backend} {x a : Artifact}
    (ha : (ofBackends backends).contains a = true) (hx : ((ofBackends backends).map x == a) = true) :
    ∃ b ∈ backends, (b.objectFile == a) = true := by
  cases hcontains : (ofBackends backends).contains x with
  | true =>
      obtain ⟨b, hb, -, hmap⟩ := exists_backend_of_contains hcontains
      exact ⟨b, hb, hmap ▸ hx⟩
  | false =>
      rw [map_of_not_contains hcontains] at hx
      rw [contains_congr hx, ha] at hcontains
      cases hcontains

namespace BackendPlan

variable {env : Env} {p : BackendPlan}

theorem Planned.mapping_contains_iff (hp : p.Planned env p.link) {a : Artifact} :
    p.mapping.contains a = true ↔ ∃ b ∈ p.backends.toList, (b.bitcodeFile == a) = true := by
  rw [hp.mapping_eq, BitcodeMapping.contains_ofBackends, List.any_eq_true]

theorem Planned.mapping_contains (hp : p.Planned env p.link) (hkeyed : p.link.SharedBackendsKeyed)
    {a : Artifact} (ha : p.link.Bitcode a) : p.mapping.contains a = true :=
  hp.mapping_contains_iff.2 (hp.exists_backend (fun _ => hkeyed) ha)

variable {indexing : Option IndexingOutputs} {plan : LinkPlan}

section Final

variable (hp : p.Planned env p.link) (hbackends : plan.ltoBackends = p.backends.toList) {c : Collection}
  (hplan : plan.MadeFrom env p.link (p.finalRequest env indexing) c) {a x : Artifact}
  (ha : p.mapping.contains a = true)
include hp hbackends ha

theorem Planned.exists_readAsIs_of_map_eq (hx : (p.mapping.map x == a) = true) :
    ∃ y ∈ plan.readAsIs env p.link, (y == a) = true := by
  rw [hp.mapping_eq] at ha hx
  obtain ⟨b, hb, hba⟩ := BitcodeMapping.exists_backend_of_map_eq ha hx
  rw [← hbackends] at hb
  exact ⟨b.objectFile, List.mem_append_left _ (List.mem_map_of_mem hb), hba⟩

include hplan

/-- A bitcode file that the final link reads has the name of a file that is read as it is. -/
theorem Planned.exists_readAsIs_of_mem_inputs (hx : x ∈ plan.action.inputs.toList) (hxa : (x == a) = true) :
    ∃ y ∈ plan.readAsIs env p.link, (y == a) = true := by
  have hparam : plan.action.commandLine.linkVariables.thinltoParamFile = indexing.map (·.paramFile) := by
    rw [hplan.action_eq]
    rfl
  rw [hplan.action_eq, Link.inputs_action] at hx
  rcases Link.mem_allInputs hx with ⟨i, -, rfl⟩ | hx | ⟨s, hs, rfl | rfl⟩
  · exact hp.exists_readAsIs_of_map_eq hbackends ha hxa
  · refine ⟨x, ?_, hxa⟩
    unfold LinkPlan.readAsIs
    unfold Link.plainInputs at hx
    simp only [List.mem_append, or_assoc] at hx ⊢
    rcases hx with hx | hx | hx | hx
    · rcases Link.of_mem_nonCodeInputs_finalAssembly hx with hx | ⟨outputs, houtputs, rfl⟩
      · exact Or.inr (Or.inr (Or.inr (Or.inr (Or.inr (Or.inl hx)))))
      · rw [hparam, Option.mem_def.1 houtputs]
        exact Or.inr (Or.inr (Or.inl (List.mem_singleton_self _)))
    · exact Or.inr (Or.inr (Or.inr (Or.inl hx)))
    · exact Or.inr (Or.inr (Or.inr (Or.inr (Or.inr (Or.inr hx)))))
    · exact Or.inr (Or.inr (Or.inr (Or.inr (Or.inl hx))))
  · exact ⟨x, List.mem_append_right _ (List.mem_append_left _ hs), hxa⟩
  · exact hp.exists_readAsIs_of_map_eq hbackends ha hxa

theorem Planned.inputs_not_contains (hnone : ∀ y ∈ plan.readAsIs env p.link, (y == a) = false) :
    plan.action.inputs.contains a = false := by
  cases hcontains : plan.action.inputs.contains a with
  | false => rfl
  | true =>
      obtain ⟨x, hx, hxa⟩ := OrderedSet.contains_iff.1 hcontains
      obtain ⟨y, hy, hya⟩ := hp.exists_readAsIs_of_mem_inputs hbackends hplan ha hx hxa
      rw [hnone y hy] at hya
      cases hya

theorem Planned.not_listed (hcollect : env.CollectsAsUsual)
    (hnone : ∀ y ∈ plan.readAsIs env p.link, (y == a) = false) {t : LibraryToLink}
    (ht : t ∈ plan.action.commandLine.linkVariables.librariesToLink) {q : Artifact} (hq : q ∈ t.objectPaths) :
    (q == a) = false := by
  cases hqa : q == a with
  | false => rfl
  | true =>
      rw [hplan.action_eq, Link.librariesToLink_action, hcollect _ _ hplan.collected] at ht
      obtain ⟨i, -, rfl⟩ := CollectionRequest.mapped_of_mem_objectPaths ht hq
      obtain ⟨y, hy, hya⟩ := hp.exists_readAsIs_of_map_eq hbackends ha hqa
      rw [hnone y hy] at hya
      cases hya

end Final

section Linked

variable (hcollect : env.CollectsAsUsual) {c : Collection}
  (hplan : plan.MadeFrom env p.link (p.finalRequest env indexing) c) {a : Artifact}
include hcollect hplan

/-- An input of the final link is read under the name that the mapping gives it. -/
theorem inputs_contains_of_linked {i j : LinkerInput} (hi : i ∈ p.link.linkerInputs (p.finalRequest env indexing))
    (hj : j ∈ (p.finalCollection env indexing).expand i) (hja : (j.artifact == a) = true) :
    plan.action.inputs.contains (p.mapping.map a) = true := by
  have hc := hcollect _ _ hplan.collected
  have hexpanded : j ∈ c.expandedInputs := hc ▸ CollectionRequest.mem_collect_expandedInputs.2 ⟨i, hi, hj⟩
  rw [hplan.action_eq, Link.inputs_action, ← OrderedSet.contains_congr (BitcodeMapping.map_congr hja)]
  exact Link.allInputs_contains_of_expanded hexpanded

theorem inputs_contains_own (ha : p.link.OwnBitcode a) :
    plan.action.inputs.contains (p.mapping.map a) = true := by
  obtain ⟨o, ho, hoa, -⟩ := ha
  exact inputs_contains_of_linked hcollect hplan
    (Link.mem_linkerInputs.2 (Or.inl ⟨o, Link.mem_objects_finalAssembly ho, rfl⟩)) (List.mem_singleton_self _) hoa

/-- A mapped member has its archive expanded, and is read under its new name. -/
theorem inputs_contains_member (hmapped : p.mapping.contains a = true) (ha : p.link.StaticMember a) :
    plan.action.inputs.contains (p.mapping.map a) = true := by
  obtain ⟨l, hl, hstatic, m, hm, hma⟩ := ha
  have hexpands : (p.finalCollection env indexing).expands l = true :=
    CollectionRequest.expands_of_mapped hstatic hm (BitcodeMapping.contains_congr hma ▸ hmapped)
  have hexpanded : .object (.ofArtifact m) ∈ (p.finalCollection env indexing).expand (.library l) := by
    rw [CollectionRequest.expand_library_of_expands hexpands]
    exact List.mem_map_of_mem hm
  exact inputs_contains_of_linked hcollect hplan
    (Link.mem_linkerInputs.2 (Or.inr (Or.inr (Or.inl ⟨l, hl, rfl⟩)))) hexpanded hma

end Linked

end BackendPlan

/-- In an LTO build a bitcode file is mapped exactly if it is an own object, if members take part in the indexing, or
if a backend for it is taken over, so always if the libraries file their backends under the bitcode of these. What is
mapped is read by the final link at most under a name that stands for something else, and is replaced there by its
object if it is an own object or a member of a static library. -/
theorem Link.bitcode_replaced {env : Env} {link : Link} {plan : LinkPlan}
    (hplan : (link.planWithLto env).Yields plan) (hcollect : env.CollectsAsUsual) {a : Artifact}
    (ha : link.Bitcode a) :
    (plan.bitcodeMapping.contains a = true ↔
        link.OwnBitcode a ∨ (link.ltoFacts env.features).decide.includeStatic = true ∨
          ∃ b, link.Borrows env b ∧ (b.bitcodeFile == a) = true) ∧
      (link.SharedBackendsKeyed → plan.bitcodeMapping.contains a = true) ∧
      (plan.bitcodeMapping.contains a = true →
        ((∀ x ∈ plan.readAsIs env link, (x == a) = false) →
          plan.action.inputs.contains a = false ∧
            ∀ t ∈ plan.action.commandLine.linkVariables.librariesToLink, ∀ q ∈ t.objectPaths, (q == a) = false) ∧
        (link.OwnBitcode a ∨ link.StaticMember a →
          plan.action.inputs.contains (plan.bitcodeMapping.map a) = true)) := by
  obtain ⟨p, phase, hp, hphase, hfinal⟩ := Link.phases_of_yields hplan
  have hplanned := Link.backends_planned_of_yields hp
  have hlink := hplanned.link_eq
  subst hlink
  obtain ⟨indexing, c, -, hmade, -, hbackends, hmapping⟩ := BackendPlan.final_of_yields hphase hfinal
  rw [hmapping]
  refine ⟨?_, fun hkeyed => hplanned.mapping_contains hkeyed ha, fun hmapped => ⟨fun hnone => ⟨?_, ?_⟩, ?_⟩⟩
  · rw [← hplanned.decision_eq, ← hplanned.exists_backend_iff ha]
    exact hplanned.mapping_contains_iff
  · exact hplanned.inputs_not_contains hbackends hmade hmapped hnone
  · intro t ht q hq
    exact hplanned.not_listed hbackends hmade hmapped hcollect hnone ht hq
  · rintro (hown | hmember)
    · exact BackendPlan.inputs_contains_own hcollect hmade hown
    · exact BackendPlan.inputs_contains_member hcollect hmade hmapped hmember

/-- The member of an archive is indexed, so the command line omits its object, which the link still reads. -/
theorem Sample.member_replaced :
    ∃ plan, ((link (env []) ["app/main.o"] ["app/main.o"]).planWithLto (env [])).Yields plan ∧
      (env []).CollectsAsUsual ∧ (link (env []) ["app/main.o"] ["app/main.o"]).SharedBackendsKeyed ∧
      (link (env []) ["app/main.o"] ["app/main.o"]).Bitcode (file "dep/dep.o") ∧
      plan.bitcodeMapping.contains (file "dep/dep.o") = true ∧
      plan.action.inputs.contains (file "dep/dep.o") = false ∧
      plan.action.inputs.contains (plan.bitcodeMapping.map (file "dep/dep.o")) = true := by
  obtain ⟨plan, hplan, hcheck⟩ := Planning.exists_yields_of_check
    ((link (env []) ["app/main.o"] ["app/main.o"]).planWithLto (env []))
    (fun plan => (plan.readAsIs (env []) (link (env []) ["app/main.o"] ["app/main.o"])).all
      fun x => !(x == file "dep/dep.o"))
    (by decide +kernel)
  simp only [List.all_eq_true, Bool.not_eq_true'] at hcheck
  have hmember : file "dep/dep.o" ∈ (library (env [])).objects.toList := List.mem_singleton_self _
  have hlibrary : library (env []) ∈ (link (env []) ["app/main.o"] ["app/main.o"]).libraries.toList :=
    List.mem_singleton_self _
  have hbitcode : (link (env []) ["app/main.o"] ["app/main.o"]).Bitcode (file "dep/dep.o") :=
    Or.inr ⟨_, hlibrary, _, hmember, BEq.rfl, _, hlibrary, by decide +kernel⟩
  have hkeyed := (sharedBackendsMade_link (env []) ["app/main.o"] ["app/main.o"]).keyed
  obtain ⟨-, hcontains, hreplaced⟩ := Link.bitcode_replaced hplan (collectsAsUsual []) hbitcode
  have hmapped := hcontains hkeyed
  obtain ⟨hnone, hlinked⟩ := hreplaced hmapped
  exact ⟨plan, hplan, collectsAsUsual [], hkeyed, hbitcode, hmapped, (hnone hcheck).1,
    hlinked (Or.inr ⟨_, hlibrary, rfl, _, hmember, BEq.rfl⟩)⟩

/-- The backend of a file that is in no library, as links share it. -/
def Sample.sharedForOther : Backend :=
  .create sharedEnv.toBuild (.shared sharedEnv.features) none false (file "dep/other.o") []

/-- The library has filed the backend of another file under its member, and so the member is not mapped. -/
theorem Sample.misfiled_member_not_mapped :
    ∃ (b : Backend) (l : LibraryInput) (plan : LinkPlan),
      { library sharedEnv with sharedBackends := none }.withSharedBackends (filing b) = .ok l ∧
      (linkFiling b ["app/main.o"] ["app/main.o"]).libraries.toList = [l] ∧
      ((linkFiling b ["app/main.o"] ["app/main.o"]).planWithLto sharedEnv).Yields plan ∧
      sharedEnv.CollectsAsUsual ∧
      (linkFiling b ["app/main.o"] ["app/main.o"]).Bitcode (file "dep/dep.o") ∧
      plan.bitcodeMapping.contains (file "dep/dep.o") = false := by
  obtain ⟨plan, hplan, hmissed⟩ := Planning.exists_yields_of_decide
    ((linkFiling sharedForOther ["app/main.o"] ["app/main.o"]).planWithLto sharedEnv)
    (fun plan => plan.bitcodeMapping.contains (file "dep/dep.o") = false) (by decide +kernel)
  have hlibrary : { library sharedEnv with sharedBackends := some (filing sharedForOther) } ∈
      (linkFiling sharedForOther ["app/main.o"] ["app/main.o"]).libraries.toList := List.mem_singleton_self _
  have hbitcode : (linkFiling sharedForOther ["app/main.o"] ["app/main.o"]).Bitcode (file "dep/dep.o") :=
    Or.inr ⟨_, hlibrary, _, List.mem_singleton_self _, BEq.rfl, _, hlibrary, by decide +kernel⟩
  exact ⟨sharedForOther, _, plan, withSharedBackends_filing sharedForOther, rfl, hplan, collectsAsUsual _, hbitcode,
    hmissed⟩

end LinkPlanner
