import LinkPlanner.Proofs.ClosedPlans

/-! The files that the command line of a final link names. The action runs where nothing can be found but the files
that it declares, so every file that its command line names has to be among its inputs or its outputs. The variables of
the command line are filled in apart from the inputs, each under conditions of its own. -/

namespace LinkPlanner

/-! ### Named and declared files -/

def InterfaceLibraryVariables.files (v : InterfaceLibraryVariables) : List Artifact :=
  v.builder.toList ++ [v.input, v.output]

/-- The files that the variables name, alone or in the libraries to link. -/
def LinkVariables.files (v : LinkVariables) : List Artifact :=
  v.interfaceLibrary.toList.flatMap (·.files) ++
    (v.thinltoParamFile.toList ++ v.thinltoIndexingParamFile.toList ++ v.thinltoMergedObjectFile.toList) ++
    v.librariesToLink.flatMap (·.paths)

namespace LinkAction

/-- The files that the command line names. -/
def named (action : LinkAction) : List Artifact :=
  action.commandLine.forcedToolPath.toList ++ action.commandLine.linkVariables.files

/-- The action reads or writes the file. -/
def Declares (action : LinkAction) (a : Artifact) : Prop :=
  action.inputs.contains a = true ∨ action.outputs.contains a = true

instance (action : LinkAction) (a : Artifact) : Decidable (action.Declares a) := inferInstanceAs (Decidable (_ ∨ _))

end LinkAction

/-- A library or a runtime library of the link. -/
def Link.LibraryFile (link : Link) (a : Artifact) : Prop :=
  (∃ l ∈ link.libraries.toList, a = l.artifact) ∨ a ∈ link.runtimeLibraries

/-! ### Listed files -/

namespace CollectionRequest

variable {r : CollectionRequest}

theorem mem_paths_listDynamic {l : LibraryInput} {q : Artifact} (hq : q ∈ (listDynamic l).paths) : q = l.artifact := by
  unfold listDynamic at hq
  split at hq
  · exact List.mem_singleton.1 hq
  · split at hq
    · cases hq
    · exact List.mem_singleton.1 hq

/-- A file that is listed is what an expanded input is mapped to, or a library that is given to the linker as it is. -/
theorem of_mem_paths {t : LibraryToLink} {q : Artifact} (ht : t ∈ r.collect.librariesToLink) (hq : q ∈ t.paths) :
    (∃ i ∈ r.collect.expandedInputs, q = r.mapping.map i.artifact) ∨
      ∃ l, .library l ∈ r.inputs ∧ .library l ∈ r.collect.expandedInputs ∧ q = l.artifact := by
  obtain ⟨i, hi, hlist⟩ := mem_librariesToLink.1 ht
  cases i with
  | object o =>
      obtain ⟨b, -, rfl⟩ := Option.map_eq_some_iff.1 hlist
      exact Or.inl (mapped_of_mem_objectPaths ht hq)
  | library l =>
      have hwhole (hl : r.expands l = false) : .library l ∈ r.collect.expandedInputs := by
        refine mem_collect_expandedInputs.2 ⟨_, hi, ?_⟩
        rw [expand_library_of_not_expands hl]
        exact List.mem_singleton_self _
      cases listed_of_list hlist with
      | dynamic hdynamic =>
          exact Or.inr ⟨l, hi, hwhole (expands_of_not_static hdynamic), mem_paths_listDynamic hq⟩
      | archive _ hexpands => exact Or.inr ⟨l, hi, hwhole hexpands, List.mem_singleton.1 hq⟩
      | group => exact Or.inl (mapped_of_mem_objectPaths ht hq)

end CollectionRequest

namespace Link

variable {build : Build} {env : Env} {link : Link} {r : ActionRequest} {c : Collection} {plan : LinkPlan}

theorem libraryFile_of_mem_linkerInputs {l : LibraryInput}
    (hl : .library l ∈ link.linkerInputs r) (hlibraries : r.libraries = link.libraries) :
    link.LibraryFile l.artifact := by
  rcases mem_linkerInputs.1 hl with ⟨o, -, heq⟩ | ⟨s, -, heq⟩ | ⟨k, hk, heq⟩ | hl
  · cases heq
  · cases heq
  · cases heq
    exact Or.inl ⟨l, hlibraries ▸ hk, rfl⟩
  · obtain ⟨a, ha, heq⟩ := mem_runtimeInputs hl
    cases heq
    exact Or.inr ha

theorem allInputs_contains_of_plainInputs {a : Artifact} (ha : a ∈ link.plainInputs build r) :
    (link.allInputs build r c).contains a = true := by
  refine allInputs_contains_of_baseInputs (OrderedSet.contains_ofList_of_mem ?_)
  unfold plainInputs at ha
  simp only [List.append_assoc] at ha ⊢
  exact List.mem_append_right _ ha

/-- Only bitcode of the link is mapped in its plan. -/
theorem bitcode_of_mapped (hplan : link.Yields env plan) (hkeyed : link.SharedBackendsKeyed) {a : Artifact}
    (ha : (BitcodeMapping.ofBackends plan.ltoBackends).contains a = true) : link.Bitcode a := by
  rw [BitcodeMapping.contains_ofBackends, List.any_eq_true] at ha
  obtain ⟨b, hb, hba⟩ := ha
  obtain ⟨p, hp, hb⟩ := planned_of_mem_ltoBackends hplan hb
  have hlink := hp.link_eq
  subst hlink
  have hbitcode := (hp.origin hb).bitcode fun _ => hkeyed
  exact hbitcode.imp (BackendPlan.ownBitcode_congr hba) (BackendPlan.memberBitcode_congr hba)

end Link

/-! ### Final links -/

namespace LinkPlan.Layout

variable {env : Env} {link : Link} {roots : LtoRoots} {indexing : Option IndexingOutputs} {c : Collection}
  {plan : LinkPlan} (hlayout : plan.Layout env link roots indexing c)
include hlayout

/-- What the command line of the final link names, told by what the link is made from. -/
theorem mem_named {a : Artifact} :
    a ∈ plan.action.named ↔
      a ∈ link.forcedTool? env.toBuild ∨
        (∃ out ∈ link.interfaceOutput,
          env.toolchain.linkDynamicLibraryToolArtifact? = some a ∨ a = link.output ∨ a = out) ∨
        (∃ outputs ∈ indexing, a = outputs.paramFile) ∨ ∃ t ∈ c.librariesToLink, a ∈ t.paths := by
  obtain ⟨decision, hmade⟩ := hlayout.made
  rw [hmade.action_eq]
  simp only [LinkAction.named, LinkVariables.files, InterfaceLibraryVariables.files, Link.action, Link.linkVariables,
    Link.finalAssembly, Link.finalRequest, List.mem_append, List.mem_flatMap, Option.mem_toList, Option.mem_def,
    Option.map_eq_some_iff, exists_exists_and_eq_and, reduceCtorEq, List.mem_cons, List.not_mem_nil, or_false,
    or_assoc, eq_comm (a := a)]

/-- The tool that runs in place of the linker is read. -/
theorem declares_forcedTool {a : Artifact} (ha : a ∈ link.forcedTool? env.toBuild) : plan.action.Declares a := by
  obtain ⟨decision, hmade⟩ := hlayout.made
  rw [hmade.action_eq]
  exact Or.inl (Link.allInputs_contains_of_plainInputs (List.mem_append_right _ (Option.mem_toList.2 ha)))

theorem declares_requested {a : Artifact} (ha : a ∈ link.requested) : plan.action.Declares a := by
  obtain ⟨decision, hmade⟩ := hlayout.made
  rw [hmade.action_eq]
  exact Or.inr (OrderedSet.contains_ofList_of_mem ha)

/-- What is linked is read under the name that it is mapped to. -/
theorem declares_expanded {i : LinkerInput} (hi : i ∈ c.expandedInputs) :
    plan.action.Declares ((BitcodeMapping.ofBackends plan.ltoBackends).map i.artifact) := by
  obtain ⟨decision, hmade⟩ := hlayout.made
  rw [hmade.action_eq]
  exact Or.inl (Link.allInputs_contains_of_expanded hi)

/-- A listed file is read, unless it is a library that is mapped to something else. -/
theorem declares_listed (hcollect : env.CollectsAsUsual)
    (hplain : ∀ a, link.LibraryFile a → (BitcodeMapping.ofBackends plan.ltoBackends).contains a = false)
    {t : LibraryToLink} (ht : t ∈ c.librariesToLink) {a : Artifact} (ha : a ∈ t.paths) : plan.action.Declares a := by
  obtain ⟨decision, hmade⟩ := hlayout.made
  obtain rfl := hcollect _ _ hmade.collected
  rcases CollectionRequest.of_mem_paths ht ha with ⟨i, hi, rfl⟩ | ⟨l, hl, hexpanded, rfl⟩
  · exact hlayout.declares_expanded hi
  · have hunmapped := hplain l.artifact (Link.libraryFile_of_mem_linkerInputs hl rfl)
    have hdeclares := hlayout.declares_expanded hexpanded
    rwa [show (LinkerInput.library l).artifact = l.artifact from rfl,
      BitcodeMapping.map_of_not_contains hunmapped] at hdeclares

end LinkPlan.Layout

/-- The files that the command line of a final link names are among its inputs and outputs, but for the tool that makes
interface libraries. This is named with any interface output, and is sure to be read only if it runs in place of the
linker. -/
theorem Link.named_files_declared_iff {env : Env} {link : Link} {plan : LinkPlan} (hplan : link.Yields env plan)
    (hcollect : env.CollectsAsUsual) (hkeyed : link.SharedBackendsKeyed)
    (hplain : ∀ a, link.LibraryFile a → ¬ link.Bitcode a) :
    (∀ a ∈ plan.action.named, plan.action.Declares a ∨ link.interfaceOutput.isSome = true ∧
      env.toolchain.linkDynamicLibraryToolArtifact? = some a ∧ link.usesInterfaceTool env.toBuild = false) ∧
    ((∀ a ∈ plan.action.named, plan.action.Declares a) ↔
      (link.interfaceOutput.isSome = true → ∀ tool, env.toolchain.linkDynamicLibraryToolArtifact? = some tool →
        link.usesInterfaceTool env.toBuild = true ∨ plan.action.Declares tool)) := by
  obtain ⟨roots, indexing, c, hlayout⟩ := link.layout_of_yields hcollect.collectsInputs hplan
  have hunmapped : ∀ a, link.LibraryFile a → (BitcodeMapping.ofBackends plan.ltoBackends).contains a = false :=
    fun a ha => Bool.eq_false_iff.2 fun hmapped => hplain a ha (bitcode_of_mapped hplan hkeyed hmapped)
  have hnamed : ∀ a ∈ plan.action.named, plan.action.Declares a ∨ link.interfaceOutput.isSome = true ∧
      env.toolchain.linkDynamicLibraryToolArtifact? = some a ∧ link.usesInterfaceTool env.toBuild = false := by
    intro a ha
    rcases hlayout.mem_named.1 ha with htool | ⟨out, hout, htool | rfl | rfl⟩ | ⟨outputs, houtputs, rfl⟩ | ⟨t, ht, ha⟩
    · exact Or.inl (hlayout.declares_forcedTool htool)
    · cases huses : link.usesInterfaceTool env.toBuild with
      | false => exact Or.inr ⟨Option.isSome_iff_exists.2 ⟨out, hout⟩, htool, rfl⟩
      | true => exact Or.inl (hlayout.declares_forcedTool ((if_pos huses).trans htool))
    · exact Or.inl (hlayout.declares_requested List.mem_cons_self)
    · exact Or.inl (hlayout.declares_requested (List.mem_append_right _ (Option.mem_toList.2 hout)))
    · exact Or.inl (Or.inl (hlayout.paramFile_read houtputs))
    · exact Or.inl (hlayout.declares_listed hcollect hunmapped ht ha)
  refine ⟨hnamed, fun hall hinterface tool htool => ?_, fun htools a ha => ?_⟩
  · obtain ⟨out, hout⟩ := Option.isSome_iff_exists.1 hinterface
    exact Or.inr (hall tool (hlayout.mem_named.2 (Or.inr (Or.inl ⟨out, hout, Or.inl htool⟩))))
  · rcases hnamed a ha with hdeclares | ⟨hinterface, htool, huses⟩
    · exact hdeclares
    · refine (htools hinterface a htool).resolve_left fun huses' => ?_
      rw [huses] at huses'
      cases huses'

namespace Sample

/-- A toolchain with a tool for interface libraries. It may name the linker binary of dynamic libraries itself. -/
def interfaceEnv (namesLinker : Bool) : Env where
  toolchain := { linkDynamicLibraryTool := some (.ofString "tools/link_dynamic_library.sh") }
  features :=
    { (env [.supportsInterfaceSharedLibraries]).features with
      actionsWithToolPath := if namesLinker then [ActionName.cppLinkDynamicLibrary.name] else [] }

/-- A dynamic library with an interface output, over the static library. -/
def interfaceLink (env : Env) : Link :=
  { link env ["app/main.o"] ["app/main.o"] with
    output := file "app/libapp.so"
    linkType := .dynamicLibrary
    libraryIdentifier := some "app/libapp"
    interfaceOutput := some (file "app/libapp.ifso") }

theorem libraryFile_interfaceLink {env : Env} {a : Artifact} (ha : (interfaceLink env).LibraryFile a) :
    ¬ (interfaceLink env).Bitcode a := by
  have hown : (context ["app/main.o"]).isBitcode (file "dep/libdep.a") = false := by decide +kernel
  have hmember : (file "dep/dep.o" == file "dep/libdep.a") = false := by decide +kernel
  rcases ha with ⟨l, hl, rfl⟩ | ha
  · cases List.mem_singleton.1 hl
    rintro (⟨-, -, -, hbitcode⟩ | ⟨k, hk, m, hm, hma, -⟩)
    · exact Bool.false_ne_true (hown.symm.trans hbitcode)
    · cases List.mem_singleton.1 hk
      cases List.mem_singleton.1 hm
      exact Bool.false_ne_true (hmember.symm.trans hma)
  · cases ha

/-- The tool runs in place of the linker, and the action reads it. -/
theorem named_tool_declared :
    ∃ plan, (interfaceLink (interfaceEnv false)).Yields (interfaceEnv false) plan ∧
      (interfaceEnv false).CollectsAsUsual ∧ (interfaceLink (interfaceEnv false)).SharedBackendsKeyed ∧
      (∀ a, (interfaceLink (interfaceEnv false)).LibraryFile a → ¬ (interfaceLink (interfaceEnv false)).Bitcode a) ∧
      plan.ltoIndexing.isSome = true ∧
      plan.action.named.map (·.text) =
        ["tools/link_dynamic_library.sh", "tools/link_dynamic_library.sh", "bin/app/libapp.so", "bin/app/libapp.ifso",
          "bin/app/libapp.so-lto-final.params", "bin/app/libapp.so.lto.merged.o"] ∧
      ∀ a ∈ plan.action.named, plan.action.Declares a := by
  obtain ⟨plan, hplan, hcheck⟩ := Planning.exists_yields_of_check
    ((interfaceLink (interfaceEnv false)).planWithLto (interfaceEnv false))
    (fun plan => plan.ltoIndexing.isSome && plan.action.named.map (·.text) ==
      ["tools/link_dynamic_library.sh", "tools/link_dynamic_library.sh", "bin/app/libapp.so", "bin/app/libapp.ifso",
        "bin/app/libapp.so-lto-final.params", "bin/app/libapp.so.lto.merged.o"]) (by decide +kernel)
  rw [Bool.and_eq_true, beq_iff_eq] at hcheck
  have hcollect : (interfaceEnv false).CollectsAsUsual := fun r c h => by cases h; rfl
  have hkeyed : (interfaceLink (interfaceEnv false)).SharedBackendsKeyed :=
    Link.SharedBackendsMade.keyed (sharedBackendsMade_link (interfaceEnv false) ["app/main.o"] ["app/main.o"])
  have hplain : ∀ a, (interfaceLink (interfaceEnv false)).LibraryFile a →
      ¬ (interfaceLink (interfaceEnv false)).Bitcode a := fun a => libraryFile_interfaceLink
  obtain ⟨-, hdeclared⟩ := Link.named_files_declared_iff (Or.inr hplan) hcollect hkeyed hplain
  refine ⟨plan, Or.inr hplan, hcollect, hkeyed, hplain, hcheck.1, hcheck.2, hdeclared.2 fun _ tool _ => Or.inl ?_⟩
  decide +kernel

/-- The toolchain names the linker itself. The tool is named to it all the same, and the action does not read it. -/
theorem named_tool_not_declared :
    ∃ plan, (interfaceLink (interfaceEnv true)).Yields (interfaceEnv true) plan ∧
      (interfaceEnv true).CollectsAsUsual ∧ (interfaceLink (interfaceEnv true)).SharedBackendsKeyed ∧
      (∀ a, (interfaceLink (interfaceEnv true)).LibraryFile a → ¬ (interfaceLink (interfaceEnv true)).Bitcode a) ∧
      ∃ a ∈ plan.action.named, a.text = "tools/link_dynamic_library.sh" ∧ ¬ plan.action.Declares a := by
  obtain ⟨plan, hplan, hcheck⟩ := Planning.exists_yields_of_decide
    ((interfaceLink (interfaceEnv true)).planWithLto (interfaceEnv true))
    (fun plan => ∃ a ∈ plan.action.named, a.text = "tools/link_dynamic_library.sh" ∧ ¬ plan.action.Declares a)
    (by decide +kernel)
  exact ⟨plan, Or.inr hplan, fun r c h => by cases h; rfl,
    Link.SharedBackendsMade.keyed (sharedBackendsMade_link (interfaceEnv true) ["app/main.o"] ["app/main.o"]),
    fun a => libraryFile_interfaceLink, hcheck⟩

end Sample
end LinkPlanner
