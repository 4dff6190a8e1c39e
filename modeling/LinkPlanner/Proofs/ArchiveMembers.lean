import Mathlib.Data.List.Basic
import LinkPlanner.Proofs.ActionInputs
import LinkPlanner.Proofs.LinkstampGroups
import LinkPlanner.Proofs.ProducedLibraries

/-! What an archive holds and what its description says it holds. The description is made from the objects and
the linkstamps of the link, and the archive from these and from the libraries as the archiver gets them, so the two
agree exactly if the libraries bring in nothing that the link has not got anyway. -/

namespace LinkPlanner

namespace CollectionRequest

theorem flatMap_expand_of_self {r : CollectionRequest} {is : List LinkerInput} (his : ∀ i ∈ is, r.expand i = [i]) :
    is.flatMap r.expand = is := by
  calc is.flatMap r.expand = is.flatMap fun i => [i] := List.flatMap_congr his
    _ = is := List.flatMap_singleton' is

end CollectionRequest

theorem LinkType.isSome_outputCategory {t : LinkType} (ht : t.isArchive = true) : t.outputCategory?.isSome = true := by
  cases t <;> first | rfl | cases ht

namespace Link

variable {env : Env} {link : Link} {plan : LinkPlan}

/-- What a link without LTO asks of the assembly. -/
def plainRequest (env : Env) (link : Link) : ActionRequest := link.finalAssembly env.toBuild none {} none

def plainCollection (env : Env) (link : Link) : CollectionRequest :=
  link.collectionRequest env.toBuild (link.plainRequest env)

/-- What stands for the objects, linkstamps and libraries of a link without LTO. -/
def archived (env : Env) (link : Link) : List LinkerInput :=
  let r := link.plainRequest env
  let inputs : List LinkerInput := r.objects.toList.map .object ++
    (linkstampObjects r).toList.map (.object <| .ofArtifact ·) ++ r.libraries.toList.map .library
  inputs.flatMap (link.plainCollection env).expand

/-- The file is an object of the link or that of one of its linkstamps. -/
def Describes (build : Build) (link : Link) (a : Artifact) : Prop :=
  (∃ o ∈ link.objects.toList, (o.artifact == a) = true) ∨
    ∃ s ∈ link.linkstamps.toList, (link.linkstampObject build s == a) = true

/-- Runtime libraries are never expanded. -/
theorem flatMap_expand_runtimeInputs (link : Link) (r : CollectionRequest) :
    link.runtimeInputs.flatMap r.expand = link.runtimeInputs := by
  refine CollectionRequest.flatMap_expand_of_self fun i hi => ?_
  obtain ⟨a, -, rfl⟩ := mem_runtimeInputs hi
  exact CollectionRequest.expand_library_of_not_expands (CollectionRequest.expands_of_not_hasObjects rfl)

/-- They come after all that is archived. -/
theorem expandedInputs_plainCollection :
    (link.plainCollection env).collect.expandedInputs = link.archived env ++ link.runtimeInputs := by
  change (link.linkerInputs (link.plainRequest env)).flatMap (link.plainCollection env).expand = _
  unfold linkerInputs archived
  rw [List.flatMap_append, flatMap_expand_runtimeInputs]

theorem mem_archived {i : LinkerInput} :
    i ∈ link.archived env ↔
      (∃ o ∈ link.objects.toList, i = .object o) ∨
        (∃ s ∈ (linkstampObjects (link.plainRequest env)).toList, i = .object (.ofArtifact s)) ∨
        ∃ l ∈ link.libraries.toList, i ∈ (link.plainCollection env).expand (.library l) := by
  unfold archived
  simp only [List.flatMap_append, List.mem_append, List.flatMap_map, List.mem_flatMap, or_assoc]
  refine or_congr (exists_congr fun o => and_congr_right fun _ => List.mem_singleton)
    (or_congr (exists_congr fun s => and_congr_right fun _ => List.mem_singleton) Iff.rfl)

/-- Only an executable is not described. -/
theorem isSome_of_run_outputLibrary {members : List Artifact} {library : Option LibraryInput} {s t : Session}
    (harchive : link.linkType.isArchive = true)
    (h : (link.outputLibrary? env members).run s = (.ok library, t)) : library.isSome = true := by
  unfold outputLibrary? at h
  split at h
  · rename_i hnone
    have hsome := LinkType.isSome_outputCategory harchive
    rw [hnone] at hsome
    cases hsome
  · dsimp only at h
    rw [if_pos harchive] at h
    split at h
    · cases h
      rfl
    · obtain ⟨backends, u, -, hattach⟩ := Planning.of_run_bind h
      obtain ⟨k, -, rfl⟩ := Planning.of_run_map hattach
      rfl

/-- An archive without LTO is described by its objects and the objects of its linkstamps. -/
theorem outputLibrary_of_yields (harchive : link.linkType.isArchive = true) (hplan : (link.plan env).Yields plan) :
    ∃ library, plan.outputLibrary = some library ∧
      library.objects = .ofList (members (link.plainRequest env)) := by
  obtain ⟨-, -, s, t, hrun⟩ := hplan.during.bind
  obtain ⟨u, v, hlibrary, -⟩ := of_run_planFinal hrun
  obtain ⟨library, hsome⟩ := Option.isSome_iff_exists.1 (isSome_of_run_outputLibrary harchive hlibrary)
  rw [hsome] at hlibrary
  exact ⟨library, hsome, (sharedIn_of_run_outputLibrary harchive hlibrary).2.2.1⟩

theorem members_plainRequest :
    members (link.plainRequest env) =
      link.objects.toList.map (·.artifact) ++ link.linkstamps.toList.map (link.linkstampObject env.toBuild) := by
  have hmap : ∀ as : List Artifact, as.map (link.plainRequest env).mapping.map = as := fun as =>
    (List.map_congr_left fun a _ => BitcodeMapping.map_of_not_contains rfl).trans (List.map_id _)
  unfold members
  rw [hmap, ← linkstampOutputs_values]
  rfl

theorem contains_members_iff {a : Artifact} :
    (OrderedSet.ofList (members (link.plainRequest env))).contains a = true ↔ link.Describes env.toBuild a := by
  rw [members_plainRequest, OrderedSet.contains_ofList, List.any_append, List.any_map, List.any_map,
    Bool.or_eq_true, List.any_eq_true, List.any_eq_true]
  rfl

theorem isEmpty_members_iff :
    (OrderedSet.ofList (members (link.plainRequest env))).isEmpty = true ↔
      link.objects.toList = [] ∧ link.linkstamps.toList = [] := by
  unfold OrderedSet.isEmpty
  rw [List.isEmpty_iff, OrderedSet.toList_ofList_eq_nil_iff, members_plainRequest]
  simp only [List.append_eq_nil_iff, List.map_eq_nil_iff]

/-- What stands for an own object or a linkstamp is described. -/
theorem describes_of_mem_archived {i : LinkerInput} (hi : i ∈ link.archived env) :
    link.Describes env.toBuild i.artifact ∨
      ∃ l ∈ link.libraries.toList, i ∈ (link.plainCollection env).expand (.library l) := by
  rcases mem_archived.1 hi with ⟨o, ho, rfl⟩ | ⟨a, ha, rfl⟩ | hlibrary
  · exact Or.inl (Or.inl ⟨o, ho, BEq.rfl⟩)
  · have hvalue : a ∈ (Linkstamp.outputs env.toBuild link.output link.linkstamps.toList).values :=
      OrderedSet.mem_of_mem_ofList ha
    rw [linkstampOutputs_values] at hvalue
    obtain ⟨s, hs, rfl⟩ := List.mem_map.1 hvalue
    exact Or.inl (Or.inr ⟨s, hs, BEq.rfl⟩)
  · exact Or.inr hlibrary

end Link

/-- The description of an archive that has one accounts for everything in the archive exactly if what stands for its
libraries is among its own objects and linkstamps, as it is if there are no libraries. -/
theorem Link.archive_described_iff {env : Env} {link : Link} {plan : LinkPlan} (hplan : (link.plan env).Yields plan)
    (harchive : link.linkType.isArchive = true) (hcollect : env.CollectsAsUsual) :
    ∃ library c, plan.outputLibrary = some library ∧ plan.MadeFrom env link (link.plainRequest env) c ∧
      c.expandedInputs = link.archived env ++ link.runtimeInputs ∧
      (∀ i ∈ link.archived env, plan.action.inputs.contains i.artifact = true) ∧
      ((library.hasObjects = true → ∀ i ∈ link.archived env, library.objects.contains i.artifact = true) ↔
        (link.objects.toList = [] ∧ link.linkstamps.toList = []) ∨
          ∀ l ∈ link.libraries.toList, ∀ i ∈ (link.plainCollection env).expand (.library l),
            link.Describes env.toBuild i.artifact) := by
  obtain ⟨library, hlibrary, hobjects⟩ := outputLibrary_of_yields harchive hplan
  obtain ⟨-, -, hfinal⟩ := hplan.during.bind
  obtain ⟨⟨c, hmade⟩, -⟩ := planned_of_yields hfinal
  have hexpanded : c.expandedInputs = link.archived env ++ link.runtimeInputs := by
    rw [hcollect _ _ hmade.collected]
    exact expandedInputs_plainCollection
  refine ⟨library, c, hlibrary, hmade, hexpanded, fun i hi => ?_, ?_⟩
  · have hmap : (link.plainRequest env).mapping.map i.artifact = i.artifact := BitcodeMapping.map_of_not_contains rfl
    have hinput : i ∈ c.expandedInputs := by
      rw [hexpanded]
      exact List.mem_append_left _ hi
    rw [hmade.action_eq, inputs_action, ← hmap]
    exact allInputs_contains_of_expanded hinput
  · unfold LibraryInput.hasObjects
    rw [hobjects, Bool.not_eq_true', ← Bool.not_eq_true, isEmpty_members_iff]
    simp only [contains_members_iff]
    constructor
    · intro hdescribed
      by_cases hnone : link.objects.toList = [] ∧ link.linkstamps.toList = []
      · exact Or.inl hnone
      · exact Or.inr fun l hl i hi => hdescribed hnone i (mem_archived.2 (Or.inr (Or.inr ⟨l, hl, hi⟩)))
    · rintro (hnone | hlibraries) hsome i hi
      · exact absurd hnone hsome
      · rcases describes_of_mem_archived hi with hi | ⟨l, hl, hi⟩
        · exact hi
        · exact hlibraries l hl i hi

namespace Sample

/-- A static library `lib/liblib.a` of one object, over these libraries. -/
def archiveOver (libraries : List LibraryInput) : Link where
  owner := "//lib:lib"
  output := file "lib/liblib.a"
  libraryIdentifier := some "lib/liblib"
  objects := .ofList [.ofArtifact (file "lib/lib.o")]
  libraries := .ofList libraries

/-- An archive without libraries is described by its object. -/
theorem archive_of_objects_described :
    ∃ plan library, ((archiveOver []).plan (env [.supportsStartEndLib])).Yields plan ∧
      (archiveOver []).linkType.isArchive = true ∧ (env [.supportsStartEndLib]).CollectsAsUsual ∧
      plan.outputLibrary = some library ∧ library.hasObjects = true ∧
      ∀ i ∈ (archiveOver []).archived (env [.supportsStartEndLib]), library.objects.contains i.artifact = true := by
  obtain ⟨plan, hplan, hcheck⟩ := Planning.exists_yields_of_check
    ((archiveOver []).plan (env [.supportsStartEndLib])) (fun plan => plan.outputLibrary.any (·.hasObjects))
    (by decide +kernel)
  have hcollect := collectsAsUsual [.supportsStartEndLib]
  obtain ⟨library, c, hlibrary, -, -, -, hiff⟩ := Link.archive_described_iff hplan rfl hcollect
  rw [hlibrary] at hcheck
  refine ⟨plan, library, hplan, rfl, hcollect, hlibrary, hcheck, hiff.2 (Or.inr fun l hl => ?_) hcheck⟩
  cases hl

/-- The member of a library goes into an archive whose description does not have it. -/
theorem archived_member_not_described :
    ∃ plan library, ((archiveOver [Sample.library (env [])]).plan (env [.supportsStartEndLib])).Yields plan ∧
      plan.outputLibrary = some library ∧ library.hasObjects = true ∧
      plan.action.inputs.contains (file "dep/dep.o") = true ∧
      (∃ i ∈ (archiveOver [Sample.library (env [])]).archived (env [.supportsStartEndLib]),
        (i.artifact == file "dep/dep.o") = true) ∧
      library.objects.contains (file "dep/dep.o") = false := by
  obtain ⟨plan, hplan, hcheck⟩ := Planning.exists_yields_of_check
    ((archiveOver [Sample.library (env [])]).plan (env [.supportsStartEndLib]))
    (fun plan => plan.action.inputs.contains (file "dep/dep.o") && plan.outputLibrary.any fun library =>
      library.hasObjects && !library.objects.contains (file "dep/dep.o"))
    (by decide +kernel)
  simp only [Bool.and_eq_true, Option.any_eq_true, Bool.not_eq_true'] at hcheck
  obtain ⟨hinput, library, hlibrary, hsome, hmissing⟩ := hcheck
  have harchived : ((archiveOver [Sample.library (env [])]).archived (env [.supportsStartEndLib])).any
      (·.artifact == file "dep/dep.o") = true := by decide +kernel
  exact ⟨plan, library, hplan, hlibrary, hsome, hinput, List.any_eq_true.1 harchived, hmissing⟩

end Sample
end LinkPlanner
