import LinkPlanner.Proofs.ArchiveMembers
import LinkPlanner.Proofs.ClosedPlans
import LinkPlanner.Proofs.IndexerView

/-! The order in which the indexer and the linker go through a link. Which definition of a symbol counts depends on
it, so the indexer has to see the link in the order of the final link. Both lists are made from the same link, one from
its bitcode rewritten and one from its bitcode mapped, and both are shown here to be one sequence of raw inputs, told
item by item. -/

namespace LinkPlanner

/-! ### Raw inputs -/

/-- An item of a link before it is rewritten for the indexer or mapped for the linker. -/
inductive RawInput where
  | own (o : ObjectInput)
  | member (l : LibraryInput) (m : Artifact)
  | library (l : LibraryInput)

/-- A static library with members is given by its members, and any other library by itself. -/
def LibraryInput.rawInputs (l : LibraryInput) : List RawInput :=
  if l.category.isStatic && l.hasObjects then l.objects.toList.map (.member l) else [.library l]

namespace Link

def ownInputs (link : Link) : List RawInput := link.objects.toList.map .own

/-- The libraries, and then the runtime libraries. -/
def laterInputs (link : Link) : List RawInput :=
  link.libraries.toList.flatMap (·.rawInputs) ++ link.runtimeLibraries.map fun a =>
    .library { LibraryInput.ofArtifact a link.runtimeLibraryCategory with disableWholeArchive := true }

def rawInputs (link : Link) : List RawInput := link.ownInputs ++ link.laterInputs

end Link

/-! ### Views -/

/-- What the indexer reads for a member: the minimized form, or the object of the shared backend if libraries take no
part in the indexing. -/
def LibraryInput.view (includeStatic : Bool) (l : LibraryInput) (m : Artifact) : Artifact :=
  if includeStatic then l.lto.minimizedOrSelf m else (l.sharedBackend? m).elim m (·.objectFile)

/-- The library as the indexer sees it. -/
def LibraryInput.seen (includeStatic : Bool) (l : LibraryInput) : LibraryInput :=
  if l.hasObjects then l.withReplacedObjects (.ofList (l.objects.toList.map (l.view includeStatic))) else l

namespace RawInput

/-- The item as the linker is given it. -/
def linked : RawInput → LinkerInput
  | own o => .object o
  | member _ m => .object (.ofArtifact m)
  | library l => .library l

/-- The item as the indexer is given it. -/
def shown (link : Link) (includeStatic : Bool) : RawInput → LinkerInput
  | own o => .object (o.withArtifact (link.lto.minimizedOrSelf o.artifact))
  | member l m => .object (.ofArtifact (l.view includeStatic m))
  | library l => .library (l.seen includeStatic)

/-- The item is recorded as bitcode, or a shared backend is recorded for it. -/
def IsBitcode (link : Link) : RawInput → Prop
  | own o => link.lto.isBitcode o.artifact = true
  | member l m => l.lto.isBitcode m = true ∨ (l.sharedBackend? m).isSome = true
  | library _ => False

end RawInput

/-- Of the own objects, and of the members of one library, each has a view to itself. -/
structure Link.ViewsApart (includeStatic : Bool) (link : Link) : Prop where
  own : link.objects.toList.Pairwise fun o q =>
    (link.lto.minimizedOrSelf o.artifact == link.lto.minimizedOrSelf q.artifact) = false
  members : ∀ l ∈ link.libraries.toList, l.objects.toList.Pairwise fun m n =>
    (l.view includeStatic m == l.view includeStatic n) = false

theorem LtoContext.minimizedOrSelf_of_not_isBitcode {lto : LtoContext} {a : Artifact} (ha : ¬ lto.isBitcode a = true) :
    lto.minimizedOrSelf a = a := by
  unfold minimizedOrSelf
  rw [OrderedMap.get?_eq_none_of_not_contains ha]
  rfl

namespace LibraryInput

variable {includeStatic : Bool} {l k : LibraryInput}

theorem view_of_not_isBitcode {link : Link} {m : Artifact} (hm : ¬ (RawInput.member l m).IsBitcode link) :
    l.view includeStatic m = m := by
  obtain ⟨hbitcode, hshared⟩ := not_or.1 hm
  unfold view
  split
  · exact LtoContext.minimizedOrSelf_of_not_isBitcode hbitcode
  · rw [Option.not_isSome_iff_eq_none.1 hshared]
    rfl

theorem artifact_seen : (l.seen includeStatic).artifact = l.artifact := by
  unfold seen
  split <;> rfl

theorem category_seen : (l.seen includeStatic).category = l.category := by
  unfold seen
  split <;> rfl

theorem hasObjects_seen : (l.seen includeStatic).hasObjects = l.hasObjects := by
  unfold seen
  cases hl : l.hasObjects with
  | false => exact hl
  | true =>
      obtain ⟨m, hm⟩ := CollectionRequest.exists_mem_of_hasObjects hl
      obtain ⟨n, hn, -⟩ := OrderedSet.exists_of_mem_ofList (List.mem_map_of_mem (f := l.view includeStatic) hm)
      exact CollectionRequest.hasObjects_of_mem (l := l.withReplacedObjects _) hn

/-- With views of their own all members are seen. -/
theorem objects_seen (hl : l.hasObjects = true)
    (hviews : l.objects.toList.Pairwise fun m n => (l.view includeStatic m == l.view includeStatic n) = false) :
    (l.seen includeStatic).objects.toList = l.objects.toList.map (l.view includeStatic) := by
  unfold seen
  rw [if_pos hl]
  exact OrderedSet.toList_ofList (List.pairwise_map.2 hviews)

end LibraryInput

namespace Link

variable {includeStatic : Bool} {l k : LibraryInput}

theorem eq_view_of_indexingMember {m n : Artifact} (h : indexingMember includeStatic l m = .ok n) :
    n = l.view includeStatic m := by
  unfold indexingMember at h
  unfold LibraryInput.view
  split at h
  · rename_i hinclude
    rw [if_pos hinclude]
    exact (Except.ok.inj h).symm
  · rename_i hinclude
    rw [if_neg hinclude]
    split at h
    · rename_i b hb
      rw [hb]
      exact (Except.ok.inj h).symm
    · rename_i hnone
      rw [hnone]
      split at h
      · cases h
      · rename_i hbitcode
        rw [LtoContext.minimizedOrSelf_of_not_isBitcode hbitcode] at h
        exact (Except.ok.inj h).symm

theorem eq_seen_of_indexingLibrary (h : indexingLibrary includeStatic l = .ok k) : k = l.seen includeStatic := by
  unfold LibraryInput.seen
  cases hl : l.hasObjects with
  | false => exact indexingLibrary_of_not_hasObjects hl h
  | true =>
      obtain ⟨members, hmembers, rfl⟩ := indexingLibrary_of_hasObjects hl h
      have hviews := Planning.map_of_mapM_eq_ok (g := id) (fun m n => eq_view_of_indexingMember) hmembers
      rw [List.map_id] at hviews
      rw [if_pos rfl, hviews]

theorem libraries_seen {link : Link} {libraries : OrderedSet LibraryInput}
    (h : link.indexingLibraries includeStatic = .ok libraries) :
    libraries.toList = link.libraries.toList.map (·.seen includeStatic) := by
  have hseen := Planning.map_of_mapM_eq_ok (g := id) (fun l k => eq_seen_of_indexingLibrary)
    (indexingLibraries_toList h)
  rwa [List.map_id] at hseen

end Link

/-! ### Expanded inputs -/

namespace CollectionRequest

variable {r : CollectionRequest}

/-- A linker that can list members one by one gets every static library in members if it has any. -/
theorem expands_eq_of_supportsStartEndLib (hsupports : r.features.isEnabled .supportsStartEndLib = true)
    (l : LibraryInput) : r.expands l = (l.category.isStatic && l.hasObjects) := by
  unfold expands
  rw [hsupports, Bool.true_or, Bool.and_true]

theorem expand_library_eq_linked (hsupports : r.features.isEnabled .supportsStartEndLib = true) (l : LibraryInput) :
    r.expand (.library l) = l.rawInputs.map (·.linked) := by
  unfold expand LibraryInput.rawInputs
  dsimp only
  rw [expands_eq_of_supportsStartEndLib hsupports]
  split
  · rw [List.map_map]
    rfl
  · rfl

theorem expand_library_seen (hsupports : r.features.isEnabled .supportsStartEndLib = true) (link : Link)
    {includeStatic : Bool} {l : LibraryInput}
    (hviews : l.objects.toList.Pairwise fun m n => (l.view includeStatic m == l.view includeStatic n) = false) :
    r.expand (.library (l.seen includeStatic)) = l.rawInputs.map (·.shown link includeStatic) := by
  unfold expand LibraryInput.rawInputs
  dsimp only
  rw [expands_eq_of_supportsStartEndLib hsupports, LibraryInput.category_seen, LibraryInput.hasObjects_seen]
  split
  · rename_i hexpands
    rw [LibraryInput.objects_seen (Bool.and_eq_true_iff.1 hexpands).2 hviews, List.map_map, List.map_map]
    rfl
  · rfl

end CollectionRequest

namespace Link

variable {link : Link}

/-- Only libraries are expanded, each in its place. -/
theorem expandedInputs_collect (build : Build) (link : Link) (r : ActionRequest) :
    (link.collectionRequest build r).collect.expandedInputs =
      r.objects.toList.map .object ++ (linkstampObjects r).toList.map (.object <| .ofArtifact ·) ++
        r.libraries.toList.flatMap (fun l => (link.collectionRequest build r).expand (.library l)) ++
        link.runtimeInputs := by
  change (link.linkerInputs r).flatMap (link.collectionRequest build r).expand = _
  unfold linkerInputs
  rw [List.flatMap_append, List.flatMap_append, flatMap_expand_runtimeInputs, List.flatMap_map,
    CollectionRequest.flatMap_expand_of_self]
  intro i hi
  rcases List.mem_append.1 hi with hi | hi
  · obtain ⟨o, -, rfl⟩ := List.mem_map.1 hi
    rfl
  · obtain ⟨s, -, rfl⟩ := List.mem_map.1 hi
    rfl

theorem map_linked_laterInputs :
    link.laterInputs.map (·.linked) =
      link.libraries.toList.flatMap (fun l => l.rawInputs.map (·.linked)) ++ link.runtimeInputs := by
  unfold laterInputs runtimeInputs
  rw [List.map_append, List.map_flatMap, List.map_map]
  rfl

/-- Runtime libraries have no members, so they are seen as they are. -/
theorem map_shown_laterInputs (includeStatic : Bool) :
    link.laterInputs.map (·.shown link includeStatic) =
      link.libraries.toList.flatMap (fun l => l.rawInputs.map (·.shown link includeStatic)) ++ link.runtimeInputs := by
  unfold laterInputs runtimeInputs
  rw [List.map_append, List.map_flatMap, List.map_map]
  rfl

end Link

/-- Before anything else the action reads these linker inputs, each under the name that the mapping gives it. -/
def LinkAction.ReadsFirst (mapping : BitcodeMapping) (inputs : List LinkerInput) (action : LinkAction) : Prop :=
  ∃ rest, action.inputs.toList = (OrderedSet.ofList (inputs.map fun i => mapping.map i.artifact)).toList ++ rest

theorem Link.readsFirst_action (build : Build) (link : Link) (r : ActionRequest) (c : Collection) :
    (link.action build r c).ReadsFirst r.mapping c.expandedInputs := by
  have hbase : link.baseInputs build r c =
      (OrderedSet.ofList (c.expandedInputs.map fun i => r.mapping.map i.artifact)).insertAll
        (link.plainInputs build r) := by
    rw [← OrderedSet.ofList_append]
    unfold baseInputs plainInputs
    simp only [List.append_assoc]
  obtain ⟨plain, hplain, -⟩ := OrderedSet.toList_insertAll
    (.ofList (c.expandedInputs.map fun i => r.mapping.map i.artifact)) (link.plainInputs build r)
  obtain ⟨stamps, hstamps, -⟩ := OrderedSet.toList_insertAll (link.baseInputs build r c)
    (r.linkstampOutputs.values ++ r.linkstampOutputs.values.map r.mapping.map)
  refine ⟨plain ++ stamps, ?_⟩
  calc (link.action build r c).inputs.toList
    _ = (link.baseInputs build r c).toList ++ stamps := hstamps
    _ = _ := by rw [hbase, hplain, List.append_assoc]

/-! ### Both links -/

namespace BackendPlan

variable {env : Env} {p : BackendPlan} {outputs : IndexingOutputs} {plan : LinkPlan}
  (hsupports : env.features.isEnabled .supportsStartEndLib = true)
include hsupports

/-- The indexer is given the views of all items, in the order of the items. -/
theorem expandedInputs_indexingCollection {actionName : ActionName} {libraries : OrderedSet LibraryInput}
    (hlibraries : p.link.indexingLibraries p.decision.includeStatic = .ok libraries)
    (hviews : p.link.ViewsApart p.decision.includeStatic) :
    (p.indexingCollection env actionName libraries).collect.expandedInputs =
      p.link.rawInputs.map (·.shown p.link p.decision.includeStatic) := by
  have hown : p.link.indexingObjects.toList.map LinkerInput.object =
      p.link.ownInputs.map (·.shown p.link p.decision.includeStatic) := by
    have hdistinct : (p.link.objects.toList.map fun o =>
        o.withArtifact (p.link.lto.minimizedOrSelf o.artifact)).Pairwise fun o q => (o == q) = false :=
      List.pairwise_map.2 hviews.own
    unfold Link.indexingObjects Link.ownInputs
    rw [OrderedSet.toList_ofList hdistinct, List.map_map, List.map_map]
    rfl
  have hlater : libraries.toList.flatMap
      (fun l => (p.indexingCollection env actionName libraries).expand (.library l)) =
        p.link.libraries.toList.flatMap
          (fun l => l.rawInputs.map (·.shown p.link p.decision.includeStatic)) := by
    rw [Link.libraries_seen hlibraries, List.flatMap_map]
    exact List.flatMap_congr fun l hl =>
      CollectionRequest.expand_library_seen hsupports p.link (hviews.members l hl)
  calc (p.indexingCollection env actionName libraries).collect.expandedInputs
    _ = p.link.indexingObjects.toList.map LinkerInput.object ++ [] ++ libraries.toList.flatMap
          (fun l => (p.indexingCollection env actionName libraries).expand (.library l)) ++ p.link.runtimeInputs :=
      Link.expandedInputs_collect env.toBuild p.link (p.indexingRequest env.toBuild actionName libraries)
    _ = p.link.rawInputs.map (·.shown p.link p.decision.includeStatic) := by
      rw [hown, hlater, List.append_nil, List.append_assoc, ← Link.map_shown_laterInputs, Link.rawInputs,
        List.map_append]

/-- The linker is given the items themselves, with the merged object and the objects of linkstamps between the own
objects and the libraries. -/
theorem expandedInputs_finalCollection (hapart : p.link.GivenApart env.toBuild plan) {s : PlanStep}
    (hs : s ∈ plan.innerSteps) (hwrites : s.Writes outputs.mergedObject) :
    (p.finalCollection env (some outputs)).collect.expandedInputs =
      p.link.ownInputs.map (·.linked) ++
        (outputs.mergedObject :: (Link.linkstampObjects (p.finalRequest env (some outputs))).toList).map
          (.object <| .ofArtifact ·) ++
        p.link.laterInputs.map (·.linked) := by
  have hown : (p.finalRequest env (some outputs)).objects.toList.map LinkerInput.object =
      p.link.ownInputs.map (·.linked) ++ [.object (.ofArtifact outputs.mergedObject)] := by
    unfold finalRequest Link.ownInputs
    rw [Link.objects_finalAssembly_of_apart hapart hs hwrites, List.map_append, List.map_map]
    rfl
  have hlater : (p.finalRequest env (some outputs)).libraries.toList.flatMap
      (fun l => (p.finalCollection env (some outputs)).expand (.library l)) =
        p.link.libraries.toList.flatMap (fun l => l.rawInputs.map (·.linked)) :=
    List.flatMap_congr fun l _ => CollectionRequest.expand_library_eq_linked hsupports l
  calc (p.finalCollection env (some outputs)).collect.expandedInputs
    _ = (p.finalRequest env (some outputs)).objects.toList.map LinkerInput.object ++
          (Link.linkstampObjects (p.finalRequest env (some outputs))).toList.map (LinkerInput.object <| .ofArtifact ·) ++
          (p.finalRequest env (some outputs)).libraries.toList.flatMap
            (fun l => (p.finalCollection env (some outputs)).expand (.library l)) ++ p.link.runtimeInputs :=
      Link.expandedInputs_collect env.toBuild p.link (p.finalRequest env (some outputs))
    _ = _ := by
      rw [hown, hlater, Link.map_linked_laterInputs, List.map_cons]
      simp only [List.append_assoc, List.cons_append, List.nil_append]

end BackendPlan

/-- The indexer sees the link in the order of the final link. Both are given one sequence of items, the indexer as their
views and the linker as they are, and the linker has nothing besides but the merged object and the objects of linkstamps,
which come after the own objects. -/
theorem Link.indexer_sees_link_order {env : Env} {link : Link} {p : BackendPlan} {outputs : IndexingOutputs}
    {plan : LinkPlan} (hp : (link.planBackends env).Yields p) (hphase : (p.planIndexing env).Yields (.indexed p outputs))
    (hfinal : ((LtoPhase.indexed p outputs).plan env).Yields plan) (hcollect : env.CollectsAsUsual)
    (hsupports : env.features.isEnabled .supportsStartEndLib = true) (hviews : link.ViewsApart p.decision.includeStatic)
    (hapart : link.GivenApart env.toBuild plan) :
    (∃ actionName libraries d, link.indexingLibraries p.decision.includeStatic = .ok libraries ∧
      env.collector (p.indexingCollection env actionName libraries) = .ok d ∧
      outputs.action = link.action env.toBuild (p.indexingRequest env.toBuild actionName libraries) d ∧
      d.expandedInputs = link.rawInputs.map (·.shown link p.decision.includeStatic) ∧
      outputs.action.ReadsFirst {} d.expandedInputs) ∧
    (∃ c, plan.MadeFrom env link (p.finalRequest env (some outputs)) c ∧
      c.expandedInputs = link.ownInputs.map (·.linked) ++
        (p.mergedObject env.toBuild :: (linkstampObjects (p.finalRequest env (some outputs))).toList).map
          (.object <| .ofArtifact ·) ++
        link.laterInputs.map (·.linked) ∧
      plan.action.ReadsFirst plan.bitcodeMapping c.expandedInputs) ∧
    ∀ i : RawInput, ¬ i.IsBitcode link → (i.shown link p.decision.includeStatic).artifact = i.linked.artifact := by
  have hlink := (Link.backends_planned_of_yields hp).link_eq
  subst hlink
  obtain ⟨-, -, houtputs⟩ := BackendPlan.indexed_of_yields hphase
  obtain ⟨⟨c, hmade⟩, hindexing, -, hmapping⟩ := planned_of_yields hfinal
  have hstep : .indexing outputs.action ∈ plan.innerSteps := by
    rw [LinkPlan.mem_innerSteps, hindexing]
    exact Or.inl ⟨_, rfl, rfl⟩
  have hwrites := (BackendPlan.serves_of_yields hcollect.collectsInputs houtputs).mergedObject
  obtain ⟨actionName, libraries, d, hlibraries, hd, haction, -, hmerged⟩ := BackendPlan.indexing_of_yields houtputs
  refine ⟨⟨actionName, libraries, d, hlibraries, hd, haction, ?_, ?_⟩, ⟨c, hmade, ?_, ?_⟩, fun i hi => ?_⟩
  · rw [hcollect _ d hd]
    exact BackendPlan.expandedInputs_indexingCollection hsupports hlibraries hviews
  · rw [haction]
    exact readsFirst_action _ _ _ d
  · rw [hcollect _ c hmade.collected, ← hmerged]
    exact BackendPlan.expandedInputs_finalCollection hsupports hapart hstep hwrites
  · rw [hmade.action_eq, hmapping]
    exact readsFirst_action _ _ _ c
  · cases i with
    | own o => exact LtoContext.minimizedOrSelf_of_not_isBitcode hi
    | member l m => exact LibraryInput.view_of_not_isBitcode hi
    | library l => exact LibraryInput.artifact_seen

namespace Sample

/-- The executable with an object that is bitcode, one that is not, and a linkstamp. -/
def mixedLink : Link :=
  { link (env [.supportsStartEndLib]) ["app/main.o", "app/util.o"] ["app/main.o"] with
    linkstamps := .ofList [{ source := .source (.ofString "stamp/version.cc") }] }

/-- The library is listed by its member, and the linkstamp comes behind the merged object. -/
theorem mixedLink_in_order :
    ∃ p outputs plan, (mixedLink.planBackends (env [.supportsStartEndLib])).Yields p ∧
      (p.planIndexing (env [.supportsStartEndLib])).Yields (.indexed p outputs) ∧
      ((LtoPhase.indexed p outputs).plan (env [.supportsStartEndLib])).Yields plan ∧
      (env [.supportsStartEndLib]).CollectsAsUsual ∧ mixedLink.ViewsApart p.decision.includeStatic ∧
      mixedLink.GivenApart (env [.supportsStartEndLib]).toBuild plan ∧
      (∃ d : Collection, outputs.action.ReadsFirst {} d.expandedInputs ∧
        d.expandedInputs.map (·.artifact.text) = ["bin/app/main.o.min", "bin/app/util.o", "bin/dep/dep.o.min"]) ∧
      ∃ c : Collection, plan.action.ReadsFirst plan.bitcodeMapping c.expandedInputs ∧
        c.expandedInputs.map (·.artifact.text) =
          ["bin/app/main.o", "bin/app/util.o", "bin/app/app.lto.merged.o", "bin/app/_objs/app/stamp/version.o",
            "bin/dep/dep.o"] := by
  obtain ⟨plan, hplan, hcheck⟩ := Planning.exists_yields_of_check
    (mixedLink.planWithLto (env [.supportsStartEndLib]))
    (fun plan => plan.ltoIndexing.isSome &&
      decide (mixedLink.GivenApart (env [.supportsStartEndLib]).toBuild plan)) (by decide +kernel)
  rw [Bool.and_eq_true, decide_eq_true_eq] at hcheck
  obtain ⟨hindexed, hapart⟩ := hcheck
  obtain ⟨p, outputs, hp, hphase, hfinal, -⟩ := Link.indexed_phases_of_yields hplan hindexed
  have hplanned := Link.backends_planned_of_yields hp
  have hinclude : p.decision.includeStatic = true := by
    rw [hplanned.decision_eq]
    decide +kernel
  have hviews : mixedLink.ViewsApart p.decision.includeStatic := by
    refine ⟨by decide +kernel, fun l hl => ?_⟩
    cases List.mem_singleton.1 hl
    exact List.pairwise_singleton _ _
  obtain ⟨⟨-, -, d, -, -, -, hshown, hindexer⟩, ⟨c, -, hlinked, hlinker⟩, -⟩ :=
    Link.indexer_sees_link_order hp hphase hfinal (collectsAsUsual _) (by decide +kernel) hviews hapart
  refine ⟨p, outputs, plan, hp, hphase, hfinal, collectsAsUsual _, hviews, hapart, ⟨d, hindexer, ?_⟩, c, hlinker, ?_⟩
  · rw [hshown, hinclude]
    decide +kernel
  · rw [hlinked]
    unfold Link.linkstampObjects BackendPlan.finalRequest BackendPlan.mergedObject
    rw [hplanned.link_eq]
    dsimp only [Link.finalAssembly, Link.finalRequest]
    decide +kernel

end Sample
end LinkPlanner
