import LinkPlanner.Proofs.IndexedLibraries

/-! What the indexer is given. It is to see the link in its minimized form: own bitcode and the members that
take part in the indexing as their minimized files, other bitcode members as the objects of their shared
backends, and never the archives that hold them. The libraries are rewritten for this, but the linker sees
their members only if it can list them one by one, because nothing is mapped for the indexer that would make
the collector expand them. -/

namespace LinkPlanner

/-- What an action lists before the runtime libraries, of which each has an entry at the end. -/
def LinkAction.listed (action : LinkAction) (runtimeLibraries : Nat) : List LibraryToLink :=
  let entries := action.commandLine.linkVariables.librariesToLink
  entries.take (entries.length - runtimeLibraries)

namespace BackendPlan

/-- The indexer is given the link in its minimized form. -/
structure MinimizedView (p : BackendPlan) (action : LinkAction) : Prop where
  own : ∀ o ∈ p.link.objects.toList, p.link.lto.isBitcode o.artifact = true →
    action.inputs.contains (p.link.lto.minimizedOrSelf o.artifact) = true
  indexedMembers : p.decision.includeStatic = true → ∀ l m, (l, m) ∈ p.link.bitcodeMembers →
    l.category.isStatic = true → action.inputs.contains (l.lto.minimizedOrSelf m) = true
  otherMembers : p.decision.includeStatic = false → ∀ l m, (l, m) ∈ p.link.bitcodeMembers →
    l.category.isStatic = true → ∃ b, l.sharedBackend? m = some b ∧ action.inputs.contains b.objectFile = true
  noArchive : ∀ l m, (l, m) ∈ p.link.bitcodeMembers → l.category.isStatic = true →
    ∀ path whole, .staticLibrary path whole ∈ action.listed p.link.runtimeLibraries.length →
      (path == l.artifact) = false

end BackendPlan

/-! ### Runtime libraries -/

namespace Link

/-- The entry for a runtime library: an archive that is not kept whole, or a library that is found at run time. -/
def runtimeEntry (link : Link) (a : Artifact) : LibraryToLink :=
  if link.runtimeLibraryCategory.isStatic then .staticLibrary a false
  else CollectionRequest.listDynamic (.ofArtifact a link.runtimeLibraryCategory)

theorem list_runtimeLibrary (link : Link) (r : CollectionRequest) (a : Artifact) :
    r.list (.library { LibraryInput.ofArtifact a link.runtimeLibraryCategory with disableWholeArchive := true }) =
      some (link.runtimeEntry a) := by
  unfold runtimeEntry
  cases hstatic : link.runtimeLibraryCategory.isStatic with
  | false =>
      rw [CollectionRequest.list_library_of_not_static hstatic]
      rfl
  | true =>
      -- a runtime library has no members to be expanded into
      rw [CollectionRequest.list_library_of_not_expands hstatic (CollectionRequest.expands_of_not_hasObjects rfl)]
      rfl

theorem filterMap_runtimeInputs (link : Link) (r : CollectionRequest) :
    link.runtimeInputs.filterMap r.list = link.runtimeLibraries.map link.runtimeEntry := by
  unfold runtimeInputs
  rw [List.filterMap_map, ← List.filterMap_eq_map]
  exact congrArg (List.filterMap · _) (funext (list_runtimeLibrary link r))

theorem length_filterMap_runtimeInputs (link : Link) (r : CollectionRequest) :
    (link.runtimeInputs.filterMap r.list).length = link.runtimeLibraries.length := by
  rw [filterMap_runtimeInputs]
  exact List.length_map _

end Link

namespace BackendPlan

variable {env : Env} {p : BackendPlan} {outputs : IndexingOutputs}

/-- What the collector is asked for the indexing link. -/
def indexingCollection (env : Env) (p : BackendPlan) (actionName : ActionName)
    (libraries : OrderedSet LibraryInput) : CollectionRequest :=
  p.link.collectionRequest env.toBuild (p.indexingRequest env.toBuild actionName libraries)

section Indexing

variable {actionName : ActionName} {libraries : OrderedSet LibraryInput}
  (haction : outputs.action = p.link.action env.toBuild (p.indexingRequest env.toBuild actionName libraries)
    (p.indexingCollection env actionName libraries).collect)
include haction

/-- Nothing is mapped for the indexer: what stands for an input is read under its own name. -/
theorem indexing_inputs_contains {i j : LinkerInput} {a : Artifact}
    (hi : i ∈ p.link.linkerInputs (p.indexingRequest env.toBuild actionName libraries))
    (hj : j ∈ (p.indexingCollection env actionName libraries).expand i) (hja : (j.artifact == a) = true) :
    outputs.action.inputs.contains a = true := by
  have hexpanded := CollectionRequest.mem_collect_expandedInputs.2 ⟨i, hi, hj⟩
  have hmap : (p.indexingRequest env.toBuild actionName libraries).mapping.map j.artifact = j.artifact :=
    BitcodeMapping.map_of_not_contains rfl
  rw [haction, Link.inputs_action, ← OrderedSet.contains_congr hja, ← hmap]
  exact Link.allInputs_contains_of_expanded hexpanded

theorem mem_indexing_listed {t : LibraryToLink} :
    t ∈ outputs.action.listed p.link.runtimeLibraries.length ↔
      (∃ o ∈ p.link.indexingObjects.toList,
        (p.indexingCollection env actionName libraries).list (.object o) = some t) ∨
      ∃ l ∈ libraries.toList, (p.indexingCollection env actionName libraries).list (.library l) = some t := by
  have hentries : outputs.action.commandLine.linkVariables.librariesToLink =
      (p.link.indexingObjects.toList.map LinkerInput.object ++ [] ++ libraries.toList.map LinkerInput.library).filterMap
          (p.indexingCollection env actionName libraries).list ++
        p.link.runtimeInputs.filterMap (p.indexingCollection env actionName libraries).list := by
    rw [haction, Link.librariesToLink_action, ← List.filterMap_append]
    rfl
  change t ∈ (List.take (List.length _ - _) _) ↔ _
  rw [hentries, List.length_append, Link.length_filterMap_runtimeInputs, Nat.add_sub_cancel, List.take_left']
  · simp only [List.mem_filterMap, List.mem_append, List.mem_map, List.append_nil]
    constructor
    · rintro ⟨i, ⟨o, ho, rfl⟩ | ⟨l, hl, rfl⟩, hlist⟩
      · exact Or.inl ⟨o, ho, hlist⟩
      · exact Or.inr ⟨l, hl, hlist⟩
    · rintro (⟨o, ho, hlist⟩ | ⟨l, hl, hlist⟩)
      · exact ⟨_, Or.inl ⟨o, ho, rfl⟩, hlist⟩
      · exact ⟨_, Or.inr ⟨l, hl, rfl⟩, hlist⟩
  · rfl

theorem indexing_inputs_contains_own {o : ObjectInput} (ho : o ∈ p.link.objects.toList) :
    outputs.action.inputs.contains (p.link.lto.minimizedOrSelf o.artifact) = true := by
  have hcontains : p.link.indexingObjects.contains
      (o.withArtifact (p.link.lto.minimizedOrSelf o.artifact)) = true :=
    OrderedSet.contains_ofList_of_mem (List.mem_map_of_mem ho)
  obtain ⟨q, hq, hqo⟩ := OrderedSet.contains_iff.1 hcontains
  exact indexing_inputs_contains haction (Link.mem_linkerInputs.2 (Or.inl ⟨q, hq, rfl⟩))
    (List.mem_singleton_self _) hqo

variable (hlibraries : p.link.indexingLibraries p.decision.includeStatic = .ok libraries)
include hlibraries

/-- Where the linker can list members one by one, the indexer reads what stands for a member. -/
theorem indexing_inputs_contains_member (hsupports : env.features.isEnabled .supportsStartEndLib = true)
    {l : LibraryInput} {m n : Artifact} (hl : l ∈ p.link.libraries.toList) (hm : m ∈ l.objects.toList)
    (hstatic : l.category.isStatic = true)
    (hn : Link.indexingMember p.decision.includeStatic l m = .ok n) : outputs.action.inputs.contains n = true := by
  obtain ⟨k, hk, hlk⟩ := (Link.indexingLibraries_library hlibraries).2 l hl
  obtain ⟨n', hn', hcontains⟩ := Link.indexingLibrary_member hm hlk
  rw [hn] at hn'
  cases hn'
  obtain ⟨q, hq, hqn⟩ := OrderedSet.contains_iff.1 hcontains
  have hexpands : (p.indexingCollection env actionName libraries).expands k = true :=
    CollectionRequest.expands_of_supportsStartEndLib ((Link.indexingLibrary_keeps hlk).2 ▸ hstatic) hq hsupports
  refine indexing_inputs_contains haction (Link.mem_linkerInputs.2 (Or.inr (Or.inr (Or.inl ⟨k, hk, rfl⟩))))
    (j := .object (.ofArtifact q)) ?_ hqn
  rw [CollectionRequest.expand_library_of_expands hexpands]
  exact List.mem_map_of_mem hq

/-- Where the linker can list members one by one, an archive is listed only if it has no members. -/
theorem not_hasObjects_of_listed (hsupports : env.features.isEnabled .supportsStartEndLib = true)
    {path : Artifact} {whole : Bool}
    (ht : .staticLibrary path whole ∈ outputs.action.listed p.link.runtimeLibraries.length) :
    ∃ l ∈ p.link.libraries.toList, path = l.artifact ∧ l.hasObjects = false := by
  rcases (mem_indexing_listed haction).1 ht with ⟨o, -, hlist⟩ | ⟨k, hk, hlist⟩
  · obtain ⟨a, -, heq⟩ := Option.map_eq_some_iff.1 hlist
    cases heq
  · obtain ⟨l, hl, hlk⟩ := (Link.indexingLibraries_library hlibraries).1 k hk
    obtain ⟨rfl, hstatic, hexpands⟩ := CollectionRequest.list_library_eq_staticLibrary hlist
    refine ⟨l, hl, (Link.indexingLibrary_keeps hlk).1, ?_⟩
    cases hobjects : l.hasObjects with
    | false => rfl
    | true =>
        obtain ⟨m, hm⟩ := CollectionRequest.exists_mem_of_hasObjects hobjects
        obtain ⟨n, -, hcontains⟩ := Link.indexingLibrary_member hm hlk
        obtain ⟨q, hq, -⟩ := OrderedSet.contains_iff.1 hcontains
        have hyes : (p.indexingCollection env actionName libraries).expands k = true :=
          CollectionRequest.expands_of_supportsStartEndLib hstatic hq hsupports
        rw [hexpands] at hyes
        cases hyes

/-- Otherwise every static library is listed as an archive. -/
theorem archive_listed (hsupports : env.features.isEnabled .supportsStartEndLib = false) {l : LibraryInput}
    (hl : l ∈ p.link.libraries.toList) (hstatic : l.category.isStatic = true) :
    ∃ whole, .staticLibrary l.artifact whole ∈ outputs.action.listed p.link.runtimeLibraries.length := by
  obtain ⟨k, hk, hlk⟩ := (Link.indexingLibraries_library hlibraries).2 l hl
  obtain ⟨hartifact, hcategory⟩ := Link.indexingLibrary_keeps hlk
  have hnot : (p.indexingCollection env actionName libraries).expands k = false := by
    have hmapped : k.objects.toList.any (p.indexingCollection env actionName libraries).mapping.contains = false :=
      List.any_eq_false.2 fun m _ => Bool.false_ne_true
    unfold CollectionRequest.expands
    rw [hmapped, Bool.or_false]
    change (_ && env.features.isEnabled .supportsStartEndLib) = false
    rw [hsupports, Bool.and_false]
  rw [← hcategory] at hstatic
  rw [← hartifact]
  exact ⟨_, (mem_indexing_listed haction).2
    (Or.inr ⟨k, hk, CollectionRequest.list_library_of_not_expands hstatic hnot⟩)⟩

/-- Where the linker can list the members of archives, the indexer is given the link in its minimized form. -/
theorem Planned.minimizedView (hp : p.Planned env p.link)
    (hsupports : ∀ {l m}, (l, m) ∈ p.link.bitcodeMembers → l.category.isStatic = true →
      env.features.isEnabled .supportsStartEndLib = true) : p.MinimizedView outputs.action := by
  constructor
  · intro o ho _
    exact indexing_inputs_contains_own haction ho
  · intro hinclude l m hmem hstatic
    obtain ⟨hl, hm, -⟩ := Link.mem_bitcodeMembers.1 hmem
    exact indexing_inputs_contains_member haction hlibraries (hsupports hmem hstatic) hl hm hstatic
      (by rw [hinclude]; rfl)
  · intro hinclude l m hmem hstatic
    obtain ⟨hl, hm, -⟩ := Link.mem_bitcodeMembers.1 hmem
    obtain ⟨b, hb⟩ := hp.sharedBackend_of_member hinclude hmem
    have hn : Link.indexingMember p.decision.includeStatic l m = .ok b.objectFile := by
      unfold Link.indexingMember
      rw [hinclude, hb]
      rfl
    exact ⟨b, hb, indexing_inputs_contains_member haction hlibraries (hsupports hmem hstatic) hl hm hstatic hn⟩
  · intro l m hmem hstatic path whole hlisted
    obtain ⟨hl, hm, -⟩ := Link.mem_bitcodeMembers.1 hmem
    obtain ⟨k, hk, rfl, hnone⟩ := not_hasObjects_of_listed haction hlibraries (hsupports hmem hstatic) hlisted
    cases hsame : k.artifact == l.artifact with
    | false => rfl
    | true =>
        cases OrderedSet.eq_of_mem_of_beq hk hl hsame
        rw [CollectionRequest.hasObjects_of_mem hm] at hnone
        cases hnone

/-- Otherwise any archive that has a bitcode member is listed in the place of its members. -/
theorem not_static_of_minimizedView (hview : p.MinimizedView outputs.action)
    (hsupports : env.features.isEnabled .supportsStartEndLib = false) {l : LibraryInput} {m : Artifact}
    (hmem : (l, m) ∈ p.link.bitcodeMembers) : l.category.isStatic = false := by
  cases hstatic : l.category.isStatic with
  | false => rfl
  | true =>
      obtain ⟨whole, hlisted⟩ :=
        archive_listed haction hlibraries hsupports (Link.mem_bitcodeMembers.1 hmem).1 hstatic
      have hnot := hview.noArchive l m hmem hstatic l.artifact whole hlisted
      rw [BEq.rfl] at hnot
      cases hnot

end Indexing

end BackendPlan

/-- Whatever else is on or off, the indexer is given the link in its minimized form exactly if the linker can
list the members of archives one by one or no archive has a bitcode member. -/
theorem Link.minimized_view_iff {env : Env} {link : Link} {p : BackendPlan} {outputs : IndexingOutputs}
    (hp : (link.planBackends env).Yields p) (hphase : (p.planIndexing env).Yields (.indexed p outputs))
    (hcollect : env.CollectsAsUsual) :
    p.MinimizedView outputs.action ↔
      env.features.isEnabled .supportsStartEndLib = true ∨
        ∀ l m, (l, m) ∈ link.bitcodeMembers → l.category.isStatic = false := by
  have hplanned := Link.backends_planned_of_yields hp
  have hlink := hplanned.link_eq
  subst hlink
  obtain ⟨-, -, houtputs⟩ := BackendPlan.indexed_of_yields hphase
  obtain ⟨actionName, libraries, c, hlibraries, hc, haction, -, -⟩ := BackendPlan.indexing_of_yields houtputs
  rw [hcollect _ _ hc] at haction
  constructor
  · intro hview
    cases hsupports : env.features.isEnabled .supportsStartEndLib with
    | true => exact Or.inl rfl
    | false =>
        exact Or.inr fun l m hmem => BackendPlan.not_static_of_minimizedView haction hlibraries hview hsupports hmem
  · intro hcondition
    refine hplanned.minimizedView haction hlibraries fun {l m} hmem hstatic => ?_
    refine hcondition.resolve_right fun hnone => ?_
    rw [hnone l m hmem] at hstatic
    cases hstatic

namespace Sample

/-- A linker that lists members one by one reads the minimized member. -/
theorem member_minimized :
    ∃ p outputs, ((link (env [.supportsStartEndLib]) ["app/main.o"] []).planBackends
        (env [.supportsStartEndLib])).Yields p ∧
      (p.planIndexing (env [.supportsStartEndLib])).Yields (.indexed p outputs) ∧
      (env [.supportsStartEndLib]).CollectsAsUsual ∧ p.MinimizedView outputs.action := by
  obtain ⟨plan, hplan, hindexed⟩ := Planning.exists_yields_of_check
    ((link (env [.supportsStartEndLib]) ["app/main.o"] []).planWithLto (env [.supportsStartEndLib]))
    (fun plan => plan.ltoIndexing.isSome) (by decide +kernel)
  obtain ⟨p, outputs, hp, hphase, -, -⟩ := Link.indexed_phases_of_yields hplan hindexed
  have hcollect := collectsAsUsual [.supportsStartEndLib]
  exact ⟨p, outputs, hp, hphase, hcollect,
    (Link.minimized_view_iff hp hphase hcollect).2 (Or.inl (by decide +kernel))⟩

/-- Any other linker is given the archive, and never sees the minimized member in it. -/
theorem archive_given_to_indexer :
    ∃ p outputs, ((link (env []) ["app/main.o"] []).planBackends (env [])).Yields p ∧
      (p.planIndexing (env [])).Yields (.indexed p outputs) ∧ p.decision.includeStatic = true ∧
      outputs.action.inputs.contains ((library (env [])).lto.minimizedOrSelf (file "dep/dep.o")) = false ∧
      outputs.action.inputs.contains (library (env [])).artifact = true ∧ ¬ p.MinimizedView outputs.action := by
  obtain ⟨plan, hplan, hcheck⟩ := Planning.exists_yields_of_check
    ((link (env []) ["app/main.o"] []).planWithLto (env []))
    (fun plan => plan.ltoIndexing.any fun action =>
      !action.inputs.contains ((library (env [])).lto.minimizedOrSelf (file "dep/dep.o")) &&
        action.inputs.contains (library (env [])).artifact)
    (by decide +kernel)
  have hindexed : plan.ltoIndexing.isSome = true := by
    cases hindexing : plan.ltoIndexing with
    | none =>
        rw [hindexing] at hcheck
        cases hcheck
    | some action => rfl
  obtain ⟨p, outputs, hp, hphase, -, heq⟩ := Link.indexed_phases_of_yields hplan hindexed
  rw [heq, Option.any_some, Bool.and_eq_true, Bool.not_eq_true'] at hcheck
  have hplanned := Link.backends_planned_of_yields hp
  have hinclude : p.decision.includeStatic = true := by
    rw [hplanned.decision_eq]
    decide +kernel
  refine ⟨p, outputs, hp, hphase, hinclude, hcheck.1, hcheck.2, fun hview => ?_⟩
  have hlibrary : library (env []) ∈ (link (env []) ["app/main.o"] []).libraries.toList :=
    List.mem_singleton_self _
  have hmem : (library (env []), file "dep/dep.o") ∈ p.link.bitcodeMembers := by
    rw [hplanned.link_eq, Link.mem_bitcodeMembers]
    exact ⟨hlibrary, List.mem_singleton_self _, _, hlibrary, by decide +kernel⟩
  have hcontains := hview.indexedMembers hinclude _ _ hmem rfl
  rw [hcheck.1] at hcontains
  cases hcontains

end Sample
end LinkPlanner
