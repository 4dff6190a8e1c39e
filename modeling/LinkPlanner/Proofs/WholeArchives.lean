import LinkPlanner.Proofs.ConfiguredActions
import LinkPlanner.Proofs.LinkOrder

/-! Which static libraries a link keeps whole. The final link and the indexing link list their libraries one by one,
and each entry says for itself whether all members are kept. What decides is the library and the link, and not the
action; for the runtime libraries, which come last, nothing is asked. -/

namespace LinkPlanner

namespace LibraryToLink

/-- Whether all members are kept of the static library that the entry lists. No other entry says so. -/
def whole? : LibraryToLink → Option Bool
  | objectFileGroup _ whole | staticLibrary _ whole => some whole
  | _ => none

/-- The entry lists the library, whose members the action knows under these names. -/
inductive Lists (name : Artifact → Artifact) (l : LibraryInput) : LibraryToLink → Prop
  | archive {whole : Bool} (hstatic : l.category.isStatic = true) : Lists name l (.staticLibrary l.artifact whole)
  | group {paths : List Artifact} {whole : Bool} (hstatic : l.category.isStatic = true)
      (hmembers : ∀ q ∈ paths, ∃ m ∈ l.objects.toList, q = name m) : Lists name l (.objectFileGroup paths whole)
  | dynamic (hdynamic : l.category.isStatic = false) : Lists name l (CollectionRequest.listDynamic l)

end LibraryToLink

/-- The library is kept whole: it does not forbid it, and the link needs it or the library always does. -/
def Link.KeepsWhole (build : Build) (link : Link) (l : LibraryInput) : Prop :=
  l.disableWholeArchive = false ∧ (link.keepWhole build = true ∨ l.category.isAlwaysLink = true)

/-- How an action lists what is linked: objects, then the libraries, and last the runtime libraries, one entry for
each. Libraries have their members under these names, and one may go without an entry if all its members are hidden.
The entries of static libraries are kept whole by the rule, and those of runtime libraries are not. -/
structure LinkAction.ListsWhole (build : Build) (link : Link) (name : LibraryInput → Artifact → Artifact)
    (hidden : Artifact → Bool) (action : LinkAction) : Prop where
  entries : ∃ (objects : List Artifact) (entry : LibraryInput → Option LibraryToLink),
    action.commandLine.linkVariables.librariesToLink =
        objects.map .objectFile ++ link.libraries.toList.filterMap entry ++
          link.runtimeLibraries.map link.runtimeEntry ∧
      ∀ l ∈ link.libraries.toList,
        (entry l = none → l.hasObjects = true ∧ ∀ m ∈ l.objects.toList, hidden m = true) ∧
          ∀ t ∈ entry l, t.Lists (name l) l ∧ ∀ whole ∈ t.whole?, whole = true ↔ link.KeepsWhole build l
  runtime : ∀ a ∈ link.runtimeLibraries, (link.runtimeEntry a).whole? ≠ some true

/-! ### Entries -/

namespace CollectionRequest

theorem whole?_listDynamic (l : LibraryInput) : (listDynamic l).whole? = none := by
  unfold listDynamic
  split
  · rfl
  · split <;> rfl

variable {r : CollectionRequest} {l : LibraryInput}

theorem keepsWhole_iff :
    r.keepsWhole l = true ↔ l.disableWholeArchive = false ∧ (r.keepWhole = true ∨ l.category.isAlwaysLink = true) := by
  unfold keepsWhole
  rw [Bool.and_eq_true, Bool.not_eq_true', Bool.or_eq_true]

/-- An entry lists its library and says of a static one whether it is kept whole. -/
theorem lists_of_list {t : LibraryToLink} (h : r.list (.library l) = some t) :
    t.Lists r.mapping.map l ∧ ∀ whole ∈ t.whole?, whole = r.keepsWhole l := by
  cases listed_of_list h with
  | dynamic hdynamic =>
      refine ⟨.dynamic hdynamic, ?_⟩
      rw [whole?_listDynamic]
      exact fun _ hnone => nomatch hnone
  | archive hstatic => exact ⟨.archive hstatic, fun whole hwhole => (Option.some.inj hwhole).symm⟩
  | group hexpands =>
      refine ⟨.group (isStatic_of_expands hexpands) fun q hq => ?_, fun whole hwhole => (Option.some.inj hwhole).symm⟩
      obtain ⟨m, hm, hmq⟩ := List.mem_filterMap.1 hq
      exact ⟨m, hm, map_of_listedObject? hmq⟩

/-- A library is listed unless all its members are indexed. -/
theorem isIndexed_of_list_eq_none (h : r.list (.library l) = none) :
    l.hasObjects = true ∧ ∀ m ∈ l.objects.toList, r.mapping.isIndexed m = true := by
  cases listed_of_list h with
  | hidden hexpands hnone =>
      refine ⟨?_, fun m hm => ?_⟩
      · cases hobjects : l.hasObjects with
        | true => rfl
        | false =>
            rw [expands_of_not_hasObjects hobjects] at hexpands
            cases hexpands
      · have hskipped := List.filterMap_eq_nil_iff.1 hnone m hm
        unfold listedObject? at hskipped
        split at hskipped
        · rename_i hindexed
          exact (Bool.and_eq_true_iff.1 hindexed).2
        · cases hskipped

end CollectionRequest

/-! ### Actions -/

namespace Link

variable {build : Build} {link : Link}

theorem whole?_runtimeEntry (link : Link) (a : Artifact) : (link.runtimeEntry a).whole? ≠ some true := by
  unfold runtimeEntry
  split
  · exact fun h => nomatch h
  · rw [CollectionRequest.whole?_listDynamic]
    exact fun h => nomatch h

/-- Objects are listed before all libraries, and the runtime libraries after them. -/
theorem librariesToLink_collect (build : Build) (link : Link) (r : ActionRequest) :
    ∃ objects : List Artifact, (link.collectionRequest build r).collect.librariesToLink =
      objects.map .objectFile ++
        r.libraries.toList.filterMap (fun l => (link.collectionRequest build r).list (.library l)) ++
        link.runtimeLibraries.map link.runtimeEntry := by
  refine ⟨(r.objects.toList.map (·.artifact) ++ (linkstampObjects r).toList).filterMap
    (link.collectionRequest build r).listedObject?, ?_⟩
  change (link.linkerInputs r).filterMap (link.collectionRequest build r).list = _
  unfold linkerInputs
  rw [List.filterMap_append, List.filterMap_append, List.filterMap_append, filterMap_runtimeInputs, List.filterMap_map,
    List.filterMap_map, List.filterMap_map, List.map_filterMap, List.filterMap_append, List.filterMap_map]
  rfl

/-- An assembled action lists the libraries of its request, which stand for those of the link, by one rule. -/
theorem listsWhole_action {r : ActionRequest} (shown : LibraryInput → LibraryInput)
    {name : LibraryInput → Artifact → Artifact} {hidden : Artifact → Bool}
    (hlibraries : r.libraries.toList = link.libraries.toList.map shown)
    (hlists : ∀ l ∈ link.libraries.toList, ∀ t : LibraryToLink,
      t.Lists r.mapping.map (shown l) → t.Lists (name l) l)
    (hkeeps : ∀ l, (shown l).disableWholeArchive = l.disableWholeArchive ∧ (shown l).category = l.category)
    (hhidden : ∀ l ∈ link.libraries.toList, (shown l).hasObjects = true →
      (∀ m ∈ (shown l).objects.toList, r.mapping.isIndexed m = true) →
        l.hasObjects = true ∧ ∀ m ∈ l.objects.toList, hidden m = true) :
    (link.action build r (link.collectionRequest build r).collect).ListsWhole build link name hidden := by
  obtain ⟨objects, hlisted⟩ := librariesToLink_collect build link r
  rw [hlibraries, List.filterMap_map] at hlisted
  refine ⟨⟨objects, fun l => (link.collectionRequest build r).list (.library (shown l)), hlisted, fun l hl => ⟨?_, ?_⟩⟩,
    fun a _ => link.whole?_runtimeEntry a⟩
  · intro hnone
    obtain ⟨hobjects, hindexed⟩ := CollectionRequest.isIndexed_of_list_eq_none hnone
    exact hhidden l hl hobjects hindexed
  · intro t ht
    obtain ⟨hlists', hwhole⟩ := CollectionRequest.lists_of_list ht
    refine ⟨hlists l hl t hlists', fun whole hmem => ?_⟩
    rw [hwhole whole hmem, CollectionRequest.keepsWhole_iff, (hkeeps l).1, (hkeeps l).2]
    rfl

end Link

/-! ### The library that the indexer sees -/

namespace LibraryInput

variable {includeStatic : Bool} {l : LibraryInput}

theorem disableWholeArchive_seen : (l.seen includeStatic).disableWholeArchive = l.disableWholeArchive := by
  unfold seen
  split <;> rfl

theorem listDynamic_seen : CollectionRequest.listDynamic (l.seen includeStatic) = CollectionRequest.listDynamic l := by
  unfold CollectionRequest.listDynamic
  rw [category_seen, artifact_seen]

/-- The members that the indexer sees are the views of members. -/
theorem exists_view_of_mem_seen {q : Artifact} (hq : q ∈ (l.seen includeStatic).objects.toList) :
    ∃ m ∈ l.objects.toList, q = l.view includeStatic m := by
  have hobjects := CollectionRequest.hasObjects_of_mem hq
  rw [hasObjects_seen] at hobjects
  unfold seen at hq
  rw [if_pos hobjects] at hq
  obtain ⟨m, hm, rfl⟩ := List.mem_map.1 (OrderedSet.mem_of_mem_ofList hq)
  exact ⟨m, hm, rfl⟩

/-- To list the library that the indexer sees is to list the library with its members in view. -/
theorem lists_of_seen {t : LibraryToLink} (h : t.Lists (BitcodeMapping.map {}) (l.seen includeStatic)) :
    t.Lists (l.view includeStatic) l := by
  cases h with
  | archive hstatic =>
      rw [artifact_seen]
      exact .archive (category_seen ▸ hstatic)
  | group hstatic hmembers =>
      refine .group (category_seen ▸ hstatic) fun q hq => ?_
      obtain ⟨n, hn, rfl⟩ := hmembers q hq
      obtain ⟨m, hm, rfl⟩ := exists_view_of_mem_seen hn
      exact ⟨m, hm, rfl⟩
  | dynamic hdynamic =>
      rw [listDynamic_seen]
      exact .dynamic (category_seen ▸ hdynamic)

end LibraryInput

/-! ### Plans -/

namespace Link

/-- A link that makes an archive keeps no library whole of its own accord. -/
theorem keepsWhole_archive_iff {build : Build} {link : Link} (hcheck : link.check build = .ok ())
    (harchive : link.linkType.isArchive = true) (l : LibraryInput) :
    link.KeepsWhole build l ↔ l.disableWholeArchive = false ∧ l.category.isAlwaysLink = true := by
  have hkeep := conditions_of_check hcheck (!link.linkType.isArchive || !link.keepWhole build, .archiveKeptWhole)
    (by simp [conditions])
  rw [harchive, Bool.not_true, Bool.false_or, Bool.not_eq_true'] at hkeep
  unfold KeepsWhole
  rw [hkeep]
  simp

/-- Both links of a plan list their libraries by the same rule, the final link with the members mapped and the indexing
link with the members as the indexer sees them. Archives keep nothing whole but what always is. -/
theorem whole_archives_listed {env : Env} {link : Link} {plan : LinkPlan} (hplan : link.Yields env plan)
    (hcollect : env.CollectsAsUsual) :
    plan.action.ListsWhole env.toBuild link (fun _ => plan.bitcodeMapping.map) plan.bitcodeMapping.isIndexed ∧
      (∀ action ∈ plan.ltoIndexing, ∃ includeStatic,
        action.ListsWhole env.toBuild link (·.view includeStatic) fun _ => false) ∧
      (link.linkType.isArchive = true → ∀ l, link.KeepsWhole env.toBuild l ↔
        l.disableWholeArchive = false ∧ l.category.isAlwaysLink = true) := by
  refine ⟨?_, fun action haction => ?_, keepsWhole_archive_iff (check_of_yields hplan)⟩
  · obtain ⟨decision, indexing, c, hmade⟩ := made_of_yields hplan
    rw [hmade.action_eq, hcollect _ c hmade.collected]
    exact listsWhole_action id (List.map_id _).symm (fun l _ t ht => ht) (fun l => ⟨rfl, rfl⟩)
      fun l _ hobjects hindexed => ⟨hobjects, hindexed⟩
  · obtain ⟨p, outputs, rfl, -, -, houtputs, rfl⟩ := assembled_of_mem_ltoIndexing hplan haction
    obtain ⟨actionName, libraries, c, hlibraries, hc, heq, -⟩ := BackendPlan.indexing_of_yields houtputs
    refine ⟨p.decision.includeStatic, ?_⟩
    rw [heq, hcollect _ c hc]
    refine listsWhole_action (·.seen p.decision.includeStatic) (libraries_seen hlibraries)
      (fun l _ t ht => LibraryInput.lists_of_seen ht)
      (fun l => ⟨LibraryInput.disableWholeArchive_seen, LibraryInput.category_seen⟩) fun l _ hobjects hindexed => ?_
    -- nothing is mapped for the indexer, so no member is hidden
    obtain ⟨m, hm⟩ := CollectionRequest.exists_mem_of_hasObjects hobjects
    exact absurd (hindexed m hm) Bool.false_ne_true

end Link

namespace Sample

/-- An archive that always is kept whole, unless it says otherwise for itself. -/
def alwaysLinkLibrary (path : String) (disableWholeArchive : Bool) : LibraryInput :=
  { LibraryInput.ofArtifact (file path) .alwaysLinkStaticLibrary with disableWholeArchive }

/-- An executable that asks for whole archives, over three libraries and two runtime libraries. -/
def wholeArchiveLink : Link :=
  { link (env []) ["app/main.o"] ["app/main.o"] with
    libraries := .ofList
      [library (env []), alwaysLinkLibrary "all/liball.a" false, alwaysLinkLibrary "some/libsome.a" true]
    runtimeLibraries := [file "rt/libunwind.a", file "rt/libc.a"]
    runtimeLibraryCategory := .alwaysLinkStaticLibrary
    wholeArchive := true }

/-- Which of the archives and groups that an action lists are kept whole. -/
def wholeFlags (action : LinkAction) : List Bool :=
  action.commandLine.linkVariables.librariesToLink.filterMap (·.whole?)

/-- The final link does not list the first library, whose member is indexed. Neither link keeps the last library or a
runtime library whole, whatever their categories and the request. -/
theorem wholeArchiveLink_listed :
    ∃ plan, wholeArchiveLink.Yields (env []) plan ∧ (env []).CollectsAsUsual ∧
      wholeFlags plan.action = [true, false, false, false] ∧
      plan.ltoIndexing.map wholeFlags = some [true, true, false, false, false] ∧
      plan.action.ListsWhole (env []).toBuild wholeArchiveLink (fun _ => plan.bitcodeMapping.map)
        plan.bitcodeMapping.isIndexed ∧
      ∃ action ∈ plan.ltoIndexing, ∃ includeStatic,
        action.ListsWhole (env []).toBuild wholeArchiveLink (·.view includeStatic) fun _ => false := by
  obtain ⟨plan, hplan, hfinal, hindexing⟩ := Planning.exists_yields_of_decide (wholeArchiveLink.planWithLto (env []))
    (fun plan => wholeFlags plan.action = [true, false, false, false] ∧
      plan.ltoIndexing.map wholeFlags = some [true, true, false, false, false]) (by decide +kernel)
  obtain ⟨action, haction, -⟩ := Option.map_eq_some_iff.1 hindexing
  obtain ⟨hlists, hindexer, -⟩ := Link.whole_archives_listed (Or.inr hplan) (collectsAsUsual [])
  exact ⟨plan, Or.inr hplan, collectsAsUsual [], hfinal, hindexing, hlists, action, haction, hindexer action haction⟩

end Sample
end LinkPlanner
