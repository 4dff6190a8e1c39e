import LinkPlanner.Proofs.NamedLibraries
import LinkPlanner.Proofs.RuntimePaths

/-! Absolute directories on the run-time search path. All entries of the search path start at the directory of the
output, but from a relative output no way leads to an absolute directory. The text of the directory is put behind
`$ORIGIN` all the same, so that the entry stands for a directory below that of the output, and none of the entries
stands for the one that is meant. -/

namespace LinkPlanner

namespace Path

/-! ### Where steps lead -/

theorem root_mem_takeStep_iff {place : List Component} {c : Component} :
    .root ∈ takeStep place c ↔ .root ∈ place ∨ c = .root := by
  unfold takeStep
  split
  · simp
  · split
    · rename_i name hlast
      obtain ⟨before, rfl⟩ := List.getLast?_eq_some_iff.1 hlast
      simp
    · simp
    · simp
  · rw [List.mem_append, List.mem_singleton]
    exact or_congr_right eq_comm

/-- Steps lead to an absolute place exactly if one of them goes to the root. -/
theorem root_mem_follow_iff {steps : List Component} : .root ∈ follow steps ↔ .root ∈ steps := by
  suffices h : ∀ place, .root ∈ steps.foldl takeStep place ↔ .root ∈ place ∨ .root ∈ steps from
    (h []).trans (by simp)
  induction steps with
  | nil => simp
  | cons c steps ih =>
      intro place
      rw [List.foldl_cons, ih, root_mem_takeStep_iff, or_assoc, List.mem_cons, eq_comm]

/-- The steps that an entry of a run-time search path stands for. One that does not start at `$ORIGIN` is taken as it
is. -/
def entrySteps (outputDir : Path) (entry : String) : List Component :=
  (fromOrigin? outputDir (.ofString entry)).getD (components (.ofString entry))

/-- The entry of a run-time search path stands for the directory. -/
def Denotes (outputDir : Path) (entry : String) (dir : Path) : Prop :=
  follow (entrySteps outputDir entry) = follow dir.components

instance (outputDir : Path) (entry : String) (dir : Path) : Decidable (Denotes outputDir entry dir) :=
  inferInstanceAs (Decidable (_ = _))

section

variable {outputDir dir : Path} (houtput : outputDir.isAbsolute = false) (hdir : dir.isAbsolute = true)
include houtput hdir

/-- There is no way from a relative path to an absolute one, which is put behind `$ORIGIN` as it is. -/
theorem originRelative_of_isAbsolute : originRelative outputDir dir = "$ORIGIN/" ++ dir.text := by
  have hrelative : dir.relativeTo? outputDir = some dir := by
    unfold relativeTo?
    rw [houtput, hdir, if_neg (by decide), if_pos rfl]
  have hne : dir.chars.isEmpty = false := by
    obtain ⟨chars⟩ := dir
    cases chars with
    | nil => cases hdir
    | cons c chars => rfl
  unfold originRelative
  rw [hrelative, Option.getD_some]
  dsimp only
  rw [hne, if_neg Bool.false_ne_true]

/-- Whichever directory an entry was made for, it does not stand for an absolute one. -/
theorem not_denotes_of_isAbsolute (other : Path) : ¬ Denotes outputDir (originRelative outputDir other) dir := by
  -- an entry goes to the directory of the output and takes steps from there, none of which leads to the root
  have hplace : .root ∉ entrySteps outputDir (originRelative outputDir other) := by
    have hstart : .root ∉ outputDir.components := by
      rw [← isAbsolute_iff, houtput]
      exact Bool.false_ne_true
    unfold originRelative entrySteps
    dsimp only
    split
    · rwa [fromOrigin?_origin]
    · rw [fromOrigin?_append, Option.getD_some, List.mem_append]
      exact not_or.2 ⟨hstart, fun hroot => Bool.false_ne_true (List.mem_filter.1 hroot).2⟩
  intro heq
  refine hplace (root_mem_follow_iff.1 ?_)
  rw [heq, root_mem_follow_iff, ← isAbsolute_iff]
  exact hdir

end

/-! ### Directories of files -/

/-- The directory of a file is written as the beginning of its path. -/
theorem chars_directory_prefix (p : Path) : p.directory.chars <+: p.chars := by
  unfold directory parent?
  dsimp only
  split
  · rename_i last before heq
    have hbefore : (before.dropWhile isSilent).reverse <+: pieces p.anchor.2 := by
      rw [← List.reverse_suffix, List.reverse_reverse]
      refine (List.dropWhile_suffix _).trans ((List.suffix_cons last before).trans ?_)
      rw [← heq]
      exact List.dropWhile_suffix _
    have htext := intercalate_prefix hbefore
    rw [intercalate_pieces] at htext
    rw [Option.getD_some]
    change p.anchor.1.elim [] Component.chars ++ ['/'].intercalate (before.dropWhile isSilent).reverse <+: p.chars
    rw [← anchor_text p]
    exact (List.prefix_append_right_inj _).2 htext
  · split <;> exact List.nil_prefix

theorem isAbsolute_directory {p : Path} (hp : p.isAbsolute = false) : p.directory.isAbsolute = false := by
  obtain ⟨rest, hrest⟩ := p.chars_directory_prefix
  rw [← Bool.not_eq_true] at hp ⊢
  intro hdirectory
  refine hp ?_
  unfold isAbsolute at hdirectory ⊢
  rw [← hrest, List.head?_append, beq_iff_eq.1 hdirectory]
  rfl

end Path

/-- The directory that a library is loaded from at run time, if it is. An interface library stands for one that is. -/
def LibraryInput.loadDir? (l : LibraryInput) : Option Path :=
  if l.category.isStatic then none else some l.artifact.execPath.directory

namespace Link

variable {link : Link}

/-! ### The search path of a link -/

/-- The libraries of the link, those of the runtime last. -/
def linkedLibraries (link : Link) : List LibraryInput :=
  link.libraries.toList ++ link.runtimeLibraries.map (LibraryInput.ofArtifact · link.runtimeLibraryCategory)

/-- The directories that the run-time search path has to cover: those of the toolchain and of the build, and those of
the libraries that are loaded. Nothing is loaded for an archive. -/
def runtimeDirs (build : Build) (link : Link) : List Path :=
  if link.linkType.isArchive then []
  else
    link.toolchainLibrariesSolibDir.toList ++
      (if link.linkingMode = .dynamic || link.nativeDeps then [build.binDirectory.join build.toolchain.solibDirectory]
      else []) ++
      link.linkedLibraries.filterMap (·.loadDir?)

section

variable {r : ActionRequest} {shown : LibraryInput → LibraryInput}
  (hlibraries : r.libraries.toList = link.libraries.toList.map shown)
  (hshown : ∀ l, (shown l).artifact = l.artifact ∧ (shown l).category = l.category)
include hlibraries hshown

/-- The inputs bring the directories of the libraries that are loaded. -/
theorem filterMap_runtimeDir?_linkerInputs (build : Build) (hkind : link.linkType.isArchive = false) :
    (link.linkerInputs r).filterMap (link.collectionRequest build r).runtimeDir? =
      link.linkedLibraries.filterMap (·.loadDir?) := by
  have hlibrary : ∀ l k : LibraryInput, k.artifact = l.artifact → k.category = l.category →
      (link.collectionRequest build r).runtimeDir? (.library k) = l.loadDir? := by
    intro l k hartifact hcategory
    unfold CollectionRequest.runtimeDir? collectionRequest LibraryInput.loadDir?
    dsimp only
    rw [hkind, hartifact, hcategory, Bool.or_false]
  have hobjects : ∀ {α : Type} (input : α → LinkerInput) (as : List α), (∀ a, ∃ o, input a = .object o) →
      (as.map input).filterMap (link.collectionRequest build r).runtimeDir? = [] := by
    intro α input as hinput
    rw [List.filterMap_map, List.filterMap_eq_nil_iff]
    intro a _
    obtain ⟨o, ho⟩ := hinput a
    rw [Function.comp_apply, ho]
    rfl
  unfold linkerInputs runtimeInputs linkedLibraries
  rw [hlibraries, List.filterMap_append, List.filterMap_append, List.filterMap_append,
    hobjects _ _ fun o => ⟨o, rfl⟩, hobjects _ _ fun a => ⟨.ofArtifact a, rfl⟩, List.map_map,
    List.filterMap_map, List.filterMap_map, List.filterMap_append, List.filterMap_map]
  refine congrArg₂ (· ++ ·) ?_ ?_
  · exact List.filterMap_congr fun l _ => hlibrary l (shown l) (hshown l).1 (hshown l).2
  · exact List.filterMap_congr fun a _ => hlibrary _ _ rfl rfl

/-- The search path has an entry for each directory that it has to cover, in order and without repetition. -/
theorem runtimeSearchDirectories_collect (build : Build) :
    (link.collectionRequest build r).collect.runtimeSearchDirectories =
      .ofList ((link.runtimeDirs build).map (originRelative link.output.execPath.directory)) := by
  change OrderedSet.ofList (List.map _ (_ ++ (link.linkerInputs r).filterMap _)) = _
  refine congrArg (fun dirs => OrderedSet.ofList (List.map (originRelative link.output.execPath.directory) dirs)) ?_
  cases hkind : link.linkType.isArchive with
  | true =>
      have hnone : (link.linkerInputs r).filterMap (link.collectionRequest build r).runtimeDir? = [] := by
        refine List.filterMap_eq_nil_iff.2 fun input _ => ?_
        unfold CollectionRequest.runtimeDir? collectionRequest
        cases input with
        | object o => rfl
        | library l =>
            dsimp only
            rw [hkind, Bool.or_true, if_pos rfl]
      unfold CollectionRequest.standingRuntimeDirs runtimeDirs collectionRequest
      dsimp only
      rw [hkind, if_pos rfl, if_pos rfl]
      exact hnone
  | false =>
      rw [filterMap_runtimeDir?_linkerInputs hlibraries hshown build hkind]
      unfold CollectionRequest.standingRuntimeDirs runtimeDirs collectionRequest
      dsimp only
      rw [hkind, if_neg Bool.false_ne_true, if_neg Bool.false_ne_true, if_neg Bool.false_ne_true]

end

/-- The search path of each link of a plan has an entry for every directory that it has to cover. If the output is
relative, that for an absolute directory has the directory's path behind `$ORIGIN`, and leads below the directory of the
output. No other entry stands for it either, so that the search path covers all of the directories exactly if none of
them is absolute. -/
theorem absolute_directories_covered_iff {env : Env} {plan : LinkPlan} (hplan : link.Yields env plan)
    (hcollect : env.CollectsAsUsual) {action : LinkAction} (haction : action ∈ plan.linkActions)
    (houtput : link.output.execPath.isAbsolute = false) :
    let outputDir := link.output.execPath.directory
    let dirs := link.runtimeDirs env.toBuild
    let entries := action.commandLine.linkVariables.runtimeLibrarySearchDirectories
    entries = .ofList (dirs.map (originRelative outputDir)) ∧
      (∀ dir ∈ dirs, dir.isAbsolute = true →
        originRelative outputDir dir = "$ORIGIN/" ++ dir.text ∧ "$ORIGIN/" ++ dir.text ∈ entries.toList ∧
          Path.fromOrigin? outputDir (.ofString ("$ORIGIN/" ++ dir.text)) =
            some (outputDir.components ++ dir.components.filter Path.Component.isStep)) ∧
      ((∀ dir ∈ dirs, dir.isAbsolute = true → ∃ entry ∈ entries.toList, Path.Denotes outputDir entry dir) ↔
        ∀ dir ∈ dirs, dir.isAbsolute = false) := by
  intro outputDir dirs entries
  have hdirectory : outputDir.isAbsolute = false := Path.isAbsolute_directory houtput
  have hentries : entries = .ofList (dirs.map (originRelative outputDir)) := by
    obtain ⟨r, shown, rfl, hlibraries, hshown⟩ := request_of_mem_linkActions hplan hcollect haction
    exact runtimeSearchDirectories_collect hlibraries hshown env.toBuild
  refine ⟨hentries, fun dir hdir habsolute => ?_, fun hcovered dir hdir => ?_,
    fun hrelative dir hdir habsolute => ?_⟩
  · have htext := Path.originRelative_of_isAbsolute hdirectory habsolute
    refine ⟨htext, ?_, Path.fromOrigin?_append outputDir dir⟩
    rw [← htext, hentries]
    exact OrderedSet.mem_ofList_iff.2 (List.mem_map_of_mem hdir)
  · rw [← Bool.not_eq_true]
    intro habsolute
    obtain ⟨entry, hentry, hdenotes⟩ := hcovered dir hdir habsolute
    rw [hentries] at hentry
    obtain ⟨other, -, rfl⟩ := List.mem_map.1 (OrderedSet.mem_ofList_iff.1 hentry)
    exact Path.not_denotes_of_isAbsolute hdirectory habsolute other hdenotes
  · rw [hrelative dir hdir] at habsolute
    cases habsolute

end Link
namespace Sample

/-- The executable over a dynamic library, with the directory of the runtime's dynamic libraries. -/
def linkOverRuntime (dir : String) : Link :=
  { linkOverNamed ["a/libfoo.so"] with toolchainLibrariesSolibDir := some (.ofString dir) }

/-- The linker and the indexer are told to search a directory below that of the output in place of an absolute one. -/
theorem absolute_directory_missed :
    ∃ plan, (linkOverRuntime "/opt/lib").Yields (env []) plan ∧ (env []).CollectsAsUsual ∧
      plan.linkActions.length = 2 ∧ (linkOverRuntime "/opt/lib").output.execPath.isAbsolute = false ∧
      ∀ action ∈ plan.linkActions,
        "$ORIGIN//opt/lib" ∈ action.commandLine.linkVariables.runtimeLibrarySearchDirectories.toList ∧
          Path.fromOrigin? (.ofString "bin/app") (.ofString "$ORIGIN//opt/lib") =
            some (Path.ofString "bin/app/opt/lib").components := by
  obtain ⟨plan, hplan, hcheck⟩ := Planning.exists_yields_of_decide
    ((linkOverRuntime "/opt/lib").planWithLto (env []))
    (fun plan => plan.linkActions.length = 2) (by decide +kernel)
  refine ⟨plan, Or.inr hplan, collectsAsUsual [], hcheck, by decide, fun action haction => ?_⟩
  obtain ⟨-, hmissed, -⟩ :=
    Link.absolute_directories_covered_iff (Or.inr hplan) (collectsAsUsual []) haction (by decide)
  obtain ⟨-, hentry, hsteps⟩ := hmissed (.ofString "/opt/lib") List.mem_cons_self (by decide)
  have hbelow : (Path.ofString "bin/app").components ++
      (Path.ofString "/opt/lib").components.filter Path.Component.isStep =
        (Path.ofString "bin/app/opt/lib").components := by decide
  exact ⟨hentry, hsteps.trans (congrArg some hbelow)⟩

/-- The directory of the runtime's libraries is absolute, and no entry of the search path stands for it. -/
theorem absolute_directory_not_denoted :
    ∃ plan, (linkOverRuntime "/opt/toolchain/lib").Yields (env []) plan ∧ (env []).CollectsAsUsual ∧
      (linkOverRuntime "/opt/toolchain/lib").output.text = "bin/app/app" ∧
      .ofString "/opt/toolchain/lib" ∈ (linkOverRuntime "/opt/toolchain/lib").runtimeDirs (env []).toBuild ∧
      plan.action.commandLine.linkVariables.runtimeLibrarySearchDirectories.toList =
        ["$ORIGIN//opt/toolchain/lib", "$ORIGIN/../_solib_k8", "$ORIGIN/../a"] ∧
      ∀ entry ∈ plan.action.commandLine.linkVariables.runtimeLibrarySearchDirectories.toList,
        ¬ Path.Denotes (.ofString "bin/app") entry (.ofString "/opt/toolchain/lib") := by
  obtain ⟨plan, hplan, hentries⟩ := Planning.exists_yields_of_decide
    ((linkOverRuntime "/opt/toolchain/lib").plan (env []))
    (fun plan =>
      plan.action.commandLine.linkVariables.runtimeLibrarySearchDirectories.toList =
        ["$ORIGIN//opt/toolchain/lib", "$ORIGIN/../_solib_k8", "$ORIGIN/../a"]) (by decide +kernel)
  refine ⟨plan, Or.inl hplan, collectsAsUsual [], by decide, List.mem_cons_self, hentries, ?_⟩
  rw [hentries]
  decide

end Sample
end LinkPlanner
