import LinkPlanner.Proofs.WholeArchives

/-! Dynamic libraries on the command line. A library in a file `lib<name>.so` is given by its name, and its directory
goes to a list that all libraries of the link share. The linker takes the file from the first of these directories that
has one of that name. That is the right file for each library exactly if no two dynamic libraries of the link go by one
name: in which directories they lie, and in which order they are given, makes no difference. -/

namespace LinkPlanner

/-! ### Names -/

/-- What stands before the ending, if a library can be found by it. -/
def nameBefore? (text : List Char) (ending : String) : Option String :=
  let n := text.length - ending.toList.length
  let name := text.take n
  if text.drop n = ending.toList && !name.isEmpty && !name.contains '\n' then some (String.ofList name) else none

theorem nameBefore?_eq_some_iff {text : List Char} {ending name : String} :
    nameBefore? text ending = some name ↔
      text = name.toList ++ ending.toList ∧ name.toList ≠ [] ∧ '\n' ∉ name.toList := by
  unfold nameBefore?
  constructor
  · intro h
    dsimp only at h
    split at h
    · rename_i hcond
      cases h
      simp only [Bool.and_eq_true, decide_eq_true_eq, Bool.not_eq_true', List.isEmpty_eq_false_iff,
        List.contains_eq_mem, decide_eq_false_iff_not] at hcond
      obtain ⟨⟨hending, hne⟩, hline⟩ := hcond
      rw [String.toList_ofList]
      exact ⟨(List.take_append_drop _ text).symm.trans (congrArg (List.take _ text ++ ·) hending), hne, hline⟩
    · cases h
  · rintro ⟨rfl, hne, hline⟩
    have hlen : (name.toList ++ ending.toList).length - ending.toList.length = name.toList.length := by
      rw [List.length_append, Nat.add_sub_cancel]
    dsimp only
    rw [hlen, List.take_left, List.drop_left, String.ofList_toList]
    simp [hne, hline]

/-- The file is named `lib<name>.so` or `lib<name>.dylib`. -/
def IsNamed (name : String) (fileName : List Char) : Prop :=
  ∃ ending ∈ [".so", ".dylib"], fileName = "lib".toList ++ (name.toList ++ ending.toList)

instance (name : String) (fileName : List Char) : Decidable (IsNamed name fileName) :=
  inferInstanceAs (Decidable (∃ ending ∈ [".so", ".dylib"], fileName = "lib".toList ++ (name.toList ++ ending.toList)))

theorem searchName?_eq_some_iff {fileName : List Char} {name : String} :
    searchName? fileName = some name ↔ IsNamed name fileName ∧ name.toList ≠ [] ∧ '\n' ∉ name.toList := by
  unfold searchName? IsNamed
  split
  · rename_i text
    change [".so", ".dylib"].findSome? (nameBefore? text) = some name ↔ _
    constructor
    · intro h
      obtain ⟨ending, hending, hname⟩ := List.exists_of_findSome?_eq_some h
      obtain ⟨rfl, hplain⟩ := nameBefore?_eq_some_iff.1 hname
      exact ⟨⟨ending, hending, rfl⟩, hplain⟩
    · rintro ⟨⟨ending, hending, heq⟩, hname⟩
      have htext : text = name.toList ++ ending.toList := by simpa using heq
      have hfound := nameBefore?_eq_some_iff.2 ⟨htext, hname⟩
      simp only [List.mem_cons, List.not_mem_nil, or_false] at hending
      rcases hending with rfl | rfl
      · rw [List.findSome?_cons, hfound]
      · cases hother : nameBefore? text ".so" with
        | none => rw [List.findSome?_cons, hother, List.findSome?_cons, hfound]
        | some other =>
            -- a text has one last character
            have hlast := congrArg List.getLast? ((nameBefore?_eq_some_iff.1 hother).1.symm.trans htext)
            rw [List.getLast?_append, List.getLast?_append] at hlast
            exact absurd (show some 'o' = some 'b' from hlast) (by decide)
  · rename_i hlib
    constructor
    · intro h
      cases h
    · rintro ⟨⟨ending, -, rfl⟩, -⟩
      exact absurd rfl (hlib _)

/-- The name by which an entry has the linker look for a dynamic library. -/
def LibraryToLink.linkName? : LibraryToLink → Option String
  | .dynamicLibrary name => some name
  | _ => none

namespace LibraryInput

variable {l k : LibraryInput} {name : String}

/-- The name by which a linker finds the library, if it is a dynamic one in a file that can be found by a name. -/
def linkName? (l : LibraryInput) : Option String :=
  if l.category = .dynamicLibrary then searchName? l.artifact.fileName else none

theorem linkName?_congr (hartifact : l.artifact = k.artifact) (hcategory : l.category = k.category) :
    l.linkName? = k.linkName? := by
  unfold linkName?
  rw [hartifact, hcategory]

theorem linkName?_eq_some_iff :
    l.linkName? = some name ↔ l.category = .dynamicLibrary ∧ searchName? l.artifact.fileName = some name := by
  unfold linkName?
  split
  · rename_i hdynamic
    exact (and_iff_right hdynamic).symm
  · rename_i hdynamic
    exact ⟨fun h => (nomatch h), fun h => absurd h.1 hdynamic⟩

theorem linkName?_of_static (hstatic : l.category.isStatic = true) : l.linkName? = none := by
  unfold linkName?
  rw [if_neg]
  intro hdynamic
  rw [hdynamic] at hstatic
  cases hstatic

theorem linkName?_listDynamic (hdynamic : l.category.isStatic = false) :
    (CollectionRequest.listDynamic l).linkName? = l.linkName? := by
  unfold CollectionRequest.listDynamic linkName?
  split
  · rename_i hinterface
    rw [hinterface]
    rfl
  · rename_i hinterface
    have hcategory : l.category = .dynamicLibrary := by
      cases h : l.category with
      | dynamicLibrary => rfl
      | interfaceLibrary => exact absurd h hinterface
      | _ =>
          rw [h] at hdynamic
          cases hdynamic
    rw [if_pos hcategory]
    cases searchName? l.artifact.fileName <;> rfl

theorem searchDir?_of_linkName? (hname : l.linkName? = some name) :
    CollectionRequest.searchDir? (.library l) = some l.artifact.execPath.directory.text := by
  obtain ⟨hdynamic, hfile⟩ := linkName?_eq_some_iff.1 hname
  have hlist : CollectionRequest.listDynamic l = .dynamicLibrary name := by
    unfold CollectionRequest.listDynamic
    rw [hdynamic, if_neg (by decide), hfile]
  unfold CollectionRequest.searchDir?
  dsimp only
  rw [hlist, hdynamic]
  rfl

/-- Of dynamic libraries, those in files of that name go by a name that one of them goes by. -/
theorem linkName?_eq_some_iff_isNamed (hl : l.linkName? = some name) (hk : k.category = .dynamicLibrary) :
    k.linkName? = some name ↔ IsNamed name k.artifact.fileName := by
  rw [linkName?_eq_some_iff, and_iff_right hk, searchName?_eq_some_iff]
  exact and_iff_left (searchName?_eq_some_iff.1 (linkName?_eq_some_iff.1 hl).2).2

end LibraryInput

/-! ### The search -/

/-- The libraries in files of that name in the first of the directories that holds any. -/
def findLibraries (libraries : List LibraryInput) (name : String) : List String → List LibraryInput
  | [] => []
  | directory :: directories =>
    match libraries.filter fun l =>
      l.artifact.execPath.directory == .ofString directory && decide (IsNamed name l.artifact.fileName) with
    | [] => findLibraries libraries name directories
    | found => found

section

variable {libraries : List LibraryInput} {name : String} {directories : List String} {l : LibraryInput}

theorem of_mem_findLibraries (hl : l ∈ findLibraries libraries name directories) :
    l ∈ libraries ∧ IsNamed name l.artifact.fileName := by
  induction directories with
  | nil => cases hl
  | cons directory directories ih =>
      unfold findLibraries at hl
      split at hl
      · exact ih hl
      · obtain ⟨hmem, hfound⟩ := List.mem_filter.1 hl
        exact ⟨hmem, of_decide_eq_true (Bool.and_eq_true_iff.1 hfound).2⟩

/-- Something is found if the directory of a library of that name is searched, although it need not be that library. -/
theorem findLibraries_ne_nil (hl : l ∈ libraries) (hname : IsNamed name l.artifact.fileName)
    (hdirectory : l.artifact.execPath.directory.text ∈ directories) :
    findLibraries libraries name directories ≠ [] := by
  induction directories with
  | nil => cases hdirectory
  | cons directory directories ih =>
      unfold findLibraries
      split
      · rename_i hnone
        refine ih ((List.mem_cons.1 hdirectory).resolve_left ?_)
        rintro rfl
        have hhere : (l.artifact.execPath.directory == .ofString l.artifact.execPath.directory.text) = true := by
          unfold Path.ofString Path.text
          rw [String.toList_ofList]
          exact BEq.rfl
        have hmem := List.filter_eq_nil_iff.1 hnone l hl
        rw [hhere, decide_eq_true hname] at hmem
        exact hmem rfl
      · rename_i hsome
        exact hsome

end

/-- What the linker finds under a name in the directories that an action has it search. -/
def LinkAction.found (action : LinkAction) (libraries : List LibraryInput) (name : String) : List LibraryInput :=
  findLibraries libraries name action.commandLine.linkVariables.librarySearchDirectories.toList

/-- Every library with a name is found under it, and nothing else is, so different libraries are different files. -/
structure LinkAction.FindsLibraries (libraries : List LibraryInput) (action : LinkAction) : Prop where
  finds : ∀ l ∈ libraries, ∀ name ∈ l.linkName?,
    action.found libraries name ≠ [] ∧ ∀ k ∈ action.found libraries name, (k == l) = true
  apart : ∀ l ∈ libraries, ∀ k ∈ libraries, (l == k) = false → ∀ m ∈ l.linkName?, ∀ n ∈ k.linkName?,
    ∀ x ∈ action.found libraries m, ∀ y ∈ action.found libraries n, (x == y) = false

namespace Link

/-- The dynamic libraries of the link, with those of the runtime. -/
def dynamicLibraries (link : Link) : List LibraryInput :=
  (link.libraries.toList ++ link.runtimeLibraries.map (LibraryInput.ofArtifact · link.runtimeLibraryCategory)).filter
    fun l => l.category = .dynamicLibrary

/-- No two dynamic libraries go by one name. -/
def NamesTellLibraries (link : Link) : Prop :=
  ∀ l ∈ link.dynamicLibraries, ∀ k ∈ link.dynamicLibraries, ∀ name ∈ l.linkName?, name ∈ k.linkName? → (k == l) = true

variable {link : Link} {l : LibraryInput} {name : String}

/-! ### One action -/

theorem mem_dynamicLibraries : l ∈ link.dynamicLibraries ↔
    (l ∈ link.libraries.toList ∨
      ∃ a ∈ link.runtimeLibraries, LibraryInput.ofArtifact a link.runtimeLibraryCategory = l) ∧
      l.category = .dynamicLibrary := by
  unfold dynamicLibraries
  rw [List.mem_filter, List.mem_append, List.mem_map, decide_eq_true_eq]

/-- An entry has the linker look for the name of its library. -/
theorem linkName?_list (r : CollectionRequest) (l : LibraryInput) :
    (r.list (.library l)).bind (·.linkName?) = l.linkName? := by
  have hlisted := r.listed_list l
  generalize r.list (.library l) = entry at hlisted ⊢
  cases hlisted with
  | dynamic hdynamic => exact LibraryInput.linkName?_listDynamic hdynamic
  | archive hstatic => exact (LibraryInput.linkName?_of_static hstatic).symm
  | group hexpands => exact (LibraryInput.linkName?_of_static (CollectionRequest.isStatic_of_expands hexpands)).symm
  | hidden hexpands => exact (LibraryInput.linkName?_of_static (CollectionRequest.isStatic_of_expands hexpands)).symm

theorem linkName?_runtimeEntry (link : Link) (a : Artifact) :
    (link.runtimeEntry a).linkName? = (LibraryInput.ofArtifact a link.runtimeLibraryCategory).linkName? := by
  unfold runtimeEntry
  split
  · rename_i hstatic
    exact (LibraryInput.linkName?_of_static hstatic).symm
  · rename_i hdynamic
    exact LibraryInput.linkName?_listDynamic (Bool.not_eq_true _ ▸ hdynamic)

theorem filterMap_linkName?_dynamicLibraries (link : Link) :
    link.dynamicLibraries.filterMap (·.linkName?) =
      link.libraries.toList.filterMap (·.linkName?) ++
        link.runtimeLibraries.filterMap fun a => (LibraryInput.ofArtifact a link.runtimeLibraryCategory).linkName? := by
  have hnamed : ∀ l : LibraryInput,
      (if decide (l.category = .dynamicLibrary) = true then l.linkName? else none) = l.linkName? := by
    intro l
    unfold LibraryInput.linkName?
    split <;> simp_all
  unfold dynamicLibraries
  rw [List.filterMap_filter, List.filterMap_append, List.filterMap_map]
  simp only [hnamed, Function.comp_def]

section

variable {r : ActionRequest} {shown : LibraryInput → LibraryInput}
  (hlibraries : r.libraries.toList = link.libraries.toList.map shown)
  (hshown : ∀ l, (shown l).artifact = l.artifact ∧ (shown l).category = l.category)
include hlibraries hshown

/-- The names on the command line are those of the dynamic libraries, in link order. -/
theorem filterMap_linkName?_collect (build : Build) :
    (link.collectionRequest build r).collect.librariesToLink.filterMap (·.linkName?) =
      link.dynamicLibraries.filterMap (·.linkName?) := by
  obtain ⟨objects, hlisted⟩ := librariesToLink_collect build link r
  have hobjects : (objects.map LibraryToLink.objectFile).filterMap (·.linkName?) = [] := by
    rw [List.filterMap_map]
    exact List.filterMap_eq_nil_iff.2 fun _ _ => rfl
  rw [hlisted, hlibraries, List.filterMap_append, List.filterMap_append, hobjects, List.nil_append,
    List.filterMap_filterMap, List.filterMap_map, List.filterMap_map, filterMap_linkName?_dynamicLibraries]
  congr 1
  · refine List.filterMap_congr fun l _ => (linkName?_list _ _).trans ?_
    exact LibraryInput.linkName?_congr (hshown l).1 (hshown l).2
  · exact List.filterMap_congr fun a _ => linkName?_runtimeEntry link a

/-- The directory of a library that has a name is searched. -/
theorem mem_searchDirectories (build : Build) (hl : l ∈ link.dynamicLibraries) (hname : l.linkName? = some name) :
    l.artifact.execPath.directory.text ∈ (link.collectionRequest build r).collect.searchDirectories.toList := by
  obtain ⟨k, hk, hartifact, hcategory⟩ :
      ∃ k, .library k ∈ link.linkerInputs r ∧ k.artifact = l.artifact ∧ k.category = l.category := by
    unfold linkerInputs
    obtain ⟨hl | ⟨a, ha, rfl⟩, -⟩ := mem_dynamicLibraries.1 hl
    · have hmem : shown l ∈ r.libraries.toList := hlibraries ▸ List.mem_map_of_mem hl
      exact ⟨shown l, List.mem_append_left _ (List.mem_append_right _ (List.mem_map_of_mem hmem)), hshown l⟩
    · exact ⟨_, List.mem_append_right _ (List.mem_map_of_mem ha), rfl, rfl⟩
  have hdirectory : CollectionRequest.searchDir? (.library k) = some l.artifact.execPath.directory.text := by
    rw [← hartifact]
    exact LibraryInput.searchDir?_of_linkName? ((LibraryInput.linkName?_congr hartifact hcategory).trans hname)
  exact OrderedSet.mem_ofList_iff.2 (List.mem_filterMap.2 ⟨_, hk, hdirectory⟩)

end

/-- An action that searches the directories of all libraries that have names finds each of them exactly if the names
tell them apart. -/
theorem findsLibraries_iff {action : LinkAction}
    (hsearched : ∀ l ∈ link.dynamicLibraries, ∀ name ∈ l.linkName?,
      l.artifact.execPath.directory.text ∈ action.commandLine.linkVariables.librarySearchDirectories.toList) :
    action.FindsLibraries link.dynamicLibraries ↔ link.NamesTellLibraries := by
  constructor
  · intro hfinds l hl k hk name hlname hkname
    obtain ⟨hne, hfoundl⟩ := hfinds.finds l hl name hlname
    obtain ⟨x, hx⟩ := List.exists_mem_of_ne_nil _ hne
    exact BEq.trans (BEq.symm ((hfinds.finds k hk name hkname).2 x hx)) (hfoundl x hx)
  · intro htell
    have hfound : ∀ l ∈ link.dynamicLibraries, ∀ name ∈ l.linkName?,
        ∀ k ∈ action.found link.dynamicLibraries name, (k == l) = true := by
      intro l hl name hname k hk
      obtain ⟨hmem, hnamed⟩ := of_mem_findLibraries hk
      exact htell l hl k hmem name hname
        ((LibraryInput.linkName?_eq_some_iff_isNamed hname (mem_dynamicLibraries.1 hmem).2).2 hnamed)
    refine ⟨fun l hl name hname => ⟨?_, hfound l hl name hname⟩, fun l hl k hk hne m hm n hn x hx y hy => ?_⟩
    · have hnamed := (LibraryInput.linkName?_eq_some_iff_isNamed hname (mem_dynamicLibraries.1 hl).2).1 hname
      exact findLibraries_ne_nil hl hnamed (hsearched l hl name hname)
    · rw [Bool.eq_false_iff] at hne ⊢
      intro hxy
      exact hne (BEq.trans (BEq.symm (hfound l hl m hm x hx)) (BEq.trans hxy (hfound k hk n hn y hy)))

/-! ### Plans -/

/-- Both links of a plan are made from the libraries of the link, which keep their files and kinds. -/
theorem request_of_mem_linkActions {env : Env} {plan : LinkPlan} (hplan : link.Yields env plan)
    (hcollect : env.CollectsAsUsual) {action : LinkAction} (haction : action ∈ plan.linkActions) :
    ∃ (r : ActionRequest) (shown : LibraryInput → LibraryInput),
      action = link.action env.toBuild r (link.collectionRequest env.toBuild r).collect ∧
        r.libraries.toList = link.libraries.toList.map shown ∧
        ∀ l, (shown l).artifact = l.artifact ∧ (shown l).category = l.category := by
  unfold LinkPlan.linkActions at haction
  rw [List.mem_append, Option.mem_toList, List.mem_singleton] at haction
  rcases haction with haction | rfl
  · obtain ⟨p, outputs, rfl, -, -, houtputs, rfl⟩ := assembled_of_mem_ltoIndexing hplan haction
    obtain ⟨actionName, libraries, c, hlibraries, hc, heq, -⟩ := BackendPlan.indexing_of_yields houtputs
    refine ⟨p.indexingRequest env.toBuild actionName libraries, (·.seen p.decision.includeStatic), ?_,
      libraries_seen hlibraries, fun l => ⟨LibraryInput.artifact_seen, LibraryInput.category_seen⟩⟩
    rw [heq, hcollect _ c hc]
  · obtain ⟨decision, indexing, c, hmade⟩ := made_of_yields hplan
    refine ⟨link.finalAssembly env.toBuild decision plan.bitcodeMapping indexing, id, ?_, (List.map_id _).symm,
      fun l => ⟨rfl, rfl⟩⟩
    rw [hmade.action_eq, hcollect _ c hmade.collected]

/-- Each link of a plan gives the dynamic libraries that have names by them, and finds them exactly if no two go by one
name. -/
theorem dynamic_libraries_found_iff {env : Env} {plan : LinkPlan} (hplan : link.Yields env plan)
    (hcollect : env.CollectsAsUsual) {action : LinkAction} (haction : action ∈ plan.linkActions) :
    action.commandLine.linkVariables.librariesToLink.filterMap (·.linkName?) =
        link.dynamicLibraries.filterMap (·.linkName?) ∧
      (action.FindsLibraries link.dynamicLibraries ↔ link.NamesTellLibraries) := by
  obtain ⟨r, shown, rfl, hlibraries, hshown⟩ := request_of_mem_linkActions hplan hcollect haction
  exact ⟨filterMap_linkName?_collect hlibraries hshown env.toBuild,
    findsLibraries_iff fun l hl name hname => mem_searchDirectories hlibraries hshown env.toBuild hl hname⟩

end Link
namespace Sample

def namedLibrary (path : String) : LibraryInput := .ofArtifact (file path) .dynamicLibrary

/-- The executable over dynamic libraries. -/
def linkOverNamed (paths : List String) : Link :=
  { link (env []) ["app/main.o"] ["app/main.o"] with libraries := .ofList (paths.map namedLibrary) }

/-- Two libraries in one directory and one in another, all of different names. The linker and the indexer find each. -/
theorem named_libraries_found :
    ∃ plan, (linkOverNamed ["a/libfoo.so", "b/libbar.so", "a/libbaz.dylib"]).Yields (env []) plan ∧
      (env []).CollectsAsUsual ∧ plan.linkActions.length = 2 ∧
      ∀ action ∈ plan.linkActions,
        action.FindsLibraries (linkOverNamed ["a/libfoo.so", "b/libbar.so", "a/libbaz.dylib"]).dynamicLibraries := by
  obtain ⟨plan, hplan, hcheck⟩ := Planning.exists_yields_of_decide
    ((linkOverNamed ["a/libfoo.so", "b/libbar.so", "a/libbaz.dylib"]).planWithLto (env []))
    (fun plan => plan.linkActions.length = 2) (by decide +kernel)
  have htell : (linkOverNamed ["a/libfoo.so", "b/libbar.so", "a/libbaz.dylib"]).NamesTellLibraries := by
    unfold Link.NamesTellLibraries
    decide +kernel
  exact ⟨plan, Or.inr hplan, collectsAsUsual [], hcheck, fun action haction =>
    (Link.dynamic_libraries_found_iff (Or.inr hplan) (collectsAsUsual []) haction).2.2 htell⟩

/-- Of two libraries of one name the linker only finds the first, whichever it looks for. -/
theorem namesake_not_found :
    ∃ plan, (linkOverNamed ["a/libfoo.so", "b/libfoo.so"]).Yields (env []) plan ∧ (env []).CollectsAsUsual ∧
      plan.action.commandLine.linkVariables.librariesToLink.filterMap (·.linkName?) = ["foo", "foo"] ∧
      (plan.action.found (linkOverNamed ["a/libfoo.so", "b/libfoo.so"]).dynamicLibraries "foo").map (·.artifact.text) =
        ["bin/a/libfoo.so"] ∧
      ¬ plan.action.FindsLibraries (linkOverNamed ["a/libfoo.so", "b/libfoo.so"]).dynamicLibraries := by
  obtain ⟨plan, hplan, hnames, hfound, k, hk, hother⟩ := Planning.exists_yields_of_decide
    ((linkOverNamed ["a/libfoo.so", "b/libfoo.so"]).plan (env []))
    (fun plan =>
      plan.action.commandLine.linkVariables.librariesToLink.filterMap (·.linkName?) = ["foo", "foo"] ∧
      (plan.action.found (linkOverNamed ["a/libfoo.so", "b/libfoo.so"]).dynamicLibraries "foo").map (·.artifact.text) =
        ["bin/a/libfoo.so"] ∧
      ∃ k ∈ plan.action.found (linkOverNamed ["a/libfoo.so", "b/libfoo.so"]).dynamicLibraries "foo",
        (k == namedLibrary "b/libfoo.so") = false) (by decide +kernel)
  refine ⟨plan, Or.inl hplan, collectsAsUsual [], hnames, hfound, fun hfinds => ?_⟩
  have hmem : namedLibrary "b/libfoo.so" ∈ (linkOverNamed ["a/libfoo.so", "b/libfoo.so"]).dynamicLibraries :=
    List.mem_cons_of_mem _ List.mem_cons_self
  rw [(hfinds.finds _ hmem "foo" rfl).2 k hk] at hother
  cases hother

end Sample
end LinkPlanner
