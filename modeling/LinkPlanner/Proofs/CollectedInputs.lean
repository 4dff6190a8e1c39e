import LinkPlanner.Proofs.Listing

/-! What becomes of every input of a link. The collector makes two lists in one go, the expanded inputs and what the
command line lists, and the second one is shorter where the indexer lists the objects itself. The list of the command
line is read back here into objects and libraries, which shows that neither list loses, repeats or moves an input. -/

namespace LinkPlanner

/-! ### Reading a list back -/

/-- An object or a library that the command line lists. -/
inductive ListedItem where
  | object (path : Artifact)
  | library (l : LibraryInput)

/-- The library, if the input is one. -/
def LinkerInput.library? : LinkerInput → Option LibraryInput
  | .object _ => none
  | .library l => some l

/-- The entry can stand for the library: it has the path or the name of it, and it is of its category. -/
def LibraryToLink.standsFor (l : LibraryInput) : LibraryToLink → Bool
  | .objectFile _ | .objectFileGroup _ _ => false
  | .staticLibrary path _ => l.category.isStatic && path == l.artifact
  | .dynamicLibrary name => l.category == .dynamicLibrary && searchName? l.artifact.fileName == some name
  | .versionedDynamicLibrary path =>
    l.category == .dynamicLibrary && (searchName? l.artifact.fileName).isNone && path == l.artifact
  | .interfaceLibrary path => l.category == .interfaceLibrary && path == l.artifact

/-- Reads a list back, group by group, with the libraries that it was made from. An entry that names no objects has to
stand for the next one of these, and at the end none may be left. -/
def readBack : List LibraryInput → List LibraryToLink → Option (List ListedItem)
  | [], [] => some []
  | _ :: _, [] => none
  | libraries, .objectFile path :: entries => (readBack libraries entries).map ([.object path] ++ ·)
  | libraries, .objectFileGroup paths _ :: entries => (readBack libraries entries).map (paths.map .object ++ ·)
  | l :: libraries, entry :: entries =>
    if entry.standsFor l then (readBack libraries entries).map ([.library l] ++ ·) else none
  | [], _ :: _ => none

theorem readBack_library {l : LibraryInput} {entry : LibraryToLink} (h : entry.standsFor l = true)
    (libraries : List LibraryInput) (entries : List LibraryToLink) :
    readBack (l :: libraries) (entry :: entries) = (readBack libraries entries).map ([.library l] ++ ·) := by
  cases entry with
  | objectFile path => cases h
  | objectFileGroup paths whole => cases h
  | staticLibrary | dynamicLibrary | versionedDynamicLibrary | interfaceLibrary => exact if_pos h

theorem standsFor_listDynamic {l : LibraryInput} (hdynamic : l.category.isStatic = false) :
    (CollectionRequest.listDynamic l).standsFor l = true := by
  unfold CollectionRequest.listDynamic
  cases hcategory : l.category with
  | interfaceLibrary =>
      rw [if_pos rfl]
      unfold LibraryToLink.standsFor
      rw [hcategory]
      exact BEq.rfl
  | dynamicLibrary =>
      rw [if_neg (by decide)]
      unfold LibraryToLink.standsFor
      rw [hcategory]
      cases hname : searchName? l.artifact.fileName with
      | some name => exact BEq.rfl
      | none => exact BEq.rfl
  | staticLibrary | picStaticLibrary | alwaysLinkStaticLibrary | alwaysLinkPicStaticLibrary =>
      rw [hcategory] at hdynamic
      cases hdynamic

namespace CollectionRequest

variable (r : CollectionRequest)

/-- What the command line has for an expanded input: nothing for an object that the indexer lists, else what the object
is mapped to; a library is left as it is. -/
def listedItem? : LinkerInput → Option ListedItem
  | .object o =>
    if r.allowLtoIndexing && r.mapping.isIndexed o.artifact then none else some (.object (r.mapping.map o.artifact))
  | .library l => some (.library l)

theorem listedItem?_object (o : ObjectInput) :
    r.listedItem? (.object o) = (r.listedObject? o.artifact).map .object := by
  unfold listedItem? listedObject?
  dsimp only
  split <;> rfl

theorem filterMap_listedItem?_members (members : List Artifact) :
    (members.map (LinkerInput.object <| .ofArtifact ·)).filterMap r.listedItem? =
      (members.filterMap r.listedObject?).map .object := by
  rw [List.filterMap_map, List.map_filterMap]
  exact congrArg (members.filterMap ·) (funext fun m => r.listedItem?_object (.ofArtifact m))

theorem filterMap_library?_members (members : List Artifact) :
    (members.map (LinkerInput.object <| .ofArtifact ·)).filterMap (·.library?) = [] :=
  List.filterMap_eq_nil_iff.2 fun i hi => by
    obtain ⟨m, -, rfl⟩ := List.mem_map.1 hi
    rfl

/-- An input that stays one library is read back as that library. -/
theorem readBack_entries_library {l : LibraryInput} (hexpands : r.expands l = false) {entry : LibraryToLink}
    (hlist : r.list (.library l) = some entry) (hentry : entry.standsFor l = true) (libraries : List LibraryInput)
    (entries : List LibraryToLink) :
    readBack ((r.expand (.library l)).filterMap (·.library?) ++ libraries) (r.entries (.library l) ++ entries) =
      (readBack libraries entries).map ((r.expand (.library l)).filterMap r.listedItem? ++ ·) := by
  rw [expand_library_of_not_expands hexpands, CollectionRequest.entries, hlist]
  exact readBack_library hentry libraries entries

/-- One input is read back from its own entry, if it has one. -/
theorem readBack_entries (i : LinkerInput) (libraries : List LibraryInput) (entries : List LibraryToLink) :
    readBack ((r.expand i).filterMap (·.library?) ++ libraries) (r.entries i ++ entries) =
      (readBack libraries entries).map ((r.expand i).filterMap r.listedItem? ++ ·) := by
  cases i with
  | object o =>
      have hitem : (r.expand (.object o)).filterMap r.listedItem? =
          ((r.listedObject? o.artifact).map .object).toList := by
        change [LinkerInput.object o].filterMap r.listedItem? = _
        rw [List.filterMap_cons, listedItem?_object]
        cases r.listedObject? o.artifact <;> rfl
      rw [hitem]
      change readBack libraries (((r.listedObject? o.artifact).map LibraryToLink.objectFile).toList ++ entries) = _
      cases r.listedObject? o.artifact with
      | none => exact Option.map_id'.symm
      | some path => cases libraries <;> rfl
  | library l =>
      have hlisted := r.listed_list l
      generalize hlist : r.list (.library l) = entry at hlisted
      cases hlisted with
      | dynamic hdynamic =>
          exact r.readBack_entries_library (expands_of_not_static hdynamic) hlist (standsFor_listDynamic hdynamic) _ _
      | archive hstatic hexpands =>
          refine r.readBack_entries_library hexpands hlist ?_ _ _
          unfold LibraryToLink.standsFor
          rw [hstatic]
          exact BEq.rfl
      | group hexpands hpaths =>
          rw [expand_library_of_expands hexpands, filterMap_library?_members, filterMap_listedItem?_members,
            CollectionRequest.entries, hlist]
          cases libraries <;> rfl
      | hidden hexpands hnone =>
          rw [expand_library_of_expands hexpands, filterMap_library?_members, filterMap_listedItem?_members, hnone,
            CollectionRequest.entries, hlist]
          exact Option.map_id'.symm

/-- All inputs are read back. -/
theorem readBack_list (inputs : List LinkerInput) :
    readBack ((inputs.flatMap r.expand).filterMap (·.library?)) (inputs.filterMap r.list) =
      some ((inputs.flatMap r.expand).filterMap r.listedItem?) := by
  induction inputs with
  | nil => rfl
  | cons i inputs ih =>
      have hlist : (i :: inputs).filterMap r.list = r.entries i ++ inputs.filterMap r.list := by
        rw [List.filterMap_cons, entries]
        cases r.list i <;> rfl
      rw [List.flatMap_cons, List.filterMap_append, List.filterMap_append, hlist, readBack_entries, ih]
      rfl

/-- A group without members is not listed. -/
theorem list_ne_empty_group (i : LinkerInput) (whole : Bool) : r.list i ≠ some (.objectFileGroup [] whole) := by
  intro hlist
  cases i with
  | object o =>
      obtain ⟨path, -, hpath⟩ := Option.map_eq_some_iff.1 hlist
      cases hpath
  | library l =>
      generalize hentry : some (LibraryToLink.objectFileGroup [] whole) = entry at hlist
      cases listed_of_list hlist with
      | dynamic hdynamic =>
          have hstands := standsFor_listDynamic hdynamic
          rw [← Option.some.inj hentry] at hstands
          cases hstands
      | archive => cases hentry
      | group hexpands hpaths =>
          exact hpaths (LibraryToLink.objectFileGroup.inj (Option.some.inj hentry)).1.symm
      | hidden => cases hentry

/-- The library is static and has members, and the linker can list these one by one or has to, because some of them is
mapped. -/
def Opens (l : LibraryInput) : Prop :=
  l.category.isStatic = true ∧ l.objects.toList ≠ [] ∧
    (r.features.isEnabled .supportsStartEndLib = true ∨ ∃ m ∈ l.objects.toList, r.mapping.contains m = true)

instance (l : LibraryInput) : Decidable (r.Opens l) :=
  inferInstanceAs (Decidable (_ ∧ _ ∧ (_ ∨ ∃ m ∈ l.objects.toList, r.mapping.contains m = true)))

theorem expands_iff_opens (l : LibraryInput) : r.expands l = true ↔ r.Opens l := by
  unfold expands Opens LibraryInput.hasObjects OrderedSet.isEmpty
  rw [Bool.and_eq_true, Bool.and_eq_true, Bool.or_eq_true, List.any_eq_true, and_assoc, Bool.not_eq_true',
    List.isEmpty_eq_false_iff]

/-- The collector accounts for every input. The expanded inputs are the inputs in their order, with the members of a
library in its place where it is opened. The list of the command line, which has no empty groups, reads back as the
expanded inputs without the objects that the indexer lists, and with every other object mapped. -/
theorem collect_accounts_for_inputs :
    r.collect.expandedInputs = r.inputs.flatMap (fun
        | .object o => [.object o]
        | .library l => if r.Opens l then l.objects.toList.map (.object <| .ofArtifact ·) else [.library l]) ∧
      readBack (r.collect.expandedInputs.filterMap (·.library?)) r.collect.librariesToLink =
        some (r.collect.expandedInputs.filterMap r.listedItem?) ∧
      ∀ whole, .objectFileGroup [] whole ∉ r.collect.librariesToLink := by
  refine ⟨congrArg (r.inputs.flatMap ·) (funext fun i => ?_), r.readBack_list r.inputs, fun whole hgroup => ?_⟩
  · cases i with
    | object o => rfl
    | library l =>
        unfold expand
        dsimp only
        simp only [r.expands_iff_opens l]
  · obtain ⟨i, -, hlist⟩ := mem_librariesToLink.1 hgroup
    exact r.list_ne_empty_group i whole hlist

end CollectionRequest
end LinkPlanner
