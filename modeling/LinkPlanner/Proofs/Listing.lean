import LinkPlanner.Proofs.Backends

/-! How the usual collector goes through the inputs of a link. It expands every input into those that stand
for it, and each of these is listed by itself: the list of a link names the files that its expanded inputs
are listed by, and no others. -/

namespace LinkPlanner

/-- The collector makes the usual collection, if it makes one. -/
def Env.CollectsAsUsual (env : Env) : Prop := ∀ r c, env.collector r = .ok c → c = r.collect

theorem Sample.collectsAsUsual (features : List Feature) : (Sample.env features).CollectsAsUsual := by
  intro r c h
  cases h
  rfl

/-- Values that are told apart by a key alone are compared as the keys are. -/
theorem equivBEq_of_key {α κ : Type} [BEq α] [BEq κ] [EquivBEq κ] (key : α → κ)
    (hkey : ∀ a b : α, (a == b) = (key a == key b)) : EquivBEq α where
  rfl {a} := (hkey a a).trans BEq.rfl
  symm {a b} hab := by
    rw [hkey] at hab ⊢
    exact BEq.symm hab
  trans {a b c} hab hbc := by
    rw [hkey] at hab hbc ⊢
    exact BEq.trans hab hbc

instance : EquivBEq ObjectInput := equivBEq_of_key (·.artifact) fun _ _ => rfl

instance : EquivBEq LibraryInput := equivBEq_of_key (·.artifact) fun _ _ => rfl

namespace LibraryToLink

/-- The object files that an entry names, alone or in a group. -/
def objectPaths : LibraryToLink → List Artifact
  | objectFile path => [path]
  | objectFileGroup paths _ => paths
  | _ => []

/-- The files that an entry names by their paths. -/
def paths : LibraryToLink → List Artifact
  | objectFile path | staticLibrary path _ | versionedDynamicLibrary path | interfaceLibrary path => [path]
  | objectFileGroup paths _ => paths
  | dynamicLibrary _ => []

end LibraryToLink

namespace CollectionRequest

variable {r : CollectionRequest}

theorem mem_collect_expandedInputs {i : LinkerInput} :
    i ∈ r.collect.expandedInputs ↔ ∃ j ∈ r.inputs, i ∈ r.expand j :=
  List.mem_flatMap

theorem expand_library_of_expands {l : LibraryInput} (hl : r.expands l = true) :
    r.expand (.library l) = l.objects.toList.map (.object <| .ofArtifact ·) :=
  if_pos hl

theorem expand_library_of_not_expands {l : LibraryInput} (hl : r.expands l = false) :
    r.expand (.library l) = [.library l] :=
  if_neg (hl ▸ Bool.false_ne_true)

theorem hasObjects_of_mem {l : LibraryInput} {m : Artifact} (hm : m ∈ l.objects.toList) :
    l.hasObjects = true := by
  unfold LibraryInput.hasObjects OrderedSet.isEmpty
  cases hobjects : l.objects.toList with
  | nil =>
      rw [hobjects] at hm
      cases hm
  | cons _ _ => rfl

theorem exists_mem_of_hasObjects {l : LibraryInput} (hl : l.hasObjects = true) : ∃ m, m ∈ l.objects.toList := by
  unfold LibraryInput.hasObjects OrderedSet.isEmpty at hl
  cases hobjects : l.objects.toList with
  | nil =>
      rw [hobjects] at hl
      cases hl
  | cons m _ => exact ⟨m, List.mem_cons_self⟩

theorem expands_of_not_hasObjects {l : LibraryInput} (hl : l.hasObjects = false) : r.expands l = false := by
  unfold expands
  rw [hl, Bool.and_false, Bool.false_and]

/-- A linker that can list members one by one is given all static libraries so. -/
theorem expands_of_supportsStartEndLib {l : LibraryInput} (hstatic : l.category.isStatic = true)
    {m : Artifact} (hm : m ∈ l.objects.toList)
    (hsupports : r.features.isEnabled .supportsStartEndLib = true) : r.expands l = true := by
  unfold expands
  rw [hstatic, hasObjects_of_mem hm, hsupports]
  rfl

/-- A static library with a mapped member is always expanded. -/
theorem expands_of_mapped {l : LibraryInput} (hstatic : l.category.isStatic = true) {m : Artifact}
    (hm : m ∈ l.objects.toList) (hmapped : r.mapping.contains m = true) : r.expands l = true := by
  unfold expands
  rw [hstatic, hasObjects_of_mem hm, Bool.true_and, Bool.true_and, Bool.or_eq_true]
  exact Or.inr (List.any_eq_true.2 ⟨m, hm, hmapped⟩)

/-- What stands for a library is the library itself or one of its members. -/
theorem artifact_of_mem_expand {i j : LinkerInput} (hi : i ∈ r.expand j) :
    i = j ∨ ∃ l, j = .library l ∧ i.artifact ∈ l.objects.toList := by
  cases j with
  | object o => exact Or.inl (List.mem_singleton.1 hi)
  | library l =>
      cases hl : r.expands l with
      | false =>
          rw [expand_library_of_not_expands hl] at hi
          exact Or.inl (List.mem_singleton.1 hi)
      | true =>
          rw [expand_library_of_expands hl] at hi
          obtain ⟨m, hm, rfl⟩ := List.mem_map.1 hi
          exact Or.inr ⟨l, rfl, hm⟩

/-! ### What is listed -/

/-- The entries for an input, none if it is not listed. -/
def entries (r : CollectionRequest) (i : LinkerInput) : List LibraryToLink := (r.list i).toList

theorem mem_librariesToLink {t : LibraryToLink} :
    t ∈ r.collect.librariesToLink ↔ ∃ i ∈ r.inputs, r.list i = some t :=
  List.mem_filterMap

theorem isStatic_of_expands {l : LibraryInput} (hl : r.expands l = true) : l.category.isStatic = true := by
  unfold expands at hl
  rw [Bool.and_eq_true, Bool.and_eq_true] at hl
  exact hl.1.1

theorem expands_of_not_static {l : LibraryInput} (hl : l.category.isStatic = false) : r.expands l = false := by
  cases hexpands : r.expands l with
  | false => rfl
  | true => cases hl.symm.trans (isStatic_of_expands hexpands)

theorem list_object_of_unmapped {o : ObjectInput} (ho : r.mapping.contains o.artifact = false) :
    r.list (.object o) = some (.objectFile o.artifact) := by
  unfold list listedObject? BitcodeMapping.isIndexed
  dsimp only
  rw [ho, Bool.false_and, Bool.and_false, if_neg Bool.false_ne_true, BitcodeMapping.map_of_not_contains ho]
  rfl

theorem list_library_of_not_static {l : LibraryInput} (hl : l.category.isStatic = false) :
    r.list (.library l) = some (listDynamic l) := by
  unfold list
  dsimp only
  rw [hl]
  rfl

theorem list_library_of_not_expands {l : LibraryInput} (hstatic : l.category.isStatic = true)
    (hl : r.expands l = false) : r.list (.library l) = some (.staticLibrary l.artifact (r.keepsWhole l)) := by
  unfold list
  dsimp only
  rw [hstatic, hl]
  rfl

theorem list_library_of_expands {l : LibraryInput} (hl : r.expands l = true) :
    r.list (.library l) =
      if l.objects.toList.filterMap r.listedObject? = [] then none
      else some (.objectFileGroup (l.objects.toList.filterMap r.listedObject?) (r.keepsWhole l)) := by
  unfold list
  dsimp only
  rw [isStatic_of_expands hl, hl]
  cases l.objects.toList.filterMap r.listedObject? <;> rfl

/-- The ways in which a library is listed. -/
inductive Listed (r : CollectionRequest) (l : LibraryInput) : Option LibraryToLink → Prop
  | dynamic (hdynamic : l.category.isStatic = false) : Listed r l (some (listDynamic l))
  | archive (hstatic : l.category.isStatic = true) (hexpands : r.expands l = false) :
      Listed r l (some (.staticLibrary l.artifact (r.keepsWhole l)))
  | group (hexpands : r.expands l = true) (hpaths : l.objects.toList.filterMap r.listedObject? ≠ []) :
      Listed r l (some (.objectFileGroup (l.objects.toList.filterMap r.listedObject?) (r.keepsWhole l)))
  | hidden (hexpands : r.expands l = true) (hnone : l.objects.toList.filterMap r.listedObject? = []) : Listed r l none

theorem listed_list (r : CollectionRequest) (l : LibraryInput) : r.Listed l (r.list (.library l)) := by
  cases hstatic : l.category.isStatic with
  | false =>
      rw [list_library_of_not_static hstatic]
      exact .dynamic hstatic
  | true =>
      cases hexpands : r.expands l with
      | false =>
          rw [list_library_of_not_expands hstatic hexpands]
          exact .archive hstatic hexpands
      | true =>
          rw [list_library_of_expands hexpands]
          split
          · rename_i hnone
            exact .hidden hexpands hnone
          · rename_i hpaths
            exact .group hexpands hpaths

theorem listed_of_list {l : LibraryInput} {entry : Option LibraryToLink} (h : r.list (.library l) = entry) :
    r.Listed l entry := h ▸ r.listed_list l

/-- Only a static library that is not expanded is listed as an archive. -/
theorem list_library_eq_staticLibrary {l : LibraryInput} {path : Artifact} {whole : Bool}
    (h : r.list (.library l) = some (.staticLibrary path whole)) :
    path = l.artifact ∧ l.category.isStatic = true ∧ r.expands l = false := by
  generalize hentry : some (LibraryToLink.staticLibrary path whole) = entry at h
  cases listed_of_list h with
  | dynamic hdynamic =>
      unfold listDynamic at hentry
      split at hentry
      · cases hentry
      · split at hentry <;> cases hentry
  | archive hstatic hexpands =>
      cases hentry
      exact ⟨rfl, hstatic, hexpands⟩
  | group => cases hentry
  | hidden => cases hentry

/-- Grouping the members of a library does not change what is listed by path. -/
theorem paths_entries (i : LinkerInput) :
    (r.entries i).flatMap (·.paths) = (r.expand i).flatMap fun j => (r.entries j).flatMap (·.paths) := by
  cases i with
  | object o => exact (List.append_nil _).symm
  | library l =>
      cases hl : r.expands l with
      | false =>
          rw [expand_library_of_not_expands hl]
          exact (List.append_nil _).symm
      | true =>
          have hmembers : ∀ ms : List Artifact,
              (ms.map (LinkerInput.object <| .ofArtifact ·)).flatMap
                (fun j => (r.entries j).flatMap (·.paths)) = ms.filterMap r.listedObject? := by
            intro ms
            induction ms with
            | nil => rfl
            | cons m ms ih =>
                rw [List.map_cons, List.flatMap_cons, ih, List.filterMap_cons]
                unfold entries list
                change (((r.listedObject? m).map LibraryToLink.objectFile).toList.flatMap _) ++ _ = _
                cases r.listedObject? m <;> rfl
          rw [expand_library_of_expands hl, hmembers]
          unfold entries
          rw [list_library_of_expands hl]
          split
          · rename_i hnone
            exact hnone.symm
          · exact List.append_nil _

/-- The list names exactly the files that the expanded inputs are listed by. -/
theorem mem_paths_collect {q : Artifact} :
    (∃ t ∈ r.collect.librariesToLink, q ∈ t.paths) ↔
      ∃ i ∈ r.collect.expandedInputs, ∃ t, r.list i = some t ∧ q ∈ t.paths := by
  have hentries : ∀ i, q ∈ (r.entries i).flatMap (·.paths) ↔ ∃ t, r.list i = some t ∧ q ∈ t.paths := by
    intro i
    unfold entries
    simp only [List.mem_flatMap, Option.mem_toList]
  constructor
  · rintro ⟨t, ht, hq⟩
    obtain ⟨i, hi, hlist⟩ := mem_librariesToLink.1 ht
    have hpath := (hentries i).2 ⟨t, hlist, hq⟩
    rw [paths_entries, List.mem_flatMap] at hpath
    obtain ⟨j, hj, hpath⟩ := hpath
    exact ⟨j, mem_collect_expandedInputs.2 ⟨i, hi, hj⟩, (hentries j).1 hpath⟩
  · rintro ⟨j, hj, hpath⟩
    obtain ⟨i, hi, hji⟩ := mem_collect_expandedInputs.1 hj
    have hin : q ∈ (r.entries i).flatMap (·.paths) := by
      rw [paths_entries, List.mem_flatMap]
      exact ⟨j, hji, (hentries j).2 hpath⟩
    obtain ⟨t, hlist, hq⟩ := (hentries i).1 hin
    exact ⟨t, mem_librariesToLink.2 ⟨i, hi, hlist⟩, hq⟩

theorem map_of_listedObject? {a b : Artifact} (h : r.listedObject? a = some b) : b = r.mapping.map a := by
  unfold listedObject? at h
  split at h
  · cases h
  · exact (Option.some.inj h).symm

/-- An object file that is listed is what an expanded input is mapped to. -/
theorem mapped_of_mem_objectPaths {t : LibraryToLink} {q : Artifact} (ht : t ∈ r.collect.librariesToLink)
    (hq : q ∈ t.objectPaths) : ∃ i ∈ r.collect.expandedInputs, q = r.mapping.map i.artifact := by
  obtain ⟨i, hi, hlist⟩ := mem_librariesToLink.1 ht
  cases i with
  | object o =>
      obtain ⟨b, hb, rfl⟩ := Option.map_eq_some_iff.1 hlist
      rw [List.mem_singleton.1 hq]
      exact ⟨.object o, mem_collect_expandedInputs.2 ⟨_, hi, List.mem_singleton_self _⟩, map_of_listedObject? hb⟩
  | library l =>
      cases listed_of_list hlist with
      | dynamic hdynamic =>
          unfold listDynamic at hq
          split at hq
          · cases hq
          · split at hq <;> cases hq
      | archive => cases hq
      | group hexpands hpaths =>
          obtain ⟨m, hm, hmq⟩ := List.mem_filterMap.1 hq
          refine ⟨.object (.ofArtifact m), mem_collect_expandedInputs.2 ⟨.library l, hi, ?_⟩, map_of_listedObject? hmq⟩
          rw [expand_library_of_expands hexpands]
          exact List.mem_map_of_mem hm

end CollectionRequest
end LinkPlanner
