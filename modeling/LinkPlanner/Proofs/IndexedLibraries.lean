import LinkPlanner.Proofs.ActionInputs

/-! The libraries of a link as the indexer sees them: the same files, with other members. What stands for a
member is its minimized form or the object of its shared backend. -/

namespace LinkPlanner

namespace Link

variable {includeStatic : Bool} {l k : LibraryInput}

theorem indexingLibrary_of_hasObjects (hl : l.hasObjects = true) (h : indexingLibrary includeStatic l = .ok k) :
    ∃ members, l.objects.toList.mapM (indexingMember includeStatic l) = .ok members ∧
      k = l.withReplacedObjects (.ofList members) := by
  unfold indexingLibrary at h
  rw [hl, if_pos rfl] at h
  cases hmembers : l.objects.toList.mapM (indexingMember includeStatic l) with
  | error e =>
      rw [hmembers] at h
      cases h
  | ok members =>
      rw [hmembers] at h
      cases h
      exact ⟨members, rfl, rfl⟩

theorem indexingLibrary_of_not_hasObjects (hl : l.hasObjects = false)
    (h : indexingLibrary includeStatic l = .ok k) : k = l := by
  unfold indexingLibrary at h
  rw [hl] at h
  cases h
  rfl

/-- The indexer sees other members in the same library file. -/
theorem indexingLibrary_keeps (h : indexingLibrary includeStatic l = .ok k) :
    k.artifact = l.artifact ∧ k.category = l.category := by
  cases hl : l.hasObjects with
  | true =>
      obtain ⟨members, -, rfl⟩ := indexingLibrary_of_hasObjects hl h
      exact ⟨rfl, rfl⟩
  | false =>
      rw [indexingLibrary_of_not_hasObjects hl h]
      exact ⟨rfl, rfl⟩

/-- Every member has its counterpart in the library that the indexer sees. -/
theorem indexingLibrary_member {m : Artifact} (hm : m ∈ l.objects.toList)
    (h : indexingLibrary includeStatic l = .ok k) :
    ∃ n, indexingMember includeStatic l m = .ok n ∧ k.objects.contains n = true := by
  obtain ⟨members, hmembers, rfl⟩ :=
    indexingLibrary_of_hasObjects (CollectionRequest.hasObjects_of_mem hm) h
  obtain ⟨n, hn, heq⟩ := (Planning.mem_of_mapM_eq_ok hmembers).2 m hm
  exact ⟨n, heq, OrderedSet.contains_ofList_of_mem hn⟩

/-- The indexer sees every library, and no others. -/
theorem indexingLibraries_toList {link : Link} {libraries : OrderedSet LibraryInput}
    (h : link.indexingLibraries includeStatic = .ok libraries) :
    link.libraries.toList.mapM (indexingLibrary includeStatic) = .ok libraries.toList := by
  unfold indexingLibraries at h
  cases hls : link.libraries.toList.mapM (indexingLibrary includeStatic) with
  | error e =>
      rw [hls] at h
      cases h
  | ok ls =>
      rw [hls] at h
      cases h
      have hartifacts : ls.map (·.artifact) = link.libraries.toList.map (·.artifact) :=
        Planning.map_of_mapM_eq_ok (fun l k hk => (indexingLibrary_keeps hk).1) hls
      have hdistinct : (link.libraries.toList.map (·.artifact)).Pairwise fun a b => (a == b) = false :=
        List.pairwise_map.2 link.libraries.distinct
      rw [← hartifacts, List.pairwise_map] at hdistinct
      exact congrArg Except.ok (OrderedSet.toList_ofList hdistinct).symm

theorem indexingLibraries_library {link : Link} {libraries : OrderedSet LibraryInput}
    (h : link.indexingLibraries includeStatic = .ok libraries) :
    (∀ k ∈ libraries.toList, ∃ l ∈ link.libraries.toList, indexingLibrary includeStatic l = .ok k) ∧
      ∀ l ∈ link.libraries.toList, ∃ k ∈ libraries.toList, indexingLibrary includeStatic l = .ok k :=
  Planning.mem_of_mapM_eq_ok (indexingLibraries_toList h)

/-- What the indexer sees in place of a member. -/
theorem indexingMember_eq_ok {m n : Artifact} (h : indexingMember includeStatic l m = .ok n) :
    n = l.lto.minimizedOrSelf m ∨ ∃ b, l.sharedBackend? m = some b ∧ n = b.objectFile := by
  unfold indexingMember at h
  split at h
  · cases h
    exact Or.inl rfl
  · split at h
    · rename_i b hb
      cases h
      exact Or.inr ⟨b, hb, rfl⟩
    · split at h
      · cases h
      · cases h
        exact Or.inl rfl

/-- Every member that the indexer sees stands for a member of the library. -/
theorem exists_member_of_indexingLibrary {n : Artifact} (hn : n ∈ k.objects.toList)
    (h : indexingLibrary includeStatic l = .ok k) :
    ∃ m ∈ l.objects.toList, indexingMember includeStatic l m = .ok n := by
  cases hl : l.hasObjects with
  | true =>
      obtain ⟨members, hmembers, rfl⟩ := indexingLibrary_of_hasObjects hl h
      exact (Planning.mem_of_mapM_eq_ok hmembers).1 n (OrderedSet.mem_of_mem_ofList hn)
  | false =>
      rw [indexingLibrary_of_not_hasObjects hl h] at hn
      rw [CollectionRequest.hasObjects_of_mem hn] at hl
      cases hl

end Link
end LinkPlanner
