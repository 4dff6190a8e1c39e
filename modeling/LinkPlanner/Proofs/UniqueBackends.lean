import LinkPlanner.Proofs.BackendUniqueness
import LinkPlanner.Proofs.StepInputs

/-! The unique backends of a link and the bitcode that they may read. The files and the backends are collected
apart: files are told apart by their names, and backends by the names of their bitcode and by where they write. The
link's own bitcode gives the same in both walks. A backend that the link takes over from a library is planned as it is,
and nothing keeps a library from filing a unique backend of another link, or one that stands where an own one is to go. -/

namespace LinkPlanner

namespace Link

variable {env : Env} {link : Link}

/-- Backends as libraries make them write where no link puts its own. -/
theorem SharedBackendsMade.of_borrows (hmade : link.SharedBackendsMade) {b : Backend} (hb : link.Borrows env b) :
    b.isShared = true ∧ b.roots.outputRoot = .ofString LtoRoots.sharedRoot := by
  obtain ⟨-, ⟨l, m⟩, hmem, hfiled⟩ := hb
  obtain ⟨build, usePic, bitcode, copts, -, rfl⟩ := BackendPlan.made_of_requireSharedBackend hmade
    (mem_bitcodeMembers.1 hmem).1 (LibraryInput.sharedBackend?_eq_some_iff.1 hfiled)
  exact ⟨rfl, rfl⟩

theorem SharedBackendsMade.borrowsShared (hmade : link.SharedBackendsMade) (env : Env) : link.BorrowsShared env :=
  fun _ hb => (hmade.of_borrows hb).1

theorem SharedBackendsMade.borrowsApart (hmade : link.SharedBackendsMade) (env : Env) : link.BorrowsApart env := by
  intro b hb _
  rw [(hmade.of_borrows hb).2, BEq.comm]
  exact LtoRoots.outputRoot_forIndexing_ne_shared _ _

end Link

namespace BackendPlan

variable {env : Env} {p : BackendPlan}

def uniqueBackends (p : BackendPlan) : List Backend := p.backends.toList.filter (!·.isShared)

theorem mem_uniqueBackends {b : Backend} : b ∈ p.uniqueBackends ↔ b ∈ p.backends.toList ∧ b.isShared = false := by
  simp [uniqueBackends]

theorem Planned.roots_of_allow (hp : p.Planned env p.link) (hallow : p.decision.allowIndexing = true) :
    p.roots = .forIndexing p.link.output env.features := by
  rw [hp.roots_eq]
  exact if_pos hallow

/-- A unique backend that is not taken over is made only for an indexed link, and its files go beside the output of the
link. -/
theorem Planned.exists_create_of_unique (hp : p.Planned env p.link) (hshared : p.link.BorrowsShared env) {b : Backend}
    (hb : b ∈ p.uniqueBackends) :
    p.decision.allowIndexing = true ∧ ∃ bitcode copts,
      b = .create env.toBuild (.forIndexing p.link.output env.features) (some p.files) p.link.usePicForLtoBackends
        bitcode copts := by
  obtain ⟨hb, hunique⟩ := mem_uniqueBackends.1 hb
  cases hp.origin hb with
  | newMember hmem hinclude =>
      have hallow := hp.allowIndexing_of_member hmem hinclude
      exact ⟨hallow, _, _, by rw [hp.roots_of_allow hallow]⟩
  | sharedMember hmem hinclude hrequired =>
      rw [hshared b (hp.borrows hmem hinclude hrequired)] at hunique
      cases hunique
  | own hobject hbitcode =>
      cases hallow : p.decision.allowIndexing with
      | true => exact ⟨rfl, _, _, by rw [hp.roots_of_allow hallow, if_pos rfl]⟩
      | false =>
          rw [Backend.isShared_create, hallow] at hunique
          cases hunique

/-- A unique backend may read what takes part in the indexing. -/
theorem Planned.allowed_of_unique (hp : p.Planned env p.link) (hshared : p.link.BorrowsShared env) {b : Backend}
    (hb : b ∈ p.uniqueBackends) :
    p.decision.allowIndexing = true ∧ b.compile.allowedInputs = some p.files := by
  obtain ⟨hallow, bitcode, copts, rfl⟩ := hp.exists_create_of_unique hshared hb
  exact ⟨hallow, rfl⟩

/-! ### The two walks -/

/-- The link's own bitcode as the backends are made for it. -/
theorem bitcodeFile_ownBackends (build : Build) (link : Link) (decision : LtoDecision) (roots : LtoRoots)
    (files : BitcodeFiles) :
    (link.ownBackends build decision roots files).map (·.bitcodeFile) =
      (link.objects.toList.filter (link.lto.isBitcode ·.artifact)).map (·.artifact) := by
  unfold Link.ownBackends
  rw [List.map_map, List.filter_map]
  exact List.map_id _

theorem roots_of_mem_ownBackends {build : Build} {link : Link} {decision : LtoDecision} {roots : LtoRoots}
    {files : BitcodeFiles} {b : Backend} (hb : b ∈ link.ownBackends build decision roots files) : b.roots = roots := by
  obtain ⟨o, -, -, rfl⟩ := Link.mem_ownBackends.1 hb
  rfl

/-- Backends that write to one place are told apart by their bitcode. -/
theorem map_bitcodeFile_ofList {roots : LtoRoots} {backends : List Backend}
    (hroots : ∀ b ∈ backends, b.roots = roots) :
    (OrderedSet.ofList backends).toList.map (·.bitcodeFile) =
      (OrderedSet.ofList (backends.map (·.bitcodeFile))).toList := by
  refine (OrderedSet.toList_ofList_map fun b hb c hc => ?_).symm
  rw [Bool.eq_iff_iff, Backend.beq_iff, hroots b hb, hroots c hc]
  exact ⟨fun h => ⟨h, BEq.rfl⟩, And.left⟩

section Indexed

variable (hp : p.Planned env p.link) (hallow : p.decision.allowIndexing = true)
include hp hallow

/-- Where library members take part in the indexing, all backends are unique and write to one place. -/
theorem Planned.files_of_include (hinclude : p.decision.includeStatic = true) :
    p.uniqueBackends.map (·.bitcodeFile) = p.files.toList := by
  have hall : p.uniqueBackends = p.backends.toList := by
    refine List.filter_eq_self.2 fun b hb => ?_
    cases hp.origin hb with
    | newMember hmem _ => rfl
    | sharedMember _ hnot _ =>
        rw [hinclude] at hnot
        cases hnot
    | own hobject hbitcode =>
        rw [hallow]
        rfl
  obtain ⟨members, hmembers, hbackends⟩ := hp.backends_eq
  have hfiles : members.map (·.bitcodeFile) = p.link.bitcodeMembers.map (·.2) := by
    refine Planning.map_of_mapM_eq_ok (fun e b hb => ?_) hmembers
    rw [hinclude] at hb
    cases hb
    rfl
  have hroots : ∀ b ∈ members ++ p.link.ownBackends env.toBuild p.decision p.roots p.files, b.roots = p.roots := by
    intro b hb
    rcases List.mem_append.1 hb with hb | hb
    · obtain ⟨e, -, heq⟩ := (Planning.mem_of_mapM_eq_ok hmembers).1 b hb
      rw [hinclude] at heq
      cases heq
      rfl
    · exact roots_of_mem_ownBackends hb
  rw [hall, hbackends]
  change (OrderedSet.ofList (members ++ p.link.ownBackends _ _ _ p.files)).toList.map _ = _
  rw [map_bitcodeFile_ofList hroots, List.map_append, hfiles, bitcodeFile_ownBackends, files,
    Link.bitcodeFiles_eq, hinclude, if_pos rfl]

omit hallow in
/-- The backends that are planned for members are those that the link takes over. -/
theorem Planned.mem_members_iff (hinclude : p.decision.includeStatic = false) {members : List Backend}
    (hmembers : p.link.memberBackends env.toBuild p.decision p.roots (p.link.bitcodeFiles p.decision) = .ok members)
    {b : Backend} : b ∈ members ↔ p.link.Borrows env b := by
  constructor
  · intro hb
    obtain ⟨⟨l, m⟩, hmem, heq⟩ := (Planning.mem_of_mapM_eq_ok hmembers).1 b hb
    dsimp only at heq
    rw [hinclude, if_neg Bool.false_ne_true] at heq
    exact hp.borrows hmem hinclude heq
  · rintro ⟨-, ⟨l, m⟩, hmem, hfiled⟩
    obtain ⟨d, hd, heq⟩ := (Planning.mem_of_mapM_eq_ok hmembers).2 (l, m) hmem
    dsimp only at heq
    rw [hinclude, if_neg Bool.false_ne_true, LibraryInput.sharedBackend?_eq_some_iff.1 hfiled] at heq
    cases heq
    exact hd

omit hallow in
theorem Planned.contains_members_iff (hinclude : p.decision.includeStatic = false) {members : List Backend}
    (hmembers : p.link.memberBackends env.toBuild p.decision p.roots (p.link.bitcodeFiles p.decision) = .ok members)
    {b : Backend} : (OrderedSet.ofList members).contains b = true ↔ ∃ c, p.link.Borrows env c ∧ (c == b) = true := by
  rw [OrderedSet.contains_ofList, List.any_eq_true]
  exact exists_congr fun c => and_congr_left fun _ => hp.mem_members_iff hinclude hmembers

/-- None of the own backends is dropped for one that is taken over exactly if none of those stands in its place. -/
theorem Planned.borrowsApart_iff (hinclude : p.decision.includeStatic = false) {members : List Backend}
    (hmembers : p.link.memberBackends env.toBuild p.decision p.roots (p.link.bitcodeFiles p.decision) = .ok members) :
    (∀ b ∈ p.link.ownBackends env.toBuild p.decision p.roots p.files, (OrderedSet.ofList members).contains b = false) ↔
      p.link.BorrowsApart env := by
  have hroots := hp.roots_of_allow hallow
  constructor
  · rintro hnone c hc ⟨o, ho, hoc, hbitcode⟩
    rw [← Bool.not_eq_true]
    intro hroot
    rw [← LtoContext.isBitcode_congr hoc] at hbitcode
    have hown := hnone _ (Link.mem_ownBackends.2 ⟨o, ho, hbitcode, rfl⟩)
    rw [← Bool.not_eq_true, hp.contains_members_iff hinclude hmembers] at hown
    rw [← hroots] at hroot
    exact hown ⟨c, hc, Backend.beq_iff.2 ⟨BEq.symm hoc, hroot⟩⟩
  · intro hapart b hb
    rw [← Bool.not_eq_true, hp.contains_members_iff hinclude hmembers]
    rintro ⟨c, hc, hcb⟩
    obtain ⟨o, ho, hbitcode, rfl⟩ := Link.mem_ownBackends.1 hb
    obtain ⟨hsame, hroot⟩ := Backend.beq_iff.1 hcb
    have hclear := hapart c hc ⟨o, ho, BEq.symm hsame, LtoContext.isBitcode_congr hsame ▸ hbitcode⟩
    rw [← hroots] at hclear
    exact absurd hroot (Bool.eq_false_iff.1 hclear)

/-- Where members take no part in the indexing, the unique backends are the own ones without those that are dropped for
one that is taken over. -/
theorem Planned.uniqueBackends_of_not_include (hshared : p.link.BorrowsShared env)
    (hinclude : p.decision.includeStatic = false) {members : List Backend}
    (hmembers : p.link.memberBackends env.toBuild p.decision p.roots (p.link.bitcodeFiles p.decision) = .ok members)
    (hbackends : p.backends = .ofList
      (members ++ p.link.ownBackends env.toBuild p.decision p.roots (p.link.bitcodeFiles p.decision))) :
    p.uniqueBackends = (OrderedSet.ofList (p.link.ownBackends env.toBuild p.decision p.roots p.files)).toList.filter
      (!(OrderedSet.ofList members).contains ·) := by
  have hnone : (OrderedSet.ofList members).toList.filter (!·.isShared) = [] := by
    refine List.filter_eq_nil_iff.2 fun b hb => ?_
    simp [hshared b ((hp.mem_members_iff hinclude hmembers).1 (OrderedSet.mem_of_mem_ofList hb))]
  have hown : ∀ b ∈ p.link.ownBackends env.toBuild p.decision p.roots p.files, b.isShared = false := by
    intro b hb
    obtain ⟨o, -, -, rfl⟩ := Link.mem_ownBackends.1 hb
    rw [Backend.isShared_create, hallow]
    rfl
  have hcongr : ∀ b c : Backend, (b == c) = true →
      (!(OrderedSet.ofList members).contains b) = !(OrderedSet.ofList members).contains c := fun b c hbc => by
    rw [OrderedSet.contains_congr hbc]
  unfold uniqueBackends
  rw [hbackends, OrderedSet.ofList_append, OrderedSet.toList_insertAll_eq, List.filter_append, hnone, List.nil_append,
    ← OrderedSet.toList_ofList_eq_eraseDups, OrderedSet.filter_ofList hcongr]
  refine List.filter_eq_self.2 fun b hb => ?_
  rw [hown b (List.mem_filter.1 (OrderedSet.mem_of_mem_ofList hb)).1]
  rfl

/-- The unique backends are those for the bitcode that takes part in the indexing, in its order, without the own ones
that are dropped for one that is taken over. -/
theorem Planned.exists_sublist (hshared : p.link.BorrowsShared env) :
    ∃ backends : List Backend, backends.map (·.bitcodeFile) = p.files.toList ∧ p.uniqueBackends.Sublist backends ∧
      (p.uniqueBackends = backends ↔ p.link.BorrowsApart env) := by
  cases hinclude : p.decision.includeStatic with
  | true =>
      refine ⟨p.uniqueBackends, hp.files_of_include hallow hinclude, .refl _, iff_of_true rfl fun b hb => ?_⟩
      rw [hp.decision_eq, hb.1] at hinclude
      cases hinclude
  | false =>
      obtain ⟨members, hmembers, hbackends⟩ := hp.backends_eq
      have hunique := hp.uniqueBackends_of_not_include hallow hshared hinclude hmembers hbackends
      refine ⟨_, ?_, hunique ▸ List.filter_sublist, ?_⟩
      · rw [map_bitcodeFile_ofList fun b hb => roots_of_mem_ownBackends hb, bitcodeFile_ownBackends, files, Link.bitcodeFiles_eq, hinclude,
          if_neg Bool.false_ne_true, List.nil_append]
      · rw [hunique, List.filter_eq_self, ← hp.borrowsApart_iff hallow hinclude hmembers]
        simp only [Bool.not_eq_true']
        constructor
        · intro hnone b hb
          obtain ⟨c, hc, hcb⟩ := OrderedSet.exists_of_mem_ofList hb
          rw [← OrderedSet.contains_congr hcb]
          exact hnone c hc
        · exact fun hnone b hb => hnone b (OrderedSet.mem_of_mem_ofList hb)

theorem Planned.sublist_files (hshared : p.link.BorrowsShared env) :
    (p.uniqueBackends.map (·.bitcodeFile)).Sublist p.files.toList := by
  obtain ⟨backends, hfiles, hsub, -⟩ := hp.exists_sublist hallow hshared
  exact hfiles ▸ hsub.map _

theorem Planned.files_eq_iff (hshared : p.link.BorrowsShared env) :
    p.uniqueBackends.map (·.bitcodeFile) = p.files.toList ↔ p.link.BorrowsApart env := by
  obtain ⟨backends, hfiles, hsub, hiff⟩ := hp.exists_sublist hallow hshared
  rw [← hiff, ← hfiles]
  constructor
  · intro hsame
    have hlength := congrArg List.length hsame
    rw [List.length_map, List.length_map] at hlength
    exact hsub.eq_of_length hlength
  · exact fun heq => congrArg (List.map _) heq

/-- The unique backends of an indexed link are for the bitcode that takes part in the indexing, in its order, if
libraries share what libraries make. -/
theorem Planned.files_of_allow (hmade : p.link.SharedBackendsMade) :
    p.uniqueBackends.map (·.bitcodeFile) = p.files.toList :=
  (hp.files_eq_iff hallow (hmade.borrowsShared env)).2 (hmade.borrowsApart env)

end Indexed
end BackendPlan

theorem Link.exists_create_of_unique {env : Env} {link : Link} {plan : LinkPlan} (hplan : link.Yields env plan)
    (hshared : link.BorrowsShared env) {b : Backend} (hb : b ∈ plan.ltoBackends) (hunique : b.isShared = false) :
    ∃ allowed bitcode copts,
      b = .create env.toBuild (.forIndexing link.output env.features) (some allowed) link.usePicForLtoBackends
        bitcode copts := by
  obtain ⟨p, hp, hb⟩ := planned_of_mem_ltoBackends hplan hb
  have hlink := hp.link_eq
  subst hlink
  obtain ⟨-, bitcode, copts, heq⟩ :=
    hp.exists_create_of_unique hshared (BackendPlan.mem_uniqueBackends.2 ⟨hb, hunique⟩)
  exact ⟨p.files, bitcode, copts, heq⟩

/-! ### The mapping -/

namespace BitcodeMapping

theorem objects_ofBackends (backends : List Backend) :
    (ofBackends backends).objects = .ofList (backends.map fun b => (b.bitcodeFile, b.objectFile)) := by
  suffices h : ∀ m : BitcodeMapping,
      (backends.foldl (fun m b => m.insert b.bitcodeFile b.objectFile b.isShared) m).objects =
        m.objects.insertAll (backends.map fun b => (b.bitcodeFile, b.objectFile)) from h {}
  induction backends with
  | nil => exact fun m => rfl
  | cons b backends ih => exact fun m => ih (m.insert b.bitcodeFile b.objectFile b.isShared)

theorem keys_ofBackends (backends : List Backend) :
    (ofBackends backends).objects.keys = (OrderedSet.ofList (backends.map (·.bitcodeFile))).toList := by
  rw [objects_ofBackends]
  unfold OrderedMap.ofList OrderedMap.insertAll
  rw [List.foldl_map]
  exact OrderedMap.keys_foldl_upsert Backend.bitcodeFile Backend.objectFile (fun b _ => b.objectFile) backends

theorem mem_values_ofBackends {backends : List Backend} {o : Artifact}
    (ho : o ∈ (ofBackends backends).objects.values) : ∃ b ∈ backends, o = b.objectFile := by
  obtain ⟨e, he, rfl⟩ := List.mem_map.1 ho
  rw [objects_ofBackends] at he
  obtain ⟨d, hd, -, hvalue⟩ := OrderedMap.mem_entries_ofList he
  obtain ⟨b, hb, rfl⟩ := List.mem_map.1 hd
  exact ⟨b, hb, hvalue⟩

end BitcodeMapping

/-- If a link takes over nothing but shared backends, it has unique ones only if it is indexed. Their bitcode is then, in
order, bitcode collected for the link, which is what each of them may read. It is all of it exactly if no backend that
is taken over stands in the place of an own one. The mapping has the bitcode of the backends for its keys, whichever
these are. -/
theorem Link.unique_backends_read_files {env : Env} {link : Link} {p : BackendPlan}
    (hp : (link.planBackends env).Yields p) :
    (link.BorrowsShared env →
        (p.decision.allowIndexing = false → p.uniqueBackends = []) ∧
          (p.decision.allowIndexing = true →
            (p.uniqueBackends.map (·.bitcodeFile)).Sublist (link.bitcodeFiles p.decision).toList ∧
              (p.uniqueBackends.map (·.bitcodeFile) = (link.bitcodeFiles p.decision).toList ↔ link.BorrowsApart env) ∧
              ∀ b ∈ p.uniqueBackends, ∃ files, b.compile.allowedInputs = some files ∧
                files.toList = (link.bitcodeFiles p.decision).toList ∧ b.bitcodeFile ∈ files.toList)) ∧
      p.mapping.objects.keys = (OrderedSet.ofList (p.backends.toList.map (·.bitcodeFile))).toList ∧
      ∀ a, p.mapping.contains a = true ↔ ∃ b ∈ p.backends.toList, (b.bitcodeFile == a) = true := by
  have hplanned := Link.backends_planned_of_yields hp
  have hlink := hplanned.link_eq
  subst hlink
  refine ⟨fun hshared => ⟨fun hallow => ?_, fun hallow => ?_⟩, ?_, fun a => ?_⟩
  · rw [List.eq_nil_iff_forall_not_mem]
    intro b hb
    rw [(hplanned.allowed_of_unique hshared hb).1] at hallow
    cases hallow
  · have hsub := hplanned.sublist_files hallow hshared
    refine ⟨hsub, hplanned.files_eq_iff hallow hshared, fun b hb => ?_⟩
    exact ⟨p.files, (hplanned.allowed_of_unique hshared hb).2, rfl, hsub.subset (List.mem_map_of_mem hb)⟩
  · rw [hplanned.mapping_eq]
    exact BitcodeMapping.keys_ofBackends _
  · rw [hplanned.mapping_eq, BitcodeMapping.contains_ofBackends, List.any_eq_true]

namespace Sample

/-- The member of the library and the own object of an indexed link are indexed, in this order. -/
theorem member_read_before_own_object :
    ∃ p, ((link (env []) ["app/main.o"] ["app/main.o"]).planBackends (env [])).Yields p ∧
      (link (env []) ["app/main.o"] ["app/main.o"]).BorrowsShared (env []) ∧
      (link (env []) ["app/main.o"] ["app/main.o"]).BorrowsApart (env []) ∧ p.decision.allowIndexing = true ∧
      (p.uniqueBackends.map (·.bitcodeFile)).map (·.text) = ["bin/dep/dep.o", "bin/app/main.o"] := by
  obtain ⟨p, hp, hdecision⟩ := Planning.exists_yields_of_decide
    ((link (env []) ["app/main.o"] ["app/main.o"]).planBackends (env []))
    (fun p => p.decision = ⟨true, true⟩) (by decide +kernel)
  have hmade := sharedBackendsMade_link (env []) ["app/main.o"] ["app/main.o"]
  have hshared := hmade.borrowsShared (env [])
  have hapart := hmade.borrowsApart (env [])
  have hallow : p.decision.allowIndexing = true := by rw [hdecision]
  refine ⟨p, hp, hshared, hapart, hallow, ?_⟩
  obtain ⟨-, hall, -⟩ := ((Link.unique_backends_read_files hp).1 hshared).2 hallow
  rw [hall.2 hapart, hdecision]
  decide +kernel

/-- A shared backend that stands where the executable has the own one for `app/main.o`. -/
def inPlaceOfOwn : Backend :=
  .create sharedEnv.toBuild (.forIndexing (file "app/app") sharedEnv.features) none false (file "app/main.o") []

/-- A library may file the unique backend of another link for its member, and a link that is not indexed takes it over.
What it files may also stand in the place of an own unique backend, which is then left out. -/
theorem taken_over_in_place_of_own :
    (∃ p, ((linkFiling (uniqueFor "app/tool") ["app/main.o"] []).planBackends sharedEnv).Yields p ∧
      p.decision.allowIndexing = false ∧ p.uniqueBackends.map (·.objectFile.text) = ["bin/app/tool.lto/dep/dep.o"]) ∧
    ∃ (b : Backend) (p : BackendPlan),
      ((linkFiling b ["app/main.o"] ["app/main.o"]).planBackends sharedEnv).Yields p ∧ b.isShared = true ∧
        p.decision.allowIndexing = true ∧ p.uniqueBackends.map (·.bitcodeFile.text) = [] ∧
        ((linkFiling b ["app/main.o"] ["app/main.o"]).bitcodeFiles p.decision).toList.map (·.text) =
          ["bin/app/main.o"] := by
  obtain ⟨p, hp, hallow, htaken⟩ := Planning.exists_yields_of_decide
    ((linkFiling (uniqueFor "app/tool") ["app/main.o"] []).planBackends sharedEnv)
    (fun p => p.decision.allowIndexing = false ∧
      p.uniqueBackends.map (·.objectFile.text) = ["bin/app/tool.lto/dep/dep.o"]) (by decide +kernel)
  obtain ⟨q, hq, hdecision, hnone⟩ := Planning.exists_yields_of_decide
    ((linkFiling inPlaceOfOwn ["app/main.o"] ["app/main.o"]).planBackends sharedEnv)
    (fun q => q.decision = ⟨false, true⟩ ∧ q.uniqueBackends.map (·.bitcodeFile.text) = []) (by decide +kernel)
  refine ⟨⟨p, hp, hallow, htaken⟩, inPlaceOfOwn, q, hq, rfl, ?_, hnone, ?_⟩
  · rw [hdecision]
  · rw [hdecision]
    decide +kernel

end Sample
end LinkPlanner
