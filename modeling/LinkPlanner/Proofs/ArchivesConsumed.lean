import LinkPlanner.Proofs.BackendUniqueness
import LinkPlanner.Proofs.MappedBitcode
import LinkPlanner.Proofs.ProducedLibraries
import LinkPlanner.Proofs.Verdicts

/-! Links over archives. What the plan of an archive leaves for other links is just what they look for there: for
every bitcode member a shared backend, under the name that the member has in the library. A link that does not index
the members of its libraries reads the objects of these backends in place of the bitcode. -/

namespace LinkPlanner

open Planning

/-! ### Objects of shared backends -/

/-- Where an object goes is told by the bitcode, however that is spelled. -/
theorem Backend.file_congr (build : Build) (root : Path) {a b : Artifact} (hab : (a == b) = true) :
    (file build root a "" == file build root b "") = true :=
  file_beq_of_join build hab (Path.join_congr root (Artifact.beq_iff.1 hab).2.1)

/-- Libraries that are made in one build share one object for a bitcode file. -/
theorem LibraryInput.SharedIn.objectFile_congr {build : Build} {s t : Session} {l k : LibraryInput} {m n : Artifact}
    {b c : Backend} (hl : l.SharedIn build s) (hk : k.SharedIn build t) (hb : l.sharedBackend? m = some b)
    (hc : k.sharedBackend? n = some c) (hmn : (m == n) = true) : (b.objectFile == c.objectFile) = true := by
  obtain ⟨_, x, _, hx, rfl⟩ := hl.created hb
  obtain ⟨_, y, _, hy, rfl⟩ := hk.created hc
  exact Backend.file_congr _ _ (BEq.trans (BEq.trans hx hmn) (BEq.symm hy))

/-! ### Links over archives -/

/-- The libraries of a link are archives, planned before it in one environment. A member that is bitcode for any of
them is so for its own library, and no such member is bitcode that the link has of its own. -/
structure Link.OverArchives (env : Env) (t : Session) (link : Link) : Prop where
  produced : ∀ l ∈ link.libraries.toList, Produced env t l
  declared : ∀ l ∈ link.libraries.toList, ∀ m ∈ l.objects.toList, ∀ k ∈ link.libraries.toList,
    k.lto.isBitcode m = true → l.lto.isBitcode m = true
  apart : ∀ a, link.OwnBitcode a → ¬ link.MemberBitcode a

/-- For every bitcode member its library has a shared backend, whose object stands for the member in the mapping and
is declared as shareable. -/
def Link.MapsToShared (link : Link) (mapping : BitcodeMapping) (t : Session) : Prop :=
  ∀ l ∈ link.libraries.toList, ∀ m ∈ l.objects.toList, l.lto.isBitcode m = true →
    ∃ b, l.sharedBackend? m = some b ∧ b.isShared = true ∧ (mapping.map m == b.objectFile) = true ∧
      t.declared.Shares b.objectFile

/-- For every bitcode member the action reads the object that its library shares, and reads the bitcode only under a
name that is read as it is. -/
def LinkPlan.ReadsShared (env : Env) (link : Link) (plan : LinkPlan) : Prop :=
  ∀ l ∈ link.libraries.toList, ∀ m ∈ l.objects.toList, l.lto.isBitcode m = true →
    (∃ b, l.sharedBackend? m = some b ∧ plan.action.inputs.contains b.objectFile = true) ∧
      ((∀ x ∈ plan.readAsIs env link, (x == m) = false) → plan.action.inputs.contains m = false)

namespace Link.OverArchives

variable {env env' : Env} {t : Session} {link : Link}

theorem made (h : link.OverArchives env t) : link.SharedBackendsMade :=
  fun l hl backends hbackends => ((h.produced l hl).sharedIn.made backends hbackends).made

/-- No shared backend is missing: whatever speaks against the bitcode of the link, it is a tree. -/
theorem tree_of_refused (h : link.OverArchives env t) {kind : FailureKind} {c : Cause}
    (hrefused : link.BitcodeRefused env'.toBuild kind c) : ∃ a, c = .treeAmongIndexFiles a := by
  obtain ⟨a, -, -, -, heq⟩ := hrefused.tree_of_shared fun l hl m hm ⟨k, hk, hbitcode⟩ _ => by
    obtain ⟨b, hb⟩ := (h.produced l hl).sharedIn.covered m (h.declared l hl m hm k hk hbitcode)
    obtain ⟨backends, hbackends, hget⟩ := Option.bind_eq_some_iff.1 hb
    refine ⟨backends, hbackends, ?_⟩
    rw [OrderedMap.contains_eq_isSome_get?, hget]
    rfl
  exact ⟨a, heq⟩

theorem cause_of_run_planBackends (h : link.OverArchives env t) {s u : Session} {f : Failure}
    (hrun : (link.planBackends env').run s = (.error f, u)) :
    f.cause.isFromCheck = true ∨ ∃ a, f.cause = .treeAmongIndexFiles a := by
  have hverdict := (link.heeds_planBackends env').verdict_of_run_error hrun
  have hspec := bitcodeVerdict_spec env' link
  rw [hverdict] at hspec
  rcases hspec with hcheck | ⟨kind, hrefused⟩
  · exact Or.inl (isFromCheck_of_check hcheck)
  · exact Or.inr (h.tree_of_refused hrefused)

end Link.OverArchives

namespace BackendPlan

variable {env env' : Env} {t : Session} {p : BackendPlan} (hp : p.Planned env' p.link)
  (h : p.link.OverArchives env t) (hinclude : p.decision.includeStatic = false)
include hp h hinclude

/-- What stands for a bitcode member is the object that its library shares. -/
theorem Planned.map_member {l : LibraryInput} {m : Artifact} {b : Backend} (hl : l ∈ p.link.libraries.toList)
    (hm : m ∈ l.objects.toList) (hbitcode : l.lto.isBitcode m = true) (hb : l.sharedBackend? m = some b) :
    (p.mapping.map m == b.objectFile) = true := by
  have hmember : p.link.MemberBitcode m := ⟨l, hl, m, hm, BEq.rfl, l, hl, hbitcode⟩
  have hcontains := hp.mapping_contains h.made.keyed (Or.inr hmember)
  rw [hp.mapping_eq] at hcontains ⊢
  obtain ⟨c, hc, hcm, hmap⟩ := BitcodeMapping.exists_backend_of_contains hcontains
  rw [hmap]
  -- the backend may be one that another archive shares for the same member, but its object is the same
  cases hp.origin hc with
  | newMember hmem hyes =>
      rw [hinclude] at hyes
      cases hyes
  | @sharedMember k n _ hmem _ hshared =>
      obtain ⟨hk, -, -⟩ := Link.mem_bitcodeMembers.1 hmem
      have hkey := keyed_of_requireSharedBackend h.made.keyed hk hshared
      exact (h.produced k hk).sharedIn.objectFile_congr (h.produced l hl).sharedIn
        (Option.bind_eq_some_iff.2 (LibraryInput.requireSharedBackend_eq_ok hshared)) hb
        (BEq.trans (BEq.symm hkey) hcm)
  | own hobject hown => exact absurd hmember (h.apart m ⟨_, hobject, hcm, LtoContext.isBitcode_congr hcm ▸ hown⟩)

theorem Planned.mapsToShared {u : Session} (hstay : SharesStay t u) : p.link.MapsToShared p.mapping u := by
  intro l hl m hm hbitcode
  have hshared := (h.produced l hl).sharedIn
  obtain ⟨b, hb⟩ := hshared.covered m hbitcode
  refine ⟨b, hb, ?_, hp.map_member h hinclude hl hm hbitcode hb, hstay _ (hshared.declared m b hb)⟩
  obtain ⟨_, _, _, -, rfl⟩ := hshared.created hb
  rfl

theorem Planned.readsShared (hcollect : env'.CollectsAsUsual) {indexing : Option IndexingOutputs} {c : Collection}
    {plan : LinkPlan} (hbackends : plan.ltoBackends = p.backends.toList)
    (hplan : plan.MadeFrom env' p.link (p.finalRequest env' indexing) c) : plan.ReadsShared env' p.link := by
  intro l hl m hm hbitcode
  have hshared := (h.produced l hl).sharedIn
  have hcontains := hp.mapping_contains h.made.keyed (Or.inr ⟨l, hl, m, hm, BEq.rfl, l, hl, hbitcode⟩)
  refine ⟨?_, fun hnone => hp.inputs_not_contains hbackends hplan hcontains hnone⟩
  obtain ⟨b, hb⟩ := hshared.covered m hbitcode
  refine ⟨b, hb, ?_⟩
  rw [← OrderedSet.contains_congr (hp.map_member h hinclude hl hm hbitcode hb)]
  exact inputs_contains_member hcollect hplan hcontains ⟨l, hl, hshared.static, m, hm, BEq.rfl⟩

end BackendPlan

/-- A link over archives that does not index their members never lacks a shared backend. It maps every bitcode
member to the object that the archive shares for it, and its final action reads this object and not the bitcode. -/
theorem Link.archives_consumed {env env' : Env} {t : Session} {link : Link} (harchives : link.OverArchives env t)
    (hinclude : (link.ltoFacts env'.features).decide.includeStatic = false) :
    (match (link.planBackends env').run t with
      | (.error f, _) => ∀ a m, f.cause ≠ .noSharedBackends a ∧ f.cause ≠ .noSharedBackendFor a m
      | (.ok p, u) => link.MapsToShared p.mapping u) ∧
      ∀ plan u, (link.planWithLto env').run t = (.ok plan, u) →
        link.MapsToShared plan.bitcodeMapping u ∧ (env'.CollectsAsUsual → plan.ReadsShared env' link) := by
  constructor
  · have hstay := link.keeps_planBackends frame_sharesStay env' t
    rcases hrun : (link.planBackends env').run t with ⟨f | p, u⟩
    · intro a m
      rcases harchives.cause_of_run_planBackends hrun with hcheck | ⟨tree, htree⟩
      · constructor <;> rintro heq <;> rw [heq] at hcheck <;> cases hcheck
      · constructor <;> rintro heq <;> rw [heq] at htree <;> cases htree
    · rw [hrun] at hstay
      have hp := backends_planned_of_yields ⟨_, _, hrun⟩
      have hlink := hp.link_eq
      subst hlink
      exact hp.mapsToShared harchives (hp.decision_eq ▸ hinclude) hstay
  · intro plan u hrun
    have hstay := link.keeps_planWithLto frame_sharesStay env' (keeps_register env') t
    rw [hrun] at hstay
    obtain ⟨p, phase, hp, hphase, hfinal⟩ := phases_of_yields ⟨_, _, hrun⟩
    have hp := backends_planned_of_yields hp
    have hlink := hp.link_eq
    subst hlink
    have hno : p.decision.includeStatic = false := hp.decision_eq ▸ hinclude
    obtain ⟨indexing, c, -, hmade, -, hbackends, hmapping⟩ := BackendPlan.final_of_yields hphase hfinal
    rw [hmapping]
    exact ⟨hp.mapsToShared harchives hno hstay, fun hcollect =>
      hp.readsShared harchives hno hcollect hbackends hmade⟩

namespace Sample

/-- The link that makes the sample library. -/
def archive : Link where
  owner := "//dep:dep"
  output := file "dep/libdep.a"
  libraryIdentifier := some "dep/libdep.a"
  objects := .ofList [.ofArtifact (file "dep/dep.o")]
  lto := context ["dep/dep.o"]

/-- What is there once the sample library is planned. -/
def archiveSession : Session := ((archive.plan sharedEnv).run {}).2

theorem produced_library : Produced sharedEnv archiveSession (library sharedEnv) := by
  have hlibrary : ((archive.plan sharedEnv).run {}).1.map (·.outputLibrary) = .ok (some (library sharedEnv)) := rfl
  rcases hrun : (archive.plan sharedEnv).run {} with ⟨e | plan, u⟩
  · rw [hrun] at hlibrary
    cases hlibrary
  · rw [hrun] at hlibrary
    have hsession : u = archiveSession := (congrArg Prod.snd hrun).symm
    exact ⟨archive, {}, u, plan, rfl, hrun, Except.ok.inj hlibrary, hsession ▸ .refl u⟩

theorem overArchives_link : (link sharedEnv ["app/main.o"] ["app/main.o"]).OverArchives sharedEnv archiveSession where
  produced l hl := by
    cases List.mem_singleton.1 hl
    exact produced_library
  declared l hl m _ k hk hbitcode := by
    cases List.mem_singleton.1 hl
    cases List.mem_singleton.1 hk
    exact hbitcode
  apart a := by
    rintro ⟨o, ho, hoa, -⟩ ⟨l, hl, m, hm, hma, -⟩
    cases List.mem_singleton.1 ho
    cases List.mem_singleton.1 hl
    cases List.mem_singleton.1 hm
    have hsame : (file "app/main.o" == file "dep/dep.o") = true := BEq.trans hoa (BEq.symm hma)
    exact absurd hsame (by decide +kernel)

/-- The member of the sample library is replaced by the object that the library was planned with. -/
theorem library_consumed :
    (link sharedEnv ["app/main.o"] ["app/main.o"]).OverArchives sharedEnv archiveSession ∧
      ((link sharedEnv ["app/main.o"] ["app/main.o"]).ltoFacts sharedEnv.features).decide.includeStatic = false ∧
      ∃ plan u b, ((link sharedEnv ["app/main.o"] ["app/main.o"]).planWithLto sharedEnv).run archiveSession =
          (.ok plan, u) ∧
        (library sharedEnv).sharedBackend? (file "dep/dep.o") = some b ∧ u.declared.Shares b.objectFile ∧
        (plan.bitcodeMapping.map (file "dep/dep.o") == b.objectFile) = true ∧
        plan.action.inputs.contains b.objectFile = true ∧
        plan.action.inputs.contains (file "dep/dep.o") = false := by
  have hinclude : ((link sharedEnv ["app/main.o"] ["app/main.o"]).ltoFacts sharedEnv.features).decide.includeStatic =
    false := by decide +kernel
  obtain ⟨plan, u, hrun, hcheck⟩ := exists_run_of_check
    ((link sharedEnv ["app/main.o"] ["app/main.o"]).planWithLto sharedEnv) archiveSession
    (fun plan => (plan.readAsIs sharedEnv (link sharedEnv ["app/main.o"] ["app/main.o"])).all fun x =>
      !(x == file "dep/dep.o"))
    (by decide +kernel)
  simp only [List.all_eq_true, Bool.not_eq_true'] at hcheck
  obtain ⟨hmaps, hreads⟩ := (Link.archives_consumed overArchives_link hinclude).2 plan u hrun
  have hmember : file "dep/dep.o" ∈ (library sharedEnv).objects.toList := List.mem_singleton_self _
  have hbitcode : (library sharedEnv).lto.isBitcode (file "dep/dep.o") = true := by decide +kernel
  obtain ⟨b, hb, -, hmap, hshares⟩ := hmaps _ (List.mem_singleton_self _) _ hmember hbitcode
  obtain ⟨⟨c, hc, hinput⟩, hraw⟩ := hreads (collectsAsUsual _) _ (List.mem_singleton_self _) _ hmember hbitcode
  cases hb.symm.trans hc
  exact ⟨overArchives_link, hinclude, plan, u, b, hrun, hb, hshares, hmap, hinput, hraw hcheck⟩

end Sample
end LinkPlanner
