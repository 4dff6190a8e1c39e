import Mathlib.Data.List.Basic
import LinkPlanner.Proofs.BackendUniqueness
import LinkPlanner.Proofs.Verdicts

/-! What dynamic libraries have to do with the backends of a link. The linker takes a dynamic library as it is, but
planning goes through the members and the bitcode of every library whatever its category. So the backends are those
of the link without that information exactly as long as no dynamic library brings in a bitcode member or tips the
decision. -/

namespace LinkPlanner

/-! ### Dynamic libraries with nothing but a name -/

/-- The library as it is, or without members and bitcode if it is no static one. -/
def LibraryInput.bare (l : LibraryInput) : LibraryInput :=
  if l.category.isStatic then l else { l with objects := .empty, lto := {} }

namespace LibraryInput

variable {l : LibraryInput}

theorem bare_of_static (hl : l.category.isStatic = true) : l.bare = l := if_pos hl

theorem bare_of_not_static (hl : l.category.isStatic = false) :
    l.bare = { l with objects := .empty, lto := {} } := if_neg (hl ▸ Bool.false_ne_true)

@[simp] theorem artifact_bare : l.bare.artifact = l.artifact := by
  unfold bare
  split <;> rfl

@[simp] theorem sharedBackends_bare : l.bare.sharedBackends = l.sharedBackends := by
  unfold bare
  split <;> rfl

theorem mem_objects_bare {m : Artifact} :
    m ∈ l.bare.objects.toList ↔ l.category.isStatic = true ∧ m ∈ l.objects.toList := by
  cases hl : l.category.isStatic with
  | true => simp [bare_of_static hl]
  | false => simp [bare_of_not_static hl]

theorem isBitcode_bare {m : Artifact} :
    l.bare.lto.isBitcode m = true ↔ l.category.isStatic = true ∧ l.lto.isBitcode m = true := by
  cases hl : l.category.isStatic with
  | true => simp [bare_of_static hl]
  | false =>
      rw [bare_of_not_static hl]
      exact ⟨fun h => (nomatch h), fun h => (nomatch h.1)⟩

end LibraryInput

namespace Link

variable {env : Env} {link : Link}

/-- The link with nothing known about its dynamic libraries but their names. -/
def bare (link : Link) : Link := { link with libraries := .ofList (link.libraries.toList.map (·.bare)) }

theorem libraries_bare (link : Link) : link.bare.libraries.toList = link.libraries.toList.map (·.bare) := by
  refine OrderedSet.toList_ofList (List.pairwise_map.2 (link.libraries.distinct.imp fun {l k} hlk => ?_))
  change (l.bare.artifact == k.bare.artifact) = false
  rw [LibraryInput.artifact_bare, LibraryInput.artifact_bare]
  exact hlk

theorem SharedBackendsKeyed.bare (hkeyed : link.SharedBackendsKeyed) : link.bare.SharedBackendsKeyed := by
  intro l hl m hm
  rw [libraries_bare] at hl
  obtain ⟨k, hk, rfl⟩ := List.mem_map.1 hl
  rw [LibraryInput.sharedBackends_bare] at hm
  exact hkeyed k hk m hm

theorem exists_isBitcode_bare {m : Artifact} :
    (∃ k ∈ link.bare.libraries.toList, k.lto.isBitcode m = true) ↔
      ∃ k ∈ link.libraries.toList, k.category.isStatic = true ∧ k.lto.isBitcode m = true := by
  rw [libraries_bare]
  simp only [List.mem_map, exists_exists_and_eq_and, LibraryInput.isBitcode_bare]

/-- The bitcode members of the bare link are those of static libraries that static libraries record. -/
theorem mem_bitcodeMembers_bare {l : LibraryInput} {m : Artifact} :
    (l, m) ∈ link.bare.bitcodeMembers ↔
      l ∈ link.libraries.toList ∧ l.category.isStatic = true ∧ m ∈ l.objects.toList ∧
        ∃ k ∈ link.libraries.toList, k.category.isStatic = true ∧ k.lto.isBitcode m = true := by
  rw [mem_bitcodeMembers, exists_isBitcode_bare, libraries_bare, List.mem_map]
  constructor
  · rintro ⟨⟨k, hk, rfl⟩, hm, hbitcode⟩
    obtain ⟨hstatic, hm⟩ := LibraryInput.mem_objects_bare.1 hm
    rw [LibraryInput.bare_of_static hstatic]
    exact ⟨hk, hstatic, hm, hbitcode⟩
  · rintro ⟨hl, hstatic, hm, hbitcode⟩
    exact ⟨⟨l, hl, LibraryInput.bare_of_static hstatic⟩, hm, hbitcode⟩

/-! ### What dynamic libraries bring in -/

/-- A bitcode member of the link that it would not have but for a dynamic library: the member of one, or recorded by
such libraries alone. -/
def DynamicMember (link : Link) (l : LibraryInput) (m : Artifact) : Prop :=
  (l, m) ∈ link.bitcodeMembers ∧
    (l.category.isStatic = false ∨
      ∀ k ∈ link.libraries.toList, k.category.isStatic = true → k.lto.isBitcode m = false)

theorem dynamicMember_iff {l : LibraryInput} {m : Artifact} :
    link.DynamicMember l m ↔ (l, m) ∈ link.bitcodeMembers ∧ (l, m) ∉ link.bare.bitcodeMembers := by
  refine and_congr_right fun hmem => ?_
  obtain ⟨hl, hm, -⟩ := mem_bitcodeMembers.1 hmem
  rw [mem_bitcodeMembers_bare]
  constructor
  · rintro (hdynamic | hnone) ⟨-, hstatic, -, k, hk, hkstatic, hbitcode⟩
    · rw [hstatic] at hdynamic
      cases hdynamic
    · rw [hnone k hk hkstatic] at hbitcode
      cases hbitcode
  · intro hnot
    cases hstatic : l.category.isStatic with
    | false => exact Or.inl rfl
    | true =>
        refine Or.inr fun k hk hkstatic => Bool.eq_false_iff.2 fun hbitcode => ?_
        exact hnot ⟨hl, hstatic, hm, k, hk, hkstatic, hbitcode⟩

/-- A dynamic library brings in a bitcode member or tips the decision. -/
def DynamicLibrariesMatter (env : Env) (link : Link) : Prop :=
  (∃ l m, link.DynamicMember l m) ∨
    (link.bare.ltoFacts env.features).decide ≠ (link.ltoFacts env.features).decide

/-- Without members from dynamic libraries both links have the same bitcode members, in the same order. -/
theorem bitcodeMembers_bare (hnone : ∀ l m, ¬ link.DynamicMember l m) :
    link.bare.bitcodeMembers = link.bitcodeMembers := by
  unfold bitcodeMembers
  rw [libraries_bare, List.flatMap_map]
  refine List.flatMap_congr fun l hl => ?_
  cases hstatic : l.category.isStatic with
  | true =>
      rw [LibraryInput.bare_of_static hstatic]
      congr 1
      refine List.filter_congr fun m hm => ?_
      rw [Bool.eq_iff_iff, libraryBitcode_contains, libraryBitcode_contains, ← libraries_bare]
      constructor
      · intro hbitcode
        obtain ⟨k, hk, -, hbitcode⟩ := exists_isBitcode_bare.1 hbitcode
        exact ⟨k, hk, hbitcode⟩
      · intro hbitcode
        by_contra hnot
        refine hnone l m (dynamicMember_iff.2 ⟨mem_bitcodeMembers.2 ⟨hl, hm, hbitcode⟩, fun hbare => hnot ?_⟩)
        exact (mem_bitcodeMembers.1 hbare).2.2
  | false =>
      have hempty : l.objects.toList.filter (libraryBitcode link.libraries.toList).contains = [] := by
        refine List.filter_eq_nil_iff.2 fun m hm hbitcode => hnone l m ⟨?_, Or.inl hstatic⟩
        exact mem_bitcodeMembers.2 ⟨hl, hm, libraryBitcode_contains.1 hbitcode⟩
      rw [LibraryInput.bare_of_not_static hstatic, hempty]
      rfl

end Link

/-! ### Two plans side by side -/

/-- Two plans decide alike, with the same backends for the same bitcode. -/
structure BackendPlan.Agrees (p q : BackendPlan) : Prop where
  decision_eq : p.decision = q.decision
  backends_eq : p.backends = q.backends
  mapping_eq : p.mapping = q.mapping

/-- Both are refused, or both are planned and the plans agree. -/
inductive SameOutcome : Except Failure BackendPlan → Except Failure BackendPlan → Prop where
  | planned {p q : BackendPlan} (h : p.Agrees q) : SameOutcome (.ok p) (.ok q)
  | refused (e f : Failure) : SameOutcome (.error e) (.error f)

namespace Link

variable {env : Env} {link : Link}

section NoMatter

variable (hnone : ¬ link.DynamicLibrariesMatter env)
include hnone

theorem decide_bare : (link.bare.ltoFacts env.features).decide = (link.ltoFacts env.features).decide :=
  Classical.not_not.1 fun hne => hnone (Or.inr hne)

theorem indexedFiles_bare : link.bare.indexedFiles env = link.indexedFiles env := by
  have hmembers := bitcodeMembers_bare fun l m hm => hnone (Or.inl ⟨l, m, hm⟩)
  unfold indexedFiles
  rw [bitcodeFiles_eq, bitcodeFiles_eq, hmembers, decide_bare hnone]
  rfl

theorem memberBackends_bare (decision : LtoDecision) (roots : LtoRoots) (files : BitcodeFiles) :
    link.bare.memberBackends env.toBuild decision roots files =
      link.memberBackends env.toBuild decision roots files := by
  unfold memberBackends
  rw [bitcodeMembers_bare fun l m hm => hnone (Or.inl ⟨l, m, hm⟩)]
  rfl

theorem bitcodeVerdict_bare : link.bare.bitcodeVerdict env = link.bitcodeVerdict env := by
  have hcheck : link.bare.check env.toBuild = link.check env.toBuild := rfl
  have hroots : link.bare.backendRoots env = link.backendRoots env := by
    unfold backendRoots
    rw [decide_bare hnone]
    rfl
  change (link.bare.check env.toBuild >>= fun _ =>
    (link.bare.indexedFiles env).checkRoots (link.bare.backendRoots env) >>= fun _ =>
      link.bare.memberBackends env.toBuild (link.bare.ltoFacts env.features).decide (link.bare.backendRoots env)
        (link.bare.indexedFiles env)) = _
  rw [hcheck, hroots, indexedFiles_bare hnone, memberBackends_bare hnone, decide_bare hnone]
  rfl

theorem agrees_bare {p q : BackendPlan} (hp : p.Planned env link) (hq : q.Planned env link.bare) : p.Agrees q := by
  have hdecision : p.decision = q.decision := by rw [hp.decision_eq, hq.decision_eq, decide_bare hnone]
  have hroots : p.roots = q.roots := by
    rw [hp.roots_eq, hq.roots_eq, hdecision]
    rfl
  have hfiles : link.bare.bitcodeFiles q.decision = link.bitcodeFiles q.decision := by
    have hsame := indexedFiles_bare hnone
    unfold indexedFiles at hsame
    rw [hq.decision_eq, hsame, decide_bare hnone]
  have hbackends : p.backends = q.backends := by
    obtain ⟨members, hmembers, hpbackends⟩ := hp.backends_eq
    obtain ⟨members', hmembers', hqbackends⟩ := hq.backends_eq
    rw [hdecision, hroots] at hmembers hpbackends
    rw [hfiles] at hmembers' hqbackends
    rw [memberBackends_bare hnone, hmembers] at hmembers'
    cases hmembers'
    rw [hpbackends, hqbackends]
    rfl
  exact ⟨hdecision, hbackends, by rw [hp.mapping_eq, hq.mapping_eq, hbackends]⟩

theorem sameOutcome_bare (s : Session) :
    SameOutcome ((link.planBackends env).run s).1 ((link.bare.planBackends env).run s).1 := by
  have hlink := link.heeds_planBackends env
  have hbare := link.bare.heeds_planBackends env
  rw [bitcodeVerdict_bare hnone] at hbare
  cases hverdict : link.bitcodeVerdict env with
  | error c =>
      rw [hverdict] at hlink hbare
      obtain ⟨e, t, hrun, -⟩ := Planning.Settles.run_error hlink s
      obtain ⟨f, u, hrun', -⟩ := Planning.Settles.run_error hbare s
      rw [hrun, hrun']
      exact .refused e f
  | ok members =>
      rw [hverdict] at hlink hbare
      obtain ⟨p, hp⟩ := hlink
      obtain ⟨q, hq⟩ := hbare
      obtain ⟨t, hrun⟩ := hp.run_ok s
      obtain ⟨u, hrun'⟩ := hq.run_ok s
      rw [hrun, hrun']
      exact .planned (agrees_bare hnone (backends_planned_of_yields ⟨s, t, hrun⟩)
        (backends_planned_of_yields ⟨s, u, hrun'⟩))

end NoMatter

/-! ### Refused links -/

theorem mem_bitcodeMembers_of_bare {l : LibraryInput} {m : Artifact} (h : (l, m) ∈ link.bare.bitcodeMembers) :
    (l, m) ∈ link.bitcodeMembers := by
  obtain ⟨hl, -, hm, k, hk, -, hbitcode⟩ := mem_bitcodeMembers_bare.1 h
  exact mem_bitcodeMembers.2 ⟨hl, hm, k, hk, hbitcode⟩

/-- What is collected for the bare link is collected for the link. -/
theorem contains_indexedFiles_of_bare {a : Artifact} (ha : a ∈ (link.bare.indexedFiles env).toList) :
    (link.indexedFiles env).contains a = true := by
  unfold indexedFiles at ha ⊢
  rw [bitcodeFiles_eq] at ha ⊢
  refine OrderedSet.contains_ofList_of_mem (List.mem_append.2 ?_)
  refine (List.mem_append.1 (OrderedSet.mem_of_mem_ofList ha)).imp_left fun ha => ?_
  change a ∈ if (link.ltoFacts env.features).decide.includeStatic then _ else _ at ha
  split at ha
  · rename_i hinclude
    rw [if_pos hinclude]
    obtain ⟨⟨l, m⟩, hmem, rfl⟩ := List.mem_map.1 ha
    exact List.mem_map.2 ⟨(l, m), mem_bitcodeMembers_of_bare hmem, rfl⟩
  · cases ha

/-- Whatever speaks against the bitcode of the bare link speaks against that of the link. -/
theorem BitcodeRefused.of_bare {kind : FailureKind} {c : Cause} (h : link.bare.BitcodeRefused env.toBuild kind c) :
    ∃ kind c, link.BitcodeRefused env.toBuild kind c := by
  have hmember : ∀ {l : LibraryInput} {m : Artifact}, l ∈ link.bare.libraries.toList → m ∈ l.objects.toList →
      (∃ k ∈ link.bare.libraries.toList, k.lto.isBitcode m = true) → (l, m) ∈ link.bitcodeMembers :=
    fun hl hm hbitcode => mem_bitcodeMembers_of_bare (mem_bitcodeMembers.2 ⟨hl, hm, hbitcode⟩)
  cases h with
  | tree ha htree hoff =>
      obtain ⟨b, hb, hba⟩ := OrderedSet.contains_iff.1 (contains_indexedFiles_of_bare ha)
      exact ⟨_, _, .tree hb ((Artifact.beq_iff.1 hba).2.2.trans htree) hoff⟩
  | noSharedBackends hl hm hbitcode hinclude hnone =>
      obtain ⟨hl, hm, hbitcode⟩ := mem_bitcodeMembers.1 (hmember hl hm hbitcode)
      exact ⟨_, _, .noSharedBackends hl hm hbitcode hinclude hnone⟩
  | noSharedBackendFor hl hm hbitcode hinclude hbackends hmissing =>
      obtain ⟨hl, hm, hbitcode⟩ := mem_bitcodeMembers.1 (hmember hl hm hbitcode)
      exact ⟨_, _, .noSharedBackendFor hl hm hbitcode hinclude hbackends hmissing⟩

theorem exists_error_of_verdict {c : Cause} (hverdict : link.bitcodeVerdict env = .error c) (s : Session) :
    ∃ e, ((link.planBackends env).run s).1 = .error e := by
  have hheeds := link.heeds_planBackends env
  rw [hverdict] at hheeds
  obtain ⟨e, t, hrun, -⟩ := Planning.Settles.run_error hheeds s
  exact ⟨e, congrArg Prod.fst hrun⟩

theorem exists_verdict_error (hrefused : ¬ ∃ p, (link.planBackends env).Yields p) :
    ∃ c, link.bitcodeVerdict env = .error c := by
  have hheeds := link.heeds_planBackends env
  cases hverdict : link.bitcodeVerdict env with
  | error c => exact ⟨c, rfl⟩
  | ok members =>
      rw [hverdict] at hheeds
      obtain ⟨p, hp⟩ := hheeds
      obtain ⟨t, hrun⟩ := hp.run_ok {}
      exact absurd ⟨p, {}, t, hrun⟩ hrefused

/-- Knowing less about dynamic libraries never makes planning fail. -/
theorem refused_of_bare (hbare : ¬ ∃ q, (link.bare.planBackends env).Yields q) (s : Session) :
    SameOutcome ((link.planBackends env).run s).1 ((link.bare.planBackends env).run s).1 := by
  obtain ⟨c, hbareVerdict⟩ := exists_verdict_error hbare
  have hlinkVerdict : ∃ d, link.bitcodeVerdict env = .error d := by
    have hlink := link.bitcodeVerdict_spec env
    have hspec := link.bare.bitcodeVerdict_spec env
    rw [hbareVerdict] at hspec
    cases hverdict : link.bitcodeVerdict env with
    | error d => exact ⟨d, rfl⟩
    | ok members =>
        rw [hverdict] at hlink
        rcases hspec with hcheck | ⟨kind, hrefused⟩
        · exact absurd (hlink.1.symm.trans hcheck) nofun
        · obtain ⟨kind, d, hrefused⟩ := hrefused.of_bare
          exact absurd hrefused (hlink.2 kind d)
  obtain ⟨d, hlinkVerdict⟩ := hlinkVerdict
  obtain ⟨e, he⟩ := exists_error_of_verdict hlinkVerdict s
  obtain ⟨f, hf⟩ := exists_error_of_verdict hbareVerdict s
  rw [he, hf]
  exact .refused e f

/-- No file that a dynamic library brings in is bitcode of the link without it. -/
def DynamicMembersApart (link : Link) : Prop := ∀ l m, link.DynamicMember l m → ¬ link.bare.Bitcode m

/-- If both links are planned and dynamic libraries matter, the plans differ in the decision or in a backend for a
member that a dynamic library brings in. -/
theorem not_agrees_bare (hkeyed : link.SharedBackendsKeyed) (hapart : link.DynamicMembersApart)
    (hmatter : link.DynamicLibrariesMatter env) {p q : BackendPlan} (hp : p.Planned env link)
    (hq : q.Planned env link.bare) : ¬ p.Agrees q := by
  intro hagrees
  rcases hmatter with ⟨l, m, hmember⟩ | hdecision
  · have hbitcode : link.Bitcode m := Or.inr (memberBitcode_iff.2 ⟨(l, m), hmember.1, BEq.rfl⟩)
    obtain ⟨b, hb, hbm⟩ := hp.exists_backend (fun _ => hkeyed) hbitcode
    have hqlink := hq.link_eq
    rw [hagrees.backends_eq] at hb
    have hbare : q.link.Bitcode b.bitcodeFile := by
      rw [← hqlink] at hq
      exact (hq.origin hb).bitcode fun _ => hqlink ▸ hkeyed.bare
    rw [hqlink] at hbare
    exact hapart l m hmember (hbare.imp (BackendPlan.ownBitcode_congr hbm) (BackendPlan.memberBitcode_congr hbm))
  · exact hdecision (by rw [← hp.decision_eq, ← hq.decision_eq, hagrees.decision_eq])

end Link

/-- Dynamic libraries that bring in no bitcode member and do not tip the decision have no influence on the backends of
a link. Where what they bring in is not bitcode anyway this is exact, but for a link that is refused without them. -/
theorem Link.dynamic_libraries_ignored_iff {env : Env} {link : Link} (hkeyed : link.SharedBackendsKeyed) (s : Session) :
    (¬ link.DynamicLibrariesMatter env →
      SameOutcome ((link.planBackends env).run s).1 ((link.bare.planBackends env).run s).1) ∧
    (link.DynamicMembersApart →
      (SameOutcome ((link.planBackends env).run s).1 ((link.bare.planBackends env).run s).1 ↔
        ¬ link.DynamicLibrariesMatter env ∨ ¬ ∃ q, (link.bare.planBackends env).Yields q)) := by
  refine ⟨fun hnone => sameOutcome_bare hnone s, fun hapart => ⟨fun hsame => ?_, fun hor => ?_⟩⟩
  · by_cases hmatter : link.DynamicLibrariesMatter env
    · refine Or.inr ?_
      rintro ⟨q, hq⟩
      obtain ⟨q, t, hbare⟩ := (link.bare.heeds_planBackends env).run_of_yields hq s
      rcases hlink : (link.planBackends env).run s with ⟨e | p, u⟩ <;> rw [hlink, hbare] at hsame
      · cases hsame
      · cases hsame with
        | planned hagrees =>
            exact not_agrees_bare hkeyed hapart hmatter (backends_planned_of_yields ⟨s, u, hlink⟩)
              (backends_planned_of_yields ⟨s, t, hbare⟩) hagrees
    · exact Or.inl hmatter
  · exact hor.elim (fun hnone => sameOutcome_bare hnone s) fun hbare => refused_of_bare hbare s

namespace Sample

/-- A dynamic library with a member, recorded as bitcode in these paths. -/
def dynamicLibrary (bitcode : List String) : LibraryInput where
  artifact := file "dep/libdep.so"
  category := .dynamicLibrary
  identifier := "dep/libdep.so"
  objects := .ofList [file "dep/dep.o"]
  lto := context bitcode

/-- The executable over such a library, with bitcode of its own. -/
def linkOverDynamic (bitcode : List String) : Link :=
  { link sharedEnv ["app/main.o"] ["app/main.o"] with libraries := .ofList [dynamicLibrary bitcode] }

theorem sharedBackendsKeyed_linkOverDynamic (bitcode : List String) :
    (linkOverDynamic bitcode).SharedBackendsKeyed := by
  intro l hl m hm
  cases List.mem_singleton.1 hl
  cases hm

/-- A member that is no bitcode has no influence. -/
theorem dynamic_member_ignored :
    (linkOverDynamic []).SharedBackendsKeyed ∧ ¬ (linkOverDynamic []).DynamicLibrariesMatter sharedEnv ∧
      ∀ s, SameOutcome (((linkOverDynamic []).planBackends sharedEnv).run s).1
        (((linkOverDynamic []).bare.planBackends sharedEnv).run s).1 := by
  have hkeyed := sharedBackendsKeyed_linkOverDynamic []
  have hnone : ¬ (linkOverDynamic []).DynamicLibrariesMatter sharedEnv := by
    rintro (⟨l, m, hmember, -⟩ | hdecision)
    · have hempty : (linkOverDynamic []).bitcodeMembers = [] := List.isEmpty_iff.1 (by decide +kernel)
      rw [hempty] at hmember
      cases hmember
    · exact hdecision (by decide +kernel)
  exact ⟨hkeyed, hnone, fun s => (Link.dynamic_libraries_ignored_iff hkeyed s).1 hnone⟩

/-- A bitcode member of a dynamic library needs a shared backend, which such a library has not got. -/
theorem dynamic_member_refused :
    (∃ q, ((linkOverDynamic ["dep/dep.o"]).bare.planBackends sharedEnv).Yields q) ∧
      ∀ s, ¬ SameOutcome (((linkOverDynamic ["dep/dep.o"]).planBackends sharedEnv).run s).1
        (((linkOverDynamic ["dep/dep.o"]).bare.planBackends sharedEnv).run s).1 := by
  obtain ⟨q, hq, -⟩ := Planning.exists_yields_of_check
    ((linkOverDynamic ["dep/dep.o"]).bare.planBackends sharedEnv) (fun _ => true) (by decide +kernel)
  have hrefused : ((linkOverDynamic ["dep/dep.o"]).bitcodeVerdict sharedEnv).isOk = false := by decide +kernel
  refine ⟨⟨q, hq⟩, fun s hsame => ?_⟩
  obtain ⟨q, t, hbare⟩ := (Link.heeds_planBackends sharedEnv _).run_of_yields hq s
  cases hverdict : (linkOverDynamic ["dep/dep.o"]).bitcodeVerdict sharedEnv with
  | error c =>
      obtain ⟨e, he⟩ := Link.exists_error_of_verdict hverdict s
      rw [he, hbare] at hsame
      cases hsame
  | ok members =>
      rw [hverdict] at hrefused
      cases hrefused

end Sample
end LinkPlanner
