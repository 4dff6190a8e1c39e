import LinkPlanner.Proofs.HeldInputs
import LinkPlanner.Proofs.Spelling

/-! Links that have the same libraries in different orders. Which files have backends does not depend on the order. A
file that several libraries list has the backend of the one that comes first, though, with the name and the flags which
that library gives it. So the order is of no importance exactly if all libraries that list a file give it the same. -/

namespace LinkPlanner

namespace Link

/-- The link with these libraries in place of its own. -/
def withLibraries (link : Link) (libraries : OrderedSet LibraryInput) : Link := { link with libraries }

variable {env : Env} {link : Link} {libraries : OrderedSet LibraryInput}

section Reordered

variable (hperm : libraries.toList.Perm link.libraries.toList)
include hperm

theorem mem_bitcodeMembers_withLibraries {e : LibraryInput × Artifact} :
    e ∈ (link.withLibraries libraries).bitcodeMembers ↔ e ∈ link.bitcodeMembers := by
  obtain ⟨l, m⟩ := e
  rw [mem_bitcodeMembers, mem_bitcodeMembers]
  simp only [withLibraries, hperm.mem_iff]

theorem ltoFacts_withLibraries (features : Features) :
    (link.withLibraries libraries).ltoFacts features = link.ltoFacts features := by
  have hbitcode : (link.withLibraries libraries).hasBitcode = link.hasBitcode := by
    unfold hasBitcode LinkPlanner.hasBitcode
    congr 1
    rw [Bool.eq_iff_iff, List.any_eq_true, List.any_eq_true]
    simp only [withLibraries, hperm.mem_iff]
  unfold ltoFacts
  rw [hbitcode]
  rfl

/-- The same bitcode takes part in the indexing, whatever the order. -/
theorem contains_bitcodeFiles_withLibraries (decision : LtoDecision) (a : Artifact) :
    ((link.withLibraries libraries).bitcodeFiles decision).contains a = (link.bitcodeFiles decision).contains a := by
  rw [bitcodeFiles_eq, bitcodeFiles_eq, OrderedSet.contains_ofList, OrderedSet.contains_ofList, List.any_append,
    List.any_append]
  congr 1
  split
  · rw [Bool.eq_iff_iff, List.any_eq_true, List.any_eq_true]
    simp only [List.mem_map, mem_bitcodeMembers_withLibraries hperm]
  · rfl

theorem BitcodeRefused.withLibraries {kind : FailureKind} {c : Cause} (h : link.BitcodeRefused env.toBuild kind c) :
    ∃ kind c, (link.withLibraries libraries).BitcodeRefused env.toBuild kind c := by
  have hfacts := ltoFacts_withLibraries hperm env.features
  have hbitcode : ∀ {m : Artifact}, (∃ k ∈ link.libraries.toList, k.lto.isBitcode m = true) →
      ∃ k ∈ libraries.toList, k.lto.isBitcode m = true := fun ⟨k, hk, hkm⟩ => ⟨k, hperm.mem_iff.2 hk, hkm⟩
  cases h with
  | @tree a ha htree hoff =>
      have hcontains : (link.bitcodeFiles (link.ltoFacts env.features).decide).contains a = true :=
        OrderedSet.contains_iff.2 ⟨a, ha, BEq.rfl⟩
      rw [← contains_bitcodeFiles_withLibraries hperm, ← hfacts] at hcontains
      obtain ⟨b, hb, hba⟩ := OrderedSet.contains_iff.1 hcontains
      exact ⟨_, _, .tree hb ((Artifact.beq_iff.1 hba).2.2.trans htree) hoff⟩
  | noSharedBackends hl hm hmember hinclude hnone =>
      exact ⟨_, _, .noSharedBackends (hperm.mem_iff.2 hl) hm (hbitcode hmember) (hfacts ▸ hinclude) hnone⟩
  | noSharedBackendFor hl hm hmember hinclude hbackends hmissing =>
      exact ⟨_, _, .noSharedBackendFor (hperm.mem_iff.2 hl) hm (hbitcode hmember) (hfacts ▸ hinclude) hbackends
        hmissing⟩

theorem isOk_bitcodeVerdict_of_withLibraries (hok : (link.withLibraries libraries).bitcodeVerdict env |>.isOk) :
    (link.bitcodeVerdict env).isOk = true := by
  have hspec := link.bitcodeVerdict_spec env
  have hother := (link.withLibraries libraries).bitcodeVerdict_spec env
  cases hverdict : link.bitcodeVerdict env with
  | ok members => rfl
  | error c =>
      cases hreordered : (link.withLibraries libraries).bitcodeVerdict env with
      | error d =>
          rw [hreordered] at hok
          cases hok
      | ok members =>
          rw [hverdict] at hspec
          rw [hreordered] at hother
          rcases hspec with hcheck | ⟨kind, hrefused⟩
          · exact absurd (hother.1.symm.trans hcheck) nofun
          · obtain ⟨kind, d, hrefused⟩ := hrefused.withLibraries hperm
            exact absurd hrefused (hother.2 kind d)

/-- In every session the backends of both links can be planned, or those of neither. -/
theorem isOk_run_withLibraries (env : Env) (s : Session) :
    (((link.withLibraries libraries).planBackends env).run s).1.isOk = ((link.planBackends env).run s).1.isOk := by
  rw [((link.withLibraries libraries).heeds_planBackends env).isOk_run, (link.heeds_planBackends env).isOk_run,
    Bool.eq_iff_iff]
  refine ⟨isOk_bitcodeVerdict_of_withLibraries hperm, fun hok => ?_⟩
  -- the link itself is a reordering of its reordering
  have hback : (link.withLibraries libraries).withLibraries link.libraries = link := rfl
  rw [← hback] at hok
  exact isOk_bitcodeVerdict_of_withLibraries hperm.symm hok

end Reordered

/-! ### Listings -/

/-- Two libraries give the file that they list the same name and the same flags. -/
def SameListing (options : LinkOptions) (e f : LibraryInput × Artifact) : Prop :=
  e.2.path.lastPiece = f.2.path.lastPiece ∧
    Backend.userCompileFlags options e.2 (e.1.lto.copts e.2) = Backend.userCompileFlags options f.2 (f.1.lto.copts f.2)

theorem SameListing.symm {options : LinkOptions} {e f : LibraryInput × Artifact} (h : SameListing options e f) :
    SameListing options f e :=
  ⟨h.1.symm, h.2.symm⟩

theorem SameListing.trans {options : LinkOptions} {e f g : LibraryInput × Artifact} (h : SameListing options e f)
    (h' : SameListing options f g) : SameListing options e g :=
  ⟨h.1.trans h'.1, h.2.trans h'.2⟩

instance (options : LinkOptions) (e f : LibraryInput × Artifact) : Decidable (SameListing options e f) :=
  inferInstanceAs (Decidable (_ ∧ _))

/-- All libraries that list a bitcode file give it one name and one set of flags. -/
def ListedAlike (build : Build) (link : Link) : Prop :=
  ∀ e ∈ link.bitcodeMembers, ∀ f ∈ link.bitcodeMembers, (e.2 == f.2) = true → SameListing build.options e f

instance (build : Build) (link : Link) : Decidable (link.ListedAlike build) :=
  inferInstanceAs (Decidable (∀ e ∈ link.bitcodeMembers, ∀ f ∈ link.bitcodeMembers, (e.2 == f.2) = true →
    SameListing build.options e f))

end Link

/-- The backends compile one bitcode file in the same way, and they have the same files. -/
structure Backend.Alike (b c : Backend) : Prop where
  bitcode : (b.bitcodeFile == c.bitcodeFile) = true
  files : b.SameFiles c
  flags : b.compile.userCompileFlags = c.compile.userCompileFlags
  usePic : b.compile.usePic = c.compile.usePic
  allowed : ∀ a, b.compile.allowedInputs.map (·.contains a) = c.compile.allowedInputs.map (·.contains a)

/-- The plans have the same backends, in any order. -/
structure BackendPlan.SameBackends (p q : BackendPlan) : Prop where
  decision_eq : p.decision = q.decision
  roots_eq : p.roots = q.roots
  covers : ∀ b ∈ p.backends.toList, ∃ c ∈ q.backends.toList, b.Alike c
  covered : ∀ c ∈ q.backends.toList, ∃ b ∈ p.backends.toList, b.Alike c
  maps : ∀ a, (p.mapping.map a == q.mapping.map a) = true

theorem Backend.userCompileFlags_inj {options : LinkOptions} {a : Artifact} {copts copts' : List String} :
    userCompileFlags options a copts = userCompileFlags options a copts' ↔ copts = copts' := by
  unfold userCompileFlags
  rw [List.append_cancel_right_eq, List.append_cancel_right_eq, List.append_cancel_left_eq]

namespace BackendPlan

variable {env : Env} {p q : BackendPlan}

/-- The backend that is made for a member as its library lists it. -/
def memberBackend (env : Env) (p : BackendPlan) (e : LibraryInput × Artifact) : Backend :=
  .create env.toBuild p.roots (some p.files) p.link.usePicForLtoBackends e.2 (e.1.lto.copts e.2)

section Include

variable (hp : p.Planned env p.link) (hinclude : p.decision.includeStatic = true)
include hp hinclude

theorem Planned.backends_of_include :
    p.backends = .ofList (p.link.bitcodeMembers.map (p.memberBackend env) ++
      p.link.ownBackends env.toBuild p.decision p.roots p.files) := by
  obtain ⟨members, hmembers, hbackends⟩ := hp.backends_eq
  have hmap : members.map id = p.link.bitcodeMembers.map (p.memberBackend env) := by
    refine Planning.map_of_mapM_eq_ok (fun e b hb => ?_) hmembers
    rw [hinclude] at hb
    cases hb
    rfl
  rw [hbackends, ← hmap, List.map_id]
  rfl

/-- A file that a library lists has the backend of a library, even if the link has it among its own objects. -/
theorem Planned.exists_member_of_mem {b : Backend} (hb : b ∈ p.backends.toList)
    (hmember : p.link.MemberBitcode b.bitcodeFile) : ∃ e ∈ p.link.bitcodeMembers, b = p.memberBackend env e := by
  rw [hp.backends_of_include hinclude] at hb
  rcases OrderedSet.mem_or_of_mem_ofList_append hb with hb | ⟨hown, hnot⟩
  · obtain ⟨e, he, rfl⟩ := List.mem_map.1 (OrderedSet.mem_of_mem_ofList hb)
    exact ⟨e, he, rfl⟩
  · obtain ⟨e, he, heb⟩ := Link.memberBitcode_iff.1 hmember
    obtain ⟨o, -, -, rfl⟩ := Link.mem_ownBackends.1 hown
    rw [OrderedSet.contains_ofList, List.any_eq_false] at hnot
    exact (hnot (p.memberBackend env e) (List.mem_map_of_mem he) (Backend.beq_iff.2 ⟨heb, BEq.rfl⟩)).elim

theorem Planned.exists_own_of_mem {b : Backend} (hb : b ∈ p.backends.toList)
    (hmember : ¬ p.link.MemberBitcode b.bitcodeFile) :
    ∃ o ∈ p.link.objects.toList, p.link.lto.isBitcode o.artifact = true ∧
      b = .create env.toBuild p.roots (if p.decision.allowIndexing then some p.files else none)
        p.link.usePicForLtoBackends o.artifact (p.link.lto.copts o.artifact) := by
  cases hp.origin hb with
  | newMember hmem _ => exact absurd (Link.memberBitcode_iff.2 ⟨_, hmem, BEq.rfl⟩) hmember
  | sharedMember _ hnot _ =>
      rw [hinclude] at hnot
      cases hnot
  | own hobject hbitcode => exact ⟨_, hobject, hbitcode, rfl⟩

end Include

/-- Plans map the same if they have backends for the same files, with the same objects. -/
theorem Planned.map_beq_map (hp : p.Planned env p.link) (hq : q.Planned env q.link)
    (hcovers : ∀ b ∈ p.backends.toList, ∃ c ∈ q.backends.toList, (b.bitcodeFile == c.bitcodeFile) = true)
    (hcovered : ∀ c ∈ q.backends.toList, ∃ b ∈ p.backends.toList, (b.bitcodeFile == c.bitcodeFile) = true)
    (hobjects : ∀ b ∈ p.backends.toList, ∀ c ∈ q.backends.toList, (b.bitcodeFile == c.bitcodeFile) = true →
      (b.objectFile == c.objectFile) = true) (a : Artifact) : (p.mapping.map a == q.mapping.map a) = true := by
  rw [hp.map_eq_getD, hq.map_eq_getD]
  cases hlast : (p.backendsOf a).getLast? with
  | some b =>
      obtain ⟨hb, hba⟩ := mem_backendsOf.1 (List.mem_of_getLast? hlast)
      obtain ⟨c, hc, hbc⟩ := hcovers b hb
      have hne : q.backendsOf a ≠ [] := List.ne_nil_of_mem (mem_backendsOf.2 ⟨hc, BEq.trans (BEq.symm hbc) hba⟩)
      obtain ⟨hd, hda⟩ := mem_backendsOf.1 (List.getLast_mem hne)
      rw [List.getLast?_eq_some_getLast hne]
      exact hobjects b hb _ hd (BEq.trans hba (BEq.symm hda))
  | none =>
      cases hlast' : (q.backendsOf a).getLast? with
      | none => exact BEq.rfl
      | some c =>
          obtain ⟨hc, hca⟩ := mem_backendsOf.1 (List.mem_of_getLast? hlast')
          obtain ⟨b, hb, hbc⟩ := hcovered c hc
          have hmem := mem_backendsOf.2 ⟨hb, BEq.trans hbc hca⟩
          rw [List.getLast?_eq_none_iff.1 hlast] at hmem
          cases hmem

section Reordered

variable {libraries : OrderedSet LibraryInput} (hperm : libraries.toList.Perm p.link.libraries.toList)
  (hlink : q.link = p.link.withLibraries libraries) (hp : p.Planned env p.link) (hq : q.Planned env q.link)
include hperm hlink hp hq

theorem Planned.reordered_settings : p.decision = q.decision ∧ p.roots = q.roots := by
  have hdecision : p.decision = q.decision := by
    rw [hp.decision_eq, hq.decision_eq, hlink, Link.ltoFacts_withLibraries hperm]
  refine ⟨hdecision, ?_⟩
  rw [hp.roots_eq, hq.roots_eq, hdecision, hlink]
  rfl

omit hp hq in
theorem memberBitcode_reordered {a : Artifact} : q.link.MemberBitcode a ↔ p.link.MemberBitcode a := by
  rw [hlink, Link.memberBitcode_iff, Link.memberBitcode_iff]
  simp only [Link.mem_bitcodeMembers_withLibraries hperm]

omit hp hq in
theorem bitcode_reordered {a : Artifact} : q.link.Bitcode a ↔ p.link.Bitcode a := by
  unfold Link.Bitcode
  rw [memberBitcode_reordered hperm hlink, hlink]
  rfl

theorem Planned.contains_files_reordered (a : Artifact) : p.files.contains a = q.files.contains a := by
  unfold files
  rw [← (hp.reordered_settings hperm hlink hq).1, hlink, Link.contains_bitcodeFiles_withLibraries hperm]

/-- The backends that both plans make for one file are alike exactly if it is given one name and one set of flags. -/
theorem Planned.alike_memberBackend_iff {e f : LibraryInput × Artifact} (hef : (e.2 == f.2) = true) :
    (p.memberBackend env e).Alike (q.memberBackend env f) ↔ Link.SameListing env.options e f := by
  have hfiles := Backend.sameFiles_iff env.toBuild hef (LtoRoots.Same.refl p.roots) hp.named_roots hp.named_roots
    (some p.files) (some q.files) p.link.usePicForLtoBackends q.link.usePicForLtoBackends (e.1.lto.copts e.2)
    (f.1.lto.copts f.2) rfl
  have hcontains := hp.contains_files_reordered hperm hlink hq
  have hpic : p.link.usePicForLtoBackends = q.link.usePicForLtoBackends := by rw [hlink]; rfl
  unfold memberBackend
  rw [← (hp.reordered_settings hperm hlink hq).2]
  constructor
  · exact fun h => ⟨(hfiles.1 h.files).1 rfl, h.flags⟩
  · exact fun h => ⟨hef, hfiles.2 ⟨fun _ => h.1, fun _ => Path.endsInDots_congr h.1⟩, h.2, hpic,
      fun a => congrArg some (hcontains a)⟩

/-- The backends that both plans make for an own object are alike. -/
theorem Planned.alike_ownBackend (o : ObjectInput) :
    Backend.Alike
      (.create env.toBuild p.roots (if p.decision.allowIndexing then some p.files else none)
        p.link.usePicForLtoBackends o.artifact (p.link.lto.copts o.artifact))
      (.create env.toBuild q.roots (if q.decision.allowIndexing then some q.files else none)
        q.link.usePicForLtoBackends o.artifact (q.link.lto.copts o.artifact)) := by
  obtain ⟨hdecision, hroots⟩ := hp.reordered_settings hperm hlink hq
  have hcontains := hp.contains_files_reordered hperm hlink hq
  have hpic : p.link.usePicForLtoBackends = q.link.usePicForLtoBackends := by rw [hlink]; rfl
  have hlto : p.link.lto = q.link.lto := by rw [hlink]; rfl
  rw [← hroots, ← hdecision, ← hpic, ← hlto]
  refine ⟨BEq.rfl, ?_, rfl, rfl, fun a => ?_⟩
  · refine (Backend.sameFiles_iff env.toBuild BEq.rfl (LtoRoots.Same.refl p.roots) hp.named_roots hp.named_roots
      _ _ _ _ _ _ ?_).2 ⟨fun _ => rfl, fun _ => Iff.rfl⟩
    cases p.decision.allowIndexing <;> rfl
  · change Option.map _ (if _ then _ else _) = Option.map _ (if _ then _ else _)
    cases p.decision.allowIndexing with
    | true => exact congrArg some (hcontains a)
    | false => rfl

variable (hinclude : p.decision.includeStatic = true) (hlisted : p.link.ListedAlike env.toBuild)
include hinclude hlisted

/-- If libraries agree on what they list, the backends for one file are alike. -/
theorem Planned.alike_of_listedAlike {b c : Backend} (hb : b ∈ p.backends.toList) (hc : c ∈ q.backends.toList)
    (hbc : (b.bitcodeFile == c.bitcodeFile) = true) : b.Alike c := by
  have hinclude' : q.decision.includeStatic = true := (hp.reordered_settings hperm hlink hq).1 ▸ hinclude
  by_cases hmember : p.link.MemberBitcode b.bitcodeFile
  · have hmember' : q.link.MemberBitcode c.bitcodeFile :=
      (memberBitcode_reordered hperm hlink).2 (memberBitcode_congr hbc hmember)
    obtain ⟨e, he, rfl⟩ := hp.exists_member_of_mem hinclude hb hmember
    obtain ⟨f, hf, rfl⟩ := hq.exists_member_of_mem hinclude' hc hmember'
    rw [hlink, Link.mem_bitcodeMembers_withLibraries hperm] at hf
    exact (hp.alike_memberBackend_iff hperm hlink hq hbc).2 (hlisted e he f hf hbc)
  · have hmember' : ¬ q.link.MemberBitcode c.bitcodeFile := fun h =>
      hmember (memberBitcode_congr (BEq.symm hbc) ((memberBitcode_reordered hperm hlink).1 h))
    obtain ⟨o, ho, -, rfl⟩ := hp.exists_own_of_mem hinclude hb hmember
    obtain ⟨u, hu, -, rfl⟩ := hq.exists_own_of_mem hinclude' hc hmember'
    -- own objects are told apart by their artifacts, so the two are one object
    rw [hlink] at hu
    have hobject : o = u := OrderedSet.eq_of_mem_of_beq ho hu hbc
    subst hobject
    exact hp.alike_ownBackend hperm hlink hq o

theorem Planned.sameBackends_of_listedAlike : p.SameBackends q := by
  obtain ⟨hdecision, hroots⟩ := hp.reordered_settings hperm hlink hq
  have hinclude' : q.decision.includeStatic = true := hdecision ▸ hinclude
  -- no shared backends are used, so it does not matter what they are for
  have hkeyed : p.decision.includeStatic = false → p.link.SharedBackendsKeyed := fun hnot =>
    absurd (hinclude.symm.trans hnot) nofun
  have hkeyed' : q.decision.includeStatic = false → q.link.SharedBackendsKeyed := fun hnot =>
    absurd (hinclude'.symm.trans hnot) nofun
  have halike := fun b hb c hc => hp.alike_of_listedAlike hperm hlink hq hinclude hlisted (b := b) (c := c) hb hc
  have hcovers : ∀ b ∈ p.backends.toList, ∃ c ∈ q.backends.toList, b.Alike c := by
    intro b hb
    obtain ⟨c, hc, hcb⟩ := hq.exists_backend hkeyed' ((bitcode_reordered hperm hlink).2 ((hp.origin hb).bitcode hkeyed))
    exact ⟨c, hc, halike b hb c hc (BEq.symm hcb)⟩
  have hcovered : ∀ c ∈ q.backends.toList, ∃ b ∈ p.backends.toList, b.Alike c := by
    intro c hc
    obtain ⟨b, hb, hbc⟩ := hp.exists_backend hkeyed ((bitcode_reordered hperm hlink).1 ((hq.origin hc).bitcode hkeyed'))
    exact ⟨b, hb, halike b hb c hc hbc⟩
  refine ⟨hdecision, hroots, hcovers, hcovered, hp.map_beq_map hq (fun b hb => ?_) (fun c hc => ?_) ?_⟩
  · exact (hcovers b hb).imp fun c hc => ⟨hc.1, hc.2.bitcode⟩
  · exact (hcovered c hc).imp fun b hb => ⟨hb.1, hb.2.bitcode⟩
  · exact fun b hb c hc hbc => (halike b hb c hc hbc).files.objectFile

end Reordered

end BackendPlan

namespace Link

variable {env : Env} {link : Link}

/-- Any of the libraries can come first, and then its listings are those that count. -/
theorem exists_front (env : Env) {e : LibraryInput × Artifact} (hmem : e ∈ link.bitcodeMembers) :
    ∃ libraries : OrderedSet LibraryInput, libraries.toList.Perm link.libraries.toList ∧
      ∀ q : BackendPlan, q.link = link.withLibraries libraries → q.Planned env q.link →
        q.decision.includeStatic = true → q.memberBackend env e ∈ q.backends.toList := by
  obtain ⟨l, m⟩ := e
  obtain ⟨hl, hm, hbitcode⟩ := mem_bitcodeMembers.1 hmem
  obtain ⟨before, after, hlibraries⟩ := List.append_of_mem hl
  have hperm : (l :: (before ++ after)).Perm link.libraries.toList := hlibraries ▸ List.perm_middle.symm
  have hdistinct : (l :: (before ++ after)).Pairwise fun l k => (l == k) = false :=
    hperm.symm.pairwise link.libraries.distinct fun hlk => by rwa [BEq.comm]
  have htoList := OrderedSet.toList_ofList hdistinct
  refine ⟨.ofList (l :: (before ++ after)), htoList.symm ▸ hperm, fun q hlink hq hinclude => ?_⟩
  -- the listings of the first library are the first ones, and no two of them are for one file
  have hmembers : ∃ rest, q.link.bitcodeMembers =
      (l.objects.toList.filter (libraryBitcode q.link.libraries.toList).contains).map (l, ·) ++ rest := by
    unfold bitcodeMembers
    rw [hlink]
    change ∃ rest, (OrderedSet.ofList (l :: (before ++ after))).toList.flatMap _ = _
    rw [htoList, List.flatMap_cons]
    exact ⟨_, rfl⟩
  obtain ⟨rest, hrest⟩ := hmembers
  rw [hq.backends_of_include hinclude, hrest, List.map_append, List.append_assoc, List.map_map]
  apply OrderedSet.mem_ofList_append
  rw [OrderedSet.toList_ofList]
  · refine List.mem_map.2 ⟨m, List.mem_filter.2 ⟨hm, ?_⟩, rfl⟩
    obtain ⟨k, hk, hkm⟩ := hbitcode
    rw [libraryBitcode_contains, hlink]
    exact ⟨k, (htoList.symm ▸ hperm).mem_iff.2 hk, hkm⟩
  · refine List.pairwise_map.2 ((l.objects.distinct.filter _).imp fun {m n} hmn => ?_)
    change (m == n && _) = false
    rw [hmn, Bool.false_and]

theorem exists_yields_withLibraries {libraries : OrderedSet LibraryInput}
    (hperm : libraries.toList.Perm link.libraries.toList) {p : BackendPlan} (hp : (link.planBackends env).Yields p) :
    ∃ q, ((link.withLibraries libraries).planBackends env).Yields q := by
  obtain ⟨s, t, hrun⟩ := hp
  have hok := isOk_run_withLibraries hperm env s
  rw [hrun] at hok
  rcases hreordered : ((link.withLibraries libraries).planBackends env).run s with ⟨e | q, u⟩
  · rw [hreordered] at hok
    cases hok
  · exact ⟨q, s, u, hreordered⟩

section Agreement

variable {p : BackendPlan} (hp : (link.planBackends env).Yields p) (hinclude : p.decision.includeStatic = true)
include hp hinclude

/-- If the backends do not depend on the order, the plan has a backend for every listing, as if it came first. -/
theorem exists_memberBackend_of_sameBackends
    (hsame : ∀ libraries q, libraries.toList.Perm link.libraries.toList →
      ((link.withLibraries libraries).planBackends env).Yields q → p.SameBackends q)
    {e : LibraryInput × Artifact} (he : e ∈ link.bitcodeMembers) :
    ∃ d, p.memberBackend env d ∈ p.backends.toList ∧ (d.2 == e.2) = true ∧ SameListing env.options d e := by
  have hplanned := backends_planned_of_yields hp
  have hlink := hplanned.link_eq
  subst hlink
  obtain ⟨libraries, hperm, hfront⟩ := exists_front env he
  obtain ⟨q, hq⟩ := exists_yields_withLibraries hperm hp
  have hagree := hsame libraries q hperm hq
  have hq := backends_planned_of_yields hq
  have hqlink := hq.link_eq
  rw [← hqlink] at hq
  obtain ⟨b, hb, halike⟩ := hagree.covered _ (hfront q hqlink hq (hagree.decision_eq ▸ hinclude))
  have hbe : (b.bitcodeFile == e.2) = true := halike.bitcode
  obtain ⟨d, -, rfl⟩ := hplanned.exists_member_of_mem hinclude hb (memberBitcode_iff.2 ⟨e, he, BEq.symm hbe⟩)
  exact ⟨d, hb, hbe, (hplanned.alike_memberBackend_iff hperm hqlink hq hbe).1 halike⟩

/-- Whatever the order of its libraries, a link has the same backends, exactly if libraries agree on what they list. -/
theorem sameBackends_iff_listedAlike :
    (∀ libraries q, libraries.toList.Perm link.libraries.toList →
        ((link.withLibraries libraries).planBackends env).Yields q → p.SameBackends q) ↔
      link.ListedAlike env.toBuild := by
  constructor
  · intro hsame e he f hf hef
    obtain ⟨d, hd, hde, hlisted⟩ := exists_memberBackend_of_sameBackends hp hinclude hsame he
    obtain ⟨d', hd', hdf, hlisted'⟩ := exists_memberBackend_of_sameBackends hp hinclude hsame hf
    -- the plan has one backend for the file, so the two listings can only be told apart by their libraries
    have hone : p.memberBackend env d = p.memberBackend env d' :=
      OrderedSet.eq_of_mem_of_beq hd hd' (Backend.beq_iff.2 ⟨BEq.trans hde (BEq.trans hef (BEq.symm hdf)), BEq.rfl⟩)
    have hbetween : SameListing env.options d d' :=
      ⟨congrArg (·.bitcodeFile.path.lastPiece) hone, congrArg (·.compile.userCompileFlags) hone⟩
    exact hlisted.symm.trans (hbetween.trans hlisted')
  · intro hlisted libraries q hperm hq
    have hplanned := backends_planned_of_yields hp
    have hlink := hplanned.link_eq
    subst hlink
    have hq := backends_planned_of_yields hq
    have hqlink := hq.link_eq
    rw [← hqlink] at hq
    exact hplanned.sameBackends_of_listedAlike hperm hqlink hq hinclude hlisted

end Agreement

/-! ### Recorded flags -/

/-- Every record of what is bitcode that the link has been given. -/
def contexts (link : Link) : List LtoContext := link.lto :: link.libraries.toList.map (·.lto)

/-- All that record a file as bitcode record the same flags for it. -/
def CoptsAgree (link : Link) : Prop :=
  ∀ lto ∈ link.contexts, ∀ lto' ∈ link.contexts, ∀ a ∈ lto.files, lto'.isBitcode a = true → lto.copts a = lto'.copts a

/-- Libraries that list one bitcode file spell it in one way. -/
def SpelledOnce (link : Link) : Prop :=
  ∀ e ∈ link.bitcodeMembers, ∀ f ∈ link.bitcodeMembers, (e.2 == f.2) = true → e.2 = f.2

instance (link : Link) : Decidable link.CoptsAgree :=
  inferInstanceAs (Decidable (∀ lto ∈ link.contexts, ∀ lto' ∈ link.contexts, ∀ a ∈ lto.files,
    lto'.isBitcode a = true → lto.copts a = lto'.copts a))

/-- No library lists a bitcode file without recording it, if another one that lists it records flags for it. -/
def LeavesNoFlagsOut (link : Link) : Prop :=
  ∀ e ∈ link.bitcodeMembers, ∀ f ∈ link.bitcodeMembers, (e.2 == f.2) = true → e.1.lto.isBitcode e.2 = true →
    f.1.lto.isBitcode f.2 = false → e.1.lto.copts e.2 = []

theorem CoptsAgree.copts_eq (hagree : link.CoptsAgree) {lto lto' : LtoContext} (hlto : lto ∈ link.contexts)
    (hlto' : lto' ∈ link.contexts) {a : Artifact} (ha : lto.isBitcode a = true) (ha' : lto'.isBitcode a = true) :
    lto.copts a = lto'.copts a := by
  obtain ⟨entry, hentry, heq⟩ := OrderedMap.contains_iff.1 ha
  rw [← LtoContext.copts_congr heq, ← LtoContext.copts_congr heq]
  rw [← LtoContext.isBitcode_congr heq] at ha'
  exact hagree lto hlto lto' hlto' entry.1 (List.mem_map_of_mem hentry) ha'

/-- Libraries that agree on flags and spellings can differ in what they list only by leaving flags out. -/
theorem listedAlike_iff (build : Build) (hagree : link.CoptsAgree) (hspelled : link.SpelledOnce) :
    link.ListedAlike build ↔ link.LeavesNoFlagsOut := by
  have hcontext : ∀ e ∈ link.bitcodeMembers, e.1.lto ∈ link.contexts := fun e he =>
    List.mem_cons_of_mem _ (List.mem_map_of_mem (mem_bitcodeMembers.1 he).1)
  constructor
  · intro hlisted e he f hf hef hbitcode hnot
    have hflags := (hlisted e he f hf hef).2
    rw [hspelled e he f hf hef, Backend.userCompileFlags_inj, LtoContext.copts_of_not_isBitcode hnot] at hflags
    rw [hspelled e he f hf hef, hflags]
  · intro hlists e he f hf hef
    have hfile := hspelled e he f hf hef
    refine ⟨congrArg (·.path.lastPiece) hfile, ?_⟩
    have hsilent := hlists e he f hf hef
    have hsilent' := hlists f hf e he (BEq.symm hef)
    rw [← hfile] at hsilent hsilent' ⊢
    rw [Backend.userCompileFlags_inj]
    cases hbitcode : e.1.lto.isBitcode e.2 <;> cases hbitcode' : f.1.lto.isBitcode e.2
    · rw [LtoContext.copts_of_not_isBitcode hbitcode, LtoContext.copts_of_not_isBitcode hbitcode']
    · rw [LtoContext.copts_of_not_isBitcode hbitcode, hsilent' hbitcode' hbitcode]
    · rw [LtoContext.copts_of_not_isBitcode hbitcode', hsilent hbitcode hbitcode']
    · exact hagree.copts_eq (hcontext e he) (hcontext f hf) hbitcode hbitcode'

/-- Links with the same libraries in different orders can both be planned or both not. Where members take part in the
indexing, they have the same backends in every order exactly if libraries agree on what they list. Agreement on the
flags that are recorded is not enough, because a library may list a file without recording its flags. -/
theorem library_order_iff (env : Env) (link : Link) :
    (∀ libraries, libraries.toList.Perm link.libraries.toList → ∀ s,
        (((link.withLibraries libraries).planBackends env).run s).1.isOk = ((link.planBackends env).run s).1.isOk) ∧
      (∀ p, (link.planBackends env).Yields p → p.decision.includeStatic = true →
        ((∀ libraries q, libraries.toList.Perm link.libraries.toList →
            ((link.withLibraries libraries).planBackends env).Yields q → p.SameBackends q) ↔
          link.ListedAlike env.toBuild)) ∧
      (link.CoptsAgree → link.SpelledOnce → (link.ListedAlike env.toBuild ↔ link.LeavesNoFlagsOut)) :=
  ⟨fun _ hperm => isOk_run_withLibraries hperm env, fun _ => sameBackends_iff_listedAlike,
    listedAlike_iff env.toBuild⟩

end Link

namespace Sample

/-- A library that lists the file `dep/x.o` and records these files as bitcode. -/
def listing (name : String) (lto : LtoContext) : LibraryInput :=
  { LibraryInput.ofArtifact (file name) .staticLibrary with objects := .ofList [file "dep/x.o"], lto }

def optimized : LtoContext := LtoContext.record {} (file "dep/x.o") { copts := ["-O2"] }

/-- The executable that is given these libraries in this order. -/
def overLibraries (libraries : List LibraryInput) : Link :=
  let start : Link :=
    { owner := "//app:app", output := file "app/app", linkType := .executable, linkingMode := .dynamic }
  (start.addLibraries libraries).1

/-- The executable over two libraries that both record the file that both list. -/
def recordedTwice : Link := overLibraries [listing "dep/liba.a" optimized, listing "dep/libb.a" optimized]

theorem recorded_flags_in_every_order :
    ∃ p, (recordedTwice.planBackends (env [])).Yields p ∧ p.decision.includeStatic = true ∧
      p.backends.toList.map (·.compile.userCompileFlags) = [["-O2"]] ∧
      ∀ libraries q, libraries.toList.Perm p.link.libraries.toList →
        ((p.link.withLibraries libraries).planBackends (env [])).Yields q → p.SameBackends q := by
  obtain ⟨p, hp, hinclude, hflags⟩ := Planning.exists_yields_of_decide (recordedTwice.planBackends (env []))
    (fun p => p.decision.includeStatic = true ∧
      p.backends.toList.map (·.compile.userCompileFlags) = [["-O2"]]) (by decide +kernel)
  have horder := (Link.library_order_iff (env []) recordedTwice).2.1 p hp hinclude
  have hlink := (Link.backends_planned_of_yields hp).link_eq
  exact ⟨p, hp, hinclude, hflags, hlink ▸ horder.2 (by decide +kernel)⟩

/-- The library that lists a file without recording its flags takes them away from it by being first. -/
theorem flags_depend_on_library_order :
    let first := overLibraries [listing "dep/liba.a" {}, listing "dep/libb.a" optimized]
    let second := overLibraries [listing "dep/libb.a" optimized, listing "dep/liba.a" {}]
    first.CoptsAgree ∧ first.SpelledOnce ∧ second.libraries.toList.Perm first.libraries.toList ∧
      second = first.withLibraries second.libraries ∧
      ∃ p q, (first.planBackends (env [])).Yields p ∧ (second.planBackends (env [])).Yields q ∧
        p.decision.includeStatic = true ∧
        p.backends.toList.map (fun b => (b.bitcodeFile.text, b.compile.userCompileFlags)) = [("bin/dep/x.o", [])] ∧
        q.backends.toList.map (fun b => (b.bitcodeFile.text, b.compile.userCompileFlags)) =
          [("bin/dep/x.o", ["-O2"])] := by
  intro first second
  have hspelled : first.SpelledOnce := by
    have hmembers : first.bitcodeMembers.map (·.2) = [file "dep/x.o", file "dep/x.o"] := rfl
    have hone : ∀ e ∈ first.bitcodeMembers, e.2 = file "dep/x.o" := fun e he =>
      or_self_iff.1 (List.mem_pair.1 (hmembers ▸ List.mem_map_of_mem he))
    exact fun e he f hf _ => (hone e he).trans (hone f hf).symm
  obtain ⟨p, hp, hinclude, hflags⟩ := Planning.exists_yields_of_decide (first.planBackends (env []))
    (fun p => p.decision.includeStatic = true ∧
      p.backends.toList.map (fun b => (b.bitcodeFile.text, b.compile.userCompileFlags)) = [("bin/dep/x.o", [])])
    (by decide +kernel)
  obtain ⟨q, hq, hreordered⟩ := Planning.exists_yields_of_decide (second.planBackends (env []))
    (fun q =>
      q.backends.toList.map (fun b => (b.bitcodeFile.text, b.compile.userCompileFlags)) = [("bin/dep/x.o", ["-O2"])])
    (by decide +kernel)
  exact ⟨by decide +kernel, hspelled, .swap _ _ _, rfl, p, q, hp, hq, hinclude, hflags, hreordered⟩

end Sample
end LinkPlanner
