import LinkPlanner.Proofs.Backends
import LinkPlanner.Proofs.PathText
import LinkPlanner.Proofs.Settles

/-! Which links can be planned where no collaborator refuses. All that can fail then is what a link is checked for
before anything is planned, and the backends for its bitcode; the phases after that find every file that they look
for. -/

namespace LinkPlanner

open Planning

/-! ### Environments that refuse nothing -/

/-- No collaborator refuses what planning asks of it. -/
structure Env.Willing (env : Env) : Prop where
  collector : ∀ r, ∃ c, env.collector r = .ok c
  linkstampCompiler : ∀ c, env.linkstampCompiler c = .ok ()

/-- An assembly succeeds if the collector makes a collection and the linkstamp compiles for it can be registered. -/
theorem Link.succeeds_assemble_of {env : Env} {link : Link} {r : ActionRequest} {c : Collection}
    (hc : env.collector (link.collectionRequest env.toBuild r) = .ok c)
    (hcompiles : Settles (compileLinkstamps env
      (LinkstampCompile.all r.linkstampOutputs (link.linkstampTemplate env.toBuild r c))) (.ok ())) :
    Succeeds (link.assemble env r) := by
  have hcollect : Settles (ofCollaborator (env.collector (link.collectionRequest env.toBuild r))) (.ok c) := by
    rw [hc]
    exact settles_ofCause (.ok c)
  exact ((hcollect.during _).within _).bind_succeeds (hcompiles.bind_succeeds (succeeds_pure _))

section Willing

variable {env : Env} (henv : env.Willing) (link : Link)
include henv

omit link in
theorem settles_register (c : LinkstampCompile) : Settles (register env c) (.ok ()) := by
  intro s
  rw [run_register, henv.linkstampCompiler c]
  rfl

omit link in
theorem settles_compileLinkstamps (compiles : List LinkstampCompile) :
    Settles (Link.compileLinkstamps env compiles) (.ok ()) := by
  have hforM : Settles (compiles.forM (register env)) (.ok ()) := by
    induction compiles with
    | nil => exact settles_pure ()
    | cons c compiles ih => exact (settles_register henv c).bind_ok ih
  unfold Link.compileLinkstamps
  split
  · exact settles_pure ()
  · exact hforM.during _

theorem Link.succeeds_assemble (r : ActionRequest) : Succeeds (link.assemble env r) := by
  obtain ⟨c, hc⟩ := henv.collector (link.collectionRequest env.toBuild r)
  exact succeeds_assemble_of hc (settles_compileLinkstamps henv _)

end Willing

/-! ### Shared backends of what is linked -/

namespace SharedBackends

/-- There is a shared backend for every object that is bitcode. -/
theorem contains_createShared {build : Build} {lto : LtoContext} {objects : List Artifact} {usePic : Bool}
    {a : Artifact} (ha : a ∈ objects) (hbitcode : lto.isBitcode a = true) :
    (ofBackends (Backend.createShared build lto objects usePic)).contains a = true := by
  unfold ofBackends
  rw [OrderedMap.contains_ofList, List.any_eq_true]
  refine ⟨_, List.mem_map_of_mem (List.mem_map_of_mem (List.mem_filter.2 ⟨ha, hbitcode⟩)), ?_⟩
  exact BEq.rfl

end SharedBackends

/-- Whatever is bitcode for the context is one of these files. -/
def LtoContext.Within (lto : LtoContext) (objects : List Artifact) : Prop :=
  ∀ bitcode ∈ lto.files, ∃ a ∈ objects, (a == bitcode) = true

/-- A library takes the shared backends of its members if they are all that is bitcode for it. -/
theorem LibraryInput.withSharedBackends_createShared {build : Build} {l : LibraryInput} {lto : LtoContext}
    {objects : List Artifact} {usePic : Bool} (hwithin : lto.Within objects) (hlto : l.lto = lto) :
    l.withSharedBackends (.ofBackends (Backend.createShared build lto objects usePic)) =
      .ok { l with sharedBackends := some (.ofBackends (Backend.createShared build lto objects usePic)) } := by
  subst hlto
  have hnone : l.lto.files.find? (fun bitcode =>
      !(SharedBackends.ofBackends (Backend.createShared build l.lto objects usePic)).contains bitcode) = none := by
    rw [List.find?_eq_none]
    intro bitcode hbitcode
    obtain ⟨a, ha, hab⟩ := hwithin bitcode hbitcode
    obtain ⟨e, he, rfl⟩ := List.mem_map.1 hbitcode
    have hkey : l.lto.isBitcode a = true := OrderedMap.contains_iff.2 ⟨e, he, BEq.symm hab⟩
    rw [← OrderedMap.contains_congr hab, SharedBackends.contains_createShared ha hkey]
    exact Bool.false_ne_true
  unfold withSharedBackends
  rw [hnone]

/-! ### Final links -/

/-- The objects of the link are all that is bitcode for it, unless its bitcode is of no use to other links. -/
def Link.SharesAll (link : Link) : Prop :=
  link.linkType.isArchive = true → link.lto.Within (link.objects.toList.map (·.artifact))

section Final

variable {env : Env} (henv : env.Willing) {link : Link}

theorem Link.succeeds_outputLibrary? (env : Env) (hlink : link.SharesAll) (members : List Artifact) :
    Succeeds (link.outputLibrary? env members) := by
  unfold Link.outputLibrary?
  split
  · exact succeeds_pure _
  · dsimp only
    split
    · rename_i harchive
      split
      · exact succeeds_pure _
      · refine (settles_createSharedBackends _ _ _ _).bind_succeeds ?_
        rw [LibraryInput.withSharedBackends_createShared (hlink harchive)]
        · exact ⟨_, (settles_ofCause (.ok _)).map some⟩
        · rfl
    · exact succeeds_pure _

include henv

theorem Link.succeeds_planFinal (hlink : link.SharesAll) (decision : Option LtoDecision) (mapping : BitcodeMapping)
    (backends : List Backend) (indexing : Option IndexingOutputs) :
    Succeeds (link.planFinal env decision mapping backends indexing) := by
  let r := link.finalAssembly env.toBuild decision mapping indexing
  obtain ⟨library, hlibrary⟩ := link.succeeds_outputLibrary? env hlink (Link.members r)
  obtain ⟨a, ha⟩ := link.succeeds_assemble henv r
  refine Succeeds.during ((settles_declare _).bind_succeeds (hlibrary.bind_succeeds ?_)) _
  exact (ha.within _).bind_succeeds (succeeds_pure _)

/-- A link without LTO can be planned exactly if it passes its check. -/
theorem Link.heeds_plan (hlink : link.SharesAll) : Heeds (link.plan env) (link.check env.toBuild) :=
  (((settles_ofCause _).within _).heeds fun _ _ => Link.succeeds_planFinal henv hlink _ _ _ _).during _

end Final

/-! ### The check -/

/-- The mistakes that a link is checked for before anything is planned. -/
def Cause.isFromCheck : Cause → Bool
  | .identifierMismatch | .interfaceOutputOf _ | .interfaceLibraryLinked | .actionNotConfigured _ | .archiveNotStatic
  | .archiveOfNativeDeps | .archiveKeptWhole | .noInterfaceTool => true
  | _ => false

namespace Link

variable {build : Build} {link : Link}

/-- What a link is checked for, in the order in which it is, each with what is reported where it does not hold. -/
def conditions (build : Build) (link : Link) : List (Bool × Cause) :=
  [(link.libraryIdentifier.isSome != link.linkType.isExecutable, .identifierMismatch),
    (link.interfaceOutput.isNone || link.linkType.isDynamicLibrary, .interfaceOutputOf link.linkType),
    (link.linkType != .interfaceDynamicLibrary, .interfaceLibraryLinked),
    (build.features.isConfigured link.linkType.action, .actionNotConfigured link.linkType.action),
    (!link.linkType.isArchive || link.linkingMode == .static, .archiveNotStatic),
    (!link.linkType.isArchive || !link.nativeDeps, .archiveOfNativeDeps),
    (!link.linkType.isArchive || !link.keepWhole build, .archiveKeptWhole),
    (!link.usesInterfaceTool build || build.toolchain.linkDynamicLibraryTool.isSome, .noInterfaceTool)]

theorem require_true (c : Cause) : require true c = pure () := rfl

theorem check_eq (build : Build) (link : Link) :
    link.check build = (link.conditions build).forM fun d => require d.1 d.2 := by
  unfold check conditions
  dsimp only
  cases link.linkType.isArchive <;> cases link.usesInterfaceTool build <;> simp [require_true]

theorem forM_require_eq_ok {ds : List (Bool × Cause)} (h : (ds.forM fun d => require d.1 d.2) = .ok ()) :
    ∀ d ∈ ds, d.1 = true := by
  induction ds with
  | nil => simp
  | cons d ds ih =>
      obtain ⟨condition, c⟩ := d
      cases condition with
      | false => cases h
      | true =>
          intro e he
          rcases List.mem_cons.1 he with rfl | he
          · rfl
          · exact ih h e he

theorem forM_require_eq_error {ds : List (Bool × Cause)} {c : Cause}
    (h : (ds.forM fun d => require d.1 d.2) = .error c) : (false, c) ∈ ds := by
  induction ds with
  | nil => cases h
  | cons d ds ih =>
      obtain ⟨condition, e⟩ := d
      cases condition with
      | false =>
          cases h
          exact List.mem_cons_self
      | true => exact List.mem_cons_of_mem _ (ih h)

/-- A link that passes its check fulfils all that it is checked for. -/
theorem conditions_of_check (h : link.check build = .ok ()) : ∀ d ∈ link.conditions build, d.1 = true :=
  forM_require_eq_ok (check_eq build link ▸ h)

/-- A link that does not pass its check lacks what is reported. -/
theorem mem_conditions_of_check {c : Cause} (h : link.check build = .error c) :
    (false, c) ∈ link.conditions build :=
  forM_require_eq_error (check_eq build link ▸ h)

theorem isFromCheck_of_check {c : Cause} (h : link.check build = .error c) : c.isFromCheck = true := by
  have hall : ∀ d ∈ link.conditions build, d.2.isFromCheck = true := by
    simp [conditions, Cause.isFromCheck]
  exact hall _ (mem_conditions_of_check h)

/-- Every link that passes its check and makes no archive can be indexed. -/
theorem exists_indexAction_of_check (h : link.check build = .ok ()) (harchive : link.linkType.isArchive = false) :
    ∃ action, link.linkType.indexAction? = some action := by
  have htype := conditions_of_check h (link.linkType != .interfaceDynamicLibrary, .interfaceLibraryLinked)
    (by simp [conditions])
  rw [bne_iff_ne] at htype
  generalize link.linkType = type at harchive htype ⊢
  cases type <;> first | exact ⟨_, rfl⟩ | exact absurd rfl htype | cases harchive

end Link

/-! ### Backends -/

namespace Link

/-- What decides whether the backends of a link can be planned: its check, whether objects of bitcode trees would
lie among its index files, and the backends that members of its libraries need. -/
def bitcodeVerdict (env : Env) (link : Link) : Except Cause (List Backend) := do
  link.check env.toBuild
  let decision := (link.ltoFacts env.features).decide
  let roots := link.ltoRoots env.features decision
  let files := link.bitcodeFiles decision
  files.checkRoots roots
  link.memberBackends env.toBuild decision roots files

theorem heeds_planBackends (env : Env) (link : Link) : Heeds (link.planBackends env) (link.bitcodeVerdict env) := by
  refine Heeds.during (((settles_ofCause _).within _).bind_heeds fun _ _ => ?_) _
  refine (((settles_ofCause _).bind fun _ _ => settles_ofCause _).within _).heeds fun members _ => ?_
  exact (settles_declare _).bind_succeeds (succeeds_pure _)

end Link

/-! ### Bitcode that cannot be planned for -/

/-- Native objects lie apart from index files exactly if the feature for it is on. -/
theorem LtoRoots.same_iff (outputRoot : Path) (features : Features) :
    ((under outputRoot features).outputRoot == (under outputRoot features).objectRoot) = true ↔
      features.isEnabled .useLtoNativeObjectDirectory = false := by
  unfold under
  cases features.isEnabled .useLtoNativeObjectDirectory with
  | false => exact ⟨fun _ => rfl, fun _ => BEq.rfl⟩
  | true =>
      refine ⟨fun hsame => ?_, fun h => by cases h⟩
      have hweight := Path.weight_append_ge (s := "-obj") (by decide) (by decide) outputRoot
      have hsame : outputRoot.weight = (outputRoot.append "-obj").weight := Path.weight_congr hsame
      rw [← hsame] at hweight
      exact absurd hweight (Nat.not_le.2 (Nat.lt_add_of_pos_right (by decide)))

/-- Why the backends of a link that passes its check cannot be planned. -/
inductive Link.BitcodeRefused (build : Build) (link : Link) : FailureKind → Cause → Prop where
  /-- Objects of a bitcode tree would lie among its index files. -/
  | tree {a : Artifact} (ha : a ∈ (link.bitcodeFiles (link.ltoFacts build.features).decide).toList)
      (htree : a.isTree = true) (hoff : build.features.isEnabled .useLtoNativeObjectDirectory = false) :
      BitcodeRefused build link .usage (.treeAmongIndexFiles a)
  /-- A bitcode member takes no part in the indexing, and its library has no shared backends. -/
  | noSharedBackends {l : LibraryInput} {m : Artifact} (hl : l ∈ link.libraries.toList) (hm : m ∈ l.objects.toList)
      (hbitcode : ∃ k ∈ link.libraries.toList, k.lto.isBitcode m = true)
      (hinclude : (link.ltoFacts build.features).decide.includeStatic = false) (hnone : l.sharedBackends = none) :
      BitcodeRefused build link .usage (.noSharedBackends l.artifact)
  /-- A bitcode member takes no part in the indexing, and the shared backends of its library lack it. -/
  | noSharedBackendFor {l : LibraryInput} {m : Artifact} {backends : SharedBackends} (hl : l ∈ link.libraries.toList)
      (hm : m ∈ l.objects.toList) (hbitcode : ∃ k ∈ link.libraries.toList, k.lto.isBitcode m = true)
      (hinclude : (link.ltoFacts build.features).decide.includeStatic = false)
      (hbackends : l.sharedBackends = some backends) (hmissing : backends.contains m = false) :
      BitcodeRefused build link .programming (.noSharedBackendFor l.artifact m)

namespace Link

variable {env : Env} {link : Link}

theorem BitcodeRefused.kind?_eq {kind : FailureKind} {c : Cause} (h : link.BitcodeRefused env.toBuild kind c) :
    c.kind? = some kind := by
  cases h <;> rfl

/-- If every bitcode member that takes no part in the indexing has a shared backend, only a tree is refused. -/
theorem BitcodeRefused.tree_of_shared {kind : FailureKind} {c : Cause} (h : link.BitcodeRefused env.toBuild kind c)
    (hshared : ∀ l ∈ link.libraries.toList, ∀ m ∈ l.objects.toList,
      (∃ k ∈ link.libraries.toList, k.lto.isBitcode m = true) →
        (link.ltoFacts env.features).decide.includeStatic = false →
          ∃ backends, l.sharedBackends = some backends ∧ backends.contains m = true) :
    ∃ a ∈ (link.bitcodeFiles (link.ltoFacts env.features).decide).toList, a.isTree = true ∧
      env.features.isEnabled .useLtoNativeObjectDirectory = false ∧ c = .treeAmongIndexFiles a := by
  cases h with
  | tree ha htree hoff => exact ⟨_, ha, htree, hoff, rfl⟩
  | noSharedBackends hl hm hbitcode hinclude hnone =>
      obtain ⟨backends, hbackends, -⟩ := hshared _ hl _ hm hbitcode hinclude
      rw [hnone] at hbackends
      cases hbackends
  | noSharedBackendFor hl hm hbitcode hinclude hbackends hmissing =>
      obtain ⟨backends, heq, hcontains⟩ := hshared _ hl _ hm hbitcode hinclude
      rw [hbackends] at heq
      cases heq
      rw [hmissing] at hcontains
      cases hcontains

variable (env link) in
/-- The link's bitcode that takes part in its indexing. -/
abbrev indexedFiles : BitcodeFiles := link.bitcodeFiles (link.ltoFacts env.features).decide

variable (env link) in
/-- Where the backends of the link put their files. -/
abbrev backendRoots : LtoRoots := link.ltoRoots env.features (link.ltoFacts env.features).decide

theorem backendRoots_same_iff : ((link.backendRoots env).outputRoot == (link.backendRoots env).objectRoot) = true ↔
    env.features.isEnabled .useLtoNativeObjectDirectory = false := by
  obtain ⟨root, hroot⟩ := link.exists_ltoRoots_eq env.features (link.ltoFacts env.features).decide
  unfold backendRoots
  rw [hroot]
  exact LtoRoots.same_iff root env.features

theorem checkRoots_eq_error {c : Cause} (h : (link.indexedFiles env).checkRoots (link.backendRoots env) = .error c) :
    link.BitcodeRefused env.toBuild .usage c := by
  unfold BitcodeFiles.checkRoots at h
  split at h
  · rename_i tree htree
    split at h
    · rename_i hsame
      cases h
      exact .tree (List.mem_of_find?_eq_some htree) (List.find?_some htree) (backendRoots_same_iff.1 hsame)
    · cases h
  · cases h

theorem checkRoots_eq_ok (h : (link.indexedFiles env).checkRoots (link.backendRoots env) = .ok ()) {a : Artifact}
    (ha : a ∈ (link.indexedFiles env).toList) (htree : a.isTree = true) :
    env.features.isEnabled .useLtoNativeObjectDirectory = true := by
  unfold BitcodeFiles.checkRoots at h
  split at h
  · split at h
    · cases h
    · rename_i hsame
      rw [backendRoots_same_iff, Bool.not_eq_false] at hsame
      exact hsame
  · rename_i hnone
    exact absurd htree (List.find?_eq_none.1 hnone a ha)

theorem requireSharedBackend_eq_error {l : LibraryInput} {m : Artifact} {c : Cause}
    (h : l.requireSharedBackend m = .error c) :
    (l.sharedBackends = none ∧ c = .noSharedBackends l.artifact) ∨
      ∃ backends, l.sharedBackends = some backends ∧ backends.contains m = false ∧
        c = .noSharedBackendFor l.artifact m := by
  unfold LibraryInput.requireSharedBackend at h
  split at h
  · rename_i hnone
    cases h
    exact Or.inl ⟨hnone, rfl⟩
  · rename_i backends hbackends
    split at h
    · cases h
    · rename_i hmissing
      cases h
      refine Or.inr ⟨backends, hbackends, ?_, rfl⟩
      rw [OrderedMap.contains_eq_isSome_get?, hmissing]
      rfl

theorem memberBackends_eq_error {roots : LtoRoots} {files : BitcodeFiles} {c : Cause}
    (h : link.memberBackends env.toBuild (link.ltoFacts env.features).decide roots files = .error c) :
    ∃ kind, link.BitcodeRefused env.toBuild kind c := by
  obtain ⟨⟨l, m⟩, hmem, hfails⟩ := exists_of_mapM_eq_error h
  obtain ⟨hl, hm, hbitcode⟩ := mem_bitcodeMembers.1 hmem
  dsimp only at hfails
  split at hfails
  · cases hfails
  · rename_i hinclude
    rw [Bool.not_eq_true] at hinclude
    rcases requireSharedBackend_eq_error hfails with ⟨hnone, rfl⟩ | ⟨backends, hbackends, hmissing, rfl⟩
    · exact ⟨_, .noSharedBackends hl hm hbitcode hinclude hnone⟩
    · exact ⟨_, .noSharedBackendFor hl hm hbitcode hinclude hbackends hmissing⟩

theorem memberBackends_eq_ok {roots : LtoRoots} {files : BitcodeFiles} {members : List Backend}
    (h : link.memberBackends env.toBuild (link.ltoFacts env.features).decide roots files = .ok members)
    {l : LibraryInput} {m : Artifact} (hl : l ∈ link.libraries.toList) (hm : m ∈ l.objects.toList)
    (hbitcode : ∃ k ∈ link.libraries.toList, k.lto.isBitcode m = true)
    (hinclude : (link.ltoFacts env.features).decide.includeStatic = false) :
    ∃ backends, l.sharedBackends = some backends ∧ backends.contains m = true := by
  obtain ⟨b, -, heq⟩ := (Planning.mem_of_mapM_eq_ok h).2 (l, m) (mem_bitcodeMembers.2 ⟨hl, hm, hbitcode⟩)
  dsimp only at heq
  rw [hinclude, if_neg Bool.false_ne_true] at heq
  obtain ⟨backends, hbackends, hget⟩ := LibraryInput.requireSharedBackend_eq_ok heq
  refine ⟨backends, hbackends, ?_⟩
  rw [OrderedMap.contains_eq_isSome_get?, hget]
  rfl

/-- The backends of a link can be planned exactly if the link passes its check and nothing speaks against its
bitcode. -/
theorem bitcodeVerdict_spec (env : Env) (link : Link) :
    match link.bitcodeVerdict env with
    | .ok _ => link.check env.toBuild = .ok () ∧ ∀ kind c, ¬ link.BitcodeRefused env.toBuild kind c
    | .error c => link.check env.toBuild = .error c ∨ ∃ kind, link.BitcodeRefused env.toBuild kind c := by
  have hverdict : link.bitcodeVerdict env = (link.check env.toBuild >>= fun _ =>
      (link.indexedFiles env).checkRoots (link.backendRoots env) >>= fun _ =>
        link.memberBackends env.toBuild (link.ltoFacts env.features).decide (link.backendRoots env)
          (link.indexedFiles env)) := rfl
  rw [hverdict]
  cases hcheck : link.check env.toBuild with
  | error c => exact Or.inl rfl
  | ok u =>
      cases hroots : (link.indexedFiles env).checkRoots (link.backendRoots env) with
      | error c => exact Or.inr ⟨_, checkRoots_eq_error hroots⟩
      | ok u =>
          cases hmembers : link.memberBackends env.toBuild (link.ltoFacts env.features).decide (link.backendRoots env)
              (link.indexedFiles env) with
          | error c => exact Or.inr (memberBackends_eq_error hmembers)
          | ok members =>
              refine ⟨rfl, fun kind c hrefused => ?_⟩
              obtain ⟨a, ha, htree, hoff, -⟩ := hrefused.tree_of_shared fun l hl m hm hbitcode hinclude =>
                memberBackends_eq_ok hmembers hl hm hbitcode hinclude
              rw [checkRoots_eq_ok hroots ha htree] at hoff
              cases hoff

end Link

/-! ### Indexing -/

section Indexing

variable {env : Env} {p : BackendPlan}

/-- The indexer is shown something for every member: one that is bitcode has the backend that makes its object. -/
theorem BackendPlan.Planned.exists_indexingMember (hp : p.Planned env p.link) {l : LibraryInput} {m : Artifact}
    (hl : l ∈ p.link.libraries.toList) (hm : m ∈ l.objects.toList) :
    ∃ n, Link.indexingMember p.decision.includeStatic l m = .ok n := by
  unfold Link.indexingMember
  cases hinclude : p.decision.includeStatic with
  | true => exact ⟨_, rfl⟩
  | false =>
      rw [if_neg Bool.false_ne_true]
      cases hbackend : l.sharedBackend? m with
      | some b => exact ⟨_, rfl⟩
      | none =>
          have hnot : ¬ l.lto.isBitcode m = true := by
            intro hbitcode
            have hmem : (l, m) ∈ p.link.bitcodeMembers := Link.mem_bitcodeMembers.2 ⟨hl, hm, l, hl, hbitcode⟩
            obtain ⟨b, hb⟩ := hp.sharedBackend_of_member hinclude hmem
            rw [hbackend] at hb
            cases hb
          dsimp only
          rw [if_neg hnot]
          exact ⟨_, rfl⟩

/-- The indexer is shown every library. -/
theorem BackendPlan.Planned.exists_indexingLibraries (hp : p.Planned env p.link) :
    ∃ libraries, p.link.indexingLibraries p.decision.includeStatic = .ok libraries := by
  have hlibrary : ∀ l ∈ p.link.libraries.toList, ∃ k, Link.indexingLibrary p.decision.includeStatic l = .ok k := by
    intro l hl
    unfold Link.indexingLibrary
    split
    · obtain ⟨members, hmembers⟩ := exists_mapM_eq_ok fun m hm => hp.exists_indexingMember hl hm
      rw [hmembers]
      exact ⟨_, rfl⟩
    · exact ⟨_, rfl⟩
  obtain ⟨libraries, hlibraries⟩ := exists_mapM_eq_ok hlibrary
  unfold Link.indexingLibraries
  rw [hlibraries]
  exact ⟨_, rfl⟩

variable (henv : env.Willing) (hp : p.Planned env p.link) (hcheck : p.link.check env.toBuild = .ok ())
  (harchive : p.link.linkType.isArchive = false)
include henv hp hcheck harchive

theorem BackendPlan.succeeds_assembleIndexing : Succeeds (p.assembleIndexing env) := by
  obtain ⟨actionName, haction⟩ := Link.exists_indexAction_of_check hcheck harchive
  obtain ⟨libraries, hlibraries⟩ := hp.exists_indexingLibraries
  obtain ⟨a, ha⟩ := p.link.succeeds_assemble henv (p.indexingRequest env.toBuild actionName libraries)
  unfold BackendPlan.assembleIndexing
  rw [haction]
  dsimp only
  rw [hlibraries]
  refine (settles_ofCause (.ok libraries)).bind_succeeds ((settles_declare _).bind_succeeds ?_)
  exact (settles_declare _).bind_succeeds (ha.bind_succeeds (succeeds_pure _))

/-- After the backends of a link are planned, nothing fails. -/
theorem BackendPlan.succeeds_phases : Succeeds (p.planIndexing env >>= fun phase => phase.plan env) := by
  have hshares : p.link.SharesAll := fun h => by rw [harchive] at h; cases h
  unfold BackendPlan.planIndexing
  split
  · obtain ⟨outputs, houtputs⟩ := BackendPlan.succeeds_assembleIndexing henv hp hcheck harchive
    exact (((houtputs.within _).map _).during _).bind_succeeds (Link.succeeds_planFinal henv hshares _ _ _ _)
  · exact (settles_pure _).bind_succeeds (Link.succeeds_planFinal henv hshares _ _ _ _)

end Indexing

/-- A link with LTO can be planned exactly if its backends can. -/
theorem Link.heeds_planWithLto {env : Env} (henv : env.Willing) {link : Link}
    (harchive : link.linkType.isArchive = false) : Heeds (link.planWithLto env) (link.bitcodeVerdict env) := by
  refine (link.heeds_planBackends env).bind fun p hp hverdict => ?_
  obtain ⟨t, hrun⟩ := hp.run_ok {}
  have hplanned := Link.backends_planned_of_yields ⟨_, t, hrun⟩
  have hlink := hplanned.link_eq
  subst hlink
  have hcheck : p.link.check env.toBuild = .ok () := by
    cases hcheck : p.link.check env.toBuild with
    | ok u => rfl
    | error c =>
        unfold Link.bitcodeVerdict at hverdict
        rw [hcheck] at hverdict
        cases hverdict
  exact BackendPlan.succeeds_phases henv hplanned hcheck harchive

end LinkPlanner
