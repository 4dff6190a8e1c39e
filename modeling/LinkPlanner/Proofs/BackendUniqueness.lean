import LinkPlanner.Proofs.ActionInputs
import LinkPlanner.Proofs.PathText

/-! How many backends a bitcode file gets. Backends are told apart by their bitcode and their output root,
and all backends of a plan have one root unless only the link's own bitcode is indexed. A file that is then
both an own object and a member of a library is compiled twice, and the mapping, which answers by bitcode
alone, takes the object of the one backend and the sharing of the other. -/

namespace LinkPlanner

namespace LtoRoots

theorem components_sharedRoot : (Path.ofString sharedRoot).components = [.name sharedRoot.toList] := by
  decide +kernel

/-- Unique backends never lie where the shared ones do. -/
theorem outputRoot_forIndexing_ne_shared (output : Artifact) (features : Features) :
    ((forIndexing output features).outputRoot == Path.ofString sharedRoot) = false := by
  cases hroots : (forIndexing output features).outputRoot == Path.ofString sharedRoot with
  | false => rfl
  | true =>
      obtain ⟨before, last, hlast⟩ :=
        Path.components_append (s := ".lto") (by decide) (by decide) output.path
      have hcomponents : (output.path.append ".lto").components = _ := Path.beq_iff.1 hroots
      rw [hlast, components_sharedRoot] at hcomponents
      have hends := congrArg List.getLast? hcomponents
      rw [List.getLast?_concat, List.getLast?_singleton] at hends
      have hname := Path.Component.name.inj (Option.some.inj hends)
      exact absurd (hname ▸ List.suffix_append last _) (by decide)

end LtoRoots

namespace BackendPlan

variable {env : Env} {link : Link} {p : BackendPlan}

/-- The backends that compile a file. -/
def backendsOf (p : BackendPlan) (a : Artifact) : List Backend := p.backends.toList.filter (·.bitcodeFile == a)

/-- Only own bitcode is indexed, and some file is both own bitcode and a bitcode member. -/
def Splits (p : BackendPlan) : Prop :=
  p.decision.allowIndexing = true ∧ p.decision.includeStatic = false ∧
    ∃ a, p.link.OwnBitcode a ∧ p.link.MemberBitcode a

theorem mem_backendsOf {a : Artifact} {b : Backend} :
    b ∈ p.backendsOf a ↔ b ∈ p.backends.toList ∧ (b.bitcodeFile == a) = true :=
  List.mem_filter

/-- The backends of one file differ in their roots. -/
theorem pairwise_backendsOf (p : BackendPlan) (a : Artifact) :
    (p.backendsOf a).Pairwise fun b c => (b.roots.outputRoot == c.roots.outputRoot) = false := by
  refine List.Pairwise.imp_of_mem ?_ (p.backends.distinct.filter _)
  intro b c hb hc hne
  cases hroots : b.roots.outputRoot == c.roots.outputRoot with
  | false => rfl
  | true =>
      have hbitcode := BEq.trans (mem_backendsOf.1 hb).2 (BEq.symm (mem_backendsOf.1 hc).2)
      rw [Backend.beq_iff.2 ⟨hbitcode, hroots⟩] at hne
      cases hne

/-! ### Roots and sharing of the backends of a plan -/

/-- A shared backend of a library as the library makes it. -/
theorem made_of_requireSharedBackend {l : LibraryInput} {m : Artifact} {b : Backend}
    (hmade : link.SharedBackendsMade) (hl : l ∈ link.libraries.toList)
    (h : l.requireSharedBackend m = .ok b) :
    ∃ (build : Build) (usePic : Bool) (bitcode : Artifact) (copts : List String),
      (bitcode == m) = true ∧ b = .create build (.shared build.features) none usePic bitcode copts := by
  obtain ⟨backends, hbackends, hget⟩ := LibraryInput.requireSharedBackend_eq_ok h
  obtain ⟨e, he, hkey, rfl⟩ := OrderedMap.mem_of_get?_eq_some hget
  obtain ⟨build, usePic, bitcode, copts, hbitcode, heq⟩ := hmade l hl backends hbackends e he
  exact ⟨build, usePic, bitcode, copts, BEq.trans hbitcode hkey, heq⟩

theorem Origin.roots_of_include {b : Backend} (hb : p.Origin env b) (hinclude : p.decision.includeStatic = true) :
    b.roots = p.roots := by
  cases hb with
  | newMember hmem _ => rfl
  | sharedMember hmem hnot _ =>
      rw [hinclude] at hnot
      cases hnot
  | own hobject hbitcode => rfl

/-- If library members take no part in the indexing, a backend is the link's own or one that a library
shares. -/
theorem Origin.own_or_shared {b : Backend} (hb : p.Origin env b) (hmade : p.link.SharedBackendsMade)
    (hinclude : p.decision.includeStatic = false) :
    (p.link.OwnBitcode b.bitcodeFile ∧ b.roots = p.roots ∧ b.isShared = !p.decision.allowIndexing) ∨
      (p.link.MemberBitcode b.bitcodeFile ∧ b.roots.outputRoot = .ofString LtoRoots.sharedRoot ∧
        b.isShared = true) := by
  cases hb with
  | newMember hmem hyes =>
      rw [hinclude] at hyes
      cases hyes
  | sharedMember hmem _ hshared =>
      obtain ⟨build, usePic, bitcode, copts, hkey, rfl⟩ :=
        made_of_requireSharedBackend hmade (Link.mem_bitcodeMembers.1 hmem).1 hshared
      exact Or.inr ⟨Link.memberBitcode_iff.2 ⟨_, hmem, BEq.symm hkey⟩, rfl, rfl⟩
  | own hobject hbitcode =>
      refine Or.inl ⟨⟨_, hobject, BEq.rfl, hbitcode⟩, rfl, ?_⟩
      rw [Backend.isShared_create]
      cases p.decision.allowIndexing <;> rfl

theorem Planned.outputRoot_of_not_allow (hp : p.Planned env link) (hallow : p.decision.allowIndexing = false) :
    p.roots.outputRoot = .ofString LtoRoots.sharedRoot := by
  rw [hp.roots_eq, Link.ltoRoots, hallow]
  rfl

theorem Planned.outputRoot_of_allow (hp : p.Planned env link) (hallow : p.decision.allowIndexing = true) :
    (p.roots.outputRoot == .ofString LtoRoots.sharedRoot) = false := by
  rw [hp.roots_eq, Link.ltoRoots, hallow]
  exact LtoRoots.outputRoot_forIndexing_ne_shared _ _

theorem ownBitcode_congr {a b : Artifact} (hab : (a == b) = true) (ha : link.OwnBitcode a) :
    link.OwnBitcode b := by
  obtain ⟨o, ho, hoa, hbitcode⟩ := ha
  exact ⟨o, ho, BEq.trans hoa hab, LtoContext.isBitcode_congr hab ▸ hbitcode⟩

theorem memberBitcode_congr {a b : Artifact} (hab : (a == b) = true) (ha : link.MemberBitcode a) :
    link.MemberBitcode b := by
  obtain ⟨e, he, hea⟩ := Link.memberBitcode_iff.1 ha
  exact Link.memberBitcode_iff.2 ⟨e, he, BEq.trans hea hab⟩

/-- Without a split the backends of one file have one root. -/
theorem Planned.same_root (hp : p.Planned env p.link) (hmade : p.link.SharedBackendsMade) (hsplit : ¬ p.Splits)
    {a : Artifact} {b c : Backend} (hb : b ∈ p.backendsOf a) (hc : c ∈ p.backendsOf a) :
    (b.roots.outputRoot == c.roots.outputRoot) = true := by
  obtain ⟨hb, hba⟩ := mem_backendsOf.1 hb
  obtain ⟨hc, hca⟩ := mem_backendsOf.1 hc
  cases hinclude : p.decision.includeStatic with
  | true => rw [(hp.origin hb).roots_of_include hinclude, (hp.origin hc).roots_of_include hinclude]; exact BEq.rfl
  | false =>
      cases hallow : p.decision.allowIndexing with
      | false =>
          have hshared : ∀ d ∈ p.backends.toList, d.roots.outputRoot = .ofString LtoRoots.sharedRoot := by
            intro d hd
            rcases (hp.origin hd).own_or_shared hmade hinclude with ⟨-, hroots, -⟩ | ⟨-, hroot, -⟩
            · rw [hroots]
              exact hp.outputRoot_of_not_allow hallow
            · exact hroot
          rw [hshared b hb, hshared c hc]
          exact BEq.rfl
      | true =>
          -- the backends of the file are all the link's own or all shared, or it would be split
          rcases (hp.origin hb).own_or_shared hmade hinclude with ⟨hown, hbroots, -⟩ | ⟨hmember, hbroot, -⟩ <;>
            rcases (hp.origin hc).own_or_shared hmade hinclude with ⟨hown', hcroots, -⟩ | ⟨hmember', hcroot, -⟩
          · rw [hbroots, hcroots]
            exact BEq.rfl
          · exact absurd ⟨hallow, hinclude, a, ownBitcode_congr hba hown, memberBitcode_congr hca hmember'⟩ hsplit
          · exact absurd ⟨hallow, hinclude, a, ownBitcode_congr hca hown', memberBitcode_congr hba hmember⟩ hsplit
          · rw [hbroot, hcroot]
            exact BEq.rfl

/-- Without a split every bitcode file has one backend. -/
theorem Planned.backendsOf_eq_singleton (hp : p.Planned env p.link) (hmade : p.link.SharedBackendsMade)
    (hsplit : ¬ p.Splits) {a : Artifact} (ha : p.link.Bitcode a) : ∃ b, p.backendsOf a = [b] := by
  obtain ⟨b, hb, hba⟩ := hp.exists_backend (fun _ => hmade.keyed) ha
  have hmem := mem_backendsOf.2 ⟨hb, hba⟩
  have hpairs := p.pairwise_backendsOf a
  match hbackends : p.backendsOf a with
  | [] =>
      rw [hbackends] at hmem
      cases hmem
  | [c] => exact ⟨c, rfl⟩
  | c :: d :: rest =>
      have hc : c ∈ p.backendsOf a := hbackends ▸ List.mem_cons_self
      have hd : d ∈ p.backendsOf a := hbackends ▸ List.mem_cons_of_mem _ List.mem_cons_self
      have hsame := hp.same_root hmade hsplit hc hd
      rw [hbackends] at hpairs
      rw [(List.pairwise_cons.1 hpairs).1 d List.mem_cons_self] at hsame
      cases hsame

/-! ### Split files -/

section Split

variable (hp : p.Planned env p.link) (hmade : p.link.SharedBackendsMade)
  (hallow : p.decision.allowIndexing = true) (hinclude : p.decision.includeStatic = false)
include hp hmade hallow hinclude

/-- A member of a library has the backend that the library shares. -/
theorem Planned.exists_shared_backend {a : Artifact} (hmember : p.link.MemberBitcode a) :
    ∃ b ∈ p.backendsOf a, b.isShared = true := by
  obtain ⟨members, hmembers, hbackends⟩ := hp.backends_eq
  obtain ⟨⟨l, m⟩, hmem, hma⟩ := Link.memberBitcode_iff.1 hmember
  obtain ⟨b, hb, heq⟩ := (Planning.mem_of_mapM_eq_ok hmembers).2 (l, m) hmem
  dsimp only at heq
  rw [hinclude, if_neg Bool.false_ne_true] at heq
  obtain ⟨build, usePic, bitcode, copts, hkey, rfl⟩ :=
    made_of_requireSharedBackend hmade (Link.mem_bitcodeMembers.1 hmem).1 heq
  obtain ⟨c, hc, hcb⟩ :=
    OrderedSet.exists_of_mem_ofList (List.mem_append_left _ hb)
  rw [← hbackends] at hc
  obtain ⟨hbitcode, hroot⟩ := Backend.beq_iff.1 hcb
  rw [Backend.bitcodeFile_create] at hbitcode
  refine ⟨c, mem_backendsOf.2 ⟨hc, BEq.trans hbitcode (BEq.trans hkey hma)⟩, ?_⟩
  rcases (hp.origin hc).own_or_shared hmade hinclude with ⟨-, hroots, -⟩ | ⟨-, -, hshared⟩
  · have hclash := hp.outputRoot_of_allow hallow
    rw [hroots] at hroot
    exact absurd hroot (hclash ▸ Bool.false_ne_true)
  · exact hshared

/-- An own object has a unique backend, and no shared one comes after it. -/
theorem Planned.last_backend_unique {a : Artifact} (hown : p.link.OwnBitcode a) :
    ∃ b, (p.backendsOf a).getLast? = some b ∧ b.isShared = false := by
  obtain ⟨members, hmembers, hbackends⟩ := hp.backends_eq
  obtain ⟨o, ho, hoa, hbitcode⟩ := hown
  rw [← LtoContext.isBitcode_congr hoa] at hbitcode
  have hb : .create env.toBuild p.roots
      (if p.decision.allowIndexing then some (p.link.bitcodeFiles p.decision) else none)
      p.link.usePicForLtoBackends o.artifact (p.link.lto.copts o.artifact) ∈
        p.link.ownBackends env.toBuild p.decision p.roots (p.link.bitcodeFiles p.decision) :=
    Link.mem_ownBackends.2 ⟨o, ho, hbitcode, rfl⟩
  obtain ⟨c, hc, hcb⟩ :=
    OrderedSet.exists_of_mem_ofList (List.mem_append_right members hb)
  obtain ⟨hcbitcode, hroot⟩ := Backend.beq_iff.1 hcb
  rw [Backend.bitcodeFile_create] at hcbitcode
  obtain ⟨added, hadded, hsub⟩ := OrderedSet.toList_insertAll (OrderedSet.ofList members)
    (p.link.ownBackends env.toBuild p.decision p.roots (p.link.bitcodeFiles p.decision))
  rw [OrderedSet.ofList_append] at hc hbackends
  rw [hadded] at hc
  -- the backends that come before are those of libraries, and lie elsewhere
  have hcadded : c ∈ added := by
    rcases List.mem_append.1 hc with hc | hc
    · obtain ⟨⟨l, m⟩, hmem, heq⟩ := (Planning.mem_of_mapM_eq_ok hmembers).1 c (OrderedSet.mem_of_mem_ofList hc)
      dsimp only at heq
      rw [hinclude, if_neg Bool.false_ne_true] at heq
      obtain ⟨build, usePic, bitcode, copts, -, rfl⟩ :=
        made_of_requireSharedBackend hmade (Link.mem_bitcodeMembers.1 hmem).1 heq
      have hclash := hp.outputRoot_of_allow hallow
      exact absurd (BEq.symm hroot) (hclash ▸ Bool.false_ne_true)
    · exact hc
  have hne : added.filter (·.bitcodeFile == a) ≠ [] :=
    List.ne_nil_of_mem (List.mem_filter.2 ⟨hcadded, BEq.trans hcbitcode hoa⟩)
  refine ⟨List.getLast _ hne, ?_, ?_⟩
  · rw [backendsOf, hbackends, hadded, List.filter_append, List.getLast?_append,
      List.getLast?_eq_some_getLast hne, Option.some_or]
  · have hmem := hsub.subset (List.mem_filter.1 (List.getLast_mem hne)).1
    obtain ⟨o', -, -, heq⟩ := Link.mem_ownBackends.1 hmem
    rw [← heq, hallow]
    rfl

end Split

/-! ### The mapping -/

/-- A file maps to the object of its last backend, and to itself if it has none. -/
theorem Planned.map_eq_getD (hp : p.Planned env p.link) (a : Artifact) :
    p.mapping.map a = ((p.backendsOf a).getLast?.map (·.objectFile)).getD a := by
  rw [hp.mapping_eq, BitcodeMapping.map, BitcodeMapping.get?_ofBackends]
  rfl

theorem Planned.map_eq (hp : p.Planned env p.link) {a : Artifact} {b : Backend}
    (hb : (p.backendsOf a).getLast? = some b) : p.mapping.map a = b.objectFile := by
  rw [hp.map_eq_getD, hb]
  rfl

/-- A file counts as indexed if it has backends and none of them is shared. -/
theorem Planned.isIndexed_iff (hp : p.Planned env p.link) {a : Artifact} :
    p.mapping.isIndexed a = true ↔ p.backendsOf a ≠ [] ∧ ∀ b ∈ p.backendsOf a, b.isShared = false := by
  rw [hp.mapping_eq, BitcodeMapping.isIndexed, BitcodeMapping.contains_ofBackends,
    BitcodeMapping.shared_ofBackends, Bool.and_eq_true, Bool.not_eq_true', List.any_eq_true, List.any_eq_false]
  constructor
  · rintro ⟨⟨b, hb, hba⟩, hall⟩
    refine ⟨List.ne_nil_of_mem (mem_backendsOf.2 ⟨hb, hba⟩), fun c hc => ?_⟩
    obtain ⟨hc, hca⟩ := mem_backendsOf.1 hc
    have hshared := hall c hc
    rw [hca, Bool.true_and, Bool.not_eq_true] at hshared
    exact hshared
  · rintro ⟨hne, hall⟩
    obtain ⟨b, hb⟩ := List.exists_mem_of_ne_nil _ hne
    refine ⟨⟨b, mem_backendsOf.1 hb⟩, fun c hc hboth => ?_⟩
    rw [Bool.and_eq_true] at hboth
    rw [hall c (mem_backendsOf.2 ⟨hc, hboth.1⟩)] at hboth
    cases hboth.2

theorem Planned.map_of_singleton (hp : p.Planned env p.link) {a : Artifact} {b : Backend}
    (hsingle : p.backendsOf a = [b]) : p.mapping.map a = b.objectFile :=
  hp.map_eq (by rw [hsingle, List.getLast?_singleton])

theorem Planned.isIndexed_of_singleton (hp : p.Planned env p.link) {a : Artifact} {b : Backend}
    (hsingle : p.backendsOf a = [b]) : p.mapping.isIndexed a = !b.isShared := by
  rw [Bool.eq_iff_iff, hp.isIndexed_iff, hsingle, Bool.not_eq_true']
  constructor
  · rintro ⟨-, hall⟩
    exact hall b (List.mem_singleton_self b)
  · intro hunique
    refine ⟨List.cons_ne_nil _ _, fun c hc => ?_⟩
    rw [List.mem_singleton.1 hc, hunique]

/-- A split file has more than one backend. It maps to the object of a unique one, but does not count as
indexed. -/
theorem Planned.split_file (hp : p.Planned env p.link) (hmade : p.link.SharedBackendsMade) (hsplit : p.Splits) :
    ∃ o ∈ p.link.objects.toList, p.link.Bitcode o.artifact ∧ (p.backendsOf o.artifact).length ≠ 1 ∧
      p.mapping.isIndexed o.artifact = false ∧
      ∃ b ∈ p.backends.toList, b.isShared = false ∧ p.mapping.map o.artifact = b.objectFile := by
  obtain ⟨hallow, hinclude, a, ⟨o, ho, hoa, hbitcode⟩, hmember⟩ := hsplit
  have hown : p.link.OwnBitcode o.artifact := ⟨o, ho, BEq.rfl, LtoContext.isBitcode_congr hoa ▸ hbitcode⟩
  obtain ⟨c, hc, hshared⟩ := hp.exists_shared_backend hmade hallow hinclude (memberBitcode_congr (BEq.symm hoa) hmember)
  obtain ⟨b, hlast, hunique⟩ := hp.last_backend_unique hmade hallow hinclude hown
  refine ⟨o, ho, Or.inl hown, ?_, ?_, b, (mem_backendsOf.1 (List.mem_of_getLast? hlast)).1, hunique, hp.map_eq hlast⟩
  · intro hone
    obtain ⟨d, hsingle⟩ := List.length_eq_one_iff.1 hone
    rw [hsingle] at hc hlast
    rw [List.getLast?_singleton] at hlast
    cases hlast
    rw [List.mem_singleton.1 hc, hunique] at hshared
    cases hshared
  · cases hindexed : p.mapping.isIndexed o.artifact with
    | false => rfl
    | true =>
        rw [(hp.isIndexed_iff.1 hindexed).2 c hc] at hshared
        cases hshared

theorem Planned.one_backend_iff (hp : p.Planned env p.link) (hmade : p.link.SharedBackendsMade) :
    (∀ a, p.link.Bitcode a → (p.backendsOf a).length = 1) ↔ ¬ p.Splits := by
  constructor
  · intro hone hsplit
    obtain ⟨o, -, hbitcode, hmore, -⟩ := hp.split_file hmade hsplit
    exact hmore (hone _ hbitcode)
  · intro hsplit a ha
    obtain ⟨b, hsingle⟩ := hp.backendsOf_eq_singleton hmade hsplit ha
    rw [hsingle, List.length_singleton]

/-- A shared and a unique backend have objects of one name. -/
def ObjectClash (p : BackendPlan) : Prop :=
  ∃ b ∈ p.backends.toList, b.isShared = true ∧
    ∃ c ∈ p.backends.toList, c.isShared = false ∧ (c.objectFile == b.objectFile) = true

theorem Planned.isIndexed_correct_iff (hp : p.Planned env p.link) (hmade : p.link.SharedBackendsMade) :
    (∀ a, p.link.Bitcode a → (p.mapping.isIndexed a = true ↔
        ∃ b ∈ p.backends.toList, b.isShared = false ∧ (b.objectFile == p.mapping.map a) = true)) ↔
      ¬ (p.Splits ∨ p.ObjectClash) := by
  constructor
  · intro hcorrect
    have hsplit : ¬ p.Splits := by
      intro hsplit
      obtain ⟨o, -, hbitcode, -, hnot, b, hb, hunique, hmap⟩ := hp.split_file hmade hsplit
      rw [(hcorrect _ hbitcode).2 ⟨b, hb, hunique, hmap ▸ BEq.rfl⟩] at hnot
      cases hnot
    rintro (h | ⟨b, hb, hshared, c, hc, hunique, hclash⟩)
    · exact hsplit h
    · have hbitcode := (hp.origin hb).bitcode fun _ => hmade.keyed
      obtain ⟨d, hsingle⟩ := hp.backendsOf_eq_singleton hmade hsplit hbitcode
      have hd : b = d := List.mem_singleton.1 (hsingle ▸ mem_backendsOf.2 ⟨hb, BEq.rfl⟩)
      subst hd
      have hindexed := (hcorrect b.bitcodeFile hbitcode).2 ⟨c, hc, hunique, hp.map_of_singleton hsingle ▸ hclash⟩
      rw [hp.isIndexed_of_singleton hsingle, hshared] at hindexed
      cases hindexed
  · intro hnone a ha
    obtain ⟨b, hsingle⟩ := hp.backendsOf_eq_singleton hmade (fun h => hnone (Or.inl h)) ha
    have hb : b ∈ p.backends.toList := (mem_backendsOf.1 (hsingle ▸ List.mem_singleton_self b)).1
    rw [hp.isIndexed_of_singleton hsingle, hp.map_of_singleton hsingle, Bool.not_eq_true']
    constructor
    · intro hunique
      exact ⟨b, hb, hunique, BEq.rfl⟩
    · rintro ⟨c, hc, hunique, hobject⟩
      cases hshared : b.isShared with
      | false => rfl
      | true => exact absurd (Or.inr ⟨b, hb, hshared, c, hc, hunique, hobject⟩) hnone

/-! ### The final link of an indexed build -/

/-- Something in the final link other than indexed bitcode is listed by a path that is also the object of a
unique backend. -/
def NameClash (env : Env) (p : BackendPlan) (outputs : IndexingOutputs) : Prop :=
  ∃ i ∈ (p.finalCollection env (some outputs)).collect.expandedInputs,
    (∀ o, i = .object o → ∀ b ∈ p.backendsOf o.artifact, b.isShared = true) ∧
      ∃ t, (p.finalCollection env (some outputs)).list i = some t ∧
        ∃ q ∈ t.paths, ∃ b ∈ p.backends.toList, b.isShared = false ∧ (q == b.objectFile) = true

section Final

variable (hallow : p.decision.allowIndexing = true) (outputs : IndexingOutputs)
include hallow

/-- Objects of indexed bitcode are not listed, and all others are. -/
theorem list_object_final (o : ObjectInput) :
    (p.finalCollection env (some outputs)).list (.object o) =
      if p.mapping.isIndexed o.artifact = true then none
      else some (.objectFile (p.mapping.map o.artifact)) := by
  change ((if p.decision.allowIndexing && p.mapping.isIndexed o.artifact then _ else _) : Option Artifact).map _ = _
  rw [hallow, Bool.true_and]
  cases p.mapping.isIndexed o.artifact <;> rfl

/-- An object that is listed without a split has no unique backend. -/
theorem Planned.shared_of_listed (hp : p.Planned env p.link) (hmade : p.link.SharedBackendsMade)
    (hsplit : ¬ p.Splits) {o : ObjectInput} {t : LibraryToLink}
    (hlist : (p.finalCollection env (some outputs)).list (.object o) = some t) :
    ∀ b ∈ p.backendsOf o.artifact, b.isShared = true := by
  intro b hb
  obtain ⟨hmem, hbitcode⟩ := mem_backendsOf.1 hb
  have hbitcode : p.link.Bitcode o.artifact :=
    ((hp.origin hmem).bitcode fun _ => hmade.keyed).imp (ownBitcode_congr hbitcode) (memberBitcode_congr hbitcode)
  obtain ⟨d, hsingle⟩ := hp.backendsOf_eq_singleton hmade hsplit hbitcode
  have hd : b = d := List.mem_singleton.1 (hsingle ▸ hb)
  subst hd
  cases hshared : b.isShared with
  | true => rfl
  | false =>
      rw [list_object_final hallow, hp.isIndexed_of_singleton hsingle, hshared] at hlist
      cases hlist

/-- The final link lists the object of a unique backend only if its bitcode is split or its name is taken. -/
theorem Planned.listed_unique_object_iff (hp : p.Planned env p.link) (hmade : p.link.SharedBackendsMade) :
    (∃ t ∈ (p.finalCollection env (some outputs)).collect.librariesToLink, ∃ q ∈ t.paths,
        ∃ b ∈ p.backends.toList, b.isShared = false ∧ (q == b.objectFile) = true) ↔
      p.Splits ∨ p.NameClash env outputs := by
  constructor
  · rintro ⟨t, ht, q, hq, b, hb, hunique, hqb⟩
    obtain ⟨i, hi, t', hlist, hq⟩ := CollectionRequest.mem_paths_collect.1 ⟨t, ht, hq⟩
    by_cases hsplit : p.Splits
    · exact Or.inl hsplit
    · refine Or.inr ⟨i, hi, ?_, t', hlist, q, hq, b, hb, hunique, hqb⟩
      rintro o rfl
      exact hp.shared_of_listed hallow outputs hmade hsplit hlist
  · rintro (hsplit | ⟨i, hi, -, t, hlist, q, hq, b, hb, hunique, hqb⟩)
    · obtain ⟨o, ho, -, -, hnot, b, hb, hunique, hmap⟩ := hp.split_file hmade hsplit
      have hlist : (p.finalCollection env (some outputs)).list (.object o) = some (.objectFile b.objectFile) := by
        rw [list_object_final hallow, hnot, if_neg Bool.false_ne_true, hmap]
      have hinput : .object o ∈ (p.finalCollection env (some outputs)).inputs :=
        Link.mem_linkerInputs.2 (Or.inl ⟨o, Link.mem_objects_finalAssembly ho, rfl⟩)
      exact ⟨_, CollectionRequest.mem_librariesToLink.2 ⟨_, hinput, hlist⟩, b.objectFile, List.mem_singleton_self _,
        b, hb, hunique, BEq.rfl⟩
    · obtain ⟨t', ht', hq'⟩ := CollectionRequest.mem_paths_collect.2 ⟨i, hi, t, hlist, hq⟩
      exact ⟨t', ht', q, hq', b, hb, hunique, hqb⟩

end Final

end BackendPlan

/-- Every bitcode file has one backend, the mapping tells indexed bitcode from the rest, and the final link
lists no object that the indexer lists, exactly if no file is split and no name is taken twice. -/
theorem Link.one_backend_iff_not_split {env : Env} {link : Link} {p : BackendPlan}
    (hp : (link.planBackends env).Yields p) (hmade : link.SharedBackendsMade) :
    ((∀ a, link.Bitcode a → (p.backendsOf a).length = 1) ↔ ¬ p.Splits) ∧
      ((∀ a, link.Bitcode a → (p.mapping.isIndexed a = true ↔
          ∃ b ∈ p.backends.toList, b.isShared = false ∧ (b.objectFile == p.mapping.map a) = true)) ↔
        ¬ (p.Splits ∨ p.ObjectClash)) ∧
      ∀ outputs plan, env.CollectsAsUsual → (p.planIndexing env).Yields (.indexed p outputs) →
        ((LtoPhase.indexed p outputs).plan env).Yields plan →
        ((∀ t ∈ plan.action.commandLine.linkVariables.librariesToLink, ∀ q ∈ t.paths,
            ∀ b ∈ plan.ltoBackends, b.isShared = false → (q == b.objectFile) = false) ↔
          ¬ (p.Splits ∨ p.NameClash env outputs)) := by
  have hplanned := Link.backends_planned_of_yields hp
  have hlink := hplanned.link_eq
  subst hlink
  refine ⟨hplanned.one_backend_iff hmade, hplanned.isIndexed_correct_iff hmade, ?_⟩
  intro outputs plan hcollect hphase hplan
  obtain ⟨-, hallow, -⟩ := BackendPlan.indexed_of_yields hphase
  obtain ⟨⟨c, hmadeFrom⟩, -, hbackends, -⟩ := Link.planned_of_yields hplan
  have hc := hcollect _ _ hmadeFrom.collected
  rw [← hplanned.listed_unique_object_iff hallow outputs hmade, hbackends, hmadeFrom.action_eq,
    Link.librariesToLink_action, hc]
  change (∀ t ∈ (p.finalCollection env (some outputs)).collect.librariesToLink, _) ↔ _
  constructor
  · rintro hnone ⟨t, ht, q, hq, b, hb, hunique, hqb⟩
    rw [hnone t ht q hq b hb hunique] at hqb
    cases hqb
  · intro hnone t ht q hq b hb hunique
    cases hqb : q == b.objectFile with
    | false => rfl
    | true => exact absurd ⟨t, ht, q, hq, b, hb, hunique, hqb⟩ hnone

namespace Sample

/-- Own objects that are not members of a library are indexed, each with one backend, and not listed. -/
theorem unsplit_files_have_one_backend :
    ∃ p outputs plan, ((link sharedEnv ["app/main.o"] ["app/main.o"]).planBackends sharedEnv).Yields p ∧
      (p.planIndexing sharedEnv).Yields (.indexed p outputs) ∧
      ((LtoPhase.indexed p outputs).plan sharedEnv).Yields plan ∧ sharedEnv.CollectsAsUsual ∧
      (link sharedEnv ["app/main.o"] ["app/main.o"]).SharedBackendsMade ∧
      ¬ p.Splits ∧ ¬ p.NameClash sharedEnv outputs ∧
      ∀ a, (link sharedEnv ["app/main.o"] ["app/main.o"]).Bitcode a → (p.backendsOf a).length = 1 := by
  obtain ⟨plan, hplan, hcheck⟩ := Planning.exists_yields_of_check
    ((link sharedEnv ["app/main.o"] ["app/main.o"]).planWithLto sharedEnv)
    (fun plan => plan.ltoIndexing.isSome &&
      plan.action.commandLine.linkVariables.librariesToLink.all fun t => t.paths.all fun q =>
        plan.ltoBackends.all fun b => b.isShared || !(q == b.objectFile))
    (by decide +kernel)
  simp only [Bool.and_eq_true, Bool.or_eq_true, Bool.not_eq_true', List.all_eq_true] at hcheck
  obtain ⟨hindexed, hcheck⟩ := hcheck
  obtain ⟨p, outputs, hp, hphase, hfinal, -⟩ := Link.indexed_phases_of_yields hplan hindexed
  have hcollect : sharedEnv.CollectsAsUsual := collectsAsUsual _
  have hmade := sharedBackendsMade_link sharedEnv ["app/main.o"] ["app/main.o"]
  obtain ⟨hone, -, hlisted⟩ := Link.one_backend_iff_not_split hp hmade
  have hnone := (hlisted outputs plan hcollect hphase hfinal).1 fun t ht q hq b hb hunique =>
    (hcheck t ht q hq b hb).resolve_left (by rw [hunique]; exact Bool.false_ne_true)
  have hsplit : ¬ p.Splits := fun h => hnone (Or.inl h)
  exact ⟨p, outputs, plan, hp, hphase, hfinal, hcollect, hmade, hsplit, fun h => hnone (Or.inr h), hone.2 hsplit⟩

/-- A file that is both an own object and a member of a library is compiled twice. The mapping has its unique
object but takes it for shared, and the final link lists the object that the indexer lists. -/
theorem split_file_has_two_backends :
    ∃ p plan, ((link sharedEnv ["dep/dep.o"] ["dep/dep.o"]).planBackends sharedEnv).Yields p ∧
      ((link sharedEnv ["dep/dep.o"] ["dep/dep.o"]).planWithLto sharedEnv).Yields plan ∧
      (p.backendsOf (file "dep/dep.o")).length = 2 ∧
      p.mapping.isIndexed (file "dep/dep.o") = false ∧
      (∃ b ∈ p.backends.toList, b.isShared = false ∧
        (b.objectFile == p.mapping.map (file "dep/dep.o")) = true) ∧
      ∃ b ∈ plan.ltoBackends, b.isShared = false ∧
        ∃ t ∈ plan.action.commandLine.linkVariables.librariesToLink, ∃ q ∈ t.paths, (q == b.objectFile) = true := by
  obtain ⟨p, hp, hcheckp⟩ := Planning.exists_yields_of_check
    ((link sharedEnv ["dep/dep.o"] ["dep/dep.o"]).planBackends sharedEnv)
    (fun p => (p.backendsOf (file "dep/dep.o")).length == 2 &&
      !p.mapping.isIndexed (file "dep/dep.o") &&
      p.backends.toList.any fun b => !b.isShared && b.objectFile == p.mapping.map (file "dep/dep.o"))
    (by decide +kernel)
  obtain ⟨plan, hplan, hcheck⟩ := Planning.exists_yields_of_check
    ((link sharedEnv ["dep/dep.o"] ["dep/dep.o"]).planWithLto sharedEnv)
    (fun plan => plan.ltoBackends.any fun b => !b.isShared &&
      plan.action.commandLine.linkVariables.librariesToLink.any fun t => t.paths.any (· == b.objectFile))
    (by decide +kernel)
  simp only [Bool.and_eq_true, Bool.not_eq_true', beq_iff_eq, List.any_eq_true] at hcheckp hcheck
  exact ⟨p, plan, hp, hplan, hcheckp.1.1, hcheckp.1.2, hcheckp.2, hcheck⟩

end Sample
end LinkPlanner
