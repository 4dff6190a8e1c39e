import LinkPlanner.Proofs.Order
import LinkPlanner.Proofs.Phases

/-! The backends that a link plans for its bitcode, and the mapping made of them. A bitcode file is one of
the link's own objects or a member of one of its libraries; a file can be both. -/

namespace LinkPlanner

/-! ### Bitcode files -/

namespace Link

/-- One of the link's own objects, declared bitcode by its target. -/
def OwnBitcode (link : Link) (a : Artifact) : Prop :=
  ∃ o ∈ link.objects.toList, (o.artifact == a) = true ∧ link.lto.isBitcode a = true

/-- A member of some library, declared bitcode by that library or by another one of the link. -/
def MemberBitcode (link : Link) (a : Artifact) : Prop :=
  ∃ l ∈ link.libraries.toList, ∃ m ∈ l.objects.toList, (m == a) = true ∧
    ∃ k ∈ link.libraries.toList, k.lto.isBitcode a = true

def Bitcode (link : Link) (a : Artifact) : Prop := link.OwnBitcode a ∨ link.MemberBitcode a

end Link

theorem LtoContext.isBitcode_congr {lto : LtoContext} {a b : Artifact} (hab : (a == b) = true) :
    lto.isBitcode a = lto.isBitcode b :=
  OrderedMap.contains_congr hab

theorem LtoContext.copts_congr {lto : LtoContext} {a b : Artifact} (hab : (a == b) = true) :
    lto.copts a = lto.copts b := by
  unfold copts
  rw [OrderedMap.get?_congr hab]

theorem LtoContext.copts_of_not_isBitcode {lto : LtoContext} {a : Artifact} (h : lto.isBitcode a = false) :
    lto.copts a = [] := by
  unfold copts
  rw [OrderedMap.get?_eq_none_of_not_contains (Bool.not_eq_true _ ▸ h)]
  rfl

theorem libraryBitcode_contains {libraries : List LibraryInput} {a : Artifact} :
    (libraryBitcode libraries).contains a = true ↔ ∃ l ∈ libraries, l.lto.isBitcode a = true := by
  unfold libraryBitcode
  rw [OrderedSet.contains_ofList, List.any_eq_true]
  constructor
  · rintro ⟨key, hkey, heq⟩
    obtain ⟨l, hl, hkey⟩ := List.mem_flatMap.1 hkey
    obtain ⟨e, he, rfl⟩ := List.mem_map.1 hkey
    exact ⟨l, hl, OrderedMap.contains_iff.2 ⟨e, he, heq⟩⟩
  · rintro ⟨l, hl, hbitcode⟩
    obtain ⟨e, he, heq⟩ := OrderedMap.contains_iff.1 hbitcode
    exact ⟨e.1, List.mem_flatMap.2 ⟨l, hl, List.mem_map_of_mem he⟩, heq⟩

theorem Link.mem_bitcodeMembers {link : Link} {l : LibraryInput} {m : Artifact} :
    (l, m) ∈ link.bitcodeMembers ↔
      l ∈ link.libraries.toList ∧ m ∈ l.objects.toList ∧ ∃ k ∈ link.libraries.toList, k.lto.isBitcode m = true := by
  unfold bitcodeMembers
  rw [List.mem_flatMap]
  constructor
  · rintro ⟨k, hk, hm⟩
    obtain ⟨n, hn, heq⟩ := List.mem_map.1 hm
    cases heq
    rw [List.mem_filter, libraryBitcode_contains] at hn
    exact ⟨hk, hn⟩
  · rintro ⟨hl, hm, hbitcode⟩
    exact ⟨l, hl, List.mem_map_of_mem (List.mem_filter.2 ⟨hm, libraryBitcode_contains.2 hbitcode⟩)⟩

theorem Link.memberBitcode_iff {link : Link} {a : Artifact} :
    link.MemberBitcode a ↔ ∃ e ∈ link.bitcodeMembers, (e.2 == a) = true := by
  constructor
  · rintro ⟨l, hl, m, hm, hma, k, hk, hbitcode⟩
    rw [← LtoContext.isBitcode_congr hma] at hbitcode
    exact ⟨(l, m), Link.mem_bitcodeMembers.2 ⟨hl, hm, k, hk, hbitcode⟩, hma⟩
  · rintro ⟨⟨l, m⟩, hmem, hma⟩
    obtain ⟨hl, hm, k, hk, hbitcode⟩ := Link.mem_bitcodeMembers.1 hmem
    rw [LtoContext.isBitcode_congr hma] at hbitcode
    exact ⟨l, hl, m, hm, hma, k, hk, hbitcode⟩

/-- The bitcode that takes part in the indexing is that of the members, if libraries take part, and then the own
bitcode. -/
theorem Link.bitcodeFiles_eq (link : Link) (decision : LtoDecision) :
    link.bitcodeFiles decision = .ofList
      ((if decision.includeStatic then link.bitcodeMembers.map (·.2) else []) ++
        (link.objects.toList.filter (link.lto.isBitcode ·.artifact)).map (·.artifact)) := by
  have hmembers : link.bitcodeMembers.map (·.2) = link.libraries.toList.flatMap fun l =>
      l.objects.toList.filter (libraryBitcode link.libraries.toList).contains := by
    unfold bitcodeMembers
    rw [List.map_flatMap]
    congr 1
    funext l
    rw [List.map_map]
    exact List.map_id _
  rw [hmembers]
  rfl

/-! ### Shared backends that libraries bring along -/

namespace SharedBackends

/-- Every backend is filed under the bitcode that it compiles. -/
def Keyed (m : SharedBackends) : Prop := ∀ e ∈ m.entries, (e.2.bitcodeFile == e.1) = true

/-- The backends are those that a library makes once for the bitcode among its objects. -/
def Made (m : SharedBackends) : Prop :=
  ∀ e ∈ m.entries, ∃ (build : Build) (usePic : Bool) (bitcode : Artifact) (copts : List String),
    (bitcode == e.1) = true ∧ e.2 = .create build (.shared build.features) none usePic bitcode copts

/-- They are all made in this build. -/
def MadeIn (build : Build) (m : SharedBackends) : Prop :=
  ∀ e ∈ m.entries, ∃ (usePic : Bool) (bitcode : Artifact) (copts : List String),
    (bitcode == e.1) = true ∧ e.2 = .create build (.shared build.features) none usePic bitcode copts

theorem MadeIn.made {build : Build} {m : SharedBackends} (hm : m.MadeIn build) : m.Made := by
  intro e he
  obtain ⟨usePic, bitcode, copts, hkey, hvalue⟩ := hm e he
  exact ⟨build, usePic, bitcode, copts, hkey, hvalue⟩

theorem madeIn_createShared (build : Build) (lto : LtoContext) (objects : List Artifact) (usePic : Bool) :
    (ofBackends (Backend.createShared build lto objects usePic)).MadeIn build := by
  intro e he
  obtain ⟨d, hd, hkey, hvalue⟩ := OrderedMap.mem_entries_ofList he
  obtain ⟨b, hb, rfl⟩ := List.mem_map.1 hd
  obtain ⟨o, -, rfl⟩ := List.mem_map.1 hb
  exact ⟨usePic, o, lto.copts o, BEq.symm hkey, hvalue⟩

theorem made_createShared (build : Build) (lto : LtoContext) (objects : List Artifact) (usePic : Bool) :
    (ofBackends (Backend.createShared build lto objects usePic)).Made :=
  (madeIn_createShared build lto objects usePic).made

theorem Made.keyed {m : SharedBackends} (hm : m.Made) : m.Keyed := by
  intro e he
  obtain ⟨build, usePic, bitcode, copts, hkey, hvalue⟩ := hm e he
  rw [hvalue]
  exact hkey

end SharedBackends

/-- The shared backends of the link's libraries are filed under their bitcode. -/
def Link.SharedBackendsKeyed (link : Link) : Prop :=
  ∀ l ∈ link.libraries.toList, ∀ m, l.sharedBackends = some m → m.Keyed

/-- The shared backends of the link's libraries are as libraries make them. -/
def Link.SharedBackendsMade (link : Link) : Prop :=
  ∀ l ∈ link.libraries.toList, ∀ m, l.sharedBackends = some m → m.Made

theorem Link.SharedBackendsMade.keyed {link : Link} (h : link.SharedBackendsMade) : link.SharedBackendsKeyed :=
  fun l hl m hm => (h l hl m hm).keyed

theorem LibraryInput.requireSharedBackend_eq_ok {l : LibraryInput} {object : Artifact} {b : Backend}
    (h : l.requireSharedBackend object = .ok b) :
    ∃ m, l.sharedBackends = some m ∧ m.get? object = some b := by
  unfold requireSharedBackend at h
  split at h
  · cases h
  · rename_i m hm
    split at h
    · rename_i backend hbackend
      cases h
      exact ⟨m, hm, hbackend⟩
    · cases h

theorem LibraryInput.sharedBackend?_eq_some_iff {l : LibraryInput} {object : Artifact} {b : Backend} :
    l.sharedBackend? object = some b ↔ l.requireSharedBackend object = .ok b := by
  constructor
  · intro h
    obtain ⟨m, hm, hget⟩ := Option.bind_eq_some_iff.1 h
    unfold requireSharedBackend
    rw [hm]
    dsimp only
    rw [hget]
  · intro h
    obtain ⟨m, hm, hget⟩ := requireSharedBackend_eq_ok h
    exact Option.bind_eq_some_iff.2 ⟨m, hm, hget⟩

namespace Link

/-- The backend is one that the link takes over as it is: members of libraries take no part in the indexing, and the
backend is filed for one that is bitcode. -/
def Borrows (env : Env) (link : Link) (b : Backend) : Prop :=
  (link.ltoFacts env.features).decide.includeStatic = false ∧
    ∃ e ∈ link.bitcodeMembers, e.1.sharedBackend? e.2 = some b

/-- The link takes over nothing but shared backends. -/
def BorrowsShared (env : Env) (link : Link) : Prop := ∀ b, link.Borrows env b → b.isShared = true

/-- What the link takes over does not stand for its own bitcode in the place for its own backends. -/
def BorrowsApart (env : Env) (link : Link) : Prop :=
  ∀ b, link.Borrows env b → link.OwnBitcode b.bitcodeFile →
    (b.roots.outputRoot == (LtoRoots.forIndexing link.output env.features).outputRoot) = false

end Link

/-! ### Where backends come from -/

namespace Backend

theorem beq_iff {b c : Backend} :
    (b == c) = true ↔ (b.bitcodeFile == c.bitcodeFile) = true ∧ (b.roots.outputRoot == c.roots.outputRoot) = true :=
  show (b.bitcodeFile == c.bitcodeFile && b.roots.outputRoot == c.roots.outputRoot) = true ↔ _ from
    Bool.and_eq_true_iff

instance : EquivBEq Backend where
  rfl := beq_iff.2 ⟨BEq.rfl, BEq.rfl⟩
  symm h := beq_iff.2 ((beq_iff.1 h).imp BEq.symm BEq.symm)
  trans h k := beq_iff.2 ⟨BEq.trans (beq_iff.1 h).1 (beq_iff.1 k).1, BEq.trans (beq_iff.1 h).2 (beq_iff.1 k).2⟩

@[simp] theorem bitcodeFile_create (build : Build) (roots : LtoRoots) (allowed : Option BitcodeFiles)
    (usePic : Bool) (bitcode : Artifact) (copts : List String) :
    (create build roots allowed usePic bitcode copts).bitcodeFile = bitcode := rfl

@[simp] theorem isShared_create (build : Build) (roots : LtoRoots) (allowed : Option BitcodeFiles)
    (usePic : Bool) (bitcode : Artifact) (copts : List String) :
    (create build roots allowed usePic bitcode copts).isShared = !allowed.isSome := by
  cases allowed <;> rfl

/-- Where the object of a backend goes is told by the path under the root, however that is spelled. -/
theorem file_beq_of_join (build : Build) {root root' : Path} {a b : Artifact} (hab : (a == b) = true)
    (hjoin : (root.join a.path == root'.join b.path) = true) :
    (file build root a "" == file build root' b "") = true := by
  obtain ⟨-, -, htree⟩ := Artifact.beq_iff.1 hab
  refine Artifact.beq_iff.2 ⟨BEq.rfl, ?_, htree⟩
  unfold file Path.append
  rwa [show "".toList = [] from rfl, List.append_nil, List.append_nil]

end Backend

namespace BackendPlan

/-- The bitcode that the unique backends of a link may import from. -/
def files (p : BackendPlan) : BitcodeFiles := p.link.bitcodeFiles p.decision

/-- The three ways in which a backend comes into a plan. -/
inductive Origin (env : Env) (p : BackendPlan) : Backend → Prop where
  /-- A member of a library takes part in the indexing. -/
  | newMember {l : LibraryInput} {m : Artifact} (hmem : (l, m) ∈ p.link.bitcodeMembers)
      (hinclude : p.decision.includeStatic = true) :
      Origin env p (.create env.toBuild p.roots (some p.files) p.link.usePicForLtoBackends m (l.lto.copts m))
  /-- A member of a library keeps the backend that the library shares. -/
  | sharedMember {l : LibraryInput} {m : Artifact} {b : Backend} (hmem : (l, m) ∈ p.link.bitcodeMembers)
      (hinclude : p.decision.includeStatic = false) (hshared : l.requireSharedBackend m = .ok b) : Origin env p b
  | own {o : ObjectInput} (hobject : o ∈ p.link.objects.toList) (hbitcode : p.link.lto.isBitcode o.artifact = true) :
      Origin env p (.create env.toBuild p.roots (if p.decision.allowIndexing then some p.files else none)
        p.link.usePicForLtoBackends o.artifact (p.link.lto.copts o.artifact))

end BackendPlan

theorem Link.exists_ltoRoots_eq (features : Features) (link : Link) (decision : LtoDecision) :
    ∃ root, link.ltoRoots features decision = .under root features := by
  unfold ltoRoots
  split
  · exact ⟨_, rfl⟩
  · exact ⟨_, rfl⟩

theorem Link.mem_ownBackends {build : Build} {link : Link} {decision : LtoDecision} {roots : LtoRoots}
    {files : BitcodeFiles} {b : Backend} :
    b ∈ link.ownBackends build decision roots files ↔
      ∃ o ∈ link.objects.toList, link.lto.isBitcode o.artifact = true ∧
        .create build roots (if decision.allowIndexing then some files else none) link.usePicForLtoBackends
          o.artifact (link.lto.copts o.artifact) = b := by
  unfold ownBackends
  rw [List.mem_map]
  constructor
  · rintro ⟨a, ha, rfl⟩
    rw [List.mem_filter, List.mem_map] at ha
    obtain ⟨⟨o, ho, rfl⟩, hbitcode⟩ := ha
    exact ⟨o, ho, hbitcode, rfl⟩
  · rintro ⟨o, ho, hbitcode, rfl⟩
    exact ⟨o.artifact, List.mem_filter.2 ⟨List.mem_map_of_mem ho, hbitcode⟩, rfl⟩

namespace BackendPlan

variable {env : Env} {link : Link} {p : BackendPlan}

theorem Planned.origin (hp : p.Planned env link) {b : Backend} (hb : b ∈ p.backends.toList) :
    p.Origin env b := by
  obtain ⟨members, hmembers, hbackends⟩ := hp.backends_eq
  have hlink := hp.link_eq
  subst hlink
  rw [hbackends] at hb
  rcases List.mem_append.1 (OrderedSet.mem_of_mem_ofList hb) with hb | hb
  · obtain ⟨⟨l, m⟩, hmem, heq⟩ := (Planning.mem_of_mapM_eq_ok hmembers).1 b hb
    dsimp only at heq
    split at heq
    · rename_i hinclude
      cases heq
      exact .newMember hmem hinclude
    · rename_i hinclude
      exact .sharedMember hmem (Bool.not_eq_true _ ▸ hinclude) heq
  · obtain ⟨o, ho, hbitcode, rfl⟩ := Link.mem_ownBackends.1 hb
    exact .own ho hbitcode

theorem keyed_of_requireSharedBackend {l : LibraryInput} {m : Artifact} {b : Backend}
    (hkeyed : link.SharedBackendsKeyed) (hl : l ∈ link.libraries.toList)
    (h : l.requireSharedBackend m = .ok b) : (b.bitcodeFile == m) = true := by
  obtain ⟨backends, hbackends, hget⟩ := LibraryInput.requireSharedBackend_eq_ok h
  obtain ⟨e, he, hkey, rfl⟩ := OrderedMap.mem_of_get?_eq_some hget
  exact BEq.trans (hkeyed l hl backends hbackends e he) hkey

/-- Backends are planned for bitcode files of the link only. -/
theorem Origin.bitcode (hkeyed : p.decision.includeStatic = false → p.link.SharedBackendsKeyed) {b : Backend}
    (hb : p.Origin env b) : p.link.Bitcode b.bitcodeFile := by
  cases hb with
  | newMember hmem hinclude => exact Or.inr (Link.memberBitcode_iff.2 ⟨_, hmem, BEq.rfl⟩)
  | sharedMember hmem hinclude hshared =>
      have hkey := keyed_of_requireSharedBackend (hkeyed hinclude) (Link.mem_bitcodeMembers.1 hmem).1 hshared
      exact Or.inr (Link.memberBitcode_iff.2 ⟨_, hmem, BEq.symm hkey⟩)
  | own hobject hbitcode => exact Or.inl ⟨_, hobject, BEq.rfl, hbitcode⟩

section Covered

variable (hp : p.Planned env link)
include hp

/-- What is filed for a member is taken over if members take no part in the indexing. -/
theorem Planned.borrows {l : LibraryInput} {m : Artifact} {b : Backend} (hmem : (l, m) ∈ link.bitcodeMembers)
    (hinclude : p.decision.includeStatic = false) (hshared : l.requireSharedBackend m = .ok b) : link.Borrows env b :=
  ⟨hp.decision_eq ▸ hinclude, _, hmem, LibraryInput.sharedBackend?_eq_some_iff.2 hshared⟩

/-- Members that take no part in the indexing have the backends that their libraries share. -/
theorem Planned.sharedBackend_of_member (hinclude : p.decision.includeStatic = false) {l : LibraryInput} {m : Artifact}
    (hmem : (l, m) ∈ link.bitcodeMembers) : ∃ b, l.sharedBackend? m = some b := by
  obtain ⟨members, hmembers, -⟩ := hp.backends_eq
  obtain ⟨b, -, heq⟩ := (Planning.mem_of_mapM_eq_ok hmembers).2 (l, m) hmem
  dsimp only at heq
  rw [hinclude, if_neg Bool.false_ne_true] at heq
  exact ⟨b, LibraryInput.sharedBackend?_eq_some_iff.2 heq⟩

/-- A backend that is taken over is planned, or the same one from another library. -/
theorem Planned.exists_beq_of_borrows {b : Backend} (hb : link.Borrows env b) :
    ∃ c ∈ p.backends.toList, (c == b) = true := by
  obtain ⟨members, hmembers, hbackends⟩ := hp.backends_eq
  obtain ⟨hinclude, ⟨l, m⟩, hmem, hfiled⟩ := hb
  obtain ⟨c, hc, heq⟩ := (Planning.mem_of_mapM_eq_ok hmembers).2 (l, m) hmem
  dsimp only at heq
  rw [hp.decision_eq, hinclude, if_neg Bool.false_ne_true, LibraryInput.sharedBackend?_eq_some_iff.1 hfiled] at heq
  cases heq
  rw [hbackends]
  exact OrderedSet.exists_of_mem_ofList (List.mem_append_left _ hc)

theorem Planned.exists_backend_own {a : Artifact} (ha : link.OwnBitcode a) :
    ∃ b ∈ p.backends.toList, (b.bitcodeFile == a) = true := by
  obtain ⟨members, -, hbackends⟩ := hp.backends_eq
  obtain ⟨o, ho, hoa, hbitcode⟩ := ha
  rw [← LtoContext.isBitcode_congr hoa] at hbitcode
  obtain ⟨b, hb, hba⟩ : ∃ b ∈ link.ownBackends env.toBuild p.decision p.roots (link.bitcodeFiles p.decision),
      (b.bitcodeFile == a) = true := ⟨_, Link.mem_ownBackends.2 ⟨o, ho, hbitcode, rfl⟩, hoa⟩
  obtain ⟨c, hc, hcb⟩ := OrderedSet.exists_of_mem_ofList (List.mem_append_right members hb)
  exact ⟨c, hbackends ▸ hc, BEq.trans (Backend.beq_iff.1 hcb).1 hba⟩

theorem Planned.exists_backend_member (hinclude : p.decision.includeStatic = true) {a : Artifact}
    (ha : link.MemberBitcode a) : ∃ b ∈ p.backends.toList, (b.bitcodeFile == a) = true := by
  obtain ⟨members, hmembers, hbackends⟩ := hp.backends_eq
  obtain ⟨⟨l, m⟩, hmem, hma⟩ := Link.memberBitcode_iff.1 ha
  obtain ⟨b, hb, heq⟩ := (Planning.mem_of_mapM_eq_ok hmembers).2 (l, m) hmem
  dsimp only at heq
  rw [hinclude, if_pos rfl] at heq
  cases heq
  obtain ⟨c, hc, hcb⟩ := OrderedSet.exists_of_mem_ofList (List.mem_append_left _ hb)
  exact ⟨c, hbackends ▸ hc, BEq.trans (Backend.beq_iff.1 hcb).1 hma⟩

/-- Every bitcode file of the link has a backend if the libraries file theirs under their bitcode. -/
theorem Planned.exists_backend (hkeyed : p.decision.includeStatic = false → link.SharedBackendsKeyed) {a : Artifact}
    (ha : link.Bitcode a) : ∃ b ∈ p.backends.toList, (b.bitcodeFile == a) = true := by
  rcases ha with hown | hmember
  · exact hp.exists_backend_own hown
  · cases hinclude : p.decision.includeStatic with
    | true => exact hp.exists_backend_member hinclude hmember
    | false =>
        obtain ⟨⟨l, m⟩, hmem, hma⟩ := Link.memberBitcode_iff.1 hmember
        obtain ⟨b, hb⟩ := hp.sharedBackend_of_member hinclude hmem
        obtain ⟨c, hc, hcb⟩ := hp.exists_beq_of_borrows ⟨hp.decision_eq ▸ hinclude, _, hmem, hb⟩
        have hkey := keyed_of_requireSharedBackend (hkeyed hinclude) (Link.mem_bitcodeMembers.1 hmem).1
          (LibraryInput.sharedBackend?_eq_some_iff.1 hb)
        exact ⟨c, hc, BEq.trans (Backend.beq_iff.1 hcb).1 (BEq.trans hkey hma)⟩

end Covered

/-- A bitcode file has a backend if it is an own object, if members take part in the indexing, or if one is taken over
for it. -/
theorem Planned.exists_backend_iff (hp : p.Planned env p.link) {a : Artifact} (ha : p.link.Bitcode a) :
    (∃ b ∈ p.backends.toList, (b.bitcodeFile == a) = true) ↔
      p.link.OwnBitcode a ∨ p.decision.includeStatic = true ∨
        ∃ b, p.link.Borrows env b ∧ (b.bitcodeFile == a) = true := by
  constructor
  · rintro ⟨b, hb, hba⟩
    cases hp.origin hb with
    | newMember hmem hinclude => exact Or.inr (Or.inl hinclude)
    | sharedMember hmem hinclude hshared => exact Or.inr (Or.inr ⟨b, hp.borrows hmem hinclude hshared, hba⟩)
    | own hobject hbitcode => exact Or.inl ⟨_, hobject, hba, LtoContext.isBitcode_congr hba ▸ hbitcode⟩
  · rintro (hown | hinclude | ⟨b, hb, hba⟩)
    · exact hp.exists_backend_own hown
    · exact ha.elim hp.exists_backend_own (hp.exists_backend_member hinclude)
    · obtain ⟨c, hc, hcb⟩ := hp.exists_beq_of_borrows hb
      exact ⟨c, hc, BEq.trans (Backend.beq_iff.1 hcb).1 hba⟩

end BackendPlan

/-! ### The mapping -/

namespace BitcodeMapping

theorem contains_congr {m : BitcodeMapping} {a b : Artifact} (hab : (a == b) = true) :
    m.contains a = m.contains b :=
  OrderedMap.contains_congr hab

theorem map_of_not_contains {m : BitcodeMapping} {a : Artifact} (ha : m.contains a = false) : m.map a = a := by
  unfold contains at ha
  rw [OrderedMap.contains_eq_isSome_get?] at ha
  unfold map get?
  cases hget : m.objects.get? a with
  | none => rfl
  | some o =>
      rw [hget] at ha
      cases ha

/-- Of several backends for one file the last one counts. -/
theorem get?_ofBackends (backends : List Backend) (a : Artifact) :
    (ofBackends backends).get? a = (backends.filter (·.bitcodeFile == a)).getLast?.map (·.objectFile) := by
  suffices h : ∀ m : BitcodeMapping,
      (backends.foldl (fun m b => m.insert b.bitcodeFile b.objectFile b.isShared) m).get? a =
        ((backends.filter (·.bitcodeFile == a)).getLast?.map (·.objectFile)).or (m.get? a) by
    have hempty := h {}
    rw [show get? {} a = none from rfl, Option.or_none] at hempty
    exact hempty
  induction backends with
  | nil => exact fun m => rfl
  | cons b backends ih =>
      intro m
      rw [List.foldl_cons, ih]
      have hget : (m.insert b.bitcodeFile b.objectFile b.isShared).get? a =
          if b.bitcodeFile == a then some b.objectFile else m.get? a :=
        OrderedMap.get?_insert m.objects b.bitcodeFile a b.objectFile
      rw [hget, List.filter_cons]
      cases b.bitcodeFile == a with
      | false => rfl
      | true =>
          rw [if_pos rfl, if_pos rfl, List.getLast?_cons]
          cases (backends.filter (·.bitcodeFile == a)).getLast? <;> rfl

theorem contains_ofBackends (backends : List Backend) (a : Artifact) :
    (ofBackends backends).contains a = backends.any (·.bitcodeFile == a) := by
  change (ofBackends backends).objects.contains a = _
  rw [OrderedMap.contains_eq_isSome_get?]
  change ((ofBackends backends).get? a).isSome = _
  rw [get?_ofBackends, Option.isSome_map, Bool.eq_iff_iff, List.getLast?_isSome, List.any_eq_true, ne_eq,
    List.filter_eq_nil_iff, Classical.not_forall]
  simp only [Classical.not_imp, Classical.not_not]

theorem shared_ofBackends (backends : List Backend) (a : Artifact) :
    (ofBackends backends).shared.contains a = backends.any fun b => b.bitcodeFile == a && b.isShared := by
  suffices h : ∀ m : BitcodeMapping,
      (backends.foldl (fun m b => m.insert b.bitcodeFile b.objectFile b.isShared) m).shared.contains a =
        (m.shared.contains a || backends.any fun b => b.bitcodeFile == a && b.isShared) from h {}
  induction backends with
  | nil => exact fun m => (Bool.or_false _).symm
  | cons b backends ih =>
      intro m
      rw [List.foldl_cons, ih, List.any_cons, ← Bool.or_assoc]
      congr 1
      change (if b.isShared then m.shared.insert b.bitcodeFile else m.shared).contains a = _
      cases b.isShared with
      | false => rw [if_neg Bool.false_ne_true, Bool.and_false, Bool.or_false]
      | true => rw [if_pos rfl, OrderedSet.contains_insert, Bool.and_true]

/-- What a bitcode file maps to is the object of one of its backends. -/
theorem exists_backend_of_contains {backends : List Backend} {a : Artifact}
    (ha : (ofBackends backends).contains a = true) :
    ∃ b ∈ backends, (b.bitcodeFile == a) = true ∧ (ofBackends backends).map a = b.objectFile := by
  unfold contains at ha
  rw [OrderedMap.contains_eq_isSome_get?] at ha
  obtain ⟨o, ho⟩ := Option.isSome_iff_exists.1 ha
  change (ofBackends backends).get? a = some o at ho
  unfold map
  rw [ho]
  rw [get?_ofBackends] at ho
  obtain ⟨b, hb, rfl⟩ := Option.map_eq_some_iff.1 ho
  obtain ⟨hmem, hkey⟩ := List.mem_filter.1 (List.mem_of_getLast? hb)
  exact ⟨b, hmem, hkey, rfl⟩

end BitcodeMapping

/-! ### A sample link

An executable `app/app` with a static library `dep/libdep.a`, whose one member `dep/dep.o` is bitcode with a
minimized form and a shared backend. The closed statements about plans are about links of this kind. -/

namespace Sample

def file (path : String) : Artifact := .derived (.ofString "bin") (.ofString path)

/-- An environment with these features on. -/
def env (features : List Feature) : Env where
  features := { Features.withAllActions with enabled := features.map (·.name) }

/-- The files as bitcode, each with a minimized form. -/
def context (paths : List String) : LtoContext :=
  paths.foldl (fun lto path => lto.record (file path) { minimized := some (file (path ++ ".min")) }) {}

def sharedBackends (env : Env) : SharedBackends :=
  .ofBackends (Backend.createShared env.toBuild (context ["dep/dep.o"]) [file "dep/dep.o"] false)

def library (env : Env) : LibraryInput where
  artifact := file "dep/libdep.a"
  category := .staticLibrary
  identifier := "dep/libdep.a"
  objects := .ofList [file "dep/dep.o"]
  lto := context ["dep/dep.o"]
  sharedBackends := some (sharedBackends env)

/-- The executable with these objects of its own, of which these are bitcode. -/
def link (env : Env) (objects bitcode : List String) : Link where
  owner := "//app:app"
  output := file "app/app"
  linkType := .executable
  linkingMode := .dynamic
  objects := .ofList (objects.map fun path => .ofArtifact (file path))
  libraries := .ofList [library env]
  lto := context bitcode

theorem sharedBackendsMade_link (env : Env) (objects bitcode : List String) :
    (link env objects bitcode).SharedBackendsMade := by
  intro l hl m hm
  cases List.mem_singleton.1 hl
  cases hm
  exact SharedBackends.made_createShared _ _ _ _

/-- Static libraries keep their shared backends, whatever is linked. -/
def sharedEnv : Env := env [.thinLtoAllLinkstaticUseSharedNonltoBackends]

/-- This backend, filed under `dep/dep.o`. -/
def filing (b : Backend) : SharedBackends := .ofList [(file "dep/dep.o", b)]

/-- The executable over the library with this backend on file for its member. -/
def linkFiling (b : Backend) (objects bitcode : List String) : Link :=
  { link sharedEnv objects bitcode with
    libraries := .ofList [{ library sharedEnv with sharedBackends := some (filing b) }] }

/-- A library takes any backend for its member. -/
theorem withSharedBackends_filing (b : Backend) :
    { library sharedEnv with sharedBackends := none }.withSharedBackends (filing b) =
      .ok { library sharedEnv with sharedBackends := some (filing b) } := rfl

/-- The unique backend of `dep/dep.o` as a link with this output makes it. -/
def uniqueFor (output : String) : Backend :=
  .create sharedEnv.toBuild (.forIndexing (file output) sharedEnv.features) (some (.ofList [file "dep/dep.o"])) false
    (file "dep/dep.o") []

end Sample
end LinkPlanner
