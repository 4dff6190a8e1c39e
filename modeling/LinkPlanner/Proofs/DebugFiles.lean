import LinkPlanner.Proofs.BackendFiles

/-! The debug files of backends. A debug file has its ending in the place of the ending of its bitcode, where all other
files have theirs written behind it. So it is none of the others, but bitcode files that lie in one directory and whose
names have one stem have one debug file. -/

namespace LinkPlanner

namespace Path

variable {p q : Path}

/-- The paths lie in one directory, and their file names are the same up to their extensions. -/
def SameStem (p q : Path) : Prop :=
  p.components.dropLast = q.components.dropLast ∧ p.fileName?.map stem = q.fileName?.map stem

instance (p q : Path) : Decidable (p.SameStem q) :=
  inferInstanceAs (Decidable (p.components.dropLast = q.components.dropLast ∧
    p.fileName?.map stem = q.fileName?.map stem))

/-- What a file name becomes when its extension is replaced. -/
def renamed (extension : String) (name : List Char) : Component :=
  if stem name = ['.'] then .up else .name (stem name ++ '.' :: extension.toList)

theorem renamed_eq_iff (extension : String) {name name' : List Char} :
    renamed extension name = renamed extension name' ↔ stem name = stem name' := by
  unfold renamed
  constructor
  · intro heq
    split at heq <;> rename_i hname <;> split at heq <;> rename_i hname'
    · exact hname.trans hname'.symm
    · cases heq
    · cases heq
    · exact List.append_cancel_right (Component.name.inj heq)
  · intro heq
    rw [heq]

section Extension

variable {extension : String} (hextension : '/' ∉ extension.toList) (hne : extension.toList ≠ [])
include hextension hne

/-- The extension of a path that is spelled to end in its file name. -/
theorem components_withExtension_of_lastPiece (hp : step? p.lastPiece = some (.name p.lastPiece)) :
    (p.withExtension extension).components = p.components.dropLast ++ [renamed extension p.lastPiece] := by
  have hname := fileName?_of_lastPiece hp
  unfold renamed
  by_cases hstem : stem p.lastPiece = ['.']
  · rw [components_withExtension_of_dots hname hstem hextension hne, if_pos ⟨hp, hstem⟩, if_pos hstem]
  · rw [components_withExtension hname hstem hextension, if_neg hstem]

end Extension

theorem IsNormal.step?_lastPiece (hp : p.IsNormal) : step? p.lastPiece = some (.name p.lastPiece) :=
  hp _ (List.getLast_mem _)

theorem IsNormal.getLast?_components (hp : p.IsNormal) : p.components.getLast? = some (.name p.lastPiece) := by
  rw [components_eq_leading, hp.step?_lastPiece, Option.toList_some, List.getLast?_concat]

/-- Paths in normal form under directories. -/
theorem sameStem_join_iff {d e : Path} (hp : p.IsNormal) (hq : q.IsNormal) :
    (d.join p).SameStem (e.join q) ↔
      d.components ++ p.components.dropLast = e.components ++ q.components.dropLast ∧
        stem p.lastPiece = stem q.lastPiece := by
  have hname : ∀ {d p : Path}, p.IsNormal → (d.join p).fileName? = some p.lastPiece := fun {d p} hp => by
    rw [fileName?_of_lastPiece (by rw [lastPiece_join]; exact hp.step?_lastPiece), lastPiece_join]
  have hdir : ∀ {d p : Path}, p.IsNormal →
      (d.join p).components.dropLast = d.components ++ p.components.dropLast := fun {d p} hp => by
    rw [components_join d hp.isTight.anchor_eq_none, components_separator,
      List.dropLast_append_of_ne_nil hp.isTight.components_ne_nil]
  unfold SameStem
  rw [hname hp, hname hq, hdir hp, hdir hq, Option.map_some, Option.map_some, Option.some_inj]

theorem IsNormal.dropLast_components (hp : p.IsNormal) :
    p.components.dropLast = (pieces p.chars).dropLast.filterMap step? := by
  rw [components_eq_leading, hp.step?_lastPiece, Option.toList_some, List.dropLast_concat, leadingComponents,
    hp.isTight.anchor_eq_none]
  rfl

theorem intercalate_concat_append (before : List (List Char)) (first s : List Char) :
    ['/'].intercalate (before ++ [first ++ s]) = ['/'].intercalate (before ++ [first]) ++ s := by
  by_cases hbefore : before = []
  · simp [hbefore, List.intercalate_singleton]
  · rw [intercalate_append hbefore (List.cons_ne_nil _ _), intercalate_append hbefore (List.cons_ne_nil _ _)]
    simp [List.intercalate_singleton]

theorem stem_append {first extension : List Char} (hfirst : first ≠ []) (hextension : '.' ∉ extension) :
    stem (first ++ '.' :: extension) = first := by
  have hdrop : (first ++ '.' :: extension).reverse.dropWhile (· != '.') = '.' :: first.reverse := by
    rw [List.reverse_append, List.reverse_cons, List.append_assoc, List.singleton_append,
      List.dropWhile_append_of_pos, List.dropWhile_cons_of_neg (by decide)]
    intro c hc
    rw [bne_iff_ne]
    rintro rfl
    exact hextension (List.mem_reverse.1 hc)
  obtain ⟨c, rest, hreverse⟩ := List.exists_cons_of_ne_nil (List.reverse_ne_nil_iff.2 hfirst)
  unfold stem
  rw [hdrop, hreverse]
  change (c :: rest).reverse = first
  rw [← hreverse, List.reverse_reverse]

/-- The name of an object file is its stem with an ending. -/
theorem stem_of_isObjectFile {name : List Char} (hname : FileName.isObjectFile name = true) :
    ∃ s ∈ FileName.objectEndings, name = stem name ++ s.toList ∧ stem name ≠ [] := by
  obtain ⟨first, hfirst, s, hs, rfl⟩ := FileName.isObjectFile_iff.1 hname
  have hdot : ∀ s ∈ FileName.objectEndings, ∃ extension, s.toList = '.' :: extension ∧ '.' ∉ extension := by
    intro s hs
    exact ⟨s.toList.tail, by revert s; decide, by revert s; decide⟩
  obtain ⟨extension, heq, hextension⟩ := hdot s hs
  have hstem : stem (first ++ s.toList) = first := by
    rw [heq]
    exact stem_append hfirst hextension
  exact ⟨s, hs, by rw [hstem], by rwa [hstem]⟩

section Objects

variable (hp : p.IsNormal) (hq : q.IsNormal) (hpname : FileName.isObjectFile p.lastPiece = true)
  (hqname : FileName.isObjectFile q.lastPiece = true)
include hp hq hpname hqname

/-- Objects of one directory and with one stem differ only in which of the endings they have. -/
theorem sameStem_iff_exists_append :
    p.components.dropLast = q.components.dropLast ∧ stem p.lastPiece = stem q.lastPiece ↔
      ∃ r : Path, ∃ s ∈ FileName.objectEndings, ∃ t ∈ FileName.objectEndings, p = r.append s ∧ q = r.append t := by
  have hslash : ∀ s ∈ FileName.objectEndings, '/' ∉ s.toList := by decide
  obtain ⟨s, hs, hpstem, -⟩ := stem_of_isObjectFile hpname
  obtain ⟨t, ht, hqstem, -⟩ := stem_of_isObjectFile hqname
  rw [hp.dropLast_components, hq.dropLast_components]
  constructor
  · rintro ⟨hdir, hstem⟩
    have hbefore : (pieces p.chars).dropLast = (pieces q.chars).dropLast :=
      filterMap_step?_injective (fun piece h => hp.isTight piece (List.mem_of_mem_dropLast h))
        (fun piece h => hq.isTight piece (List.mem_of_mem_dropLast h)) hdir
    have htext : ∀ {p : Path} {s : String}, p.lastPiece = stem p.lastPiece ++ s.toList →
        p = append ⟨['/'].intercalate ((pieces p.chars).dropLast ++ [stem p.lastPiece])⟩ s := by
      intro p s hlast
      refine congrArg Path.mk (?_ : p.chars = _)
      rw [← intercalate_concat_append, ← hlast]
      unfold lastPiece
      rw [List.dropLast_append_getLast, intercalate_pieces]
    refine ⟨_, s, hs, t, ht, htext hpstem, ?_⟩
    rw [hbefore, hstem]
    exact htext hqstem
  · rintro ⟨r, s', hs', t', ht', rfl, rfl⟩
    have hstem : ∀ s ∈ FileName.objectEndings, ∀ t ∈ FileName.objectEndings,
        (r.append s).lastPiece = stem (r.append s).lastPiece ++ t.toList →
          stem (r.append s).lastPiece = r.lastPiece := by
      intro s hs t ht heq
      rw [lastPiece_append (hslash s hs)] at heq ⊢
      exact congrArg Path.chars (append_injective (p := ⟨stem _⟩) (q := ⟨r.lastPiece⟩) LtoRoots.suffixFree_endings
        (LtoRoots.mem_endings_of_object ht) (LtoRoots.mem_endings_of_object hs) (congrArg Path.mk heq.symm)).2
    rw [dropLast_pieces_append (hslash s' hs'), dropLast_pieces_append (hslash t' ht'), hstem s' hs' s hs hpstem,
      hstem t' ht' t ht hqstem]
    exact ⟨rfl, rfl⟩

end Objects

end Path

namespace Backend

variable (build : Build) {root root' : Path} (hroot : root.chars ≠ []) (hroot' : root'.chars ≠ []) {a b : Artifact}

/-- The debug file of a backend that writes one. -/
def debugFile (root : Path) (bitcode : Artifact) : Artifact :=
  build.derived ((root.join bitcode.path).withExtension "dwo")

theorem dwoFile_create (hdebug : writesDebugFile build = true) (roots : LtoRoots) (allowed : Option BitcodeFiles)
    (usePic : Bool) (bitcode : Artifact) (copts : List String) :
    (create build roots allowed usePic bitcode copts).dwoFile = some (debugFile build roots.outputRoot bitcode) :=
  if_pos hdebug

include hroot in
/-- The debug file lies where the bitcode would lie under the directory, with another extension. -/
theorem components_debugFile (ha : a.path.IsNormal) :
    (debugFile build root a).execPath.components =
      (build.binDirectory.join root).components ++ a.path.components.dropLast ++
        [Path.renamed "dwo" a.path.lastPiece] := by
  have hslash : '/' ∉ "dwo".toList := by decide
  have hne : "dwo".toList ≠ [] := by decide
  have hanchor := (ha.withExtension hslash).1.anchor_eq_none
  have hstep : Path.step? (root.join a.path).lastPiece = some (.name (root.join a.path).lastPiece) := by
    rw [Path.lastPiece_join]
    exact ha.step?_lastPiece
  -- the extension is that of the bitcode, whatever its path is put under
  have hsame : ((root.join a.path).withExtension "dwo" == root.join (a.path.withExtension "dwo")) = true := by
    rw [Path.beq_iff, Path.components_withExtension_of_lastPiece hslash hne hstep, Path.lastPiece_join,
      Path.components_join root hanchor, Path.components_join root ha.isTight.anchor_eq_none,
      Path.components_withExtension_of_lastPiece hslash hne ha.step?_lastPiece,
      List.dropLast_append_of_ne_nil ha.isTight.components_ne_nil, List.append_assoc]
  calc (debugFile build root a).execPath.components
      = (build.binDirectory.join (root.join (a.path.withExtension "dwo"))).components :=
        Path.beq_iff.1 (Path.join_congr build.binDirectory hsame)
    _ = (build.binDirectory.join root).components ++ (a.path.withExtension "dwo").components :=
        Path.components_join_join _ hroot hanchor
    _ = _ := by
        rw [Path.components_withExtension_of_lastPiece hslash hne ha.step?_lastPiece, List.append_assoc]

include hroot hroot' in
/-- Two debug files are one file exactly if the bitcode lies in one directory there and its names have one stem. -/
theorem debugFile_apart_iff (ha : a.path.IsNormal) (hb : b.path.IsNormal) :
    (debugFile build root a).Apart (debugFile build root' b) ↔
      ¬ (build.binDirectory.join (root.join a.path)).SameStem (build.binDirectory.join (root'.join b.path)) := by
  rw [Path.join_assoc _ hroot ha.isTight.isAbsolute, Path.join_assoc _ hroot' hb.isTight.isAbsolute,
    Path.sameStem_join_iff ha hb]
  unfold Artifact.Apart
  rw [← Bool.not_eq_true, Path.beq_iff, components_debugFile build hroot ha, components_debugFile build hroot' hb,
    not_iff_not]
  constructor
  · intro heq
    obtain ⟨hdir, hname⟩ := List.append_inj' heq rfl
    exact ⟨hdir, (Path.renamed_eq_iff "dwo").1 (List.cons.inj hname).1⟩
  · rintro ⟨hdir, hstem⟩
    rw [hdir, (Path.renamed_eq_iff "dwo").2 hstem]

/-- The name of every other file has an ending of its own. -/
theorem exists_ending (hb : b.path.IsNormal) (hobject : FileName.isObjectFile b.fileName = true) {s : String}
    (hs : s ∈ "" :: LtoRoots.indexSuffixes) :
    ∃ t ∈ FileName.objectEndings ++ LtoRoots.indexSuffixes, ∃ name : Path,
      b.path.lastPiece ++ s.toList = (name.append t).chars := by
  rcases List.mem_cons.1 hs with rfl | hs
  · have hname : b.fileName = b.path.lastPiece :=
      congrArg (Option.getD · []) (Path.fileName?_of_lastPiece hb.step?_lastPiece)
    obtain ⟨first, -, t, ht, heq⟩ := FileName.isObjectFile_iff.1 hobject
    exact ⟨t, List.mem_append_left _ ht, ⟨first⟩, by rw [← hname, heq]; exact List.append_nil _⟩
  · exact ⟨s, List.mem_append_right _ hs, ⟨b.path.lastPiece⟩, rfl⟩

include hroot hroot' in
/-- A debug file is none of the other files of a backend, because these have other endings. -/
theorem debugFile_apart_file (ha : a.path.IsNormal) (hb : b.path.IsNormal)
    (hobject : FileName.isObjectFile b.fileName = true) {s : String} (hs : s ∈ "" :: LtoRoots.indexSuffixes) :
    (debugFile build root a).Apart (file build root' b s) := by
  have hsuffix : ∀ s ∈ "" :: LtoRoots.indexSuffixes, '/' ∉ s.toList ∧ s.toList ≠ ['.'] := by decide
  obtain ⟨hslash, hdot⟩ := hsuffix s hs
  obtain ⟨t, ht, name, hname⟩ := exists_ending hb hobject hs
  have hnormal := (hb.append hslash).1
  unfold Artifact.Apart
  rw [← Bool.not_eq_true, Path.beq_iff, components_debugFile build hroot ha,
    components_file build hroot' (Or.inr hb.isTight) hslash hdot]
  intro heq
  have hlast := congrArg List.getLast? heq
  rw [List.getLast?_concat, List.getLast?_append_of_ne_nil _ hnormal.isTight.components_ne_nil,
    hnormal.getLast?_components, Path.lastPiece_append hslash, hname, Option.some_inj] at hlast
  unfold Path.renamed at hlast
  split at hlast
  · cases hlast
  · have htext : Path.append ⟨Path.stem a.path.lastPiece⟩ ".dwo" = name.append t :=
      congrArg Path.mk (Path.Component.name.inj hlast)
    have hdwo := (Path.append_injective LtoRoots.suffixFree_endings List.mem_cons_self (List.mem_cons_of_mem _ ht)
      htext).1
    exact absurd (hdwo ▸ ht) (by decide)

/-! ### Backends of one build -/

/-- Where the bitcode of the backend would lie among its index and debug files. -/
def place (bin : Path) (b : Backend) : Path := bin.join (b.roots.outputRoot.join b.bitcodeFile.path)

/-- The backend is made in this build, under directories that have names. -/
def MadeIn (build : Build) (b : Backend) : Prop :=
  ∃ roots allowed usePic bitcode copts, roots.Named ∧ b = create build roots allowed usePic bitcode copts

theorem exists_file_of_mem_outputs {build : Build} {roots : LtoRoots} {allowed : Option BitcodeFiles} {usePic : Bool}
    {bitcode : Artifact} {copts : List String} {g : Artifact}
    (hg : g ∈ (create build roots allowed usePic bitcode copts).outputs) :
    ∃ root ∈ roots.directories, ∃ s ∈ "" :: LtoRoots.indexSuffixes, g = file build root bitcode s := by
  cases allowed with
  | none => exact ⟨_, List.mem_cons_of_mem _ List.mem_cons_self, _, List.mem_cons_self, List.mem_singleton.1 hg⟩
  | some files =>
      rw [outputs_create] at hg
      obtain ⟨⟨root, s⟩, hplace, rfl⟩ := List.mem_map.1 hg
      rcases List.mem_cons.1 hplace with heq | hindex
      · cases heq
        exact ⟨_, List.mem_cons_of_mem _ List.mem_cons_self, _, List.mem_cons_self, rfl⟩
      · obtain ⟨t, ht, heq⟩ := List.mem_map.1 hindex
        cases heq
        exact ⟨_, List.mem_cons_self, _, List.mem_cons_of_mem _ ht, rfl⟩

theorem MadeIn.dwoFile_eq {build : Build} {b : Backend} (hb : b.MadeIn build) (hdebug : writesDebugFile build = true) :
    b.dwoFile = some (debugFile build b.roots.outputRoot b.bitcodeFile) := by
  obtain ⟨roots, allowed, usePic, bitcode, copts, -, rfl⟩ := hb
  exact dwoFile_create build hdebug roots allowed usePic bitcode copts

theorem MadeIn.outputRoot_ne_nil {build : Build} {b : Backend} (hb : b.MadeIn build) :
    b.roots.outputRoot.chars ≠ [] := by
  obtain ⟨roots, allowed, usePic, bitcode, copts, hnamed, rfl⟩ := hb
  exact hnamed.outputRoot

theorem MadeIn.exists_file {build : Build} {b : Backend} (hb : b.MadeIn build) {g : Artifact} (hg : g ∈ b.outputs) :
    ∃ root : Path, root.chars ≠ [] ∧ ∃ s ∈ "" :: LtoRoots.indexSuffixes, g = file build root b.bitcodeFile s := by
  obtain ⟨roots, allowed, usePic, bitcode, copts, hnamed, rfl⟩ := hb
  obtain ⟨root, hroot, s, hs, rfl⟩ := exists_file_of_mem_outputs hg
  rcases List.mem_pair.1 hroot with rfl | rfl
  · exact ⟨_, hnamed.outputRoot, s, hs, rfl⟩
  · exact ⟨_, hnamed.objectRoot, s, hs, rfl⟩

end Backend

/-- The shared backends of the link's libraries are as libraries make them in this build. -/
def Link.SharedBackendsMadeIn (build : Build) (link : Link) : Prop :=
  ∀ l ∈ link.libraries.toList, ∀ m, l.sharedBackends = some m → m.MadeIn build

theorem Link.SharedBackendsMadeIn.made {build : Build} {link : Link} (h : link.SharedBackendsMadeIn build) :
    link.SharedBackendsMade := fun l hl m hm => (h l hl m hm).made

namespace BackendPlan

variable {env : Env} {p : BackendPlan}

/-- The bitcode of the backends is told apart by paths in normal form and named as objects are. -/
structure TellsObjects (p : BackendPlan) : Prop where
  normal : ∀ b ∈ p.backends.toList, b.bitcodeFile.path.IsNormal
  named : ∀ b ∈ p.backends.toList, FileName.isObjectFile b.bitcodeFile.fileName = true
  apart : ∀ b ∈ p.backends.toList, ∀ c ∈ p.backends.toList, (b.bitcodeFile.path == c.bitcodeFile.path) = true →
    (b.bitcodeFile == c.bitcodeFile) = true

instance (p : BackendPlan) : Decidable p.TellsObjects :=
  decidable_of_iff ((∀ b ∈ p.backends.toList, b.bitcodeFile.path.IsNormal) ∧
      (∀ b ∈ p.backends.toList, FileName.isObjectFile b.bitcodeFile.fileName = true) ∧
      ∀ b ∈ p.backends.toList, ∀ c ∈ p.backends.toList, (b.bitcodeFile.path == c.bitcodeFile.path) = true →
        (b.bitcodeFile == c.bitcodeFile) = true)
    ⟨fun h => ⟨h.1, h.2.1, h.2.2⟩, fun h => ⟨h.normal, h.named, h.apart⟩⟩

theorem Planned.madeIn (hp : p.Planned env p.link) (hmade : p.link.SharedBackendsMadeIn env.toBuild) {b : Backend}
    (hb : b ∈ p.backends.toList) : b.MadeIn env.toBuild := by
  have hnamed := hp.named_roots
  cases hp.origin hb with
  | newMember hmem hinclude => exact ⟨_, _, _, _, _, hnamed, rfl⟩
  | sharedMember hmem hinclude hshared =>
      obtain ⟨backends, hbackends, hget⟩ := LibraryInput.requireSharedBackend_eq_ok hshared
      obtain ⟨e, he, -, rfl⟩ := OrderedMap.mem_of_get?_eq_some hget
      obtain ⟨usePic, bitcode, copts, -, heq⟩ := hmade _ (Link.mem_bitcodeMembers.1 hmem).1 backends hbackends e he
      exact ⟨_, _, _, _, _, LtoRoots.named_shared env.features, heq⟩
  | own hobject hbitcode => exact ⟨_, _, _, _, _, hnamed, rfl⟩

/-- Unless only the link's own bitcode is indexed, all backends put their index and debug files under one directory. -/
theorem Planned.one_outputRoot (hp : p.Planned env p.link) (hmade : p.link.SharedBackendsMade)
    (hone : p.decision.includeStatic = true ∨ p.decision.allowIndexing = false) {b : Backend}
    (hb : b ∈ p.backends.toList) : b.roots.outputRoot = p.roots.outputRoot := by
  have horigin := hp.origin hb
  cases hinclude : p.decision.includeStatic with
  | true => rw [horigin.roots_of_include hinclude]
  | false =>
      have hallow := hone.resolve_left (Bool.eq_false_iff.1 hinclude)
      rcases horigin.own_or_shared hmade hinclude with ⟨-, hroots, -⟩ | ⟨-, hroot, -⟩
      · rw [hroots]
      · rw [hroot, hp.outputRoot_of_not_allow hallow]

section Debug

variable (hp : p.Planned env p.link) (hmade : p.link.SharedBackendsMadeIn env.toBuild)
  (hdebug : Backend.writesDebugFile env.toBuild = true) (hobjects : p.TellsObjects)
include hp hmade hdebug hobjects

/-- No debug file is an object, an index or an imports file. -/
theorem Planned.debugFile_apart {b c : Backend} (hb : b ∈ p.backends.toList) (hc : c ∈ p.backends.toList) {f : Artifact}
    (hf : f ∈ b.dwoFile) {g : Artifact} (hg : g ∈ c.outputs) : f.Apart g := by
  have hbmade := hp.madeIn hmade hb
  obtain ⟨root, hroot, s, hs, rfl⟩ := (hp.madeIn hmade hc).exists_file hg
  rw [hbmade.dwoFile_eq hdebug, Option.mem_def, Option.some_inj] at hf
  subst hf
  exact Backend.debugFile_apart_file env.toBuild hbmade.outputRoot_ne_nil hroot (hobjects.normal b hb)
    (hobjects.normal c hc) (hobjects.named c hc) hs

/-- Debug files are different exactly if the places of the bitcode have different stems. -/
theorem Planned.debugFiles_pairwise_iff :
    (p.backends.toList.flatMap (·.dwoFile.toList)).Pairwise Artifact.Apart ↔
      p.backends.toList.Pairwise fun b c => ¬ (b.place env.binDirectory).SameStem (c.place env.binDirectory) := by
  rw [List.pairwise_flatMap]
  have hone : ∀ b ∈ p.backends.toList, b.dwoFile.toList.Pairwise Artifact.Apart := by
    intro b hb
    rw [(hp.madeIn hmade hb).dwoFile_eq hdebug]
    exact List.pairwise_singleton _ _
  refine (and_iff_right hone).trans (List.Pairwise.iff_of_mem fun {b c} hb hc => ?_)
  have hbmade := hp.madeIn hmade hb
  have hcmade := hp.madeIn hmade hc
  rw [hbmade.dwoFile_eq hdebug, hcmade.dwoFile_eq hdebug]
  simp only [Option.toList_some, List.mem_singleton, forall_eq]
  exact Backend.debugFile_apart_iff env.toBuild hbmade.outputRoot_ne_nil hcmade.outputRoot_ne_nil (hobjects.normal b hb)
    (hobjects.normal c hc)

/-- Under one directory, debug files are different exactly if no two bitcode files have one stem and different
endings. -/
theorem Planned.debugFiles_pairwise_iff_of_one_root
    (hone : p.decision.includeStatic = true ∨ p.decision.allowIndexing = false) :
    (p.backends.toList.flatMap (·.dwoFile.toList)).Pairwise Artifact.Apart ↔
      ¬ ∃ r : Path, ∃ b ∈ p.backends.toList, ∃ c ∈ p.backends.toList,
        b.bitcodeFile.path = r.append ".o" ∧ c.bitcodeFile.path = r.append ".obj" := by
  have hroot := fun b hb => hp.one_outputRoot hmade.made hone (b := b) hb
  have hlast : ∀ b ∈ p.backends.toList, FileName.isObjectFile b.bitcodeFile.path.lastPiece = true := by
    intro b hb
    have hname := hobjects.named b hb
    rwa [Artifact.fileName, Path.fileName?_of_lastPiece (hobjects.normal b hb).step?_lastPiece] at hname
  have hsame : ∀ b ∈ p.backends.toList, ∀ c ∈ p.backends.toList,
      (b.place env.binDirectory).SameStem (c.place env.binDirectory) ↔
        ∃ r : Path, ∃ s ∈ FileName.objectEndings, ∃ t ∈ FileName.objectEndings,
          b.bitcodeFile.path = r.append s ∧ c.bitcodeFile.path = r.append t := by
    intro b hb c hc
    have hbn := hobjects.normal b hb
    have hcn := hobjects.normal c hc
    have hne := (hp.madeIn hmade hb).outputRoot_ne_nil
    rw [hroot b hb] at hne
    unfold Backend.place
    rw [hroot b hb, hroot c hc, Path.join_assoc _ hne hbn.isTight.isAbsolute,
      Path.join_assoc _ hne hcn.isTight.isAbsolute, Path.sameStem_join_iff hbn hcn, List.append_cancel_left_eq,
      Path.sameStem_iff_exists_append hbn hcn (hlast b hb) (hlast c hc)]
  rw [hp.debugFiles_pairwise_iff hmade hdebug hobjects]
  constructor
  · rintro hpairwise ⟨r, b, hb, c, hc, hbpath, hcpath⟩
    have hsymm : Std.Symm fun b c : Backend => ¬ (b.place env.binDirectory).SameStem (c.place env.binDirectory) :=
      ⟨fun b c hbc hcb => hbc ⟨hcb.1.symm, hcb.2.symm⟩⟩
    have hne : b ≠ c := by
      rintro rfl
      exact absurd (Path.append_injective LtoRoots.suffixFree_endings (by decide) (by decide)
        (hbpath.symm.trans hcpath)).1 (by decide)
    exact hpairwise.forall hb hc hne ((hsame b hb c hc).2 ⟨r, ".o", by decide, ".obj", by decide, hbpath, hcpath⟩)
  · intro hnone
    refine p.backends.distinct.imp_of_mem fun {b c} hb hc hdistinct hstem => ?_
    obtain ⟨r, s, hs, t, ht, hbpath, hcpath⟩ := (hsame b hb c hc).1 hstem
    by_cases hst : s = t
    · -- two backends for one file under one directory
      have hpath : b.bitcodeFile.path = c.bitcodeFile.path := by rw [hbpath, hcpath, hst]
      have hbitcode := hobjects.apart b hb c hc (hpath ▸ BEq.rfl)
      rw [Backend.beq_iff.2 ⟨hbitcode, by rw [hroot b hb, hroot c hc]; exact BEq.rfl⟩] at hdistinct
      cases hdistinct
    · rcases List.mem_pair.1 hs with rfl | rfl <;> rcases List.mem_pair.1 ht with rfl | rfl
      · exact hst rfl
      · exact hnone ⟨r, b, hb, c, hc, hbpath, hcpath⟩
      · exact hnone ⟨r, c, hc, b, hb, hcpath, hbpath⟩
      · exact hst rfl

end Debug

end BackendPlan

/-- No debug file of a link is another file of its backends. The debug files are different exactly if no two bitcode
files lie at one place up to their extensions; where all backends write under one directory, this means that there is
no `r.o` beside an `r.obj`. -/
theorem Link.debug_files_apart_iff {env : Env} {link : Link} {p : BackendPlan} (hp : (link.planBackends env).Yields p)
    (hmade : link.SharedBackendsMadeIn env.toBuild) (hdebug : Backend.writesDebugFile env.toBuild = true)
    (hobjects : p.TellsObjects) :
    (∀ b ∈ p.backends.toList, ∃ f, b.dwoFile = some f ∧ ∀ c ∈ p.backends.toList, ∀ g ∈ c.outputs, f.Apart g) ∧
      ((p.backends.toList.flatMap (·.dwoFile.toList)).Pairwise Artifact.Apart ↔
        p.backends.toList.Pairwise fun b c => ¬ (b.place env.binDirectory).SameStem (c.place env.binDirectory)) ∧
      (p.decision.includeStatic = true ∨ p.decision.allowIndexing = false →
        ((p.backends.toList.flatMap (·.dwoFile.toList)).Pairwise Artifact.Apart ↔
          ¬ ∃ r : Path, ∃ b ∈ p.backends.toList, ∃ c ∈ p.backends.toList,
            b.bitcodeFile.path = r.append ".o" ∧ c.bitcodeFile.path = r.append ".obj")) := by
  have hplanned := backends_planned_of_yields hp
  have hlink := hplanned.link_eq
  subst hlink
  refine ⟨fun b hb => ?_, hplanned.debugFiles_pairwise_iff hmade hdebug hobjects,
    hplanned.debugFiles_pairwise_iff_of_one_root hmade hdebug hobjects⟩
  have hdwo := (hplanned.madeIn hmade hb).dwoFile_eq hdebug
  exact ⟨_, hdwo, fun c hc g hg => hplanned.debugFile_apart hmade hdebug hobjects hb hc hdwo hg⟩

namespace Sample

theorem sharedBackendsMadeIn_link (env : Env) (objects bitcode : List String) :
    (link env objects bitcode).SharedBackendsMadeIn env.toBuild := by
  intro l hl m hm
  cases List.mem_singleton.1 hl
  cases hm
  exact SharedBackends.madeIn_createShared _ _ _ _

/-- The plan of an executable with two objects of its own in which every backend has a debug file. -/
abbrev debugPlan (first second : String) : Planning BackendPlan :=
  (link fissionEnv [first, second] [first, second]).planBackends fissionEnv

theorem debug_files_of_sample_apart :
    ∃ p, (debugPlan "app/main.o" "app/aux.o").Yields p ∧ p.decision.includeStatic = true ∧ p.TellsObjects ∧
      (p.backends.toList.flatMap (·.dwoFile.toList)).length = 3 ∧
      (p.backends.toList.flatMap (·.dwoFile.toList)).Pairwise Artifact.Apart := by
  obtain ⟨p, hp, hinclude, hobjects, hlength, hnames⟩ := Planning.exists_yields_of_decide (debugPlan "app/main.o" "app/aux.o")
    (fun p => p.decision.includeStatic = true ∧ p.TellsObjects ∧
      (p.backends.toList.flatMap (·.dwoFile.toList)).length = 3 ∧
      ∀ b ∈ p.backends.toList, ¬ ".obj".toList <:+ b.bitcodeFile.path.chars) (by decide +kernel)
  have hapart := Link.debug_files_apart_iff hp (sharedBackendsMadeIn_link _ _ _) (by decide +kernel) hobjects
  refine ⟨p, hp, hinclude, hobjects, hlength, (hapart.2.2 (Or.inl hinclude)).2 ?_⟩
  rintro ⟨r, b, hb, c, hc, -, hpath⟩
  exact hnames c hc (hpath ▸ List.suffix_append r.chars ".obj".toList)

/-- The backends for `app/x.o` and `app/x.obj` both write `app/x.dwo`. -/
theorem object_names_share_debug_file :
    Backend.writesDebugFile fissionEnv.toBuild = true ∧ ∃ p, (debugPlan "app/x.o" "app/x.obj").Yields p ∧
      p.TellsObjects ∧ ¬ (p.backends.toList.flatMap (·.dwoFile.toList)).Pairwise Artifact.Apart ∧
      ∃ b ∈ p.backends.toList, ∃ c ∈ p.backends.toList, b.bitcodeFile.Apart c.bitcodeFile ∧
        b.dwoFile.map (·.text) = some "bin/app/app.lto/app/x.dwo" ∧
        c.dwoFile.map (·.text) = some "bin/app/app.lto/app/x.dwo" := by
  obtain ⟨p, hp, hcheck⟩ := Planning.exists_yields_of_decide (debugPlan "app/x.o" "app/x.obj")
    (fun p => p.TellsObjects ∧ ¬ (p.backends.toList.flatMap (·.dwoFile.toList)).Pairwise Artifact.Apart ∧
      ∃ b ∈ p.backends.toList, ∃ c ∈ p.backends.toList, b.bitcodeFile.Apart c.bitcodeFile ∧
        b.dwoFile.map (·.text) = some "bin/app/app.lto/app/x.dwo" ∧
        c.dwoFile.map (·.text) = some "bin/app/app.lto/app/x.dwo") (by decide +kernel)
  exact ⟨by decide +kernel, p, hp, hcheck⟩

end Sample
end LinkPlanner
