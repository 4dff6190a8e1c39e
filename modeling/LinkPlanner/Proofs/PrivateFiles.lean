import LinkPlanner.Proofs.LinkstampObjects
import LinkPlanner.Proofs.NormalPaths
import LinkPlanner.Proofs.UniqueBackends

/-! The files that a plan makes for one link alone. They go to places that are named after the output of the link, by
an ending or by a directory. No ending is the end of another one and none ends the name of the directory for shared
backends, so links with outputs at different paths, and shared backends, make different files of one bitcode file. The
places are named after the path of the output alone, so the root of the output tells no links apart. -/

namespace LinkPlanner

/-- The two are different files: they have different exec paths. -/
def Artifact.Apart (a b : Artifact) : Prop := (a.execPath == b.execPath) = false

instance (a b : Artifact) : Decidable (a.Apart b) := inferInstanceAs (Decidable ((a.execPath == b.execPath) = false))

theorem Artifact.Apart.symm {a b : Artifact} (hab : a.Apart b) : b.Apart a := by
  unfold Apart at *
  rwa [BEq.comm]

/-- Everything that a backend or the indexing step for it makes. -/
def Backend.files (b : Backend) : List Artifact := b.objectFile :: b.dwoFile.toList ++ b.sharing.indexingOutputs

/-- The backend is one that is shared by all links of a build with this bin directory. -/
def Backend.SharedUnder (bin : Path) (b : Backend) : Prop :=
  ∃ (build : Build) (usePic : Bool) (bitcode : Artifact) (copts : List String),
    build.binDirectory = bin ∧ b = .create build (.shared build.features) none usePic bitcode copts

theorem Backend.sharedUnder_of_mem_createShared {build : Build} {lto : LtoContext} {objects : List Artifact}
    {usePic : Bool} {b : Backend} (hb : b ∈ createShared build lto objects usePic) :
    b.SharedUnder build.binDirectory := by
  obtain ⟨o, -, rfl⟩ := List.mem_map.1 hb
  exact ⟨build, usePic, o, lto.copts o, rfl, rfl⟩

/-- The backends compile one bitcode file, and its path is in normal form. -/
structure Backend.SameBitcode (b c : Backend) : Prop where
  same : (b.bitcodeFile == c.bitcodeFile) = true
  normal : b.bitcodeFile.path.IsNormal
  normal' : c.bitcodeFile.path.IsNormal

namespace LinkPlan

/-- What the indexing step makes for the final link: the parameter file and the merged object. -/
def indexingFiles (plan : LinkPlan) : List Artifact :=
  plan.ltoIndexing.toList.flatMap fun action =>
    action.commandLine.linkVariables.thinltoIndexingParamFile.toList ++
      action.commandLine.linkVariables.thinltoMergedObjectFile.toList

/-- The files of the unique backends of the plan are not those of a shared backend for the same bitcode. -/
def ApartFromShared (bin : Path) (plan : LinkPlan) : Prop :=
  ∀ b ∈ plan.ltoBackends, b.isShared = false → ∀ s : Backend, s.SharedUnder bin → b.SameBitcode s →
    ∀ f ∈ b.files, ∀ g ∈ s.files, f.Apart g

/-- The unique backends of the two plans make different files of the same bitcode file. -/
def BackendsApart (p q : LinkPlan) : Prop :=
  ∀ b ∈ p.ltoBackends, b.isShared = false → ∀ c ∈ q.ltoBackends, c.isShared = false → b.SameBitcode c →
    ∀ f ∈ b.files, ∀ g ∈ c.files, f.Apart g

/-- What the two plans make for the same linkstamp source, and for their final links, are different files. -/
structure ApartFrom (p q : LinkPlan) : Prop where
  linkstamps : ∀ c ∈ p.linkstampCompiles, ∀ d ∈ q.linkstampCompiles, (c.source == d.source) = true →
    c.source.path.IsNormal → d.source.path.IsNormal → c.output.Apart d.output
  indexing : ∀ f ∈ p.indexingFiles, ∀ g ∈ q.indexingFiles, f.Apart g

end LinkPlan

/-! ### Files in different directories -/

namespace Path

/-- Files that lie equally deep under different directories are different files. -/
theorem join_join_apart {bin d e : Path} (hd : d.IsTight) (he : e.IsTight) {p q : Path} (hp : p.IsTight)
    (hq : q.IsTight) (hdepth : (pieces p.chars).length = (pieces q.chars).length) (hde : d ≠ e) :
    (bin.join (d.join p) == bin.join (e.join q)) = false := by
  rw [join_beq_join (hd.join hp).anchor_eq_none (he.join hq).anchor_eq_none, ← Bool.not_eq_true]
  intro hsame
  have htext := (hd.join hp).eq_of_beq (he.join hq) hsame
  have hpieces : pieces d.chars ++ pieces p.chars = pieces e.chars ++ pieces q.chars := by
    rw [← hd.pieces_join hp.isAbsolute, ← he.pieces_join hq.isAbsolute, htext]
  exact hde (pieces_injective (List.append_inj' hpieces hdepth).1)

theorem pieces_length_congr {p q : Path} (hp : p.IsNormal) (hq : q.IsNormal) (hpq : (p == q) = true) :
    (pieces p.chars).length = (pieces q.chars).length := by
  rw [hp.isTight.eq_of_beq hq.isTight hpq]

end Path

/-! ### Endings -/

namespace Link

/-- What is written after the path of an output, for directories and for files. -/
def endings : List String := [".lto", ".lto-obj", "-lto-final.params", ".lto.merged.o"]

theorem slash_not_mem_ending {s : String} (hs : s ∈ endings) : '/' ∉ s.toList := by
  have hall : ∀ s ∈ endings, '/' ∉ s.toList := by decide
  exact hall s hs

/-- No ending is the end of another one, so the output can be told from what is named after it. -/
theorem append_ending_injective {p q : Path} {s t : String} (hs : s ∈ endings) (ht : t ∈ endings)
    (hst : p.append s = q.append t) : p = q := by
  have hends : Path.SuffixFree endings := by decide
  exact (Path.append_injective hends hs ht hst).2

end Link

namespace LtoRoots

def directories (roots : LtoRoots) : List Path := [roots.outputRoot, roots.objectRoot]

/-- The directories are named after this output. -/
def NamedAfter (output : Path) (roots : LtoRoots) : Prop :=
  ∀ root ∈ roots.directories, ∃ s ∈ Link.endings, root = output.append s

variable {output output' root : Path} {roots roots' : LtoRoots} {features : Features}

/-- The directories of a link are named after its output. -/
theorem namedAfter_forIndexing (output : Artifact) (features : Features) :
    (forIndexing output features).NamedAfter output.path := by
  have hobject : (output.path.append ".lto").append "-obj" = output.path.append ".lto-obj" :=
    congrArg Path.mk (List.append_assoc _ _ _)
  intro root hroot
  unfold directories forIndexing under at hroot
  rcases List.mem_pair.1 hroot with rfl | rfl
  · exact ⟨".lto", by decide, rfl⟩
  · split
    · exact ⟨".lto-obj", by decide, hobject⟩
    · exact ⟨".lto", by decide, rfl⟩

theorem NamedAfter.isNormal (hroots : roots.NamedAfter output) (houtput : output.IsNormal)
    (hroot : root ∈ roots.directories) : root.IsNormal := by
  obtain ⟨s, hs, rfl⟩ := hroots root hroot
  exact (houtput.append (Link.slash_not_mem_ending hs)).1

/-- Different outputs have no directory in common. -/
theorem NamedAfter.apart (hroots : roots.NamedAfter output) (hroots' : roots'.NamedAfter output')
    (hne : output ≠ output') : ∀ d ∈ roots.directories, ∀ e ∈ roots'.directories, d ≠ e := by
  intro d hd e he hde
  obtain ⟨s, hs, rfl⟩ := hroots d hd
  obtain ⟨t, ht, rfl⟩ := hroots' e he
  exact hne (Link.append_ending_injective hs ht hde)

theorem mem_directories_shared (hroot : root ∈ (shared features).directories) :
    root = .ofString "shared.nonlto" ∨ root = .ofString "shared.nonlto-obj" := by
  unfold directories shared under at hroot
  rcases List.mem_pair.1 hroot with rfl | rfl
  · exact Or.inl rfl
  · split
    · exact Or.inr rfl
    · exact Or.inl rfl

theorem isNormal_of_mem_shared (hroot : root ∈ (shared features).directories) : root.IsNormal := by
  rcases mem_directories_shared hroot with rfl | rfl <;> decide +kernel

/-- No output has its directories where the shared backends go. -/
theorem NamedAfter.apart_shared (hroots : roots.NamedAfter output) (features : Features) :
    ∀ d ∈ roots.directories, ∀ e ∈ (shared features).directories, d ≠ e := by
  have hends : ∀ s ∈ Link.endings, ∀ name ∈ ["shared.nonlto", "shared.nonlto-obj"], ¬ s.toList <:+ name.toList := by
    decide
  rintro d hd e he rfl
  obtain ⟨s, hs, rfl⟩ := hroots d hd
  have hsuffix : s.toList <:+ (output.append s).chars := List.suffix_append output.chars s.toList
  rcases mem_directories_shared he with heq | heq <;> rw [heq] at hsuffix
  · exact hends s hs "shared.nonlto" (by decide) hsuffix
  · exact hends s hs "shared.nonlto-obj" (by decide) hsuffix

end LtoRoots

/-! ### Backends -/

namespace Backend

/-- The file lies in one of the directories, as deep as a file at this path lies in its own. -/
def LiesIn (bin : Path) (roots : LtoRoots) (path : Path) (f : Artifact) : Prop :=
  ∃ root ∈ roots.directories, ∃ name : Path, name.IsTight ∧
    (Path.pieces name.chars).length = (Path.pieces path.chars).length ∧ f.execPath = bin.join (root.join name)

theorem liesIn_file (build : Build) {roots : LtoRoots} {root : Path} (hroot : root ∈ roots.directories)
    {bitcode : Artifact} (hbitcode : bitcode.path.IsNormal) (suffix : String)
    (hsuffix : '/' ∉ suffix.toList) :
    LiesIn build.binDirectory roots bitcode.path (file build root bitcode suffix) := by
  obtain ⟨hnormal, hdepth⟩ := hbitcode.append hsuffix
  refine ⟨root, hroot, bitcode.path.append suffix, hnormal.isTight, hdepth, ?_⟩
  rw [Path.join_append root bitcode.path hsuffix]
  rfl

/-- All files of a backend lie in its directories. -/
theorem liesIn_of_mem_files {build : Build} {roots : LtoRoots} {allowed : Option BitcodeFiles} {usePic : Bool}
    {bitcode : Artifact} {copts : List String} (hroots : ∀ root ∈ roots.directories, root.IsNormal)
    (hbitcode : bitcode.path.IsNormal) {f : Artifact}
    (hf : f ∈ (create build roots allowed usePic bitcode copts).files) :
    LiesIn build.binDirectory roots bitcode.path f := by
  have houtputRoot : roots.outputRoot ∈ roots.directories := List.mem_cons_self
  have hobjectRoot : roots.objectRoot ∈ roots.directories := List.mem_cons_of_mem _ (List.mem_singleton_self _)
  have hindexFile := liesIn_file build houtputRoot hbitcode
  rcases List.mem_append.1 hf with hf | hf
  · rcases List.mem_cons.1 hf with rfl | hf
    · exact liesIn_file build hobjectRoot hbitcode "" (by decide)
    · -- the debug file has the extension of the bitcode file replaced
      obtain ⟨htight, hdepth⟩ := hbitcode.withExtension (show '/' ∉ "dwo".toList by decide)
      refine ⟨_, houtputRoot, bitcode.path.withExtension "dwo", htight, hdepth, ?_⟩
      change f ∈ (if _ then some (build.derived ((roots.outputRoot.join bitcode.path).withExtension "dwo"))
        else none).toList at hf
      rw [← hbitcode.withExtension_join (by decide) (hroots _ houtputRoot)]
      split at hf
      · cases List.mem_singleton.1 hf
        rfl
      · cases hf
  · cases allowed with
    | none => cases hf
    | some allowed =>
        rcases List.mem_pair.1 hf with rfl | rfl
        · exact hindexFile ".thinlto.bc" (by decide)
        · exact hindexFile ".imports" (by decide)

/-- Backends for one bitcode file make different files if they have no directory in common. -/
theorem files_apart {build build' : Build} (hbin : build.binDirectory = build'.binDirectory) {roots roots' : LtoRoots}
    (hroots : ∀ root ∈ roots.directories, root.IsNormal) (hroots' : ∀ root ∈ roots'.directories, root.IsNormal)
    (hne : ∀ d ∈ roots.directories, ∀ e ∈ roots'.directories, d ≠ e) {allowed allowed' : Option BitcodeFiles}
    {usePic usePic' : Bool} {bitcode bitcode' : Artifact} {copts copts' : List String}
    (hsame : (create build roots allowed usePic bitcode copts).SameBitcode
      (create build' roots' allowed' usePic' bitcode' copts')) {f g : Artifact}
    (hf : f ∈ (create build roots allowed usePic bitcode copts).files)
    (hg : g ∈ (create build' roots' allowed' usePic' bitcode' copts').files) : f.Apart g := by
  obtain ⟨hbitcode, hnormal, hnormal'⟩ := hsame
  rw [bitcodeFile_create] at hbitcode hnormal
  rw [bitcodeFile_create] at hbitcode hnormal'
  obtain ⟨d, hd, p, hp, hpdepth, hfpath⟩ := liesIn_of_mem_files hroots hnormal hf
  obtain ⟨e, he, q, hq, hqdepth, hgpath⟩ := liesIn_of_mem_files hroots' hnormal' hg
  have hdepth : (Path.pieces p.chars).length = (Path.pieces q.chars).length := by
    rw [hpdepth, hqdepth]
    exact Path.pieces_length_congr hnormal hnormal' (Artifact.beq_iff.1 hbitcode).2.1
  unfold Artifact.Apart
  rw [hfpath, hgpath, hbin]
  exact Path.join_join_apart (hroots d hd).isTight (hroots' e he).isTight hp hq hdepth (hne d hd e he)

end Backend

/-! ### Linkstamps -/

/-- The objects of linkstamps lie in a directory that tells the output. -/
theorem Linkstamp.exists_directory {output : Path} (houtput : output.IsNormal) :
    ∃ (before : List (List Char)) (name : List Char) (dir : Path),
      Path.pieces output.chars = before ++ [name] ∧ dir.IsNormal ∧
      Path.pieces dir.chars = before ++ [objectsDirectory.toList, name] ∧
      ∀ source, outputPath output source = dir.join (source.withExtension "o") := by
  obtain ⟨before, name, hpieces, hbefore, hname⟩ := houtput.exists_last
  have hslash : '/' ∉ name :=
    Path.not_mem_of_mem_pieces (hpieces ▸ List.mem_append_right _ (List.mem_singleton_self name))
  have hsingle : Path.pieces name = [name] := List.splitOn_eq_singleton hslash
  have hobjects : Path.pieces (output.directory.join (.ofString objectsDirectory)).chars =
      before ++ [objectsDirectory.toList] := houtput.pieces_directory_join hpieces rfl
  have hnormal : (output.directory.join (.ofString objectsDirectory)).IsNormal := by
    intro piece hpiece
    rw [hobjects, List.mem_append, List.mem_singleton] at hpiece
    rcases hpiece with hpiece | rfl
    · exact hbefore piece hpiece
    · decide
  have hnameNormal : Path.IsNormal ⟨name⟩ := by
    intro piece hpiece
    rw [hsingle, List.mem_singleton] at hpiece
    rw [hpiece]
    exact hname
  refine ⟨before, name, _, hpieces, hnormal.join hnameNormal, ?_, fun source => ?_⟩
  · rw [hnormal.isTight.pieces_join hnameNormal.isTight.isAbsolute, hobjects, hsingle, List.append_assoc]
    rfl
  · unfold outputPath
    rw [houtput.fileName?_eq hpieces]
    rfl

/-- Links with different outputs have different objects of one source. -/
theorem Linkstamp.outputPath_apart {output output' source source' : Path} (houtput : output.IsNormal)
    (houtput' : output'.IsNormal) (hne : output ≠ output') (hsource : source.IsNormal) (hsource' : source'.IsNormal)
    (hsame : (source == source') = true) (bin : Path) :
    (bin.join (outputPath output source) == bin.join (outputPath output' source')) = false := by
  obtain ⟨before, name, dir, hpieces, hdir, hdirPieces, hpath⟩ := exists_directory houtput
  obtain ⟨before', name', dir', hpieces', hdir', hdirPieces', hpath'⟩ := exists_directory houtput'
  have hslash : '/' ∉ "o".toList := by decide
  rw [hpath, hpath', hsource.isTight.eq_of_beq hsource'.isTight hsame]
  refine Path.join_join_apart hdir.isTight hdir'.isTight (hsource'.withExtension hslash).1
    (hsource'.withExtension hslash).1 rfl ?_
  rintro rfl
  rw [hdirPieces] at hdirPieces'
  obtain ⟨hbefore, hnames⟩ := List.append_inj' hdirPieces' rfl
  refine hne (Path.pieces_injective ?_)
  rw [hpieces, hpieces', hbefore, (List.cons.inj (List.cons.inj hnames).2).1]

/-! ### Plans -/

namespace Link

section OneLink

variable {env : Env} {link : Link} {plan : LinkPlan} (hplan : link.Yields env plan)
include hplan

/-- The unique backends that a plan makes have directories named after the output of the link. -/
theorem exists_roots_of_unique (hshared : link.BorrowsShared env) {b : Backend} (hb : b ∈ plan.ltoBackends)
    (hunique : b.isShared = false) :
    ∃ roots allowed usePic bitcode copts, b = .create env.toBuild roots allowed usePic bitcode copts ∧
      roots.NamedAfter link.output.path := by
  obtain ⟨allowed, bitcode, copts, rfl⟩ := exists_create_of_unique hplan hshared hb hunique
  exact ⟨_, _, _, _, _, rfl, LtoRoots.namedAfter_forIndexing link.output env.features⟩

/-- The indexing step makes files that are named after the output of the link. -/
theorem exists_ending_of_mem_indexingFiles {f : Artifact} (hf : f ∈ plan.indexingFiles) :
    ∃ s ∈ endings, f = env.toBuild.derived (link.output.path.append s) := by
  obtain ⟨action, haction, hf⟩ := List.mem_flatMap.1 hf
  obtain ⟨p, outputs, rfl, -, -, houtputs, rfl⟩ := assembled_of_mem_ltoIndexing hplan (Option.mem_toList.1 haction)
  obtain ⟨actionName, libraries, c, -, -, heq, -⟩ := BackendPlan.indexing_of_yields houtputs
  rw [heq] at hf
  rcases List.mem_append.1 hf with hf | hf
  · exact ⟨"-lto-final.params", by decide, List.mem_singleton.1 hf⟩
  · exact ⟨".lto.merged.o", by decide, List.mem_singleton.1 hf⟩

theorem output_of_mem_linkstampCompiles {c : LinkstampCompile} (hc : c ∈ plan.linkstampCompiles) :
    c.output = env.toBuild.derived (Linkstamp.outputPath link.output.path c.source.path) := by
  obtain ⟨l, -, hsource, houtput⟩ := ((plan_stamps hplan).2 c hc).exists_first
  rw [hsource]
  exact houtput

end OneLink

/-- The unique backends that a link makes write no file that a shared backend writes. -/
theorem apartFromShared_of_yields {env : Env} {link : Link} {plan : LinkPlan} (hplan : link.Yields env plan)
    (hshared : link.BorrowsShared env) (hnormal : link.output.path.IsNormal) :
    plan.ApartFromShared env.binDirectory := by
  rintro b hb hunique s ⟨build, usePic', bitcode', copts', hbin, rfl⟩ hsame f hf g hg
  obtain ⟨roots, allowed, usePic, bitcode, copts, rfl, hroots⟩ := exists_roots_of_unique hplan hshared hb hunique
  exact Backend.files_apart hbin.symm (fun _ => hroots.isNormal hnormal)
    (fun _ => LtoRoots.isNormal_of_mem_shared) (hroots.apart_shared build.features) hsame hf hg

section TwoLinks

variable {env env' : Env} {l k : Link} {plan plan' : LinkPlan} (hplan : l.Yields env plan)
  (hplan' : k.Yields env' plan') (hbin : env'.binDirectory = env.binDirectory) (hl : l.output.path.IsNormal)
  (hk : k.output.path.IsNormal) (hne : l.output.path ≠ k.output.path)
include hplan hplan' hbin hl hk hne

theorem backendsApart_of_yields (hshared : l.BorrowsShared env) (hshared' : k.BorrowsShared env') :
    plan.BackendsApart plan' := by
  intro b hb hunique c hc hunique' hsame f hf g hg
  obtain ⟨roots, allowed, usePic, bitcode, copts, rfl, hroots⟩ := exists_roots_of_unique hplan hshared hb hunique
  obtain ⟨roots', allowed', usePic', bitcode', copts', rfl, hroots'⟩ :=
    exists_roots_of_unique hplan' hshared' hc hunique'
  exact Backend.files_apart hbin.symm (fun _ => hroots.isNormal hl) (fun _ => hroots'.isNormal hk)
    (hroots.apart hroots' hne) hsame hf hg

theorem apartFrom_of_yields : plan.ApartFrom plan' where
  linkstamps := by
    intro c hc d hd hsame hsource hsource'
    rw [output_of_mem_linkstampCompiles hplan hc, output_of_mem_linkstampCompiles hplan' hd]
    unfold Artifact.Apart Build.derived
    rw [hbin]
    exact Linkstamp.outputPath_apart hl hk hne hsource hsource' (Artifact.beq_iff.1 hsame).2.1 _
  indexing := by
    intro f hf g hg
    obtain ⟨s, hs, rfl⟩ := exists_ending_of_mem_indexingFiles hplan hf
    obtain ⟨t, ht, rfl⟩ := exists_ending_of_mem_indexingFiles hplan' hg
    have hnormal := (hl.append (slash_not_mem_ending hs)).1
    have hnormal' := (hk.append (slash_not_mem_ending ht)).1
    show (env.binDirectory.join (l.output.path.append s) == env'.binDirectory.join (k.output.path.append t)) = false
    rw [hbin, Path.join_beq_join hnormal.isTight.anchor_eq_none hnormal'.isTight.anchor_eq_none, ← Bool.not_eq_true]
    intro hsame
    exact hne (append_ending_injective hs ht (hnormal.isTight.eq_of_beq hnormal'.isTight hsame))

end TwoLinks

/-- Links of one bin directory with outputs at different paths make different files for the same linkstamp source and
for their final links, and for the same bitcode file too, where shared backends have files of their own, unless they
have taken over the unique backend of another link. -/
theorem private_files_apart {env env' : Env} {l k : Link} {plan plan' : LinkPlan} (hplan : l.Yields env plan)
    (hplan' : k.Yields env' plan') (hbin : env'.binDirectory = env.binDirectory) (hl : l.output.path.IsNormal)
    (hk : k.output.path.IsNormal) (hne : l.output.path ≠ k.output.path) :
    plan.ApartFrom plan' ∧
      (l.BorrowsShared env → plan.ApartFromShared env.binDirectory) ∧
      (k.BorrowsShared env' → plan'.ApartFromShared env.binDirectory) ∧
      (l.BorrowsShared env → k.BorrowsShared env' → plan.BackendsApart plan') := by
  refine ⟨apartFrom_of_yields hplan hplan' hbin hl hk hne, fun hshared => ?_, fun hshared' => ?_, ?_⟩
  · exact apartFromShared_of_yields hplan hshared hl
  · rw [← hbin]
    exact apartFromShared_of_yields hplan' hshared' hk
  · exact backendsApart_of_yields hplan hplan' hbin hl hk hne

end Link

namespace Sample

/-- An environment in which backends have debug files, and native objects a directory of their own. -/
def fissionEnv : Env :=
  { env [.perObjectDebugInfo, .useLtoNativeObjectDirectory] with options := { fission := true } }

/-- An indexed executable with a linkstamp, which is linked into this file. -/
def fissionLink (output : Artifact) : Link :=
  { link fissionEnv ["app/main.o"] ["app/main.o"] with
    output
    linkstamps := .ofList [{ source := .source (.ofString "stamp/version.cc") }] }

/-- The plan makes private files of every kind: it has a linkstamp compile, an indexing step, and a unique backend for
`app/main.o` with all its files. -/
def MakesEachKind (plan : LinkPlan) : Prop :=
  plan.linkstampCompiles.length = 1 ∧ plan.indexingFiles.length = 2 ∧
    ∃ b ∈ plan.ltoBackends, b.isShared = false ∧ b.files.length = 4 ∧ b.bitcodeFile.text = "bin/app/main.o"

instance (plan : LinkPlan) : Decidable (MakesEachKind plan) :=
  inferInstanceAs (Decidable (plan.linkstampCompiles.length = 1 ∧ plan.indexingFiles.length = 2 ∧
    ∃ b ∈ plan.ltoBackends, b.isShared = false ∧ b.files.length = 4 ∧ b.bitcodeFile.text = "bin/app/main.o"))

theorem borrowsShared_fissionLink (output : Artifact) : (fissionLink output).BorrowsShared fissionEnv :=
  Link.SharedBackendsMade.borrowsShared (sharedBackendsMade_link fissionEnv ["app/main.o"] ["app/main.o"]) _

/-- Two executables that are made from the same files share none of what they make on the way, with each other or with
the shared backend of their bitcode. -/
theorem two_executables_apart :
    ∃ plan plan', (fissionLink (file "app/app")).Yields fissionEnv plan ∧
      (fissionLink (file "app/tool")).Yields fissionEnv plan' ∧ MakesEachKind plan ∧ MakesEachKind plan' ∧
      (∃ s : Backend, s.SharedUnder fissionEnv.binDirectory ∧ s.bitcodeFile.text = "bin/app/main.o") ∧
      plan.ApartFrom plan' ∧ plan.ApartFromShared fissionEnv.binDirectory ∧
      plan'.ApartFromShared fissionEnv.binDirectory ∧ plan.BackendsApart plan' := by
  obtain ⟨plan, hplan, hkinds⟩ := Planning.exists_yields_of_decide
    ((fissionLink (file "app/app")).planWithLto fissionEnv) MakesEachKind
    (by decide +kernel)
  obtain ⟨plan', hplan', hkinds'⟩ := Planning.exists_yields_of_decide
    ((fissionLink (file "app/tool")).planWithLto fissionEnv) MakesEachKind
    (by decide +kernel)
  obtain ⟨s, hs, htext⟩ : ∃ s ∈ Backend.createShared fissionEnv.toBuild (context ["app/main.o"]) [file "app/main.o"]
      false, s.bitcodeFile.text = "bin/app/main.o" := by decide +kernel
  have hshared := borrowsShared_fissionLink (file "app/app")
  have hshared' := borrowsShared_fissionLink (file "app/tool")
  have hne : (fissionLink (file "app/app")).output.path ≠ (fissionLink (file "app/tool")).output.path := fun heq =>
    absurd (congrArg Path.chars heq) (by decide)
  obtain ⟨hapart, hplain, hplain', hbackends⟩ := Link.private_files_apart (Or.inr hplan) (Or.inr hplan') rfl
    (by decide +kernel) (by decide +kernel) hne
  exact ⟨plan, plan', Or.inr hplan, Or.inr hplan', hkinds, hkinds',
    ⟨s, Backend.sharedUnder_of_mem_createShared hs, htext⟩, hapart, hplain hshared, hplain' hshared',
    hbackends hshared hshared'⟩

/-- What a plan makes for its link alone. -/
def privateFiles (plan : LinkPlan) : List String :=
  (((plan.ltoBackends.filter (!·.isShared)).flatMap (·.files)) ++ plan.linkstampCompiles.map (·.output) ++
    plan.indexingFiles).map (·.text)

/-- The private files of a link into `app/app`. -/
def appFiles : List String :=
  ["bin/app/app.lto-obj/dep/dep.o", "bin/app/app.lto/dep/dep.dwo", "bin/app/app.lto/dep/dep.o.thinlto.bc",
    "bin/app/app.lto/dep/dep.o.imports", "bin/app/app.lto-obj/app/main.o", "bin/app/app.lto/app/main.dwo",
    "bin/app/app.lto/app/main.o.thinlto.bc", "bin/app/app.lto/app/main.o.imports",
    "bin/app/_objs/app/stamp/version.o", "bin/app/app-lto-final.params", "bin/app/app.lto.merged.o"]

/-- The files of the unique backend that a link into `app/other` has for `dep/dep.o`. -/
def otherFiles : List String :=
  ["bin/app/other.lto/dep/dep.o", "bin/app/other.lto/dep/dep.o.thinlto.bc", "bin/app/other.lto/dep/dep.o.imports"]

/-- The private files of a link do not tell the root of its output. -/
theorem exists_plan_under_root {root : String} (hroot : root ∈ ["bin", "gen"]) :
    ∃ plan, (fissionLink (.derived (.ofString root) (.ofString "app/app"))).Yields fissionEnv plan ∧
      MakesEachKind plan ∧ privateFiles plan = appFiles := by
  obtain ⟨plan, hplan, hmade⟩ := Planning.exists_yields_of_decide
    ((fissionLink (.derived (.ofString root) (.ofString "app/app"))).planWithLto fissionEnv)
    (fun plan => MakesEachKind plan ∧ privateFiles plan = appFiles)
    (by rcases List.mem_pair.1 hroot with rfl | rfl <;> decide +kernel)
  exact ⟨plan, Or.inr hplan, hmade⟩

/-- The private files of a link do not tell its output if it takes over the unique backend of another link. -/
theorem exists_plan_taking_over {path : String} (hpath : path ∈ ["app/app", "app/tool"]) :
    ∃ plan, ({ linkFiling (uniqueFor "app/other") [] [] with output := file path }).Yields sharedEnv plan ∧
      privateFiles plan = otherFiles := by
  obtain ⟨plan, hplan, hmade⟩ := Planning.exists_yields_of_decide
    (({ linkFiling (uniqueFor "app/other") [] [] with output := file path }).planWithLto sharedEnv)
    (fun plan => privateFiles plan = otherFiles)
    (by rcases List.mem_pair.1 hpath with rfl | rfl <;> decide +kernel)
  exact ⟨plan, Or.inr hplan, hmade⟩

/-- Outputs at one path under two roots are different files, and yet their links make the same files on the way. So do
links with outputs at two paths that take over the same unique backend from a library. -/
theorem private_files_coincide :
    (∃ plan plan', (fissionLink (file "app/app")).Yields fissionEnv plan ∧
      (fissionLink (.derived (.ofString "gen") (.ofString "app/app"))).Yields fissionEnv plan' ∧
      (file "app/app").Apart (.derived (.ofString "gen") (.ofString "app/app")) ∧
      (Path.ofString "app/app").IsNormal ∧ MakesEachKind plan ∧ privateFiles plan = privateFiles plan') ∧
    ∃ plan plan', (linkFiling (uniqueFor "app/other") [] []).Yields sharedEnv plan ∧
      ({ linkFiling (uniqueFor "app/other") [] [] with output := file "app/tool" }).Yields sharedEnv plan' ∧
      (linkFiling (uniqueFor "app/other") [] []).output = file "app/app" ∧ (Path.ofString "app/tool").IsNormal ∧
      privateFiles plan =
        ["bin/app/other.lto/dep/dep.o", "bin/app/other.lto/dep/dep.o.thinlto.bc",
          "bin/app/other.lto/dep/dep.o.imports"] ∧ privateFiles plan' = privateFiles plan := by
  constructor
  · obtain ⟨plan, hplan, hkinds, hfiles⟩ := exists_plan_under_root (by decide : "bin" ∈ ["bin", "gen"])
    obtain ⟨plan', hplan', -, hfiles'⟩ := exists_plan_under_root (by decide : "gen" ∈ ["bin", "gen"])
    exact ⟨plan, plan', hplan, hplan', by decide +kernel, by decide +kernel, hkinds, hfiles.trans hfiles'.symm⟩
  · obtain ⟨plan, hplan, hfiles⟩ := exists_plan_taking_over (by decide : "app/app" ∈ ["app/app", "app/tool"])
    obtain ⟨plan', hplan', hfiles'⟩ := exists_plan_taking_over (by decide : "app/tool" ∈ ["app/app", "app/tool"])
    exact ⟨plan, plan', hplan, hplan', rfl, by decide +kernel, hfiles, hfiles'.trans hfiles.symm⟩

end Sample
end LinkPlanner
