import Mathlib.Data.List.Nodup
import LinkPlanner.Proofs.Spelling
import LinkPlanner.Proofs.Verdicts

/-! The files of the unique backends of a link. Objects, index and imports files are told apart by what is written after
the path of their bitcode, so an object must not be named like the others, unless objects have a directory of their own.
Files of one kind are told apart as their bitcode is. -/

namespace LinkPlanner

/-- The file name of a clean path is the end of its text. -/
theorem Path.IsClean.fileName_suffix {p : Path} (hp : p.IsClean) {name : List Char} (hname : p.fileName? = some name) :
    name <:+ p.chars := by
  rcases hp with hp | hp
  · rw [show p = .empty from congrArg Path.mk hp] at hname
    cases hname
  · obtain ⟨before, hdrop, -⟩ := dropWhile_isSilent_of_fileName? hname
    rw [anchor_eq_of_none hp.anchor_eq_none, dropWhile_isSilent_eq_self fun piece hpiece =>
      hp piece (List.mem_reverse.1 hpiece), List.reverse_eq_cons_iff] at hdrop
    have hlast : p.lastPiece = name := by
      unfold lastPiece
      simp only [hdrop, List.getLast_concat]
    exact hlast ▸ p.lastPiece_suffix

/-- What lies in a directory under another one. -/
theorem Path.components_join_join (p : Path) {q r : Path} (hq : q.chars ≠ []) (hr : r.anchor.1 = none) :
    (p.join (q.join r)).components = (p.join q).components ++ r.components := by
  rw [join_assoc p hq (isAbsolute_of_anchor_none hr), components_join _ hr, components_separator]

/-- The endings of object files. -/
def FileName.objectEndings : List String := [".o", ".obj"]

/-- An object file has a name before its ending. -/
theorem FileName.isObjectFile_iff {name : List Char} :
    isObjectFile name = true ↔ ∃ first ≠ [], ∃ s ∈ objectEndings, name = first ++ s.toList := by
  unfold isObjectFile hasEnding
  rw [List.any_eq_true]
  simp only [Bool.and_eq_true, decide_eq_true_eq, List.isSuffixOf_iff_suffix]
  constructor
  · rintro ⟨s, hs, hlen, first, rfl⟩
    refine ⟨first, fun hfirst => ?_, s, hs, rfl⟩
    rw [hfirst, List.nil_append] at hlen
    exact absurd hlen (Nat.lt_irrefl _)
  · rintro ⟨first, hfirst, s, hs, rfl⟩
    refine ⟨s, hs, ?_, List.suffix_append first s.toList⟩
    rw [List.length_append]
    exact Nat.lt_add_of_pos_left (List.length_pos_of_ne_nil hfirst)

/-- The path of an object file is one with the ending of an object file written after it. -/
theorem Artifact.exists_append_of_isObjectFile {a : Artifact} (hclean : a.path.IsClean)
    (ha : FileName.isObjectFile a.fileName = true) : ∃ p : Path, ∃ s ∈ FileName.objectEndings, a.path = p.append s := by
  obtain ⟨first, hfirst, s, hs, hname⟩ := FileName.isObjectFile_iff.1 ha
  unfold fileName at hname
  cases hfile : a.path.fileName? with
  | none =>
      rw [hfile, Option.getD_none] at hname
      exact absurd (List.append_eq_nil_iff.1 hname.symm).1 hfirst
  | some name =>
      rw [hfile, Option.getD_some] at hname
      obtain ⟨dir, hdir⟩ := hclean.fileName_suffix hfile
      refine ⟨⟨dir ++ first⟩, s, hs, congrArg Path.mk ?_⟩
      rw [← hdir, hname, List.append_assoc]

namespace LtoRoots

/-- What is written after the path of the bitcode for what the indexing step writes. -/
def indexSuffixes : List String := [".thinlto.bc", ".imports"]

/-- The endings that files of backends have. -/
def endings : List String := ".dwo" :: (FileName.objectEndings ++ indexSuffixes)

theorem suffixFree_endings : Path.SuffixFree endings := by decide

theorem mem_endings_of_object {s : String} (hs : s ∈ FileName.objectEndings) : s ∈ endings :=
  List.mem_cons_of_mem _ (List.mem_append_left _ hs)

theorem mem_endings_of_index {s : String} (hs : s ∈ indexSuffixes) : s ∈ endings :=
  List.mem_cons_of_mem _ (List.mem_append_right _ hs)

/-- Where the object of a unique backend goes and where its index and imports files go, with what is written after the
path of the bitcode for each of them. -/
def places (roots : LtoRoots) : List (Path × String) :=
  (roots.objectRoot, "") :: indexSuffixes.map (roots.outputRoot, ·)

end LtoRoots

namespace Backend

variable (build : Build) {root root' : Path} {a b : Artifact} {s t : String}

/-- What a link makes to compile its bitcode: the object of a backend, with its index and imports files. -/
def outputs (b : Backend) : List Artifact := b.objectFile :: b.sharing.indexingOutputs

theorem outputs_create (roots : LtoRoots) (files : BitcodeFiles) (usePic : Bool) (bitcode : Artifact)
    (copts : List String) :
    (create build roots (some files) usePic bitcode copts).outputs =
      roots.places.map fun place => file build place.1 bitcode place.2 := rfl

/-- A file of a backend lies under a directory, at what is written after the path of the bitcode. -/
theorem components_file (hroot : root.chars ≠ []) (ha : a.path.IsClean) (hs : '/' ∉ s.toList)
    (hdot : s.toList ≠ ['.']) :
    (file build root a s).execPath.components =
      (build.binDirectory.join root).components ++ (a.path.append s).components := by
  change (build.binDirectory.join ((root.join a.path).append s)).components = _
  rw [← Path.join_append root a.path hs, Path.components_join_join _ hroot (ha.append hs hdot).anchor_eq_none]

/-- In one directory, files are told apart by what is written after the paths of their bitcode. -/
theorem append_eq_of_file_beq (hroot : root.chars ≠ []) (ha : a.path.IsClean) (hb : b.path.IsClean)
    (hs : '/' ∉ s.toList ∧ s.toList ≠ ['.']) (ht : '/' ∉ t.toList ∧ t.toList ≠ ['.'])
    (hsame : ((file build root a s).execPath == (file build root b t).execPath) = true) :
    a.path.append s = b.path.append t := by
  rw [Path.beq_iff, components_file build hroot ha hs.1 hs.2, components_file build hroot hb ht.1 ht.2,
    List.append_cancel_left_eq] at hsame
  exact (ha.append hs.1 hs.2).eq_of_beq (hb.append ht.1 ht.2) (Path.beq_iff.2 hsame)

section Indexed

variable (output : Artifact) {features : Features}

/-- Where native objects have a directory of their own, nothing in it is in the directory of the index files. -/
theorem file_apart_of_native (hnative : features.isEnabled .useLtoNativeObjectDirectory = true) (ha : a.path.IsClean)
    (hb : b.path.IsClean) (hs : '/' ∉ s.toList ∧ s.toList ≠ ['.']) (ht : '/' ∉ t.toList ∧ t.toList ≠ ['.']) :
    (file build (LtoRoots.forIndexing output features).outputRoot a s).Apart
      (file build (LtoRoots.forIndexing output features).objectRoot b t) := by
  have hoff : (LtoRoots.forIndexing output features).objectRoot = output.path.append ".lto-obj" := by
    change (if _ then (output.path.append ".lto").append "-obj" else _) = _
    rw [if_pos hnative]
    exact congrArg Path.mk (List.append_assoc _ _ _)
  have hnamed := LtoRoots.named_forIndexing output features
  obtain ⟨before, last, hroot⟩ := (build.binDirectory.join output.path).exists_components_append
  unfold Artifact.Apart
  rw [← Bool.not_eq_true, Path.beq_iff, components_file build hnamed.outputRoot ha hs.1 hs.2,
    components_file build hnamed.objectRoot hb ht.1 ht.2, hoff]
  change (build.binDirectory.join (output.path.append ".lto")).components ++ _ ≠ _
  rw [Path.join_append _ _ (by decide), Path.join_append _ _ (by decide), hroot ".lto" (by decide) (by decide),
    hroot ".lto-obj" (by decide) (by decide), List.append_assoc, List.append_assoc]
  intro hsame
  have hname := Path.Component.name.inj (List.cons.inj (List.append_cancel_left hsame)).1
  exact absurd (List.append_cancel_left hname) (by decide)

/-- An object is no index or imports file: it lies in a directory of its own, or its name ends differently. -/
theorem object_apart_index (ha : a.path.IsClean) (hb : b.path.IsClean)
    (hobject : FileName.isObjectFile a.fileName = true ∨ features.isEnabled .useLtoNativeObjectDirectory = true)
    (ht : t ∈ LtoRoots.indexSuffixes) :
    (file build (LtoRoots.forIndexing output features).objectRoot a "").Apart
      (file build (LtoRoots.forIndexing output features).outputRoot b t) := by
  have hsuffix : ∀ s ∈ "" :: LtoRoots.indexSuffixes, '/' ∉ s.toList ∧ s.toList ≠ ['.'] := by decide
  have hempty := hsuffix "" List.mem_cons_self
  have hindex := hsuffix t (List.mem_cons_of_mem _ ht)
  cases hnative : features.isEnabled .useLtoNativeObjectDirectory with
  | true => exact (file_apart_of_native build output hnative hb ha hindex hempty).symm
  | false =>
      have hroots : (LtoRoots.forIndexing output features).objectRoot =
          (LtoRoots.forIndexing output features).outputRoot := if_neg (Bool.eq_false_iff.1 hnative)
      have hname := hobject.resolve_right (Bool.eq_false_iff.1 hnative)
      obtain ⟨p, s, hs, hp⟩ := Artifact.exists_append_of_isObjectFile ha hname
      unfold Artifact.Apart
      rw [hroots, ← Bool.not_eq_true]
      intro hsame
      have happend := append_eq_of_file_beq build (LtoRoots.named_forIndexing output features).outputRoot ha hb hempty
        hindex hsame
      have hpath : a.path.append "" = a.path := congrArg Path.mk (List.append_nil _)
      rw [hpath, hp] at happend
      have heq := (Path.append_injective LtoRoots.suffixFree_endings (LtoRoots.mem_endings_of_object hs)
        (LtoRoots.mem_endings_of_index ht) happend).1
      exact absurd ht ((by decide : ∀ s ∈ FileName.objectEndings, s ∉ LtoRoots.indexSuffixes) t (heq ▸ hs))

/-- The files of unique backends tell the paths of their bitcode and their places. -/
theorem eq_of_file_beq (ha : a.path.IsClean) (hb : b.path.IsClean)
    (hobjects : (FileName.isObjectFile a.fileName = true ∧ FileName.isObjectFile b.fileName = true) ∨
      features.isEnabled .useLtoNativeObjectDirectory = true)
    {place place' : Path × String} (hplace : place ∈ (LtoRoots.forIndexing output features).places)
    (hplace' : place' ∈ (LtoRoots.forIndexing output features).places)
    (hsame : ((file build place.1 a place.2).execPath == (file build place'.1 b place'.2).execPath) = true) :
    place = place' ∧ a.path = b.path := by
  have hnamed := LtoRoots.named_forIndexing output features
  have hsuffix : ∀ s ∈ "" :: LtoRoots.indexSuffixes, '/' ∉ s.toList ∧ s.toList ≠ ['.'] := by decide
  rcases List.mem_cons.1 hplace with rfl | hindex <;> rcases List.mem_cons.1 hplace' with rfl | hindex'
  · have happend := append_eq_of_file_beq build hnamed.objectRoot ha hb (hsuffix "" (by decide))
      (hsuffix "" (by decide)) hsame
    exact ⟨rfl, (Path.append_injective (by decide) (List.mem_singleton_self "") (List.mem_singleton_self "") happend).2⟩
  · obtain ⟨t, ht, rfl⟩ := List.mem_map.1 hindex'
    have hapart := object_apart_index build output ha hb (hobjects.imp_left And.left) ht
    exact absurd hsame (Bool.eq_false_iff.1 hapart)
  · obtain ⟨s, hs, rfl⟩ := List.mem_map.1 hindex
    have hapart := object_apart_index build output hb ha (hobjects.imp_left And.right) hs
    exact absurd (BEq.symm hsame) (Bool.eq_false_iff.1 hapart)
  · obtain ⟨s, hs, rfl⟩ := List.mem_map.1 hindex
    obtain ⟨t, ht, rfl⟩ := List.mem_map.1 hindex'
    have happend := append_eq_of_file_beq build hnamed.outputRoot ha hb (hsuffix s (List.mem_cons_of_mem _ hs))
      (hsuffix t (List.mem_cons_of_mem _ ht)) hsame
    obtain ⟨rfl, hpath⟩ := Path.append_injective LtoRoots.suffixFree_endings (LtoRoots.mem_endings_of_index hs)
      (LtoRoots.mem_endings_of_index ht) happend
    exact ⟨rfl, hpath⟩

end Indexed
end Backend

/-- A link with bitcode whose paths are plain and tell it apart, and that is named as objects are unless native objects
have a directory of their own. -/
structure Link.TellsBitcode (env : Env) (link : Link) : Prop where
  plain : ∀ a ∈ (link.indexedFiles env).toList, a.path.IsClean
  apart : (link.indexedFiles env).toList.Pairwise fun a b => (a.path == b.path) = false
  named : (∀ a ∈ (link.indexedFiles env).toList, FileName.isObjectFile a.fileName = true) ∨
    env.features.isEnabled .useLtoNativeObjectDirectory = true

theorem LtoRoots.nodup_places (roots : LtoRoots) : roots.places.Nodup := by
  refine List.Nodup.of_map Prod.snd ?_
  change ("" :: indexSuffixes).Nodup
  decide

namespace BackendPlan

variable {env : Env} {p : BackendPlan} (hp : p.Planned env p.link) (hshared : p.link.BorrowsShared env)
include hp hshared

/-- A unique backend is for bitcode that is indexed, and its files lie in the places for the files of the link. -/
theorem Planned.outputs_of_unique {b : Backend} (hb : b ∈ p.uniqueBackends) :
    b.bitcodeFile ∈ (p.link.indexedFiles env).toList ∧
      b.outputs = (LtoRoots.forIndexing p.link.output env.features).places.map fun place =>
        Backend.file env.toBuild place.1 b.bitcodeFile place.2 := by
  obtain ⟨hallow, bitcode, copts, hcreate⟩ := hp.exists_create_of_unique hshared hb
  constructor
  · rw [Link.indexedFiles, ← hp.decision_eq]
    exact (hp.sublist_files hallow hshared).subset (List.mem_map_of_mem hb)
  · rw [hcreate]
    exact Backend.outputs_create _ _ _ _ _ _

/-- The unique backends have the bitcode that tells them apart for their keys. -/
theorem Planned.pairwise_unique (hbitcode : p.link.TellsBitcode env) :
    p.uniqueBackends.Pairwise fun b c => (b.bitcodeFile.path == c.bitcodeFile.path) = false := by
  cases hallow : p.decision.allowIndexing with
  | true =>
      have hapart := hbitcode.apart
      rw [Link.indexedFiles, ← hp.decision_eq] at hapart
      exact List.pairwise_map.1 (hapart.sublist (hp.sublist_files hallow hshared))
  | false =>
      refine List.pairwise_of_forall_mem_list fun b hb => ?_
      rw [(hp.exists_create_of_unique hshared hb).1] at hallow
      cases hallow

/-- Two files of unique backends are the same only if they are of one kind and for one path. -/
theorem Planned.apart_of_ne (hbitcode : p.link.TellsBitcode env) {b c : Backend} (hb : b ∈ p.uniqueBackends)
    (hc : c ∈ p.uniqueBackends) {place place' : Path × String}
    (hplace : place ∈ (LtoRoots.forIndexing p.link.output env.features).places)
    (hplace' : place' ∈ (LtoRoots.forIndexing p.link.output env.features).places)
    (hne : place ≠ place' ∨ b.bitcodeFile.path ≠ c.bitcodeFile.path) :
    (Backend.file env.toBuild place.1 b.bitcodeFile place.2).Apart
      (Backend.file env.toBuild place'.1 c.bitcodeFile place'.2) := by
  have hbmem := (hp.outputs_of_unique hshared hb).1
  have hcmem := (hp.outputs_of_unique hshared hc).1
  have hnamed := hbitcode.named.imp_left fun hall => And.intro (hall _ hbmem) (hall _ hcmem)
  unfold Artifact.Apart
  rw [← Bool.not_eq_true]
  intro hsame
  have heq := Backend.eq_of_file_beq env.toBuild p.link.output (hbitcode.plain _ hbmem) (hbitcode.plain _ hcmem)
    hnamed hplace hplace' hsame
  exact hne.elim (· heq.1) (· heq.2)

end BackendPlan

/-- The object, the index and the imports files of all unique backends of a link are different files, if the link takes
over none of these backends, the paths of the bitcode are plain and different, and either all of it is named as objects
are or native objects have a directory of their own. -/
theorem Link.unique_files_apart {env : Env} {link : Link} {p : BackendPlan} (hp : (link.planBackends env).Yields p)
    (hshared : link.BorrowsShared env) (hbitcode : link.TellsBitcode env) :
    (p.uniqueBackends.flatMap (·.outputs)).Pairwise Artifact.Apart := by
  have hplanned := backends_planned_of_yields hp
  have hlink := hplanned.link_eq
  subst hlink
  rw [List.pairwise_flatMap]
  constructor
  · intro b hb
    rw [(hplanned.outputs_of_unique hshared hb).2, List.pairwise_map]
    exact (LtoRoots.nodup_places _).imp_of_mem fun hplace hplace' hne =>
      hplanned.apart_of_ne hshared hbitcode hb hb hplace hplace' (Or.inl hne)
  · refine (hplanned.pairwise_unique hshared hbitcode).imp_of_mem fun {b c} hb hc hne f hf g hg => ?_
    rw [(hplanned.outputs_of_unique hshared hb).2] at hf
    rw [(hplanned.outputs_of_unique hshared hc).2] at hg
    obtain ⟨place, hplace, rfl⟩ := List.mem_map.1 hf
    obtain ⟨place', hplace', rfl⟩ := List.mem_map.1 hg
    refine hplanned.apart_of_ne hshared hbitcode hb hc hplace hplace' (Or.inr fun heq => ?_)
    rw [heq, BEq.rfl] at hne
    cases hne

namespace Sample

/-- The executable with two trees of bitcode, one of which is named like the imports file of the other. -/
def treeLink : Link :=
  let trees := ["app/gen", "app/gen.imports"].map fun path => Artifact.tree (.ofString "bin") (.ofString path)
  { link fissionEnv [] [] with
    objects := .ofList (trees.map .ofArtifact)
    lto := trees.foldl (fun lto tree => lto.record tree {}) {} }

/-- Three bitcode files give nine different files, with objects in the directory of the index files or in one of their
own. -/
theorem unique_files_of_sample_apart :
    (∃ p, ((link (env []) ["app/main.o", "app/main.obj"] ["app/main.o", "app/main.obj"]).planBackends
        (env [])).Yields p ∧
      (p.uniqueBackends.flatMap (·.outputs)).length = 9 ∧
      (p.uniqueBackends.flatMap (·.outputs)).Pairwise Artifact.Apart) ∧
    ∃ p, (treeLink.planBackends fissionEnv).Yields p ∧ (p.uniqueBackends.flatMap (·.outputs)).length = 9 ∧
      (p.uniqueBackends.flatMap (·.outputs)).Pairwise Artifact.Apart := by
  constructor
  · obtain ⟨p, hp, hlength⟩ := Planning.exists_yields_of_decide
      ((link (env []) ["app/main.o", "app/main.obj"] ["app/main.o", "app/main.obj"]).planBackends (env []))
      (fun p => (p.uniqueBackends.flatMap (·.outputs)).length = 9) (by decide +kernel)
    exact ⟨p, hp, hlength, Link.unique_files_apart hp
      ((sharedBackendsMade_link _ _ _).borrowsShared _) ⟨by decide +kernel, by decide +kernel, Or.inl (by decide +kernel)⟩⟩
  · obtain ⟨p, hp, hlength⟩ := Planning.exists_yields_of_decide (treeLink.planBackends fissionEnv)
      (fun p => (p.uniqueBackends.flatMap (·.outputs)).length = 9) (by decide +kernel)
    exact ⟨p, hp, hlength, Link.unique_files_apart hp
      (Link.SharedBackendsMade.borrowsShared (sharedBackendsMade_link fissionEnv [] []) _)
      ⟨by decide +kernel, by decide +kernel, Or.inr (by decide +kernel)⟩⟩

/-- A unique backend of a link with another output, on file for the member of a library, may have its object where the
link puts that of its own bitcode. -/
theorem taken_over_object_not_apart :
    ∃ p, ((linkFiling (uniqueFor "app/app.lto/gen") ["gen.lto/dep/dep.o"] ["gen.lto/dep/dep.o"]).planBackends
        sharedEnv).Yields p ∧ p.decision.allowIndexing = true ∧
      (linkFiling (uniqueFor "app/app.lto/gen") ["gen.lto/dep/dep.o"] ["gen.lto/dep/dep.o"]).TellsBitcode sharedEnv ∧
      p.uniqueBackends.map (·.bitcodeFile.text) = ["bin/dep/dep.o", "bin/gen.lto/dep/dep.o"] ∧
      ¬ (p.uniqueBackends.flatMap (·.outputs)).Pairwise Artifact.Apart := by
  obtain ⟨p, hp, hallow, hbitcode, hclash⟩ := Planning.exists_yields_of_decide
    ((linkFiling (uniqueFor "app/app.lto/gen") ["gen.lto/dep/dep.o"] ["gen.lto/dep/dep.o"]).planBackends sharedEnv)
    (fun p => p.decision.allowIndexing = true ∧
      p.uniqueBackends.map (·.bitcodeFile.text) = ["bin/dep/dep.o", "bin/gen.lto/dep/dep.o"] ∧
      ¬ (p.uniqueBackends.flatMap (·.outputs)).Pairwise Artifact.Apart) (by decide +kernel)
  exact ⟨p, hp, hallow, ⟨by decide +kernel, by decide +kernel, Or.inl (by decide +kernel)⟩, hbitcode, hclash⟩

end Sample
end LinkPlanner
