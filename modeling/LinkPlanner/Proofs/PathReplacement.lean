import LinkPlanner.Proofs.UniqueBackends
import LinkPlanner.Proofs.Verdicts

/-! How the indexer finds the files of a backend. It is given the paths of bitcode files and a text that says how the
beginning of such a path is replaced, and it replaces that beginning character by character. The planner makes the same
names by joining paths, which writes a separator only where one is missing. -/

namespace LinkPlanner

/-! ### The indexer -/

/-- A text that begins with `old`, with `new` in its place; any other text is left as it is. -/
def replaceStart (old new text : List Char) : List Char :=
  if old.isPrefixOf text then new ++ text.drop old.length else text

theorem replaceStart_append (old new rest : List Char) : replaceStart old new (old ++ rest) = new ++ rest := by
  unfold replaceStart
  rw [if_pos (List.isPrefixOf_iff_prefix.2 (List.prefix_append old rest)), List.drop_left]

/-- What the indexer replaces the beginning of a path by. -/
structure PathReplacement where
  old : List Char
  index : List Char
  object : List Char
deriving DecidableEq

namespace PathReplacement

/-- Two or three fields; where there is no third one, objects lie where the index files do. -/
def parse? (text : String) : Option PathReplacement :=
  match text.toList.splitOn ';' with
  | [old, index] => some ⟨old, index, index⟩
  | [old, index, object] => some ⟨old, index, object⟩
  | _ => none

theorem parse?_two {old index : List Char} (hold : ';' ∉ old) (hindex : ';' ∉ index) :
    parse? (String.ofList old ++ ";" ++ String.ofList index) = some ⟨old, index, index⟩ := by
  have htext : (String.ofList old ++ ";" ++ String.ofList index).toList = old ++ ';' :: index := by
    simp
  unfold parse?
  rw [htext, List.splitOn_append_cons_self, List.splitOn_eq_singleton hold, List.splitOn_eq_singleton hindex]
  rfl

theorem parse?_three {old index object : List Char} (hold : ';' ∉ old) (hindex : ';' ∉ index)
    (hobject : ';' ∉ object) :
    parse? (String.ofList old ++ ";" ++ String.ofList index ++ ";" ++ String.ofList object) =
      some ⟨old, index, object⟩ := by
  have htext : (String.ofList old ++ ";" ++ String.ofList index ++ ";" ++ String.ofList object).toList =
      old ++ ';' :: (index ++ ';' :: object) := by
    simp
  unfold parse?
  rw [htext, List.splitOn_append_cons_self, List.splitOn_append_cons_self, List.splitOn_eq_singleton hold,
    List.splitOn_eq_singleton hindex, List.splitOn_eq_singleton hobject]
  rfl

/-- Where the indexer writes what it finds out about a bitcode file, with this ending. -/
def indexPath (r : PathReplacement) (bitcode : Artifact) (ending : String) : List Char :=
  replaceStart r.old r.index bitcode.execPath.chars ++ ending.toList

/-- Where the indexer has the object of a bitcode file made. -/
def objectPath (r : PathReplacement) (bitcode : Artifact) : List Char :=
  replaceStart r.old r.object bitcode.execPath.chars

/-- The indexer names the files of the backend as the planner does. -/
structure Finds (r : PathReplacement) (b : Backend) : Prop where
  indexFiles : b.sharing.indexingOutputs.map (·.execPath.chars) =
    [r.indexPath b.bitcodeFile ".thinlto.bc", r.indexPath b.bitcodeFile ".imports"]
  objectFile : b.objectFile.execPath.chars = r.objectPath b.bitcodeFile

instance (r : PathReplacement) (b : Backend) : Decidable (r.Finds b) :=
  decidable_of_iff
    (b.sharing.indexingOutputs.map (·.execPath.chars) =
      [r.indexPath b.bitcodeFile ".thinlto.bc", r.indexPath b.bitcodeFile ".imports"] ∧
      b.objectFile.execPath.chars = r.objectPath b.bitcodeFile)
    ⟨fun h => ⟨h.1, h.2⟩, fun h => ⟨h.indexFiles, h.objectFile⟩⟩

end PathReplacement

/-! ### Roots -/

namespace LtoRoots

/-- A directory under the bin directory that backends write to: a relative path after which a separator goes. -/
structure Plain (root : Path) : Prop where
  relative : root.isAbsolute = false
  separator : root.separator = ['/']

theorem Plain.chars_ne_nil {root : Path} (h : Plain root) : root.chars ≠ [] :=
  (Path.separator_eq_iff.1 h.separator).1

theorem plain_append {p : Path} (hp : p.isAbsolute = false) {s : String} (hs : s.toList ≠ [])
    (hhead : s.toList.head? ≠ some '/') (hlast : s.toList.getLast? ≠ some '/') : Plain (p.append s) :=
  ⟨(Path.isAbsolute_append p hhead).trans hp, Path.separator_append hs hlast p⟩

variable {output : Artifact} (features : Features)

theorem plain_outputRoot (houtput : output.path.isAbsolute = false) :
    Plain (forIndexing output features).outputRoot :=
  plain_append houtput (by decide) (by decide) (by decide)

theorem plain_objectRoot (houtput : output.path.isAbsolute = false) :
    Plain (forIndexing output features).objectRoot := by
  have hroot : Plain (output.path.append ".lto") := plain_outputRoot features houtput
  change Plain (if _ then (output.path.append ".lto").append "-obj" else output.path.append ".lto")
  split
  · exact plain_append hroot.relative (by decide) (by decide) (by decide)
  · exact hroot

theorem not_mem_outputRoot (houtput : ';' ∉ output.path.chars) :
    ';' ∉ (forIndexing output features).outputRoot.chars := by
  change ';' ∉ output.path.chars ++ _
  rw [List.mem_append]
  exact fun h => h.elim houtput (by decide)

theorem not_mem_objectRoot (houtput : ';' ∉ output.path.chars) :
    ';' ∉ (forIndexing output features).objectRoot.chars := by
  have hroot := not_mem_outputRoot features houtput
  change ';' ∉ (if _ then (output.path.append ".lto").append "-obj" else output.path.append ".lto").chars
  split
  · change ';' ∉ (output.path.append ".lto").chars ++ _
    rw [List.mem_append]
    exact fun h => h.elim hroot (by decide)
  · exact hroot

end LtoRoots

/-! ### The replacement that is planned -/

/-- Where objects lie among the index files, the two directories are spelled alike. -/
theorem LtoRoots.objectRoot_eq {output : Artifact} {features : Features}
    (hsame : ((forIndexing output features).objectRoot == (forIndexing output features).outputRoot) = true) :
    (forIndexing output features).objectRoot = (forIndexing output features).outputRoot := by
  have hoff := (same_iff (output.path.append ".lto") features).1 (BEq.symm hsame)
  unfold forIndexing under
  rw [hoff]
  rfl

/-- The fields of the replacement, as the indexer reads them. -/
theorem BackendPlan.parse?_prefixReplace {bin : Path} {output : Artifact} (features : Features)
    (hbin : ';' ∉ bin.chars) (hrelative : output.path.isAbsolute = false) (houtput : ';' ∉ output.path.chars) :
    PathReplacement.parse? (prefixReplace bin (.forIndexing output features)) =
      some ⟨bin.chars, (bin.join (LtoRoots.forIndexing output features).outputRoot).chars,
        (bin.join (LtoRoots.forIndexing output features).objectRoot).chars⟩ := by
  have hindex := Path.not_mem_chars_join (by decide) hbin (LtoRoots.not_mem_outputRoot features houtput)
    (LtoRoots.plain_outputRoot features hrelative).relative
  have hobject := Path.not_mem_chars_join (by decide) hbin (LtoRoots.not_mem_objectRoot features houtput)
    (LtoRoots.plain_objectRoot features hrelative).relative
  unfold prefixReplace
  dsimp only
  split
  · rename_i hsame
    rw [LtoRoots.objectRoot_eq hsame]
    exact PathReplacement.parse?_two hbin hindex
  · exact PathReplacement.parse?_three hbin hindex hobject

/-- An indexing step is given the replacement for the directories of its link's unique backends. -/
theorem Link.prefixReplace_of_indexing {env : Env} {link : Link} {plan : LinkPlan} (hplan : link.Yields env plan)
    {action : LinkAction} (haction : action ∈ plan.ltoIndexing) :
    action.commandLine.linkVariables.thinltoPrefixReplace =
      some (BackendPlan.prefixReplace env.binDirectory (.forIndexing link.output env.features)) := by
  obtain ⟨p, outputs, rfl, hplanned, hallow, houtputs, rfl⟩ := assembled_of_mem_ltoIndexing hplan haction
  obtain ⟨actionName, libraries, c, -, -, heq, -⟩ := BackendPlan.indexing_of_yields houtputs
  have hroots : p.roots = .forIndexing p.link.output env.features := hplanned.roots_eq.trans (if_pos hallow)
  rw [heq, ← hroots]
  rfl

/-! ### Files of backends -/

/-- The path of a file that a backend has under a directory, as a text. -/
theorem Backend.chars_file (build : Build) {root : Path} (hroot : LtoRoots.Plain root) {bitcode : Artifact}
    (hbitcode : bitcode.path.isAbsolute = false) {ending : String} (hending : ending.toList.head? ≠ some '/') :
    (file build root bitcode ending).execPath.chars =
      build.binDirectory.chars ++ build.binDirectory.separator ++
        (root.chars ++ ['/'] ++ bitcode.path.chars) ++ ending.toList := by
  have hrelative : ((root.join bitcode.path).append ending).isAbsolute = false :=
    (Path.isAbsolute_append _ hending).trans (Path.isAbsolute_join hroot.relative hroot.chars_ne_nil hbitcode)
  change (build.binDirectory.join ((root.join bitcode.path).append ending)).chars = _
  rw [Path.chars_join _ hrelative, List.append_assoc _ _ ending.toList]
  unfold Path.append
  rw [Path.chars_join root hbitcode, hroot.separator]

/-- Replacing the bin directory by a directory under it loses whatever a join writes between the two. -/
theorem replaceStart_join {bin root : Path} (hroot : LtoRoots.Plain root) {bitcode : Artifact}
    (hbitcode : bitcode.path.isAbsolute = false) (hrooted : bitcode.root = bin) :
    replaceStart bin.chars (bin.join root).chars bitcode.execPath.chars =
      bin.chars ++ bin.separator ++ (root.chars ++ bin.separator ++ bitcode.path.chars) := by
  unfold Artifact.execPath
  rw [hrooted, Path.chars_join bin hbitcode, Path.chars_join bin hroot.relative, List.append_assoc bin.chars _
    bitcode.path.chars, replaceStart_append]
  simp only [List.append_assoc]

/-- A file that the planner names by joining paths is named alike by the indexer exactly if the join writes a
separator after the bin directory. -/
theorem Backend.file_found_iff (build : Build) {root : Path} (hroot : LtoRoots.Plain root) {bitcode : Artifact}
    (hbitcode : bitcode.path.isAbsolute = false) (hrooted : bitcode.root = build.binDirectory) (ending : String)
    (hending : ending.toList.head? ≠ some '/') :
    (file build root bitcode ending).execPath.chars =
        replaceStart build.binDirectory.chars (build.binDirectory.join root).chars bitcode.execPath.chars ++
          ending.toList ↔
      build.binDirectory.separator = ['/'] := by
  rw [chars_file build hroot hbitcode hending, replaceStart_join hroot hbitcode hrooted, List.append_cancel_right_eq,
    List.append_cancel_left_eq, List.append_cancel_right_eq, List.append_cancel_left_eq]
  exact eq_comm

/-- The indexer finds the files of a unique backend exactly if a separator goes after the bin directory. -/
theorem PathReplacement.finds_iff (build : Build) {output : Artifact} (houtput : output.path.isAbsolute = false)
    (allowed : BitcodeFiles) (usePic : Bool) {bitcode : Artifact} (hbitcode : bitcode.path.isAbsolute = false)
    (hrooted : bitcode.root = build.binDirectory) (copts : List String) :
    Finds ⟨build.binDirectory.chars,
        (build.binDirectory.join (LtoRoots.forIndexing output build.features).outputRoot).chars,
        (build.binDirectory.join (LtoRoots.forIndexing output build.features).objectRoot).chars⟩
      (.create build (.forIndexing output build.features) (some allowed) usePic bitcode copts) ↔
      build.binDirectory.separator = ['/'] := by
  have hindex :=
    Backend.file_found_iff build (LtoRoots.plain_outputRoot build.features houtput) hbitcode hrooted
  have hobject :=
    Backend.file_found_iff build (LtoRoots.plain_objectRoot build.features houtput) hbitcode hrooted "" (by decide)
  constructor
  · intro hfinds
    exact (hindex ".thinlto.bc" (by decide)).1 (List.cons.inj hfinds.indexFiles).1
  · intro hsep
    constructor
    · exact congrArg₂ (fun a b => [a, b]) ((hindex _ (by decide)).2 hsep) ((hindex _ (by decide)).2 hsep)
    · exact (hobject.2 hsep).trans (List.append_nil _)

/-- The replacement that the indexer is given has the directories of the backends for its fields. The files that the
indexer finds by it are those of the unique backends exactly if the bin directory has a name that does not end in a
separator. -/
theorem Link.prefix_replace_right_iff {env : Env} {link : Link} {plan : LinkPlan} (hplan : link.Yields env plan)
    (hmade : link.SharedBackendsMade) {action : LinkAction} (haction : action ∈ plan.ltoIndexing) {b : Backend}
    (hb : b ∈ plan.ltoBackends) (hunique : b.isShared = false) (hrooted : b.bitcodeFile.root = env.binDirectory)
    (hbitcode : b.bitcodeFile.path.isAbsolute = false) (houtput : link.output.path.isAbsolute = false)
    (hbin : ';' ∉ env.binDirectory.chars) (hplain : ';' ∉ link.output.path.chars) :
    ∃ text r, action.commandLine.linkVariables.thinltoPrefixReplace = some text ∧
      PathReplacement.parse? text = some r ∧
      (r.Finds b ↔ env.binDirectory.chars ≠ [] ∧ env.binDirectory.chars.getLast? ≠ some '/') := by
  obtain ⟨allowed, bitcode, copts, rfl⟩ := exists_create_of_unique hplan (hmade.borrowsShared env) hb hunique
  refine ⟨_, _, prefixReplace_of_indexing hplan haction, BackendPlan.parse?_prefixReplace env.features hbin houtput
    hplain, ?_⟩
  rw [← Path.separator_eq_iff]
  exact PathReplacement.finds_iff env.toBuild houtput allowed _ hbitcode hrooted copts

namespace Sample

/-- An environment with its bin directory spelled like this. -/
def rootedEnv (bin : String) : Env := { binDirectory := .ofString bin }

/-- An executable with one object, which is bitcode under the bin directory. -/
def rootedLink (bin : String) : Link where
  owner := "//app:app"
  output := (rootedEnv bin).derived (.ofString "app/app")
  linkType := .executable
  linkingMode := .dynamic
  objects := .ofList [.ofArtifact ((rootedEnv bin).derived (.ofString "app/main.o"))]
  lto := LtoContext.record {} ((rootedEnv bin).derived (.ofString "app/main.o")) {}

theorem sharedBackendsMade_rootedLink (bin : String) : (rootedLink bin).SharedBackendsMade := by
  intro l hl
  cases hl

/-- Under a bin directory with a plain name the indexer finds the files of the backend. -/
theorem index_files_found :
    ∃ plan action b text r, (rootedLink "bin").Yields (rootedEnv "bin") plan ∧ plan.ltoIndexing = some action ∧
      b ∈ plan.ltoBackends ∧ b.isShared = false ∧
      action.commandLine.linkVariables.thinltoPrefixReplace = some text ∧
      PathReplacement.parse? text = some r ∧ r.Finds b := by
  obtain ⟨plan, hplan, action, haction, b, hb, hunique, hroot, hrelative⟩ := Planning.exists_yields_of_decide
    ((rootedLink "bin").planWithLto (rootedEnv "bin"))
    (fun plan => ∃ action ∈ plan.ltoIndexing, ∃ b ∈ plan.ltoBackends, b.isShared = false ∧
      b.bitcodeFile.root.chars = "bin".toList ∧ b.bitcodeFile.path.isAbsolute = false)
    (by decide +kernel)
  obtain ⟨text, r, htext, hr, hfinds⟩ := Link.prefix_replace_right_iff (Or.inr hplan)
    (sharedBackendsMade_rootedLink "bin") haction hb hunique (congrArg Path.mk hroot) hrelative
    (by decide) (by decide) (by decide)
  exact ⟨plan, action, b, text, r, Or.inr hplan, haction, hb, hunique, htext, hr, hfinds.2 (by decide)⟩

/-- With a separator at the end of the bin directory the indexer writes `app.ltoapp/main.o.thinlto.bc`. -/
theorem index_files_missed :
    ∃ plan action b text r, (rootedLink "bin/").Yields (rootedEnv "bin/") plan ∧ plan.ltoIndexing = some action ∧
      b ∈ plan.ltoBackends ∧ b.isShared = false ∧
      action.commandLine.linkVariables.thinltoPrefixReplace = some text ∧ text = "bin/;bin/app/app.lto" ∧
      PathReplacement.parse? text = some r ∧ ¬ r.Finds b := by
  obtain ⟨plan, hplan, action, haction, b, hb, text, htext, r, hr, hunique, heq, hmissed⟩ := Planning.exists_yields_of_decide
    ((rootedLink "bin/").planWithLto (rootedEnv "bin/"))
    (fun plan => ∃ action ∈ plan.ltoIndexing, ∃ b ∈ plan.ltoBackends,
      ∃ text ∈ action.commandLine.linkVariables.thinltoPrefixReplace, ∃ r ∈ PathReplacement.parse? text,
        b.isShared = false ∧ text = "bin/;bin/app/app.lto" ∧ ¬ r.Finds b)
    (by decide +kernel)
  exact ⟨plan, action, b, text, r, Or.inr hplan, haction, hb, hunique, htext, heq, hr, hmissed⟩

end Sample
end LinkPlanner
