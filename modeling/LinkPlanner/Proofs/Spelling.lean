import LinkPlanner.Proofs.PrivateFiles

/-! Names that are derived from paths in different spellings. A path that is put under another one, or that takes
another one under it, counts by its components. An ending is written after the text of a path, though, so what comes of
it depends on the text behind the last separator: only paths that end alike as they are spelled give one name. -/

namespace LinkPlanner

namespace Path

variable {p q r : Path}

/-! ### The end of a path -/

/-- The text behind the last separator, which may be empty or say nothing. -/
def lastPiece (p : Path) : List Char := (pieces p.chars).getLast (pieces_ne_nil p.chars)

/-- The components that stand before the last piece. -/
def leadingComponents (p : Path) : List Component :=
  p.anchor.1.toList ++ (pieces p.chars).dropLast.filterMap step?

theorem components_eq_leading (p : Path) : p.components = p.leadingComponents ++ (step? p.lastPiece).toList := by
  have hpieces := List.dropLast_append_getLast (pieces_ne_nil p.chars)
  have hlast : [p.lastPiece].filterMap step? = (step? p.lastPiece).toList := by
    rw [List.filterMap_cons]
    cases step? p.lastPiece <;> rfl
  rw [components_eq, leadingComponents, ← hlast, List.append_assoc, ← List.filterMap_append]
  unfold lastPiece
  rw [hpieces]

theorem lastPiece_append_sep (dir name : List Char) : lastPiece ⟨dir ++ '/' :: name⟩ = lastPiece ⟨name⟩ := by
  unfold lastPiece
  simp only [pieces_append_sep]
  exact List.getLast_append_of_ne_nil _ (pieces_ne_nil name)

theorem lastPiece_suffix (p : Path) : p.lastPiece <:+ p.chars := by
  have hpieces := List.dropLast_append_getLast (pieces_ne_nil p.chars)
  by_cases hbefore : (pieces p.chars).dropLast = []
  · rw [hbefore, List.nil_append] at hpieces
    rw [← intercalate_pieces p.chars, ← hpieces, List.intercalate_singleton]
    exact List.suffix_rfl
  · rw [← intercalate_pieces p.chars, ← hpieces, intercalate_append hbefore (List.cons_ne_nil _ _),
      List.intercalate_singleton]
    exact (List.suffix_cons '/' _).trans (List.suffix_append _ _)

/-- A path ends as whatever is put under it does. -/
theorem lastPiece_join (p q : Path) : (p.join q).lastPiece = q.lastPiece := by
  cases hq : q.isAbsolute with
  | true => rw [join, hq, if_pos rfl]
  | false =>
      rw [join_eq p hq]
      rcases chars_separator p with hnil | ⟨dir, hdir⟩
      · rw [hnil]
        rfl
      · rw [hdir, List.append_assoc, List.singleton_append, lastPiece_append_sep]

theorem fileName?_of_lastPiece (h : step? p.lastPiece = some (.name p.lastPiece)) :
    p.fileName? = some p.lastPiece := by
  unfold fileName?
  rw [components_eq_leading, h, Option.toList_some, List.getLast?_concat]

/-- A separator behind a path says nothing. -/
theorem components_separator (p : Path) : components ⟨p.chars ++ p.separator⟩ = p.components := by
  by_cases hsep : p.separator = ['/']
  · obtain ⟨hne, -⟩ := separator_eq_iff.1 hsep
    have hend : (pieces []).filterMap step? = [] := rfl
    rw [hsep, components_eq, anchor_append_sep hne, pieces_append_sep, List.filterMap_append, hend, List.append_nil,
      components_eq]
  · have hnil : p.separator = [] := by
      unfold separator at hsep ⊢
      split
      · rfl
      · rename_i hend
        exact absurd (if_neg hend) hsep
    rw [hnil, List.append_nil]

/-- Whatever is put under a path counts by its steps. -/
theorem components_join_of_ne_nil (hp : p.chars ≠ []) (hq : q.isAbsolute = false) :
    (p.join q).components = p.components ++ q.components.filter Component.isStep := by
  rw [join_eq p hq]
  rcases chars_separator p with hnil | ⟨dir, hdir⟩
  · exact absurd (List.append_eq_nil_iff.1 hnil).1 hp
  · rw [hdir, List.append_assoc, List.singleton_append, components_append_sep, ← hdir, components_separator]

/-- It does not matter how the path is spelled that another one is put under. -/
theorem join_congr_left (hpq : (p == q) = true) (hp : p.chars ≠ []) (hq : q.chars ≠ []) (r : Path) :
    (p.join r == q.join r) = true := by
  cases hr : r.isAbsolute with
  | true =>
      unfold join
      rw [hr, if_pos rfl, if_pos rfl]
      exact BEq.rfl
  | false =>
      rw [beq_iff, components_join_of_ne_nil hp hr, components_join_of_ne_nil hq hr, beq_iff.1 hpq]

theorem chars_join_ne_dot (hp : p.chars ≠ []) (q : Path) : (p.join q).chars ≠ ['.'] := by
  cases hq : q.isAbsolute with
  | true =>
      rw [join, hq, if_pos rfl]
      intro hdot
      unfold isAbsolute at hq
      rw [hdot] at hq
      cases hq
  | false =>
      rw [join_eq p hq]
      rcases chars_separator p with hnil | ⟨dir, hdir⟩
      · exact absurd (List.append_eq_nil_iff.1 hnil).1 hp
      · rw [hdir]
        intro hdot
        have hmem : '/' ∈ ['.'] := hdot ▸ List.mem_append_left _ (List.mem_append_right _ List.mem_cons_self)
        cases List.mem_singleton.1 hmem

/-! ### Endings -/

/-- The two paths end in the same text behind their last separators. The path `.` has nothing in common with others
that end in a `.`, because only there the `.` becomes part of the first name. -/
structure EndsAlike (p q : Path) : Prop where
  lastPiece_eq : p.lastPiece = q.lastPiece
  dot_iff : p.chars = ['.'] ↔ q.chars = ['.']

instance (p q : Path) : Decidable (EndsAlike p q) :=
  decidable_of_iff (p.lastPiece = q.lastPiece ∧ (p.chars = ['.'] ↔ q.chars = ['.']))
    ⟨fun h => ⟨h.1, h.2⟩, fun h => ⟨h.1, h.2⟩⟩

theorem endsAlike_join_iff (hp : p.chars ≠ []) (hq : q.chars ≠ []) (r t : Path) :
    EndsAlike (p.join r) (q.join t) ↔ r.lastPiece = t.lastPiece := by
  constructor
  · intro h
    rw [← lastPiece_join p r, h.lastPiece_eq, lastPiece_join]
  · intro h
    refine ⟨?_, iff_of_false (chars_join_ne_dot hp r) (chars_join_ne_dot hq t)⟩
    rw [lastPiece_join, lastPiece_join, h]

section Append

variable {s : String} (hs : '/' ∉ s.toList)
include hs

theorem lastPiece_append (p : Path) : (p.append s).lastPiece = p.lastPiece ++ s.toList := by
  obtain ⟨before, last, hp, hps⟩ := pieces_append hs p.chars
  unfold lastPiece append
  simp only [hp, hps, List.getLast_concat]

theorem dropLast_pieces_append (p : Path) :
    (pieces (p.append s).chars).dropLast = (pieces p.chars).dropLast := by
  obtain ⟨before, last, hp, hps⟩ := pieces_append hs p.chars
  unfold append
  rw [hp, hps, List.dropLast_concat, List.dropLast_concat]

variable (hlen : 3 ≤ s.toList.length)
include hlen

/-- An ending leaves the head of a path as it is, but of `.` it makes a name. -/
theorem anchor_append (hp : p.chars ≠ ['.']) : (p.append s).anchor.1 = p.anchor.1 := by
  obtain ⟨cs⟩ := p
  change (anchor ⟨cs ++ s.toList⟩).1 = _
  cases cs with
  | nil =>
      refine anchor_of_not_mem hs fun hdot => ?_
      rw [List.nil_append] at hdot
      rw [hdot] at hlen
      exact absurd hlen (by decide)
  | cons c rest =>
      by_cases hc : c = '/'
      · subst hc
        rfl
      by_cases hrest : c = '.' → ∃ d ∈ rest.head?, d ≠ '/'
      · rw [anchor_of_plain hc hrest, List.cons_append, anchor_of_plain hc]
        intro hdot
        obtain ⟨d, hd, hne⟩ := hrest hdot
        exact ⟨d, by rw [List.head?_append, Option.mem_def.1 hd]; rfl, hne⟩
      · obtain ⟨rfl, hhead⟩ := Classical.not_imp.1 hrest
        cases rest with
        | nil => exact absurd rfl hp
        | cons d rest =>
            have hd : d = '/' := Decidable.byContradiction fun hne => hhead ⟨d, rfl, hne⟩
            subst hd
            rfl

theorem components_append_eq (hp : p.chars ≠ ['.']) :
    (p.append s).components = p.leadingComponents ++ [.name (p.lastPiece ++ s.toList)] := by
  have hstep : step? (p.append s).lastPiece = some (.name (p.lastPiece ++ s.toList)) := by
    rw [lastPiece_append hs]
    exact step?_of_three_le (by rw [List.length_append]; omega)
  rw [components_eq_leading, hstep, leadingComponents, dropLast_pieces_append hs, anchor_append hs hlen hp,
    Option.toList_some]
  rfl

theorem components_append_dot (hp : p.chars = ['.']) : (p.append s).components = [.name ('.' :: s.toList)] := by
  have hslash : '/' ∉ '.' :: s.toList := List.not_mem_cons_of_ne_of_not_mem (by decide) hs
  have hdot : '.' :: s.toList ≠ ['.'] := by
    intro hdot
    rw [(List.cons.inj hdot).2] at hlen
    exact absurd hlen (by decide)
  have hsingle : pieces ('.' :: s.toList) = ['.' :: s.toList] := List.splitOn_eq_singleton hslash
  have hstep : step? ('.' :: s.toList) = some (.name ('.' :: s.toList)) :=
    step?_of_three_le (by rw [List.length_cons]; omega)
  have happend : p.append s = ⟨'.' :: s.toList⟩ := by
    rw [append, hp]
    rfl
  rw [happend, components_eq, anchor_of_not_mem hslash hdot, hsingle, List.filterMap_cons, hstep]
  rfl

/-- `.` with an ending is a name, which no other path becomes that is the same as `.`. -/
theorem append_dot_ne (hpq : (p == q) = true) (hp : p.chars = ['.']) (hq : q.chars ≠ ['.']) :
    (p.append s == q.append s) = false := by
  rw [Bool.eq_false_iff]
  intro hsame
  have hleading : q.leadingComponents = [] := by
    have hcomponents := beq_iff.1 hsame
    rw [components_append_dot hs hlen hp, components_append_eq hs hlen hq] at hcomponents
    exact (List.append_eq_singleton_iff.1 hcomponents.symm).elim (·.1) fun h => absurd h.2 (List.cons_ne_nil _ _)
  have hhere : q.components = [.here] := by
    obtain ⟨cs⟩ := p
    change cs = ['.'] at hp
    subst hp
    exact (beq_iff.1 hpq).symm
  rw [components_eq_leading, hleading, List.nil_append] at hhere
  cases hstep : step? q.lastPiece with
  | none =>
      rw [hstep] at hhere
      cases hhere
  | some step =>
      rw [hstep] at hhere
      cases hhere
      cases isStep_of_step? hstep

/-- One path in two spellings gives one name under an ending exactly if the two end alike. -/
theorem append_beq_iff (hpq : (p == q) = true) : (p.append s == q.append s) = true ↔ p.EndsAlike q := by
  -- `.` is told apart first, because its only piece is part of the head and not of what the ending is written to
  by_cases hp : p.chars = ['.'] <;> by_cases hq : q.chars = ['.']
  · have heq : p = q := congrArg Path.mk (hp.trans hq.symm)
    subst heq
    exact iff_of_true BEq.rfl ⟨rfl, Iff.rfl⟩
  · refine iff_of_false (Bool.eq_false_iff.1 (append_dot_ne hs hlen hpq hp hq)) fun h => hq (h.dot_iff.1 hp)
  · refine iff_of_false (fun hsame => ?_) fun h => hp (h.dot_iff.2 hq)
    exact Bool.eq_false_iff.1 (append_dot_ne hs hlen (BEq.symm hpq) hq hp) (BEq.symm hsame)
  · have hcomponents := beq_iff.1 hpq
    rw [components_eq_leading, components_eq_leading] at hcomponents
    rw [beq_iff, components_append_eq hs hlen hp, components_append_eq hs hlen hq]
    constructor
    · intro hsame
      have hlast := (List.append_inj' hsame rfl).2
      exact ⟨List.append_cancel_right (Component.name.inj (List.cons.inj hlast).1), iff_of_false hp hq⟩
    · intro h
      rw [h.lastPiece_eq] at hcomponents ⊢
      rw [List.append_cancel_right hcomponents]

end Append

/-- Whatever is written after a path, it is written to one and the same name. -/
theorem exists_components_append (p : Path) : ∃ before last, ∀ s : String, '/' ∉ s.toList → 3 ≤ s.toList.length →
    (p.append s).components = before ++ [.name (last ++ s.toList)] := by
  by_cases hp : p.chars = ['.']
  · exact ⟨[], ['.'], fun s hs hlen => components_append_dot hs hlen hp⟩
  · exact ⟨p.leadingComponents, p.lastPiece, fun s hs hlen => components_append_eq hs hlen hp⟩

/-! ### Extensions -/

/-- As it is spelled the path ends in a file name of two dots and an extension. Taking that extension off leaves `..`,
which is no file name. -/
def EndsInDots (p : Path) : Prop := step? p.lastPiece = some (.name p.lastPiece) ∧ stem p.lastPiece = ['.']

instance (p : Path) : Decidable p.EndsInDots :=
  inferInstanceAs (Decidable (step? p.lastPiece = some (.name p.lastPiece) ∧ stem p.lastPiece = ['.']))

theorem endsInDots_congr (hlast : p.lastPiece = q.lastPiece) : p.EndsInDots ↔ q.EndsInDots := by
  unfold EndsInDots
  rw [hlast]

theorem getLast?_anchor (hp : p.chars ≠ ['.']) : (pieces p.anchor.2).getLast? = some p.lastPiece := by
  have hlast : ∀ {cs ds : List Char}, (∃ dir, cs = dir ++ '/' :: ds) →
      (pieces ds).getLast? = (pieces cs).getLast? := by
    rintro cs ds ⟨dir, rfl⟩
    rw [pieces_append_sep, List.getLast?_append_of_ne_nil _ (pieces_ne_nil ds)]
  have hchars : (pieces p.anchor.2).getLast? = (pieces p.chars).getLast? := by
    obtain ⟨cs⟩ := p
    unfold anchor
    split
    · rename_i rest heq
      exact hlast ⟨[], heq⟩
    · rename_i heq
      exact absurd heq hp
    · rename_i rest heq
      rw [heq]
      exact (hlast ⟨[], rfl⟩).symm.trans (hlast ⟨['.'], rfl⟩)
    · rfl
  rw [hchars]
  exact List.getLast?_eq_some_getLast (pieces_ne_nil p.chars)

theorem chars_ne_dot_of_fileName? {name : List Char} (hname : p.fileName? = some name) : p.chars ≠ ['.'] := by
  intro hdot
  have heq : p = ⟨['.']⟩ := congrArg Path.mk hdot
  subst heq
  cases hname

theorem endsInDots_iff {name : List Char} (hname : p.fileName? = some name) (hstem : stem name = ['.']) :
    p.EndsInDots ↔ p.lastPiece = name := by
  obtain ⟨-, -, -, -, hstep, -⟩ := pieces_of_fileName? hname
  constructor
  · rintro ⟨hlast, -⟩
    exact Option.some.inj ((fileName?_of_lastPiece hlast).symm.trans hname)
  · intro hlast
    unfold EndsInDots
    rw [hlast]
    exact ⟨hstep, hstem⟩

/-- A path whose file name is two dots and an extension, with another extension. -/
theorem components_withExtension_of_dots {name : List Char} (hname : p.fileName? = some name)
    (hstem : stem name = ['.']) {extension : String} (hextension : '/' ∉ extension.toList)
    (hne : extension.toList ≠ []) :
    (p.withExtension extension).components =
      p.components.dropLast ++ [if p.EndsInDots then .up else .name ('.' :: '.' :: extension.toList)] := by
  obtain ⟨before, after, hpieces, hafter, hstep, hdrop⟩ := pieces_of_fileName? hname
  have hhead : (pieces p.anchor.2).reverse.head? = some name ↔ p.EndsInDots := by
    rw [List.head?_reverse, getLast?_anchor (chars_ne_dot_of_fileName? hname), Option.some_inj,
      endsInDots_iff hname hstem]
  have hrenamed : step? (if p.EndsInDots then ['.', '.'] else '.' :: '.' :: extension.toList) =
      some (if p.EndsInDots then .up else .name ('.' :: '.' :: extension.toList)) := by
    split
    · rfl
    · obtain ⟨c, rest, hrest⟩ := List.exists_cons_of_ne_nil hne
      rw [hrest]
      exact step?_of_three_le (by simp)
  have hslash : '/' ∉ (if p.EndsInDots then ['.', '.'] else '.' :: '.' :: extension.toList) := by
    split <;> simp [hextension]
  have hnew : p.withExtension extension = ⟨p.anchor.1.elim [] Component.chars ++
      ['/'].intercalate (before ++ [if p.EndsInDots then ['.', '.'] else '.' :: '.' :: extension.toList])⟩ := by
    unfold withExtension
    rw [hname]
    simp only [hdrop, hstem, decide_true, Bool.true_and, decide_eq_true_eq, hhead, List.tail_cons, List.reverse_cons,
      List.reverse_reverse]
    rfl
  rw [hnew]
  exact components_rename hpieces hafter hstep hrenamed hslash

/-- One path in two spellings gives one path with another extension exactly if both are spelled to end in two dots and
an extension, or neither is. -/
theorem withExtension_beq_iff (hpq : (p == q) = true) {extension : String} (hextension : '/' ∉ extension.toList)
    (hne : extension.toList ≠ []) :
    (p.withExtension extension == q.withExtension extension) = true ↔ (p.EndsInDots ↔ q.EndsInDots) := by
  have hfile := fileName?_congr hpq
  by_cases hdots : ∃ name, p.fileName? = some name ∧ stem name = ['.']
  · obtain ⟨name, hname, hstem⟩ := hdots
    rw [beq_iff, components_withExtension_of_dots hname hstem hextension hne,
      components_withExtension_of_dots (hfile ▸ hname) hstem hextension hne, beq_iff.1 hpq, List.append_cancel_left_eq]
    by_cases hp : p.EndsInDots <;> by_cases hq : q.EndsInDots <;> simp [hp, hq]
  · have hnot : ∀ {r : Path}, r.fileName? = p.fileName? → ¬ r.EndsInDots := fun hr h =>
      hdots ⟨_, hr ▸ fileName?_of_lastPiece h.1, h.2⟩
    refine iff_of_true (withExtension_congr hpq (fun name hname hstem => hdots ⟨name, hname, hstem⟩) hextension) ?_
    exact iff_of_false (hnot rfl) (hnot hfile.symm)

end Path

/-! ### Roots -/

/-- The endings of directories and files that are named after an output are all alike in this. -/
theorem Link.append_ending_beq_iff {p q : Path} (hpq : (p == q) = true) {s : String} (hs : s ∈ endings) :
    (p.append s == q.append s) = true ↔ p.EndsAlike q := by
  have hlen : ∀ s ∈ endings, 3 ≤ s.toList.length := by decide
  exact Path.append_beq_iff (slash_not_mem_ending hs) (hlen s hs) hpq

namespace LtoRoots

/-- The same directories, in whichever spelling. -/
structure Same (roots roots' : LtoRoots) : Prop where
  outputRoot : (roots.outputRoot == roots'.outputRoot) = true
  objectRoot : (roots.objectRoot == roots'.objectRoot) = true

/-- The roots are named, so that what is put under them goes behind a separator. -/
structure Named (roots : LtoRoots) : Prop where
  outputRoot : roots.outputRoot.chars ≠ []
  objectRoot : roots.objectRoot.chars ≠ []

theorem named_under {root : Path} (hroot : root.chars ≠ []) (features : Features) : (under root features).Named := by
  refine ⟨hroot, ?_⟩
  unfold under
  dsimp only
  split
  · exact List.append_ne_nil_of_left_ne_nil hroot _
  · exact hroot

theorem named_forIndexing (output : Artifact) (features : Features) : (forIndexing output features).Named :=
  named_under (List.append_ne_nil_of_right_ne_nil _ (by decide)) features

theorem named_shared (features : Features) : (shared features).Named := named_under (by decide) features

theorem Same.refl (roots : LtoRoots) : roots.Same roots := ⟨BEq.rfl, BEq.rfl⟩

/-- Under one feature set the object root follows the output root. -/
theorem same_forIndexing_iff {output output' : Artifact} (houtput : (output == output') = true) (features : Features) :
    (forIndexing output features).Same (forIndexing output' features) ↔ output.path.EndsAlike output'.path := by
  obtain ⟨-, hpath, -⟩ := Artifact.beq_iff.1 houtput
  have hobject : ∀ p : Path, (p.append ".lto").append "-obj" = p.append ".lto-obj" := fun p =>
    congrArg Path.mk (List.append_assoc _ _ _)
  have houtputRoot := Link.append_ending_beq_iff hpath (s := ".lto") (by decide)
  refine ⟨fun h => houtputRoot.1 h.outputRoot, fun h => ⟨houtputRoot.2 h, ?_⟩⟩
  unfold forIndexing under
  dsimp only
  split
  · rw [hobject, hobject]
    exact (Link.append_ending_beq_iff hpath (by decide)).2 h
  · exact houtputRoot.2 h

end LtoRoots

/-- The roots of a plan are those of an output or those of shared backends. -/
theorem BackendPlan.Planned.named_roots {env : Env} {link : Link} {p : BackendPlan} (hp : p.Planned env link) :
    p.roots.Named := by
  rw [hp.roots_eq, Link.ltoRoots]
  split
  · exact LtoRoots.named_forIndexing _ _
  · exact LtoRoots.named_shared _

/-! ### Files -/

namespace Backend

/-- The backend compile also writes a file of debug information. -/
def writesDebugFile (build : Build) : Bool :=
  build.features.isEnabled .perObjectDebugInfo && build.options.fission

/-- The same files, in whichever spelling. -/
structure SameFiles (b c : Backend) : Prop where
  objectFile : (b.objectFile == c.objectFile) = true
  dwoFile : (b.dwoFile == c.dwoFile) = true
  indexingOutputs : (b.sharing.indexingOutputs == c.sharing.indexingOutputs) = true

section Files

variable (build : Build) {bitcode bitcode' : Artifact} (hbitcode : (bitcode == bitcode') = true)
include hbitcode

section Root

variable {root root' : Path} (hroot : (root == root') = true) (hne : root.chars ≠ []) (hne' : root'.chars ≠ [])
include hroot hne hne'

theorem join_bitcode_congr : (root.join bitcode.path == root'.join bitcode'.path) = true :=
  BEq.trans (Path.join_congr root (Artifact.beq_iff.1 hbitcode).2.1) (Path.join_congr_left hroot hne hne' _)

/-- A file with an ending of its own. -/
theorem file_beq_iff {s : String} (hs : '/' ∉ s.toList) (hlen : 3 ≤ s.toList.length) :
    (file build root bitcode s == file build root' bitcode' s) = true ↔
      bitcode.path.lastPiece = bitcode'.path.lastPiece := by
  obtain ⟨-, -, htree⟩ := Artifact.beq_iff.1 hbitcode
  rw [← Path.endsAlike_join_iff hne hne', ← Path.append_beq_iff hs hlen (join_bitcode_congr hbitcode hroot hne hne'),
    Artifact.beq_iff]
  exact ⟨fun h => h.2.1, fun h => ⟨BEq.rfl, h, htree⟩⟩

theorem objectFile_congr : (file build root bitcode "" == file build root' bitcode' "") = true :=
  file_beq_of_join build hbitcode (join_bitcode_congr hbitcode hroot hne hne')

theorem dwoFile_beq_iff :
    (build.derived ((root.join bitcode.path).withExtension "dwo") ==
        build.derived ((root'.join bitcode'.path).withExtension "dwo")) = true ↔
      (bitcode.path.EndsInDots ↔ bitcode'.path.EndsInDots) := by
  rw [← Path.endsInDots_congr (Path.lastPiece_join root bitcode.path),
    ← Path.endsInDots_congr (Path.lastPiece_join root' bitcode'.path),
    ← @Path.withExtension_beq_iff _ _ (join_bitcode_congr hbitcode hroot hne hne') "dwo" (by decide) (by decide),
    Artifact.beq_iff]
  exact ⟨fun h => h.2.1, fun h => ⟨BEq.rfl, h, rfl⟩⟩

end Root

section Create

variable {roots roots' : LtoRoots} (hroots : roots.Same roots') (hnamed : roots.Named) (hnamed' : roots'.Named)
  (allowed allowed' : Option BitcodeFiles) (usePic usePic' : Bool) (copts copts' : List String)
include hroots hnamed hnamed'

theorem indexingOutputs_beq_iff (hallowed : allowed.isSome = allowed'.isSome) :
    ((create build roots allowed usePic bitcode copts).sharing.indexingOutputs ==
        (create build roots' allowed' usePic' bitcode' copts').sharing.indexingOutputs) = true ↔
      (allowed.isSome = true → bitcode.path.lastPiece = bitcode'.path.lastPiece) := by
  have hfile : ∀ s ∈ [".thinlto.bc", ".imports"],
      (file build roots.outputRoot bitcode s == file build roots'.outputRoot bitcode' s) = true ↔
        bitcode.path.lastPiece = bitcode'.path.lastPiece := by
    have hends : ∀ s ∈ [".thinlto.bc", ".imports"], '/' ∉ s.toList ∧ 3 ≤ s.toList.length := by decide
    exact fun s hs => file_beq_iff build hbitcode hroots.outputRoot hnamed.outputRoot hnamed'.outputRoot (hends s hs).1
      (hends s hs).2
  cases allowed with
  | none =>
      cases allowed' with
      | none => exact iff_of_true rfl fun h => nomatch h
      | some files' => cases hallowed
  | some files =>
      cases allowed' with
      | none => cases hallowed
      | some files' =>
          change ([_, _] == [_, _]) = true ↔ _
          rw [List.cons_beq_cons, List.cons_beq_cons, Bool.and_eq_true, Bool.and_eq_true, hfile _ (by simp),
            hfile _ (by simp)]
          simp

theorem dwoFile_create_beq_iff :
    ((create build roots allowed usePic bitcode copts).dwoFile ==
        (create build roots' allowed' usePic' bitcode' copts').dwoFile) = true ↔
      (writesDebugFile build = true → (bitcode.path.EndsInDots ↔ bitcode'.path.EndsInDots)) := by
  have hdwo := dwoFile_beq_iff build hbitcode hroots.outputRoot hnamed.outputRoot hnamed'.outputRoot
  change ((if writesDebugFile build = true then _ else none) == (if writesDebugFile build = true then _ else none)) =
    true ↔ _
  cases writesDebugFile build with
  | true => exact hdwo.trans ⟨fun h _ => h, fun h => h rfl⟩
  | false => exact iff_of_true rfl fun h => nomatch h

/-- The backends for one bitcode file in two spellings, under the same roots, have the same object. Their index and
imports files are the same exactly if the spellings have the same text behind the last separator, and their debug files
exactly if both spellings end in two dots and an extension, or neither does. -/
theorem sameFiles_iff (hallowed : allowed.isSome = allowed'.isSome) :
    (create build roots allowed usePic bitcode copts).SameFiles
        (create build roots' allowed' usePic' bitcode' copts') ↔
      (allowed.isSome = true → bitcode.path.lastPiece = bitcode'.path.lastPiece) ∧
        (writesDebugFile build = true → (bitcode.path.EndsInDots ↔ bitcode'.path.EndsInDots)) := by
  have hindex := indexingOutputs_beq_iff build hbitcode hroots hnamed hnamed' allowed allowed' usePic usePic' copts
    copts' hallowed
  have hdwo := dwoFile_create_beq_iff build hbitcode hroots hnamed hnamed' allowed allowed' usePic usePic' copts copts'
  constructor
  · exact fun h => ⟨hindex.1 h.indexingOutputs, hdwo.1 h.dwoFile⟩
  · rintro ⟨hlast, hdots⟩
    exact ⟨objectFile_congr build hbitcode hroots.objectRoot hnamed.objectRoot hnamed'.objectRoot, hdwo.2 hdots,
      hindex.2 hlast⟩

end Create

end Files

end Backend

/-! ### Plans -/

/-- What is named after the output of a link. -/
structure BackendPlan.SameNames (build : Build) (p p' : BackendPlan) : Prop where
  roots : (LtoRoots.forIndexing p.link.output build.features).Same (.forIndexing p'.link.output build.features)
  paramFile : (p.paramFile build == p'.paramFile build) = true
  mergedObject : (p.mergedObject build == p'.mergedObject build) = true

theorem BackendPlan.sameNames_iff (build : Build) {p p' : BackendPlan}
    (houtput : (p.link.output == p'.link.output) = true) :
    p.SameNames build p' ↔ p.link.output.path.EndsAlike p'.link.output.path := by
  obtain ⟨-, hpath, -⟩ := Artifact.beq_iff.1 houtput
  have hfile : ∀ s ∈ Link.endings, p.link.output.path.EndsAlike p'.link.output.path →
      (build.derived (p.link.output.path.append s) == build.derived (p'.link.output.path.append s)) = true :=
    fun s hs h => Artifact.beq_iff.2 ⟨BEq.rfl, (Link.append_ending_beq_iff hpath hs).2 h, rfl⟩
  have hroots := LtoRoots.same_forIndexing_iff houtput build.features
  exact ⟨fun h => hroots.1 h.roots, fun h => ⟨hroots.2 h, hfile _ (by decide) h, hfile _ (by decide) h⟩⟩

/-- Two links make one output, and of two backends each compiles one bitcode file, in different spellings. What is named
after the output is the same exactly if the outputs end alike. The files of unique backends are then the same exactly if
the spellings of the bitcode have the same text behind the last separator, and those of shared backends are the same
unless there are debug files and only one of the spellings ends in two dots and an extension. -/
theorem BackendPlan.same_names_and_files_iff (build : Build) {p p' : BackendPlan}
    (houtput : (p.link.output == p'.link.output) = true) {bitcode bitcode' : Artifact}
    (hbitcode : (bitcode == bitcode') = true) (files files' : BitcodeFiles) (usePic usePic' : Bool)
    (copts copts' : List String) :
    (p.SameNames build p' ↔ p.link.output.path.EndsAlike p'.link.output.path) ∧
      (p.SameNames build p' →
        ((Backend.create build (.forIndexing p.link.output build.features) (some files) usePic bitcode copts).SameFiles
            (.create build (.forIndexing p'.link.output build.features) (some files') usePic' bitcode' copts') ↔
          bitcode.path.lastPiece = bitcode'.path.lastPiece)) ∧
      ((Backend.create build (.shared build.features) none usePic bitcode copts).SameFiles
          (.create build (.shared build.features) none usePic' bitcode' copts') ↔
        (Backend.writesDebugFile build = true → (bitcode.path.EndsInDots ↔ bitcode'.path.EndsInDots))) := by
  refine ⟨sameNames_iff build houtput, fun hnames => ?_, ?_⟩
  · refine (Backend.sameFiles_iff build hbitcode hnames.roots (LtoRoots.named_forIndexing _ _)
      (LtoRoots.named_forIndexing _ _) (some files) (some files') usePic usePic' copts copts' rfl).trans ?_
    exact ⟨fun h => h.1 rfl, fun h => ⟨fun _ => h, fun _ => Path.endsInDots_congr h⟩⟩
  · refine (Backend.sameFiles_iff build hbitcode (LtoRoots.Same.refl _) (LtoRoots.named_shared _)
      (LtoRoots.named_shared _) none none usePic usePic' copts copts' rfl).trans ?_
    exact ⟨fun h => h.2, fun h => ⟨(nomatch ·), h⟩⟩

namespace Sample

/-- The plan for an executable whose output is spelled in this way. -/
def spelledPlan (output : String) : BackendPlan :=
  { (default : BackendPlan) with link := { link (env []) [] [] with output := file output } }

/-- A doubled separator and a `.` within a path change nothing. -/
theorem inner_spelling_of_sample :
    (file "app//app" == file "app/./app") = true ∧ (file "dep/./dep.o" == file "dep//dep.o") = true ∧
      (spelledPlan "app//app").SameNames (env []).toBuild (spelledPlan "app/./app") ∧
      (Backend.create (env []).toBuild (.forIndexing (file "app//app") (env []).features) (some .empty) false
          (file "dep/./dep.o") []).SameFiles
        (.create (env []).toBuild (.forIndexing (file "app/./app") (env []).features) (some .empty) false
          (file "dep//dep.o") []) := by
  have houtput : (file "app//app" == file "app/./app") = true := by decide +kernel
  have hbitcode : (file "dep/./dep.o" == file "dep//dep.o") = true := by decide +kernel
  obtain ⟨hnames, hfiles, -⟩ := @BackendPlan.same_names_and_files_iff (env []).toBuild (spelledPlan "app//app")
    (spelledPlan "app/./app") houtput _ _ hbitcode .empty .empty false false [] []
  have hsame := hnames.2 (by decide +kernel)
  exact ⟨houtput, hbitcode, hsame, (hfiles hsame).2 (by decide +kernel)⟩

/-- A separator behind a path changes what is named after it: `app/app/` gives the roots, parameter file and merged
object of an output within `app/app`, and bitcode spelled `..x/` has no debug file of its own. -/
theorem trailing_separator_of_sample :
    (file "app/app" == file "app/app/") = true ∧ (file "..x" == file "..x/") = true ∧
      ((LtoRoots.forIndexing (file "app/app") (env []).features).outputRoot.text,
        (LtoRoots.forIndexing (file "app/app/") (env []).features).outputRoot.text) = ("app/app.lto", "app/app/.lto") ∧
      ¬ (spelledPlan "app/app").SameNames (env []).toBuild (spelledPlan "app/app/") ∧
      ((Backend.create fissionEnv.toBuild (.shared fissionEnv.features) none false (file "..x") []).dwoFile ==
        (Backend.create fissionEnv.toBuild (.shared fissionEnv.features) none false (file "..x/") []).dwoFile) =
          false := by
  refine ⟨by decide +kernel, by decide +kernel, by decide +kernel, fun h => ?_, by decide +kernel⟩
  exact absurd h.paramFile (by decide +kernel)

end Sample

end LinkPlanner
