import Mathlib.Data.List.Infix
import LinkPlanner.Proofs.PathText

/-! Paths in normal form. A tight path writes nothing that is not a step, so it is told by its text, and under a
directory it stays apart from every other tight path. A path in normal form has names for its steps: what is put
under it, written after it or done to its extension can be read off its pieces. -/

namespace LinkPlanner.Path

/-- The path is relative, and it has no `.` and no separator that is doubled or at the end. -/
def IsTight (p : Path) : Prop := ∀ piece ∈ pieces p.chars, isSilent piece = false

/-- Each piece of the path is the name of a step: the path is tight, and no piece is `..` either. -/
def IsNormal (p : Path) : Prop := ∀ piece ∈ pieces p.chars, step? piece = some (.name piece)

instance (p : Path) : Decidable p.IsNormal :=
  inferInstanceAs (Decidable (∀ piece ∈ pieces p.chars, step? piece = some (.name piece)))

variable {p q r : Path}

theorem IsNormal.isTight (hp : p.IsNormal) : p.IsTight := fun piece hpiece => isSilent_of_step? (hp piece hpiece)

theorem intercalate_pieces (cs : List Char) : ['/'].intercalate (pieces cs) = cs := List.intercalate_splitOn '/'

theorem pieces_intercalate {ps : List (List Char)} (hps : ps ≠ []) (hslash : ∀ piece ∈ ps, '/' ∉ piece) :
    pieces (['/'].intercalate ps) = ps :=
  List.splitOn_intercalate '/' hslash hps

theorem pieces_injective {p q : Path} (hpq : pieces p.chars = pieces q.chars) : p = q := by
  obtain ⟨cs⟩ := p
  obtain ⟨ds⟩ := q
  have htext : cs = ds := by
    rw [← intercalate_pieces cs, ← intercalate_pieces ds]
    exact congrArg _ hpq
  rw [htext]

/-! ### Paths without a head -/

theorem anchor_eq_of_none (hp : p.anchor.1 = none) : p.anchor = (none, p.chars) := by
  have htext := anchor_text p
  rw [hp] at htext
  exact Prod.ext hp htext

theorem components_of_anchor_none (hp : p.anchor.1 = none) : p.components = (pieces p.chars).filterMap step? := by
  rw [components_eq, hp]
  rfl

theorem isAbsolute_of_anchor_none (hp : p.anchor.1 = none) : p.isAbsolute = false := by
  rw [← Bool.not_eq_true, isAbsolute_iff, components_of_anchor_none hp]
  intro hroot
  cases isStep_of_mem_filterMap hroot

/-- What is put under a directory goes behind the same components, whatever it is. -/
theorem components_join (p : Path) (hq : q.anchor.1 = none) :
    (p.join q).components = components ⟨p.chars ++ p.separator⟩ ++ q.components := by
  have hsteps : q.components.filter Component.isStep = q.components := by
    rw [components_of_anchor_none hq]
    exact List.filter_eq_self.2 fun c hc => isStep_of_mem_filterMap hc
  rw [join_eq p (isAbsolute_of_anchor_none hq)]
  rcases chars_separator p with hnil | ⟨dir, hdir⟩
  · rw [hnil]
    rfl
  · rw [hdir, List.append_assoc, List.singleton_append, components_append_sep, hsteps]

/-- Under one directory, what is told apart stays apart. -/
theorem join_beq_join (hq : q.anchor.1 = none) (hr : r.anchor.1 = none) : (p.join q == p.join r) = (q == r) := by
  rw [Bool.eq_iff_iff, beq_iff, beq_iff, components_join p hq, components_join p hr, List.append_cancel_left_eq]

/-! ### Tight paths -/

theorem IsTight.anchor_eq_none (hp : p.IsTight) : p.anchor.1 = none := by
  obtain ⟨cs⟩ := p
  have hsilent : ∀ piece ∈ pieces cs, isSilent piece ≠ true := fun piece hpiece => by
    rw [hp piece hpiece]
    exact Bool.false_ne_true
  unfold anchor
  split
  · -- nothing before the first separator
    rename_i rest heq
    change cs = _ at heq
    subst heq
    exact absurd rfl (hsilent [] (pieces_append_sep [] rest ▸ List.mem_cons_self))
  · rename_i heq
    change cs = _ at heq
    subst heq
    exact absurd rfl (hsilent ['.'] List.mem_cons_self)
  · rename_i rest heq
    change cs = _ at heq
    subst heq
    exact absurd rfl (hsilent ['.'] (pieces_append_sep ['.'] rest ▸ List.mem_cons_self))
  · rfl

theorem IsTight.isAbsolute (hp : p.IsTight) : p.isAbsolute = false := isAbsolute_of_anchor_none hp.anchor_eq_none

/-- A text is read off its steps if none of its pieces is silent. -/
theorem filterMap_step?_injective {ps qs : List (List Char)} (hps : ∀ piece ∈ ps, isSilent piece = false)
    (hqs : ∀ piece ∈ qs, isSilent piece = false) (hsteps : ps.filterMap step? = qs.filterMap step?) : ps = qs := by
  have hchars : ∀ piece, isSilent piece = false → (step? piece).map Component.chars = some piece := by
    intro piece hloud
    unfold step?
    rw [hloud, if_neg Bool.false_ne_true]
    split
    · rename_i hup
      rw [hup]
      rfl
    · rfl
  have hread : ∀ ps : List (List Char), (∀ piece ∈ ps, isSilent piece = false) →
      (ps.filterMap step?).map Component.chars = ps := by
    intro ps hps
    calc (ps.filterMap step?).map Component.chars
        = ps.filterMap fun piece => (step? piece).map Component.chars := List.map_filterMap
      _ = ps.filterMap some := List.filterMap_congr fun piece hpiece => hchars piece (hps piece hpiece)
      _ = ps := List.filterMap_some
  rw [← hread ps hps, hsteps, hread qs hqs]

/-- A tight path is told by its spelling. -/
theorem IsTight.eq_of_beq (hp : p.IsTight) (hq : q.IsTight) (hpq : (p == q) = true) : p = q := by
  rw [beq_iff, components_of_anchor_none hp.anchor_eq_none, components_of_anchor_none hq.anchor_eq_none] at hpq
  exact pieces_injective (filterMap_step?_injective hp hq hpq)

theorem pieces_getLast_slash {cs : List Char} (hcs : cs.getLast? = some '/') : [] ∈ pieces cs := by
  obtain ⟨front, rfl⟩ := List.getLast?_eq_some_iff.1 hcs
  rw [pieces_append_sep]
  exact List.mem_append_right _ List.mem_cons_self

theorem IsTight.separator_eq (hp : p.IsTight) : p.separator = ['/'] := by
  rw [separator_eq_iff]
  refine ⟨fun hnil => ?_, fun hlast => ?_⟩
  · have hmem : [] ∈ pieces p.chars := by
      rw [hnil]
      exact List.mem_cons_self
    exact absurd (hp [] hmem) (by decide)
  · exact absurd (hp [] (pieces_getLast_slash hlast)) (by decide)

theorem IsTight.chars_join (hp : p.IsTight) (hq : q.isAbsolute = false) :
    (p.join q).chars = p.chars ++ '/' :: q.chars := by
  rw [Path.chars_join p hq, hp.separator_eq, List.append_assoc, List.singleton_append]

theorem IsTight.pieces_join (hp : p.IsTight) (hq : q.isAbsolute = false) :
    pieces (p.join q).chars = pieces p.chars ++ pieces q.chars := by
  rw [hp.chars_join hq, pieces_append_sep]

theorem IsTight.join (hp : p.IsTight) (hq : q.IsTight) : (p.join q).IsTight := by
  intro piece hpiece
  rw [hp.pieces_join hq.isAbsolute, List.mem_append] at hpiece
  exact hpiece.elim (hp piece) (hq piece)

/-! ### Clean paths -/

instance (p : Path) : Decidable p.IsTight :=
  inferInstanceAs (Decidable (∀ piece ∈ pieces p.chars, isSilent piece = false))

/-- The path is empty or tight, so that its text holds nothing but its steps. -/
def IsClean (p : Path) : Prop := p.chars = [] ∨ p.IsTight

instance (p : Path) : Decidable p.IsClean := inferInstanceAs (Decidable (p.chars = [] ∨ p.IsTight))

theorem IsClean.anchor_eq_none (hp : p.IsClean) : p.anchor.1 = none := by
  rcases hp with hp | hp
  · obtain ⟨cs⟩ := p
    change cs = [] at hp
    rw [hp]
    rfl
  · exact hp.anchor_eq_none

theorem isSilent_eq_false_iff {piece : List Char} : isSilent piece = false ↔ piece ≠ [] ∧ piece ≠ ['.'] := by
  unfold isSilent
  simp

theorem IsTight.components_ne_nil (hp : p.IsTight) : p.components ≠ [] := by
  obtain ⟨piece, rest, hpieces⟩ := List.exists_cons_of_ne_nil (pieces_ne_nil p.chars)
  have hpiece : piece ∈ pieces p.chars := hpieces ▸ List.mem_cons_self
  rw [components_of_anchor_none hp.anchor_eq_none]
  intro hnil
  have hstep := List.filterMap_eq_nil_iff.1 hnil piece hpiece
  unfold step? at hstep
  rw [hp piece hpiece, if_neg Bool.false_ne_true] at hstep
  split at hstep <;> cases hstep

/-- A clean path is told by its spelling. -/
theorem IsClean.eq_of_beq (hp : p.IsClean) (hq : q.IsClean) (hpq : (p == q) = true) : p = q := by
  have hempty : ∀ {r : Path}, r.chars = [] → r.components = [] := fun {r} hr => by
    rw [show r = .empty from congrArg Path.mk hr]
    rfl
  have hcomponents := beq_iff.1 hpq
  rcases hp with hp | hp <;> rcases hq with hq | hq
  · exact congrArg Path.mk (hp.trans hq.symm)
  · exact absurd (hcomponents ▸ hempty hp) hq.components_ne_nil
  · exact absurd (hcomponents ▸ hempty hq) hp.components_ne_nil
  · exact hp.eq_of_beq hq hpq

/-- What is written after a clean path leaves it plain. -/
theorem IsClean.append (hp : p.IsClean) {s : String} (hs : '/' ∉ s.toList) (hdot : s.toList ≠ ['.']) :
    (p.append s).IsClean := by
  obtain ⟨before, last, hpieces, happend⟩ := pieces_append hs p.chars
  rcases hp with hp | hp
  · -- nothing comes before the ending
    by_cases hnil : s.toList = []
    · exact Or.inl (by rw [Path.append, hp, hnil]; rfl)
    · right
      intro piece hpiece
      have hsingle : pieces s.toList = [s.toList] := List.splitOn_eq_singleton hs
      rw [Path.append, hp, List.nil_append, hsingle, List.mem_singleton] at hpiece
      rw [hpiece, isSilent_eq_false_iff]
      exact ⟨hnil, hdot⟩
  · right
    intro piece hpiece
    rw [Path.append, happend, List.mem_append, List.mem_singleton] at hpiece
    rcases hpiece with hpiece | rfl
    · exact hp piece (hpieces ▸ List.mem_append_left _ hpiece)
    · have hlast := isSilent_eq_false_iff.1 (hp last (hpieces ▸ List.mem_append_right _ (List.mem_singleton_self last)))
      rw [isSilent_eq_false_iff]
      refine ⟨List.append_ne_nil_of_left_ne_nil hlast.1 _, fun heq => ?_⟩
      rcases List.append_eq_singleton_iff.1 heq with ⟨h, -⟩ | ⟨h, -⟩
      · exact hlast.1 h
      · exact hlast.2 h

/-- No ending is the end of another one. -/
def SuffixFree (endings : List String) : Prop := ∀ s ∈ endings, ∀ t ∈ endings, s.toList <:+ t.toList → s = t

instance (endings : List String) : Decidable (SuffixFree endings) :=
  inferInstanceAs (Decidable (∀ s ∈ endings, ∀ t ∈ endings, s.toList <:+ t.toList → s = t))

/-- What is written after a path can be told from what comes of it. -/
theorem append_injective {endings : List String} (hends : SuffixFree endings) {s t : String} (hs : s ∈ endings)
    (ht : t ∈ endings) (hst : p.append s = q.append t) : s = t ∧ p = q := by
  have hchars : p.chars ++ s.toList = q.chars ++ t.toList := congrArg Path.chars hst
  have heq : s = t := by
    rcases List.suffix_or_suffix_of_suffix (hchars ▸ List.suffix_append p.chars s.toList)
      (List.suffix_append q.chars t.toList) with h | h
    · exact hends s hs t ht h
    · exact (hends t ht s hs h).symm
  subst heq
  exact ⟨rfl, congrArg Path.mk (List.append_cancel_right hchars)⟩

/-! ### Paths in normal form -/

theorem IsNormal.join (hp : p.IsNormal) (hq : q.IsNormal) : (p.join q).IsNormal := by
  intro piece hpiece
  rw [hp.isTight.pieces_join hq.isTight.isAbsolute, List.mem_append] at hpiece
  exact hpiece.elim (hp piece) (hq piece)

/-- A path in normal form has a last name. -/
theorem IsNormal.exists_last (hp : p.IsNormal) :
    ∃ before name, pieces p.chars = before ++ [name] ∧ (∀ piece ∈ before, step? piece = some (.name piece)) ∧
      step? name = some (.name name) := by
  refine ⟨(pieces p.chars).dropLast, (pieces p.chars).getLast (pieces_ne_nil _),
    (List.dropLast_append_getLast (pieces_ne_nil _)).symm, fun piece hpiece => ?_, ?_⟩
  · exact hp piece (List.mem_of_mem_dropLast hpiece)
  · exact hp _ (List.getLast_mem _)

theorem step?_eq_name_iff {piece : List Char} :
    step? piece = some (.name piece) ↔ piece ≠ [] ∧ piece ≠ ['.'] ∧ piece ≠ ['.', '.'] := by
  unfold step? isSilent
  by_cases hempty : piece = [] <;> by_cases hdot : piece = ['.'] <;> by_cases hup : piece = ['.', '.'] <;>
    simp [hempty, hdot, hup]

/-- A name with something written after it is a name. -/
theorem step?_append {piece : List Char} (hpiece : step? piece = some (.name piece)) (s : List Char) :
    step? (piece ++ s) = some (.name (piece ++ s)) := by
  rw [step?_eq_name_iff] at hpiece ⊢
  obtain ⟨hempty, hdot, hup⟩ := hpiece
  refine ⟨List.append_ne_nil_of_left_ne_nil hempty s, ?_, ?_⟩
  · intro heq
    rcases List.append_eq_singleton_iff.1 heq with ⟨h, -⟩ | ⟨h, -⟩
    · exact hempty h
    · exact hdot h
  · intro heq
    match piece, hempty, hdot, hup, heq with
    | [c], _, hdot, _, heq => exact hdot (by rw [(List.cons.inj heq).1])
    | [c, d], _, _, hup, heq =>
        obtain ⟨rfl, htail⟩ := List.cons.inj heq
        exact hup (by rw [(List.cons.inj htail).1])

theorem IsNormal.append (hp : p.IsNormal) {s : String} (hs : '/' ∉ s.toList) :
    (p.append s).IsNormal ∧ (pieces (p.append s).chars).length = (pieces p.chars).length := by
  obtain ⟨before, last, hpieces, happend⟩ := pieces_append hs p.chars
  constructor
  · intro piece hpiece
    change piece ∈ pieces (p.chars ++ s.toList) at hpiece
    rw [happend, List.mem_append, List.mem_singleton] at hpiece
    rcases hpiece with hpiece | rfl
    · exact hp piece (hpieces ▸ List.mem_append_left _ hpiece)
    · exact step?_append (hp last (hpieces ▸ List.mem_append_right _ (List.mem_singleton_self _))) s.toList
  · change (pieces (p.chars ++ s.toList)).length = _
    rw [happend, hpieces, List.length_append, List.length_append, List.length_singleton, List.length_singleton]

theorem IsNormal.fileName?_eq (hp : p.IsNormal) {before : List (List Char)} {name : List Char}
    (hpieces : pieces p.chars = before ++ [name]) : p.fileName? = some name := by
  have hname := hp name (hpieces ▸ List.mem_append_right _ (List.mem_singleton_self name))
  unfold fileName?
  rw [components_of_anchor_none hp.isTight.anchor_eq_none, hpieces, List.filterMap_append, List.filterMap_cons, hname,
    List.filterMap_nil, List.getLast?_concat]

theorem dropWhile_isSilent_eq_self {ps : List (List Char)} (hps : ∀ piece ∈ ps, isSilent piece = false) :
    ps.dropWhile isSilent = ps := by
  cases ps with
  | nil => rfl
  | cons piece ps =>
      apply List.dropWhile_cons_of_neg
      rw [hps piece List.mem_cons_self]
      exact Bool.false_ne_true

/-- The directory of a path in normal form is what stands before the last name. -/
theorem IsNormal.directory_eq (hp : p.IsNormal) {before : List (List Char)} {name : List Char}
    (hpieces : pieces p.chars = before ++ [name]) : p.directory = ⟨['/'].intercalate before⟩ := by
  have hloud : ∀ piece ∈ (before ++ [name]).reverse, isSilent piece = false := fun piece hpiece =>
    hp.isTight piece (hpieces ▸ List.mem_reverse.1 hpiece)
  have hbefore : before.reverse.dropWhile isSilent = before.reverse := by
    apply dropWhile_isSilent_eq_self
    intro piece hpiece
    exact hloud piece (by rw [List.reverse_concat]; exact List.mem_cons_of_mem _ hpiece)
  unfold directory parent?
  rw [anchor_eq_of_none hp.isTight.anchor_eq_none]
  dsimp only
  rw [hpieces, dropWhile_isSilent_eq_self hloud, List.reverse_concat]
  dsimp only
  rw [hbefore, List.reverse_reverse, Option.getD_some]
  rfl

/-- What goes beside a path in normal form stands for its last name. -/
theorem IsNormal.pieces_directory_join (hp : p.IsNormal) {before : List (List Char)} {name : List Char}
    (hpieces : pieces p.chars = before ++ [name]) (hq : q.isAbsolute = false) :
    pieces (p.directory.join q).chars = before ++ pieces q.chars := by
  rw [hp.directory_eq hpieces]
  cases before with
  | nil =>
      unfold Path.join
      rw [hq]
      rfl
  | cons first before =>
      have hdirectory : pieces (['/'].intercalate (first :: before)) = first :: before :=
        pieces_intercalate (List.cons_ne_nil _ _) fun piece hpiece =>
          not_mem_of_mem_pieces (hpieces ▸ List.mem_append_left _ hpiece)
      have htight : IsTight ⟨['/'].intercalate (first :: before)⟩ := by
        intro piece hpiece
        rw [hdirectory] at hpiece
        exact hp.isTight piece (hpieces ▸ List.mem_append_left _ hpiece)
      rw [htight.pieces_join hq, hdirectory]

/-! ### Another extension -/

/-- A file name with another extension. Two dots and an extension lose it and leave no file name. -/
def withSuffix (extension : String) (name : List Char) : List Char :=
  if stem name = ['.'] then ['.', '.'] else stem name ++ '.' :: extension.toList

theorem not_mem_withSuffix {extension : String} (hextension : '/' ∉ extension.toList) {name : List Char}
    (hname : '/' ∉ name) : '/' ∉ withSuffix extension name := by
  unfold withSuffix
  split
  · decide
  · rw [List.mem_append, List.mem_cons]
    rintro (hslash | hslash | hslash)
    · exact hname (stem_subset name hslash)
    · cases hslash
    · exact hextension hslash

theorem isSilent_withSuffix {extension : String} {name : List Char} (hname : name ≠ []) :
    isSilent (withSuffix extension name) = false := by
  unfold withSuffix
  split
  · rfl
  · rename_i hstem
    exact isSilent_of_step? (step?_of_stem ⟨stem_ne_nil hname, hstem⟩ extension.toList)

/-- A path in normal form changes its last name and nothing else. -/
theorem IsNormal.withExtension_eq (hp : p.IsNormal) {before : List (List Char)} {name : List Char}
    (hpieces : pieces p.chars = before ++ [name]) (extension : String) :
    p.withExtension extension = ⟨['/'].intercalate (before ++ [withSuffix extension name])⟩ := by
  have hloud : ∀ piece ∈ name :: before.reverse, isSilent piece = false := by
    intro piece hpiece
    rw [← List.reverse_concat, ← hpieces] at hpiece
    exact hp.isTight piece (List.mem_reverse.1 hpiece)
  unfold withExtension withSuffix
  rw [anchor_eq_of_none hp.isTight.anchor_eq_none, hp.fileName?_eq hpieces]
  dsimp only
  rw [hpieces, List.reverse_concat, dropWhile_isSilent_eq_self hloud]
  simp only [List.head?_cons, decide_true, Bool.and_true, decide_eq_true_eq, List.tail_cons, List.reverse_cons,
    List.reverse_reverse]
  rfl

section Extension

variable (hp : p.IsNormal) {extension : String} (hextension : '/' ∉ extension.toList)
include hp hextension

theorem IsNormal.pieces_withExtension {before : List (List Char)} {name : List Char}
    (hpieces : pieces p.chars = before ++ [name]) :
    pieces (p.withExtension extension).chars = before ++ [withSuffix extension name] := by
  rw [hp.withExtension_eq hpieces]
  apply pieces_intercalate (List.append_ne_nil_of_right_ne_nil _ (List.cons_ne_nil _ _))
  intro piece hpiece
  rw [List.mem_append, List.mem_singleton] at hpiece
  rcases hpiece with hpiece | rfl
  · exact not_mem_of_mem_pieces (hpieces ▸ List.mem_append_left _ hpiece)
  · exact not_mem_withSuffix hextension
      (not_mem_of_mem_pieces (hpieces ▸ List.mem_append_right _ (List.mem_singleton_self name)))

theorem IsNormal.withExtension :
    (p.withExtension extension).IsTight ∧
      (pieces (p.withExtension extension).chars).length = (pieces p.chars).length := by
  obtain ⟨before, name, hpieces, hbefore, hname⟩ := hp.exists_last
  have hchanged := hp.pieces_withExtension hextension hpieces
  constructor
  · intro piece hpiece
    rw [hchanged, List.mem_append, List.mem_singleton] at hpiece
    rcases hpiece with hpiece | rfl
    · exact isSilent_of_step? (hbefore piece hpiece)
    · exact isSilent_withSuffix (step?_eq_name_iff.1 hname).1
  · rw [hchanged, hpieces, List.length_append, List.length_append, List.length_singleton, List.length_singleton]

/-- The extension is that of the file, wherever the file lies. -/
theorem IsNormal.withExtension_join (hq : q.IsNormal) :
    (q.join p).withExtension extension = q.join (p.withExtension extension) := by
  obtain ⟨before, name, hpieces, -, -⟩ := hp.exists_last
  have hjoined : pieces (q.join p).chars = (pieces q.chars ++ before) ++ [name] := by
    rw [hq.isTight.pieces_join hp.isTight.isAbsolute, hpieces, List.append_assoc]
  apply pieces_injective
  rw [(hq.join hp).pieces_withExtension hextension hjoined,
    hq.isTight.pieces_join (hp.withExtension hextension).1.isAbsolute, hp.pieces_withExtension hextension hpieces,
    List.append_assoc]

end Extension
end LinkPlanner.Path
