import Mathlib.Algebra.GroupWithZero.Nat
import LinkPlanner.Files.Path

/-! What a path loses and keeps when text is written after it. The components of a path are those of its
pieces, so an ending without a separator stays at the end of the last name. The weight of a path adds up
the lengths of its names: paths that are the same have the same weight, and what the planner writes after
a path makes it heavier. -/

namespace LinkPlanner

/-- No part of a text that is split holds the separator. -/
theorem not_mem_of_mem_splitOn {c : Char} {cs part : List Char} (hpart : part ∈ cs.splitOn c) : c ∉ part := by
  induction cs generalizing part with
  | nil =>
      rw [List.mem_singleton.1 hpart]
      exact List.not_mem_nil
  | cons d cs ih =>
      rw [List.splitOn_cons_eq_if_modifyHead] at hpart
      split at hpart
      · rcases List.mem_cons.1 hpart with rfl | hpart
        · exact List.not_mem_nil
        · exact ih hpart
      · rename_i hd
        obtain ⟨first, rest, hcs⟩ := List.exists_cons_of_ne_nil (List.splitOn_ne_nil c cs)
        rw [hcs, List.modifyHead_cons] at hpart
        rcases List.mem_cons.1 hpart with rfl | hpart
        · rw [List.mem_cons]
          rintro (hc | hc)
          · exact hd (beq_iff_eq.2 hc.symm)
          · exact ih (hcs ▸ List.mem_cons_self) hc
        · exact ih (hcs ▸ List.mem_cons_of_mem _ hpart)

/-- A character that is no separator stands in a joined text if it stands in one of the parts. -/
theorem mem_intercalate_iff {c d : Char} (hc : c ≠ d) {parts : List (List Char)} :
    c ∈ [d].intercalate parts ↔ ∃ part ∈ parts, c ∈ part := by
  induction parts with
  | nil => simp
  | cons part parts ih =>
      by_cases hnil : parts = []
      · simp [hnil]
      · simp [List.intercalate_cons_of_ne_nil hnil, ih, hc]

namespace Path

/-! ### Pieces -/

theorem pieces_ne_nil (cs : List Char) : pieces cs ≠ [] := List.splitOn_ne_nil '/' cs

theorem pieces_cons (c : Char) (cs : List Char) :
    pieces (c :: cs) = if c == '/' then [] :: pieces cs else (pieces cs).modifyHead (c :: ·) :=
  List.splitOn_cons_eq_if_modifyHead c cs

theorem pieces_append_sep (cs ds : List Char) : pieces (cs ++ '/' :: ds) = pieces cs ++ pieces ds :=
  List.splitOn_append_cons_self cs ds

theorem not_mem_of_mem_pieces {cs piece : List Char} (hpiece : piece ∈ pieces cs) : '/' ∉ piece :=
  not_mem_of_mem_splitOn hpiece

/-- An ending without a separator goes to the last piece. -/
theorem pieces_append {s : List Char} (hs : '/' ∉ s) (cs : List Char) :
    ∃ before last, pieces cs = before ++ [last] ∧ pieces (cs ++ s) = before ++ [last ++ s] := by
  induction cs with
  | nil => exact ⟨[], [], rfl, List.splitOn_eq_singleton hs⟩
  | cons c cs ih =>
      obtain ⟨before, last, hcs, hcss⟩ := ih
      rw [List.cons_append, pieces_cons, pieces_cons, hcs, hcss]
      split
      · exact ⟨[] :: before, last, rfl, rfl⟩
      · cases before with
        | nil => exact ⟨[], c :: last, rfl, rfl⟩
        | cons first before => exact ⟨(c :: first) :: before, last, rfl, rfl⟩

/-- The components are those of the pieces, after the root or the leading `.`. -/
theorem components_eq (p : Path) : p.components = p.anchor.1.toList ++ (pieces p.chars).filterMap step? := by
  obtain ⟨cs⟩ := p
  change (anchor ⟨cs⟩).1.toList ++ (pieces (anchor ⟨cs⟩).2).filterMap step? = _
  congr 1
  -- the head of the path is itself a piece, but a silent one
  unfold anchor
  split
  · rename_i rest heq
    change cs = _ at heq
    rw [heq]
    rfl
  · rename_i heq
    change cs = _ at heq
    rw [heq]
    rfl
  · rename_i rest heq
    change cs = _ at heq
    rw [heq]
    rfl
  · rfl

theorem anchor_of_plain {c : Char} {rest : List Char} (hc : c ≠ '/') (hrest : c = '.' → ∃ d ∈ rest.head?, d ≠ '/') :
    anchor ⟨c :: rest⟩ = (none, c :: rest) := by
  unfold anchor
  split
  · rename_i heq
    cases heq
    exact absurd rfl hc
  · rename_i heq
    cases heq
    obtain ⟨d, hd, -⟩ := hrest rfl
    cases hd
  · rename_i heq
    cases heq
    obtain ⟨d, hd, hne⟩ := hrest rfl
    cases hd
    exact absurd rfl hne
  · rfl

/-- How a path begins is decided before its last separator. -/
theorem anchor_append_sep {dir : List Char} (hdir : dir ≠ []) (name : List Char) :
    anchor ⟨dir ++ '/' :: name⟩ = ((anchor ⟨dir⟩).1, (anchor ⟨dir⟩).2 ++ '/' :: name) := by
  obtain ⟨c, rest, rfl⟩ := List.exists_cons_of_ne_nil hdir
  by_cases hc : c = '/'
  · subst hc
    rfl
  by_cases hrest : c = '.' → ∃ d ∈ rest.head?, d ≠ '/'
  · rw [anchor_of_plain hc hrest, List.cons_append, anchor_of_plain hc]
    intro hdot
    obtain ⟨d, hd, hne⟩ := hrest hdot
    exact ⟨d, by rw [List.head?_append, Option.mem_def.1 hd]; rfl, hne⟩
  · obtain ⟨rfl, hhead⟩ := Classical.not_imp.1 hrest
    cases rest with
    | nil => rfl
    | cons d rest =>
        have hd : d = '/' := Decidable.byContradiction fun hne => hhead ⟨d, rfl, hne⟩
        subst hd
        rfl

/-! ### The same path under another one -/

/-- The component is a step, and no head of a path. -/
def Component.isStep : Component → Bool
  | .root | .here => false
  | .up | .name _ => true

theorem isStep_of_step? {piece : List Char} {c : Component} (h : step? piece = some c) : c.isStep = true := by
  unfold step? at h
  split at h
  · cases h
  · split at h <;> cases h <;> rfl

theorem isStep_of_mem_filterMap {ps : List (List Char)} {c : Component} (hc : c ∈ ps.filterMap step?) :
    c.isStep = true := by
  obtain ⟨piece, -, hstep⟩ := List.mem_filterMap.1 hc
  exact isStep_of_step? hstep

theorem anchor_head (p : Path) : p.anchor.1 = none ∨ p.anchor.1 = some .root ∨ p.anchor.1 = some .here := by
  unfold anchor
  split
  · exact Or.inr (Or.inl rfl)
  · exact Or.inr (Or.inr rfl)
  · exact Or.inr (Or.inr rfl)
  · exact Or.inl rfl

/-- Which steps a text names can be told from the components of the path. -/
theorem filterMap_step?_eq (cs : List Char) :
    (pieces cs).filterMap step? = (components ⟨cs⟩).filter Component.isStep := by
  have hsteps : ((pieces cs).filterMap step?).filter Component.isStep = (pieces cs).filterMap step? :=
    List.filter_eq_self.2 fun c hc => isStep_of_mem_filterMap hc
  rw [components_eq, List.filter_append, hsteps]
  rcases anchor_head ⟨cs⟩ with hhead | hhead | hhead <;> rw [hhead] <;> rfl

theorem chars_of_step? {piece : List Char} {c : Component} (h : step? piece = some c) : c.chars = piece := by
  unfold step? at h
  split at h
  · cases h
  · split at h <;> cases h
    · rename_i hup
      exact hup.symm
    · rfl

/-- The text of a step reads as that step. -/
theorem step?_chars {p : Path} {c : Component} (hc : c ∈ p.components) (hstep : c.isStep = true) :
    step? c.chars = some c ∧ '/' ∉ c.chars := by
  have hmem : c ∈ (pieces p.chars).filterMap step? := by
    rw [filterMap_step?_eq]
    exact List.mem_filter.2 ⟨hc, hstep⟩
  obtain ⟨piece, hpiece, h⟩ := List.mem_filterMap.1 hmem
  rw [chars_of_step? h]
  exact ⟨h, not_mem_of_mem_pieces hpiece⟩

theorem isAbsolute_iff (p : Path) : p.isAbsolute = true ↔ .root ∈ p.components := by
  have hhead : p.isAbsolute = true ↔ .root ∈ p.anchor.1.toList := by
    obtain ⟨cs⟩ := p
    unfold isAbsolute anchor
    split
    · rename_i rest heq
      change cs = _ at heq
      subst heq
      simp
    · rename_i heq
      change cs = _ at heq
      subst heq
      simp
    · rename_i rest heq
      change cs = _ at heq
      subst heq
      simp
    · rename_i hroot _ _
      cases cs with
      | nil => simp
      | cons c cs =>
          have hc : c ≠ '/' := by
            rintro rfl
            exact hroot cs rfl
          simpa using hc
  rw [components_eq, List.mem_append, hhead]
  refine ⟨Or.inl, fun h => h.resolve_right fun hroot => ?_⟩
  cases isStep_of_mem_filterMap hroot

theorem isAbsolute_congr {p q : Path} (hpq : (p == q) = true) : p.isAbsolute = q.isAbsolute := by
  rw [Bool.eq_iff_iff, isAbsolute_iff, isAbsolute_iff, beq_iff.1 hpq]

/-- What stands after a separator counts by its steps. -/
theorem components_append_sep (dir name : List Char) :
    components ⟨dir ++ '/' :: name⟩ =
      components ⟨dir ++ ['/']⟩ ++ (components ⟨name⟩).filter Component.isStep := by
  have hhead : (anchor ⟨dir ++ '/' :: name⟩).1 = (anchor ⟨dir ++ ['/']⟩).1 := by
    by_cases hdir : dir = []
    · subst hdir
      rfl
    · rw [anchor_append_sep hdir, anchor_append_sep hdir]
  have hend : (pieces []).filterMap step? = [] := rfl
  rw [← filterMap_step?_eq, components_eq, components_eq, hhead, pieces_append_sep, pieces_append_sep,
    List.filterMap_append, List.filterMap_append, hend, List.append_nil, List.append_assoc]

/-! ### Joined paths -/

/-- What a join writes between the path and what goes after it. -/
def separator (p : Path) : List Char := if p.chars = [] ∨ p.chars.getLast? = some '/' then [] else ['/']

theorem separator_eq_iff {p : Path} : p.separator = ['/'] ↔ p.chars ≠ [] ∧ p.chars.getLast? ≠ some '/' := by
  unfold separator
  split
  · rename_i hend
    exact ⟨fun h => (nomatch h), fun h => (not_or.2 h hend).elim⟩
  · rename_i hend
    exact ⟨fun _ => not_or.1 hend, fun _ => rfl⟩

/-- Whatever goes after a path goes after a separator, unless there is nothing before it. -/
theorem chars_separator (p : Path) :
    p.chars ++ p.separator = [] ∨ ∃ dir, p.chars ++ p.separator = dir ++ ['/'] := by
  unfold separator
  split
  · rename_i hend
    rw [List.append_nil]
    exact hend.imp_right List.getLast?_eq_some_iff.1
  · exact Or.inr ⟨p.chars, rfl⟩

theorem chars_join (p : Path) {q : Path} (hq : q.isAbsolute = false) :
    (p.join q).chars = p.chars ++ p.separator ++ q.chars := by
  unfold join separator
  rw [hq, if_neg Bool.false_ne_true]
  by_cases hend : p.chars = [] ∨ p.chars.getLast? = some '/'
  · rw [if_pos (by simpa using hend), if_pos hend, List.append_nil]
  · rw [if_neg (by simpa using hend), if_neg hend, List.append_assoc, List.singleton_append]

theorem join_eq (p : Path) {q : Path} (hq : q.isAbsolute = false) : p.join q = ⟨p.chars ++ p.separator ++ q.chars⟩ :=
  congrArg Path.mk (chars_join p hq)

theorem not_mem_chars_join {c : Char} (hc : c ≠ '/') {p q : Path} (hp : c ∉ p.chars) (hq : c ∉ q.chars)
    (hrelative : q.isAbsolute = false) : c ∉ (p.join q).chars := by
  have hsep : c ∉ p.separator := by
    unfold separator
    split <;> simp [hc]
  rw [chars_join p hrelative, List.mem_append, List.mem_append]
  exact fun h => h.elim (fun h => h.elim hp hsep) hq

/-- An ending that does not begin with a separator says nothing about where a path starts. -/
theorem isAbsolute_append (p : Path) {s : String} (hs : s.toList.head? ≠ some '/') :
    (p.append s).isAbsolute = p.isAbsolute := by
  unfold isAbsolute append
  cases hchars : p.chars with
  | nil => simpa using hs
  | cons c cs => rfl

theorem isAbsolute_join {p q : Path} (hp : p.isAbsolute = false) (hchars : p.chars ≠ []) (hq : q.isAbsolute = false) :
    (p.join q).isAbsolute = false := by
  obtain ⟨c, cs, hcs⟩ := List.exists_cons_of_ne_nil hchars
  unfold isAbsolute at hp ⊢
  rw [chars_join p hq, hcs, List.cons_append, List.cons_append]
  rw [hcs] at hp
  exact hp

/-- An ending is written after a path that lies under another one. -/
theorem join_append (p q : Path) {s : String} (hs : '/' ∉ s.toList) : p.join (q.append s) = (p.join q).append s := by
  have hhead : s.toList.head? ≠ some '/' := fun hhead => hs (List.mem_of_mem_head? hhead)
  unfold join
  rw [isAbsolute_append q hhead]
  unfold append
  split
  · rfl
  · split <;> simp

theorem separator_join (p : Path) {q : Path} (hq : q.chars ≠ []) (hroot : q.isAbsolute = false) :
    (p.join q).separator = q.separator := by
  have hend : ∀ cs : List Char, (cs ++ q.chars).getLast? = q.chars.getLast? := fun cs => by
    rw [List.getLast?_append, List.getLast?_eq_some_getLast hq, Option.some_or]
  rw [join_eq p hroot]
  simp only [separator, hend, List.append_eq_nil_iff, hq, and_false, false_or]

/-- Of three paths it does not matter which two are put together first. -/
theorem join_assoc (p : Path) {q r : Path} (hq : q.chars ≠ []) (hr : r.isAbsolute = false) :
    p.join (q.join r) = (p.join q).join r := by
  cases hroot : q.isAbsolute with
  | true =>
      have hjoined : (q.join r).isAbsolute = true := by
        obtain ⟨c, cs, hcs⟩ := List.exists_cons_of_ne_nil hq
        unfold isAbsolute at hroot ⊢
        rw [chars_join q hr, hcs]
        rw [hcs] at hroot
        exact hroot
      rw [show p.join q = q from if_pos hroot]
      exact if_pos hjoined
  | false =>
      rw [join_eq p (isAbsolute_join hroot hq hr), join_eq (p.join q) hr, separator_join p hq hroot, chars_join q hr,
        chars_join p hroot]
      simp only [List.append_assoc]

/-- A separator has to be written after a path that ends in this way. -/
theorem separator_append {s : String} (hs : s.toList ≠ []) (hend : s.toList.getLast? ≠ some '/') (p : Path) :
    (p.append s).separator = ['/'] := by
  rw [separator_eq_iff]
  unfold append
  obtain ⟨c, hc⟩ := List.getLast?_isSome.2 hs |> Option.isSome_iff_exists.1
  refine ⟨List.append_ne_nil_of_right_ne_nil _ hs, ?_⟩
  rw [List.getLast?_append, hc, Option.some_or]
  exact hc ▸ hend

/-- One path in two spellings leads to the same place from another path. -/
theorem join_congr (p : Path) {q r : Path} (hqr : (q == r) = true) : (p.join q == p.join r) = true := by
  have hsteps := congrArg (List.filter Component.isStep) (beq_iff.1 hqr)
  have hsame := isAbsolute_congr hqr
  cases hq : q.isAbsolute with
  | true =>
      unfold join
      rw [← hsame, hq, if_pos rfl, if_pos rfl]
      exact hqr
  | false =>
      rw [hq] at hsame
      rw [join_eq p hq, join_eq p hsame.symm]
      rcases chars_separator p with hnil | ⟨dir, hdir⟩
      · rw [hnil]
        exact hqr
      · rw [hdir, List.append_assoc, List.append_assoc, List.singleton_append, List.singleton_append, beq_iff,
          components_append_sep dir q.chars, components_append_sep dir r.chars, hsteps]

/-! ### Endings -/

theorem step?_of_three_le {piece : List Char} (hlen : 3 ≤ piece.length) : step? piece = some (.name piece) := by
  unfold step? isSilent
  match piece, hlen with
  | a :: b :: c :: rest, _ => simp

/-- An ending of some length stays at the end of the file name, whatever stood before it. -/
theorem components_append {s : String} (hs : '/' ∉ s.toList) (hlen : 3 ≤ s.toList.length) (p : Path) :
    ∃ before last, (p.append s).components = before ++ [.name (last ++ s.toList)] := by
  obtain ⟨before, last, -, hpieces⟩ := pieces_append hs p.chars
  have hstep : step? (last ++ s.toList) = some (.name (last ++ s.toList)) :=
    step?_of_three_le (by rw [List.length_append]; omega)
  refine ⟨(p.append s).anchor.1.toList ++ before.filterMap step?, last, ?_⟩
  rw [components_eq, append, hpieces, List.filterMap_append, List.append_assoc]
  congr 2
  simp only [List.filterMap_cons, hstep, List.filterMap_nil]

/-! ### Weight -/

/-- How many characters name a step; the root and a leading `.` weigh nothing. -/
def Component.weight : Component → Nat
  | .root | .here => 0
  | .up => 2
  | .name cs => cs.length

/-- The number of characters in the names of a path. -/
def weight (p : Path) : Nat := (p.components.map Component.weight).sum

theorem weight_congr {p q : Path} (hpq : (p == q) = true) : p.weight = q.weight := by
  unfold weight
  rw [beq_iff.1 hpq]

/-- The weight that a piece adds to a path. -/
def pieceWeight (piece : List Char) : Nat := if piece = ['.'] then 0 else piece.length

/-- The weight of the pieces of a text. -/
def textWeight (cs : List Char) : Nat := ((pieces cs).map pieceWeight).sum

theorem sum_weight_filterMap_step? (ps : List (List Char)) :
    ((ps.filterMap step?).map Component.weight).sum = (ps.map pieceWeight).sum := by
  induction ps with
  | nil => rfl
  | cons piece ps ih =>
      rw [List.map_cons, List.sum_cons, ← ih, List.filterMap_cons]
      unfold step? isSilent pieceWeight
      by_cases hempty : piece = []
      · subst hempty
        simp
      by_cases hdot : piece = ['.']
      · subst hdot
        simp
      by_cases hup : piece = ['.', '.']
      · subst hup
        simp [Component.weight]
      · simp [hempty, hdot, hup, Component.weight]

theorem sum_weight_anchor (p : Path) : (p.anchor.1.toList.map Component.weight).sum = 0 := by
  unfold anchor
  split <;> rfl

theorem weight_eq (p : Path) : p.weight = textWeight p.chars := by
  unfold weight textWeight
  rw [components_eq, List.map_append, List.sum_append, sum_weight_anchor, sum_weight_filterMap_step?,
    Nat.zero_add]

theorem weight_eq_textWeight_body (p : Path) : p.weight = textWeight p.anchor.2 := by
  change ((p.anchor.1.toList ++ (pieces p.anchor.2).filterMap step?).map Component.weight).sum = _
  rw [List.map_append, List.sum_append, sum_weight_anchor, sum_weight_filterMap_step?, Nat.zero_add]
  rfl

theorem textWeight_append_sep (cs ds : List Char) :
    textWeight (cs ++ '/' :: ds) = textWeight cs + textWeight ds := by
  unfold textWeight
  rw [pieces_append_sep, List.map_append, List.sum_append]

theorem pieceWeight_le (piece : List Char) : pieceWeight piece ≤ piece.length := by
  unfold pieceWeight
  split <;> omega

theorem le_pieceWeight_append {s : List Char} (hlen : 2 ≤ s.length) (piece : List Char) :
    pieceWeight piece + s.length ≤ pieceWeight (piece ++ s) := by
  have hne : piece ++ s ≠ ['.'] := by
    intro heq
    have := congrArg List.length heq
    rw [List.length_append, List.length_singleton] at this
    omega
  have := pieceWeight_le piece
  rw [pieceWeight.eq_def (piece ++ s), if_neg hne, List.length_append]
  omega

theorem pieceWeight_append_le (s piece : List Char) :
    pieceWeight (piece ++ s) ≤ pieceWeight piece + s.length + 1 := by
  have := pieceWeight_le (piece ++ s)
  rw [List.length_append] at this
  rw [pieceWeight.eq_def piece]
  split
  · rename_i hdot
    rw [hdot] at this ⊢
    rw [List.length_singleton] at this
    omega
  · omega

theorem weight_append_ge {s : String} (hs : '/' ∉ s.toList) (hlen : 2 ≤ s.toList.length) (p : Path) :
    p.weight + s.toList.length ≤ (p.append s).weight := by
  obtain ⟨before, last, hp, hps⟩ := pieces_append hs p.chars
  have := le_pieceWeight_append hlen last
  simp only [weight_eq, textWeight, append, hp, hps, List.map_append, List.sum_append, List.map_cons,
    List.map_nil, List.sum_cons, List.sum_nil]
  omega

theorem weight_append_le {s : String} (hs : '/' ∉ s.toList) (p : Path) :
    (p.append s).weight ≤ p.weight + s.toList.length + 1 := by
  obtain ⟨before, last, hp, hps⟩ := pieces_append hs p.chars
  have := pieceWeight_append_le s.toList last
  simp only [weight_eq, textWeight, append, hp, hps, List.map_append, List.sum_append, List.map_cons,
    List.map_nil, List.sum_cons, List.sum_nil]
  omega

theorem weight_join {p q : Path} (hq : q.isAbsolute = false) : (p.join q).weight = p.weight + q.weight := by
  rw [weight_eq, weight_eq, weight_eq]
  unfold join
  rw [hq, if_neg Bool.false_ne_true]
  split
  · rename_i hend
    rw [Bool.or_eq_true, decide_eq_true_eq, decide_eq_true_eq] at hend
    rcases hend with hempty | hslash
    · rw [hempty]
      exact (Nat.zero_add _).symm
    · obtain ⟨front, hfront⟩ := List.getLast?_eq_some_iff.1 hslash
      have hzero : textWeight [] = 0 := rfl
      have := textWeight_append_sep front []
      rw [hfront, List.append_assoc, List.singleton_append, textWeight_append_sep, this, hzero, Nat.add_zero]
  · exact textWeight_append_sep _ _

/-! ### Weight with another extension -/

theorem textWeight_le_length (cs : List Char) : textWeight cs ≤ cs.length := by
  suffices h : ((pieces cs).map List.length).sum ≤ cs.length by
    refine Nat.le_trans ?_ h
    unfold textWeight
    generalize pieces cs = ps
    induction ps with
    | nil => exact Nat.le_refl _
    | cons piece ps ih =>
        have := pieceWeight_le piece
        simp only [List.map_cons, List.sum_cons]
        omega
  induction cs with
  | nil => exact Nat.le_refl _
  | cons c cs ih =>
      obtain ⟨first, rest, hcs⟩ := List.exists_cons_of_ne_nil (pieces_ne_nil cs)
      rw [pieces_cons]
      rw [hcs] at ih ⊢
      split <;> simp only [List.modifyHead_cons, List.map_cons, List.sum_cons, List.length_cons,
        List.length_nil] at ih ⊢ <;> omega

theorem textWeight_piece {cs piece : List Char} (hpiece : piece ∈ pieces cs) :
    textWeight piece = pieceWeight piece := by
  have hsingle : pieces piece = [piece] := List.splitOn_eq_singleton (not_mem_of_mem_pieces hpiece)
  rw [textWeight, hsingle]
  exact Nat.add_zero _

theorem textWeight_intercalate {ps : List (List Char)} (hps : ps ≠ []) :
    textWeight (['/'].intercalate ps) = (ps.map textWeight).sum := by
  induction ps with
  | nil => exact absurd rfl hps
  | cons piece ps ih =>
      cases ps with
      | nil =>
          rw [List.intercalate_singleton]
          exact (Nat.add_zero _).symm
      | cons next ps =>
          rw [List.intercalate_cons_cons, List.append_assoc, List.singleton_append, textWeight_append_sep,
            ih (List.cons_ne_nil _ _)]
          rfl

theorem isSilent_of_step? {piece : List Char} {step : Component} (h : step? piece = some step) :
    isSilent piece = false := by
  cases hsilent : isSilent piece with
  | false => rfl
  | true =>
      rw [step?, if_pos hsilent] at h
      cases h

/-- The file name is the last piece that is not silent. -/
theorem dropWhile_isSilent_of_head? {ps : List (List Char)} {name : List Char}
    (h : (ps.filterMap step?).head? = some (.name name)) :
    ∃ before, ps.dropWhile isSilent = name :: before ∧ step? name = some (.name name) := by
  induction ps with
  | nil => cases h
  | cons piece ps ih =>
      by_cases hsilent : isSilent piece = true
      · have hstep : step? piece = none := if_pos hsilent
        rw [List.filterMap_cons, hstep] at h
        rw [List.dropWhile_cons_of_pos hsilent]
        exact ih h
      · have hstep : step? piece = if piece = ['.', '.'] then some .up else some (.name piece) := if_neg hsilent
        rw [List.dropWhile_cons_of_neg hsilent]
        rw [List.filterMap_cons, hstep] at h
        by_cases hup : piece = ['.', '.']
        · rw [if_pos hup] at h
          cases h
        · rw [if_neg hup] at h
          cases h
          exact ⟨ps, rfl, hstep.trans (if_neg hup)⟩

theorem sum_pieceWeight_dropWhile_isSilent (ps : List (List Char)) :
    ((ps.dropWhile isSilent).map pieceWeight).sum = (ps.map pieceWeight).sum := by
  induction ps with
  | nil => rfl
  | cons piece ps ih =>
      rw [List.dropWhile_cons]
      split
      · rename_i hsilent
        have hzero : pieceWeight piece = 0 := by
          unfold isSilent at hsilent
          rw [Bool.or_eq_true, beq_iff_eq, beq_iff_eq] at hsilent
          rcases hsilent with rfl | rfl <;> rfl
        rw [ih, List.map_cons, List.sum_cons, hzero, Nat.zero_add]
      · rfl

theorem textWeight_cons_le (c : Char) (cs : List Char) : textWeight (c :: cs) ≤ textWeight cs + 2 := by
  obtain ⟨first, rest, hcs⟩ := List.exists_cons_of_ne_nil (pieces_ne_nil cs)
  unfold textWeight
  rw [pieces_cons, hcs]
  split
  · rw [List.map_cons, List.sum_cons]
    exact Nat.le_trans (Nat.le_of_eq (Nat.zero_add _)) (Nat.le_add_right _ _)
  · have hlonger : pieceWeight (c :: first) ≤ pieceWeight first + 2 := by
      have := pieceWeight_le (c :: first)
      rw [List.length_cons] at this
      rw [pieceWeight.eq_def first]
      split
      · rename_i hdot
        rw [hdot] at this ⊢
        exact this
      · omega
    simp only [List.modifyHead_cons, List.map_cons, List.sum_cons]
    omega

theorem length_stem_le (name : List Char) : (stem name).length ≤ name.length := by
  unfold stem
  have hdrop := (List.dropWhile_sublist (· != '.') (l := name.reverse)).length_le
  rw [List.length_reverse] at hdrop
  split
  · exact Nat.le_refl _
  · exact Nat.le_refl _
  · rename_i heq
    rw [heq, List.length_cons] at hdrop
    rw [List.length_reverse]
    omega

/-- A file name is the last step of its path. -/
theorem getLast?_of_fileName? {p : Path} {name : List Char} (hname : p.fileName? = some name) :
    p.components.getLast? = some (.name name) := by
  unfold fileName? at hname
  split at hname
  · rename_i cs heq
    cases hname
    exact heq
  · cases hname

theorem not_mem_fileName? {p : Path} {name : List Char} (hname : p.fileName? = some name) : '/' ∉ name :=
  (step?_chars (List.mem_of_getLast? (getLast?_of_fileName? hname)) rfl).2

/-- The pieces of a path that has a file name: the name, what stands before it, and silent pieces. -/
theorem dropWhile_isSilent_of_fileName? {p : Path} {name : List Char} (hname : p.fileName? = some name) :
    ∃ before, (pieces p.anchor.2).reverse.dropWhile isSilent = name :: before ∧ step? name = some (.name name) := by
  have hlast := getLast?_of_fileName? hname
  change (p.anchor.1.toList ++ (pieces p.anchor.2).filterMap step?).getLast? = _ at hlast
  apply dropWhile_isSilent_of_head?
  rw [List.filterMap_reverse, List.head?_reverse]
  rw [List.getLast?_append] at hlast
  cases hsteps : ((pieces p.anchor.2).filterMap step?).getLast? with
  | some step =>
      rw [hsteps] at hlast
      exact hlast
  | none =>
      rw [hsteps] at hlast
      rcases anchor_head p with hhead | hhead | hhead <;> rw [hhead] at hlast <;> cases hlast

/-- The weight of a path is that of its file name and of what stands before it. -/
theorem weight_of_fileName? {p : Path} {name : List Char} (hname : p.fileName? = some name) :
    ∃ before, (pieces p.anchor.2).reverse.dropWhile isSilent = name :: before ∧ 1 ≤ name.length ∧
      p.weight = name.length + (before.map textWeight).sum := by
  obtain ⟨before, hdrop, hstep⟩ := dropWhile_isSilent_of_fileName? hname
  have hsilent := isSilent_of_step? hstep
  refine ⟨before, hdrop, ?_, ?_⟩
  · cases name with
    | nil => cases hsilent
    | cons c cs => exact Nat.succ_pos _
  · have hdot : name ≠ ['.'] := by
      rintro rfl
      cases hsilent
    have hbefore : before.map textWeight = before.map pieceWeight := by
      apply List.map_congr_left
      intro piece hpiece
      have hmem : piece ∈ (pieces p.anchor.2).reverse.dropWhile isSilent := by
        rw [hdrop]
        exact List.mem_cons_of_mem _ hpiece
      exact textWeight_piece (List.mem_reverse.1 ((List.dropWhile_sublist _).subset hmem))
    rw [hbefore, weight_eq_textWeight_body, textWeight, ← List.sum_reverse, ← List.map_reverse,
      ← sum_pieceWeight_dropWhile_isSilent, hdrop, List.map_cons, List.sum_cons, pieceWeight, if_neg hdot]

/-- The head of a path adds at most two characters to what follows it. -/
theorem weight_withHead_le (p : Path) (body : List Char) :
    weight ⟨p.anchor.1.elim [] Component.chars ++ body⟩ ≤ textWeight body + 2 := by
  rw [weight_eq]
  rcases anchor_head p with hhead | hhead | hhead <;> rw [hhead]
  · exact Nat.le_add_right _ _
  · exact textWeight_cons_le _ _
  · exact textWeight_cons_le _ _

/-- A path with another extension is heavier by no more than the extension, the `.` before it and two
characters at the head. -/
theorem weight_withExtension_le (p : Path) (extension : String) :
    (p.withExtension extension).weight ≤ p.weight + extension.toList.length + 3 := by
  unfold withExtension
  cases hname : p.fileName? with
  | none => exact Nat.le_trans (Nat.le_add_right _ _) (Nat.le_add_right _ _)
  | some name =>
      obtain ⟨before, hdrop, hne, hweight⟩ := weight_of_fileName? hname
      -- the new name may be a `..`, but it is not longer than the old one with the extension
      have hrenamed : ∀ c : Bool, (if c then ['.', '.'] else stem name ++ '.' :: extension.toList).length ≤
          name.length + extension.toList.length + 1 := by
        intro c
        have := length_stem_le name
        cases c <;> simp <;> omega
      have hnew : ∀ renamed : List Char, renamed.length ≤ name.length + extension.toList.length + 1 →
          textWeight (['/'].intercalate (renamed :: before).reverse) ≤
            p.weight + extension.toList.length + 1 := by
        intro renamed hlen
        have := textWeight_le_length renamed
        rw [textWeight_intercalate (by simp), List.map_reverse, List.sum_reverse, List.map_cons, List.sum_cons,
          hweight]
        omega
      change weight ⟨p.anchor.1.elim [] Component.chars ++ ['/'].intercalate
        (_ :: ((pieces p.anchor.2).reverse.dropWhile isSilent).tail).reverse⟩ ≤ _
      rw [hdrop, List.tail_cons]
      exact Nat.le_trans (weight_withHead_le p _) (Nat.add_le_add_right (hnew _ (hrenamed _)) 2)

/-! ### Another extension -/

theorem step?_of_stem {first : List Char} (hfirst : first ≠ [] ∧ first ≠ ['.']) (extension : List Char) :
    step? (first ++ '.' :: extension) = some (.name (first ++ '.' :: extension)) := by
  match first, hfirst with
  | [c], ⟨_, hc⟩ =>
      have hne : c ≠ '.' := fun heq => hc (congrArg (fun x => [x]) heq)
      simp [step?, isSilent, hne]
  | c :: d :: rest, _ => exact step?_of_three_le (by rw [List.length_append, List.length_cons]; simp; omega)

theorem stem_ne_nil {name : List Char} (hname : name ≠ []) : stem name ≠ [] := by
  unfold stem
  split
  · exact hname
  · exact hname
  · rename_i hmore heq
    exact fun hnil => hmore (List.reverse_eq_nil_iff.1 hnil)

theorem stem_subset (name : List Char) : stem name ⊆ name := by
  intro c hc
  unfold stem at hc
  split at hc
  · exact hc
  · exact hc
  · rename_i heq
    have hmem : c ∈ name.reverse.dropWhile (· != '.') := by
      rw [heq]
      exact List.mem_cons_of_mem _ (List.mem_reverse.1 hc)
    exact List.mem_reverse.1 ((List.dropWhile_sublist _).subset hmem)

theorem anchor_text (p : Path) : p.anchor.1.elim [] Component.chars ++ p.anchor.2 = p.chars := by
  obtain ⟨cs⟩ := p
  unfold anchor
  split
  · rename_i rest heq
    exact heq.symm
  · rename_i heq
    exact heq.symm
  · rename_i rest heq
    exact heq.symm
  · rfl

theorem intercalate_append {ps qs : List (List Char)} (hps : ps ≠ []) (hqs : qs ≠ []) :
    ['/'].intercalate (ps ++ qs) = ['/'].intercalate ps ++ '/' :: ['/'].intercalate qs := by
  induction ps with
  | nil => exact absurd rfl hps
  | cons piece ps ih =>
      cases ps with
      | nil => rw [List.singleton_append, List.intercalate_cons_of_ne_nil hqs, List.intercalate_singleton,
          List.append_assoc, List.singleton_append]
      | cons next ps =>
          rw [List.cons_append, List.cons_append, List.intercalate_cons_cons, ← List.cons_append,
            ih (List.cons_ne_nil _ _), List.intercalate_cons_cons, List.append_assoc _ _ ('/' :: _), List.append_assoc]

theorem intercalate_prefix {ps qs : List (List Char)} (h : ps <+: qs) :
    ['/'].intercalate ps <+: ['/'].intercalate qs := by
  obtain ⟨rest, rfl⟩ := h
  by_cases hps : ps = []
  · rw [hps]
    exact List.nil_prefix
  · by_cases hrest : rest = []
    · simp [hrest]
    · rw [intercalate_append hps hrest]
      exact List.prefix_append _ _

/-- A path whose last step has a name, up to that name and with nothing behind it. -/
theorem components_of_last {dir name : List Char} {after : List (List Char)} (hname : '/' ∉ name)
    (hafter : ∀ piece ∈ after, '/' ∉ piece ∧ isSilent piece = true) {step : Component}
    (hstep : step? name = some step) :
    components ⟨dir ++ '/' :: ['/'].intercalate (name :: after)⟩ = components ⟨dir ++ ['/']⟩ ++ [step] := by
  have hpieces : pieces (['/'].intercalate (name :: after)) = name :: after := by
    refine List.splitOn_intercalate '/' (fun piece hpiece => ?_) (List.cons_ne_nil _ _)
    rcases List.mem_cons.1 hpiece with rfl | hpiece
    · exact hname
    · exact (hafter piece hpiece).1
  have hsilent : after.filterMap step? = [] :=
    List.filterMap_eq_nil_iff.2 fun piece hpiece => if_pos (hafter piece hpiece).2
  rw [components_append_sep, ← filterMap_step?_eq, hpieces, List.filterMap_cons, hstep, hsilent]

/-- The pieces of a path that has a file name: the name stands after some pieces and before silent ones. -/
theorem pieces_of_fileName? {p : Path} {name : List Char} (hname : p.fileName? = some name) :
    ∃ before after, pieces p.anchor.2 = before ++ name :: after ∧ (∀ piece ∈ after, isSilent piece = true) ∧
      step? name = some (.name name) ∧ (pieces p.anchor.2).reverse.dropWhile isSilent = name :: before.reverse := by
  obtain ⟨before, hdrop, hstep⟩ := dropWhile_isSilent_of_fileName? hname
  have hsplit := List.takeWhile_append_dropWhile (p := isSilent) (l := (pieces p.anchor.2).reverse)
  rw [hdrop] at hsplit
  refine ⟨before.reverse, ((pieces p.anchor.2).reverse.takeWhile isSilent).reverse, ?_, ?_, hstep, ?_⟩
  · have hpieces := congrArg List.reverse hsplit
    rw [List.reverse_append, List.reverse_cons, List.reverse_reverse, List.append_assoc, List.singleton_append]
      at hpieces
    exact hpieces.symm
  · exact fun piece hpiece => List.all_eq_true.1 List.all_takeWhile piece (List.mem_reverse.1 hpiece)
  · rw [hdrop, List.reverse_reverse]

theorem pieces_of_here {p : Path} (hhead : p.anchor.1 = some .here) : ∃ rest, pieces p.anchor.2 = [] :: rest := by
  unfold anchor at hhead ⊢
  split at hhead
  · cases hhead
  · exact ⟨[], rfl⟩
  · rename_i rest heq
    exact ⟨pieces rest, pieces_append_sep [] rest⟩
  · cases hhead

/-- What stands behind some pieces of a path stands behind a separator, unless it is all there is. -/
theorem exists_dir {p : Path} {before after : List (List Char)} {name : List Char}
    (hpieces : pieces p.anchor.2 = before ++ name :: after) (hname : name ≠ []) :
    (p.anchor.1 = none ∧ before = []) ∨ ∃ dir, ∀ ps, ps ≠ [] →
      p.anchor.1.elim [] Component.chars ++ ['/'].intercalate (before ++ ps) = dir ++ '/' :: ['/'].intercalate ps := by
  cases before with
  | cons first before =>
      refine Or.inr ⟨p.anchor.1.elim [] Component.chars ++ ['/'].intercalate (first :: before), fun ps hps => ?_⟩
      rw [intercalate_append (List.cons_ne_nil _ _) hps, List.append_assoc]
  | nil =>
      rcases anchor_head p with hhead | hhead | hhead
      · exact Or.inl ⟨hhead, rfl⟩
      · rw [hhead]
        exact Or.inr ⟨[], fun ps _ => rfl⟩
      · -- a leading `.` is followed by a separator
        obtain ⟨rest, hrest⟩ := pieces_of_here hhead
        rw [hrest] at hpieces
        exact absurd (List.cons.inj hpieces).1.symm hname

theorem anchor_of_not_mem {cs : List Char} (hslash : '/' ∉ cs) (hdot : cs ≠ ['.']) : (anchor ⟨cs⟩).1 = none := by
  unfold anchor
  split
  · rename_i rest heq
    change cs = _ at heq
    exact absurd (heq ▸ List.mem_cons_self) hslash
  · rename_i heq
    exact absurd heq hdot
  · rename_i rest heq
    change cs = _ at heq
    exact absurd (heq ▸ List.mem_cons_of_mem _ List.mem_cons_self) hslash
  · rfl

/-- A path whose last step is renamed is the same up to that step, whatever was written behind it. -/
theorem components_rename {p : Path} {before after : List (List Char)} {name renamed : List Char}
    (hpieces : pieces p.anchor.2 = before ++ name :: after) (hafter : ∀ piece ∈ after, isSilent piece = true)
    (hname : step? name = some (.name name)) {step : Component} (hrenamed : step? renamed = some step)
    (hslash : '/' ∉ renamed) :
    components ⟨p.anchor.1.elim [] Component.chars ++ ['/'].intercalate (before ++ [renamed])⟩ =
      p.components.dropLast ++ [step] := by
  have hmem : ∀ piece ∈ before ++ name :: after, '/' ∉ piece := fun piece hpiece =>
    not_mem_of_mem_pieces (hpieces ▸ hpiece)
  have hne : ∀ {piece c}, step? piece = some c → piece ≠ [] ∧ piece ≠ ['.'] := by
    refine fun hstep => ⟨?_, ?_⟩ <;> rintro rfl <;> cases isSilent_of_step? hstep
  rcases exists_dir hpieces (hne hname).1 with ⟨hhead, rfl⟩ | ⟨dir, hdir⟩
  · -- the name is all there is
    have hlast : p.components = [.name name] := by
      have hsilent : after.filterMap step? = [] :=
        List.filterMap_eq_nil_iff.2 fun piece hpiece => if_pos (hafter piece hpiece)
      change p.anchor.1.toList ++ (pieces p.anchor.2).filterMap step? = _
      rw [hhead, hpieces, List.nil_append, List.filterMap_cons, hname, hsilent]
      rfl
    have hsingle : pieces renamed = [renamed] := List.splitOn_eq_singleton hslash
    rw [hlast, hhead, List.nil_append, List.intercalate_singleton, Option.elim_none, List.nil_append, components_eq,
      anchor_of_not_mem hslash (hne hrenamed).2, hsingle, List.filterMap_cons, hrenamed]
    rfl
  · have hbody : ['/'].intercalate (pieces p.anchor.2) = p.anchor.2 := List.intercalate_splitOn '/'
    have hold : p = ⟨dir ++ '/' :: ['/'].intercalate (name :: after)⟩ := by
      rw [← hdir _ (List.cons_ne_nil _ _), ← hpieces, hbody, anchor_text]
    rw [hdir _ (List.cons_ne_nil _ _), components_of_last hslash (List.forall_mem_nil _) hrenamed]
    rw [hold, components_of_last (hmem name (by simp))
      (fun piece hpiece => ⟨hmem piece (by simp [hpiece]), hafter piece hpiece⟩) hname, List.dropLast_concat]

theorem components_withExtension {p : Path} {name : List Char} (hname : p.fileName? = some name)
    (hstem : stem name ≠ ['.']) {extension : String} (hextension : '/' ∉ extension.toList) :
    (p.withExtension extension).components =
      p.components.dropLast ++ [.name (stem name ++ '.' :: extension.toList)] := by
  obtain ⟨before, after, hpieces, hafter, hstep, hdrop⟩ := pieces_of_fileName? hname
  have hne : name ≠ [] := by
    rintro rfl
    cases isSilent_of_step? hstep
  have hslash : '/' ∉ stem name ++ '.' :: extension.toList := by
    rw [List.mem_append, List.mem_cons]
    rintro (h | h | h)
    · exact not_mem_fileName? hname (stem_subset name h)
    · cases h
    · exact hextension h
  have hnew : p.withExtension extension =
      ⟨p.anchor.1.elim [] Component.chars ++ ['/'].intercalate (before ++ [stem name ++ '.' :: extension.toList])⟩ := by
    unfold withExtension
    rw [hname]
    simp only [hdrop, hstem, decide_false, Bool.false_and, Bool.false_eq_true, if_false, List.tail_cons,
      List.reverse_cons, List.reverse_reverse]
    rfl
  rw [hnew]
  exact components_rename hpieces hafter hstep (step?_of_stem ⟨stem_ne_nil hne, hstem⟩ _) hslash

theorem fileName?_congr {p q : Path} (hpq : (p == q) = true) : p.fileName? = q.fileName? := by
  unfold fileName?
  rw [beq_iff.1 hpq]

/-- One path in two spellings becomes one path with another extension, unless its file name is two dots and an
extension: without that extension it is no file name, and what is written behind it decides. -/
theorem withExtension_congr {p q : Path} (hpq : (p == q) = true) (hstem : ∀ name ∈ p.fileName?, stem name ≠ ['.'])
    {extension : String} (hextension : '/' ∉ extension.toList) :
    (p.withExtension extension == q.withExtension extension) = true := by
  have hfile := fileName?_congr hpq
  cases hname : p.fileName? with
  | none =>
      unfold withExtension
      rw [← hfile, hname]
      exact hpq
  | some name =>
      rw [beq_iff, components_withExtension hname (hstem name hname) hextension,
        components_withExtension (hfile ▸ hname) (hstem name hname) hextension, beq_iff.1 hpq]

end Path
end LinkPlanner
