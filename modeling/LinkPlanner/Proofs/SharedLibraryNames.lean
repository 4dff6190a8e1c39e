import LinkPlanner.Files.FileName
import LinkPlanner.Proofs.PathText

/-! Names of shared libraries. A name has one of a few endings behind a stem, or it has `.so.` and a version there. The
stem may be any text, and so it may hold a `.so.` itself; but the version is looked for behind the first `.so.` of the
name. Nothing that is not named like a shared library is taken for one, and what is named like one is, unless some
`.so.` begins within its stem. -/

namespace LinkPlanner

/-- A text is split in one way at the last place where a character stands. -/
theorem append_cons_inj {α : Type} {c : α} {before before' after after' : List α} (hc : c ∉ after) (hc' : c ∉ after')
    (h : before ++ c :: after = before' ++ c :: after') : before = before' ∧ after = after' := by
  rcases List.append_eq_append_iff.1 h with ⟨t, rfl, ht⟩ | ⟨t, rfl, ht⟩
  · cases t with
    | nil =>
        cases ht
        exact ⟨(List.append_nil _).symm, rfl⟩
    | cons d t =>
        cases ht
        exact absurd (List.mem_append_right _ List.mem_cons_self) hc
  · cases t with
    | nil =>
        cases ht
        exact ⟨List.append_nil _, rfl⟩
    | cons d t =>
        cases ht
        exact absurd (List.mem_append_right _ List.mem_cons_self) hc'

namespace FileName

/-! ### The first occurrence of a mark -/

section

variable {mark cs before after : List Char}

/-- The mark stands in the text in front of some place and of a mark there, and begins before that place. -/
def BeginsWithin (mark before : List Char) : Prop := mark <:+: before ++ mark.dropLast

instance (mark before : List Char) : Decidable (BeginsWithin mark before) :=
  inferInstanceAs (Decidable (mark <:+: before ++ mark.dropLast))

theorem beginsWithin_cons_iff {c : Char} :
    BeginsWithin mark (c :: before) ↔ mark <+: c :: before ++ mark.dropLast ∨ BeginsWithin mark before :=
  List.infix_cons_iff

theorem not_beginsWithin_nil (hmark : mark ≠ []) : ¬ BeginsWithin mark [] := by
  intro h
  have hlen := h.length_le
  rw [List.nil_append, List.length_dropLast] at hlen
  have hpos := List.length_pos_iff.2 hmark
  omega

/-- A mark at the head of a text begins before any later place at which there is one. -/
theorem prefix_iff_of_cons {c : Char} :
    mark <+: c :: before ++ (mark ++ after) ↔ mark <+: c :: before ++ mark.dropLast := by
  have hshort : c :: before ++ mark.dropLast <+: c :: before ++ (mark ++ after) :=
    (List.prefix_append_right_inj _).2 ((List.dropLast_prefix mark).trans (List.prefix_append mark after))
  constructor
  · intro h
    refine List.prefix_of_prefix_length_le h hshort ?_
    rw [List.length_append, List.length_dropLast, List.length_cons]
    omega
  · exact fun h => h.trans hshort

theorem splitAtFirst_eq_some_iff (hmark : mark ≠ []) :
    splitAtFirst mark cs = some (before, after) ↔ cs = before ++ (mark ++ after) ∧ ¬ BeginsWithin mark before := by
  induction cs generalizing before with
  | nil =>
      refine iff_of_false nofun fun h => hmark ?_
      exact (List.append_eq_nil_iff.1 (List.append_eq_nil_iff.1 h.1.symm).2).1
  | cons c rest ih =>
      unfold splitAtFirst
      split
      · rename_i hhead
        obtain ⟨t, ht⟩ := List.isPrefixOf_iff_prefix.1 hhead
        rw [← ht, List.drop_left, Option.some.injEq, Prod.mk.injEq]
        constructor
        · rintro ⟨rfl, rfl⟩
          exact ⟨rfl, not_beginsWithin_nil hmark⟩
        · rintro ⟨heq, hfirst⟩
          cases before with
          | nil => exact ⟨rfl, List.append_cancel_left heq⟩
          | cons d before =>
              have hprefix : mark <+: d :: before ++ (mark ++ after) := heq ▸ List.prefix_append mark t
              exact absurd (beginsWithin_cons_iff.2 (Or.inl (prefix_iff_of_cons.1 hprefix))) hfirst
      · rename_i hhead
        rw [List.isPrefixOf_iff_prefix] at hhead
        rw [Option.map_eq_some_iff]
        constructor
        · rintro ⟨⟨b, a⟩, hrest, heq⟩
          cases heq
          obtain ⟨rfl, hfirst⟩ := ih.1 hrest
          refine ⟨rfl, fun h => ?_⟩
          rcases beginsWithin_cons_iff.1 h with h | h
          · exact hhead (prefix_iff_of_cons.2 h)
          · exact hfirst h
        · rintro ⟨heq, hfirst⟩
          cases before with
          | nil => exact absurd (heq ▸ List.prefix_append mark after) hhead
          | cons d before =>
              cases heq
              exact ⟨(before, after), ih.2 ⟨rfl, fun h => hfirst (beginsWithin_cons_iff.2 (Or.inr h))⟩, rfl⟩

end

/-! ### Endings -/

theorem hasEnding_iff {endings : List String} {name : List Char} :
    hasEnding endings name = true ↔ ∃ ending ∈ endings, ∃ stem, stem ≠ [] ∧ name = stem ++ ending.toList := by
  unfold hasEnding
  rw [List.any_eq_true]
  refine exists_congr fun ending => and_congr_right fun _ => ?_
  rw [Bool.and_eq_true, decide_eq_true_eq, List.isSuffixOf_iff_suffix]
  constructor
  · rintro ⟨hlen, stem, rfl⟩
    refine ⟨stem, ?_, rfl⟩
    rintro rfl
    exact Nat.lt_irrefl _ hlen
  · rintro ⟨stem, hstem, rfl⟩
    refine ⟨?_, List.suffix_append _ _⟩
    rw [List.length_append]
    exact Nat.lt_add_of_pos_left (List.length_pos_iff.2 hstem)

/-- The endings of shared libraries, and of the interface libraries that stand in for them. -/
def sharedEndings : List String := [".so", ".dylib", ".dll", ".ifso", ".tbd", ".lib"]

/-- The name has one of these endings behind a stem. -/
def HasSharedEnding (name : List Char) : Prop :=
  ∃ ending ∈ sharedEndings, ∃ stem, stem ≠ [] ∧ name = stem ++ ending.toList

/-! ### Versions -/

/-- One or more runs of digits with dots between them. -/
def IsVersion (version : List Char) : Prop :=
  ∃ parts : List (List Char), parts ≠ [] ∧ (∀ part ∈ parts, part ≠ [] ∧ ∀ c ∈ part, c.isDigit = true) ∧
    version = ['.'].intercalate parts

section

variable {version name stem : List Char}

theorem isVersionPart_iff {part : List Char} :
    isVersionPart part = true ↔ part ≠ [] ∧ ∀ c ∈ part, c.isDigit = true := by
  unfold isVersionPart
  simp

theorem all_isVersionPart_iff : (version.splitOn '.').all isVersionPart = true ↔ IsVersion version := by
  simp only [List.all_eq_true, isVersionPart_iff]
  constructor
  · exact fun h => ⟨version.splitOn '.', List.splitOn_ne_nil '.' version, h, (List.intercalate_splitOn '.').symm⟩
  · rintro ⟨parts, hne, hparts, rfl⟩
    rwa [List.splitOn_intercalate '.' (fun part hpart hdot => ?_) hne]
    cases (hparts part hpart).2 '.' hdot

theorem IsVersion.ne_nil (h : IsVersion version) : version ≠ [] := by
  obtain ⟨parts, hne, hparts, rfl⟩ := h
  obtain ⟨part, hpart⟩ := List.exists_mem_of_ne_nil parts hne
  obtain ⟨hpartne, hdigits⟩ := hparts part hpart
  obtain ⟨c, hc⟩ := List.exists_mem_of_ne_nil part hpartne
  have hdot : c ≠ '.' := by
    rintro rfl
    cases hdigits '.' hc
  exact List.ne_nil_of_mem ((mem_intercalate_iff hdot).2 ⟨part, hpart, hc⟩)

/-- There are no letters in a version. -/
theorem IsVersion.not_mem (h : IsVersion version) {c : Char} (hdot : c ≠ '.') (hdigit : c.isDigit = false) :
    c ∉ version := by
  obtain ⟨parts, -, hparts, rfl⟩ := h
  rw [mem_intercalate_iff hdot]
  rintro ⟨part, hpart, hc⟩
  rw [(hparts part hpart).2 c hc] at hdigit
  cases hdigit

/-- The name is made of the stem, `.so.` and a version. -/
def VersionedAs (stem name : List Char) : Prop :=
  stem ≠ [] ∧ ∃ version, IsVersion version ∧ name = stem ++ (".so.".toList ++ version)

/-- A versioned name ends in its version, and so in none of the letters in which the endings do. -/
theorem VersionedAs.not_hasSharedEnding (h : VersionedAs stem name) : ¬ HasSharedEnding name := by
  obtain ⟨-, version, hversion, rfl⟩ := h
  rintro ⟨ending, hending, other, -, heq⟩
  have hletters : ∀ ending ∈ sharedEndings,
      ending.toList.getLast?.any (fun c => decide (c ≠ '.') && !c.isDigit) = true := by decide
  obtain ⟨c, hc, hletter⟩ := (Option.any_eq_true _ _).1 (hletters ending hending)
  rw [Bool.and_eq_true, decide_eq_true_eq, Bool.not_eq_true'] at hletter
  obtain ⟨hdot, hdigit⟩ := hletter
  have hlast := congrArg List.getLast? heq
  rw [List.getLast?_append, List.getLast?_append, List.getLast?_append, hc,
    List.getLast?_eq_some_getLast hversion.ne_nil] at hlast
  have hmem : c ∈ version := Option.some.inj hlast ▸ List.getLast_mem hversion.ne_nil
  exact hversion.not_mem hdot hdigit hmem

/-- The `s` in front of the version is the last one of the name, so there is one stem. -/
theorem VersionedAs.stem_eq {stem' : List Char} (h : VersionedAs stem name) (h' : VersionedAs stem' name) :
    stem = stem' := by
  obtain ⟨-, version, hversion, rfl⟩ := h
  obtain ⟨-, version', hversion', heq⟩ := h'
  have hs : 's' ∉ 'o' :: '.' :: version := by simpa using hversion.not_mem (by decide) (by decide)
  have hs' : 's' ∉ 'o' :: '.' :: version' := by simpa using hversion'.not_mem (by decide) (by decide)
  have hsplit : stem ++ ['.'] ++ 's' :: 'o' :: '.' :: version = stem' ++ ['.'] ++ 's' :: 'o' :: '.' :: version' := by
    simpa using heq
  exact List.append_cancel_right (append_cons_inj hs hs' hsplit).1

/-! ### Shared libraries -/

theorem isVersionedSharedLibrary_iff :
    isVersionedSharedLibrary name = true ↔
      ∃ stem, VersionedAs stem name ∧ ¬ BeginsWithin ".so.".toList stem := by
  have hmark : ".so.".toList ≠ [] := by decide
  unfold isVersionedSharedLibrary
  constructor
  · intro h
    split at h
    · rename_i stem version hsplit
      obtain ⟨rfl, hfirst⟩ := (splitAtFirst_eq_some_iff hmark).1 hsplit
      rw [Bool.and_eq_true, all_isVersionPart_iff] at h
      have hstem : stem ≠ [] := by simpa using h.1
      exact ⟨stem, ⟨hstem, version, h.2, rfl⟩, hfirst⟩
    · cases h
  · rintro ⟨stem, ⟨hstem, version, hversion, rfl⟩, hfirst⟩
    rw [(splitAtFirst_eq_some_iff hmark).2 ⟨rfl, hfirst⟩]
    dsimp only
    rw [all_isVersionPart_iff.2 hversion, Bool.and_true]
    simpa using hstem

/-- What shared libraries are documented to be named like. -/
def NamesSharedLibrary (name : List Char) : Prop := HasSharedEnding name ∨ ∃ stem, VersionedAs stem name

theorem isSharedLibrary_iff :
    isSharedLibrary name = true ↔
      HasSharedEnding name ∨ ∃ stem, VersionedAs stem name ∧ ¬ BeginsWithin ".so.".toList stem := by
  have hendings : (hasEnding [".so", ".dylib", ".dll"] name || hasEnding [".ifso", ".tbd", ".lib"] name) =
      hasEnding sharedEndings name := List.any_append.symm
  unfold isSharedLibrary
  rw [hendings, Bool.or_eq_true, hasEnding_iff, isVersionedSharedLibrary_iff]
  rfl

end

/-- Nothing but what is named like a shared library is taken for one. A name is taken for what it is exactly if it is
not a versioned one within whose stem some `.so.` begins. -/
theorem shared_library_recognised_iff (name : List Char) :
    (isSharedLibrary name = true → NamesSharedLibrary name) ∧
      ((isSharedLibrary name = true ↔ NamesSharedLibrary name) ↔
        ∀ stem, VersionedAs stem name → ¬ BeginsWithin ".so.".toList stem) := by
  have hsound : isSharedLibrary name = true → NamesSharedLibrary name := by
    intro h
    rcases isSharedLibrary_iff.1 h with hending | ⟨stem, hstem, -⟩
    · exact Or.inl hending
    · exact Or.inr ⟨stem, hstem⟩
  refine ⟨hsound, fun hright stem hstem => ?_, fun hfirst => ⟨hsound, fun hnamed => isSharedLibrary_iff.2 ?_⟩⟩
  · rcases isSharedLibrary_iff.1 (hright.2 (Or.inr ⟨stem, hstem⟩)) with hending | ⟨other, hother, hfirst⟩
    · exact absurd hending hstem.not_hasSharedEnding
    · rwa [hstem.stem_eq hother]
  · rcases hnamed with hending | ⟨stem, hstem⟩
    · exact Or.inl hending
    · exact Or.inr ⟨stem, hstem, hfirst stem hstem⟩

/-- A version behind a name that holds a `.so.` is not seen. -/
theorem versioned_name_not_recognised :
    VersionedAs "libfoo.so.old".toList "libfoo.so.old.so.1.22".toList ∧
      NamesSharedLibrary "libfoo.so.old.so.1.22".toList ∧ isSharedLibrary "libfoo.so.old.so.1.22".toList = false := by
  have hversioned : VersionedAs "libfoo.so.old".toList "libfoo.so.old.so.1.22".toList :=
    ⟨by decide, "1.22".toList, all_isVersionPart_iff.1 (by decide), by decide⟩
  exact ⟨hversioned, Or.inr ⟨_, hversioned⟩, by decide⟩

end FileName
end LinkPlanner
