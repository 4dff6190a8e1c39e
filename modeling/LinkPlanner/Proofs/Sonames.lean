import LinkPlanner.Link.Soname
import LinkPlanner.Proofs.PathText

/-! Sonames. A library without its dependencies is named after its whole path, written as one file name. The escape
can be undone: every `_` of an escaped text comes with the letter that says what stood there. So two paths have two
names, whatever characters they are made of, and no name holds a separator. -/

namespace LinkPlanner

/-- The characters that an escape stands for. -/
def reserved : List Char := ['_', '/', '\\', ':', '@']

/-- What a letter says after a `_`. -/
def marked? : Char → Option Char
  | 'U' => some '_'
  | 'S' => some '/'
  | 'B' => some '\\'
  | 'C' => some ':'
  | 'A' => some '@'
  | _ => none

/-- Reads an escaped path. A letter that says nothing, or a character that would have been escaped, is an error. -/
def unescapePath? : List Char → Option (List Char)
  | [] => some []
  | '_' :: letter :: name => marked? letter >>= fun c => (unescapePath? name).map (c :: ·)
  | c :: name => if c ∈ reserved then none else (unescapePath? name).map (c :: ·)

/-! ### One character -/

theorem escapeChar_of_not_mem {c : Char} (hc : c ∉ reserved) : escapeChar c = [c] := by
  unfold escapeChar
  split <;> first | rfl | exact absurd (by decide) hc

theorem escapeChar_cases (c : Char) :
    (∃ letter, marked? letter = some c ∧ escapeChar c = ['_', letter]) ∨ c ∉ reserved ∧ escapeChar c = [c] := by
  by_cases hc : c ∈ reserved
  · left
    simp only [reserved, List.mem_cons, List.not_mem_nil, or_false] at hc
    rcases hc with rfl | rfl | rfl | rfl | rfl
    · exact ⟨'U', rfl, rfl⟩
    · exact ⟨'S', rfl, rfl⟩
    · exact ⟨'B', rfl, rfl⟩
    · exact ⟨'C', rfl, rfl⟩
    · exact ⟨'A', rfl, rfl⟩
  · exact Or.inr ⟨hc, escapeChar_of_not_mem hc⟩

theorem escapeChar_of_marked? {letter c : Char} (h : marked? letter = some c) : escapeChar c = ['_', letter] := by
  unfold marked? at h
  split at h <;> cases h <;> rfl

theorem unescapePath?_cons {c : Char} (hc : c ∉ reserved) (name : List Char) :
    unescapePath? (c :: name) = (unescapePath? name).map (c :: ·) := by
  rw [unescapePath?, if_neg hc]
  rintro letter rest rfl
  exact absurd (by decide) hc

theorem unescapePath?_escapeChar_append (c : Char) (name : List Char) :
    unescapePath? (escapeChar c ++ name) = (unescapePath? name).map (c :: ·) := by
  rcases escapeChar_cases c with ⟨letter, hletter, hc⟩ | ⟨hplain, hc⟩
  · rw [hc]
    change (marked? letter >>= fun c => (unescapePath? name).map (c :: ·)) = _
    rw [hletter]
    rfl
  · rw [hc]
    exact unescapePath?_cons hplain name

/-! ### Paths -/

theorem unescapePath?_escapePath (path : List Char) : unescapePath? (escapePath path) = some path := by
  induction path with
  | nil => rfl
  | cons c path ih =>
      change unescapePath? (escapeChar c ++ escapePath path) = _
      rw [unescapePath?_escapeChar_append, ih]
      rfl

/-- Nothing but an escaped path can be read. -/
theorem eq_escapePath_of_unescapePath? {name path : List Char} (h : unescapePath? name = some path) :
    name = escapePath path := by
  induction name using unescapePath?.induct generalizing path with
  | case1 =>
      cases h
      rfl
  | case2 letter name ih =>
      obtain ⟨c, hletter, hread⟩ := Option.bind_eq_some_iff.1 h
      obtain ⟨rest, hrest, rfl⟩ := Option.map_eq_some_iff.1 hread
      change _ = escapeChar c ++ escapePath rest
      rw [escapeChar_of_marked? hletter, ← ih hrest]
      rfl
  | case3 c name hmark hc =>
      rw [unescapePath?, if_pos hc] at h
      · cases h
      · exact hmark
  | case4 c name hmark hc ih =>
      rw [unescapePath?_cons hc] at h
      obtain ⟨rest, hrest, rfl⟩ := Option.map_eq_some_iff.1 h
      change _ = escapeChar c ++ escapePath rest
      rw [escapeChar_of_not_mem hc, ← ih hrest]
      rfl

theorem not_mem_escapePath {c : Char} (hc : c ∈ ['/', '\\', ':', '@']) (path : List Char) : c ∉ escapePath path := by
  have hmark : ∀ c ∈ ['/', '\\', ':', '@'], c ∈ reserved ∧ c ≠ '_' ∧ ∀ d, marked? c ≠ some d := by
    simp [reserved, marked?]
  obtain ⟨hreserved, hne, hunmarked⟩ := hmark c hc
  intro hmem
  obtain ⟨d, -, hd⟩ := List.mem_flatMap.1 hmem
  rcases escapeChar_cases d with ⟨letter, hletter, heq⟩ | ⟨hplain, heq⟩
  · rw [heq, List.mem_cons, List.mem_singleton] at hd
    rcases hd with hd | rfl
    · exact hne hd
    · exact hunmarked d hletter
  · rw [heq, List.mem_singleton] at hd
    exact hplain (hd ▸ hreserved)

theorem escapePath_injective : Function.Injective escapePath := fun path other h =>
  Option.some.inj ((unescapePath?_escapePath path).symm.trans (h ▸ unescapePath?_escapePath other))

/-! ### Names of libraries -/

namespace Link

variable {link k : Link}

theorem soname?_of_nodeps (hlink : link.linkType = .nodepsDynamicLibrary) :
    link.soname? = some ("lib" ++ String.ofList (escapePath ('_' :: link.output.path.chars))) := by
  unfold soname?
  rw [hlink]

theorem soname?_eq_iff (hlink : link.linkType = .nodepsDynamicLibrary) (hk : k.linkType = .nodepsDynamicLibrary) :
    link.soname? = k.soname? ↔ link.output.path = k.output.path := by
  rw [soname?_of_nodeps hlink, soname?_of_nodeps hk, Option.some.injEq, String.append_right_inj, String.ofList_inj,
    escapePath_injective.eq_iff, List.cons.injEq, Path.mk.injEq]
  exact and_iff_right rfl

/-- A soname is a single file name. -/
theorem not_mem_soname {name : String} (hname : name ∈ link.soname?) : '/' ∉ name.toList := by
  unfold soname? at hname
  split at hname
  · cases hname
    simp only [String.toList_append, String.toList_ofList, List.mem_append]
    exact not_or.2 ⟨by decide, not_mem_escapePath List.mem_cons_self _⟩
  · cases hname
    rw [String.toList_ofList]
    unfold Artifact.fileName
    cases hfile : link.output.path.fileName? with
    | none => exact List.not_mem_nil
    | some file => exact Path.not_mem_fileName? hfile
  · cases hname

end Link

/-- An escaped path can be read, and is the only text that reads as the path. So different paths have different
escaped texts, and libraries without their dependencies have different names. -/
theorem escapePath_faithful :
    (∀ name path, unescapePath? name = some path ↔ name = escapePath path) ∧
      Function.Injective escapePath ∧
      (∀ path, ∀ c ∈ ['/', '\\', ':', '@'], c ∉ escapePath path) ∧
      (∀ link k : Link, link.linkType = .nodepsDynamicLibrary → k.linkType = .nodepsDynamicLibrary →
        (link.soname? = k.soname? ↔ link.output.path = k.output.path)) ∧
      ∀ link : Link, ∀ name ∈ link.soname?, '/' ∉ name.toList := by
  refine ⟨fun name path => ⟨eq_escapePath_of_unescapePath?, ?_⟩, escapePath_injective,
    fun path c hc => not_mem_escapePath hc path, fun link k => Link.soname?_eq_iff,
    fun link name => Link.not_mem_soname⟩
  rintro rfl
  exact unescapePath?_escapePath path

namespace Sample

/-- A library without its dependencies. -/
def nodepsLibrary (output : String) : Link where
  owner := "//pkg:library"
  output := .derived (.ofString "bin") (.ofString output)
  linkType := .nodepsDynamicLibrary

theorem nodeps_sonames_differ : (nodepsLibrary "a/b_c.so").soname? ≠ (nodepsLibrary "a_b/c.so").soname? := fun h =>
  absurd (congrArg Path.chars ((escapePath_faithful.2.2.2.1 _ _ rfl rfl).1 h)) (by decide)

end Sample
end LinkPlanner
