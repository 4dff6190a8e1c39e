import LinkPlanner.Config.PerFileOptions
import LinkPlanner.Proofs.PathText
import LinkPlanner.Regex.Parser

/-! Options for some files, read and written. What is written need not be the text that was read: inclusions come before
exclusions, and parts without text are left out. But it is made of the very filters and options that were read, so it
reads as the same options, whatever separators and marks stand inside of these. This holds whatever counts as a
pattern, as long as the text of a pattern tells where it is found. -/

namespace LinkPlanner

/-- The filter is what its text reads as. -/
def FileFilter.Compiled (patterns : PatternReader) (filter : FileFilter) : Prop :=
  ofText? patterns filter.source = some filter

theorem FileFilter.of_ofText? {patterns : PatternReader} {source : List Char} {filter : FileFilter}
    (h : ofText? patterns source = some filter) : filter.source = source ∧ filter.Compiled patterns := by
  obtain ⟨accepts, haccepts, rfl⟩ := Option.map_eq_some_iff.1 h
  exact ⟨rfl, h⟩

namespace PerFileOptions

variable {patterns : PatternReader} {spec : List Char} {o p q : PerFileOptions}

/-- The filter is written as one that excludes files. -/
def isExclusion (filter : List Char) : Bool := filter.head? == some '-'

/-- The spec with its inclusions before its exclusions and without its empty parts. -/
def tidy (spec : List Char) : List Char :=
  let filters := listed (spec.takeWhile (· != '@'))
  [','].intercalate (filters.filter (!isExclusion ·) ++ filters.filter isExclusion) ++
    '@' :: [','].intercalate (listed (spec.dropWhile (· != '@')).tail)

/-! ### Lists -/

theorem mem_listed {cs part : List Char} (hpart : part ∈ listed cs) : part ≠ [] ∧ ',' ∉ part := by
  obtain ⟨hsplit, hempty⟩ := List.mem_filter.1 hpart
  refine ⟨?_, not_mem_of_mem_splitOn hsplit⟩
  rintro rfl
  cases hempty

/-- Parts that have text and no separator are read as they were written. -/
theorem listed_intercalate {parts : List (List Char)} (hparts : ∀ part ∈ parts, part ≠ [] ∧ ',' ∉ part) :
    listed ([','].intercalate parts) = parts := by
  by_cases hnil : parts = []
  · subst hnil
    rfl
  · unfold listed
    rw [List.splitOn_intercalate ',' (fun part hpart => (hparts part hpart).2) hnil]
    refine List.filter_eq_self.2 fun part hpart => ?_
    cases part with
    | nil => exact absurd rfl (hparts [] hpart).1
    | cons c part => rfl

/-- The parts of a text hold no characters but those of the text. -/
theorem mem_of_mem_listed {c : Char} (hc : c ≠ ',') {cs part : List Char} (hpart : part ∈ listed cs) (hmem : c ∈ part) :
    c ∈ cs := by
  have hjoin : [','].intercalate (cs.splitOn ',') = cs := List.intercalate_splitOn ','
  rw [← hjoin, mem_intercalate_iff hc]
  exact ⟨part, (List.mem_filter.1 hpart).1, hmem⟩

/-! ### One filter -/

theorem addFilter_exclusion (pattern : List Char) :
    addFilter patterns spec o ('-' :: pattern) =
      match FileFilter.ofText? patterns pattern with
      | some x => .ok { o with exclusions := o.exclusions ++ [x] }
      | none => .error (.badFilter pattern spec) := rfl

theorem addFilter_inclusion {filter : List Char} (hfilter : isExclusion filter = false) :
    addFilter patterns spec o filter =
      match FileFilter.ofText? patterns filter with
      | some x => .ok { o with inclusions := o.inclusions ++ [x] }
      | none => .error (.badFilter filter spec) := by
  unfold addFilter
  split
  · cases hfilter
  · rfl

/-- The options have taken on these filters, each behind those of its kind. -/
structure Takes (patterns : PatternReader) (filters : List (List Char)) (o p : PerFileOptions) : Prop where
  inclusions_eq : p.inclusions.map (·.source) = o.inclusions.map (·.source) ++ filters.filter (!isExclusion ·)
  exclusions_eq : p.exclusions.map ('-' :: ·.source) = o.exclusions.map ('-' :: ·.source) ++ filters.filter isExclusion
  compiled : (∀ x ∈ o.inclusions ++ o.exclusions, x.Compiled patterns) → ∀ x ∈ p.inclusions ++ p.exclusions, x.Compiled patterns

theorem takes_nil (o : PerFileOptions) : Takes patterns [] o o := ⟨(List.append_nil _).symm, (List.append_nil _).symm, id⟩

theorem Takes.trans {before after : List (List Char)} (hop : Takes patterns before o p) (hpq : Takes patterns after p q) :
    Takes patterns (before ++ after) o q where
  inclusions_eq := by rw [hpq.inclusions_eq, hop.inclusions_eq, List.filter_append, List.append_assoc]
  exclusions_eq := by rw [hpq.exclusions_eq, hop.exclusions_eq, List.filter_append, List.append_assoc]
  compiled := hpq.compiled ∘ hop.compiled

theorem takes_of_addFilter {filter : List Char} (h : addFilter patterns spec o filter = .ok p) : Takes patterns [filter] o p := by
  cases hkind : isExclusion filter with
  | true =>
      obtain ⟨pattern, rfl⟩ := List.head?_eq_some_iff.1 (beq_iff_eq.1 hkind)
      rw [addFilter_exclusion] at h
      cases hx : FileFilter.ofText? patterns pattern with
      | none =>
          rw [hx] at h
          cases h
      | some x =>
          rw [hx] at h
          cases h
          obtain ⟨rfl, hcompiled⟩ := FileFilter.of_ofText? hx
          refine ⟨(List.append_nil _).symm, List.map_append, fun hall y hy => ?_⟩
          rw [← List.append_assoc, List.mem_append, List.mem_singleton] at hy
          exact hy.elim (hall y) fun heq => heq ▸ hcompiled
  | false =>
      rw [addFilter_inclusion hkind] at h
      cases hx : FileFilter.ofText? patterns filter with
      | none =>
          rw [hx] at h
          cases h
      | some x =>
          rw [hx] at h
          cases h
          obtain ⟨rfl, hcompiled⟩ := FileFilter.of_ofText? hx
          refine ⟨?_, ?_, fun hall y hy => ?_⟩
          · rw [List.map_append, List.filter_cons, hkind]
            rfl
          · rw [List.filter_cons, hkind]
            exact (List.append_nil _).symm
          · rw [List.append_assoc, List.mem_append, List.mem_append, List.mem_singleton] at hy
            rcases hy with hy | rfl | hy
            · exact hall y (List.mem_append_left _ hy)
            · exact hcompiled
            · exact hall y (List.mem_append_right _ hy)

/-! ### Several filters -/

theorem takes_of_foldlM {filters : List (List Char)} (h : filters.foldlM (addFilter patterns spec) o = .ok p) :
    Takes patterns filters o p := by
  induction filters generalizing o with
  | nil =>
      cases h
      exact takes_nil _
  | cons filter filters ih =>
      rw [List.foldlM_cons] at h
      cases hfirst : addFilter patterns spec o filter with
      | error e =>
          rw [hfirst] at h
          cases h
      | ok q =>
          rw [hfirst] at h
          exact (takes_of_addFilter hfirst).trans (ih h)

theorem foldlM_inclusions {xs : List FileFilter} (hxs : ∀ x ∈ xs, x.Compiled patterns ∧ isExclusion x.source = false)
    (o : PerFileOptions) :
    (xs.map (·.source)).foldlM (addFilter patterns spec) o = .ok { o with inclusions := o.inclusions ++ xs } := by
  induction xs generalizing o with
  | nil =>
      rw [List.append_nil]
      rfl
  | cons x xs ih =>
      obtain ⟨⟨hcompiled, hkind⟩, hrest⟩ := List.forall_mem_cons.1 hxs
      rw [List.map_cons, List.foldlM_cons, addFilter_inclusion hkind, hcompiled]
      refine (ih hrest _).trans ?_
      rw [List.append_assoc, List.singleton_append]

theorem foldlM_exclusions {xs : List FileFilter} (hxs : ∀ x ∈ xs, x.Compiled patterns) (o : PerFileOptions) :
    (xs.map ('-' :: ·.source)).foldlM (addFilter patterns spec) o = .ok { o with exclusions := o.exclusions ++ xs } := by
  induction xs generalizing o with
  | nil =>
      rw [List.append_nil]
      rfl
  | cons x xs ih =>
      obtain ⟨hcompiled, hrest⟩ := List.forall_mem_cons.1 hxs
      rw [List.map_cons, List.foldlM_cons, addFilter_exclusion, hcompiled]
      refine (ih hrest _).trans ?_
      rw [List.append_assoc, List.singleton_append]

/-! ### Whole specs -/

/-- The first `@` ends the filters, whatever follows it. -/
theorem split_at {filters : List Char} (hfilters : '@' ∉ filters) (options : List Char) :
    (filters ++ '@' :: options).takeWhile (· != '@') = filters ∧
      (filters ++ '@' :: options).dropWhile (· != '@') = '@' :: options := by
  have hplain : ∀ c ∈ filters, (c != '@') = true := fun c hc => bne_iff_ne.2 fun heq => hfilters (heq ▸ hc)
  exact ⟨(List.takeWhile_append_of_pos hplain).trans (List.append_nil _), List.dropWhile_append_of_pos hplain⟩

theorem parse_append {filters : List Char} (hfilters : '@' ∉ filters) (options : List Char) :
    parse patterns (filters ++ '@' :: options) =
      (listed filters).foldlM (addFilter patterns (filters ++ '@' :: options)) {} >>= fun o =>
        .ok { o with options := listed options } := by
  obtain ⟨htake, hdrop⟩ := split_at hfilters options
  unfold parse
  rw [hdrop, htake]

theorem tidy_append {filters : List Char} (hfilters : '@' ∉ filters) (options : List Char) :
    tidy (filters ++ '@' :: options) =
      [','].intercalate ((listed filters).filter (!isExclusion ·) ++ (listed filters).filter isExclusion) ++
        '@' :: [','].intercalate (listed options) := by
  obtain ⟨htake, hdrop⟩ := split_at hfilters options
  unfold tidy
  rw [hdrop, htake]
  rfl

theorem exists_split_of_parse (h : parse patterns spec = .ok o) :
    ∃ filters options, spec = filters ++ '@' :: options ∧ '@' ∉ filters := by
  have hsplit := List.takeWhile_append_dropWhile (p := (· != '@')) (l := spec)
  have hat := List.head?_dropWhile_not (· != '@') spec
  have hbefore : (spec.takeWhile (· != '@')).all (· != '@') = true := List.all_takeWhile
  unfold parse at h
  cases hrest : spec.dropWhile (· != '@') with
  | nil =>
      rw [hrest] at h
      cases h
  | cons c options =>
      rw [hrest] at hsplit hat
      have hc : c = '@' := bne_eq_false_iff_eq.1 hat
      refine ⟨_, options, hc ▸ hsplit.symm, fun hmem => ?_⟩
      exact bne_iff_ne.1 (List.all_eq_true.1 hbefore '@' hmem) rfl

/-- What was read consists of the filters and the options of the text. -/
theorem takes_of_parse {filters options : List Char} (hfilters : '@' ∉ filters)
    (h : parse patterns (filters ++ '@' :: options) = .ok o) : Takes patterns (listed filters) {} o ∧ o.options = listed options := by
  rw [parse_append hfilters] at h
  cases hread : (listed filters).foldlM (addFilter patterns (filters ++ '@' :: options)) {} with
  | error e =>
      rw [hread] at h
      cases h
  | ok p =>
      rw [hread] at h
      cases h
      have htakes := takes_of_foldlM hread
      exact ⟨⟨htakes.inclusions_eq, htakes.exclusions_eq, htakes.compiled⟩, rfl⟩

/-- The filters as they are written, inclusions first. -/
def writtenFilters (o : PerFileOptions) : List (List Char) :=
  o.inclusions.map (·.source) ++ o.exclusions.map ('-' :: ·.source)

/-- What is written of the options can be taken apart again: no separator stands inside of a filter or an option, each
has text, and each filter is that of its text. -/
structure Legible (patterns : PatternReader) (o : PerFileOptions) : Prop where
  inclusions : ∀ x ∈ o.inclusions, x.Compiled patterns ∧ isExclusion x.source = false
  exclusions : ∀ x ∈ o.exclusions, x.Compiled patterns
  filters : ∀ part ∈ o.writtenFilters, (part ≠ [] ∧ ',' ∉ part) ∧ '@' ∉ part
  options : ∀ part ∈ o.options, part ≠ [] ∧ ',' ∉ part

theorem Legible.parse_print (ho : o.Legible patterns) : parse patterns o.print = .ok o := by
  have hwritten : '@' ∉ [','].intercalate o.writtenFilters := by
    rw [mem_intercalate_iff (by decide)]
    rintro ⟨part, hpart, hat⟩
    exact (ho.filters part hpart).2 hat
  change parse patterns ([','].intercalate o.writtenFilters ++ '@' :: [','].intercalate o.options) = _
  rw [parse_append hwritten, listed_intercalate fun part hpart => (ho.filters part hpart).1,
    listed_intercalate ho.options, writtenFilters, List.foldlM_append, foldlM_inclusions ho.inclusions]
  change ((o.exclusions.map ('-' :: ·.source)).foldlM (addFilter patterns _) _ >>= _) = _
  rw [foldlM_exclusions ho.exclusions]
  rfl

section

variable {filters options : List Char} (hfilters : '@' ∉ filters) (h : parse patterns (filters ++ '@' :: options) = .ok o)
include hfilters h

/-- The filters of a text are written as they were read, but for their order. -/
theorem writtenFilters_of_parse :
    o.writtenFilters = (listed filters).filter (!isExclusion ·) ++ (listed filters).filter isExclusion := by
  obtain ⟨htakes, -⟩ := takes_of_parse hfilters h
  exact congrArg₂ (· ++ ·) htakes.inclusions_eq htakes.exclusions_eq

theorem legible_of_parse : o.Legible patterns := by
  obtain ⟨htakes, hoptions⟩ := takes_of_parse hfilters h
  have hcompiled := htakes.compiled fun x hx => absurd hx List.not_mem_nil
  refine ⟨fun x hx => ⟨hcompiled x (List.mem_append_left _ hx), ?_⟩,
    fun x hx => hcompiled x (List.mem_append_right _ hx), fun part hpart => ?_, fun part hpart => ?_⟩
  · have hsource : x.source ∈ [] ++ (listed filters).filter (!isExclusion ·) :=
      htakes.inclusions_eq ▸ List.mem_map_of_mem hx
    exact Bool.not_inj (List.mem_filter.1 hsource).2
  · rw [writtenFilters_of_parse hfilters h, List.mem_append, List.mem_filter, List.mem_filter] at hpart
    have hlisted : part ∈ listed filters := hpart.elim And.left And.left
    exact ⟨mem_listed hlisted, fun hat => hfilters (mem_of_mem_listed (by decide) hlisted hat)⟩
  · exact mem_listed (hoptions ▸ hpart)

theorem print_of_parse : o.print = tidy (filters ++ '@' :: options) := by
  rw [tidy_append hfilters, ← writtenFilters_of_parse hfilters h, ← (takes_of_parse hfilters h).2]
  rfl

end

/-- What is written is read as the options it was written for. It is the text these were read from, tidied up, and so
it is written in the same way again. -/
theorem printed_reads_back (h : parse patterns spec = .ok o) : parse patterns o.print = .ok o ∧ o.print = tidy spec := by
  obtain ⟨filters, options, rfl, hfilters⟩ := exists_split_of_parse h
  exact ⟨(legible_of_parse hfilters h).parse_print, print_of_parse hfilters h⟩

/-- Parts without text, a bare `-`, a pattern that starts with `-` and an option with an `@` in it, where patterns are
regular expressions. -/
theorem printed_reads_back_of_marks :
    ∃ o, parse Regex.matcher? ",-,--a,b,@x@y,,z".toList = .ok o ∧ parse Regex.matcher? o.print = .ok o ∧
      o.print = "b,-,--a@x@y,z".toList := by
  have hread : (parse Regex.matcher? ",-,--a,b,@x@y,,z".toList).toOption.isSome = true := by decide +kernel
  cases h : parse Regex.matcher? ",-,--a,b,@x@y,,z".toList with
  | error e =>
      rw [h] at hread
      cases hread
  | ok o => exact ⟨o, rfl, (printed_reads_back h).1, (printed_reads_back h).2.trans (by decide)⟩

end PerFileOptions
end LinkPlanner
