import Mathlib.Data.List.Induction
import LinkPlanner.Link.Collection
import LinkPlanner.Proofs.NormalPaths

/-! Run-time search paths. A directory is written as it is seen from the directory of the output: with a `..` for each
name of the output's directory that the two do not share, and then the rest of its own names. So the path leads from the
one to the other by names alone, whatever the two have in common. -/

namespace LinkPlanner.Path

/-! ### Following a path -/

/-- One more step. A `..` leads back over the last name, and above the root there is only the root. -/
def takeStep (place : List Component) : Component → List Component
  | .here => place
  | .up =>
    match place.getLast? with
    | some (.name _) => place.dropLast
    | some .root => place
    | _ => place ++ [.up]
  | c => place ++ [c]

/-- Where the steps lead, by names alone. -/
def follow (steps : List Component) : List Component := steps.foldl takeStep []

/-- The steps of a run-time search path, with the directory of the output for its leading `$ORIGIN`. A path that does
not start there leads from no output. -/
def fromOrigin? (outputDir searchPath : Path) : Option (List Component) :=
  match searchPath.components with
  | .name origin :: steps => if origin = "$ORIGIN".toList then some (outputDir.components ++ steps) else none
  | _ => none

/-- The path has no `.` and no `..`. -/
def GoesDown (p : Path) : Prop := ∀ c ∈ p.components, c ≠ .here ∧ c ≠ .up

instance (p : Path) : Decidable p.GoesDown := inferInstanceAs (Decidable (∀ c ∈ p.components, c ≠ .here ∧ c ≠ .up))

theorem foldl_takeStep_names (place : List Component) (names : List (List Char)) :
    (names.map Component.name).foldl takeStep place = place ++ names.map .name := by
  induction names generalizing place with
  | nil => exact (List.append_nil _).symm
  | cons name names ih => exact (ih _).trans (List.append_assoc _ _ _)

/-- As many `..` as there are names lead back over the names. -/
theorem foldl_takeStep_ups (place : List Component) (names : List (List Char)) :
    (List.replicate names.length .up).foldl takeStep (place ++ names.map .name) = place := by
  induction names using List.reverseRecOn with
  | nil => exact List.append_nil _
  | append_singleton names name ih =>
      have hback : takeStep (place ++ (names ++ [name]).map .name) .up = place ++ names.map .name := by
        rw [List.map_append, ← List.append_assoc]
        unfold takeStep
        simp
      rw [List.length_append, List.length_singleton, List.replicate_succ, List.foldl_cons, hback, ih]

/-- From some names back to others that they share, and on from there. -/
theorem follow_back_and_on {head : List Component} (hhead : follow head = head) (common back on : List (List Char)) :
    follow (head ++ (common ++ back).map .name ++ (List.replicate back.length .up ++ on.map .name)) =
      head ++ (common ++ on).map .name := by
  have hback := foldl_takeStep_ups (head ++ common.map .name) back
  rw [List.append_assoc, ← List.map_append] at hback
  unfold follow at hhead ⊢
  rw [List.foldl_append, List.foldl_append, List.foldl_append, hhead, foldl_takeStep_names head, hback,
    foldl_takeStep_names, List.map_append, List.append_assoc]

/-- A path that goes down consists of names, behind the root if it is absolute. -/
theorem GoesDown.exists_names {p : Path} (hp : p.GoesDown) :
    ∃ names : List (List Char),
      p.components = (if p.isAbsolute then [Component.root] else []) ++ names.map .name := by
  have hcomponents := components_eq p
  have hnames : ((pieces p.chars).filterMap step?).map (fun c => Component.name c.chars) =
      (pieces p.chars).filterMap step? := by
    refine (List.map_congr_left fun c hc => ?_).trans (List.map_id _)
    have hstep := isStep_of_mem_filterMap hc
    obtain ⟨-, hup⟩ := hp c (hcomponents ▸ List.mem_append_right _ hc)
    cases c with
    | root | here => cases hstep
    | up => exact absurd rfl hup
    | name => rfl
  refine ⟨((pieces p.chars).filterMap step?).map Component.chars, ?_⟩
  rw [List.map_map]
  refine hcomponents.trans (congrArg₂ (· ++ ·) ?_ hnames.symm)
  rcases anchor_head p with hhead | hhead | hhead <;> rw [hhead] at hcomponents ⊢
  · rw [isAbsolute_of_anchor_none hhead]
    rfl
  · rw [(isAbsolute_iff p).2 (hcomponents ▸ List.mem_cons_self)]
    rfl
  · exact absurd rfl (hp .here (hcomponents ▸ List.mem_cons_self)).1

/-! ### The walk -/

theorem walk_append (pre goal start : List Component) :
    walk false (pre ++ goal) (pre ++ start) = walk false goal start := by
  induction pre with
  | nil => rfl
  | cons c pre ih =>
      rw [List.cons_append, List.cons_append, walk]
      simpa using ih

theorem walk_nil (start : List Component) : walk true [] start = some (List.replicate start.length .up) := by
  induction start with
  | nil => rfl
  | cons s start ih =>
      rw [walk, ih]
      rfl

/-- Between lists of names the walk leads back to where they part, and from there on to the goal. -/
theorem walk_names (goal start : List (List Char)) :
    ∃ common back on, start = common ++ back ∧ goal = common ++ on ∧
      walk false (goal.map .name) (start.map .name) = some (List.replicate back.length .up ++ on.map .name) := by
  induction start generalizing goal with
  | nil => exact ⟨[], [], goal, rfl, rfl, by cases goal <;> rfl⟩
  | cons s start ih =>
      cases goal with
      | nil =>
          refine ⟨[], s :: start, [], rfl, rfl, ?_⟩
          rw [List.map_cons, List.map_nil, walk, walk_nil, List.length_map, List.append_nil]
          rfl
      | cons g goal =>
          by_cases hgs : g = s
          · subst hgs
            obtain ⟨common, back, on, rfl, rfl, hwalk⟩ := ih goal
            exact ⟨g :: common, back, on, rfl, rfl, (walk_append [.name g] _ _).trans hwalk⟩
          · refine ⟨[], s :: start, g :: goal, rfl, rfl, ?_⟩
            rw [List.map_cons, List.map_cons, walk]
            simp [hgs, List.replicate_succ, Function.comp_def, List.map_const']

/-- From one path that goes down to another the walk goes back to where they part, and down from there. -/
theorem GoesDown.exists_walk {outputDir dir : Path} (hroot : outputDir.isAbsolute = dir.isAbsolute)
    (houtput : outputDir.GoesDown) (hdir : dir.GoesDown) :
    ∃ (head : List Component) (common back on : List (List Char)), follow head = head ∧
      outputDir.components = head ++ (common ++ back).map .name ∧
      dir.components = head ++ (common ++ on).map .name ∧
      walk false dir.components outputDir.components = some (List.replicate back.length .up ++ on.map .name) := by
  obtain ⟨start, hstart⟩ := houtput.exists_names
  obtain ⟨goal, hgoal⟩ := hdir.exists_names
  obtain ⟨common, back, on, rfl, rfl, hwalk⟩ := walk_names goal start
  rw [hroot] at hstart
  refine ⟨_, common, back, on, ?_, hstart, hgoal, ?_⟩
  · split <;> rfl
  · rw [hgoal, hstart, walk_append, hwalk]

/-! ### The path of a walk -/

/-- The steps of a walk can be told from their text. -/
theorem step?_chars_of_walk {dir : Path} {names : List (List Char)}
    (hnames : ∀ name ∈ names, .name name ∈ dir.components) (n : Nat) :
    ∀ c ∈ List.replicate n .up ++ names.map .name, step? c.chars = some c ∧ '/' ∉ c.chars := by
  intro c hc
  rcases List.mem_append.1 hc with hc | hc
  · rw [List.eq_of_mem_replicate hc]
    decide
  · obtain ⟨name, hname, rfl⟩ := List.mem_map.1 hc
    exact step?_chars (hnames name hname) rfl

/-- A join takes one more step. -/
theorem steps_join (p : Path) {c : Component} (hstep : step? c.chars = some c) (hslash : '/' ∉ c.chars) :
    (pieces (p.join ⟨c.chars⟩).chars).filterMap step? = (pieces p.chars).filterMap step? ++ [c] := by
  have hsingle : pieces c.chars = [c.chars] := List.splitOn_eq_singleton hslash
  have htight : IsTight ⟨c.chars⟩ := by
    change ∀ piece ∈ pieces c.chars, isSilent piece = false
    rw [hsingle, List.forall_mem_singleton]
    exact isSilent_of_step? hstep
  have hlast : (components ⟨c.chars⟩).filter Component.isStep = [c] := by
    rw [← filterMap_step?_eq, hsingle, List.filterMap_cons, hstep, List.filterMap_nil]
  have hseparator : (pieces (p.chars ++ p.separator)).filterMap step? = (pieces p.chars).filterMap step? := by
    unfold separator
    split
    · rw [List.append_nil]
    · rw [pieces_append_sep, List.filterMap_append]
      exact List.append_nil _
  rw [filterMap_step?_eq, components_join p htight.anchor_eq_none, List.filter_append, hlast, ← filterMap_step?_eq,
    hseparator]

theorem steps_foldl_join {steps : List Component} (hsteps : ∀ c ∈ steps, step? c.chars = some c ∧ '/' ∉ c.chars)
    (p : Path) :
    (pieces (steps.foldl (fun p step => p.join ⟨step.chars⟩) p).chars).filterMap step? =
      (pieces p.chars).filterMap step? ++ steps := by
  induction steps generalizing p with
  | nil => exact (List.append_nil _).symm
  | cons c steps ih =>
      obtain ⟨⟨hstep, hslash⟩, hrest⟩ := List.forall_mem_cons.1 hsteps
      rw [List.foldl_cons, ih hrest, steps_join p hstep hslash, List.append_assoc, List.singleton_append]

/-- The path that takes the steps. -/
def spell (steps : List Component) : Path := steps.foldl (fun p step => p.join ⟨step.chars⟩) empty

theorem isAbsolute_of_not_mem {cs : List Char} (hslash : '/' ∉ cs) : isAbsolute ⟨cs⟩ = false := by
  unfold isAbsolute
  rw [beq_eq_false_iff_ne]
  exact fun hhead => hslash (List.mem_of_mem_head? hhead)

theorem isAbsolute_foldl_join {steps : List Component} (hsteps : ∀ c ∈ steps, '/' ∉ c.chars) {p : Path}
    (hp : p.isAbsolute = false) : (steps.foldl (fun p step => p.join ⟨step.chars⟩) p).isAbsolute = false := by
  induction steps generalizing p with
  | nil => exact hp
  | cons c steps ih =>
      obtain ⟨hslash, hrest⟩ := List.forall_mem_cons.1 hsteps
      have hc := isAbsolute_of_not_mem hslash
      refine ih hrest ?_
      by_cases hchars : p.chars = []
      · change (p.join ⟨c.chars⟩).isAbsolute = false
        rw [show p = empty from congrArg Path.mk hchars, join_eq empty hc]
        exact hc
      · exact isAbsolute_join hp hchars hc

section

variable {steps : List Component} (hsteps : ∀ c ∈ steps, step? c.chars = some c ∧ '/' ∉ c.chars)
include hsteps

theorem isAbsolute_spell : (spell steps).isAbsolute = false :=
  isAbsolute_foldl_join (fun c hc => (hsteps c hc).2) rfl

theorem steps_spell : (pieces (spell steps).chars).filterMap step? = steps := steps_foldl_join hsteps empty

theorem chars_spell_eq_nil_iff : (spell steps).chars = [] ↔ steps = [] := by
  constructor
  · intro hnil
    have hempty := steps_spell hsteps
    rw [hnil] at hempty
    exact hempty.symm
  · rintro rfl
    rfl

end

/-! ### Search paths -/

theorem fromOrigin?_origin (outputDir : Path) :
    fromOrigin? outputDir (.ofString "$ORIGIN") = some outputDir.components := by
  have horigin : components (.ofString "$ORIGIN") = [.name "$ORIGIN".toList] := by decide
  unfold fromOrigin?
  rw [horigin]
  exact (if_pos rfl).trans (congrArg some (List.append_nil _))

/-- What stands behind `$ORIGIN` counts by its steps. -/
theorem fromOrigin?_append (outputDir p : Path) :
    fromOrigin? outputDir (.ofString ("$ORIGIN/" ++ p.text)) =
      some (outputDir.components ++ p.components.filter Component.isStep) := by
  have hpath : ofString ("$ORIGIN/" ++ p.text) = ⟨"$ORIGIN".toList ++ '/' :: p.chars⟩ := by
    unfold ofString text
    simp only [String.toList_append, String.toList_ofList]
    rfl
  have horigin : components ⟨"$ORIGIN".toList ++ ['/']⟩ = [.name "$ORIGIN".toList] := by decide
  unfold fromOrigin?
  rw [hpath, components_append_sep, horigin]
  exact if_pos rfl

section

variable {outputDir dir : Path} (hroot : outputDir.isAbsolute = dir.isAbsolute) {steps : List Component}
  (hsteps : ∀ c ∈ steps, step? c.chars = some c ∧ '/' ∉ c.chars)
  (hwalk : walk false dir.components outputDir.components = some steps)
include hroot hsteps hwalk

theorem originRelative_eq :
    originRelative outputDir dir = if steps = [] then "$ORIGIN" else "$ORIGIN/" ++ (spell steps).text := by
  unfold originRelative relativeTo?
  rw [if_pos hroot.symm, hwalk]
  change (if (spell steps).chars.isEmpty then _ else _) = _
  simp only [List.isEmpty_iff, chars_spell_eq_nil_iff hsteps]
  rfl

theorem originRelative_eq_origin_iff : originRelative outputDir dir = "$ORIGIN" ↔ steps = [] := by
  rw [originRelative_eq hroot hsteps hwalk]
  split
  · rename_i hnil
    exact ⟨fun _ => hnil, fun _ => rfl⟩
  · rename_i hne
    refine ⟨fun heq => ?_, fun hnil => absurd hnil hne⟩
    have hlen := congrArg (fun s : String => s.toList.length) heq
    simp [String.toList_append] at hlen

/-- What a run-time search path says is read back as the steps of the walk. -/
theorem fromOrigin?_originRelative :
    fromOrigin? outputDir (.ofString (originRelative outputDir dir)) = some (outputDir.components ++ steps) := by
  rw [originRelative_eq hroot hsteps hwalk]
  split
  · rename_i hnil
    rw [fromOrigin?_origin, hnil, List.append_nil]
  · rw [fromOrigin?_append, ← filterMap_step?_eq, steps_spell hsteps]

end

/-- A run-time search path starts at `$ORIGIN`, and leads from the directory of the output to the directory that it
stands for. Nothing follows `$ORIGIN` exactly if the two are the same, and otherwise a relative path does. -/
theorem originRelative_leads {outputDir dir : Path} (hroot : outputDir.isAbsolute = dir.isAbsolute)
    (houtput : outputDir.GoesDown) (hdir : dir.GoesDown) :
    (fromOrigin? outputDir (.ofString (originRelative outputDir dir))).map follow = some dir.components ∧
      (originRelative outputDir dir = "$ORIGIN" ↔ (outputDir == dir) = true) ∧
      ((outputDir == dir) = false →
        ∃ rest : Path, rest.isAbsolute = false ∧ originRelative outputDir dir = "$ORIGIN/" ++ rest.text) := by
  obtain ⟨head, common, back, on, hhead, hstart, hgoal, hwalk⟩ := houtput.exists_walk hroot hdir
  have hnames : ∀ name ∈ on, .name name ∈ dir.components := by
    intro name hname
    rw [hgoal]
    exact List.mem_append_right _ (List.mem_map_of_mem (List.mem_append_right _ hname))
  have hsteps := step?_chars_of_walk hnames back.length
  have hplain : originRelative outputDir dir = "$ORIGIN" ↔ (outputDir == dir) = true := by
    rw [originRelative_eq_origin_iff hroot hsteps hwalk, beq_iff]
    constructor
    · intro hnil
      obtain ⟨hback, hon⟩ := List.append_eq_nil_iff.1 hnil
      rw [hstart, hgoal, List.map_eq_nil_iff.1 hon, List.length_eq_zero_iff.1 ((List.replicate_eq_nil_iff _).1 hback)]
    · intro heq
      have hsame := walk_append dir.components [] []
      rw [List.append_nil] at hsame
      rw [heq, hsame] at hwalk
      exact (Option.some.inj hwalk).symm
  refine ⟨?_, hplain, fun hne => ⟨spell _, isAbsolute_spell hsteps, ?_⟩⟩
  · rw [fromOrigin?_originRelative hroot hsteps hwalk, Option.map_some, hstart, hgoal]
    exact congrArg some (follow_back_and_on hhead common back on)
  · have hnot : ¬ originRelative outputDir dir = "$ORIGIN" := fun heq => by
      rw [hplain.1 heq] at hne
      cases hne
    rw [originRelative_eq_origin_iff hroot hsteps hwalk] at hnot
    rw [originRelative_eq hroot hsteps hwalk, if_neg hnot]

/-- From a directory to one beside its parent. -/
theorem originRelative_leads_beside :
    originRelative (.ofString "/out/app/bin") (.ofString "/out/dep") = "$ORIGIN/../../dep" ∧
      (fromOrigin? (.ofString "/out/app/bin") (.ofString "$ORIGIN/../../dep")).map follow =
        some (Path.ofString "/out/dep").components := by
  have htext : originRelative (.ofString "/out/app/bin") (.ofString "/out/dep") = "$ORIGIN/../../dep" := by decide
  refine ⟨htext, ?_⟩
  rw [← htext]
  exact (originRelative_leads (by decide) (by decide) (by decide)).1

end LinkPlanner.Path
