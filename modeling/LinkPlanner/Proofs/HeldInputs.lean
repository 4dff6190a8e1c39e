import Mathlib.Data.List.TakeWhile
import LinkPlanner.Link.Edit
import LinkPlanner.Proofs.RequestFailures

/-! What a link holds after any number of edits, refused ones included. An edit adds what stands in its list before the
first thing that is refused, one after the other. Of all that was added, the link holds the first of each artifact as
it was given; that debug information has to be kept is remembered of the others too. -/

namespace LinkPlanner

/-! ### One edit -/

/-- What a list edit leaves is what is left by adding the accepted items at its head one by one. The edit fails where
the next item is refused, and for the same cause. -/
def Link.AddsUpTo {α : Type} (add : Link → α → Except Cause Link) (accepted : List α) (link : Link) (as : List α) :
    Prop :=
  ∃ rest, as = accepted ++ rest ∧ accepted.foldlM add link = .ok (addEach add link as).1 ∧
    match rest with
    | [] => (addEach add link as).2 = .ok ()
    | a :: _ => ∃ c, add (addEach add link as).1 a = .error c ∧ (addEach add link as).2 = .error c

namespace LinkEdit

/-- The objects that stand before the first one that is refused. -/
def acceptedObjects : LinkEdit → List ObjectInput
  | .addObjects os => os.takeWhile fun o => decide o.Named
  | .set _ | .addLibraries _ => []

/-- The libraries that stand before the first one that is refused. -/
def acceptedLibraries : LinkEdit → List LibraryInput
  | .addLibraries ls => ls.takeWhile fun l => decide l.Named
  | .set _ | .addObjects _ => []

end LinkEdit

namespace Link

theorem of_mem_takeWhile {α : Type} {named : α → Prop} [DecidablePred named] {as : List α} {a : α}
    (ha : a ∈ as.takeWhile (decide <| named ·)) : named a := by
  simpa using List.mem_takeWhile_imp ha

/-- What adding one item more preserves, adding several preserves. -/
theorem of_foldl_next {α : Type} {next : Link → α → Link} {named : α → Prop} {P : List α → Link → Prop}
    (hnext : ∀ {before : List α} {link : Link} {a : α}, P before link → named a → P (before ++ [a]) (next link a))
    {before : List α} {link : Link} (h : P before link) {as : List α} (has : ∀ a ∈ as, named a) :
    P (before ++ as) (as.foldl next link) := by
  induction as generalizing before link with
  | nil => rwa [List.append_nil]
  | cons a as ih =>
      obtain ⟨ha, hrest⟩ := List.forall_mem_cons.1 has
      rw [← List.singleton_append, ← List.append_assoc]
      exact ih (hnext h ha) hrest

section

variable {α : Type} {add : Link → α → Except Cause Link} {next : Link → α → Link} {error : α → Cause}
  {named : α → Prop} [DecidablePred named]
  (hok : ∀ link a, named a → add link a = .ok (next link a))
  (herror : ∀ link a, ¬ named a → add link a = .error (error a))
include hok herror

/-- A list edit adds what stands before the first item that is refused. -/
theorem addEach_eq (link : Link) (as : List α) :
    addEach add link as =
      ((as.takeWhile (decide <| named ·)).foldl next link,
        match as.dropWhile (decide <| named ·) with
        | [] => .ok ()
        | a :: _ => .error (error a)) := by
  induction as generalizing link with
  | nil => rfl
  | cons a as ih =>
      unfold addEach
      by_cases ha : named a
      · rw [hok link a ha, List.takeWhile_cons_of_pos (by simpa using ha),
          List.dropWhile_cons_of_pos (by simpa using ha)]
        exact ih (next link a)
      · rw [herror link a ha, List.takeWhile_cons_of_neg (by simpa using ha),
          List.dropWhile_cons_of_neg (by simpa using ha)]
        rfl

theorem addsUpTo_takeWhile (link : Link) (as : List α) : link.AddsUpTo add (as.takeWhile (decide <| named ·)) as := by
  have hadded : (as.takeWhile (decide <| named ·)).foldlM add link =
      .ok ((as.takeWhile (decide <| named ·)).foldl next link) := by
    rcases foldlM_add hok herror (as.takeWhile (decide <| named ·)) link with ⟨-, heq⟩ | ⟨a, ha, hnot, -⟩
    · exact heq
    · exact absurd (of_mem_takeWhile ha) hnot
  unfold AddsUpTo
  rw [addEach_eq hok herror]
  refine ⟨as.dropWhile (decide <| named ·), List.takeWhile_append_dropWhile.symm, hadded, ?_⟩
  cases hrest : as.dropWhile (decide <| named ·) with
  | nil => rfl
  | cons a rest =>
      have ha := List.head?_dropWhile_not (decide <| named ·) as
      rw [hrest] at ha
      exact ⟨error a, herror _ a (of_decide_eq_false ha), rfl⟩

/-- What adding one item more preserves, a list edit preserves for what it accepts. -/
theorem of_addEach {P : List α → Link → Prop}
    (hnext : ∀ {before : List α} {link : Link} {a : α}, P before link → named a → P (before ++ [a]) (next link a))
    {before : List α} {link : Link} (h : P before link) (as : List α) :
    P (before ++ as.takeWhile (decide <| named ·)) (addEach add link as).1 := by
  rw [addEach_eq hok herror]
  exact of_foldl_next hnext h fun _ ha => of_mem_takeWhile ha

end

theorem addsUpTo_objects (link : Link) (os : List ObjectInput) :
    link.AddsUpTo addObject (LinkEdit.addObjects os).acceptedObjects os :=
  addsUpTo_takeWhile (fun _ _ => addObject_of_named) (fun _ _ => addObject_of_not_named) link os

theorem addsUpTo_libraries (link : Link) (ls : List LibraryInput) :
    link.AddsUpTo addLibrary (LinkEdit.addLibraries ls).acceptedLibraries ls :=
  addsUpTo_takeWhile (fun _ _ => addLibrary_of_named) (fun _ _ => addLibrary_of_not_named) link ls

/-! ### What is held -/

/-- The link holds what was added: the first of each artifact, and whether any of all asked for debug information. -/
structure Holds (link : Link) (os : List ObjectInput) (ls : List LibraryInput) : Prop where
  objects_eq : link.objects = .ofList os
  libraries_eq : link.libraries = .ofList ls
  objects_named : ∀ o ∈ os, o.Named
  libraries_named : ∀ l ∈ ls, l.Named
  mustKeepDebug_eq : link.mustKeepDebug = (os.any (·.mustKeepDebug) || ls.any (·.mustKeepDebug))

theorem holds_start (build : Build) (owner : String) (output : Artifact) : (start build owner output).Holds [] [] :=
  ⟨rfl, rfl, List.forall_mem_nil _, List.forall_mem_nil _, rfl⟩

variable {link : Link} {os : List ObjectInput} {ls : List LibraryInput}

theorem Holds.set (h : link.Holds os ls) (s : LinkSetting) : (link.set s).Holds os ls := by
  obtain ⟨hobjects, hlibraries, hnamed, hnamed', hkeep⟩ := h
  cases s <;> exact ⟨hobjects, hlibraries, hnamed, hnamed', hkeep⟩

theorem Holds.withObject (h : link.Holds os ls) {o : ObjectInput} (ho : o.Named) :
    (link.withObject o).Holds (os ++ [o]) ls where
  objects_eq := by
    rw [OrderedSet.ofList_concat, ← h.objects_eq]
    rfl
  libraries_eq := h.libraries_eq
  objects_named := List.forall_mem_append.2 ⟨h.objects_named, List.forall_mem_singleton.2 ho⟩
  libraries_named := h.libraries_named
  mustKeepDebug_eq := by
    change (link.mustKeepDebug || o.mustKeepDebug) = _
    rw [h.mustKeepDebug_eq, List.any_append, List.any_cons, List.any_nil, Bool.or_false, Bool.or_right_comm]

theorem Holds.withLibrary (h : link.Holds os ls) {l : LibraryInput} (hl : l.Named) :
    (link.withLibrary l).Holds os (ls ++ [l]) where
  objects_eq := h.objects_eq
  libraries_eq := by
    rw [OrderedSet.ofList_concat, ← h.libraries_eq]
    rfl
  objects_named := h.objects_named
  libraries_named := List.forall_mem_append.2 ⟨h.libraries_named, List.forall_mem_singleton.2 hl⟩
  mustKeepDebug_eq := by
    change (link.mustKeepDebug || l.mustKeepDebug) = _
    rw [h.mustKeepDebug_eq, List.any_append, List.any_cons, List.any_nil, Bool.or_false, Bool.or_assoc]

/-- One edit adds what it accepts, also if it is refused in the end. -/
theorem Holds.edit (h : link.Holds os ls) (e : LinkEdit) :
    (link.edit e).1.Holds (os ++ e.acceptedObjects) (ls ++ e.acceptedLibraries) := by
  cases e with
  | set s =>
      change (link.set s).Holds (os ++ []) (ls ++ [])
      rw [List.append_nil, List.append_nil]
      exact h.set s
  | addObjects added =>
      change (link.addObjects added).1.Holds _ (ls ++ [])
      rw [List.append_nil]
      exact of_addEach (P := fun os link => link.Holds os ls) (fun _ _ => addObject_of_named)
        (fun _ _ => addObject_of_not_named) (fun h ho => h.withObject ho) h added
  | addLibraries added =>
      change (link.addLibraries added).1.Holds (os ++ []) _
      rw [List.append_nil]
      exact of_addEach (P := fun ls link => link.Holds os ls) (fun _ _ => addLibrary_of_named)
        (fun _ _ => addLibrary_of_not_named) (fun h hl => h.withLibrary hl) h added

/-- All edits together add what each of them accepts. -/
theorem Holds.editAll (h : link.Holds os ls) (edits : List LinkEdit) :
    (link.editAll edits).Holds (os ++ edits.flatMap (·.acceptedObjects))
      (ls ++ edits.flatMap (·.acceptedLibraries)) := by
  induction edits generalizing link os ls with
  | nil =>
      rw [List.flatMap_nil, List.flatMap_nil, List.append_nil, List.append_nil]
      exact h
  | cons e edits ih =>
      rw [List.flatMap_cons, List.flatMap_cons, ← List.append_assoc, ← List.append_assoc]
      exact ih (h.edit e)

/-- After any edits a link holds objects and libraries under names of theirs, no two of them the same: of all that was
accepted, the first of each artifact, as it was given. Debug information is kept if anything accepted asked for it. An
edit that is refused adds just what stands before the item for which it is refused. -/
theorem editAll_holds_accepted (build : Build) (owner : String) (output : Artifact) (edits : List LinkEdit) :
    let link := (start build owner output).editAll edits
    let objects := edits.flatMap (·.acceptedObjects)
    let libraries := edits.flatMap (·.acceptedLibraries)
    (∀ o ∈ link.objects.toList, o.artifact.isTree = true ∨ FileName.isObjectFile o.artifact.fileName = true) ∧
      (∀ l ∈ link.libraries.toList,
        FileName.isArchive l.artifact.fileName = true ∨ FileName.isSharedLibrary l.artifact.fileName = true) ∧
      (link.objects.toList.Pairwise fun o p => (o == p) = false) ∧
      (link.libraries.toList.Pairwise fun l k => (l == k) = false) ∧
      link.objects.toList = objects.eraseDups ∧
      link.libraries.toList = libraries.eraseDups ∧
      (link.mustKeepDebug = true ↔ (∃ o ∈ objects, o.mustKeepDebug = true) ∨ ∃ l ∈ libraries, l.mustKeepDebug = true) ∧
      (∀ os, link.AddsUpTo addObject (LinkEdit.addObjects os).acceptedObjects os) ∧
      ∀ ls, link.AddsUpTo addLibrary (LinkEdit.addLibraries ls).acceptedLibraries ls := by
  intro link objects libraries
  have h : link.Holds objects libraries := (holds_start build owner output).editAll edits
  refine ⟨fun o ho => ?_, fun l hl => ?_, link.objects.distinct, link.libraries.distinct, ?_, ?_, ?_,
    addsUpTo_objects link, addsUpTo_libraries link⟩
  · rw [h.objects_eq] at ho
    exact Bool.or_eq_true_iff.1 (h.objects_named o (OrderedSet.mem_of_mem_ofList ho))
  · rw [h.libraries_eq] at hl
    exact Bool.or_eq_true_iff.1 (h.libraries_named l (OrderedSet.mem_of_mem_ofList hl))
  · rw [h.objects_eq, OrderedSet.toList_ofList_eq_eraseDups]
  · rw [h.libraries_eq, OrderedSet.toList_ofList_eq_eraseDups]
  · rw [h.mustKeepDebug_eq, Bool.or_eq_true, List.any_eq_true, List.any_eq_true]

end Link
end LinkPlanner
