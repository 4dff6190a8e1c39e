import Mathlib.Data.List.Forall2
import LinkPlanner.Proofs.Listing

/-! What is in an ordered set after any steps. Of the values given since the set was last made anew, it holds those
before which none that is the same was given, in the spelling and in the order in which they were given. A later one
that is the same is answered for, but never held. So a set is decided by what it was given; by which steps, and in
which spelling a value was given again, makes no difference. -/

namespace LinkPlanner
namespace OrderedSet

variable {α : Type}

/-! ### What is given -/

/-- The values given up to a step, if `before` were given up to the step before it. -/
def Step.given (before : List α) : Step α → List α
  | .insert a => before ++ [a]
  | .extend as => before ++ as
  | .collect as => as

/-- The values given to a set since it was last made anew. -/
def given (steps : List (Step α)) : List α := steps.foldl Step.given []

variable [BEq α]

/-- A step makes the set of the values given up to it. -/
theorem step_ofList (as : List α) (step : Step α) : (ofList as).step step = ofList (step.given as) := by
  cases step with
  | insert a => exact (ofList_concat as a).symm
  | extend bs => exact (ofList_append as bs).symm
  | collect bs => rfl

/-- Several steps make the set of the values given up to the last of them. -/
theorem foldl_step_ofList (as : List α) (steps : List (Step α)) :
    steps.foldl step (ofList as) = ofList (steps.foldl Step.given as) := by
  induction steps generalizing as with
  | nil => rfl
  | cons step steps ih => rw [List.foldl_cons, List.foldl_cons, step_ofList, ih]

theorem ofSteps_eq_ofList (steps : List (Step α)) : ofSteps steps = ofList (given steps) :=
  foldl_step_ofList [] steps

/-! ### The first of each kind -/

/-- The values before which none that is the same stands, in their order. -/
def firsts (as : List α) : List α :=
  (as.zipIdx.filter fun e => (as.take e.2).all (· != e.1)).map (·.1)

theorem firsts_concat (as : List α) (a : α) :
    firsts (as ++ [a]) = if as.any (· == a) then firsts as else firsts as ++ [a] := by
  have hbefore : ∀ e ∈ as.zipIdx,
      ((as ++ [a]).take e.2).all (· != e.1) = (as.take e.2).all (· != e.1) := by
    intro e he
    have hlt : e.2 < as.length := List.snd_lt_of_mem_zipIdx he
    rw [List.take_append_of_le_length (Nat.le_of_lt hlt)]
  have hlast : ((as ++ [a]).take as.length).all (· != a) = !as.any (· == a) := by
    rw [List.take_left, List.not_any_eq_all_not]
    rfl
  unfold firsts
  rw [List.zipIdx_append, List.filter_append, List.filter_congr hbefore, List.map_append]
  simp only [List.zipIdx_singleton, Nat.zero_add, List.filter_cons, List.filter_nil, hlast]
  by_cases ha : as.any (· == a) = true
  · simp [ha]
  · simp [ha]

theorem toList_ofList_eq_firsts [EquivBEq α] (as : List α) : (ofList as).toList = firsts as := by
  induction as using List.reverseRecOn with
  | nil => rfl
  | append_singleton as a ih =>
      calc (ofList (as ++ [a])).toList
        _ = ((ofList as).insert a).toList := by rw [ofList_concat]
        _ = if as.any (· == a) then (ofList as).toList else (ofList as).toList ++ [a] := by
          rw [toList_insert, contains_ofList]
        _ = firsts (as ++ [a]) := by rw [ih, firsts_concat]

/-! ### Sets that are the same -/

theorem beq_iff_forall₂ {s t : OrderedSet α} :
    (s == t) = true ↔ List.Forall₂ (fun a b => (a == b) = true) s.toList t.toList := by
  change (s.toList == t.toList) = true ↔ _
  generalize s.toList = as
  generalize t.toList = bs
  induction as generalizing bs with
  | nil => cases bs <;> simp
  | cons a as ih => cases bs <;> simp [ih]

variable [EquivBEq α]

/-- Sets that are the same answer for the same values. -/
theorem contains_eq_of_beq {s t : OrderedSet α} {a b : α} (hst : (s == t) = true) (hab : (a == b) = true) :
    s.contains a = t.contains b := by
  have hheld := beq_iff_forall₂.1 hst
  unfold contains
  generalize s.toList = as at hheld
  generalize t.toList = bs at hheld
  induction hheld with
  | nil => rfl
  | @cons c d as bs hcd _ ih =>
      have hhead : (c == a) = (d == b) := (BEq.congr_left hcd).trans (BEq.congr_right hab)
      rw [List.any_cons, List.any_cons, hhead, ih]

theorem insert_beq_insert {s t : OrderedSet α} {a b : α} (hst : (s == t) = true) (hab : (a == b) = true) :
    (s.insert a == t.insert b) = true := by
  have hheld := beq_iff_forall₂.1 hst
  rw [beq_iff_forall₂, toList_insert, toList_insert, contains_eq_of_beq hst hab]
  split
  · exact hheld
  · exact List.rel_append hheld (.cons hab .nil)

theorem insertAll_beq_insertAll {s t : OrderedSet α} {as bs : List α} (hst : (s == t) = true)
    (h : List.Forall₂ (fun a b => (a == b) = true) as bs) : (s.insertAll as == t.insertAll bs) = true := by
  induction h generalizing s t with
  | nil => exact hst
  | cons hab _ ih => exact ih (insert_beq_insert hst hab)

/-- After any steps a set holds the first of each kind among the values given since it was last made anew, each as it
was given and where it was given. An insertion adds a value exactly if none that is the same was given, and the set
answers for a value exactly if it holds one that is the same, which is so exactly if one was given. Sets are the same
exactly if what they hold is the same value by value; those given the same values by other steps and in other spellings
are. -/
theorem ofSteps_holds_firsts (steps : List (Step α)) :
    (ofSteps steps).toList = firsts (given steps) ∧
      (∀ a, ((ofSteps steps).insertNew a).2 = true ↔ ∀ b ∈ given steps, (b == a) = false) ∧
      (∀ a, (ofSteps steps).contains a = true ↔ ∃ b ∈ (ofSteps steps).toList, (b == a) = true) ∧
      (∀ a, (ofSteps steps).contains a = true ↔ ∃ b ∈ given steps, (b == a) = true) ∧
      (∀ steps', (ofSteps steps == ofSteps steps') = true ↔
        List.Forall₂ (fun a b => (a == b) = true) (ofSteps steps).toList (ofSteps steps').toList) ∧
      ∀ steps', List.Forall₂ (fun a b => (a == b) = true) (given steps) (given steps') →
        (ofSteps steps == ofSteps steps') = true := by
  have hcontains (a : α) : (ofSteps steps).contains a = true ↔ ∃ b ∈ given steps, (b == a) = true := by
    rw [ofSteps_eq_ofList, contains_ofList, List.any_eq_true]
  refine ⟨?_, fun a => ?_, fun _ => contains_iff, hcontains, fun _ => beq_iff_forall₂, fun steps' hgiven => ?_⟩
  · rw [ofSteps_eq_ofList, toList_ofList_eq_firsts]
  · calc ((ofSteps steps).insertNew a).2 = true
      _ ↔ ¬ (ofSteps steps).contains a = true := by rw [Bool.not_eq_true, ← Bool.not_eq_true']; rfl
      _ ↔ ∀ b ∈ given steps, (b == a) = false := by rw [hcontains]; simp
  · rw [ofSteps_eq_ofList, ofSteps_eq_ofList]
    exact insertAll_beq_insertAll (beq_iff_forall₂.2 .nil) hgiven

end OrderedSet

namespace Sample

open OrderedSet

def archiveAt (path : String) : LibraryInput := .ofArtifact (file path) .staticLibrary

/-- The archive of `archiveAt "dep/liba.a"` under another spelling of its name, and with debug information to keep. -/
def archiveAgain : LibraryInput := { archiveAt "dep//liba.a" with mustKeepDebug := true }

def librarySteps : List (Step LibraryInput) :=
  [.insert archiveAgain, .collect [archiveAt "dep/liba.a", archiveAt "dep/libb.a"], .extend [archiveAgain],
    .insert (archiveAt "dep/./libb.a")]

/-- Of a library that is given twice the first stays, without what the second asks for. -/
theorem first_library_held :
    EquivBEq LibraryInput ∧ (ofSteps librarySteps).toList = [archiveAt "dep/liba.a", archiveAt "dep/libb.a"] ∧
      ((ofSteps librarySteps).insertNew archiveAgain).2 = false ∧
      ((ofSteps librarySteps).insertNew (archiveAt "dep/libc.a")).2 = true ∧
      (ofSteps librarySteps).contains archiveAgain = true ∧
      (ofSteps librarySteps == ofSteps [.collect [archiveAgain], .insert (archiveAt "dep/libb.a")]) = true := by
  obtain ⟨hheld, hnew, -, hcontains, hsame, -⟩ := ofSteps_holds_firsts librarySteps
  have hgiven : archiveAt "dep/liba.a" ∈ given librarySteps := List.mem_cons_self
  have hagain : (archiveAt "dep/liba.a" == archiveAgain) = true := rfl
  refine ⟨inferInstance, hheld, ?_, (hnew _).2 ?_, (hcontains _).2 ⟨_, hgiven, hagain⟩, (hsame _).2 ?_⟩
  · rw [← Bool.not_eq_true, hnew]
    intro hapart
    exact Bool.false_ne_true ((hapart _ hgiven).symm.trans hagain)
  · decide
  · rw [hheld]
    exact .cons hagain (.cons BEq.rfl .nil)

end Sample
end LinkPlanner
