/-! Sets that remember the order of insertion. Link order decides how symbols are resolved, and the order of
declared inputs has to be the same on every run, so what ends up in a plan is listed in the order in which it
was first given. Values are told apart by `==`, which may be coarser than equality: of several values that are
the same to `==`, the first one inserted is kept. -/

namespace LinkPlanner

/-- A list without repetitions, in the order of first insertion. -/
structure OrderedSet (α : Type) [BEq α] where
  toList : List α
  distinct : toList.Pairwise fun a b => (a == b) = false

namespace OrderedSet

variable {α : Type} [BEq α]

def empty : OrderedSet α := ⟨[], .nil⟩

instance : EmptyCollection (OrderedSet α) := ⟨empty⟩

instance : Inhabited (OrderedSet α) := ⟨empty⟩

def contains (s : OrderedSet α) (a : α) : Bool := s.toList.any (· == a)

theorem distinct_append_of_not_contains {s : OrderedSet α} {a : α} (h : ¬ s.contains a) :
    (s.toList ++ [a]).Pairwise fun a b => (a == b) = false := by
  refine List.pairwise_append.2 ⟨s.distinct, List.pairwise_singleton _ _, fun b hb c hc => ?_⟩
  simp only [contains, List.any_eq_true, not_exists, not_and, Bool.not_eq_true] at h
  exact List.mem_singleton.1 hc ▸ h b hb

/-- Adds `a` at the end unless a value that is the same is already there. -/
def insert (s : OrderedSet α) (a : α) : OrderedSet α :=
  if h : s.contains a then s else ⟨s.toList ++ [a], distinct_append_of_not_contains h⟩

def insertAll (s : OrderedSet α) (as : List α) : OrderedSet α := as.foldl insert s

def ofList (as : List α) : OrderedSet α := empty.insertAll as

/-- Adds `a` as `insert` does, and says whether it was added. -/
def insertNew (s : OrderedSet α) (a : α) : OrderedSet α × Bool := (s.insert a, !s.contains a)

/-- One step in putting a set together. -/
inductive Step (α : Type) where
  | insert (a : α)
  | extend (as : List α)
  /-- Makes the set anew, whatever it held. -/
  | collect (as : List α)

def step (s : OrderedSet α) : Step α → OrderedSet α
  | .insert a => (s.insertNew a).1
  | .extend as => s.insertAll as
  | .collect as => .ofList as

/-- The set after several steps, of which the first finds it empty. -/
def ofSteps (steps : List (Step α)) : OrderedSet α := steps.foldl step empty

def size (s : OrderedSet α) : Nat := s.toList.length

def isEmpty (s : OrderedSet α) : Bool := s.toList.isEmpty

/-- Sets are the same when they hold the same values in the same order. -/
instance : BEq (OrderedSet α) := ⟨fun s t => s.toList == t.toList⟩

@[simp] theorem toList_empty : (empty : OrderedSet α).toList = [] := rfl

theorem toList_insert (s : OrderedSet α) (a : α) :
    (s.insert a).toList = if s.contains a then s.toList else s.toList ++ [a] := by
  unfold insert; split <;> rfl

theorem insertAll_cons (s : OrderedSet α) (a : α) (as : List α) :
    s.insertAll (a :: as) = (s.insert a).insertAll as := rfl

theorem ofList_append (as bs : List α) : ofList (as ++ bs) = (ofList as).insertAll bs := List.foldl_append

theorem ofList_concat (as : List α) (a : α) : ofList (as ++ [a]) = (ofList as).insert a := ofList_append as [a]

end OrderedSet
end LinkPlanner
