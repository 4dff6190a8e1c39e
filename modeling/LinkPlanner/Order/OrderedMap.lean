/-! Maps that remember the order in which their keys were first given. Keys are told apart by `==`. A key
given again takes the new value but stays where it was, in the spelling it was first given in. -/

namespace LinkPlanner

/-- Entries with distinct keys, in the order in which the keys were first given. -/
structure OrderedMap (κ υ : Type) [BEq κ] where
  entries : List (κ × υ)
  distinct : entries.Pairwise fun e f => (e.1 == f.1) = false

namespace OrderedMap

variable {κ υ : Type} [BEq κ]

def empty : OrderedMap κ υ := ⟨[], .nil⟩

instance : EmptyCollection (OrderedMap κ υ) := ⟨empty⟩

instance : Inhabited (OrderedMap κ υ) := ⟨empty⟩

def keys (m : OrderedMap κ υ) : List κ := m.entries.map (·.1)

def values (m : OrderedMap κ υ) : List υ := m.entries.map (·.2)

def contains (m : OrderedMap κ υ) (k : κ) : Bool := m.entries.any (·.1 == k)

def get? (m : OrderedMap κ υ) (k : κ) : Option υ := (m.entries.find? (·.1 == k)).map (·.2)

def size (m : OrderedMap κ υ) : Nat := m.entries.length

def isEmpty (m : OrderedMap κ υ) : Bool := m.entries.isEmpty

/-- The same keys with the value of `k` changed by `f`. -/
def modify (m : OrderedMap κ υ) (k : κ) (f : υ → υ) : OrderedMap κ υ where
  entries := m.entries.map fun e => (e.1, if e.1 == k then f e.2 else e.2)
  distinct := List.pairwise_map.2 m.distinct

theorem distinct_append_of_not_contains {m : OrderedMap κ υ} {k : κ} (h : ¬ m.contains k) (v : υ) :
    (m.entries ++ [(k, v)]).Pairwise fun e f => (e.1 == f.1) = false := by
  refine List.pairwise_append.2 ⟨m.distinct, List.pairwise_singleton _ _, fun e he f hf => ?_⟩
  simp only [contains, List.any_eq_true, not_exists, not_and, Bool.not_eq_true] at h
  exact List.mem_singleton.1 hf ▸ h e he

/-- Gives `k` the value `f old` if it has the value `old`, and otherwise adds it at the end with `v`. -/
def upsert (m : OrderedMap κ υ) (k : κ) (v : υ) (f : υ → υ) : OrderedMap κ υ :=
  if h : m.contains k then m.modify k f else ⟨m.entries ++ [(k, v)], distinct_append_of_not_contains h v⟩

def insert (m : OrderedMap κ υ) (k : κ) (v : υ) : OrderedMap κ υ := m.upsert k v fun _ => v

def insertAll (m : OrderedMap κ υ) (es : List (κ × υ)) : OrderedMap κ υ :=
  es.foldl (fun m e => m.insert e.1 e.2) m

def ofList (es : List (κ × υ)) : OrderedMap κ υ := empty.insertAll es

@[simp] theorem entries_empty : (empty : OrderedMap κ υ).entries = [] := rfl

theorem entries_insert (m : OrderedMap κ υ) (k : κ) (v : υ) :
    (m.insert k v).entries =
      if m.contains k then m.entries.map fun e => (e.1, if e.1 == k then v else e.2)
      else m.entries ++ [(k, v)] := by
  unfold insert upsert; split <;> rfl

end OrderedMap
end LinkPlanner
