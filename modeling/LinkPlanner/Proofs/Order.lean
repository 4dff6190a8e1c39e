import Mathlib.Data.List.Induction
import LinkPlanner.Order.OrderedMap
import LinkPlanner.Order.OrderedSet

/-! What is in an ordered set or map after insertions. Values and keys are told apart by `==`, which need
not be equality, so two questions differ: which values are held (`∈`, the spelling first given) and which
values the container answers for (`contains`, up to `==`). -/

namespace LinkPlanner

namespace OrderedSet

variable {α : Type} [BEq α]

/-! ### Held values -/

/-- Insertion only adds at the end, and adds only what is inserted. -/
theorem toList_insertAll (s : OrderedSet α) (as : List α) :
    ∃ added, (s.insertAll as).toList = s.toList ++ added ∧ added.Sublist as := by
  induction as generalizing s with
  | nil => exact ⟨[], (List.append_nil _).symm, List.Sublist.slnil⟩
  | cons a as ih =>
      obtain ⟨added, hadded, hsub⟩ := ih (s.insert a)
      rw [← insertAll_cons, toList_insert] at hadded
      split at hadded
      · exact ⟨added, hadded, hsub.cons a⟩
      · refine ⟨a :: added, ?_, hsub.cons_cons a⟩
        rw [List.append_assoc] at hadded
        exact hadded

theorem mem_of_mem_insertAll {s : OrderedSet α} {as : List α} {b : α} (hb : b ∈ (s.insertAll as).toList) :
    b ∈ s.toList ∨ b ∈ as := by
  obtain ⟨added, hadded, hsub⟩ := toList_insertAll s as
  rw [hadded, List.mem_append] at hb
  exact hb.imp_right fun h => hsub.subset h

theorem mem_of_mem_ofList {as : List α} {b : α} (hb : b ∈ (ofList as).toList) : b ∈ as := by
  rcases mem_of_mem_insertAll hb with h | h
  · rw [toList_empty] at h
    cases h
  · exact h

theorem mem_ofList_append {as : List α} {a : α} (ha : a ∈ (ofList as).toList) (bs : List α) :
    a ∈ (ofList (as ++ bs)).toList := by
  obtain ⟨added, hadded, -⟩ := toList_insertAll (ofList as) bs
  rw [ofList_append, hadded]
  exact List.mem_append_left _ ha

/-- A function under which values are the same exactly if their images are leaves out the same ones. -/
theorem toList_ofList_map {β : Type} [BEq β] {f : α → β} {as : List α}
    (hf : ∀ a ∈ as, ∀ b ∈ as, (f a == f b) = (a == b)) :
    (ofList (as.map f)).toList = (ofList as).toList.map f := by
  induction as using List.reverseRecOn with
  | nil => rfl
  | append_singleton as a ih =>
      have hbefore := ih fun b hb c hc => hf b (List.mem_append_left _ hb) c (List.mem_append_left _ hc)
      have hcontains : (ofList (as.map f)).contains (f a) = (ofList as).contains a := by
        have hsame : ∀ b ∈ (ofList as).toList, (f b == f a) = (b == a) := fun b hb =>
          hf b (List.mem_append_left _ (mem_of_mem_ofList hb)) a
            (List.mem_append_right _ (List.mem_singleton_self a))
        unfold contains
        rw [hbefore, List.any_map, Bool.eq_iff_iff, List.any_eq_true, List.any_eq_true]
        refine exists_congr fun b => and_congr_right fun hb => ?_
        rw [Function.comp_apply, hsame b hb]
      rw [List.map_append, List.map_singleton, ofList_concat, ofList_concat, toList_insert, toList_insert, hcontains,
        hbefore]
      split
      · rfl
      · rw [List.map_append, List.map_cons, List.map_nil]

/-! ### Values answered for -/

theorem contains_iff {s : OrderedSet α} {a : α} : s.contains a = true ↔ ∃ b ∈ s.toList, (b == a) = true := by
  unfold contains
  rw [List.any_eq_true]

/-- What is put into a set later is left out if it is the same as something put in before. -/
theorem mem_or_of_mem_ofList_append {as bs : List α} {a : α} (ha : a ∈ (ofList (as ++ bs)).toList) :
    a ∈ (ofList as).toList ∨ a ∈ bs ∧ (ofList as).contains a = false := by
  obtain ⟨added, hadded, hsub⟩ := toList_insertAll (ofList as) bs
  have hdistinct := (ofList (as ++ bs)).distinct
  rw [ofList_append, hadded] at ha hdistinct
  refine (List.mem_append.1 ha).imp_right fun hlate => ⟨hsub.subset hlate, ?_⟩
  rw [← Bool.not_eq_true, contains_iff]
  rintro ⟨b, hb, hba⟩
  exact Bool.false_ne_true (((List.pairwise_append.1 hdistinct).2.2 b hb a hlate).symm.trans hba)

variable [EquivBEq α]

theorem contains_congr {s : OrderedSet α} {a b : α} (hab : (a == b) = true) : s.contains a = s.contains b := by
  unfold contains
  congr 1
  funext c
  exact BEq.congr_right hab

theorem contains_insert (s : OrderedSet α) (a b : α) :
    (s.insert a).contains b = (s.contains b || a == b) := by
  unfold contains
  rw [toList_insert]
  split
  · rename_i ha
    -- `a` is left out, but what stands for it is already there
    cases hab : a == b with
    | false => rw [Bool.or_false]
    | true =>
        rw [Bool.or_true]
        exact (contains_congr hab).symm.trans ha
  · rw [List.any_append, List.any_cons, List.any_nil, Bool.or_false]

theorem contains_insertAll (s : OrderedSet α) (as : List α) (b : α) :
    (s.insertAll as).contains b = (s.contains b || as.any (· == b)) := by
  induction as generalizing s with
  | nil => exact (Bool.or_false _).symm
  | cons a as ih =>
      rw [insertAll_cons, ih, contains_insert, List.any_cons, Bool.or_assoc]

theorem contains_ofList (as : List α) (b : α) : (ofList as).contains b = as.any (· == b) := by
  unfold ofList
  rw [contains_insertAll]
  exact Bool.false_or _

/-- What is added to a set is what it does not answer for, each value where it first stands. -/
theorem toList_insertAll_eq (s : OrderedSet α) (as : List α) :
    (s.insertAll as).toList = s.toList ++ (as.filter (!s.contains ·)).eraseDups := by
  induction as generalizing s with
  | nil => exact (List.append_nil _).symm
  | cons a as ih =>
      rw [insertAll_cons, ih, toList_insert, List.filter_cons]
      cases ha : s.contains a with
      | true =>
          have hsame : ∀ b, (s.insert a).contains b = s.contains b := by
            intro b
            unfold contains
            rw [toList_insert, if_pos ha]
          simp only [hsame]
          rfl
      | false =>
          have hnew : as.filter (!(s.insert a).contains ·) = (as.filter (!s.contains ·)).filter (!· == a) := by
            rw [List.filter_filter]
            refine List.filter_congr fun b _ => ?_
            rw [contains_insert, Bool.not_or, BEq.comm, Bool.and_comm]
          rw [hnew, if_neg Bool.false_ne_true]
          simp only [Bool.not_false, if_true]
          rw [List.eraseDups_cons, List.append_assoc, List.singleton_append]

/-- A set of values is made of the first ones of each kind, in the order in which they stand. -/
theorem toList_ofList_eq_eraseDups (as : List α) : (ofList as).toList = as.eraseDups := by
  unfold ofList
  rw [toList_insertAll_eq, toList_empty, List.nil_append]
  exact congrArg List.eraseDups (List.filter_eq_self.2 fun _ _ => rfl)

/-- Where values are only the same if they are equal, a set holds all that it is made of. -/
theorem mem_ofList_iff {α : Type} [BEq α] [LawfulBEq α] {as : List α} {a : α} : a ∈ (ofList as).toList ↔ a ∈ as := by
  rw [toList_ofList_eq_eraseDups, List.mem_eraseDups]

theorem contains_ofList_of_mem {as : List α} {a : α} (ha : a ∈ as) : (ofList as).contains a = true := by
  rw [contains_ofList, List.any_eq_true]
  exact ⟨a, ha, BEq.rfl⟩

theorem exists_of_mem_ofList {as : List α} {a : α} (ha : a ∈ as) : ∃ b ∈ (ofList as).toList, (b == a) = true :=
  contains_iff.1 (contains_ofList_of_mem ha)

theorem toList_ofList_eq_nil_iff {as : List α} : (ofList as).toList = [] ↔ as = [] := by
  cases as with
  | nil => exact ⟨fun _ => rfl, fun _ => rfl⟩
  | cons a as =>
      obtain ⟨b, hb, -⟩ := exists_of_mem_ofList (List.mem_cons_self (a := a) (l := as))
      exact ⟨fun hnil => absurd hb (hnil ▸ List.not_mem_nil), fun hnil => by cases hnil⟩

/-- Of values that are told apart, none is left out. -/
theorem toList_ofList {as : List α} (has : as.Pairwise fun a b => (a == b) = false) :
    (ofList as).toList = as := by
  suffices h : ∀ s : OrderedSet α, (∀ a ∈ as, s.contains a = false) →
      (s.insertAll as).toList = s.toList ++ as from h empty fun _ _ => rfl
  induction as with
  | nil => exact fun s _ => (List.append_nil _).symm
  | cons a as ih =>
      intro s hs
      obtain ⟨ha, has⟩ := List.pairwise_cons.1 has
      rw [insertAll_cons, ih has (s.insert a), toList_insert, if_neg, List.append_assoc, List.singleton_append]
      · rw [hs a List.mem_cons_self]
        exact Bool.false_ne_true
      · intro b hb
        rw [contains_insert, hs b (List.mem_cons_of_mem _ hb), ha b hb]
        rfl

/-- Values that the set does not answer for are added as to an empty set. -/
theorem toList_insertAll_of_apart {s : OrderedSet α} {as : List α} (has : ∀ a ∈ as, s.contains a = false) :
    (s.insertAll as).toList = s.toList ++ (ofList as).toList := by
  rw [toList_insertAll_eq, toList_ofList_eq_eraseDups, List.filter_eq_self.2]
  intro a ha
  rw [has a ha]
  rfl

omit [EquivBEq α] in
theorem eq_of_toList_eq {s t : OrderedSet α} (h : s.toList = t.toList) : s = t := by
  cases s
  cases t
  cases h
  rfl

/-- A set is made of what it holds. -/
theorem ofList_toList (s : OrderedSet α) : ofList s.toList = s := eq_of_toList_eq (toList_ofList s.distinct)

/-- What a question selects from a set that does not tell the same values apart is the set of what it selects. -/
theorem filter_ofList {p : α → Bool} (hp : ∀ a b, (a == b) = true → p a = p b) (as : List α) :
    (ofList as).toList.filter p = (ofList (as.filter p)).toList := by
  induction as using List.reverseRecOn with
  | nil => rfl
  | append_singleton as a ih =>
      rw [ofList_concat, List.filter_append, toList_insert]
      cases ha : p a with
      | false =>
          have hnone : [a].filter p = [] := List.filter_eq_nil_iff.2 (by simp [ha])
          rw [hnone, List.append_nil, ← ih]
          split
          · rfl
          · rw [List.filter_append, hnone, List.append_nil]
      | true =>
          have hcontains : (ofList (as.filter p)).contains a = (ofList as).contains a := by
            rw [contains_ofList, contains_ofList, List.any_filter]
            congr 1
            funext b
            cases hba : b == a with
            | false => exact Bool.and_false _
            | true => rw [hp b a hba, ha, Bool.and_true]
          have hall : [a].filter p = [a] := List.filter_eq_self.2 (by simp [ha])
          rw [hall, ofList_concat, toList_insert, hcontains, ← ih]
          split
          · rfl
          · rw [List.filter_append, hall]

theorem eq_of_mem_of_beq {s : OrderedSet α} {a b : α} (ha : a ∈ s.toList) (hb : b ∈ s.toList)
    (hab : (a == b) = true) : a = b := by
  have hdistinct := s.distinct
  generalize s.toList = as at ha hb hdistinct
  induction as with
  | nil => cases ha
  | cons c as ih =>
      obtain ⟨hc, has⟩ := List.pairwise_cons.1 hdistinct
      rcases List.mem_cons.1 ha with heq | ha' <;> rcases List.mem_cons.1 hb with heq' | hb'
      · rw [heq, heq']
      · rw [heq, hc b hb'] at hab
        cases hab
      · rw [heq', BEq.comm, hc a ha'] at hab
        cases hab
      · exact ih ha' hb' has

end OrderedSet

namespace OrderedMap

variable {κ υ : Type} [BEq κ]

/-! ### Held entries -/

theorem mem_of_get?_eq_some {m : OrderedMap κ υ} {k : κ} {v : υ} (h : m.get? k = some v) :
    ∃ e ∈ m.entries, (e.1 == k) = true ∧ e.2 = v := by
  obtain ⟨e, he, rfl⟩ := Option.map_eq_some_iff.1 h
  have hk := List.find?_some he
  exact ⟨e, List.mem_of_find?_eq_some he, hk, rfl⟩

theorem entries_upsert (m : OrderedMap κ υ) (k : κ) (v : υ) (f : υ → υ) :
    (m.upsert k v f).entries =
      if m.contains k then m.entries.map fun e => (e.1, if e.1 == k then f e.2 else e.2)
      else m.entries ++ [(k, v)] := by
  unfold upsert
  split <;> rfl

theorem mem_entries_upsert {m : OrderedMap κ υ} {k : κ} {v : υ} {f : υ → υ} {e : κ × υ}
    (he : e ∈ (m.upsert k v f).entries) :
    e ∈ m.entries ∨ e = (k, v) ∨ ∃ w, (e.1, w) ∈ m.entries ∧ (e.1 == k) = true ∧ e.2 = f w := by
  unfold upsert at he
  split at he
  · obtain ⟨d, hd, rfl⟩ := List.mem_map.1 he
    by_cases hk : (d.1 == k) = true
    · exact Or.inr (Or.inr ⟨d.2, hd, hk, if_pos hk⟩)
    · left
      rw [if_neg hk]
      exact hd
  · rcases List.mem_append.1 he with he | he
    · exact Or.inl he
    · exact Or.inr (Or.inl (List.mem_singleton.1 he))

theorem mem_entries_insert {m : OrderedMap κ υ} {k : κ} {v : υ} {e : κ × υ}
    (he : e ∈ (m.insert k v).entries) : e ∈ m.entries ∨ (e.2 = v ∧ (e.1 = k ∨ (e.1 == k) = true)) := by
  rcases mem_entries_upsert he with he | rfl | ⟨_, _, hk, hv⟩
  · exact Or.inl he
  · exact Or.inr ⟨rfl, Or.inl rfl⟩
  · exact Or.inr ⟨hv, Or.inr hk⟩

/-- A value that an ordered map holds was given with its key or with one that is the same. -/
theorem mem_entries_insertAll [ReflBEq κ] {m : OrderedMap κ υ} {es : List (κ × υ)} {e : κ × υ}
    (he : e ∈ (m.insertAll es).entries) :
    e ∈ m.entries ∨ ∃ d ∈ es, (e.1 == d.1) = true ∧ e.2 = d.2 := by
  induction es generalizing m with
  | nil => exact Or.inl he
  | cons d es ih =>
      rcases ih (m := m.insert d.1 d.2) he with he | ⟨c, hc, hk, hv⟩
      · rcases mem_entries_insert he with he | ⟨hv, hk⟩
        · exact Or.inl he
        · refine Or.inr ⟨d, List.mem_cons_self, ?_, hv⟩
          rcases hk with hk | hk
          · rw [hk]
            exact BEq.rfl
          · exact hk
      · exact Or.inr ⟨c, List.mem_cons_of_mem _ hc, hk, hv⟩

theorem mem_entries_ofList [ReflBEq κ] {es : List (κ × υ)} {e : κ × υ} (he : e ∈ (ofList es).entries) :
    ∃ d ∈ es, (e.1 == d.1) = true ∧ e.2 = d.2 := by
  rcases mem_entries_insertAll he with he | he
  · cases he
  · exact he

/-! ### Keys answered for -/

theorem contains_iff {m : OrderedMap κ υ} {k : κ} :
    m.contains k = true ↔ ∃ e ∈ m.entries, (e.1 == k) = true := by
  unfold contains
  rw [List.any_eq_true]

theorem contains_eq_isSome_get? (m : OrderedMap κ υ) (k : κ) : m.contains k = (m.get? k).isSome := by
  unfold contains get?
  rw [Option.isSome_map, List.isSome_find?]

theorem get?_eq_none_of_not_contains {m : OrderedMap κ υ} {k : κ} (hk : ¬ m.contains k = true) :
    m.get? k = none := by
  rw [contains_eq_isSome_get?, Option.not_isSome_iff_eq_none] at hk
  exact hk

theorem get?_concat {m n : OrderedMap κ υ} {k : κ} {v : υ} (hn : n.entries = m.entries ++ [(k, v)]) (l : κ) :
    n.get? l = (m.get? l).or (if k == l then some v else none) := by
  unfold get?
  rw [hn, List.find?_append, List.find?_singleton]
  cases m.entries.find? (·.1 == l) with
  | some e => rfl
  | none => cases k == l <;> rfl

section

variable [EquivBEq κ]

theorem get?_congr {m : OrderedMap κ υ} {k l : κ} (hkl : (k == l) = true) : m.get? k = m.get? l := by
  unfold get?
  congr 2
  funext e
  exact BEq.congr_right hkl

theorem contains_congr {m : OrderedMap κ υ} {k l : κ} (hkl : (k == l) = true) :
    m.contains k = m.contains l := by
  rw [contains_eq_isSome_get?, contains_eq_isSome_get?, get?_congr hkl]

theorem get?_modify (m : OrderedMap κ υ) (k l : κ) (f : υ → υ) :
    (m.modify k f).get? l = (m.get? l).map fun v => if k == l then f v else v := by
  unfold get? modify
  rw [List.find?_map, Option.map_map, Option.map_map]
  cases hfind : m.entries.find? (·.1 == l) with
  | none => simp [Function.comp_def, hfind]
  | some e =>
      have hel := List.find?_some hfind
      have hsame : (e.1 == k) = (k == l) := (BEq.congr_left hel).trans BEq.comm
      simp [Function.comp_def, hfind, hsame]

theorem get?_upsert (m : OrderedMap κ υ) (k l : κ) (v : υ) (f : υ → υ) :
    (m.upsert k v f).get? l = if k == l then some ((m.get? k).elim v f) else m.get? l := by
  unfold upsert
  split
  · rename_i hk
    rw [get?_modify]
    cases hkl : k == l with
    | false => simp
    | true =>
        rw [contains_eq_isSome_get?] at hk
        obtain ⟨w, hw⟩ := Option.isSome_iff_exists.1 hk
        simp [← get?_congr hkl, hw]
  · rename_i hk
    rw [get?_concat rfl]
    cases hkl : k == l with
    | false => simp
    | true => simp [← get?_congr hkl, get?_eq_none_of_not_contains hk]

theorem get?_insert (m : OrderedMap κ υ) (k l : κ) (v : υ) :
    (m.insert k v).get? l = if k == l then some v else m.get? l := by
  unfold insert
  rw [get?_upsert]
  cases m.get? k <;> rfl

theorem contains_insert (m : OrderedMap κ υ) (k l : κ) (v : υ) :
    (m.insert k v).contains l = (m.contains l || k == l) := by
  rw [contains_eq_isSome_get?, contains_eq_isSome_get?, get?_insert]
  cases k == l with
  | false => simp only [Bool.false_eq_true, if_false, Bool.or_false]
  | true => simp only [if_true, Option.isSome_some, Bool.or_true]

/-- A map answers for the keys that it is given. -/
theorem contains_ofList (es : List (κ × υ)) (k : κ) : (ofList es).contains k = es.any (·.1 == k) := by
  suffices h : ∀ m : OrderedMap κ υ, (m.insertAll es).contains k = (m.contains k || es.any (·.1 == k)) from h empty
  induction es with
  | nil => exact fun m => (Bool.or_false _).symm
  | cons e es ih =>
      intro m
      change ((m.insert e.1 e.2).insertAll es).contains k = _
      rw [ih, contains_insert, List.any_cons, Bool.or_assoc]

/-- A map answers with the changed values if all of its values are changed in one way. -/
theorem get?_ofList_map {ω : Type} (f : υ → ω) (es : List (κ × υ)) (k : κ) :
    (ofList (es.map fun e => (e.1, f e.2))).get? k = ((ofList es).get? k).map f := by
  suffices h : ∀ (m : OrderedMap κ υ) (n : OrderedMap κ ω), (∀ l, n.get? l = (m.get? l).map f) →
      (n.insertAll (es.map fun e => (e.1, f e.2))).get? k = ((m.insertAll es).get? k).map f from
    h empty empty fun _ => rfl
  induction es with
  | nil => exact fun m n hmn => hmn k
  | cons e es ih =>
      intro m n hmn
      refine ih (m.insert e.1 e.2) (n.insert e.1 (f e.2)) fun l => ?_
      rw [get?_insert, get?_insert, hmn]
      cases e.1 == l <;> rfl

end

/-! ### Maps that are built up -/

variable {α : Type}

/-- The keys of a map, which are distinct. -/
def keySet (m : OrderedMap κ υ) : OrderedSet κ := ⟨m.keys, List.pairwise_map.2 m.distinct⟩

theorem toList_keySet (m : OrderedMap κ υ) : m.keySet.toList = m.keys := rfl

theorem contains_keySet (m : OrderedMap κ υ) (k : κ) : m.keySet.contains k = m.contains k :=
  List.any_map

theorem keySet_upsert (m : OrderedMap κ υ) (k : κ) (v : υ) (f : υ → υ) :
    (m.upsert k v f).keySet.toList = (m.keySet.insert k).toList := by
  rw [toList_keySet, keys, entries_upsert, OrderedSet.toList_insert, contains_keySet, toList_keySet, keys]
  split
  · rw [List.map_map]
    rfl
  · exact List.map_append

/-- The keys of a map that is built up by `upsert`, in the order in which they are first given. -/
theorem keys_foldl_upsert (key : α → κ) (v : α → υ) (f : α → υ → υ) (as : List α) :
    (as.foldl (fun m a => m.upsert (key a) (v a) (f a)) empty).keys = (OrderedSet.ofList (as.map key)).toList := by
  induction as using List.reverseRecOn with
  | nil => rfl
  | append_singleton as a ih =>
      rw [List.foldl_append, List.foldl_cons, List.foldl_nil, ← toList_keySet, keySet_upsert, List.map_append,
        List.map_singleton, OrderedSet.ofList_concat, OrderedSet.toList_insert, OrderedSet.toList_insert, toList_keySet,
        ih]
      unfold OrderedSet.contains
      rw [toList_keySet, ih]

theorem contains_foldl_upsert [EquivBEq κ] (key : α → κ) (v : α → υ) (f : α → υ → υ) (as : List α) (k : κ) :
    (as.foldl (fun m a => m.upsert (key a) (v a) (f a)) empty).contains k = as.any (key · == k) := by
  rw [← contains_keySet]
  unfold OrderedSet.contains
  rw [toList_keySet, keys_foldl_upsert]
  change (OrderedSet.ofList (as.map key)).contains k = _
  rw [OrderedSet.contains_ofList, List.any_map]
  rfl

/-- What holds of the value that a key is first given, and still holds whenever the key is given again, holds of the
value of every entry and of all that were given for its key. -/
theorem of_mem_foldl_upsert [EquivBEq κ] {P : κ → List α → υ → Prop} {k : α → κ} {v : α → υ} {f : α → υ → υ}
    (hnew : ∀ a, P (k a) [a] (v a)) (hmore : ∀ a l as w, P l as w → P l (as ++ [a]) (f a w)) {as : List α}
    {e : κ × υ} (he : e ∈ (as.foldl (fun m a => m.upsert (k a) (v a) (f a)) empty).entries) :
    P e.1 (as.filter (k · == e.1)) e.2 := by
  induction as using List.reverseRecOn generalizing e with
  | nil => cases he
  | append_singleton as a ih =>
      rw [List.foldl_append, List.foldl_cons, List.foldl_nil, entries_upsert] at he
      rw [List.filter_append, List.filter_cons, List.filter_nil]
      split at he
      · -- the key is there already, and only its value changes
        obtain ⟨d, hd, rfl⟩ := List.mem_map.1 he
        have hold := ih hd
        dsimp only
        rw [BEq.comm (a := k a)]
        cases hkey : d.1 == k a with
        | true => exact hmore a _ _ _ hold
        | false =>
            simp only [Bool.false_eq_true, if_false, List.append_nil]
            exact hold
      · -- the key is new, so nothing before it was given for it
        rename_i habsent
        rcases List.mem_append.1 he with he | he
        · have hkey : (k a == e.1) = false := by
            cases hkey : k a == e.1 with
            | false => rfl
            | true => exact absurd (contains_iff.2 ⟨e, he, BEq.symm hkey⟩) habsent
          rw [hkey, if_neg Bool.false_ne_true, List.append_nil]
          exact ih he
        · cases List.mem_singleton.1 he
          have hnone : as.filter (k · == k a) = [] := by
            rw [contains_foldl_upsert, Bool.not_eq_true, List.any_eq_false] at habsent
            exact List.filter_eq_nil_iff.2 habsent
          dsimp only
          rw [hnone, if_pos BEq.rfl]
          exact hnew a

/-- Keys that are told apart all get an entry, in the order in which they are given. -/
theorem entries_ofList {es : List (κ × υ)} (hes : es.Pairwise fun e f => (e.1 == f.1) = false) :
    (ofList es).entries = es := by
  induction es using List.reverseRecOn with
  | nil => rfl
  | append_singleton es e ih =>
      obtain ⟨hes, -, happart⟩ := List.pairwise_append.1 hes
      have hbefore := ih hes
      have hnew : (ofList es).contains e.1 = false := by
        unfold contains
        rw [hbefore, List.any_eq_false]
        intro d hd
        rw [happart d hd e (List.mem_singleton_self e)]
        exact Bool.false_ne_true
      unfold ofList insertAll at hbefore hnew ⊢
      rw [List.foldl_append, List.foldl_cons, List.foldl_nil, entries_insert, hnew, if_neg Bool.false_ne_true, hbefore]

end OrderedMap
end LinkPlanner
