import Mathlib.Data.List.Pairwise
import Mathlib.Data.List.Perm.Subperm
import LinkPlanner.Proofs.LinkstampGroups

/-! The objects of linkstamps. An object lies at the path of its source under the directory of the link's objects,
with the extension of objects, so it tells neither the roots of sources apart nor their extensions. Whether every
source has an object of its own depends on the sources. -/

namespace LinkPlanner

/-! ### Sizes of sets -/

namespace OrderedSet

variable {α : Type} [BEq α] [EquivBEq α]

/-- Values that `==` does not tell apart. -/
def sameValue (α : Type) [BEq α] [EquivBEq α] : Setoid α :=
  ⟨fun a b => (a == b) = true, fun _ => BEq.rfl, BEq.symm, BEq.trans⟩

/-- What a set answers for, each value once. -/
def classes (s : OrderedSet α) : List (Quotient (sameValue α)) := s.toList.map (Quotient.mk _)

theorem nodup_classes (s : OrderedSet α) : s.classes.Nodup := by
  refine List.pairwise_map.2 (s.distinct.imp fun {a b} hab heq => ?_)
  rw [show (a == b) = true from Quotient.exact heq] at hab
  cases hab

theorem mem_classes {s : OrderedSet α} {a : α} : Quotient.mk _ a ∈ s.classes ↔ s.contains a = true := by
  rw [contains_iff]
  unfold classes
  rw [List.mem_map]
  constructor
  · rintro ⟨b, hb, heq⟩
    exact ⟨b, hb, Quotient.exact heq⟩
  · rintro ⟨b, hb, hba⟩
    exact ⟨b, hb, Quotient.sound hba⟩

theorem classes_subset_iff {s t : OrderedSet α} :
    s.classes ⊆ t.classes ↔ ∀ a ∈ s.toList, t.contains a = true := by
  constructor
  · intro hsub a ha
    exact mem_classes.1 (hsub (List.mem_map_of_mem ha))
  · intro hsub x hx
    obtain ⟨a, ha, rfl⟩ := List.mem_map.1 hx
    exact mem_classes.2 (hsub a ha)

/-- A set that answers for no more than another one is as large exactly if it answers for as much. -/
theorem size_eq_iff_of_subset {s t : OrderedSet α} (hst : ∀ a ∈ s.toList, t.contains a = true) :
    s.size = t.size ↔ ∀ b ∈ t.toList, s.contains b = true := by
  have hlength : ∀ u : OrderedSet α, u.classes.length = u.size := fun u => List.length_map _
  rw [← classes_subset_iff, ← hlength s, ← hlength t]
  have hsub : s.classes.Subperm t.classes := List.subperm_of_subset s.nodup_classes (classes_subset_iff.2 hst)
  constructor
  · intro hsize
    exact (hsub.perm_of_length_le (Nat.le_of_eq hsize.symm)).symm.subset
  · intro hback
    exact Nat.le_antisymm hsub.length_le (List.subperm_of_subset t.nodup_classes hback).length_le

end OrderedSet

/-! ### Compiles and objects -/

namespace Link

variable {build : Build} {link : Link} {l k : Linkstamp}

/-- No linkstamp of the same source comes before this one. -/
def FirstOfSource (link : Link) (l : Linkstamp) : Prop := l ∈ (link.linkstampsOf l.source.execPath).head?

/-- Every object of a linkstamp is that of exactly one source: sources are told apart by the objects of their first
linkstamps, and no other linkstamp of a source has an object of its own. -/
structure ObjectsTellSources (build : Build) (link : Link) : Prop where
  apart : ∀ l k, link.FirstOfSource l → link.FirstOfSource k →
    (link.linkstampObject build l == link.linkstampObject build k) = true →
      (l.source.execPath == k.source.execPath) = true
  made : ∀ l ∈ link.linkstamps.toList, ∃ k, link.FirstOfSource k ∧
    (link.linkstampObject build k == link.linkstampObject build l) = true

theorem linkstampsOf_congr {p q : Path} (hpq : (p == q) = true) : link.linkstampsOf p = link.linkstampsOf q := by
  unfold linkstampsOf
  congr 1
  funext l
  exact BEq.congr_right hpq

theorem FirstOfSource.mem (hl : link.FirstOfSource l) : l ∈ link.linkstamps.toList :=
  (List.mem_filter.1 (List.mem_of_mem_head? hl)).1

/-- Every linkstamp has a first one of its source. -/
theorem exists_firstOfSource (hl : l ∈ link.linkstamps.toList) :
    ∃ k, link.FirstOfSource k ∧ (k.source.execPath == l.source.execPath) = true := by
  have hmem : l ∈ link.linkstampsOf l.source.execPath := List.mem_filter.2 ⟨hl, BEq.rfl⟩
  cases hfirst : link.linkstampsOf l.source.execPath with
  | nil =>
      rw [hfirst] at hmem
      cases hmem
  | cons k rest =>
      have hk : k ∈ link.linkstampsOf l.source.execPath := hfirst ▸ List.mem_cons_self
      have hkl := (List.mem_filter.1 hk).2
      refine ⟨k, ?_, hkl⟩
      rw [FirstOfSource, linkstampsOf_congr hkl, hfirst]
      exact Option.mem_some_self k

/-- The compile of a source makes the object of its first linkstamp. -/
theorem Stamps.exists_first {c : LinkstampCompile} (hc : link.Stamps build c) :
    ∃ l, link.FirstOfSource l ∧ c.source = l.source ∧ c.output = link.linkstampObject build l := by
  obtain ⟨l, hl, hsource, houtput⟩ := hc.first
  exact ⟨l, by rw [FirstOfSource, ← hsource]; exact hl, hsource, houtput⟩

end Link

namespace LinkPlan

variable {env : Env} {link : Link} {plan : LinkPlan}

/-- The objects of linkstamps that the final link lists among its inputs. -/
def stampObjects (build : Build) (link : Link) (plan : LinkPlan) : List Artifact :=
  plan.action.inputs.toList.filter fun a => link.linkstamps.toList.any (link.linkstampObject build · == a)

/-- A compile makes every object of a linkstamp that the final link lists. -/
def StampsClosed (build : Build) (link : Link) (plan : LinkPlan) : Prop :=
  ∀ a ∈ plan.stampObjects build link, ∃ c ∈ plan.linkstampCompiles, (c.output == a) = true

instance (build : Build) (link : Link) (plan : LinkPlan) : Decidable (plan.StampsClosed build link) :=
  inferInstanceAs (Decidable (∀ a ∈ plan.stampObjects build link, ∃ c ∈ plan.linkstampCompiles, (c.output == a) = true))

/-- The compiles make different objects. -/
def StampsApart (plan : LinkPlan) : Prop :=
  plan.linkstampCompiles.Pairwise fun c d => (c.output == d.output) = false

instance (plan : LinkPlan) : Decidable plan.StampsApart :=
  inferInstanceAs (Decidable (plan.linkstampCompiles.Pairwise fun c d => (c.output == d.output) = false))

/-- The compiles of a plan are told apart by the exec paths of their sources. -/
theorem compiles_pairwise (hplan : link.Yields env plan) :
    plan.linkstampCompiles.Pairwise fun c d => (c.source.execPath == d.source.execPath) = false := by
  have hdistinct := link.linkstampSources.distinct
  rw [← (Link.plan_stamps hplan).1] at hdistinct
  exact List.pairwise_map.1 hdistinct

/-- The first linkstamp of a source has its object made. -/
theorem exists_compile_of_first (hplan : link.Yields env plan) {l : Linkstamp} (hl : link.FirstOfSource l) :
    ∃ c ∈ plan.linkstampCompiles, (c.source.execPath == l.source.execPath) = true ∧
      c.output = link.linkstampObject env.toBuild l := by
  obtain ⟨hsources, hstamps⟩ := Link.plan_stamps hplan
  have hcontains : link.linkstampSources.contains l.source.execPath = true :=
    OrderedSet.contains_ofList_of_mem (List.mem_map_of_mem hl.mem)
  obtain ⟨p, hp, hpl⟩ := OrderedSet.contains_iff.1 hcontains
  rw [← hsources] at hp
  obtain ⟨c, hc, rfl⟩ := List.mem_map.1 hp
  obtain ⟨k, hk, -, houtput⟩ := (hstamps c hc).first
  rw [Link.linkstampsOf_congr hpl, Option.mem_unique hk hl] at *
  exact ⟨c, hc, hpl, houtput⟩

theorem stampsApart_iff (hplan : link.Yields env plan) :
    plan.StampsApart ↔ ∀ l k, link.FirstOfSource l → link.FirstOfSource k →
      (link.linkstampObject env.toBuild l == link.linkstampObject env.toBuild k) = true →
        (l.source.execPath == k.source.execPath) = true := by
  have hstamps := (Link.plan_stamps hplan).2
  constructor
  · intro hapart l k hl hk hobjects
    obtain ⟨c, hc, hcl, hcoutput⟩ := exists_compile_of_first hplan hl
    obtain ⟨d, hd, hdk, hdoutput⟩ := exists_compile_of_first hplan hk
    by_cases hcd : c = d
    · subst hcd
      exact BEq.trans (BEq.symm hcl) hdk
    · have hsymm : Std.Symm fun c d : LinkstampCompile => (c.output == d.output) = false :=
        ⟨fun x y h => BEq.comm.trans h⟩
      have hne := List.Pairwise.forall hapart hc hd hcd
      rw [hcoutput, hdoutput, hobjects] at hne
      cases hne
  · intro htell
    refine (compiles_pairwise hplan).imp_of_mem fun {c d} hc hd hcd => ?_
    obtain ⟨l, hl, hcl, hcoutput⟩ := (hstamps c hc).exists_first
    obtain ⟨k, hk, hdk, hdoutput⟩ := (hstamps d hd).exists_first
    rw [hcoutput, hdoutput]
    cases hobjects : link.linkstampObject env.toBuild l == link.linkstampObject env.toBuild k with
    | false => rfl
    | true =>
        rw [hcl, hdk, htell l k hl hk hobjects] at hcd
        cases hcd

/-- The final link lists the objects of all linkstamps. -/
theorem inputs_contains_stampObject (hplan : link.Yields env plan) {l : Linkstamp} (hl : l ∈ link.linkstamps.toList) :
    plan.action.inputs.contains (link.linkstampObject env.toBuild l) = true := by
  obtain ⟨decision, indexing, c, hmade⟩ := Link.made_of_yields hplan
  rw [hmade.action_eq, Link.inputs_action]
  unfold Link.allInputs
  rw [OrderedSet.contains_insertAll, Bool.or_eq_true, List.any_eq_true]
  refine Or.inr ⟨_, List.mem_append_left _ ?_, BEq.rfl⟩
  change _ ∈ (Linkstamp.outputs env.toBuild link.output link.linkstamps.toList).values
  rw [Link.linkstampOutputs_values]
  exact List.mem_map_of_mem hl

theorem stampsClosed_iff (hplan : link.Yields env plan) :
    plan.StampsClosed env.toBuild link ↔
      ∀ l ∈ link.linkstamps.toList, ∃ k, link.FirstOfSource k ∧
        (link.linkstampObject env.toBuild k == link.linkstampObject env.toBuild l) = true := by
  constructor
  · intro hclosed l hl
    obtain ⟨x, hx, hxl⟩ := OrderedSet.contains_iff.1 (inputs_contains_stampObject hplan hl)
    obtain ⟨c, hc, hcx⟩ := hclosed x (List.mem_filter.2 ⟨hx, List.any_eq_true.2 ⟨l, hl, BEq.symm hxl⟩⟩)
    obtain ⟨k, hk, -, houtput⟩ := ((Link.plan_stamps hplan).2 c hc).exists_first
    exact ⟨k, hk, BEq.trans (houtput ▸ hcx) hxl⟩
  · intro hmade a ha
    obtain ⟨l, hl, hla⟩ := List.any_eq_true.1 (List.mem_filter.1 ha).2
    obtain ⟨k, hk, hkl⟩ := hmade l hl
    obtain ⟨c, hc, -, houtput⟩ := exists_compile_of_first hplan hk
    exact ⟨c, hc, houtput ▸ BEq.trans hkl hla⟩

/-- The objects that the compiles make, if these are different. -/
def madeObjects (plan : LinkPlan) (hapart : plan.StampsApart) : OrderedSet Artifact where
  toList := plan.linkstampCompiles.map (·.output)
  distinct := by
    rw [List.pairwise_map]
    exact hapart

/-- The objects of linkstamps that the final link lists, which are told apart. -/
def listedObjects (build : Build) (link : Link) (plan : LinkPlan) : OrderedSet Artifact where
  toList := plan.stampObjects build link
  distinct := plan.action.inputs.distinct.filter _

/-- If compiles make different objects, the final link lists as many objects as there are compiles exactly if no
linkstamp has an object that no compile makes. -/
theorem length_stampObjects_iff (hplan : link.Yields env plan) (hapart : plan.StampsApart) :
    (plan.stampObjects env.toBuild link).length = plan.linkstampCompiles.length ↔
      ∀ l ∈ link.linkstamps.toList, ∃ k, link.FirstOfSource k ∧
        (link.linkstampObject env.toBuild k == link.linkstampObject env.toBuild l) = true := by
  have hsub : ∀ a ∈ (plan.madeObjects hapart).toList, (plan.listedObjects env.toBuild link).contains a = true := by
    intro a ha
    obtain ⟨c, hc, rfl⟩ := List.mem_map.1 ha
    obtain ⟨k, hk, -, houtput⟩ := ((Link.plan_stamps hplan).2 c hc).exists_first
    obtain ⟨x, hx, hxk⟩ := OrderedSet.contains_iff.1 (inputs_contains_stampObject hplan hk.mem)
    have hlisted : x ∈ plan.stampObjects env.toBuild link :=
      List.mem_filter.2 ⟨hx, List.any_eq_true.2 ⟨k, hk.mem, BEq.symm hxk⟩⟩
    exact OrderedSet.contains_iff.2 ⟨x, hlisted, houtput ▸ hxk⟩
  have hsizes : (plan.stampObjects env.toBuild link).length = plan.linkstampCompiles.length ↔
      (plan.madeObjects hapart).size = (plan.listedObjects env.toBuild link).size := by
    rw [eq_comm, ← List.length_map (f := LinkstampCompile.output)]
    rfl
  rw [hsizes, OrderedSet.size_eq_iff_of_subset hsub, ← stampsClosed_iff hplan]
  refine forall₂_congr fun a _ => ?_
  rw [OrderedSet.contains_iff]
  simp only [madeObjects, List.mem_map, exists_exists_and_eq_and]

end LinkPlan

/-- The linkstamp compiles of a plan make different objects, and as many as its final link lists, exactly if every
object of a linkstamp is that of exactly one source. -/
theorem Link.stamp_objects_distinct_iff {env : Env} {link : Link} {plan : LinkPlan} (hplan : link.Yields env plan) :
    (plan.StampsApart ∧ (plan.stampObjects env.toBuild link).length = plan.linkstampCompiles.length) ↔
      link.ObjectsTellSources env.toBuild := by
  constructor
  · rintro ⟨hapart, hlength⟩
    exact ⟨(LinkPlan.stampsApart_iff hplan).1 hapart, (LinkPlan.length_stampObjects_iff hplan hapart).1 hlength⟩
  · rintro ⟨htell, hmade⟩
    have hapart := (LinkPlan.stampsApart_iff hplan).2 htell
    exact ⟨hapart, (LinkPlan.length_stampObjects_iff hplan hapart).2 hmade⟩

namespace Sample

/-- An executable with linkstamps of these sources. -/
def linkWithStamps (sources : List String) : Link where
  owner := "//app:app"
  output := file "app/app"
  linkType := .executable
  linkingMode := .dynamic
  objects := .ofList [.ofArtifact (file "app/main.o")]
  linkstamps := .ofList (sources.map fun source => { source := .source (.ofString source) })

/-- Sources of different names have an object each. -/
theorem stamps_have_objects :
    ∃ plan, (linkWithStamps ["stamp/version.cc", "stamp/build.cc"]).Yields (env []) plan ∧
      plan.linkstampCompiles.length = 2 ∧
      (linkWithStamps ["stamp/version.cc", "stamp/build.cc"]).ObjectsTellSources (env []).toBuild := by
  obtain ⟨plan, hplan, hapart, hlisted, hcompiles⟩ := Planning.exists_yields_of_decide
    ((linkWithStamps ["stamp/version.cc", "stamp/build.cc"]).plan (env []))
    (fun plan => plan.StampsApart ∧
      (plan.stampObjects (env []).toBuild (linkWithStamps ["stamp/version.cc", "stamp/build.cc"])).length = 2 ∧
      plan.linkstampCompiles.length = 2)
    (by decide +kernel)
  exact ⟨plan, Or.inl hplan, hcompiles,
    (Link.stamp_objects_distinct_iff (Or.inl hplan)).1 ⟨hapart, hlisted.trans hcompiles.symm⟩⟩

/-- A C source and a C++ source of one name are compiled into the same object, which the final link lists once. -/
theorem stamps_share_object :
    ∃ plan, (linkWithStamps ["stamp/version.c", "stamp/version.cc"]).Yields (env []) plan ∧
      plan.linkstampCompiles.map (·.source.text) = ["stamp/version.c", "stamp/version.cc"] ∧
      plan.linkstampCompiles.map (·.output.text) =
        ["bin/app/_objs/app/stamp/version.o", "bin/app/_objs/app/stamp/version.o"] ∧
      ¬ plan.StampsApart ∧
      (plan.stampObjects (env []).toBuild (linkWithStamps ["stamp/version.c", "stamp/version.cc"])).length ≠
        plan.linkstampCompiles.length := by
  obtain ⟨plan, hplan, hcheck⟩ := Planning.exists_yields_of_decide
    ((linkWithStamps ["stamp/version.c", "stamp/version.cc"]).plan (env []))
    (fun plan =>
      plan.linkstampCompiles.map (·.source.text) = ["stamp/version.c", "stamp/version.cc"] ∧
      plan.linkstampCompiles.map (·.output.text) =
        ["bin/app/_objs/app/stamp/version.o", "bin/app/_objs/app/stamp/version.o"] ∧
      ¬ plan.StampsApart ∧
      (plan.stampObjects (env []).toBuild (linkWithStamps ["stamp/version.c", "stamp/version.cc"])).length ≠
        plan.linkstampCompiles.length)
    (by decide +kernel)
  exact ⟨plan, Or.inl hplan, hcheck⟩

end Sample
end LinkPlanner
