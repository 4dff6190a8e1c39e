import Mathlib.Data.List.Induction
import LinkPlanner.Proofs.PlanGraph

/-! The linkstamps of a link by source. There is one compile for each distinct exec path of a source, in the order
in which these first occur, and what the compile takes from a linkstamp alone it takes from the first one of its
source. -/

namespace LinkPlanner

/-! ### Groups -/

namespace LinkstampCompile

/-- The group is made of these linkstamps: source and object are those of the first one, and the includes are those
of all of them. -/
def Group.MadeOf (g : Group) (members : List (Linkstamp × Artifact)) : Prop :=
  (∃ first ∈ members.head?, g.source = first.1.source ∧ g.output = first.2) ∧
    g.includes = .ofList (members.flatMap (·.1.declaredIncludes))

theorem Group.MadeOf.snoc {g : Group} {members : List (Linkstamp × Artifact)} (hg : g.MadeOf members)
    (d : Linkstamp × Artifact) :
    { g with includes := g.includes.insertAll d.1.declaredIncludes }.MadeOf (members ++ [d]) := by
  obtain ⟨⟨first, hfirst, hsource, houtput⟩, hincludes⟩ := hg
  refine ⟨⟨first, ?_, hsource, houtput⟩, ?_⟩
  · rw [Option.mem_def] at hfirst ⊢
    rw [List.head?_append, hfirst]
    rfl
  · rw [List.flatMap_append, OrderedSet.ofList_append, ← hincludes, List.flatMap_singleton]

/-- Linkstamps with the exec path of their source. -/
def sourcePath (d : Linkstamp × Artifact) : Path := d.1.source.execPath

variable {outputs : LinkstampOutputs}

/-- The groups stand in the order in which their sources first occur. -/
theorem keys_groups (outputs : LinkstampOutputs) :
    (groups outputs).keys = (OrderedSet.ofList (outputs.entries.map sourcePath)).toList :=
  OrderedMap.keys_foldl_upsert _ _ _ outputs.entries

/-- A group is made of exactly the linkstamps with its source. -/
theorem madeOf_of_mem_groups {e : Path × Group} (he : e ∈ (groups outputs).entries) :
    e.2.MadeOf (outputs.entries.filter (sourcePath · == e.1)) ∧ e.2.source.execPath = e.1 := by
  let made (k : Path) (ds : List (Linkstamp × Artifact)) (g : Group) : Prop :=
    g.MadeOf ds ∧ g.source.execPath = k
  refine OrderedMap.of_mem_foldl_upsert (P := made) (k := sourcePath)
    (v := fun d => ⟨d.1.source, d.2, .ofList d.1.declaredIncludes⟩)
    (f := fun d g => { g with includes := g.includes.insertAll d.1.declaredIncludes }) (fun d => ?_)
    (fun d p ds g h => ⟨h.1.snoc d, h.2⟩) he
  refine ⟨⟨⟨d, rfl, rfl, rfl⟩, ?_⟩, rfl⟩
  rw [List.flatMap_singleton]

end LinkstampCompile

/-! ### The compiles of a link -/

namespace Link

/-- The object of a linkstamp, beside the output of the link. -/
def linkstampObject (build : Build) (link : Link) (l : Linkstamp) : Artifact :=
  build.derived (Linkstamp.outputPath link.output.path l.source.path)

/-- The exec paths of the link's linkstamp sources, in the order in which they first occur. -/
def linkstampSources (link : Link) : OrderedSet Path := .ofList (link.linkstamps.toList.map (·.source.execPath))

/-- The linkstamps with this source. -/
def linkstampsOf (link : Link) (source : Path) : List Linkstamp :=
  link.linkstamps.toList.filter (·.source.execPath == source)

/-- The compile makes the object of the first linkstamp of its source, with the includes of all linkstamps of that
source. -/
structure Stamps (build : Build) (link : Link) (c : LinkstampCompile) : Prop where
  first : ∃ l ∈ (link.linkstampsOf c.source.execPath).head?,
    c.source = l.source ∧ c.output = link.linkstampObject build l
  includes : c.declaredIncludes =
    (OrderedSet.ofList ((link.linkstampsOf c.source.execPath).flatMap (·.declaredIncludes))).toList

theorem entries_linkstampOutputs (build : Build) (link : Link) :
    (Linkstamp.outputs build link.output link.linkstamps.toList).entries =
      link.linkstamps.toList.map fun l => (l, link.linkstampObject build l) :=
  OrderedMap.entries_ofList (List.pairwise_map.2 link.linkstamps.distinct)

theorem linkstampOutputs_values (build : Build) (link : Link) :
    (Linkstamp.outputs build link.output link.linkstamps.toList).values =
      link.linkstamps.toList.map (link.linkstampObject build) := by
  unfold OrderedMap.values
  rw [entries_linkstampOutputs, List.map_map]
  rfl

/-- The compiles of a link's linkstamps: one for each source. -/
theorem compiles_stamp (build : Build) (link : Link) (t : LinkstampTemplate) :
    (LinkstampCompile.all (Linkstamp.outputs build link.output link.linkstamps.toList) t).map (·.source.execPath) =
        link.linkstampSources.toList ∧
      ∀ c ∈ LinkstampCompile.all (Linkstamp.outputs build link.output link.linkstamps.toList) t,
        link.Stamps build c := by
  have hentries := entries_linkstampOutputs build link
  have hkeys := LinkstampCompile.keys_groups (Linkstamp.outputs build link.output link.linkstamps.toList)
  rw [hentries, List.map_map] at hkeys
  constructor
  · refine Eq.trans ?_ hkeys
    unfold LinkstampCompile.all OrderedMap.values OrderedMap.keys
    rw [List.map_map, List.map_map]
    exact List.map_congr_left fun e he => (LinkstampCompile.madeOf_of_mem_groups he).2
  · intro c hc
    obtain ⟨g, hg, rfl⟩ := List.mem_map.1 hc
    obtain ⟨e, he, rfl⟩ := List.mem_map.1 hg
    obtain ⟨⟨⟨first, hfirst, hsource, houtput⟩, hincludes⟩, hpath⟩ := LinkstampCompile.madeOf_of_mem_groups he
    rw [hentries, List.filter_map] at hfirst hincludes
    rw [List.head?_map] at hfirst
    obtain ⟨l, hl, rfl⟩ := Option.map_eq_some_iff.1 hfirst
    rw [← hpath] at hl hincludes
    exact ⟨⟨l, hl, hsource, houtput⟩, by rw [hincludes, List.flatMap_map]; rfl⟩

/-- The final link of a plan, made with or without LTO, over the mapping of the plan. -/
theorem made_of_yields {env : Env} {link : Link} {plan : LinkPlan} (h : link.Yields env plan) :
    ∃ decision indexing c,
      plan.MadeFrom env link (link.finalAssembly env.toBuild decision plan.bitcodeMapping indexing) c := by
  rcases h with h | h
  · obtain ⟨-, -, hfinal⟩ := h.during.bind
    obtain ⟨⟨c, hmade⟩, -, -, hmapping⟩ := planned_of_yields hfinal
    exact ⟨_, _, c, hmapping ▸ hmade⟩
  · obtain ⟨p, phase, rfl, -, hphase, hfinal⟩ := planned_phases_of_yields h
    obtain ⟨indexing, c, -, hmade, -, -, hmapping⟩ := BackendPlan.final_of_yields hphase hfinal
    exact ⟨some p.decision, indexing, c, hmapping ▸ hmade⟩

/-- A plan has one compile for each source of the link's linkstamps. -/
theorem plan_stamps {env : Env} {link : Link} {plan : LinkPlan} (h : link.Yields env plan) :
    plan.linkstampCompiles.map (·.source.execPath) = link.linkstampSources.toList ∧
      ∀ c ∈ plan.linkstampCompiles, link.Stamps env.toBuild c := by
  obtain ⟨decision, indexing, c, hmade⟩ := made_of_yields h
  rw [hmade.compiles_eq]
  exact link.compiles_stamp env.toBuild _

end Link
end LinkPlanner
