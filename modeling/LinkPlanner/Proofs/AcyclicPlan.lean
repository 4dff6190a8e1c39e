import Mathlib.Data.Prod.Lex
import LinkPlanner.Proofs.LinkstampInputs
import LinkPlanner.Proofs.PathText

/-! When a plan can be carried out. Without linkstamps its steps can be ranked: backends that read only what the
caller gives come first, then the indexing step, then unique backends, and at last the final link. A unique backend
may make a file that has the name of another one's index file, but then its own bitcode has the longer name, so the
lengths of the names rank these backends among themselves. With linkstamps a plan can never be carried out: what
their compiles read is noted down after the objects of the linkstamps have joined the inputs of the link. -/

namespace LinkPlanner

/-! ### What unique backends write -/

namespace Backend

/-- How much there is to the name that a backend gives its files. -/
def weight (b : Backend) : Nat := (b.roots.outputRoot.join b.bitcodeFile.path).weight

theorem weight_join_le {p q r : Path} {n : Nat} (hpq : q.weight ≤ p.weight + n) :
    (q.join r).weight ≤ (p.join r).weight + n := by
  cases hr : r.isAbsolute with
  | true =>
      unfold Path.join
      rw [hr, if_pos rfl, if_pos rfl]
      exact Nat.le_add_right _ _
  | false =>
      rw [Path.weight_join hr, Path.weight_join hr]
      omega

variable {build : Build} {root : Path} {allowed : Option BitcodeFiles} {usePic : Bool} {bitcode : Artifact}
  {copts : List String} {a : Artifact}

theorem weight_objectRoot_le (root : Path) (features : Features) :
    (LtoRoots.under root features).objectRoot.weight ≤ root.weight + 5 := by
  unfold LtoRoots.under
  dsimp only
  split
  · exact Path.weight_append_le (s := "-obj") (by decide) root
  · exact Nat.le_add_right _ _

/-- Objects and debug files have names that are not much longer. -/
theorem weight_le_of_mem_outputs
    (ha : a ∈ (create build (.under root build.features) allowed usePic bitcode copts).compile.outputs.toList) :
    a.path.weight ≤ (create build (.under root build.features) allowed usePic bitcode copts).weight + 6 := by
  rcases List.mem_cons.1 (OrderedSet.mem_of_mem_ofList ha) with rfl | ha
  · have hempty : (((LtoRoots.under root build.features).objectRoot.join bitcode.path).append "").weight =
        ((LtoRoots.under root build.features).objectRoot.join bitcode.path).weight :=
      congrArg Path.weight (congrArg Path.mk (List.append_nil _))
    have hle := weight_join_le (r := bitcode.path) (weight_objectRoot_le root build.features)
    exact hempty ▸ Nat.le_trans hle (Nat.add_le_add_left (by decide) _)
  · split at ha
    · rw [Option.mem_toList] at ha
      cases ha
      exact Path.weight_withExtension_le _ "dwo"
    · cases ha

/-- The files that the indexing step writes for a backend have longer names. -/
theorem weight_le_of_mem_indexingOutputs
    (ha : a ∈ (create build (.under root build.features) allowed usePic bitcode copts).sharing.indexingOutputs) :
    (create build (.under root build.features) allowed usePic bitcode copts).weight + 8 ≤ a.path.weight := by
  cases allowed with
  | none => cases ha
  | some files =>
      rcases List.mem_cons.1 ha with rfl | ha
      · exact Nat.le_trans (Nat.add_le_add_left (by decide) _)
          (Path.weight_append_ge (s := ".thinlto.bc") (by decide) (by decide) _)
      · rw [List.mem_singleton.1 ha]
        exact Path.weight_append_ge (s := ".imports") (by decide) (by decide) _

end Backend

/-! ### Ranks -/

namespace PlanStep

/-- How early a step of the plan for a link can be run. -/
def rank (build : Build) (link : Link) : PlanStep → Nat ×ₗ Nat
  | backend b => if ∀ a ∈ b.reads, link.Gives build a then toLex (3, 0) else toLex (1, b.weight)
  | indexing _ => toLex (2, 0)
  | linkstamp _ | final _ => toLex (0, 0)

theorem toLex_lt_of_lt {m n k l : Nat} (h : m < n) : toLex (m, k) < toLex (n, l) :=
  Prod.Lex.toLex_lt_toLex.2 (Or.inl h)

variable {build : Build} {link : Link} {b : Backend}

theorem rank_backend_of_gives (hb : ∀ a ∈ b.reads, link.Gives build a) :
    (backend b).rank build link = toLex (3, 0) := if_pos hb

theorem rank_backend_of_not_gives (hb : ¬ ∀ a ∈ b.reads, link.Gives build a) :
    (backend b).rank build link = toLex (1, b.weight) := if_neg hb

theorem one_le_rank_backend : toLex (1, 0) ≤ (backend b).rank build link := by
  by_cases hb : ∀ a ∈ b.reads, link.Gives build a
  · rw [rank_backend_of_gives hb]
    decide
  · rw [rank_backend_of_not_gives hb, Prod.Lex.toLex_le_toLex]
    exact Or.inr ⟨rfl, Nat.zero_le _⟩

end PlanStep

namespace LinkPlan.Layout

variable {env : Env} {link : Link} {roots : LtoRoots} {indexing : Option IndexingOutputs} {c : Collection}
  {plan : LinkPlan} (hlayout : plan.Layout env link roots indexing c)

include hlayout

theorem eq_created_of_not_gives {b : Backend} (hb : b ∈ plan.ltoBackends)
    (hreads : ¬ ∀ a ∈ b.reads, link.Gives env.toBuild a) :
    ∃ root allowed usePic bitcode copts,
      b = .create env.toBuild (.under root env.features) allowed usePic bitcode copts := by
  obtain ⟨root, rfl⟩ := hlayout.roots_eq
  cases hlayout.backs b hb with
  | library hlibrary =>
      exact absurd (fun a ha => Link.gives_of_libraryBackend hlibrary (List.mem_cons_of_mem _ ha)) hreads
  | created hbitcode hallowed => exact ⟨root, _, _, _, _, rfl⟩

/-- A backend that makes the index file of another one is the heavier of the two. -/
theorem weight_lt_of_writes {b d : Backend} (hb : b ∈ plan.ltoBackends) (hd : d ∈ plan.ltoBackends)
    (hbreads : ¬ ∀ a ∈ b.reads, link.Gives env.toBuild a) (hdreads : ¬ ∀ a ∈ d.reads, link.Gives env.toBuild a)
    {a : Artifact} (hwrites : (PlanStep.backend b).Writes a) (ha : a ∈ d.sharing.indexingOutputs) :
    d.weight < b.weight := by
  obtain ⟨x, hx, hxa⟩ := hwrites
  obtain ⟨root, allowed, usePic, bitcode, copts, rfl⟩ := hlayout.eq_created_of_not_gives hb hbreads
  obtain ⟨root', allowed', usePic', bitcode', copts', rfl⟩ := hlayout.eq_created_of_not_gives hd hdreads
  have hle := Backend.weight_le_of_mem_outputs hx
  have hge := Backend.weight_le_of_mem_indexingOutputs ha
  rw [Path.weight_congr (Artifact.beq_iff.1 hxa).2.1] at hle
  omega

variable (hapart : link.NamesApart env.toBuild plan) (hnone : plan.linkstampCompiles = [])
include hapart hnone

theorem rank_indexing_lt {action : LinkAction} (haction : action ∈ plan.ltoIndexing) {s : PlanStep}
    (hs : s ∈ plan.innerSteps) (hfeeds : s.Feeds (.indexing action)) :
    (PlanStep.indexing action).rank env.toBuild link < s.rank env.toBuild link := by
  obtain ⟨a, ha, hwrites⟩ := PlanStep.feeds_iff.1 hfeeds
  have hread : link.Gives env.toBuild a ∨ link.Shares a := by
    rw [hlayout.indexing_eq] at haction
    obtain ⟨outputs, houtputs, rfl⟩ := Option.map_eq_some_iff.1 haction
    exact (hlayout.serves outputs houtputs).reads a ha
  rcases hread with hgives | ⟨x, hx, hxa⟩
  · exact absurd hwrites (hapart.givenApart.not_writes hgives hs)
  · have hgives := hapart.shared x hx s hs (hwrites.congr (BEq.symm hxa))
    rcases LinkPlan.mem_innerSteps.1 hs with ⟨action', haction', rfl⟩ | ⟨b, hb, rfl⟩ | ⟨d, hd, -⟩
    · -- the indexing step would write a file that it reads
      cases Option.mem_unique haction haction'
      exact absurd hwrites (hapart.givenApart.not_writes (hgives a ha) hs)
    · rw [PlanStep.rank_backend_of_gives hgives]
      exact PlanStep.toLex_lt_of_lt (by decide)
    · rw [hnone] at hd
      cases hd

theorem rank_backend_lt {d : Backend} (hd : d ∈ plan.ltoBackends) {s : PlanStep} (hs : s ∈ plan.innerSteps)
    (hfeeds : s.Feeds (.backend d)) :
    (PlanStep.backend d).rank env.toBuild link < s.rank env.toBuild link := by
  obtain ⟨a, ha, hwrites⟩ := PlanStep.feeds_iff.1 hfeeds
  rcases (hlayout.backs d hd).reads ha with hgives | ⟨-, hindex⟩
  · exact absurd hwrites (hapart.givenApart.not_writes hgives hs)
  · have hdreads : ¬ ∀ a ∈ d.reads, link.Gives env.toBuild a :=
      fun hgives => hapart.givenApart.not_writes (hgives a ha) hs hwrites
    rw [PlanStep.rank_backend_of_not_gives hdreads]
    rcases LinkPlan.mem_innerSteps.1 hs with ⟨action, haction, rfl⟩ | ⟨b, hb, rfl⟩ | ⟨e, he, -⟩
    · exact PlanStep.toLex_lt_of_lt (by decide)
    · by_cases hbreads : ∀ a ∈ b.reads, link.Gives env.toBuild a
      · rw [PlanStep.rank_backend_of_gives hbreads]
        exact PlanStep.toLex_lt_of_lt (by decide)
      · rw [PlanStep.rank_backend_of_not_gives hbreads]
        exact Prod.Lex.toLex_lt_toLex.2
          (Or.inr ⟨rfl, hlayout.weight_lt_of_writes hb hd hbreads hdreads hwrites hindex⟩)
    · rw [hnone] at he
      cases he

/-- Without linkstamps, a step that feeds another one ranks before it. -/
theorem rank_lt : ∀ s ∈ plan.innerSteps, ∀ t ∈ plan.steps, s.Feeds t →
    t.rank env.toBuild link < s.rank env.toBuild link := by
  intro s hs t ht hfeeds
  rcases LinkPlan.mem_steps.1 ht with ht | rfl
  · rcases LinkPlan.mem_innerSteps.1 ht with ⟨action, haction, rfl⟩ | ⟨d, hd, rfl⟩ | ⟨d, hd, -⟩
    · exact hlayout.rank_indexing_lt hapart hnone haction hs hfeeds
    · exact hlayout.rank_backend_lt hapart hnone hd hs hfeeds
    · rw [hnone] at hd
      cases hd
  · rcases LinkPlan.mem_innerSteps.1 hs with ⟨action, haction, rfl⟩ | ⟨b, hb, rfl⟩ | ⟨d, hd, -⟩
    · exact PlanStep.toLex_lt_of_lt (by decide)
    · exact lt_of_lt_of_le (PlanStep.toLex_lt_of_lt (by decide)) PlanStep.one_le_rank_backend
    · rw [hnone] at hd
      cases hd

end LinkPlan.Layout

/-! ### The outputs of the final link -/

namespace LinkPlan.Layout

variable {env : Env} {link : Link} {roots : LtoRoots} {indexing : Option IndexingOutputs} {c : Collection}
  {plan : LinkPlan} (hlayout : plan.Layout env link roots indexing c) (hapart : link.NamesApart env.toBuild plan)

include hlayout hapart

theorem not_writes_of_final_writes {a : Artifact} (ha : (PlanStep.final plan.action).Writes a) {s : PlanStep}
    (hs : s ∈ plan.innerSteps) : ¬ s.Writes a := by
  obtain ⟨x, hx, hxa⟩ := ha
  obtain ⟨decision, hmade⟩ := hlayout.made
  change x ∈ plan.action.outputs.toList at hx
  rw [hmade.action_eq] at hx
  have hrequested : x ∈ link.requested := OrderedSet.mem_of_mem_ofList hx
  exact fun hwrites => hapart.requested x hrequested s hs (hwrites.congr (BEq.symm hxa))

/-- A final link without linkstamps that makes none of the given files feeds no step. -/
theorem final_feeds_nothing (hcollect : env.CollectsInputs) (hnone : link.linkstamps.toList = [])
    (houtputs : link.OutputsApart env.toBuild plan) {t : PlanStep} (ht : t ∈ plan.steps) :
    ¬ (PlanStep.final plan.action).Feeds t := by
  intro hfeeds
  obtain ⟨a, ha, hwrites⟩ := PlanStep.feeds_iff.1 hfeeds
  have hgives : ¬ link.Gives env.toBuild a := fun ⟨x, hx, hxa⟩ =>
    houtputs x (List.mem_append_left _ hx) (hwrites.congr (BEq.symm hxa))
  have hshares : ¬ link.Shares a := fun ⟨x, hx, hxa⟩ =>
    houtputs x (List.mem_append_right _ hx) (hwrites.congr (BEq.symm hxa))
  have hinner : ∀ s ∈ plan.innerSteps, ¬ s.Writes a := fun s hs => hlayout.not_writes_of_final_writes hapart hwrites hs
  rcases mem_steps.1 ht with ht | rfl
  · rcases mem_innerSteps.1 ht with ⟨action, haction, rfl⟩ | ⟨b, hb, rfl⟩ | ⟨d, hd, -⟩
    · rw [hlayout.indexing_eq] at haction
      obtain ⟨outputs, hout, rfl⟩ := Option.map_eq_some_iff.1 haction
      exact ((hlayout.serves outputs hout).reads a ha).elim hgives hshares
    · rcases (hlayout.backs b hb).reads ha with hgiven | ⟨hindexed, hindex⟩
      · exact hgives hgiven
      · obtain ⟨outputs, hout⟩ := Option.isSome_iff_exists.1 hindexed
        exact hinner _ (hlayout.indexing_mem_innerSteps hout) ((hlayout.serves outputs hout).indexFiles b hb a hindex)
    · rw [hlayout.linkstampCompiles_eq_nil_iff.2 hnone] at hd
      cases hd
  · rcases hlayout.final_reads hcollect hnone ha with hgiven | hshared | ⟨s, hs, hwritten⟩
    · exact hgives hgiven
    · exact hshares hshared
    · exact hinner s hs hwritten

end LinkPlan.Layout

/-- A plan can be carried out, and no linkstamp compile lists the object of one, exactly if the link has no
linkstamps and does not need a file that it is itself asked for. The latter holds if the caller gives no such
file. With linkstamps every compile lists the objects of all. -/
theorem Link.acyclic_iff_no_linkstamps {env : Env} {link : Link} {plan : LinkPlan} (hplan : link.Yields env plan)
    (hcollect : env.CollectsInputs) (hapart : link.NamesApart env.toBuild plan) :
    ((plan.Acyclic ∧ ∀ c ∈ plan.linkstampCompiles, ∀ d ∈ plan.linkstampCompiles, ¬ c.Lists d.output) ↔
        link.linkstamps.toList = [] ∧ ¬ plan.Downstream (.final plan.action) (.final plan.action)) ∧
      (link.linkstamps.toList = [] → link.OutputsApart env.toBuild plan → plan.Acyclic) ∧
      ∀ c ∈ plan.linkstampCompiles, ∀ d ∈ plan.linkstampCompiles, c.Lists d.output := by
  obtain ⟨roots, indexing, c, hlayout⟩ := Link.layout_of_yields hcollect hplan
  have hacyclic : link.linkstamps.toList = [] →
      (plan.Acyclic ↔ ¬ plan.Downstream (.final plan.action) (.final plan.action)) := fun hnone =>
    LinkPlan.acyclic_iff_of_rank (hlayout.rank_lt hapart (hlayout.linkstampCompiles_eq_nil_iff.2 hnone))
  have hlists : ∀ d ∈ plan.linkstampCompiles, ∀ e ∈ plan.linkstampCompiles, d.Lists e.output :=
    fun d hd e he => hlayout.compile_lists hcollect hapart hd he
  refine ⟨⟨?_, ?_⟩, fun hnone houtputs => (hacyclic hnone).2 fun hcycle => ?_, hlists⟩
  · rintro ⟨hplan, hnot⟩
    have hnone : plan.linkstampCompiles = [] :=
      List.eq_nil_iff_forall_not_mem.2 fun d hd => hnot d hd d hd (hlists d hd d hd)
    exact ⟨hlayout.linkstampCompiles_eq_nil_iff.1 hnone, hplan _⟩
  · rintro ⟨hnone, hfinal⟩
    refine ⟨(hacyclic hnone).2 hfinal, fun d hd => ?_⟩
    rw [hlayout.linkstampCompiles_eq_nil_iff.2 hnone] at hd
    cases hd
  · obtain ⟨t, ⟨-, ht, hfeeds⟩, -⟩ := Relation.TransGen.head'_iff.1 hcycle
    exact hlayout.final_feeds_nothing hapart hcollect hnone houtputs ht hfeeds

namespace Sample

/-- An indexed link of an own object and an archive can be carried out. -/
theorem indexed_link_acyclic :
    ∃ plan, (link (env []) ["app/main.o"] ["app/main.o"]).Yields (env []) plan ∧ (env []).CollectsInputs ∧
      (link (env []) ["app/main.o"] ["app/main.o"]).NamesApart (env []).toBuild plan ∧
      (link (env []) ["app/main.o"] ["app/main.o"]).OutputsApart (env []).toBuild plan ∧
      plan.ltoIndexing.isSome = true ∧ plan.Acyclic := by
  obtain ⟨plan, hplan, hapart, houtputs, hindexed⟩ := Planning.exists_yields_of_decide
    ((link (env []) ["app/main.o"] ["app/main.o"]).planWithLto (env []))
    (fun plan =>
      (link (env []) ["app/main.o"] ["app/main.o"]).NamesApart (env []).toBuild plan ∧
        (link (env []) ["app/main.o"] ["app/main.o"]).OutputsApart (env []).toBuild plan ∧
        plan.ltoIndexing.isSome = true)
    (by decide +kernel)
  have hcollect := (collectsAsUsual []).collectsInputs
  exact ⟨plan, Or.inr hplan, hcollect, hapart, houtputs, hindexed,
    (Link.acyclic_iff_no_linkstamps (Or.inr hplan) hcollect hapart).2.1 rfl houtputs⟩

/-- An executable of one object and one linkstamp. -/
def stampedLink : Link where
  owner := "//app:app"
  output := file "app/app"
  linkType := .executable
  linkingMode := .dynamic
  objects := .ofList [.ofArtifact (file "app/main.o")]
  linkstamps := .ofList [{ source := .source (.ofString "stamp/version.cc") }]

/-- The compile of its linkstamp lists the object that it makes. -/
theorem stamped_link_cyclic :
    ∃ plan, stampedLink.Yields (env []) plan ∧ (env []).CollectsInputs ∧
      stampedLink.NamesApart (env []).toBuild plan ∧ stampedLink.OutputsApart (env []).toBuild plan ∧
      (∃ c ∈ plan.linkstampCompiles, c.Lists c.output) ∧ ¬ plan.Acyclic := by
  obtain ⟨plan, hplan, hapart, houtputs, c, hc, hlists⟩ := Planning.exists_yields_of_decide (stampedLink.plan (env []))
    (fun plan =>
      stampedLink.NamesApart (env []).toBuild plan ∧ stampedLink.OutputsApart (env []).toBuild plan ∧
        ∃ c ∈ plan.linkstampCompiles, c.Lists c.output)
    (by decide +kernel)
  exact ⟨plan, Or.inl hplan, (collectsAsUsual []).collectsInputs, hapart, houtputs, ⟨c, hc, hlists⟩,
    hlists.not_acyclic hc⟩

end Sample
end LinkPlanner
