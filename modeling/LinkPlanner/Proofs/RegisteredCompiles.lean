import LinkPlanner.Proofs.LinkstampGroups
import LinkPlanner.Proofs.Sessions

/-! Which linkstamp compiles planning registers. The registration is the last thing that an assembly does, and only
the assembly of the final link has linkstamps, so a failure of any other step leaves nothing registered. -/

namespace LinkPlanner

open Planning

/-! ### Steps that register compiles -/

/-- The linkstamp compiler has refused a compile, after it has accepted those that are registered between the two
sessions. -/
def CompileRefused (env : Env) (s t : Session) (f : Failure) : Prop :=
  ∃ before c reason, env.linkstampCompiler c = .error reason ∧ f.cause = .refused reason ∧
    .compilingLinkstamp c.source ∈ f.circumstances ∧ t.compiles = s.compiles ++ before

/-- How a step ends that started in the session `s` and registers the compiles `cs` of its result. -/
inductive Registered {α : Type} (env : Env) (cs : α → List LinkstampCompile) (s : Session) :
    Except Failure α × Session → Prop where
  | all {a : α} {t : Session} (ht : t.compiles = s.compiles ++ cs a) : Registered env cs s (.ok a, t)
  | none {f : Failure} {t : Session} (ht : t.compiles = s.compiles) : Registered env cs s (.error f, t)
  | refused {f : Failure} {t : Session} (hrefused : CompileRefused env s t f) : Registered env cs s (.error f, t)

/-- Nothing changes if the result is taken for something with the same compiles, or if a failure is told with more
of its circumstances. -/
theorem Registered.imp {α β : Type} {env : Env} {cs : α → List LinkstampCompile} {ds : β → List LinkstampCompile}
    {s t u : Session} {r : Except Failure α × Session} (h : Registered env cs s r) (g : α → β)
    (hg : ∀ a, ds (g a) = cs a) (tell : Failure → Failure) (hcause : ∀ f, (tell f).cause = f.cause)
    (hcircumstances : ∀ f, f.circumstances ⊆ (tell f).circumstances) (ht : t.compiles = s.compiles)
    (hu : u.compiles = r.2.compiles) :
    Registered env ds t ((r.1.map g).mapError tell, u) := by
  cases h with
  | all hall => exact .all (by rw [hu, hall, hg, ht])
  | none hnone => exact .none (by rw [hu, hnone, ht])
  | refused hrefused =>
      obtain ⟨before, c, reason, hreason, hf, hc, hbefore⟩ := hrefused
      exact .refused ⟨before, c, reason, hreason, (hcause _).trans hf, hcircumstances _ hc, by rw [hu, hbefore, ht]⟩

namespace Planning

variable {α β : Type} {env : Env} {cs : α → List LinkstampCompile} {ds : β → List LinkstampCompile}
  {act : Planning α}

/-- Whichever session the step starts in, it registers the compiles of its result. -/
def Registers (env : Env) (cs : α → List LinkstampCompile) (act : Planning α) : Prop :=
  ∀ s, Registered env cs s (act.run s)

theorem Registers.within (hact : Registers env cs act) (c : Circumstance) : Registers env cs (within c act) := by
  intro s
  have hfirst := hact s
  rw [run_within]
  generalize act.run s = r at hfirst ⊢
  have hend : Registered env cs s ((r.1.map id).mapError (·.within c), r.2) :=
    hfirst.imp id (fun _ => rfl) (·.within c) (fun _ => rfl) (fun _ => List.subset_cons_self _ _) rfl rfl
  rcases r with ⟨e | a, t⟩ <;> exact hend

theorem Registers.during (hact : Registers env cs act) (p : Phase) : Registers env cs (during p act) := by
  intro s
  have hfirst := hact { s with depth := s.depth + 1 }
  have hsnd := congrArg Session.compiles (run_during_snd p act s)
  have hend : Registered env cs s (((act.run { s with depth := s.depth + 1 }).1.map id).mapError id, _) :=
    hfirst.imp id (fun _ => rfl) id (fun _ => rfl) (fun _ => List.Subset.refl _) rfl hsnd
  have hrun : (Planning.during p act).run s =
      ((act.run { s with depth := s.depth + 1 }).1, ((Planning.during p act).run s).2) := rfl
  rw [hrun]
  generalize act.run { s with depth := s.depth + 1 } = r at hend ⊢
  rcases r with ⟨e | a, t⟩ <;> exact hend

/-- What comes after the registrations only puts the result together. -/
theorem Registers.bind_pure (hact : Registers env cs act) {f : α → Planning β}
    (hf : ∀ a, ∃ b, f a = pure b ∧ ds b = cs a) : Registers env ds (act >>= f) := by
  -- so the step that follows is the same as mapping `g` over the result
  choose g hpure hg using hf
  intro s
  have hfirst := hact s
  rw [funext hpure, run_bind]
  generalize act.run s = r at hfirst ⊢
  have hend : Registered env ds s ((r.1.map g).mapError id, r.2) :=
    hfirst.imp g hg id (fun _ => rfl) (fun _ => List.Subset.refl _) rfl rfl
  rcases r with ⟨e | a, t⟩ <;> exact hend

/-- No compile is registered. -/
def SameCompiles (s t : Session) : Prop := t.compiles = s.compiles

theorem frame_sameCompiles : Frame SameCompiles where
  refl _ := rfl
  trans h k := Eq.trans k h
  timed _ _ _ := rfl
  declared _ _ := rfl

/-- What comes before the registrations may fail, and then nothing is registered. -/
theorem Keeps.registers {f : α → Planning β} (hact : Keeps SameCompiles act) (hf : ∀ a, Registers env ds (f a)) :
    Registers env ds (act >>= f) := by
  intro s
  have hsame : (act.run s).2.compiles = s.compiles := hact s
  rw [run_bind]
  rcases hrun : act.run s with ⟨e | a, t⟩ <;> rw [hrun] at hsame
  · exact .none hsame
  · have hrest := hf a t
    dsimp only
    generalize (f a).run t = r at hrest ⊢
    cases hrest with
    | all hu => exact .all (by rw [hu, hsame])
    | none hu => exact .none (hu.trans hsame)
    | refused hrefused =>
        unfold CompileRefused at hrefused
        rw [hsame] at hrefused
        exact .refused hrefused

/-- Compiles are registered one after the other, up to the first that is refused. -/
theorem run_forM_register (env : Env) (compiles : List LinkstampCompile) (s : Session) :
    (∃ t, (compiles.forM (register env)).run s = (.ok (), t) ∧ t.compiles = s.compiles ++ compiles) ∨
      ∃ f t, (compiles.forM (register env)).run s = (.error f, t) ∧ CompileRefused env s t f := by
  induction compiles generalizing s with
  | nil => exact Or.inl ⟨s, rfl, (List.append_nil _).symm⟩
  | cons c compiles ih =>
      have hrun : ((c :: compiles).forM (register env)).run s = _ :=
        (run_bind (register env c) (fun _ => compiles.forM (register env)) s).trans (by rw [run_register])
      rw [hrun]
      cases hc : env.linkstampCompiler c with
      | error reason =>
          exact Or.inr ⟨_, s, rfl, [], c, reason, hc, rfl, List.mem_singleton_self _, (List.append_nil _).symm⟩
      | ok u =>
          rcases ih { s with compiles := s.compiles ++ [c] } with ⟨t, hend, ht⟩ | ⟨f, t, hend, hrefused⟩
          · refine Or.inl ⟨t, hend, ?_⟩
            rw [ht, List.append_assoc, List.singleton_append]
          · obtain ⟨before, d, reason, hreason, hf, hd, ht⟩ := hrefused
            refine Or.inr ⟨f, t, hend, c :: before, d, reason, hreason, hf, hd, ?_⟩
            rw [ht, List.append_assoc, List.singleton_append]

end Planning

/-! ### Phases -/

section Phases

variable (env : Env) (link : Link)

theorem Link.registers_compileLinkstamps (compiles : List LinkstampCompile) :
    Registers env (fun _ => compiles) (Link.compileLinkstamps env compiles) := by
  unfold Link.compileLinkstamps
  split
  · rename_i hnone
    rw [List.isEmpty_iff.1 hnone]
    exact fun s => .all (List.append_nil _).symm
  · refine Registers.during (fun s => ?_) _
    rcases run_forM_register env compiles s with ⟨t, hrun, ht⟩ | ⟨f, t, hrun, hrefused⟩ <;> rw [hrun]
    · exact .all ht
    · exact .refused hrefused

theorem Link.registers_assemble (r : ActionRequest) : Registers env (·.2) (link.assemble env r) :=
  (keeps_collect frame_sameCompiles env _).registers fun _ =>
    (Link.registers_compileLinkstamps env _).bind_pure fun _ => ⟨_, rfl, rfl⟩

theorem Link.registers_planFinal (decision : Option LtoDecision) (mapping : BitcodeMapping) (backends : List Backend)
    (indexing : Option IndexingOutputs) :
    Registers env LinkPlan.linkstampCompiles (link.planFinal env decision mapping backends indexing) := by
  refine Registers.during (Keeps.registers (keeps_declare frame_sameCompiles _) fun _ => ?_) _
  refine Keeps.registers (link.keeps_outputLibrary? frame_sameCompiles env _) fun _ => ?_
  exact Registers.bind_pure ((link.registers_assemble env _).within _) fun _ => ⟨_, rfl, rfl⟩

theorem LtoPhase.registers_plan (phase : LtoPhase) : Registers env LinkPlan.linkstampCompiles (phase.plan env) := by
  cases phase with
  | indexed p outputs => exact p.link.registers_planFinal env _ _ _ _
  | sharedBackends p => exact p.link.registers_planFinal env _ _ _ _

theorem Link.registers_plan : Registers env LinkPlan.linkstampCompiles (link.plan env) :=
  ((link.keeps_ensureValid frame_sameCompiles env).registers fun _ => link.registers_planFinal env _ _ _ _).during _

/-- The indexing step is assembled too, but without linkstamps. -/
theorem Link.registers_planWithLto : Registers env LinkPlan.linkstampCompiles (link.planWithLto env) :=
  (link.keeps_planBackends frame_sameCompiles env).registers fun p =>
    (p.keeps_planIndexing frame_sameCompiles env).registers fun phase => phase.registers_plan env

end Phases

/-! ### Whole runs -/

/-- The two ways to plan a link. -/
inductive Pipeline where
  /-- The final link alone. -/
  | plain
  /-- Backends, then the indexing step if the link is indexed, then the final link. -/
  | lto

/-- A whole run of the planner for a link. -/
def Link.planVia (env : Env) (link : Link) : Pipeline → Planning LinkPlan
  | .plain => link.plan env
  | .lto => link.planWithLto env

theorem Link.registers_planVia (env : Env) (link : Link) (via : Pipeline) :
    Registers env LinkPlan.linkstampCompiles (link.planVia env via) := by
  cases via with
  | plain => exact link.registers_plan env
  | lto => exact link.registers_planWithLto env

theorem Link.yields_of_planVia {env : Env} {link : Link} {via : Pipeline} {plan : LinkPlan}
    (h : (link.planVia env via).Yields plan) : link.Yields env plan := by
  cases via with
  | plain => exact Or.inl h
  | lto => exact Or.inr h

/-- A run registers exactly the compiles of its plan: one for each source, in the order in which the sources first
occur, each with the includes of all linkstamps of its source. A run that fails registers nothing, unless it is the
linkstamp compiler that refuses. -/
theorem Link.registers_plan_compiles (env : Env) (link : Link) (via : Pipeline) (s : Session) :
    match (link.planVia env via).run s with
    | (.ok plan, t) =>
      t.compiles = s.compiles ++ plan.linkstampCompiles ∧
        plan.linkstampCompiles.map (·.source.execPath) = link.linkstampSources.toList ∧
        ∀ c ∈ plan.linkstampCompiles, link.Stamps env.toBuild c
    | (.error f, t) => t.compiles = s.compiles ∨ CompileRefused env s t f := by
  have hend := link.registers_planVia env via s
  rcases hrun : (link.planVia env via).run s with ⟨f | plan, t⟩ <;> rw [hrun] at hend
  · cases hend with
    | none ht => exact Or.inl ht
    | refused hrefused => exact Or.inr hrefused
  · cases hend with
    | all ht => exact ⟨ht, Link.plan_stamps (Link.yields_of_planVia ⟨s, t, hrun⟩)⟩

namespace Sample

/-- An indexed executable with two linkstamps of one source, and one of another source between them. -/
def twiceStampedLink : Link :=
  { link (env []) ["app/main.o"] ["app/main.o"] with
    linkstamps := .ofList <|
      [("stamp/version.cc", ["stamp/version.h"]), ("stamp/target.cc", []), ("stamp/version.cc", ["stamp/date.h"])].map
        fun (source, includes) =>
          { source := .source (.ofString source)
            declaredIncludes := includes.map fun path => .source (.ofString path) } }

/-- The sources that are compiled, each with the includes for it. -/
def stamped (compiles : List LinkstampCompile) : List (String × List String) :=
  compiles.map fun c => (c.source.text, c.declaredIncludes.map (·.text))

/-- Planning in this way registers one compile for the source with two linkstamps, with the includes of both, and one
for the other source. -/
def RegistersOnePerSource (via : Pipeline) : Prop :=
  ∃ plan t, (twiceStampedLink.planVia (env []) via).run {} = (.ok plan, t) ∧ t.compiles = plan.linkstampCompiles ∧
    plan.linkstampCompiles.map (·.source.execPath) = twiceStampedLink.linkstampSources.toList ∧
    stamped t.compiles = [("stamp/version.cc", ["stamp/version.h", "stamp/date.h"]), ("stamp/target.cc", [])]

theorem three_linkstamps_registered : RegistersOnePerSource .plain ∧ RegistersOnePerSource .lto := by
  have hvia : ∀ via, RegistersOnePerSource via := by
    intro via
    obtain ⟨plan, t, hrun, hcheck⟩ := exists_run_of_check (twiceStampedLink.planVia (env []) via) {}
      (fun plan => decide (stamped plan.linkstampCompiles =
        [("stamp/version.cc", ["stamp/version.h", "stamp/date.h"]), ("stamp/target.cc", [])]))
      (by cases via <;> decide +kernel)
    have hend := Link.registers_plan_compiles (env []) twiceStampedLink via {}
    rw [hrun] at hend
    obtain ⟨ht, hsources, -⟩ := hend
    have hall : t.compiles = plan.linkstampCompiles := ht
    exact ⟨plan, t, hrun, hall, hsources, hall ▸ of_decide_eq_true hcheck⟩
  exact ⟨hvia .plain, hvia .lto⟩

end Sample
end LinkPlanner
