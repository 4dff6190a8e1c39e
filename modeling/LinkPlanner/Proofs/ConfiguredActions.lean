import LinkPlanner.Proofs.RegisteredCompiles
import LinkPlanner.Proofs.Verdicts

/-! Which toolchain actions the links of a plan run. A run is checked once, before anything is planned, and the check
asks only for the action of the final link; the action of an indexing step is chosen later. So a plan never has a final
link that the toolchain does not configure, and nothing else about its actions is certain. -/

namespace LinkPlanner

open Planning

/-! ### Link actions -/

/-- The link actions of a plan, in the order in which they run. -/
def LinkPlan.linkActions (plan : LinkPlan) : List LinkAction := plan.ltoIndexing.toList ++ [plan.action]

namespace Link

/-- The toolchain action that a run indexes the link with, if it does. -/
def indexActionVia? (env : Env) (link : Link) : Pipeline → Option ActionName
  | .plain => none
  | .lto => if (link.ltoFacts env.features).decide.allowIndexing then link.linkType.indexAction? else none

/-- The toolchain actions that a run needs, in the order in which its links use them. -/
def neededActions (env : Env) (link : Link) (via : Pipeline) : List ActionName :=
  (link.indexActionVia? env via).toList ++ [link.linkType.action]

variable {env : Env} {link : Link} {via : Pipeline} {plan : LinkPlan}

/-- Whatever else a plan has been through, its final link is that of its link type. -/
theorem actionName_of_planFinal {decision : Option LtoDecision} {mapping : BitcodeMapping} {backends : List Backend}
    {indexing : Option IndexingOutputs} (h : (link.planFinal env decision mapping backends indexing).Yields plan) :
    plan.action.commandLine.action = link.linkType.action ∧ plan.ltoIndexing = indexing.map (·.action) := by
  obtain ⟨⟨c, hmade⟩, hindexing, -⟩ := planned_of_yields h
  rw [hmade.action_eq]
  exact ⟨rfl, hindexing⟩

/-- What the indexing step leaves for the final link is made with the index action of the link type. -/
theorem indexAction_of_indexes {p : BackendPlan} {indexing : Option IndexingOutputs} (hp : p.Planned env link)
    (h : p.Indexes env indexing) :
    (indexing.map (·.action.commandLine.action)) = link.indexActionVia? env .lto := by
  have hlink := hp.link_eq
  subst hlink
  unfold indexActionVia?
  rw [← hp.decision_eq]
  cases h with
  | indexed hallow houtputs =>
      rw [if_pos hallow]
      exact (BackendPlan.indexAction_of_yields houtputs).symm
  | notIndexed hallow =>
      rw [hallow]
      rfl

/-- The links of a plan run the actions that are needed for it. -/
theorem linkActions_of_yields (h : (link.planVia env via).Yields plan) :
    plan.linkActions.map (·.commandLine.action) = link.neededActions env via := by
  unfold LinkPlan.linkActions neededActions
  cases via with
  | plain =>
      have hplain : (link.plan env).Yields plan := h
      obtain ⟨-, -, hfinal⟩ := hplain.during.bind
      obtain ⟨haction, hindexing⟩ := actionName_of_planFinal hfinal
      rw [hindexing, ← haction]
      rfl
  | lto =>
      obtain ⟨p, phase, rfl, hplanned, hphase, hplan⟩ := planned_phases_of_yields h
      obtain ⟨indexing, c, hindexes, hmade, hindexing, -⟩ := BackendPlan.final_of_yields hphase hplan
      rw [hindexing, ← indexAction_of_indexes hplanned hindexes, hmade.action_eq]
      cases indexing <;> rfl

end Link

/-! ### Causes of failures -/

namespace Planning

variable {α β : Type} {P Q : Cause → Prop} {act : Planning α}

/-- In whichever session the step fails, it fails for such a cause. -/
def FailsFor (P : Cause → Prop) (act : Planning α) : Prop :=
  ∀ s f t, act.run s = (.error f, t) → P f.cause

theorem FailsFor.imp (hact : FailsFor P act) (hPQ : ∀ c, P c → Q c) : FailsFor Q act :=
  fun s f t hrun => hPQ _ (hact s f t hrun)

theorem failsFor_pure (a : α) : FailsFor P (pure a) := by
  intro s f t hrun
  cases hrun

theorem failsFor_declare (as : List (Artifact × Sharing)) : FailsFor P (declare as) := by
  intro s f t hrun
  cases hrun

theorem failsFor_ofCause {r : Except Cause α} (hr : ∀ c, r = .error c → P c) : FailsFor P (ofCause r) := by
  intro s f t hrun
  rw [run_ofCause] at hrun
  cases r with
  | ok a => cases hrun
  | error c =>
      cases hrun
      exact hr c rfl

/-- A collaborator that refuses does so for a reason of its own. -/
theorem failsFor_ofCollaborator (hP : ∀ reason, P (.refused reason)) (r : Except String α) :
    FailsFor P (ofCollaborator r) := by
  apply failsFor_ofCause
  intro c hc
  cases r with
  | ok a => cases hc
  | error reason =>
      cases hc
      exact hP reason

theorem FailsFor.bind (hact : FailsFor P act) {f : α → Planning β} (hf : ∀ a, FailsFor P (f a)) :
    FailsFor P (act >>= f) := by
  intro s g u hrun
  rw [run_bind] at hrun
  rcases hfirst : act.run s with ⟨e | a, t⟩ <;> rw [hfirst] at hrun
  · cases hrun
    exact hact s _ _ hfirst
  · exact hf a t g u hrun

theorem FailsFor.map (hact : FailsFor P act) (g : α → β) : FailsFor P (g <$> act) := by
  rw [map_eq_pure_bind]
  exact hact.bind fun a => failsFor_pure (g a)

theorem FailsFor.within (hact : FailsFor P act) (c : Circumstance) : FailsFor P (within c act) := by
  intro s f t hrun
  rw [run_within] at hrun
  rcases hfirst : act.run s with ⟨e | a, u⟩ <;> rw [hfirst] at hrun <;> cases hrun
  exact (hact s e u hfirst : P e.cause)

theorem FailsFor.during (hact : FailsFor P act) (p : Phase) : FailsFor P (during p act) := by
  intro s f t hrun
  have hfst := congrArg Prod.fst hrun
  rw [run_during] at hfst
  exact hact { s with depth := s.depth + 1 } f (act.run { s with depth := s.depth + 1 }).2 (Prod.ext hfst rfl)

theorem failsFor_forM {f : α → Planning Unit} (hf : ∀ a, FailsFor P (f a)) (as : List α) :
    FailsFor P (as.forM f) := by
  induction as with
  | nil => exact failsFor_pure ()
  | cons a as ih => exact (hf a).bind fun _ => ih

end Planning

/-! ### After the check -/

/-- A cause that no link is checked for. -/
def Cause.IsLater (c : Cause) : Prop := c.isFromCheck = false

section Later

variable (env : Env) (link : Link)

theorem failsLater_register (c : LinkstampCompile) : FailsFor Cause.IsLater (register env c) :=
  ((failsFor_ofCollaborator (fun _ => rfl) _).within _).bind fun _ => by
    intro s f t hrun
    cases hrun

namespace Link

theorem failsLater_assemble (r : ActionRequest) : FailsFor Cause.IsLater (link.assemble env r) := by
  refine (((failsFor_ofCollaborator (fun _ => rfl) _).during _).within _).bind fun c => ?_
  refine FailsFor.bind ?_ fun _ => failsFor_pure _
  unfold compileLinkstamps
  split
  · exact failsFor_pure ()
  · exact (failsFor_forM (failsLater_register env) _).during _

theorem failsLater_outputLibrary? (members : List Artifact) :
    FailsFor Cause.IsLater (link.outputLibrary? env members) := by
  unfold outputLibrary?
  split
  · exact failsFor_pure _
  · dsimp only
    split
    · split
      · exact failsFor_pure _
      · refine (((failsFor_declare _).bind fun _ => failsFor_pure _).during _).bind fun backends => ?_
        refine (failsFor_ofCause fun c hc => ?_).map _
        unfold LibraryInput.withSharedBackends at hc
        split at hc
        · cases hc
          rfl
        · cases hc
    · exact failsFor_pure _

theorem failsLater_planFinal (decision : Option LtoDecision) (mapping : BitcodeMapping) (backends : List Backend)
    (indexing : Option IndexingOutputs) :
    FailsFor Cause.IsLater (link.planFinal env decision mapping backends indexing) := by
  refine FailsFor.during ((failsFor_declare _).bind fun _ => ?_) _
  refine (link.failsLater_outputLibrary? env _).bind fun _ => ?_
  exact ((link.failsLater_assemble env _).within _).bind fun _ => failsFor_pure _

/-- A link whose bitcode is refused is refused for no mistake of its own setup. -/
theorem BitcodeRefused.isLater {build : Build} {kind : FailureKind} {c : Cause}
    (h : link.BitcodeRefused build kind c) : c.IsLater := by
  cases h <;> rfl

end Link

namespace BackendPlan

/-- Shared backends may be missing for what the indexer is to be shown, and nothing else. -/
theorem isLater_of_indexingLibraries {includeStatic : Bool} {c : Cause}
    (h : link.indexingLibraries includeStatic = .error c) : c.IsLater := by
  unfold Link.indexingLibraries at h
  cases hls : link.libraries.toList.mapM (Link.indexingLibrary includeStatic) with
  | ok ls =>
      rw [hls] at h
      cases h
  | error d =>
      rw [hls] at h
      cases h
      obtain ⟨l, -, hl⟩ := exists_of_mapM_eq_error hls
      unfold Link.indexingLibrary at hl
      split at hl
      · cases hms : l.objects.toList.mapM (Link.indexingMember includeStatic l) with
        | ok ms =>
            rw [hms] at hl
            cases hl
        | error d =>
            rw [hms] at hl
            cases hl
            obtain ⟨m, -, hm⟩ := exists_of_mapM_eq_error hms
            unfold Link.indexingMember at hm
            split at hm
            · cases hm
            · split at hm
              · cases hm
              · split at hm <;> cases hm
                rfl
      · cases hl

theorem failsLater_planIndexing (p : BackendPlan) : FailsFor Cause.IsLater (p.planIndexing env) := by
  unfold planIndexing
  split
  · refine FailsFor.during (FailsFor.map (FailsFor.within ?_ _) _) _
    unfold assembleIndexing
    split
    · exact failsFor_ofCause fun c hc => by cases hc; rfl
    · refine (failsFor_ofCause fun c hc => isLater_of_indexingLibraries p.link hc).bind fun _ => ?_
      refine (failsFor_declare _).bind fun _ => (failsFor_declare _).bind fun _ => ?_
      exact (p.link.failsLater_assemble env _).bind fun _ => failsFor_pure _
  · exact failsFor_pure _

end BackendPlan

theorem LtoPhase.failsLater_plan (phase : LtoPhase) : FailsFor Cause.IsLater (phase.plan env) := by
  cases phase with
  | indexed p outputs => exact p.link.failsLater_planFinal env _ _ _ _
  | sharedBackends p => exact p.link.failsLater_planFinal env _ _ _ _

/-- A mistake that links are checked for is reported only by the check. -/
theorem Link.failsFor_planVia (via : Pipeline) :
    FailsFor (fun c => c.isFromCheck = true → link.check env.toBuild = .error c) (link.planVia env via) := by
  have hlater : ∀ c : Cause, c.IsLater → c.isFromCheck = true → link.check env.toBuild = .error c := by
    intro c hc hfrom
    rw [hc] at hfrom
    cases hfrom
  have hvalid :
      FailsFor (fun c => c.isFromCheck = true → link.check env.toBuild = .error c) (link.ensureValid env) := by
    apply FailsFor.within
    exact failsFor_ofCause fun c hc _ => hc
  cases via with
  | plain => exact (hvalid.bind fun _ => (link.failsLater_planFinal env _ _ _ _).imp hlater).during _
  | lto =>
      refine FailsFor.bind ?_ fun p => FailsFor.bind ((p.failsLater_planIndexing env).imp hlater) fun phase =>
        (phase.failsLater_plan env).imp hlater
      refine FailsFor.during (hvalid.bind fun _ => ?_) _
      refine FailsFor.bind (FailsFor.imp (FailsFor.within ?_ _) hlater) fun _ =>
        (failsFor_declare _).bind fun _ => failsFor_pure _
      refine FailsFor.bind (failsFor_ofCause fun c hc => ?_) fun _ => failsFor_ofCause fun c hc => ?_
      · exact BitcodeRefused.isLater link (checkRoots_eq_error hc)
      · obtain ⟨kind, hrefused⟩ := memberBackends_eq_error hc
        exact BitcodeRefused.isLater link hrefused

end Later

/-! ### The check -/

namespace Link

variable {env : Env} {link : Link} {via : Pipeline}

/-- What links are checked for before the toolchain is asked about their action. -/
structure SetUp (link : Link) : Prop where
  identifier : link.libraryIdentifier.isSome ≠ link.linkType.isExecutable
  interfaceOutput : link.interfaceOutput.isSome = true → link.linkType.isDynamicLibrary = true
  linkable : link.linkType ≠ .interfaceDynamicLibrary

theorem configured_of_check (h : link.check env.toBuild = .ok ()) :
    env.features.isConfigured link.linkType.action = true :=
  conditions_of_check h (env.features.isConfigured link.linkType.action, .actionNotConfigured link.linkType.action)
    (by simp [conditions])

/-- The only action that the check asks the toolchain about is that of the final link. -/
theorem of_check_eq_actionNotConfigured {name : ActionName}
    (h : link.check env.toBuild = .error (.actionNotConfigured name)) :
    name = link.linkType.action ∧ env.features.isConfigured name = false := by
  have hmem := mem_conditions_of_check h
  simp only [conditions, List.mem_cons, List.not_mem_nil, Prod.mk.injEq, reduceCtorEq, Cause.actionNotConfigured.injEq,
    and_false, false_or, or_false] at hmem
  obtain ⟨hnot, rfl⟩ := hmem
  exact ⟨rfl, hnot.symm⟩

/-- A link with nothing else wrong before it does not pass its check if its action is not configured. -/
theorem check_of_not_configured (hsetup : link.SetUp)
    (hnot : env.features.isConfigured link.linkType.action = false) :
    link.check env.toBuild = .error (.actionNotConfigured link.linkType.action) := by
  obtain ⟨hidentifier, hinterface, hlinkable⟩ := hsetup
  have hnone : (link.interfaceOutput.isNone || link.linkType.isDynamicLibrary) = true := by
    cases hout : link.interfaceOutput with
    | none => rfl
    | some out =>
        rw [hinterface (by rw [hout]; rfl)]
        rfl
  rw [check_eq]
  unfold conditions
  rw [bne_iff_ne.2 hidentifier, hnone, bne_iff_ne.2 hlinkable, hnot]
  rfl

/-- A run of a link that does not pass its check fails for what the check tells. -/
theorem settles_planVia_of_check {c : Cause} (h : link.check env.toBuild = .error c) :
    Settles (link.planVia env via) (.error c) := by
  have hvalid : Settles (link.ensureValid env) (.error c) := by
    unfold ensureValid
    rw [h]
    exact (settles_ofCause (.error c)).within _
  cases via with
  | plain => exact hvalid.bind_error.during _
  | lto => exact Settles.bind_error (hvalid.bind_error.during _)

theorem check_of_planVia {plan : LinkPlan} (h : (link.planVia env via).Yields plan) :
    link.check env.toBuild = .ok () := by
  cases hcheck : link.check env.toBuild with
  | ok u => rfl
  | error c => cases (settles_planVia_of_check hcheck).eq_of_yields h

theorem check_of_yields {plan : LinkPlan} (h : link.Yields env plan) : link.check env.toBuild = .ok () := by
  rcases h with h | h
  · exact check_of_planVia (show (link.planVia env .plain).Yields plan from h)
  · exact check_of_planVia (show (link.planVia env .lto).Yields plan from h)

/-- The final link of a plan always runs an action that the toolchain configures, and the indexing step exactly if the
toolchain happens to configure its action. A run fails for an action that is not configured only if it is the action
of the final link, and then always, unless a mistake is found before the toolchain is asked. -/
theorem link_actions_configured_iff (env : Env) (link : Link) (via : Pipeline) (s : Session) :
    match (link.planVia env via).run s with
    | (.ok plan, _) =>
      plan.linkActions.map (·.commandLine.action) = link.neededActions env via ∧
        env.features.isConfigured link.linkType.action = true ∧
        ((∀ action ∈ plan.linkActions, env.features.isConfigured action.commandLine.action = true) ↔
          ∀ name ∈ link.indexActionVia? env via, env.features.isConfigured name = true)
    | (.error f, _) =>
      (link.SetUp → env.features.isConfigured link.linkType.action = false →
        f.cause = .actionNotConfigured link.linkType.action ∧ f.kind? = some .configuration) ∧
        ∀ name, f.cause = .actionNotConfigured name →
          name = link.linkType.action ∧ env.features.isConfigured name = false := by
  rcases hrun : (link.planVia env via).run s with ⟨f | plan, t⟩
  · refine ⟨fun hsetup hnot => ?_, fun name hname => ?_⟩
    · obtain ⟨g, u, hfails, hcause⟩ := (settles_planVia_of_check (check_of_not_configured hsetup hnot)).run_error s
      rw [hrun] at hfails
      cases hfails
      refine ⟨hcause, ?_⟩
      unfold Failure.kind?
      rw [hcause]
      rfl
    · have hcheck := link.failsFor_planVia env via s f t hrun (by rw [hname]; rfl)
      rw [hname] at hcheck
      exact of_check_eq_actionNotConfigured hcheck
  · have hyields : (link.planVia env via).Yields plan := ⟨s, t, hrun⟩
    have hnames := linkActions_of_yields hyields
    have hfinal := configured_of_check (check_of_planVia hyields)
    have hall : (∀ action ∈ plan.linkActions, env.features.isConfigured action.commandLine.action = true) ↔
        ∀ name ∈ link.neededActions env via, env.features.isConfigured name = true := by
      rw [← hnames]
      simp only [List.mem_map, forall_exists_index, and_imp, forall_apply_eq_imp_iff₂]
    refine ⟨hnames, hfinal, hall.trans ?_⟩
    unfold neededActions
    simp only [List.mem_append, List.mem_singleton, Option.mem_toList, Option.mem_def, or_imp, forall_and, forall_eq,
      hfinal, and_true]

end Link

namespace Sample

/-- An environment whose toolchain configures these actions only. -/
def configuredEnv (actions : List ActionName) : Env where
  features := { configuredActions := .ofList (actions.map (·.name)) }

/-- The executable with one bitcode object, in an environment that configures these actions only. -/
def configuredLink (actions : List ActionName) : Link :=
  link (configuredEnv actions) ["app/main.o"] ["app/main.o"]

/-- A toolchain that only configures indexing cannot link the executable. -/
theorem unconfigured_link_refused :
    ∃ f t, ((configuredLink [.ltoIndexExecutable]).planVia (configuredEnv [.ltoIndexExecutable]) .lto).run {} =
      (.error f, t) ∧ f.kind? = some .configuration := by
  have hend := Link.link_actions_configured_iff (configuredEnv [.ltoIndexExecutable])
    (configuredLink [.ltoIndexExecutable]) .lto {}
  have hnot : (configuredEnv [.ltoIndexExecutable]).features.isConfigured .cppLinkExecutable = false := by
    decide +kernel
  rcases hrun : ((configuredLink [.ltoIndexExecutable]).planVia (configuredEnv [.ltoIndexExecutable]) .lto).run {} with
    ⟨f | plan, t⟩ <;> rw [hrun] at hend
  · exact ⟨f, t, rfl, (hend.1 ⟨nofun, nofun, nofun⟩ hnot).2⟩
  · cases hnot.symm.trans hend.2.1

/-- A toolchain that only configures the link of executables is given an indexing step as well. -/
theorem unconfigured_indexing_planned :
    ∃ plan, ((configuredLink [.cppLinkExecutable]).planVia (configuredEnv [.cppLinkExecutable]) .lto).Yields plan ∧
      ∃ action ∈ plan.linkActions, action.commandLine.action = .ltoIndexExecutable ∧
        (configuredEnv [.cppLinkExecutable]).features.isConfigured action.commandLine.action = false := by
  obtain ⟨plan, hplan, hcheck⟩ := Planning.exists_yields_of_decide
    ((configuredLink [.cppLinkExecutable]).planVia (configuredEnv [.cppLinkExecutable]) .lto)
    (fun plan => ∃ action ∈ plan.linkActions, action.commandLine.action = .ltoIndexExecutable ∧
      (configuredEnv [.cppLinkExecutable]).features.isConfigured action.commandLine.action = false)
    (by decide +kernel)
  exact ⟨plan, hplan, hcheck⟩

end Sample
end LinkPlanner
