import LinkPlanner.Proofs.BackendUniqueness
import LinkPlanner.Proofs.Sessions
import LinkPlanner.Proofs.Verdicts
import LinkPlanner.Proofs.WithoutBitcode

/-! What a failure leaves behind. Whoever plans a link may try another one when planning fails, so a phase that fails
must not have declared anything. The backends of a link are declared one by one, among steps that can fail, and still
nothing is declared before all of these have been taken: in one run either the members of libraries get backends that
are declared, and nothing fails, or they take the backends that their libraries share, and nothing is declared until
the link's own objects come. -/

namespace LinkPlanner

open Planning

namespace Planning

variable {α β : Type} {act : Planning α}

/-! ### Steps that fail without effects -/

/-- The step declares and registers nothing, whether it fails or not. -/
abbrev Silent (act : Planning α) : Prop := Keeps Session.SameEffects act

/-- If the step fails, it has declared and registered nothing. -/
def Atomic (act : Planning α) : Prop := ∀ s f t, act.run s = (.error f, t) → s.SameEffects t

theorem silent_ofCause (r : Except Cause α) : Silent (ofCause r) := by
  intro s
  rw [run_ofCause]
  exact ⟨rfl, rfl⟩

theorem Silent.bind {f : α → Planning β} (hact : Silent act) (hf : ∀ a, Silent (f a)) : Silent (act >>= f) := by
  intro s
  have hfirst := hact s
  rw [run_bind]
  rcases hrun : act.run s with ⟨e | a, t⟩ <;> rw [hrun] at hfirst
  · exact hfirst
  · exact hfirst.trans (hf a t)

theorem Silent.atomic (hact : Silent act) : Atomic act := by
  intro s f t hrun
  have hfirst := hact s
  rwa [hrun] at hfirst

theorem Succeeds.atomic (hact : Succeeds act) : Atomic act := by
  obtain ⟨a, ha⟩ := hact
  intro s f t hrun
  obtain ⟨u, hok⟩ := ha.run_ok s
  rw [hrun] at hok
  cases hok

/-- What goes before an atomic step must have no effects, in case the later step fails. -/
theorem Silent.bind_atomic {f : α → Planning β} (hact : Silent act) (hf : ∀ a, Atomic (f a)) : Atomic (act >>= f) := by
  intro s e u hrun
  have hfirst := hact s
  rw [run_bind] at hrun
  rcases hact : act.run s with ⟨d | a, t⟩ <;> rw [hact] at hrun hfirst
  · cases hrun
    exact hfirst
  · exact hfirst.trans (hf a t e u hrun)

theorem Atomic.within (hact : Atomic act) (c : Circumstance) : Atomic (within c act) := by
  intro s e u hrun
  rw [run_within] at hrun
  rcases hfirst : act.run s with ⟨f | a, t⟩ <;> rw [hfirst] at hrun <;> cases hrun
  exact hact s f t hfirst

theorem Atomic.map (hact : Atomic act) (f : α → β) : Atomic (f <$> act) := by
  intro s e u hrun
  rw [run_map] at hrun
  rcases hfirst : act.run s with ⟨d | a, t⟩ <;> rw [hfirst] at hrun <;> cases hrun
  exact hact s _ _ hfirst

theorem Atomic.during (hact : Atomic act) (p : Phase) : Atomic (during p act) := by
  intro s e u hrun
  have hinner := congrArg Prod.fst hrun
  rw [run_during] at hinner
  have heffects := hact _ e (act.run { s with depth := s.depth + 1 }).2 (Prod.ext hinner rfl)
  have hend : u = ((Planning.during p act).run s).2 := (congrArg Prod.snd hrun).symm
  rw [hend, run_during_snd]
  exact ⟨heffects.declared_eq, heffects.compiles_eq⟩

/-! ### Declaring in turn -/

/-- Makes a backend: its files are declared as soon as it is there. -/
def make (b : Backend) : Planning Backend := do
  declare b.declarations
  pure b

theorem declare_nil : declare [] = pure () := rfl

theorem declare_append (as bs : List (Artifact × Sharing)) :
    declare (as ++ bs) = declare as >>= fun _ => declare bs := by
  funext s
  change (declare (as ++ bs)).run s = (declare as >>= fun _ => declare bs).run s
  rw [run_bind]
  refine Prod.ext rfl ?_
  change { s with declared := (as ++ bs).foldl _ s.declared } = _
  rw [List.foldl_append]
  rfl

/-- Backends that are made in turn declare what they declare together. -/
theorem mapM_make (as : List α) (g : α → Backend) :
    (as.mapM fun a => make (g a)) = declare ((as.map g).flatMap Backend.declarations) >>= fun _ => pure (as.map g) := by
  induction as with
  | nil => rfl
  | cons a as ih =>
      rw [List.mapM_cons, ih, List.map_cons, List.flatMap_cons, declare_append]
      simp only [make, bind_assoc, pure_bind]

theorem mapM_ofCause (as : List α) (f : α → Except Cause β) :
    (as.mapM fun a => ofCause (f a)) = ofCause (as.mapM f) := by
  induction as with
  | nil => rfl
  | cons a as ih =>
      rw [List.mapM_cons, List.mapM_cons, ih]
      cases f a with
      | error c => rfl
      | ok b => cases as.mapM f <;> rfl

theorem within_bind (c : Circumstance) (act : Planning α) (f : α → Planning β) :
    within c (act >>= f) = within c act >>= fun a => within c (f a) := by
  funext s
  change (within c (act >>= f)).run s = (within c act >>= fun a => within c (f a)).run s
  rw [run_within, run_bind, run_bind, run_within]
  rcases act.run s with ⟨e | a, t⟩
  · rfl
  · exact (run_within c (f a) t).symm

theorem within_pure (c : Circumstance) (a : α) : within c (pure a) = pure a := rfl

theorem within_declare (c : Circumstance) (as : List (Artifact × Sharing)) : within c (declare as) = declare as := rfl

end Planning

namespace Link

/-- The backends of the members of libraries, in turn: new ones are declared, and shared ones may be missing. -/
def memberBackendsInTurn (build : Build) (link : Link) (decision : LtoDecision) (roots : LtoRoots)
    (files : BitcodeFiles) : Planning (List Backend) :=
  link.bitcodeMembers.mapM fun (l, object) =>
    if decision.includeStatic then
      make (.create build roots (some files) link.usePicForLtoBackends object (l.lto.copts object))
    else ofCause (l.requireSharedBackend object)

/-- The planning of backends with each of them declared as soon as it is made. -/
def planBackendsInTurn (env : Env) (link : Link) : Planning BackendPlan :=
  .during .ltoBackends do
    link.ensureValid env
    let decision := (link.ltoFacts env.features).decide
    let roots := link.ltoRoots env.features decision
    let files := link.bitcodeFiles decision
    let backends ← .within (.planningBackends link.owner) do
      .ofCause (files.checkRoots roots)
      let members ← link.memberBackendsInTurn env.toBuild decision roots files
      let own ← (link.ownBackends env.toBuild decision roots files).mapM make
      pure (OrderedSet.ofList (members ++ own))
    pure { link, decision, roots, backends, mapping := .ofBackends backends.toList }

theorem memberBackendsInTurn_eq (build : Build) (link : Link) (decision : LtoDecision) (roots : LtoRoots)
    (files : BitcodeFiles) :
    link.memberBackendsInTurn build decision roots files =
      ofCause (link.memberBackends build decision roots files) >>= fun members =>
        declare (if decision.includeStatic then members.flatMap Backend.declarations else []) >>= fun _ =>
          pure members := by
  unfold memberBackendsInTurn memberBackends
  cases decision.includeStatic with
  | true =>
      simp only [if_true]
      rw [mapM_make]
      change _ = ofCause (List.mapM (fun a => pure _) _) >>= _
      rw [List.mapM_pure]
      rfl
  | false =>
      simp only [Bool.false_eq_true, if_false, declare_nil, pure_bind, bind_pure]
      exact mapM_ofCause _ _

/-- Nothing is declared before all has been taken that can fail, so it makes no difference whether the backends are
declared in turn or together. -/
theorem planBackendsInTurn_eq (env : Env) (link : Link) : link.planBackendsInTurn env = link.planBackends env := by
  unfold planBackendsInTurn planBackends
  dsimp only
  generalize (link.ltoFacts env.features).decide = decision
  have hown : ∀ backends : List Backend,
      backends.mapM make = declare (backends.flatMap Backend.declarations) >>= fun _ => pure backends := by
    intro backends
    have hmake := mapM_make backends id
    rwa [List.map_id] at hmake
  simp only [memberBackendsInTurn_eq, hown, within_bind, within_declare, within_pure, bind_assoc, pure_bind]
  -- the members are either declared, and then with the own objects, or shared, and then nothing of theirs is
  cases decision.includeStatic with
  | true =>
      simp only [if_true, List.flatMap_append, declare_append, bind_assoc]
  | false =>
      simp only [Bool.false_eq_true, if_false, declare_nil, pure_bind]

theorem atomic_planBackends (env : Env) (link : Link) : Atomic (link.planBackends env) := by
  refine Atomic.during ?_ _
  refine Silent.bind_atomic ((silent_ofCause _).within _) fun _ => ?_
  refine Silent.bind_atomic (((silent_ofCause _).bind fun _ => silent_ofCause _).within _) fun members => ?_
  exact Succeeds.atomic ((settles_declare _).bind_succeeds (succeeds_pure _))

end Link

section Indexing

variable {env : Env} (hcollector : ∀ r, env.collector r = .ok r.collect)
include hcollector

theorem Link.succeeds_assemble_of_no_linkstamps (link : Link) {r : ActionRequest} (hr : r.linkstampOutputs = .empty) :
    Succeeds (link.assemble env r) := by
  refine succeeds_assemble_of (hcollector _) ?_
  rw [LinkstampCompile.all_of_no_linkstamps hr]
  exact settles_pure ()

/-- With the usual collector the indexing step declares its files when nothing can fail any more. -/
theorem BackendPlan.atomic_planIndexing (p : BackendPlan) : Atomic (p.planIndexing env) := by
  unfold planIndexing
  split
  · refine Atomic.during (Atomic.map (Atomic.within ?_ _) _) _
    unfold assembleIndexing
    cases p.link.linkType.indexAction? with
    | none => exact (silent_ofCause _).atomic
    | some actionName =>
        refine (silent_ofCause _).bind_atomic fun libraries => Succeeds.atomic ?_
        refine (settles_declare _).bind_succeeds ((settles_declare _).bind_succeeds ?_)
        obtain ⟨a, ha⟩ := Link.succeeds_assemble_of_no_linkstamps hcollector p.link
          (r := p.indexingRequest env.toBuild actionName libraries) rfl
        exact ha.bind_succeeds (succeeds_pure _)
  · exact (succeeds_pure _).atomic

end Indexing

theorem Link.run_plan_of_check_error {env : Env} {link : Link} {c : Cause} (hcheck : link.check env.toBuild = .error c)
    (s : Session) :
    ∃ t, (link.plan env).run s = (.error { cause := c, circumstances := [.checking link.output link.owner] }, t) ∧
      s.SameEffects t := by
  have hinner : ∀ u : Session, (link.ensureValid env).run u =
      (.error { cause := c, circumstances := [.checking link.output link.owner] }, u) := by
    intro u
    rw [ensureValid, run_within, run_ofCause, hcheck]
    rfl
  have hbind : ∀ u : Session,
      (link.ensureValid env >>= fun _ => link.planFinal env none {} [] none).run u =
        (.error { cause := c, circumstances := [.checking link.output link.owner] }, u) := by
    intro u
    rw [run_bind, hinner]
  refine ⟨((link.plan env).run s).2, Prod.ext ?_ rfl, ?_⟩
  · rw [plan, run_during, hbind]
  · rw [plan, run_during_snd, hbind]
    exact ⟨rfl, rfl⟩

/-- Planning that fails leaves nothing behind. The backends of a link may as well be declared in turn, and if one of
them is missing, or anything else fails, then none has been declared. With the usual collector the indexing step
declares nothing when it fails, and nor does the planning of a link that does not pass its check. -/
theorem Link.failures_declare_nothing (env : Env) (link : Link) :
    (link.planBackendsInTurn env = link.planBackends env ∧ Atomic (link.planBackends env)) ∧
      ((∀ r, env.collector r = .ok r.collect) → ∀ p : BackendPlan, Atomic (p.planIndexing env)) ∧
      ∀ c, link.check env.toBuild = .error c → ∀ s, ∃ t,
        (link.plan env).run s = (.error { cause := c, circumstances := [.checking link.output link.owner] }, t) ∧
          s.SameEffects t :=
  ⟨⟨planBackendsInTurn_eq env link, atomic_planBackends env link⟩,
    fun hcollector p => p.atomic_planIndexing hcollector, fun _ hcheck s => run_plan_of_check_error hcheck s⟩

namespace Sample

/-- A session in which something has been declared. -/
def startedSession : Session := ((declare [(file "dep/dep.o.pic", .shareable)]).run {}).2

/-- An executable over two libraries, of which the second one has bitcode and no shared backends. It has no library
identifier, and is given one where it must not. -/
def brokenLink (identifier : Option String) : Link :=
  { link sharedEnv ["app/main.o"] ["app/main.o"] with
    libraryIdentifier := identifier
    libraries := .ofList [library sharedEnv,
      { LibraryInput.ofArtifact (file "old/libold.a") .staticLibrary with
        objects := .ofList [file "old/old.o"]
        lto := context ["old/old.o"] }] }

/-- A plan for the indexing of an archive, which cannot be indexed. -/
def archiveIndexing : BackendPlan :=
  { (default : BackendPlan) with
    link := { link sharedEnv [] [] with linkType := .staticLibrary }
    decision := ⟨true, true⟩ }

/-- All three fail in a session in which something has been declared, and declare nothing more. -/
theorem failures_of_sample :
    startedSession.declared.keys.map (·.text) = ["bin/dep/dep.o.pic"] ∧
      (∃ f t, ((brokenLink none).planBackends sharedEnv).run startedSession = (.error f, t) ∧
        startedSession.SameEffects t) ∧
      (∃ f t, (archiveIndexing.planIndexing sharedEnv).run startedSession = (.error f, t) ∧
        startedSession.SameEffects t) ∧
      (brokenLink (some "app")).check sharedEnv.toBuild = .error .identifierMismatch ∧
      ∃ f t, ((brokenLink (some "app")).plan sharedEnv).run startedSession = (.error f, t) ∧
        startedSession.SameEffects t := by
  obtain ⟨⟨-, hbackends⟩, hindexing, -⟩ := Link.failures_declare_nothing sharedEnv (brokenLink none)
  obtain ⟨f, t, hf⟩ := exists_run_error ((brokenLink none).planBackends sharedEnv) startedSession (by decide +kernel)
  obtain ⟨g, u, hg⟩ := exists_run_error (archiveIndexing.planIndexing sharedEnv) startedSession (by decide +kernel)
  have hcheck : (brokenLink (some "app")).check sharedEnv.toBuild = .error .identifierMismatch := rfl
  obtain ⟨-, -, hplan⟩ := Link.failures_declare_nothing sharedEnv (brokenLink (some "app"))
  obtain ⟨v, hv, heffects⟩ := hplan _ hcheck startedSession
  exact ⟨by decide +kernel, ⟨f, t, hf, hbackends _ f t hf⟩,
    ⟨g, u, hg, hindexing (fun _ => rfl) archiveIndexing _ g u hg⟩, hcheck, _, v, hv, heffects⟩

end Sample

end LinkPlanner
