import LinkPlanner.Proofs.Phases

/-! What planning leaves of the session that it starts in. A frame relates a session to those that it may become
without a linkstamp compile being registered, and every phase but the end of an assembly stays within each frame,
whether it succeeds or not. -/

namespace LinkPlanner

open Planning

/-! ### Frames -/

/-- A relation between sessions that nothing but the registration of a compile can leave. -/
structure Frame (R : Session → Session → Prop) : Prop where
  refl : ∀ s, R s s
  trans : ∀ {s t u}, R s t → R t u → R s u
  timed : ∀ s depth closed, R s { s with depth, closed }
  declared : ∀ s as, R s ((Planning.declare as).run s).2

namespace Planning

variable {α β : Type} {R : Session → Session → Prop} {act : Planning α}

theorem run_during_snd (p : Phase) (act : Planning α) (s : Session) :
    ((during p act).run s).2 =
      { (act.run { s with depth := s.depth + 1 }).2 with
        depth := s.depth
        closed := (act.run { s with depth := s.depth + 1 }).2.closed ++ [(s.depth, p)] } := rfl

theorem run_map (f : α → β) (act : Planning α) (s : Session) :
    (f <$> act).run s = ((act.run s).1.map f, (act.run s).2) := by
  rw [map_eq_pure_bind, run_bind]
  rcases act.run s with ⟨e | a, t⟩ <;> rfl

theorem map_during (p : Phase) (act : Planning α) (f : α → β) : f <$> during p act = during p (f <$> act) := by
  funext s
  change (f <$> during p act).run s = (during p (f <$> act)).run s
  refine Prod.ext ?_ ?_
  · rw [run_map, run_during, run_during, run_map]
  · rw [run_map, run_during_snd, run_during_snd, run_map]

/-- In whichever session the step starts, it leaves one behind that is related to it. -/
def Keeps (R : Session → Session → Prop) (act : Planning α) : Prop := ∀ s, R s (act.run s).2

theorem keeps_pure (hR : Frame R) (a : α) : Keeps R (pure a) := fun s => hR.refl s

theorem keeps_ofCause (hR : Frame R) (r : Except Cause α) : Keeps R (ofCause r) := by
  intro s
  rw [run_ofCause]
  exact hR.refl s

theorem keeps_declare (hR : Frame R) (as : List (Artifact × Sharing)) : Keeps R (declare as) :=
  fun s => hR.declared s as

theorem Keeps.bind (hR : Frame R) (hact : Keeps R act) {f : α → Planning β} (hf : ∀ a, Keeps R (f a)) :
    Keeps R (act >>= f) := by
  intro s
  have hfirst := hact s
  rw [run_bind]
  rcases hrun : act.run s with ⟨e | a, t⟩
  · rw [hrun] at hfirst
    exact hfirst
  · rw [hrun] at hfirst
    exact hR.trans hfirst (hf a t)

theorem Keeps.map (hR : Frame R) (hact : Keeps R act) (f : α → β) : Keeps R (f <$> act) := by
  rw [map_eq_pure_bind]
  exact hact.bind hR fun a => keeps_pure hR (f a)

theorem Keeps.within (hact : Keeps R act) (c : Circumstance) : Keeps R (within c act) := by
  intro s
  rw [run_within]
  exact hact s

theorem Keeps.during (hR : Frame R) (hact : Keeps R act) (p : Phase) : Keeps R (during p act) :=
  fun s => hR.trans (hR.trans (hR.timed s (s.depth + 1) s.closed) (hact _)) (hR.timed _ s.depth _)

theorem keeps_createSharedBackends (hR : Frame R) (env : Env) (lto : LtoContext) (objects : List Artifact)
    (usePic : Bool) : Keeps R (createSharedBackends env lto objects usePic) :=
  ((keeps_declare hR _).bind hR fun _ => keeps_pure hR _).during hR _

/-- A step that stays within a frame does so for every item of a list. -/
theorem keeps_forM (hR : Frame R) {f : α → Planning Unit} (hf : ∀ a, Keeps R (f a)) (as : List α) :
    Keeps R (as.forM f) := by
  induction as with
  | nil => exact keeps_pure hR ()
  | cons a as ih => exact (hf a).bind hR fun _ => ih

end Planning

/-! ### Phases within a frame -/

/-- Without linkstamps there are no linkstamp compiles to register. -/
theorem LinkstampCompile.all_of_no_linkstamps {outputs : LinkstampOutputs} (houtputs : outputs = .empty)
    (t : LinkstampTemplate) : all outputs t = [] := by
  rw [houtputs]
  rfl

section Phases

variable {R : Session → Session → Prop} (hR : Frame R) (env : Env) (link : Link)
include hR

theorem Link.keeps_ensureValid : Keeps R (link.ensureValid env) := (keeps_ofCause hR _).within _

omit link in
theorem keeps_collect (r : CollectionRequest) :
    Keeps R (.within .collecting <| .during .collectLibraries <| .ofCollaborator (env.collector r)) :=
  ((keeps_ofCause hR _).during hR _).within _

theorem Link.keeps_outputLibrary? (members : List Artifact) : Keeps R (link.outputLibrary? env members) := by
  unfold Link.outputLibrary?
  split
  · exact keeps_pure hR _
  · dsimp only
    split
    · split
      · exact keeps_pure hR _
      · exact (keeps_createSharedBackends hR env _ _ _).bind hR fun _ => (keeps_ofCause hR _).map hR _
    · exact keeps_pure hR _

theorem Link.keeps_planBackends : Keeps R (link.planBackends env) :=
  ((link.keeps_ensureValid hR env).bind hR fun _ =>
    (((keeps_ofCause hR _).bind hR fun _ => keeps_ofCause hR _).within _).bind hR fun _ =>
      (keeps_declare hR _).bind hR fun _ => keeps_pure hR _).during hR _

/-- An assembly without linkstamps registers nothing. -/
theorem Link.keeps_assemble_of_no_linkstamps {r : ActionRequest} (hr : r.linkstampOutputs = .empty) :
    Keeps R (link.assemble env r) := by
  refine (keeps_collect hR env _).bind hR fun c => ?_
  dsimp only
  rw [LinkstampCompile.all_of_no_linkstamps hr]
  exact (keeps_pure hR ()).bind hR fun _ => keeps_pure hR _

theorem BackendPlan.keeps_assembleIndexing (p : BackendPlan) : Keeps R (p.assembleIndexing env) := by
  unfold BackendPlan.assembleIndexing
  cases p.link.linkType.indexAction? with
  | none => exact keeps_ofCause hR _
  | some actionName =>
      exact (keeps_ofCause hR _).bind hR fun _ => (keeps_declare hR _).bind hR fun _ =>
        (keeps_declare hR _).bind hR fun _ => (p.link.keeps_assemble_of_no_linkstamps hR env rfl).bind hR
          fun _ => keeps_pure hR _

theorem BackendPlan.keeps_planIndexing (p : BackendPlan) : Keeps R (p.planIndexing env) := by
  unfold BackendPlan.planIndexing
  split
  · exact (((p.keeps_assembleIndexing hR env).within _).map hR _).during hR _
  · exact keeps_pure hR _

end Phases

/-! ### Whole runs within a frame -/

section Runs

variable {R : Session → Session → Prop} (hR : Frame R) (env : Env) (hregister : ∀ c, Keeps R (register env c))
  (link : Link)
include hR hregister

theorem Link.keeps_assemble (r : ActionRequest) : Keeps R (link.assemble env r) := by
  refine (keeps_collect hR env _).bind hR fun c => ?_
  have hcompiles : ∀ compiles, Keeps R (Link.compileLinkstamps env compiles) := by
    intro compiles
    unfold Link.compileLinkstamps
    split
    · exact keeps_pure hR ()
    · exact (keeps_forM hR hregister compiles).during hR _
  exact (hcompiles _).bind hR fun _ => keeps_pure hR _

theorem Link.keeps_planFinal (decision : Option LtoDecision) (mapping : BitcodeMapping) (backends : List Backend)
    (indexing : Option IndexingOutputs) : Keeps R (link.planFinal env decision mapping backends indexing) := by
  refine Keeps.during hR ((keeps_declare hR _).bind hR fun _ => ?_) _
  refine (link.keeps_outputLibrary? hR env _).bind hR fun _ => ?_
  exact ((link.keeps_assemble hR env hregister _).within _).bind hR fun _ => keeps_pure hR _

theorem Link.keeps_plan : Keeps R (link.plan env) :=
  ((link.keeps_ensureValid hR env).bind hR fun _ => link.keeps_planFinal hR env hregister _ _ _ _).during hR _

omit link in
theorem LtoPhase.keeps_plan (phase : LtoPhase) : Keeps R (phase.plan env) := by
  cases phase with
  | indexed p outputs => exact p.link.keeps_planFinal hR env hregister _ _ _ _
  | sharedBackends p => exact p.link.keeps_planFinal hR env hregister _ _ _ _

theorem Link.keeps_planWithLto : Keeps R (link.planWithLto env) :=
  (link.keeps_planBackends hR env).bind hR fun p =>
    (p.keeps_planIndexing hR env).bind hR fun phase => phase.keeps_plan hR env hregister

end Runs
end LinkPlanner
