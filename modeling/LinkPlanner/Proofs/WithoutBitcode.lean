import LinkPlanner.Proofs.Backends

/-! Links without bitcode. Planned with LTO, such a link goes through the planning of backends and past the indexing
before it comes to its final link, and it has to end where planning without LTO ends: whatever these phases do they
do for some bitcode file. Two runs are compared here step by step. Phases are timed differently on the two ways, so
of the sessions only what has been declared and registered is compared. -/

namespace LinkPlanner

/-- The same artifacts are declared and the same compiles registered, whatever phases have been timed. -/
structure Session.SameEffects (s t : Session) : Prop where
  declared_eq : s.declared = t.declared
  compiles_eq : s.compiles = t.compiles

theorem Session.SameEffects.trans {s t u : Session} (hst : s.SameEffects t) (htu : t.SameEffects u) :
    s.SameEffects u :=
  ⟨hst.declared_eq.trans htu.declared_eq, hst.compiles_eq.trans htu.compiles_eq⟩

namespace Planning

/-! ### Steps that end alike -/

/-- Two runs end alike: both fail with the same failure, or both succeed and their results are related. -/
inductive EndAlike {α β : Type} (R : α → β → Prop) :
    Except Failure α × Session → Except Failure β × Session → Prop where
  | failed {f : Failure} {s t : Session} (heffects : s.SameEffects t) : EndAlike R (.error f, s) (.error f, t)
  | succeeded {a : α} {b : β} {s t : Session} (hresults : R a b) (heffects : s.SameEffects t) :
      EndAlike R (.ok a, s) (.ok b, t)

/-- Started with the same effects, the two steps end alike. -/
def Alike {α β : Type} (R : α → β → Prop) (act : Planning α) (act' : Planning β) : Prop :=
  ∀ s t : Session, s.SameEffects t → EndAlike R (act.run s) (act'.run t)

section Steps

variable {α β γ δ : Type} {R : α → β → Prop} {S : γ → δ → Prop} {act : Planning α} {act' : Planning β}

theorem alike_pure {a : α} {b : β} (hab : R a b) : Alike R (pure a) (pure b) := fun _ _ hst => .succeeded hab hst

theorem alike_ofCause (r : Except Cause α) : Alike Eq (ofCause r) (ofCause r) := by
  intro s t hst
  rw [run_ofCause, run_ofCause]
  cases r with
  | error c => exact .failed hst
  | ok a => exact .succeeded rfl hst

theorem alike_declare (as : List (Artifact × Sharing)) : Alike Eq (declare as) (declare as) := by
  intro s t hst
  refine .succeeded rfl ⟨?_, hst.compiles_eq⟩
  change as.foldl _ s.declared = as.foldl _ t.declared
  rw [hst.declared_eq]

theorem alike_register (env : Env) (c : LinkstampCompile) : Alike Eq (register env c) (register env c) := by
  intro s t hst
  rw [run_register, run_register]
  cases env.linkstampCompiler c with
  | error reason => exact .failed hst
  | ok u => exact .succeeded rfl ⟨hst.declared_eq, congrArg (· ++ [c]) hst.compiles_eq⟩

theorem Alike.bind (hact : Alike R act act') {f : α → Planning γ} {f' : β → Planning δ}
    (hf : ∀ a b, R a b → Alike S (f a) (f' b)) : Alike S (act >>= f) (act' >>= f') := by
  intro s t hst
  have hfirst := hact s t hst
  rw [run_bind, run_bind]
  generalize act.run s = x at hfirst ⊢
  generalize act'.run t = y at hfirst ⊢
  cases hfirst with
  | failed heffects => exact .failed heffects
  | succeeded hresults heffects => exact hf _ _ hresults _ _ heffects

/-- The steps after a step that is the same on both sides. -/
theorem Alike.bind_same {act act' : Planning α} (hact : Alike Eq act act') {f : α → Planning γ}
    {f' : α → Planning δ} (hf : ∀ a, Alike S (f a) (f' a)) : Alike S (act >>= f) (act' >>= f') :=
  hact.bind fun a _ hab => hab ▸ hf a

theorem Alike.map {act act' : Planning α} (hact : Alike Eq act act') (f : α → γ) :
    Alike Eq (f <$> act) (f <$> act') := by
  rw [map_eq_pure_bind, map_eq_pure_bind]
  exact hact.bind_same fun a => alike_pure rfl

theorem Alike.within (hact : Alike R act act') (c : Circumstance) : Alike R (within c act) (within c act') := by
  intro s t hst
  have hfirst := hact s t hst
  rw [run_within, run_within]
  generalize act.run s = x at hfirst ⊢
  generalize act'.run t = y at hfirst ⊢
  cases hfirst with
  | failed heffects => exact .failed heffects
  | succeeded hresults heffects => exact .succeeded hresults heffects

/-- The timing of phases does not matter to how a run ends. -/
theorem EndAlike.retime {x : Except Failure α × Session} {y : Except Failure β × Session} (h : EndAlike R x y)
    {s t : Session} (hs : s.SameEffects x.2) (ht : y.2.SameEffects t) : EndAlike R (x.1, s) (y.1, t) := by
  cases h with
  | failed heffects => exact .failed ((hs.trans heffects).trans ht)
  | succeeded hresults heffects => exact .succeeded hresults ((hs.trans heffects).trans ht)

theorem Alike.during_left (hact : Alike R act act') (p : Phase) : Alike R (during p act) act' := fun s t hst =>
  (hact { s with depth := s.depth + 1 } t ⟨hst.declared_eq, hst.compiles_eq⟩).retime ⟨rfl, rfl⟩ ⟨rfl, rfl⟩

theorem Alike.during_right (hact : Alike R act act') (p : Phase) : Alike R act (during p act') := fun s t hst =>
  (hact s { t with depth := t.depth + 1 } ⟨hst.declared_eq, hst.compiles_eq⟩).retime ⟨rfl, rfl⟩ ⟨rfl, rfl⟩

theorem Alike.during (hact : Alike R act act') (p q : Phase) : Alike R (during p act) (during q act') :=
  (hact.during_left p).during_right q

theorem alike_forM {f : α → Planning Unit} (hf : ∀ a, Alike Eq (f a) (f a)) (as : List α) :
    Alike Eq (as.forM f) (as.forM f) := by
  induction as with
  | nil => exact alike_pure rfl
  | cons a as ih => exact (hf a).bind_same fun _ => ih

end Steps

theorem alike_createSharedBackends (env : Env) (lto : LtoContext) (objects : List Artifact) (usePic : Bool) :
    Alike Eq (createSharedBackends env lto objects usePic) (createSharedBackends env lto objects usePic) :=
  ((alike_declare _).bind_same fun _ => alike_pure rfl).during _ _

end Planning

open Planning

/-! ### The final link -/

/-- The same plan, but for the decision that it has been made under: there was none, and now there is this one.
Without bitcode nothing else about LTO is in either of them. -/
structure LinkPlan.Decided (decision : LtoDecision) (direct staged : LinkPlan) : Prop where
  undecided : direct.ltoDecision = none
  staged_eq : staged = { direct with ltoDecision := some decision }
  noBackends : direct.ltoBackends = []
  emptyMapping : direct.bitcodeMapping = {}
  notIndexed : direct.ltoIndexing = none

namespace Link

variable (env : Env) (link : Link)

theorem alike_outputLibrary? (members : List Artifact) :
    Alike Eq (link.outputLibrary? env members) (link.outputLibrary? env members) := by
  unfold outputLibrary?
  split
  · exact alike_pure rfl
  · dsimp only
    split
    · split
      · exact alike_pure rfl
      · exact (alike_createSharedBackends env _ _ _).bind_same fun _ => (alike_ofCause _).map _
    · exact alike_pure rfl

theorem alike_assemble (r : ActionRequest) : Alike Eq (link.assemble env r) (link.assemble env r) := by
  refine (((alike_ofCause _).during _ _).within _).bind_same fun c => ?_
  have hcompiles : ∀ compiles, Alike Eq (compileLinkstamps env compiles) (compileLinkstamps env compiles) := by
    intro compiles
    unfold compileLinkstamps
    split
    · exact alike_pure rfl
    · exact (alike_forM (alike_register env) compiles).during _ _
  exact (hcompiles _).bind_same fun _ => alike_pure rfl

/-- A decision against indexing asks no more of the final link than none does. -/
theorem finalRequest_of_not_allowIndexing (build : Build) {decision : LtoDecision}
    (hallow : decision.allowIndexing = false) (mapping : BitcodeMapping) (indexing : Option IndexingOutputs)
    (linkstampOutputs : LinkstampOutputs) :
    link.finalRequest build (some decision) mapping indexing linkstampOutputs =
      link.finalRequest build none mapping indexing linkstampOutputs := by
  unfold finalRequest
  rw [Option.any_some, hallow]
  rfl

theorem alike_planFinal {decision : LtoDecision} (hallow : decision.allowIndexing = false) :
    Alike (LinkPlan.Decided decision) (link.planFinal env none {} [] none)
      (link.planFinal env (some decision) {} [] none) := by
  unfold planFinal
  dsimp only
  rw [link.finalRequest_of_not_allowIndexing env.toBuild hallow]
  refine Alike.during ((alike_declare _).bind_same fun _ => ?_) _ _
  refine (link.alike_outputLibrary? env _).bind_same fun outputLibrary => ?_
  refine ((link.alike_assemble env _).within _).bind_same fun (action, compiles) => ?_
  exact alike_pure ⟨rfl, rfl, rfl, rfl, rfl⟩

end Link

/-! ### Backends -/

theorem LtoContext.isBitcode_of_isEmpty {lto : LtoContext} (hempty : lto.isEmpty = true) (a : Artifact) :
    lto.isBitcode a = false := by
  unfold isBitcode OrderedMap.contains
  rw [List.isEmpty_iff.1 hempty]
  rfl

namespace Link

/-- What there is to say about the backends of a link that has no bitcode. -/
def unbacked (env : Env) (link : Link) : BackendPlan where
  link := link
  decision := (link.ltoFacts env.features).decide
  roots := link.ltoRoots env.features (link.ltoFacts env.features).decide
  backends := .empty
  mapping := {}

variable {link : Link} (hnone : link.hasBitcode = false)
include hnone

theorem isEmpty_of_not_hasBitcode : link.lto.isEmpty = true ∧ ∀ l ∈ link.libraries.toList, l.lto.isEmpty = true := by
  unfold hasBitcode LinkPlanner.hasBitcode at hnone
  obtain ⟨hown, hlibraries⟩ := Bool.or_eq_false_iff.1 hnone
  rw [Bool.not_eq_eq_eq_not, Bool.not_false] at hown
  refine ⟨hown, fun l hl => ?_⟩
  have hlibrary := List.any_eq_false.1 hlibraries l hl
  rwa [Bool.not_eq_true, Bool.not_eq_eq_eq_not, Bool.not_false] at hlibrary

theorem bitcodeMembers_of_not_hasBitcode : link.bitcodeMembers = [] := by
  refine List.eq_nil_iff_forall_not_mem.2 fun (l, m) hmem => ?_
  obtain ⟨-, -, k, hk, hbitcode⟩ := mem_bitcodeMembers.1 hmem
  rw [LtoContext.isBitcode_of_isEmpty ((isEmpty_of_not_hasBitcode hnone).2 k hk)] at hbitcode
  cases hbitcode

theorem ownBackends_of_not_hasBitcode (build : Build) (decision : LtoDecision) (roots : LtoRoots)
    (files : BitcodeFiles) : link.ownBackends build decision roots files = [] := by
  refine List.eq_nil_iff_forall_not_mem.2 fun b hb => ?_
  obtain ⟨o, -, hbitcode, -⟩ := mem_ownBackends.1 hb
  rw [LtoContext.isBitcode_of_isEmpty (isEmpty_of_not_hasBitcode hnone).1] at hbitcode
  cases hbitcode

theorem memberBackends_of_not_hasBitcode (build : Build) (decision : LtoDecision) (roots : LtoRoots)
    (files : BitcodeFiles) : link.memberBackends build decision roots files = .ok [] := by
  unfold memberBackends
  rw [bitcodeMembers_of_not_hasBitcode hnone]
  rfl

theorem checkRoots_of_not_hasBitcode (decision : LtoDecision) (roots : LtoRoots) :
    (link.bitcodeFiles decision).checkRoots roots = .ok () := by
  have hempty : (link.bitcodeFiles decision).toList = [] := by
    have hown : link.objects.toList.filter (link.lto.isBitcode ·.artifact) = [] :=
      List.filter_eq_nil_iff.2 fun o _ => Bool.eq_false_iff.1
        (LtoContext.isBitcode_of_isEmpty (isEmpty_of_not_hasBitcode hnone).1 o.artifact)
    rw [bitcodeFiles_eq, bitcodeMembers_of_not_hasBitcode hnone, hown, List.map_nil, List.map_nil, ite_self]
    rfl
  unfold BitcodeFiles.checkRoots
  rw [hempty]
  rfl

theorem not_allowIndexing_of_not_hasBitcode (features : Features) :
    (link.ltoFacts features).decide.allowIndexing = false := by
  change (link.hasBitcode && _) = false
  rw [hnone, Bool.false_and]

/-- Nothing comes of backend planning that the check of the link has not come to. -/
theorem alike_planBackends (env : Env) :
    Alike (fun _ p => p = link.unbacked env) (link.ensureValid env) (link.planBackends env) := by
  rw [← bind_pure (link.ensureValid env)]
  refine Alike.during_right (Alike.bind_same ((alike_ofCause _).within _) fun _ => ?_) _
  dsimp only
  rw [checkRoots_of_not_hasBitcode hnone, memberBackends_of_not_hasBitcode hnone, ownBackends_of_not_hasBitcode hnone]
  intro s t hst
  unfold unbacked
  cases (link.ltoFacts env.features).decide.includeStatic <;> exact .succeeded rfl hst

end Link

/-- Without bitcode it makes no difference to a link whether it is planned with LTO: both ways fail with the same
failure, or both yield the same plan but for the decision, and they bring about the same on the way. -/
theorem Link.planWithLto_without_bitcode (env : Env) {link : Link} (hnone : link.hasBitcode = false) (s : Session) :
    EndAlike (LinkPlan.Decided (link.ltoFacts env.features).decide) ((link.plan env).run s)
      ((link.planWithLto env).run s) := by
  have hallow := not_allowIndexing_of_not_hasBitcode hnone env.features
  refine Alike.during_left ((alike_planBackends hnone env).bind fun _ p hp => ?_) _ s s ⟨rfl, rfl⟩
  subst hp
  have hphase : (link.unbacked env).planIndexing env = pure (.sharedBackends (link.unbacked env)) :=
    if_neg (Bool.eq_false_iff.1 hallow)
  rw [hphase, pure_bind]
  exact link.alike_planFinal env hallow

namespace Sample

/-- The executable over a library of native objects, with a linkstamp. -/
def nativeLink : Link :=
  { link (env []) ["app/main.o"] [] with
    libraries := .ofList [{ library (env []) with lto := {}, sharedBackends := none }]
    linkstamps := .ofList [{ source := .source (.ofString "stamp/version.cc") }] }

/-- Its linkstamp is compiled either way. -/
theorem native_link_planned_alike :
    nativeLink.hasBitcode = false ∧ ∃ direct staged s t,
      (nativeLink.plan (env [])).run {} = (.ok direct, s) ∧
        (nativeLink.planWithLto (env [])).run {} = (.ok staged, t) ∧
        direct.linkstampCompiles.map (·.output.text) = ["bin/app/_objs/app/stamp/version.o"] ∧
        LinkPlan.Decided ⟨true, false⟩ direct staged ∧ s.SameEffects t := by
  have hnone : nativeLink.hasBitcode = false := by decide +kernel
  have hdecision : (nativeLink.ltoFacts (env []).features).decide = ⟨true, false⟩ := by decide +kernel
  obtain ⟨direct, s, hdirect, hcompiles⟩ := exists_run_of_check (nativeLink.plan (env [])) {}
    (fun plan => plan.linkstampCompiles.map (·.output.text) = ["bin/app/_objs/app/stamp/version.o"])
    (by decide +kernel)
  have halike := Link.planWithLto_without_bitcode (env []) hnone {}
  rw [hdirect, hdecision] at halike
  generalize (nativeLink.planWithLto (env [])).run {} = y at halike ⊢
  cases halike with
  | succeeded hresults heffects =>
      exact ⟨hnone, direct, _, s, _, hdirect, rfl, of_decide_eq_true hcompiles, hresults, heffects⟩

end Sample
end LinkPlanner
