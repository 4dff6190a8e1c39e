import LinkPlanner.Proofs.LinkstampInputs
import LinkPlanner.Proofs.LinkstampObjects
import LinkPlanner.Proofs.RequestFailures
import LinkPlanner.Proofs.UniqueBackends

/-! What the actions of a plan hand to each other. Backends, the indexing step and the final link name the files
between them alike, so what one of them expects another one makes. The objects of linkstamps are named after their
sources, and the spelling of a source can tell where the compile and the link disagree. -/

namespace LinkPlanner

/-! ### Closed plans -/

namespace LinkPlan

/-- The indexing step writes just what unique backends and the final link take from it. -/
structure HandsOver (plan : LinkPlan) (action : LinkAction) (paramFile mergedObject : Artifact) : Prop where
  paramFile_named : action.commandLine.linkVariables.thinltoIndexingParamFile = some paramFile ∧
    plan.action.commandLine.linkVariables.thinltoParamFile = some paramFile
  mergedObject_named : action.commandLine.linkVariables.thinltoMergedObjectFile = some mergedObject
  written_iff : ∀ a, action.outputs.contains a = true ↔
    (∃ b ∈ plan.ltoBackends, ∃ index imports, b.sharing = .unique index imports ∧
      ((index == a) = true ∨ (imports == a) = true)) ∨ (paramFile == a) = true ∨ (mergedObject == a) = true
  backend_reads : ∀ b ∈ plan.ltoBackends, b.isShared = false → ∀ a ∈ b.compile.inputs.toList,
    a = b.bitcodeFile ∨ action.outputs.contains a = true
  paramFile_read : plan.action.inputs.contains paramFile = true
  mergedObject_read : plan.action.inputs.contains mergedObject = true
  mergedObject_listed : .objectFile mergedObject ∈ plan.action.commandLine.linkVariables.librariesToLink

/-- Unique backends, the indexing step and the final link go together, and everything that stands for bitcode is
made. -/
structure BackendsClosed (plan : LinkPlan) : Prop where
  indexed_iff : plan.ltoIndexing.isSome = true ↔ ∃ b ∈ plan.ltoBackends, b.isShared = false
  handsOver : ∀ action ∈ plan.ltoIndexing, ∃ paramFile mergedObject, plan.HandsOver action paramFile mergedObject
  mapped : ∀ o ∈ plan.bitcodeMapping.objects.values, ∃ b ∈ plan.ltoBackends, b.compile.outputs.contains o = true

end LinkPlan

/-! ### Backends -/

namespace Backend

variable {build : Build} {roots : LtoRoots} {allowed : Option BitcodeFiles} {usePic : Bool} {bitcode : Artifact}
  {copts : List String}

theorem outputs_create_contains :
    (create build roots allowed usePic bitcode copts).compile.outputs.contains
      (create build roots allowed usePic bitcode copts).objectFile = true :=
  OrderedSet.contains_ofList_of_mem List.mem_cons_self

theorem of_mem_inputs_create {a : Artifact}
    (ha : a ∈ (create build roots allowed usePic bitcode copts).compile.inputs.toList) :
    a = bitcode ∨ a ∈ (create build roots allowed usePic bitcode copts).sharing.indexingOutputs :=
  List.mem_cons.1 (OrderedSet.mem_of_mem_ofList ha)

end Backend

theorem BackendSharing.mem_indexingOutputs {s : BackendSharing} {a : Artifact} :
    a ∈ s.indexingOutputs ↔ ∃ index imports, s = .unique index imports ∧ (a = index ∨ a = imports) := by
  cases s with
  | shared => simp [indexingOutputs]
  | unique index imports => simp [indexingOutputs]

namespace BackendPlan

variable {env : Env} {p : BackendPlan}

/-- All backends of a plan are put together in one way. -/
theorem Planned.exists_create (hp : p.Planned env p.link) (hmade : p.link.SharedBackendsMade) {b : Backend}
    (hb : b ∈ p.backends.toList) :
    ∃ build roots allowed usePic bitcode copts, b = .create build roots allowed usePic bitcode copts := by
  cases hp.origin hb with
  | newMember hmem hinclude => exact ⟨_, _, _, _, _, _, rfl⟩
  | sharedMember hmem hinclude hshared =>
      obtain ⟨build, usePic, bitcode, copts, -, heq⟩ :=
        made_of_requireSharedBackend hmade (Link.mem_bitcodeMembers.1 hmem).1 hshared
      exact ⟨_, _, _, _, _, _, heq⟩
  | own hobject hbitcode => exact ⟨_, _, _, _, _, _, rfl⟩

end BackendPlan

/-! ### Recorded bitcode -/

theorem LtoContext.Within.ofList {lto : LtoContext} {as : List Artifact} (h : lto.Within as) :
    lto.Within (OrderedSet.ofList as).toList := by
  intro bitcode hbitcode
  obtain ⟨a, ha, hab⟩ := h bitcode hbitcode
  obtain ⟨x, hx, hxa⟩ := OrderedSet.exists_of_mem_ofList ha
  exact ⟨x, hx, BEq.trans hxa hab⟩

theorem LtoContext.Within.exists_isBitcode {lto : LtoContext} {as : List Artifact} (h : lto.Within as)
    (hsome : (!lto.isEmpty) = true) : ∃ a ∈ as, lto.isBitcode a = true := by
  cases hentries : lto.bitcode.entries with
  | nil =>
      unfold isEmpty OrderedMap.isEmpty at hsome
      rw [hentries] at hsome
      cases hsome
  | cons e rest =>
      have he : e ∈ lto.bitcode.entries := hentries ▸ List.mem_cons_self
      obtain ⟨a, ha, hab⟩ := h e.1 (List.mem_map_of_mem he)
      exact ⟨a, ha, OrderedMap.contains_iff.2 ⟨e, he, BEq.symm hab⟩⟩

/-- What is recorded as bitcode for the link is among its objects, and what is recorded for a library among the
members of that library. -/
structure Link.RecordsOwn (link : Link) : Prop where
  own : link.lto.Within (link.objects.toList.map (·.artifact))
  library : ∀ l ∈ link.libraries.toList, l.lto.Within l.objects.toList

/-- A link that is to be indexed has something to index. -/
theorem BackendPlan.Planned.exists_unique {env : Env} {p : BackendPlan} (hp : p.Planned env p.link)
    (hmade : p.link.SharedBackendsMade) (hrecords : p.link.RecordsOwn) (hallow : p.decision.allowIndexing = true) :
    ∃ b, b ∈ p.uniqueBackends := by
  have hown : (!p.link.lto.isEmpty) = true →
      (p.link.objects.toList.filter (p.link.lto.isBitcode ·.artifact)).map (·.artifact) ≠ [] := by
    intro hsome
    obtain ⟨a, ha, hbitcode⟩ := hrecords.own.exists_isBitcode hsome
    obtain ⟨o, ho, rfl⟩ := List.mem_map.1 ha
    exact List.ne_nil_of_mem (List.mem_map_of_mem (List.mem_filter.2 ⟨ho, hbitcode⟩))
  suffices h : p.files.toList ≠ [] by
    rw [← hp.files_of_allow hallow hmade, Ne, List.map_eq_nil_iff] at h
    exact List.exists_mem_of_ne_nil _ h
  unfold files
  rw [Link.bitcodeFiles_eq, Ne, OrderedSet.toList_ofList_eq_nil_iff, List.append_eq_nil_iff]
  rintro ⟨hmembers, hobjects⟩
  have hnone : (!p.link.lto.isEmpty) = false := Bool.eq_false_iff.2 fun hsome => hown hsome hobjects
  rw [hp.decision_eq] at hallow hmembers
  change ((!p.link.lto.isEmpty || p.link.libraries.toList.any (!·.lto.isEmpty)) &&
    ((LtoFacts.decide _).includeStatic || (_ && !p.link.lto.isEmpty))) = true at hallow
  rw [hnone, Bool.false_or, Bool.and_false, Bool.or_false, Bool.and_eq_true, List.any_eq_true] at hallow
  obtain ⟨⟨l, hl, hsome⟩, hinclude⟩ := hallow
  obtain ⟨m, hm, hbitcode⟩ := (hrecords.library l hl).exists_isBitcode hsome
  have hmem : (l, m) ∈ p.link.bitcodeMembers := Link.mem_bitcodeMembers.2 ⟨hl, hm, l, hl, hbitcode⟩
  rw [if_pos hinclude, List.map_eq_nil_iff] at hmembers
  exact List.ne_nil_of_mem hmem hmembers

/-! ### The final link of an indexed build -/

/-- The merged object comes after the own objects, none of which has its name. -/
theorem Link.objects_finalAssembly_of_apart {build : Build} {link : Link} {plan : LinkPlan} {s : PlanStep}
    {outputs : IndexingOutputs} (hapart : link.GivenApart build plan) (hs : s ∈ plan.innerSteps)
    (hwrites : s.Writes outputs.mergedObject) {decision : Option LtoDecision} {mapping : BitcodeMapping} :
    (link.finalAssembly build decision mapping (some outputs)).objects.toList =
      link.objects.toList ++ [.ofArtifact outputs.mergedObject] := by
  refine OrderedSet.toList_insertAll_of_apart fun o ho => ?_
  rw [List.mem_singleton.1 ho]
  refine Bool.eq_false_iff.2 fun hcontains => ?_
  obtain ⟨q, hq, hqo⟩ := OrderedSet.contains_iff.1 hcontains
  exact hapart.not_writes ((Link.gives_object hq).congr hqo) hs hwrites

namespace LinkPlan.Layout

variable {env : Env} {link : Link} {roots : LtoRoots} {indexing : Option IndexingOutputs} {c : Collection}
  {plan : LinkPlan} {outputs : IndexingOutputs}

/-- The merged object is one more object of the final link. -/
theorem mergedObject_mem_objects (hlayout : plan.Layout env link roots indexing c)
    (hapart : link.GivenApart env.toBuild plan) (houtputs : indexing = some outputs) {decision : Option LtoDecision}
    {mapping : BitcodeMapping} :
    .ofArtifact outputs.mergedObject ∈ (link.finalAssembly env.toBuild decision mapping indexing).objects.toList := by
  subst houtputs
  rw [Link.objects_finalAssembly_of_apart hapart (hlayout.indexing_mem_innerSteps rfl)
    (hlayout.serves outputs rfl).mergedObject]
  exact List.mem_append_right _ List.mem_cons_self

/-- Nothing else stands for the merged object, so the final link reads it and lists it. -/
theorem mergedObject_linked (hlayout : plan.Layout env link roots indexing c) (hcollect : env.CollectsAsUsual)
    (hapart : link.GivenApart env.toBuild plan) (houtputs : indexing = some outputs) :
    plan.action.inputs.contains outputs.mergedObject = true ∧
      .objectFile outputs.mergedObject ∈ plan.action.commandLine.linkVariables.librariesToLink := by
  have hnot := hlayout.not_mapped_of_written hapart (hlayout.indexing_mem_innerSteps houtputs)
    (hlayout.serves outputs houtputs).mergedObject
  obtain ⟨decision, hmade⟩ := hlayout.made
  have hinput : LinkerInput.object (.ofArtifact outputs.mergedObject) ∈
      link.linkerInputs (link.finalAssembly env.toBuild decision (.ofBackends plan.ltoBackends) indexing) :=
    Link.mem_linkerInputs.2 (Or.inl ⟨_, hlayout.mergedObject_mem_objects hapart houtputs, rfl⟩)
  rw [hmade.action_eq]
  constructor
  · obtain ⟨i, hi, hia⟩ := hcollect.collectsInputs.keeps _ c hmade.collected _ hinput
    exact Link.allInputs_contains_of_baseInputs (Link.baseInputs_contains_unmapped hi hia hnot)
  · rw [Link.librariesToLink_action, hcollect _ c hmade.collected, CollectionRequest.mem_librariesToLink]
    exact ⟨_, hinput, CollectionRequest.list_object_of_unmapped hnot⟩

theorem paramFile_read (hlayout : plan.Layout env link roots indexing c) (houtputs : indexing = some outputs) :
    plan.action.inputs.contains outputs.paramFile = true := by
  subst houtputs
  obtain ⟨decision, hmade⟩ := hlayout.made
  rw [hmade.action_eq]
  refine Link.allInputs_contains_of_baseInputs (Link.baseInputs_contains_of_nonCodeInputs ?_)
  change (link.nonCodeInputs.insertAll [outputs.paramFile]).contains outputs.paramFile = true
  rw [OrderedSet.contains_insertAll, Bool.or_eq_true, List.any_eq_true]
  exact Or.inr ⟨_, List.mem_singleton_self _, BEq.rfl⟩

end LinkPlan.Layout

/-! ### Plans -/

namespace BackendPlan

variable {env : Env} {p : BackendPlan} {plan : LinkPlan}

/-- What the indexing step writes: two files for each unique backend, and two for the final link. -/
theorem contains_indexingOutputs {build : Build} {a : Artifact} :
    (p.indexingOutputs build).contains a = true ↔
      (∃ b ∈ p.backends.toList, ∃ index imports, b.sharing = .unique index imports ∧
        ((index == a) = true ∨ (imports == a) = true)) ∨
          (p.paramFile build == a) = true ∨ (p.mergedObject build == a) = true := by
  unfold indexingOutputs
  rw [OrderedSet.contains_ofList, List.any_eq_true]
  simp only [List.mem_append, List.mem_flatMap, BackendSharing.mem_indexingOutputs, List.mem_cons, List.not_mem_nil,
    or_false]
  constructor
  · rintro ⟨x, ⟨b, hb, index, imports, heq, rfl | rfl⟩ | rfl | rfl, hxa⟩
    · exact Or.inl ⟨b, hb, x, imports, heq, Or.inl hxa⟩
    · exact Or.inl ⟨b, hb, index, x, heq, Or.inr hxa⟩
    · exact Or.inr (Or.inl hxa)
    · exact Or.inr (Or.inr hxa)
  · rintro (⟨b, hb, index, imports, heq, ha | ha⟩ | ha | ha)
    · exact ⟨index, Or.inl ⟨b, hb, index, imports, heq, Or.inl rfl⟩, ha⟩
    · exact ⟨imports, Or.inl ⟨b, hb, index, imports, heq, Or.inr rfl⟩, ha⟩
    · exact ⟨_, Or.inr (Or.inl rfl), ha⟩
    · exact ⟨_, Or.inr (Or.inr rfl), ha⟩

theorem Planned.handsOver (hp : p.Planned env p.link) (hmade : p.link.SharedBackendsMade)
    (hbackends : plan.ltoBackends = p.backends.toList) {outputs : IndexingOutputs}
    (houtputs : (p.assembleIndexing env).Yields outputs) (hcollect : env.CollectsAsUsual) {c : Collection}
    (hlayout : plan.Layout env p.link p.roots (some outputs) c) (hapart : p.link.GivenApart env.toBuild plan) :
    plan.HandsOver outputs.action outputs.paramFile outputs.mergedObject := by
  obtain ⟨actionName, libraries, d, -, -, haction, hparam, hmerged⟩ := indexing_of_yields houtputs
  have hwritten : outputs.action.outputs = p.indexingOutputs env.toBuild := by
    rw [haction]
    rfl
  obtain ⟨hread, hlisted⟩ := hlayout.mergedObject_linked hcollect hapart rfl
  refine ⟨⟨?_, ?_⟩, ?_, fun a => ?_, fun b hb hunique a ha => ?_, hlayout.paramFile_read rfl, hread, hlisted⟩
  · rw [haction, hparam]
    rfl
  · obtain ⟨decision, hmade⟩ := hlayout.made
    rw [hmade.action_eq]
    rfl
  · rw [haction, hmerged]
    rfl
  · rw [hwritten, contains_indexingOutputs, hbackends, hparam, hmerged]
  · have hwrites := (hlayout.serves outputs rfl).indexFiles b hb
    rw [hbackends] at hb
    obtain ⟨build, roots, allowed, usePic, bitcode, copts, rfl⟩ := hp.exists_create hmade hb
    exact (Backend.of_mem_inputs_create ha).imp_right fun ha => OrderedSet.contains_iff.2 (hwrites a ha)

/-- The phases of a link with LTO fit together if what is recorded for the link and its libraries is theirs. -/
theorem Planned.backendsClosed (hp : p.Planned env p.link) {phase : LtoPhase}
    (hphase : (p.planIndexing env).Yields phase) (hfinal : (phase.plan env).Yields plan)
    (hcollect : env.CollectsAsUsual) (hmade : p.link.SharedBackendsMade) (hrecords : p.link.RecordsOwn)
    (hapart : p.link.GivenApart env.toBuild plan) : plan.BackendsClosed := by
  obtain ⟨indexing, c, hindexes, hbackends, hmapping, hlayout⟩ :=
    layout_of_yields hp hcollect.collectsInputs hphase hfinal
  refine ⟨?_, fun action haction => ?_, fun o ho => ?_⟩
  · have hunique : (∃ b ∈ plan.ltoBackends, b.isShared = false) ↔ ∃ b, b ∈ p.uniqueBackends := by
      simp only [hbackends, mem_uniqueBackends]
    rw [hlayout.indexing_eq, Option.isSome_map, hunique]
    cases hindexes with
    | indexed hallow houtputs => exact iff_of_true rfl (hp.exists_unique hmade hrecords hallow)
    | notIndexed hallow =>
        refine iff_of_false Bool.false_ne_true fun ⟨b, hb⟩ => ?_
        rw [(hp.allowed_of_unique (hmade.borrowsShared env) hb).1] at hallow
        cases hallow
  · rw [hlayout.indexing_eq] at haction
    obtain ⟨outputs, rfl, rfl⟩ := Option.map_eq_some_iff.1 haction
    cases hindexes with
    | indexed hallow houtputs => exact ⟨_, _, hp.handsOver hmade hbackends houtputs hcollect hlayout hapart⟩
  · rw [hmapping, hp.mapping_eq] at ho
    obtain ⟨b, hb, rfl⟩ := BitcodeMapping.mem_values_ofBackends ho
    obtain ⟨build, roots, allowed, usePic, bitcode, copts, heq⟩ := hp.exists_create hmade hb
    refine ⟨b, hbackends ▸ hb, ?_⟩
    rw [heq]
    exact Backend.outputs_create_contains

end BackendPlan

theorem Link.backendsClosed_of_yields {env : Env} {link : Link} {plan : LinkPlan} (hplan : link.Yields env plan)
    (hcollect : env.CollectsAsUsual) (hmade : link.SharedBackendsMade) (hrecords : link.RecordsOwn)
    (hapart : link.GivenApart env.toBuild plan) : plan.BackendsClosed := by
  rcases hplan with hplan | hplan
  · -- without LTO there are no backends and nothing is indexed
    obtain ⟨-, -, hfinal⟩ := hplan.during.bind
    obtain ⟨-, hindexing, hbackends, hmapping⟩ := Link.planned_of_yields hfinal
    refine ⟨?_, fun action haction => ?_, fun o ho => ?_⟩
    · simp [hindexing, hbackends]
    · rw [hindexing] at haction
      cases haction
    · rw [hmapping] at ho
      cases ho
  · obtain ⟨p, phase, rfl, hp, hphase, hfinal⟩ := Link.planned_phases_of_yields hplan
    exact hp.backendsClosed hphase hfinal hcollect hmade hrecords hapart

/-! ### Linkstamps -/

theorem Artifact.execPath_source (p : Path) : (source p).execPath = p := by
  unfold execPath Path.join
  change (if p.isAbsolute then p else ⟨p.chars⟩) = p
  split <;> rfl

/-- One source in two spellings has one object, unless its file name is two dots and an extension. -/
theorem Linkstamp.outputPath_congr {output p q : Path} (hpq : (p == q) = true)
    (hstem : ∀ name ∈ p.fileName?, Path.stem name ≠ ['.']) : (outputPath output p == outputPath output q) = true :=
  Path.join_congr _ (Path.withExtension_congr hpq hstem (by decide))

/-! ### Requests -/

namespace LinkRequest

variable {r : LinkRequest}

theorem eq_wholeLink_of_yields {link : Link} (h : r.link.Yields link) : link = r.wholeLink := by
  rcases r.link_settled with ⟨-, -, hsettles⟩ | ⟨o, -, -, hsettles⟩ | ⟨l, -, -, hsettles⟩
  · exact (Except.ok.inj (hsettles.eq_of_yields h)).symm
  · cases hsettles.eq_of_yields h
  · cases hsettles.eq_of_yields h

theorem wholeLink_yields {plan : LinkPlan} (h : r.plan.Yields plan) : r.wholeLink.Yields r.env plan := by
  obtain ⟨link, hlink, hplan⟩ := h.during.bind
  rw [eq_wholeLink_of_yields hlink.within] at hplan
  split at hplan
  · exact Or.inr hplan
  · exact Or.inl hplan

variable (r)

theorem libraries_wholeLink : r.wholeLink.libraries = .ofList r.libraryInputs := by
  unfold wholeLink
  rw [foldl_withLibrary, foldl_withObject]
  rfl

theorem linkstamps_wholeLink : r.wholeLink.linkstamps = r.emptyLink.linkstamps := by
  unfold wholeLink
  rw [foldl_withLibrary, foldl_withObject]

theorem exists_libraryRequest {l : LibraryInput} (hl : l ∈ r.wholeLink.libraries.toList) :
    ∃ q ∈ r.libraries, l = q.settled r.build r.target.usePicForLtoBackends := by
  rw [libraries_wholeLink] at hl
  obtain ⟨q, hq, rfl⟩ := List.mem_map.1 (OrderedSet.mem_of_mem_ofList hl)
  exact ⟨q, hq, rfl⟩

theorem sharedBackendsMade_wholeLink : r.wholeLink.SharedBackendsMade := by
  intro l hl m hm
  obtain ⟨q, -, rfl⟩ := r.exists_libraryRequest hl
  unfold LibraryRequest.settled at hm
  dsimp only at hm
  split at hm
  · cases hm
    exact SharedBackends.made_createShared _ _ _ _
  · cases hm

theorem recordsOwn_wholeLink : r.wholeLink.RecordsOwn := by
  refine ⟨r.within_wholeLink, fun l hl => ?_⟩
  obtain ⟨q, -, rfl⟩ := r.exists_libraryRequest hl
  exact (ObjectRequest.within_ltoContext r.build q.objects).ofList

theorem collectsAsUsual_env : r.env.CollectsAsUsual := by
  intro request c h
  cases h
  rfl

variable {r}

theorem exists_linkstampRequest {l : Linkstamp} (hl : l ∈ r.wholeLink.linkstamps.toList) :
    ∃ s ∈ r.linkstamps, l.source = .source s.source := by
  rw [linkstamps_wholeLink] at hl
  obtain ⟨s, hs, rfl⟩ := List.mem_map.1 (OrderedSet.mem_of_mem_ofList hl)
  exact ⟨s, hs, rfl⟩

/-- Every linkstamp of a request has the object of the first one of its source, if no source is named by two dots and
an extension. -/
theorem linkstampObject_of_first (hnames : ∀ s ∈ r.linkstamps, ∀ name ∈ s.source.fileName?, Path.stem name ≠ ['.'])
    {l : Linkstamp} (hl : l ∈ r.wholeLink.linkstamps.toList) :
    ∃ k, r.wholeLink.FirstOfSource k ∧
      (r.wholeLink.linkstampObject r.build k == r.wholeLink.linkstampObject r.build l) = true := by
  obtain ⟨k, hk, hkl⟩ := Link.exists_firstOfSource hl
  obtain ⟨s, hs, hks⟩ := exists_linkstampRequest hk.mem
  obtain ⟨t, ht, hlt⟩ := exists_linkstampRequest hl
  rw [hks, hlt, Artifact.execPath_source, Artifact.execPath_source] at hkl
  refine ⟨k, hk, Artifact.beq_iff.2 ⟨BEq.rfl, ?_, rfl⟩⟩
  change (Linkstamp.outputPath _ k.source.path == Linkstamp.outputPath _ l.source.path) = true
  rw [hks, hlt]
  exact Linkstamp.outputPath_congr hkl (hnames s hs)

/-- A plan of a request that gives no file under a name that the planner derives has an indexing step exactly if it
has a unique backend, the step and the backends and the final link hand to each other what they expect, and whatever
stands for bitcode is made. The objects of linkstamps are made exactly if each is that of the first linkstamp of some
source, and so they are if no source is named by two dots and an extension. -/
theorem plan_closed {plan : LinkPlan} (hplan : r.plan.Yields plan) (hapart : r.wholeLink.GivenApart r.build plan) :
    plan.BackendsClosed ∧
      (plan.StampsClosed r.build r.wholeLink ↔
        ∀ l ∈ r.wholeLink.linkstamps.toList, ∃ k, r.wholeLink.FirstOfSource k ∧
          (r.wholeLink.linkstampObject r.build k == r.wholeLink.linkstampObject r.build l) = true) ∧
      ((∀ s ∈ r.linkstamps, ∀ name ∈ s.source.fileName?, Path.stem name ≠ ['.']) →
        plan.StampsClosed r.build r.wholeLink) := by
  have hyields := wholeLink_yields hplan
  have hbackends := Link.backendsClosed_of_yields hyields r.collectsAsUsual_env r.sharedBackendsMade_wholeLink
    r.recordsOwn_wholeLink
  have hstamps := LinkPlan.stampsClosed_iff hyields
  rw [show r.env.toBuild = r.build from rfl] at hbackends hstamps
  exact ⟨hbackends hapart, hstamps, fun hnames => hstamps.2 fun l hl => linkstampObject_of_first hnames hl⟩

end LinkRequest

namespace Sample

/-- A request for an executable of one object, which is bitcode or not, with two linkstamps. -/
def stampedRequest (bitcode : Bool) (first second : String) : LinkRequest where
  target := { owner := "//app:app", output := .ofString "app/app", linkType := .executable, linkingMode := .dynamic }
  objects := [{ path := .ofString "app/main.o", bitcode }]
  linkstamps := [⟨.ofString first, []⟩, ⟨.ofString second, [.ofString "stamp/version.h"]⟩]

/-- An indexed link whose linkstamps have one source in two spellings. -/
theorem indexed_plan_closed :
    ∃ plan, (stampedRequest true "stamp/version.cc" "stamp//version.cc").plan.Yields plan ∧
      (stampedRequest true "stamp/version.cc" "stamp//version.cc").wholeLink.GivenApart
        (stampedRequest true "stamp/version.cc" "stamp//version.cc").build plan ∧
      plan.ltoIndexing.isSome = true ∧
      plan.linkstampCompiles.map (·.output.text) = ["bin/app/_objs/app/stamp/version.o"] ∧ plan.BackendsClosed ∧
      plan.StampsClosed (stampedRequest true "stamp/version.cc" "stamp//version.cc").build
        (stampedRequest true "stamp/version.cc" "stamp//version.cc").wholeLink := by
  obtain ⟨plan, hplan, hapart, hindexed, hcompiles⟩ := Planning.exists_yields_of_decide
    (stampedRequest true "stamp/version.cc" "stamp//version.cc").plan
    (fun plan =>
      (stampedRequest true "stamp/version.cc" "stamp//version.cc").wholeLink.GivenApart
          (stampedRequest true "stamp/version.cc" "stamp//version.cc").build plan ∧
        plan.ltoIndexing.isSome = true ∧
        plan.linkstampCompiles.map (·.output.text) = ["bin/app/_objs/app/stamp/version.o"])
    (by decide +kernel)
  obtain ⟨hbackends, -, hstamps⟩ := LinkRequest.plan_closed hplan hapart
  exact ⟨plan, hplan, hapart, hindexed, hcompiles, hbackends, hstamps (by decide)⟩

/-- A source that is named by two dots and an extension, once with a separator behind it: it is compiled into the object
of the first spelling, and the final link lists that of the second one too. -/
theorem stamp_object_not_made :
    ∃ plan, (stampedRequest false "..x" "..x/").plan.Yields plan ∧
      (stampedRequest false "..x" "..x/").wholeLink.GivenApart (stampedRequest false "..x" "..x/").build plan ∧
      plan.action.inputs.toList.map (·.text) = ["bin/app/main.o", "bin/app/_objs/app/..", "bin/app/_objs/app/..o"] ∧
      plan.linkstampCompiles.map (·.output.text) = ["bin/app/_objs/app/.."] ∧
      ¬ plan.StampsClosed (stampedRequest false "..x" "..x/").build (stampedRequest false "..x" "..x/").wholeLink := by
  obtain ⟨plan, hplan, hcheck⟩ := Planning.exists_yields_of_decide (stampedRequest false "..x" "..x/").plan
    (fun plan =>
      (stampedRequest false "..x" "..x/").wholeLink.GivenApart (stampedRequest false "..x" "..x/").build plan ∧
        plan.action.inputs.toList.map (·.text) =
          ["bin/app/main.o", "bin/app/_objs/app/..", "bin/app/_objs/app/..o"] ∧
        plan.linkstampCompiles.map (·.output.text) = ["bin/app/_objs/app/.."] ∧
        ¬ plan.StampsClosed (stampedRequest false "..x" "..x/").build (stampedRequest false "..x" "..x/").wholeLink)
    (by decide +kernel)
  exact ⟨plan, hplan, hcheck⟩

end Sample
end LinkPlanner
