import LinkPlanner.Proofs.Backends
import LinkPlanner.Proofs.SharedDeclarations

/-! Archives as other links get them. The library that an archive is for other links has the bitcode of the archive
as its own, with a shared backend for every member that is bitcode, and the objects of these are declared when the
plan of the archive is there. -/

namespace LinkPlanner

open Planning

/-- A static library with a shared backend for all of its bitcode, made in the build and declared in the session. -/
structure LibraryInput.SharedIn (build : Build) (t : Session) (l : LibraryInput) : Prop where
  static : l.category.isStatic = true
  covered : ∀ m, l.lto.isBitcode m = true → ∃ b, l.sharedBackend? m = some b
  made : ∀ backends, l.sharedBackends = some backends → backends.MadeIn build
  declared : ∀ m b, l.sharedBackend? m = some b → t.declared.Shares b.objectFile

theorem LibraryInput.SharedIn.mono {build : Build} {s t : Session} {l : LibraryInput} (h : l.SharedIn build s)
    (hst : SharesStay s t) : l.SharedIn build t where
  static := h.static
  covered := h.covered
  made := h.made
  declared m b hb := hst _ (h.declared m b hb)

/-- The backend that such a library shares for a file, as the library makes it. -/
theorem LibraryInput.SharedIn.created {build : Build} {t : Session} {l : LibraryInput} (h : l.SharedIn build t)
    {m : Artifact} {b : Backend} (hb : l.sharedBackend? m = some b) :
    ∃ (usePic : Bool) (bitcode : Artifact) (copts : List String),
      (bitcode == m) = true ∧ b = .create build (.shared build.features) none usePic bitcode copts := by
  obtain ⟨backends, hbackends, hget⟩ := Option.bind_eq_some_iff.1 hb
  obtain ⟨e, he, hkey, rfl⟩ := OrderedMap.mem_of_get?_eq_some hget
  obtain ⟨usePic, bitcode, copts, hbitcode, heq⟩ := h.made backends hbackends e he
  exact ⟨usePic, bitcode, copts, BEq.trans hbitcode hkey, heq⟩

/-! ### Shared backends -/

section Created

variable {env : Env} {lto : LtoContext} {objects : List Artifact} {usePic : Bool}

/-- A backend of a library's map is one of those that it is made of. -/
theorem SharedBackends.mem_of_get? {bs : List Backend} {m : Artifact} {b : Backend}
    (hb : (SharedBackends.ofBackends bs).get? m = some b) : b ∈ bs := by
  obtain ⟨e, he, -, rfl⟩ := OrderedMap.mem_of_get?_eq_some hb
  obtain ⟨d, hd, -, hvalue⟩ := OrderedMap.mem_entries_ofList he
  obtain ⟨c, hc, rfl⟩ := List.mem_map.1 hd
  rw [hvalue]
  exact hc

theorem Planning.of_run_createSharedBackends {s t : Session} {backends : SharedBackends}
    (h : (createSharedBackends env lto objects usePic).run s = (.ok backends, t)) :
    backends = .ofBackends (Backend.createShared env.toBuild lto objects usePic) ∧
      ∀ b ∈ Backend.createShared env.toBuild lto objects usePic, t.declared.Shares b.objectFile := by
  obtain ⟨u, closed, hrun, rfl⟩ := of_run_during h
  obtain ⟨_, v, hdeclare, hpure⟩ := of_run_bind hrun
  cases hdeclare
  cases hpure
  refine ⟨rfl, fun b hb => Declarations.shares_declareAll_iff.2 (Or.inr ⟨(b.objectFile, .shareable), ?_, BEq.rfl, rfl⟩)⟩
  obtain ⟨o, -, rfl⟩ := List.mem_map.1 hb
  exact List.mem_flatMap.2 ⟨_, hb, List.mem_cons_self⟩

/-- Shared backends are attached only to a library for all of whose bitcode there is one. -/
theorem LibraryInput.of_withSharedBackends {l k : LibraryInput} {backends : SharedBackends}
    (h : l.withSharedBackends backends = .ok k) :
    k = { l with sharedBackends := some backends } ∧ ∀ m, l.lto.isBitcode m = true → backends.contains m = true := by
  unfold withSharedBackends at h
  split at h
  · cases h
  · rename_i hnone
    cases h
    refine ⟨rfl, fun m hm => ?_⟩
    obtain ⟨e, he, hem⟩ := OrderedMap.contains_iff.1 hm
    have hcontains := List.find?_eq_none.1 hnone e.1 (List.mem_map_of_mem he)
    rw [Bool.not_eq_true, Bool.not_eq_false'] at hcontains
    rw [← OrderedMap.contains_congr hem]
    exact hcontains

end Created

/-! ### Output libraries -/

theorem LinkType.isStatic_of_outputCategory {t : LinkType} {category : LibraryCategory} (ht : t.isArchive = true)
    (hcategory : t.outputCategory? = some category) : category.isStatic = true := by
  cases t <;> cases hcategory <;> first | rfl | cases ht

namespace Link

variable {env : Env} {link : Link} {s t : Session} {l : LibraryInput}

/-- The library of an archive has its members and its bitcode, all of it with shared backends. -/
theorem sharedIn_of_run_outputLibrary {members : List Artifact} (harchive : link.linkType.isArchive = true)
    (h : (link.outputLibrary? env members).run s = (.ok (some l), t)) :
    l.SharedIn env.toBuild t ∧ l.artifact = link.output ∧ l.objects = .ofList members ∧ l.lto = link.lto := by
  unfold outputLibrary? at h
  split at h
  · cases h
  · rename_i category hcategory
    have hstatic := LinkType.isStatic_of_outputCategory harchive hcategory
    dsimp only at h
    rw [if_pos harchive] at h
    split at h
    · rename_i hempty
      cases h
      -- no bitcode, so there is nothing to share
      refine ⟨⟨hstatic, fun m hm => ?_, nofun, fun m b hb => ?_⟩, rfl, rfl, rfl⟩
      · obtain ⟨e, he, -⟩ := OrderedMap.contains_iff.1 hm
        change e ∈ link.lto.bitcode.entries at he
        rw [List.isEmpty_iff.1 hempty] at he
        cases he
      · cases hb
    · obtain ⟨backends, u, hcreate, hattach⟩ := of_run_bind h
      obtain ⟨rfl, hdeclared⟩ := of_run_createSharedBackends hcreate
      obtain ⟨k, hcause, hk⟩ := of_run_map hattach
      obtain ⟨hshared, rfl⟩ := of_run_ofCause hcause
      obtain ⟨rfl, hcovered⟩ := LibraryInput.of_withSharedBackends hshared
      cases hk
      refine ⟨⟨hstatic, fun m hm => ?_, fun backends hbackends => ?_, fun m b hb => ?_⟩, rfl, rfl, rfl⟩
      · have hcontains := hcovered m hm
        rw [OrderedMap.contains_eq_isSome_get?] at hcontains
        exact Option.isSome_iff_exists.1 hcontains
      · cases hbackends
        exact SharedBackends.madeIn_createShared _ _ _ _
      · exact hdeclared b (SharedBackends.mem_of_get? hb)

/-- The library of a plan is described in the course of planning its final link. -/
theorem of_run_planFinal {decision : Option LtoDecision} {mapping : BitcodeMapping} {backends : List Backend}
    {indexing : Option IndexingOutputs} {plan : LinkPlan}
    (h : (link.planFinal env decision mapping backends indexing).run s = (.ok plan, t)) :
    ∃ u v, (link.outputLibrary? env (members (link.finalAssembly env.toBuild decision mapping indexing))).run u =
        (.ok plan.outputLibrary, v) ∧ SharesStay v t := by
  obtain ⟨w, closed, hbody, rfl⟩ := of_run_during h
  obtain ⟨_, u, -, hbody⟩ := of_run_bind hbody
  obtain ⟨library, v, hlibrary, hbody⟩ := of_run_bind hbody
  obtain ⟨⟨action, compiles⟩, x, hassemble, hbody⟩ := of_run_bind hbody
  cases hbody
  refine ⟨u, v, hlibrary, ?_⟩
  change (within (.planningLink link.owner) <| link.assemble env
    (link.finalAssembly env.toBuild decision mapping indexing)).run v = _ at hassemble
  have hkeeps := (link.keeps_assemble frame_sharesStay env (keeps_register env)
    (link.finalAssembly env.toBuild decision mapping indexing)).within (.planningLink link.owner) v
  rw [hassemble] at hkeeps
  exact hkeeps

end Link

/-- What an archive is to other links, planned in the environment some time before the session. -/
def Produced (env : Env) (t : Session) (l : LibraryInput) : Prop :=
  ∃ (producer : Link) (s u : Session) (plan : LinkPlan), producer.linkType.isArchive = true ∧
    (producer.plan env).run s = (.ok plan, u) ∧ plan.outputLibrary = some l ∧ u.Reaches t

theorem Produced.sharedIn {env : Env} {t : Session} {l : LibraryInput} (h : Produced env t l) :
    l.SharedIn env.toBuild t := by
  obtain ⟨producer, s, u, plan, harchive, hrun, hlibrary, hreaches⟩ := h
  obtain ⟨v, closed, hbody, rfl⟩ := of_run_during hrun
  obtain ⟨_, w, -, hfinal⟩ := of_run_bind hbody
  obtain ⟨x, y, houtput, hstay⟩ := Link.of_run_planFinal hfinal
  rw [hlibrary] at houtput
  exact (Link.sharedIn_of_run_outputLibrary harchive houtput).1.mono fun a ha => hreaches.sharesStay a (hstay a ha)

end LinkPlanner
