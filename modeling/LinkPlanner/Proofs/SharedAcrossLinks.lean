import LinkPlanner.Proofs.ClosedPlans

/-! The shared backends of one library in different links. Their files are shareable, so all links that refer to one
of them mean the same file, and should mean the same compile of it. A request makes the shared backends of its
libraries anew: what they are made from is of the build and of the library, but for the way code is to be placed in
memory, and this a request takes from its own target. -/

namespace LinkPlanner

open Planning

/-! ### Backends made with either setting -/

/-- The backend with its code compiled to be position independent or not. -/
def Backend.withPic (b : Backend) (usePic : Bool) : Backend := { b with compile := { b.compile with usePic } }

namespace SharedBackends

variable {build : Build} {lto : LtoContext} {objects : List Artifact}

/-- With another setting the same shared backends are made, but for the setting. -/
theorem get?_createShared_withPic (usePic usePic' : Bool) (a : Artifact) :
    (ofBackends (Backend.createShared build lto objects usePic')).get? a =
      ((ofBackends (Backend.createShared build lto objects usePic)).get? a).map (·.withPic usePic') := by
  unfold ofBackends
  rw [← OrderedMap.get?_ofList_map, Backend.createShared, Backend.createShared]
  simp only [List.map_map]
  rfl

theorem usePic_of_get?_createShared {usePic : Bool} {a : Artifact} {b : Backend}
    (hb : (ofBackends (Backend.createShared build lto objects usePic)).get? a = some b) :
    b.compile.usePic = usePic := by
  obtain ⟨e, he, -, rfl⟩ := OrderedMap.mem_of_get?_eq_some hb
  obtain ⟨d, hd, -, hvalue⟩ := OrderedMap.mem_entries_ofList he
  obtain ⟨c, hc, rfl⟩ := List.mem_map.1 hd
  obtain ⟨o, -, rfl⟩ := List.mem_map.1 hc
  rw [hvalue]
  rfl

end SharedBackends

/-! ### Libraries of requests -/

/-- The request makes this library for one of its entries. -/
structure LinkRequest.SetsUp (r : LinkRequest) (q : LibraryRequest) (l : LibraryInput) : Prop where
  mem : q ∈ r.libraries
  yields : (q.input r.env r.target.usePicForLtoBackends).Yields l

namespace ObjectRequest

variable {build : Build} {objects : List ObjectRequest}

theorem isBitcode_ltoContext {o : ObjectRequest} (ho : o ∈ objects) (hbitcode : o.bitcode = true) :
    (ltoContext build objects).isBitcode (o.artifact build) = true := by
  unfold LtoContext.isBitcode
  rw [bitcode_ltoContext, OrderedMap.contains_ofList, List.any_eq_true]
  exact ⟨_, List.mem_map_of_mem (List.mem_filter.2 ⟨ho, hbitcode⟩), BEq.rfl⟩

theorem isBitcode_ltoContext_of_none (hnone : ∀ o ∈ objects, o.bitcode = false) (a : Artifact) :
    (ltoContext build objects).isBitcode a = false := by
  have hempty : objects.filter (·.bitcode) = [] :=
    List.filter_eq_nil_iff.2 fun o ho => Bool.eq_false_iff.1 (hnone o ho)
  unfold ltoContext
  rw [hempty]
  rfl

end ObjectRequest

namespace LinkRequest

variable {r s : LinkRequest} {q : LibraryRequest} {l k : LibraryInput}

theorem SetsUp.eq_settled (hl : r.SetsUp q l) : l = q.settled r.build r.target.usePicForLtoBackends :=
  (Except.ok.inj ((q.settles_input _ _).eq_of_yields hl.yields)).symm

section Shared

variable (hshared : q.sharedBackends = true)
include hshared

theorem SetsUp.sharedBackend?_eq (hl : r.SetsUp q l) (m : Artifact) :
    l.sharedBackend? m = (SharedBackends.ofBackends (Backend.createShared r.build
      (ObjectRequest.ltoContext r.build q.objects) (q.objects.map (·.artifact r.build))
      r.target.usePicForLtoBackends)).get? m := by
  rw [hl.eq_settled]
  unfold LibraryRequest.settled LibraryInput.sharedBackend?
  dsimp only
  rw [if_pos hshared]
  rfl

/-- A shared backend is compiled as the target asks whose request refers to it. -/
theorem SetsUp.usePic_of_sharedBackend? (hl : r.SetsUp q l) {m : Artifact} {b : Backend}
    (hb : l.sharedBackend? m = some b) : b.compile.usePic = r.target.usePicForLtoBackends := by
  rw [hl.sharedBackend?_eq hshared] at hb
  exact SharedBackends.usePic_of_get?_createShared hb

theorem SetsUp.exists_sharedBackend (hl : r.SetsUp q l) {o : ObjectRequest} (ho : o ∈ q.objects)
    (hbitcode : o.bitcode = true) : ∃ b, l.sharedBackend? (o.artifact r.build) = some b := by
  rw [hl.sharedBackend?_eq hshared, ← Option.isSome_iff_exists, ← OrderedMap.contains_eq_isSome_get?]
  exact SharedBackends.contains_createShared (List.mem_map_of_mem ho)
    (ObjectRequest.isBitcode_ltoContext ho hbitcode)

theorem SetsUp.sharedBackend?_of_none (hl : r.SetsUp q l) (hnone : ∀ o ∈ q.objects, o.bitcode = false)
    (m : Artifact) : l.sharedBackend? m = none := by
  have hempty : (q.objects.map (·.artifact r.build)).filter
      (ObjectRequest.ltoContext r.build q.objects).isBitcode = [] :=
    List.filter_eq_nil_iff.2 fun a _ => Bool.eq_false_iff.1 (ObjectRequest.isBitcode_ltoContext_of_none hnone a)
  rw [hl.sharedBackend?_eq hshared]
  unfold Backend.createShared
  rw [hempty]
  rfl

/-- Two requests of one build that have an entry in common make the same shared backends for it, but for the setting
that each takes from its own target. So the backends are the same exactly if the targets agree about that, or if there
is no backend to make. -/
theorem shared_backends_same_iff (hbuild : r.build = s.build) (hl : r.SetsUp q l) (hk : s.SetsUp q k) :
    (∀ m, k.sharedBackend? m = (l.sharedBackend? m).map (·.withPic s.target.usePicForLtoBackends)) ∧
      (∀ o ∈ q.objects, o.bitcode = true → ∃ b, l.sharedBackend? (o.artifact r.build) = some b ∧
        b.compile.usePic = r.target.usePicForLtoBackends) ∧
      ((∀ m, l.sharedBackend? m = k.sharedBackend? m) ↔
        r.target.usePicForLtoBackends = s.target.usePicForLtoBackends ∨ ∀ o ∈ q.objects, o.bitcode = false) := by
  have hother : ∀ m, k.sharedBackend? m =
      (l.sharedBackend? m).map (·.withPic s.target.usePicForLtoBackends) := by
    intro m
    rw [hl.sharedBackend?_eq hshared, hk.sharedBackend?_eq hshared, ← hbuild]
    exact SharedBackends.get?_createShared_withPic _ _ m
  refine ⟨hother, fun o ho hbitcode => ?_, fun hsame => ?_, ?_⟩
  · obtain ⟨b, hb⟩ := hl.exists_sharedBackend hshared ho hbitcode
    exact ⟨b, hb, hl.usePic_of_sharedBackend? hshared hb⟩
  · by_contra hnot
    obtain ⟨hdiffer, hsome⟩ := not_or.1 hnot
    simp only [not_forall, Bool.not_eq_false] at hsome
    obtain ⟨o, ho, hbitcode⟩ := hsome
    obtain ⟨b, hb⟩ := hl.exists_sharedBackend hshared ho hbitcode
    have hb' := (hsame _).symm.trans hb
    exact hdiffer ((hl.usePic_of_sharedBackend? hshared hb).symm.trans (hk.usePic_of_sharedBackend? hshared hb'))
  · rintro (hagree | hnone) m
    · rw [hl.eq_settled, hk.eq_settled, hbuild, hagree]
    · rw [hl.sharedBackend?_of_none hshared hnone, hk.sharedBackend?_of_none hshared hnone]

end Shared

end LinkRequest

namespace Sample

/-- A static library of one bitcode member, with shared backends. -/
def sharingLibrary : LibraryRequest where
  path := .ofString "dep/libdep.a"
  category := .staticLibrary
  objects := [{ path := .ofString "dep/dep.o", bitcode := true }]
  sharedBackends := true

/-- A request for an executable over this library, in a build whose links use shared backends. -/
def sharingRequest (output : String) (usePic : Bool) : LinkRequest where
  build := sharedEnv.toBuild
  target :=
    { owner := "//app:app", output := .ofString output, linkType := .executable, linkingMode := .dynamic
      usePicForLtoBackends := usePic }
  objects := [{ path := .ofString "app/main.o" }]
  libraries := [sharingLibrary]

theorem exists_setsUp_sharingRequest (output : String) (usePic : Bool) :
    ∃ l, (sharingRequest output usePic).SetsUp sharingLibrary l := by
  obtain ⟨t, hrun⟩ := (sharingLibrary.settles_input (sharingRequest output usePic).env usePic).run_ok {}
  exact ⟨_, List.mem_singleton_self _, {}, t, hrun⟩

/-- Two executables without position independent code have one backend for the member. -/
theorem backend_shared_by_executables :
    ∃ l k, (sharingRequest "app/app" false).SetsUp sharingLibrary l ∧
      (sharingRequest "app/tool" false).SetsUp sharingLibrary k ∧ sharingLibrary.sharedBackends = true ∧
      (sharingRequest "app/app" false).build = (sharingRequest "app/tool" false).build ∧
      (∃ b, l.sharedBackend? (file "dep/dep.o") = some b) ∧ ∀ m, l.sharedBackend? m = k.sharedBackend? m := by
  obtain ⟨l, hl⟩ := exists_setsUp_sharingRequest "app/app" false
  obtain ⟨k, hk⟩ := exists_setsUp_sharingRequest "app/tool" false
  have hbuild : (sharingRequest "app/app" false).build = (sharingRequest "app/tool" false).build := rfl
  obtain ⟨-, hmembers, hsame⟩ := LinkRequest.shared_backends_same_iff rfl hbuild hl hk
  obtain ⟨b, hb, -⟩ := hmembers _ (List.mem_singleton_self _) rfl
  exact ⟨l, k, hl, hk, rfl, hbuild, ⟨b, hb⟩, hsame.2 (Or.inl rfl)⟩

/-- With position independent code for one of them, the same object file is to be compiled in two ways. -/
theorem shared_object_compiled_in_two_ways :
    ∃ plan plan', (sharingRequest "app/app" false).plan.Yields plan ∧
      (sharingRequest "app/tool" true).plan.Yields plan' ∧
      (sharingRequest "app/app" false).build = (sharingRequest "app/tool" true).build ∧
      (sharingRequest "app/app" false).libraries = (sharingRequest "app/tool" true).libraries ∧
      plan.ltoBackends.map (fun b => (b.objectFile.text, b.isShared, b.compile.usePic)) =
        [("bin/shared.nonlto/dep/dep.o", true, false)] ∧
      plan'.ltoBackends.map (fun b => (b.objectFile.text, b.isShared, b.compile.usePic)) =
        [("bin/shared.nonlto/dep/dep.o", true, true)] := by
  obtain ⟨plan, hplan, hbackends⟩ := Planning.exists_yields_of_decide (sharingRequest "app/app" false).plan
    (fun plan => plan.ltoBackends.map (fun b => (b.objectFile.text, b.isShared, b.compile.usePic)) =
      [("bin/shared.nonlto/dep/dep.o", true, false)]) (by decide +kernel)
  obtain ⟨plan', hplan', hbackends'⟩ := Planning.exists_yields_of_decide (sharingRequest "app/tool" true).plan
    (fun plan => plan.ltoBackends.map (fun b => (b.objectFile.text, b.isShared, b.compile.usePic)) =
      [("bin/shared.nonlto/dep/dep.o", true, true)]) (by decide +kernel)
  exact ⟨plan, plan', hplan, hplan', rfl, rfl, hbackends, hbackends'⟩

end Sample
end LinkPlanner
