import LinkPlanner.Request.Plan
import LinkPlanner.Proofs.Listing
import LinkPlanner.Proofs.Verdicts

/-! Which requests cannot be planned, and why. The libraries of a request get shared backends for just the members
that they say are bitcode, so these always fit; what else can go wrong is told by the request itself. -/

namespace LinkPlanner

open Planning

/-! ### Inputs -/

namespace ObjectRequest

theorem isTree_artifact (build : Build) (o : ObjectRequest) : (o.artifact build).isTree = o.tree := by
  unfold artifact
  cases o.tree <;> rfl

theorem bitcode_ltoContext (build : Build) (objects : List ObjectRequest) :
    (ltoContext build objects).bitcode = .ofList ((objects.filter (·.bitcode)).map fun o =>
      (o.artifact build, ⟨o.minimized.map build.derived, o.copts⟩)) := by
  unfold ltoContext OrderedMap.ofList
  generalize objects.filter (·.bitcode) = os
  suffices h : ∀ lto : LtoContext,
      (os.foldl (fun lto o => lto.record (o.artifact build) ⟨o.minimized.map build.derived, o.copts⟩) lto).bitcode =
        lto.bitcode.insertAll (os.map fun o => (o.artifact build, ⟨o.minimized.map build.derived, o.copts⟩)) from h {}
  induction os with
  | nil => exact fun lto => rfl
  | cons o os ih => exact fun lto => ih _

/-- The bitcode of a request is among its objects. -/
theorem within_ltoContext (build : Build) (objects : List ObjectRequest) :
    (ltoContext build objects).Within (objects.map (·.artifact build)) := by
  intro bitcode hbitcode
  obtain ⟨e, he, rfl⟩ := List.mem_map.1 hbitcode
  rw [bitcode_ltoContext] at he
  obtain ⟨d, hd, hkey, -⟩ := OrderedMap.mem_entries_ofList he
  obtain ⟨o, ho, rfl⟩ := List.mem_map.1 hd
  exact ⟨_, List.mem_map_of_mem (List.mem_filter.1 ho).1, BEq.symm hkey⟩

end ObjectRequest

/-- The library of a request: shared backends are made for the members that are bitcode for it. -/
def LibraryRequest.settled (build : Build) (l : LibraryRequest) (usePic : Bool) : LibraryInput :=
  let lto := ObjectRequest.ltoContext build l.objects
  let objects := l.objects.map (·.artifact build)
  let plain := LibraryInput.ofArtifact (build.derived l.path) l.category
  { plain.withObjects objects lto with
    identifier := l.identifier.getD plain.identifier
    disableWholeArchive := l.disableWholeArchive
    mustKeepDebug := l.mustKeepDebug
    sharedBackends :=
      if l.sharedBackends then some (.ofBackends (Backend.createShared build lto objects usePic)) else none }

theorem LibraryRequest.settles_input (env : Env) (l : LibraryRequest) (usePic : Bool) :
    Settles (l.input env usePic) (.ok (l.settled env.toBuild usePic)) := by
  unfold LibraryRequest.input LibraryRequest.settled
  dsimp only
  split
  · refine (settles_createSharedBackends _ _ _ _).bind_ok ?_
    rw [LibraryInput.withSharedBackends_createShared (ObjectRequest.within_ltoContext env.toBuild l.objects)]
    · exact settles_ofCause (.ok _)
    · rfl
  · exact settles_pure _

/-! ### Links -/

/-- An object is added to a link only under the name of an object file. -/
def ObjectInput.Named (o : ObjectInput) : Prop :=
  (o.artifact.isTree || FileName.isObjectFile o.artifact.fileName) = true

instance (o : ObjectInput) : Decidable o.Named := inferInstanceAs (Decidable (_ = true))

/-- A library is added to a link only under the name of one. -/
def LibraryInput.Named (l : LibraryInput) : Prop :=
  (FileName.isArchive l.artifact.fileName || FileName.isSharedLibrary l.artifact.fileName) = true

instance (l : LibraryInput) : Decidable l.Named := inferInstanceAs (Decidable (_ = true))

namespace Link

/-- The link with one more object, whatever it is called. -/
def withObject (link : Link) (o : ObjectInput) : Link :=
  { link with objects := link.objects.insert o, mustKeepDebug := link.mustKeepDebug || o.mustKeepDebug }

/-- The link with one more library, whatever it is called. -/
def withLibrary (link : Link) (l : LibraryInput) : Link :=
  { link with libraries := link.libraries.insert l, mustKeepDebug := link.mustKeepDebug || l.mustKeepDebug }

theorem addObject_of_named {link : Link} {o : ObjectInput} (ho : o.Named) :
    link.addObject o = .ok (link.withObject o) :=
  if_pos ho

theorem addObject_of_not_named {link : Link} {o : ObjectInput} (ho : ¬ o.Named) :
    link.addObject o = .error (.notAnObjectFile o.artifact) :=
  if_neg ho

theorem addLibrary_of_named {link : Link} {l : LibraryInput} (hl : l.Named) :
    link.addLibrary l = .ok (link.withLibrary l) :=
  if_pos hl

theorem addLibrary_of_not_named {link : Link} {l : LibraryInput} (hl : ¬ l.Named) :
    link.addLibrary l = .error (.notALibraryFile l.artifact) :=
  if_neg hl

end Link

/-- Things are added one after the other, up to the first that is refused. -/
theorem foldlM_add {α β ε : Type} {add : β → α → Except ε β} {next : β → α → β} {error : α → ε} {named : α → Prop}
    (hok : ∀ b a, named a → add b a = .ok (next b a)) (herror : ∀ b a, ¬ named a → add b a = .error (error a))
    (as : List α) (b : β) :
    ((∀ a ∈ as, named a) ∧ as.foldlM add b = .ok (as.foldl next b)) ∨
      ∃ a ∈ as, ¬ named a ∧ as.foldlM add b = .error (error a) := by
  induction as generalizing b with
  | nil => exact Or.inl ⟨List.forall_mem_nil _, rfl⟩
  | cons a as ih =>
      rw [List.foldlM_cons, List.foldl_cons]
      by_cases ha : named a
      · rw [hok b a ha]
        rcases ih (next b a) with ⟨hall, heq⟩ | ⟨c, hc, hnot, heq⟩
        · refine Or.inl ⟨fun c hc => ?_, heq⟩
          rcases List.mem_cons.1 hc with rfl | hc
          · exact ha
          · exact hall c hc
        · exact Or.inr ⟨c, List.mem_cons_of_mem _ hc, hnot, heq⟩
      · rw [herror b a ha]
        exact Or.inr ⟨a, List.mem_cons_self, ha, rfl⟩

namespace LinkRequest

/-- The objects of a request as inputs of its link. -/
def objectInputs (r : LinkRequest) : List ObjectInput :=
  r.objects.map fun o => { ObjectInput.ofArtifact (o.artifact r.build) with mustKeepDebug := o.mustKeepDebug }

/-- The libraries of a request as inputs of its link. -/
def libraryInputs (r : LinkRequest) : List LibraryInput :=
  r.libraries.map fun l => l.settled r.build r.target.usePicForLtoBackends

/-- The link of a request with all of its inputs, whatever they are called. Of several libraries of one path it has
the first. -/
def wholeLink (r : LinkRequest) : Link :=
  r.libraryInputs.foldl Link.withLibrary (r.objectInputs.foldl Link.withObject r.emptyLink)

theorem foldl_withObject (link : Link) (os : List ObjectInput) :
    os.foldl Link.withObject link =
      { link with
        objects := link.objects.insertAll os
        mustKeepDebug := os.foldl (fun keep o => keep || o.mustKeepDebug) link.mustKeepDebug } := by
  induction os generalizing link with
  | nil => rfl
  | cons o os ih => exact ih (link.withObject o)

theorem foldl_withLibrary (link : Link) (ls : List LibraryInput) :
    ls.foldl Link.withLibrary link =
      { link with
        libraries := link.libraries.insertAll ls
        mustKeepDebug := ls.foldl (fun keep l => keep || l.mustKeepDebug) link.mustKeepDebug } := by
  induction ls generalizing link with
  | nil => rfl
  | cons l ls ih => exact ih (link.withLibrary l)

section WholeLink

variable (r : LinkRequest)

theorem objects_wholeLink : r.wholeLink.objects = .ofList r.objectInputs := by
  unfold wholeLink
  rw [foldl_withLibrary, foldl_withObject]
  rfl

theorem linkType_wholeLink : r.wholeLink.linkType = r.target.linkType := by
  unfold wholeLink
  rw [foldl_withLibrary, foldl_withObject]
  rfl

theorem lto_wholeLink : r.wholeLink.lto = ObjectRequest.ltoContext r.build r.objects := by
  unfold wholeLink
  rw [foldl_withLibrary, foldl_withObject]
  rfl

/-- The bitcode that a request declares for its own target is all among its objects. -/
theorem within_wholeLink : r.wholeLink.lto.Within (r.wholeLink.objects.toList.map (·.artifact)) := by
  intro bitcode hbitcode
  rw [lto_wholeLink] at hbitcode
  obtain ⟨a, ha, hab⟩ := ObjectRequest.within_ltoContext r.build r.objects bitcode hbitcode
  obtain ⟨o, ho, rfl⟩ := List.mem_map.1 ha
  have hinput : (⟨o.artifact r.build, _, _, o.mustKeepDebug⟩ : ObjectInput) ∈ r.objectInputs :=
    List.mem_map_of_mem ho
  obtain ⟨x, hx, hxo⟩ := OrderedSet.exists_of_mem_ofList hinput
  rw [objects_wholeLink]
  exact ⟨_, List.mem_map_of_mem hx, BEq.trans (b := o.artifact r.build) hxo hab⟩

theorem sharesAll_wholeLink : r.wholeLink.SharesAll := fun _ => r.within_wholeLink

theorem willing_env : r.env.Willing := ⟨fun request => ⟨request.collect, rfl⟩, fun _ => rfl⟩

end WholeLink

/-- The libraries are added as they are made, one after the other. -/
theorem settles_addLibraries (env : Env) (usePic : Bool) (ls : List LibraryRequest) (link : Link) :
    Settles (ls.foldlM (fun link l => do Planning.ofCause (link.addLibrary (← l.input env usePic))) link)
      ((ls.map (·.settled env.toBuild usePic)).foldlM Link.addLibrary link) := by
  induction ls generalizing link with
  | nil => exact settles_pure link
  | cons l ls ih =>
      exact Settles.bind (((l.settles_input env usePic).bind_ok (settles_ofCause _))) fun next _ => ih next

/-- The inputs of a request are added as far as their names allow. -/
theorem settles_link (r : LinkRequest) :
    Settles r.link (r.objectInputs.foldlM Link.addObject r.emptyLink >>= fun link =>
      r.libraryInputs.foldlM Link.addLibrary link) := by
  have hinterface : Settles (r.emptyLink.interfaceOutput.forM Planning.declareOwned) (.ok ()) := by
    cases r.emptyLink.interfaceOutput with
    | none => exact settles_pure ()
    | some a => exact settles_declare _
  refine (settles_declare _).bind_ok (hinterface.bind_ok ?_)
  exact (settles_ofCause _).bind fun link _ => settles_addLibraries r.env _ r.libraries link

/-- The link of a request is its whole link, or some input is refused for its name. -/
theorem link_settled (r : LinkRequest) :
    ((∀ o ∈ r.objectInputs, o.Named) ∧ (∀ l ∈ r.libraryInputs, l.Named) ∧ Settles r.link (.ok r.wholeLink)) ∨
      (∃ o ∈ r.objectInputs, ¬ o.Named ∧ Settles r.link (.error (.notAnObjectFile o.artifact))) ∨
      ∃ l ∈ r.libraryInputs, ¬ l.Named ∧ Settles r.link (.error (.notALibraryFile l.artifact)) := by
  have hlink := r.settles_link
  rcases foldlM_add (fun link o => Link.addObject_of_named) (fun link o => Link.addObject_of_not_named)
    r.objectInputs r.emptyLink with ⟨hobjects, heq⟩ | ⟨o, ho, hnot, heq⟩
  · rw [heq] at hlink
    rcases foldlM_add (fun link l => Link.addLibrary_of_named) (fun link l => Link.addLibrary_of_not_named)
      r.libraryInputs (r.objectInputs.foldl Link.withObject r.emptyLink) with ⟨hlibraries, heq⟩ | ⟨l, hl, hnot, heq⟩
    · exact Or.inl ⟨hobjects, hlibraries, heq ▸ hlink⟩
    · exact Or.inr (Or.inr ⟨l, hl, hnot, heq ▸ hlink⟩)
  · rw [heq] at hlink
    exact Or.inr (Or.inl ⟨o, ho, hnot, hlink⟩)

/-! ### Failures -/

/-- The request goes through LTO planning. -/
def UsesLto (r : LinkRequest) : Prop := r.wholeLink.hasBitcode = true ∧ r.target.linkType.isArchive = false

/-- The mistakes for which a request cannot be planned, each with the kind and the cause of the failure. -/
inductive Refuses (r : LinkRequest) : FailureKind → Cause → Prop where
  /-- An own object that is no tree does not have the name of an object file. -/
  | objectName {o : ObjectRequest} (ho : o ∈ r.objects) (htree : o.tree = false)
      (hname : FileName.isObjectFile (o.artifact r.build).fileName = false) :
      Refuses r .programming (.notAnObjectFile (o.artifact r.build))
  /-- A library has neither the name of an archive nor that of a shared library. -/
  | libraryName {l : LibraryRequest} (hl : l ∈ r.libraries)
      (harchive : FileName.isArchive (r.build.derived l.path).fileName = false)
      (hshared : FileName.isSharedLibrary (r.build.derived l.path).fileName = false) :
      Refuses r .programming (.notALibraryFile (r.build.derived l.path))
  /-- The link does not pass its check. -/
  | invalid {kind : FailureKind} {c : Cause} (hcheck : r.wholeLink.check r.build = .error c)
      (hkind : c.kind? = some kind) : Refuses r kind c
  /-- The link goes through LTO planning, and its bitcode speaks against it. -/
  | bitcode {kind : FailureKind} {c : Cause} (hlto : r.UsesLto) (hrefused : r.wholeLink.BitcodeRefused r.build kind c) :
      Refuses r kind c

variable {r : LinkRequest}

theorem refuses_of_not_named_object {o : ObjectInput} (ho : o ∈ r.objectInputs) (hnot : ¬ o.Named) :
    r.Refuses .programming (.notAnObjectFile o.artifact) := by
  obtain ⟨q, hq, rfl⟩ := List.mem_map.1 ho
  unfold ObjectInput.Named at hnot
  rw [Bool.or_eq_true, not_or, Bool.not_eq_true, Bool.not_eq_true] at hnot
  exact .objectName hq ((q.isTree_artifact r.build).symm.trans hnot.1) hnot.2

theorem refuses_of_not_named_library {l : LibraryInput} (hl : l ∈ r.libraryInputs) (hnot : ¬ l.Named) :
    r.Refuses .programming (.notALibraryFile l.artifact) := by
  obtain ⟨q, hq, rfl⟩ := List.mem_map.1 hl
  unfold LibraryInput.Named at hnot
  rw [Bool.or_eq_true, not_or, Bool.not_eq_true, Bool.not_eq_true] at hnot
  exact .libraryName hq hnot.1 hnot.2

theorem exists_kind_of_isFromCheck {c : Cause} (hc : c.isFromCheck = true) : ∃ kind, c.kind? = some kind := by
  cases c <;> first | exact ⟨_, rfl⟩ | cases hc

/-- How a link is planned once its inputs are settled. -/
def planLink (r : LinkRequest) (link : Link) : Planning LinkPlan :=
  if link.hasBitcode && !link.linkType.isArchive then link.planWithLto r.env else link.plan r.env

/-- The step succeeds, and then nothing speaks against the whole link, or it fails for a cause that does. -/
def Answers (r : LinkRequest) (act : Planning LinkPlan) : Prop :=
  (Succeeds act ∧ r.wholeLink.check r.build = .ok () ∧
      (r.UsesLto → ∀ kind c, ¬ r.wholeLink.BitcodeRefused r.build kind c)) ∨
    ∃ kind c, r.Refuses kind c ∧ c.kind? = some kind ∧ Settles act (.error c)

theorem exists_refuses_of_check {c : Cause} (hc : r.wholeLink.check r.build = .error c) :
    ∃ kind, r.Refuses kind c ∧ c.kind? = some kind := by
  obtain ⟨kind, hkind⟩ := exists_kind_of_isFromCheck (Link.isFromCheck_of_check hc)
  exact ⟨kind, .invalid hc hkind, hkind⟩

theorem answers_planWithLto (huses : r.UsesLto) : r.Answers (r.wholeLink.planWithLto r.env) := by
  have hplan := Link.heeds_planWithLto r.willing_env (r.linkType_wholeLink ▸ huses.2)
  have hspec := r.wholeLink.bitcodeVerdict_spec r.env
  cases hverdict : r.wholeLink.bitcodeVerdict r.env with
  | ok members =>
      rw [hverdict] at hplan hspec
      exact Or.inl ⟨hplan, hspec.1, fun _ => hspec.2⟩
  | error c =>
      rw [hverdict] at hplan hspec
      rcases hspec with hcheck | ⟨kind, hrefused⟩
      · obtain ⟨kind, hrefuses, hkind⟩ := exists_refuses_of_check hcheck
        exact Or.inr ⟨kind, c, hrefuses, hkind, hplan⟩
      · exact Or.inr ⟨kind, c, .bitcode huses hrefused, hrefused.kind?_eq, hplan⟩

theorem answers_plan (hnot : ¬ r.UsesLto) : r.Answers (r.wholeLink.plan r.env) := by
  have hplan := Link.heeds_plan r.willing_env r.sharesAll_wholeLink
  change Heeds _ (r.wholeLink.check r.build) at hplan
  cases hcheck : r.wholeLink.check r.build with
  | ok u =>
      rw [hcheck] at hplan
      exact Or.inl ⟨hplan, hcheck, fun huses => absurd huses hnot⟩
  | error c =>
      rw [hcheck] at hplan
      obtain ⟨kind, hrefuses, hkind⟩ := exists_refuses_of_check hcheck
      exact Or.inr ⟨kind, c, hrefuses, hkind, hplan⟩

theorem answers_planLink (r : LinkRequest) : r.Answers (r.planLink r.wholeLink) := by
  have huses : (r.wholeLink.hasBitcode && !r.wholeLink.linkType.isArchive) = true ↔ r.UsesLto := by
    rw [Bool.and_eq_true, Bool.not_eq_true', r.linkType_wholeLink]
    rfl
  unfold planLink
  split
  · rename_i hlto
    exact answers_planWithLto (huses.1 hlto)
  · rename_i hlto
    exact answers_plan fun h => hlto (huses.2 h)

/-- A request either is planned in every session, and then nothing speaks against it, or it fails in every session
for a cause that does. -/
theorem plan_settled (r : LinkRequest) :
    (Succeeds r.plan ∧ ∀ kind c, ¬ r.Refuses kind c) ∨
      ∃ kind c, r.Refuses kind c ∧ c.kind? = some kind ∧ Settles r.plan (.error c) := by
  rcases r.link_settled with ⟨hobjects, hlibraries, hlink⟩ | ⟨o, ho, hnot, hlink⟩ | ⟨l, hl, hnot, hlink⟩
  · rcases r.answers_planLink with ⟨hplan, hcheck, hbitcode⟩ | ⟨kind, c, hrefuses, hkind, hplan⟩
    · refine Or.inl ⟨((hlink.within _).bind_succeeds hplan).during _, fun kind c hrefuses => ?_⟩
      cases hrefuses with
      | @objectName o ho htree hname =>
          have hnamed := hobjects _ (List.mem_map_of_mem ho)
          unfold ObjectInput.Named at hnamed
          rw [show (ObjectInput.ofArtifact (o.artifact r.build)).artifact = o.artifact r.build from rfl,
            o.isTree_artifact, htree, hname] at hnamed
          cases hnamed
      | @libraryName l hl harchive hshared =>
          have hnamed := hlibraries _ (List.mem_map_of_mem hl)
          unfold LibraryInput.Named at hnamed
          rw [show (l.settled r.build r.target.usePicForLtoBackends).artifact = r.build.derived l.path from rfl,
            harchive, hshared] at hnamed
          cases hnamed
      | invalid hfails hkind =>
          rw [hcheck] at hfails
          cases hfails
      | bitcode hlto hrefused => exact hbitcode hlto kind c hrefused
    · exact Or.inr ⟨kind, c, hrefuses, hkind, ((hlink.within _).bind_ok hplan).during _⟩
  · exact Or.inr ⟨_, _, refuses_of_not_named_object ho hnot, rfl, (Settles.bind_error (hlink.within _)).during _⟩
  · exact Or.inr ⟨_, _, refuses_of_not_named_library hl hnot, rfl, (Settles.bind_error (hlink.within _)).during _⟩

/-- Shared backends that lack a member of their own library, members that the indexer could not be shown, and the
indexing of an archive: none of these is ever what a request fails for. -/
theorem Refuses.cause_ne {kind : FailureKind} {c : Cause} (h : r.Refuses kind c) :
    (∀ library bitcode, c ≠ .sharedBackendsIncomplete library bitcode) ∧
      (∀ object library, c ≠ .memberWithoutSharedBackend object library) ∧ ∀ type, c ≠ .indexingOf type := by
  cases h with
  | objectName => exact ⟨fun _ _ => nofun, fun _ _ => nofun, fun _ => nofun⟩
  | libraryName => exact ⟨fun _ _ => nofun, fun _ _ => nofun, fun _ => nofun⟩
  | invalid hcheck hkind =>
      have hfrom := Link.isFromCheck_of_check hcheck
      refine ⟨fun _ _ heq => ?_, fun _ _ heq => ?_, fun _ heq => ?_⟩ <;> subst heq <;> cases hfrom
  | bitcode hlto hrefused =>
      cases hrefused <;> exact ⟨fun _ _ => nofun, fun _ _ => nofun, fun _ => nofun⟩

/-- A request fails exactly if it makes one of the mistakes that requests are refused for, and then for one of
these, with a failure of its kind. -/
theorem plan_fails_iff (r : LinkRequest) (s : Session) :
    match r.plan.run s with
    | (.ok _, _) => ∀ kind c, ¬ r.Refuses kind c
    | (.error f, _) =>
      (∃ kind, r.Refuses kind f.cause ∧ f.kind? = some kind) ∧
        (∀ library bitcode, f.cause ≠ .sharedBackendsIncomplete library bitcode) ∧
        (∀ object library, f.cause ≠ .memberWithoutSharedBackend object library) ∧
        ∀ type, f.cause ≠ .indexingOf type := by
  rcases r.plan_settled with ⟨⟨plan, hplan⟩, hnone⟩ | ⟨kind, c, hrefuses, hkind, hplan⟩
  · obtain ⟨t, hrun⟩ := hplan.run_ok s
    rw [hrun]
    exact hnone
  · obtain ⟨f, t, hrun, rfl⟩ := hplan.run_error s
    rw [hrun]
    exact ⟨⟨kind, hrefuses, hkind⟩, hrefuses.cause_ne⟩

end LinkRequest
end LinkPlanner
