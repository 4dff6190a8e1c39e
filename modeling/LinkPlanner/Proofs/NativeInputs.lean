import LinkPlanner.Link.Edit
import LinkPlanner.Proofs.Listing
import LinkPlanner.Proofs.RequestFailures
import LinkPlanner.Proofs.Sessions
import LinkPlanner.Proofs.WithoutBitcode

/-! Native inputs of a link. Objects and libraries that hold no bitcode can be put anywhere among the edits that put a
link together, and anywhere among the inputs that one edit adds: the planning of backends goes through all inputs, but
it comes to the same. Every edit keeps the two links in step, and of the links only what their bitcode is made of
counts. -/

namespace LinkPlanner

/-! ### Lists with something put in -/

/-- The second list is the first with items of one kind put in, each of them at any place. -/
inductive Widens {α : Type} (p : α → Prop) : List α → List α → Prop where
  | nil : Widens p [] []
  | keep (a : α) {as bs : List α} (h : Widens p as bs) : Widens p (a :: as) (a :: bs)
  | put {a : α} (ha : p a) {as bs : List α} (h : Widens p as bs) : Widens p as (a :: bs)

namespace Widens

variable {α : Type} {p : α → Prop} {as bs : List α}

theorem refl (as : List α) : Widens p as as := by
  induction as with
  | nil => exact .nil
  | cons a as ih => exact .keep a ih

theorem of_forall (h : ∀ b ∈ bs, p b) : Widens p [] bs := by
  induction bs with
  | nil => exact .nil
  | cons b bs ih => exact .put (h b List.mem_cons_self) (ih fun c hc => h c (List.mem_cons_of_mem _ hc))

theorem snoc_keep (h : Widens p as bs) (a : α) : Widens p (as ++ [a]) (bs ++ [a]) := by
  induction h with
  | nil => exact .keep a .nil
  | keep b _ ih => exact .keep b ih
  | put hb _ ih => exact .put hb ih

theorem snoc_put (h : Widens p as bs) {a : α} (ha : p a) : Widens p as (bs ++ [a]) := by
  induction h with
  | nil => exact .put ha .nil
  | keep b _ ih => exact .keep b ih
  | put hb _ ih => exact .put hb ih

theorem mem_or (h : Widens p as bs) {b : α} (hb : b ∈ bs) : b ∈ as ∨ p b := by
  induction h with
  | nil => exact Or.inl hb
  | keep a _ ih =>
      rcases List.mem_cons.1 hb with rfl | hb
      · exact Or.inl List.mem_cons_self
      · exact (ih hb).imp_left (List.mem_cons_of_mem a)
  | put ha _ ih =>
      rcases List.mem_cons.1 hb with rfl | hb
      · exact Or.inr ha
      · exact ih hb

/-- A question that nothing put in answers selects the same from both lists. -/
theorem filter_eq (h : Widens p as bs) {q : α → Bool} (hq : ∀ a, p a → q a = false) : bs.filter q = as.filter q := by
  induction h with
  | nil => rfl
  | keep a _ ih => rw [List.filter_cons, List.filter_cons, ih]
  | put ha _ ih =>
      rw [List.filter_cons, hq _ ha, if_neg Bool.false_ne_true]
      exact ih

theorem filter_ofList [BEq α] [EquivBEq α] (h : Widens p as bs) {q : α → Bool} (hq : ∀ a, p a → q a = false)
    (hcongr : ∀ a b, (a == b) = true → q a = q b) :
    (OrderedSet.ofList bs).toList.filter q = (OrderedSet.ofList as).toList.filter q := by
  rw [OrderedSet.filter_ofList hcongr, OrderedSet.filter_ofList hcongr, h.filter_eq hq]

end Widens

theorem OrderedSet.insert_eq_ofList {α : Type} [BEq α] {s : OrderedSet α} {as : List α} (h : s = .ofList as) (a : α) :
    s.insert a = .ofList (as ++ [a]) := by
  rw [h, OrderedSet.ofList_concat]

/-- Items that contribute nothing can be left out. -/
theorem flatMap_filter_of_nil {α β : Type} {f : α → List β} {q : α → Bool} {as : List α}
    (hnil : ∀ a ∈ as, q a = false → f a = []) : (as.filter q).flatMap f = as.flatMap f := by
  induction as with
  | nil => rfl
  | cons a as ih =>
      have hrest := ih fun b hb => hnil b (List.mem_cons_of_mem a hb)
      rw [List.filter_cons, List.flatMap_cons]
      split
      · rw [List.flatMap_cons, hrest]
      · rename_i ha
        rw [hrest, hnil a List.mem_cons_self (Bool.eq_false_iff.2 ha), List.nil_append]

/-! ### Native inputs -/

namespace Link

/-- An object that the link accepts and that is not bitcode of its target. -/
structure NativeObject (link : Link) (o : ObjectInput) : Prop where
  named : o.Named
  native : link.lto.isBitcode o.artifact = false

/-- A library that the link accepts and has not got yet. It has no bitcode, and no library of the link records a member
of it. -/
structure NativeLibrary (link : Link) (l : LibraryInput) : Prop where
  named : l.Named
  new : link.libraries.contains l = false
  noBitcode : l.lto.isEmpty = true
  unrecorded : ∀ m ∈ l.objects.toList, ∀ k ∈ link.libraries.toList, k.lto.isBitcode m = false

/-- The second link is the first with inputs of these kinds put in. -/
structure WidenedBy (p : ObjectInput → Prop) (q : LibraryInput → Prop) (link link' : Link) : Prop where
  rest : ∃ os ls keep, link' = { link with objects := os, libraries := ls, mustKeepDebug := keep }
  objects : ∃ os os', Widens p os os' ∧ link.objects = .ofList os ∧ link'.objects = .ofList os'
  libraries : ∃ ls ls', Widens q ls ls' ∧ link.libraries = .ofList ls ∧ link'.libraries = .ofList ls'

end Link

/-! ### Edits -/

/-- The second edit is the first with native inputs of the link among what it adds. -/
inductive LinkEdit.Widened (link : Link) : LinkEdit → LinkEdit → Prop where
  | set (s : LinkSetting) : Widened link (.set s) (.set s)
  | addObjects {os os' : List ObjectInput} (h : Widens link.NativeObject os os') :
      Widened link (.addObjects os) (.addObjects os')
  | addLibraries {ls ls' : List LibraryInput} (h : Widens link.NativeLibrary ls ls') :
      Widened link (.addLibraries ls) (.addLibraries ls')

/-- The edit adds native inputs of the link and nothing else. -/
inductive LinkEdit.AddsNative (link : Link) : LinkEdit → Prop where
  | addObjects {os : List ObjectInput} (h : ∀ o ∈ os, link.NativeObject o) : AddsNative link (.addObjects os)
  | addLibraries {ls : List LibraryInput} (h : ∀ l ∈ ls, link.NativeLibrary l) : AddsNative link (.addLibraries ls)

/-- The second run of edits is the first with native inputs of the link put in, in edits of their own or among the
inputs that an edit adds anyway. -/
inductive Link.WidenedRun (link : Link) : List LinkEdit → List LinkEdit → Prop where
  | nil : WidenedRun link [] []
  | edit {e e' : LinkEdit} (he : e.Widened link e') {es es' : List LinkEdit} (h : WidenedRun link es es') :
      WidenedRun link (e :: es) (e' :: es')
  | put {e : LinkEdit} (he : e.AddsNative link) {es es' : List LinkEdit} (h : WidenedRun link es es') :
      WidenedRun link es (e :: es')

/-- Two links that are kept in step by what is added to both, and by what is put in for one of them, are in step after
both lists have been added. Nothing that is put in is refused. -/
theorem Link.addEach_widens {α : Type} {add : Link → α → Except Cause Link} {next : Link → α → Link}
    {named p : α → Prop} {R : Link → Link → Prop} (hok : ∀ {link a}, named a → add link a = .ok (next link a))
    (herror : ∀ link {a}, ¬ named a → ∃ c, add link a = .error c)
    (hkeep : ∀ {link link'} a, R link link' → R (next link a) (next link' a))
    (hput : ∀ {link link' a}, p a → R link link' → R link (next link' a)) (hnamed : ∀ {a}, p a → named a)
    {as bs : List α} (h : Widens p as bs) {link link' : Link} (hR : R link link') :
    R (addEach add link as).1 (addEach add link' bs).1 := by
  induction h generalizing link link' with
  | nil => exact hR
  | keep a _ ih =>
      unfold addEach
      by_cases ha : named a
      · rw [hok ha, hok ha]
        exact ih (hkeep a hR)
      · -- both lists stop at what is refused, so what is put in behind it is lost in the second
        obtain ⟨c, hc⟩ := herror link ha
        obtain ⟨d, hd⟩ := herror link' ha
        rw [hc, hd]
        exact hR
  | put ha _ ih =>
      rw [addEach.eq_def add link' (_ :: _)]
      dsimp only
      rw [hok (hnamed ha)]
      exact ih (hput ha hR)

namespace Link.WidenedBy

variable {p : ObjectInput → Prop} {q : LibraryInput → Prop} {link link' : Link}

theorem refl (link : Link) : WidenedBy p q link link :=
  ⟨⟨_, _, _, rfl⟩, ⟨_, _, .refl _, (OrderedSet.ofList_toList _).symm, (OrderedSet.ofList_toList _).symm⟩,
    ⟨_, _, .refl _, (OrderedSet.ofList_toList _).symm, (OrderedSet.ofList_toList _).symm⟩⟩

theorem set (h : WidenedBy p q link link') (s : LinkSetting) : WidenedBy p q (link.set s) (link'.set s) := by
  obtain ⟨⟨os, ls, keep, rfl⟩, hobjects, hlibraries⟩ := h
  cases s <;> exact ⟨⟨os, ls, keep, rfl⟩, hobjects, hlibraries⟩

theorem withObject (h : WidenedBy p q link link') (o : ObjectInput) :
    WidenedBy p q (link.withObject o) (link'.withObject o) := by
  obtain ⟨⟨_, _, _, rfl⟩, ⟨os, os', hos, hlink, hlink'⟩, hlibraries⟩ := h
  exact ⟨⟨_, _, _, rfl⟩,
    ⟨_, _, hos.snoc_keep o, OrderedSet.insert_eq_ofList hlink o, OrderedSet.insert_eq_ofList hlink' o⟩, hlibraries⟩

theorem put_object (h : WidenedBy p q link link') {o : ObjectInput} (ho : p o) :
    WidenedBy p q link (link'.withObject o) := by
  obtain ⟨⟨_, _, _, rfl⟩, ⟨os, os', hos, hlink, hlink'⟩, hlibraries⟩ := h
  exact ⟨⟨_, _, _, rfl⟩, ⟨_, _, hos.snoc_put ho, hlink, OrderedSet.insert_eq_ofList hlink' o⟩, hlibraries⟩

theorem withLibrary (h : WidenedBy p q link link') (l : LibraryInput) :
    WidenedBy p q (link.withLibrary l) (link'.withLibrary l) := by
  obtain ⟨⟨_, _, _, rfl⟩, hobjects, ⟨ls, ls', hls, hlink, hlink'⟩⟩ := h
  exact ⟨⟨_, _, _, rfl⟩, hobjects,
    ⟨_, _, hls.snoc_keep l, OrderedSet.insert_eq_ofList hlink l, OrderedSet.insert_eq_ofList hlink' l⟩⟩

theorem put_library (h : WidenedBy p q link link') {l : LibraryInput} (hl : q l) :
    WidenedBy p q link (link'.withLibrary l) := by
  obtain ⟨⟨_, _, _, rfl⟩, hobjects, ⟨ls, ls', hls, hlink, hlink'⟩⟩ := h
  exact ⟨⟨_, _, _, rfl⟩, hobjects, ⟨_, _, hls.snoc_put hl, hlink, OrderedSet.insert_eq_ofList hlink' l⟩⟩

end Link.WidenedBy

namespace Link

variable {final link link' : Link}

/-- The second link is the first with native inputs of `final` put in. -/
abbrev WidenedFor (final : Link) : Link → Link → Prop := WidenedBy final.NativeObject final.NativeLibrary

theorem WidenedFor.addObjects (h : final.WidenedFor link link') {os os' : List ObjectInput}
    (hos : Widens final.NativeObject os os') : final.WidenedFor (link.addObjects os).1 (link'.addObjects os').1 :=
  addEach_widens addObject_of_named (fun _ _ ho => ⟨_, addObject_of_not_named ho⟩) (fun o hR => hR.withObject o)
    (fun ho hR => hR.put_object ho) NativeObject.named hos h

theorem WidenedFor.addLibraries (h : final.WidenedFor link link') {ls ls' : List LibraryInput}
    (hls : Widens final.NativeLibrary ls ls') :
    final.WidenedFor (link.addLibraries ls).1 (link'.addLibraries ls').1 :=
  addEach_widens addLibrary_of_named (fun _ _ hl => ⟨_, addLibrary_of_not_named hl⟩) (fun l hR => hR.withLibrary l)
    (fun hl hR => hR.put_library hl) NativeLibrary.named hls h

/-- One edit keeps the two links in step. -/
theorem WidenedFor.edit (h : final.WidenedFor link link') {e e' : LinkEdit} (he : e.Widened final e') :
    final.WidenedFor (link.edit e).1 (link'.edit e').1 := by
  cases he with
  | set s => exact WidenedBy.set h s
  | addObjects hos => exact h.addObjects hos
  | addLibraries hls => exact h.addLibraries hls

theorem WidenedFor.put (h : final.WidenedFor link link') {e : LinkEdit} (he : e.AddsNative final) :
    final.WidenedFor link (link'.edit e).1 := by
  cases he with
  | addObjects hos => exact h.addObjects (.of_forall hos)
  | addLibraries hls => exact h.addLibraries (.of_forall hls)

/-- All edits together keep them in step. -/
theorem WidenedFor.editAll (h : final.WidenedFor link link') {edits edits' : List LinkEdit}
    (hedits : final.WidenedRun edits edits') : final.WidenedFor (link.editAll edits) (link'.editAll edits') := by
  induction hedits generalizing link link' with
  | nil => exact h
  | edit he _ ih => exact ih (h.edit he)
  | put he _ ih => exact ih (h.put he)

/-! ### Bitcode that is the same -/

/-- Links that differ in nothing that has to do with their bitcode. -/
structure SameBitcode (link link' : Link) : Prop where
  rest : ∃ os ls keep, link' = { link with objects := os, libraries := ls, mustKeepDebug := keep }
  hasBitcode_eq : link'.hasBitcode = link.hasBitcode
  members_eq : link'.bitcodeMembers = link.bitcodeMembers
  own_eq : link'.objects.toList.filter (link.lto.isBitcode ·.artifact) =
    link.objects.toList.filter (link.lto.isBitcode ·.artifact)

section Native

variable (h : link.WidenedFor link link')
include h

theorem WidenedFor.filter_libraries :
    link'.libraries.toList.filter link.libraries.contains = link.libraries.toList := by
  obtain ⟨-, -, ls, ls', hls, hlink, hlink'⟩ := h
  rw [hlink', hls.filter_ofList (fun l hl => hl.new) (fun l k hlk => OrderedSet.contains_congr hlk), ← hlink]
  exact List.filter_eq_self.2 fun l hl => OrderedSet.contains_iff.2 ⟨l, hl, BEq.rfl⟩

/-- A library of the second link is one of the first or a native one. -/
theorem WidenedFor.native_of_not_contains {l : LibraryInput} (hl : l ∈ link'.libraries.toList)
    (hnew : link.libraries.contains l = false) : link.NativeLibrary l := by
  obtain ⟨-, -, ls, ls', hls, hlink, hlink'⟩ := h
  rw [hlink'] at hl
  refine (hls.mem_or (OrderedSet.mem_of_mem_ofList hl)).resolve_left fun hold => ?_
  rw [hlink, OrderedSet.contains_ofList_of_mem hold] at hnew
  cases hnew

theorem WidenedFor.mem_libraries {l : LibraryInput} (hl : l ∈ link.libraries.toList) :
    l ∈ link'.libraries.toList := by
  rw [← h.filter_libraries] at hl
  exact (List.mem_filter.1 hl).1

theorem WidenedFor.mem_or_native {l : LibraryInput} (hl : l ∈ link'.libraries.toList) :
    l ∈ link.libraries.toList ∨ link.NativeLibrary l := by
  cases hold : link.libraries.contains l with
  | true =>
      rw [← h.filter_libraries]
      exact Or.inl (List.mem_filter.2 ⟨hl, hold⟩)
  | false => exact Or.inr (h.native_of_not_contains hl hold)

/-- Native libraries record nothing. -/
theorem WidenedFor.libraryBitcode_contains (m : Artifact) :
    (libraryBitcode link'.libraries.toList).contains m = (libraryBitcode link.libraries.toList).contains m := by
  rw [Bool.eq_iff_iff, LinkPlanner.libraryBitcode_contains, LinkPlanner.libraryBitcode_contains]
  constructor
  · rintro ⟨k, hk, hbitcode⟩
    rcases h.mem_or_native hk with hk | hk
    · exact ⟨k, hk, hbitcode⟩
    · rw [LtoContext.isBitcode_of_isEmpty hk.noBitcode] at hbitcode
      cases hbitcode
  · rintro ⟨k, hk, hbitcode⟩
    exact ⟨k, h.mem_libraries hk, hbitcode⟩

theorem WidenedFor.hasBitcode_eq : link'.hasBitcode = link.hasBitcode := by
  have hany : link'.libraries.toList.any (!·.lto.isEmpty) = link.libraries.toList.any (!·.lto.isEmpty) := by
    rw [Bool.eq_iff_iff, List.any_eq_true, List.any_eq_true]
    constructor
    · rintro ⟨l, hl, hbitcode⟩
      rcases h.mem_or_native hl with hl | hl
      · exact ⟨l, hl, hbitcode⟩
      · rw [hl.noBitcode] at hbitcode
        cases hbitcode
    · rintro ⟨l, hl, hbitcode⟩
      exact ⟨l, h.mem_libraries hl, hbitcode⟩
  obtain ⟨⟨os, ls, keep, rfl⟩, -, -⟩ := h
  exact congrArg (!link.lto.isEmpty || ·) hany

theorem WidenedFor.bitcodeMembers_eq : link'.bitcodeMembers = link.bitcodeMembers := by
  have hsame : (libraryBitcode link'.libraries.toList).contains = (libraryBitcode link.libraries.toList).contains :=
    funext h.libraryBitcode_contains
  unfold bitcodeMembers
  dsimp only
  rw [hsame, ← flatMap_filter_of_nil (q := link.libraries.contains), h.filter_libraries]
  intro l hl hnew
  -- a native library adds no members, because nothing of it is recorded in the union of all contexts
  have hnative := h.native_of_not_contains hl hnew
  refine List.map_eq_nil_iff.2 (List.filter_eq_nil_iff.2 fun m hm hbitcode => ?_)
  obtain ⟨k, hk, hbitcode⟩ := LinkPlanner.libraryBitcode_contains.1 hbitcode
  rw [hnative.unrecorded m hm k hk] at hbitcode
  cases hbitcode

theorem WidenedFor.sameBitcode : link.SameBitcode link' := by
  refine ⟨h.rest, h.hasBitcode_eq, h.bitcodeMembers_eq, ?_⟩
  obtain ⟨-, ⟨os, os', hos, hlink, hlink'⟩, -⟩ := h
  rw [hlink, hlink']
  exact hos.filter_ofList (fun o ho => ho.native) fun o q hoq => LtoContext.isBitcode_congr hoq

end Native

/-! ### Backends -/

section Same

variable (h : link.SameBitcode link')
include h

theorem SameBitcode.decide_eq (features : Features) :
    (link'.ltoFacts features).decide = (link.ltoFacts features).decide := by
  obtain ⟨⟨os, ls, keep, hlink'⟩, hhas, -, -⟩ := h
  unfold ltoFacts
  rw [hhas, hlink']

theorem SameBitcode.bitcodeFiles_eq (decision : LtoDecision) :
    link'.bitcodeFiles decision = link.bitcodeFiles decision := by
  obtain ⟨⟨os, ls, keep, hlink'⟩, -, hmembers, hown⟩ := h
  have hlto : link'.lto = link.lto := by rw [hlink']
  rw [Link.bitcodeFiles_eq, Link.bitcodeFiles_eq, hmembers, hlto, hown]

theorem SameBitcode.memberBackends_eq (build : Build) (decision : LtoDecision) (roots : LtoRoots)
    (files : BitcodeFiles) :
    link'.memberBackends build decision roots files = link.memberBackends build decision roots files := by
  obtain ⟨⟨os, ls, keep, hlink'⟩, -, hmembers, -⟩ := h
  unfold memberBackends
  rw [hmembers, hlink']

theorem SameBitcode.ownBackends_eq (build : Build) (decision : LtoDecision) (roots : LtoRoots)
    (files : BitcodeFiles) :
    link'.ownBackends build decision roots files = link.ownBackends build decision roots files := by
  obtain ⟨⟨os, ls, keep, hlink'⟩, -, -, hown⟩ := h
  have hlto : link'.lto = link.lto := by rw [hlink']
  unfold ownBackends
  rw [List.filter_map, List.filter_map, hlto]
  dsimp only [Function.comp_def]
  rw [hown, hlink']

/-- What is settled before there is a backend. -/
theorem SameBitcode.unchanged (env : Env) (decision : LtoDecision) :
    link'.ensureValid env = link.ensureValid env ∧ link'.owner = link.owner ∧
      link'.ltoRoots env.features decision = link.ltoRoots env.features decision := by
  obtain ⟨⟨os, ls, keep, rfl⟩, -, -, -⟩ := h
  exact ⟨rfl, rfl, rfl⟩

/-- The planning of backends comes to the same for both links: it brings about the same, and it fails for the same
cause or yields the same but for the link. -/
theorem SameBitcode.planBackends_eq (env : Env) :
    link'.planBackends env = (fun p => { p with link := link' }) <$> link.planBackends env := by
  obtain ⟨hvalid, howner, hroots⟩ := h.unchanged env (link.ltoFacts env.features).decide
  unfold planBackends
  simp only [Planning.map_during, map_bind, map_pure, h.decide_eq, h.bitcodeFiles_eq, h.memberBackends_eq,
    h.ownBackends_eq, hvalid, howner, hroots]

end Same

/-- Native inputs can be put anywhere among the edits of a link and among the inputs that they add: the planning of
backends declares the same and fails for the same cause, or yields the same decision, roots, backends and mapping. -/
theorem planBackends_of_widenedRun (env : Env) (start : Link) {edits edits' : List LinkEdit}
    (h : (start.editAll edits).WidenedRun edits edits') :
    (start.editAll edits').planBackends env =
      (fun p => { p with link := start.editAll edits' }) <$> (start.editAll edits).planBackends env :=
  have hwidened : (start.editAll edits).WidenedFor (start.editAll edits) (start.editAll edits') :=
    WidenedFor.editAll (.refl start) h
  hwidened.sameBitcode.planBackends_eq env

end Link

namespace Sample

/-- An object without bitcode. -/
def nativeObject (path : String) : ObjectInput := .ofArtifact (file path)

/-- A library without bitcode. -/
def nativeLibrary : LibraryInput :=
  { LibraryInput.ofArtifact (file "sys/libsys.a") .staticLibrary with objects := .ofList [file "sys/sys.o"] }

def bareLink : Link :=
  { Link.start (env []).toBuild "//app:app" (file "app/app") with linkType := .executable, linkingMode := .dynamic }

/-- The executable is put together from two objects of its own and a library, all of which are bitcode. -/
def edits : List LinkEdit :=
  [.addObjects [.ofArtifact (file "app/main.o"), .ofArtifact (file "app/util.o")],
    .set (.lto (context ["app/main.o", "app/util.o"])), .addLibraries [library (env [])]]

/-- The same with native inputs put in before, between and among them. -/
def widenedEdits : List LinkEdit :=
  [.addLibraries [nativeLibrary],
    .addObjects [.ofArtifact (file "app/main.o"), nativeObject "app/asm.o", .ofArtifact (file "app/util.o")],
    .set (.lto (context ["app/main.o", "app/util.o"])), .addObjects [nativeObject "app/late.o"],
    .addLibraries [nativeLibrary, library (env [])]]

theorem nativeLibrary_native : (bareLink.editAll edits).NativeLibrary nativeLibrary where
  named := by decide +kernel
  new := by decide +kernel
  noBitcode := rfl
  unrecorded := by decide +kernel

theorem widenedEdits_widen : (bareLink.editAll edits).WidenedRun edits widenedEdits := by
  have hasm : (bareLink.editAll edits).NativeObject (nativeObject "app/asm.o") :=
    ⟨by decide +kernel, by decide +kernel⟩
  have hlate : (bareLink.editAll edits).NativeObject (nativeObject "app/late.o") :=
    ⟨by decide +kernel, by decide +kernel⟩
  refine .put (.addLibraries fun l hl => ?_) <| .edit (.addObjects ?_) <| .edit (.set _) <|
    .put (.addObjects fun o ho => ?_) <| .edit (.addLibraries ?_) .nil
  · rw [List.mem_singleton.1 hl]
    exact nativeLibrary_native
  · exact .keep _ (.put hasm (.keep _ .nil))
  · rw [List.mem_singleton.1 ho]
    exact hlate
  · exact .put nativeLibrary_native (.keep _ .nil)

/-- Three backends either way. -/
theorem native_inputs_of_sample :
    (bareLink.editAll edits).WidenedRun edits widenedEdits ∧
      (bareLink.editAll widenedEdits).objects.toList.length = 4 ∧
      (bareLink.editAll widenedEdits).planBackends (env []) =
        (fun p => { p with link := bareLink.editAll widenedEdits }) <$>
          (bareLink.editAll edits).planBackends (env []) ∧
      ∃ p, ((bareLink.editAll edits).planBackends (env [])).Yields p ∧
        p.backends.toList.map (·.objectFile.text) =
          ["bin/app/app.lto/dep/dep.o", "bin/app/app.lto/app/main.o", "bin/app/app.lto/app/util.o"] := by
  obtain ⟨p, hp, htexts⟩ := Planning.exists_yields_of_check ((bareLink.editAll edits).planBackends (env []))
    (fun p => p.backends.toList.map (·.objectFile.text) =
      ["bin/app/app.lto/dep/dep.o", "bin/app/app.lto/app/main.o", "bin/app/app.lto/app/util.o"]) (by decide +kernel)
  exact ⟨widenedEdits_widen, by decide +kernel,
    Link.planBackends_of_widenedRun (env []) bareLink widenedEdits_widen, p, hp, of_decide_eq_true htexts⟩

end Sample
end LinkPlanner
