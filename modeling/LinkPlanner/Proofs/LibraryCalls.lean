import Mathlib.Data.List.Basic
import LinkPlanner.Link.Edit
import LinkPlanner.Proofs.ProducedLibraries

/-! Libraries that are put together call by call. A library with shared backends ought to have one for each of its
bitcode files. This is looked at when the backends are attached, but bitcode files can be set again behind that. So a
library is as it ought to be exactly if the backends that it had when its bitcode files were last set are for all of
them. -/

namespace LinkPlanner

/-- The call sets something that bitcode has nothing to do with. -/
def LibraryCall.isAttribute : LibraryCall → Bool
  | .identifier _ | .mustKeepDebug _ | .disableWholeArchive _ => true
  | .objects _ _ | .sharedBackends _ | .replacedObjects _ => false

namespace LibraryInput

/-- The shared backends of the library, if it has any, are for all bitcode files of the context. -/
def Backs (l : LibraryInput) (lto : LtoContext) : Prop :=
  ∀ backends ∈ l.sharedBackends, ∀ bitcode ∈ lto.files, backends.contains bitcode = true

instance (l : LibraryInput) (lto : LtoContext) : Decidable (l.Backs lto) :=
  inferInstanceAs (Decidable (∀ backends ∈ l.sharedBackends, ∀ bitcode ∈ lto.files, backends.contains bitcode = true))

/-- The library has shared backends for all of its bitcode files, or none at all. -/
def Backed (l : LibraryInput) : Prop := l.Backs l.lto

instance (l : LibraryInput) : Decidable l.Backed := inferInstanceAs (Decidable (l.Backs l.lto))

variable {start l k : LibraryInput} {c : LibraryCall} {calls : List LibraryCall} {lto : LtoContext}

theorem backs_of_none (h : l.sharedBackends = none) (lto : LtoContext) : l.Backs lto := by
  intro backends hbackends
  rw [h] at hbackends
  cases hbackends

/-! ### One call -/

theorem backed_iff_of_attribute (hc : c.isAttribute = true) (h : l.call c = .ok k) : k.Backed ↔ l.Backed := by
  cases c <;> cases hc <;> cases h <;> exact Iff.rfl

/-- Bitcode files are set whatever backends the library has. -/
theorem backed_withObjects_iff (objects : List Artifact) : (l.withObjects objects lto).Backed ↔ l.Backs lto := Iff.rfl

theorem backed_of_withSharedBackends {backends : SharedBackends} (h : l.withSharedBackends backends = .ok k) :
    k.Backed := by
  obtain ⟨rfl, hcovered⟩ := of_withSharedBackends h
  intro attached hattached bitcode hbitcode
  cases hattached
  obtain ⟨e, he, rfl⟩ := List.mem_map.1 hbitcode
  exact hcovered e.1 (OrderedMap.contains_iff.2 ⟨e, he, BEq.rfl⟩)

/-- A library that is given other members loses its backends. -/
theorem backed_withReplacedObjects (objects : OrderedSet Artifact) : (l.withReplacedObjects objects).Backed :=
  backs_of_none rfl _

/-! ### Several calls -/

theorem callAll_concat_eq_ok :
    l.callAll (calls ++ [c]) = .ok k ↔ ∃ m, l.callAll calls = .ok m ∧ m.call c = .ok k := by
  unfold callAll
  rw [List.foldlM_append]
  cases calls.foldlM call l with
  | error e => exact iff_of_false nofun fun ⟨_, hm, _⟩ => nomatch hm
  | ok m =>
      change [c].foldlM call m = _ ↔ _
      rw [List.foldlM_cons]
      constructor
      · intro h
        refine ⟨m, rfl, ?_⟩
        cases hcall : m.call c with
        | error e => rw [hcall] at h; cases h
        | ok n => rw [hcall] at h; exact h
      · rintro ⟨_, ⟨⟩, h⟩
        rw [h]
        rfl

/-- When its bitcode files are set, and nothing else to do with bitcode behind that, the library has no shared backends
or has them for all of these files. -/
def FindsBackends (start : LibraryInput) (calls : List LibraryCall) : Prop :=
  ∀ before objects lto after l, calls = before ++ .objects objects lto :: after →
    (∀ c ∈ after, c.isAttribute = true) → start.callAll before = .ok l → l.Backs lto

theorem findsBackends_nil (start : LibraryInput) : start.FindsBackends [] :=
  fun _ _ _ _ _ h => absurd h.symm (List.append_ne_nil_of_right_ne_nil _ (List.cons_ne_nil _ _))

/-- The last call of several is the one in question or stands behind it. -/
theorem concat_eq_append_cons {before after : List LibraryCall} {d : LibraryCall}
    (h : calls ++ [c] = before ++ d :: after) :
    (after = [] ∧ calls = before ∧ c = d) ∨ ∃ rest, after = rest ++ [c] ∧ calls = before ++ d :: rest := by
  rcases List.eq_nil_or_concat' after with rfl | ⟨rest, last, rfl⟩
  · exact Or.inl ⟨rfl, List.append_singleton_inj.1 h⟩
  · rw [← List.cons_append, ← List.append_assoc] at h
    obtain ⟨hcalls, rfl⟩ := List.append_singleton_inj.1 h
    exact Or.inr ⟨rest, rfl, hcalls⟩

theorem findsBackends_concat_attribute (hc : c.isAttribute = true) :
    start.FindsBackends (calls ++ [c]) ↔ start.FindsBackends calls := by
  constructor
  · intro h before objects lto after l hcalls hafter
    refine h before objects lto (after ++ [c]) l (by rw [hcalls, List.append_assoc, List.cons_append]) fun d hd => ?_
    rcases List.mem_append.1 hd with hd | hd
    · exact hafter d hd
    · rw [List.mem_singleton.1 hd]
      exact hc
  · intro h before objects lto after l hcalls hafter
    rcases concat_eq_append_cons hcalls with ⟨-, -, rfl⟩ | ⟨rest, rfl, hbefore⟩
    · cases hc
    · exact h before objects lto rest l hbefore fun d hd => hafter d (List.mem_append_left _ hd)

theorem findsBackends_concat_objects (hrun : start.callAll calls = .ok l) (objects : List Artifact) :
    start.FindsBackends (calls ++ [.objects objects lto]) ↔ l.Backs lto := by
  constructor
  · exact fun h => h calls objects lto [] l rfl (List.forall_mem_nil _) hrun
  · intro h before objects' lto' after l' hcalls hafter hbefore
    rcases concat_eq_append_cons hcalls with ⟨-, rfl, heq⟩ | ⟨rest, rfl, -⟩
    · cases heq
      cases hrun.symm.trans hbefore
      exact h
    · cases hafter _ (List.mem_append_right _ (List.mem_singleton_self _))

/-- Bitcode files that were set before backends are attached or taken away need not have found any. -/
theorem findsBackends_concat_other (hc : c.isAttribute = false) (hobjects : ∀ objects lto, c ≠ .objects objects lto) :
    start.FindsBackends (calls ++ [c]) := by
  intro before objects lto after l hcalls hafter
  rcases concat_eq_append_cons hcalls with ⟨-, -, heq⟩ | ⟨rest, rfl, -⟩
  · exact absurd heq (hobjects objects lto)
  · rw [hafter c (List.mem_append_right _ (List.mem_singleton_self c))] at hc
    cases hc

/-- What several calls make of a library is as it ought to be exactly if its bitcode files found their backends. -/
theorem backed_callAll_iff (hstart : start.Backed) (hrun : start.callAll calls = .ok l) :
    l.Backed ↔ start.FindsBackends calls := by
  induction calls using List.reverseRecOn generalizing l with
  | nil =>
      cases hrun
      exact iff_of_true hstart (findsBackends_nil start)
  | append_singleton calls c ih =>
      obtain ⟨m, hbefore, hcall⟩ := callAll_concat_eq_ok.1 hrun
      cases hc : c.isAttribute with
      | true => rw [backed_iff_of_attribute hc hcall, ih hbefore, findsBackends_concat_attribute hc]
      | false =>
          cases c with
          | objects objects lto =>
              cases hcall
              rw [backed_withObjects_iff, findsBackends_concat_objects hbefore]
          | sharedBackends backends =>
              exact iff_of_true (backed_of_withSharedBackends hcall) (findsBackends_concat_other hc nofun)
          | replacedObjects objects =>
              cases hcall
              exact iff_of_true (backed_withReplacedObjects objects) (findsBackends_concat_other hc nofun)
          | identifier | mustKeepDebug | disableWholeArchive => cases hc

/-- A library whose backends have not been attached yet has none. -/
theorem sharedBackends_of_callAll (hstart : start.sharedBackends = none) (hrun : start.callAll calls = .ok l)
    (hcalls : ∀ backends, .sharedBackends backends ∉ calls) : l.sharedBackends = none := by
  induction calls using List.reverseRecOn generalizing l with
  | nil =>
      cases hrun
      exact hstart
  | append_singleton calls c ih =>
      obtain ⟨m, hbefore, hcall⟩ := callAll_concat_eq_ok.1 hrun
      have hm := ih hbefore fun backends hmem => hcalls backends (List.mem_append_left _ hmem)
      cases c with
      | sharedBackends backends =>
          exact absurd (List.mem_append_right _ (List.mem_singleton_self _)) (hcalls backends)
      | identifier | objects | mustKeepDebug | disableWholeArchive =>
          cases hcall
          exact hm
      | replacedObjects =>
          cases hcall
          rfl

end LibraryInput

/-- A library that is put together from nothing has shared backends for all of its bitcode files, or none at all,
exactly if its bitcode files found their backends. They do if backends are only attached behind the bitcode files. -/
theorem LibraryInput.backed_iff_finds_backends {a : Artifact} {category : LibraryCategory} {calls : List LibraryCall}
    {l : LibraryInput} (hrun : (ofArtifact a category).callAll calls = .ok l) :
    (l.Backed ↔ (ofArtifact a category).FindsBackends calls) ∧
      ((∀ before objects lto after, calls = before ++ .objects objects lto :: after →
        ∀ backends, .sharedBackends backends ∉ before) → l.Backed) := by
  have hiff := backed_callAll_iff (backs_of_none rfl _) hrun
  refine ⟨hiff, fun horder => hiff.2 ?_⟩
  intro before objects lto after k hcalls _ hbefore
  exact backs_of_none (sharedBackends_of_callAll rfl hbefore (horder before objects lto after hcalls)) lto

namespace Sample

/-- What these calls make of a new library. -/
def libraryOf (calls : List LibraryCall) : Except Cause LibraryInput :=
  (LibraryInput.ofArtifact (file "dep/libdep.a") .staticLibrary).callAll calls

/-- The backends are attached behind the bitcode files, and attributes are set in between and afterwards. -/
def orderlyCalls : List LibraryCall :=
  [.objects [file "dep/dep.o"] (context ["dep/dep.o"]), .identifier "dep", .sharedBackends (sharedBackends (env [])),
    .mustKeepDebug true]

theorem orderly_calls_backed :
    ∃ l, libraryOf orderlyCalls = .ok l ∧ l.sharedBackends.isSome = true ∧ l.lto.isBitcode (file "dep/dep.o") = true ∧
      l.Backed := by
  obtain ⟨l, hrun, hshared, hbitcode⟩ : ∃ l, libraryOf orderlyCalls = .ok l ∧ l.sharedBackends.isSome = true ∧
      l.lto.isBitcode (file "dep/dep.o") = true := ⟨_, rfl, by decide, by decide +kernel⟩
  refine ⟨l, hrun, hshared, hbitcode, (LibraryInput.backed_iff_finds_backends hrun).2 ?_⟩
  intro before objects lto after hcalls backends hmem
  cases before with
  | nil => cases hmem
  | cons first before =>
      -- there is no second call that sets bitcode files
      have htail : orderlyCalls.tail = before ++ .objects objects lto :: after := congrArg List.tail hcalls
      have hlater : LibraryCall.objects objects lto ∈ orderlyCalls.tail :=
        htail ▸ List.mem_append_right before List.mem_cons_self
      simp [orderlyCalls] at hlater

/-- A library takes new bitcode files although there are none of them among its backends. -/
theorem bitcode_set_behind_backends :
    ∃ l, libraryOf [.sharedBackends .empty, .objects [file "dep/dep.o"] (context ["dep/dep.o"])] = .ok l ∧
      l.sharedBackends.isSome = true ∧ l.lto.isBitcode (file "dep/dep.o") = true ∧ ¬ l.Backed :=
  ⟨_, rfl, by decide, by decide +kernel, by decide +kernel⟩

end Sample
end LinkPlanner
