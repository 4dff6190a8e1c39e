import LinkPlanner.Lto.Backend
import LinkPlanner.Proofs.Yields

/-! Steps of planning whose result does not depend on the session. Such a step either succeeds in every session, or
fails in every session for one cause; what it fails for can be told without running it. -/

namespace LinkPlanner.Planning

variable {α β : Type} {act : Planning α} {r : Except Cause α}

/-- In every session the step has this result, or fails for this cause. -/
def Settles (act : Planning α) (r : Except Cause α) : Prop := ∀ s, (act.run s).1.mapError Failure.cause = r

theorem settles_pure (a : α) : Settles (pure a) (.ok a) := fun _ => rfl

theorem settles_ofCause (r : Except Cause α) : Settles (ofCause r) r := by
  intro s
  rw [run_ofCause]
  cases r <;> rfl

theorem settles_declare (as : List (Artifact × Sharing)) : Settles (declare as) (.ok ()) := fun _ => rfl

theorem Settles.bind {f : α → Planning β} {q : α → Except Cause β} (hact : Settles act r)
    (hf : ∀ a, r = .ok a → Settles (f a) (q a)) : Settles (act >>= f) (r >>= q) := by
  intro s
  have hfirst := hact s
  rw [run_bind]
  rcases hrun : act.run s with ⟨e | a, t⟩ <;> rw [hrun] at hfirst <;> subst hfirst
  · rfl
  · exact hf a rfl t

theorem Settles.bind_ok {a : α} {f : α → Planning β} {q : Except Cause β} (hact : Settles act (.ok a))
    (hf : Settles (f a) q) : Settles (act >>= f) q :=
  hact.bind (q := fun _ => q) fun b hb => by cases hb; exact hf

theorem Settles.bind_error {c : Cause} {f : α → Planning β} (hact : Settles act (.error c)) :
    Settles (act >>= f) (.error c) :=
  hact.bind (q := fun _ => .error c) fun _ h => by cases h

theorem Settles.map (hact : Settles act r) (g : α → β) : Settles (g <$> act) (g <$> r) := by
  rw [map_eq_pure_bind, map_eq_pure_bind]
  exact hact.bind fun a _ => settles_pure (g a)

theorem Settles.within (hact : Settles act r) (c : Circumstance) : Settles (within c act) r := by
  intro s
  rw [run_within, ← hact s]
  rcases (act.run s).1 with e | a <;> rfl

theorem Settles.during (hact : Settles act r) (p : Phase) : Settles (during p act) r := by
  intro s
  rw [run_during]
  exact hact _

/-- A step that settles on a cause fails for it in every session. -/
theorem Settles.run_error {c : Cause} (hact : Settles act (.error c)) (s : Session) :
    ∃ f t, act.run s = (.error f, t) ∧ f.cause = c := by
  have hfirst := hact s
  rcases hrun : act.run s with ⟨f | a, t⟩ <;> rw [hrun] at hfirst
  · exact ⟨f, t, rfl, Except.error.inj hfirst⟩
  · cases hfirst

/-- A step that settles on a result has it in every session. -/
theorem Settles.run_ok {a : α} (hact : Settles act (.ok a)) (s : Session) : ∃ t, act.run s = (.ok a, t) := by
  have hfirst := hact s
  rcases hrun : act.run s with ⟨f | b, t⟩ <;> rw [hrun] at hfirst
  · cases hfirst
  · cases hfirst
    exact ⟨t, rfl⟩

theorem Settles.eq_of_yields (hact : Settles act r) {a : α} (h : act.Yields a) : r = .ok a := by
  obtain ⟨s, t, hrun⟩ := h
  have hfirst := hact s
  rw [hrun] at hfirst
  exact hfirst.symm

/-- The step has the same result in every session. -/
def Succeeds (act : Planning α) : Prop := ∃ a, Settles act (.ok a)

theorem succeeds_pure (a : α) : Succeeds (pure a) := ⟨a, settles_pure a⟩

theorem Settles.bind_succeeds {a : α} {f : α → Planning β} (hact : Settles act (.ok a)) (hf : Succeeds (f a)) :
    Succeeds (act >>= f) := by
  obtain ⟨b, hb⟩ := hf
  exact ⟨b, hact.bind_ok hb⟩

theorem Succeeds.during (hact : Succeeds act) (p : Phase) : Succeeds (during p act) := by
  obtain ⟨a, ha⟩ := hact
  exact ⟨a, ha.during p⟩

/-- The step fails for the cause that the verdict tells, and succeeds if it tells none. -/
def Heeds {γ : Type} (act : Planning α) : Except Cause γ → Prop
  | .error c => Settles act (.error c)
  | .ok _ => Succeeds act

/-- Nothing fails after a step that has settled. -/
theorem Settles.heeds {f : α → Planning β} (hact : Settles act r) (hf : ∀ a, r = .ok a → Succeeds (f a)) :
    Heeds (act >>= f) r := by
  cases r with
  | error c => exact hact.bind_error
  | ok a => exact hact.bind_succeeds (hf a rfl)

theorem Settles.bind_heeds {γ : Type} {f : α → Planning β} {v : α → Except Cause γ} (hact : Settles act r)
    (hf : ∀ a, r = .ok a → Heeds (f a) (v a)) : Heeds (act >>= f) (r >>= v) := by
  cases r with
  | error c => exact hact.bind_error
  | ok a =>
      have hrest := hf a rfl
      change Heeds (act >>= f) (v a)
      cases hv : v a with
      | error c =>
          rw [hv] at hrest
          exact hact.bind_ok hrest
      | ok d =>
          rw [hv] at hrest
          exact hact.bind_succeeds hrest

theorem Heeds.bind {γ : Type} {f : α → Planning β} {v : Except Cause γ} (hact : Heeds act v)
    (hf : ∀ a, Settles act (.ok a) → v.isOk = true → Succeeds (f a)) : Heeds (act >>= f) v := by
  cases v with
  | error c => exact Settles.bind_error hact
  | ok d =>
      obtain ⟨a, ha⟩ := hact
      exact ha.bind_succeeds (hf a ha rfl)

theorem Heeds.during {γ : Type} {v : Except Cause γ} (hact : Heeds act v) (p : Phase) : Heeds (during p act) v := by
  cases v with
  | error c => exact Settles.during hact p
  | ok d => exact Succeeds.during hact p

/-- A step that fails does so for the cause that its verdict tells. -/
theorem Heeds.verdict_of_run_error {γ : Type} {v : Except Cause γ} (hact : Heeds act v) {s t : Session} {f : Failure}
    (hrun : act.run s = (.error f, t)) : v = .error f.cause := by
  cases v with
  | error c =>
      obtain ⟨g, u, hfails, rfl⟩ := Settles.run_error hact s
      rw [hrun] at hfails
      cases hfails
      rfl
  | ok d =>
      obtain ⟨a, ha⟩ := hact
      obtain ⟨u, hok⟩ := ha.run_ok s
      rw [hrun] at hok
      cases hok

/-- A step that heeds a verdict succeeds in every session if it does in one. -/
theorem Heeds.run_of_yields {γ : Type} {v : Except Cause γ} (hact : Heeds act v) {a : α} (h : act.Yields a)
    (s : Session) : ∃ b t, act.run s = (.ok b, t) := by
  cases v with
  | error c =>
      obtain ⟨u, w, hrun⟩ := h
      obtain ⟨f, t, hfails, -⟩ := Settles.run_error hact u
      rw [hrun] at hfails
      cases hfails
  | ok d =>
      obtain ⟨b, hb⟩ := hact
      obtain ⟨t, hrun⟩ := hb.run_ok s
      exact ⟨b, t, hrun⟩

/-- A step that heeds a verdict succeeds exactly if the verdict does, in whichever session. -/
theorem Heeds.isOk_run {γ : Type} {v : Except Cause γ} (hact : Heeds act v) (s : Session) :
    (act.run s).1.isOk = v.isOk := by
  cases v with
  | error c =>
      obtain ⟨f, t, hrun, -⟩ := Settles.run_error hact s
      rw [hrun]
      rfl
  | ok d =>
      obtain ⟨a, ha⟩ := hact
      obtain ⟨t, hrun⟩ := ha.run_ok s
      rw [hrun]
      rfl

theorem settles_createSharedBackends (env : Env) (lto : LtoContext) (objects : List Artifact) (usePic : Bool) :
    Settles (createSharedBackends env lto objects usePic)
      (.ok (.ofBackends (Backend.createShared env.toBuild lto objects usePic))) := by
  refine Settles.during (Settles.bind_ok (settles_declare _) ?_) _
  exact settles_pure _

end LinkPlanner.Planning
