import LinkPlanner.Planning

/-! What steps of planning yield. A step starts in some session and leaves another one behind; what it
yields is all that the theorems about plans look at. Each way of putting steps together has one lemma
that takes it apart again, so that the phases of planning are opened without their definitions. -/

namespace LinkPlanner.Planning

variable {α β : Type}

/-! ### Results for lists -/

/-- Results for a list come from its elements, and every element has one. -/
theorem mem_of_mapM_eq_ok {ε : Type} {f : α → Except ε β} {as : List α} {bs : List β}
    (h : as.mapM f = .ok bs) :
    (∀ b ∈ bs, ∃ a ∈ as, f a = .ok b) ∧ ∀ a ∈ as, ∃ b ∈ bs, f a = .ok b := by
  induction as generalizing bs with
  | nil =>
      rw [List.mapM_nil] at h
      cases h
      constructor <;> intro c hc <;> cases hc
  | cons a as ih =>
      rw [List.mapM_cons] at h
      cases ha : f a with
      | error e =>
          rw [ha] at h
          cases h
      | ok b =>
          cases has : as.mapM f with
          | error e =>
              rw [ha, has] at h
              cases h
          | ok rest =>
              rw [ha, has] at h
              cases h
              obtain ⟨hfrom, hto⟩ := ih has
              constructor
              · intro c hc
                rcases List.mem_cons.1 hc with rfl | hc
                · exact ⟨a, List.mem_cons_self, ha⟩
                · obtain ⟨d, hd, hdc⟩ := hfrom c hc
                  exact ⟨d, List.mem_cons_of_mem _ hd, hdc⟩
              · intro c hc
                rcases List.mem_cons.1 hc with rfl | hc
                · exact ⟨b, List.mem_cons_self, ha⟩
                · obtain ⟨d, hd, hcd⟩ := hto c hc
                  exact ⟨d, List.mem_cons_of_mem _ hd, hcd⟩

/-- What every result takes over from its element, the results take over from the list. -/
theorem map_of_mapM_eq_ok {ε γ : Type} {f : α → Except ε β} {g : β → γ} {g' : α → γ}
    (hg : ∀ a b, f a = .ok b → g b = g' a) {as : List α} {bs : List β} (h : as.mapM f = .ok bs) :
    bs.map g = as.map g' := by
  induction as generalizing bs with
  | nil =>
      rw [List.mapM_nil] at h
      cases h
      rfl
  | cons a as ih =>
      rw [List.mapM_cons] at h
      cases ha : f a with
      | error e =>
          rw [ha] at h
          cases h
      | ok b =>
          cases has : as.mapM f with
          | error e =>
              rw [ha, has] at h
              cases h
          | ok rest =>
              rw [ha, has] at h
              cases h
              rw [List.map_cons, List.map_cons, hg a b ha, ih has]

/-- A check of a list fails as its first failing item does. -/
theorem exists_of_mapM_eq_error {ε : Type} {f : α → Except ε β} {as : List α} {e : ε} (h : as.mapM f = .error e) :
    ∃ a ∈ as, f a = .error e := by
  induction as with
  | nil => cases h
  | cons a as ih =>
      rw [List.mapM_cons] at h
      cases ha : f a with
      | error d =>
          rw [ha] at h
          cases h
          exact ⟨a, List.mem_cons_self, ha⟩
      | ok b =>
          rw [ha] at h
          cases has : as.mapM f with
          | error d =>
              rw [has] at h
              cases h
              obtain ⟨c, hc, hce⟩ := ih has
              exact ⟨c, List.mem_cons_of_mem _ hc, hce⟩
          | ok bs =>
              rw [has] at h
              cases h

theorem exists_mapM_eq_ok {ε : Type} {f : α → Except ε β} {as : List α} (h : ∀ a ∈ as, ∃ b, f a = .ok b) :
    ∃ bs, as.mapM f = .ok bs := by
  cases hm : as.mapM f with
  | ok bs => exact ⟨bs, rfl⟩
  | error e =>
      obtain ⟨a, ha, he⟩ := exists_of_mapM_eq_error hm
      obtain ⟨b, hb⟩ := h a ha
      rw [he] at hb
      cases hb

/-! ### Runs -/

theorem run_bind (act : Planning α) (f : α → Planning β) (s : Session) :
    (act >>= f).run s =
      match act.run s with
      | (.ok a, s') => (f a).run s'
      | (.error e, s') => (.error e, s') := by
  unfold run
  rw [ExceptT.run_bind]
  simp only [StateT.run_bind]
  rcases hact : StateT.run (ExceptT.run act) s with ⟨r | a, s'⟩ <;> rfl

theorem run_ofCause (r : Except Cause α) (s : Session) :
    (ofCause r).run s = (r.mapError fun c => { cause := c }, s) := by
  cases r <;> rfl

theorem run_within (c : Circumstance) (act : Planning α) (s : Session) :
    (within c act).run s = ((act.run s).1.mapError (·.within c), (act.run s).2) := by
  unfold run ExceptT.run StateT.run within
  rcases act s with ⟨r | a, s'⟩ <;> rfl

theorem run_during (p : Phase) (act : Planning α) (s : Session) :
    ((during p act).run s).1 = (act.run { s with depth := s.depth + 1 }).1 := rfl

theorem run_register (env : Env) (c : LinkstampCompile) (s : Session) :
    (register env c).run s =
      match env.linkstampCompiler c with
      | .ok _ => (.ok (), { s with compiles := s.compiles ++ [c] })
      | .error reason => (.error { cause := .refused reason, circumstances := [.compilingLinkstamp c.source] }, s) := by
  unfold register
  rw [run_bind, run_within, ofCollaborator, run_ofCause]
  cases env.linkstampCompiler c <;> rfl

/-! ### Runs that succeed -/

theorem of_run_bind {act : Planning α} {f : α → Planning β} {s u : Session} {b : β}
    (h : (act >>= f).run s = (.ok b, u)) : ∃ a t, act.run s = (.ok a, t) ∧ (f a).run t = (.ok b, u) := by
  rw [run_bind] at h
  rcases hact : act.run s with ⟨e | a, t⟩ <;> rw [hact] at h
  · cases h
  · exact ⟨a, t, rfl, h⟩

theorem of_run_map {act : Planning α} {f : α → β} {s u : Session} {b : β} (h : (f <$> act).run s = (.ok b, u)) :
    ∃ a, act.run s = (.ok a, u) ∧ b = f a := by
  rw [map_eq_pure_bind] at h
  obtain ⟨a, t, hact, hpure⟩ := of_run_bind h
  cases hpure
  exact ⟨a, hact, rfl⟩

theorem of_run_ofCause {r : Except Cause α} {s u : Session} {a : α} (h : (ofCause r).run s = (.ok a, u)) :
    r = .ok a ∧ u = s := by
  rw [run_ofCause] at h
  cases r <;> cases h
  exact ⟨rfl, rfl⟩

theorem of_run_within {c : Circumstance} {act : Planning α} {s u : Session} {a : α}
    (h : (within c act).run s = (.ok a, u)) : act.run s = (.ok a, u) := by
  rw [run_within] at h
  rcases hact : act.run s with ⟨e | b, t⟩ <;> rw [hact] at h <;> cases h
  rfl

theorem of_run_during {p : Phase} {act : Planning α} {s u : Session} {a : α}
    (h : (during p act).run s = (.ok a, u)) :
    ∃ t closed, act.run { s with depth := s.depth + 1 } = (.ok a, t) ∧ u = { t with depth := s.depth, closed } := by
  have hfst := congrArg Prod.fst h
  rw [run_during] at hfst
  exact ⟨(act.run { s with depth := s.depth + 1 }).2, _, Prod.ext hfst rfl, (congrArg Prod.snd h).symm⟩

/-! ### Yields -/

/-- The step succeeds with this result, in some session. -/
def Yields (act : Planning α) (a : α) : Prop := ∃ s s', act.run s = (.ok a, s')

/-- A step that a check of its result accepts succeeds. -/
theorem exists_run_of_check (act : Planning α) (s : Session) (check : α → Bool)
    (h : (match (act.run s).1 with | .ok a => check a | .error _ => false) = true) :
    ∃ a t, act.run s = (.ok a, t) ∧ check a = true := by
  rcases hrun : act.run s with ⟨e | a, t⟩
  · rw [hrun] at h
    cases h
  · rw [hrun] at h
    exact ⟨a, t, rfl, h⟩

theorem exists_run_error (act : Planning α) (s : Session) (h : (act.run s).1.isOk = false) :
    ∃ f t, act.run s = (.error f, t) := by
  rcases hrun : act.run s with ⟨f | a, t⟩
  · exact ⟨f, t, rfl⟩
  · rw [hrun] at h
    cases h

/-- A result that a check accepts is yielded. -/
theorem exists_yields_of_check (act : Planning α) (check : α → Bool)
    (h : (match (act.run {}).1 with | .ok a => check a | .error _ => false) = true) :
    ∃ a, act.Yields a ∧ check a = true := by
  obtain ⟨a, t, hrun, ha⟩ := exists_run_of_check act {} check h
  exact ⟨a, ⟨{}, t, hrun⟩, ha⟩

/-- A result that has a decidable property is yielded. -/
theorem exists_yields_of_decide (act : Planning α) (p : α → Prop) [DecidablePred p]
    (h : (match (act.run {}).1 with | .ok a => decide (p a) | .error _ => false) = true) : ∃ a, act.Yields a ∧ p a := by
  obtain ⟨a, ha, hp⟩ := exists_yields_of_check act (fun a => decide (p a)) h
  exact ⟨a, ha, of_decide_eq_true hp⟩

theorem eq_of_yields_pure {a b : α} (h : (pure a : Planning α).Yields b) : b = a := by
  obtain ⟨s, s', hrun⟩ := h
  cases hrun
  rfl

theorem Yields.bind {act : Planning α} {f : α → Planning β} {b : β} (h : (act >>= f).Yields b) :
    ∃ a, act.Yields a ∧ (f a).Yields b := by
  obtain ⟨s, u, hrun⟩ := h
  obtain ⟨a, t, hact, hf⟩ := of_run_bind hrun
  exact ⟨a, ⟨s, t, hact⟩, ⟨t, u, hf⟩⟩

theorem Yields.map {act : Planning α} {f : α → β} {b : β} (h : (f <$> act).Yields b) :
    ∃ a, act.Yields a ∧ b = f a := by
  obtain ⟨s, u, hrun⟩ := h
  obtain ⟨a, hact, rfl⟩ := of_run_map hrun
  exact ⟨a, ⟨s, u, hact⟩, rfl⟩

theorem Yields.ofCause {r : Except Cause α} {a : α} (h : (ofCause r).Yields a) : r = .ok a := by
  obtain ⟨s, u, hrun⟩ := h
  exact (of_run_ofCause hrun).1

theorem Yields.ofCollaborator {r : Except String α} {a : α} (h : (ofCollaborator r).Yields a) :
    r = .ok a := by
  have hmap := h.ofCause
  cases r with
  | error e => cases hmap
  | ok b => cases hmap; rfl

theorem Yields.within {c : Circumstance} {act : Planning α} {a : α} (h : (within c act).Yields a) :
    act.Yields a := by
  obtain ⟨s, u, hrun⟩ := h
  exact ⟨s, u, of_run_within hrun⟩

theorem Yields.during {p : Phase} {act : Planning α} {a : α} (h : (during p act).Yields a) :
    act.Yields a := by
  obtain ⟨s, u, hrun⟩ := h
  obtain ⟨t, closed, hact, -⟩ := of_run_during hrun
  exact ⟨_, t, hact⟩

end LinkPlanner.Planning
