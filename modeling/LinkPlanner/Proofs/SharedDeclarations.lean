import LinkPlanner.Proofs.DeclaredArtifacts
import LinkPlanner.Proofs.Sessions

/-! Shareable artifacts. What planning has declared as shareable stays so, whatever is planned afterwards and whether
that succeeds or not; so what one link shares is there for every link that is planned after it. -/

namespace LinkPlanner

open Planning

/-! ### Declarations -/

namespace Declarations

variable {d : Declarations} {a b : Artifact}

/-- The artifact is declared as one that several targets may refer to. -/
def Shares (d : Declarations) (a : Artifact) : Prop := d.get? a = some .shareable

theorem shares_declare_iff {sharing : Sharing} :
    (d.declare b sharing).Shares a ↔ d.Shares a ∨ ((b == a) = true ∧ sharing = .shareable) := by
  unfold Shares Declarations.declare
  rw [OrderedMap.get?_upsert]
  cases hba : b == a with
  | false => simp
  | true =>
      rw [if_pos rfl, OrderedMap.get?_congr hba]
      cases d.get? a with
      | none => simp
      | some held => simp [Sharing.join_eq_shareable_iff]

/-- An artifact that is declared again and again is shareable once it is, and as soon as it is declared so. -/
theorem shares_declareAll_iff {as : List (Artifact × Sharing)} :
    (as.foldl (fun d (b, sharing) => d.declare b sharing) d).Shares a ↔
      d.Shares a ∨ ∃ e ∈ as, (e.1 == a) = true ∧ e.2 = .shareable := by
  induction as generalizing d with
  | nil => simp
  | cons e as ih =>
      rw [List.foldl_cons, ih, shares_declare_iff, or_assoc]
      simp only [List.mem_cons, exists_eq_or_imp]

end Declarations

/-! ### Sessions -/

/-- What is shareable in the one session is shareable in the other. -/
def SharesStay (s t : Session) : Prop := ∀ a, s.declared.Shares a → t.declared.Shares a

theorem frame_sharesStay : Frame SharesStay where
  refl _ _ h := h
  trans h k a ha := k a (h a ha)
  timed _ _ _ _ h := h
  declared _ _ _ h := Declarations.shares_declareAll_iff.2 (Or.inl h)

theorem keeps_register (env : Env) (c : LinkstampCompile) : Keeps SharesStay (register env c) := by
  intro s a ha
  rw [run_register]
  cases env.linkstampCompiler c <;> exact ha

/-- One session after another, with links planned in between: whole links, or the phases of a link with LTO one at a
time. Any of them may have failed. -/
inductive Session.Reaches : Session → Session → Prop where
  | refl (s : Session) : Reaches s s
  | plan {s t : Session} (env : Env) (link : Link) (h : Reaches s t) : Reaches s ((link.plan env).run t).2
  | planWithLto {s t : Session} (env : Env) (link : Link) (h : Reaches s t) :
      Reaches s ((link.planWithLto env).run t).2
  | planBackends {s t : Session} (env : Env) (link : Link) (h : Reaches s t) :
      Reaches s ((link.planBackends env).run t).2
  | planIndexing {s t : Session} (env : Env) (p : BackendPlan) (h : Reaches s t) :
      Reaches s ((p.planIndexing env).run t).2
  | planPhase {s t : Session} (env : Env) (phase : LtoPhase) (h : Reaches s t) :
      Reaches s ((phase.plan env).run t).2

theorem Session.Reaches.sharesStay {s t : Session} (h : s.Reaches t) : SharesStay s t := by
  have hR := frame_sharesStay
  induction h with
  | refl => exact hR.refl s
  | plan env link h ih => exact hR.trans ih (link.keeps_plan hR env (keeps_register env) _)
  | planWithLto env link h ih => exact hR.trans ih (link.keeps_planWithLto hR env (keeps_register env) _)
  | planBackends env link h ih => exact hR.trans ih (link.keeps_planBackends hR env _)
  | planIndexing env p h ih => exact hR.trans ih (p.keeps_planIndexing hR env _)
  | planPhase env phase h ih => exact hR.trans ih (phase.keeps_plan hR env (keeps_register env) _)

end LinkPlanner
