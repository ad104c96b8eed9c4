/-!
# Sessions

A session puts operations to a state, one after another, and keeps the answers.
Cursors and lexers are both used in this way, so what holds of sessions in
general is shown here once.

* **An invariant** that every operation keeps is kept by the session
  (`run_history`, `run_invariant`), and what it implies about one answer it
  implies about all of them (`forall_mem_answers`, `forall_mem_zip_answers`).
* **A measure** that no operation lowers is not lowered by the session
  (`measure_le_run`).
* **A relation** between two states that every operation keeps is kept by two
  sessions with the same operations (`run_alongside`).
-/

namespace Lexis

namespace Session

universe u v w

variable {σ : Type u} {ω : Type v} {α : Type w} (step : ω → σ → α × σ)

/-- The answers to a list of operations, in order, and the state after the last
of them. -/
def run : List ω → σ → List α × σ
  | [], s => ([], s)
  | op :: ops, s =>
    let first := step op s
    let others := run ops first.2
    (first.1 :: others.1, others.2)

@[simp] theorem run_nil (s : σ) : run step [] s = ([], s) := rfl

@[simp] theorem run_cons (op : ω) (ops : List ω) (s : σ) :
    run step (op :: ops) s =
      ((step op s).1 :: (run step ops (step op s).2).1, (run step ops (step op s).2).2) := rfl

/-- A session can be broken off and taken up again. -/
theorem run_append (a b : List ω) (s : σ) :
    run step (a ++ b) s =
      ((run step a s).1 ++ (run step b (run step a s).2).1, (run step b (run step a s).2).2) := by
  induction a generalizing s with
  | nil => rfl
  | cons op a ih => simp only [List.cons_append, run_cons, ih]

variable {step}

/-- **What every operation keeps**, given the answers so far, a session keeps. -/
theorem run_history {P : List α → σ → Prop}
    (keeps : ∀ past op s, P past s → P (past ++ [(step op s).1]) (step op s).2) (ops : List ω)
    (past : List α) {s : σ} (h : P past s) :
    P (past ++ (run step ops s).1) (run step ops s).2 := by
  induction ops generalizing past s with
  | nil =>
    rw [run_nil, List.append_nil]
    exact h
  | cons op ops ih =>
    rw [run_cons, List.append_cons]
    exact ih _ (keeps past op s h)

/-- What every operation keeps, whatever the answers, a session keeps. -/
theorem run_invariant {P : σ → Prop} (keeps : ∀ op s, P s → P (step op s).2) (ops : List ω)
    {s : σ} (h : P s) : P (run step ops s).2 :=
  run_history (P := fun _ => P) (fun _ => keeps) ops [] h

/-- What an invariant implies about one answer, it implies about all of them. -/
theorem forall_mem_answers {P : σ → Prop} {Q : α → Prop}
    (keeps : ∀ op s, P s → P (step op s).2) (answers : ∀ op s, P s → Q (step op s).1)
    (ops : List ω) {s : σ} (h : P s) : ∀ a ∈ (run step ops s).1, Q a := by
  induction ops generalizing s with
  | nil => intro a mem; cases mem
  | cons op ops ih =>
    intro a mem
    rcases List.mem_cons.mp mem with rfl | later
    · exact answers op s h
    · exact ih (keeps op s h) a later

/-- What an invariant implies about the answer to one operation, it implies about
all of them. -/
theorem forall_mem_zip_answers {P : σ → Prop} {Q : ω → α → Prop}
    (keeps : ∀ op s, P s → P (step op s).2) (answers : ∀ op s, P s → Q op (step op s).1)
    (ops : List ω) {s : σ} (h : P s) : ∀ p ∈ ops.zip (run step ops s).1, Q p.1 p.2 := by
  induction ops generalizing s with
  | nil => intro p mem; cases mem
  | cons op ops ih =>
    intro p mem
    rw [run_cons, List.zip_cons_cons] at mem
    rcases List.mem_cons.mp mem with rfl | later
    · exact answers op s h
    · exact ih (keeps op s h) p later

/-- Where an invariant dictates the answers, it dictates those of the session. -/
theorem run_eq_map {P : σ → Prop} {f : ω → α} (keeps : ∀ op s, P s → P (step op s).2)
    (answers : ∀ op s, P s → (step op s).1 = f op) (ops : List ω) {s : σ} (h : P s) :
    (run step ops s).1 = ops.map f := by
  induction ops generalizing s with
  | nil => rfl
  | cons op ops ih => rw [run_cons, List.map_cons, answers op s h, ih (keeps op s h)]

/-- **Two sessions side by side**: what every operation keeps between two states,
the answers being translated by `f`, the sessions keep. -/
theorem run_alongside {τ : Type u} {β : Type w} {step' : ω → τ → β × τ} {R : σ → τ → Prop}
    {f : α → β}
    (keeps : ∀ op s t, R s t → (step' op t).1 = f (step op s).1 ∧ R (step op s).2 (step' op t).2)
    (ops : List ω) {s : σ} {t : τ} (h : R s t) :
    (run step' ops t).1 = (run step ops s).1.map f ∧ R (run step ops s).2 (run step' ops t).2 := by
  induction ops generalizing s t with
  | nil => exact ⟨rfl, h⟩
  | cons op ops ih =>
    obtain ⟨answer, kept⟩ := keeps op s t h
    obtain ⟨answers, related⟩ := ih kept
    rw [run_cons, run_cons, List.map_cons, answer, answers]
    exact ⟨rfl, related⟩

/-- A measure that no operation lowers is not lowered by a session. -/
theorem measure_le_run {f : σ → Nat} (grows : ∀ op s, f s ≤ f (step op s).2) (ops : List ω)
    (s : σ) : f s ≤ f (run step ops s).2 := by
  induction ops generalizing s with
  | nil => exact Nat.le_refl _
  | cons op ops ih => exact Nat.le_trans (grows op s) (ih _)

end Session

end Lexis
