import Mathlib.Data.List.Basic

/-!
# Runs of a labelled step relation

`Run step s ls s'` is a run from `s` to `s'` whose steps carry the labels `ls`.
What every step preserves, a run preserves (`Run.invariant`). A condition on the
steps of a run is a guard on its relation (`Guarded`), so a law that needs the
condition is a law about the runs of the guarded relation.
-/

namespace LabelledRuns

variable {S L : Type}

/-- A run, step by step. -/
inductive Run (step : S → L → S → Prop) : S → List L → S → Prop
  | nil (s : S) : Run step s [] s
  | cons {s s₁ s' : S} {l : L} {ls : List L} :
    step s l s₁ → Run step s₁ ls s' → Run step s (l :: ls) s'

section Run

variable {step : S → L → S → Prop} {s s' : S} {l : L} {ls : List L}

theorem Run.single (taken : step s l s') : Run step s [l] s' := .cons taken (.nil s')

/-- A run goes on with one step more. -/
theorem Run.snoc {s₁ : S} (run : Run step s ls s₁) (taken : step s₁ l s') :
    Run step s (ls ++ [l]) s' := by
  induction run with
  | nil => exact .single taken
  | cons first _ ih => exact .cons first (ih taken)

/-- **The invariant rule.** What holds at the start and is kept by every step
holds where the run ends. -/
theorem Run.invariant {I : S → Prop} (run : Run step s ls s') (start : I s)
    (keeps : ∀ s l s', I s → step s l s' → I s') : I s' := by
  induction run with
  | nil => exact start
  | cons taken _ ih => exact ih (keeps _ _ _ start taken)

/-- The invariant rule for what holds of a state and the labels that led to it. -/
theorem Run.history {I : List L → S → Prop} (run : Run step s ls s') (start : I [] s)
    (keeps : ∀ ls s l s', I ls s → step s l s' → I (ls ++ [l]) s') : I ls s' := by
  induction run generalizing I with
  | nil => exact start
  | @cons s s₁ s' l ls taken _ ih =>
      exact @ih (fun ls => I (l :: ls)) (keeps [] s l s₁ start taken)
        fun ls s l' s' => keeps (l :: ls) s l' s'

/-- The countdown rule: where every counted step takes one off `left`, and the
others nothing, a run takes off as many as it counts. -/
theorem Run.countdown {I : S → Prop} {left : S → Nat} {counts : L → Bool} (run : Run step s ls s')
    (start : I s) (keeps : ∀ s l s', I s → step s l s' → I s')
    (paces : ∀ s l s', I s → step s l s' → left s = left s' + if counts l then 1 else 0) :
    left s = left s' + ls.countP counts := by
  induction run with
  | nil => rfl
  | @cons s s₁ s' l ls taken _ ih =>
      rw [paces s l s₁ start taken, ih (keeps s l s₁ start taken), List.countP_cons, Nat.add_assoc]

/-- The refinement rule: where every step is one of another relation, seen through
`view`, a run is a run of that relation with the same labels. -/
theorem Run.refines {V : Type} {seen : V → L → V → Prop} {I : S → Prop} {view : S → V}
    (run : Run step s ls s') (start : I s) (keeps : ∀ s l s', I s → step s l s' → I s')
    (shows : ∀ s l s', I s → step s l s' → seen (view s) l (view s')) :
    Run seen (view s) ls (view s') := by
  induction run with
  | nil => exact .nil _
  | @cons s s₁ s' l ls taken _ ih =>
      exact .cons (shows s l s₁ start taken) (ih (keeps s l s₁ start taken))

end Run

/-- The steps that meet a condition on the state before them and their label. -/
def Guarded (good : S → L → Prop) (step : S → L → S → Prop) : S → L → S → Prop :=
  fun s l s' => good s l ∧ step s l s'

/-- A run all of whose labels are good is one of the guarded relation. -/
theorem Run.guarded {step : S → L → S → Prop} {s s' : S} {ls : List L} {good : L → Prop}
    (run : Run step s ls s') (all : ∀ l ∈ ls, good l) :
    Run (Guarded (fun _ => good) step) s ls s' := by
  induction run with
  | nil s => exact .nil s
  | cons taken _ ih =>
      rw [List.forall_mem_cons] at all
      exact .cons ⟨all.1, taken⟩ (ih all.2)

end LabelledRuns
