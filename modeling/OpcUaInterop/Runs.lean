import Mathlib.Data.List.Basic

/-!
# Runs

Runs of a labelled step relation, and the rule by which what every step keeps holds along every
run.
-/

namespace OpcUaInterop

universe u v

variable {σ : Type u} {ι : Type v} {step : σ → ι → σ → Prop}

/-- A run from one state to another with the list of its labels. -/
inductive Run (step : σ → ι → σ → Prop) : σ → List ι → σ → Prop
  | nil (s : σ) : Run step s [] s
  | cons {s t w : σ} {e : ι} {es : List ι} : step s e t → Run step t es w → Run step s (e :: es) w

namespace Run

lemma single {s t : σ} {e : ι} (h : step s e t) : Run step s [e] t := .cons h (.nil t)

lemma append {s t w : σ} {es fs : List ι} (h : Run step s es t) (h' : Run step t fs w) :
    Run step s (es ++ fs) w := by
  induction h with
  | nil => exact h'
  | cons he _ ih => exact .cons he (ih h')

lemma invariant {Inv : σ → Prop} (hstep : ∀ s e t, Inv s → step s e t → Inv t) {s t : σ}
    {es : List ι} (hs : Inv s) (h : Run step s es t) : Inv t := by
  induction h with
  | nil => exact hs
  | cons he _ ih => exact ih (hstep _ _ _ hs he)

end Run

end OpcUaInterop
