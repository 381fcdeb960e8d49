import Tenure.Proofs.Account

/-!
# Stages that one entry has at a time

`Sole stage idle l g` says that at most one entry of a list is at a stage other than `idle`, and
that `g` is its stage. It is kept when the one entry moves on, and a second one only leaves
`idle` when there is none.
-/
namespace Tenure.Lifecycle

variable {α σ : Type}

def Sole (stage : α → σ) (idle : σ) (l : List α) (g : σ) : Prop :=
  ∃ o, (∀ (i : Nat) (x : α), l[i]? = some x → i ≠ o → stage x = idle) ∧
    (l[o]?.map stage).getD idle = g

namespace Sole

variable {stage : α → σ} {idle g : σ} {l : List α} {i j : Nat} {x x' y : α}

theorem nil : Sole stage idle [] idle := ⟨0, by simp, by simp⟩

theorem append (h : Sole stage idle l g) (still : stage x = idle) :
    Sole stage idle (l ++ [x]) g := by
  obtain ⟨o, others, eq⟩ := h
  refine ⟨o, fun i y hi ne => ?_, ?_⟩
  · rcases Nat.lt_trichotomy i l.length with lt | rfl | gt
    · exact others i y (by rwa [List.getElem?_append_left lt] at hi) ne
    · have : x = y := by simpa using hi
      exact this ▸ still
    · simp [List.getElem?_eq_none (show (l ++ [x]).length ≤ i by simp; omega)] at hi
  · rcases Nat.lt_trichotomy o l.length with lt | rfl | gt
    · rwa [List.getElem?_append_left lt]
    · simpa [still] using eq
    · rw [List.getElem?_eq_none (by omega)] at eq
      rwa [List.getElem?_eq_none (show (l ++ [x]).length ≤ o by simp; omega)]

theorem idle_or_eq (h : Sole stage idle l g) (hi : l[i]? = some x) :
    stage x = idle ∨ stage x = g := by
  obtain ⟨o, others, eq⟩ := h
  by_cases io : i = o
  · subst io
    exact .inr (by simpa [hi] using eq)
  · exact .inl (others i x hi io)

/-- What holds of `idle` and of all stages holds of the one. -/
theorem of_forall {P : σ → Prop} (h : Sole stage idle l g) (none : P idle)
    (all : ∀ x ∈ l, P (stage x)) : P g := by
  obtain ⟨o, -, rfl⟩ := h
  cases ho : l[o]? with
  | none => exact none
  | some x => exact all x (List.mem_of_getElem? ho)

theorem exists_of_ne (h : Sole stage idle l g) (ne : g ≠ idle) :
    ∃ (i : Nat) (x : α), l[i]? = some x ∧ stage x = g := by
  obtain ⟨o, others, eq⟩ := h
  cases ho : l[o]? with
  | none => exact (ne (by simpa [ho] using eq.symm)).elim
  | some x => exact ⟨o, x, ho, by simpa [ho] using eq⟩

theorem eq_of_ne (h : Sole stage idle l g) (hi : l[i]? = some x) (hj : l[j]? = some y)
    (hx : stage x ≠ idle) (hy : stage y ≠ idle) : i = j := by
  obtain ⟨o, others, -⟩ := h
  have io : i = o := Decidable.byContradiction fun ne => hx (others i x hi ne)
  have jo : j = o := Decidable.byContradiction fun ne => hy (others j y hj ne)
  rw [io, jo]

/-! ## Moves -/

/-- The one entry moves to any stage. -/
theorem own (h : Sole stage idle l g) (hi : l[i]? = some x) (eq : stage x = g) (x' : α) :
    Sole stage idle (l.set i x') (stage x') := by
  obtain ⟨o, others, ho⟩ := h
  have lt : i < l.length := (List.getElem?_eq_some_iff.mp hi).1
  refine ⟨i, fun j y hj ne => ?_, by simp [lt]⟩
  rw [List.getElem?_set_ne (Ne.symm ne)] at hj
  by_cases jo : j = o
  · subst jo
    have idle_x := others i x hi (Ne.symm ne)
    rw [hj] at ho
    rw [← idle_x, eq, ← ho]
    rfl
  · exact others j y hj jo

theorem stays (h : Sole stage idle l g) (hi : l[i]? = some x) (eq : stage x' = stage x) :
    Sole stage idle (l.set i x') g := by
  obtain ⟨o, others, ho⟩ := h
  have lt : i < l.length := (List.getElem?_eq_some_iff.mp hi).1
  refine ⟨o, fun j y hj ne => ?_, ?_⟩
  · by_cases ij : i = j
    · subst ij
      have : x' = y := by simpa [lt] using hj
      rw [← this, eq]
      exact others i x hi ne
    · exact others j y (by rwa [List.getElem?_set_ne ij] at hj) ne
  · by_cases io : i = o
    · subst io
      rw [hi] at ho
      rw [List.getElem?_set_self lt, ← ho]
      exact eq
    · rwa [List.getElem?_set_ne io]

/-- An entry moves as the stage of a work: it is the one entry, or has no part in the work, or
begins the work. -/
theorem turn {allows : σ → Act → Prop} {after : σ → Act → σ} {e : Act} {begins : Prop}
    (h : Sole stage idle l g) (hi : l[i]? = some x) (x' : α) (allowed : allows (stage x) e)
    (moves : stage x' = after (stage x) e)
    (iff : allows idle e → (after idle e = idle ↔ idle = idle ∧ ¬ begins))
    (first : begins → g = idle) :
    ∃ g', Turn allows after idle g e g' ∧ Sole stage idle (l.set i x') g' := by
  by_cases eq : stage x = g
  · exact ⟨after g e, .own (eq ▸ allowed), by rw [← eq, ← moves]; exact h.own hi eq x'⟩
  · have still := (h.idle_or_eq hi).resolve_right eq
    rw [still] at allowed moves
    have stays := (iff allowed).mpr ⟨rfl, fun begun => eq (still.trans (first begun).symm)⟩
    exact ⟨g, .other allowed stays, h.stays hi (by rw [moves, stays, still])⟩

end Sole
end Tenure.Lifecycle
