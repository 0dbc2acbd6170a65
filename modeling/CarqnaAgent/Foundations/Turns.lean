import Mathlib

/-!
# Machines moved in turns

Actors take turns at moving one machine. An event `Happens` in a run when a turn of the
run meets it in the state that turn finds.

A turn that is not possible leaves the state as it is. When every other turn lowers a rank,
the machine makes progress as long as some actor can be served: **after as many fair rounds
as the rank says, the rank is zero** (`Progress.rank_fair_rounds`). A round is fair when
every actor has a turn in it.
-/

set_option autoImplicit false

namespace Foundations
namespace Turns

variable {σ τ ι : Type}

/-- Take the turns one after the other. -/
def execute (step : σ → τ → σ) (s : σ) (turns : List τ) : σ := turns.foldl step s

/-- Some turn meets the event. -/
def Happens (step : σ → τ → σ) (event : σ → τ → Prop) (s : σ) (turns : List τ) : Prop :=
  ∃ earlier turn later, turns = earlier ++ turn :: later ∧ event (execute step s earlier) turn

section Runs

variable {step : σ → τ → σ} {event : σ → τ → Prop} {s : σ} {turns : List τ}

theorem execute_nil : execute step s [] = s := rfl

theorem execute_cons (turn : τ) (later : List τ) :
    execute step s (turn :: later) = execute step (step s turn) later := rfl

theorem execute_append (earlier later : List τ) :
    execute step s (earlier ++ later) = execute step (execute step s earlier) later :=
  List.foldl_append

theorem execute_concat (turn : τ) :
    execute step s (turns ++ [turn]) = step (execute step s turns) turn := by
  rw [execute_append]
  rfl

/-- What every turn keeps, a run keeps. -/
theorem execute_keeps {kept : σ → Prop} (keeps : ∀ s turn, kept s → kept (step s turn))
    (start : kept s) : kept (execute step s turns) := by
  induction turns generalizing s with
  | nil => exact start
  | cons turn later ih => exact ih (keeps s turn start)

theorem not_happens_nil : ¬ Happens step event s [] := by
  rintro ⟨earlier, turn, later, split, -⟩
  exact List.append_ne_nil_of_right_ne_nil earlier (List.cons_ne_nil turn later) split.symm

/-- An event of a run is one of its last turn, or one before. -/
theorem happens_concat {turn : τ} :
    Happens step event s (turns ++ [turn]) ↔
      Happens step event s turns ∨ event (execute step s turns) turn := by
  constructor
  · rintro ⟨earlier, met, later, split, happened⟩
    rcases List.eq_nil_or_concat later with rfl | ⟨later, last, rfl⟩
    · obtain ⟨rfl, same⟩ := List.append_inj' split rfl
      cases same
      exact .inr happened
    · refine .inl ⟨earlier, met, later, ?_, happened⟩
      have cut : turns ++ [turn] = (earlier ++ met :: later) ++ [last] := by
        simpa [List.concat_eq_append] using split
      exact (List.append_inj' cut rfl).1
  · rintro (⟨earlier, met, later, rfl, happened⟩ | happened)
    · exact ⟨earlier, met, later ++ [turn], by simp, happened⟩
    · exact ⟨turns, turn, [], rfl, happened⟩

end Runs

/-! ## Progress -/

/-- Turns lower the rank or are not possible, and while the rank is not zero some actor's
turns are possible. The machine is in states of a kind that is kept. -/
structure Progress (step : σ → τ → σ) (actor : τ → ι) (kind : σ → Prop) (rank : σ → ℕ) :
    Prop where
  keeps : ∀ s turn, kind s → kind (step s turn)
  lowers : ∀ s turn, kind s → step s turn = s ∨ rank (step s turn) < rank s
  serves : ∀ s, kind s → rank s ≠ 0 →
    ∃ i, ∀ turn, actor turn = i → rank (step s turn) < rank s

namespace Progress

variable {step : σ → τ → σ} {actor : τ → ι} {kind : σ → Prop} {rank : σ → ℕ}

theorem rank_execute_le (progress : Progress step actor kind rank) {s : σ} (here : kind s)
    (turns : List τ) : rank (execute step s turns) ≤ rank s := by
  induction turns generalizing s with
  | nil => exact le_rfl
  | cons turn later ih =>
      have further := ih (progress.keeps s turn here)
      rcases progress.lowers s turn here with idle | lower
      · rw [execute_cons, idle]
        rw [idle] at further
        exact further
      · rw [execute_cons]
        omega

/-- A run in which the actor that can be served has a turn lowers the rank. -/
theorem rank_execute_lt (progress : Progress step actor kind rank) {s : σ} (here : kind s)
    {i : ι} (served : ∀ turn, actor turn = i → rank (step s turn) < rank s) {turns : List τ}
    (asked : ∃ turn ∈ turns, actor turn = i) : rank (execute step s turns) < rank s := by
  induction turns with
  | nil =>
      obtain ⟨turn, member, -⟩ := asked
      cases member
  | cons turn later ih =>
      rw [execute_cons]
      rcases progress.lowers s turn here with idle | lower
      · -- the turn was not possible, so it was not the served actor's
        rw [idle]
        obtain ⟨other, member, mine⟩ := asked
        rcases List.mem_cons.mp member with rfl | member
        · have fell := served other mine
          rw [idle] at fell
          exact absurd fell (lt_irrefl _)
        · exact ih ⟨other, member, mine⟩
      · have further := progress.rank_execute_le (progress.keeps s turn here) later
        omega

/-- **Fair rounds come to an end.** -/
theorem rank_fair_rounds (progress : Progress step actor kind rank) {s : σ} (here : kind s)
    {rounds : List (List τ)} (fair : ∀ round ∈ rounds, ∀ i, ∃ turn ∈ round, actor turn = i)
    (enough : rank s ≤ rounds.length) : rank (execute step s rounds.flatten) = 0 := by
  induction rounds generalizing s with
  | nil => exact Nat.le_zero.mp enough
  | cons round rounds ih =>
      obtain ⟨first, others⟩ := List.forall_mem_cons.mp fair
      rw [List.flatten_cons, execute_append]
      refine ih (execute_keeps progress.keeps here) others ?_
      rw [List.length_cons] at enough
      by_cases zero : rank s = 0
      · have kept := progress.rank_execute_le here round
        omega
      · obtain ⟨i, served⟩ := progress.serves s here zero
        have lower := progress.rank_execute_lt here served (first i)
        omega

end Progress

end Turns
end Foundations
