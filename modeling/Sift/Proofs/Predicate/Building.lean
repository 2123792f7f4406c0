import Sift.Predicate.Steps

/-!
# Predicates built step by step

A step in building a predicate gives a literal or a condition, from what the steps before it gave
(`BuildStep.result?`).  It fails where it refers to a step that is not there, or to one that gave
something else than what is due.

The steps of a predicate never fail, whatever was built before them, and the last of them gives the
predicate (`Predicate.replay_steps`).
-/

namespace Sift

namespace BuildStep

/-! ## Following steps -/

/-- What a step gives. -/
inductive Result where
  | literal (value : Literal)
  | condition (p : Predicate)
  deriving DecidableEq

/-- The literal that a step gave. -/
def Result.literal? : Result → Option Literal
  | .literal value => some value
  | .condition _ => none

/-- The condition that a step gave. -/
def Result.condition? : Result → Option Predicate
  | .literal _ => none
  | .condition p => some p

/-- What the step gives after steps that gave `built`. -/
def result? (built : List Result) : BuildStep → Option Result
  | .literal value => some (.literal value)
  | .comparison column op place => do
    let value ← (← built[place]?).literal?
    some (.condition (.comparison column op value))
  | .like column place negated => do
    match ← (← built[place]?).literal? with
    | .text pattern => some (.condition (.like column pattern negated))
    | _ => none
  | .null column negated => some (.condition (.null column negated))
  | .member column place => do
    let value ← (← built[place]?).literal?
    some (.condition (.member column value))
  | .connect c left right => do
    let p ← (← built[left]?).condition?
    let q ← (← built[right]?).condition?
    some (.condition (.connect c p q))

/-- What all steps give, one after another, after steps that gave `built`. -/
def replay (built : List Result) : List BuildStep → Option (List Result)
  | [] => some built
  | step :: rest => do
    let result ← step.result? built
    replay (built ++ [result]) rest

theorem replay_append {built built' : List Result} {steps : List BuildStep}
    (h : replay built steps = some built') (rest : List BuildStep) :
    replay built (steps ++ rest) = replay built' rest := by
  induction steps generalizing built with
  | nil =>
    cases h
    rfl
  | cons step steps ih =>
    obtain ⟨result, hresult, hsteps⟩ := Option.bind_eq_some_iff.mp h
    rw [List.cons_append, replay, hresult]
    exact ih hsteps

/-- A connective joins the conditions that it refers to. -/
theorem replay_connect {built : List Result} {left right : Nat} {p q : Predicate}
    (hp : built[left]? = some (.condition p)) (hq : built[right]? = some (.condition q))
    (c : Connective) :
    replay built [.connect c left right] = some (built ++ [.condition (.connect c p q)]) := by
  simp [replay, result?, hp, hq, Result.condition?]

end BuildStep

/-! ## The steps of a predicate -/

namespace Predicate

open BuildStep

/-- After any steps, those of a predicate can be followed, and the last of them gives the
predicate. -/
theorem replay_stepsFrom (p : Predicate) (built : List Result) :
    ∃ more, replay built (p.stepsFrom built.length) = some (built ++ more ++ [.condition p]) ∧
      more.length + 1 = (p.stepsFrom built.length).length := by
  induction p generalizing built with
  | comparison column op value =>
    refine ⟨[.literal value], ?_, rfl⟩
    simp [stepsFrom, replay, result?, Result.literal?]
  | like column pattern negated =>
    refine ⟨[.literal (.text pattern)], ?_, rfl⟩
    simp [stepsFrom, replay, result?, Result.literal?]
  | null column negated =>
    refine ⟨[], ?_, rfl⟩
    simp [stepsFrom, replay, result?]
  | member column value =>
    refine ⟨[.literal value], ?_, rfl⟩
    simp [stepsFrom, replay, result?, Result.literal?]
  | connect c p q ihp ihq =>
    obtain ⟨lefts, hlefts, hleftCount⟩ := ihp built
    obtain ⟨rights, hrights, hrightCount⟩ := ihq (built ++ lefts ++ [.condition p])
    have hstart : (built ++ lefts ++ [Result.condition p]).length =
        built.length + (p.stepsFrom built.length).length := by
      simp only [List.length_append, List.length_singleton]
      omega
    rw [hstart] at hrights hrightCount
    refine ⟨lefts ++ [.condition p] ++ rights ++ [.condition q], ?_, ?_⟩
    · rw [stepsFrom, List.append_assoc, replay_append hlefts, replay_append hrights,
        replay_connect (p := p) (q := q)]
      · simp only [List.append_assoc]
      -- each operand is what the last of its steps gave
      · grind
      · grind
    · simp only [stepsFrom, List.length_append, List.length_singleton]
      omega

/-- The steps of a predicate build it. -/
theorem replay_steps (p : Predicate) :
    ∃ before, replay [] p.steps = some (before ++ [.condition p]) := by
  obtain ⟨before, hbefore, -⟩ := p.replay_stepsFrom []
  exact ⟨before, hbefore⟩

end Predicate

end Sift
