import Mathlib

/-!
# Labelled systems and their finite runs

A component that reacts to its environment is a labelled system: a set of initial states and a
step relation whose label records everything one step reads and everything it emits.  A run is a
finite sequence of steps from an initial state; it is presented by its trace, the list of its
labels, and by the state it ends in.

Properties that talk about the past ("since the entry was stored", "at most once") are stated over
the pair of trace and state.  The induction over a run is packaged once here: `Run.induction` for
statements about trace and state, `Run.invariant` for statements about the state alone, and
`restrict` for the runs all of whose steps satisfy a condition; `Run.restrict_iff` shows such a
condition to be exact.  Concrete runs are computed, with `execute` for a handler and
`exists_run_of_foldlM` for a partial step function.
-/

namespace BifrostRelayer

/-- A labelled transition system over states `σ` and labels `ℓ`. -/
structure LabelledSystem (σ ℓ : Type*) where
  /-- The states a run may start in. -/
  init : σ → Prop
  /-- `step s a s'`: from `s` the system can make a step labelled `a` and end in `s'`. -/
  step : σ → ℓ → σ → Prop

namespace LabelledSystem

variable {σ ℓ : Type*}

/-- `S.Run tr s`: some run of `S` has the trace `tr` and ends in the state `s`. -/
inductive Run (S : LabelledSystem σ ℓ) : List ℓ → σ → Prop where
  /-- The empty run stays in an initial state. -/
  | start {s : σ} : S.init s → Run S [] s
  /-- A run is extended by one step at its end. -/
  | snoc {tr : List ℓ} {s s' : σ} {a : ℓ} : Run S tr s → S.step s a s' → Run S (tr ++ [a]) s'

/-- The system a deterministic handler defines: `f s i` is the new state and the output of the
handler on the input `i`, and the label of a step is the input together with the output. -/
def ofHandler {ι ω : Type*} (s₀ : σ) (f : σ → ι → σ × ω) : LabelledSystem σ (ι × ω) where
  init s := s = s₀
  step s a s' := f s a.1 = (s', a.2)

/-- A deterministic handler can always make its step. -/
lemma ofHandler_step {ι ω : Type*} (s₀ : σ) (f : σ → ι → σ × ω) (s : σ) (i : ι) :
    (ofHandler s₀ f).step s (i, (f s i).2) (f s i).1 := rfl

/-- Running a deterministic handler on a list of inputs: the trace and the final state. -/
def execute {ι ω : Type*} (f : σ → ι → σ × ω) : σ → List ι → List (ι × ω) × σ
  | s, [] => ([], s)
  | s, i :: is =>
      let r := f s i
      let rest := execute f r.1 is
      ((i, r.2) :: rest.1, rest.2)

/-- Induction along a run, for statements about the trace together with the state reached. -/
theorem Run.induction {S : LabelledSystem σ ℓ} {P : List ℓ → σ → Prop}
    (hinit : ∀ s, S.init s → P [] s)
    (hstep : ∀ tr s a s', S.Run tr s → P tr s → S.step s a s' → P (tr ++ [a]) s')
    {tr : List ℓ} {s : σ} (h : S.Run tr s) : P tr s := by
  induction h with
  | start h₀ => exact hinit _ h₀
  | snoc hrun ha ih => exact hstep _ _ _ _ hrun ih ha

/-- A state predicate that holds initially and is kept by every step holds in every state
reached. -/
theorem Run.invariant {S : LabelledSystem σ ℓ} {P : σ → Prop} (hinit : ∀ s, S.init s → P s)
    (hstep : ∀ s a s', P s → S.step s a s' → P s') {tr : List ℓ} {s : σ} (h : S.Run tr s) :
    P s :=
  h.induction (P := fun _ s => P s) hinit fun _ s a s' _ hs ha => hstep s a s' hs ha

/-- Every label of a trace belongs to a step that continues the run before it. -/
theorem Run.split {S : LabelledSystem σ ℓ} {before after : List ℓ} {a : ℓ} {s : σ}
    (h : S.Run (before ++ a :: after) s) : ∃ s₁ s₂, S.Run before s₁ ∧ S.step s₁ a s₂ := by
  generalize htr : before ++ a :: after = tr at h
  induction h generalizing after with
  | start _ => simp at htr
  | @snoc tr s s' b hrun hb ih =>
    rcases after.eq_nil_or_concat with rfl | ⟨after', c, rfl⟩
    · obtain ⟨rfl, rfl⟩ : before = tr ∧ a = b := by simpa using htr
      exact ⟨s, s', hrun, hb⟩
    · have hsplit : (before ++ a :: after') ++ [c] = tr ++ [b] := by simpa using htr
      exact ih (List.append_inj' hsplit rfl).1

/-- What holds of the label of every step holds of every label of a trace. -/
theorem Run.forall_mem {S : LabelledSystem σ ℓ} {P : ℓ → Prop}
    (hstep : ∀ s a s', S.step s a s' → P a) {tr : List ℓ} {s : σ} (h : S.Run tr s) :
    ∀ a ∈ tr, P a := by
  intro a ha
  obtain ⟨before, after, rfl⟩ := List.append_of_mem ha
  obtain ⟨s₁, s₂, -, hs⟩ := h.split
  exact hstep s₁ a s₂ hs

/-- What no step from a state reached decreases does not decrease on the way to any later state. -/
theorem Run.monotone {S : LabelledSystem σ ℓ} {α : Type*} [Preorder α] {f : σ → α}
    (hstep : ∀ tr s a s', S.Run tr s → S.step s a s' → f s ≤ f s') {tr : List ℓ} {s s' : σ}
    (h : S.Run tr s) (hpath : Relation.ReflTransGen (fun s s' => ∃ a, S.step s a s') s s') :
    f s ≤ f s' := by
  have hlater : (∃ tr', S.Run tr' s') ∧ f s ≤ f s' := by
    induction hpath with
    | refl => exact ⟨⟨tr, h⟩, le_rfl⟩
    | tail _ ha ih =>
      obtain ⟨⟨tr', hrun⟩, hle⟩ := ih
      obtain ⟨a, ha⟩ := ha
      exact ⟨⟨tr' ++ [a], hrun.snoc ha⟩, hle.trans (hstep tr' _ a _ hrun ha)⟩
  exact hlater.2

/-- The subsystem whose steps all satisfy the condition `C` on the state before the step and the
label. -/
def restrict (S : LabelledSystem σ ℓ) (C : σ → ℓ → Prop) : LabelledSystem σ ℓ where
  init := S.init
  step s a s' := S.step s a s' ∧ C s a

/-- A run of a restricted system is one of the system. -/
theorem Run.of_restrict {S : LabelledSystem σ ℓ} {C : σ → ℓ → Prop} {tr : List ℓ} {s : σ}
    (h : (S.restrict C).Run tr s) : S.Run tr s := by
  induction h with
  | start h₀ => exact .start h₀
  | snoc _ ha ih => exact ih.snoc ha.1

/-- A run of a restricted system whose steps satisfy another condition as well. -/
theorem Run.restrict_mono {S : LabelledSystem σ ℓ} {C D : σ → ℓ → Prop} {tr : List ℓ} {s : σ}
    (h : (S.restrict C).Run tr s) (hcond : ∀ a ∈ tr, ∀ s, C s a → D s a) :
    (S.restrict D).Run tr s := by
  induction h with
  | start h₀ => exact .start h₀
  | snoc _ ha ih =>
    have hearlier := ih fun b hb => hcond b (List.mem_append_left _ hb)
    exact hearlier.snoc ⟨ha.1, hcond _ (by simp) _ ha.2⟩

/-- Every beginning of a trace belongs to a run. -/
theorem Run.beginning {S : LabelledSystem σ ℓ} {tr tr' : List ℓ} {s : σ} (h : S.Run tr s)
    (hpre : tr' <+: tr) : ∃ s', S.Run tr' s' := by
  obtain ⟨rest, rfl⟩ := hpre
  cases rest with
  | nil => exact ⟨s, by simpa using h⟩
  | cons a rest =>
    obtain ⟨s₁, -, hrun, -⟩ := h.split
    exact ⟨s₁, hrun⟩

/-- In a deterministic system the trace determines the state. -/
theorem Run.unique {S : LabelledSystem σ ℓ} (hinit : ∀ s s', S.init s → S.init s' → s = s')
    (hdet : ∀ s a s₁ s₂, S.step s a s₁ → S.step s a s₂ → s₁ = s₂) {tr : List ℓ} {s s' : σ}
    (h : S.Run tr s) (h' : S.Run tr s') : s = s' := by
  induction h generalizing s' with
  | start h₀ =>
    generalize htr : ([] : List ℓ) = tr at h'
    cases h' with
    | start h₀' => exact hinit _ _ h₀ h₀'
    | snoc _ _ => simp at htr
  | @snoc tr s s₁ a hrun ha ih =>
    generalize htr : tr ++ [a] = tr' at h'
    cases h' with
    | start _ => simp at htr
    | snoc hrun' ha' =>
      obtain ⟨rfl, hab⟩ := List.append_inj' htr rfl
      obtain rfl := List.singleton_inj.mp hab
      obtain rfl := ih hrun'
      exact hdet _ _ _ _ ha ha'

/-- A condition that is exact for one step is exact for a run: if from the states that permitted
steps reach a step keeps `P` exactly when it is permitted, then a run of a deterministic system
passes through states with `P` only exactly when all its steps are permitted. -/
theorem Run.restrict_iff {S : LabelledSystem σ ℓ} {C : σ → ℓ → Prop} {I P : σ → Prop}
    (hunique : ∀ s s', S.init s → S.init s' → s = s')
    (hdet : ∀ s a s₁ s₂, S.step s a s₁ → S.step s a s₂ → s₁ = s₂)
    (hinit : ∀ s, S.init s → I s) (hkeep : ∀ s a s', I s → S.step s a s' → C s a → I s')
    (hprop : ∀ s, I s → P s) (hexact : ∀ s a s', I s → S.step s a s' → P s' → C s a)
    {tr : List ℓ} {s : σ} (h : S.Run tr s) :
    (∀ tr' s', tr' <+: tr → S.Run tr' s' → P s') ↔ (S.restrict C).Run tr s := by
  have hinv : ∀ tr s, (S.restrict C).Run tr s → I s := by
    intro tr s hrun
    refine Run.invariant (S := S.restrict C) (P := I) hinit ?_ hrun
    rintro s a s' hs ⟨ha, hpermitted⟩
    exact hkeep s a s' hs ha hpermitted
  constructor
  · induction h with
    | start h₀ => exact fun _ => .start h₀
    | @snoc tr s s' a hrun ha ih =>
      intro hP
      have hbefore := ih fun tr' s' hpre => hP tr' s' (hpre.trans (List.prefix_append tr [a]))
      have hafter := hP _ s' List.prefix_rfl (hrun.snoc ha)
      exact hbefore.snoc ⟨ha, hexact s a s' (hinv tr s hbefore) ha hafter⟩
  · intro hrestrict tr' s' hpre hrun
    obtain ⟨s'', hrun''⟩ := hrestrict.beginning hpre
    obtain rfl := hrun.unique hunique hdet hrun''.of_restrict
    exact hprop s' (hinv tr' s' hrun'')

/-- The runs of a deterministic handler compose: running on `is` after a run continues it. -/
theorem Run.execute {ι ω : Type*} {s₀ : σ} {f : σ → ι → σ × ω} {tr : List (ι × ω)} {s : σ}
    (h : (ofHandler s₀ f).Run tr s) (is : List ι) :
    (ofHandler s₀ f).Run (tr ++ (execute f s is).1) (execute f s is).2 := by
  induction is generalizing tr s with
  | nil => simpa [LabelledSystem.execute] using h
  | cons i is ih =>
    have hnext : (ofHandler s₀ f).Run (tr ++ [(i, (f s i).2)]) (f s i).1 := .snoc h rfl
    simpa [LabelledSystem.execute] using ih hnext

/-- Every list of inputs gives a run of a deterministic handler. -/
theorem run_execute {ι ω : Type*} (s₀ : σ) (f : σ → ι → σ × ω) (is : List ι) :
    (ofHandler s₀ f).Run (execute f s₀ is).1 (execute f s₀ is).2 := by
  have h : (ofHandler s₀ f).Run [] s₀ := .start rfl
  simpa using h.execute is

/-- A list of labels that a partial step function can follow, each of its steps being one of the
system, gives a run. -/
theorem Run.foldlM {S : LabelledSystem σ ℓ} {f : σ → ℓ → Option σ}
    (hf : ∀ s a s', f s a = some s' → S.step s a s') {tr as : List ℓ} {s s' : σ}
    (h : S.Run tr s) (has : as.foldlM f s = some s') : S.Run (tr ++ as) s' := by
  induction as generalizing tr s with
  | nil =>
    obtain rfl : s = s' := by simpa using has
    simpa using h
  | cons a as ih =>
    obtain ⟨s₁, ha, hrest⟩ : ∃ s₁, f s a = some s₁ ∧ as.foldlM f s₁ = some s' := by
      simpa [Option.bind_eq_some_iff] using has
    simpa using ih (h.snoc (hf s a s₁ ha)) hrest

/-- A computed run reaches a state with a property that can be checked there. -/
theorem exists_run_of_foldlM {S : LabelledSystem σ ℓ} {f : σ → ℓ → Option σ} {s₀ : σ}
    (hinit : S.init s₀) (hf : ∀ s a s', f s a = some s' → S.step s a s') (as : List ℓ)
    (P : σ → Bool) (h : (as.foldlM f s₀).any P = true) : ∃ s, S.Run as s ∧ P s = true := by
  cases hs : as.foldlM f s₀ with
  | none => simp [hs] at h
  | some s => exact ⟨s, by simpa using (Run.start hinit).foldlM hf hs, by simpa [hs] using h⟩

/-- A computed run whose steps are all permitted. -/
theorem exists_restrict_run_of_foldlM {S : LabelledSystem σ ℓ} {C : σ → ℓ → Prop}
    [∀ s a, Decidable (C s a)] {f : σ → ℓ → Option σ} {s₀ : σ} (hinit : S.init s₀)
    (hf : ∀ s a s', f s a = some s' → S.step s a s') (as : List ℓ) (P : σ → Bool)
    (h : (as.foldlM (fun s a => if C s a then f s a else none) s₀).any P = true) :
    ∃ s, (S.restrict C).Run as s ∧ P s = true := by
  refine exists_run_of_foldlM (S := S.restrict C) hinit ?_ as P h
  intro s a s' hs
  split at hs
  · next hpermitted => exact ⟨hf s a s' hs, hpermitted⟩
  · cases hs

end LabelledSystem

end BifrostRelayer
