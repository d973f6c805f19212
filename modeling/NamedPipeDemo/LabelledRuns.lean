/-
**Runs of labelled machines, their invariants, and simulations between them.**

A machine takes a step when its environment acts on it.  The action is a *label*, the step is a
partial function of the state and the label, and a run is a list of labels: everything that is not
determined by the machine — a schedule, the outcome of a system call, the bytes that arrive — is
in the list.  This module proves once the two inductions that every result about runs needs: what
each step preserves holds in every state reached, and two machines whose steps match give matching
runs.

Main definitions:

* `LabelledRuns.run`, `LabelledRuns.Reaches` — the state a run ends in, and reachability;
* `LabelledRuns.onTape` — the state after `n` steps, with labels from an infinite tape;
* `LabelledRuns.Along` — every step of a run meets a condition on its state and label;
* `LabelledRuns.runCost` — what the steps of a run cost together;
* `LabelledRuns.runTrace` — what an observer sees of a run;
* `LabelledRuns.respond` — the run of a machine that answers each label, with its answers.

Main results:

* `LabelledRuns.invariant_run`, `LabelledRuns.invariant_reaches`,
  `LabelledRuns.invariant_history` — **invariants**;
* `LabelledRuns.run_replicate` — a label that lowers a measure, taken until it is zero;
* `LabelledRuns.length_add_le_of_measure` — a measure that every step lowers bounds every run;
* `LabelledRuns.invariant_along` — invariants of the runs all of whose steps meet a condition;
* `LabelledRuns.along_concat` — the condition on a run that is one step longer;
* `LabelledRuns.along_iff_invariant` — the condition that every step keeps an invariant;
* `LabelledRuns.along_congr` — conditions that agree in the states reached are met by the same runs;
* `LabelledRuns.invariant_runCost`, `LabelledRuns.runCost_eq_zero_iff` — accounts kept along a run;
* `LabelledRuns.refinement` — **refinement** with steps that the abstract machine does not see;
* `LabelledRuns.Counter.finishes_iff` — **a loop with a counter** ends in time exactly when every
  step raises it;
* `LabelledRuns.simulation` — **simulation**: matching steps give matching answers and states.
-/

import Mathlib.Data.List.Forall2
import Mathlib.Data.List.Induction
import Mathlib.Logic.Function.Basic

set_option relaxedAutoImplicit false
set_option autoImplicit false

namespace LabelledRuns

/-! ### Runs of a partial machine -/

section Partial

variable {σ ι : Type*} (step : σ → ι → Option σ)

/-- The state a run ends in, or `none` when one of its labels is not enabled. -/
def run : σ → List ι → Option σ
  | s, [] => some s
  | s, i :: is => (step s i).bind fun s' => run s' is

/-- Some run leads from one state to the other. -/
def Reaches (s s' : σ) : Prop := ∃ is, run step s is = some s'

theorem run_cons (s : σ) (i : ι) (is : List ι) :
    run step s (i :: is) = (step s i).bind fun s' => run step s' is := rfl

/-- A nonempty run that succeeds starts with a step that succeeds. -/
theorem run_cons_eq_some {s s' : σ} {i : ι} {is : List ι} :
    run step s (i :: is) = some s' ↔ ∃ t, step s i = some t ∧ run step t is = some s' := by
  rw [run_cons, Option.bind_eq_some_iff]

/-- Runs compose. -/
theorem run_append (s : σ) (is js : List ι) :
    run step s (is ++ js) = (run step s is).bind fun s' => run step s' js := by
  induction is generalizing s with
  | nil => rfl
  | cons i is ih =>
      rw [List.cons_append, run_cons, run_cons]
      cases step s i with
      | none => rfl
      | some t => exact ih t

/-- A run splits wherever its labels do. -/
theorem run_append_eq_some {s s' : σ} {is js : List ι} :
    run step s (is ++ js) = some s' ↔
      ∃ t, run step s is = some t ∧ run step t js = some s' := by
  rw [run_append, Option.bind_eq_some_iff]

variable {step}

theorem Reaches.single {s t : σ} {i : ι} (h : step s i = some t) : Reaches step s t :=
  ⟨[i], by rw [run_cons, h]; rfl⟩

theorem Reaches.concat {s t u : σ} {i : ι} (h : Reaches step s t) (hlast : step t i = some u) :
    Reaches step s u := by
  obtain ⟨is, his⟩ := h
  exact ⟨is ++ [i], (run_append_eq_some step).2 ⟨t, his, by rw [run_cons, hlast]; rfl⟩⟩

/-! ### Invariants -/

/-- **What every step preserves, every run preserves.** -/
theorem invariant_run {I : σ → Prop} (hstep : ∀ s i s', I s → step s i = some s' → I s') :
    ∀ {is : List ι} {s s' : σ}, I s → run step s is = some s' → I s' := by
  intro is
  induction is with
  | nil =>
      intro s s' hI h
      rwa [← Option.some_inj.1 h]
  | cons i is ih =>
      intro s s' hI h
      obtain ⟨t, ht, hrun⟩ := (run_cons_eq_some step).1 h
      exact ih (hstep s i t hI ht) hrun

/-- **An invariant that holds initially holds in every reachable state.** -/
theorem invariant_reaches {I : σ → Prop} (hstep : ∀ s i s', I s → step s i = some s' → I s')
    {s s' : σ} (hI : I s) (h : Reaches step s s') : I s' := by
  obtain ⟨is, his⟩ := h
  exact invariant_run hstep hI his

/-- **Invariants that mention the history.**  The invariant may speak of the labels so far; what
each step preserves, every run from the given state preserves. -/
theorem invariant_history {I : List ι → σ → Prop} {s₀ : σ} (hinit : I [] s₀)
    (hstep : ∀ is i s s', run step s₀ is = some s → I is s → step s i = some s' →
      I (is ++ [i]) s') :
    ∀ {is : List ι} {s : σ}, run step s₀ is = some s → I is s := by
  intro is
  induction is using List.reverseRecOn with
  | nil =>
      intro s h
      rwa [← Option.some_inj.1 h]
  | append_singleton is i ih =>
      intro s h
      obtain ⟨t, ht, hlast⟩ := (run_append_eq_some step).1 h
      obtain ⟨t', ht', hnil⟩ := (run_cons_eq_some step).1 hlast
      rw [← Option.some_inj.1 hnil]
      exact hstep is i t t' ht (ih ht) ht'

/-- **A label that lowers a measure.**  If it is enabled in every state with `I` whose measure is
not zero, and then lowers the measure by one and keeps `I`, as many of them bring the measure to
zero. -/
theorem run_replicate (I : σ → Prop) (m : σ → ℕ) {i : ι}
    (hstep : ∀ s k, I s → m s = k + 1 → ∃ s', step s i = some s' ∧ I s' ∧ m s' = k) :
    ∀ {n : ℕ} {s : σ}, I s → m s = n →
      ∃ s', run step s (List.replicate n i) = some s' ∧ I s' ∧ m s' = 0 := by
  intro n
  induction n with
  | zero => exact fun {s} hI hm => ⟨s, rfl, hI, hm⟩
  | succ n ih =>
      intro s hI hm
      obtain ⟨t, ht, hI', hm'⟩ := hstep s n hI hm
      obtain ⟨s', hrun, hlast⟩ := ih hI' hm'
      rw [List.replicate_succ]
      exact ⟨s', (run_cons_eq_some _).2 ⟨t, ht, hrun⟩, hlast⟩

/-- **A measure that every step lowers** bounds the length of every run. -/
theorem length_add_le_of_measure {I : σ → Prop} {m : σ → ℕ}
    (hstep : ∀ s i s', I s → step s i = some s' → I s' ∧ m s' < m s) :
    ∀ {is : List ι} {s s' : σ}, I s → run step s is = some s' → is.length + m s' ≤ m s := by
  intro is
  induction is with
  | nil =>
      intro s s' _ h
      rw [← Option.some_inj.1 h]
      exact Nat.le_of_eq (Nat.zero_add (m s))
  | cons i is ih =>
      intro s s' hI h
      obtain ⟨t, ht, hrun⟩ := (run_cons_eq_some step).1 h
      obtain ⟨hI', hlt⟩ := hstep s i t hI ht
      have hle := ih hI' hrun
      rw [List.length_cons]
      omega

/-! ### Runs that meet a condition -/

variable (step) in
/-- Every step of the run meets the condition `C` on the state before it and on its label. -/
def Along (C : σ → ι → Prop) : σ → List ι → Prop
  | _, [] => True
  | s, i :: is => C s i ∧ ∀ t, step s i = some t → Along C t is

theorem Along.cons {C : σ → ι → Prop} {s t : σ} {i : ι} {is : List ι} (ht : step s i = some t)
    (hC : C s i) (hrest : Along step C t is) : Along step C s (i :: is) :=
  ⟨hC, fun u hu => by rw [ht, Option.some_inj] at hu; exact hu ▸ hrest⟩

/-- Whether a run meets a condition that can be decided is found by running it. -/
instance Along.decidable {C : σ → ι → Prop} [∀ s i, Decidable (C s i)] :
    ∀ (s : σ) (is : List ι), Decidable (Along step C s is)
  | _, [] => .isTrue trivial
  | s, i :: is =>
      match h : step s i with
      | none => decidable_of_iff (C s i) ⟨fun hC => ⟨hC, fun t ht => by rw [h] at ht; cases ht⟩,
          And.left⟩
      | some t =>
          have := Along.decidable (C := C) t is
          decidable_of_iff (C s i ∧ Along step C t is)
            ⟨fun hC => ⟨hC.1, fun t' ht => by rw [h, Option.some_inj] at ht; exact ht ▸ hC.2⟩,
              fun hC => ⟨hC.1, hC.2 t h⟩⟩

/-- A run that is one step longer meets the condition when it did so far, and its last step does. -/
theorem along_concat {C : σ → ι → Prop} {s s' : σ} {is : List ι} {i : ι}
    (h : run step s is = some s') :
    Along step C s (is ++ [i]) ↔ Along step C s is ∧ C s' i := by
  induction is generalizing s with
  | nil =>
      rw [← Option.some_inj.1 h]
      exact ⟨fun hC => ⟨trivial, hC.1⟩, fun hC => ⟨hC.2, fun _ _ => trivial⟩⟩
  | cons j is ih =>
      obtain ⟨t, ht, hrun⟩ := (run_cons_eq_some step).1 h
      have hrest {D : σ → Prop} : (∀ u, step s j = some u → D u) ↔ D t := by
        rw [ht]
        exact ⟨fun hD => hD t rfl, fun hD u hu => Option.some_inj.1 hu ▸ hD⟩
      rw [List.cons_append, Along, Along, hrest, hrest, ih hrun, and_assoc]

/-- **What the steps that meet `C` preserve, the runs that meet `C` preserve.** -/
theorem invariant_along {I : σ → Prop} {C : σ → ι → Prop}
    (hstep : ∀ s i s', I s → C s i → step s i = some s' → I s') :
    ∀ {is : List ι} {s s' : σ}, I s → Along step C s is → run step s is = some s' → I s' := by
  intro is
  induction is with
  | nil =>
      intro s s' hI _ h
      rwa [← Option.some_inj.1 h]
  | cons i is ih =>
      intro s s' hI hC h
      obtain ⟨t, ht, hrun⟩ := (run_cons_eq_some step).1 h
      exact ih (hstep s i t hI hC.1 ht) (hC.2 t ht) hrun

/-- **A condition that says which steps keep `I` is met by the runs in which every state reached
has it.** -/
theorem along_iff_invariant {I : σ → Prop} {C R : σ → ι → Prop}
    (hC : ∀ s i, I s → (C s i ↔ R s i ∧ ∀ t, step s i = some t → I t)) :
    ∀ {is : List ι} {s : σ}, I s → (Along step C s is ↔ Along step R s is ∧
      ∀ is' s', is' <+: is → run step s is' = some s' → I s') := by
  intro is
  induction is with
  | nil =>
      intro s hI
      refine ⟨fun _ => ⟨trivial, fun is' s' hpre hrun => ?_⟩, fun _ => trivial⟩
      rw [List.prefix_nil.1 hpre] at hrun
      rwa [← Option.some_inj.1 hrun]
  | cons i is ih =>
      intro s hI
      constructor
      · rintro ⟨hCi, hrest⟩
        obtain ⟨hR, hkeep⟩ := (hC s i hI).1 hCi
        refine ⟨⟨hR, fun t ht => ((ih (hkeep t ht)).1 (hrest t ht)).1⟩, fun is' s' hpre hrun => ?_⟩
        rcases List.prefix_cons_iff.1 hpre with rfl | ⟨is'', rfl, hpre'⟩
        · rwa [← Option.some_inj.1 hrun]
        · obtain ⟨t, ht, hrun'⟩ := (run_cons_eq_some step).1 hrun
          exact ((ih (hkeep t ht)).1 (hrest t ht)).2 is'' s' hpre' hrun'
      · rintro ⟨⟨hR, hRrest⟩, hprefix⟩
        have hkeep : ∀ t, step s i = some t → I t := fun t ht =>
          hprefix [i] t (List.prefix_cons_iff.2 (Or.inr ⟨[], rfl, List.nil_prefix⟩))
            ((run_cons_eq_some step).2 ⟨t, ht, rfl⟩)
        refine ⟨(hC s i hI).2 ⟨hR, hkeep⟩, fun t ht => (ih (hkeep t ht)).2 ⟨hRrest t ht, ?_⟩⟩
        intro is' s' hpre hrun
        exact hprefix (i :: is') s' (List.prefix_cons_iff.2 (Or.inr ⟨is', rfl, hpre⟩))
          ((run_cons_eq_some step).2 ⟨t, ht, hrun⟩)

/-- **Conditions that agree in every state reached are met by the same runs.** -/
theorem along_congr {I : σ → Prop} {P : ι → Prop} {C C' : σ → ι → Prop}
    (hstep : ∀ s i s', I s → step s i = some s' → I s')
    (hC : ∀ s i, I s → P i → (C s i ↔ C' s i)) :
    ∀ {is : List ι} {s : σ}, I s → (∀ i ∈ is, P i) → (Along step C s is ↔ Along step C' s is) := by
  intro is
  induction is with
  | nil => exact fun _ _ => Iff.rfl
  | cons i is ih =>
      intro s hI hP
      refine and_congr (hC s i hI (hP i List.mem_cons_self)) (forall₂_congr fun t ht => ?_)
      exact ih (hstep s i t hI ht) fun j hj => hP j (List.mem_cons_of_mem i hj)

/-- **What the states with `I` have, the runs that meet `C` have at every step.** -/
theorem Along.of_invariant {I : σ → Prop} {C D : σ → ι → Prop}
    (hstep : ∀ s i s', I s → C s i → step s i = some s' → I s')
    (hD : ∀ s i, I s → C s i → D s i) :
    ∀ {is : List ι} {s : σ}, I s → Along step C s is → Along step D s is := by
  intro is
  induction is with
  | nil => exact fun _ _ => trivial
  | cons i is ih =>
      intro s hI hC
      exact ⟨hD s i hI hC.1, fun t ht => ih (hstep s i t hI hC.1 ht) (hC.2 t ht)⟩

/-- A condition that some labels always meet is met by every run of such labels. -/
theorem Along.of_labels {C : σ → ι → Prop} {P : ι → Prop} (hC : ∀ s i, P i → C s i) :
    ∀ {is : List ι} {s : σ}, (∀ i ∈ is, P i) → Along step C s is := by
  intro is
  induction is with
  | nil => exact fun _ => trivial
  | cons i is ih =>
      intro s hP
      exact ⟨hC s i (hP i List.mem_cons_self), fun t _ => ih fun j hj =>
        hP j (List.mem_cons_of_mem i hj)⟩

/-- In a run that meets `C`, every label has what `C` says about labels. -/
theorem Along.forall_mem {C : σ → ι → Prop} {P : ι → Prop} (hC : ∀ s i, C s i → P i) :
    ∀ {is : List ι} {s s' : σ}, Along step C s is → run step s is = some s' → ∀ i ∈ is, P i := by
  intro is
  induction is with
  | nil => exact fun _ _ i hi => absurd hi List.not_mem_nil
  | cons i is ih =>
      intro s s' hAlong h j hj
      obtain ⟨t, ht, hrun⟩ := (run_cons_eq_some step).1 h
      rcases List.mem_cons.1 hj with rfl | hj
      · exact hC s j hAlong.1
      · exact ih (hAlong.2 t ht) hrun j hj

/-! ### What a run costs -/

variable (step) in
/-- What the steps of a run cost together. -/
def runCost (cost : σ → ι → ℕ) : σ → List ι → ℕ
  | _, [] => 0
  | s, i :: is =>
      match step s i with
      | some t => cost s i + runCost cost t is
      | none => 0

section Cost

variable {cost : σ → ι → ℕ}

theorem runCost_cons {s t : σ} {i : ι} {is : List ι} (ht : step s i = some t) :
    runCost step cost s (i :: is) = cost s i + runCost step cost t is := by
  simp only [runCost, ht]

/-- **What every step adds to an account, a run adds up to.** -/
theorem invariant_runCost {I : ℕ → σ → Prop} {C : σ → ι → Prop}
    (hstep : ∀ n s i s', I n s → C s i → step s i = some s' → I (n + cost s i) s') :
    ∀ {is : List ι} {n : ℕ} {s s' : σ}, I n s → Along step C s is → run step s is = some s' →
      I (n + runCost step cost s is) s' := by
  intro is
  induction is with
  | nil =>
      intro n s s' hI _ h
      rwa [← Option.some_inj.1 h]
  | cons i is ih =>
      intro n s s' hI hC h
      obtain ⟨t, ht, hrun⟩ := (run_cons_eq_some step).1 h
      rw [runCost_cons ht, ← Nat.add_assoc]
      exact ih (hstep n s i t hI hC.1 ht) (hC.2 t ht) hrun

/-- **A run costs nothing exactly when none of its steps does.** -/
theorem runCost_eq_zero_iff {I : σ → Prop} {C D : σ → ι → Prop}
    (hstep : ∀ s i s', I s → C s i → step s i = some s' → I s')
    (hD : ∀ s i s', I s → C s i → step s i = some s' → (cost s i = 0 ↔ D s i)) :
    ∀ {is : List ι} {s s' : σ}, I s → Along step C s is → run step s is = some s' →
      (runCost step cost s is = 0 ↔ Along step D s is) := by
  intro is
  induction is with
  | nil => exact fun _ _ _ => ⟨fun _ => trivial, fun _ => rfl⟩
  | cons i is ih =>
      intro s s' hI hC h
      obtain ⟨t, ht, hrun⟩ := (run_cons_eq_some step).1 h
      have hrest := ih (hstep s i t hI hC.1 ht) (hC.2 t ht) hrun
      rw [runCost_cons ht, Nat.add_eq_zero_iff, hD s i t hI hC.1 ht, hrest]
      exact ⟨fun hD => .cons ht hD.1 hD.2, fun hD => ⟨hD.1, hD.2 t ht⟩⟩

end Cost

/-! ### What is seen of a run -/

section Trace

variable {ω : Type*} (out : ℕ → σ → ι → List ω)

variable (step) in
/-- What an observer sees of a run whose steps are numbered from `n` on. -/
def runTrace : ℕ → σ → List ι → List ω
  | _, _, [] => []
  | n, s, i :: is =>
      match step s i with
      | some t => out n s i ++ runTrace (n + 1) t is
      | none => []

variable {out}

theorem runTrace_cons {n : ℕ} {s t : σ} {i : ι} {is : List ι} (ht : step s i = some t) :
    runTrace step out n s (i :: is) = out n s i ++ runTrace step out (n + 1) t is := by
  simp only [runTrace, ht]

/-- A run that is one step longer shows what its last step shows, at the end. -/
theorem runTrace_concat {n : ℕ} {s s' t : σ} {is : List ι} {i : ι} (h : run step s is = some s')
    (hlast : step s' i = some t) :
    runTrace step out n s (is ++ [i]) =
      runTrace step out n s is ++ out (n + is.length) s' i := by
  induction is generalizing n s with
  | nil =>
      cases h
      rw [List.nil_append, runTrace_cons hlast]
      exact List.append_nil _
  | cons j is ih =>
      obtain ⟨u, hu, hrun⟩ := (run_cons_eq_some step).1 h
      rw [List.cons_append, runTrace_cons hu, runTrace_cons hu, ih hrun, List.append_assoc,
        List.length_cons, Nat.add_assoc, Nat.add_comm 1]

end Trace

/-- **Refinement.**  When every step of a machine is a step of an abstract one that shows the same,
or none that shows nothing, every run of the machine is a run of the abstract one that shows the
same. -/
theorem refinement {τ κ ω : Type*} {step' : τ → κ → Option τ} {abs : σ → τ} {I : σ → Prop}
    {out : σ → ι → List ω} {out' : τ → κ → List ω}
    (hstep : ∀ s i t, I s → step s i = some t → I t ∧
      (abs t = abs s ∧ out s i = [] ∨ ∃ j, step' (abs s) j = some (abs t) ∧
        out' (abs s) j = out s i)) :
    ∀ {is : List ι} {s t : σ}, I s → run step s is = some t → I t ∧ ∃ js,
      run step' (abs s) js = some (abs t) ∧ ∀ n m, runTrace step' (fun _ => out') n (abs s) js =
        runTrace step (fun _ => out) m s is := by
  intro is
  induction is with
  | nil =>
      intro s t hI h
      cases h
      exact ⟨hI, [], rfl, fun _ _ => rfl⟩
  | cons i is ih =>
      intro s t hI h
      obtain ⟨u, hu, hrun⟩ := (run_cons_eq_some step).1 h
      obtain ⟨hI', hmatch⟩ := hstep s i u hI hu
      obtain ⟨hend, js, hjs, htrace⟩ := ih hI' hrun
      rcases hmatch with ⟨hsame, hsilent⟩ | ⟨j, hj, hout⟩
      · rw [hsame] at hjs htrace
        refine ⟨hend, js, hjs, fun n m => ?_⟩
        rw [runTrace_cons hu, hsilent, List.nil_append]
        exact htrace n (m + 1)
      · refine ⟨hend, j :: js, (run_cons_eq_some step').2 ⟨_, hj, hjs⟩, fun n m => ?_⟩
        rw [runTrace_cons hu, runTrace_cons hj, hout, htrace (n + 1) (m + 1)]

/-! ### Runs on a tape -/

variable (step) in
/-- The state after `n` steps, when the labels come from an infinite tape. -/
def onTape (s : σ) (tape : ℕ → ι) : ℕ → Option σ
  | 0 => some s
  | n + 1 => (onTape s tape n).bind fun t => step t (tape n)

section Tape

variable {s s' : σ} {tape : ℕ → ι} {n m : ℕ}

theorem onTape_succ_eq_some : onTape step s tape (n + 1) = some s' ↔
    ∃ t, onTape step s tape n = some t ∧ step t (tape n) = some s' := by
  rw [onTape, Option.bind_eq_some_iff]

/-- The steps on a tape are the run of its first labels. -/
theorem run_map_range (n : ℕ) :
    run step s ((List.range n).map tape) = onTape step s tape n := by
  induction n with
  | zero => rfl
  | succ n ih =>
      rw [List.range_succ, List.map_append, run_append, ih, onTape]
      refine congrArg _ (funext fun t => ?_)
      rw [List.map_singleton, run_cons]
      cases step t (tape n) <;> rfl

/-- What every step preserves holds after every number of steps. -/
theorem invariant_onTape {I : σ → Prop} (hstep : ∀ s i s', I s → step s i = some s' → I s')
    (hI : I s) (h : onTape step s tape n = some s') : I s' := by
  rw [← run_map_range] at h
  exact invariant_run hstep hI h

/-- In the states that satisfy `I`, and it keeps them, the machine stops once the counter has
reached `N`, and no step raises it by more than one. -/
structure Counter (step : σ → ι → Option σ) (I : σ → Prop) (c : σ → ℕ) (N : ℕ) : Prop where
  keep : ∀ s i s', I s → step s i = some s' → I s'
  below : ∀ s i s', I s → step s i = some s' → c s < N
  raise : ∀ s i s', I s → step s i = some s' → c s' ≤ c s + 1

section Counter

variable {I : σ → Prop} {c : σ → ℕ} {N : ℕ}

/-- The counter is not above the number of steps. -/
theorem Counter.le (h : Counter step I c N) (hI : I s) (hzero : c s = 0)
    (hn : onTape step s tape n = some s') : c s' ≤ n := by
  induction n generalizing s' with
  | zero =>
      rw [← Option.some_inj.1 hn]
      exact Nat.le_of_eq hzero
  | succ n ih =>
      obtain ⟨t, ht, hlast⟩ := onTape_succ_eq_some.1 hn
      have hraise := h.raise _ _ _ (invariant_onTape h.keep hI ht) hlast
      exact Nat.le_trans hraise (Nat.succ_le_succ (ih ht))

/-- Step `m` has been taken when a later one has, and then the counter has not been raised by more
than the number of steps since. -/
theorem Counter.earlier (h : Counter step I c N) (hI : I s)
    (hn : onTape step s tape (m + n) = some s') :
    ∃ t, onTape step s tape m = some t ∧ c s' ≤ c t + n := by
  induction n generalizing s' with
  | zero => exact ⟨s', hn, Nat.le_refl _⟩
  | succ n ih =>
      obtain ⟨u, hu, hlast⟩ := onTape_succ_eq_some.1 hn
      obtain ⟨t, ht, hle⟩ := ih hu
      have hone := h.raise _ _ _ (invariant_onTape h.keep hI hu) hlast
      exact ⟨t, ht, by omega⟩

/-- The counter has not reached `N` when a step is still to come. -/
theorem Counter.lt_of_lt (h : Counter step I c N) (hI : I s) {u : σ}
    (hm : onTape step s tape m = some s') (hn : onTape step s tape n = some u) (hmn : m < n) :
    c s' < N := by
  obtain ⟨k, rfl⟩ := Nat.exists_eq_add_of_lt hmn
  rw [show m + k + 1 = m + 1 + k by omega] at hn
  obtain ⟨t, ht, _⟩ := h.earlier hI hn
  obtain ⟨v, hv, hlast⟩ := onTape_succ_eq_some.1 ht
  rw [hm, Option.some_inj] at hv
  exact h.below _ _ _ (invariant_onTape h.keep hI hm) (hv ▸ hlast)

/-- **A loop with a counter** has counted to `N` within `N` steps exactly when every step before has
raised the counter. -/
theorem Counter.finishes_iff (h : Counter step I c N) (hI : I s) (hzero : c s = 0) :
    (∃ n ≤ N, ∃ s', onTape step s tape n = some s' ∧ N ≤ c s') ↔
      ∀ n s', onTape step s tape n = some s' → c s' < N →
        ∃ t, step s' (tape n) = some t ∧ c t = c s' + 1 := by
  constructor
  · rintro ⟨n, hn, u, hu, hdone⟩ m s' hm hlt
    -- step `m` is before the end, since there is no step behind it
    have hmn : m < n := by
      rcases Nat.lt_trichotomy m n with hmn | rfl | hnm
      · exact hmn
      · rw [hu, Option.some_inj] at hm
        rw [hm] at hdone
        omega
      · have hlow := h.lt_of_lt hI hu hm hnm
        omega
    obtain ⟨k, rfl⟩ := Nat.exists_eq_add_of_lt hmn
    rw [show m + k + 1 = m + 1 + k by omega] at hu
    obtain ⟨t, ht, hle⟩ := h.earlier hI hu
    obtain ⟨s'', hs'', hlast⟩ := onTape_succ_eq_some.1 ht
    rw [hm, Option.some_inj] at hs''
    subst hs''
    refine ⟨t, hlast, ?_⟩
    have hbefore := h.le hI hzero hm
    have hraise := h.raise _ _ _ (invariant_onTape h.keep hI hm) hlast
    omega
  · intro hall
    have hrun : ∀ n ≤ N, ∃ s', onTape step s tape n = some s' ∧ c s' = n := by
      intro n
      induction n with
      | zero => exact fun _ => ⟨s, rfl, hzero⟩
      | succ n ih =>
          intro hn
          obtain ⟨s', hs', hc⟩ := ih (by omega)
          obtain ⟨t, ht, hct⟩ := hall n s' hs' (by omega)
          exact ⟨t, onTape_succ_eq_some.2 ⟨s', hs', ht⟩, by omega⟩
    obtain ⟨s', hs', hc⟩ := hrun N (Nat.le_refl N)
    exact ⟨N, Nat.le_refl N, s', hs', by omega⟩

end Counter

end Tape

end Partial

/-! ### Machines made of parts -/

/-- After a step of one part, every other part is what it was. -/
theorem update_cases {κ υ : Type*} [DecidableEq κ] {f : κ → υ} {k x : κ} {v u : υ}
    (h : Function.update f k v x = u) : (x = k ∧ v = u) ∨ (x ≠ k ∧ f x = u) := by
  by_cases hx : x = k
  · subst hx
    rw [Function.update_self] at h
    exact Or.inl ⟨rfl, h⟩
  · rw [Function.update_of_ne hx] at h
    exact Or.inr ⟨hx, h⟩

/-! ### Machines that answer -/

section Reactive

variable {σ τ ι ω υ : Type*}

/-- The answers of a machine to a list of labels, and the state it ends in. -/
def respond (react : σ → ι → ω × σ) : σ → List ι → List ω × σ
  | s, [] => ([], s)
  | s, i :: is =>
      let r := react s i
      let rest := respond react r.2 is
      (r.1 :: rest.1, rest.2)

/-- One more label gets one more answer. -/
theorem respond_concat (react : σ → ι → ω × σ) (s : σ) (is : List ι) (i : ι) :
    respond react s (is ++ [i]) =
      ((respond react s is).1 ++ [(react (respond react s is).2 i).1],
        (react (respond react s is).2 i).2) := by
  induction is generalizing s with
  | nil => rfl
  | cons j is ih =>
      rw [List.cons_append, respond, ih]
      rfl

/-- Labels that stand for others are answered as those. -/
theorem respond_map {ι' : Type*} (react : σ → ι → ω × σ) (f : ι' → ι) (s : σ) (is : List ι') :
    respond react s (is.map f) = respond (fun s i => react s (f i)) s is := by
  induction is generalizing s with
  | nil => rfl
  | cons i is ih =>
      rw [List.map_cons, respond, ih]
      rfl

/-- What every answer to a label with `P` preserves, a run of such labels preserves. -/
theorem invariant_respond {react : σ → ι → ω × σ} {I : σ → Prop} {P : ι → Prop}
    (hstep : ∀ s i, I s → P i → I (react s i).2) :
    ∀ {is : List ι} {s : σ}, I s → (∀ i ∈ is, P i) → I (respond react s is).2 := by
  intro is
  induction is with
  | nil => exact fun hI _ => hI
  | cons i is ih =>
      intro s hI hP
      exact ih (hstep s i hI (hP i List.mem_cons_self)) fun j hj => hP j (List.mem_cons_of_mem i hj)

/-- Every label meets the condition `G` in the state the machine is in when it arrives. -/
def Guarded (react : σ → ι → ω × σ) (G : σ → ι → Prop) : σ → List ι → Prop
  | _, [] => True
  | s, i :: is => G s i ∧ Guarded react G (react s i).2 is

/-- **Simulation.**  When related states answer a guarded label with related answers and move to
related states, guarded runs from related states give related answers, one by one, and end in
related states. -/
theorem simulation {f : σ → ι → ω × σ} {g : τ → ι → υ × τ} {R : σ → τ → Prop}
    {Q : ω → υ → Prop} {G : τ → ι → Prop}
    (hstep : ∀ s t i, R s t → G t i → Q (f s i).1 (g t i).1 ∧ R (f s i).2 (g t i).2) :
    ∀ {is : List ι} {s : σ} {t : τ}, R s t → Guarded g G t is →
      List.Forall₂ Q (respond f s is).1 (respond g t is).1 ∧
        R (respond f s is).2 (respond g t is).2 := by
  intro is
  induction is with
  | nil => intro s t hR _; exact ⟨List.Forall₂.nil, hR⟩
  | cons i is ih =>
      intro s t hR hG
      obtain ⟨hQ, hR'⟩ := hstep s t i hR hG.1
      obtain ⟨hans, hend⟩ := ih hR' hG.2
      exact ⟨List.Forall₂.cons hQ hans, hend⟩

end Reactive

end LabelledRuns
