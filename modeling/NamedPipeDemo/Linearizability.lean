/-
**Linearizability: concurrent calls that could have been made one after another.**

Several threads call the operations of one object, and their calls overlap.  An observer sees a
*history*: which call began when, which returned when, and with what answer.  The history is
linearizable when the calls can be put into an order in which a *sequential* object — a machine that
takes one operation at a time and answers it — gives these answers, and in which a call that had
returned before another one began stands before it.

The way to prove it is to name, for every call, the step at which it takes effect.  This module does
the bookkeeping once: threads are outside a call, inside one that has not taken effect yet, or past
that step; a step begins a call, commits one, returns from one, or does nothing that can be
observed.  What is left to prove of a concrete system is that its steps are of these four kinds.

Main definitions:

* `Linearizability.Event`, `Linearizability.Before` — histories, and their real-time order;
* `Linearizability.Event.Rel` — two histories of the same calls;
* `Linearizability.LinearizesTo` — **the history has this order, and the object ends in this
  state**;
* `Linearizability.InOrder` — **a client that sends in order**;
* `Linearizability.Record`, `Linearizability.Phase`, `Linearizability.Tracked` — the bookkeeping of
  a system with numbered calls.

Main results:

* `Linearizability.LinearizesTo.call`, `Linearizability.LinearizesTo.commit`,
  `Linearizability.LinearizesTo.return_` — what a history and its order may grow by;
* `Linearizability.Tracked.call`, `Linearizability.Tracked.commit`,
  `Linearizability.Tracked.return_`, `Linearizability.Tracked.silent` — **the four kinds of step**;
* `Linearizability.InOrder.send`, `Linearizability.InOrder.serve` — a queue of calls;
* `Linearizability.LinearizesTo.invariant` — what the sequential object keeps, the concurrent one
  has;
* `Linearizability.LinearizesTo.simulation` — a simulation of the sequential object by an abstract
  one carries over to the order.
-/

import NamedPipeDemo.LabelledRuns
import Mathlib.Data.List.Nodup

set_option relaxedAutoImplicit false
set_option autoImplicit false

namespace Linearizability

open LabelledRuns

/-! ### Histories -/

/-- What an observer sees of the call `k`. -/
inductive Event (κ ι ω : Type*)
  | call (k : κ) (op : ι)
  | return_ (k : κ) (answer : ω)

/-- A call that has taken effect: its operation, and its answer. -/
structure Done (κ ι ω : Type*) where
  call : κ
  op : ι
  answer : ω

/-- Two observers see the same call, with operations and answers that are related. -/
inductive Event.Rel {κ ι ω ι' υ : Type*} (P : κ → ι → ι' → Prop) (Q : κ → ω → υ → Prop) :
    Event κ ι ω → Event κ ι' υ → Prop
  | call {k : κ} {op : ι} {op' : ι'} (h : P k op op') : Rel P Q (.call k op) (.call k op')
  | return_ {k : κ} {answer : ω} {answer' : υ} (h : Q k answer answer') :
      Rel P Q (.return_ k answer) (.return_ k answer')

section Histories

variable {κ ι ω τ : Type*} {h : List (Event κ ι ω)} {w : List (Done κ ι ω)} {i j k : κ}

/-- The call `j` returned before the call `k` began. -/
def Before (h : List (Event κ ι ω)) (j k : κ) : Prop :=
  ∃ h₁ h₂, h = h₁ ++ h₂ ∧ (∃ answer, .return_ j answer ∈ h₁) ∧ ∃ op, .call k op ∈ h₂

/-- A history that is one event longer is split before the event or behind it. -/
theorem append_eq_concat {e : Event κ ι ω} {h₁ h₂ : List (Event κ ι ω)}
    (heq : h ++ [e] = h₁ ++ h₂) : h₂ = [] ∨ ∃ h₂', h₂ = h₂' ++ [e] ∧ h = h₁ ++ h₂' := by
  rcases List.eq_nil_or_concat h₂ with hnil | ⟨h₂', e', hlast⟩
  · exact Or.inl hnil
  · rw [hlast, List.concat_eq_append, ← List.append_assoc] at heq
    obtain ⟨hinit, he⟩ := List.append_inj' heq rfl
    cases he
    exact Or.inr ⟨h₂', by rw [hlast, List.concat_eq_append], hinit⟩

/-- A return puts no call before another. -/
theorem before_of_return {answer : ω} (hb : Before (h ++ [.return_ i answer]) j k) :
    Before h j k := by
  obtain ⟨h₁, h₂, heq, hreturn, op, hcall⟩ := hb
  rcases append_eq_concat heq with rfl | ⟨h₂', rfl, rfl⟩
  · cases hcall
  · refine ⟨h₁, h₂', rfl, hreturn, op, ?_⟩
    rcases List.mem_append.1 hcall with hcall | hcall
    · exact hcall
    · cases List.mem_singleton.1 hcall

/-- A new call comes behind those that have returned. -/
theorem before_of_call {op : ι} (hb : Before (h ++ [.call i op]) j k) :
    Before h j k ∨ k = i ∧ ∃ answer, .return_ j answer ∈ h := by
  obtain ⟨h₁, h₂, heq, hreturn, op', hcall⟩ := hb
  rcases append_eq_concat heq with rfl | ⟨h₂', rfl, rfl⟩
  · cases hcall
  · rcases List.mem_append.1 hcall with hcall | hcall
    · exact Or.inl ⟨h₁, h₂', rfl, hreturn, op', hcall⟩
    · cases List.mem_singleton.1 hcall
      exact Or.inr ⟨rfl, hreturn.imp fun _ hmem => List.mem_append_left _ hmem⟩

/-- Only a call that has returned comes before another, and only one that was made behind it. -/
theorem Before.mem (hb : Before h j k) :
    (∃ answer, .return_ j answer ∈ h) ∧ ∃ op, .call k op ∈ h := by
  obtain ⟨h₁, h₂, rfl, hreturn, hcall⟩ := hb
  exact ⟨hreturn.imp fun _ hmem => List.mem_append_left _ hmem,
    hcall.imp fun _ hmem => List.mem_append_right _ hmem⟩

/-- **The calls of the history took effect in the order `w`, and left the object in the state `s`.**
The object gives the answers in this order; every call in it was made, every call that returned is
in it with the answer it returned with; and it respects real time. -/
structure LinearizesTo (react : τ → ι → ω × τ) (s₀ : τ) (h : List (Event κ ι ω))
    (w : List (Done κ ι ω)) (s : τ) : Prop where
  legal : respond react s₀ (w.map Done.op) = (w.map Done.answer, s)
  once : (w.map Done.call).Nodup
  called : ∀ d ∈ w, .call d.call d.op ∈ h
  returned : ∀ k answer, .return_ k answer ∈ h → ∃ op, ⟨k, op, answer⟩ ∈ w
  order : ∀ j k, Before h j k → k ∈ w.map Done.call → [j, k].Sublist (w.map Done.call)

namespace LinearizesTo

variable {react : τ → ι → ω × τ} {s₀ s : τ}

/-- Nothing has happened. -/
theorem nil : LinearizesTo react s₀ ([] : List (Event κ ι ω)) [] s₀ where
  legal := rfl
  once := List.nodup_nil
  called _ hd := by cases hd
  returned _ _ hr := by cases hr
  order _ _ _ hk := by cases hk

/-- A new call begins; it has not taken effect. -/
theorem call (hl : LinearizesTo react s₀ h w s) {op : ι} (hnew : ∀ op, .call k op ∉ h) :
    LinearizesTo react s₀ (h ++ [.call k op]) w s where
  legal := hl.legal
  once := hl.once
  called d hd := List.mem_append_left _ (hl.called d hd)
  returned j answer hr := by
    rcases List.mem_append.1 hr with hr | hr
    · exact hl.returned j answer hr
    · cases List.mem_singleton.1 hr
  order i j hb hj := by
    rcases before_of_call hb with hb | ⟨rfl, _⟩
    · exact hl.order i j hb hj
    · obtain ⟨d, hd, rfl⟩ := List.mem_map.1 hj
      exact absurd (hl.called d hd) (hnew d.op)

/-- A call that was made takes effect, as the last one so far. -/
theorem commit (hl : LinearizesTo react s₀ h w s) {op : ι} (hcall : .call k op ∈ h)
    (hnew : k ∉ w.map Done.call) :
    LinearizesTo react s₀ h (w ++ [⟨k, op, (react s op).1⟩]) (react s op).2 where
  legal := by
    rw [List.map_append, List.map_singleton, respond_concat, hl.legal, List.map_append,
      List.map_singleton]
  once := by
    rw [List.map_append]
    exact List.nodup_append_comm.1 (List.nodup_cons.2 ⟨hnew, hl.once⟩)
  called d hd := by
    rcases List.mem_append.1 hd with hd | hd
    · exact hl.called d hd
    · rw [List.mem_singleton.1 hd]
      exact hcall
  returned j answer hr := (hl.returned j answer hr).imp fun _ hd => List.mem_append_left _ hd
  order i j hb hj := by
    rw [List.map_append] at hj ⊢
    rcases List.mem_append.1 hj with hj | hj
    · exact (hl.order i j hb hj).trans (List.sublist_append_left _ _)
    · -- the call is the last one, and what returned before it began has taken effect
      rw [List.mem_singleton.1 hj]
      obtain ⟨answer, hr⟩ := hb.mem.1
      obtain ⟨op', hd⟩ := hl.returned i answer hr
      have hi : [i].Sublist (w.map Done.call) :=
        List.singleton_sublist.2 (List.mem_map_of_mem hd)
      exact hi.append (List.Sublist.refl [k])

/-- A call that has taken effect returns with its answer. -/
theorem return_ (hl : LinearizesTo react s₀ h w s) {d : Done κ ι ω} (hd : d ∈ w) :
    LinearizesTo react s₀ (h ++ [.return_ d.call d.answer]) w s where
  legal := hl.legal
  once := hl.once
  called d' hd' := List.mem_append_left _ (hl.called d' hd')
  returned j answer hr := by
    rcases List.mem_append.1 hr with hr | hr
    · exact hl.returned j answer hr
    · cases List.mem_singleton.1 hr
      exact ⟨d.op, hd⟩
  order i j hb := hl.order i j (before_of_return hb)

/-- A call that stands before another one was not made after that one had returned. -/
theorem not_before (hl : LinearizesTo react s₀ h w s) (hjk : [j, k].Sublist (w.map Done.call)) :
    ¬ Before h k j := by
  intro hb
  classical
  have hkj := hl.order k j hb (hjk.subset List.mem_cons_self)
  -- both orders at once contradict that every call takes effect once
  have hpair : (w.map Done.call).Pairwise fun a b => (w.map Done.call).idxOf a <
      (w.map Done.call).idxOf b := by
    rw [List.pairwise_iff_getElem]
    intro m n hm hn hmn
    rwa [hl.once.idxOf_getElem m hm, hl.once.idxOf_getElem n hn]
  have hlt := List.pairwise_pair.1 (hpair.sublist hjk)
  have hgt := List.pairwise_pair.1 (hpair.sublist hkj)
  exact Nat.lt_asymm hlt hgt

/-! ### What carries over from the sequential object -/

/-- **What the sequential object keeps, the concurrent one has.**  The operations may be assumed to
have what all those in the history have. -/
theorem invariant (hl : LinearizesTo react s₀ h w s) {I : τ → Prop} {P : ι → Prop} (hI : I s₀)
    (hstep : ∀ s op, I s → P op → I (react s op).2) (hP : ∀ k op, .call k op ∈ h → P op) :
    I s := by
  have hops : ∀ op ∈ w.map Done.op, P op := by
    intro op hop
    obtain ⟨d, hd, rfl⟩ := List.mem_map.1 hop
    exact hP _ _ (hl.called d hd)
  have hend := invariant_respond hstep hI hops
  rwa [hl.legal] at hend

/-- **A simulation carries over.**  When the operations of the history stand for operations of an
abstract object that simulates the sequential one, the answers in the order are, one by one, related
to those the abstract object gives, and so are the states. -/
theorem simulation {ι' υ τ' : Type*} (hl : LinearizesTo react s₀ h w s) {g : τ' → ι' → υ × τ'}
    {f : ι' → ι} {R : τ → τ' → Prop} {Q : ω → υ → Prop} {G : τ' → ι' → Prop} {t₀ : τ'}
    {ops : List ι'} (hops : w.map Done.op = ops.map f)
    (hstep : ∀ s t op, R s t → G t op → Q (react s (f op)).1 (g t op).1 ∧
      R (react s (f op)).2 (g t op).2)
    (hR : R s₀ t₀) (hG : Guarded g G t₀ ops) :
    List.Forall₂ Q (w.map Done.answer) (respond g t₀ ops).1 ∧ R s (respond g t₀ ops).2 := by
  have hlegal := hl.legal
  rw [hops, respond_map] at hlegal
  have hsim := LabelledRuns.simulation (f := fun s op => react s (f op)) hstep hR hG
  rwa [hlegal] at hsim

end LinearizesTo

end Histories

/-! ### Clients that send in order -/

/-- How a client names its calls: `name a` is the one it makes with the id `a`. -/
structure Naming (α κ : Type*) where
  name : α → κ
  own : κ → Option α
  own_eq_some : ∀ k a, own k = some a ↔ k = name a

section InOrder

variable {α κ ι ω : Type*} {N : Naming α κ} {h e : List (Event κ ι ω)} {w : List (Done κ ι ω)}
  {sent : List α} {queue : List (α × ι)} {a : α} {op : ι}

variable (N) in
/-- The ids of a client, in the order in which its calls took effect. -/
def effects (w : List (Done κ ι ω)) : List α := (w.map Done.call).filterMap N.own

theorem effects_concat (d : Done κ ι ω) :
    effects N (w ++ [d]) = effects N w ++ (N.own d.call).toList := by
  have hlast : [d.call].filterMap N.own = (N.own d.call).toList := by
    cases hd : N.own d.call with
    | none => rw [List.filterMap_cons_none hd]; rfl
    | some a => rw [List.filterMap_cons_some hd]; rfl
  rw [effects, List.map_append, List.filterMap_append, List.map_singleton, hlast]
  rfl

theorem mem_effects : a ∈ effects N w ↔ N.name a ∈ w.map Done.call := by
  rw [effects, List.mem_filterMap]
  constructor
  · rintro ⟨k, hk, hown⟩
    rwa [← (N.own_eq_some k a).1 hown]
  · exact fun hmem => ⟨N.name a, hmem, (N.own_eq_some _ _).2 rfl⟩

/-- **A client sends in order**: the calls it has made are those that took effect, in this order,
and behind them those that are in its queue. -/
structure InOrder (N : Naming α κ) (h : List (Event κ ι ω)) (w : List (Done κ ι ω))
    (sent : List α) (queue : List (α × ι)) : Prop where
  called : ∀ a op, .call (N.name a) op ∈ h → a ∈ sent
  split : sent = effects N w ++ queue.map Prod.fst
  queued : ∀ m ∈ queue, .call (N.name m.1) m.2 ∈ h

namespace InOrder

theorem start : InOrder N ([] : List (Event κ ι ω)) [] [] [] where
  called _ _ hcall := by cases hcall
  split := rfl
  queued _ hm := by cases hm

/-- An id that was not sent names no call. -/
theorem fresh (hN : InOrder N h w sent queue) (ha : a ∉ sent) : ∀ op, .call (N.name a) op ∉ h :=
  fun op hcall => ha (hN.called a op hcall)

/-- The client makes a call. -/
theorem send (hN : InOrder N h w sent queue) :
    InOrder N (h ++ [.call (N.name a) op]) w (sent ++ [a]) (queue ++ [(a, op)]) where
  called b op' hcall := by
    rcases List.mem_append.1 hcall with hcall | hcall
    · exact List.mem_append_left _ (hN.called b op' hcall)
    · have heq := List.mem_singleton.1 hcall
      rw [Event.call.injEq] at heq
      have hown := (N.own_eq_some (N.name b) b).2 rfl
      rw [heq.1, (N.own_eq_some (N.name a) a).2 rfl, Option.some_inj] at hown
      exact List.mem_append_right _ (List.mem_singleton.2 hown.symm)
  split := by rw [hN.split, List.map_append, List.append_assoc]; rfl
  queued m hm := by
    rcases List.mem_append.1 hm with hm | hm
    · exact List.mem_append_left _ (hN.queued m hm)
    · rw [List.mem_singleton.1 hm]
      exact List.mem_append_right _ (List.mem_singleton_self _)

/-- What happens that is no call of the client. -/
theorem mono (hN : InOrder N h w sent queue) (he : ∀ a op, .call (N.name a) op ∉ e) :
    InOrder N (h ++ e) w sent queue where
  called b op hcall :=
    (List.mem_append.1 hcall).elim (hN.called b op) fun hcall => absurd hcall (he b op)
  split := hN.split
  queued m hm := List.mem_append_left _ (hN.queued m hm)

/-- The first call in the queue is new, -/
theorem notMem_effects (hN : InOrder N h w sent ((a, op) :: queue)) (hsent : sent.Nodup) :
    N.name a ∉ w.map Done.call := by
  intro hmem
  rw [hN.split] at hsent
  exact List.disjoint_of_nodup_append hsent (mem_effects.2 hmem) List.mem_cons_self

/-- and takes effect. -/
theorem serve (hN : InOrder N h w sent ((a, op) :: queue)) (answer : ω) :
    InOrder N h (w ++ [⟨N.name a, op, answer⟩]) sent queue where
  called := hN.called
  split := by
    rw [effects_concat, (N.own_eq_some _ _).2 rfl, hN.split, List.append_assoc]
    rfl
  queued m hm := hN.queued m (List.mem_cons_of_mem _ hm)

/-- A call of somebody else takes effect. -/
theorem other (hN : InOrder N h w sent queue) {d : Done κ ι ω} (hd : N.own d.call = none) :
    InOrder N h (w ++ [d]) sent queue where
  called := hN.called
  split := by rw [effects_concat, hd, hN.split, Option.toList_none, List.append_nil]
  queued := hN.queued

end InOrder

end InOrder

/-! ### Systems with numbered calls -/

/-- What a system keeps of its calls, which are numbered as they begin. -/
structure Record (ι ω : Type*) where
  calls : ℕ := 0
  history : List (Event ℕ ι ω) := []
  done : List (Done ℕ ι ω) := []

/-- Where a thread is with respect to its call. -/
inductive Phase (ι ω : Type*)
  | outside
  /-- The call has not taken effect. -/
  | inside (k : ℕ) (op : ι)
  /-- The call has taken effect, and will return this answer. -/
  | past (k : ℕ) (op : ι) (answer : ω)

namespace Record

variable {ι ω : Type*}

/-- A call begins. -/
def call (r : Record ι ω) (op : ι) : Record ι ω :=
  { r with calls := r.calls + 1, history := r.history ++ [.call r.calls op] }

/-- A call takes effect. -/
def commit (r : Record ι ω) (k : ℕ) (op : ι) (answer : ω) : Record ι ω :=
  { r with done := r.done ++ [⟨k, op, answer⟩] }

/-- A call returns. -/
def return_ (r : Record ι ω) (k : ℕ) (answer : ω) : Record ι ω :=
  { r with history := r.history ++ [.return_ k answer] }

end Record

/-- **The invariant of such a system**: what it has recorded linearizes to the state of the object,
and every thread is where its phase says. -/
structure Tracked {ι ω τ θ : Type*} (react : τ → ι → ω × τ) (s₀ : τ) (phase : θ → Phase ι ω)
    (r : Record ι ω) (s : τ) : Prop where
  linearizes : LinearizesTo react s₀ r.history r.done s
  inside : ∀ t k op, phase t = .inside k op →
    .call k op ∈ r.history ∧ k ∉ r.done.map Done.call
  past : ∀ t k op answer, phase t = .past k op answer → ⟨k, op, answer⟩ ∈ r.done
  alone : ∀ t u k op op', phase t = .inside k op → phase u = .inside k op' → t = u
  bound : ∀ k op, .call k op ∈ r.history → k < r.calls

namespace Tracked

variable {ι ω τ θ : Type*} {react : τ → ι → ω × τ} {s₀ s : τ}
  {phase phase' : θ → Phase ι ω} {r : Record ι ω} {t : θ} {k : ℕ} {op : ι}

/-- Nobody has called anything. -/
theorem start (hphase : ∀ t : θ, phase t = .outside) : Tracked react s₀ phase {} s₀ where
  linearizes := .nil
  inside t _ _ ht := by rw [hphase t] at ht; cases ht
  past t _ _ _ ht := by rw [hphase t] at ht; cases ht
  alone t _ _ _ _ ht := by rw [hphase t] at ht; cases ht
  bound _ _ hcall := by cases hcall

/-- **A step that cannot be observed** leaves every thread in its phase. -/
theorem silent (hT : Tracked react s₀ phase r s) (hphase : ∀ t, phase' t = phase t) :
    Tracked react s₀ phase' r s := by
  have heq : phase' = phase := funext hphase
  rwa [heq]

variable [DecidableEq θ]

/-- **A call begins.** -/
theorem call (hT : Tracked react s₀ phase r s) (op : ι)
    (hphase : phase' = Function.update phase t (.inside r.calls op)) :
    Tracked react s₀ phase' (r.call op) s := by
  have hnew : ∀ op, .call r.calls op ∉ r.history := fun op hmem =>
    Nat.lt_irrefl _ (hT.bound _ op hmem)
  subst hphase
  refine ⟨hT.linearizes.call hnew, fun u k op' hu => ?_, fun u k op' answer hu => ?_,
    fun u v k op₁ op₂ hu hv => ?_, fun k op' hmem => ?_⟩
  · rcases update_cases hu with ⟨_, heq⟩ | ⟨_, hu⟩
    · cases heq
      refine ⟨List.mem_append_right _ (List.mem_singleton_self _), fun hdone => ?_⟩
      obtain ⟨d, hd, hk⟩ := List.mem_map.1 hdone
      exact hnew d.op (hk ▸ hT.linearizes.called d hd)
    · exact (hT.inside u k op' hu).imp_left (List.mem_append_left _)
  · rcases update_cases hu with ⟨_, heq⟩ | ⟨_, hu⟩
    · cases heq
    · exact hT.past u k op' answer hu
  · rcases update_cases hu with ⟨hut, heq⟩ | ⟨_, hu⟩ <;>
      rcases update_cases hv with ⟨hvt, heq'⟩ | ⟨_, hv⟩
    · rw [hut, hvt]
    · cases heq
      exact absurd (hT.inside v _ op₂ hv).1 (hnew op₂)
    · cases heq'
      exact absurd (hT.inside u _ op₁ hu).1 (hnew op₁)
    · exact hT.alone u v k op₁ op₂ hu hv
  · rcases List.mem_append.1 hmem with hmem | hmem
    · exact Nat.lt_succ_of_lt (hT.bound k op' hmem)
    · cases List.mem_singleton.1 hmem
      exact Nat.lt_succ_self _

/-- **A call takes effect**: the object takes its operation. -/
theorem commit (hT : Tracked react s₀ phase r s) (ht : phase t = .inside k op)
    (hphase : phase' = Function.update phase t (.past k op (react s op).1)) :
    Tracked react s₀ phase' (r.commit k op (react s op).1) (react s op).2 := by
  obtain ⟨hcall, hnew⟩ := hT.inside t k op ht
  subst hphase
  refine ⟨hT.linearizes.commit hcall hnew, fun u k' op' hu => ?_, fun u k' op' answer hu => ?_,
    fun u v k' op₁ op₂ hu hv => ?_, hT.bound⟩
  · rcases update_cases hu with ⟨_, heq⟩ | ⟨hut, hu⟩
    · cases heq
    · refine ⟨(hT.inside u k' op' hu).1, fun hdone => ?_⟩
      rw [Record.commit, List.map_append] at hdone
      rcases List.mem_append.1 hdone with hdone | hdone
      · exact (hT.inside u k' op' hu).2 hdone
      · rw [List.mem_singleton.1 hdone] at hu
        exact hut (hT.alone u t k op' op hu ht)
  · rcases update_cases hu with ⟨_, heq⟩ | ⟨_, hu⟩
    · cases heq
      exact List.mem_append_right _ (List.mem_singleton_self _)
    · exact List.mem_append_left _ (hT.past u k' op' answer hu)
  · rcases update_cases hu with ⟨_, heq⟩ | ⟨_, hu⟩
    · cases heq
    · rcases update_cases hv with ⟨_, heq⟩ | ⟨_, hv⟩
      · cases heq
      · exact hT.alone u v k' op₁ op₂ hu hv

/-- **A call returns** what it took effect with. -/
theorem return_ (hT : Tracked react s₀ phase r s) {answer : ω}
    (ht : phase t = .past k op answer) (hphase : phase' = Function.update phase t .outside) :
    Tracked react s₀ phase' (r.return_ k answer) s := by
  have hd := hT.past t k op answer ht
  subst hphase
  refine ⟨hT.linearizes.return_ hd, fun u k' op' hu => ?_, fun u k' op' answer' hu => ?_,
    fun u v k' op₁ op₂ hu hv => ?_, fun k' op' hmem => ?_⟩
  · rcases update_cases hu with ⟨_, heq⟩ | ⟨_, hu⟩
    · cases heq
    · exact (hT.inside u k' op' hu).imp_left (List.mem_append_left _)
  · rcases update_cases hu with ⟨_, heq⟩ | ⟨_, hu⟩
    · cases heq
    · exact hT.past u k' op' answer' hu
  · rcases update_cases hu with ⟨_, heq⟩ | ⟨_, hu⟩
    · cases heq
    · rcases update_cases hv with ⟨_, heq⟩ | ⟨_, hv⟩
      · cases heq
      · exact hT.alone u v k' op₁ op₂ hu hv
  · rcases List.mem_append.1 hmem with hmem | hmem
    · exact hT.bound k' op' hmem
    · cases List.mem_singleton.1 hmem

end Tracked

end Linearizability
