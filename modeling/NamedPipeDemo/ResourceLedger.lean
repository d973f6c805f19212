/-
**Resources that are owned in one place and freed once.**

A program makes resources and numbers them as it makes them.  A resource is owned by a place: a
variable, a record, a thread.  It is made in a place that owns nothing, it may be handed from place
to place, and it is freed by the place that owns it.  A `Ledger` is such a state with the resources
freed so far.

A ledger that is well kept tells everything that can be asked of the resources: no two places own
the same one, what a place owns has not been freed, none is freed twice, and none is lost.  When no
place owns anything, every resource that was made has been freed, once.

Main definitions:

* `ResourceLedger.Ledger`, with `Ledger.allocate`, `Ledger.transfer` and `Ledger.release`;
* `ResourceLedger.Ledger.Ok` — **the ledger is well kept**.

Main results:

* `ResourceLedger.Ledger.Ok.of_empty`, `ResourceLedger.Ledger.Ok.allocate`,
  `ResourceLedger.Ledger.Ok.transfer`, `ResourceLedger.Ledger.Ok.release` — it is well kept at
  first, and every operation keeps it so;
* `ResourceLedger.Ledger.Ok.perm_range` — **when no place owns anything, each resource has been
  freed exactly once.**
-/

import Mathlib.Data.List.Nodup
import Mathlib.Data.List.Perm.Basic
import Mathlib.Data.List.Range
import Mathlib.Logic.Function.Basic

set_option relaxedAutoImplicit false
set_option autoImplicit false

namespace ResourceLedger

/-- The resources made are those below `count`.  The resource freed last stands first. -/
@[ext]
structure Ledger (θ : Type*) where
  count : ℕ
  holds : θ → Option ℕ
  freed : List ℕ

namespace Ledger

variable {θ : Type*}

/-- **The ledger is well kept.** -/
structure Ok (L : Ledger θ) : Prop where
  lt : ∀ p n, L.holds p = some n → n < L.count
  unique : ∀ p q n, L.holds p = some n → L.holds q = some n → p = q
  unfreed : ∀ p n, L.holds p = some n → n ∉ L.freed
  freedLt : ∀ n ∈ L.freed, n < L.count
  nodup : L.freed.Nodup
  covered : ∀ n < L.count, n ∈ L.freed ∨ ∃ p, L.holds p = some n

/-- **When no place owns anything, each resource has been freed exactly once.** -/
theorem Ok.perm_range {L : Ledger θ} (h : L.Ok) (hnone : ∀ p, L.holds p = none) :
    L.freed.Perm (List.range L.count) := by
  refine (List.perm_ext_iff_of_nodup h.nodup List.nodup_range).2 fun n => ?_
  rw [List.mem_range]
  refine ⟨h.freedLt n, fun hlt => ?_⟩
  rcases h.covered n hlt with hmem | ⟨p, hp⟩
  · exact hmem
  · rw [hnone p] at hp
    cases hp

/-- Nothing has been made. -/
theorem Ok.of_empty {L : Ledger θ} (hcount : L.count = 0) (hholds : ∀ p, L.holds p = none)
    (hfreed : L.freed = []) : L.Ok := by
  have hno : ∀ p n, L.holds p ≠ some n := fun p n hp => by
    rw [hholds p] at hp
    cases hp
  refine ⟨fun p n hp => absurd hp (hno p n), fun p _ n hp => absurd hp (hno p n),
    fun p n hp => absurd hp (hno p n), fun n hn => ?_, ?_, fun n hn => ?_⟩
  · rw [hfreed] at hn
    cases hn
  · rw [hfreed]
    exact List.nodup_nil
  · rw [hcount] at hn
    exact absurd hn (Nat.not_lt_zero n)

variable [DecidableEq θ]

/-- A resource is made in the place `p`. -/
def allocate (L : Ledger θ) (p : θ) : Ledger θ :=
  { L with count := L.count + 1, holds := Function.update L.holds p (some L.count) }

/-- The place `p` hands what it owns to the place `q`. -/
def transfer (L : Ledger θ) (p q : θ) : Ledger θ :=
  { L with holds := Function.update (Function.update L.holds p none) q (L.holds p) }

/-- The place `p` frees the resource `n`, which it owns. -/
def release (L : Ledger θ) (p : θ) (n : ℕ) : Ledger θ :=
  { L with holds := Function.update L.holds p none, freed := n :: L.freed }

variable {L : Ledger θ} {p q : θ} {n : ℕ}

@[simp] theorem holds_allocate :
    (L.allocate p).holds = Function.update L.holds p (some L.count) := rfl

@[simp] theorem holds_transfer : (L.transfer p q).holds =
    Function.update (Function.update L.holds p none) q (L.holds p) := rfl

@[simp] theorem holds_release : (L.release p n).holds = Function.update L.holds p none := rfl

/-- A resource is made where there is none. -/
theorem Ok.allocate (h : L.Ok) (hp : L.holds p = none) : (L.allocate p).Ok := by
  have hold : ∀ q n, (L.allocate p).holds q = some n →
      q = p ∧ n = L.count ∨ q ≠ p ∧ L.holds q = some n := by
    intro q n hq
    by_cases heq : q = p
    · subst heq
      rw [holds_allocate, Function.update_self] at hq
      exact Or.inl ⟨rfl, (Option.some_inj.1 hq).symm⟩
    · rw [holds_allocate, Function.update_of_ne heq] at hq
      exact Or.inr ⟨heq, hq⟩
  refine ⟨fun q n hq => ?_, fun q r n hq hr => ?_, fun q n hq hmem => ?_, fun n hn => ?_, h.nodup,
    fun n hn => ?_⟩
  · rcases hold q n hq with ⟨_, rfl⟩ | ⟨_, hq⟩
    · exact Nat.lt_succ_self _
    · exact Nat.lt_succ_of_lt (h.lt q n hq)
  · rcases hold q n hq with ⟨rfl, rfl⟩ | ⟨_, hq'⟩ <;>
      rcases hold r _ hr with ⟨rfl, hn⟩ | ⟨_, hr'⟩
    · rfl
    · exact absurd (h.lt r _ hr') (Nat.lt_irrefl _)
    · exact absurd (h.lt q n hq') (hn ▸ Nat.lt_irrefl _)
    · exact h.unique q r n hq' hr'
  · rcases hold q n hq with ⟨_, rfl⟩ | ⟨_, hq⟩
    · exact absurd (h.freedLt _ hmem) (Nat.lt_irrefl _)
    · exact h.unfreed q n hq hmem
  · exact Nat.lt_succ_of_lt (h.freedLt n hn)
  · rcases Nat.lt_succ_iff_lt_or_eq.1 hn with hlt | rfl
    · refine (h.covered n hlt).imp_right fun ⟨q, hq⟩ => ⟨q, ?_⟩
      have hne : q ≠ p := by
        rintro rfl
        rw [hp] at hq
        cases hq
      rw [holds_allocate, Function.update_of_ne hne, hq]
    · exact Or.inr ⟨p, by rw [holds_allocate, Function.update_self]⟩

/-- What is handed on is handed to a place that owns nothing. -/
theorem Ok.transfer (h : L.Ok) (hp : L.holds p = some n) (hq : L.holds q = none) :
    (L.transfer p q).Ok := by
  have hpq : p ≠ q := by
    rintro rfl
    rw [hp] at hq
    cases hq
  -- each place owns what one place owned before
  have hold : ∀ r m, (L.transfer p q).holds r = some m →
      r = q ∧ m = n ∨ (r ≠ q ∧ r ≠ p) ∧ L.holds r = some m := by
    intro r m hr
    by_cases hrq : r = q
    · subst hrq
      rw [holds_transfer, Function.update_self, hp] at hr
      exact Or.inl ⟨rfl, (Option.some_inj.1 hr).symm⟩
    rw [holds_transfer, Function.update_of_ne hrq] at hr
    by_cases hrp : r = p
    · subst hrp
      rw [Function.update_self] at hr
      cases hr
    · rw [Function.update_of_ne hrp] at hr
      exact Or.inr ⟨⟨hrq, hrp⟩, hr⟩
  have howned : ∀ r m, (L.transfer p q).holds r = some m → ∃ r', L.holds r' = some m := by
    intro r m hr
    rcases hold r m hr with ⟨_, rfl⟩ | ⟨_, hr⟩
    · exact ⟨p, hp⟩
    · exact ⟨r, hr⟩
  refine ⟨fun r m hr => ?_, fun r s m hr hs => ?_, fun r m hr => ?_, h.freedLt, h.nodup,
    fun m hm => ?_⟩
  · obtain ⟨r', hr'⟩ := howned r m hr
    exact h.lt r' m hr'
  · rcases hold r m hr with ⟨rfl, rfl⟩ | ⟨⟨_, hrp⟩, hr'⟩ <;>
      rcases hold s _ hs with ⟨rfl, hm⟩ | ⟨⟨_, hsp⟩, hs'⟩
    · rfl
    · exact absurd (h.unique s p _ hs' hp) hsp
    · exact absurd (h.unique r p _ hr' (hm ▸ hp)) hrp
    · exact h.unique r s m hr' hs'
  · obtain ⟨r', hr'⟩ := howned r m hr
    exact h.unfreed r' m hr'
  · refine (h.covered m hm).imp_right fun ⟨r, hr⟩ => ?_
    by_cases hrp : r = p
    · subst hrp
      exact ⟨q, by rw [holds_transfer, Function.update_self, hr]⟩
    · have hrq : r ≠ q := by
        rintro rfl
        rw [hq] at hr
        cases hr
      exact ⟨r, by rw [holds_transfer, Function.update_of_ne hrq, Function.update_of_ne hrp, hr]⟩

/-- A resource is freed by the place that owns it. -/
theorem Ok.release (h : L.Ok) (hp : L.holds p = some n) : (L.release p n).Ok := by
  have hold : ∀ q m, (L.release p n).holds q = some m → q ≠ p ∧ L.holds q = some m := by
    intro q m hq
    by_cases heq : q = p
    · subst heq
      rw [holds_release, Function.update_self] at hq
      cases hq
    · rw [holds_release, Function.update_of_ne heq] at hq
      exact ⟨heq, hq⟩
  refine ⟨fun q m hq => h.lt q m (hold q m hq).2, fun q r m hq hr => ?_, fun q m hq hmem => ?_,
    fun m hm => ?_, List.nodup_cons.2 ⟨h.unfreed p n hp, h.nodup⟩, fun m hm => ?_⟩
  · exact h.unique q r m (hold q m hq).2 (hold r m hr).2
  · obtain ⟨hne, hq'⟩ := hold q m hq
    rcases List.mem_cons.1 hmem with rfl | hmem
    · exact hne (h.unique q p m hq' hp)
    · exact h.unfreed q m hq' hmem
  · rcases List.mem_cons.1 hm with rfl | hm
    · exact h.lt p m hp
    · exact h.freedLt m hm
  · rcases h.covered m hm with hmem | ⟨q, hq⟩
    · exact Or.inl (List.mem_cons_of_mem n hmem)
    by_cases heq : q = p
    · subst heq
      rw [hp] at hq
      exact Or.inl (List.mem_cons.2 (Or.inl (Option.some_inj.1 hq).symm))
    · exact Or.inr ⟨q, by rw [holds_release, Function.update_of_ne heq, hq]⟩

end Ledger

end ResourceLedger
