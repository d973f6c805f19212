/-
**Words sitting at a position of a list.**

A positional parser does not cut its input up: it keeps one list and moves an index through it.
What such a parser recognises is that a certain word *sits at* a certain index.  This module
develops that relation on its own, over lists of any type, so that a parser and a printer can be
compared without ever splitting the input.

Main definitions:

* `Segment.HasAt` — the word `w` sits in `l` at the index `k`.

Main results:

* `Segment.hasAt_append_iff`, `Segment.hasAt_cons_iff` — a word sits at an index exactly when its
  pieces sit one after another;
* `Segment.HasAt.length_le` — a word that sits at an index fits before the end;
* `Segment.HasAt.eq_of_length_eq` — at one index there is at most one word of each length;
* `Segment.hasAt_append` — a word written after a prefix sits at the length of that prefix.
-/

import Mathlib.Data.List.Basic

set_option relaxedAutoImplicit false
set_option autoImplicit false

namespace Segment

variable {α : Type*}

/-! ### The relation -/

/-- **The word `w` sits in `l` at the index `k`.** -/
def HasAt (l : List α) (k : ℕ) (w : List α) : Prop := w <+: l.drop k

instance [DecidableEq α] (l : List α) (k : ℕ) (w : List α) : Decidable (HasAt l k w) :=
  inferInstanceAs (Decidable (w <+: l.drop k))

@[simp] theorem hasAt_nil (l : List α) (k : ℕ) : HasAt l k [] := List.nil_prefix

/-- A word sits at an index when its first letter does and the rest sits right after it. -/
theorem hasAt_cons_iff {l : List α} {k : ℕ} {a : α} {w : List α} :
    HasAt l k (a :: w) ↔ l[k]? = some a ∧ HasAt l (k + 1) w := by
  rw [HasAt, HasAt, ← List.tail_drop]
  cases h : l.drop k with
  | nil =>
      have hk : l[k]? = none := by
        rw [← Nat.add_zero k, ← List.getElem?_drop, h]
        rfl
      simp [hk]
  | cons b r =>
      have hk : l[k]? = some b := by
        rw [← Nat.add_zero k, ← List.getElem?_drop, h]
        rfl
      rw [List.cons_prefix_cons, hk, List.tail_cons, Option.some_inj]
      exact and_congr_left fun _ => eq_comm

/-- **Two words sit one after the other exactly when their concatenation sits there.** -/
theorem hasAt_append_iff {l : List α} {w₁ w₂ : List α} :
    ∀ {k : ℕ}, HasAt l k (w₁ ++ w₂) ↔ HasAt l k w₁ ∧ HasAt l (k + w₁.length) w₂ := by
  induction w₁ with
  | nil => simp
  | cons a w₁ ih =>
      intro k
      rw [List.cons_append, hasAt_cons_iff, hasAt_cons_iff, ih, and_assoc, List.length_cons,
        Nat.add_right_comm, Nat.add_assoc k]

/-- What a prefix of `w` sits at, `w` sits at too. -/
theorem HasAt.left {l : List α} {k : ℕ} {w₁ w₂ : List α} (h : HasAt l k (w₁ ++ w₂)) :
    HasAt l k w₁ :=
  (hasAt_append_iff.1 h).1

theorem HasAt.right {l : List α} {k : ℕ} {w₁ w₂ : List α} (h : HasAt l k (w₁ ++ w₂)) :
    HasAt l (k + w₁.length) w₂ :=
  (hasAt_append_iff.1 h).2

/-! ### Lengths and uniqueness -/

/-- A nonempty word that sits at an index fits before the end of the list. -/
theorem HasAt.length_le {l : List α} {k : ℕ} {w : List α} (h : HasAt l k w) (hw : w ≠ []) :
    k + w.length ≤ l.length := by
  have hle : w.length ≤ (l.drop k).length := List.IsPrefix.length_le h
  have hpos : 0 < w.length := List.length_pos_iff.2 hw
  rw [List.length_drop] at hle
  omega

/-- **At one index there is at most one word of each length.** -/
theorem HasAt.eq_of_length_eq {l : List α} {k : ℕ} {w₁ w₂ : List α} (h₁ : HasAt l k w₁)
    (h₂ : HasAt l k w₂) (hlen : w₁.length = w₂.length) : w₁ = w₂ := by
  rw [List.prefix_iff_eq_take.1 h₁, List.prefix_iff_eq_take.1 h₂, hlen]

/-- The word of a given length that sits at an index. -/
theorem hasAt_take_drop (l : List α) (k n : ℕ) : HasAt l k ((l.drop k).take n) :=
  List.take_prefix n _

/-- A word sits at an index exactly when cutting that many letters out of the list gives it. -/
theorem hasAt_iff_take_drop {l : List α} {k : ℕ} {w : List α} :
    HasAt l k w ↔ (l.drop k).take w.length = w :=
  List.prefix_iff_eq_take.trans eq_comm

/-! ### Written words -/

/-- **A word written after a prefix sits at the length of that prefix.** -/
theorem hasAt_append (p w q : List α) : HasAt (p ++ w ++ q) p.length w := by
  rw [HasAt, List.append_assoc, List.drop_left]
  exact List.prefix_append w q

/-- The list itself sits at its beginning. -/
theorem hasAt_self (w : List α) : HasAt w 0 w := List.prefix_rfl

end Segment
