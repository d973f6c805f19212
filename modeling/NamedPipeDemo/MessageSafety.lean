/-
**Which messages crash a program.**

A message is bytes from the other side of the pipe, and nothing stands between it and the parsers.
Two things can go wrong there.  A parser can read an element past the end of the vector, because
the size test of `RegularTypeParaser::Parse` is one byte short or comes after the first read; and a
declared length can be negative and still pass the test of `Parse<std::string>`, because the sum on
its right-hand side is taken modulo `2 ^ 64`.  This module says for which messages either happens.

Main definitions:

* `NamedPipeDemo.ReadsInside`, `NamedPipeDemo.Throws` — no element past the end is read; an
  exception leaves the function;
* `NamedPipeDemo.LengthRespected` — `Parse<std::string>` treats a declared length as it should.

Main results:

* `NamedPipeDemo.readsInside_iff` — **the messages that are read inside their buffer**, for the
  parser of requests, the parser of responses, and `CustomClass::Deserialize`;
* `NamedPipeDemo.declaredLength_iff` — **the messages whose declared lengths do no harm**.
-/

import NamedPipeDemo.ResponseParser

set_option relaxedAutoImplicit false
set_option autoImplicit false

namespace NamedPipeDemo

open Segment

section Outcome

variable {σ α : Type}

/-- A function that ends like this has read no element past the end of its vector. -/
def ReadsInside (r : EStateM.Result Fault σ α) : Prop := ∀ s, r ≠ .error .outOfRange s

/-- A function that ends like this is left by an exception. -/
def Throws (r : EStateM.Result Fault σ α) : Prop := ∃ s, r = .error .lengthError s

end Outcome

/-! ### Faults of the parsers -/

/-- `ParseRequest` stops with a fault exactly when some parser that is due does. -/
theorem RequestParser.parseRequest_eq_error_iff (self : RequestParser) (env : AddressText)
    (w : ServerState) (request : RawDataType) (e : Fault) :
    (∃ w', (self.parseRequest env request.1).run w = .error e w') ↔
      ∃ t j, Due w.known request.1 t j ∧ FieldFault e t request.1 j := by
  rw [← decodeRequest_eq_error_iff request.2, self.parseRequest_eq]
  cases decodeRequest w.known request.1 with
  | error e' => simp
  | ok r => simp

/-- `ParseResponse` stops with a fault exactly when some parser that is due does. -/
theorem parseResponse_eq_error_iff {κ : Type}
    (onSuccess : κ → AnyValue → ClassRepository → ClassRepository) (s : ClientState κ)
    (data : RawDataType) (e : Fault) :
    (∃ s', (parseResponse onSuccess data.1).run s = .error e s') ↔
      ∃ t j, ResponseDue data.1 t j ∧ FieldFault e t data.1 j := by
  rw [← decodeResponse_eq_error_iff data.2, parseResponse_eq]
  cases decodeResponse data.1 with
  | error e' => simp
  | ok a => simp

/-- `Deserialize` stops at the `int`, or at the string behind it. -/
theorem CustomClass.deserialize_eq_error_iff (serialized : RawDataType) (e : Fault) :
    deserialize serialized.1 = .error e ↔
      FieldFault e .int serialized.1 0 ∨
        ∃ v, HasAt serialized.1 0 (serializeInt v) ∧ FieldFault e .string serialized.1 5 := by
  constructor
  · intro h
    rcases bind_eq_error_iff.1 h with hi | ⟨i, hi, h⟩
    · exact Or.inl (parseInt_eq_error_iff.1 hi)
    rcases parseInt_eq_ok_iff.1 hi with ⟨v, hv, rfl⟩ | ⟨_, _, rfl⟩
    swap
    · cases h
    simp only [Bool.true_eq_false, if_false] at h
    rcases bind_eq_error_iff.1 h with hs | ⟨⟨⟨ok, str⟩, idx⟩, _, h⟩
    · exact Or.inr ⟨v, hv, (parseString_eq_error_iff serialized.2).1 hs⟩
    · cases ok <;> cases h
  · rintro (hfault | ⟨v, hv, hfault⟩)
    · rw [deserialize, parseInt_eq_error_iff.2 hfault, error_bind]
    · rw [deserialize, parseInt_of_hasAt hv]
      simp only [ok_bind, Bool.true_eq_false, if_false, Nat.zero_add,
        (parseString_eq_error_iff serialized.2).2 hfault, error_bind]

/-! ### Reads -/

/-- **The messages that are read inside their buffer.**  A parser reads past the end exactly when
the vector is cut where a parser is due: it ends before the tag, or one byte before the end of the
number. -/
theorem readsInside_iff {κ : Type} (self : RequestParser) (env : AddressText) (w : ServerState)
    (onSuccess : κ → AnyValue → ClassRepository → ClassRepository) (s : ClientState κ)
    (request response serialized : RawDataType) :
    (ReadsInside ((self.parseRequest env request.1).run w) ↔
      ¬ ∃ t j, Due w.known request.1 t j ∧ FieldFault .outOfRange t request.1 j) ∧
    (ReadsInside ((parseResponse onSuccess response.1).run s) ↔
      ¬ ∃ t j, ResponseDue response.1 t j ∧ FieldFault .outOfRange t response.1 j) ∧
    (CustomClass.deserialize serialized.1 ≠ .error .outOfRange ↔
      ¬ (IntCut serialized.1 0 ∨
        ∃ v, HasAt serialized.1 0 (serializeInt v) ∧ StringCut serialized.1 5)) := by
  refine ⟨?_, ?_, ?_⟩
  · rw [← self.parseRequest_eq_error_iff env w request, ReadsInside, not_exists]
  · rw [← parseResponse_eq_error_iff onSuccess s response, ReadsInside, not_exists]
  · exact not_congr (CustomClass.deserialize_eq_error_iff serialized .outOfRange)

/-- The four bytes `i000`: an `int` without its last byte. -/
def truncatedInt : RawDataType := ⟨ascii "i000", by decide⟩

/-- **A truncated `int` is read past its end.** -/
theorem parseRequest_reads_past_end :
    ¬ ∀ (self : RequestParser) (env : AddressText) (w : ServerState) (request : RawDataType),
      request.1 ≠ [] → ReadsInside ((self.parseRequest env request.1).run w) := by
  intro h
  exact h ⟨0⟩ default {} truncatedInt (by decide) {} rfl

/-! ### Declared lengths -/

/-- What should happen wherever the tag of a string and a complete length sit at `k`: the parser
reports failure, or returns a string of exactly the declared length, which fits. -/
def LengthRespected (data : RawData) (k : ℕ) : Prop :=
  ∀ v : CInt, HasAt data k (chr 's' :: serializeInt v) →
    ∃ ok str idx, parseString data k = .ok ((ok, str), idx) ∧
      (ok = true → (str.length : ℤ) = v.toInt ∧ str.length ≤ data.length - (k + 6))

theorem lengthRespected_iff (data : RawDataType) (k : ℕ) :
    LengthRespected data.1 k ↔ ¬ NegativeLength data.1 k := by
  constructor
  · rintro h ⟨v, hat, hneg, hle⟩
    obtain ⟨ok, str, idx, hparse, _⟩ := h v hat
    rw [parseString_of_negativeLength ⟨v, hat, hneg, hle⟩] at hparse
    cases hparse
  · intro hno v hat
    obtain ⟨htag, hlen⟩ := hasAt_cons_iff.1 hat
    rcases string_cases data.1 k with hcut | hneg | ⟨s, hs⟩ | ⟨hcut, hneg, hs⟩
    · rcases hcut with hle | ⟨_, hcut⟩
      · rw [List.getElem?_eq_none hle] at htag
        cases htag
      · exact absurd hcut (not_intCut_of_hasAt hlen)
    · exact absurd hneg hno
    · refine ⟨true, s, _, parseString_of_stringAt hs, fun _ => ?_⟩
      obtain ⟨hshort, hat'⟩ := hs
      have hfits := hat'.length_le (serializeString_ne_nil s)
      rw [length_serializeString] at hfits
      -- the two lengths sit at the same place
      have hlen' := ((hasAt_cons_iff.1 hat').2).left
      have hv : v = BitVec.ofNat 32 s.length :=
        serializeInt_injective (hlen.eq_of_length_eq hlen' (by simp))
      exact ⟨by rw [hv, toInt_ofNat_of_lt hshort], by omega⟩
    · exact ⟨false, [], k, parseString_of_not data.2 hcut hneg hs, nofun⟩

/-- **The messages whose declared lengths do no harm.**  `Parse<std::string>` throws exactly when
the declared length is negative and of magnitude at most the index behind it; `ParseRequest`
throws exactly when that happens where a string is due. -/
theorem declaredLength_iff (data : RawDataType) (k : ℕ) (self : RequestParser)
    (env : AddressText) (w : ServerState) (request : RawDataType) :
    (LengthRespected data.1 k ↔ ¬ NegativeLength data.1 k) ∧
    (¬ Throws ((self.parseRequest env request.1).run w) ↔
      ¬ ∃ j, Due w.known request.1 .string j ∧ NegativeLength request.1 j) := by
  refine ⟨lengthRespected_iff data k, not_congr ?_⟩
  rw [Throws, self.parseRequest_eq_error_iff]
  constructor
  · rintro ⟨t, j, hdue, hfault⟩
    cases t with
    | string => exact ⟨j, hdue, hfault⟩
    | _ => exact hfault.elim
  · rintro ⟨j, hdue, hneg⟩
    exact ⟨.string, j, hdue, hneg⟩

/-- A plain string whose declared length is `-1`. -/
def negativeString : RawDataType := ⟨chr 's' :: serializeInt (-1), by decide⟩

/-- **A negative declared length makes `ParseRequest` throw.** -/
theorem parseRequest_throws :
    ¬ ((∀ (data : RawDataType) (k : ℕ), LengthRespected data.1 k) ∧
      ∀ (self : RequestParser) (env : AddressText) (w : ServerState) (request : RawDataType),
        ¬ Throws ((self.parseRequest env request.1).run w)) := by
  rintro ⟨-, h⟩
  exact h ⟨0⟩ default {} negativeString ⟨{}, rfl⟩

end NamedPipeDemo
