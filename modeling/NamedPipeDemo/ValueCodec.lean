/-
**The serializer and the deserializer as one codec.**

`DataSerializer` writes values one after another, and `RegularTypeParaser` reads them back with a
moving index, each type with its own function.  The two fit together when every parser consumes
exactly what its serializer wrote.  Three of the four do.  The parser of a `bool` leaves the index
at the value and not behind it, so what follows a `bool` is read from the wrong byte; and it takes
any byte behind the tag for a value.

Main definitions:

* `NamedPipeDemo.parseValue`, `NamedPipeDemo.parseValues` — one call of `RegularTypeParaser::Parse`,
  and one call after another;
* `NamedPipeDemo.RoundTrips` — a list of values, written at any place, is read back from there;
* `NamedPipeDemo.ReadsOnlyCode` — what a parser consumes is the encoding of what it returns.

Main results:

* `NamedPipeDemo.parseValues_of_hasAt` — **values without a `bool` are read back in sequence**;
* `NamedPipeDemo.valueCodec_iff` — **exactly when reading is the inverse of writing**.
-/

import NamedPipeDemo.DemoSimulator

set_option relaxedAutoImplicit false
set_option autoImplicit false

namespace NamedPipeDemo

open Segment

/-! ### Values of any type -/

/-- The type of a value. -/
def AnyValue.kind : AnyValue → FieldKind
  | bool _ => .bool
  | int _ => .int
  | double _ => .double
  | string _ => .string

/-- The value-initialised value of a type. -/
def FieldKind.zero : FieldKind → AnyValue
  | bool => .bool false
  | int => .int 0
  | double => .double 0
  | string => .string []

/-- `RegularTypeParaser::Parse` with this type. -/
def parseValue (t : FieldKind) (data : RawData) (seekIndex : ℕ) :
    Except Fault ((Bool × AnyValue) × ℕ) :=
  match t with
  | .bool => do
      let (r, idx) ← parseBool data seekIndex
      return ((r.1, .bool r.2), idx)
  | .int => do
      let (r, idx) ← parseInt data seekIndex
      return ((r.1, .int r.2), idx)
  | .double => do
      let (r, idx) ← parseDouble data seekIndex
      return ((r.1, .double r.2), idx)
  | .string => do
      let (r, idx) ← parseString data seekIndex
      return ((r.1, .string r.2), idx)

/-- One call of `RegularTypeParaser::Parse` after another on the same index: whether all of them
report success, what they return, and the index they leave behind. -/
def parseValues (data : RawData) : List FieldKind → ℕ → Except Fault ((Bool × List AnyValue) × ℕ)
  | [], idx => .ok ((true, []), idx)
  | t :: ts, idx => do
      let (r, idx) ← parseValue t data idx
      let (rs, idx) ← parseValues data ts idx
      return ((r.1 && rs.1, r.2 :: rs.2), idx)

/-! ### One call -/

section Call

variable {data : RawData} {k : ℕ}

/-- A parser that sees the tag of another type reports failure. -/
theorem parseValue_of_ne {t : FieldKind} {b : Byte} (hb : data[k]? = some b) (hne : b ≠ t.tag) :
    parseValue t data k = .ok ((false, t.zero), k) := by
  cases t with
  | bool =>
      rw [parseValue, parseBool_of_ne hb hne]
      rfl
  | int =>
      rw [parseValue, parseInt_of_ne hb hne]
      rfl
  | double =>
      rw [parseValue, parseDouble_of_ne hb hne]
      rfl
  | string =>
      rw [parseValue, parseString_of_ne hb hne]
      rfl

/-- **A value that is no `bool` is read where it sits, and the index moves behind it.** -/
theorem parseValue_of_hasAt {v : AnyValue} (hv : v.Short) (hbool : v.kind ≠ .bool)
    (h : HasAt data k v.serialize) :
    parseValue v.kind data k = .ok ((true, v), k + v.serialize.length) := by
  cases v with
  | bool value => exact absurd rfl hbool
  | int value =>
      rw [AnyValue.kind, parseValue, parseInt_of_hasAt h, AnyValue.serialize,
        length_serializeInt]
      rfl
  | double value =>
      rw [AnyValue.kind, parseValue, parseDouble_of_hasAt h, AnyValue.serialize,
        length_serializeDouble]
      rfl
  | string value =>
      have hidx : k + 6 + value.length = k + (value.length + 6) := by omega
      rw [AnyValue.kind, parseValue, parseString_of_stringAt ⟨hv, h⟩, AnyValue.serialize,
        length_serializeString, hidx]
      rfl

/-- A `bool` is read where it sits, and the index is left at its value. -/
theorem parseValue_bool_of_hasAt {value : Bool} (h : HasAt data k (serializeBool value)) :
    parseValue .bool data k = .ok ((true, .bool value), k + 1) := by
  have hval : ((if value then chr '1' else chr '0') == chr '1') = value := by
    cases value <;> decide
  rw [parseValue, parseBool_of_hasAt h, hval]
  rfl

/-- A parser that succeeds has found a value of its type, and has moved behind it, or, at a `bool`,
behind the tag. -/
theorem valueAt_of_parseValue (hsize : data.length ≤ maxSize) {t : FieldKind} {v : AnyValue}
    {idx : ℕ} (h : parseValue t data k = .ok ((true, v), idx)) :
    v.kind = t ∧ (t ≠ .bool → HasAt data k v.serialize ∧ idx = k + v.serialize.length) ∧
      (t = .bool → (∃ b, HasAt data k [chr 'b', b]) ∧ idx = k + 1) := by
  cases t with
  | bool =>
      obtain ⟨r, hr, h⟩ := bind_eq_ok_iff.1 h
      rcases bool_cases data k with hc | ⟨b, hb⟩ | ⟨hc, hb⟩
      · rw [parseBool_of_cut hc] at hr
        cases hr
      · rw [parseBool_of_hasAt hb] at hr
        cases hr
        cases h
        exact ⟨rfl, fun hne => absurd rfl hne, fun _ => ⟨⟨b, hb⟩, rfl⟩⟩
      · rw [parseBool_of_not hc hb] at hr
        cases hr
        cases h
  | int =>
      obtain ⟨r, hr, h⟩ := bind_eq_ok_iff.1 h
      rcases parseInt_eq_ok_iff.1 hr with ⟨v, hv, rfl⟩ | ⟨_, _, rfl⟩
      · cases h
        refine ⟨rfl, fun _ => ⟨hv, ?_⟩, fun hbool => by cases hbool⟩
        rw [AnyValue.serialize, length_serializeInt]
      · cases h
  | double =>
      obtain ⟨r, hr, h⟩ := bind_eq_ok_iff.1 h
      rcases parseDouble_eq_ok_iff.1 hr with ⟨v, hv, rfl⟩ | ⟨_, _, rfl⟩
      · cases h
        refine ⟨rfl, fun _ => ⟨hv, ?_⟩, fun hbool => by cases hbool⟩
        rw [AnyValue.serialize, length_serializeDouble]
      · cases h
  | string =>
      obtain ⟨r, hr, h⟩ := bind_eq_ok_iff.1 h
      rcases (parseString_eq_ok_iff hsize).1 hr with ⟨s, hs, rfl⟩ | ⟨_, _, _, rfl⟩
      · cases h
        have hidx : k + 6 + s.length = k + (s.length + 6) := by omega
        refine ⟨rfl, fun _ => ⟨hs.2, ?_⟩, fun hbool => by cases hbool⟩
        rw [AnyValue.serialize, length_serializeString, ← hidx]
      · cases h

end Call

/-! ### One call after another -/

section Sequence

variable {data : RawData}

/-- All calls succeed when the first one does and the rest do. -/
theorem parseValues_cons_eq_ok_iff {t : FieldKind} {ts : List FieldKind} {v : AnyValue}
    {vs : List AnyValue} {k j : ℕ} :
    parseValues data (t :: ts) k = .ok ((true, v :: vs), j) ↔
      ∃ k', parseValue t data k = .ok ((true, v), k') ∧
        parseValues data ts k' = .ok ((true, vs), j) := by
  rw [parseValues]
  constructor
  · intro h
    obtain ⟨⟨⟨ok, v'⟩, k'⟩, hv, h⟩ := bind_eq_ok_iff.1 h
    obtain ⟨⟨⟨oks, vs'⟩, j'⟩, hvs, h⟩ := bind_eq_ok_iff.1 h
    cases ok <;> cases oks <;> cases h
    exact ⟨k', hv, hvs⟩
  · rintro ⟨k', hv, hvs⟩
    simp only [hv, ok_bind, hvs]
    rfl

/-- **Values that are no `bool` are read back in sequence.** -/
theorem parseValues_of_hasAt {vs : List AnyValue} :
    ∀ {k : ℕ}, (∀ v ∈ vs, v.Short) → FieldKind.bool ∉ vs.map AnyValue.kind →
      HasAt data k (serializeArguments vs) →
      parseValues data (vs.map AnyValue.kind) k =
        .ok ((true, vs), k + (serializeArguments vs).length) := by
  induction vs with
  | nil => exact fun _ _ _ => rfl
  | cons v vs ih =>
      intro k hshort hbool h
      rw [serializeArguments, hasAt_append_iff] at h
      rw [List.map_cons, List.mem_cons, not_or] at hbool
      have hhead := parseValue_of_hasAt (hshort v List.mem_cons_self) (Ne.symm hbool.1) h.1
      have htail := ih (fun w hw => hshort w (List.mem_cons_of_mem v hw)) hbool.2 h.2
      rw [List.map_cons, serializeArguments, List.length_append, ← Nat.add_assoc]
      exact parseValues_cons_eq_ok_iff.2 ⟨_, hhead, htail⟩

/-- **A `bool` breaks the sequence**: the parser behind it sees no tag, and at the end of the
sequence the index is one byte short. -/
theorem bool_notMem_of_parseValues {vs : List AnyValue} :
    ∀ {k : ℕ}, (∀ v ∈ vs, v.Short) → HasAt data k (serializeArguments vs) →
      parseValues data (vs.map AnyValue.kind) k =
        .ok ((true, vs), k + (serializeArguments vs).length) →
      FieldKind.bool ∉ vs.map AnyValue.kind := by
  induction vs with
  | nil => exact fun _ _ _ => List.not_mem_nil
  | cons v vs ih =>
      intro k hshort h hparse
      rw [serializeArguments, hasAt_append_iff] at h
      rw [List.map_cons, serializeArguments, List.length_append, ← Nat.add_assoc] at hparse
      obtain ⟨k', hhead, htail⟩ := parseValues_cons_eq_ok_iff.1 hparse
      by_cases hkind : v.kind = .bool
      · -- the index is at the value, which is no tag
        exfalso
        cases v with
        | bool value =>
            rw [hkind, parseValue_bool_of_hasAt h.1] at hhead
            cases hhead
            cases vs with
            | nil =>
                simp only [List.map_nil, parseValues, Except.ok.injEq, Prod.mk.injEq] at htail
                rw [AnyValue.serialize, length_serializeBool] at htail
                omega
            | cons w ws =>
                have hget := (hasAt_cons_iff.1 (hasAt_cons_iff.1 h.1).2).1
                have hne : (if value then chr '1' else chr '0') ≠ w.kind.tag := by
                  cases value <;> cases w.kind <;> decide
                obtain ⟨k', hw, _⟩ := parseValues_cons_eq_ok_iff.1 htail
                rw [parseValue_of_ne hget hne] at hw
                cases hw
        | _ => cases hkind
      · have hv := parseValue_of_hasAt (hshort v List.mem_cons_self) hkind h.1
        rw [hv] at hhead
        cases hhead
        rw [List.map_cons, List.mem_cons, not_or]
        exact ⟨Ne.symm hkind, ih (fun w hw => hshort w (List.mem_cons_of_mem v hw)) h.2 htail⟩

end Sequence

/-! ### The codec -/

/-- **The values, written between these bytes, are read back from where they were written**: every
call succeeds, the values come back, and the index ends behind the last of them. -/
def RoundTrips (vs : List AnyValue) (p q : RawData) : Prop :=
  parseValues (p ++ serializeArguments vs ++ q) (vs.map AnyValue.kind) p.length =
    .ok ((true, vs), p.length + (serializeArguments vs).length)

instance (vs : List AnyValue) (p q : RawData) : Decidable (RoundTrips vs p q) :=
  inferInstanceAs (Decidable (_ = _))

/-- **What a call that succeeds has consumed is the encoding of the value it returns.** -/
def ReadsOnlyCode (t : FieldKind) (data : RawData) (k : ℕ) : Prop :=
  ∀ v idx, parseValue t data k = .ok ((true, v), idx) →
    (data.drop k).take (idx - k) = v.serialize

/-- **Exactly when reading is the inverse of writing.**  Values of any types, written behind any
bytes and in front of any others, are read back in sequence exactly when none of them is a `bool`;
and a call consumes the encoding of what it returns, unless it is the call of `Parse<bool>` on a
tag with a byte behind it. -/
theorem valueCodec_iff (vs : List AnyValue) (hshort : ∀ v ∈ vs, v.Short) (p q : RawData)
    (t : FieldKind) (data : RawDataType) (k : ℕ) :
    (RoundTrips vs p q ↔ FieldKind.bool ∉ vs.map AnyValue.kind) ∧
      (ReadsOnlyCode t data.1 k ↔ ¬ (t = .bool ∧ ∃ b, HasAt data.1 k [chr 'b', b])) := by
  have hat := hasAt_append p (serializeArguments vs) q
  refine ⟨⟨bool_notMem_of_parseValues hshort hat, fun h => parseValues_of_hasAt hshort h hat⟩,
    ?_, ?_⟩
  · rintro hcode ⟨rfl, b, hb⟩
    have hparse : parseValue .bool data.1 k = .ok ((true, .bool (b == chr '1')), k + 1) := by
      rw [parseValue, parseBool_of_hasAt hb]
      rfl
    -- one byte is consumed, and the encoding has two
    have hlen := congrArg List.length (hcode _ _ hparse)
    rw [AnyValue.serialize, length_serializeBool, List.length_take] at hlen
    omega
  · intro hbool v idx hparse
    obtain ⟨_, hcode, hsome⟩ := valueAt_of_parseValue data.2 hparse
    have ht : t ≠ .bool := fun ht => hbool ⟨ht, (hsome ht).1⟩
    obtain ⟨hv, rfl⟩ := hcode ht
    rw [Nat.add_sub_cancel_left]
    exact hasAt_iff_take_drop.1 hv

/-- Three values behind one byte and in front of another. -/
theorem valueCodec_three :
    RoundTrips [.int 5, .string (ascii "ab"), .double 1] (ascii "x") (ascii "y") ∧
      ReadsOnlyCode .int (serializeInt 5) 0 := by
  have h := valueCodec_iff [.int 5, .string (ascii "ab"), .double 1]
    (by simp [AnyValue.Short, ascii]) (ascii "x") (ascii "y") .int ⟨serializeInt 5, by decide⟩ 0
  exact ⟨h.1.2 (by decide), h.2.2 (fun hb => by cases hb.1)⟩

/-- **A `bool` in front of an `int` is not read back, and neither is a `bool` alone**: the index is
left at the value; and a byte that no serializer writes is taken for a value. -/
theorem valueCodec_bool :
    ¬ RoundTrips [.bool true, .int 5] [] [] ∧ ¬ RoundTrips [.bool true] [] [] ∧
      parseValue .bool (ascii "bx") 0 = .ok ((true, .bool false), 1) := by
  decide

end NamedPipeDemo
