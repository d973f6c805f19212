/-
**`RegularTypeParaser::Parse`, read by read.**

The deserializer moves an index through a vector.  `operator[]` does not check its argument, so a
read past the end is undefined behaviour; in the model such a read stops the parser with
`Fault.outOfRange`, and the exception `std::length_error` of a string constructor stops it with
`Fault.lengthError`.  A parser that does not stop returns its success flag, a value (the default
value when the flag is `false`) and the index it leaves behind.

Every parser is then described without its reads: where the word it looks for sits, it succeeds;
where the vector is *cut* at one particular place, it reads past the end; everywhere else it
reports failure and leaves the index alone.

Main definitions:

* `NamedPipeDemo.Fault`, `NamedPipeDemo.readByte` — the two ways to stop, and `data[j]`;
* `NamedPipeDemo.parseBool`, `NamedPipeDemo.parseInt`, `NamedPipeDemo.parseDouble`,
  `NamedPipeDemo.parseString` — the four instances of `RegularTypeParaser::Parse`;
* `NamedPipeDemo.BoolCut`, `NamedPipeDemo.IntCut`, `NamedPipeDemo.DoubleCut`,
  `NamedPipeDemo.StringCut` — the vector ends where the parser still reads;
* `NamedPipeDemo.NegativeLength` — the declared length of a string is negative and of magnitude at
  most the index behind it.

Main results:

* `NamedPipeDemo.parseInt_of_hasAt`, `NamedPipeDemo.parseInt_of_cut`,
  `NamedPipeDemo.parseInt_of_not` and their siblings — **the parsers, case by case**.
-/

import NamedPipeDemo.DataSerializer

set_option relaxedAutoImplicit false
set_option autoImplicit false

namespace NamedPipeDemo

open Segment

/-! ### Reads -/

/-- What stops a parser: a read `data[j]` with `data.size() <= j`, or `std::length_error`. -/
inductive Fault
  | outOfRange
  | lengthError
  deriving DecidableEq, Repr

/-- `data[j]` -/
def readByte (data : RawData) (j : ℕ) : Except Fault Byte :=
  match data[j]? with
  | some b => .ok b
  | none => .error .outOfRange

/-- The loop that copies `n` bytes from `data[idx++]`. -/
def readBytes (data : RawData) (idx : ℕ) : ℕ → Except Fault (RawData × ℕ)
  | 0 => .ok ([], idx)
  | n + 1 => do
      let b ← readByte data idx
      let (bs, idx) ← readBytes data (idx + 1) n
      return (b :: bs, idx)

section Bind

variable {α β : Type}

@[simp] theorem ok_bind (a : α) (f : α → Except Fault β) : (Except.ok a >>= f) = f a := rfl

@[simp] theorem error_bind (e : Fault) (f : α → Except Fault β) :
    ((Except.error e : Except Fault α) >>= f) = .error e := rfl

/-- A parser that does not stop has not stopped in its first half. -/
theorem bind_eq_ok_iff {x : Except Fault α} {f : α → Except Fault β} {b : β} :
    (x >>= f) = .ok b ↔ ∃ a, x = .ok a ∧ f a = .ok b := by
  cases x with
  | error e => simp only [error_bind, reduceCtorEq, false_and, exists_false]
  | ok a => simp only [ok_bind, Except.ok.injEq, exists_eq_left']

/-- A parser stops in its first half or in its second. -/
theorem bind_eq_error_iff {x : Except Fault α} {f : α → Except Fault β} {e : Fault} :
    (x >>= f) = .error e ↔ x = .error e ∨ ∃ a, x = .ok a ∧ f a = .error e := by
  cases x with
  | error e' => simp only [error_bind, reduceCtorEq, false_and, exists_false, or_false,
      Except.error.injEq]
  | ok a => simp only [ok_bind, reduceCtorEq, Except.ok.injEq, exists_eq_left', false_or]

end Bind

/-- A parser runs inside a function that also changes a state. -/
instance {σ : Type} : MonadLift (Except Fault) (EStateM Fault σ) where
  monadLift r := fun w =>
    match r with
    | .ok a => .ok a w
    | .error e => .error e w

/-- The state in which a function leaves its caller, whether it returns or is stopped. -/
def endState {σ α : Type} : EStateM.Result Fault σ α → σ
  | .ok _ w => w
  | .error _ w => w

section Stateful

variable {σ α β : Type}

@[simp] theorem lift_ok_bind (a : α) (f : α → EStateM Fault σ β) :
    ((liftM (Except.ok a : Except Fault α) : EStateM Fault σ α) >>= f) = f a := rfl

theorem run_bind_of_ok {x : EStateM Fault σ α} {f : α → EStateM Fault σ β} {w w' : σ} {a : α}
    (h : x.run w = .ok a w') : (x >>= f).run w = (f a).run w' := by
  rw [EStateM.run] at h
  simp only [EStateM.run, bind, EStateM.bind, h]

theorem run_bind_of_error {x : EStateM Fault σ α} {f : α → EStateM Fault σ β} {w w' : σ}
    {e : Fault} (h : x.run w = .error e w') : (x >>= f).run w = .error e w' := by
  rw [EStateM.run] at h
  simp only [EStateM.run, bind, EStateM.bind, h]

end Stateful

theorem readByte_of_some {data : RawData} {j : ℕ} {b : Byte} (h : data[j]? = some b) :
    readByte data j = .ok b := by
  rw [readByte, h]

theorem readByte_of_le {data : RawData} {j : ℕ} (h : data.length ≤ j) :
    readByte data j = .error .outOfRange := by
  rw [readByte, List.getElem?_eq_none h]

/-- Inside the vector the loop copies what is there. -/
theorem readBytes_of_le {data : RawData} {n : ℕ} :
    ∀ {idx : ℕ}, idx + n ≤ data.length →
      readBytes data idx n = .ok ((data.drop idx).take n, idx + n) := by
  induction n with
  | zero => intro idx _; simp [readBytes]
  | succ n ih =>
      intro idx h
      have hlt : idx < data.length := by omega
      rw [readBytes, readByte_of_some (List.getElem?_eq_getElem hlt), ih (by omega),
        List.drop_eq_getElem_cons hlt, List.take_succ_cons, Nat.add_right_comm]
      rfl

/-- Past the end of the vector the loop stops. -/
theorem readBytes_of_lt {data : RawData} {n : ℕ} :
    ∀ {idx : ℕ}, idx ≤ data.length → data.length < idx + n →
      readBytes data idx n = .error .outOfRange := by
  induction n with
  | zero => intro idx h₁ h₂; omega
  | succ n ih =>
      intro idx h₁ h₂
      rcases Nat.lt_or_ge idx data.length with hlt | hge
      · rw [readBytes, readByte_of_some (List.getElem?_eq_getElem hlt), ih (by omega) (by omega)]
        rfl
      · rw [readBytes, readByte_of_le hge]
        rfl

/-! ### `RegularTypeParaser::Parse` -/

/-- `RegularTypeParaser::Parse<bool>`: on success the index is left at the value, not behind it. -/
def parseBool (data : RawData) (seekIndex : ℕ) : Except Fault ((Bool × Bool) × ℕ) := do
  let tag ← readByte data seekIndex
  -- the tag is not counted, so the value may lie behind the end
  if tag ≠ chr 'b' ∨ data.length < seekIndex + kBoolSize then
    return ((false, false), seekIndex)
  let ch ← readByte data (seekIndex + 1)
  return ((true, ch == chr '1'), seekIndex + 1)

/-- The common form of `RegularTypeParaser::Parse<int>` and `RegularTypeParaser::Parse<double>`. -/
def parseNumber {α : Type} (c : RawNumber α) (data : RawData) (seekIndex : ℕ) :
    Except Fault ((Bool × α) × ℕ) := do
  let tag ← readByte data seekIndex
  -- here too: the last byte may lie behind the end
  if tag ≠ c.tag ∨ data.length < seekIndex + c.size then
    return ((false, c.zero), seekIndex)
  let (aux, idx) ← readBytes data (seekIndex + 1) c.size
  return ((true, c.ofRaw aux), idx)

/-- `RegularTypeParaser::Parse<int>` -/
def parseInt (data : RawData) (seekIndex : ℕ) : Except Fault ((Bool × CInt) × ℕ) :=
  parseNumber intNumber data seekIndex

/-- `RegularTypeParaser::Parse<double>` -/
def parseDouble (data : RawData) (seekIndex : ℕ) : Except Fault ((Bool × CDouble) × ℕ) :=
  parseNumber doubleNumber data seekIndex

/-- The conversion of an `int` to `size_t`. -/
def toSizeT (v : CInt) : ℕ := (v.signExtend 64).toNat

/-- Addition of `size_t`. -/
def addSizeT (a b : ℕ) : ℕ := (a + b) % 2 ^ 64

/-- The constructor `std::string(n, 0)` throws when `n` exceeds `max_size()`. -/
def allocString (n : ℕ) : Except Fault Unit :=
  if maxSize < n then .error .lengthError else .ok ()

/-- `RegularTypeParaser::Parse<std::string>` -/
def parseString (data : RawData) (seekIndex : ℕ) : Except Fault ((Bool × RawData) × ℕ) := do
  let tag ← readByte data seekIndex
  if tag ≠ chr 's' then
    return ((false, []), seekIndex)
  let (p, idx) ← parseInt data (seekIndex + 1)
  -- a negative length is a large `size_t`, and the sum may wrap around
  if p.1 = false ∨ data.length < addSizeT idx (toSizeT p.2) then
    return ((false, []), seekIndex)
  allocString (toSizeT p.2)
  let (str, idx) ← readBytes data idx (toSizeT p.2)
  return ((true, str), idx)

/-! ### Where a parser reads past the end -/

/-- The vector ends where the parser of a number started at `k` still reads: before the tag, or
one byte before the end of the number. -/
def NumberCut {α : Type} (c : RawNumber α) (data : RawData) (k : ℕ) : Prop :=
  data.length ≤ k ∨ data[k]? = some c.tag ∧ data.length = k + c.size

/-- The vector ends where `Parse<bool>` started at `k` still reads. -/
def BoolCut (data : RawData) (k : ℕ) : Prop :=
  data.length ≤ k ∨ data[k]? = some (chr 'b') ∧ data.length = k + kBoolSize

/-- The vector ends where `Parse<int>` started at `k` still reads. -/
def IntCut (data : RawData) (k : ℕ) : Prop := NumberCut intNumber data k

/-- The vector ends where `Parse<double>` started at `k` still reads. -/
def DoubleCut (data : RawData) (k : ℕ) : Prop := NumberCut doubleNumber data k

/-- The vector ends where `Parse<std::string>` started at `k` still reads. -/
def StringCut (data : RawData) (k : ℕ) : Prop :=
  data.length ≤ k ∨ data[k]? = some (chr 's') ∧ IntCut data (k + 1)

/-- A string that `Parse<std::string>` can return sits at `k`. -/
def StringAt (data : RawData) (k : ℕ) (s : RawData) : Prop :=
  s.length < 2 ^ 31 ∧ HasAt data k (serializeString s)

/-- A string sits at `k` whose declared length is negative and of magnitude at most the index
behind the length. -/
def NegativeLength (data : RawData) (k : ℕ) : Prop :=
  ∃ v : CInt, HasAt data k (chr 's' :: serializeInt v) ∧ v.toInt < 0 ∧ -v.toInt ≤ k + 6

/-! ### The parsers of numbers, case by case -/

section Number

variable {α : Type} {c : RawNumber α} {data : RawData} {k : ℕ}

/-- Cut at `k`, the parser reads past the end. -/
theorem parseNumber_of_cut (h : NumberCut c data k) :
    parseNumber c data k = .error .outOfRange := by
  rcases h with h | ⟨htag, hlen⟩
  · rw [parseNumber, readByte_of_le h]; rfl
  · -- the test passes, and the loop runs one byte past the end
    have hpos := c.size_pos
    rw [parseNumber, readByte_of_some htag]
    simp only [ok_bind]
    rw [if_neg (by simp [hlen]), readBytes_of_lt (by omega) (by omega), error_bind]

/-- Where a number sits, the parser returns it and moves behind it. -/
theorem parseNumber_of_hasAt {v : α} (h : HasAt data k (c.serialize v)) :
    parseNumber c data k = .ok ((true, v), k + 1 + c.size) := by
  have hle := h.length_le (List.cons_ne_nil _ _)
  rw [c.length_serialize] at hle
  obtain ⟨htag, hraw⟩ := hasAt_cons_iff.1 (c.serialize_eq v ▸ h)
  rw [parseNumber, readByte_of_some htag]
  simp only [ok_bind]
  rw [if_neg (by simp only [ne_eq, not_true_eq_false, false_or]; omega), readBytes_of_le (by omega)]
  rw [hasAt_iff_take_drop, c.length_raw] at hraw
  simp only [ok_bind, hraw, c.ofRaw_raw]
  rfl

/-- Everywhere else the parser reports failure and leaves the index alone. -/
theorem parseNumber_of_not (hcut : ¬ NumberCut c data k)
    (h : ∀ v, ¬ HasAt data k (c.serialize v)) :
    parseNumber c data k = .ok ((false, c.zero), k) := by
  have hk : k < data.length := Nat.lt_of_not_le fun hle => hcut (Or.inl hle)
  rw [parseNumber, readByte_of_some (List.getElem?_eq_getElem hk)]
  simp only [ok_bind]
  rw [if_pos]
  · rfl
  · -- otherwise the tag and the bytes behind it are the encoding of a number
    by_contra hno
    simp only [ne_eq, not_or, not_not, Nat.not_lt] at hno
    obtain ⟨htag, hle⟩ := hno
    have htag' : data[k]? = some c.tag := by rw [← htag, List.getElem?_eq_getElem hk]
    have hlen : ((data.drop (k + 1)).take c.size).length = c.size := by
      have : data.length ≠ k + c.size := fun heq => hcut (Or.inr ⟨htag', heq⟩)
      rw [List.length_take, List.length_drop]
      omega
    refine h (c.ofRaw ((data.drop (k + 1)).take c.size)) ?_
    rw [c.serialize_ofRaw hlen, hasAt_cons_iff]
    exact ⟨htag', hasAt_take_drop data (k + 1) c.size⟩

/-- A parser is at one of the three places. -/
theorem number_cases (c : RawNumber α) (data : RawData) (k : ℕ) :
    NumberCut c data k ∨ (∃ v, HasAt data k (c.serialize v)) ∨
      (¬ NumberCut c data k ∧ ∀ v, ¬ HasAt data k (c.serialize v)) := by
  by_cases hcut : NumberCut c data k
  · exact Or.inl hcut
  · by_cases h : ∃ v, HasAt data k (c.serialize v)
    · exact Or.inr (Or.inl h)
    · exact Or.inr (Or.inr ⟨hcut, not_exists.1 h⟩)

end Number

theorem parseInt_of_cut {data : RawData} {k : ℕ} (h : IntCut data k) :
    parseInt data k = .error .outOfRange :=
  parseNumber_of_cut h

theorem parseInt_of_hasAt {data : RawData} {k : ℕ} {v : CInt} (h : HasAt data k (serializeInt v)) :
    parseInt data k = .ok ((true, v), k + 5) :=
  parseNumber_of_hasAt h

theorem parseInt_of_not {data : RawData} {k : ℕ} (hcut : ¬ IntCut data k)
    (h : ∀ v, ¬ HasAt data k (serializeInt v)) : parseInt data k = .ok ((false, 0), k) :=
  parseNumber_of_not hcut h

theorem int_cases (data : RawData) (k : ℕ) :
    IntCut data k ∨ (∃ v, HasAt data k (serializeInt v)) ∨
      (¬ IntCut data k ∧ ∀ v, ¬ HasAt data k (serializeInt v)) :=
  number_cases intNumber data k

theorem parseDouble_of_cut {data : RawData} {k : ℕ} (h : DoubleCut data k) :
    parseDouble data k = .error .outOfRange :=
  parseNumber_of_cut h

theorem parseDouble_of_hasAt {data : RawData} {k : ℕ} {v : CDouble}
    (h : HasAt data k (serializeDouble v)) : parseDouble data k = .ok ((true, v), k + 9) :=
  parseNumber_of_hasAt h

theorem parseDouble_of_not {data : RawData} {k : ℕ} (hcut : ¬ DoubleCut data k)
    (h : ∀ v, ¬ HasAt data k (serializeDouble v)) : parseDouble data k = .ok ((false, 0), k) :=
  parseNumber_of_not hcut h

theorem double_cases (data : RawData) (k : ℕ) :
    DoubleCut data k ∨ (∃ v, HasAt data k (serializeDouble v)) ∨
      (¬ DoubleCut data k ∧ ∀ v, ¬ HasAt data k (serializeDouble v)) :=
  number_cases doubleNumber data k

/-- Where the first byte is not the tag of a number, its parser reports failure. -/
theorem parseInt_of_ne {data : RawData} {k : ℕ} {b : Byte} (hb : data[k]? = some b)
    (hne : b ≠ chr 'i') : parseInt data k = .ok ((false, 0), k) := by
  rw [parseInt, parseNumber, readByte_of_some hb]
  exact if_pos (Or.inl hne)

theorem parseDouble_of_ne {data : RawData} {k : ℕ} {b : Byte} (hb : data[k]? = some b)
    (hne : b ≠ chr 'd') : parseDouble data k = .ok ((false, 0), k) := by
  rw [parseDouble, parseNumber, readByte_of_some hb]
  exact if_pos (Or.inl hne)

/-! ### The parser of strings, case by case -/

section String

variable {data : RawData} {k : ℕ}

/-- The value of an `int` and of its conversion to `size_t`. -/
theorem toInt_eq_toSizeT (v : CInt) :
    v.toInt = if 2 * toSizeT v < 2 ^ 64 then (toSizeT v : ℤ) else toSizeT v - 2 ^ 64 := by
  have hext : (v.signExtend 64).toInt = v.toInt := BitVec.toInt_signExtend_of_le (by decide)
  rw [← hext, BitVec.toInt_eq_toNat_cond]
  rfl

/-- A nonnegative `int` keeps its value as a `size_t`. -/
theorem toSizeT_of_nonneg {v : CInt} (h : 0 ≤ v.toInt) : (toSizeT v : ℤ) = v.toInt := by
  have hlt : toSizeT v < 2 ^ 64 := (v.signExtend 64).isLt
  have heq := toInt_eq_toSizeT v
  split at heq <;> omega

/-- A negative `int` wraps around `2 ^ 64` as a `size_t`. -/
theorem toSizeT_of_neg {v : CInt} (h : v.toInt < 0) : (toSizeT v : ℤ) = 2 ^ 64 + v.toInt := by
  have heq := toInt_eq_toSizeT v
  split at heq <;> omega

theorem neg_toInt_le (v : CInt) : -v.toInt ≤ 2 ^ 31 := by
  have := BitVec.le_toInt v
  omega

theorem toInt_lt_two_pow (v : CInt) : v.toInt < 2 ^ 31 := by
  have := BitVec.toInt_lt (x := v)
  omega

/-- The length of a short string survives the narrowing to an `int`. -/
theorem toInt_ofNat_of_lt {n : ℕ} (h : n < 2 ^ 31) : (BitVec.ofNat 32 n : CInt).toInt = n := by
  rw [BitVec.toInt_ofNat']
  exact Int.bmod_eq_of_le (by omega) (by omega)

theorem toSizeT_ofNat {n : ℕ} (h : n < 2 ^ 31) : toSizeT (BitVec.ofNat 32 n) = n := by
  have hint := toInt_ofNat_of_lt h
  have hsize := toSizeT_of_nonneg (v := BitVec.ofNat 32 n) (by omega)
  omega

/-- Cut at `k`, the parser reads past the end. -/
theorem parseString_of_cut (h : StringCut data k) :
    parseString data k = .error .outOfRange := by
  rcases h with h | ⟨htag, hcut⟩
  · rw [parseString, readByte_of_le h]; rfl
  · rw [parseString, readByte_of_some htag]
    simp only [ok_bind]
    rw [if_neg (by simp), parseInt_of_cut hcut, error_bind]

/-- **A negative length that the index behind it can absorb passes the test and makes the string
constructor throw.** -/
theorem parseString_of_negativeLength (h : NegativeLength data k) :
    parseString data k = .error .lengthError := by
  obtain ⟨v, hat, hneg, hle⟩ := h
  have hlen := hat.length_le (List.cons_ne_nil _ _)
  obtain ⟨htag, hint⟩ := hasAt_cons_iff.1 hat
  have hsize := toSizeT_of_neg hneg
  have hmag := neg_toInt_le v
  -- the wrapped sum is at most the index, and the length larger than any string
  have hpass : ¬ data.length < addSizeT (k + 1 + 5) (toSizeT v) := by
    rw [List.length_cons, length_serializeInt] at hlen
    rw [addSizeT]
    omega
  have hthrow : maxSize < toSizeT v := by
    rw [maxSize]
    omega
  rw [parseString, readByte_of_some htag]
  simp only [ok_bind]
  rw [if_neg (by simp), parseInt_of_hasAt hint]
  simp only [ok_bind, hpass, Bool.true_eq_false, or_self, if_false, allocString, hthrow, if_true,
    error_bind]

/-- Where a string sits, the parser returns it and moves behind it. -/
theorem parseString_of_stringAt {s : RawData} (h : StringAt data k s) :
    parseString data k = .ok ((true, s), k + 6 + s.length) := by
  obtain ⟨hs, hat⟩ := h
  have hlen := hat.length_le (serializeString_ne_nil s)
  rw [length_serializeString] at hlen
  obtain ⟨htag, hrest⟩ := hasAt_cons_iff.1 hat
  obtain ⟨hint, hstr⟩ := hasAt_append_iff.1 hrest
  rw [length_serializeInt, hasAt_iff_take_drop] at hstr
  have hsize := toSizeT_ofNat hs
  have hpass : ¬ data.length < addSizeT (k + 1 + 5) s.length := by
    rw [addSizeT]
    omega
  have halloc : ¬ maxSize < s.length := by
    rw [maxSize]
    omega
  rw [parseString, readByte_of_some htag]
  simp only [ok_bind]
  rw [if_neg (by simp), parseInt_of_hasAt hint]
  simp only [ok_bind, hsize, hpass, Bool.true_eq_false, or_self, if_false, allocString, halloc]
  rw [readBytes_of_le (by omega)]
  simp only [ok_bind, hstr]
  rfl

/-- Everywhere else the parser reports failure and leaves the index alone. -/
theorem parseString_of_not (hsize : data.length ≤ maxSize) (hcut : ¬ StringCut data k)
    (hneg : ¬ NegativeLength data k) (h : ∀ s, ¬ StringAt data k s) :
    parseString data k = .ok ((false, []), k) := by
  have hk : k < data.length := Nat.lt_of_not_le fun hle => hcut (Or.inl hle)
  have hget := List.getElem?_eq_getElem hk
  rw [parseString, readByte_of_some hget]
  simp only [ok_bind]
  by_cases htag : data[k] = chr 's'
  · rw [htag] at hget
    rw [if_neg (by simp [htag])]
    rcases int_cases data (k + 1) with hc | ⟨v, hv⟩ | ⟨hc, hv⟩
    · exact absurd (Or.inr ⟨hget, hc⟩) hcut
    · -- the length is there, and the test must fail
      have hlen := hv.length_le (serializeInt_ne_nil v)
      rw [length_serializeInt] at hlen
      have hfail : data.length < addSizeT (k + 1 + 5) (toSizeT v) := by
        rw [maxSize] at hsize
        have hmag := neg_toInt_le v
        rcases Int.lt_or_le v.toInt 0 with hlt | hge
        · have hbig : ¬ -v.toInt ≤ k + 6 := fun hle =>
            hneg ⟨v, hasAt_cons_iff.2 ⟨hget, hv⟩, hlt, hle⟩
          have := toSizeT_of_neg hlt
          rw [addSizeT]
          omega
        · -- a nonnegative length that passes the test is the length of a string that sits at `k`
          by_contra hno
          have hval := toSizeT_of_nonneg hge
          have hbound := toInt_lt_two_pow v
          rw [addSizeT] at hno
          have hword : ((data.drop (k + 6)).take (toSizeT v)).length = toSizeT v := by
            rw [List.length_take, List.length_drop]
            omega
          refine h ((data.drop (k + 6)).take (toSizeT v)) ⟨by omega, ?_⟩
          have hv' : BitVec.ofNat 32 (toSizeT v) = v := by
            apply BitVec.eq_of_toInt_eq
            rw [toInt_ofNat_of_lt (by omega), hval]
          rw [serializeString, hword, hv', hasAt_cons_iff, hasAt_append_iff, length_serializeInt]
          exact ⟨hget, hv, hasAt_take_drop data (k + 6) _⟩
      rw [parseInt_of_hasAt hv]
      simp only [ok_bind, hfail, or_true, if_true]
      rfl
    · rw [parseInt_of_not hc hv]
      rfl
  · rw [if_pos htag]
    rfl

/-- Where the first byte is not the tag of a string, the parser reports failure. -/
theorem parseString_of_ne {b : Byte} (hb : data[k]? = some b) (hne : b ≠ chr 's') :
    parseString data k = .ok ((false, []), k) := by
  rw [parseString, readByte_of_some hb]
  exact if_pos hne

/-- The parser of strings is at one of the four places. -/
theorem string_cases (data : RawData) (k : ℕ) :
    StringCut data k ∨ NegativeLength data k ∨ (∃ s, StringAt data k s) ∨
      (¬ StringCut data k ∧ ¬ NegativeLength data k ∧ ∀ s, ¬ StringAt data k s) := by
  by_cases hcut : StringCut data k
  · exact Or.inl hcut
  · by_cases hneg : NegativeLength data k
    · exact Or.inr (Or.inl hneg)
    · by_cases h : ∃ s, StringAt data k s
      · exact Or.inr (Or.inr (Or.inl h))
      · exact Or.inr (Or.inr (Or.inr ⟨hcut, hneg, not_exists.1 h⟩))

end String

/-! ### The parser of booleans, case by case -/

section Bool

variable {data : RawData} {k : ℕ}

theorem parseBool_of_cut (h : BoolCut data k) : parseBool data k = .error .outOfRange := by
  rcases h with h | ⟨htag, hlen⟩
  · rw [parseBool, readByte_of_le h]; rfl
  · rw [parseBool, readByte_of_some htag]
    simp only [ok_bind]
    rw [if_neg (by simp [hlen]), readByte_of_le (by rw [hlen, kBoolSize]), error_bind]

/-- Any byte behind the tag is accepted; only `'1'` is read as `true`. -/
theorem parseBool_of_hasAt {b : Byte} (h : HasAt data k [chr 'b', b]) :
    parseBool data k = .ok ((true, b == chr '1'), k + 1) := by
  have hlen := h.length_le (List.cons_ne_nil _ _)
  simp only [List.length_cons, List.length_nil] at hlen
  obtain ⟨htag, hrest⟩ := hasAt_cons_iff.1 h
  rw [parseBool, readByte_of_some htag]
  simp only [ok_bind]
  rw [if_neg (by simp only [ne_eq, not_true_eq_false, false_or, kBoolSize]; omega),
    readByte_of_some (hasAt_cons_iff.1 hrest).1, ok_bind]
  rfl

theorem parseBool_of_not (hcut : ¬ BoolCut data k) (h : ∀ b, ¬ HasAt data k [chr 'b', b]) :
    parseBool data k = .ok ((false, false), k) := by
  have hk : k < data.length := Nat.lt_of_not_le fun hle => hcut (Or.inl hle)
  rw [parseBool, readByte_of_some (List.getElem?_eq_getElem hk)]
  simp only [ok_bind]
  refine if_pos (Or.inl fun htag => ?_)
  have htag' : data[k]? = some (chr 'b') := by rw [← htag, List.getElem?_eq_getElem hk]
  have hk' : k + 1 < data.length := by
    have : data.length ≠ k + kBoolSize := fun heq => hcut (Or.inr ⟨htag', heq⟩)
    rw [kBoolSize] at this
    omega
  refine h data[k + 1] (hasAt_cons_iff.2 ⟨htag', hasAt_cons_iff.2 ⟨?_, hasAt_nil _ _⟩⟩)
  exact List.getElem?_eq_getElem hk'

theorem bool_cases (data : RawData) (k : ℕ) :
    BoolCut data k ∨ (∃ b, HasAt data k [chr 'b', b]) ∨
      (¬ BoolCut data k ∧ ∀ b, ¬ HasAt data k [chr 'b', b]) := by
  by_cases hcut : BoolCut data k
  · exact Or.inl hcut
  · by_cases h : ∃ b, HasAt data k [chr 'b', b]
    · exact Or.inr (Or.inl h)
    · exact Or.inr (Or.inr ⟨hcut, not_exists.1 h⟩)

end Bool

/-! ### Faults of a field -/

/-- The types the deserializer knows. -/
inductive FieldKind
  | bool
  | int
  | double
  | string
  deriving DecidableEq, Repr

/-- The type designator. -/
def FieldKind.tag : FieldKind → Byte
  | bool => chr 'b'
  | int => chr 'i'
  | double => chr 'd'
  | string => chr 's'

/-- **The parser of a type started at `k` stops with this fault**, in terms of the bytes: it reads
past the end where the vector is cut, and only the parser of strings throws. -/
def FieldFault : Fault → FieldKind → RawData → ℕ → Prop
  | .outOfRange, .bool => BoolCut
  | .outOfRange, .int => IntCut
  | .outOfRange, .double => DoubleCut
  | .outOfRange, .string => StringCut
  | .lengthError, .string => NegativeLength
  | .lengthError, _ => fun _ _ => False

section Faults

variable {data : RawData} {k : ℕ} {e : Fault}

theorem parseBool_eq_error_iff :
    parseBool data k = .error e ↔ FieldFault e .bool data k := by
  constructor
  · intro h
    rcases bool_cases data k with hc | ⟨b, hb⟩ | ⟨hc, hb⟩
    · rw [parseBool_of_cut hc] at h
      cases h
      exact hc
    · rw [parseBool_of_hasAt hb] at h; cases h
    · rw [parseBool_of_not hc hb] at h; cases h
  · intro h
    cases e with
    | outOfRange => exact parseBool_of_cut h
    | lengthError => exact h.elim

theorem parseNumber_eq_error_iff {α : Type} {c : RawNumber α} :
    parseNumber c data k = .error e ↔ e = .outOfRange ∧ NumberCut c data k := by
  constructor
  · intro h
    rcases number_cases c data k with hc | ⟨v, hv⟩ | ⟨hc, hv⟩
    · rw [parseNumber_of_cut hc] at h
      cases h
      exact ⟨rfl, hc⟩
    · rw [parseNumber_of_hasAt hv] at h; cases h
    · rw [parseNumber_of_not hc hv] at h; cases h
  · rintro ⟨rfl, h⟩
    exact parseNumber_of_cut h

theorem parseInt_eq_error_iff : parseInt data k = .error e ↔ FieldFault e .int data k := by
  rw [parseInt, parseNumber_eq_error_iff]
  cases e <;> simp [FieldFault, IntCut]

theorem parseDouble_eq_error_iff :
    parseDouble data k = .error e ↔ FieldFault e .double data k := by
  rw [parseDouble, parseNumber_eq_error_iff]
  cases e <;> simp [FieldFault, DoubleCut]

theorem parseString_eq_error_iff (hsize : data.length ≤ maxSize) :
    parseString data k = .error e ↔ FieldFault e .string data k := by
  constructor
  · intro h
    rcases string_cases data k with hc | hn | ⟨s, hs⟩ | ⟨hc, hn, hs⟩
    · rw [parseString_of_cut hc] at h
      cases h
      exact hc
    · rw [parseString_of_negativeLength hn] at h
      cases h
      exact hn
    · rw [parseString_of_stringAt hs] at h; cases h
    · rw [parseString_of_not hsize hc hn hs] at h; cases h
  · intro h
    cases e with
    | outOfRange => exact parseString_of_cut h
    | lengthError => exact parseString_of_negativeLength h

/-- A parser that stops is at the end of the vector, or has seen its own tag. -/
theorem FieldFault.at_end_or_tag {t : FieldKind} (h : FieldFault e t data k) :
    (e = .outOfRange ∧ data.length ≤ k) ∨ data[k]? = some t.tag := by
  cases e with
  | outOfRange =>
      cases t with
      | _ =>
          rcases h with h | ⟨h, _⟩
          · exact Or.inl ⟨rfl, h⟩
          · exact Or.inr h
  | lengthError =>
      cases t with
      | string =>
          obtain ⟨v, hv, _⟩ := h
          exact Or.inr (hasAt_cons_iff.1 hv).1
      | _ => exact h.elim

end Faults

/-! ### Successes of a field -/

section Success

variable {data : RawData} {k : ℕ}

/-- A parser of numbers that does not stop has found a number, or has reported failure. -/
theorem parseNumber_eq_ok_iff {α : Type} {c : RawNumber α} {r : (Bool × α) × ℕ} :
    parseNumber c data k = .ok r ↔
      (∃ v, HasAt data k (c.serialize v) ∧ r = ((true, v), k + 1 + c.size)) ∨
        (¬ NumberCut c data k ∧ (∀ v, ¬ HasAt data k (c.serialize v)) ∧
          r = ((false, c.zero), k)) := by
  constructor
  · intro h
    rcases number_cases c data k with hc | ⟨v, hv⟩ | ⟨hc, hv⟩
    · rw [parseNumber_of_cut hc] at h
      cases h
    · rw [parseNumber_of_hasAt hv] at h
      cases h
      exact Or.inl ⟨v, hv, rfl⟩
    · rw [parseNumber_of_not hc hv] at h
      cases h
      exact Or.inr ⟨hc, hv, rfl⟩
  · rintro (⟨v, hv, rfl⟩ | ⟨hc, hv, rfl⟩)
    · exact parseNumber_of_hasAt hv
    · exact parseNumber_of_not hc hv

theorem parseInt_eq_ok_iff {r : (Bool × CInt) × ℕ} :
    parseInt data k = .ok r ↔
      (∃ v, HasAt data k (serializeInt v) ∧ r = ((true, v), k + 5)) ∨
        (¬ IntCut data k ∧ (∀ v, ¬ HasAt data k (serializeInt v)) ∧ r = ((false, 0), k)) :=
  parseNumber_eq_ok_iff

theorem parseDouble_eq_ok_iff {r : (Bool × CDouble) × ℕ} :
    parseDouble data k = .ok r ↔
      (∃ v, HasAt data k (serializeDouble v) ∧ r = ((true, v), k + 9)) ∨
        (¬ DoubleCut data k ∧ (∀ v, ¬ HasAt data k (serializeDouble v)) ∧ r = ((false, 0), k)) :=
  parseNumber_eq_ok_iff

theorem parseString_eq_ok_iff (hsize : data.length ≤ maxSize) {r : (Bool × RawData) × ℕ} :
    parseString data k = .ok r ↔
      (∃ s, StringAt data k s ∧ r = ((true, s), k + 6 + s.length)) ∨
        (¬ StringCut data k ∧ ¬ NegativeLength data k ∧ (∀ s, ¬ StringAt data k s) ∧
          r = ((false, []), k)) := by
  constructor
  · intro h
    rcases string_cases data k with hc | hn | ⟨s, hs⟩ | ⟨hc, hn, hs⟩
    · rw [parseString_of_cut hc] at h
      cases h
    · rw [parseString_of_negativeLength hn] at h
      cases h
    · rw [parseString_of_stringAt hs] at h
      cases h
      exact Or.inl ⟨s, hs, rfl⟩
    · rw [parseString_of_not hsize hc hn hs] at h
      cases h
      exact Or.inr ⟨hc, hn, hs, rfl⟩
  · rintro (⟨s, hs, rfl⟩ | ⟨hc, hn, hs, rfl⟩)
    · exact parseString_of_stringAt hs
    · exact parseString_of_not hsize hc hn hs

end Success

end NamedPipeDemo
