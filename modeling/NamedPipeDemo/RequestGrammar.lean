/-
**The shapes of requests, and where decoding them stops.**

`NamedPipeDemo.decodeRequest` still moves an index through the bytes.  This module says what it
recognises without moving one.  The frame, the body, the class name and the handle of a request
each sit at a place, and every parser that is called on the way is called at such a place: it is
*due* there.  Decoding stops with a fault exactly when some parser that is due somewhere stops
there, and a due parser stops exactly when the bytes in front of it are cut or declare a harmful
length.

Main definitions:

* `NamedPipeDemo.BodyAt`, `NamedPipeDemo.CommandAt`, `NamedPipeDemo.TargetAt` — where the body, the
  command and the part behind the handle start;
* `NamedPipeDemo.Due` — **a parser of this type is called at this index**.

Main results:

* `NamedPipeDemo.decodeRequest_of_commandAt` — a command is decoded where it starts;
* `NamedPipeDemo.decodeRequest_eq_error_iff` — **decoding stops exactly when a due parser does**;
* `NamedPipeDemo.decodeRequest_eq_call_iff`, `NamedPipeDemo.decodeRequest_eq_create_iff` — **what is
  decoded as a method call or as a creation**, part by part.
-/

import NamedPipeDemo.RequestAction

set_option relaxedAutoImplicit false
set_option autoImplicit false

namespace NamedPipeDemo

open Segment

/-! ### Keywords and frames -/

/-- The test for a keyword never reads past the end. -/
theorem hasKeyword_eq (data : RawData) (k : ℕ) (key : Byte) :
    hasKeyword data k key = .ok (decide (HasAt data k [chr '#', key])) := by
  rw [hasKeyword]
  by_cases hlen : data.length < k + 2
  · have hno : ¬ HasAt data k [chr '#', key] := fun h => by
      have hle := h.length_le (List.cons_ne_nil _ _)
      simp only [List.length_cons, List.length_nil] at hle
      omega
    rw [if_pos hlen, decide_eq_false hno]
    rfl
  · have h₀ : data[k]? = some data[k] := List.getElem?_eq_getElem (by omega)
    have h₁ : data[k + 1]? = some data[k + 1] := List.getElem?_eq_getElem (by omega)
    rw [if_neg hlen, readByte_of_some h₀, ok_bind, readByte_of_some h₁, ok_bind]
    simp only [hasAt_cons_iff, h₀, h₁, Option.some.injEq, hasAt_nil, and_true]
    by_cases hb : data[k] = chr '#'
    · rw [if_neg (not_not_intro hb)]
      simp only [hb, true_and]
      rfl
    · rw [if_pos hb]
      simp only [hb, false_and]
      rfl

theorem hasKeyword_of_hasAt {data : RawData} {k : ℕ} {key : Byte}
    (h : HasAt data k [chr '#', key]) : hasKeyword data k key = .ok true := by
  rw [hasKeyword_eq, decide_eq_true h]

theorem hasKeyword_of_not {data : RawData} {k : ℕ} {key : Byte}
    (h : ¬ HasAt data k [chr '#', key]) : hasKeyword data k key = .ok false := by
  rw [hasKeyword_eq, decide_eq_false h]

/-- The id of a request and the index at which its body starts. -/
inductive BodyAt (data : RawData) : RequestId → ℕ → Prop
  | framed {id : RequestId} (h : HasAt data 0 (createRequestIdData id)) : BodyAt data id 7
  | plain (h : ∀ id, ¬ HasAt data 0 (createRequestIdData id)) : BodyAt data (-1) 0

/-- `ParseRequestId` looks for the keyword `#r` and then for an `int`. -/
theorem parseRequestId_eq (data : RawData) (k : ℕ) :
    parseRequestId data k = do
      if ← hasKeyword data k (chr 'r') then
        let (id, idx) ← parseInt data (k + 2)
        return if id.1 then (id.2, idx) else (-1, k)
      return (-1, k) := by
  rw [parseRequestId, hasKeyword]
  by_cases hlen : data.length < k + 2
  · rw [if_pos hlen, if_pos hlen]
    rfl
  rw [if_neg hlen, if_neg hlen]
  cases readByte data k with
  | error e => rfl
  | ok b =>
      simp only [ok_bind]
      by_cases hb : b = chr '#'
      · rw [if_neg (not_not_intro hb), if_neg (not_not_intro hb)]
        cases readByte data (k + 1) with
        | error e => rfl
        | ok b' =>
            simp only [ok_bind]
            by_cases hb' : b' = chr 'r'
            · rw [if_neg (not_not_intro hb')]
              simp only [hb', beq_self_eq_true]
              cases parseInt data (k + 2) with
              | error e => rfl
              | ok i =>
                  obtain ⟨⟨ok, v⟩, idx⟩ := i
                  cases ok <;> rfl
            · rw [if_pos hb', beq_eq_false_iff_ne.2 hb']
              rfl
      · rw [if_pos hb, if_pos hb]
        rfl

theorem hasAt_createRequestIdData_iff {data : RawData} {k : ℕ} {id : RequestId} :
    HasAt data k (createRequestIdData id) ↔
      HasAt data k [chr '#', chr 'r'] ∧ HasAt data (k + 2) (serializeInt id) :=
  hasAt_append_iff

/-- **`ParseRequestId` finds the body**, unless it stops behind the keyword `#r`. -/
theorem parseRequestId_of_bodyAt {data : RawData} {id : RequestId} {b : ℕ} (h : BodyAt data id b)
    (hcut : HasAt data 0 [chr '#', chr 'r'] → ¬ IntCut data 2) :
    parseRequestId data 0 = .ok (id, b) := by
  rw [parseRequestId_eq]
  cases h with
  | framed h =>
      obtain ⟨hkey, hid⟩ := hasAt_createRequestIdData_iff.1 h
      rw [hasKeyword_of_hasAt hkey, ok_bind, parseInt_of_hasAt hid]
      rfl
  | plain h =>
      by_cases hkey : HasAt data 0 [chr '#', chr 'r']
      · have hno : ∀ v, ¬ HasAt data 2 (serializeInt v) := fun v hv =>
          h v (hasAt_createRequestIdData_iff.2 ⟨hkey, hv⟩)
        rw [hasKeyword_of_hasAt hkey, ok_bind, parseInt_of_not (hcut hkey) hno]
        rfl
      · rw [hasKeyword_of_not hkey]
        rfl

/-- Cut behind the keyword `#r`, `ParseRequestId` reads past the end. -/
theorem parseRequestId_of_cut {data : RawData} (hkey : HasAt data 0 [chr '#', chr 'r'])
    (hcut : IntCut data 2) : parseRequestId data 0 = .error .outOfRange := by
  rw [parseRequestId_eq, hasKeyword_of_hasAt hkey]
  simp only [ok_bind, if_true, parseInt_of_cut hcut, error_bind]

/-- Every vector has a body. -/
theorem exists_bodyAt (data : RawData) : ∃ id b, BodyAt data id b := by
  by_cases h : ∃ id, HasAt data 0 (createRequestIdData id)
  · obtain ⟨id, h⟩ := h
    exact ⟨id, 7, .framed h⟩
  · exact ⟨-1, 0, .plain (not_exists.1 h)⟩

theorem BodyAt.unique {data : RawData} {id id' : RequestId} {b b' : ℕ} (h : BodyAt data id b)
    (h' : BodyAt data id' b') : id = id' ∧ b = b' := by
  cases h with
  | framed h =>
      cases h' with
      | framed h' =>
          exact ⟨createRequestIdData_injective (h.eq_of_length_eq h' (by simp)), rfl⟩
      | plain h' => exact absurd h (h' _)
  | plain h =>
      cases h' with
      | framed h' => exact absurd h' (h _)
      | plain h' => exact ⟨rfl, rfl⟩

/-! ### Commands and handles -/

/-- What every command starts with: `DemoSimulator::CreateCustomClassRequest` writes it. -/
def createCustomClassRequest : RawData := chr '#' :: serializeString CustomClass.kClassName

@[simp] theorem length_createCustomClassRequest : createCustomClassRequest.length = 24 := rfl

/-- A command with this id, whose class name ends at `n`. -/
def CommandAt (data : RawData) (id : RequestId) (n : ℕ) : Prop :=
  ∃ b, BodyAt data id b ∧ HasAt data b createCustomClassRequest ∧ n = b + 24

/-- The place behind the class name is determined. -/
theorem CommandAt.unique {data : RawData} {id id' : RequestId} {n n' : ℕ}
    (hcmd : CommandAt data id n) (hcmd' : CommandAt data id' n') : n = n' := by
  obtain ⟨b, hb, _, rfl⟩ := hcmd
  obtain ⟨b', hb', _, rfl⟩ := hcmd'
  rw [(hb.unique hb').2]

/-- The handle that a command whose class name ends at `n` is taken to name, and the index behind
it: a complete `int` at `n`, and otherwise the default value of an `int`. -/
inductive TargetAt (data : RawData) (n : ℕ) : ClassHandle → ℕ → Prop
  | explicit {h : ClassHandle} (hval : HasAt data n (serializeInt h)) : TargetAt data n h (n + 5)
  | default (hval : ∀ h, ¬ HasAt data n (serializeInt h)) : TargetAt data n 0 n

theorem exists_targetAt (data : RawData) (n : ℕ) : ∃ h k, TargetAt data n h k := by
  by_cases hval : ∃ h, HasAt data n (serializeInt h)
  · obtain ⟨h, hval⟩ := hval
    exact ⟨h, n + 5, .explicit hval⟩
  · exact ⟨0, n, .default (not_exists.1 hval)⟩

/-- The target and the place behind it are determined. -/
theorem TargetAt.unique {data : RawData} {n k k' : ℕ} {h h' : ClassHandle}
    (ht : TargetAt data n h k) (ht' : TargetAt data n h' k') : h = h' ∧ k = k' := by
  cases ht with
  | explicit hval =>
      cases ht' with
      | explicit hval' =>
          exact ⟨serializeInt_injective (hval.eq_of_length_eq hval' (by simp)), rfl⟩
      | default hno => exact absurd hval (hno _)
  | default hno =>
      cases ht' with
      | explicit hval' => exact absurd hval' (hno _)
      | default _ => exact ⟨rfl, rfl⟩

/-- **The handle parser finds the target**, unless it is cut. -/
theorem parseInt_of_targetAt {data : RawData} {n k : ℕ} {h : ClassHandle}
    (ht : TargetAt data n h k) (hcut : ¬ IntCut data n) :
    ∃ ok, parseInt data n = .ok ((ok, h), k) := by
  cases ht with
  | explicit hval => exact ⟨true, parseInt_of_hasAt hval⟩
  | default hval => exact ⟨false, parseInt_of_not hcut hval⟩

/-- What sits at an index where a keyword sits is no number. -/
theorem not_intCut_of_keyword {data : RawData} {k : ℕ} {key : Byte}
    (h : HasAt data k [chr '#', key]) : ¬ IntCut data k := by
  have hle := h.length_le (List.cons_ne_nil _ _)
  have hget := (hasAt_cons_iff.1 h).1
  rintro (hcut | ⟨htag, _⟩)
  · simp only [List.length_cons, List.length_nil] at hle
    omega
  · rw [hget, Option.some.injEq] at htag
    exact absurd htag (by decide)

/-! ### Where a parser is due -/

/-- `ParseCreateClass` started at `n` looks for a value of this type at this index. -/
inductive CreateDue (data : RawData) (n : ℕ) : FieldKind → ℕ → Prop
  | ival (hkey : HasAt data n [chr '#', chr 'c']) (hmore : data.length ≠ n + 2) :
      CreateDue data n .int (n + 2)
  | str {v : CInt} (hkey : HasAt data n [chr '#', chr 'c'])
      (hval : HasAt data (n + 2) (serializeInt v)) (hmore : data.length ≠ n + 7) :
      CreateDue data n .string (n + 7)

/-- `ParseMethodCall` started at `k` looks for a value of this type at this index. -/
inductive MethodDue (data : RawData) (k : ℕ) : FieldKind → ℕ → Prop
  | name (hkey : HasAt data k [chr '#', chr 'm']) : MethodDue data k .string (k + 2)
  | ival (hkey : HasAt data k [chr '#', chr 'm'])
      (hname : HasAt data (k + 2) (serializeString kSetIntegerValMethodName)) :
      MethodDue data k .int (k + 23)
  | str (hkey : HasAt data k [chr '#', chr 'm'])
      (hname : HasAt data (k + 2) (serializeString kSetStringValueMethodName)) :
      MethodDue data k .string (k + 22)

/-- Behind the class name, a value of this type is looked for at this index. -/
inductive CommandDue (known : ClassHandle → Bool) (data : RawData) (n : ℕ) : FieldKind → ℕ → Prop
  | create {t : FieldKind} {j : ℕ} (h : CreateDue data n t j) : CommandDue known data n t j
  | handle (hkey : ¬ HasAt data n [chr '#', chr 'c']) : CommandDue known data n .int n
  | method {h : ClassHandle} {k : ℕ} {t : FieldKind} {j : ℕ} (ht : TargetAt data n h k)
      (hknown : known h = true) (hm : MethodDue data k t j) : CommandDue known data n t j

/-- In a body that starts at `b`, a value of this type is looked for at this index. -/
inductive BodyDue (known : ClassHandle → Bool) (data : RawData) (b : ℕ) : FieldKind → ℕ → Prop
  | int : BodyDue known data b .int b
  | double : BodyDue known data b .double b
  | string : BodyDue known data b .string b
  | className (hkey : data[b]? = some (chr '#')) : BodyDue known data b .string (b + 1)
  | command (hname : HasAt data b createCustomClassRequest) {t : FieldKind} {j : ℕ}
      (h : CommandDue known data (b + 24) t j) : BodyDue known data b t j

/-- **`ParseRequest` looks for a value of this type at this index**, in a state in which the
handles `known` exist, as long as nothing has stopped it before. -/
inductive Due (known : ClassHandle → Bool) (data : RawData) : FieldKind → ℕ → Prop
  | requestId (hkey : HasAt data 0 [chr '#', chr 'r']) : Due known data .int 2
  | body {id : RequestId} {b : ℕ} (hb : BodyAt data id b) {t : FieldKind} {j : ℕ}
      (h : BodyDue known data b t j) : Due known data t j

/-! ### Decoding, level by level -/

section Levels

variable {known : ClassHandle → Bool} {data : RawData} {e : Fault}

theorem stringAt_of_hasAt {k : ℕ} {s : RawData} (hs : s.length < 2 ^ 31)
    (h : HasAt data k (serializeString s)) : StringAt data k s := ⟨hs, h⟩

theorem decodeCreate_of_not {n : ℕ} (h : ¬ HasAt data n [chr '#', chr 'c']) :
    decodeCreate data n = .ok none := by
  rw [decodeCreate, hasKeyword_of_not h]
  rfl

/-- Decoding a create command stops exactly when a parser that is due does. -/
theorem decodeCreate_eq_error_iff (hsize : data.length ≤ maxSize) {n : ℕ} :
    decodeCreate data n = .error e ↔ ∃ t j, CreateDue data n t j ∧ FieldFault e t data j := by
  by_cases hkey : HasAt data n [chr '#', chr 'c']
  swap
  · rw [decodeCreate_of_not hkey]
    constructor
    · nofun
    · rintro ⟨_, _, ⟨h, _⟩ | ⟨h, _, _⟩, _⟩ <;> exact absurd h hkey
  constructor
  · intro h
    rw [decodeCreate, hasKeyword_of_hasAt hkey] at h
    simp only [ok_bind, Bool.not_true, Bool.false_eq_true, if_false] at h
    split at h
    · cases h
    next hmore =>
    rcases bind_eq_error_iff.1 h with hi | ⟨i, hi, h⟩
    · exact ⟨_, _, .ival hkey hmore, parseInt_eq_error_iff.1 hi⟩
    rcases parseInt_eq_ok_iff.1 hi with ⟨v, hv, rfl⟩ | ⟨_, _, rfl⟩
    · simp only [Bool.true_eq_false, if_false] at h
      split at h
      · cases h
      next hmore' =>
      rcases bind_eq_error_iff.1 h with hs | ⟨s, hs, h⟩
      · exact ⟨_, _, .str hkey hv hmore', (parseString_eq_error_iff hsize).1 hs⟩
      · split at h
        · cases h
        · split at h <;> cases h
    · cases h
  · rintro ⟨t, j, ⟨_, hmore⟩ | ⟨_, hv, hmore⟩, hfault⟩
    · rw [decodeCreate, hasKeyword_of_hasAt hkey]
      simp only [ok_bind, Bool.not_true, Bool.false_eq_true, if_false, hmore,
        parseInt_eq_error_iff.2 hfault, error_bind]
    · have hlen := hv.length_le (serializeInt_ne_nil _)
      rw [length_serializeInt] at hlen
      have hmore₂ : data.length ≠ n + 2 := by omega
      rw [decodeCreate, hasKeyword_of_hasAt hkey]
      simp only [ok_bind, Bool.not_true, Bool.false_eq_true, if_false, hmore₂,
        parseInt_of_hasAt hv, Bool.true_eq_false, hmore,
        (parseString_eq_error_iff hsize).2 hfault, error_bind]

theorem decodeMethod_of_not {k : ℕ} (h : ¬ HasAt data k [chr '#', chr 'm']) :
    decodeMethod data k = .ok (.other k) := by
  rw [decodeMethod, hasKeyword_of_not h]
  rfl

/-- The argument of `SetIntegerValue` is decoded behind the name. -/
theorem decodeMethod_of_setIntegerValue {k : ℕ} (hkey : HasAt data k [chr '#', chr 'm'])
    (hname : HasAt data (k + 2) (serializeString kSetIntegerValMethodName)) :
    decodeMethod data k = do
      let (ival, idx) ← parseInt data (k + 23)
      return if ival.1 then .call (.setIntegerValue ival.2) else .other idx := by
  have hstr := parseString_of_stringAt (stringAt_of_hasAt (by decide) hname)
  rw [decodeMethod, hasKeyword_of_hasAt hkey]
  simp only [ok_bind, hstr]
  rfl

/-- The argument of `SetStringValue` is decoded behind the name. -/
theorem decodeMethod_of_setStringValue {k : ℕ} (hkey : HasAt data k [chr '#', chr 'm'])
    (hname : HasAt data (k + 2) (serializeString kSetStringValueMethodName)) :
    decodeMethod data k = do
      let (str, idx) ← parseString data (k + 22)
      return if str.1 then .call (.setStringValue str.2) else .other idx := by
  have hstr := parseString_of_stringAt (stringAt_of_hasAt (by decide) hname)
  rw [decodeMethod, hasKeyword_of_hasAt hkey]
  simp only [ok_bind, hstr]
  rfl

/-- Decoding a method call stops exactly when a parser that is due does. -/
theorem decodeMethod_eq_error_iff (hsize : data.length ≤ maxSize) {k : ℕ} :
    decodeMethod data k = .error e ↔ ∃ t j, MethodDue data k t j ∧ FieldFault e t data j := by
  by_cases hkey : HasAt data k [chr '#', chr 'm']
  swap
  · rw [decodeMethod_of_not hkey]
    constructor
    · nofun
    · rintro ⟨_, _, h | ⟨h, _⟩ | ⟨h, _⟩, _⟩ <;> exact absurd h hkey
  constructor
  · intro h
    have hsplit := h
    rw [decodeMethod, hasKeyword_of_hasAt hkey] at hsplit
    simp only [ok_bind, Bool.not_true, Bool.false_eq_true, if_false] at hsplit
    rcases bind_eq_error_iff.1 hsplit with hs | ⟨r, hs, hrest⟩
    · exact ⟨_, _, .name hkey, (parseString_eq_error_iff hsize).1 hs⟩
    rcases (parseString_eq_ok_iff hsize).1 hs with ⟨name, hname, rfl⟩ | ⟨_, _, _, rfl⟩
    swap
    · cases hrest
    by_cases h₁ : name = kSetIntegerValMethodName
    · subst h₁
      rw [decodeMethod_of_setIntegerValue hkey hname.2] at h
      rcases bind_eq_error_iff.1 h with hi | ⟨i, _, h⟩
      · exact ⟨_, _, .ival hkey hname.2, parseInt_eq_error_iff.1 hi⟩
      · cases h
    by_cases h₂ : name = kSetStringValueMethodName
    · subst h₂
      rw [decodeMethod_of_setStringValue hkey hname.2] at h
      rcases bind_eq_error_iff.1 h with hi | ⟨i, _, h⟩
      · exact ⟨_, _, .str hkey hname.2, (parseString_eq_error_iff hsize).1 hi⟩
      · cases h
    · -- the other names take no argument
      simp only [h₁, h₂, Bool.true_eq_false, if_false] at hrest
      split at hrest
      · cases hrest
      · split at hrest <;> cases hrest
  · rintro ⟨t, j, _ | ⟨_, hname⟩ | ⟨_, hname⟩, hfault⟩
    · rw [decodeMethod, hasKeyword_of_hasAt hkey]
      simp only [ok_bind, Bool.not_true, Bool.false_eq_true, if_false,
        (parseString_eq_error_iff hsize).2 hfault, error_bind]
    · rw [decodeMethod_of_setIntegerValue hkey hname, parseInt_eq_error_iff.2 hfault, error_bind]
    · rw [decodeMethod_of_setStringValue hkey hname, (parseString_eq_error_iff hsize).2 hfault,
        error_bind]

/-- Looking for a method call or for the keyword `#g` stops only in the method call. -/
theorem decodeOn_eq_error_iff {h : ClassHandle} {k : ℕ} :
    decodeOn h data k = .error e ↔ decodeMethod data k = .error e := by
  rw [decodeOn]
  cases decodeMethod data k with
  | error e' => simp only [error_bind, Except.error.injEq]
  | ok v =>
      cases v with
      | other idx =>
          simp only [ok_bind, hasKeyword_eq]
          split <;> constructor <;> intro h <;> cases h
      | _ => constructor <;> intro h <;> cases h

/-- A number that is there is not cut. -/
theorem not_intCut_of_hasAt {k : ℕ} {v : CInt} (h : HasAt data k (serializeInt v)) :
    ¬ IntCut data k := fun hcut => by
  have heq := (parseInt_of_cut hcut).symm.trans (parseInt_of_hasAt h)
  cases heq

theorem MethodDue.hasKeyword {k : ℕ} {t : FieldKind} {j : ℕ} (h : MethodDue data k t j) :
    HasAt data k [chr '#', chr 'm'] := by
  cases h with
  | name hkey => exact hkey
  | ival hkey _ => exact hkey
  | str hkey _ => exact hkey

/-- Where a method call follows the handle, the handle is not cut. -/
theorem TargetAt.not_intCut {n k : ℕ} {h : ClassHandle} (ht : TargetAt data n h k)
    (hkey : HasAt data k [chr '#', chr 'm']) : ¬ IntCut data n := by
  cases ht with
  | explicit hval => exact not_intCut_of_hasAt hval
  | default hval => exact not_intCut_of_keyword hkey

/-- **A command on an object is decoded behind the handle it is taken to name.** -/
theorem decodeOnInstance_of_targetAt {n k : ℕ} {h : ClassHandle} (ht : TargetAt data n h k)
    (hcut : ¬ IntCut data n) :
    decodeOnInstance known data n = if known h then decodeOn h data k else .ok .reject := by
  obtain ⟨ok, hi⟩ := parseInt_of_targetAt ht hcut
  rw [decodeOnInstance, hi, ok_bind]
  rfl

theorem decodeOnInstance_of_cut {n : ℕ} (hcut : IntCut data n) :
    decodeOnInstance known data n = .error .outOfRange := by
  rw [decodeOnInstance, parseInt_of_cut hcut, error_bind]

/-- Decoding a command on an object stops at the handle, or in the method call behind it. -/
theorem decodeOnInstance_eq_error_iff (hsize : data.length ≤ maxSize) {n : ℕ} :
    decodeOnInstance known data n = .error e ↔
      FieldFault e .int data n ∨
        ∃ h k, TargetAt data n h k ∧ known h = true ∧
          ∃ t j, MethodDue data k t j ∧ FieldFault e t data j := by
  constructor
  · intro h
    by_cases hcut : IntCut data n
    · rw [decodeOnInstance_of_cut hcut] at h
      cases h
      exact Or.inl hcut
    · obtain ⟨handle, k, ht⟩ := exists_targetAt data n
      rw [decodeOnInstance_of_targetAt ht hcut] at h
      split at h
      next hknown =>
        rw [decodeOn_eq_error_iff, decodeMethod_eq_error_iff hsize] at h
        exact Or.inr ⟨handle, k, ht, hknown, h⟩
      · cases h
  · rintro (hfault | ⟨h, k, ht, hknown, t, j, hm, hfault⟩)
    · rw [decodeOnInstance, parseInt_eq_error_iff.2 hfault, error_bind]
    · rw [decodeOnInstance_of_targetAt ht (ht.not_intCut hm.hasKeyword), if_pos hknown,
        decodeOn_eq_error_iff, decodeMethod_eq_error_iff hsize]
      exact ⟨t, j, hm, hfault⟩

/-- At one index there is at most one keyword. -/
theorem keyword_unique {k : ℕ} {key key' : Byte} (h : HasAt data k [chr '#', key])
    (h' : HasAt data k [chr '#', key']) : key = key' := by
  have heq := h.eq_of_length_eq h' rfl
  simpa using heq

/-- The keyword `#` is not the tag of a handle. -/
theorem not_hasAt_serializeInt_of_keyword {k : ℕ} {key : Byte} (h : HasAt data k [chr '#', key])
    (v : CInt) : ¬ HasAt data k (serializeInt v) := fun hv => by
  have hkey := (hasAt_cons_iff.1 h).1
  rw [(hasAt_cons_iff.1 hv).1, Option.some.injEq] at hkey
  exact absurd hkey (by decide)

/-- A method call is no creation: in front of it stands a handle or nothing. -/
theorem TargetAt.not_create {n k : ℕ} {h : ClassHandle} (ht : TargetAt data n h k)
    (hkey : HasAt data k [chr '#', chr 'm']) : ¬ HasAt data n [chr '#', chr 'c'] := by
  intro hcreate
  cases ht with
  | explicit hval => exact not_hasAt_serializeInt_of_keyword hcreate _ hval
  | default _ => exact absurd (keyword_unique hcreate hkey) (by decide)

/-- A command that starts like a create command is never taken for a method call. -/
theorem CommandDue.create_of_keyword {n : ℕ} {t : FieldKind} {j : ℕ}
    (hkey : HasAt data n [chr '#', chr 'c']) (h : CommandDue known data n t j) :
    CreateDue data n t j := by
  cases h with
  | create h => exact h
  | handle hno => exact absurd hkey hno
  | method ht _ hm => exact absurd hkey (ht.not_create hm.hasKeyword)

theorem CreateDue.hasKeyword {n : ℕ} {t : FieldKind} {j : ℕ} (h : CreateDue data n t j) :
    HasAt data n [chr '#', chr 'c'] := by
  cases h with
  | ival hkey _ => exact hkey
  | str hkey _ _ => exact hkey

/-- A command that looks like a create command but is none is ignored, or rejected when there is
no object under the default handle. -/
theorem decodeOnInstance_of_create {n : ℕ} (hkey : HasAt data n [chr '#', chr 'c']) :
    decodeOnInstance known data n = .ok (if known 0 then .ignore else .reject) := by
  have hm : ¬ HasAt data n [chr '#', chr 'm'] := fun h =>
    absurd (keyword_unique hkey h) (by decide)
  have hg : ¬ HasAt data n [chr '#', chr 'g'] := fun h =>
    absurd (keyword_unique hkey h) (by decide)
  have hon : decodeOn 0 data n = .ok .ignore := by
    rw [decodeOn, decodeMethod_of_not hm]
    simp only [ok_bind, hasKeyword_of_not hg]
    rfl
  rw [decodeOnInstance_of_targetAt (.default (not_hasAt_serializeInt_of_keyword hkey))
    (not_intCut_of_keyword hkey), hon]
  split <;> rfl

/-- Decoding a command stops exactly when a parser that is due does. -/
theorem decodeCommand_eq_error_iff (hsize : data.length ≤ maxSize) {n : ℕ} :
    decodeCommand known data n = .error e ↔
      ∃ t j, CommandDue known data n t j ∧ FieldFault e t data j := by
  rw [decodeCommand]
  by_cases hkey : HasAt data n [chr '#', chr 'c']
  · have hiff : decodeCreate data n = .error e ↔
        ∃ t j, CommandDue known data n t j ∧ FieldFault e t data j := by
      rw [decodeCreate_eq_error_iff hsize]
      constructor
      · rintro ⟨t, j, h, hfault⟩
        exact ⟨t, j, .create h, hfault⟩
      · rintro ⟨t, j, h, hfault⟩
        exact ⟨t, j, h.create_of_keyword hkey, hfault⟩
    rw [← hiff]
    cases decodeCreate data n with
    | error e' => simp only [error_bind, Except.error.injEq]
    | ok o =>
        cases o with
        | some obj => constructor <;> intro h <;> cases h
        | none =>
            simp only [ok_bind, decodeOnInstance_of_create hkey]
            constructor <;> intro h <;> cases h
  · rw [decodeCreate_of_not hkey]
    simp only [ok_bind]
    rw [decodeOnInstance_eq_error_iff hsize]
    constructor
    · rintro (hfault | ⟨h, k, ht, hknown, t, j, hm, hfault⟩)
      · exact ⟨_, _, .handle hkey, hfault⟩
      · exact ⟨t, j, .method ht hknown hm, hfault⟩
    · rintro ⟨t, j, h, hfault⟩
      cases h with
      | create h => exact absurd h.hasKeyword hkey
      | handle _ => exact Or.inl hfault
      | method ht hknown hm => exact Or.inr ⟨_, _, ht, hknown, t, j, hm, hfault⟩

theorem decodeClass_of_className {k : ℕ} (h : HasAt data k createCustomClassRequest) :
    decodeClass known data k = decodeCommand known data (k + 24) := by
  obtain ⟨hsharp, hname⟩ := hasAt_cons_iff.1 h
  have hstr := parseString_of_stringAt (stringAt_of_hasAt (by decide) hname)
  rw [decodeClass, readByte_of_some hsharp]
  simp only [ok_bind, hstr]
  rfl

/-- What starts with another tag is no number and is passed on. -/
theorem decodeBody_of_ne {b : ℕ} {c : Byte} (hc : data[b]? = some c) (hi : c ≠ chr 'i')
    (hd : c ≠ chr 'd') :
    decodeBody known data b = (do
      let (sval, idx) ← parseString data b
      if sval.1 then
        return .value
      decodeClass known data idx) := by
  rw [decodeBody, parseInt_of_ne hc hi]
  simp only [ok_bind, parseDouble_of_ne hc hd]
  rfl

theorem decodeBody_of_hash {b : ℕ} (h : data[b]? = some (chr '#')) :
    decodeBody known data b = decodeClass known data b := by
  rw [decodeBody_of_ne h (by decide) (by decide), parseString_of_ne h (by decide)]
  rfl

/-- **A command is decoded behind the class name.** -/
theorem decodeBody_of_className {b : ℕ} (h : HasAt data b createCustomClassRequest) :
    decodeBody known data b = decodeCommand known data (b + 24) := by
  rw [decodeBody_of_hash (hasAt_cons_iff.1 h).1, decodeClass_of_className h]

/-- The class name is looked for behind `'#'`; what sits there is the start of a command, or the
body is rejected. -/
theorem decodeClass_cases (known : ClassHandle → Bool) (hsize : data.length ≤ maxSize) {b : ℕ}
    (hb : b < data.length) :
    (data[b]? = some (chr '#') ∧ ∃ e, FieldFault e .string data (b + 1) ∧
        decodeClass known data b = .error e) ∨
      HasAt data b createCustomClassRequest ∨ decodeClass known data b = .ok .reject := by
  have hget : data[b]? = some data[b] := List.getElem?_eq_getElem hb
  by_cases hsharp : data[b] = chr '#'
  swap
  · right; right
    rw [decodeClass, readByte_of_some hget]
    exact if_pos hsharp
  rw [hsharp] at hget
  cases hs : parseString data (b + 1) with
  | error e =>
      refine Or.inl ⟨hget, e, (parseString_eq_error_iff hsize).1 hs, ?_⟩
      rw [decodeClass, readByte_of_some hget]
      simp only [ok_bind, hs]
      rfl
  | ok r =>
      right
      rcases (parseString_eq_ok_iff hsize).1 hs with ⟨name, hname, rfl⟩ | ⟨_, _, _, rfl⟩
      · by_cases heq : name = CustomClass.kClassName
        · subst heq
          exact Or.inl (hasAt_cons_iff.2 ⟨hget, hname.2⟩)
        · right
          rw [decodeClass, readByte_of_some hget]
          simp only [ok_bind, hs]
          exact if_pos heq
      · right
        rw [decodeClass, readByte_of_some hget]
        simp only [ok_bind, hs]
        rfl

theorem decodeBody_of_le {b : ℕ} (h : data.length ≤ b) :
    decodeBody known data b = .error .outOfRange := by
  rw [decodeBody, parseInt_of_cut (Or.inl h), error_bind]

/-- Decoding a body stops exactly when a parser that is due does. -/
theorem decodeBody_eq_error_iff (hsize : data.length ≤ maxSize) {b : ℕ} :
    decodeBody known data b = .error e ↔
      ∃ t j, BodyDue known data b t j ∧ FieldFault e t data j := by
  constructor
  · intro h
    rcases bind_eq_error_iff.1 h with hi | ⟨i, hi, h⟩
    · exact ⟨_, _, .int, parseInt_eq_error_iff.1 hi⟩
    rcases parseInt_eq_ok_iff.1 hi with ⟨v, _, rfl⟩ | ⟨hcut, _, rfl⟩
    · cases h
    have hb : b < data.length := Nat.lt_of_not_le fun hle => hcut (Or.inl hle)
    simp only [Bool.false_eq_true, if_false] at h
    rcases bind_eq_error_iff.1 h with hd | ⟨d, hd, h⟩
    · exact ⟨_, _, .double, parseDouble_eq_error_iff.1 hd⟩
    rcases parseDouble_eq_ok_iff.1 hd with ⟨v, _, rfl⟩ | ⟨_, _, rfl⟩
    · cases h
    simp only [Bool.false_eq_true, if_false] at h
    rcases bind_eq_error_iff.1 h with hs | ⟨s, hs, h⟩
    · exact ⟨_, _, .string, (parseString_eq_error_iff hsize).1 hs⟩
    rcases (parseString_eq_ok_iff hsize).1 hs with ⟨v, _, rfl⟩ | ⟨_, _, _, rfl⟩
    · cases h
    simp only [Bool.false_eq_true, if_false] at h
    rcases decodeClass_cases known hsize hb with ⟨hsharp, e', hf, he⟩ | hname | hr
    · rw [he] at h
      cases h
      exact ⟨_, _, .className hsharp, hf⟩
    · rw [decodeClass_of_className hname, decodeCommand_eq_error_iff hsize] at h
      obtain ⟨t, j, hdue, hfault⟩ := h
      exact ⟨t, j, .command hname hdue, hfault⟩
    · rw [hr] at h
      cases h
  · rintro ⟨t, j, hdue, hfault⟩
    cases hdue with
    | int => rw [decodeBody, parseInt_eq_error_iff.2 hfault, error_bind]
    | double =>
        rcases hfault.at_end_or_tag with ⟨rfl, hle⟩ | htag
        · exact decodeBody_of_le hle
        · rw [decodeBody, parseInt_of_ne htag (by decide)]
          simp only [ok_bind, Bool.false_eq_true, if_false, parseDouble_eq_error_iff.2 hfault,
            error_bind]
    | string =>
        rcases hfault.at_end_or_tag with ⟨rfl, hle⟩ | htag
        · exact decodeBody_of_le hle
        · rw [decodeBody_of_ne htag (by decide) (by decide),
            (parseString_eq_error_iff hsize).2 hfault, error_bind]
    | className hkey =>
        rw [decodeBody_of_hash hkey, decodeClass, readByte_of_some hkey]
        simp only [ok_bind, (parseString_eq_error_iff hsize).2 hfault]
        rfl
    | command hname h =>
        rw [decodeBody_of_className hname, decodeCommand_eq_error_iff hsize]
        exact ⟨t, j, h, hfault⟩

/-! ### Requests -/

/-- A body that starts with the keyword `#r` is rejected. -/
theorem decodeBody_of_keyword {b : ℕ} (h : HasAt data b [chr '#', chr 'r']) :
    decodeBody known data b = .ok .reject := by
  obtain ⟨hsharp, hrest⟩ := hasAt_cons_iff.1 h
  rw [decodeBody_of_hash hsharp, decodeClass, readByte_of_some hsharp]
  simp only [ok_bind, parseString_of_ne (hasAt_cons_iff.1 hrest).1 (by decide)]
  rfl

/-- Once the id is read, the action is what the body says. -/
theorem decodeRequest_of_bodyAt {id : RequestId} {b : ℕ} (hb : BodyAt data id b)
    (hcut : HasAt data 0 [chr '#', chr 'r'] → ¬ IntCut data 2) :
    decodeRequest known data = do
      let a ← decodeBody known data b
      return (id, a) := by
  rw [decodeRequest, parseRequestId_of_bodyAt hb hcut, ok_bind]

/-- The id behind the keyword `#r` is not cut when the body is a command. -/
theorem BodyAt.not_intCut {id : RequestId} {b : ℕ} (hb : BodyAt data id b)
    (hbody : ¬ HasAt data b [chr '#', chr 'r']) (hkey : HasAt data 0 [chr '#', chr 'r']) :
    ¬ IntCut data 2 := by
  cases hb with
  | framed h => exact not_intCut_of_hasAt (hasAt_createRequestIdData_iff.1 h).2
  | plain _ => exact absurd hkey hbody

/-- **Decoding a request stops with a fault exactly when some parser that is due somewhere does**:
the vector is cut in front of it, or declares a negative length there. -/
theorem decodeRequest_eq_error_iff (hsize : data.length ≤ maxSize) :
    decodeRequest known data = .error e ↔
      ∃ t j, Due known data t j ∧ FieldFault e t data j := by
  by_cases hcut : HasAt data 0 [chr '#', chr 'r'] ∧ FieldFault e .int data 2
  · refine ⟨fun _ => ⟨_, _, .requestId hcut.1, hcut.2⟩, fun _ => ?_⟩
    rw [decodeRequest, parseRequestId_eq, hasKeyword_of_hasAt hcut.1]
    simp only [ok_bind, if_true, parseInt_eq_error_iff.2 hcut.2, error_bind]
  constructor
  · intro h
    obtain ⟨id, b, hb⟩ := exists_bodyAt data
    by_cases hid : HasAt data 0 [chr '#', chr 'r'] → ¬ IntCut data 2
    · rw [decodeRequest_of_bodyAt hb hid] at h
      rcases bind_eq_error_iff.1 h with hbody | ⟨a, _, h⟩
      · obtain ⟨t, j, hdue, hfault⟩ := (decodeBody_eq_error_iff hsize).1 hbody
        exact ⟨t, j, .body hb hdue, hfault⟩
      · cases h
    · simp only [Classical.not_imp, not_not] at hid
      rw [decodeRequest, parseRequestId_of_cut hid.1 hid.2] at h
      cases h
      exact ⟨_, _, .requestId hid.1, hid.2⟩
  · rintro ⟨t, j, hdue, hfault⟩
    cases hdue with
    | requestId hkey => exact absurd ⟨hkey, hfault⟩ hcut
    | body hb h =>
        have herr := (decodeBody_eq_error_iff hsize).2 ⟨t, j, h, hfault⟩
        rw [decodeRequest_of_bodyAt hb (hb.not_intCut fun hr => ?_), herr, error_bind]
        -- a body with the keyword would be rejected, not stopped
        rw [decodeBody_of_keyword hr] at herr
        cases herr

/-- **A command is decoded where it starts.** -/
theorem decodeRequest_of_commandAt {id : RequestId} {n : ℕ} (h : CommandAt data id n) :
    decodeRequest known data = do
      let a ← decodeCommand known data n
      return (id, a) := by
  obtain ⟨b, hb, hname, rfl⟩ := h
  rw [decodeRequest_of_bodyAt hb, decodeBody_of_className hname]
  refine hb.not_intCut fun hr => ?_
  have hs := (hasAt_cons_iff.1 (hasAt_cons_iff.1 hname).2).1
  have hr := (hasAt_cons_iff.1 (hasAt_cons_iff.1 hr).2).1
  rw [hs, Option.some.injEq] at hr
  exact absurd hr (by decide)

/-- A body that decodes is a plain value, is rejected, or is a command. -/
theorem decodeBody_cases (hsize : data.length ≤ maxSize) {b : ℕ} {a : Action}
    (h : decodeBody known data b = .ok a) :
    a = .value ∨ a = .reject ∨
      (HasAt data b createCustomClassRequest ∧ decodeCommand known data (b + 24) = .ok a) := by
  obtain ⟨i, hi, h⟩ := bind_eq_ok_iff.1 h
  rcases parseInt_eq_ok_iff.1 hi with ⟨v, _, rfl⟩ | ⟨hcut, _, rfl⟩
  · cases h
    exact Or.inl rfl
  have hb : b < data.length := Nat.lt_of_not_le fun hle => hcut (Or.inl hle)
  simp only [Bool.false_eq_true, if_false] at h
  obtain ⟨d, hd, h⟩ := bind_eq_ok_iff.1 h
  rcases parseDouble_eq_ok_iff.1 hd with ⟨v, _, rfl⟩ | ⟨_, _, rfl⟩
  · cases h
    exact Or.inl rfl
  simp only [Bool.false_eq_true, if_false] at h
  obtain ⟨s, hs, h⟩ := bind_eq_ok_iff.1 h
  rcases (parseString_eq_ok_iff hsize).1 hs with ⟨v, _, rfl⟩ | ⟨_, _, _, rfl⟩
  · cases h
    exact Or.inl rfl
  simp only [Bool.false_eq_true, if_false] at h
  rcases decodeClass_cases known hsize hb with ⟨_, e, _, he⟩ | hname | hr
  · rw [he] at h
    cases h
  · rw [decodeClass_of_className hname] at h
    exact Or.inr (Or.inr ⟨hname, h⟩)
  · rw [hr] at h
    cases h
    exact Or.inr (Or.inl rfl)

/-- A request that decodes carries the id that `ParseRequestId` reads; it is a plain value, is
rejected, or is a command. -/
theorem decodeRequest_cases (hsize : data.length ≤ maxSize) {id : RequestId} {a : Action}
    (h : decodeRequest known data = .ok (id, a)) :
    (∃ b, BodyAt data id b ∧ parseRequestId data 0 = .ok (id, b)) ∧
      (a = .value ∨ a = .reject ∨
        ∃ n, CommandAt data id n ∧ decodeCommand known data n = .ok a) := by
  obtain ⟨id', b, hb⟩ := exists_bodyAt data
  by_cases hcut : HasAt data 0 [chr '#', chr 'r'] ∧ IntCut data 2
  · rw [decodeRequest, parseRequestId_of_cut hcut.1 hcut.2] at h
    cases h
  have hid := parseRequestId_of_bodyAt hb (fun hkey hc => hcut ⟨hkey, hc⟩)
  rw [decodeRequest, hid, ok_bind] at h
  obtain ⟨a', hbody, h⟩ := bind_eq_ok_iff.1 h
  cases h
  refine ⟨⟨b, hb, hid⟩, ?_⟩
  rcases decodeBody_cases hsize hbody with hv | hr | ⟨hname, hcmd⟩
  · exact Or.inl hv
  · exact Or.inr (Or.inl hr)
  · exact Or.inr (Or.inr ⟨b + 24, ⟨b, hb, hname, rfl⟩, hcmd⟩)

end Levels

/-! ### What a command is about -/

/-- The instance an action is about. -/
def Action.target : Action → Option ClassHandle
  | .call h _ => some h
  | .noMethod h => some h
  | .get h => some h
  | _ => none

section Target

variable {known : ClassHandle → Bool} {data : RawData} {a : Action} {n k : ℕ} {h : ClassHandle}

/-- What is decoded on an object is about that object, or about none; it is no rejection. -/
theorem decodeOn_cases (ha : decodeOn h data k = .ok a) :
    a ≠ .reject ∧ (a.target = some h ∨ a = .ignore) := by
  obtain ⟨v, _, ha⟩ := bind_eq_ok_iff.1 ha
  cases v with
  | call c =>
      cases ha
      exact ⟨Action.noConfusion, Or.inl rfl⟩
  | noMethod =>
      cases ha
      exact ⟨Action.noConfusion, Or.inl rfl⟩
  | other idx =>
      simp only [hasKeyword_eq, ok_bind] at ha
      split at ha
      · cases ha
        exact ⟨Action.noConfusion, Or.inl rfl⟩
      · cases ha
        exact ⟨Action.noConfusion, Or.inr rfl⟩

/-- A command that does not start like a create command is decoded on the object it is taken to
name, if there is one. -/
theorem decodeCommand_of_targetAt (hkey : ¬ HasAt data n [chr '#', chr 'c'])
    (ht : TargetAt data n h k) (ha : decodeCommand known data n = .ok a) :
    ¬ IntCut data n ∧ if known h then decodeOn h data k = .ok a else a = .reject := by
  rw [decodeCommand, decodeCreate_of_not hkey] at ha
  simp only [ok_bind] at ha
  by_cases hcut : IntCut data n
  · rw [decodeOnInstance_of_cut hcut] at ha
    cases ha
  refine ⟨hcut, ?_⟩
  rw [decodeOnInstance_of_targetAt ht hcut] at ha
  cases hk : known h with
  | true => simpa [hk] using ha
  | false => simpa [hk, eq_comm] using ha

/-- A command that starts like a create command is about no instance. -/
theorem decodeCommand_of_create (hkey : HasAt data n [chr '#', chr 'c'])
    (ha : decodeCommand known data n = .ok a) : a.target = none := by
  obtain ⟨o, _, ha⟩ := bind_eq_ok_iff.1 ha
  cases o with
  | some obj =>
      cases ha
      rfl
  | none =>
      simp only [decodeOnInstance_of_create hkey] at ha
      cases ha
      split <;> rfl

/-- The action of a request that is a command is the action of the command. -/
theorem decodeCommand_of_decodeRequest {id id' : RequestId} (hcmd : CommandAt data id' n)
    (ha : decodeRequest known data = .ok (id, a)) : decodeCommand known data n = .ok a := by
  rw [decodeRequest_of_commandAt hcmd] at ha
  obtain ⟨a', hc, ha⟩ := bind_eq_ok_iff.1 ha
  cases ha
  exact hc

/-- **A command that is about an instance names it**, or falls back on the default handle, and the
instance exists. -/
theorem target_cases (ha : decodeCommand known data n = .ok a) (htarget : a.target = some h) :
    ∃ k, TargetAt data n h k ∧ ¬ IntCut data n ∧ ¬ HasAt data n [chr '#', chr 'c'] ∧
      known h = true := by
  by_cases hkey : HasAt data n [chr '#', chr 'c']
  · rw [decodeCommand_of_create hkey ha] at htarget
    cases htarget
  obtain ⟨h', k, ht⟩ := exists_targetAt data n
  obtain ⟨hcut, hcmd⟩ := decodeCommand_of_targetAt hkey ht ha
  cases hknown : known h' with
  | false =>
      simp only [hknown, Bool.false_eq_true, if_false] at hcmd
      subst hcmd
      cases htarget
  | true =>
      simp only [hknown, if_true] at hcmd
      rcases (decodeOn_cases hcmd).2 with heq | hignore
      · rw [htarget, Option.some.injEq] at heq
        subst heq
        exact ⟨k, ht, hcut, hkey, hknown⟩
      · subst hignore
        cases htarget

/-- What is decoded on an object is a call exactly when a call is decoded behind the handle. -/
theorem decodeOn_eq_call_iff {c : MethodCall} :
    decodeOn h data k = .ok (.call h c) ↔ decodeMethod data k = .ok (.call c) := by
  constructor
  · intro ha
    obtain ⟨v, hv, ha⟩ := bind_eq_ok_iff.1 ha
    cases v with
    | call c' =>
        cases ha
        exact hv
    | noMethod => cases ha
    | other idx =>
        simp only [hasKeyword_eq, ok_bind] at ha
        split at ha <;> cases ha
  · intro hv
    rw [decodeOn, hv]
    rfl

/-- **The request that is about an instance**: where its parts stand, and what is decoded there. -/
theorem request_target_cases (hsize : data.length ≤ maxSize) {id : RequestId}
    (hd : decodeRequest known data = .ok (id, a)) (htarget : a.target = some h) :
    ∃ n k, CommandAt data id n ∧ TargetAt data n h k ∧ ¬ IntCut data n ∧
      ¬ HasAt data n [chr '#', chr 'c'] ∧ known h = true ∧ decodeOn h data k = .ok a := by
  rcases (decodeRequest_cases hsize hd).2 with rfl | rfl | ⟨n, hcmd, hdec⟩
  · cases htarget
  · cases htarget
  · obtain ⟨k, ht, hcut, hkey, hknown⟩ := target_cases hdec htarget
    have hon := (decodeCommand_of_targetAt hkey ht hdec).2
    rw [if_pos hknown] at hon
    exact ⟨n, k, hcmd, ht, hcut, hkey, hknown, hon⟩

/-- **A request asks for a method call exactly when one is decoded behind the handle** of an
instance that exists. -/
theorem decodeRequest_eq_call_iff (hsize : data.length ≤ maxSize) {id : RequestId}
    {c : MethodCall} :
    decodeRequest known data = .ok (id, .call h c) ↔ ∃ n k, CommandAt data id n ∧
      TargetAt data n h k ∧ known h = true ∧ decodeMethod data k = .ok (.call c) := by
  constructor
  · intro hd
    obtain ⟨n, k, hcmd, ht, _, _, hknown, hon⟩ := request_target_cases hsize hd rfl
    exact ⟨n, k, hcmd, ht, hknown, decodeOn_eq_call_iff.1 hon⟩
  · rintro ⟨n, k, hcmd, ht, hknown, hm⟩
    have hkey : HasAt data k [chr '#', chr 'm'] := by
      by_contra hkey
      rw [decodeMethod_of_not hkey] at hm
      cases hm
    rw [decodeRequest_of_commandAt hcmd, decodeCommand, decodeCreate_of_not (ht.not_create hkey)]
    simp only [ok_bind]
    rw [decodeOnInstance_of_targetAt ht (ht.not_intCut hkey), if_pos hknown,
      decodeOn_eq_call_iff.2 hm]
    rfl

/-- **A request asks for a new object exactly when a creation is decoded behind the class name.** -/
theorem decodeRequest_eq_create_iff (hsize : data.length ≤ maxSize) {id : RequestId}
    {obj : CustomClass} :
    decodeRequest known data = .ok (id, .create obj) ↔
      ∃ n, CommandAt data id n ∧ decodeCreate data n = .ok (some obj) := by
  constructor
  · intro hd
    rcases (decodeRequest_cases hsize hd).2 with hv | hr | ⟨n, hcmd, hdec⟩
    · cases hv
    · cases hr
    obtain ⟨o, ho, hdec⟩ := bind_eq_ok_iff.1 hdec
    cases o with
    | some obj' =>
        cases hdec
        exact ⟨n, hcmd, ho⟩
    | none =>
        -- on an object there is nothing to create
        obtain ⟨i, _, hdec⟩ := bind_eq_ok_iff.1 hdec
        cases hk : known i.1.2 with
        | true =>
            simp only [hk, if_true] at hdec
            rcases (decodeOn_cases hdec).2 with htarget | hignore <;> contradiction
        | false =>
            simp only [hk, Bool.false_eq_true, if_false] at hdec
            cases hdec
  · rintro ⟨n, hcmd, ho⟩
    rw [decodeRequest_of_commandAt hcmd, decodeCommand, ho]
    rfl

end Target

/-! ### The strings of a request -/

/-- The string an action would store. -/
def Action.storedString : Action → RawData
  | .create obj => obj.str
  | .call _ (.setStringValue str) => str
  | _ => []

section Strings

variable {known : ClassHandle → Bool} {data : RawData} {a : Action} {n k : ℕ} {h : ClassHandle}

/-- A parsed string ends before the end of the vector. -/
theorem length_le_of_parseString (hsize : data.length ≤ maxSize) {r : (Bool × RawData) × ℕ}
    (hr : parseString data k = .ok r) : k ≤ r.2 ∧ r.1.2.length ≤ data.length - (k + 6) := by
  rcases (parseString_eq_ok_iff hsize).1 hr with ⟨s, hs, rfl⟩ | ⟨_, _, _, rfl⟩
  · have hle := hs.2.length_le (serializeString_ne_nil s)
    rw [length_serializeString] at hle
    refine ⟨?_, ?_⟩ <;> simp only <;> omega
  · exact ⟨Nat.le_refl k, Nat.zero_le _⟩

/-- The string of a new object has the keyword, an `int` and its own length in front of it. -/
theorem length_le_of_decodeCreate (hsize : data.length ≤ maxSize) {obj : CustomClass}
    (hobj : decodeCreate data n = .ok (some obj)) :
    obj.str.length ≤ data.length - (n + 13) := by
  by_cases hkey : HasAt data n [chr '#', chr 'c']
  swap
  · rw [decodeCreate_of_not hkey] at hobj
    cases hobj
  rw [decodeCreate, hasKeyword_of_hasAt hkey] at hobj
  simp only [ok_bind, Bool.not_true, Bool.false_eq_true, if_false] at hobj
  split at hobj
  · cases hobj
    exact Nat.zero_le _
  obtain ⟨i, hi, hobj⟩ := bind_eq_ok_iff.1 hobj
  rcases parseInt_eq_ok_iff.1 hi with ⟨v, _, rfl⟩ | ⟨_, _, rfl⟩
  swap
  · cases hobj
  simp only [Bool.true_eq_false, if_false] at hobj
  split at hobj
  · cases hobj
    exact Nat.zero_le _
  obtain ⟨s, hs, hobj⟩ := bind_eq_ok_iff.1 hobj
  split at hobj
  · cases hobj
  split at hobj
  · cases hobj
    exact (length_le_of_parseString hsize hs).2
  · cases hobj

/-- The argument of a setter has at least the keyword and an empty name in front of it. -/
theorem length_le_of_decodeMethod (hsize : data.length ≤ maxSize) {str : RawData}
    (hm : decodeMethod data k = .ok (.call (.setStringValue str))) :
    str.length ≤ data.length - (k + 8) := by
  by_cases hkey : HasAt data k [chr '#', chr 'm']
  swap
  · rw [decodeMethod_of_not hkey] at hm
    cases hm
  rw [decodeMethod, hasKeyword_of_hasAt hkey] at hm
  simp only [ok_bind, Bool.not_true, Bool.false_eq_true, if_false] at hm
  obtain ⟨s, hs, hm⟩ := bind_eq_ok_iff.1 hm
  have hidx := (length_le_of_parseString hsize hs).1
  split at hm
  · cases hm
  split at hm
  · cases hm
  split at hm
  · cases hm
  split at hm
  · obtain ⟨i, _, hm⟩ := bind_eq_ok_iff.1 hm
    cases hok : i.1.1 <;> rw [hok] at hm <;> cases hm
  split at hm
  · obtain ⟨v, hv, hm⟩ := bind_eq_ok_iff.1 hm
    cases hok : v.1.1 with
    | false =>
        rw [hok] at hm
        cases hm
    | true =>
        rw [hok] at hm
        cases hm
        have hlen := (length_le_of_parseString hsize hv).2
        omega
  · cases hm

theorem length_storedString_of_decodeOn (hsize : data.length ≤ maxSize)
    (ha : decodeOn h data k = .ok a) : a.storedString.length ≤ data.length - (k + 8) := by
  obtain ⟨v, hm, ha⟩ := bind_eq_ok_iff.1 ha
  cases v with
  | call c =>
      cases ha
      cases c with
      | setStringValue str => exact length_le_of_decodeMethod hsize hm
      | _ => exact Nat.zero_le _
  | noMethod =>
      cases ha
      exact Nat.zero_le _
  | other idx =>
      simp only [hasKeyword_eq, ok_bind] at ha
      split at ha <;> cases ha <;> exact Nat.zero_le _

/-- **What a request stores is shorter than what follows its class name.** -/
theorem length_storedString_le (hsize : data.length ≤ maxSize)
    (ha : decodeCommand known data n = .ok a) :
    a.storedString.length ≤ data.length - (n + 8) := by
  obtain ⟨o, hc, ha⟩ := bind_eq_ok_iff.1 ha
  cases o with
  | some obj =>
      cases ha
      have hlen := length_le_of_decodeCreate hsize hc
      rw [Action.storedString]
      omega
  | none =>
      obtain ⟨⟨⟨_, h⟩, k⟩, hi, ha⟩ := bind_eq_ok_iff.1 ha
      have hk : n ≤ k := by
        rcases parseInt_eq_ok_iff.1 hi with ⟨v, _, hr⟩ | ⟨_, _, hr⟩ <;> cases hr <;> omega
      simp only at ha
      split at ha
      · have hlen := length_storedString_of_decodeOn hsize ha
        omega
      · cases ha
        exact Nat.zero_le _

end Strings

end NamedPipeDemo
