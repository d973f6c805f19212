/-
**`CustomClass` and `ClassRegistry`.**

`CustomClass` is the object the server keeps for its clients: an `int` and a string, with two
setters that report whether they changed anything, a printed form and a serialized form.
`ClassRegistry` numbers the objects from zero and never forgets one.

The printed form starts with the address of the object.  An address is not a function of the
program state, so the text printed for the object under each handle is a parameter,
`NamedPipeDemo.AddressText`; all that is known about it is that it is short.

Main definitions:

* `NamedPipeDemo.CustomClass`, `NamedPipeDemo.CustomClass.setIntegerValue`,
  `NamedPipeDemo.CustomClass.setStringValue`, `NamedPipeDemo.CustomClass.printToString`,
  `NamedPipeDemo.CustomClass.serialize`, `NamedPipeDemo.CustomClass.deserialize`;
* `NamedPipeDemo.ClassRegistry`, `NamedPipeDemo.ClassRegistry.create`,
  `NamedPipeDemo.ClassRegistry.assign`;
* `NamedPipeDemo.ClassRegistry.Numbered` — the handles are exactly `0, …, handleCounter - 1`.

Main results:

* `NamedPipeDemo.CustomClass.deserialize_serialize` — an object is read back from its serialized
  form;
* `NamedPipeDemo.ClassRegistry.Numbered.lookup_create` — **a created object gets a fresh handle**;
* `NamedPipeDemo.ClassRegistry.Numbered.create`, `NamedPipeDemo.ClassRegistry.Numbered.assign` —
  both operations keep the numbering.
-/

import NamedPipeDemo.DataDeserializer
import Mathlib.Data.Finmap
import Mathlib.Data.Nat.Digits.Defs

set_option relaxedAutoImplicit false
set_option autoImplicit false

namespace NamedPipeDemo

open Segment

/-! ### `CustomClass` -/

/-- `CustomClass` -/
structure CustomClass where
  ival : CInt := 0
  str : RawData := []
  deriving DecidableEq, Repr

/-- The text that `<<` prints for the address of the object under each handle. -/
structure AddressText where
  text : ClassHandle → RawData
  length_le : ∀ h, (text h).length ≤ 18

/-- An address that prints as nothing. -/
instance : Inhabited AddressText := ⟨⟨fun _ => [], fun _ => Nat.zero_le _⟩⟩

/-- The decimal digits that `<<` prints for an `int`. -/
def decimal (v : CInt) : RawData :=
  (if v.toInt < 0 then [chr '-'] else []) ++ (Nat.toDigits 10 v.toInt.natAbs).map chr

namespace CustomClass

/-- `typeid(CustomClass).name()` -/
def kClassName : RawData := ascii "class CustomClass"

/-- `CustomClass::PrintToString`, for an object printed at the address `this`. -/
def printToString (c : CustomClass) (this : RawData) : RawData :=
  ascii "CustomClass::this=" ++ this ++ ascii "\n" ++
    (ascii "CustomClass::ival_=" ++ decimal c.ival ++ ascii "\n") ++
    (ascii "CustomClass::str_=" ++ c.str)

/-- `CustomClass::SetIntegerValue` -/
def setIntegerValue (c : CustomClass) (ival : CInt) : Bool × CustomClass :=
  if ival = c.ival then (false, c) else (true, { c with ival := ival })

/-- `CustomClass::SetStringValue` -/
def setStringValue (c : CustomClass) (str : RawData) : Bool × CustomClass :=
  if str = c.str then (false, c) else (true, { c with str := str })

/-- `CustomClass::Serialize` -/
def serialize (c : CustomClass) : RawData := serializeInt c.ival ++ serializeString c.str

/-- `CustomClass::Deserialize` -/
def deserialize (serialized : RawData) : Except Fault CustomClass := do
  let (i, seekIndex) ← parseInt serialized 0
  if i.1 = false then
    return {}
  let (s, _) ← parseString serialized seekIndex
  if s.1 = false then
    return {}
  return { ival := i.2, str := s.2 }

@[simp] theorem setIntegerValue_snd (c : CustomClass) (ival : CInt) :
    (c.setIntegerValue ival).2 = { c with ival := ival } := by
  rw [setIntegerValue]
  split
  · next h => rw [h]
  · rfl

@[simp] theorem setIntegerValue_fst (c : CustomClass) (ival : CInt) :
    (c.setIntegerValue ival).1 = decide (ival ≠ c.ival) := by
  rw [setIntegerValue]
  split <;> simp_all

@[simp] theorem setStringValue_snd (c : CustomClass) (str : RawData) :
    (c.setStringValue str).2 = { c with str := str } := by
  rw [setStringValue]
  split
  · next h => rw [h]
  · rfl

@[simp] theorem setStringValue_fst (c : CustomClass) (str : RawData) :
    (c.setStringValue str).1 = decide (str ≠ c.str) := by
  rw [setStringValue]
  split <;> simp_all

@[simp] theorem length_serialize (c : CustomClass) : c.serialize.length = c.str.length + 11 := by
  simp [serialize]
  omega

/-- **An object is read back from its serialized form.** -/
theorem deserialize_serialize {c : CustomClass} (h : c.str.length < 2 ^ 31) :
    deserialize c.serialize = .ok c := by
  have hat : HasAt c.serialize 0 (serializeInt c.ival ++ serializeString c.str) := hasAt_self _
  obtain ⟨hint, hstr⟩ := hasAt_append_iff.1 hat
  rw [length_serializeInt] at hstr
  simp only [deserialize, parseInt_of_hasAt hint, ok_bind, Bool.true_eq_false, if_false,
    parseString_of_stringAt ⟨h, hstr⟩]
  rfl

/-- An `int` is printed with at most eleven characters. -/
theorem length_decimal_le (v : CInt) : (decimal v).length ≤ 11 := by
  have hneg := neg_toInt_le v
  have hpos := toInt_lt_two_pow v
  have hdigits : (Nat.toDigits 10 v.toInt.natAbs).length ≤ 10 :=
    Nat.toDigits_length 10 _ 10 (by decide) (by omega)
  rw [decimal, List.length_append, List.length_map]
  split <;> simp <;> omega

/-- The printed form holds the address, the number, the string and three labels. -/
theorem length_printToString (c : CustomClass) (this : RawData) :
    (c.printToString this).length = this.length + (decimal c.ival).length + c.str.length + 57 := by
  have h₁ : (ascii "CustomClass::this=").length = 18 := rfl
  have h₂ : (ascii "CustomClass::ival_=").length = 19 := rfl
  have h₃ : (ascii "CustomClass::str_=").length = 18 := rfl
  have h₄ : (ascii "\n").length = 1 := rfl
  simp only [printToString, List.length_append, h₁, h₂, h₃, h₄]
  omega

/-- The printed form is at most 86 characters longer than the string it prints. -/
theorem length_printToString_le (c : CustomClass) {this : RawData} (h : this.length ≤ 18) :
    (c.printToString this).length ≤ c.str.length + 86 := by
  have hdec := length_decimal_le c.ival
  rw [length_printToString]
  omega

end CustomClass

/-! ### `ClassRegistry` -/

/-- `ClassRegistry<Type>`.  The counter is a static `int` that starts at zero; it is kept as a
number, and the `int` of the source is its value modulo `2 ^ 32`. -/
structure ClassRegistry (α : Type) where
  handleCounter : ℕ := 0
  instances : Finmap (fun _ : ClassHandle => α) := ∅

namespace ClassRegistry

variable {α : Type}

/-- The handle that the next `Create` returns. -/
def nextHandle (r : ClassRegistry α) : ClassHandle := BitVec.ofNat 32 r.handleCounter

/-- `ClassRegistry::Create`: `insert` keeps an entry that is already there. -/
def create (r : ClassRegistry α) (instance_ : α) : ClassHandle × ClassRegistry α :=
  (r.nextHandle,
    { handleCounter := r.handleCounter + 1
      instances :=
        if r.nextHandle ∈ r.instances then r.instances
        else r.instances.insert r.nextHandle instance_ })

/-- `ClassRegistry::GetClassObjectByHandle`: the pointer it returns is the key of the object, or
null. -/
def getClassObjectByHandle (r : ClassRegistry α) (handle : ClassHandle) : Option ClassHandle :=
  if handle ∈ r.instances then some handle else none

/-- A write through a pointer to the object under `handle`. -/
def assign (r : ClassRegistry α) (handle : ClassHandle) (obj : α) : ClassRegistry α :=
  { r with instances := r.instances.insert handle obj }

@[simp] theorem handleCounter_create (r : ClassRegistry α) (obj : α) :
    (r.create obj).2.handleCounter = r.handleCounter + 1 := rfl

@[simp] theorem lookup_assign_self (r : ClassRegistry α) (h : ClassHandle) (obj : α) :
    (r.assign h obj).instances.lookup h = some obj :=
  Finmap.lookup_insert r.instances

theorem lookup_assign_of_ne (r : ClassRegistry α) {h h' : ClassHandle} (obj : α) (hne : h' ≠ h) :
    (r.assign h obj).instances.lookup h' = r.instances.lookup h' :=
  Finmap.lookup_insert_of_ne r.instances hne

theorem mem_assign {r : ClassRegistry α} {h h' : ClassHandle} {obj : α} :
    h' ∈ (r.assign h obj).instances ↔ h' = h ∨ h' ∈ r.instances :=
  Finmap.mem_insert

/-- Writes to different objects commute. -/
theorem assign_assign_comm (r : ClassRegistry α) {h h' : ClassHandle} (hne : h ≠ h')
    (obj obj' : α) : (r.assign h obj).assign h' obj' = (r.assign h' obj').assign h obj := by
  have hinst : (r.instances.insert h obj).insert h' obj' =
      (r.instances.insert h' obj').insert h obj :=
    Finmap.insert_insert_of_ne r.instances hne
  simp only [assign, hinst]

/-- A write to an object that is there commutes with the creation of another. -/
theorem create_assign_comm {r : ClassRegistry α} {h : ClassHandle}
    (hfresh : r.nextHandle ∉ r.instances) (hne : h ≠ r.nextHandle) (obj obj' : α) :
    ((r.assign h obj).create obj').2 = (r.create obj').2.assign h obj := by
  have hfresh' : r.nextHandle ∉ (r.assign h obj).instances := fun hmem =>
    (mem_assign.1 hmem).elim (fun heq => hne heq.symm) hfresh
  have hinst : (r.instances.insert h obj).insert r.nextHandle obj' =
      (r.instances.insert r.nextHandle obj').insert h obj :=
    Finmap.insert_insert_of_ne r.instances hne
  simp only [create, if_neg hfresh]
  rw [show (r.assign h obj).nextHandle = r.nextHandle from rfl, if_neg hfresh']
  simp only [assign, hinst]

/-- Writing back the object that is there changes nothing. -/
theorem assign_self {r : ClassRegistry α} {h : ClassHandle} {obj : α}
    (hobj : r.instances.lookup h = some obj) : r.assign h obj = r := by
  have hinst : r.instances.insert h obj = r.instances := by
    refine Finmap.ext_lookup fun x => ?_
    by_cases hx : x = h
    · rw [hx, Finmap.lookup_insert, hobj]
    · rw [Finmap.lookup_insert_of_ne r.instances hx]
  rw [assign, hinst]

/-- The handles are exactly `0, …, handleCounter - 1`. -/
def Numbered (r : ClassRegistry α) : Prop :=
  ∀ h : ClassHandle, h ∈ r.instances ↔ h.toNat < r.handleCounter

theorem numbered_empty : Numbered ({} : ClassRegistry α) := by
  intro h
  simp only [Nat.not_lt_zero, iff_false]
  exact Finmap.notMem_empty

theorem toNat_nextHandle {r : ClassRegistry α} (h : r.handleCounter < 2 ^ 31) :
    r.nextHandle.toNat = r.handleCounter := by
  rw [nextHandle, BitVec.toNat_ofNat]
  omega

namespace Numbered

variable {r : ClassRegistry α}

/-- The next handle is fresh. -/
theorem nextHandle_notMem (hr : r.Numbered) (hlt : r.handleCounter < 2 ^ 31) :
    r.nextHandle ∉ r.instances := by
  rw [hr, toNat_nextHandle hlt]
  exact Nat.lt_irrefl _

/-- **A created object gets a fresh handle, and the others keep theirs.** -/
theorem lookup_create (hr : r.Numbered) (hlt : r.handleCounter < 2 ^ 31) (obj : α)
    (h : ClassHandle) :
    (r.create obj).2.instances.lookup h =
      if h = r.nextHandle then some obj else r.instances.lookup h := by
  simp only [ClassRegistry.create, if_neg (hr.nextHandle_notMem hlt)]
  split
  · next heq => rw [heq, Finmap.lookup_insert]
  · next hne => rw [Finmap.lookup_insert_of_ne _ hne]

/-- `Create` keeps the numbering. -/
theorem create (hr : r.Numbered) (hlt : r.handleCounter < 2 ^ 31) (obj : α) :
    (r.create obj).2.Numbered := by
  intro h
  have hnext := toNat_nextHandle hlt
  rw [← Finmap.lookup_isSome, hr.lookup_create hlt, handleCounter_create]
  split
  · next heq => simp [heq, hnext]
  · next hne =>
      have hval : h.toNat ≠ r.handleCounter := fun heq =>
        hne (BitVec.eq_of_toNat_eq (heq.trans hnext.symm))
      rw [Finmap.lookup_isSome, hr]
      omega

/-- A write through a pointer keeps the numbering. -/
theorem assign (hr : r.Numbered) {h : ClassHandle} (hmem : h ∈ r.instances) (obj : α) :
    (r.assign h obj).Numbered := by
  intro h'
  rw [mem_assign]
  constructor
  · rintro (rfl | h'mem)
    · exact (hr h').1 hmem
    · exact (hr h').1 h'mem
  · exact fun hlt => Or.inr ((hr h').2 hlt)

end Numbered

end ClassRegistry

end NamedPipeDemo
