/-
**Raw data and `DataSerializer`.**

The two programs exchange `RawDataType`, a `std::vector<char>`.  A value is written as a one-letter
tag followed by its bytes; a string carries its length as a serialized `int`, and an `int` or a
`double` is copied byte for byte, in the (little-endian) byte order of the machine.

Main definitions:

* `NamedPipeDemo.RawData`, `NamedPipeDemo.RawDataType` — bytes, and the byte vectors a program can
  hold;
* `NamedPipeDemo.CInt`, `NamedPipeDemo.CDouble` — the 32 bits of an `int` and the 64 of a `double`;
* `NamedPipeDemo.RawNumber` — a type whose values are copied byte for byte;
* `NamedPipeDemo.serializeBool`, `NamedPipeDemo.serializeInt`, `NamedPipeDemo.serializeDouble`,
  `NamedPipeDemo.serializeString` — the four instances of `DataSerializer::Serialize`.

Main results:

* `NamedPipeDemo.RawNumber.serialize_injective`, `NamedPipeDemo.serializeString_injective` — a
  value is determined by its encoding;
* `NamedPipeDemo.RawNumber.serialize_ofRaw` — a tag and enough bytes are the encoding of a number.
-/

import NamedPipeDemo.Segment
import NamedPipeDemo.LittleEndian

set_option relaxedAutoImplicit false
set_option autoImplicit false

namespace NamedPipeDemo

/-! ### Types -/

/-- A `char`. -/
abbrev Byte := BitVec 8

/-- The bytes of a `std::vector<char>` or of a `std::string`. -/
abbrev RawData := List Byte

/-- `std::vector<char>::max_size()`, which is also `std::string::max_size()`. -/
def maxSize : ℕ := 2 ^ 63 - 1

/-- `RawDataType`: a vector of bytes, which is never longer than `maxSize`. -/
def RawDataType := {data : RawData // data.length ≤ maxSize}

/-- An `int`, as its 32 bits; `BitVec.toInt` is its value. -/
abbrev CInt := BitVec 32

/-- A `double`, as its 64 raw bits. -/
abbrev CDouble := BitVec 64

abbrev ClassHandle := CInt

abbrev RequestId := CInt

/-- `ExecutionPolicy`. -/
inductive ExecutionPolicy
  | sync
  | async
  deriving DecidableEq, Repr

/-- The character constant `c` of the source. -/
def chr (c : Char) : Byte := BitVec.ofNat 8 c.toNat

/-- The string literal `s` of the source. -/
def ascii (s : String) : RawData := s.toList.map chr

/-! ### `DataSerializer::Serialize` -/

/-- `sizeof(bool)` -/
def kBoolSize : ℕ := 1

/-- `sizeof(int)` -/
def kIntSize : ℕ := 4

/-- `sizeof(double)` -/
def kDoubleSize : ℕ := 8

/-- A type whose values are copied byte for byte through a union: its tag, its size, and the two
views of the union, which are inverse to each other. -/
structure RawNumber (α : Type) where
  /-- The type designator. -/
  tag : Byte
  /-- `sizeof` of the type. -/
  size : ℕ
  /-- The value-initialised value. -/
  zero : α
  /-- The bytes of a value. -/
  raw : α → RawData
  /-- The value with these bytes. -/
  ofRaw : RawData → α
  size_pos : 0 < size
  length_raw : ∀ v, (raw v).length = size
  ofRaw_raw : ∀ v, ofRaw (raw v) = v
  raw_ofRaw : ∀ bs, bs.length = size → raw (ofRaw bs) = bs

/-- The tag followed by the raw bytes: the common form of `Serialize<int>` and
`Serialize<double>`. -/
def RawNumber.serialize {α : Type} (c : RawNumber α) (value : α) : RawData :=
  c.tag :: c.raw value

/-- `int`, with the unions `CastIntToRawData` and `CastToInt`. -/
def intNumber : RawNumber CInt where
  tag := chr 'i'
  size := kIntSize
  zero := 0
  raw := LittleEndian.encode 4
  ofRaw := LittleEndian.decode 4
  size_pos := by decide
  length_raw := LittleEndian.length_encode 4
  ofRaw_raw := LittleEndian.decode_encode 4
  raw_ofRaw _ h := LittleEndian.encode_decode h

/-- `double`, with the unions `CastDoubleToRawData` and `CastToDouble`. -/
def doubleNumber : RawNumber CDouble where
  tag := chr 'd'
  size := kDoubleSize
  zero := 0
  raw := LittleEndian.encode 8
  ofRaw := LittleEndian.decode 8
  size_pos := by decide
  length_raw := LittleEndian.length_encode 8
  ofRaw_raw := LittleEndian.decode_encode 8
  raw_ofRaw _ h := LittleEndian.encode_decode h

/-- `DataSerializer::Serialize<bool>` -/
def serializeBool (value : Bool) : RawData := [chr 'b', if value then chr '1' else chr '0']

/-- `DataSerializer::Serialize<int>` -/
def serializeInt (value : CInt) : RawData := intNumber.serialize value

/-- `DataSerializer::Serialize<double>` -/
def serializeDouble (value : CDouble) : RawData := doubleNumber.serialize value

/-- `DataSerializer::Serialize<std::string>`: the size is narrowed to an `int`. -/
def serializeString (value : RawData) : RawData :=
  chr 's' :: (serializeInt (BitVec.ofNat 32 value.length) ++ value)

/-! ### The encodings -/

namespace RawNumber

variable {α : Type} (c : RawNumber α)

theorem serialize_eq (v : α) : c.serialize v = c.tag :: c.raw v := rfl

@[simp] theorem length_serialize (v : α) : (c.serialize v).length = c.size + 1 := by
  rw [serialize_eq, List.length_cons, c.length_raw]

/-- A tag and as many bytes as the type has are the encoding of a value. -/
theorem serialize_ofRaw {bs : RawData} (h : bs.length = c.size) :
    c.serialize (c.ofRaw bs) = c.tag :: bs := by
  rw [serialize_eq, c.raw_ofRaw bs h]

/-- **A value is determined by its encoding.** -/
theorem serialize_injective : Function.Injective c.serialize := by
  intro v w h
  have hraw : c.raw v = c.raw w := (List.cons_inj_right c.tag).1 h
  rw [← c.ofRaw_raw v, hraw, c.ofRaw_raw]

end RawNumber

@[simp] theorem length_serializeBool (v : Bool) : (serializeBool v).length = 2 := rfl

@[simp] theorem length_serializeInt (v : CInt) : (serializeInt v).length = 5 :=
  intNumber.length_serialize v

@[simp] theorem length_serializeDouble (v : CDouble) : (serializeDouble v).length = 9 :=
  doubleNumber.length_serialize v

@[simp] theorem length_serializeString (s : RawData) :
    (serializeString s).length = s.length + 6 := by
  simp [serializeString]
  omega

theorem serializeInt_injective : Function.Injective serializeInt :=
  intNumber.serialize_injective

theorem serializeInt_ne_nil (v : CInt) : serializeInt v ≠ [] := List.cons_ne_nil _ _

theorem serializeString_ne_nil (s : RawData) : serializeString s ≠ [] := List.cons_ne_nil _ _

/-- **A string is determined by its encoding.** -/
theorem serializeString_injective : Function.Injective serializeString := by
  intro s t h
  have hlen : s.length = t.length := by
    have := congrArg List.length h
    simpa using this
  have htail := (List.cons_inj_right (chr 's')).1 h
  rw [hlen] at htail
  exact List.append_cancel_left htail

end NamedPipeDemo
