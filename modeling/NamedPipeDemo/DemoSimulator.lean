/-
**`DemoSimulator`: how the client writes its requests.**

The demo client asks for one of eleven things at a time.  This module holds the encoders that write
the requests, the callbacks that read the answers, and `ReadRequest`, which chooses.  What the
source takes from `rand()` and from the keyboard is an argument here.

Main definitions:

* `NamedPipeDemo.createCallMethodRequest`, `NamedPipeDemo.createRetrieveInstanceRequest` — the
  encoders; `NamedPipeDemo.createCustomClassRequest` stands with the grammar of requests;
* `NamedPipeDemo.DemoCallback`, `NamedPipeDemo.DemoCallback.run` — the success callbacks, and what
  they do;
* `NamedPipeDemo.DemoSimulator.readRequest` — `DemoSimulator::ReadRequest`.

Main results:

* `NamedPipeDemo.DemoCallback.run_eq`, `NamedPipeDemo.DemoCallback.returns_eq_false_iff` — what a
  callback that returns does, and **when a callback stops with a fault**;
* `NamedPipeDemo.decodeRequest_frame` — a framed command is decoded behind the class name;
* `NamedPipeDemo.decodeCommand_create`, `NamedPipeDemo.decodeCommand_call`,
  `NamedPipeDemo.decodeCommand_get` — **the server decodes what the client encodes**.
-/

import NamedPipeDemo.ResponseParser

set_option relaxedAutoImplicit false
set_option autoImplicit false

namespace NamedPipeDemo

open Segment

/-! ### Encoders -/

/-- `DemoSimulator::SerializeArguments` -/
def serializeArguments : List AnyValue → RawData
  | [] => []
  | arg :: args => arg.serialize ++ serializeArguments args

@[simp] theorem serializeArguments_int (ival : CInt) :
    serializeArguments [.int ival] = serializeInt ival := List.append_nil _

@[simp] theorem serializeArguments_string (str : RawData) :
    serializeArguments [.string str] = serializeString str := List.append_nil _

@[simp] theorem serializeArguments_int_string (ival : CInt) (str : RawData) :
    serializeArguments [.int ival, .string str] = serializeInt ival ++ serializeString str :=
  congrArg (serializeInt ival ++ ·) (List.append_nil _)

/-- A create request: the class name, `#c`, and the arguments of the constructor. -/
def createObjectRequest (args : List AnyValue) : RawData :=
  createCustomClassRequest ++ (ascii "#c" ++ serializeArguments args)

/-- `DemoSimulator::CreateCallMethodRequest` -/
def createCallMethodRequest (instance_ : ClassHandle) (methodName : RawData)
    (args : List AnyValue) : RawData :=
  createCustomClassRequest ++ (serializeInt instance_ ++ (ascii "#m" ++
    (serializeString methodName ++ serializeArguments args)))

/-- `DemoSimulator::CreateRetrieveInstanceRequest` -/
def createRetrieveInstanceRequest (instance_ : ClassHandle) : RawData :=
  createCustomClassRequest ++ (serializeInt instance_ ++ ascii "#g")

/-! ### Callbacks -/

/-- The success callbacks of `ReadRequest`, with what they capture. -/
inductive DemoCallback
  | onCustomClassCreation
  | onPrintToString (handle : ClassHandle)
  | onSetIntegerValue (handle : ClassHandle) (val : CInt)
  | onSetStringValue (handle : ClassHandle) (str : RawData)
  | onRetrieveInstance (handle : ClassHandle)
  deriving DecidableEq, Repr

namespace DemoCallback

/-- The `any_cast` of the callback succeeds on this value. -/
def Casts : DemoCallback → AnyValue → Prop
  | onCustomClassCreation, .int _ => True
  | onPrintToString _, .string _ => True
  | onSetIntegerValue _ _, .bool _ => True
  | onSetStringValue _ _, .bool _ => True
  | onRetrieveInstance _, .string _ => True
  | _, _ => False

/-- A success callback is called on a value: what it does to the repository, or the fault that
leaves it.  Only the first one registers a handle. -/
def run : DemoCallback → AnyValue → ClassRepository → Except Fault ClassRepository
  | onCustomClassCreation, .int handle, repository => return repository.registerClassHandle handle
  | onRetrieveInstance _, .string data, repository => do
      -- the object is only printed, but a fault of `Deserialize` is not caught
      let _ ← CustomClass.deserialize data
      return repository
  -- a value of another type is logged: `std::bad_any_cast` is caught
  | _, _, repository => return repository

/-- The repository behind a callback; one that stops with a fault has not touched it. -/
def onSuccess (callback : DemoCallback) (v : AnyValue) (repository : ClassRepository) :
    ClassRepository :=
  match callback.run v repository with
  | .ok repository' => repository'
  | .error _ => repository

/-- The callback returns on this value, whatever the repository is. -/
def returns (callback : DemoCallback) (v : AnyValue) : Bool := (callback.run v []).isOk

section Run

variable {callback : DemoCallback} {v : AnyValue} {repository : ClassRepository}

/-- Only the callback that retrieves an object can stop with a fault, and whether it does so has
nothing to do with the repository. -/
theorem run_cases (callback : DemoCallback) (v : AnyValue) :
    (∃ f : ClassRepository → ClassRepository,
        ∀ repository, callback.run v repository = .ok (f repository)) ∨
      ∃ handle data e, callback = onRetrieveInstance handle ∧ v = .string data ∧
        CustomClass.deserialize data = .error e ∧
          ∀ repository, callback.run v repository = .error e := by
  cases callback with
  | onRetrieveInstance handle =>
      cases v with
      | string data =>
          cases hd : CustomClass.deserialize data with
          | ok obj => exact Or.inl ⟨id, fun repository => by rw [run, hd]; rfl⟩
          | error e =>
              exact Or.inr ⟨handle, data, e, rfl, rfl, hd, fun repository => by rw [run, hd]; rfl⟩
      | _ => exact Or.inl ⟨id, fun _ => rfl⟩
  | onCustomClassCreation =>
      cases v with
      | int handle =>
          exact Or.inl ⟨fun repository => repository.registerClassHandle handle, fun _ => rfl⟩
      | _ => exact Or.inl ⟨id, fun _ => rfl⟩
  | _ => exact Or.inl ⟨id, fun _ => rfl⟩

/-- **A callback that returns** does to the repository what `onSuccess` says. -/
theorem run_eq (h : callback.returns v = true) (repository : ClassRepository) :
    callback.run v repository = .ok (callback.onSuccess v repository) := by
  rcases run_cases callback v with ⟨f, hf⟩ | ⟨_, _, e, _, _, _, hf⟩
  · rw [onSuccess, hf]
  · rw [returns, hf] at h
    cases h

/-- **A callback stops with a fault exactly when `CustomClass::Deserialize` does** on the string it
is called on. -/
theorem returns_eq_false_iff : callback.returns v = false ↔
    ∃ handle data e, callback = onRetrieveInstance handle ∧ v = .string data ∧
      CustomClass.deserialize data = .error e := by
  rcases run_cases callback v with ⟨f, hf⟩ | ⟨handle, data, e, hcallback, hv, hd, hf⟩
  · refine iff_of_false (by rw [returns, hf]; exact Bool.noConfusion) ?_
    rintro ⟨handle, data, e, rfl, rfl, hd⟩
    have hrun := hf []
    rw [run, hd] at hrun
    cases hrun
  · refine iff_of_true (by rw [returns, hf]; rfl) ⟨handle, data, e, hcallback, hv, hd⟩

/-- The string of the second field has the length `-1`, for which the constructor of `std::string`
throws. -/
example : (onRetrieveInstance 0).returns
    (.string (serializeInt 0 ++ (chr 's' :: serializeInt (-1)))) = false := by decide

/-- The other callbacks always return. -/
theorem returns_of_ne (h : ∀ handle, callback ≠ onRetrieveInstance handle) :
    callback.returns v = true := by
  rw [← Bool.not_eq_false, returns_eq_false_iff]
  rintro ⟨handle, _, _, rfl, -⟩
  exact h handle rfl

/-- **Every callback returns on a serialized object**, whose string is not too long. -/
theorem returns_serialize {obj : CustomClass} (h : obj.str.length < 2 ^ 31) :
    callback.returns (.string obj.serialize) = true := by
  rw [← Bool.not_eq_false, returns_eq_false_iff]
  rintro ⟨_, data, e, -, hdata, hd⟩
  cases hdata
  rw [CustomClass.deserialize_serialize h] at hd
  cases hd

/-- The handle that a callback registers. -/
def registers : DemoCallback → AnyValue → Option ClassHandle
  | onCustomClassCreation, .int handle => some handle
  | _, _ => none

/-- A callback registers its handle, if it has one, and does nothing else to the repository. -/
theorem onSuccess_eq (callback : DemoCallback) (value : AnyValue) (repository : ClassRepository) :
    callback.onSuccess value repository =
      match callback.registers value with
      | some handle => repository.registerClassHandle handle
      | none => repository := by
  cases callback with
  | onRetrieveInstance handle =>
      cases value with
      | string data =>
          rw [onSuccess, run]
          cases CustomClass.deserialize data <;> rfl
      | _ => rfl
  | onCustomClassCreation => cases value <;> rfl
  | _ => rfl

/-- Only the first callback registers, and only an `int`. -/
theorem registers_eq_some {handle : ClassHandle} (h : callback.registers v = some handle) :
    callback = onCustomClassCreation ∧ v = .int handle := by
  cases callback with
  | onCustomClassCreation =>
      cases v <;> cases h
      exact ⟨rfl, rfl⟩
  | _ => cases h

end Run

end DemoCallback

/-! ### `DemoSimulator` -/

/-- `SimulationMode` -/
inductive SimulationMode
  | stepByStep
  | random
  | manual
  deriving DecidableEq, Repr

/-- `DemoSimulator` -/
structure DemoSimulator where
  mode : SimulationMode
  iterations : ℕ
  currIteration : ℕ := 0

/-- What one call of `ReadRequest` takes from outside: the two calls of `rand()`, and the number
read from the keyboard, if it is one. -/
structure DemoInput where
  randIndex : ℕ := 0
  randHandle : ℕ := 0
  typed : Option ℤ := none

def kTotalDemos : ℕ := 11

def kInvalidClassHandle : ClassHandle := -1

namespace DemoSimulator

/-- `DemoSimulator::GetDemoIndex` -/
def getDemoIndex (sim : DemoSimulator) (input : DemoInput) : ℤ :=
  match sim.mode with
  | .stepByStep => (sim.currIteration % kTotalDemos : ℕ)
  | .random => (input.randIndex % kTotalDemos : ℕ)
  | .manual =>
      match input.typed with
      | some val => if val < 0 ∨ kTotalDemos ≤ val then -1 else val
      | none => -1

/-- `DemoSimulator::GetClassHandleAtRandom` -/
def getClassHandleAtRandom (rand : ℕ) (repository : ClassRepository) : ClassHandle :=
  if repository.length = 0 then -1
  else (repository[rand % repository.length]?).getD (-1)

/-- `DemoSimulator::IsGood` -/
def isGood (sim : DemoSimulator) : Bool := decide (sim.currIteration < sim.iterations)

/-- The request of a demo that needs no handle, and of an index without a demo. -/
def plainDemo (demoIndex : ℤ) : ClientRequest DemoCallback :=
  match demoIndex with
  | 0 => { data := serializeInt 42 }
  | 1 => { data := serializeDouble 0xc0ac94506a2b1705#64 }
  | 2 => { data := serializeString (ascii "loli PoPq !@??zz z '\\ ~") }
  | 3 => { data := createObjectRequest []
           waitForResponse := true
           successCallback := some .onCustomClassCreation }
  | 4 => { data := createObjectRequest [.int 52]
           waitForResponse := true
           successCallback := some .onCustomClassCreation }
  | 5 => { data := createObjectRequest [.int 52, .string (ascii "Hello World")]
           waitForResponse := true
           successCallback := some .onCustomClassCreation }
  | _ => {}

/-- The request of a demo on the object under `handle`. -/
def handleDemo (demoIndex : ℤ) (handle : ClassHandle) : Option (ClientRequest DemoCallback) :=
  match demoIndex with
  | 6 => some { data := createCallMethodRequest handle (ascii "PrintToCout") [] }
  | 7 => some { data := createCallMethodRequest handle (ascii "PrintToString") []
                waitForResponse := true
                successCallback := some (.onPrintToString handle) }
  | 8 => some { data := createCallMethodRequest handle (ascii "SetIntegerValue") [.int 750]
                waitForResponse := true
                successCallback := some (.onSetIntegerValue handle 750) }
  | 9 => some { data := createCallMethodRequest handle (ascii "SetStringValue")
                  [.string (ascii "Hello World From Client")]
                waitForResponse := true
                successCallback :=
                  some (.onSetStringValue handle (ascii "Hello World From Client")) }
  | 10 => some { data := createRetrieveInstanceRequest handle
                 waitForResponse := true
                 successCallback := some (.onRetrieveInstance handle) }
  | _ => none

/-- `DemoSimulator::ReadRequest`: without a handle, a demo that needs one returns an empty request
and the iteration is not counted. -/
def readRequest (sim : DemoSimulator) (input : DemoInput) (repository : ClassRepository) :
    ClientRequest DemoCallback × DemoSimulator :=
  let demoIndex := sim.getDemoIndex input
  let handle := getClassHandleAtRandom input.randHandle repository
  match handleDemo demoIndex handle with
  | some request =>
      if handle = kInvalidClassHandle then ({}, sim)
      else (request, { sim with currIteration := sim.currIteration + 1 })
  | none => (plainDemo demoIndex, { sim with currIteration := sim.currIteration + 1 })

end DemoSimulator

/-! ### The server decodes what the client encodes -/

/-- The bytes `Client::Start` sends: the frame, and the data of the request. -/
def frameRequest (id : RequestId) (data : RawData) : RawData := createRequestIdData id ++ data

@[simp] theorem length_frameRequest (id : RequestId) (data : RawData) :
    (frameRequest id data).length = data.length + 7 := by
  rw [frameRequest, List.length_append, length_createRequestIdData, Nat.add_comm]

section Decode

variable {known : ClassHandle → Bool} {id : RequestId} {data rest : RawData} {k : ℕ}

theorem hasAt_frameRequest (id : RequestId) (data : RawData) :
    HasAt (frameRequest id data) 0 (createRequestIdData id) ∧
      HasAt (frameRequest id data) 7 data := by
  have hat := hasAt_append_iff.1 (hasAt_self (createRequestIdData id ++ data))
  rw [length_createRequestIdData] at hat
  exact hat

/-- The id of a framed request is the id of the frame. -/
theorem id_of_decodeRequest_frame {id' : RequestId} {a : Action}
    (hsize : (frameRequest id data).length ≤ maxSize)
    (h : decodeRequest known (frameRequest id data) = .ok (id', a)) : id' = id := by
  obtain ⟨⟨b, hb, _⟩, _⟩ := decodeRequest_cases hsize h
  exact (hb.unique (.framed (hasAt_frameRequest id data).1)).1

/-- What follows the class name in a framed command sits at 31. -/
theorem commandAt_frame (id : RequestId) (rest : RawData) :
    CommandAt (frameRequest id (createCustomClassRequest ++ rest)) id 31 ∧
      HasAt (frameRequest id (createCustomClassRequest ++ rest)) 31 rest := by
  obtain ⟨hframe, hbody⟩ := hasAt_frameRequest id (createCustomClassRequest ++ rest)
  obtain ⟨hname, hrest⟩ := hasAt_append_iff.1 hbody
  exact ⟨⟨7, .framed hframe, hname, rfl⟩, hrest⟩

/-- **A framed command is decoded behind the class name.** -/
theorem decodeRequest_frame (known : ClassHandle → Bool) (id : RequestId) (rest : RawData) :
    decodeRequest known (frameRequest id (createCustomClassRequest ++ rest)) = do
      let a ← decodeCommand known (frameRequest id (createCustomClassRequest ++ rest)) 31
      return (id, a) :=
  decodeRequest_of_commandAt (commandAt_frame id rest).1

/-- A default create command. -/
theorem decodeCreate_nil (h : HasAt data k (ascii "#c"))
    (hend : data.length = k + 2) : decodeCreate data k = .ok (some {}) := by
  have hkey : HasAt data k [chr '#', chr 'c'] := h
  rw [decodeCreate, hasKeyword_of_hasAt hkey]
  simp only [ok_bind, Bool.not_true, Bool.false_eq_true, if_false, hend, if_true]
  rfl

/-- A create command with one argument. -/
theorem decodeCreate_int {ival : CInt} (h : HasAt data k (ascii "#c" ++ serializeInt ival))
    (hend : data.length = k + 7) : decodeCreate data k = .ok (some { ival := ival }) := by
  obtain ⟨h₀, hval⟩ := hasAt_append_iff.1 h
  have hkey : HasAt data k [chr '#', chr 'c'] := h₀
  have hmore : data.length ≠ k + 2 := by omega
  have hint : parseInt data (k + 2) = .ok ((true, ival), k + 2 + 5) := parseInt_of_hasAt hval
  rw [decodeCreate, hasKeyword_of_hasAt hkey]
  simp only [ok_bind, Bool.not_true, Bool.false_eq_true, if_false, hmore, hint,
    Bool.true_eq_false]
  rw [if_pos (by omega)]
  rfl

/-- A create command with two arguments. -/
theorem decodeCreate_int_string {ival : CInt} {str : RawData} (hstr : str.length < 2 ^ 31)
    (h : HasAt data k (ascii "#c" ++ (serializeInt ival ++ serializeString str)))
    (hend : data.length = k + 13 + str.length) :
    decodeCreate data k = .ok (some { ival := ival, str := str }) := by
  obtain ⟨h₀, hrest⟩ := hasAt_append_iff.1 h
  obtain ⟨hval, hs⟩ := hasAt_append_iff.1 hrest
  have hkey : HasAt data k [chr '#', chr 'c'] := h₀
  have hmore : data.length ≠ k + 2 := by omega
  have hmore' : data.length ≠ k + 2 + 5 := by omega
  have hint : parseInt data (k + 2) = .ok ((true, ival), k + 2 + 5) := parseInt_of_hasAt hval
  have hstring : parseString data (k + 2 + 5) = .ok ((true, str), k + 2 + 5 + 6 + str.length) :=
    parseString_of_stringAt (stringAt_of_hasAt hstr hs)
  rw [decodeCreate, hasKeyword_of_hasAt hkey]
  simp only [ok_bind, Bool.not_true, Bool.false_eq_true, if_false, hmore, hmore', hint, hstring,
    Bool.true_eq_false]
  rw [if_pos (by omega)]
  rfl

/-- The name of a method, as the client writes it. -/
def MethodCall.name : MethodCall → RawData
  | printToCout => ascii "PrintToCout"
  | printToString => ascii "PrintToString"
  | setIntegerValue _ => ascii "SetIntegerValue"
  | setStringValue _ => ascii "SetStringValue"

/-- The arguments of a method, as the client writes them. -/
def MethodCall.args : MethodCall → List AnyValue
  | setIntegerValue ival => [.int ival]
  | setStringValue str => [.string str]
  | _ => []

/-- **A method call is decoded from its name and its arguments.** -/
theorem decodeMethod_encode {c : MethodCall} (hshort : ∀ v ∈ c.args, v.Short)
    (h : HasAt data k (ascii "#m" ++ (serializeString c.name ++ serializeArguments c.args))) :
    decodeMethod data k = .ok (.call c) := by
  obtain ⟨h₀, hrest⟩ := hasAt_append_iff.1 h
  obtain ⟨hname, hargs⟩ := hasAt_append_iff.1 hrest
  have hkey : HasAt data k [chr '#', chr 'm'] := h₀
  have hlen : (ascii "#m").length = 2 := rfl
  rw [hlen] at hname hargs
  cases c with
  | printToCout =>
      have hstr := parseString_of_stringAt (stringAt_of_hasAt (by decide) hname)
      rw [decodeMethod, hasKeyword_of_hasAt hkey]
      simp only [ok_bind, hstr]
      rfl
  | printToString =>
      have hstr := parseString_of_stringAt (stringAt_of_hasAt (by decide) hname)
      rw [decodeMethod, hasKeyword_of_hasAt hkey]
      simp only [ok_bind, hstr]
      rfl
  | setIntegerValue ival =>
      have hval : HasAt data (k + 23) (serializeInt ival) := HasAt.left hargs
      rw [decodeMethod_of_setIntegerValue hkey hname, parseInt_of_hasAt hval]
      rfl
  | setStringValue str =>
      have hval : HasAt data (k + 22) (serializeString str) := HasAt.left hargs
      have hs : str.length < 2 ^ 31 := hshort _ (List.mem_singleton_self _)
      rw [decodeMethod_of_setStringValue hkey hname,
        parseString_of_stringAt (stringAt_of_hasAt hs hval)]
      rfl

theorem decodeCommand_create {obj : CustomClass} (h : decodeCreate data k = .ok (some obj)) :
    decodeCommand known data k = .ok (.create obj) := by
  rw [decodeCommand, h]
  rfl

/-- What follows an explicit handle is decoded on the object under it. -/
theorem decodeCommand_of_handle {h : ClassHandle} (hval : HasAt data k (serializeInt h)) :
    decodeCommand known data k =
      if known h then decodeOn h data (k + 5) else .ok .reject := by
  have hkey : ¬ HasAt data k [chr '#', chr 'c'] := fun hc =>
    not_hasAt_serializeInt_of_keyword hc h hval
  rw [decodeCommand, decodeCreate_of_not hkey]
  simp only [ok_bind]
  exact decodeOnInstance_of_targetAt (.explicit hval) (not_intCut_of_hasAt hval)

/-- **A call request is decoded to its call**, if the handle exists. -/
theorem decodeCommand_call {h : ClassHandle} {c : MethodCall} (hshort : ∀ v ∈ c.args, v.Short)
    (hat : HasAt data k (serializeInt h ++ (ascii "#m" ++
      (serializeString c.name ++ serializeArguments c.args)))) :
    decodeCommand known data k = .ok (if known h then .call h c else .reject) := by
  obtain ⟨hval, hrest⟩ := hasAt_append_iff.1 hat
  rw [length_serializeInt] at hrest
  have hon : decodeOn h data (k + 5) = .ok (.call h c) := by
    rw [decodeOn, decodeMethod_encode hshort hrest]
    rfl
  rw [decodeCommand_of_handle hval, hon]
  split <;> rfl

/-- **A request for an object is decoded to itself**, if the handle exists. -/
theorem decodeCommand_get {h : ClassHandle} (hat : HasAt data k (serializeInt h ++ ascii "#g")) :
    decodeCommand known data k = .ok (if known h then .get h else .reject) := by
  obtain ⟨hval, hrest⟩ := hasAt_append_iff.1 hat
  rw [length_serializeInt] at hrest
  have hget : HasAt data (k + 5) [chr '#', chr 'g'] := hrest
  have hm : ¬ HasAt data (k + 5) [chr '#', chr 'm'] := fun h =>
    absurd (keyword_unique hget h) (by decide)
  have hon : decodeOn h data (k + 5) = .ok (.get h) := by
    rw [decodeOn, decodeMethod_of_not hm]
    simp only [ok_bind, hasKeyword_of_hasAt hget]
    rfl
  rw [decodeCommand_of_handle hval, hon]
  split <;> rfl

end Decode

end NamedPipeDemo
