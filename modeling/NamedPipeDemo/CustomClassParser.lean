/-
**The server side of a request: `CustomClassParser` and `RequestParser`.**

A request is an optional frame with the request's id, followed by a plain value or by a command on
`CustomClass` objects.  The command is told apart by bytes at a moving index: `#c` creates an
object, anything else names an object by its handle and then calls a method (`#m`) or asks for the
serialized object (`#g`).

The functions are those of the source, in the order of the source.  They run in
`NamedPipeDemo.Serve`: they read and write the registry, and they can stop with a `Fault`, in which
case the registry is whatever it was at that moment.  A reference or pointer to an object is the
handle it is registered under.  Next to the registry the state keeps a record of the member
functions that requests have called on objects; no function reads it.

Main definitions:

* `NamedPipeDemo.ServerState`, `NamedPipeDemo.Serve` — the registry, and the monad of the parsers;
* `NamedPipeDemo.CustomClassParser.parse` and its parts, one per function of the source;
* `NamedPipeDemo.RequestParser.parseRequest` — `RequestParser::ParseRequest`;
* `NamedPipeDemo.handleClientRequest` — one round of `Server::HandleClientConnection`.
-/

import NamedPipeDemo.CustomClass

set_option relaxedAutoImplicit false
set_option autoImplicit false

namespace NamedPipeDemo

/-! ### The state of the server -/

/-- The member functions of `CustomClass` that a request can reach. -/
inductive Member
  | printToCout
  | printToString
  | setIntegerValue
  | setStringValue
  | serialize
  deriving DecidableEq, Repr

/-- The registry, and the calls made on its objects so far, newest first. -/
structure ServerState where
  registry : ClassRegistry CustomClass := {}
  calls : List (ClassHandle × Member) := []

/-- A function of the server: it changes the state and can stop with a fault. -/
abbrev Serve (α : Type) := EStateM Fault ServerState α

/-- The object a reference refers to. -/
def ServerState.object (w : ServerState) (instance_ : ClassHandle) : CustomClass :=
  (w.registry.instances.lookup instance_).getD {}

/-- The state after the member `m` was called on an object and left `obj` in its place. -/
def ServerState.called (w : ServerState) (instance_ : ClassHandle) (m : Member)
    (obj : CustomClass) : ServerState :=
  { registry := w.registry.assign instance_ obj
    calls := (instance_, m) :: w.calls }

/-- A call of the member `m` on an object: `f` gives its result and the object it leaves. -/
def callMember {α : Type} (instance_ : ClassHandle) (m : Member)
    (f : CustomClass → α × CustomClass) : Serve α := fun w =>
  .ok (f (w.object instance_)).1 (w.called instance_ m (f (w.object instance_)).2)

/-- `ClassRegistry<CustomClass>::GetInstance().Create(args...)` -/
def createInstance (obj : CustomClass) : Serve ClassHandle := fun w =>
  .ok (w.registry.create obj).1 { w with registry := (w.registry.create obj).2 }

/-! ### `ServerResponse` -/

/-- The callbacks of a response; they only write to the log, and this is what they write about. -/
inductive ResponseCallback
  | onCreateClass (requestId : RequestId) (handle : ClassHandle)
  | onMethodCall (requestId : RequestId) (handle : ClassHandle) (methodName : RawData)
  deriving DecidableEq, Repr

/-- `ServerResponse` -/
structure ServerResponse where
  data : RawData := []
  callbacks : Option ResponseCallback := none
  requestId : RequestId := -1
  deriving DecidableEq, Repr

/-- `ServerResponse::IsValid` -/
def ServerResponse.isValid (r : ServerResponse) : Bool := !r.data.isEmpty

/-! ### `CustomClassParser` -/

def kPrintToCoutMethodName : RawData := ascii "PrintToCout"

def kPrintToStringMethodName : RawData := ascii "PrintToString"

def kSetIntegerValMethodName : RawData := ascii "SetIntegerValue"

def kSetStringValueMethodName : RawData := ascii "SetStringValue"

def kInvalidResponse : Bool × ServerResponse := (false, {})

def kInvalidHandlePair : Bool × ClassHandle := (false, -1)

/-- `CustomClassParser` -/
structure CustomClassParser where
  clientId : ℕ
  requestId : RequestId

/-- The test for a two-byte keyword `#c`, `#m` or `#g`: the size is checked first, and the second
byte is only read when the first one is `'#'`. -/
def hasKeyword (data : RawData) (idx : ℕ) (key : Byte) : Except Fault Bool := do
  if data.length < idx + 2 then
    return false
  let b ← readByte data idx
  if b ≠ chr '#' then
    return false
  let b ← readByte data (idx + 1)
  return b == key

namespace CustomClassParser

/-- `CustomClassParser::ParseCreateClass` -/
def parseCreateClass (data : RawData) (seekIdx : ℕ) : Serve ((Bool × ClassHandle) × ℕ) := do
  if !(← hasKeyword data seekIdx (chr 'c')) then
    return (kInvalidHandlePair, seekIdx)
  let tmpIdx := seekIdx + 2
  -- an object is only created when nothing follows its arguments
  if data.length = tmpIdx then
    let handle ← createInstance {}
    return ((true, handle), tmpIdx)
  let (ival, tmpIdx) ← parseInt data tmpIdx
  if ival.1 = false then
    return (kInvalidHandlePair, seekIdx)
  if data.length = tmpIdx then
    let handle ← createInstance { ival := ival.2 }
    return ((true, handle), tmpIdx)
  let (str, tmpIdx) ← parseString data tmpIdx
  if str.1 = false then
    return (kInvalidHandlePair, seekIdx)
  if data.length = tmpIdx then
    let handle ← createInstance { ival := ival.2, str := str.2 }
    return ((true, handle), tmpIdx)
  return (kInvalidHandlePair, seekIdx)

/-- `CustomClassParser::GetClassInstaceFromRequest`: only the value of the parsed handle is used,
not the success flag. -/
def getClassInstaceFromRequest (data : RawData) (seekIdx : ℕ) :
    Serve ((ClassHandle × Option ClassHandle) × ℕ) := do
  let (handle, idx) ← parseInt data seekIdx
  let w ← get
  return ((handle.2, w.registry.getClassObjectByHandle handle.2), idx)

/-- `CustomClassParser::ParsePrintToCoutCall` -/
def parsePrintToCoutCall (instance_ : ClassHandle) : Serve Unit :=
  callMember instance_ .printToCout fun c => ((), c)

/-- `CustomClassParser::ParsePrintToStringCall` -/
def parsePrintToStringCall (env : AddressText) (instance_ : ClassHandle) : Serve RawData :=
  callMember instance_ .printToString fun c => (c.printToString (env.text instance_), c)

/-- `CustomClassParser::ParseSetIntegerValueMethodCall` -/
def parseSetIntegerValueMethodCall (instance_ : ClassHandle) (data : RawData) (seekIdx : ℕ) :
    Serve ((Bool × Bool) × ℕ) := do
  let (ival, idx) ← parseInt data seekIdx
  if ival.1 = false then
    return ((false, false), idx)
  let ret ← callMember instance_ .setIntegerValue fun c => c.setIntegerValue ival.2
  return ((true, ret), idx)

/-- `CustomClassParser::ParseSetStringValue` -/
def parseSetStringValue (instance_ : ClassHandle) (data : RawData) (seekIdx : ℕ) :
    Serve ((Bool × Bool) × ℕ) := do
  let (str, idx) ← parseString data seekIdx
  if str.1 = false then
    return ((false, false), idx)
  let ret ← callMember instance_ .setStringValue fun c => c.setStringValue str.2
  return ((true, ret), idx)

/-- `CustomClassParser::IsMethodCall` -/
def isMethodCall (data : RawData) (seekIdx : ℕ) : Except Fault (Bool × ℕ) := do
  if !(← hasKeyword data seekIdx (chr 'm')) then
    return (false, seekIdx)
  return (true, seekIdx + 2)

/-- `CustomClassParser::ParseMethodCall`: the result is the success flag, the serialized return
value and the method name.  The two setters report the same name. -/
def parseMethodCall (env : AddressText) (instance_ : ClassHandle) (data : RawData)
    (seekIdx : ℕ) : Serve ((Bool × RawData × RawData) × ℕ) := do
  let (isCall, idx) ← isMethodCall data seekIdx
  if isCall = false then
    return ((false, [], []), seekIdx)
  let (name, idx) ← parseString data idx
  -- without a readable name it still counts as a method call
  if name.1 = false then
    return ((true, [], []), idx)
  if name.2 = kPrintToCoutMethodName then
    parsePrintToCoutCall instance_
    return ((true, [], kPrintToCoutMethodName), idx)
  if name.2 = kPrintToStringMethodName then
    let ret ← parsePrintToStringCall env instance_
    return ((true, serializeString ret, kPrintToStringMethodName), idx)
  -- a setter without its argument is no method call, but `idx` stays behind the name
  if name.2 = kSetIntegerValMethodName then
    let (ret, idx) ← parseSetIntegerValueMethodCall instance_ data idx
    return ((ret.1, serializeBool ret.2, kSetIntegerValMethodName), idx)
  if name.2 = kSetStringValueMethodName then
    let (ret, idx) ← parseSetStringValue instance_ data idx
    return ((ret.1, serializeBool ret.2, kSetIntegerValMethodName), idx)
  return ((true, [], []), idx)

/-- `CustomClassParser::ParseGetInstance` -/
def parseGetInstance (instance_ : ClassHandle) (data : RawData) (seekIdx : ℕ) :
    Serve ((Bool × RawData) × ℕ) := do
  if !(← hasKeyword data seekIdx (chr 'g')) then
    return ((false, []), seekIdx)
  let str ← callMember instance_ .serialize fun c => (c.serialize, c)
  return ((true, serializeString str), seekIdx)

/-- `CustomClassParser::CreateServerResponseOnCreateClassRequest` -/
def createServerResponseOnCreateClassRequest (self : CustomClassParser) (handle : ClassHandle) :
    ServerResponse where
  data := serializeInt handle
  callbacks := some (.onCreateClass self.requestId handle)

/-- `CustomClassParser::CreateServerResponseOnMethodCall` -/
def createServerResponseOnMethodCall (self : CustomClassParser) (handle : ClassHandle)
    (data : RawData) (methodName : RawData) : ServerResponse where
  data := data
  callbacks := some (.onMethodCall self.requestId handle methodName)

/-- The second half of `CustomClassParser::Parse`, for the commands that use a handle. -/
def parseOnInstance (self : CustomClassParser) (env : AddressText) (data : RawData) (idx : ℕ) :
    Serve ((Bool × ServerResponse) × ℕ) := do
  let (target, idx) ← getClassInstaceFromRequest data idx
  match target.2 with
  | none => return (kInvalidResponse, idx)
  | some instance_ =>
      let (call, idx) ← parseMethodCall env instance_ data idx
      if call.1 then
        return ((true, self.createServerResponseOnMethodCall target.1 call.2.1 call.2.2), idx)
      let (got, idx) ← parseGetInstance instance_ data idx
      if got.1 then
        return ((true, { data := got.2 }), idx)
      -- the request counts as processed, with a response that is not valid
      return ((true, {}), idx)

/-- `CustomClassParser::Parse` -/
def parse (self : CustomClassParser) (env : AddressText) (data : RawData) (idx : ℕ) :
    Serve ((Bool × ServerResponse) × ℕ) := do
  if data.isEmpty then
    return (kInvalidResponse, idx)
  let b ← readByte data idx
  let idx := idx + 1
  if b ≠ chr '#' then
    return (kInvalidResponse, idx)
  let (name, idx) ← parseString data idx
  if name.1 = false then
    return (kInvalidResponse, idx)
  if name.2 ≠ CustomClass.kClassName then
    return (kInvalidResponse, idx)
  let (created, idx) ← parseCreateClass data idx
  if created.1 then
    return ((true, self.createServerResponseOnCreateClassRequest created.2), idx)
  self.parseOnInstance env data idx

end CustomClassParser

/-! ### `RequestParser` -/

/-- `RequestParser::ParseRequestId`; `ResponseParser::ParseRequestId` is the same function. -/
def parseRequestId (request : RawData) (seekIdx : ℕ) : Except Fault (RequestId × ℕ) := do
  if request.length < seekIdx + 2 then
    return (-1, seekIdx)
  let b ← readByte request seekIdx
  if b ≠ chr '#' then
    return (-1, seekIdx)
  let b ← readByte request (seekIdx + 1)
  if b ≠ chr 'r' then
    return (-1, seekIdx)
  let (id, tmpIdx) ← parseInt request (seekIdx + 2)
  if id.1 = false then
    return (-1, seekIdx)
  return (id.2, tmpIdx)

/-- `RequestParser` -/
structure RequestParser where
  clientId : ℕ

/-- `RequestParser::ParseRequest`: the result is the returned flag and the response. -/
def RequestParser.parseRequest (self : RequestParser) (env : AddressText) (request : RawData) :
    Serve (Bool × ServerResponse) := do
  let (requestId, idx) ← parseRequestId request 0
  -- a plain value is only printed, and there is no response
  let (ival, idx) ← parseInt request idx
  if ival.1 then
    return (true, {})
  let (dval, idx) ← parseDouble request idx
  if dval.1 then
    return (true, {})
  let (sval, idx) ← parseString request idx
  if sval.1 then
    return (true, {})
  let (resp, _) ← CustomClassParser.parse ⟨self.clientId, requestId⟩ env request idx
  if resp.1 then
    return (true, { resp.2 with requestId := requestId })
  return (false, {})

/-! ### `Server` -/

/-- `CreateRequestIdData`, the same function in `Server.cpp` and in `Client.cpp`. -/
def createRequestIdData (request : RequestId) : RawData := ascii "#r" ++ serializeInt request

/-- The bytes that `Server::SendResponseToClient` writes. -/
def ServerResponse.dataToSend (response : ServerResponse) : RawData :=
  createRequestIdData response.requestId ++ response.data

/-- One round of `Server::HandleClientConnection`: the request is parsed, and the response, if it
is valid, is written back. -/
def handleClientRequest (clientId : ℕ) (env : AddressText) (data : RawData) :
    Serve (Option RawData) := do
  let (_, response) ← RequestParser.parseRequest ⟨clientId⟩ env data
  if response.isValid then
    return some response.dataToSend
  return none

@[simp] theorem length_createRequestIdData (request : RequestId) :
    (createRequestIdData request).length = 7 := by
  rw [createRequestIdData, List.length_append, length_serializeInt]
  rfl

theorem createRequestIdData_injective : Function.Injective createRequestIdData := fun _ _ h =>
  serializeInt_injective (List.append_cancel_left h)

end NamedPipeDemo
