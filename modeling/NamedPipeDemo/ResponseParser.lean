/-
**The client side of a response: `ResponseParser`.**

The client keeps the requests it has sent in a table.  A response is an optional frame with the
request's id and a value; the entry with that id is handed the value and erased.  One other form
is understood, the announcement of a new object: it is read from the start of the vector, so it
never carries an id, and it does not reach the table.

A success callback is any function of the value that may change the client's `ClassRepository`;
the type of the callbacks and their effect are parameters.  Next to the table the state keeps a
record of the calls of `HandleSuccess`; no function reads it.

As on the server, the parser decodes a response and then performs it.

Main definitions:

* `NamedPipeDemo.ClientState` — the table, the repository of handles, and the record;
* `NamedPipeDemo.parseResponse`, `NamedPipeDemo.registerRequest` — the two functions of the source;
* `NamedPipeDemo.ResponseAction`, `NamedPipeDemo.decodeResponse` — what a response says;
* `NamedPipeDemo.ResponseDue` — a parser of this type is called at this index.

Main results:

* `NamedPipeDemo.parseResponse_eq` — **the parser decodes and then performs**;
* `NamedPipeDemo.decodeResponse_eq_error_iff` — **decoding stops exactly when a due parser does**;
* `NamedPipeDemo.decodeResponse_framed`, `NamedPipeDemo.decodeResponse_serialize` — **a framed value
  is delivered under the id of the frame**;
* `NamedPipeDemo.Action.answer_snd` — the server's response to an action carries a value or is not
  valid.
-/

import NamedPipeDemo.RequestGrammar

set_option relaxedAutoImplicit false
set_option autoImplicit false

namespace NamedPipeDemo

open Segment

/-! ### The state of the client -/

/-- The values a response can carry: what `std::any` holds when it reaches a callback. -/
inductive AnyValue
  | bool (value : Bool)
  | int (value : CInt)
  | double (value : CDouble)
  | string (value : RawData)
  deriving DecidableEq, Repr

/-- `ClassRepository`: the handles the client knows. -/
abbrev ClassRepository := List ClassHandle

/-- `ClassRepository::RegisterClassHandle` -/
def ClassRepository.registerClassHandle (repository : ClassRepository) (handle : ClassHandle) :
    ClassRepository :=
  if handle ∈ repository then repository else repository ++ [handle]

/-- `ClientRequest`; the failure callback, which nothing calls, is left out. -/
structure ClientRequest (κ : Type) where
  data : RawData := []
  waitForResponse : Bool := false
  successCallback : Option κ := none

/-- A call of `ClientRequest::HandleSuccess` on the request that was registered under an id. -/
structure Delivery (κ : Type) where
  id : RequestId
  request : ClientRequest κ
  value : AnyValue

/-- The table of a `ResponseParser`, the `ClassRepository` of its process, and the calls of
`HandleSuccess` so far, newest first. -/
structure ClientState (κ : Type) where
  requests : Finmap (fun _ : RequestId => ClientRequest κ) := ∅
  repository : ClassRepository := []
  deliveries : List (Delivery κ) := []

section Parser

variable {κ : Type} (onSuccess : κ → AnyValue → ClassRepository → ClassRepository)

/-- `ClientRequest::HandleSuccess`: what the callback, if there is one, does to the repository. -/
def ClientRequest.handleSuccess (request : ClientRequest κ) (result : AnyValue)
    (repository : ClassRepository) : ClassRepository :=
  match request.successCallback with
  | some callback => onSuccess callback result repository
  | none => repository

/-- `ResponseParser::RegisterRequest` -/
def ClientState.registerRequest (s : ClientState κ) (requestId : RequestId)
    (request : ClientRequest κ) : Bool × ClientState κ :=
  if requestId ∈ s.requests then (false, s)
  else (true, { s with requests := s.requests.insert requestId request })

/-- The last part of `ResponseParser::ParseResponse`: the request is notified and erased. -/
def ClientState.notify (s : ClientState κ) (requestId : RequestId) (value : AnyValue) :
    ClientState κ :=
  match s.requests.lookup requestId with
  | some request =>
      { requests := s.requests.erase requestId
        repository := request.handleSuccess onSuccess value s.repository
        deliveries := ⟨requestId, request, value⟩ :: s.deliveries }
  | none => s

/-- `ResponseParser::ParseCreateClassResponse` -/
def parseCreateClassResponse (data : RawData) (seekIdx : ℕ) :
    Except Fault (Bool × ClassHandle) := do
  if !(← hasKeyword data seekIdx (chr 'i')) then
    return kInvalidHandlePair
  let (handle, _) ← parseInt data (seekIdx + 2)
  if handle.1 then
    return (true, handle.2)
  return kInvalidHandlePair

/-- `ResponseParser::ParseCustomClassResponse` -/
def parseCustomClassResponse (data : RawData) : EStateM Fault (ClientState κ) Bool := do
  if data.isEmpty then
    return false
  let b ← readByte data 0
  if b ≠ chr '#' then
    return false
  let (str, idx) ← parseString data 1
  if str.1 = false then
    return false
  if str.2 ≠ CustomClass.kClassName then
    return false
  let handle ← parseCreateClassResponse data idx
  if handle.1 then
    modify fun s => { s with repository := s.repository.registerClassHandle handle.2 }
    return true
  return false

/-- The chain of alternatives of `ResponseParser::ParseResponse` that fills `any_value`. -/
def parseAnyValue (data : RawData) (idx : ℕ) : Except Fault (Option AnyValue) := do
  let (bval, idx) ← parseBool data idx
  if bval.1 then
    return some (.bool bval.2)
  let (ival, idx) ← parseInt data idx
  if ival.1 then
    return some (.int ival.2)
  let (dval, idx) ← parseDouble data idx
  if dval.1 then
    return some (.double dval.2)
  let (sval, _) ← parseString data idx
  if sval.1 then
    return some (.string sval.2)
  return none

/-- `ResponseParser::ParseResponse` -/
def parseResponse (data : RawData) : EStateM Fault (ClientState κ) Bool := do
  let (requestId, idx) ← parseRequestId data 0
  -- an announcement is looked for from the start, in front of a frame
  if ← parseCustomClassResponse data then
    return true
  let anyValue ← parseAnyValue data idx
  match anyValue with
  | some value =>
      modify fun s => s.notify onSuccess requestId value
      return true
  | none => return false

/-! ### Decoding and performing -/

/-- What a response says. -/
inductive ResponseAction
  /-- A new object was created. -/
  | register (handle : ClassHandle)
  /-- The request with this id has this result. -/
  | deliver (id : RequestId) (value : AnyValue)
  /-- Nothing the client understands. -/
  | reject
  deriving DecidableEq, Repr

/-- The state of the client after a response. -/
def ResponseAction.perform : ResponseAction → ClientState κ → ClientState κ
  | register handle, s => { s with repository := s.repository.registerClassHandle handle }
  | deliver id value, s => s.notify onSuccess id value
  | reject, s => s

end Parser

/-- The handle of a new object, if the response announces one. -/
def decodeAnnouncement (data : RawData) : Except Fault (Option ClassHandle) := do
  if data[0]? ≠ some (chr '#') then
    return none
  let (str, idx) ← parseString data 1
  if str.1 = false ∨ str.2 ≠ CustomClass.kClassName then
    return none
  let handle ← parseCreateClassResponse data idx
  return if handle.1 then some handle.2 else none

/-- **What a response says.** -/
def decodeResponse (data : RawData) : Except Fault ResponseAction := do
  let (requestId, idx) ← parseRequestId data 0
  match ← decodeAnnouncement data with
  | some handle => return .register handle
  | none =>
      match ← parseAnyValue data idx with
      | some value => return .deliver requestId value
      | none => return .reject

section Decode

variable {κ : Type} (onSuccess : κ → AnyValue → ClassRepository → ClassRepository)

/-- `ParseCustomClassResponse` decodes an announcement and registers the handle. -/
theorem parseCustomClassResponse_eq (data : RawData) (s : ClientState κ) :
    (parseCustomClassResponse data).run s =
      match decodeAnnouncement data with
      | .error e => .error e s
      | .ok none => .ok false s
      | .ok (some handle) => .ok true ((ResponseAction.register handle).perform onSuccess s) := by
  simp only [parseCustomClassResponse, decodeAnnouncement]
  cases data with
  | nil => rfl
  | cons b rest =>
      have hread : readByte (b :: rest) 0 = .ok b := readByte_of_some rfl
      simp only [List.isEmpty_cons, Bool.false_eq_true, if_false, hread, lift_ok_bind,
        List.getElem?_cons_zero, ne_eq, Option.some.injEq]
      by_cases hb : b = chr '#'
      swap
      · rw [if_pos hb, if_pos hb]
        rfl
      rw [if_neg (not_not_intro hb), if_neg (not_not_intro hb)]
      cases parseString (b :: rest) 1 with
      | error e => rfl
      | ok r =>
          obtain ⟨⟨ok, name⟩, idx⟩ := r
          cases ok with
          | false => rfl
          | true =>
              simp only [lift_ok_bind, ok_bind, Bool.true_eq_false, if_false, false_or]
              by_cases hname : name = CustomClass.kClassName
              swap
              · rw [if_pos hname, if_pos hname]
                rfl
              rw [if_neg (not_not_intro hname), if_neg (not_not_intro hname)]
              cases parseCreateClassResponse (b :: rest) idx with
              | error e => rfl
              | ok h =>
                  obtain ⟨ok, handle⟩ := h
                  cases ok <;> rfl

/-- **`ParseResponse` decodes a response and performs it**; when decoding stops with a fault, the
state is the one before the response. -/
theorem parseResponse_eq (data : RawData) (s : ClientState κ) :
    (parseResponse onSuccess data).run s =
      match decodeResponse data with
      | .error e => .error e s
      | .ok a => .ok (decide (a ≠ .reject)) (a.perform onSuccess s) := by
  simp only [parseResponse, decodeResponse]
  cases parseRequestId data 0 with
  | error e => rfl
  | ok p =>
      simp only [lift_ok_bind, ok_bind]
      have hclass := parseCustomClassResponse_eq onSuccess data s
      cases ha : decodeAnnouncement data with
      | error e =>
          rw [ha] at hclass
          exact run_bind_of_error hclass
      | ok o =>
          rw [ha] at hclass
          cases o with
          | some handle =>
              rw [run_bind_of_ok hclass]
              rfl
          | none =>
              rw [run_bind_of_ok hclass]
              simp only [Bool.false_eq_true, if_false, ok_bind]
              cases parseAnyValue data p.2 with
              | error e => rfl
              | ok v => cases v <;> rfl

end Decode

/-! ### Values -/

/-- A value sits at `k` that `ParseResponse` can hand to a callback.  Every byte behind the tag of
a `bool` is accepted. -/
inductive ValueAt (data : RawData) (k : ℕ) : AnyValue → Prop
  | bool {b : Byte} (h : HasAt data k [chr 'b', b]) : ValueAt data k (.bool (b == chr '1'))
  | int {v : CInt} (h : HasAt data k (serializeInt v)) : ValueAt data k (.int v)
  | double {v : CDouble} (h : HasAt data k (serializeDouble v)) : ValueAt data k (.double v)
  | string {s : RawData} (h : StringAt data k s) : ValueAt data k (.string s)

section Value

variable {data : RawData} {k : ℕ} {e : Fault}

theorem parseBool_of_ne {b : Byte} (hb : data[k]? = some b) (hne : b ≠ chr 'b') :
    parseBool data k = .ok ((false, false), k) := by
  rw [parseBool, readByte_of_some hb]
  exact if_pos (Or.inl hne)

/-- Behind the tag of another type, the alternatives before it are passed over. -/
theorem parseAnyValue_of_ne {c : Byte} (hc : data[k]? = some c) (hb : c ≠ chr 'b') :
    parseAnyValue data k = (do
      let (ival, idx) ← parseInt data k
      if ival.1 then
        return some (.int ival.2)
      let (dval, idx) ← parseDouble data idx
      if dval.1 then
        return some (.double dval.2)
      let (sval, _) ← parseString data idx
      if sval.1 then
        return some (.string sval.2)
      return none) := by
  rw [parseAnyValue, parseBool_of_ne hc hb]
  rfl

theorem parseAnyValue_of_ne' {c : Byte} (hc : data[k]? = some c) (hb : c ≠ chr 'b')
    (hi : c ≠ chr 'i') (hd : c ≠ chr 'd') :
    parseAnyValue data k = (do
      let (sval, _) ← parseString data k
      if sval.1 then
        return some (.string sval.2)
      return none) := by
  rw [parseAnyValue_of_ne hc hb, parseInt_of_ne hc hi]
  simp only [ok_bind, Bool.false_eq_true, if_false, parseDouble_of_ne hc hd]

/-- **A value is found where it sits.** -/
theorem parseAnyValue_of_valueAt {v : AnyValue} (h : ValueAt data k v) :
    parseAnyValue data k = .ok (some v) := by
  cases h with
  | bool h =>
      rw [parseAnyValue, parseBool_of_hasAt h]
      rfl
  | int h =>
      rw [parseAnyValue_of_ne (hasAt_cons_iff.1 h).1 (by decide), parseInt_of_hasAt h]
      rfl
  | double h =>
      have htag := (hasAt_cons_iff.1 h).1
      rw [parseAnyValue_of_ne htag (by decide), parseInt_of_ne htag (by decide)]
      simp only [ok_bind, Bool.false_eq_true, if_false, parseDouble_of_hasAt h]
      rfl
  | string h =>
      rw [parseAnyValue_of_ne' (hasAt_cons_iff.1 h.2).1 (by decide) (by decide) (by decide),
        parseString_of_stringAt h]
      rfl

theorem parseAnyValue_of_le (h : data.length ≤ k) :
    parseAnyValue data k = .error .outOfRange := by
  rw [parseAnyValue, parseBool_of_cut (Or.inl h), error_bind]

/-- Looking for a value finds one that sits there, or finds none, or stops where one of the four
parsers stops. -/
theorem parseAnyValue_cases (hsize : data.length ≤ maxSize) (k : ℕ) :
    (∃ e t, FieldFault e t data k ∧ parseAnyValue data k = .error e) ∨
      (∃ v, ValueAt data k v) ∨ parseAnyValue data k = .ok none := by
  rcases bool_cases data k with hb | ⟨b, hb⟩ | ⟨hb, hnob⟩
  · refine Or.inl ⟨.outOfRange, .bool, hb, ?_⟩
    rw [parseAnyValue, parseBool_of_cut hb, error_bind]
  · exact Or.inr (Or.inl ⟨_, .bool hb⟩)
  rw [parseAnyValue, parseBool_of_not hb hnob]
  simp only [ok_bind, Bool.false_eq_true, if_false]
  rcases int_cases data k with hi | ⟨v, hi⟩ | ⟨hi, hnoi⟩
  · refine Or.inl ⟨.outOfRange, .int, hi, ?_⟩
    rw [parseInt_of_cut hi, error_bind]
  · exact Or.inr (Or.inl ⟨_, .int hi⟩)
  simp only [parseInt_of_not hi hnoi, ok_bind, Bool.false_eq_true, if_false]
  rcases double_cases data k with hd | ⟨v, hd⟩ | ⟨hd, hnod⟩
  · refine Or.inl ⟨.outOfRange, .double, hd, ?_⟩
    rw [parseDouble_of_cut hd, error_bind]
  · exact Or.inr (Or.inl ⟨_, .double hd⟩)
  simp only [parseDouble_of_not hd hnod, ok_bind, Bool.false_eq_true, if_false]
  rcases string_cases data k with hs | hs | ⟨v, hs⟩ | ⟨hs, hn, hnos⟩
  · refine Or.inl ⟨.outOfRange, .string, hs, ?_⟩
    rw [parseString_of_cut hs, error_bind]
  · refine Or.inl ⟨.lengthError, .string, hs, ?_⟩
    rw [parseString_of_negativeLength hs, error_bind]
  · exact Or.inr (Or.inl ⟨_, .string hs⟩)
  · right; right
    rw [parseString_of_not hsize hs hn hnos]
    rfl

theorem valueAt_of_parseAnyValue (hsize : data.length ≤ maxSize) {v : AnyValue}
    (h : parseAnyValue data k = .ok (some v)) : ValueAt data k v := by
  rcases parseAnyValue_cases hsize k with ⟨e, t, _, he⟩ | ⟨v', hv'⟩ | hnone
  · rw [he] at h
    cases h
  · rw [parseAnyValue_of_valueAt hv', Except.ok.injEq, Option.some.injEq] at h
    exact h ▸ hv'
  · rw [hnone] at h
    cases h

/-- Looking for a value stops exactly when one of the four parsers does. -/
theorem parseAnyValue_eq_error_iff (hsize : data.length ≤ maxSize) :
    parseAnyValue data k = .error e ↔ ∃ t, FieldFault e t data k := by
  constructor
  · intro h
    rcases parseAnyValue_cases hsize k with ⟨e', t, hfault, he⟩ | ⟨v, hv⟩ | hnone
    · rw [he] at h
      cases h
      exact ⟨t, hfault⟩
    · rw [parseAnyValue_of_valueAt hv] at h
      cases h
    · rw [hnone] at h
      cases h
  · rintro ⟨t, hfault⟩
    rcases hfault.at_end_or_tag with ⟨rfl, hle⟩ | htag
    · exact parseAnyValue_of_le hle
    cases t with
    | bool => rw [parseAnyValue, parseBool_eq_error_iff.2 hfault, error_bind]
    | int =>
        rw [parseAnyValue_of_ne htag (by decide), parseInt_eq_error_iff.2 hfault, error_bind]
    | double =>
        rw [parseAnyValue_of_ne htag (by decide), parseInt_of_ne htag (by decide)]
        simp only [ok_bind, Bool.false_eq_true, if_false, parseDouble_eq_error_iff.2 hfault,
          error_bind]
    | string =>
        rw [parseAnyValue_of_ne' htag (by decide) (by decide) (by decide),
          (parseString_eq_error_iff hsize).2 hfault, error_bind]

end Value

/-! ### Announcements and responses -/

/-- `ParseResponse` looks for a value of this type at this index, as long as nothing has stopped
it before. -/
inductive ResponseDue (data : RawData) : FieldKind → ℕ → Prop
  | requestId (hkey : HasAt data 0 [chr '#', chr 'r']) : ResponseDue data .int 2
  | className (hkey : data[0]? = some (chr '#')) : ResponseDue data .string 1
  | handle (hname : HasAt data 0 createCustomClassRequest)
      (hkey : HasAt data 24 [chr '#', chr 'i']) : ResponseDue data .int 26
  | value {id : RequestId} {b : ℕ} (hb : BodyAt data id b) (t : FieldKind) : ResponseDue data t b

section Response

variable {data : RawData} {e : Fault}

theorem decodeAnnouncement_of_ne (h : data[0]? ≠ some (chr '#')) :
    decodeAnnouncement data = .ok none := if_pos h

theorem decodeAnnouncement_of_hash (h : data[0]? = some (chr '#')) :
    decodeAnnouncement data = (do
      let (str, idx) ← parseString data 1
      if str.1 = false ∨ str.2 ≠ CustomClass.kClassName then
        return none
      let handle ← parseCreateClassResponse data idx
      return if handle.1 then some handle.2 else none) := if_neg (not_not_intro h)

/-- Nothing that carries a frame is an announcement. -/
theorem decodeAnnouncement_of_keyword (h : HasAt data 0 [chr '#', chr 'r']) :
    decodeAnnouncement data = .ok none := by
  obtain ⟨hsharp, hrest⟩ := hasAt_cons_iff.1 h
  rw [decodeAnnouncement_of_hash hsharp,
    parseString_of_ne (hasAt_cons_iff.1 hrest).1 (by decide)]
  rfl

theorem parseCreateClassResponse_of_keyword {k : ℕ} (h : HasAt data k [chr '#', chr 'i']) :
    parseCreateClassResponse data k = (do
      let (handle, _) ← parseInt data (k + 2)
      if handle.1 then
        return (true, handle.2)
      return kInvalidHandlePair) := by
  rw [parseCreateClassResponse, hasKeyword_of_hasAt h]
  rfl

theorem parseCreateClassResponse_of_not {k : ℕ} (h : ¬ HasAt data k [chr '#', chr 'i']) :
    parseCreateClassResponse data k = .ok kInvalidHandlePair := by
  rw [parseCreateClassResponse, hasKeyword_of_not h]
  rfl

/-- Behind the class name, an announcement is decoded from its keyword on. -/
theorem decodeAnnouncement_of_className (h : HasAt data 0 createCustomClassRequest) :
    decodeAnnouncement data = (do
      let handle ← parseCreateClassResponse data 24
      return if handle.1 then some handle.2 else none) := by
  obtain ⟨hsharp, hname⟩ := hasAt_cons_iff.1 h
  have hstr := parseString_of_stringAt (stringAt_of_hasAt (by decide) hname)
  rw [decodeAnnouncement_of_hash hsharp, hstr]
  rfl

/-- The class name is looked for behind `'#'`; without it there is no announcement. -/
theorem decodeAnnouncement_cases (hsize : data.length ≤ maxSize) :
    (data[0]? = some (chr '#') ∧ ∃ e, FieldFault e .string data 1 ∧
        decodeAnnouncement data = .error e) ∨
      HasAt data 0 createCustomClassRequest ∨ decodeAnnouncement data = .ok none := by
  by_cases hsharp : data[0]? = some (chr '#')
  swap
  · exact Or.inr (Or.inr (decodeAnnouncement_of_ne hsharp))
  rw [decodeAnnouncement_of_hash hsharp]
  cases hs : parseString data 1 with
  | error e => exact Or.inl ⟨hsharp, e, (parseString_eq_error_iff hsize).1 hs, rfl⟩
  | ok r =>
      right
      rcases (parseString_eq_ok_iff hsize).1 hs with ⟨name, hname, rfl⟩ | ⟨_, _, _, rfl⟩
      · by_cases heq : name = CustomClass.kClassName
        · subst heq
          exact Or.inl (hasAt_cons_iff.2 ⟨hsharp, hname.2⟩)
        · exact Or.inr (if_pos (Or.inr heq))
      · exact Or.inr rfl

/-- Looking for an announcement stops at the class name or at the handle. -/
theorem decodeAnnouncement_eq_error_iff (hsize : data.length ≤ maxSize) :
    decodeAnnouncement data = .error e ↔
      (data[0]? = some (chr '#') ∧ FieldFault e .string data 1) ∨
        (HasAt data 0 createCustomClassRequest ∧ HasAt data 24 [chr '#', chr 'i'] ∧
          FieldFault e .int data 26) := by
  constructor
  · intro h
    rcases decodeAnnouncement_cases hsize with ⟨hsharp, e', hfault, he⟩ | hname | hnone
    · rw [he] at h
      cases h
      exact Or.inl ⟨hsharp, hfault⟩
    · rw [decodeAnnouncement_of_className hname] at h
      by_cases hkey : HasAt data 24 [chr '#', chr 'i']
      swap
      · rw [parseCreateClassResponse_of_not hkey] at h
        cases h
      rw [parseCreateClassResponse_of_keyword hkey] at h
      rcases bind_eq_error_iff.1 h with h | ⟨_, _, h⟩
      swap
      · cases h
      rcases bind_eq_error_iff.1 h with hi | ⟨⟨⟨ok, v⟩, idx⟩, _, h⟩
      · exact Or.inr ⟨hname, hkey, parseInt_eq_error_iff.1 hi⟩
      · cases ok <;> cases h
    · rw [hnone] at h
      cases h
  · rintro (⟨hsharp, hfault⟩ | ⟨hname, hkey, hfault⟩)
    · rw [decodeAnnouncement_of_hash hsharp, (parseString_eq_error_iff hsize).2 hfault, error_bind]
    · rw [decodeAnnouncement_of_className hname, parseCreateClassResponse_of_keyword hkey,
        parseInt_eq_error_iff.2 hfault]
      rfl

/-- Once the id is read, a response says what its announcement or its value says. -/
theorem decodeResponse_of_bodyAt {id : RequestId} {b : ℕ} (hb : BodyAt data id b)
    (hcut : HasAt data 0 [chr '#', chr 'r'] → ¬ IntCut data 2) :
    decodeResponse data = (do
      match ← decodeAnnouncement data with
      | some handle => return .register handle
      | none =>
          match ← parseAnyValue data b with
          | some value => return .deliver id value
          | none => return .reject) := by
  rw [decodeResponse, parseRequestId_of_bodyAt hb hcut]
  rfl

/-- A fault at the body means that the vector does not start with `'#'`, or is framed. -/
theorem BodyAt.framed_of_fault {id : RequestId} {b : ℕ} {t : FieldKind} (hb : BodyAt data id b)
    (hfault : FieldFault e t data b) (hsharp : data[0]? = some (chr '#')) :
    HasAt data 0 (createRequestIdData id) := by
  cases hb with
  | framed h => exact h
  | plain _ =>
      rcases hfault.at_end_or_tag with ⟨_, hle⟩ | htag
      · rw [List.getElem?_eq_none hle] at hsharp
        cases hsharp
      · rw [hsharp, Option.some.injEq] at htag
        cases t <;> exact absurd htag (by decide)

/-- **Decoding a response stops with a fault exactly when some parser that is due somewhere
does.** -/
theorem decodeResponse_eq_error_iff (hsize : data.length ≤ maxSize) :
    decodeResponse data = .error e ↔ ∃ t j, ResponseDue data t j ∧ FieldFault e t data j := by
  obtain ⟨id, b, hb⟩ := exists_bodyAt data
  by_cases hcut : HasAt data 0 [chr '#', chr 'r'] ∧ FieldFault e .int data 2
  · refine ⟨fun _ => ⟨_, _, .requestId hcut.1, hcut.2⟩, fun _ => ?_⟩
    rw [decodeResponse, parseRequestId_eq, hasKeyword_of_hasAt hcut.1]
    simp only [ok_bind, if_true, parseInt_eq_error_iff.2 hcut.2, error_bind]
  constructor
  · intro h
    by_cases hid : HasAt data 0 [chr '#', chr 'r'] ∧ IntCut data 2
    · rw [decodeResponse, parseRequestId_of_cut hid.1 hid.2] at h
      cases h
      exact absurd hid hcut
    rw [decodeResponse_of_bodyAt hb fun hkey hc => hid ⟨hkey, hc⟩] at h
    rcases bind_eq_error_iff.1 h with ha | ⟨o, _, h⟩
    · rcases (decodeAnnouncement_eq_error_iff hsize).1 ha with ⟨hsharp, hfault⟩ | ⟨hn, hk, hfault⟩
      · exact ⟨_, _, .className hsharp, hfault⟩
      · exact ⟨_, _, .handle hn hk, hfault⟩
    cases o with
    | some handle => cases h
    | none =>
        rcases bind_eq_error_iff.1 h with hv | ⟨v, _, h⟩
        · obtain ⟨t, hfault⟩ := (parseAnyValue_eq_error_iff hsize).1 hv
          exact ⟨t, b, .value hb t, hfault⟩
        · cases v <;> cases h
  · rintro ⟨t, j, hdue, hfault⟩
    -- an announcement is looked for in vectors that carry no frame
    have hunframed : decodeAnnouncement data = .error e → decodeResponse data = .error e := by
      intro ha
      rw [decodeResponse_of_bodyAt hb fun hkey _ => ?_, ha, error_bind]
      rw [decodeAnnouncement_of_keyword hkey] at ha
      cases ha
    cases hdue with
    | requestId hkey => exact absurd ⟨hkey, hfault⟩ hcut
    | className hsharp =>
        exact hunframed ((decodeAnnouncement_eq_error_iff hsize).2 (Or.inl ⟨hsharp, hfault⟩))
    | handle hname hkey =>
        exact hunframed ((decodeAnnouncement_eq_error_iff hsize).2 (Or.inr ⟨hname, hkey, hfault⟩))
    | value hb' _ =>
        have herr := (parseAnyValue_eq_error_iff hsize).2 ⟨t, hfault⟩
        by_cases hsharp : data[0]? = some (chr '#')
        · have hframe := hb'.framed_of_fault hfault hsharp
          obtain ⟨hkey, hid⟩ := hasAt_createRequestIdData_iff.1 hframe
          rw [decodeResponse_of_bodyAt hb' fun _ => not_intCut_of_hasAt hid,
            decodeAnnouncement_of_keyword hkey]
          simp only [ok_bind, herr, error_bind]
        · rw [decodeResponse_of_bodyAt hb' fun hkey => absurd (hasAt_cons_iff.1 hkey).1 hsharp,
            decodeAnnouncement_of_ne hsharp]
          simp only [ok_bind, herr, error_bind]

/-- **A framed value is delivered under the id of the frame.** -/
theorem decodeResponse_framed {id : RequestId} {v : AnyValue}
    (hframe : HasAt data 0 (createRequestIdData id)) (hv : ValueAt data 7 v) :
    decodeResponse data = .ok (.deliver id v) := by
  obtain ⟨hkey, hid⟩ := hasAt_createRequestIdData_iff.1 hframe
  rw [decodeResponse_of_bodyAt (.framed hframe) fun _ => not_intCut_of_hasAt hid,
    decodeAnnouncement_of_keyword hkey]
  simp only [ok_bind, parseAnyValue_of_valueAt hv]
  rfl

/-- What is delivered sits in the body, and its id is the id of the frame. -/
theorem bodyAt_of_deliver (hsize : data.length ≤ maxSize) {id : RequestId} {v : AnyValue}
    (h : decodeResponse data = .ok (.deliver id v)) :
    ∃ b, BodyAt data id b ∧ ValueAt data b v := by
  obtain ⟨id', b, hb⟩ := exists_bodyAt data
  by_cases hcut : HasAt data 0 [chr '#', chr 'r'] ∧ IntCut data 2
  · rw [decodeResponse, parseRequestId_of_cut hcut.1 hcut.2] at h
    cases h
  rw [decodeResponse_of_bodyAt hb fun hkey hc => hcut ⟨hkey, hc⟩] at h
  obtain ⟨o, _, h⟩ := bind_eq_ok_iff.1 h
  cases o with
  | some handle => cases h
  | none =>
      obtain ⟨o, hv, h⟩ := bind_eq_ok_iff.1 h
      cases o with
      | none => cases h
      | some v' =>
          cases h
          exact ⟨b, hb, valueAt_of_parseAnyValue hsize hv⟩

end Response

/-! ### Round trip -/

/-- The encoding of a value, with the serializer of its type. -/
def AnyValue.serialize : AnyValue → RawData
  | bool value => serializeBool value
  | int value => serializeInt value
  | double value => serializeDouble value
  | string value => serializeString value

/-- The length of a string fits an `int`. -/
def AnyValue.Short : AnyValue → Prop
  | string value => value.length < 2 ^ 31
  | _ => True

/-- A short value sits where its encoding sits. -/
theorem valueAt_of_hasAt {data : RawData} {k : ℕ} {v : AnyValue} (hv : v.Short)
    (h : HasAt data k v.serialize) : ValueAt data k v := by
  cases v with
  | bool value =>
      have hval : ((if value then chr '1' else chr '0') == chr '1') = value := by
        cases value <;> decide
      have := ValueAt.bool h
      rwa [hval] at this
  | int value => exact .int h
  | double value => exact .double h
  | string value => exact .string ⟨hv, h⟩

/-- **A value that is framed and sent is delivered under its id.** -/
theorem decodeResponse_serialize (id : RequestId) {v : AnyValue} (hv : v.Short) :
    decodeResponse (createRequestIdData id ++ v.serialize) = .ok (.deliver id v) := by
  have hat := hasAt_append_iff.1 (hasAt_self (createRequestIdData id ++ v.serialize))
  rw [length_createRequestIdData] at hat
  exact decodeResponse_framed hat.1 (valueAt_of_hasAt hv hat.2)

/-- **These bytes deliver this value under this id**: on any client, `ParseResponse` accepts them
and notifies the request with that id, if there is one. -/
def Delivers (data : RawData) (id : RequestId) (v : AnyValue) : Prop :=
  ∀ (κ : Type) (onSuccess : κ → AnyValue → ClassRepository → ClassRepository)
    (s : ClientState κ),
    (parseResponse onSuccess data).run s = .ok true (s.notify onSuccess id v)

theorem delivers_serialize (id : RequestId) {v : AnyValue} (hv : v.Short) :
    Delivers (createRequestIdData id ++ v.serialize) id v := fun κ onSuccess s => by
  rw [parseResponse_eq, decodeResponse_serialize id hv]
  rfl

/-- The value that the response to an action carries, if it is valid. -/
def Action.responseValue (env : AddressText) : Action → ServerState → Option AnyValue
  | .create _, w => some (.int w.registry.nextHandle)
  | .call h .printToString, w => some (.string ((w.object h).printToString (env.text h)))
  | .call h (.setIntegerValue ival), w => some (.bool (decide (ival ≠ (w.object h).ival)))
  | .call h (.setStringValue str), w => some (.bool (decide (str ≠ (w.object h).str)))
  | .get h, w => some (.string (w.object h).serialize)
  | _, _ => none

/-- **A response is valid exactly when it carries a value**, and then it carries the encoding of
the value and the id of the request. -/
theorem Action.answer_snd (env : AddressText) (id : RequestId) (a : Action) (w : ServerState) :
    match a.responseValue env w with
    | some v => (a.answer env id w).2.data = v.serialize ∧ (a.answer env id w).2.requestId = id ∧
        (a.answer env id w).2.isValid = true
    | none => (a.answer env id w).2.isValid = false := by
  cases a with
  | call h c => cases c <;> first | exact ⟨rfl, rfl, rfl⟩ | exact rfl
  | create obj => exact ⟨rfl, rfl, rfl⟩
  | get h => exact ⟨rfl, rfl, rfl⟩
  | _ => exact rfl

/-- A response that carries a short value delivers it under the id of the request. -/
theorem Action.delivers_answer {env : AddressText} (id : RequestId) {a : Action} {w : ServerState}
    {v : AnyValue} (hv : a.responseValue env w = some v) (hshort : v.Short) :
    (a.answer env id w).2.isValid = true ∧ (a.answer env id w).2.requestId = id ∧
      Delivers (a.answer env id w).2.dataToSend id v := by
  have hsnd := a.answer_snd env id w
  simp only [hv] at hsnd
  obtain ⟨hdata, hid, hvalid⟩ := hsnd
  refine ⟨hvalid, hid, ?_⟩
  rw [ServerResponse.dataToSend, hdata, hid]
  exact delivers_serialize id hshort

end NamedPipeDemo
