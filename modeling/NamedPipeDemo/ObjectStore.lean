/-
**The client and the server together are an object store.**

What the two programs are for can be said without a single byte: clients create objects, each an
integer and a string, under the handles 0, 1, 2, …, write their fields, and ask for them.  This
module states that purpose as an abstract store, and proves that encoding a command on the client,
parsing it on the server, framing the response and parsing that on the client carries it out: the
registry follows the store, and what reaches the callback of the client is the answer of the store.

Main definitions:

* `NamedPipeDemo.Command`, `NamedPipeDemo.Store`, `NamedPipeDemo.Store.react` — **the abstract
  store**;
* `NamedPipeDemo.Issued`, `NamedPipeDemo.serveCommand` — a command as a client issues it, and what
  the server does with its bytes;
* `NamedPipeDemo.Represents`, `NamedPipeDemo.Conveys` — the registry stands for a store; a response
  conveys an answer.

Main results:

* `NamedPipeDemo.decodeRequest_encode` — the server decodes every encoded command;
* `NamedPipeDemo.represents_step` — one command;
* `NamedPipeDemo.server_refines_store` — **every run of the server is a run of the store.**
-/

import NamedPipeDemo.DemoSimulator
import NamedPipeDemo.ServerRuns

set_option relaxedAutoImplicit false
set_option autoImplicit false

namespace NamedPipeDemo

open Segment LabelledRuns

/-! ### The abstract store -/

/-- What a client can ask for. -/
inductive Command
  | create
  | createInt (ival : CInt)
  | createIntString (ival : CInt) (str : RawData)
  | setIntegerValue (h : ClassHandle) (ival : CInt)
  | setStringValue (h : ClassHandle) (str : RawData)
  | printToCout (h : ClassHandle)
  | printToString (h : ClassHandle)
  | getInstance (h : ClassHandle)
  deriving DecidableEq, Repr

/-- The objects under the handles `0, …, n - 1`. -/
abbrev Store := List (CInt × RawData)

/-- The answer of the store. -/
inductive Answer
  /-- The handle of a new object. -/
  | created (n : ℕ)
  /-- Whether the new value of a field differs from the old one. -/
  | changed (differs : Bool)
  /-- The object was printed. -/
  | printed
  /-- The object under `h`, to be shown as text. -/
  | text (h : ClassHandle) (obj : CInt × RawData)
  | object (obj : CInt × RawData)
  /-- There is no such object. -/
  | unknown
  deriving DecidableEq, Repr

namespace Store

/-- The object under a handle. -/
def find (s : Store) (h : ClassHandle) : Option (CInt × RawData) := s[h.toNat]?

/-- What the store does with a command on the object under `h`, and with a handle under which there
is none. -/
def onObject (s : Store) (h : ClassHandle) (f : CInt × RawData → Answer × Store) :
    Answer × Store :=
  match s.find h with
  | some obj => f obj
  | none => (.unknown, s)

/-- **What the store answers, and what it is afterwards.** -/
def react (s : Store) : Command → Answer × Store
  | .create => (.created s.length, s ++ [(0, [])])
  | .createInt ival => (.created s.length, s ++ [(ival, [])])
  | .createIntString ival str => (.created s.length, s ++ [(ival, str)])
  | .setIntegerValue h ival => s.onObject h fun obj =>
      (.changed (decide (ival ≠ obj.1)), s.set h.toNat (ival, obj.2))
  | .setStringValue h str => s.onObject h fun obj =>
      (.changed (decide (str ≠ obj.2)), s.set h.toNat (obj.1, str))
  | .printToCout h => s.onObject h fun _ => (.printed, s)
  | .printToString h => s.onObject h fun obj => (.text h obj, s)
  | .getInstance h => s.onObject h fun obj => (.object obj, s)

end Store

/-- The command creates an object. -/
def Command.isCreate : Command → Bool
  | create => true
  | createInt _ => true
  | createIntString _ _ => true
  | _ => false

theorem Store.length_react (s : Store) (c : Command) :
    (s.react c).2.length = s.length + if c.isCreate then 1 else 0 := by
  have hon : ∀ (h : ClassHandle) (f : CInt × RawData → Answer × Store),
      (∀ obj, (f obj).2.length = s.length) → (s.onObject h f).2.length = s.length := by
    intro h f hf
    rw [Store.onObject]
    cases s.find h with
    | none => rfl
    | some obj => exact hf obj
  cases c with
  | create => simp [Store.react, Command.isCreate]
  | createInt ival => simp [Store.react, Command.isCreate]
  | createIntString ival str => simp [Store.react, Command.isCreate]
  | setIntegerValue h ival => exact hon h _ fun obj => List.length_set
  | setStringValue h str => exact hon h _ fun obj => List.length_set
  | printToCout h => exact hon h _ fun obj => rfl
  | printToString h => exact hon h _ fun obj => rfl
  | getInstance h => exact hon h _ fun obj => rfl

/-! ### Commands as bytes -/

namespace Command

/-- The data of the request, as `DemoSimulator` writes it. -/
def encode : Command → RawData
  | create => createObjectRequest []
  | createInt ival => createObjectRequest [.int ival]
  | createIntString ival str => createObjectRequest [.int ival, .string str]
  | setIntegerValue h ival => createCallMethodRequest h (ascii "SetIntegerValue") [.int ival]
  | setStringValue h str => createCallMethodRequest h (ascii "SetStringValue") [.string str]
  | printToCout h => createCallMethodRequest h (ascii "PrintToCout") []
  | printToString h => createCallMethodRequest h (ascii "PrintToString") []
  | getInstance h => createRetrieveInstanceRequest h

/-- What the server takes the request for, given which handles exist. -/
def action (known : ClassHandle → Bool) : Command → Action
  | create => .create {}
  | createInt ival => .create { ival := ival }
  | createIntString ival str => .create { ival := ival, str := str }
  | setIntegerValue h ival => if known h then .call h (.setIntegerValue ival) else .reject
  | setStringValue h str => if known h then .call h (.setStringValue str) else .reject
  | printToCout h => if known h then .call h .printToCout else .reject
  | printToString h => if known h then .call h .printToString else .reject
  | getInstance h => if known h then .get h else .reject

/-- The string among the arguments. -/
def argument : Command → RawData
  | createIntString _ str => str
  | setStringValue _ str => str
  | _ => []

theorem length_argument_le (c : Command) : c.argument.length ≤ c.encode.length := by
  cases c with
  | createIntString ival str =>
      simp only [argument, encode, createObjectRequest, serializeArguments_int_string,
        List.length_append, length_serializeString]
      omega
  | setStringValue h str =>
      simp only [argument, encode, createCallMethodRequest, serializeArguments_string,
        List.length_append, length_serializeString]
      omega
  | _ => exact Nat.zero_le _

end Command

/-- **The server decodes every encoded command**, whatever bytes its string contains. -/
theorem decodeRequest_encode (known : ClassHandle → Bool) (id : RequestId) {c : Command}
    (hshort : c.argument.length < 2 ^ 31) :
    decodeRequest known (frameRequest id c.encode) = .ok (id, c.action known) := by
  have hcreate : ∀ (args : List AnyValue) (obj : CustomClass),
      decodeCreate (frameRequest id (createObjectRequest args)) 31 = .ok (some obj) →
      decodeRequest known (frameRequest id (createObjectRequest args)) =
        .ok (id, .create obj) := by
    intro args obj h
    rw [createObjectRequest, decodeRequest_frame]
    rw [createObjectRequest] at h
    rw [decodeCommand_create h]
    rfl
  have hcall : ∀ (h : ClassHandle) (m : MethodCall), (∀ v ∈ m.args, v.Short) →
      decodeRequest known (frameRequest id (createCallMethodRequest h m.name m.args)) =
        .ok (id, if known h then .call h m else .reject) := by
    intro h m hm
    rw [createCallMethodRequest, decodeRequest_frame,
      decodeCommand_call hm (commandAt_frame id _).2]
    rfl
  have hat := fun rest => (commandAt_frame id rest).2
  cases c with
  | create => exact hcreate [] {} (decodeCreate_nil (HasAt.left (hat _)) rfl)
  | createInt ival =>
      refine hcreate [.int ival] { ival := ival } (decodeCreate_int ?_ ?_)
      · rw [← serializeArguments_int]
        exact hat _
      · simp [createObjectRequest, ascii]
  | createIntString ival str =>
      refine hcreate [.int ival, .string str] { ival := ival, str := str }
        (decodeCreate_int_string hshort ?_ ?_)
      · rw [← serializeArguments_int_string]
        exact hat _
      · simp [createObjectRequest, ascii]
        omega
  | setIntegerValue h ival =>
      exact hcall h (.setIntegerValue ival) fun v hv => by
        rw [List.mem_singleton.1 hv]
        exact trivial
  | setStringValue h str =>
      exact hcall h (.setStringValue str) fun v hv => by
        rw [List.mem_singleton.1 hv]
        exact hshort
  | printToCout h => exact hcall h .printToCout nofun
  | printToString h => exact hcall h .printToString nofun
  | getInstance h =>
      rw [Command.encode, createRetrieveInstanceRequest, decodeRequest_frame,
        decodeCommand_get (hat _)]
      rfl

/-! ### Commands on the server -/

/-- A command as a client issues it. -/
structure Issued where
  clientId : ℕ
  id : RequestId
  command : Command

/-- The bytes the client sends. -/
def Issued.frame (m : Issued) : RawData := frameRequest m.id m.command.encode

/-- What the server returns for a command, if it is not stopped, and the state it leaves. -/
def serveCommand (env : AddressText) (w : ServerState) (m : Issued) :
    Option (Bool × ServerResponse) × ServerState :=
  match ((RequestParser.mk m.clientId).parseRequest env m.frame).run w with
  | .ok r w' => (some r, w')
  | .error _ w' => (none, w')

/-- What the store answers to a command, next to the id of the request. -/
def Store.serve (s : Store) (m : Issued) : (RequestId × Answer) × Store :=
  ((m.id, (s.react m.command).1), (s.react m.command).2)

/-- The object a pair stands for. -/
def toObject (p : CInt × RawData) : CustomClass := { ival := p.1, str := p.2 }

/-- **The registry stands for the store**: the counter is the number of objects, and under every
handle the registry has what the store has. -/
structure Represents (w : ServerState) (s : Store) : Prop where
  counter : w.registry.handleCounter = s.length
  objects : ∀ h, w.registry.instances.lookup h = (s.find h).map toObject

/-- **A response conveys an answer**: the framed response delivers the answer to the client under
the id of the request, and where the store has nothing to return there is no valid response. -/
def Conveys (env : AddressText) : Option (Bool × ServerResponse) → RequestId × Answer → Prop
  | some (flag, r), (id, .created n) => flag = true ∧ r.isValid = true ∧
      ∃ h : ClassHandle, h.toInt = n ∧ Delivers r.dataToSend id (.int h)
  | some (flag, r), (id, .changed differs) => flag = true ∧ r.isValid = true ∧
      Delivers r.dataToSend id (.bool differs)
  | some (flag, r), (_, .printed) => flag = true ∧ r.isValid = false
  | some (flag, r), (id, .text h obj) => flag = true ∧ r.isValid = true ∧
      Delivers r.dataToSend id (.string ((toObject obj).printToString (env.text h)))
  | some (flag, r), (id, .object obj) => flag = true ∧ r.isValid = true ∧
      ∃ str, Delivers r.dataToSend id (.string str) ∧
        CustomClass.deserialize str = .ok (toObject obj)
  | some (flag, r), (_, .unknown) => flag = false ∧ r.isValid = false
  | none, _ => False

section Step

variable {w : ServerState} {s : Store} {h : ClassHandle} {p : CInt × RawData}

theorem Represents.known (hr : Represents w s) (h : ClassHandle) :
    w.known h = (s.find h).isSome := by
  rw [Bool.eq_iff_iff, ServerState.known_eq_true, ← Finmap.lookup_isSome, hr.objects,
    Option.isSome_map]

theorem Represents.object (hr : Represents w s) (hp : s.find h = some p) :
    w.object h = toObject p := by
  rw [ServerState.object, hr.objects, hp]
  rfl

/-- A new object goes to the end of the store. -/
theorem Represents.create (hr : Represents w s) (hw : RegistryInv w.registry)
    (hlt : s.length < 2 ^ 31) (obj : CustomClass) :
    Represents ((Action.create obj).perform w) (s ++ [(obj.ival, obj.str)]) := by
  have hlt' : w.registry.handleCounter < 2 ^ 31 := hr.counter ▸ hlt
  have hnext := ClassRegistry.toNat_nextHandle hlt'
  rw [hr.counter] at hnext
  constructor
  · rw [List.length_append, List.length_singleton, ← hr.counter]
    rfl
  · intro h
    change (w.registry.create obj).2.instances.lookup h = _
    rw [hw.numbered.lookup_create hlt', Store.find]
    split
    · next heq => rw [heq, hnext, List.getElem?_concat_length]; rfl
    · next hne =>
        have hval : h.toNat ≠ s.length := fun heq =>
          hne (BitVec.eq_of_toNat_eq (heq.trans hnext.symm))
        rw [hr.objects, Store.find]
        rcases Nat.lt_or_ge h.toNat s.length with hin | hout
        · rw [List.getElem?_append_left hin]
        · rw [List.getElem?_eq_none hout, List.getElem?_eq_none]
          rw [List.length_append, List.length_singleton]
          omega

/-- A write goes to its place in the store. -/
theorem Represents.called (hr : Represents w s) (hp : s.find h = some p) (m : Member)
    (q : CInt × RawData) : Represents (w.called h m (toObject q)) (s.set h.toNat q) := by
  have hin : h.toNat < s.length := (List.getElem?_eq_some_iff.1 hp).1
  constructor
  · rw [List.length_set, ← hr.counter]
    rfl
  · intro h'
    change (w.registry.assign h (toObject q)).instances.lookup h' = _
    rw [Store.find, List.getElem?_set]
    by_cases hh : h' = h
    · subst hh
      rw [ClassRegistry.lookup_assign_self, if_pos rfl, if_pos hin]
      rfl
    · have hval : h.toNat ≠ h'.toNat := fun heq => hh (BitVec.eq_of_toNat_eq heq.symm)
      rw [ClassRegistry.lookup_assign_of_ne _ _ hh, if_neg hval, hr.objects, Store.find]

/-- A call that writes nothing leaves the store as it is. -/
theorem Represents.called_self (hr : Represents w s) (hp : s.find h = some p) (m : Member) :
    Represents (w.called h m (w.object h)) s := by
  have hknown : w.known h = true := by rw [hr.known, hp]; rfl
  constructor
  · rw [ServerState.registry_called_self hknown, hr.counter]
  · intro h'
    rw [ServerState.registry_called_self hknown, hr.objects]

/-- On a handle under which there is nothing, the server rejects what the store does not know. -/
theorem Represents.unknown (hr : Represents w s) (hp : s.find h = none) : w.known h = false := by
  rw [hr.known, hp]
  rfl

theorem Represents.found (hr : Represents w s) (hp : s.find h = some p) : w.known h = true := by
  rw [hr.known, hp]
  rfl

/-- **The registry follows the store.** -/
theorem represents_perform (hr : Represents w s) (hw : RegistryInv w.registry)
    (hlt : s.length < 2 ^ 31) (c : Command) :
    Represents ((c.action w.known).perform w) (s.react c).2 := by
  -- a command on an object either finds it on both sides or on neither
  have hon : ∀ (h : ClassHandle) (a : Action) (f : CInt × RawData → Answer × Store),
      (∀ obj, s.find h = some obj → Represents (a.perform w) (f obj).2) →
      Represents ((if w.known h then a else .reject).perform w) (s.onObject h f).2 := by
    intro h a f hf
    rw [Store.onObject]
    cases hp : s.find h with
    | none =>
        rw [hr.unknown hp]
        exact hr
    | some obj =>
        rw [hr.found hp]
        exact hf obj hp
  cases c with
  | create => exact hr.create hw hlt {}
  | createInt ival => exact hr.create hw hlt { ival := ival }
  | createIntString ival str => exact hr.create hw hlt { ival := ival, str := str }
  | setIntegerValue h ival =>
      refine hon h _ _ fun obj hp => ?_
      have hcalled := hr.called hp .setIntegerValue (ival, obj.2)
      rwa [show toObject (ival, obj.2) = { w.object h with ival := ival } by
        rw [hr.object hp]; rfl] at hcalled
  | setStringValue h str =>
      refine hon h _ _ fun obj hp => ?_
      have hcalled := hr.called hp .setStringValue (obj.1, str)
      rwa [show toObject (obj.1, str) = { w.object h with str := str } by
        rw [hr.object hp]; rfl] at hcalled
  | printToCout h => exact hon h _ _ fun obj hp => hr.called_self hp _
  | printToString h => exact hon h _ _ fun obj hp => hr.called_self hp _
  | getInstance h => exact hon h _ _ fun obj hp => hr.called_self hp _

/-- **The response conveys what the store answers.** -/
theorem conveys_answer (env : AddressText) (id : RequestId) (hr : Represents w s)
    (hw : RegistryInv w.registry) (hlt : s.length < 2 ^ 31) {c : Command}
    (hknown : ∀ h, (c.action w.known).target = some h → w.known h = true) :
    Conveys env (some ((c.action w.known).answer env id w)) (id, (s.react c).1) := by
  have hvalue : ∀ v, (c.action w.known).responseValue env w = some v →
      ((c.action w.known).answer env id w).2.isValid = true ∧
        Delivers ((c.action w.known).answer env id w).2.dataToSend id v := fun v hv =>
    have hdel := Action.delivers_answer id hv (hw.short_responseValue hv)
    ⟨hdel.1, hdel.2.2⟩
  have hcreated : ∀ obj, c.action w.known = .create obj → (s.react c).1 = .created s.length →
      Conveys env (some ((c.action w.known).answer env id w)) (id, (s.react c).1) := by
    intro obj ha hans
    rw [ha] at hvalue ⊢
    rw [hans]
    obtain ⟨hvalid, hdel⟩ := hvalue _ rfl
    refine ⟨rfl, hvalid, _, ?_, hdel⟩
    rw [ClassRegistry.nextHandle, hr.counter, toInt_ofNat_of_lt hlt]
  -- on an object, the two sides agree on whether it exists
  have hon : ∀ (h : ClassHandle) (a : Action) (f : CInt × RawData → Answer × Store),
      c.action w.known = (if w.known h then a else .reject) → s.react c = s.onObject h f →
      (∀ obj, s.find h = some obj → c.action w.known = a →
        Conveys env (some (a.answer env id w)) (id, (f obj).1)) →
      Conveys env (some ((c.action w.known).answer env id w)) (id, (s.react c).1) := by
    intro h a f ha hs hf
    rw [hs, Store.onObject]
    cases hp : s.find h with
    | none =>
        rw [ha, hr.unknown hp]
        exact ⟨rfl, rfl⟩
    | some obj =>
        rw [hr.found hp, if_pos rfl] at ha
        rw [ha]
        exact hf obj hp ha
  cases c with
  | create => exact hcreated _ rfl rfl
  | createInt ival => exact hcreated _ rfl rfl
  | createIntString ival str => exact hcreated _ rfl rfl
  | setIntegerValue h ival =>
      refine hon h _ _ rfl rfl fun obj hp ha => ?_
      rw [ha] at hvalue
      obtain ⟨hvalid, hdel⟩ := hvalue _ rfl
      rw [hr.object hp] at hdel
      exact ⟨rfl, hvalid, hdel⟩
  | setStringValue h str =>
      refine hon h _ _ rfl rfl fun obj hp ha => ?_
      rw [ha] at hvalue
      obtain ⟨hvalid, hdel⟩ := hvalue _ rfl
      rw [hr.object hp] at hdel
      exact ⟨rfl, hvalid, hdel⟩
  | printToCout h => exact hon h _ _ rfl rfl fun obj hp ha => ⟨rfl, rfl⟩
  | printToString h =>
      refine hon h _ _ rfl rfl fun obj hp ha => ?_
      rw [ha] at hvalue
      obtain ⟨hvalid, hdel⟩ := hvalue _ rfl
      rw [hr.object hp] at hdel
      exact ⟨rfl, hvalid, hdel⟩
  | getInstance h =>
      refine hon h _ _ rfl rfl fun obj hp ha => ?_
      rw [ha] at hvalue
      obtain ⟨hvalid, hdel⟩ := hvalue _ rfl
      have hshort := hw.short h _ (w.lookup_object (hr.found hp))
      rw [hr.object hp] at hdel hshort
      rw [kBuffSize] at hshort
      exact ⟨rfl, hvalid, _, hdel, CustomClass.deserialize_serialize (by omega)⟩

/-- **One command.**  When the registry stands for the store, the response conveys the answer and
the new registry stands for the new store. -/
theorem represents_step (env : AddressText) (m : Issued) (hr : Represents w s)
    (hw : RegistryInv w.registry) (hfits : m.frame.length ≤ kBuffSize)
    (hlt : s.length < 2 ^ 31) :
    Conveys env (serveCommand env w m).1 (s.serve m).1 ∧
      Represents (serveCommand env w m).2 (s.serve m).2 ∧
      RegistryInv (serveCommand env w m).2.registry := by
  obtain ⟨clientId, id, c⟩ := m
  have hfits' : (frameRequest id c.encode).length ≤ kBuffSize := hfits
  have hlen : c.argument.length ≤ kBuffSize := by
    rw [length_frameRequest] at hfits'
    exact c.length_argument_le.trans (by omega)
  have hdecode := decodeRequest_encode w.known id (c := c)
    (hlen.trans_lt (by rw [kBuffSize]; omega))
  -- what the server does is to perform the action and to answer it
  have hserve : serveCommand env w ⟨clientId, id, c⟩ =
      (some ((c.action w.known).answer env id w), (c.action w.known).perform w) := by
    rw [serveCommand, RequestParser.parseRequest_eq, Issued.frame, hdecode]
  obtain ⟨htarget, hstored⟩ := action_of_decodeRequest hfits hdecode
  have hknown := fun h ht => (htarget h ht).1
  rw [hserve]
  exact ⟨conveys_answer env id hr hw hlt hknown, represents_perform hr hw hlt c,
    hw.perform (hr.counter ▸ hlt) hknown (hstored.trans (Nat.sub_le _ _))⟩

end Step

/-! ### Runs -/

/-- The creates that are left fit the handles that are left. -/
theorem guarded_of_creates :
    ∀ {is : List Issued} {s : Store}, (∀ m ∈ is, m.frame.length ≤ kBuffSize) →
      s.length + (is.filter fun m => m.command.isCreate).length < 2 ^ 31 →
      Guarded Store.serve (fun s m => m.frame.length ≤ kBuffSize ∧ s.length < 2 ^ 31) s is := by
  intro is
  induction is with
  | nil => exact fun _ _ => trivial
  | cons m is ih =>
      intro s hfits hcreates
      refine ⟨⟨hfits m List.mem_cons_self, by omega⟩, ?_⟩
      refine ih (fun m' hm' => hfits m' (List.mem_cons_of_mem _ hm')) ?_
      have hlen : (s.serve m).2.length = s.length + if m.command.isCreate then 1 else 0 :=
        s.length_react m.command
      rw [hlen]
      rw [List.filter_cons] at hcreates
      split at hcreates
      · next hc => rw [if_pos hc]; rw [List.length_cons] at hcreates; omega
      · next hc => rw [if_neg hc]; omega

/-- **Every run of the server is a run of the store.**  Whatever commands any clients issue, in any
order, under any ids and with any bytes in their strings, as long as each framed request fits the
buffer of the server and fewer than `2 ^ 31` objects are created: one by one the responses convey
the answers of the store, and the registry stands for the store. -/
theorem server_refines_store (env : AddressText) (is : List Issued)
    (hfits : ∀ m ∈ is, m.frame.length ≤ kBuffSize)
    (hcreates : (is.filter fun m => m.command.isCreate).length < 2 ^ 31) :
    List.Forall₂ (Conveys env) (respond (serveCommand env) {} is).1 (respond Store.serve [] is).1 ∧
      Represents (respond (serveCommand env) {} is).2 (respond Store.serve [] is).2 := by
  have hempty : Represents {} [] := ⟨rfl, fun h => rfl⟩
  have hsim := simulation (f := serveCommand env) (g := Store.serve)
    (R := fun w s => Represents w s ∧ RegistryInv w.registry) (Q := Conveys env)
    (G := fun s m => m.frame.length ≤ kBuffSize ∧ s.length < 2 ^ 31)
    (fun w s m hR hG => represents_step env m hR.1 hR.2 hG.1 hG.2)
    ⟨hempty, registryInv_empty⟩
    (guarded_of_creates hfits (by simpa using hcreates))
  exact ⟨hsim.1, hsim.2.1⟩

/-- Two clients: one creates an object and writes it, the other one reads it, and one that does not
exist. -/
def fourCommands : List Issued :=
  [⟨0, 1, .create⟩, ⟨0, 2, .setStringValue 0 (ascii "#c")⟩, ⟨1, 1, .getInstance 0⟩,
    ⟨1, -5, .getInstance 7⟩]

/-- What the store answers to the four commands, the server conveys. -/
theorem fourCommands_conveyed :
    List.Forall₂ (Conveys default) (respond (serveCommand default) {} fourCommands).1
      [(1, .created 0), (2, .changed true), (1, .object (0, ascii "#c")), (-5, .unknown)] :=
  (server_refines_store default fourCommands (by decide) (by decide)).1

end NamedPipeDemo
