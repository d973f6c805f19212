/-
**The size of a response.**

The client reads a response into a buffer of `kBufSize` bytes, and the asynchronous client reads
once.  The server accepts requests of at most as many bytes, so no string it stores is longer than
a request can carry.  That bounds every response but one: the printed form of an object holds its
string together with three labels, a number and an address, and they take more room than what is in
front of the string in the request that stored it.

Main definitions:

* `NamedPipeDemo.Fits` — the response to a message fits the client's buffer;
* `NamedPipeDemo.LongPrint` — the message prints an object whose string, number and address are
  together too long.

Main results:

* `NamedPipeDemo.decodeRequest_eq_printToString_iff` — where the bytes ask for the printed form;
* `NamedPipeDemo.responses_fit_iff` — **over a whole run, every response fits exactly when no
  message prints a long object**.
-/

import NamedPipeDemo.Backtracking
import NamedPipeDemo.Client
import NamedPipeDemo.ObjectStore

set_option relaxedAutoImplicit false
set_option autoImplicit false

namespace NamedPipeDemo

open Segment LabelledRuns

/-! ### Printing an object -/

/-- The bytes behind the class name name the object under `h` and call `PrintToString` on it. -/
def PrintsAt (known : ClassHandle → Bool) (data : RawData) (id : RequestId) (h : ClassHandle) :
    Prop :=
  ∃ n k, CommandAt data id n ∧ TargetAt data n h k ∧ known h = true ∧
    HasAt data k [chr '#', chr 'm'] ∧ HasAt data (k + 2) (serializeString kPrintToStringMethodName)

section Print

variable {known : ClassHandle → Bool} {data : RawData} {id : RequestId} {h : ClassHandle}

/-- **The bytes ask for the printed form exactly when they spell its call.** -/
theorem decodeRequest_eq_printToString_iff (hsize : data.length ≤ maxSize) :
    decodeRequest known data = .ok (id, .call h .printToString) ↔ PrintsAt known data id h := by
  rw [decodeRequest_eq_call_iff hsize]
  constructor
  · rintro ⟨n, k, hcmd, ht, hk, hm⟩
    by_cases hkey : HasAt data k [chr '#', chr 'm']
    · rcases decodeMethod_cases hsize hkey hm with ⟨c, hc, hname⟩ | hno | ⟨j, hno, _⟩
      · cases hc
        exact ⟨n, k, hcmd, ht, hk, hkey, hname⟩
      · cases hno
      · cases hno
    · -- without the keyword there is no method call
      rw [decodeMethod_of_not hkey] at hm
      cases hm
  · rintro ⟨n, k, hcmd, ht, hk, hkey, hname⟩
    refine ⟨n, k, hcmd, ht, hk, ?_⟩
    have hstr := parseString_of_stringAt (stringAt_of_hasAt (by decide) hname)
    rw [decodeMethod, hasKeyword_of_hasAt hkey]
    simp only [ok_bind, hstr]
    rfl

end Print

/-! ### One response -/

/-- What `Server::SendResponseToClient` writes for this message fits the client's buffer. -/
def Fits (env : AddressText) (w : ServerState) (m : Incoming) : Prop :=
  ∀ frame w', (handleClientRequest m.clientId env m.data).run w = .ok (some frame) w' →
    frame.length ≤ kBufSize

/-- The message prints an object whose string, number and address do not leave room for the frame
and the labels. -/
def LongPrint (env : AddressText) (w : ServerState) (m : Incoming) : Prop :=
  ∃ id h, PrintsAt w.known m.data id h ∧
    kBufSize < (env.text h).length + (decimal (w.object h).ival).length +
      (w.object h).str.length + 70

section Response

variable {env : AddressText} {w : ServerState} {m : Incoming}

/-- **A response fits exactly when it is not the printed form of a long object.** -/
theorem fits_iff (hw : w.StringsWithin (kBuffSize - 32)) (hlen : m.data.length ≤ kBuffSize) :
    Fits env w m ↔ ¬ LongPrint env w m := by
  have hrun := handleClientRequest_eq m.clientId env m.data w
  have hsize := le_maxSize_of_le hlen
  constructor
  · rintro hfits ⟨id, h, hprints, hlong⟩
    rw [(decodeRequest_eq_printToString_iff hsize).2 hprints] at hrun
    have hle := hfits _ _ hrun
    rw [List.length_append, length_createRequestIdData, AnyValue.serialize,
      length_serializeString, CustomClass.length_printToString] at hle
    omega
  · intro hno frame w' hframe
    rw [hrun] at hframe
    cases hd : decodeRequest w.known m.data with
    | error e =>
        rw [hd] at hframe
        cases hframe
    | ok r =>
        obtain ⟨id, a⟩ := r
        rw [hd] at hframe
        simp only [EStateM.Result.ok.injEq, Option.map_eq_some_iff] at hframe
        obtain ⟨⟨v, hv, rfl⟩, _⟩ := hframe
        rw [List.length_append, length_createRequestIdData, Nat.add_comm]
        by_cases hprint : ∃ h, a = .call h .printToString
        · obtain ⟨h, rfl⟩ := hprint
          have hprints := (decodeRequest_eq_printToString_iff hsize).1 hd
          have hshort := Nat.not_lt.1 fun hlong => hno ⟨id, h, hprints, hlong⟩
          cases hv
          rw [AnyValue.serialize, length_serializeString, CustomClass.length_printToString]
          omega
        · have hle := hw.length_response_le_of_ne_print hv (not_exists.1 hprint)
          rw [kBuffSize] at hle
          rw [kBufSize]
          omega

end Response

/-! ### Runs -/

/-- **Every response fits exactly when no message prints a long object.**  From an empty registry,
over any run of messages that fit the server's buffer. -/
theorem responses_fit_iff (env : AddressText) (ms : List Incoming)
    (hms : ∀ m ∈ ms, m.data.length ≤ kBuffSize) :
    Along (serverStep env) (Fits env) {} ms ↔
      Along (serverStep env) (fun w m => ¬ LongPrint env w m) {} ms :=
  along_congr (I := ServerState.StringsWithin (kBuffSize - 32))
    (P := fun m => m.data.length ≤ kBuffSize)
    (fun _ _ _ hw hstep => hw.serverStep (Nat.le_refl _) hstep)
    (fun _ _ hw hlen => fits_iff hw hlen) (ServerState.stringsWithin_start _) hms

/-- A message that creates an object with a string of this length, and one that prints it. -/
def createThenPrint (n : ℕ) : List Incoming :=
  [⟨0, frameRequest 0 (Command.createIntString 0 (List.replicate n (chr 'x'))).encode⟩,
    ⟨0, frameRequest 1 (Command.printToString 0).encode⟩]

section Example

variable {n : ℕ}

theorem length_createThenPrint (hn : n ≤ 4052) :
    ∀ m ∈ createThenPrint n, m.data.length ≤ kBuffSize := by
  intro m hm
  rw [createThenPrint, List.mem_cons, List.mem_singleton] at hm
  rcases hm with rfl | rfl
  · simp only [length_frameRequest, Command.encode, createObjectRequest,
      serializeArguments_int_string, List.length_append, length_createCustomClassRequest,
      length_serializeInt, length_serializeString, List.length_replicate]
    have hkey : (ascii "#c").length = 2 := rfl
    rw [hkey, kBuffSize]
    omega
  · decide

/-- The state after the first message. -/
theorem serverStep_createThenPrint (hn : n ≤ 4052) :
    serverStep default {} ⟨0, frameRequest 0
        (Command.createIntString 0 (List.replicate n (chr 'x'))).encode⟩ =
      some ((Action.create { ival := 0, str := List.replicate n (chr 'x') }).perform {}) := by
  have hlen := length_createThenPrint hn _ List.mem_cons_self
  have hdec := decodeRequest_encode ({} : ServerState).known 0
    (c := .createIntString 0 (List.replicate n (chr 'x')))
    (by rw [Command.argument, List.length_replicate]; omega)
  rw [serverStep, if_pos hlen, endState_parseRequest, hdec]
  rfl

end Example

/-- **A string that one message stores does not fit the response to the next.** -/
theorem createThenPrint_overflows :
    ¬ Along (serverStep default) (Fits default) {} (createThenPrint 4052) := by
  rw [responses_fit_iff default _ (length_createThenPrint (Nat.le_refl _))]
  rintro ⟨_, hrest⟩
  have hprint := (hrest _ (serverStep_createThenPrint (Nat.le_refl _))).1
  refine hprint ⟨1, 0, (decodeRequest_eq_printToString_iff ?_).1 ?_, ?_⟩
  · decide
  · exact decodeRequest_encode _ 1 (c := .printToString 0) (by decide)
  · have hobj : ((Action.create { ival := 0, str := List.replicate 4052 (chr 'x') }).perform
        {}).object 0 = { ival := 0, str := List.replicate 4052 (chr 'x') } := rfl
    rw [hobj]
    simp only [List.length_replicate]
    rw [kBufSize]
    omega

/-- A short string fits. -/
theorem createThenPrint_fits :
    Along (serverStep default) (Fits default) {} (createThenPrint 5) := by
  have hshort : ∀ w m, w.StringsWithin 5 → ¬ LongPrint default w m := by
    rintro w m hw ⟨id, h, _, hlong⟩
    have hstr := hw h
    have hdec := CustomClass.length_decimal_le (w.object h).ival
    have haddr := (default : AddressText).length_le h
    rw [kBufSize] at hlong
    omega
  have hlen := length_createThenPrint (n := 5) (by omega)
  have hstart := ServerState.stringsWithin_start 5
  refine (responses_fit_iff default _ hlen).2 ⟨hshort _ _ hstart, fun t ht => ?_⟩
  rw [serverStep_createThenPrint (by omega), Option.some_inj] at ht
  subst ht
  exact ⟨hshort _ _ (hstart.perform (by decide)), fun _ _ => trivial⟩

end NamedPipeDemo
