/-
**The keyboard of `DemoSimulator`, and what its iteration counter counts.**

In the mode `MANUAL` the index of a demo is read from the keyboard: `help` is answered with the
help, every other line goes through `std::stoi`.  A line that is no number, or names no demo, gives
the index `-1`; no demo has it, and `ReadRequest` returns an empty request — but it counts the
iteration, unlike the empty request of a demo that finds no handle.  A number that does not fit an
`int` makes `std::stoi` throw `std::out_of_range`, which nothing catches.  And once the input has
ended, `std::getline` no longer waits: it returns an empty line at once, which is no number.

Main definitions:

* `NamedPipeDemo.stoi` — `std::stoi`;
* `NamedPipeDemo.readIndex` — the loop of `DemoSimulator::GetDemoIndex`;
* `NamedPipeDemo.DemoSimulator.readRequestFrom` — `DemoSimulator::ReadRequest` at the keyboard;
* `NamedPipeDemo.DemoHistory`, `NamedPipeDemo.historyStep` — a simulator, and the requests it has
  returned;
* `NamedPipeDemo.Accounted` — the counter counts the requests, and every call returns;
* `NamedPipeDemo.ValidLine` — the next line names a demo, and the input does not end before it.

Main results:

* `NamedPipeDemo.DemoSimulator.readRequest_counted_iff` — which calls count what they return;
* `NamedPipeDemo.demo_accounting_iff` — **the counter counts the requests exactly as long as every
  line names a demo.**
-/

import NamedPipeDemo.DemoRequests
import NamedPipeDemo.LabelledRuns

set_option relaxedAutoImplicit false
set_option autoImplicit false

namespace NamedPipeDemo

open LabelledRuns

/-! ### `std::stoi` -/

/-- `isspace` in the `"C"` locale. -/
def isSpace (b : Byte) : Bool := b.toNat = 32 || (9 ≤ b.toNat && b.toNat ≤ 13)

/-- A decimal digit. -/
def isDigit (b : Byte) : Bool := 48 ≤ b.toNat && b.toNat ≤ 57

/-- The exceptions of `std::stoi`. -/
inductive StoiError
  | invalidArgument
  | outOfRange
  deriving DecidableEq, Repr

/-- The value of a string of digits. -/
def digitsValue (digits : RawData) : ℕ := digits.foldl (fun n b => 10 * n + (b.toNat - 48)) 0

/-- `std::stoi`: white space, a sign, and digits; what follows them is ignored. -/
def stoi (str : RawData) : Except StoiError ℤ :=
  let str := str.dropWhile isSpace
  let sign := str.head?
  let digits := (if sign = some (chr '+') ∨ sign = some (chr '-') then str.tail else str).takeWhile
    isDigit
  if digits = [] then .error .invalidArgument
  else
    let val : ℤ := if sign = some (chr '-') then -digitsValue digits else digitsValue digits
    if val < -2 ^ 31 ∨ 2 ^ 31 ≤ val then .error .outOfRange else .ok val

/-! ### `ReadRequest` at the keyboard -/

/-- What the loop of `GetDemoIndex` comes to. -/
inductive KeyboardInput
  /-- It waits for the next line. -/
  | waiting
  /-- An exception leaves it. -/
  | threw
  /-- A line was read, which is this number if it is one; these lines are left. -/
  | line (typed : Option ℤ) (rest : List RawData)

/-- A line other than `help`; of the exceptions only `std::invalid_argument` is caught. -/
def lineIndex (input : RawData) (rest : List RawData) : KeyboardInput :=
  match stoi input with
  | .ok val => .line (some val) rest
  | .error .invalidArgument => .line none rest
  | .error .outOfRange => .threw

/-- The loop of `DemoSimulator::GetDemoIndex`, on the lines typed; `ended` says whether the input
ends behind them. -/
def readIndex (ended : Bool) : List RawData → KeyboardInput
  -- at the end of the input `std::getline` leaves the line empty, and does not wait
  | [] => if ended then lineIndex [] [] else .waiting
  | input :: rest =>
      if input = ascii "help" then readIndex ended rest else lineIndex input rest

/-- What a call of `ReadRequest` takes from outside, the keyboard apart: the two calls of `rand()`,
and the repository. -/
structure DemoCall where
  randIndex : ℕ := 0
  randHandle : ℕ := 0
  repository : ClassRepository := []

/-- What a call of `ReadRequest` comes to. -/
inductive ReadOutcome
  | waiting
  | threw
  | returned (request : ClientRequest DemoCallback) (sim : DemoSimulator) (rest : List RawData)

/-- The request and the simulator, once the number typed is known. -/
def DemoSimulator.readTyped (sim : DemoSimulator) (call : DemoCall) (typed : Option ℤ) :
    ClientRequest DemoCallback × DemoSimulator :=
  sim.readRequest { randIndex := call.randIndex, randHandle := call.randHandle, typed := typed }
    call.repository

/-- `DemoSimulator::ReadRequest`, with the lines that are typed. -/
def DemoSimulator.readRequestFrom (sim : DemoSimulator) (call : DemoCall) (lines : List RawData)
    (ended : Bool) : ReadOutcome :=
  match sim.mode with
  | .manual =>
      match readIndex ended lines with
      | .waiting => .waiting
      | .threw => .threw
      | .line typed rest =>
          .returned (sim.readTyped call typed).1 (sim.readTyped call typed).2 rest
  | _ => .returned (sim.readTyped call none).1 (sim.readTyped call none).2 lines

/-! ### Which calls are counted -/

namespace DemoSimulator

section Counted

variable {sim : DemoSimulator} {input : DemoInput} {repository : ClassRepository}

/-- The index is one of the demos, or `-1`. -/
theorem getDemoIndex_cases (sim : DemoSimulator) (input : DemoInput) :
    0 ≤ sim.getDemoIndex input ∧ sim.getDemoIndex input < 11 ∨ sim.getDemoIndex input = -1 := by
  have hmod (n : ℕ) : 0 ≤ ((n % kTotalDemos : ℕ) : ℤ) ∧ ((n % kTotalDemos : ℕ) : ℤ) < 11 := by
    have hlt : n % kTotalDemos < 11 := Nat.mod_lt n (by decide)
    omega
  unfold getDemoIndex
  split
  · exact Or.inl (hmod _)
  · exact Or.inl (hmod _)
  · split
    · split
      · exact Or.inr rfl
      · next hval =>
          rw [not_or, kTotalDemos] at hval
          omega
    · exact Or.inr rfl

/-- The number typed is taken if it is the number of a demo. -/
theorem getDemoIndex_nonneg_iff (hmode : sim.mode = .manual) :
    0 ≤ sim.getDemoIndex input ↔ ∃ val, input.typed = some val ∧ 0 ≤ val ∧ val ≤ 10 := by
  rw [getDemoIndex, hmode]
  cases input.typed with
  | none =>
      refine iff_of_false (by simp) ?_
      rintro ⟨val, hval, -⟩
      cases hval
  | some val =>
      have htotal : ((kTotalDemos : ℕ) : ℤ) = 11 := rfl
      simp only [Option.some_inj, exists_eq_left', htotal]
      split_ifs <;> omega

/-- The demos that need a handle write something. -/
theorem handleDemo_data_ne {demoIndex : ℤ} {handle : ClassHandle}
    {request : ClientRequest DemoCallback} (h : handleDemo demoIndex handle = some request) :
    request.data ≠ [] := by
  intro hnil
  have hzero : request.data.length = 0 := by rw [hnil]; rfl
  unfold handleDemo at h
  split at h <;> cases h
  all_goals
    simp only [length_createCallMethodRequest, length_createRetrieveInstanceRequest] at hzero
    omega

/-- They are the demos from six to ten. -/
theorem handleDemo_eq_none_iff {demoIndex : ℤ} (handle : ClassHandle) (hlt : demoIndex < 11) :
    handleDemo demoIndex handle = none ↔ demoIndex < 6 := by
  constructor
  · intro hnone
    by_contra hge
    obtain rfl | rfl | rfl | rfl | rfl : demoIndex = 6 ∨ demoIndex = 7 ∨ demoIndex = 8 ∨
        demoIndex = 9 ∨ demoIndex = 10 := by omega
    all_goals cases hnone
  · intro hplain
    unfold handleDemo
    split <;> first | rfl | omega

/-- The other demos write something, and an index without a demo writes nothing. -/
theorem plainDemo_data_eq_nil_iff {demoIndex : ℤ} (hlt : demoIndex < 6) :
    (plainDemo demoIndex).data = [] ↔ demoIndex < 0 := by
  constructor
  · intro hnil
    by_contra hge
    obtain rfl | rfl | rfl | rfl | rfl | rfl : demoIndex = 0 ∨ demoIndex = 1 ∨ demoIndex = 2 ∨
        demoIndex = 3 ∨ demoIndex = 4 ∨ demoIndex = 5 := by omega
    all_goals cases hnil
  · intro hneg
    unfold plainDemo
    split <;> first | rfl | omega

/-- The simulator after a call that is counted. -/
def counted (sim : DemoSimulator) : DemoSimulator :=
  { sim with currIteration := sim.currIteration + 1 }

/-- A call whose index is below six needs no handle. -/
theorem readRequest_of_plain (h : sim.getDemoIndex input < 6) :
    sim.readRequest input repository = (plainDemo (sim.getDemoIndex input), sim.counted) := by
  simp only [readRequest, (handleDemo_eq_none_iff _ (by omega)).2 h]
  rfl

/-- A call whose index is six or more returns nothing, and is not counted, when it finds no
handle. -/
theorem readRequest_of_handle (repository : ClassRepository)
    (h : 6 ≤ sim.getDemoIndex input) :
    ∃ request, request.data ≠ [] ∧ sim.readRequest input repository =
      if getClassHandleAtRandom input.randHandle repository = kInvalidClassHandle then ({}, sim)
      else (request, sim.counted) := by
  have hne : handleDemo (sim.getDemoIndex input)
      (getClassHandleAtRandom input.randHandle repository) ≠ none := by
    have hlt := sim.getDemoIndex_cases input
    rw [ne_eq, handleDemo_eq_none_iff _ (by omega)]
    omega
  obtain ⟨request, hrequest⟩ := Option.ne_none_iff_exists'.1 hne
  refine ⟨request, handleDemo_data_ne hrequest, ?_⟩
  simp only [readRequest, hrequest]
  rfl

/-- **A call counts what it returns exactly when its index is that of a demo**; a demo that finds no
handle returns nothing, and counts nothing. -/
theorem readRequest_counted_iff :
    (sim.readRequest input repository).2.currIteration = sim.currIteration +
        (if (sim.readRequest input repository).1.data = [] then 0 else 1) ↔
      0 ≤ sim.getDemoIndex input := by
  rcases Int.lt_or_le (sim.getDemoIndex input) 6 with hlt | hge
  · rw [readRequest_of_plain hlt]
    simp only [plainDemo_data_eq_nil_iff hlt, counted]
    split <;> omega
  · obtain ⟨request, hdata, heq⟩ := readRequest_of_handle repository hge
    refine iff_of_true ?_ (by omega)
    by_cases hhandle : getClassHandleAtRandom input.randHandle repository = kInvalidClassHandle
    · rw [heq, if_pos hhandle]
      rfl
    · rw [heq, if_neg hhandle, if_neg hdata]
      rfl

/-- A call leaves the mode and the number of iterations alone. -/
theorem readRequest_frame : (sim.readRequest input repository).2.mode = sim.mode ∧
    (sim.readRequest input repository).2.iterations = sim.iterations := by
  simp only [readRequest]
  split
  · split <;> exact ⟨rfl, rfl⟩
  · exact ⟨rfl, rfl⟩

end Counted

end DemoSimulator

/-! ### Runs of a simulator -/

/-- A simulator with the lines that are typed, whether the input ends behind them, and the number
of its calls of `ReadRequest` so far that have returned a request with data. -/
structure DemoHistory where
  sim : DemoSimulator
  lines : List RawData
  ended : Bool
  nonEmpty : ℕ := 0

/-- A simulator that was just made. -/
def DemoHistory.start (mode : SimulationMode) (iterations : ℕ) (lines : List RawData)
    (ended : Bool) : DemoHistory where
  sim := { mode := mode, iterations := iterations }
  lines := lines
  ended := ended

/-- **One call of `ReadRequest`**, if it returns. -/
def historyStep (s : DemoHistory) (call : DemoCall) : Option DemoHistory :=
  match s.sim.readRequestFrom call s.lines s.ended with
  | .returned request sim rest =>
      some ⟨sim, rest, s.ended, s.nonEmpty + (if request.data = [] then 0 else 1)⟩
  | _ => none

/-- The call returns once it has been given a line other than `help`, or the input has ended, if it
needs a line. -/
def Returns (s : DemoHistory) (call : DemoCall) : Prop :=
  (s.sim.mode = .manual → (∃ line ∈ s.lines, line ≠ ascii "help") ∨ s.ended = true) →
    ∃ s', historyStep s call = some s'

/-- The first line other than `help`, and the lines behind it. -/
def nextLine : List RawData → Option (RawData × List RawData)
  | [] => none
  | input :: rest => if input = ascii "help" then nextLine rest else some (input, rest)

/-- The first line other than `help`, if there is one, is the number of a demo; and there is one, if
the input has ended. -/
def ValidLine (s : DemoHistory) (_ : DemoCall) : Prop :=
  s.sim.mode = .manual →
    (∀ line rest, nextLine s.lines = some (line, rest) →
      ∃ val, stoi line = .ok val ∧ 0 ≤ val ∧ val ≤ 10) ∧
    (s.ended = true → nextLine s.lines ≠ none)

/-- The counter counts the requests. -/
def Counted (s : DemoHistory) : Prop := s.sim.currIteration = s.nonEmpty

/-- In every state reached the counter counts the requests, and every call returns. -/
def Accounted (s : DemoHistory) (calls : List DemoCall) : Prop :=
  Along historyStep Returns s calls ∧
    ∀ calls' s', calls' <+: calls → run historyStep s calls' = some s' → Counted s'

section History

variable {s s' : DemoHistory} {call : DemoCall} {lines : List RawData}

/-- Every line is `help`, or one of them is the next. -/
theorem nextLine_cases (lines : List RawData) :
    nextLine lines = none ∧ (∀ line ∈ lines, line = ascii "help") ∨
      ∃ line rest, nextLine lines = some (line, rest) ∧ line ∈ lines ∧ line ≠ ascii "help" := by
  induction lines with
  | nil => exact Or.inl ⟨rfl, fun line h => absurd h List.not_mem_nil⟩
  | cons input rest ih =>
      by_cases hhelp : input = ascii "help"
      · rw [nextLine, if_pos hhelp]
        rcases ih with ⟨hnone, hall⟩ | ⟨line, rest', hnext, hmem, hne⟩
        · refine Or.inl ⟨hnone, fun line hline => ?_⟩
          rcases List.mem_cons.1 hline with rfl | hline
          · exact hhelp
          · exact hall line hline
        · exact Or.inr ⟨line, rest', hnext, List.mem_cons_of_mem _ hmem, hne⟩
      · rw [nextLine, if_neg hhelp]
        exact Or.inr ⟨input, rest, rfl, List.mem_cons_self, hhelp⟩

/-- The loop of `GetDemoIndex` is over at the first line other than `help`, or where the input
ends. -/
theorem readIndex_eq (ended : Bool) (lines : List RawData) :
    readIndex ended lines = match nextLine lines with
      | none => if ended then .line none [] else .waiting
      | some (line, rest) => lineIndex line rest := by
  induction lines with
  | nil => rfl
  | cons input rest ih =>
      rw [readIndex, nextLine]
      split
      · exact ih
      · rfl

/-- What a call comes to that returns. -/
theorem historyStep_of_typed {typed : Option ℤ} {rest : List RawData}
    (h : s.sim.readRequestFrom call s.lines s.ended =
      .returned (s.sim.readTyped call typed).1 (s.sim.readTyped call typed).2 rest) :
    historyStep s call = some ⟨(s.sim.readTyped call typed).2, rest, s.ended,
      s.nonEmpty + (if (s.sim.readTyped call typed).1.data = [] then 0 else 1)⟩ := by
  rw [historyStep, h]

/-- **A call whose index is known keeps the counter right exactly when the index is that of a
demo.** -/
theorem counted_of_typed {typed : Option ℤ} {rest : List RawData} (hcounted : Counted s)
    (h : s.sim.readRequestFrom call s.lines s.ended =
      .returned (s.sim.readTyped call typed).1 (s.sim.readTyped call typed).2 rest) :
    (∀ t, historyStep s call = some t → Counted t) ↔
      0 ≤ s.sim.getDemoIndex ⟨call.randIndex, call.randHandle, typed⟩ := by
  have hiff : (s.sim.readTyped call typed).2.currIteration = s.sim.currIteration +
      (if (s.sim.readTyped call typed).1.data = [] then 0 else 1) ↔ _ :=
    DemoSimulator.readRequest_counted_iff
  rw [historyStep_of_typed h, ← hiff]
  unfold Counted at hcounted ⊢
  simp only [Option.some_inj, forall_eq', ← hcounted]

/-- A call that needs no line. -/
theorem validLine_iff_of_auto (hmode : s.sim.mode ≠ .manual) (hcounted : Counted s) :
    ValidLine s call ↔ Returns s call ∧ ∀ t, historyStep s call = some t → Counted t := by
  have hread : s.sim.readRequestFrom call s.lines s.ended =
      .returned (s.sim.readTyped call none).1 (s.sim.readTyped call none).2 s.lines := by
    rw [DemoSimulator.readRequestFrom]
    split
    · next hmanual => exact absurd hmanual hmode
    · rfl
  refine iff_of_true (fun hmanual => absurd hmanual hmode) ⟨fun _ => ?_, ?_⟩
  · exact ⟨_, historyStep_of_typed hread⟩
  · rw [counted_of_typed hcounted hread, DemoSimulator.getDemoIndex]
    split
    · exact Int.natCast_nonneg _
    · exact Int.natCast_nonneg _
    · next hmanual => exact absurd hmanual hmode

/-- A call that takes the line `typed`, which is no number if it is `none`. -/
theorem readRequestFrom_of_index (call : DemoCall) {typed : Option ℤ} {rest : List RawData}
    (hmode : s.sim.mode = .manual) (h : readIndex s.ended s.lines = .line typed rest) :
    s.sim.readRequestFrom call s.lines s.ended =
      .returned (s.sim.readTyped call typed).1 (s.sim.readTyped call typed).2 rest := by
  rw [DemoSimulator.readRequestFrom, hmode, h]

/-- **A call that takes a line returns, and keeps the counter right exactly when the line is the
number of a demo.** -/
theorem returns_and_counted_iff {typed : Option ℤ} {rest : List RawData}
    (hmode : s.sim.mode = .manual) (h : readIndex s.ended s.lines = .line typed rest)
    (hcounted : Counted s) :
    (Returns s call ∧ ∀ t, historyStep s call = some t → Counted t) ↔
      ∃ val, typed = some val ∧ 0 ≤ val ∧ val ≤ 10 := by
  have htyped := readRequestFrom_of_index call hmode h
  rw [counted_of_typed hcounted htyped, DemoSimulator.getDemoIndex_nonneg_iff hmode]
  exact and_iff_right fun _ => ⟨_, historyStep_of_typed htyped⟩

/-- A call that finds no line: it waits for one, or counts the end of the input. -/
theorem validLine_iff_of_none (hmode : s.sim.mode = .manual) (hnext : nextLine s.lines = none)
    (hall : ∀ line ∈ s.lines, line = ascii "help") (hcounted : Counted s) :
    ValidLine s call ↔ Returns s call ∧ ∀ t, historyStep s call = some t → Counted t := by
  have hindex := readIndex_eq s.ended s.lines
  rw [hnext] at hindex
  cases hended : s.ended with
  | false =>
      have hstep : historyStep s call = none := by
        rw [historyStep, DemoSimulator.readRequestFrom, hmode, hindex, hended]
        rfl
      refine iff_of_true (fun _ => ⟨fun line rest h => ?_, fun h => ?_⟩)
        ⟨fun hgiven => ?_, fun t ht => ?_⟩
      · rw [hnext] at h
        cases h
      · rw [hended] at h
        cases h
      · rcases hgiven hmode with ⟨line, hline, hne⟩ | h
        · exact absurd (hall line hline) hne
        · rw [hended] at h
          cases h
      · rw [hstep] at ht
        cases ht
  | true =>
      have htyped : readIndex s.ended s.lines = .line none [] := by rw [hindex, hended]; rfl
      refine iff_of_false (fun h => (h hmode).2 hended hnext) ?_
      rw [returns_and_counted_iff hmode htyped hcounted]
      rintro ⟨val, hval, -⟩
      cases hval

/-- A call that is given a line. -/
theorem validLine_iff_of_line {line : RawData} {rest : List RawData} (hmode : s.sim.mode = .manual)
    (hnext : nextLine s.lines = some (line, rest)) (hmem : line ∈ s.lines)
    (hne : line ≠ ascii "help") (hcounted : Counted s) :
    ValidLine s call ↔ Returns s call ∧ ∀ t, historyStep s call = some t → Counted t := by
  have hvalid : ValidLine s call ↔ ∃ val, stoi line = .ok val ∧ 0 ≤ val ∧ val ≤ 10 := by
    simp only [ValidLine, hmode, hnext, Option.some_inj, Prod.mk.injEq, forall_const, and_imp]
    refine ⟨fun h => h.1 line rest rfl rfl, fun h => ⟨fun l r hl _ => hl ▸ h, fun _ => ?_⟩⟩
    exact Option.some_ne_none _
  rw [hvalid]
  have hindex := readIndex_eq s.ended s.lines
  simp only [hnext, lineIndex] at hindex
  cases hstoi : stoi line with
  | ok val =>
      rw [hstoi] at hindex
      rw [returns_and_counted_iff hmode hindex hcounted]
      simp only [Except.ok.injEq, Option.some_inj]
  | error e =>
      have hnone : ¬ ∃ val : ℤ, Except.error e = .ok val ∧ 0 ≤ val ∧ val ≤ 10 := by
        rintro ⟨val, hval, -⟩
        cases hval
      refine iff_of_false hnone fun hcall => ?_
      cases e with
      | invalidArgument =>
          rw [hstoi] at hindex
          obtain ⟨val, hval, -⟩ := (returns_and_counted_iff hmode hindex hcounted).1 hcall
          cases hval
      | outOfRange =>
          rw [hstoi] at hindex
          obtain ⟨s', hs'⟩ := hcall.1 fun _ => Or.inl ⟨line, hmem, hne⟩
          rw [historyStep, DemoSimulator.readRequestFrom, hmode] at hs'
          simp only [hindex] at hs'
          cases hs'

/-- **A call keeps the counter right, and returns, exactly when the next line names a demo** and the
input has not ended before it. -/
theorem validLine_iff (hcounted : Counted s) :
    ValidLine s call ↔ Returns s call ∧ ∀ t, historyStep s call = some t → Counted t := by
  by_cases hmode : s.sim.mode = .manual
  · rcases nextLine_cases s.lines with ⟨hnext, hall⟩ | ⟨line, rest, hnext, hmem, hne⟩
    · exact validLine_iff_of_none hmode hnext hall hcounted
    · exact validLine_iff_of_line hmode hnext hmem hne hcounted
  · exact validLine_iff_of_auto hmode hcounted

end History

/-- A call whose simulator still has iterations to run. -/
def Wanted (s : DemoHistory) (_ : DemoCall) : Prop := s.sim.isGood = true

section Runs

variable {s s' : DemoHistory} {call : DemoCall}

/-- What a call comes to is what `readRequest` returns. -/
theorem exists_typed_of_step (h : historyStep s call = some s') :
    ∃ typed rest, s' = ⟨(s.sim.readTyped call typed).2, rest, s.ended,
      s.nonEmpty + (if (s.sim.readTyped call typed).1.data = [] then 0 else 1)⟩ := by
  rw [historyStep, DemoSimulator.readRequestFrom] at h
  split at h
  swap
  · cases h
  next request sim rest hread =>
  split at hread
  · split at hread <;> cases hread
    cases h
    exact ⟨_, _, rfl⟩
  · cases hread
    cases h
    exact ⟨_, _, rfl⟩

/-- A run whose counter is right, and which has not gone on for too long. -/
structure WithinIterations (iterations : ℕ) (s : DemoHistory) : Prop where
  counted : Counted s
  iterations_eq : s.sim.iterations = iterations
  le : s.sim.currIteration ≤ iterations

/-- A call that finds the number of a demo, while there are iterations left, keeps the bound. -/
theorem WithinIterations.step {iterations : ℕ} (h : WithinIterations iterations s)
    (hC : ValidLine s call ∧ Wanted s call) (hstep : historyStep s call = some s') :
    WithinIterations iterations s' := by
  have hcounted : Counted s' := ((validLine_iff h.counted).1 hC.1).2 s' hstep
  obtain ⟨typed, rest, rfl⟩ := exists_typed_of_step hstep
  have hgood : s.sim.currIteration < s.sim.iterations := of_decide_eq_true hC.2
  have hbefore : s.sim.currIteration = s.nonEmpty := h.counted
  have hafter : (s.sim.readTyped call typed).2.currIteration =
      s.nonEmpty + (if (s.sim.readTyped call typed).1.data = [] then 0 else 1) := hcounted
  refine ⟨hcounted, ?_, ?_⟩
  · exact DemoSimulator.readRequest_frame.2.trans h.iterations_eq
  · have heq := h.iterations_eq
    simp only [hafter]
    split <;> omega

end Runs

/-- **The accounting of a run.**  In every state reached the counter is the number of calls that
have returned a request with data, and every call returns once it has been given a line other than
`help`, exactly when every call finds the number of a demo in that line and the input does not end
before it.  Such a run of a client that ends has returned as many requests with data as it was asked
for. -/
theorem demo_accounting_iff (mode : SimulationMode) (iterations : ℕ) (lines : List RawData)
    (ended : Bool) (calls : List DemoCall) :
    (Accounted (.start mode iterations lines ended) calls ↔
      Along historyStep ValidLine (.start mode iterations lines ended) calls) ∧
    (Along historyStep (fun s call => ValidLine s call ∧ Wanted s call)
        (.start mode iterations lines ended) calls →
      ∀ s, run historyStep (.start mode iterations lines ended) calls = some s →
        s.sim.isGood = false → s.nonEmpty = iterations) := by
  constructor
  · have hstart : Counted (.start mode iterations lines ended) := rfl
    exact (along_iff_invariant (fun s call hs => validLine_iff hs) hstart).symm
  · intro hC s hrun hdone
    have hstart : WithinIterations iterations (.start mode iterations lines ended) :=
      ⟨rfl, rfl, Nat.zero_le _⟩
    have hs := invariant_along (fun _ _ _ h hC hstep => h.step hC hstep) hstart hC hrun
    have hge : ¬ s.sim.currIteration < s.sim.iterations := of_decide_eq_false hdone
    have hcounted : s.sim.currIteration = s.nonEmpty := hs.counted
    have hle := hs.le
    have heq := hs.iterations_eq
    omega

/-- A line that names no demo is counted, though nothing is sent, and so is the end of the input; a
number that does not fit an `int` makes the call throw. -/
theorem badLine_miscounted :
    ¬ Accounted (.start .manual 1 [ascii "11"] false) [{}] ∧
      ¬ Accounted (.start .manual 1 [] true) [{}] ∧
      ¬ Accounted (.start .manual 1 [ascii "4294967296"] false) [{}] := by
  refine ⟨?_, ?_, ?_⟩
  · rintro ⟨-, hcounted⟩
    have hone : 1 = 0 := hcounted [{}] _ (List.prefix_refl _) rfl
    cases hone
  · rintro ⟨-, hcounted⟩
    have hone : 1 = 0 := hcounted [{}] _ (List.prefix_refl _) rfl
    cases hone
  · rintro ⟨⟨hreturns, -⟩, -⟩
    obtain ⟨s', hs'⟩ := hreturns fun _ => Or.inl ⟨_, List.mem_singleton_self _, by decide⟩
    cases hs'

end NamedPipeDemo
