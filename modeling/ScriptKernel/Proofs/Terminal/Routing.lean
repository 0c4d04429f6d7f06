/-
**Which terminal hears what.**

* `log?_create`, `log?_drop`: what there is at each place when a terminal is made or dropped; `send_gone`: nothing is
  changed by what is sent to a terminal that is gone;
* `Message`, `received`: what can be sent, and the record of what has arrived; `outputs_received`, `events_received`,
  `stdout_received`: what such a record holds;
* `Step`, `Bench`: what can be done with terminals and with references to them, any number of both;
* `Roll`, `Roll.Routes`: **which terminal a reference was made for**, directly or through clones, and whether that
  terminal has been dropped;
* `Kept.take`, `Kept.run`: the terminals that are there hold what arrived, whatever is done;
* `messages_routed`: so what is sent arrives exactly at the terminal of its reference, or nowhere.
-/

import ScriptKernel.Proofs.Terminal
import Mathlib.Data.List.Induction

set_option autoImplicit false

namespace ScriptKernel.Terminals

variable {terminals : Terminals} {reference : TerminalRef}

/-! ### Making, dropping and sending -/

/-- A new terminal has an empty record, behind all others. -/
theorem log?_create (terminals : Terminals) (place : Nat) :
    terminals.create.2.log? ⟨some place⟩ =
      if place = terminals.logs.size then some {} else terminals.log? ⟨some place⟩ := by
  show ((terminals.logs.push (some {}))[place]?).join = _
  rw [Array.getElem?_push]
  split <;> rfl

/-- Only the terminal dropped is gone. -/
theorem log?_drop (terminals : Terminals) (gone place : Nat) :
    (terminals.drop ⟨some gone⟩).log? ⟨some place⟩ =
      if place = gone then none else terminals.log? ⟨some place⟩ := by
  show ((terminals.logs.modify gone fun _ => none)[place]?).join = _
  rw [Array.getElem?_modify]
  by_cases same : gone = place
  · rw [if_pos same, if_pos same.symm]
    cases terminals.logs[place]? <;> rfl
  · rw [if_neg same, if_neg (Ne.symm same)]
    rfl

/-- What is sent to a terminal that is gone changes nothing. -/
theorem send_gone (gone : terminals.log? reference = none) (change : TerminalLog → TerminalLog) :
    terminals.send reference change = (false, terminals) := by
  have detached : terminals.isAttached reference = false := by rw [isAttached, gone]; rfl
  unfold send
  split
  · rfl
  · rw [if_neg (by rw [detached]; exact Bool.false_ne_true)]

/-- Sending makes and drops no terminal. -/
theorem size_send (terminals : Terminals) (reference : TerminalRef) (change : TerminalLog → TerminalLog) :
    (terminals.send reference change).2.logs.size = terminals.logs.size := by
  unfold send
  split
  · rfl
  · split
    · exact Array.size_modify
    · rfl

/-! ### Messages -/

/-- What can be sent to a terminal. -/
inductive Message
  | output (output : Output)
  | event (pid : Pid) (event : ProcessEvent)
  deriving DecidableEq

namespace Message

/-- Sends a message. -/
def sendTo (terminals : Terminals) (reference : TerminalRef) : Message → Bool × Terminals
  | .output written => terminals.write reference written
  | .event pid told => terminals.notify reference pid told

/-- What a message makes of a record. -/
def addTo (log : TerminalLog) : Message → TerminalLog
  | .output written => log.write written
  | .event pid told => log.notify pid told

/-- The text, if a message is one. -/
def output? : Message → Option Output
  | .output written => some written
  | .event .. => none

/-- The event, if a message is one. -/
def event? : Message → Option (Pid × ProcessEvent)
  | .output _ => none
  | .event pid told => some (pid, told)

/-- What a process wrote to its standard output, if a message is that. -/
def stdout? (pid : Pid) : Message → Option String
  | .output written => if written.pid = pid ∧ written.stream = .stdout then some written.text else none
  | .event .. => none

/-- What became of a process, if a message is that. -/
def eventOf? (pid : Pid) : Message → Option ProcessEvent
  | .output _ => none
  | .event other told => if other = pid then some told else none

theorem sendTo_eq (message : Message) (terminals : Terminals) (reference : TerminalRef) :
    message.sendTo terminals reference = terminals.send reference fun log => message.addTo log := by
  cases message <;> rfl

/-- A message is one more entry, with the texts or with the events. -/
theorem entry_addTo (message : Message) (log : TerminalLog) :
    (message.addTo log).outputs.toList = log.outputs.toList ++ message.output?.toList ∧
      (message.addTo log).events.toList = log.events.toList ++ message.event?.toList := by
  cases message with
  | output | event => constructor <;> simp [addTo, TerminalLog.write, TerminalLog.notify, output?, event?]

end Message

/-- The record of messages that arrived one after the other. -/
def received (messages : List Message) : TerminalLog := messages.foldl Message.addTo {}

theorem received_snoc (messages : List Message) (message : Message) :
    received (messages ++ [message]) = message.addTo (received messages) :=
  List.foldl_append

/-- The texts of a record are those that arrived, in order. -/
theorem outputs_received (messages : List Message) :
    (received messages).outputs.toList = messages.filterMap Message.output? := by
  induction messages using List.reverseRecOn with
  | nil => rfl
  | append_singleton messages message ih =>
    rw [received_snoc, (message.entry_addTo _).1, ih, List.filterMap_append]
    cases message <;> rfl

/-- So are its events. -/
theorem events_received (messages : List Message) :
    (received messages).events.toList = messages.filterMap Message.event? := by
  induction messages using List.reverseRecOn with
  | nil => rfl
  | append_singleton messages message ih =>
    rw [received_snoc, (message.entry_addTo _).2, ih, List.filterMap_append]
    cases message <;> rfl

/-- **The standard output of a process is what arrived of it**, in order. -/
theorem stdout_received (messages : List Message) (pid : Pid) :
    (received messages).stdout pid = String.join (messages.filterMap (Message.stdout? pid)) := by
  unfold TerminalLog.stdout
  rw [outputs_received, List.filter_filterMap, List.map_filterMap]
  congr 2
  funext message
  cases message with
  | output written =>
    show ((some written).filter _).map Output.text = if _ then _ else none
    rw [Option.filter_some]
    by_cases counts : written.pid = pid ∧ written.stream = .stdout
    · rw [if_pos counts, if_pos (by simpa using counts), Option.map_some]
    · rw [if_neg counts, if_neg (by simpa using counts), Option.map_none]
  | event => rfl

/-- So are the events of a process. -/
theorem eventsOf_received (messages : List Message) (pid : Pid) :
    (received messages).eventsOf pid = messages.filterMap (Message.eventOf? pid) := by
  unfold TerminalLog.eventsOf
  rw [events_received, List.filter_filterMap, List.map_filterMap]
  congr 1
  funext message
  cases message with
  | output => rfl
  | event other told =>
    by_cases same : other = pid
    · simp [Message.event?, Message.eventOf?, same]
    · simp [Message.event?, Message.eventOf?, same]

/-! ### Terminals and references -/

/-- What can be done. Terminals and references are numbered in the order in which they were made. -/
inductive Step
  | make
  | drop (terminal : Nat)
  | attach (terminal : Nat)
  | clone (reference : Nat)
  | detached
  | send (reference : Nat) (message : Message)
  deriving DecidableEq

/-- The terminals, those who hold them, and the references that hold none. -/
structure Bench where
  terminals : Terminals := {}
  made : List TerminalRef := []
  references : List TerminalRef := []

/-- What a terminal has received, if it is there. -/
def Bench.log? (bench : Bench) (terminal : Nat) : Option TerminalLog :=
  bench.made[terminal]?.bind bench.terminals.log?

/-- What a step answers, if it does, and what it leaves. Without the terminal or the reference it is for it does
nothing. -/
def Step.take (bench : Bench) : Step → Option Bool × Bench
  | .make =>
    let (terminal, terminals) := bench.terminals.create
    (none, { bench with terminals, made := bench.made ++ [terminal] })
  | .drop terminal =>
    (none, { bench with
      terminals := (bench.made[terminal]?.map bench.terminals.drop).getD bench.terminals })
  | .attach terminal =>
    (none, { bench with
      references := bench.references ++
        (bench.made[terminal]?.filter bench.terminals.isAttached).toList })
  | .clone reference =>
    (none, { bench with references := bench.references ++ bench.references[reference]?.toList })
  | .detached => (none, { bench with references := bench.references ++ [.detached] })
  | .send reference message =>
    match bench.references[reference]? with
    | none => (none, bench)
    | some handle =>
      let (arrived, terminals) := message.sendTo bench.terminals handle
      (some arrived, { bench with terminals })

variable {bench : Bench} {place : Nat} {handle : TerminalRef}

/-- Sending is what the reference does. -/
theorem take_send (found : bench.references[place]? = some handle) (message : Message) :
    (Step.send place message).take bench =
      (some (message.sendTo bench.terminals handle).1,
        { bench with terminals := (message.sendTo bench.terminals handle).2 }) := by
  simp only [Step.take, found]

/-- Without a reference nothing is sent. -/
theorem take_send_none (missing : bench.references[place]? = none) (message : Message) :
    (Step.send place message).take bench = (none, bench) := by
  simp only [Step.take, missing]

/-- What there is after some steps. -/
def run (bench : Bench) (steps : List Step) : Bench :=
  steps.foldl (fun bench step => (step.take bench).2) bench

/-- What there is after a history, which begins without any. -/
def after (past : List Step) : Bench := run {} past

theorem after_append (past later : List Step) : after (past ++ later) = run (after past) later :=
  List.foldl_append

/-! ### What references were made for -/

/-- How many terminals were made, which of them were dropped, and which terminal each reference was made for. -/
structure Roll where
  made : Nat := 0
  gone : List Nat := []
  targets : List (Option Nat) := []

/-- A terminal was made and has not been dropped. -/
def Roll.Present (roll : Roll) (terminal : Nat) : Prop := terminal < roll.made ∧ terminal ∉ roll.gone

instance (roll : Roll) (terminal : Nat) : Decidable (roll.Present terminal) :=
  inferInstanceAs (Decidable (_ ∧ _))

/-- **A reference was made for a terminal that has not been dropped.** -/
def Roll.Routes (roll : Roll) (reference terminal : Nat) : Prop :=
  roll.targets[reference]? = some (some terminal) ∧ roll.Present terminal

instance (roll : Roll) (reference terminal : Nat) : Decidable (roll.Routes reference terminal) :=
  inferInstanceAs (Decidable (_ ∧ _))

/-- What a step adds to the roll: what is sent adds nothing, and a clone is for the terminal of its original. -/
def Step.note (roll : Roll) : Step → Roll
  | .make => { roll with made := roll.made + 1 }
  | .drop terminal => if terminal < roll.made then { roll with gone := terminal :: roll.gone } else roll
  | .attach terminal =>
    if roll.Present terminal then { roll with targets := roll.targets ++ [some terminal] } else roll
  | .clone reference => { roll with targets := roll.targets ++ roll.targets[reference]?.toList }
  | .detached => { roll with targets := roll.targets ++ [none] }
  | .send .. => roll

/-- The roll after some steps. -/
def Roll.noted (roll : Roll) (steps : List Step) : Roll := steps.foldl Step.note roll

/-- The roll of a history. -/
def rollOf (past : List Step) : Roll := Roll.noted {} past

/-- The message that a step brings to a terminal, if it does. -/
def Step.arrival? (roll : Roll) (terminal : Nat) : Step → Option Message
  | .send reference message => if roll.Routes reference terminal then some message else none
  | .make | .drop _ | .attach _ | .clone _ | .detached => none

/-- **The messages that arrive at a terminal**, in order. -/
def arrivals (terminal : Nat) : Roll → List Step → List Message
  | _, [] => []
  | roll, step :: later => (step.arrival? roll terminal).toList ++ arrivals terminal (step.note roll) later

theorem rollOf_append (past later : List Step) : rollOf (past ++ later) = (rollOf past).noted later :=
  List.foldl_append

/-- A reference is for one terminal at most. -/
theorem Roll.Routes.unique {roll : Roll} {reference terminal other : Nat} (routes : roll.Routes reference terminal)
    (also : roll.Routes reference other) : other = terminal := by
  have same := routes.1.symm.trans also.1
  cases same
  rfl

/-- Steps only make more terminals, and drop those they say. -/
theorem Roll.noted_gone {roll : Roll} {terminal : Nat} (there : terminal < roll.made) (later : List Step) :
    terminal < (roll.noted later).made ∧
      (terminal ∈ (roll.noted later).gone ↔ terminal ∈ roll.gone ∨ .drop terminal ∈ later) := by
  induction later generalizing roll with
  | nil => exact ⟨there, by simp [noted]⟩
  | cons step rest ih =>
    have one : terminal < (step.note roll).made ∧
        (terminal ∈ (step.note roll).gone ↔ terminal ∈ roll.gone ∨ .drop terminal = step) := by
      cases step with
      | make => exact ⟨Nat.lt_succ_of_lt there, by simp [Step.note]⟩
      | drop other =>
        by_cases made : other < roll.made
        · rw [Step.note, if_pos made]
          exact ⟨there, by simp [or_comm]⟩
        · have different : terminal ≠ other := fun same => made (same ▸ there)
          rw [Step.note, if_neg made]
          exact ⟨there, by simp [different]⟩
      | attach other =>
        rw [Step.note]
        split <;> exact ⟨there, by simp⟩
      | clone | detached | send => exact ⟨there, by simp [Step.note]⟩
    have rest := ih one.1
    refine ⟨rest.1, rest.2.trans ?_⟩
    rw [one.2, or_assoc, List.mem_cons]

/-! ### What steps keep -/

/-- The terminals and references agree with the roll, and the terminals that are there hold what they heard. -/
structure Kept (roll : Roll) (heard : Nat → List Message) (bench : Bench) : Prop where
  made : bench.made = (List.range roll.made).map fun place => ⟨some place⟩
  size : bench.terminals.logs.size = roll.made
  references : bench.references = roll.targets.map TerminalRef.mk
  log : ∀ terminal, bench.terminals.log? ⟨some terminal⟩ =
    if roll.Present terminal then some (received (heard terminal)) else none
  unheard : ∀ terminal, roll.made ≤ terminal → heard terminal = []
  gone : ∀ terminal ∈ roll.gone, terminal < roll.made

variable {roll : Roll} {heard : Nat → List Message}

/-- Who made a terminal holds the one at its place. -/
theorem Kept.holds (kept : Kept roll heard bench) (terminal : Nat) :
    bench.made[terminal]? = if terminal < roll.made then some ⟨some terminal⟩ else none := by
  rw [kept.made, List.getElem?_map]
  by_cases there : terminal < roll.made
  · rw [List.getElem?_range there, if_pos there]
    rfl
  · rw [List.getElem?_eq_none (by rw [List.length_range]; omega), if_neg there]
    rfl

/-- What a terminal has received is what it heard. -/
theorem Kept.log?_eq (kept : Kept roll heard bench) (terminal : Nat) :
    bench.log? terminal = if roll.Present terminal then some (received (heard terminal)) else none := by
  unfold Bench.log?
  rw [kept.holds]
  by_cases there : terminal < roll.made
  · rw [if_pos there, Option.bind_some, kept.log]
  · rw [if_neg there, Option.bind_none, if_neg fun present => there present.1]

/-- So there is nothing else in its record. -/
theorem Kept.eq_received (kept : Kept roll heard bench) {terminal : Nat} {log : TerminalLog}
    (found : bench.log? terminal = some log) : log = received (heard terminal) := by
  rw [kept.log?_eq, Option.ite_none_right_eq_some] at found
  exact (Option.some.inj found.2).symm

/-- The terminal a reference is for is there exactly if it was made and has not been dropped. -/
theorem Kept.isAttached (kept : Kept roll heard bench) {reference : Nat} {handle : TerminalRef}
    (found : bench.references[reference]? = some handle) :
    bench.terminals.isAttached handle = true ↔ ∃ terminal, roll.Routes reference terminal := by
  rw [kept.references, List.getElem?_map, Option.map_eq_some_iff] at found
  obtain ⟨target, there, rfl⟩ := found
  cases target with
  | none =>
    constructor
    · intro attached
      cases attached
    · rintro ⟨terminal, routes, -⟩
      cases there.symm.trans routes
  | some place =>
    rw [Terminals.isAttached, kept.log]
    by_cases present : roll.Present place
    · rw [if_pos present]
      exact ⟨fun _ => ⟨place, there, present⟩, fun _ => rfl⟩
    · rw [if_neg present]
      constructor
      · intro attached
        cases attached
      · rintro ⟨terminal, routes, also⟩
        cases there.symm.trans routes
        exact absurd also present

/-- **What is sent to a reference arrives at its terminal and at no other.** -/
theorem Kept.send (kept : Kept roll heard bench) (reference : Nat) (message : Message) :
    Kept roll (fun terminal => heard terminal ++ ((Step.send reference message).arrival? roll terminal).toList)
      ((Step.send reference message).take bench).2 := by
  have unrouted : ∀ {terminal}, ¬ roll.Routes reference terminal →
      heard terminal ++ ((Step.send reference message).arrival? roll terminal).toList = heard terminal := by
    intro terminal astray
    rw [Step.arrival?, if_neg astray]
    exact List.append_nil _
  have unheard : ∀ terminal, roll.made ≤ terminal →
      heard terminal ++ ((Step.send reference message).arrival? roll terminal).toList = [] := by
    intro terminal beyond
    rw [unrouted fun routes => absurd routes.2.1 (Nat.not_lt.mpr beyond), kept.unheard terminal beyond]
  have target : bench.references[reference]? = roll.targets[reference]?.map TerminalRef.mk := by
    rw [kept.references, List.getElem?_map]
  cases there : roll.targets[reference]? with
  | none =>
    rw [there] at target
    rw [take_send_none target]
    have silent : ∀ terminal, ¬ roll.Routes reference terminal :=
      fun terminal routes => nomatch there.symm.trans routes.1
    exact { kept with
      log := fun terminal => by rw [unrouted (silent terminal), kept.log]
      unheard }
  | some place =>
    rw [there] at target
    rw [take_send target]
    refine { kept with
      size := ?_
      log := fun terminal => ?_
      unheard }
    · rw [← kept.size, Message.sendTo_eq]
      exact size_send ..
    · rw [Message.sendTo_eq]
      by_cases same : place = some terminal
      · subst same
        rw [log?_send, kept.log]
        by_cases present : roll.Present terminal
        · rw [if_pos present, if_pos present, Step.arrival?, if_pos ⟨there, present⟩]
          exact congrArg some (received_snoc ..).symm
        · rw [if_neg present, if_neg present]
          rfl
      · have elsewhere : (⟨some terminal⟩ : TerminalRef) ≠ ⟨place⟩ := fun equal => same (by cases equal; rfl)
        have astray : ¬ roll.Routes reference terminal := by
          rintro ⟨routes, -⟩
          cases there.symm.trans routes
          exact same rfl
        rw [log?_send_other _ elsewhere, kept.log, unrouted astray]

/-- A terminal that is made has heard nothing. -/
theorem Kept.make (kept : Kept roll heard bench) : Kept (Step.make.note roll) heard (Step.make.take bench).2 where
  made := by
    show bench.made ++ [⟨some bench.terminals.logs.size⟩] = (List.range (roll.made + 1)).map _
    rw [List.range_succ, List.map_append, kept.made, kept.size]
    rfl
  size := (Array.size_push _).trans (congrArg (· + 1) kept.size)
  references := kept.references
  log terminal := by
    show bench.terminals.create.2.log? ⟨some terminal⟩ = _
    rw [log?_create, kept.size, kept.log]
    by_cases last : terminal = roll.made
    · subst last
      have present : (Step.make.note roll).Present roll.made :=
        ⟨Nat.lt_succ_self _, fun gone => Nat.lt_irrefl _ (kept.gone _ gone)⟩
      rw [if_pos rfl, if_pos present, kept.unheard _ (Nat.le_refl _)]
      rfl
    · have unchanged : (Step.make.note roll).Present terminal ↔ roll.Present terminal := by
        show terminal < roll.made + 1 ∧ _ ↔ terminal < roll.made ∧ _
        rw [Nat.lt_succ_iff_lt_or_eq, or_iff_left last]
        rfl
      rw [if_neg last]
      simp only [unchanged]
  unheard terminal beyond := kept.unheard terminal (Nat.le_of_succ_le beyond)
  gone terminal gone := Nat.lt_succ_of_lt (kept.gone terminal gone)

/-- A terminal that is dropped is gone, and it alone. -/
theorem Kept.drop (kept : Kept roll heard bench) (terminal : Nat) :
    Kept ((Step.drop terminal).note roll) heard ((Step.drop terminal).take bench).2 := by
  simp only [Step.take, Step.note, kept.holds]
  by_cases there : terminal < roll.made
  · rw [if_pos there, if_pos there]
    refine { kept with
      size := Array.size_modify.trans kept.size
      log := fun other => ?_
      gone := List.forall_mem_cons.mpr ⟨there, kept.gone⟩ }
    show (bench.terminals.drop ⟨some terminal⟩).log? ⟨some other⟩ = _
    rw [log?_drop, kept.log]
    by_cases same : other = terminal
    · have absent : ¬ Roll.Present { roll with gone := terminal :: roll.gone } other :=
        fun present => present.2 (same ▸ List.mem_cons_self)
      rw [if_pos same, if_neg absent]
    · have unchanged : Roll.Present { roll with gone := terminal :: roll.gone } other ↔ roll.Present other := by
        simp [Roll.Present, same]
      rw [if_neg same]
      simp only [unchanged]
  · rw [if_neg there, if_neg there]
    exact kept

/-- References change nothing that was heard. -/
theorem Kept.refer (kept : Kept roll heard bench) (targets : List (Option Nat)) :
    Kept { roll with targets := roll.targets ++ targets } heard
      { bench with references := bench.references ++ targets.map TerminalRef.mk } :=
  { kept with
    references := by rw [kept.references, List.map_append]
    log := kept.log }

/-- A reference is made for a terminal that is there. -/
theorem Kept.attach (kept : Kept roll heard bench) (terminal : Nat) :
    Kept ((Step.attach terminal).note roll) heard ((Step.attach terminal).take bench).2 := by
  simp only [Step.take, Step.note, kept.holds]
  by_cases present : roll.Present terminal
  · have attached : bench.terminals.isAttached ⟨some terminal⟩ = true := by
      rw [Terminals.isAttached, kept.log, if_pos present, Option.isSome_some]
    rw [if_pos present, if_pos present.1, Option.filter_some, if_pos attached]
    exact kept.refer [some terminal]
  · rw [if_neg present]
    by_cases there : terminal < roll.made
    · have detached : ¬ bench.terminals.isAttached ⟨some terminal⟩ = true := by
        rw [Terminals.isAttached, kept.log, if_neg present]
        exact Bool.false_ne_true
      rw [if_pos there, Option.filter_some, if_neg detached]
      simpa using kept
    · rw [if_neg there]
      simpa using kept

/-- **Every step keeps to the roll**, and what terminals hear is what arrives. -/
theorem Kept.take (kept : Kept roll heard bench) (step : Step) :
    Kept (step.note roll) (fun terminal => heard terminal ++ (step.arrival? roll terminal).toList)
      (step.take bench).2 := by
  have silent : heard = fun terminal => heard terminal ++ (none : Option Message).toList :=
    funext fun terminal => (List.append_nil _).symm
  cases step with
  | make => exact silent ▸ kept.make
  | drop terminal => exact silent ▸ kept.drop terminal
  | attach terminal => exact silent ▸ kept.attach terminal
  | clone reference =>
    have cloned := kept.refer roll.targets[reference]?.toList
    rw [← Option.toList_map, ← List.getElem?_map, ← kept.references] at cloned
    exact silent ▸ cloned
  | detached => exact silent ▸ kept.refer [none]
  | send reference message => exact kept.send reference message

/-- **So do many.** -/
theorem Kept.run (kept : Kept roll heard bench) (later : List Step) :
    Kept (roll.noted later) (fun terminal => heard terminal ++ arrivals terminal roll later)
      (run bench later) := by
  induction later generalizing roll heard bench with
  | nil =>
    simp only [arrivals, List.append_nil]
    exact kept
  | cons step rest ih =>
    simp only [arrivals, ← List.append_assoc]
    exact ih (kept.take step)

/-- A history begins with nothing. -/
theorem kept_after (past : List Step) : Kept (rollOf past) (fun terminal => arrivals terminal {} past) (after past) := by
  have began : Kept {} (fun _ => []) {} :=
    { made := rfl, size := rfl, references := rfl, log := fun _ => rfl, unheard := fun _ _ => rfl, gone := nofun }
  exact began.run past

/-! ### What arrives where -/

/-- **What becomes of what is sent after a history.** -/
structure Routed (past : List Step) : Prop where
  /-- A message arrives exactly if its reference was made for a terminal that has not been dropped. -/
  sent : ∀ reference, reference < (after past).references.length → ∀ message,
    ∃ arrived, ((Step.send reference message).take (after past)).1 = some arrived ∧
      (arrived = true ↔ ∃ terminal, (rollOf past).Routes reference terminal)
  /-- Then it is one more entry of that terminal, of its texts or of its events, … -/
  added : ∀ reference terminal, (rollOf past).Routes reference terminal → ∀ message,
    ∃ log changed, (after past).log? terminal = some log ∧
      (after (past ++ [.send reference message])).log? terminal = some changed ∧
      changed.outputs.toList = log.outputs.toList ++ message.output?.toList ∧
      changed.events.toList = log.events.toList ++ message.event?.toList
  /-- … and of no other. -/
  aside : ∀ reference terminal, (rollOf past).Routes reference terminal → ∀ message other, other ≠ terminal →
    (after (past ++ [.send reference message])).log? other = (after past).log? other
  /-- Otherwise it changes nothing. -/
  lost : ∀ reference, (∀ terminal, ¬ (rollOf past).Routes reference terminal) → ∀ message,
    after (past ++ [.send reference message]) = after past
  /-- The standard output of a process is all it wrote there that arrived, in order. -/
  stdout : ∀ terminal log, (after past).log? terminal = some log → ∀ pid,
    log.stdout pid = String.join ((arrivals terminal {} past).filterMap (Message.stdout? pid))
  /-- The events are all that arrived, in order, … -/
  events : ∀ terminal log, (after past).log? terminal = some log →
    log.events.toList = (arrivals terminal {} past).filterMap Message.event?
  /-- … and those of a process are those among them that are of it. -/
  eventsOf : ∀ terminal log, (after past).log? terminal = some log → ∀ pid,
    log.eventsOf pid = log.events.toList.filterMap fun event =>
      if event.1 = pid then some event.2 else none
  /-- A reference is attached exactly as long as messages arrive. -/
  attached : ∀ reference handle, (after past).references[reference]? = some handle →
    ((after past).terminals.isAttached handle = true ↔
      ∃ terminal, (rollOf past).Routes reference terminal)
  /-- A terminal is there until it is dropped, … -/
  lasts : ∀ later, .drop (after past).made.length ∉ later →
    ((after (past ++ .make :: later)).log? (after past).made.length).isSome
  /-- … and no longer, whatever is done with the references to it. -/
  dropped : ∀ terminal, terminal < (after past).made.length → ∀ later,
    (after (past ++ .drop terminal :: later)).log? terminal = none ∧
      ∀ reference, ¬ (rollOf (past ++ .drop terminal :: later)).Routes reference terminal

/-- **So it is after every history.** -/
theorem messages_routed (past : List Step) : Routed past := by
  have kept := kept_after past
  have made : (after past).made.length = (rollOf past).made := by
    rw [kept.made, List.length_map, List.length_range]
  have next (step : Step) : after (past ++ [step]) = (step.take (after past)).2 := after_append past [step]
  constructor
  case sent =>
    intro reference there message
    have found := List.getElem?_eq_getElem there
    refine ⟨_, congrArg Prod.fst (take_send found message), ?_⟩
    rw [message.sendTo_eq, send_fst]
    exact kept.isAttached found
  case added =>
    intro reference terminal routes message
    have later := (kept.send reference message).log?_eq terminal
    rw [if_pos routes.2, Step.arrival?, if_pos routes] at later
    refine ⟨_, _, (kept.log?_eq terminal).trans (if_pos routes.2),
      (congrArg (Bench.log? · terminal) (next _)).trans later, ?_⟩
    rw [Option.toList_some, received_snoc]
    exact message.entry_addTo _
  case aside =>
    intro reference terminal routes message other different
    have astray : ¬ (rollOf past).Routes reference other := fun also => different (routes.unique also)
    rw [next, (kept.send reference message).log?_eq, Step.arrival?, if_neg astray, Option.toList_none,
      List.append_nil, kept.log?_eq]
  case lost =>
    intro reference astray message
    rw [next]
    cases found : (after past).references[reference]? with
    | none => rw [take_send_none found]
    | some handle =>
      have gone : (after past).terminals.log? handle = none := by
        have detached := mt (kept.isAttached found).mp (not_exists.mpr astray)
        exact Option.not_isSome_iff_eq_none.mp detached
      rw [take_send found, message.sendTo_eq, send_gone gone]
  case stdout =>
    intro terminal log found pid
    rw [kept.eq_received found, stdout_received]
  case events =>
    intro terminal log found
    rw [kept.eq_received found, events_received]
  case eventsOf =>
    intro terminal log found pid
    rw [kept.eq_received found, eventsOf_received, events_received, List.filterMap_filterMap]
    congr 1
    funext message
    cases message <;> rfl
  case attached => exact fun reference handle found => kept.isAttached found
  case lasts =>
    intro later lasting
    rw [made] at lasting ⊢
    have present : (rollOf (past ++ .make :: later)).Present (rollOf past).made := by
      have noted := @Roll.noted_gone (Step.make.note (rollOf past)) (rollOf past).made (Nat.lt_succ_self _) later
      rw [rollOf_append]
      refine ⟨noted.1, fun gone => ?_⟩
      rcases noted.2.mp gone with before | dropped
      · exact Nat.lt_irrefl _ (kept.gone _ before)
      · exact lasting dropped
    rw [(kept_after _).log?_eq, if_pos present]
    rfl
  case dropped =>
    intro terminal there later
    rw [made] at there
    have absent : ¬ (rollOf (past ++ .drop terminal :: later)).Present terminal := by
      have noted := Roll.noted_gone there (.drop terminal :: later)
      rw [rollOf_append]
      exact fun present => present.2 (noted.2.mpr (.inr List.mem_cons_self))
    refine ⟨?_, fun reference routes => absent routes.2⟩
    rw [(kept_after _).log?_eq, if_neg absent]

/-- A clone reaches the terminal as long as it is there. -/
example : (after [.make, .make, .attach 0, .clone 0, .attach 1, .send 1 (.output ⟨7, .stdout, "a"⟩),
    .send 2 (.output ⟨7, .stdout, "b"⟩), .drop 1, .send 2 (.output ⟨7, .stdout, "c"⟩),
    .send 0 (.output ⟨7, .stdout, "d"⟩)]).terminals.logs.map (Option.map (TerminalLog.stdout · 7)) =
      #[some "ad", none] := by decide +kernel

end ScriptKernel.Terminals
