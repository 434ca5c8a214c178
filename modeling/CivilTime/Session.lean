import CivilTime.Answer
import CivilTime.Batch
import CivilTime.DateTime.Clock

/-!
# Sessions

A session works with answers that it keeps in named slots. An `Action` derives a date-time from
values or from a slot, tries to change an answer in place, or asks a question about slots. A step is
an action with, perhaps, a slot for its answer. Only a step that succeeds changes a slot, and only
its target (`Session.slotsAfter`).

The operands of an action are attempts, since a kind in one of them may turn out not to be
declarable. An action looks at its slot first and at its operands then.
-/

namespace CivilTime

/-- Answers under the names of their slots. -/
abbrev Slots := List (String × Answer)

/-- The answer in a slot. -/
def Slots.get (slots : Slots) (name : String) : Attempt Answer :=
  match lookup name slots with
  | some a => .ok a
  | none => .error (.key (.str name))

/-- Slots and the answers in them, for a list of names. -/
def Slots.select (slots : Slots) (names : List String) : Attempt (List (String × Answer)) :=
  names.mapM fun name => do return (name, ← slots.get name)

/-- The slots in the order of their names. -/
def Slots.sorted (slots : Slots) : Slots :=
  slots.mergeSort fun a b => decide (a.1 ≤ b.1)

/-! ## Actions -/

/-- How a date-time comes about. -/
inductive Derivation where
  | parse (text : Attempt Value)
  | tryNew (numbers : Attempt (List Value))
  | new (named : Attempt (List (String × Value)))
  | ofSource (source : Attempt Source)
  | replace (slot : String) (named : Attempt (List (String × Value)))
  | bump (slot name : String) (op : Operation) (amount : Attempt Value)
  /-- Writes what is in a slot and reads it as a date-time. -/
  | reparse (slot : String)

/-- The date-time of a derivation. -/
def Derivation.result (slots : Slots) : Derivation → Traced DateTime
  | .parse text => do
    DateTime.parse (← text)
  | .tryNew numbers => do
    DateTime.tryNewOf (← numbers)
  | .new named => do
    DateTime.new (← named)
  | .ofSource source => do
    DateTime.ofSource (← source)
  | .replace slot named => do
    let a ← slots.get slot
    a.replace (← named)
  | .bump slot name op amount => do
    let a ← slots.get slot
    a.bump name op amount
  | .reparse slot => do
    let a ← slots.get slot
    DateTime.parseText (← a.text)

/-- A question about slots. -/
inductive Question where
  | equal (a b : String)
  | less (a b : String)
  | distinct (slots : List String)
  | isComplete (slot : String)
  | table (slot : String)
  | overview (slots : List String)
  | complaints (slots : List String)

/-- What is found when a question is asked. -/
def Question.result (slots : Slots) : Question → Traced Finding
  | .equal a b => do
    let x ← slots.get a
    let y ← slots.get b
    return .truth (x.same y)
  | .less a b => do
    let x ← slots.get a
    let y ← slots.get b
    return .truth (← x.less y)
  | .distinct names => do
    let members ← (names.mapM fun name => do
      let a ← slots.get name
      let _ ← a.requireHash
      return a : Attempt (List Answer))
    return .count (distinctBy Answer.same members).length
  | .isComplete slot => do
    let a ← slots.get slot
    return .truth a.subject.isComplete
  | .table slot => do
    let a ← slots.get slot
    return .text (← a.subject.showTable)
  | .overview names => do
    let selected ← slots.select names
    return .text (← showOverview (mappingOf (selected.map fun s => (s.1, s.2.subject))))
  | .complaints names => do
    let texts ← (names.mapM fun name => do
      let a ← slots.get name
      return (name, Value.str (← a.text)) : Attempt (List (String × Value)))
    return .texts (← Batch.complaints (mappingOf texts))

/-- What a step of a session does. -/
inductive Action where
  | derive (how : Derivation)
  | assign (slot name : String) (value : Attempt Value)
  | delete (slot name : String)
  | ask (question : Question)

/-- The answer of an action. -/
def Action.result (slots : Slots) : Action → Traced Answer
  | .derive how => do
    return .dateTime (← how.result slots)
  | .assign slot name value => do
    let a ← slots.get slot
    a.assign name (← value)
  | .delete slot name => do
    let a ← slots.get slot
    a.delete name
  | .ask question => do
    return .finding (← question.result slots)

/-! ## Steps and runs -/

namespace Session

/-- An action and, perhaps, a slot for its answer. -/
structure Step where
  action : Action
  to? : Option String

/-- The slot an answer goes to. What is changed in place stays in its slot. -/
def Step.target? (s : Step) : Option String :=
  match s.action with
  | .assign slot .. => some slot
  | .delete slot .. => some slot
  | _ => s.to?

/-- The slots after a step with a target. -/
def slotsAfter (slots : Slots) (target? : Option String) (result : Attempt Answer) : Slots :=
  match target?, result with
  | some name, .ok a => insertEntry slots name a
  | _, _ => slots

/-- The slots after a step, and its answer. -/
def step (slots : Slots) (s : Step) : Slots × Traced Answer :=
  let result := s.action.result slots
  (slotsAfter slots s.target? result.outcome, result)

/-- The slots after a run. -/
def final (slots : Slots) (steps : List Step) : Slots :=
  steps.foldl (fun acc s => (step acc s).1) slots

/-- The answers of a run. -/
def run (slots : Slots) : List Step → List (Traced Answer)
  | [] => []
  | s :: rest => (step slots s).2 :: run (step slots s).1 rest

end Session

end CivilTime
