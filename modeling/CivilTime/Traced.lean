import CivilTime.Failure

/-!
# Traced computations

A computation may print texts and leave records in a log before it ends with a result or a failure.
`Traced` keeps all three : what was printed and logged stays when the computation fails, and nothing
is printed or logged after the failure (`bind_error`). In a sequence of two the traces are joined in
order (`bind_ok`).

`Traced.observe` turns the outcome into a result, so that a failure can be looked at and the
computation goes on.
-/

namespace CivilTime

/-! ## The log -/

/-- What a record of the log reports. -/
inductive LogRecord where
  /-- A text is no date-time, and why. -/
  | rejected (text : String) (error : DateTimeError)
  /-- So many date-times were read from a file. -/
  | loaded (count : Nat) (file : String)

namespace LogRecord

/-- The name of the log a record goes to. -/
def logger : LogRecord → String
  | .rejected .. => "datetime_primitives.date"
  | .loaded .. => "datetime_primitives.loaders"

/-- The message of a record. -/
def message : LogRecord → String
  | .rejected text error => "Rejected date-time " ++ Text.quoted text ++ ": " ++ error.message
  | .loaded count file => "Loaded " ++ toString count ++ " date-times from " ++ file

/-- A record on one line : its level, its log and its message. -/
def line (r : LogRecord) : String :=
  "DEBUG:" ++ r.logger ++ ":" ++ r.message

end LogRecord

/-! ## Outcomes with a trace -/

/-- The outcome of a computation, with the texts it printed and the records it logged. -/
structure Traced (α : Type) where
  /-- Each printed text is followed by a newline. -/
  printed : List String
  log : List LogRecord
  outcome : Attempt α

namespace Traced

variable {α β : Type}

/-- An outcome without a trace. -/
def ofAttempt (outcome : Attempt α) : Traced α :=
  ⟨[], [], outcome⟩

/-- Two computations in sequence. The second one runs only if the first one succeeds. -/
def andThen (x : Traced α) (f : α → Traced β) : Traced β :=
  match x.outcome with
  | .ok a =>
    let y := f a
    ⟨x.printed ++ y.printed, x.log ++ y.log, y.outcome⟩
  | .error e => ⟨x.printed, x.log, .error e⟩

instance : Monad Traced where
  pure a := ofAttempt (.ok a)
  bind := andThen

instance : MonadLift Attempt Traced where
  monadLift := ofAttempt

/-- A failure. -/
def fail (cause : Failure) : Traced α :=
  ofAttempt (.error cause)

/-- Prints a text and a newline. -/
def print (text : String) : Traced Unit :=
  ⟨[text], [], .ok ()⟩

/-- Leaves a record in the log. -/
def record (r : LogRecord) : Traced Unit :=
  ⟨[], [r], .ok ()⟩

/-- The outcome as a result. -/
def observe (x : Traced α) : Traced (Attempt α) :=
  ⟨x.printed, x.log, .ok x.outcome⟩

/-- All that was printed. -/
def output (x : Traced α) : String :=
  String.join (x.printed.map (· ++ "\n"))

/-! ## The trace of a sequence -/

@[simp] theorem pure_eq (a : α) : (pure a : Traced α) = ⟨[], [], .ok a⟩ := rfl

@[simp] theorem ofAttempt_eq (outcome : Attempt α) : ofAttempt outcome = ⟨[], [], outcome⟩ := rfl

theorem bind_ok (printed : List String) (log : List LogRecord) (a : α) (f : α → Traced β) :
    (⟨printed, log, .ok a⟩ : Traced α) >>= f =
      ⟨printed ++ (f a).printed, log ++ (f a).log, (f a).outcome⟩ := rfl

theorem bind_error (printed : List String) (log : List LogRecord) (e : Failure)
    (f : α → Traced β) :
    (⟨printed, log, .error e⟩ : Traced α) >>= f = ⟨printed, log, .error e⟩ := rfl

theorem lift_eq (outcome : Attempt α) : (liftM outcome : Traced α) = ⟨[], [], outcome⟩ := rfl

theorem bind_pure_self (x : Traced α) : x >>= pure = x := by
  obtain ⟨printed, log, outcome⟩ := x
  cases outcome <;> simp [bind, andThen]

/-- In a sequence of three it does not matter which two are taken together. -/
theorem bind_bind {γ : Type} (x : Traced α) (f : α → Traced β) (g : β → Traced γ) :
    x >>= f >>= g = x >>= fun a => f a >>= g := by
  obtain ⟨printed, log, outcome⟩ := x
  cases outcome with
  | error e => rfl
  | ok a =>
    rw [bind_ok, bind_ok]
    cases h : (f a).outcome <;> simp [bind, andThen, h]

instance : LawfulMonad Traced :=
  LawfulMonad.mk' Traced bind_pure_self (fun _ _ => rfl) bind_bind

end Traced

end CivilTime
