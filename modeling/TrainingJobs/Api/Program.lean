import TrainingJobs.Api.Request
import TrainingJobs.Time.Instant

/-!
# Programs

A program talks to the API server, prints, looks at the clock and takes rests, and comes to a
result or an error. What the server answers is not part of it: `run` lets it run against a list of
answers and tells what it did.
-/

namespace TrainingJobs

/-- A program with results in `α` and errors in `ε`. -/
inductive Program (ε α : Type) where
  | finish (result : Except ε α)
  /-- Send a request and go on with its answer. -/
  | send (request : Request) (next : Answer → Program ε α)
  /-- Print a text and a line feed. -/
  | print (text : String) (next : Program ε α)
  /-- Do nothing for a time. -/
  | rest (time : Span) (next : Program ε α)
  /-- Look at the clock. -/
  | clock (next : Instant → Program ε α)

namespace Program

variable {ε ε' α β : Type}

/-- Go on with what the result asks for. -/
def andThen : Program ε α → (Except ε α → Program ε' β) → Program ε' β
  | finish result, f => f result
  | send request next, f => send request fun answer => (next answer).andThen f
  | print text next, f => print text (next.andThen f)
  | rest time next, f => rest time (next.andThen f)
  | clock next, f => clock fun now => (next now).andThen f

def bind (p : Program ε α) (f : α → Program ε β) : Program ε β :=
  p.andThen fun
    | .ok x => f x
    | .error e => finish (.error e)

instance : Monad (Program ε) where
  pure x := finish (.ok x)
  bind := bind

def fail (e : ε) : Program ε α := finish (.error e)

/-- Look at the result and take another one for it. -/
def mapResult (p : Program ε α) (f : Except ε α → Except ε' β) : Program ε' β :=
  p.andThen fun result => finish (f result)

/-- Give errors another meaning. -/
def mapError (p : Program ε α) (f : ε → ε') : Program ε' α :=
  p.mapResult fun
    | .ok x => .ok x
    | .error e => .error (f e)

def forget (p : Program ε α) : Program ε Unit := p.mapResult fun r => r.map fun _ => ()

def answer (request : Request) : Program ε Answer := send request fun a => finish (.ok a)

def say (text : String) : Program ε Unit := print text (finish (.ok ()))

/-- Print texts, each with a line feed. -/
def sayAll (texts : List String) : Program ε Unit := texts.forM say

def pause (time : Span) : Program ε Unit := rest time (finish (.ok ()))

def now : Program ε Instant := clock fun t => finish (.ok t)

structure Run (ε α : Type) where
  requests : List Request := []
  /-- What it printed, text by text. -/
  printed : List String := []
  /-- The times for which it did nothing. -/
  rests : List Span := []
  result : Except ε α
  /-- The answers that it did not need. -/
  unused : List Answer := []

/-- Let a program run against answers, at one time; `exhausted` is the answer when there are no
more. -/
def run (exhausted : Answer) (time : Instant) : Program ε α → List Answer → Run ε α
  | finish result, answers => { result := result, unused := answers }
  | send request next, answers =>
    let r := (next (answers.head?.getD exhausted)).run exhausted time answers.tail
    { r with requests := request.arriving :: r.requests }
  | print text next, answers =>
    let r := next.run exhausted time answers
    { r with printed := text :: r.printed }
  | rest span next, answers =>
    let r := next.run exhausted time answers
    { r with rests := span :: r.rests }
  | clock next, answers => (next time).run exhausted time answers

/-- To go on after a program is to go on with its result and the answers that it did not need. -/
theorem run_andThen (exhausted : Answer) (time : Instant) (p : Program ε α)
    (f : Except ε α → Program ε' β) (answers : List Answer) :
    (p.andThen f).run exhausted time answers =
      let r := p.run exhausted time answers
      let q := (f r.result).run exhausted time r.unused
      { requests := r.requests ++ q.requests
        printed := r.printed ++ q.printed
        rests := r.rests ++ q.rests
        result := q.result
        unused := q.unused } := by
  induction p generalizing answers with
  | finish result => rfl
  | send request next ih => simp [andThen, run, ih]
  | print text next ih => simp [andThen, run, ih]
  | rest span next ih => simp [andThen, run, ih]
  | clock next ih => simp [andThen, run, ih]

end Program

end TrainingJobs
