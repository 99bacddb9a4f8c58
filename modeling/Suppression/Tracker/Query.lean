import Suppression.Source
import Suppression.Tracker.Record

/-!
Questions to a tracker, as computations that ask their surroundings for one thing at a time. Nothing
else is done to a file or a store between two requests, so that questions about different files may
take turns; `run` answers the requests of one computation by a handler.
-/

namespace Suppression

inductive Request where
  | known (file : Wide)
  | remember (file : Wide) (record : Record)
  | fingerprint (file : Wide)
  | lineCount (file : Wide)
  | readLine (file : Wide) (line : Nat)
  | release (file : Wide)
  | load (file : Wide) (fingerprint : Wide)
  | note (text : Wide)

/-- What is answered to a request. -/
@[reducible] def Request.Answer : Request → Type
  | known _ => Option Record
  | remember _ _ => Unit
  | fingerprint _ => Except AccessError String
  | lineCount _ => Except AccessError Nat
  | readLine _ _ => Except AccessError String
  | release _ => Unit
  | load _ _ => Except FileError (Option Snapshot)
  | note _ => Unit

/-- A computation that has a result, or asks for something and goes on with the answer. -/
inductive Query (α : Type) where
  | done (result : α)
  | ask (request : Request) (next : request.Answer → Query α)

namespace Query

variable {α β : Type}

def bind (query : Query α) (next : α → Query β) : Query β :=
  match query with
  | done result => next result
  | ask request answer => ask request fun a => (answer a).bind next

instance : Monad Query where
  pure := done
  bind := bind

def request (r : Request) : Query r.Answer :=
  ask r done

def run {σ : Type} (handle : (r : Request) → σ → r.Answer × σ) (query : Query α) (state : σ) :
    α × σ :=
  match query with
  | done result => (result, state)
  | ask r next =>
      let (answer, state) := handle r state
      run handle (next answer) state

theorem run_bind {σ : Type} (handle : (r : Request) → σ → r.Answer × σ) (query : Query α)
    (next : α → Query β) (state : σ) :
    run handle (query.bind next) state =
      run handle (next (run handle query state).1) (run handle query state).2 := by
  induction query generalizing state with
  | done result => rfl
  | ask r answer ih => exact ih _ _

end Query

inductive QueryError where
  | access (error : AccessError)
  | range (error : RangeError)
  | grammar (text : String)
  deriving DecidableEq

def QueryError.message : QueryError → Wide
  | access error => error.message
  | range error => error.message
  | grammar text => text

abbrev Asking := ExceptT QueryError Query

namespace Asking

def request (r : Request) : Asking r.Answer :=
  ExceptT.lift (Query.request r)

def ofExcept {ε α : Type} (wrap : ε → QueryError) (result : Except ε α) : Asking α :=
  ExceptT.mk (.done (result.mapError wrap))

def access {α : Type} (answer : Query (Except AccessError α)) : Asking α := do
  ofExcept .access (← ExceptT.lift answer)

end Asking

end Suppression
