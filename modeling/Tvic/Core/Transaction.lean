import Tvic.Core.Dal

/-!
# Session transactions

`DurableSessionTransaction`, `DurableOutboxEvent` and the callbacks that `runSessionTransaction`
takes, from `packages/core/src/dal.ts`. A callback is a program of transaction calls, each chosen
after the answers to the earlier ones and anything it asks of the world outside the store, and it
uses its transaction until it settles. The store's calls run to their writes at once, so
calls a callback leaves unawaited are in the program in the order it makes them.
-/
namespace Tvic

inductive AggregateType where
  | session
  | turn
  | toolCall
  deriving DecidableEq, Repr

structure DurableOutboxEvent (η : Type) where
  id : String
  aggregateType : AggregateType
  aggregateId : String
  sessionId : SessionId
  sessionIncarnation : Option Nat
  version : Nat
  fence : Nat
  envelope : η
  deriving DecidableEq, Repr

/-- The calls of a `DurableSessionTransaction`, indexed by what they resolve to. -/
inductive TxCall (S T C η : Type) : Type → Type where
  | getSession (id : SessionId) : TxCall S T C η (Option S)
  | putSession (record : S) : TxCall S T C η Unit
  | updateSession (id : SessionId) (updater : S → Except DalError S) : TxCall S T C η S
  | getTurn (sessionId : SessionId) (id : String) : TxCall S T C η (Option T)
  | listTurns (sessionId : SessionId) : TxCall S T C η (List T)
  | putTurn (record : T) : TxCall S T C η Unit
  | updateTurn (sessionId : SessionId) (id : String) (updater : T → Except DalError T) :
      TxCall S T C η T
  | getToolCall (sessionId : SessionId) (id : String) : TxCall S T C η (Option C)
  | listToolCalls (sessionId : SessionId) : TxCall S T C η (List C)
  | putToolCall (record : C) : TxCall S T C η Unit
  | updateToolCall (sessionId : SessionId) (id : String) (updater : C → Except DalError C) :
      TxCall S T C η C
  | appendOutbox (event : DurableOutboxEvent η) : TxCall S T C η Unit

/-- A callback: it settles, or consults the outside, or makes a call and goes on after the answer
(a rejection is an answer too: the callback may catch it). -/
inductive TxProgram (S T C η χ τ : Type) where
  | settle (result : Except DalError τ)
  | consult (next : χ → TxProgram S T C η χ τ)
  | call {α : Type} (request : TxCall S T C η α)
      (next : Except DalError α → TxProgram S T C η χ τ)

/-- `assertSession` of a transaction on `sessionId`; both stores have it in these words. -/
def assertSession (sessionId candidate : SessionId) : Except DalError Unit :=
  if candidate = sessionId then .ok ()
  else .error (.invalidArgument
    ("Session transaction " ++ sessionId ++ " cannot access " ++ candidate))

/-- `Pick<SessionLease, "holder" | "fence" | "generationId">`. -/
structure LeaseIdentity where
  holder : String
  fence : Number
  generationId : String
  deriving DecidableEq

end Tvic
