import Mathlib.Data.List.Sort
import Tvic.Lib.Run

/-!
# Terminal arbitration

`TerminalArbiter` of `packages/runtime/src/terminal-arbitration.ts`. A callback is host code that
uses the arbiter while it runs; it is given as the tree of what it does next after each answer. Thrown
values are of a type `X`, normalized errors of a type `E`.
-/
namespace Tvic

open Lib

inductive LiveTerminalSource where
  | operatorStop
  | callerAbort
  | runTimeout
  | remoteTransport
  | providerRuntime
  | normalCompletion
  deriving DecidableEq, Repr

inductive TerminalKind where
  | completed
  | cancelled
  | remoteHangup
  | failed
  deriving DecidableEq, Repr

def LiveTerminalSource.priority : LiveTerminalSource → Nat
  | .operatorStop => 100
  | .callerAbort => 90
  | .runTimeout => 80
  | .remoteTransport => 70
  | .providerRuntime => 60
  | .normalCompletion => 0

def terminalKindForSource : LiveTerminalSource → TerminalKind
  | .operatorStop => .cancelled
  | .callerAbort => .cancelled
  | .runTimeout => .failed
  | .remoteTransport => .remoteHangup
  | .providerRuntime => .failed
  | .normalCompletion => .completed

structure TerminalCandidate (E : Type) where
  source : LiveTerminalSource
  error : Option E
  deriving DecidableEq, Repr

structure TerminalClaim (E : Type) extends TerminalCandidate E where
  kind : TerminalKind
  deriving DecidableEq, Repr

def TerminalCandidate.claim {E : Type} (candidate : TerminalCandidate E) : TerminalClaim E :=
  { candidate with kind := terminalKindForSource candidate.source }

structure BatchCandidate (E : Type) where
  claim : TerminalClaim E
  priority : Nat
  sequence : Nat
  deriving DecidableEq, Repr

structure BatchRecord (E : Type) where
  candidates : List (BatchCandidate E)
  committed : Bool
  deriving DecidableEq, Repr

/-- `#active` is the number of a batch; the batches stand in the order of their creation, which is
that of their microtasks. -/
structure TerminalArbiter (E : Type) where
  active : Option Nat
  claim : Option (TerminalClaim E)
  nextSequence : Nat
  batches : List (BatchRecord E)
  deriving DecidableEq, Repr

/-- A callback of `dispatchBatch`, by what it does next. `dispatch` goes on with what the inner call
of `dispatchBatch` has thrown, if anything. -/
inductive Callback (X E : Type) where
  | returns
  | returnsPromise
  | throws (thrown : X)
  | readClaim (next : Option (TerminalClaim E) → Callback X E)
  | offer (candidate : TerminalCandidate E) (next : TerminalClaim E → Callback X E)
  | dispatch (callback : Callback X E) (next : Option X → Callback X E)

inductive CallbackEnd (X : Type) where
  | returned
  | promise
  | threw (thrown : X)

/-- The errors the arbiter throws, and how a thrown value is normalized. -/
structure ArbiterErrors (X E : Type) where
  notSynchronous : X
  outsideBatch : X
  normalizeUnknownError : X → E

namespace TerminalArbiter

variable {X E : Type}

def new : TerminalArbiter E where
  active := none
  claim := none
  nextSequence := 0
  batches := []

def offerInBatch (batch : Nat) (candidate : TerminalCandidate E) (arbiter : TerminalArbiter E) :
    TerminalArbiter E :=
  let recorded : BatchCandidate E :=
    { claim := candidate.claim
      priority := candidate.source.priority
      sequence := arbiter.nextSequence + 1 }
  { arbiter with
    nextSequence := arbiter.nextSequence + 1
    batches := arbiter.batches.modify batch fun record =>
      { record with candidates := record.candidates ++ [recorded] } }

def offerTerminal (errors : ArbiterErrors X E) (candidate : TerminalCandidate E)
    (arbiter : TerminalArbiter E) : Except X (TerminalClaim E) × TerminalArbiter E :=
  match arbiter.active with
  | none => (.error errors.outsideBatch, arbiter)
  | some batch => (.ok candidate.claim, arbiter.offerInBatch batch candidate)

def hasProviderRuntime (arbiter : TerminalArbiter E) (batch : Nat) : Bool :=
  arbiter.batches[batch]?.any fun record =>
    record.candidates.any fun candidate => candidate.claim.source = .providerRuntime

def catchThrown (errors : ArbiterErrors X E) (batch : Nat) (thrown : X)
    (arbiter : TerminalArbiter E) : TerminalArbiter E :=
  if arbiter.hasProviderRuntime batch then arbiter
  else
    arbiter.offerInBatch batch
      { source := .providerRuntime, error := some (errors.normalizeUnknownError thrown) }

/-- `dispatchBatch` of a callback that runs as `body`; what it throws, if anything. -/
def dispatchBatch (errors : ArbiterErrors X E)
    (body : TerminalArbiter E → CallbackEnd X × TerminalArbiter E) (arbiter : TerminalArbiter E) :
    Option X × TerminalArbiter E :=
  let previous := arbiter.active
  let batch := previous.getD arbiter.batches.length
  let created : TerminalArbiter E := match previous with
    | some _ => arbiter
    | none =>
      { arbiter with batches := arbiter.batches ++ [{ candidates := [], committed := false }] }
  match body { created with active := some batch } with
  | (.returned, arbiter) => (none, { arbiter with active := previous })
  | (.promise, arbiter) =>
    (some errors.notSynchronous,
      { arbiter.catchThrown errors batch errors.notSynchronous with active := previous })
  | (.threw thrown, arbiter) =>
    (some thrown, { arbiter.catchThrown errors batch thrown with active := previous })

def runCallback (errors : ArbiterErrors X E) :
    Callback X E → TerminalArbiter E → CallbackEnd X × TerminalArbiter E
  | .returns, arbiter => (.returned, arbiter)
  | .returnsPromise, arbiter => (.promise, arbiter)
  | .throws thrown, arbiter => (.threw thrown, arbiter)
  | .readClaim next, arbiter => runCallback errors (next arbiter.claim) arbiter
  | .offer candidate next, arbiter =>
    match arbiter.offerTerminal errors candidate with
    | (.ok claim, arbiter) => runCallback errors (next claim) arbiter
    | (.error thrown, arbiter) => (.threw thrown, arbiter)
  | .dispatch callback next, arbiter =>
    let (thrown, arbiter) := arbiter.dispatchBatch errors (runCallback errors callback)
    runCallback errors (next thrown) arbiter

/-- The order of the sort in `#commit`. -/
def precedes (left right : BatchCandidate E) : Bool :=
  right.priority < left.priority ||
    (left.priority = right.priority && left.sequence ≤ right.sequence)

/-- `#commit` of the batch with the given number. -/
def commit (batch : Nat) (arbiter : TerminalArbiter E) : TerminalArbiter E :=
  match arbiter.batches[batch]? with
  | none => arbiter
  | some record =>
    if record.committed then arbiter
    else
      let arbiter := { arbiter with
        batches := arbiter.batches.modify batch fun record => { record with committed := true } }
      if arbiter.claim.isSome then arbiter
      else
        match (record.candidates.mergeSort precedes).head? with
        | some winner => { arbiter with claim := some winner.claim }
        | none => arbiter

end TerminalArbiter

/-- A call of `dispatchBatch` from outside every batch, or the next microtask: the commit of the
oldest batch that has not been committed. -/
inductive ArbiterEvent (X E : Type) where
  | dispatch (callback : Callback X E)
  | commit

namespace TerminalArbiter

variable {X E : Type} (errors : ArbiterErrors X E)

def step (arbiter : TerminalArbiter E) : ArbiterEvent X E → TerminalArbiter E
  | .dispatch callback => (arbiter.dispatchBatch errors (runCallback errors callback)).2
  | .commit => arbiter.commit (arbiter.batches.findIdx fun record => !record.committed)

def after (events : List (ArbiterEvent X E)) : TerminalArbiter E :=
  run (step errors) new events

end TerminalArbiter

/-! ### What is offered -/

section Offers

variable {X E : Type} (errors : ArbiterErrors X E)

def offersAtEnd (offered : List (TerminalCandidate E)) :
    CallbackEnd X → Option X × List (TerminalCandidate E)
  | .returned => (none, offered)
  | .promise => (some errors.notSynchronous, withThrown errors.notSynchronous)
  | .threw thrown => (some thrown, withThrown thrown)
where
  withThrown (thrown : X) : List (TerminalCandidate E) :=
    if offered.any fun candidate => candidate.source = .providerRuntime then offered
    else
      offered ++
        [{ source := .providerRuntime, error := some (errors.normalizeUnknownError thrown) }]

/-- What a callback adds to the candidates of its batch, under the claim it may read: its offers in
their order, and for the first callback that throws a candidate of the provider runtime, unless there
is one. -/
def offers (claim : Option (TerminalClaim E)) :
    Callback X E → List (TerminalCandidate E) → CallbackEnd X × List (TerminalCandidate E)
  | .returns, offered => (.returned, offered)
  | .returnsPromise, offered => (.promise, offered)
  | .throws thrown, offered => (.threw thrown, offered)
  | .readClaim next, offered => offers claim (next claim) offered
  | .offer candidate next, offered =>
    offers claim (next candidate.claim) (offered ++ [candidate])
  | .dispatch callback next, offered =>
    let (ending, offered) := offers claim callback offered
    let (thrown, offered) := offersAtEnd errors offered ending
    offers claim (next thrown) offered

/-- The candidates of the batch that a call of `dispatchBatch` from outside creates. -/
def batchOffers (claim : Option (TerminalClaim E)) (callback : Callback X E) :
    List (TerminalCandidate E) :=
  let (ending, offered) := offers errors claim callback []
  (offersAtEnd errors offered ending).2

end Offers

/-- The candidate has the highest priority of all, and was offered first among those that do. -/
def Wins {E : Type} (winner : TerminalCandidate E) (offered : List (TerminalCandidate E)) : Prop :=
  ∃ before after, offered = before ++ winner :: after ∧
    (∀ earlier ∈ before, earlier.source.priority < winner.source.priority) ∧
    ∀ later ∈ after, later.source.priority ≤ winner.source.priority

end Tvic
