import Tvic.Core.Session
import Tvic.Dal.SessionLeases
import Tvic.Runtime.RecoveryWorker

/-!
# Session recovery

`#pollOnce` of `SessionRecoveryCoordinator` and `#reapOnce` of `SessionReaper`, in
`packages/runtime/src/session-recovery.ts`, from await to await. A candidate of the page is known by
its place in it. Metrics and the reports of errors are left out.
-/
namespace Tvic

/-- What a poll does, and what its calls come to. -/
inductive RecoveryAction (J : Type) where
  | listRecoveryCandidates (cursor : Option String) (nowMs : Int)
  | get (place : Nat) (sessionId : SessionId)
  | got (place : Nat) (sessionId : SessionId) (stored : Option (StoredSessionRecord J))
  | acknowledgeRecoveryCandidate (place : Nat) (candidate : SessionRecoveryCandidate)
  | hasReconnectableTransport (place : Nat) (sessionId : SessionId)
  | transport (place : Nat) (sessionId : SessionId) (found : Bool) (nowMs : Int)
  | resolveAgent (place : Nat) (agentId : String)
  | attachSession (place : Nat) (sessionId : SessionId)
  | attached (place : Nat)
  | activate (place : Nat) (sessionId : SessionId)
  | activated (place : Nat)
  | deactivate (place : Nat) (sessionId : SessionId)
  | detach (place : Nat)
  | endSession (place : Nat) (sessionId : SessionId)
  | sessionEnded (place : Nat) (sessionId : SessionId)
  | returned (candidates handled failed : Nat)
  deriving DecidableEq

/-- What an awaited call comes to. A clock reading goes with the outcomes that are followed by
one. -/
inductive RecoveryOutcome (J : Type) where
  | listed (page : RecoveryPage)
  | got (stored : Option (StoredSessionRecord J))
  | transport (found : Bool) (nowMs : Int)
  | agent (found : Bool)
  | attached (lease : Option (Nat × String))
  | done
  | failed

/-- A candidate at its place, those after it, and the counts so far. -/
structure RecoveryVisit where
  place : Nat
  candidate : SessionRecoveryCandidate
  rest : List SessionRecoveryCandidate
  total : Nat
  handled : Nat
  failures : Nat

variable {J : Type}

/-- `!stored || isTerminalSession(stored.session)` -/
def recoveryOver (stored : Option (StoredSessionRecord J)) : Bool :=
  stored.all fun record => record.session.isTerminal

/-! ### The coordinator -/

inductive CoordinatorPhase (J : Type) where
  | listing
  | reading (visit : RecoveryVisit)
  | acknowledging (visit : RecoveryVisit)
  | checkingTransport (visit : RecoveryVisit) (agentId : String)
  | resolvingAgent (visit : RecoveryVisit)
  | attaching (visit : RecoveryVisit)
  | activating (visit : RecoveryVisit)
  /-- Rolling back, because `activate` failed or the coordinator was stopped. -/
  | deactivating (visit : RecoveryVisit) (failed : Bool)
  | detaching (visit : RecoveryVisit) (failed : Bool)

namespace SessionRecoveryCoordinator

abbrev Turn (J : Type) := PollTurn (CoordinatorPhase J) (RecoveryAction J)

/-- The poll returns its counts. -/
def finish (cursor : Option String) (actions : List (RecoveryAction J))
    (total attached failed : Nat) : Turn J :=
  ⟨cursor, actions ++ [.returned total attached failed], none⟩

def visit (stopped : Bool) (cursor : Option String) (actions : List (RecoveryAction J))
    (place : Nat) (candidates : List SessionRecoveryCandidate) (total attached failed : Nat) :
    Turn J :=
  match candidates with
  | [] => finish cursor actions total attached failed
  | candidate :: rest =>
    if stopped then finish cursor actions total attached failed
    else
      ⟨cursor, actions ++ [.get place candidate.sessionId],
        some (.reading ⟨place, candidate, rest, total, attached, failed⟩)⟩

variable (v : RecoveryVisit)

/-- The next candidate, after this one has come to nothing, was attached, or has failed. -/
def skip (stopped : Bool) (cursor : Option String) (actions : List (RecoveryAction J)) : Turn J :=
  visit stopped cursor actions (v.place + 1) v.rest v.total v.handled v.failures

def kept (stopped : Bool) (cursor : Option String) (actions : List (RecoveryAction J)) : Turn J :=
  visit stopped cursor actions (v.place + 1) v.rest v.total (v.handled + 1) v.failures

def fail (stopped : Bool) (cursor : Option String) (actions : List (RecoveryAction J)) : Turn J :=
  visit stopped cursor actions (v.place + 1) v.rest v.total v.handled (v.failures + 1)

/-- `break` -/
def leave (cursor : Option String) (actions : List (RecoveryAction J)) : Turn J :=
  finish cursor actions v.total v.handled v.failures

def rollBack (hasDeactivate : Bool) (cursor : Option String) (actions : List (RecoveryAction J))
    (failed : Bool) : Turn J :=
  if hasDeactivate then
    ⟨cursor, actions ++ [.deactivate v.place v.candidate.sessionId], some (.deactivating v failed)⟩
  else ⟨cursor, actions ++ [.detach v.place], some (.detaching v failed)⟩

/-- What the poll does when the call it awaits settles. -/
def resume (hasDeactivate stopped : Bool) (cursor : Option String) :
    CoordinatorPhase J → RecoveryOutcome J → Option (Turn J)
  | .listing, .listed page =>
    if stopped then some (finish cursor [] 0 0 0)
    else some (visit stopped page.nextCursor [] 0 page.candidates page.candidates.length 0 0)
  | .listing, .failed => some ⟨cursor, [], none⟩
  | .reading v, .got stored =>
    let read := [.got v.place v.candidate.sessionId stored]
    if stopped then some (leave v cursor read)
    else if recoveryOver stored then
      some ⟨cursor, read ++ [.acknowledgeRecoveryCandidate v.place v.candidate],
        some (.acknowledging v)⟩
    else
      stored.map fun record =>
        ⟨cursor, read ++ [.hasReconnectableTransport v.place v.candidate.sessionId],
          some (.checkingTransport v record.session.agentId)⟩
  | .reading v, .failed => some (fail v stopped cursor [])
  | .acknowledging v, .done => some (skip v stopped cursor [])
  | .acknowledging v, .failed => some (fail v stopped cursor [])
  | .checkingTransport v agentId, .transport found nowMs =>
    let asked := [.transport v.place v.candidate.sessionId found nowMs]
    if stopped then some (leave v cursor asked)
    else if found then
      some ⟨cursor, asked ++ [.resolveAgent v.place agentId], some (.resolvingAgent v)⟩
    else some (skip v stopped cursor asked)
  | .checkingTransport v _, .failed => some (fail v stopped cursor [])
  | .resolvingAgent v, .agent found =>
    if stopped then some (leave v cursor [])
    else if found then
      some ⟨cursor, [.attachSession v.place v.candidate.sessionId], some (.attaching v)⟩
    else some (skip v stopped cursor [])
  | .resolvingAgent v, .failed => some (fail v stopped cursor [])
  | .attaching v, .attached _ =>
    if stopped then some ⟨cursor, [.attached v.place, .detach v.place], some (.detaching v false)⟩
    else
      some ⟨cursor, [.attached v.place, .activate v.place v.candidate.sessionId],
        some (.activating v)⟩
  | .attaching v, .failed => some (fail v stopped cursor [])
  | .activating v, .done =>
    if stopped then some (rollBack v hasDeactivate cursor [.activated v.place] false)
    else some (kept v stopped cursor [.activated v.place])
  | .activating v, .failed => some (rollBack v hasDeactivate cursor [] true)
  | .deactivating v failed, .done => some ⟨cursor, [.detach v.place], some (.detaching v failed)⟩
  | .deactivating v failed, .failed => some ⟨cursor, [.detach v.place], some (.detaching v failed)⟩
  | .detaching v failed, .done =>
    some (if failed then fail v stopped cursor [] else leave v cursor [])
  | .detaching v failed, .failed =>
    some (if failed then fail v stopped cursor [] else leave v cursor [])
  | _, _ => none

/-- The coordinator's poll, for an activator that has `deactivate` or has none. -/
def program (hasDeactivate : Bool) :
    PollProgram (CoordinatorPhase J) (RecoveryAction J) (RecoveryOutcome J) where
  begin cursor nowMs := ⟨cursor, [.listRecoveryCandidates cursor nowMs], some .listing⟩
  resume := resume hasDeactivate

end SessionRecoveryCoordinator

/-! ### The reaper -/

inductive ReaperPhase (J : Type) where
  | listing
  | reading (visit : RecoveryVisit)
  | acknowledging (visit : RecoveryVisit)
  | checkingTransport (visit : RecoveryVisit) (stored : StoredSessionRecord J)
  | resolvingAgent (visit : RecoveryVisit)
  | attaching (visit : RecoveryVisit)
  | ending (visit : RecoveryVisit) (lease : Option (Nat × String))
  /-- Acknowledging a session that was just ended. -/
  | retiring (visit : RecoveryVisit)
  | detaching (visit : RecoveryVisit) (failed : Bool)

namespace SessionReaper

abbrev Turn (J : Type) := PollTurn (ReaperPhase J) (RecoveryAction J)

/-- `#reapOnce` returns its count. -/
def finish (cursor : Option String) (actions : List (RecoveryAction J)) (reaped : Nat) : Turn J :=
  ⟨cursor, actions ++ [.returned 0 reaped 0], none⟩

def visit (stopped : Bool) (cursor : Option String) (actions : List (RecoveryAction J))
    (place : Nat) (candidates : List SessionRecoveryCandidate) (total reaped : Nat) : Turn J :=
  match candidates with
  | [] => finish cursor actions reaped
  | candidate :: rest =>
    if stopped then finish cursor actions reaped
    else
      ⟨cursor, actions ++ [.get place candidate.sessionId],
        some (.reading ⟨place, candidate, rest, total, reaped, 0⟩)⟩

variable (v : RecoveryVisit)

def skip (stopped : Bool) (cursor : Option String) (actions : List (RecoveryAction J)) : Turn J :=
  visit stopped cursor actions (v.place + 1) v.rest v.total v.handled

def reaped (stopped : Bool) (cursor : Option String) (actions : List (RecoveryAction J)) :
    Turn J :=
  visit stopped cursor actions (v.place + 1) v.rest v.total (v.handled + 1)

/-- `break` -/
def leave (cursor : Option String) (actions : List (RecoveryAction J)) : Turn J :=
  finish cursor actions v.handled

/-- `stored.runtime.lastActivityWallAtMs ?? Date.parse(stored.session.createdAt)` -/
def lastActivity (stored : StoredSessionRecord J) : Int :=
  stored.runtime.lastActivityWallAtMs.getD stored.session.createdAt

/-- What the reaper does when the call it awaits settles. -/
def resume (recoveryGraceMs : Int) (stopped : Bool) (cursor : Option String) :
    ReaperPhase J → RecoveryOutcome J → Option (Turn J)
  | .listing, .listed page =>
    if stopped then some (finish cursor [] 0)
    else some (visit stopped page.nextCursor [] 0 page.candidates page.candidates.length 0)
  | .listing, .failed => some ⟨cursor, [], none⟩
  | .reading v, .got stored =>
    let read := [.got v.place v.candidate.sessionId stored]
    if stopped then some (leave v cursor read)
    else if recoveryOver stored then
      some ⟨cursor, read ++ [.acknowledgeRecoveryCandidate v.place v.candidate],
        some (.acknowledging v)⟩
    else
      stored.map fun record =>
        ⟨cursor, read ++ [.hasReconnectableTransport v.place v.candidate.sessionId],
          some (.checkingTransport v record)⟩
  | .reading v, .failed => some (skip v stopped cursor [])
  | .acknowledging v, .done => some (skip v stopped cursor [])
  | .acknowledging v, .failed => some (skip v stopped cursor [])
  | .checkingTransport v stored, .transport found nowMs =>
    let asked := [.transport v.place v.candidate.sessionId found nowMs]
    if stopped then some (leave v cursor asked)
    else if found then some (skip v stopped cursor asked)
    else if nowMs - lastActivity stored < recoveryGraceMs then some (skip v stopped cursor asked)
    else
      some ⟨cursor, asked ++ [.resolveAgent v.place stored.session.agentId],
        some (.resolvingAgent v)⟩
  | .checkingTransport v _, .failed => some (skip v stopped cursor [])
  | .resolvingAgent v, .agent found =>
    if stopped then some (leave v cursor [])
    else if found then
      some ⟨cursor, [.attachSession v.place v.candidate.sessionId], some (.attaching v)⟩
    else some (skip v stopped cursor [])
  | .resolvingAgent v, .failed => some (skip v stopped cursor [])
  | .attaching v, .attached lease =>
    if stopped then some ⟨cursor, [.attached v.place, .detach v.place], some (.detaching v false)⟩
    else
      some ⟨cursor, [.attached v.place, .endSession v.place v.candidate.sessionId],
        some (.ending v lease)⟩
  | .attaching v, .failed => some (skip v stopped cursor [])
  | .ending v lease, .done =>
    let (fence, generationId) := lease.getD (v.candidate.fence, v.candidate.generationId)
    some ⟨cursor, [.sessionEnded v.place v.candidate.sessionId,
        .acknowledgeRecoveryCandidate v.place ⟨v.candidate.sessionId, fence, generationId⟩],
      some (.retiring v)⟩
  | .ending v _, .failed => some ⟨cursor, [.detach v.place], some (.detaching v true)⟩
  | .retiring v, .done => some (reaped v stopped cursor [])
  | .retiring v, .failed => some ⟨cursor, [.detach v.place], some (.detaching v true)⟩
  | .detaching v failed, .done =>
    some (if failed then skip v stopped cursor [] else leave v cursor [])
  | .detaching v failed, .failed =>
    some (if failed then skip v stopped cursor [] else leave v cursor [])
  | _, _ => none

def program (recoveryGraceMs : Int) :
    PollProgram (ReaperPhase J) (RecoveryAction J) (RecoveryOutcome J) where
  begin cursor nowMs := ⟨cursor, [.listRecoveryCandidates cursor nowMs], some .listing⟩
  resume := resume recoveryGraceMs

end SessionReaper

end Tvic
