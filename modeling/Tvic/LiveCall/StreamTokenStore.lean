import Mathlib.Algebra.Order.Ring.Rat
import Tvic.Core.Dal
import Tvic.Lib.DecimalText
import Tvic.Lib.Log
import Tvic.Lib.MapTotals
import Tvic.Lib.Run

/-!
# Stream tokens are used once

`createStreamTokenStore` of `examples/live-call/src/security.ts`. What `sign` makes of a call id and an expiry
is a parameter, and so are the ids that `randomUUID` gives. The log of the store says which of its calls have
come to something; a commit that returns an identity goes back to a reservation made with the token of the call.
-/
namespace Tvic

open Lib

structure StreamTokenEntry (Identity : Type) where
  expMs : ℚ
  identity : Identity
  reservationId : Option Text := none

inductive StreamTokenEvent (Identity : Type) where
  | issued (callId : Text) (expMs : ℚ) (identity : Identity)
  | reserved (callId reservationId token exp : Text) (identity : Identity)
  | restored (callId reservationId : Text)
  | released (callId : Text)
  | pruned (nowMs : ℚ)
  | committed (callId reservationId : Text) (identity : Identity) (nowMs : ℚ)

/-- The calls of the store, with the readings of `now` and the ids from `randomUUID`. -/
inductive StreamTokenCall (Identity : Type) where
  | issue (identity : Identity) (uuid : Text) (nowMs : ℚ)
  | reserve (callId : Text) (token exp : Option Text) (uuid : Text) (nowMs : ℚ)
  | commit (callId reservationId : Text) (nowMs : ℚ)
  | restore (callId reservationId : Text) (nowMs : ℚ)
  | release (callId : Text)
  | prune (nowMs : ℚ)

/-- `Buffer.from(text, "hex")`. -/
def bytesOfHex : Text → List Nat
  | high :: low :: rest =>
    match hexValue? high, hexValue? low with
    | some high, some low => (high.toNat * 16 + low.toNat) :: bytesOfHex rest
    | _, _ => []
  | _ => []

/-- `/^[0-9a-fA-F]{64}$/`. -/
def isHexDigest (token : Text) : Bool := token.length == 64 && token.all fun unit => (hexValue? unit).isSome

/-- `Number(exp)` of decimal digits, where it is a safe integer. -/
def expiryOf (exp : Text) : Option Nat :=
  if exp ≠ [] ∧ exp.all isDigit ∧ decimalValue exp ≤ maxSafeInteger then some (decimalValue exp) else none

structure StreamTokenStore (Identity : Type) where
  issued : InsertionMap Text (StreamTokenEntry Identity) := []
  log : List (StreamTokenEvent Identity) := []

namespace StreamTokenStore

variable {Identity : Type} (sign : Text → ℚ → Text) (ttlMs : ℚ)

def callIdOf (uuid : Text) : Text := utf16 "call_" ++ uuid

def issue (s : StreamTokenStore Identity) (identity : Identity) (uuid : Text) (nowMs : ℚ) :
    StreamTokenStore Identity where
  issued := s.issued.set (callIdOf uuid) { expMs := nowMs + ttlMs, identity }
  log := s.log ++ [.issued (callIdOf uuid) (nowMs + ttlMs) identity]

def reservable (s : StreamTokenStore Identity) (callId token exp : Text) (nowMs : ℚ) :
    Option (StreamTokenEntry Identity) :=
  if ¬ isHexDigest token then none
  else
    match expiryOf exp, s.issued.get callId with
    | some expMs, some entry =>
      if entry.expMs ≠ expMs ∨ entry.reservationId.any (· ≠ []) ∨ (expMs : ℚ) ≤ nowMs then none
      else if bytesOfHex token ≠ bytesOfHex (sign callId expMs) then none
      else some entry
    | _, _ => none

def reserve (s : StreamTokenStore Identity) (callId : Text) (token exp : Option Text) (uuid : Text)
    (nowMs : ℚ) : StreamTokenStore Identity :=
  match token, exp with
  | some token, some exp =>
    match s.reservable sign callId token exp nowMs with
    | none => s
    | some entry =>
      { issued := s.issued.set callId { entry with reservationId := some uuid }
        log := s.log ++ [.reserved callId uuid token exp entry.identity] }
  | _, _ => s

def committable (s : StreamTokenStore Identity) (callId reservationId : Text) (nowMs : ℚ) :
    Option (StreamTokenEntry Identity) :=
  (s.issued.get callId).filter fun entry => entry.reservationId = some reservationId ∧ nowMs < entry.expMs

def commit (s : StreamTokenStore Identity) (callId reservationId : Text) (nowMs : ℚ) :
    StreamTokenStore Identity :=
  match s.committable callId reservationId nowMs with
  | none => s
  | some entry =>
    { issued := s.issued.delete callId
      log := s.log ++ [.committed callId reservationId entry.identity nowMs] }

def restore (s : StreamTokenStore Identity) (callId reservationId : Text) (nowMs : ℚ) :
    StreamTokenStore Identity :=
  { issued :=
      match s.issued.get callId with
      | none => s.issued
      | some entry =>
        if entry.reservationId ≠ some reservationId then s.issued
        else if entry.expMs ≤ nowMs then s.issued.delete callId
        else s.issued.set callId { expMs := entry.expMs, identity := entry.identity }
    log := s.log ++ [.restored callId reservationId] }

def release (s : StreamTokenStore Identity) (callId : Text) : StreamTokenStore Identity where
  issued := s.issued.delete callId
  log := s.log ++ [.released callId]

def prune (s : StreamTokenStore Identity) (nowMs : ℚ) : StreamTokenStore Identity where
  issued := s.issued.filter fun entry => ¬ entry.2.expMs ≤ nowMs
  log := s.log ++ [.pruned nowMs]

def step (s : StreamTokenStore Identity) : StreamTokenCall Identity → StreamTokenStore Identity
  | .issue identity uuid nowMs => s.issue ttlMs identity uuid nowMs
  | .reserve callId token exp uuid nowMs => s.reserve sign callId token exp uuid nowMs
  | .commit callId reservationId nowMs => s.commit callId reservationId nowMs
  | .restore callId reservationId nowMs => s.restore callId reservationId nowMs
  | .release callId => s.release callId
  | .prune nowMs => s.prune nowMs

/-- `randomUUID` gives no id of a call a second time. -/
def FreshIds (s : StreamTokenStore Identity) : StreamTokenCall Identity → Prop
  | .issue _ uuid _ => ∀ expMs identity, .issued (callIdOf uuid) expMs identity ∉ s.log
  | _ => True

/-! ## What a reservation stands for -/

/-- The reservation was returned for the token and the expiry of its call. -/
def Reserves (callId reservationId : Text) (expMs : ℚ) (identity : Identity) :
    StreamTokenEvent Identity → Prop
  | .reserved callId' reservationId' token exp identity' =>
    callId' = callId ∧ reservationId' = reservationId ∧ identity' = identity ∧
      (∃ n : Nat, expiryOf exp = some n ∧ (n : ℚ) = expMs) ∧
      bytesOfHex token = bytesOfHex (sign callId expMs)
  | _ => False

/-- The event takes nothing from the reservation. -/
def Leaves (callId reservationId : Text) (expMs : ℚ) : StreamTokenEvent Identity → Prop
  | .restored callId' reservationId' => ¬ (callId' = callId ∧ reservationId' = reservationId)
  | .released callId' => callId' ≠ callId
  | .pruned nowMs => nowMs < expMs
  | .committed callId' _ _ _ => callId' ≠ callId
  | _ => True

/-- A call id is committed once, with the identity it was issued for, before its expiry, and for a reservation
that was neither restored nor released nor pruned. -/
def MayFollow (before : List (StreamTokenEvent Identity)) : StreamTokenEvent Identity → Prop
  | .committed callId reservationId identity nowMs =>
    (∀ other identity' nowMs', .committed callId other identity' nowMs' ∉ before) ∧
      ∃ expMs, .issued callId expMs identity ∈ before ∧ nowMs < expMs ∧
        SinceLast (Reserves sign callId reservationId expMs identity) (Leaves callId reservationId expMs) before
  | _ => True

/-- What the log says of an entry of the store. -/
structure Accounted (log : List (StreamTokenEvent Identity)) (callId : Text)
    (entry : StreamTokenEntry Identity) : Prop where
  issued : .issued callId entry.expMs entry.identity ∈ log
  uncommitted : ∀ reservationId identity nowMs, .committed callId reservationId identity nowMs ∉ log
  reserved : ∀ reservationId, entry.reservationId = some reservationId →
    SinceLast (Reserves sign callId reservationId entry.expMs entry.identity)
      (Leaves callId reservationId entry.expMs) log

structure Inv (s : StreamTokenStore Identity) : Prop where
  keys : (InsertionMap.keys s.issued).Nodup
  accounted : ∀ callId entry, s.issued.get callId = some entry → Accounted sign s.log callId entry
  follows : Follows (MayFollow sign) s.log

variable {sign} {ttlMs} {s : StreamTokenStore Identity}

theorem Accounted.snoc {log : List (StreamTokenEvent Identity)} {callId : Text}
    {entry : StreamTokenEntry Identity} (accounted : Accounted sign log callId entry)
    {event : StreamTokenEvent Identity}
    (other : ∀ reservationId identity nowMs, event ≠ .committed callId reservationId identity nowMs)
    (leaves : ∀ reservationId, entry.reservationId = some reservationId →
      Leaves callId reservationId entry.expMs event) :
    Accounted sign (log ++ [event]) callId entry where
  issued := List.mem_append_left _ accounted.issued
  uncommitted reservationId identity nowMs member := by
    rcases List.mem_append.mp member with old | new
    · exact accounted.uncommitted reservationId identity nowMs old
    · exact other reservationId identity nowMs (List.mem_singleton.mp new).symm
  reserved reservationId holds := (accounted.reserved reservationId holds).snoc (leaves reservationId holds)

theorem Inv.issued_of_committed (held : Inv sign s) {callId reservationId : Text} {identity : Identity}
    {nowMs : ℚ} (member : .committed callId reservationId identity nowMs ∈ s.log) :
    ∃ expMs identity, .issued callId expMs identity ∈ s.log := by
  obtain ⟨before, after, split⟩ := List.append_of_mem member
  obtain ⟨-, expMs, issued, -⟩ := held.follows _ _ _ split
  exact ⟨expMs, identity, by rw [split]; exact List.mem_append_left _ issued⟩

theorem Inv.issue (held : Inv sign s) {identity : Identity} {uuid : Text} {nowMs : ℚ}
    (fresh : FreshIds s (.issue identity uuid nowMs)) : Inv sign (s.issue ttlMs identity uuid nowMs) where
  keys := InsertionMap.keys_set_nodup held.keys ..
  accounted callId entry found := by
    by_cases own : callId = callIdOf uuid
    · subst own
      rw [StreamTokenStore.issue, InsertionMap.get_set_self] at found
      cases found
      refine ⟨by simp [StreamTokenStore.issue], fun reservationId identity nowMs member => ?_, nofun⟩
      rcases List.mem_append.mp member with old | new
      · -- the id has not been issued before, so that nothing has been committed for it
        obtain ⟨expMs, identity, issued⟩ := held.issued_of_committed old
        exact fresh expMs identity issued
      · simp at new
    · rw [StreamTokenStore.issue, InsertionMap.get_set_of_ne _ own] at found
      exact (held.accounted callId entry found).snoc nofun fun _ _ => trivial
  follows := follows_snoc_iff.mpr ⟨held.follows, trivial⟩

theorem reservable_eq_some {callId token exp : Text} {nowMs : ℚ} {entry : StreamTokenEntry Identity}
    (found : s.reservable sign callId token exp nowMs = some entry) :
    s.issued.get callId = some entry ∧ (∃ n : Nat, expiryOf exp = some n ∧ (n : ℚ) = entry.expMs) ∧
      bytesOfHex token = bytesOfHex (sign callId entry.expMs) := by
  unfold reservable at found
  split_ifs at found with digest
  · split at found
    next n entry' expiry there =>
      split_ifs at found with other forged
      · cases found
        obtain ⟨same, -⟩ := not_or.mp other
        have same : entry.expMs = n := not_not.mp same
        refine ⟨there, ⟨n, expiry, same.symm⟩, ?_⟩
        rw [same]
        exact not_not.mp forged
    · cases found

theorem Inv.reserve (held : Inv sign s) (callId : Text) (token exp : Option Text) (uuid : Text) (nowMs : ℚ) :
    Inv sign (s.reserve sign callId token exp uuid nowMs) := by
  unfold StreamTokenStore.reserve
  split
  next token exp =>
    split
    · exact held
    next entry found =>
      obtain ⟨there, expiry, signed⟩ := reservable_eq_some found
      have accounted := held.accounted callId entry there
      constructor
      case keys => exact InsertionMap.keys_set_nodup held.keys ..
      case accounted =>
        intro other entry' found'
        by_cases own : other = callId
        · subst own
          rw [InsertionMap.get_set_self] at found'
          cases found'
          refine ⟨List.mem_append_left _ accounted.issued, fun reservationId identity nowMs member => ?_, ?_⟩
          · rcases List.mem_append.mp member with old | new
            · exact accounted.uncommitted reservationId identity nowMs old
            · simp at new
          · intro reservationId holds
            cases holds
            exact SinceLast.of_opens _ ⟨rfl, rfl, rfl, expiry, signed⟩
        · dsimp only at found'
          rw [InsertionMap.get_set_of_ne _ own] at found'
          exact (held.accounted other entry' found').snoc nofun fun _ _ => trivial
      case follows => exact follows_snoc_iff.mpr ⟨held.follows, trivial⟩
  · exact held

theorem committable_eq_some {callId reservationId : Text} {nowMs : ℚ} {entry : StreamTokenEntry Identity} :
    s.committable callId reservationId nowMs = some entry ↔
      s.issued.get callId = some entry ∧ entry.reservationId = some reservationId ∧ nowMs < entry.expMs := by
  rw [committable, Option.filter_eq_some_iff]
  simp

theorem Inv.commit (held : Inv sign s) (callId reservationId : Text) (nowMs : ℚ) :
    Inv sign (s.commit callId reservationId nowMs) := by
  unfold StreamTokenStore.commit
  split
  · exact held
  next entry found =>
    obtain ⟨there, reserved, live⟩ := committable_eq_some.mp found
    have accounted := held.accounted callId entry there
    constructor
    case keys => exact InsertionMap.keys_delete_nodup held.keys _
    case accounted =>
      intro other entry' found'
      have ne : other ≠ callId := by
        rintro rfl
        rw [InsertionMap.get_delete_self] at found'
        cases found'
      rw [InsertionMap.get_delete_of_ne _ ne] at found'
      refine (held.accounted other entry' found').snoc ?_ fun _ _ => Ne.symm ne
      rintro _ _ _ ⟨⟩
      exact ne rfl
    case follows =>
      refine follows_snoc_iff.mpr ⟨held.follows, accounted.uncommitted, entry.expMs, accounted.issued, live, ?_⟩
      exact accounted.reserved reservationId reserved

theorem Inv.restore (held : Inv sign s) (callId reservationId : Text) (nowMs : ℚ) :
    Inv sign (s.restore callId reservationId nowMs) := by
  -- an entry that is not under the reservation stays what it is
  have kept : ∀ other entry, s.issued.get other = some entry →
      (other = callId → entry.reservationId ≠ some reservationId) →
      Accounted sign (s.log ++ [.restored callId reservationId]) other entry := by
    intro other entry found apart
    refine (held.accounted other entry found).snoc nofun fun reservationId' holds same => ?_
    obtain ⟨rfl, rfl⟩ := same
    exact apart rfl holds
  have follows : Follows (MayFollow sign) (s.log ++ [.restored callId reservationId]) :=
    follows_snoc_iff.mpr ⟨held.follows, trivial⟩
  unfold StreamTokenStore.restore
  split
  next absent =>
    refine ⟨held.keys, fun other entry found => kept other entry found ?_, follows⟩
    rintro rfl
    rw [absent] at found
    cases found
  next entry there =>
    split_ifs with other expired
    · refine ⟨held.keys, fun other' entry' found => kept other' entry' found ?_, follows⟩
      rintro rfl
      rw [there] at found
      cases found
      exact other
    · refine ⟨InsertionMap.keys_delete_nodup held.keys _, fun other' entry' found => ?_, follows⟩
      have ne : other' ≠ callId := by
        rintro rfl
        rw [InsertionMap.get_delete_self] at found
        cases found
      rw [InsertionMap.get_delete_of_ne _ ne] at found
      exact kept other' entry' found fun same => absurd same ne
    · refine ⟨InsertionMap.keys_set_nodup held.keys .., fun other' entry' found => ?_, follows⟩
      by_cases own : other' = callId
      · subst own
        rw [InsertionMap.get_set_self] at found
        cases found
        have accounted := held.accounted other' entry there
        refine ⟨List.mem_append_left _ accounted.issued, fun reservationId identity nowMs member => ?_, nofun⟩
        rcases List.mem_append.mp member with old | new
        · exact accounted.uncommitted reservationId identity nowMs old
        · simp at new
      · rw [InsertionMap.get_set_of_ne _ own] at found
        exact kept other' entry' found fun same => absurd same own

theorem Inv.release (held : Inv sign s) (callId : Text) : Inv sign (s.release callId) where
  keys := InsertionMap.keys_delete_nodup held.keys _
  accounted other entry found := by
    have ne : other ≠ callId := by
      rintro rfl
      rw [StreamTokenStore.release, InsertionMap.get_delete_self] at found
      cases found
    rw [StreamTokenStore.release, InsertionMap.get_delete_of_ne _ ne] at found
    exact (held.accounted other entry found).snoc nofun fun _ _ => Ne.symm ne
  follows := follows_snoc_iff.mpr ⟨held.follows, trivial⟩

theorem Inv.prune (held : Inv sign s) (nowMs : ℚ) : Inv sign (s.prune nowMs) where
  keys := InsertionMap.keys_filter_nodup held.keys _
  accounted callId entry found := by
    rw [StreamTokenStore.prune, InsertionMap.get_filter held.keys] at found
    obtain ⟨there, live⟩ := Option.filter_eq_some_iff.mp found
    have later : nowMs < entry.expMs := by simpa using live
    exact (held.accounted callId entry there).snoc nofun fun _ _ => later
  follows := follows_snoc_iff.mpr ⟨held.follows, trivial⟩

theorem Inv.step (held : Inv sign s) {call : StreamTokenCall Identity} (fresh : FreshIds s call) :
    Inv sign (s.step sign ttlMs call) := by
  cases call with
  | issue identity uuid nowMs => exact held.issue fresh
  | reserve callId token exp uuid nowMs => exact held.reserve callId token exp uuid nowMs
  | commit callId reservationId nowMs => exact held.commit callId reservationId nowMs
  | restore callId reservationId nowMs => exact held.restore callId reservationId nowMs
  | release callId => exact held.release callId
  | prune nowMs => exact held.prune nowMs

theorem inv_initial : Inv sign ({} : StreamTokenStore Identity) where
  keys := List.nodup_nil
  accounted := nofun
  follows := follows_nil

variable (sign ttlMs) in
/-- In every run whose call ids are fresh: a call id is committed at most once, with the identity of its issue,
before its expiry and for a reservation that goes back to its token and was neither restored nor released nor
pruned since; and two reservations of one call id that can both be committed are one. -/
theorem streamTokens_singleUse (calls : List (StreamTokenCall Identity))
    (fresh : Admitted FreshIds (step sign ttlMs) {} calls) :
    let s : StreamTokenStore Identity := run (step sign ttlMs) {} calls
    Follows (MayFollow sign) s.log ∧
      ∀ callId first second nowMs nowMs', (s.committable callId first nowMs).isSome →
        (s.committable callId second nowMs').isSome → first = second := by
  intro s
  have held : Inv sign s := run_invariant_of_admitted (Inv sign) (fun _ _ fresh held => held.step fresh) inv_initial
    fresh
  refine ⟨held.follows, fun callId first second nowMs nowMs' one other => ?_⟩
  obtain ⟨entry, found⟩ := Option.isSome_iff_exists.mp one
  obtain ⟨entry', found'⟩ := Option.isSome_iff_exists.mp other
  obtain ⟨there, reserved, -⟩ := committable_eq_some.mp found
  obtain ⟨there', reserved', -⟩ := committable_eq_some.mp found'
  obtain rfl := Option.some.inj (there.symm.trans there')
  exact Option.some.inj (reserved.symm.trans reserved')

/-- One call: its token is reserved, restored and reserved again, and the second of two commits is refused. -/
theorem streamTokens_singleUse_restored :
    let sign : Text → ℚ → Text := fun _ _ => List.replicate 64 97
    let token := some (List.replicate 64 97)
    let callId := callIdOf [49]
    let s : StreamTokenStore Nat := run (step sign 1000) {}
      [.issue 7 [49] 5, .reserve callId token (some [49, 48, 48, 53]) [50] 6, .restore callId [50] 7,
        .reserve callId token (some [49, 48, 48, 53]) [51] 8, .commit callId [50] 9, .commit callId [51] 9,
        .commit callId [51] 10]
    s.log.length = 5 ∧ Follows (MayFollow sign) s.log :=
  ⟨by decide +kernel, (streamTokens_singleUse (fun _ _ => List.replicate 64 97) 1000 _
    (by exact ⟨fun _ _ => List.not_mem_nil, trivial, trivial, trivial, trivial, trivial, trivial, trivial⟩)).1⟩

end StreamTokenStore

end Tvic
