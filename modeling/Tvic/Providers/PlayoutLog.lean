import Tvic.Lib.Log
import Tvic.Lib.Text

/-!
# What happens to the marks of committed audio

The log of a call handle: which marks it has written to its socket, which of them the other side has
acknowledged, when output was dropped, and what its calls of `confirmPlayout` have come to. A log is `Told`
when it goes with the calls: every call is settled at most once, and with `true` only where the log `confirms` it.
-/
namespace Tvic

open Lib

inductive PlayoutEntry where
  | written (markId : Text)
  | acked (markId : Text)
  /-- Output was cleared, or the handle closed. -/
  | dropped
  | undelivered (markId : Text)
  | called (call : Nat) (markId : Text)
  | settled (call : Nat) (markId : Text) (acked : Bool)
  deriving DecidableEq, Repr

/-- A call of `confirmPlayout`, with what its promise has been resolved with. -/
structure PlayoutCall where
  markId : Text
  outcome : Option Bool := none
  deriving DecidableEq, Repr

namespace PlayoutLog

/-- A call is settled once, after it was made, and with `true` only when it is confirmed. -/
def MayFollow (confirms : Nat → Text → List PlayoutEntry → Prop) (before : List PlayoutEntry) :
    PlayoutEntry → Prop
  | .settled call markId acked =>
    .called call markId ∈ before ∧ (∀ other outcome, .settled call other outcome ∉ before) ∧
      (acked = true → confirms call markId before)
  | _ => True

/-- The log tells what the calls are and what they have been settled with. -/
structure Told (confirms : Nat → Text → List PlayoutEntry → Prop) (calls : List PlayoutCall)
    (log : List PlayoutEntry) : Prop where
  follows : Follows (MayFollow confirms) log
  called : ∀ call markId, .called call markId ∈ log ↔ ∃ outcome, calls[call]? = some ⟨markId, outcome⟩
  settled : ∀ call markId acked,
    .settled call markId acked ∈ log ↔ calls[call]? = some ⟨markId, some acked⟩

variable {confirms : Nat → Text → List PlayoutEntry → Prop} {calls : List PlayoutCall}
  {log : List PlayoutEntry}

theorem told_nil : Told confirms [] [] where
  follows := follows_nil
  called _ _ := by simp
  settled _ _ _ := by simp

theorem Told.note (told : Told confirms calls log) {entry : PlayoutEntry}
    (noCall : ∀ call markId, entry ≠ .called call markId)
    (noSettlement : ∀ call markId acked, entry ≠ .settled call markId acked) :
    Told confirms calls (log ++ [entry]) where
  follows := by
    refine follows_snoc_iff.mpr ⟨told.follows, ?_⟩
    cases entry with
    | settled call markId acked => exact absurd rfl (noSettlement call markId acked)
    | _ => trivial
  called call markId := by
    rw [List.mem_append, told.called, List.mem_singleton]
    exact ⟨fun either => either.resolve_right fun same => noCall call markId same.symm, .inl⟩
  settled call markId acked := by
    rw [List.mem_append, told.settled, List.mem_singleton]
    exact ⟨fun either => either.resolve_right fun same => noSettlement call markId acked same.symm, .inl⟩

theorem Told.call (told : Told confirms calls log) (markId : Text) :
    Told confirms (calls ++ [⟨markId, none⟩]) (log ++ [.called calls.length markId]) where
  follows := follows_snoc_iff.mpr ⟨told.follows, trivial⟩
  called call other := by
    rw [List.mem_append, told.called, List.mem_singleton, PlayoutEntry.called.injEq]
    by_cases early : call < calls.length
    · rw [List.getElem?_append_left early]
      exact ⟨fun either => either.resolve_right fun same => Nat.ne_of_lt early same.1, .inl⟩
    · rw [List.getElem?_eq_none (Nat.le_of_not_lt early)]
      by_cases last : call = calls.length
      · subst last
        simp [eq_comm]
      · rw [List.getElem?_eq_none (by simp; omega)]
        simp [last]
  settled call other acked := by
    rw [List.mem_append, told.settled, List.mem_singleton]
    by_cases early : call < calls.length
    · rw [List.getElem?_append_left early]
      simp
    · rw [List.getElem?_eq_none (Nat.le_of_not_lt early)]
      by_cases last : call = calls.length
      · subst last
        simp
      · rw [List.getElem?_eq_none (by simp; omega)]
        simp

theorem Told.settle (told : Told confirms calls log) {call : Nat} {markId : Text} {acked : Bool}
    (waiting : calls[call]? = some ⟨markId, none⟩) (confirmed : acked = true → confirms call markId log) :
    Told confirms (calls.set call ⟨markId, some acked⟩) (log ++ [.settled call markId acked]) where
  follows := by
    refine follows_snoc_iff.mpr ⟨told.follows, ?_, ?_, confirmed⟩
    · exact (told.called call markId).mpr ⟨none, waiting⟩
    · intro other outcome already
      have same := (told.settled call other outcome).mp already
      rw [waiting] at same
      cases same
  called other mark := by
    rw [List.mem_append, told.called, List.mem_singleton, List.getElem?_set]
    by_cases same : call = other
    · subst same
      have inside := (List.getElem?_eq_some_iff.mp waiting).1
      rw [waiting, if_pos rfl, if_pos inside]
      simp
    · simp [same]
  settled other mark outcome := by
    rw [List.mem_append, told.settled, List.mem_singleton, List.getElem?_set]
    by_cases same : call = other
    · subst same
      have inside := (List.getElem?_eq_some_iff.mp waiting).1
      rw [waiting, if_pos rfl, if_pos inside]
      simp [eq_comm]
    · simp [same, Ne.symm same]

theorem Told.answer (told : Told confirms calls log) {markId : Text} {acked : Bool}
    (confirmed : acked = true → confirms calls.length markId (log ++ [.called calls.length markId])) :
    Told confirms (calls ++ [⟨markId, some acked⟩])
      (log ++ [.called calls.length markId] ++ [.settled calls.length markId acked]) := by
  have waiting : (calls ++ [⟨markId, none⟩])[calls.length]? = some ⟨markId, none⟩ := by simp
  have settled := (told.call markId).settle waiting confirmed
  simpa using settled

end PlayoutLog

end Tvic
