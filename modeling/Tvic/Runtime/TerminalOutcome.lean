import Tvic.Runtime.TerminalArbitration

/-!
# Which candidate the arbiter claims

The arbiter follows a simple account of the race: the lists of candidates offered in each batch, and
how many of them are committed. Its claim is the winner of the first committed batch that has any.
-/
namespace Tvic

open Lib

variable {X E : Type} {errors : ArbiterErrors X E}

/-! ### Winners -/

def winner (offered : List (TerminalCandidate E)) : Option (TerminalCandidate E) :=
  offered.foldl (fun best candidate => match best with
    | none => some candidate
    | some best => if best.source.priority < candidate.source.priority then candidate else best) none

theorem winner_snoc (offered : List (TerminalCandidate E)) (candidate : TerminalCandidate E) :
    winner (offered ++ [candidate]) = match winner offered with
      | none => some candidate
      | some best =>
        if best.source.priority < candidate.source.priority then some candidate else some best := by
  rw [winner, List.foldl_append, List.foldl_cons, List.foldl_nil, ← winner]

variable {offered : List (TerminalCandidate E)}

theorem winner_eq_none : winner offered = none ↔ offered = [] := by
  induction offered using List.reverseRecOn with
  | nil => simp [winner]
  | append_singleton offered candidate ih =>
    rw [winner_snoc]
    cases winner offered with
    | none => simp
    | some best =>
      dsimp only
      split <;> simp

theorem winner_wins {best : TerminalCandidate E} (found : winner offered = some best) :
    Wins best offered := by
  induction offered using List.reverseRecOn generalizing best with
  | nil => cases found
  | append_singleton offered candidate ih =>
    rw [winner_snoc] at found
    cases earlier : winner offered with
    | none =>
      rw [earlier] at found
      cases found
      obtain rfl := winner_eq_none.mp earlier
      exact ⟨[], [], rfl, by simp, by simp⟩
    | some champion =>
      rw [earlier] at found
      obtain ⟨before, after, split, lower, notHigher⟩ := ih earlier
      dsimp only at found
      split at found
      next higher =>
        cases found
        refine ⟨offered, [], rfl, ?_, by simp⟩
        intro other member
        rw [split] at member
        rcases List.mem_append.mp member with early | late
        · exact Nat.lt_trans (lower other early) higher
        · rcases List.mem_cons.mp late with rfl | late
          · exact higher
          · exact Nat.lt_of_le_of_lt (notHigher other late) higher
      next lowerOrEqual =>
        cases found
        refine ⟨before, after ++ [candidate], by simp [split], lower, ?_⟩
        intro other member
        rcases List.mem_append.mp member with late | only
        · exact notHigher other late
        · rw [List.mem_singleton.mp only]
          exact Nat.le_of_not_lt lowerOrEqual

/-! ### Records of offers -/

/-- The record of a batch in which the given candidates were offered, in this order and with sequence
numbers up to `bound`. -/
structure Recorded (bound : Nat) (record : BatchRecord E) (offered : List (TerminalCandidate E)) :
    Prop where
  claims : record.candidates.map (·.claim) = offered.map (·.claim)
  priorities : ∀ candidate ∈ record.candidates, candidate.priority = candidate.claim.source.priority
  increasing : record.candidates.Pairwise fun left right => left.sequence < right.sequence
  bounded : ∀ candidate ∈ record.candidates, candidate.sequence ≤ bound

variable {record : BatchRecord E}

theorem Recorded.mono {bound later : Nat} (recorded : Recorded bound record offered)
    (le : bound ≤ later) : Recorded later record offered :=
  { recorded with bounded := fun candidate member => Nat.le_trans (recorded.bounded candidate member) le }

theorem Recorded.offer {bound : Nat} (recorded : Recorded bound record offered)
    (candidate : TerminalCandidate E) :
    Recorded (bound + 1)
      { record with candidates := record.candidates ++
          [{ claim := candidate.claim, priority := candidate.source.priority, sequence := bound + 1 }] }
      (offered ++ [candidate]) := by
  constructor
  case claims => simp [recorded.claims]
  case priorities =>
    intro other member
    rcases List.mem_append.mp member with old | new
    · exact recorded.priorities other old
    · rw [List.mem_singleton.mp new]
      rfl
  case increasing =>
    rw [List.pairwise_append]
    refine ⟨recorded.increasing, by simp, ?_⟩
    intro old member new only
    rw [List.mem_singleton.mp only]
    exact Nat.lt_succ_of_le (recorded.bounded old member)
  case bounded =>
    intro other member
    rcases List.mem_append.mp member with old | new
    · exact Nat.le_succ_of_le (recorded.bounded other old)
    · rw [List.mem_singleton.mp new]

theorem Recorded.providerRuntime {bound : Nat} (recorded : Recorded bound record offered) :
    (record.candidates.any fun candidate => candidate.claim.source = .providerRuntime) =
      offered.any fun candidate => candidate.source = .providerRuntime := by
  have sources : record.candidates.map (·.claim.source) = offered.map (·.source) := by
    have mapped := congrArg (List.map fun claim : TerminalClaim E => claim.source) recorded.claims
    simpa [List.map_map, Function.comp_def, TerminalCandidate.claim] using mapped
  have anys := congrArg (List.any · fun source => source = .providerRuntime) sources
  simpa [List.any_map, Function.comp_def] using anys

theorem precedes_total (left right : BatchCandidate E) :
    TerminalArbiter.precedes left right || TerminalArbiter.precedes right left := by
  simp only [TerminalArbiter.precedes, Bool.or_eq_true, Bool.and_eq_true, decide_eq_true_eq]
  omega

theorem precedes_trans (first second third : BatchCandidate E)
    (left : TerminalArbiter.precedes first second) (right : TerminalArbiter.precedes second third) :
    TerminalArbiter.precedes first third := by
  simp only [TerminalArbiter.precedes, Bool.or_eq_true, Bool.and_eq_true, decide_eq_true_eq] at *
  omega

theorem wins_unique {left right : TerminalCandidate E} (first : Wins left offered)
    (second : Wins right offered) : left = right := by
  obtain ⟨before, after, split, lower, notHigher⟩ := first
  obtain ⟨before', after', split', lower', notHigher'⟩ := second
  rw [split] at split'
  -- whichever of two winners comes first is both lower and not lower than the other
  rcases List.append_eq_append_iff.mp split' with ⟨between, rfl, rest⟩ | ⟨between, rfl, rest⟩
  · cases between with
    | nil => exact (List.cons.inj (by simpa using rest)).1
    | cons middle between =>
      obtain ⟨rfl, rfl⟩ := List.cons.inj (by simpa using rest)
      have low := lower' left (by simp)
      have high := notHigher right (by simp)
      omega
  · cases between with
    | nil => exact (List.cons.inj (by simpa using rest.symm)).1
    | cons middle between =>
      obtain ⟨rfl, rfl⟩ := List.cons.inj (by simpa using rest)
      have low := lower right (by simp)
      have high := notHigher' left (by simp)
      omega

theorem Recorded.sorted_head {bound : Nat} (recorded : Recorded bound record offered) :
    ((record.candidates.mergeSort TerminalArbiter.precedes).head?.map (·.claim)) =
      (winner offered).map (·.claim) := by
  cases sorted : record.candidates.mergeSort TerminalArbiter.precedes with
  | nil =>
    have none_recorded : record.candidates = [] := by
      have perm := List.mergeSort_perm record.candidates TerminalArbiter.precedes
      rw [sorted] at perm
      exact perm.symm.eq_nil
    have none_offered : offered = [] := by
      have claims := recorded.claims
      rw [none_recorded] at claims
      exact List.map_eq_nil_iff.mp claims.symm
    rw [none_offered]
    rfl
  | cons best rest =>
    have perm := List.mergeSort_perm record.candidates TerminalArbiter.precedes
    have ordered := List.pairwise_mergeSort precedes_trans precedes_total record.candidates
    rw [sorted] at perm ordered
    have member : best ∈ record.candidates := perm.mem_iff.mp (by simp)
    have first : ∀ other ∈ record.candidates, other ≠ best →
        TerminalArbiter.precedes best other = true := by
      intro other present apart
      rcases List.mem_cons.mp (perm.mem_iff.mpr present) with same | later
      · exact absurd same apart
      · exact List.rel_of_pairwise_cons ordered later
    obtain ⟨before, after, split⟩ := List.append_of_mem member
    have claims := recorded.claims
    rw [split, List.map_append, List.map_cons] at claims
    obtain ⟨before', later, rfl, beforeClaims, laterClaims⟩ := List.map_eq_append_iff.mp claims.symm
    obtain ⟨candidate, after', rfl, bestClaim, afterClaims⟩ := List.map_eq_cons_iff.mp laterClaims
    have priority : ∀ recordedCandidate ∈ record.candidates, ∀ offeredCandidate : TerminalCandidate E,
        offeredCandidate.claim = recordedCandidate.claim →
        offeredCandidate.source.priority = recordedCandidate.priority := by
      intro recordedCandidate present offeredCandidate same
      rw [recorded.priorities recordedCandidate present, ← same]
      rfl
    have increasing := recorded.increasing
    rw [split, List.pairwise_append, List.pairwise_cons] at increasing
    have wins : Wins candidate (before' ++ candidate :: after') := by
      refine ⟨before', after', rfl, ?_, ?_⟩
      · intro earlier early
        obtain ⟨other, otherMember, same⟩ := List.mem_map.mp
          (beforeClaims ▸ List.mem_map_of_mem early)
        have present : other ∈ record.candidates := by simp [split, otherMember]
        have sequence := increasing.2.2 other otherMember best (by simp)
        have ahead := first other present (by rintro rfl; omega)
        rw [priority other present earlier same.symm, priority best member candidate bestClaim]
        simp only [TerminalArbiter.precedes, Bool.or_eq_true, Bool.and_eq_true,
          decide_eq_true_eq] at ahead
        omega
      · intro other late
        obtain ⟨afterBest, afterMember, same⟩ := List.mem_map.mp
          (afterClaims ▸ List.mem_map_of_mem late)
        have present : afterBest ∈ record.candidates := by simp [split, afterMember]
        have sequence := increasing.2.1.1 afterBest afterMember
        have ahead := first afterBest present (by rintro rfl; omega)
        rw [priority afterBest present other same.symm, priority best member candidate bestClaim]
        simp only [TerminalArbiter.precedes, Bool.or_eq_true, Bool.and_eq_true,
          decide_eq_true_eq] at ahead
        omega
    cases found : winner (before' ++ candidate :: after') with
    | none => simp [winner_eq_none] at found
    | some champion =>
      rw [wins_unique (winner_wins found) wins]
      simp [bestClaim]

/-! ### A callback in its batch -/

/-- While callbacks of one batch run: it is the last of the batches, the others are as they were, and
what was offered in it is recorded. -/
def Running (others : List (BatchRecord E)) (start : Nat) (claim : Option (TerminalClaim E))
    (offered : List (TerminalCandidate E)) (arbiter : TerminalArbiter E) : Prop :=
  arbiter.active = some others.length ∧ arbiter.claim = claim ∧ start ≤ arbiter.nextSequence ∧
    ∃ record, arbiter.batches = others ++ [record] ∧ record.committed = false ∧
      Recorded arbiter.nextSequence record offered

section Callbacks

variable {others : List (BatchRecord E)} {start : Nat} {claim : Option (TerminalClaim E)}
  {offered : List (TerminalCandidate E)} {arbiter : TerminalArbiter E}

theorem Running.offer (running : Running others start claim offered arbiter)
    (candidate : TerminalCandidate E) :
    Running others start claim (offered ++ [candidate])
      (arbiter.offerInBatch others.length candidate) := by
  obtain ⟨active, claimed, from_start, record, batches, uncommitted, recorded⟩ := running
  refine ⟨active, claimed, Nat.le_succ_of_le from_start, _, ?_, ?_, recorded.offer candidate⟩
  · simp [TerminalArbiter.offerInBatch, batches, List.modify_eq_set_getElem?]
  · exact uncommitted

theorem Running.catchThrown (running : Running others start claim offered arbiter) (thrown : X) :
    Running others start claim (offersAtEnd.withThrown errors offered thrown)
      (arbiter.catchThrown errors others.length thrown) := by
  obtain ⟨-, -, -, record, batches, -, recorded⟩ := id running
  have same : arbiter.hasProviderRuntime others.length =
      offered.any fun candidate => candidate.source = .providerRuntime := by
    simp [TerminalArbiter.hasProviderRuntime, batches, ← recorded.providerRuntime]
  unfold TerminalArbiter.catchThrown offersAtEnd.withThrown
  rw [same]
  split
  · exact running
  · exact running.offer _

variable (errors) in
theorem Running.dispatch (running : Running others start claim offered arbiter)
    {body : TerminalArbiter E → CallbackEnd X × TerminalArbiter E} {ending : CallbackEnd X}
    {offered' : List (TerminalCandidate E)} (ends : (body arbiter).1 = ending)
    (runs : Running others start claim offered' (body arbiter).2) :
    (arbiter.dispatchBatch errors body).1 = (offersAtEnd errors offered' ending).1 ∧
      Running others start claim (offersAtEnd errors offered' ending).2
        (arbiter.dispatchBatch errors body).2 := by
  obtain ⟨active, -⟩ := running
  have same : { arbiter with active := some others.length } = arbiter := by rw [← active]
  subst ends
  simp only [TerminalArbiter.dispatchBatch, active, Option.getD_some, same]
  have keeps : ∀ {after : TerminalArbiter E} {offered : List (TerminalCandidate E)},
      Running others start claim offered after →
        Running others start claim offered { after with active := some others.length } :=
    fun runs => ⟨rfl, runs.2⟩
  cases result : body arbiter with
  | mk ending after =>
    rw [result] at runs
    cases ending with
    | returned => exact ⟨rfl, keeps runs⟩
    | promise => exact ⟨rfl, keeps (runs.catchThrown errors.notSynchronous)⟩
    | threw thrown => exact ⟨rfl, keeps (runs.catchThrown thrown)⟩

variable (errors) in
theorem runCallback_offers (callback : Callback X E)
    (running : Running others start claim offered arbiter) :
    (TerminalArbiter.runCallback errors callback arbiter).1 =
        (offers errors claim callback offered).1 ∧
      Running others start claim (offers errors claim callback offered).2
        (TerminalArbiter.runCallback errors callback arbiter).2 := by
  induction callback generalizing offered arbiter with
  | returns => exact ⟨rfl, running⟩
  | returnsPromise => exact ⟨rfl, running⟩
  | throws thrown => exact ⟨rfl, running⟩
  | readClaim next ih =>
    simp only [TerminalArbiter.runCallback, offers, running.2.1]
    exact ih claim running
  | offer candidate next ih =>
    simp only [TerminalArbiter.runCallback, TerminalArbiter.offerTerminal, running.1, offers]
    exact ih candidate.claim (running.offer candidate)
  | dispatch callback next callback_ih next_ih =>
    obtain ⟨ends, runs⟩ := callback_ih running
    obtain ⟨threw, runs⟩ := running.dispatch errors ends runs
    simp only [TerminalArbiter.runCallback, offers, threw]
    exact next_ih _ runs

end Callbacks

/-! ### The account of a run -/

/-- The candidates offered in each batch, and the number of batches committed. -/
structure Arbitration (E : Type) where
  offered : List (List (TerminalCandidate E))
  committed : Nat

namespace Arbitration

def new : Arbitration E where
  offered := []
  committed := 0

/-- The winner of the first committed batch that has candidates. -/
def outcome (arbitration : Arbitration E) : Option (TerminalCandidate E) :=
  (arbitration.offered.take arbitration.committed).findSome? winner

variable (errors : ArbiterErrors X E)

def step (arbitration : Arbitration E) : ArbiterEvent X E → Arbitration E
  | .dispatch callback =>
    { arbitration with offered := arbitration.offered ++
        [batchOffers errors (arbitration.outcome.map (·.claim)) callback] }
  | .commit =>
    { arbitration with
      committed := min (arbitration.committed + 1) arbitration.offered.length }

def after (events : List (ArbiterEvent X E)) : Arbitration E :=
  run (step errors) new events

end Arbitration

/-- The arbiter's batches record the offers, the committed ones come first, and its claim is the
outcome. -/
structure Follows (arbitration : Arbitration E) (arbiter : TerminalArbiter E) : Prop where
  idle : arbiter.active = none
  recorded : List.Forall₂ (Recorded arbiter.nextSequence) arbiter.batches arbitration.offered
  commits : arbiter.batches.map (·.committed) =
    List.replicate arbitration.committed true ++
      List.replicate (arbitration.offered.length - arbitration.committed) false
  within : arbitration.committed ≤ arbitration.offered.length
  claim : arbiter.claim = arbitration.outcome.map (·.claim)

variable {arbiter : TerminalArbiter E}

variable (errors) in
theorem dispatch_new (idle : arbiter.active = none) (callback : Callback X E) :
    let after := (arbiter.dispatchBatch errors (TerminalArbiter.runCallback errors callback)).2
    after.active = none ∧ after.claim = arbiter.claim ∧ arbiter.nextSequence ≤ after.nextSequence ∧
      ∃ record, after.batches = arbiter.batches ++ [record] ∧ record.committed = false ∧
        Recorded after.nextSequence record (batchOffers errors arbiter.claim callback) := by
  have begins : Running arbiter.batches arbiter.nextSequence arbiter.claim []
      { arbiter with
        active := some arbiter.batches.length
        batches := arbiter.batches ++ [{ candidates := [], committed := false }] } :=
    ⟨rfl, rfl, Nat.le_refl _, _, rfl, rfl, by constructor <;> simp⟩
  obtain ⟨ends, runs⟩ := runCallback_offers errors callback begins
  simp only [TerminalArbiter.dispatchBatch, idle, Option.getD_none, batchOffers]
  rw [← ends]
  cases result : TerminalArbiter.runCallback errors callback
      { arbiter with
        active := some arbiter.batches.length
        batches := arbiter.batches ++ [{ candidates := [], committed := false }] } with
  | mk ending after =>
    rw [result] at runs
    cases ending with
    | returned => exact ⟨rfl, runs.2⟩
    | promise => exact ⟨rfl, (runs.catchThrown errors.notSynchronous).2⟩
    | threw thrown => exact ⟨rfl, (runs.catchThrown thrown).2⟩

variable {arbitration : Arbitration E}

theorem Follows.dispatch (follows : Follows arbitration arbiter) (callback : Callback X E) :
    Follows (arbitration.step errors (.dispatch callback)) (arbiter.step errors (.dispatch callback)) := by
  obtain ⟨idle, claimed, from_start, record, batches, uncommitted, recorded⟩ :=
    dispatch_new errors follows.idle callback
  have lengths := follows.recorded.length_eq
  constructor
  case idle => exact idle
  case recorded =>
    rw [TerminalArbiter.step, batches]
    refine List.rel_append ?_ (.cons ?_ .nil)
    · exact follows.recorded.imp fun _ _ recorded => recorded.mono from_start
    · rw [← follows.claim]
      exact recorded
  case commits =>
    have more : arbitration.offered.length + 1 - arbitration.committed =
        arbitration.offered.length - arbitration.committed + 1 := by
      have within := follows.within
      omega
    simp only [TerminalArbiter.step, batches, List.map_append, follows.commits, Arbitration.step,
      List.length_append, List.length_singleton, more, List.replicate_succ', List.append_assoc,
      List.map_singleton, uncommitted]
  case within => exact Nat.le_trans follows.within (by simp [Arbitration.step])
  case claim =>
    have same : (arbitration.step errors (.dispatch callback)).outcome = arbitration.outcome := by
      simp only [Arbitration.outcome, Arbitration.step,
        List.take_append_of_le_length follows.within]
    rw [same, ← follows.claim]
    exact claimed

theorem findIdx_replicate (committed uncommitted : Nat) :
    (List.replicate committed true ++ List.replicate uncommitted false).findIdx (fun flag => !flag) =
      committed := by
  induction committed with
  | zero => cases uncommitted <;> simp [List.replicate_succ, List.findIdx_cons]
  | succ committed ih => simp [List.replicate_succ, List.findIdx_cons, ih]

theorem forall₂_append_left {α β : Type} {R : α → β → Prop} {left right : List α} {whole : List β}
    (related : List.Forall₂ R (left ++ right) whole) :
    ∃ left' right', whole = left' ++ right' ∧ List.Forall₂ R left left' ∧
      List.Forall₂ R right right' := by
  induction left generalizing whole with
  | nil => exact ⟨[], whole, rfl, .nil, related⟩
  | cons a left ih =>
    cases related with
    | cons first rest =>
      obtain ⟨left', right', rfl, lefts, rights⟩ := ih rest
      exact ⟨_ :: left', right', rfl, .cons first lefts, rights⟩

theorem Follows.commit (follows : Follows arbitration arbiter) :
    Follows (arbitration.step errors (.commit : ArbiterEvent X E))
      (arbiter.step errors (.commit : ArbiterEvent X E)) := by
  have next : arbiter.batches.findIdx (fun record => !record.committed) = arbitration.committed := by
    have mapped := findIdx_replicate arbitration.committed
      (arbitration.offered.length - arbitration.committed)
    rw [← follows.commits, List.findIdx_map] at mapped
    exact mapped
  have lengths := follows.recorded.length_eq
  rcases Nat.lt_or_ge arbitration.committed arbitration.offered.length with more | all
  case inr =>
    -- nothing is left to commit
    have out : arbiter.batches[arbitration.committed]? = none :=
      List.getElem?_eq_none (by omega)
    have same : arbitration.step errors (.commit : ArbiterEvent X E) = arbitration := by
      have within := follows.within
      simp only [Arbitration.step, show min (arbitration.committed + 1) arbitration.offered.length =
        arbitration.committed by omega]
    rw [same, TerminalArbiter.step, next, TerminalArbiter.commit, out]
    exact follows
  -- the batches are those done, the one to commit and the rest, and the offers likewise
  obtain ⟨left, leftEq⟩ : ∃ left, arbitration.offered.length - arbitration.committed = left + 1 :=
    ⟨arbitration.offered.length - arbitration.committed - 1, by omega⟩
  have flags := follows.commits
  rw [leftEq, List.replicate_succ] at flags
  obtain ⟨done, waiting, batches, doneFlags, waitingFlags⟩ := List.map_eq_append_iff.mp flags
  obtain ⟨record, rest, rfl, uncommitted, restFlags⟩ := List.map_eq_cons_iff.mp waitingFlags
  have doneLength : done.length = arbitration.committed := by
    simpa using congrArg List.length doneFlags
  obtain ⟨before, later, offered, beforeRecorded, laterRecorded⟩ :=
    forall₂_append_left (batches ▸ follows.recorded)
  cases laterRecorded with
  | @cons _ now _ after recorded afterRecorded =>
    have beforeLength : before.length = arbitration.committed :=
      beforeRecorded.length_eq.symm.trans doneLength
    have found : arbiter.batches[arbitration.committed]? = some record := by
      simp [batches, ← doneLength]
    have modified : ∀ f : BatchRecord E → BatchRecord E,
        arbiter.batches.modify arbitration.committed f = done ++ f record :: rest := by
      intro f
      simp [batches, ← doneLength, List.modify_eq_set_getElem?]
    have outcome : (arbitration.step errors (.commit : ArbiterEvent X E)).outcome =
        arbitration.outcome.or (winner now) := by
      have count : min (arbitration.committed + 1) arbitration.offered.length =
          (before ++ [now]).length := by
        simp only [List.length_append, List.length_singleton]
        omega
      have taken : arbitration.offered.take (before ++ [now]).length = before ++ [now] := by
        rw [offered, show before ++ now :: after = (before ++ [now]) ++ after by simp, List.take_left]
      have takenBefore : arbitration.offered.take arbitration.committed = before := by
        rw [offered, ← beforeLength, List.take_left]
      simp only [Arbitration.outcome, Arbitration.step, count, taken, takenBefore,
        List.findSome?_append, List.findSome?_cons, List.findSome?_nil]
      cases winner now <;> rfl
    have committed : Follows (arbitration.step errors (.commit : ArbiterEvent X E))
        { arbiter with
          batches := done ++ { record with committed := true } :: rest
          claim := (arbitration.step errors (.commit : ArbiterEvent X E)).outcome.map (·.claim) } := by
      constructor
      case idle => exact follows.idle
      case claim => rfl
      case within => simp [Arbitration.step]
      case recorded =>
        simp only [Arbitration.step, offered]
        refine List.rel_append beforeRecorded (.cons ?_ afterRecorded)
        exact { recorded with }
      case commits =>
        have count : min (arbitration.committed + 1) arbitration.offered.length =
          arbitration.committed + 1 := by omega
        have rest_count : arbitration.offered.length - (arbitration.committed + 1) = left := by omega
        simp only [List.map_append, List.map_cons, doneFlags, restFlags, Arbitration.step, count,
          rest_count, List.replicate_succ', List.append_assoc, List.singleton_append]
    rw [TerminalArbiter.step, next, TerminalArbiter.commit, found]
    simp only [uncommitted, Bool.false_eq_true, if_false, modified]
    rw [outcome] at committed
    have head := recorded.sorted_head
    cases decided : arbitration.outcome with
    | some champion =>
      have claimed := follows.claim
      rw [decided] at claimed committed
      rw [if_pos (by simp [claimed])]
      rw [Option.some_or] at committed
      rw [← claimed] at committed
      exact committed
    | none =>
      have claimed := follows.claim
      rw [decided] at claimed committed
      rw [if_neg (by simp [claimed])]
      rw [Option.none_or, ← head] at committed
      cases sorted : (record.candidates.mergeSort TerminalArbiter.precedes).head? with
      | some best =>
        rw [sorted] at committed
        exact committed
      | none =>
        rw [sorted, Option.map_none] at committed
        rw [Option.map_none] at claimed
        rw [← claimed] at committed
        exact committed

/-! ### Runs -/

variable (errors) in
theorem after_follows (events : List (ArbiterEvent X E)) :
    Follows (Arbitration.after errors events) (TerminalArbiter.after errors events) := by
  induction events using List.reverseRecOn with
  | nil => constructor <;> simp [Arbitration.after, Arbitration.new, TerminalArbiter.after,
      TerminalArbiter.new, Arbitration.outcome]
  | append_singleton events last ih =>
    simp only [Arbitration.after, TerminalArbiter.after, run_snoc] at ih ⊢
    cases last with
    | dispatch callback => exact ih.dispatch callback
    | commit => exact ih.commit

theorem Arbitration.outcome_step {best : TerminalCandidate E}
    (within : arbitration.committed ≤ arbitration.offered.length)
    (decided : arbitration.outcome = some best) (event : ArbiterEvent X E) :
    (arbitration.step errors event).outcome = some best := by
  cases event with
  | dispatch callback =>
    rw [← decided]
    simp only [outcome, step, List.take_append_of_le_length within]
  | commit =>
    -- one more batch can only come after those that have decided
    have longer : arbitration.offered.take (min (arbitration.committed + 1) arbitration.offered.length) =
        arbitration.offered.take arbitration.committed ++
          (arbitration.offered.drop arbitration.committed).take
            (min (arbitration.committed + 1) arbitration.offered.length - arbitration.committed) := by
      rw [← List.take_add]
      congr 1
      omega
    simp only [outcome, step, longer, List.findSome?_append] at decided ⊢
    rw [decided, Option.some_or]

/-- Terminal arbitration, for every run of calls from outside, with whatever nests in them, and of
commits in the order of the batches: a claim once set never changes; and the arbiter claims a candidate
exactly if it wins among those offered in the first committed batch that has any. -/
theorem terminal_arbitration (events : List (ArbiterEvent X E)) :
    (∀ before rest claim, events = before ++ rest →
      (TerminalArbiter.after errors before).claim = some claim →
        (TerminalArbiter.after errors events).claim = some claim) ∧
    ∀ claim, (TerminalArbiter.after errors events).claim = some claim ↔
      ∃ earlier batch later candidate,
        (Arbitration.after errors events).offered.take (Arbitration.after errors events).committed =
          earlier ++ batch :: later ∧
        (∀ other ∈ earlier, other = []) ∧ Wins candidate batch ∧ claim = candidate.claim := by
  constructor
  · rintro before rest claim rfl claimed
    rw [(after_follows errors before).claim] at claimed
    rw [(after_follows errors (before ++ rest)).claim]
    obtain ⟨best, decided, rfl⟩ := Option.map_eq_some_iff.mp claimed
    suffices stays : (Arbitration.after errors (before ++ rest)).outcome = some best by rw [stays]; rfl
    induction rest using List.reverseRecOn with
    | nil => simpa using decided
    | append_singleton rest last ih =>
      have within := (after_follows errors (before ++ rest)).within
      rw [← List.append_assoc, Arbitration.after, run_snoc]
      exact Arbitration.outcome_step within ih last
  · intro claim
    rw [(after_follows errors events).claim, Option.map_eq_some_iff, Arbitration.outcome]
    constructor
    · rintro ⟨best, decided, rfl⟩
      obtain ⟨earlier, batch, later, split, wins, none_before⟩ := List.findSome?_eq_some_iff.mp decided
      refine ⟨earlier, batch, later, best, split, ?_, winner_wins wins, rfl⟩
      intro other member
      exact winner_eq_none.mp (none_before other member)
    · rintro ⟨earlier, batch, later, candidate, split, none_before, wins, rfl⟩
      refine ⟨candidate, ?_, rfl⟩
      rw [List.findSome?_eq_some_iff]
      refine ⟨earlier, batch, later, split, ?_, fun other member =>
        winner_eq_none.mpr (none_before other member)⟩
      cases found : winner batch with
      | none =>
        obtain ⟨before, after, nonempty, -⟩ := wins
        rw [winner_eq_none.mp found] at nonempty
        simp at nonempty
      | some best => rw [wins_unique (winner_wins found) wins]

end Tvic
