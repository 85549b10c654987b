import Mathlib.Data.Set.Basic
import Tvic.Lib.Run

/-!
# A slot that is published once

One slot, reserved by one owner at a time for one request. The owner publishes a value, whoever
comes with the same request is given that value, and once the value is consumed nobody is. Records
expire, and an asker may hold a value for a while before it gives it out.

`Change` says what the steps of such a slot may be, `Faithful` what its history may look like, and
`Reaches.faithful` that the first gives the second as long as nothing is published or consumed
while a value is held.
-/
namespace Tvic.Lib.Publication

variable {ω κ ν σ ε : Type*}

/-- Where a reservation stands. -/
inductive Phase (ν : Type*) where
  | reserved
  | published (value : ν)
  | consumed

structure Record (ω κ ν : Type*) where
  owner : ω
  request : κ
  expiry : Nat
  phase : Phase ν

/-- What can be seen of a step. -/
inductive Act (ω κ ν : Type*) where
  | reserved (owner : ω) (request : κ) (expiry : Nat)
  | published (owner : ω) (request : κ) (value : ν)
  | removed (caller owner : ω)
  | consumed (expiry : Nat)
  | replayed (request : κ) (value : ν)

/-- The slot, the values askers hold but have not given out, and the owners already used. -/
structure Slot (ω κ ν : Type*) where
  record : Option (Record ω κ ν)
  held : Set (κ × ν)
  used : Set ω

namespace Slot

variable (now : Nat) (slot : Slot ω κ ν)

/-- The steps of a slot at the moment `now`. -/
inductive Change : Option (Act ω κ ν) → Slot ω κ ν → Prop
  | quiet {slot'} (same : slot'.record = slot.record) (held : slot'.held ⊆ slot.held) :
      Change none slot'
  | expire {slot' record} (found : slot.record = some record) (gone : record.expiry ≤ now)
      (cleared : slot'.record = none) (held : slot'.held ⊆ slot.held) : Change none slot'
  | remove {slot' record} (found : slot.record = some record)
      (unpublished : record.phase = .reserved ∨ record.expiry ≤ now)
      (cleared : slot'.record = none) (held : slot'.held ⊆ slot.held) :
      Change (some (.removed record.owner record.owner)) slot'
  | reserve {slot' owner request expiry}
      (free : ∀ record, slot.record = some record → record.expiry ≤ now)
      (unused : owner ∉ slot.used) (nowUsed : owner ∈ slot'.used)
      (written : slot'.record = some ⟨owner, request, expiry, .reserved⟩)
      (held : slot'.held ⊆ slot.held) : Change (some (.reserved owner request expiry)) slot'
  | publish {slot' record value expiry} (found : slot.record = some record)
      (reserved : record.phase = .reserved) (alive : now < record.expiry)
      (written : slot'.record = some ⟨record.owner, record.request, expiry, .published value⟩)
      (held : slot'.held ⊆ insert (record.request, value) slot.held) :
      Change (some (.published record.owner record.request value)) slot'
  | consume {slot' record} (found : slot.record = some record)
      (published : record.phase ≠ .reserved)
      (written : slot'.record = some { record with phase := .consumed })
      (held : slot'.held ⊆ slot.held) : Change (some (.consumed record.expiry)) slot'
  | hold {slot' record value} (found : slot.record = some record)
      (published : record.phase = .published value) (same : slot'.record = slot.record)
      (held : slot'.held ⊆ insert (record.request, value) slot.held) : Change none slot'
  | give {slot' request value} (known : (request, value) ∈ slot.held)
      (same : slot'.record = slot.record) (held : slot'.held ⊆ slot.held) :
      Change (some (.replayed request value)) slot'
  | replay {slot' record value} (found : slot.record = some record)
      (published : record.phase = .published value) (alive : now < record.expiry)
      (same : slot'.record = slot.record) (held : slot'.held ⊆ slot.held) :
      Change (some (.replayed record.request value)) slot'

structure Step (act : Option (Act ω κ ν)) (slot' : Slot ω κ ν) : Prop where
  used : slot.used ⊆ slot'.used
  change : Change now slot act slot'

end Slot

/-- A step after which what askers hold would be out of date. -/
def Act.outdates : Act ω κ ν → Bool
  | .published .. => true
  | .consumed .. => true
  | _ => false

/-- Nothing is published or consumed while an asker holds a value. -/
def Prompt (slot : Slot ω κ ν) (act : Option (Act ω κ ν)) : Prop :=
  ∀ known ∈ act, known.outdates = true → slot.held = ∅

theorem prompt_of_idle {slot : Slot ω κ ν} {act : Option (Act ω κ ν)} (idle : slot.held = ∅) :
    Prompt slot act :=
  fun _ _ _ => idle

theorem prompt_of_quiet {slot : Slot ω κ ν} {act : Option (Act ω κ ν)}
    (quiet : act.any Act.outdates = false) : Prompt slot act := by
  rintro known ⟨⟩ outdates
  rw [Option.any_some, outdates] at quiet
  exact nomatch quiet

/-- The runs of a slot: where they end, at what time, and what was seen. -/
inductive Reaches : Slot ω κ ν → Nat → List (Nat × Act ω κ ν) → Prop
  | start {slot} (empty : slot.record = none) (held : slot.held = ∅) : Reaches slot 0 []
  | step {slot slot' clock now history act} (before : Reaches slot clock history)
      (later : clock ≤ now) (step : slot.Step now act slot') (prompt : Prompt slot act) :
      Reaches slot' now (history ++ act.toList.map fun act => (now, act))

section History

/-- The request and the value of the last publication. -/
def lastPublished (history : List (Nat × Act ω κ ν)) : Option (κ × ν) :=
  history.foldl (fun last seen => match seen.2 with
    | .published _ request value => some (request, value)
    | _ => last) none

/-- The owner reserved the slot, has not published or given up, and its time is not over. -/
def Live (now : Nat) (history : List (Nat × Act ω κ ν)) (owner : ω) : Prop :=
  ∃ at_ request expiry, (at_, .reserved owner request expiry) ∈ history ∧ now < expiry ∧
    (∀ moment request value, (moment, .published owner request value) ∉ history) ∧
    ∀ moment caller, (moment, .removed caller owner) ∉ history

/-- What may be seen at the moment `now` after the history. -/
def Allowed (history : List (Nat × Act ω κ ν)) (now : Nat) : Act ω κ ν → Prop
  | .reserved _ _ _ => ∀ owner, ¬ Live now history owner
  | .published owner request _ => Live now history owner ∧
      ∃ moment expiry, (moment, .reserved owner request expiry) ∈ history
  | .removed caller owner => caller = owner
  | .consumed _ => True
  | .replayed request value => lastPublished history = some (request, value) ∧
      ∀ moment expiry, (moment, .consumed expiry) ∈ history → expiry ≤ now

/-- Whatever was seen was allowed after what was seen before it. -/
def Faithful (history : List (Nat × Act ω κ ν)) : Prop :=
  ∀ before now act after, history = before ++ (now, act) :: after → Allowed before now act

end History

section Invariant

variable {now clock : Nat} {slot slot' : Slot ω κ ν} {act : Option (Act ω κ ν)}
  {history : List (Nat × Act ω κ ν)} {owner : ω}

def Act.subject : Act ω κ ν → Option ω
  | .reserved owner _ _ => some owner
  | .published owner _ _ => some owner
  | .removed _ owner => some owner
  | .consumed _ => none
  | .replayed _ _ => none

@[simp] theorem lastPublished_snoc (moment : Nat) (seen : Act ω κ ν) :
    lastPublished (history ++ [(moment, seen)]) =
      match seen with
      | .published _ request value => some (request, value)
      | _ => lastPublished history := by
  simp [lastPublished, List.foldl_append]

theorem Live.earlier {later : Nat} (live : Live later history owner) (le : now ≤ later) :
    Live now history owner := by
  obtain ⟨moment, request, expiry, reserved, alive, unpublished, unremoved⟩ := live
  exact ⟨moment, request, expiry, reserved, by omega, unpublished, unremoved⟩

theorem live_snoc {moment : Nat} {seen : Act ω κ ν}
    (live : Live now (history ++ [(moment, seen)]) owner) :
    (Live now history owner ∨ ∃ request expiry, seen = .reserved owner request expiry ∧ now < expiry) ∧
      (∀ request value, seen ≠ .published owner request value) ∧
      ∀ caller, seen ≠ .removed caller owner := by
  obtain ⟨at_, request, expiry, reserved, alive, unpublished, unremoved⟩ := live
  simp only [List.mem_append, List.mem_singleton, Prod.mk.injEq, not_or, not_and] at *
  refine ⟨?_, fun request value same => (unpublished moment request value).2 rfl same.symm,
    fun caller same => (unremoved moment caller).2 rfl same.symm⟩
  rcases reserved with reserved | ⟨_, same⟩
  · exact .inl ⟨at_, request, expiry, reserved, alive, fun m r v => (unpublished m r v).1,
      fun m c => (unremoved m c).1⟩
  · exact .inr ⟨request, expiry, same.symm, alive⟩

structure Agrees (slot : Slot ω κ ν) (clock : Nat) (history : List (Nat × Act ω κ ν)) : Prop where
  used : ∀ seen ∈ history, ∀ owner ∈ seen.2.subject, owner ∈ slot.used
  owned : ∀ record, slot.record = some record → record.owner ∈ slot.used
  reserved : ∀ record, slot.record = some record → record.phase = .reserved →
    (∃ moment, (moment, .reserved record.owner record.request record.expiry) ∈ history) ∧
      (∀ moment request value, (moment, .published record.owner request value) ∉ history) ∧
      ∀ moment caller, (moment, .removed caller record.owner) ∉ history
  live : ∀ now owner, clock ≤ now → Live now history owner →
    ∃ record, slot.record = some record ∧ record.owner = owner ∧ record.phase = .reserved ∧
      now < record.expiry
  published : ∀ record value, slot.record = some record → record.phase = .published value →
    lastPublished history = some (record.request, value)
  held : ∀ known ∈ slot.held, lastPublished history = some known
  consumed : ∀ moment expiry, (moment, .consumed expiry) ∈ history → expiry ≤ clock ∨
    slot.held = ∅ ∧ ∃ record, slot.record = some record ∧ record.phase = .consumed ∧
      record.expiry = expiry

namespace Agrees

theorem start (empty : slot.record = none) (held : slot.held = ∅) : Agrees slot 0 [] where
  used := by simp
  owned := by simp [empty]
  reserved := by simp [empty]
  live := by simp [Live]
  published := by simp [empty]
  held := by simp [held]
  consumed := by simp

variable (agrees : Agrees slot clock history)
include agrees

theorem later (le : clock ≤ now) : Agrees slot now history :=
  { agrees with
    live := fun moment owner after => agrees.live moment owner (by omega)
    consumed := fun moment expiry seen =>
      (agrees.consumed moment expiry seen).imp_left fun early => by omega }

theorem live_of_reserved {record : Record ω κ ν} (found : slot.record = some record)
    (reserved : record.phase = .reserved) (alive : now < record.expiry) :
    Live now history record.owner := by
  obtain ⟨⟨moment, seen⟩, unpublished, unremoved⟩ := agrees.reserved record found reserved
  exact ⟨moment, record.request, record.expiry, seen, alive, unpublished, unremoved⟩

theorem none_live (free : ∀ record, slot.record = some record → record.expiry ≤ clock) :
    ¬ Live clock history owner := by
  intro live
  obtain ⟨record, found, _, _, alive⟩ := agrees.live clock owner (Nat.le_refl _) live
  exact absurd (free record found) (by omega)

theorem keep (same : slot'.record = slot.record) (used : slot.used ⊆ slot'.used)
    (held : ∀ known ∈ slot'.held, lastPublished history = some known)
    (consumed : ∀ record, slot.record = some record → record.phase = .consumed →
      slot.held = ∅ → slot'.held = ∅) : Agrees slot' clock history where
  used := fun seen member owner subject => used (agrees.used seen member owner subject)
  owned := fun record found => used (agrees.owned record (same ▸ found))
  reserved := fun record found => agrees.reserved record (same ▸ found)
  live := by rw [same]; exact agrees.live
  published := by rw [same]; exact agrees.published
  held := held
  consumed := fun moment expiry seen => by
    rcases agrees.consumed moment expiry seen with early | ⟨none, record, found, phase, expires⟩
    · exact .inl early
    · exact .inr ⟨consumed record found phase none, record, same ▸ found, phase, expires⟩

theorem replayed (request : κ) (value : ν) :
    Agrees slot clock (history ++ [(clock, .replayed request value)]) where
  used := fun seen member owner subject => by
    rcases List.mem_append.mp member with member | member
    · exact agrees.used seen member owner subject
    · rw [List.mem_singleton.mp member] at subject
      simp [Act.subject] at subject
  owned := agrees.owned
  reserved := fun record found phase => by
    simpa using agrees.reserved record found phase
  live := fun now owner after live => by
    rcases (live_snoc live).1 with live | ⟨_, _, impossible, _⟩
    · exact agrees.live now owner after live
    · exact nomatch impossible
  published := by simpa using agrees.published
  held := by simpa using agrees.held
  consumed := fun moment expiry seen => agrees.consumed moment expiry (by simpa using seen)

theorem expire {record : Record ω κ ν} (found : slot.record = some record)
    (gone : record.expiry ≤ clock) (cleared : slot'.record = none)
    (used : slot.used ⊆ slot'.used) (held : slot'.held ⊆ slot.held) :
    Agrees slot' clock history where
  used := fun seen member owner subject => used (agrees.used seen member owner subject)
  owned := by simp [cleared]
  reserved := by simp [cleared]
  live := fun now owner after live =>
    absurd (live.earlier after) (agrees.none_live fun other same => by
      rw [found, Option.some.injEq] at same
      exact same ▸ gone)
  published := by simp [cleared]
  held := fun known member => agrees.held known (held member)
  consumed := fun moment expiry seen => by
    rcases agrees.consumed moment expiry seen with early | ⟨_, other, same, _, expires⟩
    · exact .inl early
    · rw [found, Option.some.injEq] at same
      exact .inl (by rw [← expires, ← same]; exact gone)

theorem remove {record : Record ω κ ν} (found : slot.record = some record)
    (unpublished : record.phase = .reserved ∨ record.expiry ≤ clock)
    (cleared : slot'.record = none) (used : slot.used ⊆ slot'.used)
    (held : slot'.held ⊆ slot.held) :
    Agrees slot' clock (history ++ [(clock, .removed record.owner record.owner)]) where
  used := fun seen member owner subject => by
    rcases List.mem_append.mp member with member | member
    · exact used (agrees.used seen member owner subject)
    · rw [List.mem_singleton.mp member, Act.subject, Option.mem_some_iff] at subject
      exact used (subject ▸ agrees.owned record found)
  owned := by simp [cleared]
  reserved := by simp [cleared]
  live := fun now owner after live => by
    -- whoever is live is the owner of the record, and that one has just given up
    obtain ⟨live, _, unremoved⟩ := live_snoc live
    rcases live with live | ⟨_, _, impossible, _⟩
    · obtain ⟨other, same, owns, _, _⟩ := agrees.live now owner after live
      rw [found, Option.some.injEq] at same
      rw [← owns, ← same] at unremoved
      exact absurd rfl (unremoved record.owner)
    · exact nomatch impossible
  published := by simp [cleared]
  held := fun known member => by simpa using agrees.held known (held member)
  consumed := fun moment expiry seen => by
    rcases agrees.consumed moment expiry (by simpa using seen) with
      early | ⟨_, other, same, phase, expires⟩
    · exact .inl early
    · rw [found, Option.some.injEq] at same
      subst same
      rcases unpublished with reserved | gone
      · rw [reserved] at phase
        exact nomatch phase
      · exact .inl (expires ▸ gone)

theorem reserve {owner : ω} {request : κ} {expiry : Nat}
    (free : ∀ record, slot.record = some record → record.expiry ≤ clock)
    (unused : owner ∉ slot.used) (nowUsed : owner ∈ slot'.used)
    (written : slot'.record = some ⟨owner, request, expiry, .reserved⟩)
    (used : slot.used ⊆ slot'.used) (held : slot'.held ⊆ slot.held) :
    Agrees slot' clock (history ++ [(clock, .reserved owner request expiry)]) where
  used := fun seen member other subject => by
    rcases List.mem_append.mp member with member | member
    · exact used (agrees.used seen member other subject)
    · rw [List.mem_singleton.mp member, Act.subject, Option.mem_some_iff] at subject
      exact subject ▸ nowUsed
  owned := by
    rintro record found
    rw [written, Option.some.injEq] at found
    exact found ▸ nowUsed
  reserved := by
    rintro record found -
    rw [written, Option.some.injEq] at found
    subst found
    refine ⟨⟨clock, by simp⟩, fun moment other value seen => ?_, fun moment caller seen => ?_⟩
    · exact unused (agrees.used _ (by simpa using seen) owner rfl)
    · exact unused (agrees.used _ (by simpa using seen) owner rfl)
  live := fun now other after live => by
    rcases (live_snoc live).1 with live | ⟨_, _, same, alive⟩
    · exact absurd (live.earlier after) (agrees.none_live free)
    · cases same
      exact ⟨_, written, rfl, rfl, alive⟩
  published := by
    rintro record value found phase
    rw [written, Option.some.injEq] at found
    rw [← found] at phase
    exact nomatch phase
  held := fun known member => by simpa using agrees.held known (held member)
  consumed := fun moment expiry seen => by
    rcases agrees.consumed moment expiry (by simpa using seen) with
      early | ⟨_, record, found, _, expires⟩
    · exact .inl early
    · exact .inl (expires ▸ free record found)

theorem publish {record : Record ω κ ν} {value : ν} {expiry : Nat}
    (found : slot.record = some record) (reserved : record.phase = .reserved)
    (written : slot'.record = some ⟨record.owner, record.request, expiry, .published value⟩)
    (used : slot.used ⊆ slot'.used) (none : slot.held = ∅)
    (held : slot'.held ⊆ insert (record.request, value) slot.held) :
    Agrees slot' clock (history ++ [(clock, .published record.owner record.request value)]) where
  used := fun seen member other subject => by
    rcases List.mem_append.mp member with member | member
    · exact used (agrees.used seen member other subject)
    · rw [List.mem_singleton.mp member, Act.subject, Option.mem_some_iff] at subject
      exact used (subject ▸ agrees.owned record found)
  owned := by
    rintro other same
    rw [written, Option.some.injEq] at same
    exact same ▸ used (agrees.owned record found)
  reserved := by
    rintro other same phase
    rw [written, Option.some.injEq] at same
    rw [← same] at phase
    exact nomatch phase
  live := fun now owner after live => by
    obtain ⟨live, unpublished, _⟩ := live_snoc live
    rcases live with live | ⟨_, _, impossible, _⟩
    · obtain ⟨other, same, owns, _, _⟩ := agrees.live now owner after live
      rw [found, Option.some.injEq] at same
      rw [← owns, ← same] at unpublished
      exact absurd rfl (unpublished record.request value)
    · exact nomatch impossible
  published := by
    rintro other given same phase
    rw [written, Option.some.injEq] at same
    subst same
    simpa using phase
  held := fun known member => by
    rcases held member with new | old
    · simp [new]
    · rw [none] at old
      exact absurd old (Set.notMem_empty known)
  consumed := fun moment expiry seen => by
    rcases agrees.consumed moment expiry (by simpa using seen) with
      early | ⟨_, other, same, phase, _⟩
    · exact .inl early
    · -- a consumed record is not a reservation
      rw [found, Option.some.injEq] at same
      rw [← same, reserved] at phase
      exact nomatch phase

theorem consume {record : Record ω κ ν} (found : slot.record = some record)
    (published : record.phase ≠ .reserved)
    (written : slot'.record = some { record with phase := .consumed })
    (used : slot.used ⊆ slot'.used) (none : slot.held = ∅) (held : slot'.held ⊆ slot.held) :
    Agrees slot' clock (history ++ [(clock, .consumed record.expiry)]) where
  used := fun seen member other subject => by
    rcases List.mem_append.mp member with member | member
    · exact used (agrees.used seen member other subject)
    · rw [List.mem_singleton.mp member] at subject
      simp [Act.subject] at subject
  owned := by
    rintro other same
    rw [written, Option.some.injEq] at same
    exact same ▸ used (agrees.owned record found)
  reserved := by
    rintro other same phase
    rw [written, Option.some.injEq] at same
    rw [← same] at phase
    exact nomatch phase
  live := fun now owner after live => by
    rcases (live_snoc live).1 with live | ⟨_, _, impossible, _⟩
    · obtain ⟨other, same, _, phase, _⟩ := agrees.live now owner after live
      rw [found, Option.some.injEq] at same
      exact absurd (same ▸ phase) published
    · exact nomatch impossible
  published := by
    rintro other value same phase
    rw [written, Option.some.injEq] at same
    rw [← same] at phase
    exact nomatch phase
  held := fun known member => by
    rw [none] at held
    exact absurd (held member) (Set.notMem_empty known)
  consumed := fun moment expiry seen => by
    have emptied : slot'.held = ∅ := Set.subset_empty_iff.mp (none ▸ held)
    simp only [List.mem_append, List.mem_singleton, Prod.mk.injEq, Act.consumed.injEq] at seen
    rcases seen with seen | ⟨_, same⟩
    · rcases agrees.consumed moment expiry seen with early | ⟨_, other, same, _, expires⟩
      · exact .inl early
      · rw [found, Option.some.injEq] at same
        exact .inr ⟨emptied, _, written, rfl, by rw [← expires, ← same]⟩
    · exact .inr ⟨emptied, _, written, rfl, same.symm⟩

theorem step (le : clock ≤ now) (step : slot.Step now act slot') (prompt : Prompt slot act) :
    Agrees slot' now (history ++ act.toList.map fun act => (now, act)) ∧
      ∀ seen ∈ act, Allowed history now seen := by
  have agrees := agrees.later le
  obtain ⟨used, change⟩ := step
  cases change with
  | quiet same held =>
    refine ⟨?_, by simp⟩
    simpa using agrees.keep same used (fun known member => agrees.held known (held member))
      fun _ _ _ none => Set.subset_empty_iff.mp (none ▸ held)
  | expire found gone cleared held =>
    refine ⟨?_, by simp⟩
    simpa using agrees.expire found gone cleared used held
  | remove found unpublished cleared held =>
    exact ⟨by simpa using agrees.remove found unpublished cleared used held, by simp [Allowed]⟩
  | reserve free unused nowUsed written held =>
    refine ⟨by simpa using agrees.reserve free unused nowUsed written used held, ?_⟩
    simpa [Allowed] using fun owner => agrees.none_live free
  | @publish _ record value expiry found reserved alive written held =>
    have none : slot.held = ∅ := prompt _ rfl rfl
    refine ⟨by simpa using agrees.publish found reserved written used none held, ?_⟩
    rintro seen ⟨⟩
    obtain ⟨⟨moment, seen⟩, _⟩ := agrees.reserved record found reserved
    exact ⟨agrees.live_of_reserved found reserved alive, moment, record.expiry, seen⟩
  | @consume _ record found published written held =>
    have none : slot.held = ∅ := prompt _ rfl rfl
    exact ⟨by simpa using agrees.consume found published written used none held, by simp [Allowed]⟩
  | @hold _ record value found published same held =>
    have last := agrees.published record value found published
    refine ⟨?_, by simp⟩
    have kept := agrees.keep same used (fun known member => by
      rcases held member with new | old
      · rw [new, last]
      · exact agrees.held known old) fun other again consumed _ => by
        rw [found, Option.some.injEq] at again
        rw [← again, published] at consumed
        exact nomatch consumed
    simpa using kept
  | @give _ request value known same held =>
    have kept := agrees.keep same used (fun known member => agrees.held known (held member))
      fun _ _ _ none => Set.subset_empty_iff.mp (none ▸ held)
    refine ⟨by simpa using kept.replayed request value, ?_⟩
    rintro seen ⟨⟩
    refine ⟨agrees.held _ known, fun moment expiry seen => ?_⟩
    -- a value is held, so whatever was consumed has expired
    rcases agrees.consumed moment expiry seen with early | ⟨none, _⟩
    · exact early
    · rw [none] at known
      exact absurd known (Set.notMem_empty _)
  | @replay _ record value found published alive same held =>
    have kept := agrees.keep same used (fun known member => agrees.held known (held member))
      fun _ _ _ none => Set.subset_empty_iff.mp (none ▸ held)
    refine ⟨by simpa using kept.replayed record.request value, ?_⟩
    rintro seen ⟨⟩
    refine ⟨agrees.published record value found published, fun moment expiry seen => ?_⟩
    rcases agrees.consumed moment expiry seen with early | ⟨_, other, again, consumed, _⟩
    · exact early
    · rw [found, Option.some.injEq] at again
      rw [← again, published] at consumed
      exact nomatch consumed

end Agrees

theorem Faithful.snoc (faithful : Faithful history)
    (allowed : ∀ seen ∈ act, Allowed history now seen) :
    Faithful (history ++ act.toList.map fun act => (now, act)) := by
  cases act with
  | none => simpa using faithful
  | some seen =>
    intro before moment other after split
    rcases List.eq_nil_or_concat after with rfl | ⟨rest, last, rfl⟩
    · obtain ⟨rfl, same⟩ := List.append_inj' split rfl
      cases same
      exact allowed seen rfl
    · have longer : history ++ [(now, seen)] = (before ++ (moment, other) :: rest) ++ [last] := by
        simpa using split
      exact faithful before moment other rest (List.append_inj' longer rfl).1

/-- **The history of a slot.** In every run the slot is what its history says and every act in it
was allowed when it was seen. -/
theorem Reaches.faithful (reaches : Reaches slot clock history) :
    Agrees slot clock history ∧ Faithful history := by
  induction reaches with
  | start empty held => exact ⟨.start empty held, fun before _ _ _ split => by simp at split⟩
  | step before later step prompt ih =>
    obtain ⟨agrees, faithful⟩ := ih
    obtain ⟨next, allowed⟩ := agrees.step later step prompt
    exact ⟨next, faithful.snoc allowed⟩

theorem Reaches.live_unique (reaches : Reaches slot clock history) (le : clock ≤ now)
    {other : ω} (live : Live now history owner) (too : Live now history other) :
    owner = other := by
  obtain ⟨record, found, rfl, _⟩ := reaches.faithful.1.live now owner le live
  obtain ⟨again, same, rfl, _⟩ := reaches.faithful.1.live now other le too
  rw [found, Option.some.injEq] at same
  rw [same]

end Invariant

section Runs

variable (step : σ → Nat × ε → σ) (observe : σ → Nat × ε → Option (Act ω κ ν))
  (view : σ → Slot ω κ ν)

/-- What is seen of a run, and when. -/
def trace (start : σ) (calls : List (Nat × ε)) : List (Nat × Act ω κ ν) :=
  history step (fun state call => (observe state call).map fun act => (call.1, act)) start calls

def PromptRun : σ → List (Nat × ε) → Prop
  | _, [] => True
  | state, call :: rest =>
    Prompt (view state) (observe state call) ∧ PromptRun (step state call) rest

/-- What a run of a slot guarantees up to the moment `clock`. -/
structure Protected (clock : Nat) (history : List (Nat × Act ω κ ν)) : Prop where
  faithful : Faithful history
  live_unique : ∀ owner other, Live clock history owner → Live clock history other →
    owner = other

variable {step observe view} {Sound : σ → Prop}

theorem run_reaches (keeps : ∀ state call, Sound state → Sound (step state call))
    (simulates : ∀ state call, Sound state →
      (view state).Step call.1 (observe state call) (view (step state call)))
    (calls : List (Nat × ε)) {start : σ} {clock : Nat} {history : List (Nat × Act ω κ ν)}
    (sound : Sound start) (reaches : Reaches (view start) clock history)
    (steady : Nondecreasing (fun call => some call.1) calls)
    (later : Since (fun call => some call.1) clock calls)
    (prompt : PromptRun step observe view start calls) :
    ∃ finish, (∀ now, clock ≤ now → Upto (fun call => some call.1) calls now → finish ≤ now) ∧
      Reaches (view (run step start calls)) finish (history ++ trace step observe start calls) := by
  induction calls generalizing start clock history with
  | nil => exact ⟨clock, fun now le _ => le, by simpa [trace, Lib.history] using reaches⟩
  | cons call rest ih =>
    obtain ⟨first, others⟩ := prompt
    have le : clock ≤ call.1 := later call.1 (by simp)
    have next := reaches.step le (simulates start call sound) first
    have parts : [call] ++ rest = call :: rest := rfl
    rw [← parts, nondecreasing_append] at steady
    obtain ⟨_, after, across⟩ := steady
    obtain ⟨finish, upto, reached⟩ := ih (keeps start call sound) next after
      (fun moment member => upto_singleton.mp (across moment member) call.1 rfl) others
    refine ⟨finish, fun now _ bound => ?_, ?_⟩
    · rw [← parts, upto_append, upto_singleton] at bound
      exact upto now (bound.1 call.1 rfl) bound.2
    · have same : (observe start call).toList.map (fun act => (call.1, act)) =
          ((observe start call).map fun act => (call.1, act)).toList := by
        cases observe start call <;> rfl
      rw [same] at reached
      simpa [trace, Lib.history] using reached

theorem run_protected (Sound : σ → Prop) (start : σ)
    (keeps : ∀ state call, Sound state → Sound (step state call))
    (simulates : ∀ state call, Sound state →
      (view state).Step call.1 (observe state call) (view (step state call)))
    (sound : Sound start) (empty : (view start).record = none)
    (held : (view start).held = ∅) {calls : List (Nat × ε)}
    (steady : Nondecreasing (fun call => some call.1) calls)
    (prompt : PromptRun step observe view start calls) {clock : Nat}
    (upto : Upto (fun call => some call.1) calls clock) :
    Protected clock (trace step observe start calls) := by
  obtain ⟨finish, bound, reaches⟩ := run_reaches keeps simulates calls sound
    (.start empty held) steady (fun _ _ => Nat.zero_le _) prompt
  rw [List.nil_append] at reaches
  exact ⟨reaches.faithful.2, fun owner other live too =>
    reaches.live_unique (bound clock (Nat.zero_le _) upto) live too⟩

end Runs

end Tvic.Lib.Publication
