import Mathlib.Data.List.Sort
import Mathlib.Data.List.Perm.Subperm

/-!
# Paging through an ordered set that grows

A scan reads a set in pages of a limited size, in the order of a key; each page begins after the
last item of the page before. Between two pages the set may grow at any place. What was there from
the start on is then read once, and the number of pages is bounded by what is there at the end.

The position after a cursor is found by binary search.
-/
namespace Tvic.Lib

variable {α κ : Type*} [LinearOrder κ] (key : α → κ)

/-- In the order of the key, each key once. -/
def InOrder (items : List α) : Prop := items.Pairwise (key · < key ·)

/-- After the cursor, or anywhere where there is none. -/
def Beyond (cursor : Option α) (item : α) : Prop := ∀ c ∈ cursor, key c < key item

instance (cursor : Option α) : DecidablePred (Beyond key cursor) := fun item =>
  match cursor with
  | none => .isTrue (fun _ none => nomatch none)
  | some c => decidable_of_iff (key c < key item) (by simp [Beyond])

/-- What is left after the cursor. -/
def beyond (cursor : Option α) (items : List α) : List α := items.filter (Beyond key cursor)

variable {key}

variable {items : List α} {item : α}

theorem mem_beyond {cursor : Option α} :
    item ∈ beyond key cursor items ↔ item ∈ items ∧ Beyond key cursor item := by
  simp [beyond]

theorem InOrder.beyond (inOrder : InOrder key items) (cursor : Option α) :
    InOrder key (beyond key cursor items) :=
  List.Pairwise.filter _ inOrder

theorem InOrder.nodup (inOrder : InOrder key items) : items.Nodup :=
  inOrder.imp (fun less same => less.ne (congrArg key same))

theorem InOrder.le_last (inOrder : InOrder key items) {last item : α}
    (ends : items.getLast? = some last) (member : item ∈ items) : key item ≤ key last := by
  obtain ⟨before, rfl⟩ := List.getLast?_eq_some_iff.mp ends
  rcases List.mem_append.mp member with earlier | same
  · exact ((List.pairwise_append.mp inOrder).2.2 item earlier last (by simp)).le
  · rw [List.mem_singleton.mp same]

theorem beyond_eq_drop {cursor : α} {position : Nat}
    (before : ∀ item ∈ items.take position, key item ≤ key cursor)
    (after : ∀ item ∈ items.drop position, key cursor < key item) :
    beyond key (some cursor) items = items.drop position := by
  have parts : items = items.take position ++ items.drop position :=
    (List.take_append_drop position items).symm
  have none_before : (items.take position).filter (Beyond key (some cursor)) = [] := by
    rw [List.filter_eq_nil_iff]
    intro item member
    simpa [Beyond] using before item member
  have all_after : (items.drop position).filter (Beyond key (some cursor)) =
      items.drop position := by
    rw [List.filter_eq_self]
    intro item member
    simpa [Beyond] using after item member
  rw [beyond]
  conv_lhs => rw [parts]
  rw [List.filter_append, none_before, all_after, List.nil_append]

theorem insertIdx_eq_append (item : α) {position : Nat} (inside : position ≤ items.length) :
    items.insertIdx position item = items.take position ++ item :: items.drop position := by
  induction items generalizing position with
  | nil =>
    obtain rfl : position = 0 := by simpa using inside
    rfl
  | cons first rest ih =>
    cases position with
    | zero => rfl
    | succ position => simp [ih (Nat.le_of_succ_le_succ inside)]

theorem InOrder.insert (inOrder : InOrder key items) {position : Nat}
    (before : ∀ other ∈ items.take position, key other < key item)
    (after : ∀ other ∈ items.drop position, key item < key other) :
    InOrder key (items.take position ++ item :: items.drop position) := by
  have parts := inOrder
  rw [InOrder, ← List.take_append_drop position items, List.pairwise_append] at parts
  obtain ⟨first, rest, across⟩ := parts
  refine List.pairwise_append.mpr ⟨first, List.pairwise_cons.mpr ⟨after, rest⟩, ?_⟩
  intro other earlier next member
  rcases List.mem_cons.mp member with rfl | later
  · exact before other earlier
  · exact across other earlier next later

theorem mem_take_of_sublist {l l' : List α} (part : l.Sublist l') (nodup : l'.Nodup) {count : Nat}
    (member : item ∈ l) (early : item ∈ l'.take count) : item ∈ l.take count := by
  induction part generalizing count with
  | slnil => cases member
  | @cons l l' other part ih =>
    obtain ⟨fresh, rest⟩ := List.nodup_cons.mp nodup
    cases count with
    | zero => cases early
    | succ count =>
      rw [List.take_succ_cons, List.mem_cons] at early
      rcases early with rfl | later
      · exact absurd (part.subset member) fresh
      · -- it is among the first `count` of what follows, so it is among one more
        exact (List.take_sublist_take_left (Nat.le_succ count)).subset (ih rest member later)
  | @cons_cons l l' first part ih =>
    obtain ⟨-, rest⟩ := List.nodup_cons.mp nodup
    cases count with
    | zero => cases early
    | succ count =>
      rw [List.take_succ_cons, List.mem_cons] at early ⊢
      rcases early with rfl | later
      · exact .inl rfl
      · right
        refine ih rest ?_ later
        rcases List.mem_cons.mp member with rfl | old
        · exact absurd (List.mem_of_mem_take later) (List.nodup_cons.mp nodup).1
        · exact old

theorem mem_take_beyond {items items' : List α} (inOrder : InOrder key items)
    (inOrder' : InOrder key items') (grown : items ⊆ items') {cursor : Option α} {count : Nat}
    (member : item ∈ items) (read : item ∈ (beyond key cursor items').take count) :
    item ∈ (beyond key cursor items).take count := by
  have ahead := (mem_beyond.mp (List.mem_of_mem_take read)).2
  have subset : beyond key cursor items ⊆ beyond key cursor items' := fun other listed =>
    mem_beyond.mpr ⟨grown (mem_beyond.mp listed).1, (mem_beyond.mp listed).2⟩
  have asymm : Std.Antisymm (fun a b : α => key a < key b) :=
    ⟨fun _ _ less more => absurd less more.not_gt⟩
  have part : (beyond key cursor items).Sublist (beyond key cursor items') :=
    List.sublist_of_subperm_of_pairwise
      (List.subperm_of_subset (inOrder.beyond cursor).nodup subset)
      (inOrder.beyond cursor) (inOrder'.beyond cursor)
  exact mem_take_of_sublist part (inOrder'.beyond cursor).nodup (mem_beyond.mpr ⟨member, ahead⟩) read

/-! ## Scans -/

/-- A scan from a cursor on: for each of its pages the items there are by then, and the page; and
whether it has come to the end. -/
inductive Paging (key : α → κ) (limit : Nat) : Option α → List (List α × List α) → Bool → Prop where
  | pause (cursor : Option α) : Paging key limit cursor [] false
  | last {cursor : Option α} {items : List α}
      (all : (beyond key cursor items).length ≤ limit) :
      Paging key limit cursor [(items, (beyond key cursor items).take limit)] true
  | follow {cursor : Option α} {items : List α} {next : α} {rest : List (List α × List α)}
      {finished : Bool} (more : limit < (beyond key cursor items).length)
      (ends : ((beyond key cursor items).take limit).getLast? = some next)
      (later : Paging key limit (some next) rest finished) :
      Paging key limit cursor ((items, (beyond key cursor items).take limit) :: rest) finished

variable {limit : Nat} {cursor : Option α} {visits : List (List α × List α)} {finished : Bool}

theorem Paging.reads_beyond (paging : Paging key limit cursor visits finished) :
    ∀ visit ∈ visits, ∀ item ∈ visit.2, Beyond key cursor item := by
  induction paging with
  | pause => simp
  | last all =>
    intro visit member item read
    obtain rfl := List.mem_singleton.mp member
    exact (mem_beyond.mp (List.mem_of_mem_take read)).2
  | follow more ends later ih =>
    intro visit member item read
    rcases List.mem_cons.mp member with rfl | rest_member
    · exact (mem_beyond.mp (List.mem_of_mem_take read)).2
    · -- the later pages are beyond the next cursor, and that is beyond this one
      have advanced := (mem_beyond.mp (List.mem_of_mem_take (List.mem_of_getLast? ends))).2
      intro c current
      exact (advanced c current).trans (ih visit rest_member item read _ rfl)

theorem Paging.count_eq_one [DecidableEq α] (paging : Paging key limit cursor visits true)
    (inOrder : ∀ visit ∈ visits, InOrder key visit.1) (present : ∀ visit ∈ visits, item ∈ visit.1)
    (ahead : Beyond key cursor item) :
    (visits.flatMap (·.2)).count item = 1 := by
  generalize done : true = finished at paging
  induction paging with
  | pause => cases done
  | @last cursor items all =>
    have left := (inOrder _ (List.mem_singleton_self _)).beyond cursor
    have member := mem_beyond.mpr ⟨present _ (List.mem_singleton_self _), ahead⟩
    simp only [List.flatMap_cons, List.flatMap_nil, List.append_nil]
    rw [List.take_of_length_le all]
    exact List.count_eq_one_of_mem left.nodup member
  | @follow cursor items next rest finished more ends later ih =>
    have left := (inOrder _ List.mem_cons_self).beyond cursor
    have member : item ∈ beyond key cursor items :=
      mem_beyond.mpr ⟨present _ List.mem_cons_self, ahead⟩
    have page : InOrder key ((beyond key cursor items).take limit) := List.Pairwise.take left
    rw [List.flatMap_cons, List.count_append]
    by_cases read : item ∈ (beyond key cursor items).take limit
    · -- it is on this page, so it is not beyond the cursor of the next ones
      have once := List.count_eq_one_of_mem page.nodup read
      have never : (rest.flatMap (·.2)).count item = 0 := by
        rw [List.count_eq_zero]
        intro again
        obtain ⟨visit, visited, member⟩ := List.mem_flatMap.mp again
        have after := later.reads_beyond visit visited item member next rfl
        exact absurd after (not_lt.mpr (page.le_last ends read))
      rw [once, never]
    · have zero := List.count_eq_zero.mpr read
      have rest_item : item ∈ (beyond key cursor items).drop limit := by
        rw [← List.take_append_drop limit (beyond key cursor items)] at member
        exact (List.mem_append.mp member).resolve_left read
      have parts := left
      rw [InOrder, ← List.take_append_drop limit (beyond key cursor items),
        List.pairwise_append] at parts
      have later_item : Beyond key (some next) item := by
        rintro c ⟨⟩
        exact parts.2.2 next (List.mem_of_getLast? ends) item rest_item
      rw [zero, ih (fun visit visited => inOrder visit (List.mem_cons_of_mem _ visited))
        (fun visit visited => present visit (List.mem_cons_of_mem _ visited)) later_item done]

theorem Paging.length_le (paging : Paging key limit cursor visits finished)
    (inOrder : ∀ visit ∈ visits, InOrder key visit.1)
    (grows : visits.Pairwise (fun a b => a.1 ⊆ b.1)) {final : List α × List α}
    (ends : visits.getLast? = some final) :
    limit * (visits.length - 1) ≤ (beyond key cursor final.1).length := by
  induction paging with
  | pause => cases ends
  | last all => simp
  | @follow cursor items next rest finished more lastItem later ih =>
    cases rest with
    | nil => simp
    | cons visit others =>
      have final_rest : (visit :: others).getLast? = some final := by
        rwa [List.getLast?_cons_cons] at ends
      have remaining := ih (fun v visited => inOrder v (List.mem_cons_of_mem _ visited))
        grows.of_cons final_rest
      have final_member := List.mem_of_getLast? final_rest
      have kept : items ⊆ final.1 := List.rel_of_pairwise_cons grows final_member
      have page : InOrder key ((beyond key cursor items).take limit) :=
        List.Pairwise.take ((inOrder _ List.mem_cons_self).beyond cursor)
      have full : ((beyond key cursor items).take limit).length = limit := by
        rw [List.length_take]
        omega
      -- the page and what is beyond it are parts of what was beyond the cursor
      have disjoint : List.Disjoint ((beyond key cursor items).take limit)
          (beyond key (some next) final.1) := by
        intro item read after
        exact absurd ((mem_beyond.mp after).2 next rfl) (not_lt.mpr (page.le_last lastItem read))
      have nodup : ((beyond key cursor items).take limit ++
          beyond key (some next) final.1).Nodup :=
        List.nodup_append'.mpr ⟨page.nodup,
          ((inOrder final (List.mem_cons_of_mem _ final_member)).beyond _).nodup, disjoint⟩
      have advanced := (mem_beyond.mp (List.mem_of_mem_take (List.mem_of_getLast? lastItem))).2
      have part : (beyond key cursor items).take limit ++ beyond key (some next) final.1 ⊆
          beyond key cursor final.1 := by
        intro item member
        rcases List.mem_append.mp member with read | after
        · have ⟨old, ahead⟩ := mem_beyond.mp (List.mem_of_mem_take read)
          exact mem_beyond.mpr ⟨kept old, ahead⟩
        · have ⟨present, ahead⟩ := mem_beyond.mp after
          exact mem_beyond.mpr ⟨present, fun c current => (advanced c current).trans (ahead next rfl)⟩
      have lengths := (List.subperm_of_subset nodup part).length_le
      rw [List.length_append, full] at lengths
      simp only [List.length_cons] at remaining ⊢
      calc limit * (others.length + 1 + 1 - 1)
          = limit + limit * (others.length + 1 - 1) := by
            rw [Nat.add_sub_cancel, Nat.add_sub_cancel, Nat.mul_succ, Nat.add_comm]
        _ ≤ _ := Nat.le_trans (Nat.add_le_add_left remaining limit) lengths

end Tvic.Lib
