import Mathlib.Data.List.Nodup

/-!
# Tables of records with distinct keys

A table lists its records. One step advances it: every record stays, or one of the same key takes
its place, and a record with a new key may come behind the others.
-/
namespace Tvic.Lib

variable {ρ κ : Type*}

/-- What stands in the place of a record after a step that may replace it. -/
def Becomes (key : ρ → κ) (replaces : ρ → ρ → Prop) (a b : ρ) : Prop :=
  key b = key a ∧ (b = a ∨ replaces a b)

inductive Advance (key : ρ → κ) (replaces : ρ → ρ → Prop) (table : List ρ) : List ρ → Prop where
  | kept {table' : List ρ} (rows : List.Forall₂ (Becomes key replaces) table table') :
      Advance key replaces table table'
  | added {rows : List ρ} {row : ρ} (stay : List.Forall₂ (Becomes key replaces) table rows)
      (fresh : ∀ a ∈ table, key a ≠ key row) : Advance key replaces table (rows ++ [row])

variable {key : ρ → κ} {replaces : ρ → ρ → Prop} {table table' : List ρ}

theorem Becomes.refl (a : ρ) : Becomes key replaces a a := ⟨rfl, .inl rfl⟩

theorem becomes_all (rows : List ρ) : List.Forall₂ (Becomes key replaces) rows rows :=
  List.forall₂_same.mpr fun a _ => .refl a

theorem Advance.refl (table : List ρ) : Advance key replaces table table :=
  .kept (becomes_all table)

theorem becomes_replace {before after : List ρ} {a b : ρ} (same : key b = key a)
    (allowed : replaces a b) :
    List.Forall₂ (Becomes key replaces) (before ++ a :: after) (before ++ b :: after) :=
  List.rel_append (becomes_all before) (.cons ⟨same, .inr allowed⟩ (becomes_all after))

theorem becomes_keys {rows : List ρ} (stay : List.Forall₂ (Becomes key replaces) table rows) :
    rows.map key = table.map key := by
  induction stay with
  | nil => rfl
  | cons row _ ih => rw [List.map_cons, List.map_cons, row.1, ih]

theorem becomes_forward {rows : List ρ} (stay : List.Forall₂ (Becomes key replaces) table rows) :
    ∀ a ∈ table, ∃ b ∈ rows, Becomes key replaces a b := by
  induction stay with
  | nil => simp
  | cons row _ ih =>
    intro a listed
    rcases List.mem_cons.mp listed with rfl | listed
    · exact ⟨_, List.mem_cons_self, row⟩
    · obtain ⟨b, member, becomes⟩ := ih a listed
      exact ⟨b, List.mem_cons_of_mem _ member, becomes⟩

theorem Advance.nodup (advance : Advance key replaces table table')
    (distinct : (table.map key).Nodup) : (table'.map key).Nodup := by
  cases advance with
  | kept rows => rwa [becomes_keys rows]
  | added stay fresh =>
    rw [List.map_append, becomes_keys stay, List.nodup_append]
    refine ⟨distinct, List.nodup_singleton _, fun k listed k' new => ?_⟩
    obtain ⟨a, member, rfl⟩ := List.mem_map.mp listed
    obtain rfl := List.mem_singleton.mp new
    exact fresh a member

theorem Advance.forward (advance : Advance key replaces table table') :
    ∀ a ∈ table, ∃ b ∈ table', Becomes key replaces a b := by
  cases advance with
  | kept rows => exact becomes_forward rows
  | added stay fresh =>
    intro a listed
    obtain ⟨b, member, becomes⟩ := becomes_forward stay a listed
    exact ⟨b, List.mem_append_left _ member, becomes⟩

theorem last_split {property : ρ → Prop} {before after : List ρ} {row b : ρ}
    (same : table ++ [row] = before ++ b :: after) (absent : ∀ a ∈ table, ¬property a)
    (own : property b) : before = table ∧ b = row ∧ after = [] := by
  induction table generalizing before with
  | nil =>
    cases before with
    | nil =>
      obtain ⟨rfl, rfl⟩ := List.cons.inj same
      exact ⟨rfl, rfl, rfl⟩
    | cons first before => simp at same
  | cons first table ih =>
    cases before with
    | nil =>
      obtain ⟨rfl, -⟩ := List.cons.inj same
      exact absurd own (absent _ List.mem_cons_self)
    | cons first' before =>
      obtain ⟨rfl, later⟩ := List.cons.inj same
      obtain ⟨rfl, rfl, rfl⟩ := ih later fun a listed => absent a (List.mem_cons_of_mem _ listed)
      exact ⟨rfl, rfl, rfl⟩

theorem eq_of_key (distinct : (table.map key).Nodup) {a b : ρ} (first : a ∈ table)
    (second : b ∈ table) (same : key a = key b) : a = b :=
  List.inj_on_of_nodup_map distinct first second same

end Tvic.Lib
