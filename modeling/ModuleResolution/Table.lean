/-!
# Tables in insertion order

A table maps names to values and lists its entries in the order in which the
names were first inserted. Names are ordinary texts unless another type is given.
Inserting under a known name replaces the value and keeps the place. Main
statements: what `get?` finds after `insert` and `erase`, and that tables agree by
what `get?` finds (`agrees_iff`).
-/

set_option autoImplicit false

namespace ModuleResolution

/-- Named values in the order of their first insertion. -/
abbrev Table (α : Type) (κ : Type := String) := List (κ × α)

namespace Table

variable {α κ : Type}

/-- The names in order. -/
def keys (t : Table α κ) : List κ :=
  t.map Prod.fst

theorem mem_keys_of_mem {t : Table α κ} {name : κ} {v : α} (h : (name, v) ∈ t) :
    name ∈ t.keys :=
  List.mem_map_of_mem h

variable [DecidableEq κ]

/-- The value under a name. -/
def get? : Table α κ → κ → Option α
  | [], _ => none
  | (key, v) :: rest, name => if key = name then some v else get? rest name

/-- Whether a name has a value. -/
def has (t : Table α κ) (name : κ) : Bool :=
  (t.get? name).isSome

/-- Sets the value of a name, in its place if it has one and at the end otherwise. -/
def insert : Table α κ → κ → α → Table α κ
  | [], name, v => [(name, v)]
  | (key, old) :: rest, name, v =>
    if key = name then (key, v) :: rest else (key, old) :: insert rest name v

/-- Removes a name. -/
def erase (t : Table α κ) (name : κ) : Table α κ :=
  t.filter fun (key, _) => key ≠ name

/-- Two optional values are both missing, or `same` identifies them. -/
def sameValue (same : α → α → Bool) : Option α → Option α → Bool
  | none, none => true
  | some v, some w => same v w
  | _, _ => false

/-- Two tables hold values that `same` identifies under the same names, in any order. -/
def agrees (same : α → α → Bool) (t u : Table α κ) : Bool :=
  (t.keys ++ u.keys).all fun name => sameValue same (t.get? name) (u.get? name)

@[simp] theorem get?_nil (name : κ) : get? ([] : Table α κ) name = none := rfl

theorem get?_insert_self (t : Table α κ) (name : κ) (v : α) :
    (t.insert name v).get? name = some v := by
  induction t with
  | nil => simp [insert, get?]
  | cons entry rest ih =>
    obtain ⟨key, old⟩ := entry
    by_cases h : key = name <;> simp [insert, get?, h, ih]

theorem get?_insert_of_ne {name other : κ} (h : other ≠ name) (t : Table α κ) (v : α) :
    (t.insert name v).get? other = t.get? other := by
  induction t with
  | nil => simp [insert, get?, Ne.symm h]
  | cons entry rest ih =>
    obtain ⟨key, old⟩ := entry
    by_cases hk : key = name
    · subst hk
      simp [insert, get?, Ne.symm h]
    · simp [insert, get?, hk, ih]

theorem get?_erase_self (t : Table α κ) (name : κ) : (t.erase name).get? name = none := by
  induction t with
  | nil => rfl
  | cons entry rest ih =>
    obtain ⟨key, v⟩ := entry
    by_cases h : key = name
    · simpa [erase, h] using ih
    · simpa [erase, get?, h] using ih

theorem get?_erase_of_ne {name other : κ} (h : other ≠ name) (t : Table α κ) :
    (t.erase name).get? other = t.get? other := by
  induction t with
  | nil => rfl
  | cons entry rest ih =>
    obtain ⟨key, v⟩ := entry
    by_cases hk : key = name
    · subst hk
      simpa [erase, get?, Ne.symm h] using ih
    · have step : erase ((key, v) :: rest) name = (key, v) :: erase rest name := by
        simp [erase, hk]
      rw [step]
      by_cases ho : key = other
      · simp [get?, ho]
      · simpa [get?, ho] using ih

theorem mem_keys_iff {t : Table α κ} {name : κ} : name ∈ t.keys ↔ (t.get? name).isSome := by
  induction t with
  | nil => simp [keys]
  | cons entry rest ih =>
    obtain ⟨key, v⟩ := entry
    by_cases h : key = name
    · simp [keys, get?, h]
    · simpa [keys, get?, h, Ne.symm h] using ih

/-- A table with distinct names has the value of each of its entries. -/
theorem get?_eq_some_iff {t : Table α κ} (distinct : t.keys.Nodup) {name : κ} {v : α} :
    t.get? name = some v ↔ (name, v) ∈ t := by
  induction t with
  | nil => simp
  | cons entry rest ih =>
    obtain ⟨key, old⟩ := entry
    obtain ⟨fresh, distinct⟩ := List.nodup_cons.1 distinct
    by_cases h : key = name
    · subst h
      have absent : (key, v) ∉ rest := fun hmem => fresh (mem_keys_of_mem hmem)
      simp [get?, absent, eq_comm]
    · simp [get?, h, Ne.symm h, ih distinct]

theorem sameValue_iff {same : α → α → Bool} {v w : Option α} :
    sameValue same v w = true ↔ Option.Rel (fun a b => same a b = true) v w := by
  cases v <;> cases w <;> simp [sameValue]

/-- Tables agree when under every name they hold values that `same` identifies, or no values. -/
theorem agrees_iff {same : α → α → Bool} {t u : Table α κ} :
    agrees same t u = true ↔
      ∀ name, Option.Rel (fun a b => same a b = true) (t.get? name) (u.get? name) := by
  simp only [agrees, List.all_eq_true, List.mem_append, mem_keys_iff, sameValue_iff]
  refine ⟨fun h name => ?_, fun h name _ => h name⟩
  cases ht : t.get? name with
  | some v => exact ht ▸ h name (.inl (by simp [ht]))
  | none =>
    cases hu : u.get? name with
    | none => exact .none
    | some w => exact ht ▸ hu ▸ h name (.inr (by simp [hu]))

end Table

end ModuleResolution
