import AgentWorkflow.Text.Table
import Mathlib.Data.List.Nodup

/-!
# What is looked up in tables

Every change of a table is known by what is looked up in it afterwards. Setting a value, leaving
names out and changing a value in place concern the names at hand and no others. A table in which
each name stands once is what it is made of.

Results:
1. `get?_set_of_ne`, `get?_without`, `get?_modify`: what is looked up after a change.
2. `ofList_of_nodup`, `get?_of_mem`, `map_get?_zip`: tables in which each name stands once.
-/

namespace AgentWorkflow

namespace Table

variable {α : Type}

/-! ## Changes -/

/-- The table without what stands under some names. -/
def without (names : List Text) (table : Table α) : Table α :=
  table.filter fun entry => !names.contains entry.1

/-- The table with what stands under a name changed in place. -/
def modify (name : Text) (f : α → α) (table : Table α) : Table α :=
  table.map fun entry => (entry.1, if entry.1 = name then f entry.2 else entry.2)

theorem get?_set_of_ne {name other : Text} (h : other ≠ name) (value : α) (table : Table α) :
    get? (set name value table) other = get? table other := by
  have apart : (other == name) = false := beq_eq_false_iff_ne.mpr h
  induction table with
  | nil => rw [set, get?, List.lookup_cons, apart, get?]
  | cons entry rest ih =>
    obtain ⟨n, v⟩ := entry
    unfold get? at ih ⊢
    rw [set]
    split
    · next same => rw [List.lookup_cons, List.lookup_cons, same, apart]
    · rw [List.lookup_cons, List.lookup_cons, ih]

theorem get?_without (names : List Text) (name : Text) (table : Table α) :
    get? (table.without names) name = if name ∈ names then none else get? table name := by
  induction table with
  | nil => simp [without, get?]
  | cons entry rest ih =>
    obtain ⟨n, v⟩ := entry
    unfold without at ih ⊢
    by_cases same : name = n
    · subst same
      by_cases dropped : name ∈ names
      · simpa [dropped] using ih
      · simp [get?, dropped]
    · have other : (name == n) = false := beq_eq_false_iff_ne.mpr same
      by_cases dropped : n ∈ names
      · simpa [get?, dropped, List.lookup_cons, other] using ih
      · simpa [get?, dropped, List.lookup_cons, other] using ih

/-- Looking up after a change: the changed value under its own name, the same value elsewhere. -/
theorem get?_modify (name other : Text) (f : α → α) (table : Table α) :
    get? (modify name f table) other
      = if other = name then (get? table other).map f else get? table other := by
  induction table with
  | nil => simp [modify, get?]
  | cons entry rest ih =>
    obtain ⟨n, v⟩ := entry
    unfold modify get? at ih ⊢
    rw [List.map_cons, List.lookup_cons, List.lookup_cons, ih]
    by_cases here : other = n
    · subst here
      by_cases same : other = name <;> simp [same]
    · have apart : (other == n) = false := beq_eq_false_iff_ne.mpr here
      rw [apart]

/-! ## Tables in which each name stands once -/

theorem set_of_not_mem {name : Text} (value : α) {table : Table α}
    (h : name ∉ table.map (·.1)) : set name value table = table ++ [(name, value)] := by
  induction table with
  | nil => rfl
  | cons entry rest ih =>
    obtain ⟨n, v⟩ := entry
    rw [List.map_cons, List.mem_cons, not_or] at h
    rw [set, if_neg (Ne.symm h.1), ih h.2, List.cons_append]

/-- A table of distinct names keeps every entry and the order. -/
theorem ofList_of_nodup {entries : List (Text × α)} (h : (entries.map (·.1)).Nodup) :
    ofList entries = entries := by
  have step : ∀ (es : List (Text × α)) (table : Table α), ((table ++ es).map (·.1)).Nodup →
      es.foldl (fun table entry => set entry.1 entry.2 table) table = table ++ es := by
    intro es
    induction es with
    | nil => exact fun table _ => (List.append_nil table).symm
    | cons e es ih =>
      obtain ⟨name, value⟩ := e
      intro table hn
      have fresh : name ∉ table.map (·.1) := by
        intro hname
        rw [List.map_append, List.map_cons, List.nodup_append] at hn
        exact hn.2.2 name hname name List.mem_cons_self rfl
      change es.foldl _ (set name value table) = _
      rw [set_of_not_mem value fresh, ih _ (by simpa using hn)]
      simp
  exact step entries [] h

theorem get?_of_mem {table : Table α} {name : Text} {value : α} (h : (table.map (·.1)).Nodup)
    (entry : (name, value) ∈ table) : get? table name = some value := by
  obtain ⟨before, after, rfl⟩ := List.append_of_mem entry
  refine List.lookup_eq_some_iff.mpr ⟨before, after, rfl, fun other hother => ?_⟩
  rw [List.map_append, List.nodup_append] at h
  have apart := h.2.2 other.1 (List.mem_map_of_mem hother) name List.mem_cons_self
  exact bne_iff_ne.mpr apart.symm

theorem map_get?_zip {keys : List Text} {values : List α} (default : α) (hn : keys.Nodup)
    (hl : keys.length = values.length) :
    keys.map (fun key => (get? (keys.zip values) key).getD default) = values := by
  induction keys generalizing values with
  | nil => exact (List.eq_nil_of_length_eq_zero hl.symm).symm
  | cons key keys ih =>
    cases values with
    | nil => simp at hl
    | cons value values =>
      obtain ⟨hkey, hn⟩ := List.nodup_cons.mp hn
      have later : ∀ k ∈ keys, (get? ((key :: keys).zip (value :: values)) k).getD default
          = (get? (keys.zip values) k).getD default := by
        intro k hk
        have other : (k == key) = false := beq_false_of_ne fun e => hkey (e ▸ hk)
        simp [get?, List.zip_cons_cons, List.lookup_cons, other]
      rw [List.map_cons, List.map_congr_left later, ih hn (by simpa using hl)]
      simp [get?, List.zip_cons_cons]

end Table

end AgentWorkflow
