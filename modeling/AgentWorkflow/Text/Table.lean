import AgentWorkflow.Text.Basic

/-!
# Tables

Named values in order, each name once. A name set again keeps its place and takes the new value.
-/

namespace AgentWorkflow

/-- Named values in order. -/
abbrev Table (α : Type) := List (Text × α)

namespace Table

variable {α : Type}

def get? (table : Table α) (name : Text) : Option α := table.lookup name

/-- Sets a value: in place if the name is there, else at the end. -/
def set (name : Text) (value : α) : Table α → Table α
  | [] => [(name, value)]
  | (n, v) :: rest => if n = name then (name, value) :: rest else (n, v) :: set name value rest

/-- The table in which every name stands where it first stood, with the value it last had. -/
def ofList (entries : List (Text × α)) : Table α :=
  entries.foldl (fun table (name, value) => set name value table) []

theorem get?_set_self (name : Text) (value : α) (table : Table α) :
    get? (set name value table) name = some value := by
  induction table with
  | nil => simp [set, get?]
  | cons entry rest ih =>
    obtain ⟨n, v⟩ := entry
    by_cases h : n = name
    · simp [set, get?, h]
    · have h' : (name == n) = false := by simpa using fun e => h e.symm
      simpa [set, get?, h, h', List.lookup_cons] using ih

theorem mem_of_get? {table : Table α} {name : Text} {value : α}
    (h : get? table name = some value) : (name, value) ∈ table := by
  obtain ⟨before, after, rfl, -⟩ := List.lookup_eq_some_iff.mp h
  simp

theorem mem_set {name : Text} {value : α} {table : Table α} {entry : Text × α}
    (h : entry ∈ set name value table) : entry = (name, value) ∨ entry ∈ table := by
  induction table with
  | nil => exact .inl (List.mem_singleton.mp h)
  | cons first rest ih =>
    obtain ⟨n, v⟩ := first
    simp only [set] at h
    split at h
    · exact (List.mem_cons.mp h).imp_right (List.mem_cons_of_mem _)
    · rcases List.mem_cons.mp h with h | h
      · exact .inr (h ▸ List.mem_cons_self)
      · exact (ih h).imp_right (List.mem_cons_of_mem _)

theorem mem_ofList {entries : List (Text × α)} {entry : Text × α} (h : entry ∈ ofList entries) :
    entry ∈ entries := by
  have step : ∀ (es : List (Text × α)) (table : Table α),
      entry ∈ es.foldl (fun table (name, value) => set name value table) table →
        entry ∈ table ∨ entry ∈ es := by
    intro es
    induction es with
    | nil => exact fun _ => .inl
    | cons e es ih =>
      intro table h
      rcases ih _ h with h | h
      · exact (mem_set h).elim (fun h => .inr (h ▸ List.mem_cons_self)) .inl
      · exact .inr (List.mem_cons_of_mem e h)
  exact (step entries [] h).resolve_left List.not_mem_nil

example : ofList [("a", 1), ("b", 2), ("a", 3)] = ([("a", 3), ("b", 2)] : Table Nat) := by decide

end Table

end AgentWorkflow
