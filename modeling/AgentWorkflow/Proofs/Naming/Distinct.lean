import AgentWorkflow.Proofs.Text.Tables
import AgentWorkflow.Tools.Catalogue
import Mathlib.Data.List.Perm.Subperm

/-!
# Names told apart

Telling names apart makes them distinct. A repeated name takes the first number that is free, and
one of as many numbers as there are names taken, and one more, has to be free. So agents with
distinct ids have distinct identifiers, whatever their names are.

Results:
1. `numbered_firstFree_not_mem`: the number that is found is free.
2. `nodup_distinct`, `distinct_of_nodup`: names told apart are distinct, and distinct names stay.
3. `map_identifierOf`, `injOn_identifierOf`: the identifiers of agents, in order and by id.
-/

namespace AgentWorkflow

theorem CodePoint.ofChar_injective : Function.Injective CodePoint.ofChar := by
  intro a b h
  have val : a.toNat = b.toNat := congrArg CodePoint.val h
  exact Char.ext (UInt32.toNat_inj.mp val)

theorem Text.ofNat_injective : Function.Injective Text.ofNat := by
  intro m n h
  have digits : Nat.toDigits 10 m = Nat.toDigits 10 n :=
    (List.map_injective_iff.mpr CodePoint.ofChar_injective) h
  have back := congrArg (Nat.ofDigitChars 10 · 0) digits
  simpa [Nat.ofDigitChars_toDigits] using back

namespace Naming

variable {taken seen : List Text} {name : Text}

/-! ## A free number -/

theorem numbered_injective (name : Text) : Function.Injective (numbered name) := by
  intro m n h
  exact Text.ofNat_injective (List.append_cancel_left h)

/-- Every number below the one found is taken. -/
theorem mem_of_lt_firstFree {fuel n i : Nat} (hi : n ≤ i) (h : i < firstFree taken name fuel n) :
    numbered name i ∈ taken := by
  induction fuel generalizing n with
  | zero =>
    rw [firstFree] at h
    omega
  | succ fuel ih =>
    rw [firstFree] at h
    split at h
    · next found =>
      rcases Nat.eq_or_lt_of_le hi with rfl | later
      · exact List.contains_iff_mem.mp found
      · exact ih later h
    · omega

/-- A taken name is returned only when the search has run out. -/
theorem firstFree_eq_of_mem {fuel n : Nat}
    (h : numbered name (firstFree taken name fuel n) ∈ taken) :
    firstFree taken name fuel n = n + fuel := by
  induction fuel generalizing n with
  | zero => rfl
  | succ fuel ih =>
    rw [firstFree] at h ⊢
    split at h
    · next found =>
      rw [if_pos found, ih h]
      omega
    · next free => exact absurd (List.contains_iff_mem.mpr h) free

/-- Of one candidate more than there are names taken, some are free. -/
theorem numbered_firstFree_not_mem (taken : List Text) (name : Text) (n : Nat) :
    numbered name (firstFree taken name taken.length n) ∉ taken := by
  intro h
  have last := firstFree_eq_of_mem h
  have candidates : ((List.range' n (taken.length + 1)).map (numbered name)).Nodup :=
    (List.nodup_range' ..).map (numbered_injective name)
  have all : (List.range' n (taken.length + 1)).map (numbered name) ⊆ taken := by
    intro candidate hc
    obtain ⟨i, hi, rfl⟩ := List.mem_map.mp hc
    obtain ⟨low, high⟩ := List.mem_range'_1.mp hi
    rcases Nat.eq_or_lt_of_le (Nat.le_of_lt_succ high) with here | earlier
    · rw [last] at h
      exact here ▸ h
    · exact mem_of_lt_firstFree low (Nat.lt_of_lt_of_eq earlier last.symm)
  have size := (candidates.subperm all).length_le
  simp only [List.length_map, List.length_range'] at size
  omega

/-! ## Distinct names -/

/-- The invariant of the search: everything handed out is among the names seen, and nothing
that was seen is handed out again. -/
theorem nodup_distinctFrom {names : List Text} (given : ∀ name ∈ names, name ∈ taken)
    (known : ∀ name ∈ seen, name ∈ taken) :
    (distinctFrom taken seen names).Nodup ∧
      ∀ name ∈ distinctFrom taken seen names, name ∉ seen := by
  induction names generalizing taken seen with
  | nil => exact ⟨List.nodup_nil, fun _ h => nomatch h⟩
  | cons name rest ih =>
    obtain ⟨hname, hrest⟩ := List.forall_mem_cons.mp given
    rw [distinctFrom]
    split
    · let fresh := numbered name (firstFree taken name taken.length 2)
      have free : fresh ∉ taken := numbered_firstFree_not_mem taken name 2
      obtain ⟨nodup, apart⟩ := @ih (fresh :: taken) (fresh :: seen)
        (fun x hx => List.mem_cons_of_mem fresh (hrest x hx))
        (List.forall_mem_cons.mpr
          ⟨List.mem_cons_self, fun x hx => List.mem_cons_of_mem fresh (known x hx)⟩)
      refine ⟨List.nodup_cons.mpr ⟨fun h => apart fresh h List.mem_cons_self, nodup⟩, ?_⟩
      refine List.forall_mem_cons.mpr ⟨fun h => free (known fresh h), fun x hx h => ?_⟩
      exact apart x hx (List.mem_cons_of_mem fresh h)
    · next unseen =>
      obtain ⟨nodup, apart⟩ := @ih taken (name :: seen) hrest
        (List.forall_mem_cons.mpr ⟨hname, known⟩)
      refine ⟨List.nodup_cons.mpr ⟨fun h => apart name h List.mem_cons_self, nodup⟩, ?_⟩
      refine List.forall_mem_cons.mpr ⟨fun h => unseen (List.contains_iff_mem.mpr h), ?_⟩
      exact fun x hx h => apart x hx (List.mem_cons_of_mem name h)

theorem nodup_distinct (names : List Text) : (distinct names).Nodup :=
  (nodup_distinctFrom (fun _ h => h) fun _ h => absurd h List.not_mem_nil).1

/-- Where no name comes twice, none is changed. -/
theorem distinctFrom_of_nodup {names : List Text} (apart : names.Nodup)
    (unseen : ∀ name ∈ names, name ∉ seen) : distinctFrom taken seen names = names := by
  induction names generalizing seen with
  | nil => rfl
  | cons name rest ih =>
    obtain ⟨single, apart⟩ := List.nodup_cons.mp apart
    obtain ⟨new, later⟩ := List.forall_mem_cons.mp unseen
    rw [distinctFrom, if_neg (mt List.contains_iff_mem.mp new), ih apart]
    intro other hother seen
    rcases List.mem_cons.mp seen with rfl | seen
    · exact single hother
    · exact later other hother seen

theorem distinct_of_nodup {names : List Text} (apart : names.Nodup) : distinct names = names :=
  distinctFrom_of_nodup apart fun _ _ => List.not_mem_nil

end Naming

/-! ## The identifiers of agents -/

def identifierOf (agents : List Agent) (id : Text) : Text :=
  (Table.get? (agentIdentifiers agents) id).getD []

section Identifiers

variable {agents : List Agent} (hn : (agents.map (·.id)).Nodup)

include hn

/-- Identifiers looked up by id are those handed out by place, when the ids are distinct. -/
theorem map_identifierOf : (agents.map (·.id)).map (identifierOf agents)
    = Naming.distinct (agents.map fun a => Naming.identifier a.name) := by
  have lengths : (agents.map (·.id)).length
      = (Naming.distinct (agents.map fun a => Naming.identifier a.name)).length := by
    rw [Naming.distinct, Naming.length_distinctFrom, List.length_map, List.length_map]
  have keys : (((agents.map (·.id)).zip
      (Naming.distinct (agents.map fun a => Naming.identifier a.name))).map (·.1)).Nodup := by
    rw [List.map_fst_zip (Nat.le_of_eq lengths)]
    exact hn
  unfold identifierOf agentIdentifiers
  rw [Table.ofList_of_nodup keys, Table.map_get?_zip [] hn lengths]

theorem nodup_identifiers : ((agents.map (·.id)).map (identifierOf agents)).Nodup := by
  rw [map_identifierOf hn]
  exact Naming.nodup_distinct _

theorem injOn_identifierOf {x y : Text} (hx : x ∈ agents.map (·.id)) (hy : y ∈ agents.map (·.id))
    (h : identifierOf agents x = identifierOf agents y) : x = y :=
  List.inj_on_of_nodup_map (nodup_identifiers hn) hx hy h

end Identifiers

end AgentWorkflow
