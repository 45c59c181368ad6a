import AgentWorkflow.Proofs.Naming.Distinct
import AgentWorkflow.Proofs.Text.Points
import Mathlib.Order.Bounds.Basic

/-!
# How names are told apart

A name is kept where it comes first and takes a number wherever it comes again. The number is the
least that is free, so it hangs on the names taken only as far as these look like numbered ones.
Names that do not look so can be added at the end, and nothing before them changes.

What stands in a place hangs on the names given and on what stands in the places before it. So a
list is told apart in one way only, and this way needs no limit to how far a number is looked for.

Results:
1. `isLeast_firstFree`, `search_iff`: the number that is found is the least that is free, and a search
   without a limit finds it.
2. `getElem?_distinct_of_first`, `getElem?_distinct_of_repeated`: what is in the place of a name.
3. `toldApart_iff`: names are told apart in just one way, and once they are, nothing changes.
4. `distinct_prefix`: names added at the end leave those before them as they are.
-/

namespace AgentWorkflow

namespace Naming

variable {taken seen : List Text} {name : Text}

/-! ## The number of a name -/

theorem le_firstFree (taken : List Text) (name : Text) (fuel n : Nat) :
    n ≤ firstFree taken name fuel n := by
  induction fuel generalizing n with
  | zero => exact Nat.le_refl n
  | succ fuel ih =>
    rw [firstFree]
    split
    · exact Nat.le_of_succ_le (ih (n + 1))
    · exact Nat.le_refl n

theorem isLeast_firstFree (taken : List Text) (name : Text) (n : Nat) :
    IsLeast {m | n ≤ m ∧ numbered name m ∉ taken} (firstFree taken name taken.length n) := by
  refine ⟨⟨le_firstFree taken name taken.length n, numbered_firstFree_not_mem taken name n⟩, ?_⟩
  rintro m ⟨low, free⟩
  exact Nat.le_of_not_lt fun later => free (mem_of_lt_firstFree low later)

theorem firstFree_congr {others : List Text} (n : Nat)
    (same : ∀ k, numbered name k ∈ taken ↔ numbered name k ∈ others) :
    firstFree taken name taken.length n = firstFree others name others.length n := by
  have free : {m | n ≤ m ∧ numbered name m ∉ taken} = {m | n ≤ m ∧ numbered name m ∉ others} :=
    Set.ext fun m => and_congr_right fun _ => not_congr (same m)
  exact (isLeast_firstFree taken name n).unique (free ▸ isLeast_firstFree others name n)

/-- `Search taken name n m`: looking for a free number from `n` on, one by one and without a limit,
ends at `m`. -/
inductive Search (taken : List Text) (name : Text) : Nat → Nat → Prop
  | found {n : Nat} : numbered name n ∉ taken → Search taken name n n
  | next {n m : Nat} : numbered name n ∈ taken → Search taken name (n + 1) m → Search taken name n m

theorem Search.isLeast {n m : Nat} (h : Search taken name n m) :
    IsLeast {k | n ≤ k ∧ numbered name k ∉ taken} m := by
  induction h with
  | found free => exact ⟨⟨Nat.le_refl _, free⟩, fun k hk => hk.1⟩
  | next held _ ih =>
    obtain ⟨⟨low, free⟩, least⟩ := ih
    refine ⟨⟨Nat.le_of_succ_le low, free⟩, fun k ⟨from_, unused⟩ => least ⟨?_, unused⟩⟩
    exact Nat.lt_of_le_of_ne from_ fun same => unused (same ▸ held)

/-- The search ends at the number that is found with a limit. -/
theorem search_iff {n m : Nat} :
    Search taken name n m ↔ m = firstFree taken name taken.length n := by
  have ends : ∀ fuel n, numbered name (firstFree taken name fuel n) ∉ taken →
      Search taken name n (firstFree taken name fuel n) := by
    intro fuel
    induction fuel with
    | zero => exact fun n => .found
    | succ fuel ih =>
      intro n free
      rw [firstFree] at free ⊢
      split at free
      · next held => exact if_pos held ▸ .next (List.contains_iff_mem.mp held) (ih _ free)
      · next other => exact if_neg other ▸ .found free
  constructor
  · exact fun h => h.isLeast.unique (isLeast_firstFree taken name n)
  · rintro rfl
    exact ends _ n (numbered_firstFree_not_mem taken name n)

theorem Search.congr {others : List Text} {n m : Nat}
    (same : ∀ k, numbered name k ∈ taken ↔ numbered name k ∈ others)
    (h : Search taken name n m) : Search others name n m :=
  search_iff.mpr (firstFree_congr n same ▸ search_iff.mp h)

theorem numbered_ne_self (name : Text) (n : Nat) : numbered name n ≠ name := by
  intro same
  have size := congrArg List.length same
  simp [numbered, Text.ofString] at size

/-- A numbered name ends in a digit. -/
theorem isDigit_getLast?_numbered (name : Text) (n : Nat) :
    ∃ c ∈ (numbered name n).getLast?, c.isDigit := by
  have digits : Text.ofNat n ≠ [] := by simp [Text.ofNat]
  refine ⟨_, List.getLast?_append_of_ne_nil _ digits ▸ List.getLast?_eq_some_getLast digits, ?_⟩
  exact Text.isDigit_of_mem_ofNat (List.getLast_mem digits)

/-! ## The place of a name -/

/-- A name that has not been seen is kept, and any other takes the number that is found among the
names taken at first and those handed out since. -/
theorem getElem?_distinctFrom {names : List Text} (given : ∀ name ∈ names, name ∈ taken) {k : Nat}
    (here : names[k]? = some name) :
    (¬(name ∈ seen ∨ name ∈ names.take k) →
      (distinctFrom taken seen names)[k]? = some name) ∧
    (name ∈ seen ∨ name ∈ names.take k →
      ∃ n, Search (taken ++ (distinctFrom taken seen names).take k) name 2 n ∧
        (distinctFrom taken seen names)[k]? = some (numbered name n)) := by
  induction names generalizing taken seen k with
  | nil => simp at here
  | cons other rest ih =>
    obtain ⟨hother, hrest⟩ := List.forall_mem_cons.mp given
    rw [distinctFrom]
    cases k with
    | zero =>
      obtain rfl : other = name := by simpa using here
      split
      · next again =>
        have old : other ∈ seen := List.contains_iff_mem.mp again
        refine ⟨fun new => absurd (.inl old) new, fun _ => ⟨_, ?_, rfl⟩⟩
        rw [List.take_zero, List.append_nil, search_iff]
      · next new =>
        refine ⟨fun _ => rfl, fun old => absurd ?_ new⟩
        simpa using old
    | succ k =>
      have later : rest[k]? = some name := by simpa using here
      split
      · next again =>
        -- the numbered name is new, and `other` has been seen before, so no name becomes known here
        let fresh := numbered other (firstFree taken other taken.length 2)
        have free : fresh ∉ taken := numbered_firstFree_not_mem taken other 2
        have apart : name ≠ fresh := fun same =>
          free (same ▸ hrest name (List.mem_of_getElem? later))
        have known : name ∈ fresh :: seen ∨ name ∈ rest.take k ↔
            name ∈ seen ∨ name ∈ (other :: rest).take (k + 1) := by
          have old : name = other → name ∈ seen := fun same =>
            same ▸ List.contains_iff_mem.mp again
          rw [List.take_succ_cons, List.mem_cons, List.mem_cons, or_iff_right apart, ← or_assoc,
            or_iff_left_of_imp old]
        obtain ⟨kept, renumbered⟩ := @ih (fresh :: taken) (fresh :: seen)
          (fun x hx => List.mem_cons_of_mem fresh (hrest x hx)) k later
        refine ⟨fun new => kept (mt known.mp new), fun old => ?_⟩
        obtain ⟨n, search, place⟩ := renumbered (known.mpr old)
        refine ⟨n, search.congr fun i => ?_, place⟩
        rw [List.take_succ_cons, List.mem_append, List.mem_append, List.mem_cons, List.mem_cons,
          or_assoc, or_left_comm]
      · have known : name ∈ other :: seen ∨ name ∈ rest.take k ↔
            name ∈ seen ∨ name ∈ (other :: rest).take (k + 1) := by
          rw [List.take_succ_cons, List.mem_cons, List.mem_cons, or_assoc, or_left_comm]
        obtain ⟨kept, renumbered⟩ := @ih taken (other :: seen) hrest k later
        refine ⟨fun new => kept (mt known.mp new), fun old => ?_⟩
        obtain ⟨n, search, place⟩ := renumbered (known.mpr old)
        -- `other` is handed out here, but it has been taken from the beginning
        refine ⟨n, search.congr fun i => ?_, place⟩
        have held : numbered name i = other → numbered name i ∈ taken := fun same => same ▸ hother
        rw [List.take_succ_cons, List.mem_append, List.mem_append, List.mem_cons, ← or_assoc,
          or_iff_left_of_imp held]

section Place

variable {names : List Text} {k : Nat} (here : names[k]? = some name)

include here

theorem getElem?_distinct_of_first (first : name ∉ names.take k) :
    (distinct names)[k]? = some name :=
  (getElem?_distinctFrom (fun _ h => h) here).1 (by simpa using first)

theorem exists_search_of_repeated (again : name ∈ names.take k) :
    ∃ n, Search (names ++ (distinct names).take k) name 2 n ∧
      (distinct names)[k]? = some (numbered name n) :=
  (getElem?_distinctFrom (fun _ h => h) here).2 (.inr again)

theorem getElem?_distinct_of_repeated (again : name ∈ names.take k) :
    ∃ n, 2 ≤ n ∧ numbered name n ∉ names ∧ (distinct names)[k]? = some (numbered name n) := by
  obtain ⟨n, search, place⟩ := exists_search_of_repeated here again
  obtain ⟨low, free⟩ := search.isLeast.1
  exact ⟨n, low, mt (List.mem_append_left _) free, place⟩

end Place

/-! ## The only way -/

/-- `ToldApart names result`: the result has a name in every place, no two alike. A name is kept
just where it comes first. Wherever it comes again it takes a number: the least from two on that
makes a name neither given nor handed out in an earlier place. -/
structure ToldApart (names result : List Text) : Prop where
  length : result.length = names.length
  nodup : result.Nodup
  kept : ∀ k name, names[k]? = some name → (result[k]? = some name ↔ name ∉ names.take k)
  renumbered : ∀ k name, names[k]? = some name → name ∈ names.take k →
    ∃ n, Search (names ++ result.take k) name 2 n ∧
      IsLeast {i | 2 ≤ i ∧ numbered name i ∉ names ∧ numbered name i ∉ result.take k} n ∧
      result[k]? = some (numbered name n)

/-- The search meets the specification of names told apart, place by place. -/
theorem toldApart_distinct (names : List Text) : ToldApart names (distinct names) where
  length := length_distinctFrom names [] names
  nodup := nodup_distinct names
  kept k name here := by
    refine ⟨fun kept again => ?_, getElem?_distinct_of_first here⟩
    obtain ⟨n, -, place⟩ := exists_search_of_repeated here again
    exact numbered_ne_self name n (Option.some.inj (place.symm.trans kept))
  renumbered k name here again := by
    obtain ⟨n, search, place⟩ := exists_search_of_repeated here again
    have least := search.isLeast
    simp only [List.mem_append, not_or] at least
    exact ⟨n, search, least, place⟩

/-- What stands in a place hangs on the places before it only. -/
theorem ToldApart.unique {names result other : List Text} (h : ToldApart names result)
    (h' : ToldApart names other) : result = other := by
  refine List.ext_getElem? fun k => ?_
  induction k using Nat.strongRecOn with
  | ind k ih =>
    cases here : names[k]? with
    | none =>
      rw [List.getElem?_eq_none_iff] at here
      rw [List.getElem?_eq_none (h.length ▸ here), List.getElem?_eq_none (h'.length ▸ here)]
    | some name =>
      by_cases again : name ∈ names.take k
      · have before : result.take k = other.take k := by
          refine List.ext_getElem? fun i => ?_
          by_cases earlier : i < k
          · rw [List.getElem?_take_of_lt earlier, List.getElem?_take_of_lt earlier, ih i earlier]
          · rw [List.getElem?_take_eq_none (Nat.le_of_not_lt earlier),
              List.getElem?_take_eq_none (Nat.le_of_not_lt earlier)]
        obtain ⟨n, -, least, place⟩ := h.renumbered k name here again
        obtain ⟨m, -, least', place'⟩ := h'.renumbered k name here again
        rw [place, place', least.unique (before ▸ least')]
      · rw [(h.kept k name here).mpr again, (h'.kept k name here).mpr again]

/-- There is just one way to tell the names of a list apart, and names that have been told apart
stay as they are. -/
theorem toldApart_iff (names : List Text) :
    (∀ result, ToldApart names result ↔ result = distinct names) ∧
      distinct (distinct names) = distinct names := by
  refine ⟨fun result => ⟨fun h => h.unique (toldApart_distinct names), ?_⟩,
    distinct_of_nodup (nodup_distinct names)⟩
  rintro rfl
  exact toldApart_distinct names

/-! ## Names added at the end -/

/-- Names that follow do not change what has been handed out, as long as they take no numbered
name. -/
theorem distinctFrom_prefix {others : List Text} (xs ys : List Text)
    (same : ∀ name n, numbered name n ∈ taken ↔ numbered name n ∈ others) :
    distinctFrom taken seen xs <+: distinctFrom others seen (xs ++ ys) := by
  induction xs generalizing taken others seen with
  | nil => exact List.nil_prefix
  | cons name rest ih =>
    rw [List.cons_append, distinctFrom, distinctFrom]
    split
    · rw [firstFree_congr 2 (same name)]
      refine (List.prefix_cons_inj _).mpr (ih fun other n => ?_)
      simp only [List.mem_cons, same other n]
    · exact (List.prefix_cons_inj _).mpr (ih same)

/-- Names that look like no numbered ones, added at the end, leave the names before them as they
are. -/
theorem distinct_prefix (xs : List Text) {ys : List Text}
    (plain : ∀ y ∈ ys, ∀ name n, numbered name n ≠ y) :
    distinct xs <+: distinct (xs ++ ys) := by
  refine distinctFrom_prefix xs ys fun name n => ?_
  rw [List.mem_append, or_iff_left fun h => plain _ h name n rfl]

end Naming

end AgentWorkflow
