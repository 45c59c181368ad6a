import AgentWorkflow.Text.Blank
import Mathlib.Data.List.DropRight

/-!
# Where the points of a text come from

Most operations on texts only choose and rearrange points. Each lemma here names the texts that the
points of a result come from, so that what holds of all points of the arguments can be carried over
to the result. Trimming leaves no more to trim. Texts that are joined stand in the result whole, and
what stands in front of the first occurrence of a point is found again.
-/

namespace AgentWorkflow

namespace Text

variable {c : CodePoint} {t : Text}

theorem mem_trimBy {p : CodePoint → Bool} (h : c ∈ trimBy p t) : c ∈ t := by
  have h₁ := (List.dropWhile_sublist p).subset (List.mem_reverse.mp h)
  exact (List.dropWhile_sublist p).subset (List.mem_reverse.mp h₁)

theorem mem_trim (h : c ∈ t.trim) : c ∈ t := mem_trimBy h

theorem trim_trim (t : Text) : t.trim.trim = t.trim := by
  have front : t.trim.dropWhile CodePoint.isBlank = t.trim := by
    rw [List.dropWhile_eq_self_iff]
    intro pos
    -- the first point of the trimmed text is the first that is left at the front
    have before : t.trim <+: t.dropWhile CodePoint.isBlank := List.rdropWhile_prefix _ _
    have pos' := pos.trans_le before.length_le
    have same : t.trim[0] = (t.dropWhile CodePoint.isBlank)[0] := before.getElem pos
    have kept := List.dropWhile_get_zero_not CodePoint.isBlank t pos'
    simpa [same] using kept
  calc t.trim.trim
      = (t.trim.dropWhile CodePoint.isBlank).rdropWhile CodePoint.isBlank := rfl
    _ = t.trim.rdropWhile CodePoint.isBlank := by rw [front]
    _ = t.trim := List.rdropWhile_idempotent _ _

/-- A stretch holds points of the text that satisfy the condition, and is not empty. -/
theorem mem_runsFrom {p : CodePoint → Bool} {current run : Text}
    (hc : ∀ d ∈ current, p d) (h : run ∈ runsFrom p current t) :
    run ≠ [] ∧ ∀ d ∈ run, (d ∈ current ∨ d ∈ t) ∧ p d := by
  have flush : ∀ rest : Text, current.isEmpty ≠ true →
      current.reverse ≠ [] ∧ ∀ d ∈ current.reverse, (d ∈ current ∨ d ∈ rest) ∧ p d :=
    fun rest hne => ⟨by simpa using hne, fun d hd =>
      ⟨.inl (List.mem_reverse.mp hd), hc d (List.mem_reverse.mp hd)⟩⟩
  induction t generalizing current with
  | nil =>
    simp only [runsFrom] at h
    split at h
    · simp at h
    · next hne =>
      rw [List.mem_singleton.mp h]
      exact flush [] hne
  | cons c t ih =>
    simp only [runsFrom] at h
    by_cases hp : p c
    · rw [if_pos hp] at h
      have hc' : ∀ d ∈ c :: current, p d := by simpa [hp] using hc
      obtain ⟨hne, hrun⟩ := ih hc' h fun rest _ => ⟨by simp, fun d hd =>
        ⟨.inl (List.mem_reverse.mp hd), hc' d (List.mem_reverse.mp hd)⟩⟩
      refine ⟨hne, fun d hd => ⟨?_, (hrun d hd).2⟩⟩
      simpa [or_assoc, or_left_comm] using (hrun d hd).1
    · rw [if_neg hp] at h
      have skip : run ∈ runsFrom p [] t →
          run ≠ [] ∧ ∀ d ∈ run, (d ∈ current ∨ d ∈ c :: t) ∧ p d := by
        intro h
        obtain ⟨hne, hrun⟩ := ih (by simp) h fun _ hempty => absurd rfl hempty
        refine ⟨hne, fun d hd => ⟨.inr ?_, (hrun d hd).2⟩⟩
        simpa using .inr ((hrun d hd).1.resolve_left (by simp))
      by_cases hne : current.isEmpty
      · rw [if_pos hne] at h
        exact skip h
      · rw [if_neg hne] at h
        rcases List.mem_cons.mp h with rfl | h
        · exact flush (c :: t) hne
        · exact skip h

theorem mem_runs {p : CodePoint → Bool} {run : Text} (h : run ∈ runs p t) (hc : c ∈ run) :
    c ∈ t ∧ p c := by
  obtain ⟨hmem, hp⟩ := (mem_runsFrom (by simp) h).2 c hc
  exact ⟨by simpa using hmem, hp⟩

section Runs

variable {p : CodePoint → Bool} {current : Text}

theorem runs_cons_of_pos (h : p c) : runs p (c :: t) = runsFrom p [c] t := by
  rw [runs, runsFrom, if_pos h]

theorem runs_cons_of_neg (h : ¬p c) : runs p (c :: t) = runs p t := by
  rw [runs, runsFrom, if_neg h]
  rfl

theorem runsFrom_cons_of_neg (h : ¬p c) (ne : current ≠ []) :
    runsFrom p current (c :: t) = current.reverse :: runs p t := by
  rw [runsFrom, if_neg h, if_neg (mt List.isEmpty_iff.mp ne)]
  rfl

end Runs

theorem ne_nil_of_mem_runs {p : CodePoint → Bool} {run : Text} (h : run ∈ runs p t) : run ≠ [] :=
  (mem_runsFrom (by simp) h).1

theorem runsFrom_append_cons (p : CodePoint → Bool) (current t : Text) {c : CodePoint}
    (hc : p c = false) (u : Text) :
    runsFrom p current (t ++ c :: u) = runsFrom p current t ++ runs p u := by
  induction t generalizing current with
  | nil =>
    simp only [List.nil_append, runsFrom, hc]
    cases current <;> rfl
  | cons d t ih =>
    simp only [List.cons_append, runsFrom, ih]
    split
    · rfl
    · split <;> rfl

theorem runs_of_all {p : CodePoint → Bool} {t : Text} (ne : t ≠ []) (h : ∀ c ∈ t, p c) :
    runs p t = [t] := by
  have step : ∀ current, runsFrom p current t = [current.reverse ++ t] := by
    intro current
    induction t generalizing current with
    | nil => exact absurd rfl ne
    | cons c t ih =>
      rw [runsFrom, if_pos (h c List.mem_cons_self)]
      cases t with
      | nil => simp [runsFrom]
      | cons d t =>
        rw [ih (by simp) fun e he => h e (List.mem_cons_of_mem c he)]
        simp
  exact step []

/-- Splitting loses separators and adds nothing. -/
theorem mem_splitOn {separator : CodePoint} {piece : Text} (h : piece ∈ splitOn separator t)
    (hc : c ∈ piece) : c ∈ t := by
  induction t generalizing piece with
  | nil => simp_all [splitOn]
  | cons d t ih =>
    simp only [splitOn] at h
    split at h
    · rcases List.mem_cons.mp h with rfl | h
      · simp at hc
      · exact List.mem_cons_of_mem d (ih h hc)
    · split at h
      · simp_all
      · next first more hsplit =>
        rcases List.mem_cons.mp h with rfl | h
        · rcases List.mem_cons.mp hc with rfl | hc
          · exact List.mem_cons_self
          · exact List.mem_cons_of_mem d (ih (by simp [hsplit]) hc)
        · exact List.mem_cons_of_mem d (ih (by simp [hsplit, h]) hc)

theorem splitOn_ne_nil (separator : CodePoint) (t : Text) : splitOn separator t ≠ [] := by
  cases t with
  | nil => simp [splitOn]
  | cons d t =>
    simp only [splitOn]
    split
    · simp
    · split <;> simp

theorem join_cons_cons (separator part next : Text) (more : List Text) :
    join separator (part :: next :: more) = part ++ separator ++ join separator (next :: more) :=
  List.intercalate_cons_cons ..

theorem join_cons (separator part : Text) (parts : List Text) :
    join separator (part :: parts) = part ++ parts.flatMap (separator ++ ·) := by
  induction parts generalizing part with
  | nil => simp [join]
  | cons next more ih => rw [join_cons_cons, ih, List.flatMap_cons, List.append_assoc, List.append_assoc]

theorem join_feed_cons_cons (part next : Text) (more : List Text) :
    join "\n" (part :: next :: more) = part ++ ('\n' : CodePoint) :: join "\n" (next :: more) := by
  rw [join_cons_cons, List.append_assoc]
  rfl

theorem unlines_feed_cons (line : Text) (lines : List Text) :
    unlines (line :: lines) = line ++ ('\n' : CodePoint) :: unlines lines := by
  rw [unlines_cons, List.append_assoc]
  rfl

/-- A part stands in the joined text as a whole. -/
theorem exists_join_eq_of_mem (separator : Text) {parts : List Text} {part : Text}
    (h : part ∈ parts) : ∃ front behind, join separator parts = front ++ part ++ behind := by
  induction parts with
  | nil => cases h
  | cons first parts ih =>
    cases parts with
    | nil =>
      rw [List.mem_singleton.mp h]
      exact ⟨[], [], by simp [join]⟩
    | cons next more =>
      rw [join_cons_cons]
      rcases List.mem_cons.mp h with rfl | h
      · exact ⟨[], separator ++ join separator (next :: more), by simp⟩
      · obtain ⟨front, behind, rest⟩ := ih h
        exact ⟨first ++ separator ++ front, behind, by simp [rest]⟩

theorem mem_join {separator : Text} {parts : List Text} (h : c ∈ join separator parts) :
    c ∈ separator ∨ ∃ part ∈ parts, c ∈ part := by
  induction parts with
  | nil => simp [join] at h
  | cons part parts ih =>
    cases parts with
    | nil => exact .inr ⟨part, by simp, by simpa [join] using h⟩
    | cons next more =>
      rw [join_cons_cons, List.mem_append, List.mem_append] at h
      rcases h with (h | h) | h
      · exact .inr ⟨part, by simp, h⟩
      · exact .inl h
      · rcases ih h with h | ⟨q, hq, hc⟩
        · exact .inl h
        · exact .inr ⟨q, List.mem_cons_of_mem part hq, hc⟩

theorem mem_replace {old : CodePoint} {new : Text} (h : c ∈ replace old new t) :
    c ∈ new ∨ c ∈ t := by
  obtain ⟨d, hd, hc⟩ := List.mem_flatMap.mp h
  split at hc
  · exact .inl hc
  · simp only [List.mem_singleton] at hc
    exact .inr (hc ▸ hd)

/-- A stretch of points of one kind ends where something else begins. -/
theorem span_append {p : CodePoint → Bool} {front rest : Text} (h : ∀ c ∈ front, p c)
    (stop : ∀ c ∈ rest.head?, p c = false) :
    (front ++ rest).takeWhile p = front ∧ (front ++ rest).dropWhile p = rest := by
  rw [List.takeWhile_append_of_pos h, List.dropWhile_append_of_pos h]
  cases rest with
  | nil => simp
  | cons c rest =>
    have other : ¬p c := by simp [stop c rfl]
    rw [List.takeWhile_cons_of_neg other, List.dropWhile_cons_of_neg other, List.append_nil]
    exact ⟨rfl, rfl⟩

/-- A text is cut where a point first occurs. -/
theorem span_ne {front : Text} (absent : c ∉ front) (rest : Text) :
    (front ++ c :: rest).takeWhile (· ≠ c) = front ∧
      (front ++ c :: rest).dropWhile (· ≠ c) = c :: rest := by
  refine span_append (fun d hd => decide_eq_true fun same => absent (same ▸ hd)) fun d hd => ?_
  rw [← Option.some.inj hd]
  exact decide_eq_false fun other => other rfl

/-- What is trimmed away at either end. -/
theorem trimBy_append {p : CodePoint → Bool} {front behind : Text} (hf : ∀ c ∈ front, p c)
    (hb : ∀ c ∈ behind, p c) (first : ∀ c ∈ t.head?, p c = false)
    (last : ∀ c ∈ t.getLast?, p c = false) : trimBy p (front ++ t ++ behind) = t := by
  by_cases empty : t = []
  · subst empty
    have none : (front ++ [] ++ behind).dropWhile p = [] := by
      rw [List.append_nil, List.dropWhile_eq_nil_iff]
      exact fun c hc => (List.mem_append.mp hc).elim (hf c) (hb c)
    rw [trimBy, none]
    rfl
  · have start : (front ++ t ++ behind).dropWhile p = t ++ behind := by
      rw [List.append_assoc]
      refine (span_append hf fun c hc => first c ?_).2
      rwa [List.head?_append_of_ne_nil t empty] at hc
    have stop : (behind.reverse ++ t.reverse).dropWhile p = t.reverse := by
      refine (span_append (fun c hc => hb c (List.mem_reverse.mp hc)) fun c hc => last c ?_).2
      rwa [List.head?_reverse] at hc
    rw [trimBy, start, List.reverse_append, stop, List.reverse_reverse]

theorem trimBy_of_forall {p : CodePoint → Bool} (h : ∀ c ∈ t, p c = false) : trimBy p t = t := by
  have kept := @trimBy_append t p [] [] (List.forall_mem_nil _) (List.forall_mem_nil _)
    (fun c hc => h c (List.mem_of_mem_head? hc)) fun c hc => h c (List.mem_of_mem_getLast? hc)
  rwa [List.nil_append, List.append_nil] at kept

theorem append_inj_of_stop {p : CodePoint → Bool} {front front' rest rest' : Text}
    (h : ∀ c ∈ front, p c) (h' : ∀ c ∈ front', p c) (stop : ∀ c ∈ rest.head?, p c = false)
    (stop' : ∀ c ∈ rest'.head?, p c = false) (same : front ++ rest = front' ++ rest') :
    front = front' ∧ rest = rest' := by
  obtain ⟨taken, left⟩ := span_append h stop
  obtain ⟨taken', left'⟩ := span_append h' stop'
  rw [same] at taken left
  exact ⟨taken.symm.trans taken', left.symm.trans left'⟩

/-- The points of a number are digits. -/
theorem isDigit_of_mem_ofNat {n : Nat} (h : c ∈ ofNat n) : c.isDigit := by
  obtain ⟨d, hd, rfl⟩ := List.mem_map.mp h
  have hdigit := Nat.isDigit_of_mem_toDigits (by decide) (by decide) hd
  simp only [Char.isDigit, UInt32.le_iff_toNat_le, Bool.and_eq_true, decide_eq_true_eq,
    ge_iff_le] at hdigit
  rw [CodePoint.isDigit, Bool.and_eq_true]
  exact ⟨decide_eq_true hdigit.1, decide_eq_true hdigit.2⟩

end Text

end AgentWorkflow
