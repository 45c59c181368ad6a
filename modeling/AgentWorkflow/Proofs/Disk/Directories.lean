import AgentWorkflow.Proofs.Disk.Following

/-!
# Making directories

Making the directories of a path adds directories and does nothing else, whether it succeeds or
stops on the way. If it succeeds, the path leads to a directory, which may have been there before or
be reached over a link.

Results:
1. `ensured_ensureDirectories`: directories are all that is added, and the directory is there.
2. `entry?_of_not_hasEntries`, `hasEntries_put`: empty directories.
-/

namespace AgentWorkflow

namespace Disk

variable {d d' d'' : Disk} {path : DiskPath} {p q place : Place} {name : Text}

/-! ## Only directories are new -/

/-- `Widens d d'`: the second disk holds what the first one holds, and perhaps more directories. -/
structure Widens (d d' : Disk) : Prop where
  ground : d'.toGround = d.toGround
  entry : ∀ p, d'.entry? p = d.entry? p ∨ d.entry? p = none ∧ d'.entry? p = some .directory

theorem Widens.refl (d : Disk) : d.Widens d := ⟨rfl, fun _ => .inl rfl⟩

theorem Widens.of_eq (same : d' = d) : d.Widens d' := same ▸ .refl d

theorem Widens.trans (h : d.Widens d') (h' : d'.Widens d'') : d.Widens d'' where
  ground := h'.ground.trans h.ground
  entry p := by
    rcases h'.entry p with same | ⟨missing, directory⟩
    · rw [same]
      exact h.entry p
    · rcases h.entry p with same | ⟨-, other⟩
      · exact .inr ⟨same ▸ missing, directory⟩
      · rw [missing] at other
        cases other

theorem Widens.grows (h : d.Widens d') : d.Grows d' where
  ground := h.ground
  firm p firm := (h.entry p).resolve_right fun new => firm (.inl new.1)
  loose p loose := by
    rcases h.entry p with same | ⟨-, directory⟩
    · rw [target?, same]
      exact target?_of_loose loose
    · rw [target?, directory]

/-- A new directory. -/
theorem widens_put (missing : d.entry? p = none) : d.Widens (d.put p .directory) where
  ground := rfl
  entry q := by
    by_cases same : q = p
    · subst same
      exact .inr ⟨missing, entry?_put_self (Loose.ne_directory (.inl missing)) _⟩
    · exact .inl (entry?_put_of_ne same)

/-! ## One directory -/

/-- A directory is made where nothing is, and nothing else changes. -/
theorem makeDirectory_eq_ok (h : d.makeDirectory path = .ok d') :
    ∃ place, d.seat path = .ok place ∧ d.entry? place = none ∧ d' = d.put place .directory := by
  obtain ⟨place, named, h⟩ := Except.bind_eq_ok.mp h
  cases entry : d.entry? place with
  | some e =>
    rw [entry] at h
    cases h
  | none =>
    rw [entry] at h
    obtain ⟨⟨⟩, -, ⟨⟩⟩ := Except.bind_eq_ok.mp h
    exact ⟨place, named, entry, rfl⟩

/-- A directory that has been made is where its path leads. -/
theorem of_makeDirectory (h : d.makeDirectory path = .ok d') :
    d.Widens d' ∧ ∃ place, d'.Opens path place := by
  obtain ⟨place, named, missing, rfl⟩ := makeDirectory_eq_ok h
  have wider := widens_put missing
  have led := place_of_seat named (target?_of_loose (.inl missing))
  exact ⟨wider, place, wider.grows.place_eq_ok led,
    entry?_put_self (Loose.ne_directory (.inl missing)) _⟩

theorem find_eq_ok {e : Entry} (h : d.find path = .ok (p, e)) :
    d.place path = .ok p ∧ d.entry? p = some e := by
  obtain ⟨place, found, h⟩ := Except.bind_eq_ok.mp h
  cases entry : d.entry? place with
  | none =>
    rw [entry] at h
    cases h
  | some e' =>
    rw [entry] at h
    obtain ⟨⟨⟩, -, ⟨⟩⟩ := Except.bind_eq_ok.mp h
    exact ⟨found, entry⟩

theorem opens_of_isDirectory (h : d.isDirectory path = .ok true) : ∃ place, d.Opens path place := by
  unfold isDirectory at h
  split at h
  · next place entry found =>
    obtain ⟨led, there⟩ := find_eq_ok found
    obtain rfl : entry = .directory := by simpa using h
    exact ⟨place, led, there⟩
  · split at h <;> cases h

/-- One directory is made or was there. -/
theorem of_ensureDirectory (h : d.ensureDirectory path = .ok d') :
    d.Widens d' ∧ ∃ place, d'.Opens path place := by
  unfold ensureDirectory at h
  cases made : d.makeDirectory path with
  | ok d₁ =>
    rw [made] at h
    cases h
    exact of_makeDirectory made
  | error fault =>
    rw [made] at h
    dsimp only at h
    split at h
    · cases h
    · split at h
      · next directory =>
        cases h
        exact ⟨.refl d, opens_of_isDirectory directory⟩
      · cases h
      · cases h

/-! ## A directory and those around it -/

/-- `Ensured d path result`: what is there behind an attempt to make the directory at a path. -/
def Ensured (d : Disk) (path : DiskPath) : Except Failure Disk → Prop
  | .ok d' => d.Widens d' ∧ ∃ place, d'.Opens path place
  | .error e => d.Widens e.disk

theorem ensured_ensureAt (wider : d.Widens d') (path : DiskPath) :
    d.Ensured path (d'.ensureAt path) := by
  rw [ensureAt]
  cases made : d'.ensureDirectory path with
  | error fault => exact wider
  | ok d'' =>
    obtain ⟨wider', opens⟩ := of_ensureDirectory made
    exact ⟨wider.trans wider', opens⟩

/-- Directories are made from the outermost missing one inwards. -/
theorem ensured_ensureNames (d : Disk) (root : Text) (names : List Text) :
    d.Ensured ⟨root, names.reverse⟩ (d.ensureNames root names) := by
  induction names with
  | nil => exact ensured_ensureAt (.refl d) ⟨root, []⟩
  | cons name above ih =>
    have first := ensured_ensureAt (.refl d) ⟨root, (name :: above).reverse⟩
    rw [ensureNames]
    cases made : d.ensureAt ⟨root, (name :: above).reverse⟩ with
    | ok d' =>
      rw [made] at first
      exact first
    | error e =>
      rw [made] at first
      dsimp only
      split
      · cases outer : d.ensureNames root above with
        | error e' =>
          rw [outer] at ih
          exact ih
        | ok d' =>
          rw [outer] at ih
          exact ensured_ensureAt ih.1 _
      · exact first

theorem ensured_ensureDirectories (d : Disk) (path : DiskPath) :
    d.Ensured path (d.ensureDirectories path) := by
  have whole := ensured_ensureNames d path.root path.names.reverse
  rwa [List.reverse_reverse] at whole

/-! ## Empty directories -/

/-- Nothing is in an empty directory, under whatever name. -/
theorem entry?_of_not_hasEntries (h : d.hasEntries place = false) (name : Text) :
    d.entry? (place ++ [name]) = none := by
  simp only [hasEntries, Bool.or_eq_false_iff, List.any_eq_false, List.mem_append] at h
  obtain ⟨around, others⟩ := h
  have outside : (place ++ [name]).isPrefixOf d.home = false := by
    rw [Bool.eq_false_iff, ne_eq, List.isPrefixOf_iff_prefix]
    rintro ⟨rest, inside⟩
    have deeper : d.home ≠ place := by simp [← inside]
    have onWay : place.isPrefixOf d.home := by simp [← inside]
    simp [deeper, onWay] at around
  have missing : d.entries.lookup (place ++ [name]) = none := by
    rw [List.lookup_eq_none_iff]
    rintro ⟨there, e⟩ he
    have elsewhere := others there (.inl (List.mem_map_of_mem he))
    rw [bne_iff_ne]
    rintro rfl
    simp at elsewhere
  simp only [ entry?, outside, missing, Bool.false_eq_true, if_false]

/-- No name in an empty directory is that of a file elsewhere. -/
theorem placeOf_of_not_hasEntries (h : d.hasEntries place = false) (name : Text) :
    d.placeOf (place ++ [name]) = place ++ [name] := by
  simp only [hasEntries, Bool.or_eq_false_iff, List.any_eq_false, List.mem_append] at h
  have missing : d.names.lookup (place ++ [name]) = none := by
    rw [List.lookup_eq_none_iff]
    rintro ⟨other, there⟩ mem
    have elsewhere := h.2 other (.inr (List.mem_map_of_mem mem))
    rw [bne_iff_ne]
    rintro rfl
    simp at elsewhere
  rw [placeOf, missing, Option.getD_none]

/-- True of a disk that has nothing outside its directories. -/
def IsRooted (d : Disk) : Prop :=
  ∀ p ∈ d.entries.map (·.1) ++ d.names.map (·.1), p ≠ [] →
    d.entry? p.dropLast = some .directory

theorem mem_setEntry {e : Entry} {entries : List (Place × Entry)}
    (h : q ∈ (setEntry p e entries).map (·.1)) : q = p ∨ q ∈ entries.map (·.1) := by
  induction entries with
  | nil => exact .inl (List.mem_singleton.mp h)
  | cons first rest ih =>
    simp only [setEntry] at h
    split at h
    · exact (List.mem_cons.mp h).imp_right (List.mem_cons_of_mem _)
    · rcases List.mem_cons.mp h with rfl | h
      · exact .inr List.mem_cons_self
      · exact (ih h).imp_right (List.mem_cons_of_mem _)

/-- A new directory is empty. -/
theorem hasEntries_put (rooted : d.IsRooted) (missing : d.entry? place = none) (ne : place ≠ []) :
    (d.put place .directory).hasEntries place = false := by
  have outside : place.isPrefixOf d.home = false := by
    cases inside : place.isPrefixOf d.home with
    | false => rfl
    | true => simp [ entry?, inside] at missing
  have apart : ∀ p ∈ d.entries.map (·.1) ++ d.names.map (·.1), p ≠ [] → p.dropLast ≠ place := by
    intro p hp some_name inside
    have above := rooted p hp some_name
    rw [inside, missing] at above
    cases above
  simp only [hasEntries, put, outside, Bool.and_false, Bool.false_or, List.any_eq_false,
    Bool.and_eq_true, Bool.not_eq_true', List.isEmpty_eq_false_iff, decide_eq_true_eq]
  rintro p hp ⟨some_name, inside⟩
  rcases List.mem_append.mp hp with hp | hp
  · rcases mem_setEntry hp with rfl | hp
    · have shorter := congrArg List.length inside
      have pos := List.length_pos_iff.mpr ne
      simp only [List.length_dropLast] at shorter
      omega
    · exact apart p (List.mem_append_left _ hp) some_name inside
  · exact apart p (List.mem_append_right _ hp) some_name inside

end Disk

end AgentWorkflow
