import AgentWorkflow.Proofs.Disk.Directories

/-!
# Writing a file

A file is opened, which empties it or makes it, and its content is written. The path may lead over
links, and a device keeps nothing. Opening can be refused, and so can the content from some byte on;
the file then holds the bytes before. Nothing else on the disk changes.

Results:
1. `writeFile_eq_ok`, `writeFile_eq_error`: what is on the disk behind an attempt.
2. `exists_writeFile_error_iff`: when it fails.
3. `Accepts.writeFile`, `Accepts.pour`: where nothing is refused, a file can be written, and writing
   other files makes no difference to that.
-/

namespace AgentWorkflow

namespace Disk

variable {d d' : Disk} {path : DiskPath} {p q : Place} {content : List UInt8}

/-! ## What is written -/

/-- `Shows d p content`: a file with the content is at the place, or a device. -/
def Shows (d : Disk) (p : Place) (content : List UInt8) : Prop :=
  d.entry? p = some (.file content) ∨ ∃ reads, d.entry? p = some (.device reads)

/-- True of a place where a file can be opened for writing. -/
def Writable (d : Disk) (p : Place) : Prop := d.Loose p ∨ ∃ reads, d.entry? p = some (.device reads)

theorem openFile_eq_ok : d.openFile path = .ok p ↔ d.place path = .ok p ∧ d.allow p = .ok () := by
  constructor
  · intro h
    obtain ⟨place, led, h⟩ := Except.bind_eq_ok.mp h
    obtain ⟨⟨⟩, allowed, ⟨⟩⟩ := Except.bind_eq_ok.mp h
    exact ⟨led, allowed⟩
  · rintro ⟨led, allowed⟩
    exact Except.bind_eq_ok.mpr ⟨p, led, Except.bind_eq_ok.mpr ⟨(), allowed, rfl⟩⟩

theorem writable_of_allow (allowed : d.allow p = .ok ()) : d.Writable p := by
  unfold allow at allowed
  unfold Writable Loose
  cases entry : d.entry? p with
  | none => exact .inl (.inl rfl)
  | some e =>
    rw [entry] at allowed
    cases e with
    | file content => exact .inl (.inr ⟨content, rfl⟩)
    | device reads => exact .inr ⟨reads, rfl⟩
    | directory | link => cases allowed

theorem pour_of_loose (loose : d.Loose p) (content : List UInt8) :
    d.pour p content = d.put p (.file content) := by
  rcases loose with missing | ⟨_, file⟩
  · rw [pour, missing]
  · rw [pour, file]

theorem pour_of_device {reads : List UInt8} (device : d.entry? p = some (.device reads))
    (content : List UInt8) : d.pour p content = d := by
  rw [pour, device]

theorem grows_pour (h : d.Writable p) (content : List UInt8) : d.Grows (d.pour p content) := by
  rcases h with loose | ⟨reads, device⟩
  · rw [pour_of_loose loose]
    exact grows_put loose nofun
  · rw [pour_of_device device]
    exact .refl d

theorem shows_pour (h : d.Writable p) (content : List UInt8) :
    (d.pour p content).Shows p content := by
  rcases h with loose | ⟨reads, device⟩
  · rw [pour_of_loose loose]
    exact .inl (entry?_put_self loose.ne_directory _)
  · rw [pour_of_device device]
    exact .inr ⟨reads, device⟩

theorem entry?_pour_of_ne (h : q ≠ p) (content : List UInt8) :
    Disk.entry? (d.pour p content) q = d.entry? q := by
  unfold pour
  split
  · rfl
  · exact entry?_put_of_ne h

/-- A file that is written is where its path leads. -/
theorem writeFile_eq_ok (h : d.writeFile path content = .ok d') :
    ∃ p, d.place path = .ok p ∧ d.Writable p ∧ d' = d.pour p content := by
  unfold writeFile at h
  split at h
  · cases h
  · next p opened =>
    split at h
    · cases h
    · cases h
      obtain ⟨led, allowed⟩ := openFile_eq_ok.mp opened
      exact ⟨p, led, writable_of_allow allowed, rfl⟩

/-- A failure leaves the disk as it is, or the file with the first bytes of its content. -/
theorem writeFile_eq_error {e : Failure} (h : d.writeFile path content = .error e) :
    e.disk = d ∨ ∃ p kept, d.place path = .ok p ∧ d.Writable p ∧
      e.disk = d.pour p (content.take kept) := by
  unfold writeFile at h
  split at h
  · cases h
    exact .inl rfl
  · next p opened =>
    split at h
    · next kept fault short =>
      cases h
      obtain ⟨led, allowed⟩ := openFile_eq_ok.mp opened
      exact .inr ⟨p, kept, led, writable_of_allow allowed, rfl⟩
    · cases h

/-! ## What is refused -/

/-- `Refuses d path content`: the disk refuses a file with the content at the path. -/
inductive Refuses (d : Disk) (path : DiskPath) (content : List UInt8) : Prop
  /-- The path leads nowhere: something is missing, is no directory or may not be passed on the way,
  or the path, one of its names or the chain of links is too long. -/
  | astray (fault : DiskFault) (lost : d.place path = .error fault)
  /-- The path leads to a directory. -/
  | directory (p : Place) (found : d.Opens path p)
  /-- A file may not be made there. -/
  | unmade (p : Place) (fault : DiskFault) (found : d.place path = .ok p)
    (missing : d.entry? p = none) (refused : d.refusal .make p = some fault)
  /-- What is there may not be written. -/
  | unopened (p : Place) (fault : DiskFault) (found : d.place path = .ok p)
    (there : d.entry? p ≠ none) (refused : d.refusal .write p = some fault)
  /-- There is no room for the content. -/
  | full (p : Place) (kept : Nat) (fault : DiskFault) (found : d.place path = .ok p)
    (short : d.shortage (d.pour p []).entries p content.length = some (kept, fault))

theorem permit_eq_error {a : Access} {fault : DiskFault} :
    d.permit a p = .error fault ↔ d.refusal a p = some fault := by
  unfold permit
  split <;> simp [*]

theorem Refuses.of_allow {fault : DiskFault} (found : d.place path = .ok p)
    (refused : d.allow p = .error fault) : d.Refuses path content := by
  unfold allow at refused
  split at refused
  · next missing => exact .unmade p fault found missing (permit_eq_error.mp refused)
  · next there => exact .unopened p fault found (by simp [there]) (permit_eq_error.mp refused)
  · next there => exact .unopened p fault found (by simp [there]) (permit_eq_error.mp refused)
  · next directory => exact .directory p ⟨found, directory⟩
  · next target link =>
    have free := target?_of_place found
    rw [target?, link] at free
    cases free

theorem exists_allow_error_of_refusal {fault : DiskFault} (there : d.entry? p ≠ none)
    (refused : d.refusal .write p = some fault) : ∃ fault', d.allow p = .error fault' := by
  have unwritten := permit_eq_error.mpr refused
  unfold allow
  split
  · next missing => exact absurd missing there
  · exact ⟨fault, unwritten⟩
  · exact ⟨fault, unwritten⟩
  · exact ⟨.isDirectory, rfl⟩
  · exact ⟨.isDirectory, rfl⟩

theorem exists_writeFile_error_of_openFile {fault : DiskFault}
    (refused : d.openFile path = .error fault) : ∃ e, d.writeFile path content = .error e :=
  ⟨⟨⟨fault, some path.text⟩, d⟩, by rw [writeFile, refused]⟩

theorem exists_writeFile_error_of_allow {fault : DiskFault} (found : d.place path = .ok p)
    (refused : d.allow p = .error fault) : ∃ e, d.writeFile path content = .error e := by
  have unopened : d.openFile path = .error fault := by
    simp only [openFile, found, refused, bind, Except.bind]
  exact exists_writeFile_error_of_openFile unopened

/-- A file cannot be written exactly if the disk refuses it. -/
theorem exists_writeFile_error_iff :
    (∃ e, d.writeFile path content = .error e) ↔ d.Refuses path content := by
  constructor
  case mp =>
    rintro ⟨e, failed⟩
    cases found : d.place path with
    | error fault => exact .astray fault found
    | ok p =>
      cases allowed : d.allow p with
      | error fault => exact .of_allow found allowed
      | ok =>
        have opened := openFile_eq_ok.mpr ⟨found, allowed⟩
        rw [writeFile, opened] at failed
        dsimp only at failed
        split at failed
        · next kept fault short => exact .full p kept fault found short
        · cases failed
  case mpr =>
    intro refuses
    cases refuses with
    | astray fault lost =>
      have unopened : d.openFile path = .error fault := by
        simp only [openFile, lost, bind, Except.bind]
      exact exists_writeFile_error_of_openFile unopened
    | directory p opens =>
      have refused : d.allow p = .error .isDirectory := by simp only [allow, opens.directory]
      exact exists_writeFile_error_of_allow opens.found refused
    | unmade p fault found missing refused =>
      have refused : d.allow p = .error fault := by
        rw [allow, missing]
        exact permit_eq_error.mpr refused
      exact exists_writeFile_error_of_allow found refused
    | unopened p fault found there refused =>
      obtain ⟨fault', refused⟩ := exists_allow_error_of_refusal there refused
      exact exists_writeFile_error_of_allow found refused
    | full p kept fault found short =>
      cases allowed : d.allow p with
      | error fault => exact exists_writeFile_error_of_allow found allowed
      | ok =>
        have opened := openFile_eq_ok.mpr ⟨found, allowed⟩
        exact ⟨_, by rw [writeFile, opened]; dsimp only; rw [short]⟩

/-! ## Where nothing is refused -/

/-- `Accepts d path p`: the path leads to a place where a file of any length can be written. -/
structure Accepts (d : Disk) (path : DiskPath) (p : Place) : Prop where
  led : d.place path = .ok p
  writable : d.Writable p
  made : d.refusal .make p = none
  written : d.refusal .write p = none
  filled : ∀ entries length, d.shortage entries p length = none

theorem allow_of_writable (writable : d.Writable p) (made : d.refusal .make p = none)
    (written : d.refusal .write p = none) : d.allow p = .ok () := by
  unfold allow
  rcases writable with (missing | ⟨content, file⟩) | ⟨reads, device⟩
  · rw [missing]
    exact permit_eq_ok.mpr made
  · rw [file]
    exact permit_eq_ok.mpr written
  · rw [device]
    exact permit_eq_ok.mpr written

theorem Accepts.writeFile (h : d.Accepts path p) (content : List UInt8) :
    d.writeFile path content = .ok (d.pour p content) := by
  have opened := openFile_eq_ok.mpr ⟨h.led, allow_of_writable h.writable h.made h.written⟩
  rw [Disk.writeFile, opened]
  dsimp only
  rw [h.filled]

theorem Writable.pour (h : d.Writable p) (h' : d.Writable q) (content : List UInt8) :
    (d.pour q content).Writable p := by
  by_cases same : p = q
  · subst same
    exact (shows_pour h content).imp_left fun file => .inr ⟨content, file⟩
  · rw [Writable, Loose, entry?_pour_of_ne same]
    exact h

theorem Accepts.pour (h : d.Accepts path p) (h' : d.Writable q) (content : List UInt8) :
    (d.pour q content).Accepts path p := by
  have grows := grows_pour h' content
  refine ⟨grows.place_eq_ok h.led, h.writable.pour h' content, ?_, ?_, ?_⟩
  · rw [grows.ground, h.made]
  · rw [grows.ground, h.written]
  · rw [grows.ground]
    exact h.filled

end Disk

end AgentWorkflow
