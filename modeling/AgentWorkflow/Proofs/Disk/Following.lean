import AgentWorkflow.Disk.Operations
import AgentWorkflow.Proofs.Fallible
import Mathlib.Data.List.Basic

/-!
# Paths on a growing disk

A run adds directories and files to a disk and writes over files. It never touches a directory, a
link or a device that is there, and it makes no link. These are all that decides where a path leads,
so a path that can be followed goes on leading to the same place.

Results:
1. `grows_put`: what may be put where.
2. `Grows.follow`, `Grows.place_eq_ok`: paths stay as they are.
3. `place_child`: one name further.
4. `place_of_seat`: the place that is named and the place that is led to.
-/

namespace AgentWorkflow

namespace Disk

variable {d d' d'' : Disk} {p q place there : Place} {e : Entry} {links : Nat}
  {names more : List Text} {name : Text} {path : DiskPath}

/-! ## Entries -/

theorem lookup_setEntry_self (p : Place) (e : Entry) (entries : List (Place × Entry)) :
    (setEntry p e entries).lookup p = some e := by
  induction entries with
  | nil => simp [setEntry]
  | cons entry rest ih =>
    obtain ⟨p', e'⟩ := entry
    by_cases same : p' = p
    · simp [setEntry, same]
    · have other : (p == p') = false := beq_eq_false_iff_ne.mpr fun h => same h.symm
      simp [setEntry, same, List.lookup_cons, other, ih]

theorem lookup_setEntry_of_ne (h : q ≠ p) (e : Entry) (entries : List (Place × Entry)) :
    (setEntry p e entries).lookup q = entries.lookup q := by
  have apart : (q == p) = false := beq_eq_false_iff_ne.mpr h
  induction entries with
  | nil => simp [setEntry, List.lookup_cons, apart]
  | cons entry rest ih =>
    obtain ⟨p', e'⟩ := entry
    by_cases same : p' = p
    · subst same
      simp [setEntry, List.lookup_cons, apart]
    · simp [setEntry, same, List.lookup_cons, ih]

theorem entry?_put_of_ne (h : q ≠ p) : entry? (d.put p e) q = d.entry? q := by
  simp only [ entry?, put, lookup_setEntry_of_ne h]

theorem entry?_put_self (h : d.entry? p ≠ some .directory) (e : Entry) :
    entry? (d.put p e) p = some e := by
  have outside : p.isPrefixOf d.home = false := by
    cases inside : p.isPrefixOf d.home with
    | false => rfl
    | true => simp [ entry?, inside] at h
  simp [ entry?, put, outside, lookup_setEntry_self]

/-! ## Growth -/

/-- `Loose d p`: nothing is at the place, or a file. -/
def Loose (d : Disk) (p : Place) : Prop :=
  d.entry? p = none ∨ ∃ content, d.entry? p = some (.file content)

theorem Loose.ne_directory (h : d.Loose p) : d.entry? p ≠ some .directory := by
  rcases h with missing | ⟨content, file⟩
  · rw [missing]
    exact nofun
  · rw [file]
    exact nofun

/-- `Grows d d'`: the second disk has the ground of the first one and holds what is not loose there,
and where something is loose it has no link. -/
structure Grows (d d' : Disk) : Prop where
  ground : d'.toGround = d.toGround
  firm : ∀ p, ¬d.Loose p → d'.entry? p = d.entry? p
  loose : ∀ p, d.Loose p → d'.target? p = none

theorem target?_of_loose (h : d.Loose p) : d.target? p = none := by
  rcases h with missing | ⟨content, file⟩
  · rw [target?, missing]
  · rw [target?, file]

theorem Grows.refl (d : Disk) : d.Grows d := ⟨rfl, fun _ _ => rfl, fun _ => target?_of_loose⟩

theorem Grows.target? (h : d.Grows d') (p : Place) : d'.target? p = d.target? p := by
  by_cases loose : d.Loose p
  · rw [h.loose p loose, target?_of_loose loose]
  · rw [Disk.target?, Disk.target?, h.firm p loose]

theorem Grows.trans (h : d.Grows d') (h' : d'.Grows d'') : d.Grows d'' where
  ground := h'.ground.trans h.ground
  firm p firm := by
    have same := h.firm p firm
    have firm' : ¬d'.Loose p := by
      rw [Loose, same]
      exact firm
    rw [h'.firm p firm', same]
  loose p loose := by rw [h'.target? p, h.loose p loose]

/-- Where nothing is, or a file, anything but a link can be put. -/
theorem grows_put (loose : d.Loose p) (he : ∀ target, e ≠ .link target) : d.Grows (d.put p e) where
  ground := rfl
  firm q firm := entry?_put_of_ne fun same => firm (same ▸ loose)
  loose q hq := by
    by_cases same : q = p
    · subst same
      rw [target?, entry?_put_self loose.ne_directory]
      cases e with
      | link target => exact absurd rfl (he target)
      | _ => rfl
    · rw [target?, entry?_put_of_ne same]
      exact target?_of_loose hq

theorem Grows.directory (h : d.Grows d') (directory : d.entry? p = some .directory) :
    d'.entry? p = some .directory := by
  have firm : ¬d.Loose p := fun loose => loose.ne_directory directory
  rw [h.firm p firm, directory]

/-! ## Following -/

theorem permit_eq_ok {a : Access} {u : Unit} : d.permit a p = .ok u ↔ d.refusal a p = none := by
  unfold permit
  split <;> simp [*]

/-- All that one step needs, and where it goes. -/
theorem step_eq_ok : d.step place name = .ok there ↔
    d.entry? place = some .directory ∧ d.refusal .enter place = none ∧
      name.utf8.length ≤ nameLimit ∧ d.next place name = there := by
  unfold step
  split
  · next directory =>
    simp only [Except.bind_eq_ok, permit_eq_ok, exists_and_left, exists_const, directory, true_and]
    split
    · next long => simp [Nat.not_le.mpr long]
    · next short => simp [Nat.not_lt.mp short, pure, Except.pure]
  · next other => simp_all
  · next missing => simp [missing]

theorem Grows.step (h : d.Grows d') (stepped : d.step place name = .ok there) :
    d'.step place name = .ok there := by
  obtain ⟨directory, free, short, rfl⟩ := step_eq_ok.mp stepped
  have same : d'.next place name = d.next place name := by
    rw [next, next, placeOf, placeOf, h.ground]
  exact step_eq_ok.mpr ⟨h.directory directory, by rw [h.ground, free], short, same⟩

/-- One step of a walk. -/
theorem walk_cons {s : Stretch} : d.walk place (name :: names) = .ok s ↔
    ∃ there, d.step place name = .ok there ∧
      ((∃ target, d.target? there = some target ∧ .link place there target names = s) ∨
        d.target? there = none ∧ d.walk there names = .ok s) := by
  rw [walk, Except.bind_eq_ok]
  refine exists_congr fun there => and_congr_right fun _ => ?_
  cases d.target? there <;> simp [pure, Except.pure]

theorem Grows.walk (h : d.Grows d') {s : Stretch} (walked : d.walk place names = .ok s) :
    d'.walk place names = .ok s := by
  induction names generalizing place with
  | nil => exact walked
  | cons name names ih =>
    obtain ⟨there, stepped, goes⟩ := walk_cons.mp walked
    refine walk_cons.mpr ⟨there, h.step stepped, ?_⟩
    rw [h.target?]
    exact goes.imp_right fun ⟨free, rest⟩ => ⟨free, ih rest⟩

/-- One unfolding of `follow`, as an iff: a path is walked to its end, or up to a link from
which the way goes on with one link fewer to spare. -/
theorem follow_eq_ok : d.follow links place names = .ok there ↔
    d.walk place names = .ok (.place there) ∨
    ∃ directory link target rest n, d.walk place names = .ok (.link directory link target rest) ∧
      links = n + 1 ∧ d.refusal .enter link = none ∧
      d.follow n (start directory target) (target.names ++ rest) = .ok there := by
  constructor
  · intro followed
    cases links with
    | zero =>
      obtain ⟨_ | ⟨_, _, _, _⟩, walked, goes⟩ := Except.bind_eq_ok.mp followed
      · cases goes
        exact .inl walked
      · cases goes
    | succ n =>
      obtain ⟨_ | ⟨directory, link, target, rest⟩, walked, goes⟩ := Except.bind_eq_ok.mp followed
      · cases goes
        exact .inl walked
      · obtain ⟨⟨⟩, free, goes⟩ := Except.bind_eq_ok.mp goes
        exact .inr ⟨directory, link, target, rest, n, walked, rfl, permit_eq_ok.mp free, goes⟩
  · rintro (walked | ⟨directory, link, target, rest, n, walked, rfl, free, goes⟩)
    · cases links <;> exact Except.bind_eq_ok.mpr ⟨_, walked, rfl⟩
    · exact Except.bind_eq_ok.mpr
        ⟨_, walked, Except.bind_eq_ok.mpr ⟨(), permit_eq_ok.mpr free, goes⟩⟩

/-- A path that can be followed passes directories and links only, which stay. -/
theorem Grows.follow (h : d.Grows d') (followed : d.follow links place names = .ok there) :
    d'.follow links place names = .ok there := by
  induction links generalizing place names with
  | zero =>
    rcases follow_eq_ok.mp followed with walked | ⟨_, _, _, _, n, -, zero, -⟩
    · exact follow_eq_ok.mpr (.inl (h.walk walked))
    · cases zero
  | succ links ih =>
    rcases follow_eq_ok.mp followed with
      walked | ⟨directory, link, target, rest, n, walked, same, free, goes⟩
    · exact follow_eq_ok.mpr (.inl (h.walk walked))
    · cases same
      exact follow_eq_ok.mpr (.inr ⟨directory, link, target, rest, links, h.walk walked, rfl,
        by rw [h.ground, free], ih goes⟩)

theorem place_eq_ok : d.place path = .ok p ↔
    path.text.utf8.length < pathLimit ∧
      d.follow linkLimit (start d.home path) path.names = .ok p := by
  unfold Disk.place
  split
  · next long => exact ⟨fun h => (by cases h), fun h => absurd h.1 (Nat.not_lt.mpr long)⟩
  · next short => exact ⟨fun h => ⟨Nat.lt_of_not_le short, h⟩, fun h => h.2⟩

theorem Grows.place_eq_ok (h : d.Grows d') (found : d.place path = .ok p) :
    d'.place path = .ok p := by
  obtain ⟨short, followed⟩ := Disk.place_eq_ok.mp found
  refine Disk.place_eq_ok.mpr ⟨short, ?_⟩
  rw [h.ground]
  exact h.follow followed

/-! ## No path leads to a link -/

theorem target?_of_directory (directory : d.entry? p = some .directory) : d.target? p = none := by
  rw [target?, directory]

theorem entry?_start (directory : d.entry? place = some .directory) (path : DiskPath) :
    d.entry? (start place path) = some .directory := by
  unfold start
  split
  · exact directory
  · simp [ entry?]

theorem entry?_home (d : Disk) : d.entry? d.home = some .directory := by simp [ entry?]

theorem target?_of_walk (free : d.target? place = none)
    (walked : d.walk place names = .ok (.place there)) : d.target? there = none := by
  induction names generalizing place with
  | nil =>
    cases walked
    exact free
  | cons name names ih =>
    obtain ⟨next, stepped, ⟨_, _, ⟨⟩⟩ | ⟨free, rest⟩⟩ := walk_cons.mp walked
    exact ih free rest

theorem entry?_of_walk_link {directory link : Place} {target : DiskPath} {rest : List Text}
    (walked : d.walk place names = .ok (.link directory link target rest)) :
    d.entry? directory = some .directory := by
  induction names generalizing place with
  | nil => cases walked
  | cons name names ih =>
    obtain ⟨there, stepped, ⟨_, _, ⟨⟩⟩ | ⟨free, rest⟩⟩ := walk_cons.mp walked
    · exact (step_eq_ok.mp stepped).1
    · exact ih rest

/-- Following a path from a place that is no link never ends at a link. -/
theorem target?_of_follow (free : d.target? place = none)
    (followed : d.follow links place names = .ok there) : d.target? there = none := by
  induction links generalizing place names with
  | zero =>
    rcases follow_eq_ok.mp followed with walked | ⟨_, _, _, _, n, -, zero, -⟩
    · exact target?_of_walk free walked
    · cases zero
  | succ links ih =>
    rcases follow_eq_ok.mp followed with walked | ⟨_, _, target, _, n, walked, same, -, goes⟩
    · exact target?_of_walk free walked
    · cases same
      exact ih (target?_of_directory (entry?_start (entry?_of_walk_link walked) target)) goes

/-- A link at the end of a path is followed too. -/
theorem target?_of_place (found : d.place path = .ok p) : d.target? p = none :=
  target?_of_follow (target?_of_directory (entry?_start (entry?_home d) path))
    (place_eq_ok.mp found).2

/-! ## One name further -/

theorem walk_append (walked : d.walk place names = .ok (.place p)) :
    d.walk place (names ++ more) = d.walk p more := by
  induction names generalizing place with
  | nil =>
    cases walked
    rfl
  | cons name names ih =>
    obtain ⟨there, stepped, ⟨_, _, ⟨⟩⟩ | ⟨free, rest⟩⟩ := walk_cons.mp walked
    rw [List.cons_append, walk, stepped, ← ih rest]
    simp only [bind, Except.bind, free]

/-- A link that stops a walk stops it with more names behind it, which are left over. -/
theorem walk_append_of_link {directory link : Place} {target : DiskPath} {rest : List Text}
    (walked : d.walk place names = .ok (.link directory link target rest)) :
    d.walk place (names ++ more) = .ok (.link directory link target (rest ++ more)) := by
  induction names generalizing place with
  | nil => cases walked
  | cons name names ih =>
    obtain ⟨there, stepped, goes⟩ := walk_cons.mp walked
    refine walk_cons.mpr ⟨there, stepped, ?_⟩
    rcases goes with ⟨_, found, ⟨⟩⟩ | ⟨free, rest⟩
    · exact .inl ⟨target, found, rfl⟩
    · exact .inr ⟨free, ih rest⟩

theorem step_of_walk_append (walked : d.walk place names = .ok (.place p))
    (further : d.follow links place (names ++ [name]) = .ok there) :
    ∃ next, d.step p name = .ok next ∧ (d.target? next = none → there = next) := by
  have goes : d.walk place (names ++ [name]) = d.walk p [name] := walk_append walked
  rcases follow_eq_ok.mp further with last | ⟨_, _, target, _, _, last, -⟩
  · obtain ⟨next, stepped, ⟨_, _, ⟨⟩⟩ | ⟨-, ⟨⟩⟩⟩ := walk_cons.mp (goes.symm.trans last)
    exact ⟨_, stepped, fun _ => rfl⟩
  · obtain ⟨next, stepped, ⟨target, found, ⟨⟩⟩ | ⟨-, ⟨⟩⟩⟩ := walk_cons.mp (goes.symm.trans last)
    exact ⟨_, stepped, fun free => by cases found.symm.trans free⟩

/-- A path one name longer leads one step further, unless a link stands there. -/
theorem follow_concat (followed : d.follow links place names = .ok p)
    (stepped : d.step p name = .ok there) (free : d.target? there = none) :
    d.follow links place (names ++ [name]) = .ok there := by
  have last : d.walk p [name] = .ok (.place there) := walk_cons.mpr ⟨there, stepped, .inr ⟨free, rfl⟩⟩
  induction links generalizing place names with
  | zero =>
    rcases follow_eq_ok.mp followed with walked | ⟨_, _, _, _, n, -, zero, -⟩
    · exact follow_eq_ok.mpr (.inl (walk_append walked ▸ last))
    · cases zero
  | succ links ih =>
    rcases follow_eq_ok.mp followed with
      walked | ⟨directory, link, target, rest, n, walked, same, pass, goes⟩
    · exact follow_eq_ok.mpr (.inl (walk_append walked ▸ last))
    · cases same
      have goes := ih goes
      rw [List.append_assoc] at goes
      exact follow_eq_ok.mpr
        (.inr ⟨directory, link, target, _, links, walk_append_of_link walked, rfl, pass, goes⟩)

/-- A path that can be followed by one name more goes on from where it leads. -/
theorem step_of_follow_concat (followed : d.follow links place names = .ok p)
    (further : d.follow links place (names ++ [name]) = .ok there) :
    ∃ next, d.step p name = .ok next ∧ (d.target? next = none → there = next) := by
  induction links generalizing place names with
  | zero =>
    rcases follow_eq_ok.mp followed with walked | ⟨_, _, _, _, n, -, zero, -⟩
    · exact step_of_walk_append walked further
    · cases zero
  | succ links ih =>
    rcases follow_eq_ok.mp followed with walked | ⟨_, _, target, rest, n, walked, same, -, goes⟩
    · exact step_of_walk_append walked further
    · cases same
      have longer : d.walk place (names ++ [name]) = .ok (.link _ _ target (rest ++ [name])) :=
        walk_append_of_link walked
      rcases follow_eq_ok.mp further with other | ⟨_, _, _, _, n, other, same, -, goes'⟩
      · cases longer.symm.trans other
      · cases longer.symm.trans other
        cases same
        rw [← List.append_assoc] at goes'
        exact ih goes goes'

/-- `Opens d path place`: the path leads to the place, and a directory is there. -/
structure Opens (d : Disk) (path : DiskPath) (place : Place) : Prop where
  found : d.place path = .ok place
  directory : d.entry? place = some .directory

theorem Grows.opens (h : d.Grows d') (opens : d.Opens path place) : d'.Opens path place :=
  ⟨h.place_eq_ok opens.found, h.directory opens.directory⟩

/-- Where no link is, the place that a path names is the one that it leads to. -/
theorem place_of_seat (named : d.seat path = .ok p) (free : d.target? p = none) :
    d.place path = .ok p := by
  unfold seat at named
  split at named
  · cases named
  · next short =>
    refine place_eq_ok.mpr ⟨Nat.lt_of_not_le short, ?_⟩
    split at named
    · next none =>
      cases named
      rw [List.getLast?_eq_none_iff.mp none]
      exact follow_eq_ok.mpr (.inl rfl)
    · next name last =>
      obtain ⟨above, followed, stepped⟩ := Except.bind_eq_ok.mp named
      rw [← List.dropLast_append_getLast? name last]
      exact follow_concat followed stepped free

/-- The place one name further. -/
theorem seat_child (opens : d.Opens path place) (stepped : d.step place name = .ok there)
    (room : (path.child name).text.utf8.length < pathLimit) :
    d.seat (path.child name) = .ok there := by
  have last : (path.child name).names.getLast? = some name := by simp [DiskPath.child]
  have above : (path.child name).names.dropLast = path.names := by simp [DiskPath.child]
  unfold seat
  rw [if_neg (Nat.not_le.mpr room), last]
  simp only [above]
  exact Except.bind_eq_ok.mpr ⟨place, (place_eq_ok.mp opens.found).2, stepped⟩

theorem place_child (opens : d.Opens path place) (stepped : d.step place name = .ok there)
    (free : d.target? there = none) (room : (path.child name).text.utf8.length < pathLimit) :
    d.place (path.child name) = .ok there :=
  place_of_seat (seat_child opens stepped room) free

/-- True of a name that is neither dots nor too long. -/
structure Plain (name : Text) : Prop where
  noDot : name ≠ "."
  noDots : name ≠ ".."
  short : name.utf8.length ≤ nameLimit

/-- A name in a directory at which no other path is given. -/
theorem step_plain (directory : d.entry? place = some .directory)
    (entered : d.refusal .enter place = none) (plain : Plain name)
    (own : d.placeOf (place ++ [name]) = place ++ [name]) :
    d.step place name = .ok (place ++ [name]) := by
  have next : d.next place name = place ++ [name] := by
    simp only [Disk.next, plain.noDot, plain.noDots, if_false, own]
  exact step_eq_ok.mpr ⟨directory, entered, plain.short, next⟩

/-- `Own d place name`: in the directory at the place, the name is no further name of a file, and no
link is there. -/
structure Own (d : Disk) (place : Place) (name : Text) : Prop where
  first : d.placeOf (place ++ [name]) = place ++ [name]
  free : d.target? (place ++ [name]) = none

/-- A name of its own leads to the place in the directory. -/
theorem place_eq_of_own (opens : d.Opens path place) (led : d.place (path.child name) = .ok p)
    (plain : Plain name) (own : d.Own place name) : p = place ++ [name] := by
  obtain ⟨next, stepped, same⟩ :=
    step_of_follow_concat (place_eq_ok.mp opens.found).2 (place_eq_ok.mp led).2
  obtain ⟨-, -, -, rfl⟩ := step_eq_ok.mp stepped
  simp only [Disk.next, plain.noDot, plain.noDots, if_false, own.first] at same
  exact same own.free

end Disk

end AgentWorkflow
