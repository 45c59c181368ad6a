import AgentWorkflow.Proofs.Source.Reading
import AgentWorkflow.Source.Token
import AgentWorkflow.Text.Table
import Mathlib.Data.List.DropRight

/-!
# Views of an expression

A run of leaves is an expression or a part of one. Each view takes one kind of expression apart: a
name, a text, a call, a list, a dictionary, or a value that is bound to a name. A view gives nothing
for a run of any other kind, and nothing for a call with the same keyword twice.

Results:
1. `items_rows`, `items_inline`: what stands between commas, one line each or all on one line.
2. `text?_promptLeaves`: neighbouring literals in parentheses are one text.
3. `name?_points`, `call?_points`, `binding?_points`, `keywords?_map`: the views of what stands
   behind a name.
4. `Expresses`: which expression a text is, from the expressions in it.
-/

namespace AgentWorkflow

namespace Source

/-! ## Runs -/

namespace Leaf

/-- True of what does not count at either end of a run. -/
def isBlank : Leaf → Bool
  | .point c => c = ' '
  | .lineEnd => true
  | _ => false

def isSign (c : CodePoint) : Leaf → Bool
  | .point d => d = c
  | _ => false

def isLineEnd : Leaf → Bool
  | .lineEnd => true
  | _ => false

def isText : Leaf → Bool
  | .text _ => true
  | _ => false

def content : Leaf → Text
  | .text t => t
  | _ => []

end Leaf

/-- The run without the blanks at either end. -/
def trimRun (run : List Leaf) : List Leaf := (run.dropWhile (·.isBlank)).rdropWhile (·.isBlank)

/-- The points at the start of a run that satisfy `p`, and the rest. -/
def takePoints (p : CodePoint → Bool) : List Leaf → Text × List Leaf
  | .point c :: rest =>
    if p c then (c :: (takePoints p rest).1, (takePoints p rest).2) else ([], .point c :: rest)
  | run => ([], run)

def isNamePoint (c : CodePoint) : Bool := c.isWordPoint || c = '.'

/-- The runs between commas. A comma at the end separates nothing. -/
def items (run : List Leaf) : List (List Leaf) :=
  let parts := (run.splitOnP (·.isSign ',')).map trimRun
  if parts.getLast?.any (·.isEmpty) then parts.dropLast else parts

/-! ## Views -/

/-- The text of neighbouring literals. -/
def literals? (run : List Leaf) : Option Text :=
  if run.all (fun l => l.isBlank || l.isText) && run.any (·.isText) then
    some (run.flatMap (·.content))
  else none

/-- The text of neighbouring literals, with or without parentheses. -/
def text? : List Leaf → Option Text
  | [.group c inner] => if c = '(' then literals? inner else none
  | run => literals? run

def name? (run : List Leaf) : Option Text :=
  match takePoints isNamePoint run with
  | (name, []) => if name.isEmpty then none else some name
  | _ => none

def call? (run : List Leaf) : Option (Text × List (List Leaf)) :=
  match takePoints isNamePoint run with
  | (name, [.group c inner]) => if c = '(' && !name.isEmpty then some (name, items inner) else none
  | _ => none

def list? : List Leaf → Option (List (List Leaf))
  | [.group c inner] => if c = '[' then some (items inner) else none
  | _ => none

/-- The two sides of an entry of a dictionary. -/
def sides? (run : List Leaf) : Option (List Leaf × List Leaf) :=
  match run.dropWhile (!·.isSign ':') with
  | [] => none
  | _ :: value => some (trimRun (run.takeWhile (!·.isSign ':')), trimRun value)

def entries? : List Leaf → Option (List (List Leaf × List Leaf))
  | [.group c inner] => if c = '\x7b' then (items inner).mapM sides? else none
  | _ => none

/-- The name and the value of an assignment or of a keyword argument. -/
def binding? (run : List Leaf) : Option (Text × List Leaf) :=
  let (name, rest) := takePoints CodePoint.isWordPoint run
  match rest.dropWhile (·.isBlank) with
  | .point c :: value =>
    if c = '=' && !name.isEmpty && !value.head?.any (·.isSign '=') then some (name, trimRun value)
    else none
  | _ => none

/-- The keyword arguments of a call that has no others, each keyword once. -/
def keywords? (arguments : List (List Leaf)) : Option (Table (List Leaf)) := do
  let table ← arguments.mapM binding?
  if (table.map (·.1)).Nodup then some table else none

/-! ## Items -/

/-- The run does not begin with a blank. -/
def Starts (run : List Leaf) : Prop := ∃ l rest, run = l :: rest ∧ l.isBlank = false

/-- The run does not end with a blank. -/
def Ends (run : List Leaf) : Prop := ∃ front l, run = front ++ [l] ∧ l.isBlank = false

/-- A run that is one item between commas. -/
structure Item (run : List Leaf) : Prop where
  starts : Starts run
  ends : Ends run
  apart : ∀ l ∈ run, l.isSign ',' = false

/-- Nothing but blanks. -/
def Blank (run : List Leaf) : Prop := ∀ l ∈ run, l.isBlank = true

theorem blank_nil : Blank [] := fun _ h => nomatch h

theorem blank_blankLeaves (level : Nat) : Blank (blankLeaves level) := by
  intro l hl
  obtain ⟨c, hc, rfl⟩ := List.mem_map.mp hl
  rw [List.eq_of_mem_replicate hc]
  decide

theorem Blank.cons {l : Leaf} {run : List Leaf} (hl : l.isBlank = true) (h : Blank run) :
    Blank (l :: run) := List.forall_mem_cons.mpr ⟨hl, h⟩

theorem Blank.append {run run' : List Leaf} (h : Blank run) (h' : Blank run') :
    Blank (run ++ run') := List.forall_mem_append.mpr ⟨h, h'⟩

theorem Leaf.isSign_comma_of_isBlank {l : Leaf} (h : l.isBlank) : l.isSign ',' = false := by
  cases l with
  | point c =>
    have hc : c = ' ' := of_decide_eq_true h
    subst hc
    decide
  | _ => rfl

section Item

variable {run run' pre post rest : List Leaf}

theorem item_text (t : Text) : Item [.text t] := by
  refine ⟨⟨_, [], rfl, rfl⟩, ⟨[], _, rfl, rfl⟩, ?_⟩
  intro l hl
  cases List.mem_singleton.mp hl
  rfl

theorem item_group (c : CodePoint) (inner : List Leaf) : Item [.group c inner] := by
  refine ⟨⟨_, [], rfl, rfl⟩, ⟨[], _, rfl, rfl⟩, ?_⟩
  intro l hl
  cases List.mem_singleton.mp hl
  rfl

theorem Starts.append (h : Starts run) (run' : List Leaf) : Starts (run ++ run') := by
  obtain ⟨l, rest, rfl, hl⟩ := h
  exact ⟨l, rest ++ run', rfl, hl⟩

theorem Ends.append (h : Ends run') (run : List Leaf) : Ends (run ++ run') := by
  obtain ⟨front, l, rfl, hl⟩ := h
  exact ⟨run ++ front, l, (List.append_assoc _ _ _).symm, hl⟩

theorem Item.append (h : Item run) (h' : Item run') : Item (run ++ run') where
  starts := h.starts.append run'
  ends := h'.ends.append run
  apart k hk := (List.mem_append.mp hk).elim (h.apart k) (h'.apart k)

/-- True of a point that can stand in an item wherever it likes. -/
def isItemPoint (c : CodePoint) : Bool := !(c = ' ' || c = ',')

theorem item_points {t : Text} (ht : t ≠ []) (h : ∀ c ∈ t, isItemPoint c) :
    Item (t.map .point) := by
  have blank : ∀ c ∈ t, (Leaf.point c).isBlank = false := fun c hc => by
    have := h c hc
    simp only [isItemPoint, Bool.not_eq_true', Bool.or_eq_false_iff] at this
    exact this.1
  refine ⟨?_, ?_, ?_⟩
  · cases t with
    | nil => exact absurd rfl ht
    | cons c t => exact ⟨.point c, t.map .point, rfl, blank c List.mem_cons_self⟩
  · refine ⟨t.dropLast.map .point, .point (t.getLast ht), ?_, blank _ (List.getLast_mem ht)⟩
    conv_lhs => rw [← List.dropLast_append_getLast ht]
    rw [List.map_append]
    rfl
  · intro l hl
    obtain ⟨c, hc, rfl⟩ := List.mem_map.mp hl
    have := h c hc
    simp only [isItemPoint, Bool.not_eq_true', Bool.or_eq_false_iff] at this
    exact this.2

theorem trimRun_eq (hs : Starts run) (he : Ends run) (hpre : Blank pre) (hpost : Blank post) :
    trimRun (pre ++ (run ++ post)) = run := by
  obtain ⟨l, rest, hrun, hl⟩ := hs
  have front : (pre ++ (run ++ post)).dropWhile (·.isBlank) = run ++ post := by
    rw [List.dropWhile_append_of_pos hpre, hrun, List.cons_append, List.dropWhile_cons_of_neg]
    simp [hl]
  obtain ⟨before, l', hrun', hl'⟩ := he
  have back : (run ++ post).rdropWhile (·.isBlank) = run := by
    rw [List.rdropWhile, List.reverse_append, List.dropWhile_append_of_pos
      (fun k hk => hpost k (List.mem_reverse.mp hk)), hrun', List.reverse_append,
      List.reverse_singleton, List.singleton_append, List.dropWhile_cons_of_neg]
    · simp
    · simp [hl']
  rw [trimRun, front, back]

theorem trimRun_append (hs : Starts run) (he : Ends run) (hpre : Blank pre) :
    trimRun (pre ++ run) = run := by
  simpa using trimRun_eq hs he hpre blank_nil

theorem trimRun_of_blank (h : Blank run) : trimRun run = [] := by
  have front : run.dropWhile (·.isBlank) = [] := List.dropWhile_eq_nil_iff.mpr h
  rw [trimRun, front]
  rfl

/-- The first item of a list: up to its comma, without the blanks around it. -/
theorem items_cons (h : Item run) (hpre : Blank pre) :
    items (pre ++ (run ++ .point ',' :: rest)) = run :: items rest := by
  have apart : ∀ l ∈ pre ++ run, l.isSign ',' = false := fun l hl =>
    (List.mem_append.mp hl).elim (fun hl => Leaf.isSign_comma_of_isBlank (hpre l hl)) (h.apart l)
  have first : trimRun (pre ++ run) = run := trimRun_append h.starts h.ends hpre
  have split : (pre ++ (run ++ .point ',' :: rest)).splitOnP (·.isSign ',')
      = (pre ++ run) :: rest.splitOnP (·.isSign ',') := by
    rw [← List.append_assoc]
    exact List.splitOnP_append_cons_of_forall_mem apart _ rfl rest
  obtain ⟨part, parts, hparts⟩ := List.exists_cons_of_ne_nil
    (@List.splitOnP_ne_nil _ (·.isSign ',') rest)
  simp only [items, split, hparts, List.map_cons, first, List.getLast?_cons_cons,
    List.dropLast_cons_cons]
  split <;> rfl

theorem items_of_blank (h : Blank run) : items run = [] := by
  have split : run.splitOnP (·.isSign ',') = [run] :=
    List.splitOnP_eq_singleton fun l hl => Leaf.isSign_comma_of_isBlank (h l hl)
  simp only [items, split, List.map_cons, List.map_nil, trimRun_of_blank h]
  rfl

theorem items_singleton (h : Item run) (hpre : Blank pre) : items (pre ++ run) = [run] := by
  have apart : ∀ l ∈ pre ++ run, l.isSign ',' = false := fun l hl =>
    (List.mem_append.mp hl).elim (fun hl => Leaf.isSign_comma_of_isBlank (hpre l hl)) (h.apart l)
  have first : trimRun (pre ++ run) = run := trimRun_append h.starts h.ends hpre
  have nonempty : run.isEmpty = false := by
    obtain ⟨l, rest, rfl, -⟩ := h.starts
    rfl
  simp [items, List.splitOnP_eq_singleton apart, first, nonempty]

end Item

/-- Items on lines of their own. -/
def rows (level : Nat) (runs : List (List Leaf)) : List Leaf :=
  runs.flatMap fun run => blankLeaves level ++ (run ++ [.point ',', .lineEnd])

/-- Items on lines of their own are read back, with the comma behind the last one. -/
theorem items_rows (level : Nat) {runs : List (List Leaf)} (h : ∀ run ∈ runs, Item run)
    {pre post : List Leaf} (hpre : Blank pre) (hpost : Blank post) :
    items (pre ++ (rows level runs ++ post)) = runs := by
  induction runs generalizing pre with
  | nil => exact items_of_blank (hpre.append hpost)
  | cons run runs ih =>
    have shape : pre ++ (rows level (run :: runs) ++ post)
        = (pre ++ blankLeaves level)
          ++ (run ++ .point ',' :: ([.lineEnd] ++ (rows level runs ++ post))) := by
      simp [rows]
    rw [shape, items_cons (h run List.mem_cons_self) (hpre.append (blank_blankLeaves level)),
      ih (fun r hr => h r (List.mem_cons_of_mem run hr)) (blank_nil.cons rfl)]

/-- Items on one line. -/
def inline (runs : List (List Leaf)) : List Leaf := [.point ',', .point ' '].intercalate runs

theorem items_inline {runs : List (List Leaf)} (h : ∀ run ∈ runs, Item run) :
    items (inline runs) = runs := by
  have step : ∀ {pre : List Leaf}, Blank pre → items (pre ++ inline runs) = runs := by
    induction runs with
    | nil => exact fun hpre => items_of_blank (hpre.append blank_nil)
    | cons run runs ih =>
      intro pre hpre
      have first := h run List.mem_cons_self
      cases runs with
      | nil => simpa [inline] using items_singleton first hpre
      | cons next more =>
        have shape : pre ++ inline (run :: next :: more)
            = pre ++ (run ++ .point ',' :: ([.point ' '] ++ inline (next :: more))) := by
          simp [inline, List.intercalate]
        rw [shape, items_cons first hpre,
          ih (fun r hr => h r (List.mem_cons_of_mem run hr)) (blank_nil.cons rfl)]
  exact step blank_nil

/-! ## Texts -/

theorem text?_text (t : Text) : text? [.text t] = some t := by
  simp [text?, literals?, Leaf.isText, Leaf.content]

section Lines

variable {outer inner : List Leaf} (ho : Blank outer) (hi : Blank inner)

include ho hi

theorem isBlank_or_isText_of_mem_lines (cs : List Text) :
    ∀ l ∈ .lineEnd :: (cs.flatMap fun c => inner ++ [.text c, .lineEnd]) ++ outer,
      l.isBlank ∨ l.isText := by
  simp only [List.cons_append, List.mem_cons, List.mem_append, List.mem_flatMap]
  rintro l (rfl | ⟨c, -, hl | rfl | rfl | hl⟩ | hl)
  · exact .inl rfl
  · exact .inl (hi l hl)
  · exact .inr rfl
  · exact .inl rfl
  · exact absurd hl List.not_mem_nil
  · exact .inl (ho l hl)

/-- Literals that cut a text behind its line feeds are the text, whatever the margins are. -/
theorem literals?_lines {t : Text} (ht : t ≠ []) :
    literals? (.lineEnd :: ((chunks t).flatMap fun c => inner ++ [.text c, .lineEnd]) ++ outer)
      = some t := by
  obtain ⟨c, cs, hcs⟩ := List.exists_cons_of_ne_nil (chunks_ne_nil ht)
  have silent : ∀ {run}, Blank run → run.flatMap Leaf.content = [] := by
    refine fun h => List.flatMap_eq_nil_iff.mpr fun l hl => ?_
    cases l with
    | text t => exact nomatch h _ hl
    | _ => rfl
  have lines : ∀ cs : List Text,
      (cs.flatMap fun c => inner ++ [.text c, .lineEnd]).flatMap Leaf.content = cs.flatten := by
    intro cs
    induction cs with
    | nil => rfl
    | cons c cs ih =>
      rw [List.flatMap_cons, List.flatMap_append, List.flatMap_append, ih, silent hi]
      simp [Leaf.content]
  rw [literals?, if_pos]
  · rw [List.flatMap_append, List.flatMap_cons, lines, silent ho, flatten_chunks]
    simp [Leaf.content]
  · refine Bool.and_eq_true_iff.mpr ⟨?_, ?_⟩
    · refine List.all_eq_true.mpr fun l hl => Bool.or_eq_true_iff.mpr ?_
      exact isBlank_or_isText_of_mem_lines ho hi (chunks t) l hl
    · simp [hcs, Leaf.isText]

end Lines

/-- Around the literals of a text of several lines there are but blanks. -/
theorem isBlank_or_isText_of_mem_literalLeaves {level : Nat} {cs : List Text} :
    ∀ l ∈ literalLeaves level cs, l.isBlank ∨ l.isText :=
  isBlank_or_isText_of_mem_lines (blank_blankLeaves _) (blank_blankLeaves _) cs

theorem text?_promptLeaves (level : Nat) (t : Text) : text? (promptLeaves level t) = some t := by
  unfold promptLeaves
  split
  · next several =>
    have given : t ≠ [] := by
      rintro rfl
      cases several
    exact literals?_lines (blank_blankLeaves _) (blank_blankLeaves _) given
  · exact text?_text t

/-! ## Names, calls and bindings -/

/-- The run does not go on with a point that satisfies `p`. -/
def Stops (p : CodePoint → Bool) (run : List Leaf) : Prop :=
  ∀ c rest, run = .point c :: rest → p c = false

/-- Points of a kind are taken off the front up to a leaf that is none. -/
theorem takePoints_append {p : CodePoint → Bool} {t : Text} (h : ∀ c ∈ t, p c) {rest : List Leaf}
    (stops : Stops p rest) : takePoints p (t.map .point ++ rest) = (t, rest) := by
  induction t with
  | nil =>
    cases rest with
    | nil => rfl
    | cons l rest =>
      cases l with
      | point c =>
        have other : ¬p c := by simp [stops c rest rfl]
        simp only [List.map_nil, List.nil_append, takePoints, if_neg other]
      | _ => rfl
  | cons c t ih =>
    have taken := ih fun d hd => h d (List.mem_cons_of_mem c hd)
    simp only [List.map_cons, List.cons_append, takePoints, if_pos (h c List.mem_cons_self), taken]

theorem stops_nil (p : CodePoint → Bool) : Stops p [] := fun _ _ h => nomatch h

theorem stops_point {p : CodePoint → Bool} {c : CodePoint} {rest : List Leaf} (h : p c = false) :
    Stops p (.point c :: rest) := by
  rintro d rest' ⟨⟩
  exact h

theorem stops_group (p : CodePoint → Bool) (c : CodePoint) (inner rest : List Leaf) :
    Stops p (.group c inner :: rest) := fun _ _ h => nomatch h

section Names

variable {name : Text} (ne : name ≠ []) (h : ∀ c ∈ name, isNamePoint c)

include ne h

theorem name?_points : name? (name.map .point) = some name := by
  have taken := takePoints_append h (stops_nil isNamePoint)
  rw [List.append_nil] at taken
  simp [name?, taken, ne]

theorem call?_points (inner : List Leaf) :
    call? (name.map .point ++ [.group '(' inner]) = some (name, items inner) := by
  have taken := takePoints_append h (stops_group isNamePoint '(' inner [])
  simp [call?, taken, ne]

end Names

/-- A name, an equals sign and a value, with or without blanks around the sign. -/
theorem binding?_points {name : Text} (ne : name ≠ []) (h : ∀ c ∈ name, c.isWordPoint)
    {pre value : List Leaf} (hpre : Blank pre) (hv : Item value)
    (apart : value.head?.any (·.isSign '=') = false) :
    binding? (name.map .point ++ (pre ++ .point '=' :: (pre ++ value))) = some (name, value) := by
  have stops : Stops CodePoint.isWordPoint (pre ++ .point '=' :: (pre ++ value)) := by
    cases pre with
    | nil => exact stops_point (by decide)
    | cons l pre =>
      rintro c rest hl
      obtain ⟨rfl, -⟩ := List.cons.inj hl
      have blank : c = ' ' := of_decide_eq_true (hpre _ List.mem_cons_self)
      subst blank
      decide
  have sign : (pre ++ .point '=' :: (pre ++ value)).dropWhile (·.isBlank)
      = .point '=' :: (pre ++ value) := by
    rw [List.dropWhile_append_of_pos hpre, List.dropWhile_cons_of_neg]
    decide
  have single : (pre ++ value).head?.any (·.isSign '=') = false := by
    cases pre with
    | nil => exact apart
    | cons l pre =>
      have blank := hpre l List.mem_cons_self
      cases l with
      | point c =>
        have hc : c = ' ' := of_decide_eq_true blank
        subst hc
        rfl
      | _ => rfl
  have trimmed : trimRun (pre ++ value) = value :=
    trimRun_append hv.starts hv.ends hpre
  simp only [binding?, takePoints_append h stops, sign, single, trimmed]
  simp [ne]

/-- The value that stands under a key of a dictionary. -/
theorem sides?_text (t : Text) {value : List Leaf} (hv : Item value) :
    sides? (.text t :: .point ':' :: .point ' ' :: value) = some ([.text t], value) := by
  have key : trimRun [.text t] = [.text t] := by
    simpa using trimRun_append (item_text t).starts (item_text t).ends blank_nil
  have trimmed : trimRun (.point ' ' :: value) = value :=
    trimRun_append hv.starts hv.ends (blank_nil.cons rfl)
  have front : (Leaf.text t :: .point ':' :: .point ' ' :: value).takeWhile (!·.isSign ':')
      = [.text t] := rfl
  have back : (Leaf.text t :: .point ':' :: .point ' ' :: value).dropWhile (!·.isSign ':')
      = .point ':' :: .point ' ' :: value := rfl
  simp only [sides?, front, back, key, trimmed]

theorem mapM_map {α β γ : Type} {f : β → Option γ} {g : α → β} {k : α → γ} {xs : List α}
    (h : ∀ x ∈ xs, f (g x) = some (k x)) : (xs.map g).mapM f = some (xs.map k) := by
  induction xs with
  | nil => rfl
  | cons x xs ih =>
    simp [h x List.mem_cons_self, ih fun y hy => h y (List.mem_cons_of_mem x hy)]

/-! ## Keywords -/

def keywordRun (entry : Text × List Leaf) : List Leaf :=
  entry.1.map .point ++ .point '=' :: entry.2

/-- A value that can stand behind an equals sign, and between commas. -/
structure Value (run : List Leaf) : Prop extends Item run where
  level : ∀ l ∈ run, l.isLineEnd = false
  unlike : run.head?.any (·.isSign '=') = false

theorem isItemPoint_of_isNamePoint {c : CodePoint} (h : isNamePoint c) : isItemPoint c := by
  have apart : ∀ d : CodePoint, isNamePoint d = false → c ≠ d := by
    rintro d hd rfl
    simp [hd] at h
  simp [isItemPoint, apart ' ' (by decide), apart ',' (by decide)]

theorem isNamePoint_of_isWordPoint {c : CodePoint} (h : c.isWordPoint) : isNamePoint c := by
  simp [isNamePoint, h]

def isKeyName (name : Text) : Bool := !name.isEmpty && name.all CodePoint.isWordPoint

theorem isKeyName_iff {name : Text} : isKeyName name ↔ name ≠ [] ∧ ∀ c ∈ name, c.isWordPoint := by
  simp [isKeyName]

theorem item_keywordRun {name : Text} {value : List Leaf} (hn : isKeyName name) (hv : Item value) :
    Item (keywordRun (name, value)) := by
  obtain ⟨ne, word⟩ := isKeyName_iff.mp hn
  have sign : Item [.point '='] := item_points (t := ['=']) (by simp) (by decide)
  have front : Item (name.map .point) := item_points ne fun c hc =>
    isItemPoint_of_isNamePoint (isNamePoint_of_isWordPoint (word c hc))
  simpa [keywordRun] using front.append (sign.append hv)

theorem keywords?_map {entries : Table (List Leaf)} (names : ∀ entry ∈ entries, isKeyName entry.1)
    (values : ∀ entry ∈ entries, Value entry.2) (distinct : (entries.map (·.1)).Nodup) :
    keywords? (entries.map keywordRun) = some entries := by
  have each : (entries.map keywordRun).mapM binding? = some (entries.map id) :=
    mapM_map fun entry he => by
      obtain ⟨ne, word⟩ := isKeyName_iff.mp (names entry he)
      exact binding?_points ne word blank_nil (values entry he).toItem (values entry he).unlike
  rw [List.map_id] at each
  simp [keywords?, each, distinct]

/-! ## Texts of expressions -/

/-- `Expresses t run`: the text is an expression, and the run is what a reader makes of it. -/
structure Expresses (t : Text) (run : List Leaf) : Prop extends Value run where
  awaits : Awaits t run

/-- True of a point that can stand anywhere in a name or a number. -/
def isPlainPoint (c : CodePoint) : Bool := isBare c && isItemPoint c && c ≠ '='

theorem isPlainPoint_of_isNamePoint {c : CodePoint} (h : isNamePoint c) : isPlainPoint c := by
  have apart : ∀ d : CodePoint, isNamePoint d = false → c ≠ d := by
    rintro d hd rfl
    simp [hd] at h
  have printable : ¬c.val < 0x20 := by
    simp only [isNamePoint, CodePoint.isWordPoint, CodePoint.isAlnum, CodePoint.isLetter,
      CodePoint.isLower, CodePoint.isUpper, CodePoint.isDigit, Bool.or_eq_true, Bool.and_eq_true,
      decide_eq_true_eq] at h
    rcases h with ((((h | h) | h) | rfl) | h) | rfl
    · omega
    · omega
    · omega
    · decide
    · omega
    · decide
  simp [isPlainPoint, isBare, isItemPoint, closing?, isClosing, printable, apart '"' (by decide),
    apart '#' (by decide), apart '\\' (by decide), apart '\'' (by decide), apart '(' (by decide),
    apart '[' (by decide), apart '\x7b' (by decide), apart ')' (by decide), apart ']' (by decide),
    apart '\x7d' (by decide), apart ' ' (by decide), apart ',' (by decide), apart '=' (by decide)]

theorem isBare_of_isWordPoint {c : CodePoint} (h : c.isWordPoint) : isBare c := by
  have plain := isPlainPoint_of_isNamePoint (isNamePoint_of_isWordPoint h)
  simp only [isPlainPoint, Bool.and_eq_true] at plain
  exact plain.1.1

section Expresses

variable {t inner : Text} {run leaves : List Leaf}

theorem level_points (t : Text) : ∀ l ∈ t.map Leaf.point, l.isLineEnd = false := by
  intro l hl
  obtain ⟨c, -, rfl⟩ := List.mem_map.mp hl
  rfl

theorem level_singleton {l : Leaf} (h : l.isLineEnd = false) : ∀ k ∈ [l], k.isLineEnd = false := by
  intro k hk
  cases List.mem_singleton.mp hk
  exact h

theorem expresses_literal (t : Text) : Expresses (literal t) [.text t] where
  toItem := item_text t
  level := level_singleton rfl
  unlike := rfl
  awaits := awaits_literal t

theorem expresses_multilineLiteral (level : Nat) (t : Text) :
    Expresses (multilineLiteral (indent level) t) (promptLeaves level t) where
  toItem := by
    unfold promptLeaves
    split
    · exact item_group _ _
    · exact item_text t
  level := by
    unfold promptLeaves
    split
    · exact level_singleton rfl
    · exact level_singleton rfl
  unlike := by
    unfold promptLeaves
    split <;> rfl
  awaits := awaits_multilineLiteral level t

theorem expresses_points (ne : t ≠ []) (h : ∀ c ∈ t, isPlainPoint c) :
    Expresses t (t.map .point) := by
  have parts : ∀ c ∈ t, (isBare c ∧ isItemPoint c) ∧ c ≠ '=' := by
    simpa only [isPlainPoint, Bool.and_eq_true, decide_eq_true_eq] using h
  refine ⟨⟨item_points ne fun c hc => (parts c hc).1.2, level_points t, ?_⟩,
    (reads_points fun c hc => (parts c hc).1.1).awaits⟩
  cases t with
  | nil => exact absurd rfl ne
  | cons c t => simpa [Leaf.isSign] using (parts c List.mem_cons_self).2

theorem expresses_list (h : Awaits inner leaves) :
    Expresses ("[" ++ inner ++ "]") [.group '[' leaves] where
  toItem := item_group _ _
  level := level_singleton rfl
  unlike := rfl
  awaits := (reads_brackets h).awaits

theorem expresses_dictionary (h : Awaits inner leaves) :
    Expresses ("\x7b" ++ inner ++ "\x7d") [.group '\x7b' leaves] where
  toItem := item_group _ _
  level := level_singleton rfl
  unlike := rfl
  awaits := (reads_braces h).awaits

/-- A call of the function with the given name. -/
theorem expresses_call {f : Text} (ne : f ≠ []) (h : ∀ c ∈ f, isNamePoint c)
    (hi : Awaits inner leaves) :
    Expresses (f ++ ("(" ++ inner ++ ")")) (f.map .point ++ [.group '(' leaves]) := by
  have name := expresses_points ne fun c hc => isPlainPoint_of_isNamePoint (h c hc)
  have reads := reads_points fun c hc => (show isBare c from by
    have := isPlainPoint_of_isNamePoint (h c hc)
    simp only [isPlainPoint, Bool.and_eq_true] at this
    exact this.1.1)
  refine ⟨⟨name.toItem.append (item_group _ _),
    List.forall_mem_append.mpr ⟨level_points f, level_singleton rfl⟩, ?_⟩,
    (reads.append (reads_parentheses hi)).awaits⟩
  cases f with
  | nil => exact absurd rfl ne
  | cons c f => exact name.unlike

end Expresses

/-! ## Several expressions -/

section Several

variable {entries : List (Text × List Leaf)}

theorem reads_rows (level : Nat) (h : ∀ e ∈ entries, Awaits e.1 e.2) :
    Reads (Text.unlines (entries.map fun e => line level (e.1 ++ ",")))
      (rows level (entries.map (·.2))) := by
  induction entries with
  | nil => exact reads_nil
  | cons e entries ih =>
    have comma : Reads ("," ++ "\n") [.point ',', .lineEnd] :=
      (reads_point (by decide)).append reads_newline
    have head := (reads_indent level).append ((h e List.mem_cons_self).append comma rfl)
    have tail := ih fun k hk => h k (List.mem_cons_of_mem e hk)
    simpa [rows, Text.unlines, line] using head.append tail

theorem awaits_inline (h : ∀ e ∈ entries, Awaits e.1 e.2) :
    Awaits (Text.join ", " (entries.map (·.1))) (inline (entries.map (·.2))) := by
  induction entries with
  | nil => exact reads_nil.awaits
  | cons e entries ih =>
    have first := h e List.mem_cons_self
    have rest := ih fun k hk => h k (List.mem_cons_of_mem e hk)
    cases entries with
    | nil => simpa [Text.join, inline, List.intercalate] using first
    | cons next more =>
      have comma : Reads ", " [.point ',', .point ' '] := reads_points (by decide)
      have joined := (first.append comma rfl).append_awaits rest
      simpa [Text.join, inline, List.intercalate] using joined

/-- The leaves of items on lines of their own, between brackets. -/
def blockLeaves (level : Nat) (runs : List (List Leaf)) : List Leaf :=
  .lineEnd :: (rows (level + 1) runs ++ blankLeaves level)

theorem reads_block (level : Nat) (h : ∀ e ∈ entries, Awaits e.1 e.2) :
    Reads ("\n" ++ (Text.unlines (entries.map fun e => line (level + 1) (e.1 ++ ","))
      ++ indent level)) (blockLeaves level (entries.map (·.2))) :=
  reads_newline.append ((reads_rows (level + 1) h).append (reads_indent level))

theorem items_blockLeaves (level : Nat) {runs : List (List Leaf)} (h : ∀ run ∈ runs, Item run) :
    items (blockLeaves level runs) = runs :=
  items_rows (level + 1) h (blank_nil.cons rfl) (blank_blankLeaves level)

end Several

/-! ## Lists of names -/

/-- A list of names, each on a line of its own. -/
def namesText (level : Nat) (names : List Text) : Text :=
  ("[" : Text) ++ (("\n" : Text)
    ++ (Text.unlines (names.map fun name => line (level + 1) (name ++ ",")) ++ indent level)) ++ "]"

def namesRun (level : Nat) (names : List Text) : List Leaf :=
  [.group '[' (blockLeaves level (names.map (·.map .point)))]

section NameList

variable {names : List Text} (h : ∀ name ∈ names, name ≠ [] ∧ ∀ c ∈ name, isNamePoint c)

include h

theorem expresses_name : ∀ name ∈ names, Expresses name (name.map .point) := fun name hn =>
  expresses_points (h name hn).1 fun c hc => isPlainPoint_of_isNamePoint ((h name hn).2 c hc)

theorem expresses_namesText (level : Nat) :
    Expresses (namesText level names) (namesRun level names) := by
  have entries : ∀ e ∈ names.map fun name => (name, name.map Leaf.point), Awaits e.1 e.2 := by
    intro e he
    obtain ⟨name, hn, rfl⟩ := List.mem_map.mp he
    exact (expresses_name h name hn).awaits
  refine expresses_list ?_
  simpa [List.map_map, Function.comp_def] using (reads_block level entries).awaits

theorem list?_namesRun (level : Nat) :
    list? (namesRun level names) = some (names.map (·.map .point)) := by
  have runs : items (blockLeaves level (names.map (·.map Leaf.point)))
      = names.map (·.map Leaf.point) := by
    refine items_blockLeaves level fun run hrun => ?_
    obtain ⟨name, hn, rfl⟩ := List.mem_map.mp hrun
    exact (expresses_name h name hn).toItem
  simp only [namesRun, list?, if_true, runs]

theorem mapM_name?_points : (names.map (·.map Leaf.point)).mapM name? = some names := by
  simpa using mapM_map (k := id) fun name hn => name?_points (h name hn).1 (h name hn).2

end NameList

/-! ## Keyword arguments -/

/-- A keyword argument: its name, the expression for its value, and the leaves of that. -/
structure Argument where
  name : Text
  text : Text
  run : List Leaf

namespace Argument

def source (a : Argument) : Text := a.name ++ ("=" ++ a.text)

def entry (a : Argument) : Text × List Leaf := (a.name, a.run)

/-- The name is one, and the leaves are those of the expression. -/
structure Sound (a : Argument) : Prop where
  name : isKeyName a.name
  value : Expresses a.text a.run

theorem Sound.awaits {a : Argument} (h : a.Sound) : Awaits a.source (keywordRun a.entry) := by
  obtain ⟨-, word⟩ := isKeyName_iff.mp h.name
  have plain : ∀ c ∈ a.name, isBare c := fun c hc => isBare_of_isWordPoint (word c hc)
  have sign : Reads "=" [.point '='] := reads_point (by decide)
  exact (reads_points plain).append_awaits (sign.append_awaits h.value.awaits)

theorem Sound.item {a : Argument} (h : a.Sound) : Item (keywordRun a.entry) :=
  item_keywordRun h.name h.value.toItem

end Argument

def argumentTable (arguments : List Argument) : Table (List Leaf) := arguments.map Argument.entry

def argumentRuns (arguments : List Argument) : List (List Leaf) :=
  (argumentTable arguments).map keywordRun

section Arguments

variable {arguments : List Argument} (h : ∀ a ∈ arguments, a.Sound)

include h

theorem awaits_of_sound : ∀ e ∈ arguments.map fun a => (a.source, keywordRun a.entry),
    Awaits e.1 e.2 := by
  intro e he
  obtain ⟨a, ha, rfl⟩ := List.mem_map.mp he
  exact (h a ha).awaits

/-- Arguments on lines of their own. -/
theorem reads_arguments (level : Nat) :
    Reads ("\n" ++ (Text.unlines (arguments.map fun a => line (level + 1) (a.source ++ ","))
      ++ indent level)) (blockLeaves level (argumentRuns arguments)) := by
  simpa [argumentRuns, argumentTable, List.map_map, Function.comp_def]
    using reads_block level (awaits_of_sound h)

/-- Arguments on one line. -/
theorem awaits_arguments : Awaits (Text.join ", " (arguments.map Argument.source))
    (inline (argumentRuns arguments)) := by
  simpa [argumentRuns, argumentTable, List.map_map, Function.comp_def]
    using awaits_inline (awaits_of_sound h)

theorem item_of_mem_argumentRuns : ∀ run ∈ argumentRuns arguments, Item run := by
  intro run hrun
  obtain ⟨_, he, rfl⟩ := List.mem_map.mp hrun
  obtain ⟨a, ha, rfl⟩ := List.mem_map.mp he
  exact (h a ha).item

theorem keywords?_argumentRuns (distinct : (arguments.map Argument.name).Nodup) :
    keywords? (argumentRuns arguments) = some (argumentTable arguments) := by
  refine keywords?_map (fun e he => ?_) (fun e he => ?_) ?_
  · obtain ⟨a, ha, rfl⟩ := List.mem_map.mp he
    exact (h a ha).name
  · obtain ⟨a, ha, rfl⟩ := List.mem_map.mp he
    exact (h a ha).value.toValue
  · rw [argumentTable, List.map_map]
    exact distinct

end Arguments

end Source

end AgentWorkflow
