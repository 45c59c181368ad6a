import AgentWorkflow.Proofs.Project.Acceptance
import AgentWorkflow.Proofs.Project.MainModule
import AgentWorkflow.Proofs.Project.ToolsModule

/-!
# Free text stays inside its literals

The modules of a generated program hold the free text of a workflow at a dozen places. Whatever the
text is, a scanner closes every literal, ends in code with every bracket closed, and finds the same
elements as in the modules of any workflow that differs in wording alone. The text may hold quotes,
backslashes, line ends of every kind and zeros.

Results:
1. `generate_modules_contained`: both modules of every workflow, against every rewording of it.
-/

namespace AgentWorkflow

namespace Project

open Source

/-! ## Closed texts -/

/-- True of a scanner that has met the end of a line inside a literal, or a joint that joins
nothing, or that reads no program with a zero in it. It reads no further. -/
def isBroken : Mode → Bool
  | .brokenLiteral _ | .brokenJoint | .brokenText => true
  | _ => false

theorem foldl_read_of_isBroken {a : Scanner} (h : isBroken a.mode) (t : Text) :
    t.foldl Scanner.read a = a := by
  induction t with
  | nil => rfl
  | cons c t ih =>
    have stuck : a.read c = a := by
      unfold Scanner.read
      cases hm : a.mode <;> simp_all [isBroken]
    rw [List.foldl_cons, stuck, ih]

/-- A text is closed when a scanner breaks at none of its points and ends in code, and the brackets
outside literals are balanced. -/
structure Closed (t : Text) : Prop where
  unbroken : ∀ before, before <+: t → isBroken (scan before).mode = false
  mode : (scan t).mode = .code
  brackets : openBrackets (scan t).pieces.reverse = .ok []

/-- A text with a twin is closed, if no carriage return or zero stands in it: both end in code,
outside of every bracket. -/
theorem closed_of_twins {t u : Text} (h : Twins t u [] []) (clean : t.isClean) : Closed t := by
  obtain ⟨mode, brackets⟩ := h.closed clean
  refine ⟨?_, mode, brackets⟩
  rintro before ⟨rest, rfl⟩
  obtain ⟨front, -⟩ := Bool.and_eq_true_iff.mp (Text.isClean_append before rest ▸ clean)
  -- a scanner that breaks stays broken, and this one ends in code
  by_contra broken
  rw [Bool.not_eq_false, scan_of_isClean front] at broken
  rw [scan_of_isClean clean, Scanner.ofLines_append, foldl_read_of_isBroken broken] at mode
  rw [mode] at broken
  cases broken

/-! ## The modules -/

/-- The files with the modules of the generated program. -/
def moduleNames : List Text := [mainName, toolsName]

theorem get?_files_eq_of_reworded {v w : Workflow} (r : v.Reworded w) (h : Hierarchy)
    (options options' : GenerateOptions) {name : Text} (hn : name ∈ moduleNames) :
    ∃ t u, Table.get? (files options v h) name = some t ∧
      Table.get? (files options' w h) name = some u ∧ Twins t u [] [] ∧ t.isClean ∧ u.isClean := by
  rcases List.mem_cons.mp hn with rfl | hn
  · exact ⟨_, _, get?_mainName options v h, get?_mainName options' w h, twins_mainModule r h,
      (parses_mainModule v h).clean, (parses_mainModule w h).clean⟩
  · rw [List.mem_singleton.mp hn]
    exact ⟨_, _, get?_toolsName options v h, get?_toolsName options' w h,
      twins_toolsModule r.agents, (parses_toolsModule v.agents).clean,
      (parses_toolsModule w.agents).clean⟩

/-- Each module of a workflow is closed, and a workflow that differs in wording alone has the same
files, with modules that are closed and hold the same elements. -/
theorem generate_modules_contained {options : GenerateOptions} {v : Workflow} {fs : Table Text}
    (h : v.generate options = .ok fs) :
    ∀ name ∈ moduleNames, ∃ t, Table.get? fs name = some t ∧ Closed t ∧
      ∀ (options' : GenerateOptions) (w : Workflow), v.Reworded w →
        ∃ fs' u, w.generate options' = .ok fs' ∧ Table.get? fs' name = some u ∧ Closed u ∧
          SameElements (elements t) (elements u) := by
  obtain ⟨g, hg, rfl⟩ := generate_eq_ok h
  intro name hn
  obtain ⟨t, _, ht, -, own, clean, -⟩ := get?_files_eq_of_reworded (.refl v) g options options hn
  refine ⟨t, ht, closed_of_twins own clean, fun options' w r => ?_⟩
  have hw : w.generate options' = .ok (files options' w g) := by
    rw [Workflow.generate, ← r.hierarchy_eq, hg]
    rfl
  obtain ⟨t', u, ht', hu, twins, -, clean'⟩ := get?_files_eq_of_reworded r g options options' hn
  obtain ⟨u', _, hu', -, other, -⟩ := get?_files_eq_of_reworded (.refl w) g options' options' hn
  obtain rfl : t' = t := Option.some.inj (ht'.symm.trans ht)
  obtain rfl : u' = u := Option.some.inj (hu'.symm.trans hu)
  exact ⟨_, u', hw, hu', closed_of_twins other clean',
    twins.sameElements clean clean'⟩

/-- A workflow whose texts end literals, open comments and break lines wherever they can. -/
def unruly : Workflow where
  agents :=
    [{ id := "a", name := "Agent", systemPrompt := "\"\n\"\"\"\r\n# \\",
       welcomeMessage := "\")\r(\x00", inputPlaceholder := "\\", model := "gpt-4o\"",
       tools := [{ id := "t", name := "look up", description := "\"\"\"\r\\\x00" }] }]

/-- The same workflow with nothing said. -/
def silent : Workflow where
  agents :=
    [{ id := "a", name := "agent", model := "gpt-4o", tools := [{ id := "t", name := "look up" }] }]

theorem unruly_reworded_silent : unruly.Reworded silent where
  agents := .cons ⟨rfl, by decide, .cons ⟨rfl, rfl, .nil⟩ .nil, rfl, by decide, rfl⟩ .nil
  deployment := rfl
  kind := rfl

/-- The hypothesis holds of texts that would end a literal or a line if they were not escaped. -/
theorem unruly_modules_contained :
    ∃ fs fs', unruly.generate {} = .ok fs ∧ silent.generate {} = .ok fs' ∧
      ∀ name ∈ moduleNames, ∃ t u, Table.get? fs name = some t ∧ Table.get? fs' name = some u ∧
        Closed t ∧ Closed u ∧ SameElements (elements t) (elements u) := by
  have generated : unruly.generate {}
      = .ok (files {} unruly (Hierarchy.flat .sequential unruly.agents)) := rfl
  refine ⟨_, files {} silent (Hierarchy.flat .sequential silent.agents), generated, rfl, ?_⟩
  intro name hn
  obtain ⟨t, ht, closed, same⟩ := generate_modules_contained generated name hn
  obtain ⟨fs', u, hfs, hu, closed', elements⟩ := same {} silent unruly_reworded_silent
  obtain rfl : fs' = _ := Except.ok.inj (hfs.symm.trans rfl)
  exact ⟨t, u, ht, hu, closed, closed', elements⟩

end Project

end AgentWorkflow
