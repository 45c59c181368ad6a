import AgentWorkflow.Project.DeploymentFiles
import AgentWorkflow.Proofs.Source.Expressions
import AgentWorkflow.Proofs.Text.Scalars

/-!
# What a build says

The description of a build is made of rows: text that is the same for every deployment, and scalars
between it. A setting can hold quotes, colons, number signs and line ends of all kinds, but it is
only met inside a scalar, so it changes what that scalar says and nothing else.

Results:
1. `buildSpec_eq`: the description is a comment and its rows.
2. `lines?_buildSpec`: what is read of its lines.
3. `outlines_buildLines`, `scalars_buildLines`: what stands around the scalars, and what they say.
4. `itemsBehind_arguments`, `itemsBehind_images`: the two lists that are written one item to a line.
-/

namespace AgentWorkflow

namespace Project

open Yaml (Leaf Row gapped)

/-! ## Rows -/

/-- The comment in the first line. -/
def buildTitle : Text := "# cloudbuild.yaml"

def dockerImage : Text := "gcr.io/cloud-builders/docker"

/-- The image that has the tools of the cloud in it. -/
def cloudImage : Text := "gcr.io/google.com/cloudsdktool/cloud-sdk"

def plainRow (line : Text) : Row := ⟨line, []⟩

/-- A line that ends in a scalar. -/
def lastRow (front value : Text) : Row := ⟨front, [(value, "")]⟩

/-- The rows in front of the arguments of the step that deploys the image. -/
def openingRows (image : Text) : List Row :=
  [plainRow "steps:",
   lastRow "- name: " dockerImage,
   ⟨"  args: [", [("build", ", "), ("-t", ", "), (image, ", "), (".", "]")]⟩,
   lastRow "- name: " dockerImage,
   ⟨"  args: [", [("push", ", "), (image, "]")]⟩,
   lastRow "- name: " cloudImage,
   plainRow "  entrypoint: gcloud"]

def closingRows : List Row := [plainRow "options:", plainRow "  logging: CLOUD_LOGGING_ONLY"]

/-- The rows of a build with the given image and the given arguments of the step that deploys it. -/
def buildRows (image : Text) (arguments : List Text) : List Row :=
  openingRows image ++ plainRow "  args:" :: arguments.map (lastRow "    - ")
    ++ plainRow "images:" :: lastRow "- " image :: closingRows

theorem buildSpec_eq (d : Deployment) :
    buildSpec d = Text.unlines
      (buildTitle :: (buildRows d.image (deployArguments d)).map Row.text) := by
  have docker : ("- name: 'gcr.io/cloud-builders/docker'" : Text)
      = "- name: " ++ dockerImage.yamlScalar := by decide +kernel
  have cloud : ("- name: 'gcr.io/google.com/cloudsdktool/cloud-sdk'" : Text)
      = "- name: " ++ cloudImage.yamlScalar := by decide +kernel
  have build : ("  args: ['build', '-t', " : Text)
      = "  args: [" ++ (Text.yamlScalar "build" ++ (", " ++ (Text.yamlScalar "-t" ++ ", "))) := by
    decide +kernel
  have empty : ("" : Text) = [] := rfl
  have here : (", '.']" : Text) = ", " ++ (Text.yamlScalar "." ++ "]") := by decide +kernel
  have push : ("  args: ['push', " : Text)
      = "  args: [" ++ (Text.yamlScalar "push" ++ ", ") := by decide +kernel
  simp [buildSpec, buildTitle, buildRows, openingRows, closingRows, plainRow, lastRow, Row.text,
    docker, cloud, build, here, push, empty, Function.comp_def]

theorem isSound_of_mem_buildRows {image : Text} {arguments : List Text} {r : Row}
    (h : r ∈ buildRows image arguments) : r.isSound := by
  simp only [buildRows, openingRows, closingRows, List.mem_append, List.mem_map, List.mem_cons,
    List.not_mem_nil, or_false] at h
  rcases h with ((rfl | rfl | rfl | rfl | rfl | rfl | rfl) | rfl | ⟨argument, -, rfl⟩)
    | (rfl | rfl | rfl | rfl)
  all_goals rfl

/-- The lines of a build as they are read; nothing stands behind the last line end. -/
def buildLines (image : Text) (arguments : List Text) : List (List Leaf) :=
  buildTitle.map .point :: (buildRows image arguments).map Row.leaves ++ [[]]

theorem lines?_buildSpec (d : Deployment) :
    Yaml.lines? (buildSpec d) = some (buildLines d.image (deployArguments d)) := by
  have sound : ∀ r ∈ buildRows d.image (deployArguments d), r.isSound :=
    fun r hr => isSound_of_mem_buildRows hr
  have title : Yaml.line? buildTitle = some (buildTitle.map .point) := by decide +kernel
  rw [buildSpec_eq]
  refine Yaml.lines?_unlines (List.forall_mem_cons.mpr ⟨by decide +kernel, ?_⟩) ?_
  · exact List.forall_mem_map.mpr fun r hr => Row.isFlat_text (sound r hr)
  · rw [List.mapM_cons, title, Source.mapM_map fun r hr => Row.line?_text (sound r hr)]
    rfl

/-! ## What the lines say -/

/-- What stands around the scalars in front of the arguments of the step that deploys the image. -/
def openingFrame : List (List Text) :=
  [[buildTitle],
   ["steps:"],
   ["- name: ", ""],
   ["  args: [", ", ", ", ", ", ", "]"],
   ["- name: ", ""],
   ["  args: [", ", ", "]"],
   ["- name: ", ""],
   ["  entrypoint: gcloud"]]

/-- What stands around the scalars behind the list of images. -/
def closingFrame : List (List Text) := [["options:"], ["  logging: CLOUD_LOGGING_ONLY"], [""]]

/-- What stands around the scalars of a build, line by line. -/
def buildFrame (arguments : Nat) : List (List Text) :=
  openingFrame ++ (["  args:"] : List Text) :: List.replicate arguments ["    - ", ""]
    ++ (["images:"] : List Text) :: (["- ", ""] : List Text) :: closingFrame

/-- What the scalars of a build say, line by line. -/
def buildValues (image : Text) (arguments : List Text) : List (List Text) :=
  [[], [], [dockerImage], ["build", "-t", image, "."], [dockerImage], ["push", image], [cloudImage],
   [], []]
  ++ arguments.map ([·])
  ++ [[], [image], [], [], []]

/-- The values of the items that follow the line `key`, one to a line. -/
def itemsBehind (key mark : Text) (lines : List (List Leaf)) : List Text :=
  ((lines.dropWhile (Yaml.outline · ≠ gapped [key])).tail.takeWhile
    (Yaml.outline · = gapped [mark, ""])).flatMap Yaml.scalars

structure SaysBuild (d : Deployment) (lines : List (List Leaf)) : Prop where
  /-- Every build has the same lines, but for its scalars. -/
  frame : lines.map Yaml.outline = (buildFrame 12).map gapped
  /-- The same image is built, pushed and listed. -/
  values : lines.map Yaml.scalars
    = buildValues d.image.squeeze ((deployArguments d).map Text.squeeze)
  /-- The step that deploys the image has its arguments and no others. -/
  arguments : itemsBehind "  args:" "    - " lines = (deployArguments d).map Text.squeeze
  images : itemsBehind "images:" "- " lines = [d.image.squeeze]

/-! ## The reading -/

section

variable (image : Text) (arguments : List Text)

theorem openingFrame_eq :
    openingFrame = [buildTitle] :: (openingRows image).map Row.frame := rfl

theorem closingFrame_eq : closingFrame = closingRows.map Row.frame ++ [([""] : List Text)] := rfl

theorem frame_plainRow (line : Text) : (plainRow line).frame = [line] := rfl

theorem frame_lastRow (front value : Text) : (lastRow front value).frame = [front, ""] := rfl

theorem buildFrame_eq :
    buildFrame arguments.length
      = [buildTitle] :: (buildRows image arguments).map Row.frame ++ [([""] : List Text)] := by
  simp [buildFrame, buildRows, openingFrame_eq image, closingFrame_eq, frame_plainRow,
    frame_lastRow, Function.comp_def, List.map_const']

theorem outlines_buildLines :
    (buildLines image arguments).map Yaml.outline = (buildFrame arguments.length).map gapped := by
  have last : Yaml.outline [] = gapped [""] := rfl
  simp [buildLines, buildFrame_eq image arguments, Yaml.outline_points, Row.outline_leaves, last]

/-- The scalars on the lines of a build, line by line. -/
theorem scalars_buildLines :
    (buildLines image arguments).map Yaml.scalars
      = buildValues image.squeeze (arguments.map Text.squeeze) := by
  have docker : dockerImage.squeeze = dockerImage := by decide +kernel
  have cloud : cloudImage.squeeze = cloudImage := by decide +kernel
  have build : Text.squeeze "build" = "build" := by decide
  have tag : Text.squeeze "-t" = "-t" := by decide
  have here : Text.squeeze "." = "." := by decide
  have push : Text.squeeze "push" = "push" := by decide
  have last : Yaml.scalars [] = [] := rfl
  simp [buildLines, buildValues, buildRows, openingRows, closingRows, plainRow, lastRow,
    Row.scalars_leaves, Yaml.scalars_points, Function.comp_def, docker, cloud, build, tag, here,
    push, last]

/-! ## Lists -/

variable {key mark : Text} {front items behind : List (List Leaf)} {line : List Leaf}

/-- The items behind the first line `key` go on as long as the lines look like items. -/
theorem itemsBehind_eq (other : gapped [key] ∉ front.map Yaml.outline)
    (found : Yaml.outline line = gapped [key])
    (marked : ∀ item ∈ items, Yaml.outline item = gapped [mark, ""])
    (stop : ∀ next ∈ behind.head?, Yaml.outline next ≠ gapped [mark, ""]) :
    itemsBehind key mark (front ++ line :: (items ++ behind)) = items.flatMap Yaml.scalars := by
  have skipped : (front ++ line :: (items ++ behind)).dropWhile (Yaml.outline · ≠ gapped [key])
      = line :: (items ++ behind) := by
    rw [List.dropWhile_append_of_pos, List.dropWhile_cons_of_neg (by simpa using found)]
    exact fun l hl => decide_eq_true fun same => other (same ▸ List.mem_map_of_mem hl)
  have ended : behind.takeWhile (Yaml.outline · = gapped [mark, ""]) = [] := by
    cases behind with
    | nil => rfl
    | cons next _ => exact List.takeWhile_cons_of_neg (by simpa using stop next rfl)
  rw [itemsBehind, skipped, List.tail_cons, List.takeWhile_append_of_pos, ended, List.append_nil]
  exact fun item hi => decide_eq_true (marked item hi)

/-- The lines in front of the arguments of the step that deploys the image. -/
def openingLines (image : Text) : List (List Leaf) :=
  buildTitle.map .point :: (openingRows image).map Row.leaves

def closingLines : List (List Leaf) := closingRows.map Row.leaves ++ [[]]

theorem buildLines_eq :
    buildLines image arguments
      = openingLines image ++ (plainRow "  args:").leaves
          :: (arguments.map (fun a => (lastRow "    - " a).leaves)
            ++ (plainRow "images:").leaves :: (lastRow "- " image).leaves :: closingLines) := by
  simp [buildLines, buildRows, openingLines, closingLines, Function.comp_def]

theorem outlines_openingLines :
    (openingLines image).map Yaml.outline = openingFrame.map gapped := by
  simp [openingLines, openingFrame_eq image, Yaml.outline_points, Row.outline_leaves]

theorem itemsBehind_arguments :
    itemsBehind "  args:" "    - " (buildLines image arguments) = arguments.map Text.squeeze := by
  have other : gapped ["  args:"] ∉ (openingLines image).map Yaml.outline := by
    rw [outlines_openingLines]
    decide +kernel
  have marked : ∀ item ∈ arguments.map fun a => (lastRow "    - " a).leaves,
      Yaml.outline item = gapped ["    - ", ""] :=
    List.forall_mem_map.mpr fun a _ => Row.outline_leaves _
  have stop : Yaml.outline (plainRow "images:").leaves ≠ gapped ["    - ", ""] := by decide +kernel
  rw [buildLines_eq, itemsBehind_eq other rfl marked (by simpa using stop)]
  simp [lastRow, Row.scalars_leaves, List.flatMap_map, ← List.map_eq_flatMap]

/-- The list of images behind `images:` has the one image that the build pushes. -/
theorem itemsBehind_images :
    itemsBehind "images:" "- " (buildLines image arguments) = [image.squeeze] := by
  have other : gapped ["images:"] ∉ (openingLines image ++ (plainRow "  args:").leaves
      :: arguments.map (fun a => (lastRow "    - " a).leaves)).map Yaml.outline := by
    have opening : gapped ["images:"] ∉ openingFrame.map gapped := by decide +kernel
    have key : gapped ["images:"] ≠ gapped ["  args:"] := by decide +kernel
    have item : gapped ["    - ", ""] ≠ gapped ["images:"] := by decide +kernel
    rw [List.map_append, outlines_openingLines, List.mem_append, List.map_cons, List.mem_cons]
    simp [opening, key, item, Row.outline_leaves, frame_plainRow, frame_lastRow]
  have marked : ∀ item ∈ [(lastRow "- " image).leaves], Yaml.outline item = gapped ["- ", ""] := by
    simp [Row.outline_leaves, frame_lastRow]
  have stop : ∀ next ∈ closingLines.head?, Yaml.outline next ≠ gapped ["- ", ""] := by
    decide +kernel
  have split : buildLines image arguments
      = (openingLines image ++ (plainRow "  args:").leaves
          :: arguments.map fun a => (lastRow "    - " a).leaves)
        ++ (plainRow "images:").leaves :: ([(lastRow "- " image).leaves] ++ closingLines) := by
    simp [buildLines_eq]
  rw [split, itemsBehind_eq other rfl marked stop]
  simp [lastRow, Row.scalars_leaves]

end

/-- Whatever the settings of a deployment are, they are only met inside scalars, and each of these
is read as the words it was made from. -/
theorem exists_saysBuild (d : Deployment) :
    ∃ lines, Yaml.lines? (buildSpec d) = some lines ∧ SaysBuild d lines := by
  refine ⟨_, lines?_buildSpec d, ?frame, ?values, ?arguments, ?images⟩
  case frame => exact outlines_buildLines d.image (deployArguments d)
  case values => exact scalars_buildLines d.image (deployArguments d)
  case arguments => exact itemsBehind_arguments d.image (deployArguments d)
  case images => exact itemsBehind_images d.image (deployArguments d)

end Project

end AgentWorkflow
