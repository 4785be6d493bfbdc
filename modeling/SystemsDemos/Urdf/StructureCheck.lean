import SystemsDemos.Search.Pieces
import SystemsDemos.Text.Number
import Mathlib.Algebra.Group.Nat.Even

/-!
# The checks of the robot description

The programs that look for the parts of the robot in its description and in the Gazebo world do not
parse XML: they search the text for the beginnings of tags, count some of them and collect names
with a regular expression.  Where every tag closes the quotes that it opens, this says what it is
meant to say about the tags of the file.

### Outline

* `readFile`, `requireText`, `captureNames`, `requireCount` and the three programs;
* `matchName` inside a tag, and the names that `captureNames` collects;
* `DescribesArm` and `UrdfStructureCheck.main_exitCode_eq_zero_iff`;
* the two programs that only look for fields.
-/

namespace SystemsDemos

/-! ### The programs -/

/-- What a program writes, and its exit code. -/
structure CheckOutput where
  stdout : List String
  stderr : List String
  exitCode : ℤ
  deriving DecidableEq

/-- The outcome of a check: the lines of a success, or the error. -/
def CheckOutput.of : Except String (List String) → CheckOutput
  | .ok lines => ⟨lines, [], 0⟩
  | .error what => ⟨[], ["[error] " ++ what], 1⟩

/-- `readFile`, with what it says when the file cannot be opened. -/
def readFileOr (failed : String) (files : String → Option Text) (path : String) :
    Except String Text :=
  match files path with
  | some text => .ok text
  | none => .error (failed ++ path)

/-- `requireText`, with what it says when the text is not there. -/
def requireTextOr (missing : String) (text : Text) (expected : String) : Except String Unit :=
  match findText expected.toList text with
  | none => .error (missing ++ expected)
  | some _ => .ok ()

/-- A match of the pattern `<element\s+name="([^"]+)"` at the beginning of the text: the name and
the text behind the match. -/
def matchName (element text : Text) : Option (Text × Text) :=
  match text.dropPrefix? ('<' :: element) with
  | none => none
  | some rest =>
      if rest.takeWhile isSpace = [] then none
      else
        match (rest.dropWhile isSpace).dropPrefix? "name=\"".toList with
        | none => none
        | some value =>
            match value.dropWhile (· ≠ '"') with
            | [] => none
            | _ :: behind =>
                let name := value.takeWhile (· ≠ '"')
                if name = [] then none else some (name, behind)

/-- `captureNames`, from the beginning of the text on. -/
def captureNamesFrom (element : Text) : ℕ → Text → List Text
  | 0, _ => []
  | _ + 1, [] => []
  | fuel + 1, c :: cs =>
      match matchName element (c :: cs) with
      | some (name, behind) => name :: captureNamesFrom element fuel behind
      | none => captureNamesFrom element fuel cs

/-- `captureNames`. -/
def captureNames (element text : Text) : List Text := captureNamesFrom element text.length text

/-- `contains`. -/
def containsName (values : List Text) (expected : String) : Bool :=
  values.any (· = expected.toList)

/-- `requireCount`. -/
def requireCount (text : Text) (needle : String) (expected : ℕ) : Except String Unit :=
  if countText needle.toList (text.length + 1) text ≠ expected then
    .error ("unexpected count for " ++ needle)
  else .ok ()

namespace UrdfStructureCheck

/-- `readFile`. -/
def readFile : (String → Option Text) → String → Except String Text :=
  readFileOr "failed to open URDF file: "

/-- `requireText`. -/
def requireText : Text → String → Except String Unit := requireTextOr "missing URDF field: "

/-- The links that are looked for. -/
def links : List String := ["base_link", "shoulder_link", "elbow_link", "tool0", "imu_link"]

/-- The joints that are looked for. -/
def joints : List String :=
  ["shoulder_yaw_joint", "elbow_pitch_joint", "tool_mount_joint", "imu_mount_joint"]

/-- The texts that are looked for after the links and joints. -/
def fields : List String :=
  ["<parent link=\"base_link\"/>", "<child link=\"shoulder_link\"/>",
    "<parent link=\"shoulder_link\"/>", "<child link=\"elbow_link\"/>",
    "<parent link=\"elbow_link\"/>", "<child link=\"tool0\"/>", "<child link=\"imu_link\"/>",
    "<axis xyz=\"0 0 1\"/>", "<axis xyz=\"0 1 0\"/>",
    "<limit lower=\"-1.57\" upper=\"1.57\" effort=\"30\" velocity=\"1.2\"/>",
    "<limit lower=\"-1.20\" upper=\"1.20\" effort=\"20\" velocity=\"1.5\"/>",
    "<joint name=\"tool_mount_joint\" type=\"fixed\">",
    "<joint name=\"imu_mount_joint\" type=\"fixed\">"]

/-- The loops over the links and over the joints. -/
def requireNames (missing : String) (captured : List Text) (expected : List String) :
    Except String Unit :=
  expected.forM fun name =>
    if containsName captured name then .ok () else .error (missing ++ name)

/-- `main`, up to its output: the names captured. -/
def verify (files : String → Option Text) (path : String) :
    Except String (List Text × List Text) := do
  let urdf ← readFile files path
  requireText urdf "<robot name=\"two_joint_arm\">"
  let capturedLinks := captureNames "link".toList urdf
  let capturedJoints := captureNames "joint".toList urdf
  requireNames "missing link: " capturedLinks links
  requireNames "missing joint: " capturedJoints joints
  fields.forM (requireText urdf)
  requireCount urdf "<inertial>" 5
  requireCount urdf "<collision>" 5
  return (capturedLinks, capturedJoints)

/-- `main`, with its argument. -/
def main (argument : Option String) (files : String → Option Text) : CheckOutput :=
  .of ((verify files (argument.getD "models/two_joint_arm.urdf")).map fun names =>
    ["[urdf] robot=two_joint_arm links=" ++ toString names.1.length ++ " joints=" ++
        toString names.2.length,
      "[urdf_link] base_link shoulder_link elbow_link tool0 imu_link inertial=5 collision=5",
      "[urdf_joint] shoulder_yaw_joint type=revolute parent=base_link child=shoulder_link " ++
        "axis=0,0,1 limit=-1.57..1.57",
      "[urdf_joint] elbow_pitch_joint type=revolute parent=shoulder_link child=elbow_link " ++
        "axis=0,1,0 limit=-1.20..1.20",
      "[urdf_joint] tool_mount_joint type=fixed parent=elbow_link child=tool0",
      "[urdf_joint] imu_mount_joint type=fixed parent=elbow_link child=imu_link " ++
        "origin=0.25,0,0.08",
      "[ok] two-joint URDF links joints limits sensor frame and XML structure verified"])

end UrdfStructureCheck

namespace SensorFrameCheck

/-- `readFile`. -/
def readFile : (String → Option Text) → String → Except String Text :=
  readFileOr "failed to open URDF file: "

/-- `requireText`. -/
def requireText : Text → String → Except String Unit :=
  requireTextOr "missing sensor frame field: "

/-- The texts that are looked for. -/
def fields : List String :=
  ["<link name=\"imu_link\">", "<joint name=\"imu_mount_joint\" type=\"fixed\">",
    "<parent link=\"elbow_link\"/>", "<child link=\"imu_link\"/>",
    "<origin xyz=\"0.25 0 0.08\" rpy=\"0 0 0\"/>"]

/-- `main`, with its argument. -/
def main (argument : Option String) (files : String → Option Text) : CheckOutput :=
  .of do
    let urdf ← readFile files (argument.getD "models/two_joint_arm.urdf")
    fields.forM (requireText urdf)
    return ["[sensor_frame] frame=imu_link parent=elbow_link joint=imu_mount_joint " ++
          "xyz=0.25,0,0.08",
        "[rviz] fixed_frame=base_link display=RobotModel+TF sensor_frame=imu_link",
        "[ok] simulated sensor frame is mounted on elbow_link"]

end SensorFrameCheck

namespace GazeboWorldCheck

/-- `readFile`. -/
def readFile : (String → Option Text) → String → Except String Text :=
  readFileOr "failed to open world file: "

/-- `requireText`. -/
def requireText : Text → String → Except String Unit := requireTextOr "missing SDF field: "

/-- The texts that are looked for. -/
def fields : List String :=
  ["<sdf version=\"1.6\">", "<world name=\"two_joint_arm_smoke_world\">",
    "<uri>model://sun</uri>", "<uri>model://ground_plane</uri>",
    "<model name=\"two_joint_arm_placeholder\">", "<link name=\"base_link\">",
    "<link name=\"arm_link\">", "<joint name=\"base_to_arm_fixed\" type=\"fixed\">",
    "<pose>0 0 0 0 0 0</pose>"]

/-- `main`, with its argument. -/
def main (argument : Option String) (files : String → Option Text) : CheckOutput :=
  .of do
    let sdf ← readFile files (argument.getD "worlds/two_joint_arm.world")
    fields.forM (requireText sdf)
    return ["[gazebo_world] world=two_joint_arm_smoke_world includes=sun,ground_plane " ++
          "model=two_joint_arm_placeholder",
        "[gazebo_model] links=base_link,arm_link joint=base_to_arm_fixed pose=0,0,0,0,0,0",
        "[gazebo_launch] command=\"gazebo worlds/two_joint_arm.world\"",
        "[ok] Gazebo model smoke world structure verified"]

end GazeboWorldCheck

/-! ### The names in the tags -/

section Prefixes

variable {α : Type} {sep : α} {w p : List α} {ps : List (List α)}

/-- What is dropped is a prefix. -/
lemma dropPrefix?_eq_some [DecidableEq α] {l rest : List α} :
    l.dropPrefix? w = some rest ↔ l = w ++ rest := by
  rw [List.dropPrefix?_eq_some_iff]
  constructor
  · rintro ⟨w', rfl, hw'⟩
    rw [eq_of_beq hw']
  · rintro rfl
    exact ⟨w, rfl, beq_self_eq_true _⟩

/-- A prefix without separators is dropped from the first piece. -/
lemma dropPrefix?_append_joined [DecidableEq α] (hw : sep ∉ w) (hp : sep ∉ p) (ps : List (List α)) :
    (p ++ joined sep ps).dropPrefix? w = (p.dropPrefix? w).map (· ++ joined sep ps) := by
  have hiff : w <+: p ++ joined sep ps ↔ w <+: p := by
    simpa using @append_joined_prefix_iff _ _ _ _ [] ps hw hp
  cases hpiece : p.dropPrefix? w with
  | some rest =>
    obtain rfl := dropPrefix?_eq_some.mp hpiece
    exact dropPrefix?_eq_some.mpr (List.append_assoc _ _ _)
  | none =>
    cases hwhole : (p ++ joined sep ps).dropPrefix? w with
    | none => rfl
    | some rest =>
      obtain ⟨rest', rfl⟩ := hiff.mp ⟨rest, (dropPrefix?_eq_some.mp hwhole).symm⟩
      cases (dropPrefix?_eq_some.mpr rfl).symm.trans hpiece

/-- What is taken while a condition holds that separators do not meet. -/
lemma takeWhile_append_joined_of {f : α → Bool} (hf : f sep = false) (l : List α) :
    (l ++ joined sep ps).takeWhile f = l.takeWhile f ∧
      (l ++ joined sep ps).dropWhile f = l.dropWhile f ++ joined sep ps := by
  induction l with
  | nil => cases ps <;> simp [hf]
  | cons c cs ih =>
    by_cases hc : f c = true
    · simp [hc, ih]
    · simp [hc]

end Prefixes

/-- A match of the pattern, by its parts. -/
lemma matchName_eq_some_iff {element text name behind : Text} :
    matchName element text = some (name, behind) ↔
      ∃ space, space ≠ [] ∧ (∀ c ∈ space, isSpace c = true) ∧ name ≠ [] ∧ '"' ∉ name ∧
        text = '<' :: element ++ (space ++ ("name=\"".toList ++ (name ++ '"' :: behind))) := by
  constructor
  · intro h
    unfold matchName at h
    split at h
    · cases h
    · next rest hrest =>
      obtain rfl := dropPrefix?_eq_some.mp hrest
      split at h
      · cases h
      · next hspace =>
        split at h
        · cases h
        · next value hvalue =>
          have hafter := dropPrefix?_eq_some.mp hvalue
          split at h
          · cases h
          · next quote tail htail =>
            simp only at h
            split at h
            · cases h
            · next hname =>
              obtain ⟨rfl, rfl⟩ := Prod.mk.inj (Option.some.inj h)
              have hquote : quote = '"' := by
                have hhead := List.head?_dropWhile_not (· ≠ '"') value
                rw [htail] at hhead
                simpa using hhead
              subst hquote
              refine ⟨rest.takeWhile isSpace, hspace, fun c hc => List.mem_takeWhile_imp hc, hname,
                fun hmem => by simpa using List.mem_takeWhile_imp hmem, ?_⟩
              rw [← htail, List.takeWhile_append_dropWhile, ← hafter,
                List.takeWhile_append_dropWhile]
  · rintro ⟨space, hspace, hall, hname, hquote, rfl⟩
    have hn : isSpace 'n' = false := by decide
    have htaken : (space ++ ("name=\"".toList ++ (name ++ '"' :: behind))).takeWhile isSpace =
        space := by
      rw [List.takeWhile_append_of_pos hall]
      simp [hn]
    have hdropped : (space ++ ("name=\"".toList ++ (name ++ '"' :: behind))).dropWhile isSpace =
        "name=\"".toList ++ (name ++ '"' :: behind) := by
      rw [List.dropWhile_append_of_pos hall]
      simp [hn]
    have hall' : ∀ c ∈ name, decide (c ≠ '"') = true := by
      intro c hc
      simpa using ne_of_mem_of_not_mem hc hquote
    have hbefore : (name ++ '"' :: behind).takeWhile (· ≠ '"') = name := by
      rw [List.takeWhile_append_of_pos hall']
      simp
    have hbehind : (name ++ '"' :: behind).dropWhile (· ≠ '"') = '"' :: behind := by
      rw [List.dropWhile_append_of_pos hall']
      simp
    unfold matchName
    rw [dropPrefix?_eq_some.mpr rfl]
    simp only [htaken, if_neg hspace, hdropped]
    rw [dropPrefix?_eq_some.mpr rfl]
    simp only [hbehind, hbefore, if_neg hname]

/-- The number of quotes in a tag is even: it closes the quotes that it opens. -/
def Balanced (text : Text) : Prop := ∀ tag ∈ pieces '<' text, Even (tag.count '"')

instance : DecidablePred Balanced := fun text =>
  inferInstanceAs (Decidable (∀ tag ∈ pieces '<' text, _))

/-- The name that a tag matches the pattern with. -/
def nameOf (element tag : Text) : Option Text := (matchName element ('<' :: tag)).map Prod.fst

section Tags

variable {element p : Text} {ps : List Text}

/-- A match that begins with a tag ends inside it, if the tag closes its quotes. -/
lemma matchName_append (helement : '<' ∉ element) (hquote : '"' ∉ element) (hp : '<' ∉ p)
    (hbalanced : Even (p.count '"')) (ps : List Text) :
    matchName element ('<' :: (p ++ joined '<' ps)) =
      (matchName element ('<' :: p)).map fun m => (m.1, m.2 ++ joined '<' ps) := by
  have hspaces : isSpace '<' = false := by decide
  have hcons : ∀ l : Text, ('<' :: l).dropPrefix? ('<' :: element) = l.dropPrefix? element := by
    intro l
    simp [List.dropPrefix?]
  unfold matchName
  rw [hcons, hcons, dropPrefix?_append_joined helement hp]
  cases hrest : p.dropPrefix? element with
  | none => rfl
  | some rest =>
    obtain rfl := dropPrefix?_eq_some.mp hrest
    have hrest' : '<' ∉ rest := fun hmem => hp (List.mem_append_right _ hmem)
    obtain ⟨htake, hdrop⟩ := @takeWhile_append_joined_of _ _ ps _ hspaces rest
    simp only [Option.map_some, htake, hdrop]
    by_cases hspace : rest.takeWhile isSpace = []
    · rw [if_pos hspace, if_pos hspace]
      rfl
    · rw [if_neg hspace, if_neg hspace, dropPrefix?_append_joined (by decide)
        fun hmem => hrest' (List.dropWhile_subset isSpace hmem)]
      cases hvalue : (rest.dropWhile isSpace).dropPrefix? "name=\"".toList with
      | none => rfl
      | some value =>
        have hafter := dropPrefix?_eq_some.mp hvalue
        -- one quote of the tag is in front of the value, so there is another one in the value
        have hodd : ¬Even (value.count '"') := by
          have hspaceQuotes : (rest.takeWhile isSpace).count '"' = 0 := by
            refine List.count_eq_zero.mpr fun hmem => ?_
            have himp := List.mem_takeWhile_imp hmem
            revert himp
            decide
          have hcount : (element ++ rest).count '"' = 1 + value.count '"' := by
            rw [List.count_append, List.count_eq_zero.mpr hquote,
              ← List.takeWhile_append_dropWhile (p := isSpace) (l := rest), List.count_append,
              hspaceQuotes, hafter, List.count_append]
            have hone : "name=\"".toList.count '"' = 1 := by decide
            omega
          rw [hcount] at hbalanced
          intro heven
          exact absurd ((Nat.even_add.mp hbalanced).mpr heven) (by decide)
        have hmem : '"' ∈ value := by
          by_contra hnone
          rw [List.count_eq_zero.mpr hnone] at hodd
          exact hodd (by decide)
        obtain ⟨name, behind, rfl, hname⟩ := List.eq_append_cons_of_mem hmem
        have hall : ∀ c ∈ name, decide (c ≠ '"') = true := by
          intro c hc
          simpa using ne_of_mem_of_not_mem hc hname
        simp only [Option.map_some, List.append_assoc, List.cons_append,
          List.dropWhile_append_of_pos hall, List.takeWhile_append_of_pos hall]
        by_cases hempty : name = []
        · simp [hempty]
        · simp [hempty]

/-- A text without quotes left open gives the name in each tag. -/
lemma captureNamesFrom_eq (helement : '<' ∉ element) (hquote : '"' ∉ element) {fuel : ℕ}
    {text : Text} (hfuel : text.length ≤ fuel) (hbalanced : Balanced text) :
    captureNamesFrom element fuel text = (pieces '<' text).filterMap (nameOf element) := by
  induction fuel generalizing text with
  | zero =>
    rw [List.length_eq_zero_iff.mp (Nat.le_zero.mp hfuel)]
    rfl
  | succ fuel ih =>
    cases text with
    | nil => rfl
    | cons c cs =>
      rw [List.length_cons, Nat.succ_le_succ_iff] at hfuel
      rw [captureNamesFrom]
      by_cases hc : c = '<'
      · subst hc
        -- the tag in front and the tags behind it
        have hp : '<' ∉ cs.takeWhile (· ≠ '<') := fun hmem => by
          simpa using List.mem_takeWhile_imp hmem
        have hsplit := @takeWhile_append_joined _ '<' _ cs
        unfold Balanced at hbalanced
        rw [pieces_sep] at hbalanced ⊢
        generalize cs.takeWhile (· ≠ '<') = p at hp hsplit hbalanced ⊢
        have hrest : ∀ l : Text, '<' ∉ l → l.length ≤ p.length →
            captureNamesFrom element fuel (l ++ joined '<' (pieces '<' cs)) =
              (pieces '<' cs).filterMap (nameOf element) := by
          intro l hl hlength
          have hpieces : pieces '<' (l ++ joined '<' (pieces '<' cs)) = pieces '<' cs := by
            rw [pieces_append hl, pieces_joined fun _ => sep_notMem_of_mem_pieces]
          have hlength' := congrArg List.length hsplit
          rw [List.length_append] at hlength'
          rw [ih (by rw [List.length_append]; omega), hpieces]
          intro tag htag
          rw [hpieces] at htag
          exact hbalanced tag (List.mem_cons_of_mem _ htag)
        have hmatch := matchName_append helement hquote hp
          (hbalanced p List.mem_cons_self) (pieces '<' cs)
        rw [hsplit] at hmatch
        rw [hmatch]
        cases htag : matchName element ('<' :: p) with
        | none =>
          have hname : nameOf element p = none := by rw [nameOf, htag]; rfl
          rw [List.filterMap_cons_none hname]
          have hall := hrest p hp (Nat.le_refl _)
          rwa [hsplit] at hall
        | some m =>
          obtain ⟨name, behind⟩ := m
          have hname : nameOf element p = some name := by rw [nameOf, htag]; rfl
          obtain ⟨space, -, -, -, -, hparts⟩ := matchName_eq_some_iff.mp htag
          rw [List.cons_append] at hparts
          obtain rfl := (List.cons.inj hparts).2
          rw [List.filterMap_cons_some hname]
          refine congrArg (name :: ·) (hrest behind (fun hmem => hp ?_) ?_)
          · simp [hmem]
          · simp only [List.length_append, List.length_cons]
            omega
      · have hnone : matchName element (c :: cs) = none := by
          have hdrop : (c :: cs).dropPrefix? ('<' :: element) = none := by
            simp [List.dropPrefix?, hc]
          rw [matchName, hdrop]
        have hpieces : pieces '<' (c :: cs) = pieces '<' cs := pieces_of_ne hc cs
        rw [hnone, hpieces]
        refine ih hfuel fun tag htag => hbalanced tag ?_
        rwa [hpieces]

/-- The names captured are the names in the tags. -/
lemma captureNames_eq (helement : '<' ∉ element) (hquote : '"' ∉ element) {text : Text}
    (hbalanced : Balanced text) :
    captureNames element text = (pieces '<' text).filterMap (nameOf element) :=
  captureNamesFrom_eq helement hquote (Nat.le_refl _) hbalanced

end Tags

/-! ### What the checks say -/

/-- A tag of an element with a name: the name is its first attribute. -/
def NamesElement (element name : String) (tag : Text) : Prop :=
  ∃ space behind, space ≠ [] ∧ (∀ c ∈ space, isSpace c = true) ∧ name.toList ≠ [] ∧
    '"' ∉ name.toList ∧ tag =
      element.toList ++ (space ++ ("name=\"".toList ++ (name.toList ++ '"' :: behind)))

/-- The tags of the field stand side by side in the text, the last one as a beginning. -/
def HasTags (text : Text) (field : String) : Prop :=
  ∃ tags, tags <:+ pieces '<' text ∧ BeginsWith (pieces '<' field.toList) tags

/-- The tags of the text describe the two-joint arm. -/
structure DescribesArm (text : Text) : Prop where
  robot : HasTags text "<robot name=\"two_joint_arm\">"
  links : ∀ name ∈ UrdfStructureCheck.links, ∃ tag ∈ pieces '<' text, NamesElement "link" name tag
  joints : ∀ name ∈ UrdfStructureCheck.joints,
    ∃ tag ∈ pieces '<' text, NamesElement "joint" name tag
  fields : ∀ field ∈ UrdfStructureCheck.fields, HasTags text field
  inertial : (pieces '<' text).countP (fun tag => decide ("inertial>".toList <+: tag)) = 5
  collision : (pieces '<' text).countP (fun tag => decide ("collision>".toList <+: tag)) = 5

/-- A field is found when its tags are there. -/
lemma requireTextOr_eq_ok_iff {missing : String} {text : Text} {field : String}
    (hfield : field.toList.head? = some '<') :
    requireTextOr missing text field = .ok () ↔ HasTags text field := by
  obtain ⟨pattern, hpattern⟩ : ∃ pattern, field.toList = '<' :: pattern := by
    cases hlist : field.toList with
    | nil => rw [hlist] at hfield; cases hfield
    | cons c cs =>
      rw [hlist] at hfield
      exact ⟨cs, congrArg (· :: cs) (Option.some.inj hfield)⟩
  have hsome : (findText field.toList text).isSome ↔ HasTags text field := by
    rw [isSome_findText, HasTags, hpattern]
    exact infix_iff_beginsWith
  rw [← hsome, requireTextOr]
  cases findText field.toList text <;> simp

/-- A name is captured when a tag has it. -/
lemma containsName_captureNames {element name : String} {text : Text}
    (helement : '<' ∉ element.toList) (hquote : '"' ∉ element.toList)
    (hbalanced : Balanced text) :
    containsName (captureNames element.toList text) name = true ↔
      ∃ tag ∈ pieces '<' text, NamesElement element name tag := by
  rw [containsName, captureNames_eq helement hquote hbalanced, List.any_eq_true]
  simp only [decide_eq_true_eq, exists_eq_right, List.mem_filterMap, nameOf, Option.map_eq_some_iff,
    Prod.exists, matchName_eq_some_iff]
  constructor
  · rintro ⟨tag, htag, -, behind, ⟨space, hspace, hall, hname, hnoquote, heq⟩, rfl⟩
    exact ⟨tag, htag, space, behind, hspace, hall, hname, hnoquote, (List.cons.inj heq).2⟩
  · rintro ⟨tag, htag, space, behind, hspace, hall, hname, hnoquote, rfl⟩
    exact ⟨_, htag, _, behind, ⟨space, hspace, hall, hname, hnoquote, rfl⟩, rfl⟩

section Sequences

variable {ε α β : Type}

/-- A check in front of a computation. -/
lemma check_bind_eq_ok_iff {check : Except ε Unit} {rest : Unit → Except ε α} {a : α} :
    (check >>= rest) = .ok a ↔ check = .ok () ∧ rest () = .ok a := by
  cases check with
  | error e => simp [bind, Except.bind]
  | ok u => simp [bind, Except.bind]

/-- A check of each element of a list. -/
lemma forM_eq_ok_iff {f : β → Except ε Unit} {l : List β} :
    l.forM f = .ok () ↔ ∀ b ∈ l, f b = .ok () := by
  induction l with
  | nil => simp [pure, Except.pure]
  | cons b l ih =>
    have hcons : (b :: l).forM f = f b >>= fun _ => l.forM f := rfl
    rw [hcons, check_bind_eq_ok_iff, ih, List.forall_mem_cons]

end Sequences

/-- The exit code is zero when the check succeeds. -/
lemma CheckOutput.exitCode_of {result : Except String (List String)} :
    (CheckOutput.of result).exitCode = 0 ↔ ∃ lines, result = .ok lines := by
  cases result with
  | error what => simp [CheckOutput.of]
  | ok lines => simp [CheckOutput.of]

namespace UrdfStructureCheck

/-- The count of a tag in the text. -/
lemma requireCount_eq_ok_iff {text w : Text} {needle : String} (hneedle : needle.toList = '<' :: w)
    (hw : '<' ∉ w) (n : ℕ) :
    requireCount text needle n = .ok () ↔
      (pieces '<' text).countP (fun tag => decide (w <+: tag)) = n := by
  rw [requireCount, hneedle, countText_eq_countP hw (Nat.lt_succ_self _)]
  split <;> simp_all

/-- All names are required. -/
lemma requireNames_eq_ok_iff {missing : String} {captured : List Text} {expected : List String} :
    requireNames missing captured expected = .ok () ↔
      ∀ name ∈ expected, containsName captured name = true := by
  rw [requireNames, forM_eq_ok_iff]
  refine forall₂_congr fun name _ => ?_
  cases containsName captured name <;> simp

/-- **What the check of the description accepts.**  For a file in which every tag closes the quotes
that it opens, the program returns 0 exactly when the tags describe the arm: the robot, its five
links and four joints by name, the fields, and five tags each of inertias and collisions. -/
theorem main_exitCode_eq_zero_iff {argument : Option String} {files : String → Option Text}
    {text : Text} (hfile : files (argument.getD "models/two_joint_arm.urdf") = some text)
    (hbalanced : Balanced text) :
    (main argument files).exitCode = 0 ↔ DescribesArm text := by
  have hverify : (∃ names, verify files (argument.getD "models/two_joint_arm.urdf") = .ok names) ↔
      DescribesArm text := by
    have hread : readFile files (argument.getD "models/two_joint_arm.urdf") = .ok text := by
      rw [readFile, readFileOr, hfile]
    have hfields : ∀ field ∈ fields, (requireText text field = .ok () ↔ HasTags text field) := by
      intro field hfield
      refine requireTextOr_eq_ok_iff ?_
      revert field
      decide
    have hlinks := fun name => @containsName_captureNames "link" name text
      (by decide) (by decide) hbalanced
    have hjoints := fun name => @containsName_captureNames "joint" name text
      (by decide) (by decide) hbalanced
    have hread' : ∀ f : Text → Except String (List Text × List Text),
        (readFile files (argument.getD "models/two_joint_arm.urdf") >>= f) = f text := by
      intro f
      rw [hread]
      rfl
    rw [verify, hread']
    simp only [check_bind_eq_ok_iff, requireNames_eq_ok_iff, forM_eq_ok_iff]
    constructor
    · rintro ⟨-, hrobot, hlink, hjoint, hfield, hinertial, hcollision, -⟩
      exact
        { robot := (requireTextOr_eq_ok_iff rfl).mp hrobot
          links := fun name hname => (hlinks name).mp (hlink name hname)
          joints := fun name hname => (hjoints name).mp (hjoint name hname)
          fields := fun field hmem => (hfields field hmem).mp (hfield field hmem)
          inertial := (requireCount_eq_ok_iff rfl (by decide) 5).mp hinertial
          collision := (requireCount_eq_ok_iff rfl (by decide) 5).mp hcollision }
    · intro h
      exact ⟨_, (requireTextOr_eq_ok_iff rfl).mpr h.robot,
        fun name hname => (hlinks name).mpr (h.links name hname),
        fun name hname => (hjoints name).mpr (h.joints name hname),
        fun field hmem => (hfields field hmem).mpr (h.fields field hmem),
        (requireCount_eq_ok_iff rfl (by decide) 5).mpr h.inertial,
        (requireCount_eq_ok_iff rfl (by decide) 5).mpr h.collision, rfl⟩
  rw [main, CheckOutput.exitCode_of, ← hverify]
  cases verify files (argument.getD "models/two_joint_arm.urdf") with
  | error what => simp [Except.map]
  | ok names => simp [Except.map]

/-- A description with nothing but what is looked for. -/
def armDescription : Text :=
  ["<robot name=\"two_joint_arm\">",
    "<link name=\"base_link\"><inertial><collision>",
    "<link name=\"shoulder_link\"><inertial><collision>",
    "<link name=\"elbow_link\"><inertial><collision>",
    "<link name=\"tool0\"><inertial><collision>",
    "<link name=\"imu_link\"><inertial><collision>",
    "<joint name=\"shoulder_yaw_joint\">",
    "<parent link=\"base_link\"/><child link=\"shoulder_link\"/><axis xyz=\"0 0 1\"/>",
    "<limit lower=\"-1.57\" upper=\"1.57\" effort=\"30\" velocity=\"1.2\"/>",
    "<joint name=\"elbow_pitch_joint\">",
    "<parent link=\"shoulder_link\"/><child link=\"elbow_link\"/><axis xyz=\"0 1 0\"/>",
    "<limit lower=\"-1.20\" upper=\"1.20\" effort=\"20\" velocity=\"1.5\"/>",
    "<joint name=\"tool_mount_joint\" type=\"fixed\">",
    "<parent link=\"elbow_link\"/><child link=\"tool0\"/>",
    "<joint name=\"imu_mount_joint\" type=\"fixed\">",
    "<parent link=\"elbow_link\"/><child link=\"imu_link\"/>"].flatMap String.toList

/-- This is accepted. -/
theorem main_exitCode_eq_zero_iff_armDescription : DescribesArm armDescription :=
  (@main_exitCode_eq_zero_iff none (fun _ => some armDescription) armDescription rfl
    (by decide +kernel)).mp (by decide +kernel)

end UrdfStructureCheck

/-! ### The programs that only look for fields -/

/-- Such a program accepts a file in which the tags of its fields stand side by side. -/
lemma fieldsCheck_exitCode_eq_zero_iff {failed missing path : String}
    {files : String → Option Text} {text : Text} {fields lines : List String}
    (hfile : files path = some text)
    (hfields : ∀ field ∈ fields, field.toList.head? = some '<') :
    (CheckOutput.of do
        let text ← readFileOr failed files path
        fields.forM (requireTextOr missing text)
        return lines).exitCode = 0 ↔ ∀ field ∈ fields, HasTags text field := by
  have hread : ∀ f : Text → Except String (List String),
      (readFileOr failed files path >>= f) = f text := by
    intro f
    rw [readFileOr, hfile]
    rfl
  rw [CheckOutput.exitCode_of, hread]
  simp only [check_bind_eq_ok_iff, forM_eq_ok_iff]
  constructor
  · rintro ⟨-, hall, -⟩ field hfield
    exact (requireTextOr_eq_ok_iff (hfields field hfield)).mp (hall field hfield)
  · intro hall
    exact ⟨lines, fun field hfield =>
      (requireTextOr_eq_ok_iff (hfields field hfield)).mpr (hall field hfield), rfl⟩

/-- **What the check of the sensor frame accepts.** -/
theorem SensorFrameCheck.main_accepts_iff {argument : Option String}
    {files : String → Option Text} {text : Text}
    (hfile : files (argument.getD "models/two_joint_arm.urdf") = some text) :
    (main argument files).exitCode = 0 ↔ ∀ field ∈ fields, HasTags text field :=
  fieldsCheck_exitCode_eq_zero_iff hfile (by decide)

/-- **What the check of the world accepts.** -/
theorem GazeboWorldCheck.main_accepts_iff {argument : Option String}
    {files : String → Option Text} {text : Text}
    (hfile : files (argument.getD "worlds/two_joint_arm.world") = some text) :
    (main argument files).exitCode = 0 ↔ ∀ field ∈ fields, HasTags text field :=
  fieldsCheck_exitCode_eq_zero_iff hfile (by decide)

end SystemsDemos
