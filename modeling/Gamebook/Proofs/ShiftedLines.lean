import Gamebook.Proofs.LinePlacement
import Gamebook.Proofs.OutlineNesting
import Gamebook.Proofs.ShiftedText

/-!
# Reading shifted lines

What holds of a fragment holds of lines and of what is nested under them: a
scene text that stands further behind in a longer one is cut into the same
lines, with the same indentation, so it has the same outline and the same
findings, moved right and down.
-/

namespace Gamebook

/-! ## Lines -/

/-- The option moved right by `distance` bytes. -/
def OptionLine.shift (option : OptionLine) (distance : Nat) : OptionLine where
  modifiers := option.modifiers
  condition := option.condition.map (·.shift distance)
  text := option.text.shift distance

/-- What a line says, moved right by `distance` bytes. -/
def LineKind.shift (distance : Nat) : LineKind → LineKind
  | .command known arguments => .command known (arguments.shift distance)
  | .option line => .option (line.shift distance)
  | .prose => .prose
  | .unknown name => .unknown (name.shift distance)

/-- The line moved right by `bytes` and down by `lines`. -/
def Line.shift (line : Line) (bytes lines : Nat) : Line where
  number := line.number + lines
  indent := line.indent
  content := line.content.shift bytes
  kind := line.kind.shift bytes

@[simp]
theorem Line.content_shift (line : Line) (bytes lines : Nat) :
    (line.shift bytes lines).content = line.content.shift bytes := rfl

@[simp]
theorem Line.number_shift (line : Line) (bytes lines : Nat) :
    (line.shift bytes lines).number = line.number + lines := rfl

@[simp]
theorem Line.span_shift (line : Line) (bytes lines : Nat) :
    (line.shift bytes lines).span = line.span.shift bytes :=
  line.content.span_shift bytes

@[simp]
theorem Line.kind_shift (line : Line) (bytes lines : Nat) :
    (line.shift bytes lines).kind = line.kind.shift bytes := rfl

@[simp]
theorem commandName_shift (content : Fragment) (distance : Nat) :
    commandName (content.shift distance) = (commandName content).shift distance := by
  simp [commandName]

@[simp]
theorem commandArguments_shift (content : Fragment) (distance : Nat) :
    commandArguments (content.shift distance) =
      (commandArguments content).shift distance := by
  simp [commandArguments]

namespace OptionLine

theorem conditional?_shift (modifier : Modifier) (arguments : Fragment) (distance : Nat) :
    conditional? modifier (arguments.shift distance) =
      (conditional? modifier arguments).map (·.shift distance) := by
  simp only [conditional?, Fragment.chars_shift]
  cases optionMark? arguments.chars with
  | none => rfl
  | some mark =>
      simp only [Option.bind_some, Fragment.take_shift, Fragment.drop_shift,
        Fragment.trimEnd_shift, Fragment.isEmpty_shift]
      split <;> rfl

/-- A content with a star is an option only behind a modifier. -/
theorem ofContent?_of_star {content : Fragment} {rest : List Char}
    (starred : content.chars = '*' :: rest) :
    ofContent? content =
      (Modifier.find? (commandName content).text).bind fun modifier =>
        if modifier.takesCondition then conditional? modifier (commandArguments content)
        else (ofContent? (commandArguments content)).map (modify modifier) := by
  obtain ⟨start, chars⟩ := content
  subst starred
  rw [ofContent?]
  split <;> simp [*]

theorem ofContent?_shift (content : Fragment) (distance : Nat) :
    ofContent? (content.shift distance) = (ofContent? content).map (·.shift distance) := by
  -- The recursion goes on behind a modifier, so the shifted side is opened by the
  -- equation of starred contents and not by the one of its own characters.
  have starEq (start : Nat) (rest : List Char) :=
    @ofContent?_of_star (Fragment.shift ⟨start, '*' :: rest⟩ distance) rest rfl
  simp only [commandName_shift, commandArguments_shift, Fragment.text_shift,
    conditional?_shift] at starEq
  fun_induction ofContent? content with
  | case1 start rest =>
      rw [Fragment.shift, ofContent?, Nat.add_right_comm]
      rfl
  | case2 start rest unmodified =>
      rw [starEq, unmodified]
      rfl
  | case3 start rest modifier modified conditional =>
      rw [starEq, modified, Option.bind_some, if_pos conditional]
  | case4 start rest modifier modified unconditional ih =>
      rw [starEq, modified, Option.bind_some, if_neg unconditional, ih, Option.map_map,
        Option.map_map]
      rfl
  | case5 content notOption notCommand =>
      rw [ofContent?]
      · rfl
      · intro _ rest shiftedEq
        exact notOption content.start rest
          (congrArg (Fragment.mk content.start ·.chars) shiftedEq)
      · intro _ rest shiftedEq
        exact notCommand content.start rest
          (congrArg (Fragment.mk content.start ·.chars) shiftedEq)

end OptionLine

theorem LineKind.ofContent_shift (content : Fragment) (distance : Nat) :
    ofContent (content.shift distance) = (ofContent content).shift distance := by
  simp only [ofContent, OptionLine.ofContent?_shift, Fragment.chars_shift, commandName_shift,
    Fragment.text_shift, commandArguments_shift]
  cases OptionLine.ofContent? content with
  | some option => rfl
  | none =>
      simp only [Option.map_none]
      split
      · cases Command.find? (commandName content).text <;> rfl
      · rfl

@[simp]
theorem LineKind.command?_shift (kind : LineKind) (distance : Nat) :
    (kind.shift distance).command? = kind.command? := by
  cases kind <;> rfl

@[simp]
theorem LineKind.isOption_shift (kind : LineKind) (distance : Nat) :
    (kind.shift distance).isOption = kind.isOption := by
  cases kind <;> rfl

theorem LineKind.isRemark_shift (kind : LineKind) (distance : Nat) :
    (kind.shift distance).isRemark = kind.isRemark := by
  cases kind <;> rfl

@[simp]
theorem Line.command?_shift (line : Line) (bytes lines : Nat) :
    (line.shift bytes lines).command? = line.command? :=
  line.kind.command?_shift bytes

section Lines

variable (bytes lines number : Nat)

theorem Line.ofFragment?_shift (text : Fragment) :
    ofFragment? (number + lines) (text.shift bytes) =
      (ofFragment? number text).map (·.shift bytes lines) := by
  simp only [ofFragment?, Fragment.dropWhile_shift, Fragment.trimEnd_shift,
    Fragment.isEmpty_shift, LineKind.ofContent_shift]
  split <;> rfl

theorem Source.content_shift (text : Fragment) :
    content (text.shift bytes) = (content text).shift bytes := by
  rw [content, content, apply_ite (Fragment.shift · bytes), Fragment.chars_shift]
  rfl

theorem Source.linesFrom_shift (texts : List Fragment) :
    Source.linesFrom (number + lines) (texts.map (·.shift bytes)) =
      (Source.linesFrom number texts).map (·.shift bytes lines) := by
  induction texts generalizing number with
  | nil => rfl
  | cons text rest ih =>
      simp only [List.map_cons, Source.linesFrom, content_shift, Line.ofFragment?_shift,
        Nat.add_right_comm number lines 1, ih]
      cases Line.ofFragment? number (content text) <;> rfl

end Lines

/-! ## Outlines -/

namespace Outline

/-- The outline moved right by `bytes` and down by `lines`. -/
def shift (bytes lines : Nat) : Outline → Outline
  | nil => nil
  | entry line nested rest =>
      entry (line.shift bytes lines) (nested.shift bytes lines) (rest.shift bytes lines)

variable (bytes lines : Nat)

theorem ofLines_shift (entries : List Line) :
    ofLines (entries.map (·.shift bytes lines)) = (ofLines entries).shift bytes lines := by
  fun_induction ofLines entries with
  | case1 => simp [ofLines, shift]
  | case2 line rest nestedIh restIh =>
      rw [List.map_cons, ofLines, shift, ← nestedIh, ← restIh, List.takeWhile_map,
        List.dropWhile_map]
      rfl

variable (outline : Outline)

@[simp]
theorem isEmpty_shift : (outline.shift bytes lines).isEmpty = outline.isEmpty := by
  cases outline <;> rfl

@[simp]
theorem first?_shift :
    (outline.shift bytes lines).first? = outline.first?.map (·.shift bytes lines) := by
  cases outline <;> rfl

@[simp]
theorem roots_shift :
    (outline.shift bytes lines).roots = outline.roots.map (·.shift bytes lines) := by
  induction outline with
  | nil => rfl
  | entry line nested rest _ ih => simp only [shift, roots, List.map_cons, ih]

@[simp]
theorem hasOption_shift : (outline.shift bytes lines).hasOption = outline.hasOption := by
  induction outline with
  | nil => rfl
  | entry line nested rest nestedIh restIh =>
      simp only [shift, hasOption, nestedIh, restIh, Line.kind_shift,
        Line.command?_shift, LineKind.isOption_shift]

end Outline

/-! ## What lines mention and lack -/

section Findings

variable (bytes lines : Nat)

theorem sceneRowFindings_shift (listed : Bool) (rows : List Line) :
    sceneRowFindings listed (rows.map (·.shift bytes lines)) =
      (sceneRowFindings listed rows).map (·.shift bytes lines) := by
  rw [sceneRowFindings, sceneRowFindings, List.flatMap_map, List.map_flatMap]
  congr 1
  funext row
  rw [Line.content_shift, Line.number_shift, sceneOfRow?_shift]
  cases sceneOfRow? row.content <;> simp

theorem chartFindings_shift (outline : Outline) :
    chartFindings (outline.shift bytes lines) =
      (chartFindings outline).map (·.shift bytes lines) := by
  induction outline with
  | nil => rfl
  | entry row nested rest _ ih =>
      simp only [Outline.shift, chartFindings, ih, List.map_append, Line.content_shift,
        Fragment.splitWord?_shift]
      congr 1
      cases row.content.splitWord? with
      | none => rfl
      | some parts =>
          by_cases charted : isChartRow parts.1 = true
          · simp [charted, chartRowFindings_shift, List.flatMap_map, List.map_flatMap]
          · simp [charted]

theorem unexpectedFindings_shift (nested : Outline) :
    unexpectedFindings (nested.shift bytes lines) =
      (unexpectedFindings nested).map (·.shift bytes lines) := by
  simp only [unexpectedFindings, Outline.first?_shift]
  cases nested.first? <;> simp

theorem bodyFindings_shift (command : Command) (line : Line) (nested : Outline) :
    bodyFindings command (line.shift bytes lines) (nested.shift bytes lines) =
      (bodyFindings command line nested).map (·.shift bytes lines) := by
  cases bodyEq : command.body with
  | none => simp only [bodyFindings, bodyEq, unexpectedFindings_shift]
  | nested | remark => simp only [bodyFindings, bodyEq, List.map_nil]
  | options fake =>
      simp only [bodyFindings, bodyEq, Outline.hasOption_shift]
      split <;> simp
  | branch place =>
      simp only [bodyFindings, bodyEq, Outline.isEmpty_shift]
      split <;> simp
  | scenes listed => simp only [bodyFindings, bodyEq, Outline.roots_shift, sceneRowFindings_shift]
  | chart => simp only [bodyFindings, bodyEq, chartFindings_shift]

theorem commandFindings_shift (previous : Option Command) (command : Command)
    (arguments : Fragment) (line : Line) (nested : Outline) :
    commandFindings previous command (arguments.shift bytes) (line.shift bytes lines)
        (nested.shift bytes lines) =
      (commandFindings previous command arguments line nested).map (·.shift bytes lines) := by
  simp only [commandFindings, List.map_append, apply_ite (List.map (Finding.shift bytes lines)),
    bodyFindings_shift]
  simp [argumentFindings_shift]

theorem optionFindings_shift (surroundings : Surroundings) (option : OptionLine) (line : Line)
    (nested : Outline) :
    optionFindings surroundings (option.shift bytes) (line.shift bytes lines)
        (nested.shift bytes lines) =
      (optionFindings surroundings option line nested).map (·.shift bytes lines) := by
  simp only [optionFindings, List.map_append, apply_ite (List.map (Finding.shift bytes lines))]
  cases conditionEq : option.condition <;> simp [OptionLine.shift, conditionEq]

theorem lineFindings_shift (surroundings : Surroundings) (previous : Option Command)
    (line : Line) (nested : Outline) :
    lineFindings surroundings previous (line.shift bytes lines) (nested.shift bytes lines) =
      (lineFindings surroundings previous line nested).map (·.shift bytes lines) := by
  rw [lineFindings, lineFindings, Line.kind_shift]
  cases line.kind with
  | command known arguments =>
      exact commandFindings_shift bytes lines previous known arguments line nested
  | option option => exact optionFindings_shift bytes lines surroundings option line nested
  | prose => simp [LineKind.shift, unexpectedFindings_shift]
  | unknown name => simp [LineKind.shift, unknownSpan, Span.shift]

theorem Surroundings.under?_shift (surroundings : Surroundings) (line : Line) :
    surroundings.under? (line.shift bytes lines) = surroundings.under? line := by
  rw [under?, under?, Line.command?_shift]

theorem Line.previous_shift (line : Line) (previous : Option Command) :
    (line.shift bytes lines).previous previous = line.previous previous := by
  rw [Line.previous, Line.previous, Line.kind_shift, LineKind.isRemark_shift,
    Line.command?_shift]

/-- An outline is read alike wherever its lines stand. -/
theorem Outline.findings_shift (surroundings : Surroundings) (previous : Option Command)
    (outline : Outline) :
    (outline.shift bytes lines).findings surroundings previous =
      (outline.findings surroundings previous).map (·.shift bytes lines) := by
  induction outline generalizing surroundings previous with
  | nil => rfl
  | entry line nested rest nestedIh restIh =>
      simp only [shift, findings, lineFindings_shift, Surroundings.under?_shift,
        Line.previous_shift, restIh, List.map_append]
      cases surroundings.under? line with
      | none => rfl
      | some inner => simp only [nestedIh]

end Findings

end Gamebook
