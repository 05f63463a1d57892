import Gamebook.Proofs.OutlineParents
import Gamebook.Proofs.OutlinePlaces

/-!
# The structure of choices and branches

A choice owns the options under it, also through branches of conditions.  A scene is
checked against this in two ways.  For an option, the walk brings down from above what
surrounds it; for a choice, a search goes down through the branches under it.  Both
agree with ownership, which is said of two places alone.  So an option is at fault for
standing outside exactly if nothing owns it, and a choice is empty exactly if it owns
no option.  A branch is at fault by what stands before it on its level.
-/

namespace Gamebook

/-! ## Lines by the names of their commands -/

namespace Line

def isChoice (line : Line) : Bool :=
  line.isNamed ["choice", "fake_choice"]

def isBranch (line : Line) : Bool :=
  line.isNamed ["if", "elseif", "elsif", "else"]

/-- Whether the lines under the line are not walked. -/
def hidesNested (line : Line) : Bool :=
  line.isNamed ["comment", "scene_list", "goto_random_scene", "stat_chart"]

/-- What surrounds the lines directly under the line, unless it is a branch. -/
def opens (line : Line) : Surroundings :=
  if line.isNamed ["choice"] then .inChoice false
  else if line.isNamed ["fake_choice"] then .inChoice true
  else .outside

variable {line : Line} {names others : List String}

theorem isNamed_mono (named : line.isNamed names = true) (included : names ⊆ others) :
    line.isNamed others = true := by
  obtain ⟨command, isCommand, isName⟩ := isNamed_iff.1 named
  exact isNamed_iff.2 ⟨command, isCommand, included isName⟩

theorem isNamed_eq_false (named : line.isNamed names = true)
    (disjoint : ∀ name ∈ names, name ∉ others) : line.isNamed others = false := by
  obtain ⟨command, isCommand, isName⟩ := isNamed_iff.1 named
  rw [Option.mem_def] at isCommand
  simpa [isNamed, isCommand] using disjoint _ isName

theorem Known.under?_eq (known : line.Known) (surroundings : Surroundings) :
    surroundings.under? line =
      if line.hidesNested then none
      else some (if line.isBranch then surroundings else line.opens) := by
  unfold Surroundings.under? hidesNested isBranch opens isNamed
  cases commandEq : line.command? with
  | none => rfl
  | some command =>
      have isCommand := known command commandEq
      clear commandEq known
      cases surroundings with
      | outside => revert command; decide
      | inChoice fake => revert command fake; decide

theorem opens_eq_outside_iff : line.opens = .outside ↔ line.isChoice = false := by
  have parts : line.isChoice = (line.isNamed ["choice"] || line.isNamed ["fake_choice"]) := by
    unfold isChoice isNamed
    cases line.command? <;> simp
  rw [parts, opens]
  cases line.isNamed ["choice"] <;> cases line.isNamed ["fake_choice"] <;> simp

theorem opens_eq_inChoice_iff : line.opens = .inChoice false ↔ line.isNamed ["choice"] = true := by
  rw [opens]
  cases line.isNamed ["choice"] <;> cases line.isNamed ["fake_choice"] <;> simp

end Line

/-! ## What surrounds and precedes a place -/

namespace Place

/-- Whether the walk reaches the place. -/
def isWalked (place : Place) : Bool :=
  place.above.all (!·.hidesNested)

/-- The nearest line above that is not a branch. -/
def holder? (place : Place) : Option Line :=
  place.above.find? (!·.isBranch)

/-- What surrounds a place, by the line that holds it. -/
def surroundings (place : Place) : Surroundings :=
  (place.holder?.map Line.opens).getD .outside

variable {place : Place}

theorem surroundings_eq_outside_iff :
    place.surroundings = .outside ↔
      ¬ ∃ line, place.holder? = some line ∧ line.isChoice = true := by
  unfold surroundings
  cases place.holder? with
  | none => simp
  | some line => simp [Line.opens_eq_outside_iff]

theorem surroundings_eq_inChoice_iff :
    place.surroundings = .inChoice false ↔
      ∃ line, place.holder? = some line ∧ line.isNamed ["choice"] = true := by
  unfold surroundings
  cases place.holder? with
  | none => simp
  | some line => simp [Line.opens_eq_inChoice_iff]

end Place

theorem Surroundings.within_eq {above : List Line} (known : ∀ line ∈ above, line.Known) :
    within above =
      if above.all (!·.hidesNested) then
        some (((above.find? (!·.isBranch)).map Line.opens).getD .outside)
      else
        none := by
  induction above with
  | nil => rfl
  | cons line above ih =>
      obtain ⟨lineKnown, aboveKnown⟩ := List.forall_mem_cons.1 known
      rw [within, ih aboveKnown, List.all_cons, List.find?_cons]
      cases walked : above.all (!·.hidesNested) <;> cases hides : line.hidesNested <;>
        cases isBranch : line.isBranch <;> simp [lineKnown.under?_eq, hides, isBranch]

theorem any_admitsBranch_previousOf {before : List Line} (known : ∀ line ∈ before, line.Known) :
    (previousOf before).any (·.admitsBranch) =
      (before.find? (!·.isNamed ["comment"])).any (·.isNamed ["if", "elseif", "elsif"]) := by
  induction before with
  | nil => rfl
  | cons line before ih =>
      obtain ⟨lineKnown, beforeKnown⟩ := List.forall_mem_cons.1 known
      have isRemark : line.kind.isRemark = line.isNamed ["comment"] := lineKnown.any_eq (by decide)
      have admitsBranch : line.command?.any (·.admitsBranch) =
          line.isNamed ["if", "elseif", "elsif"] := lineKnown.any_eq (by decide)
      rw [previousOf, List.foldr_cons, Line.previous, isRemark, List.find?_cons]
      cases line.isNamed ["comment"]
      · simpa using admitsBranch
      · exact ih beforeKnown

/-! ## Ownership -/

/-- The places that the walk reaches. -/
def Outline.walked (outline : Outline) : List Place :=
  outline.places.filter (·.isWalked)

/-- Only branches stand between the choice and the other place, which is under it. -/
def Place.Owns (choice other : Place) : Prop :=
  choice.line.isChoice = true ∧ other ∈ choice.below ∧
    ∃ between, other.above = between ++ choice.line :: choice.above ∧
      ∀ line ∈ between, line.isBranch = true

section Ownership

variable {outline : Outline} {place choice : Place}

theorem Outline.mem_walked_iff :
    place ∈ outline.walked ↔ place ∈ outline.places ∧ ∀ line ∈ place.above,
      line.hidesNested = false := by
  simp [Outline.walked, Place.isWalked]

/-- What owns a place is the nearest line above it that is not a branch. -/
theorem Place.exists_owner_iff (isPlace : place ∈ outline.walked) (holds : Line → Prop) :
    (∃ choice ∈ outline.walked, choice.Owns place ∧ holds choice.line) ↔
      ∃ line, place.holder? = some line ∧ line.isChoice = true ∧ holds line := by
  obtain ⟨inOutline, walked⟩ := Outline.mem_walked_iff.1 isPlace
  constructor
  · rintro ⟨choice, _, ⟨isChoice, _, between, aboveEq, branches⟩, holdsOf⟩
    have notBranch : choice.line.isBranch = false := Line.isNamed_eq_false isChoice (by decide)
    refine ⟨choice.line, ?_, isChoice, holdsOf⟩
    rw [Place.holder?, List.find?_eq_some_iff_append]
    exact ⟨by simp [notBranch], between, choice.above, aboveEq, by simpa using branches⟩
  · rintro ⟨line, holderEq, isChoice, holdsOf⟩
    rw [Place.holder?, List.find?_eq_some_iff_append] at holderEq
    obtain ⟨_, between, beyond, aboveEq, branches⟩ := holderEq
    have fromTop : place.above = between ++ line :: (beyond ++ []) := by simpa using aboveEq
    obtain ⟨choice, choiceIn, rfl, beyondEq, isBelow⟩ :=
      Outline.exists_place_above inOutline fromTop
    rw [List.append_nil] at beyondEq
    refine ⟨choice, ?_, ⟨isChoice, isBelow, between, by rw [aboveEq, beyondEq], ?_⟩, holdsOf⟩
    · refine Outline.mem_walked_iff.2 ⟨choiceIn, fun line isAbove => walked line ?_⟩
      rw [aboveEq, ← beyondEq]
      simp [isAbove]
    · simpa using branches

theorem Place.Owns.walked (owns : choice.Owns place) (isChoice : choice ∈ outline.walked) :
    place ∈ outline.walked := by
  obtain ⟨choiceIn, walked⟩ := Outline.mem_walked_iff.1 isChoice
  obtain ⟨opens, isBelow, between, aboveEq, branches⟩ := owns
  refine Outline.mem_walked_iff.2 ⟨Outline.below_subset choiceIn isBelow, ?_⟩
  intro line isAbove
  rw [aboveEq, List.mem_append, List.mem_cons] at isAbove
  rcases isAbove with isBetween | rfl | isBeyond
  · exact Line.isNamed_eq_false (branches line isBetween) (by decide)
  · exact Line.isNamed_eq_false opens (by decide)
  · exact walked line isBeyond

/-- The search for an option finds one exactly if one stands under branches only. -/
theorem Outline.hasOption_iff (known : ∀ line ∈ outline.lines, line.Known)
    (above before : List Line) :
    outline.hasOption = true ↔
      ∃ place ∈ outline.placesFrom above before, place.line.kind.isOption = true ∧
        ∃ between, place.above = between ++ above ∧ ∀ line ∈ between, line.isBranch = true := by
  induction outline generalizing above before with
  | nil => simp [hasOption, placesFrom]
  | entry line nested rest nestedIh restIh =>
      have lineKnown : line.Known := known line (by simp [lines])
      have nestedIff := nestedIh (fun other isOther => known other (by simp [lines, isOther]))
        (line :: above) []
      have restIff := restIh (fun other isOther => known other (by simp [lines, isOther]))
        above (line :: before)
      have isBranch : line.command?.any (·.isBranch) = line.isBranch := lineKnown.any_eq (by decide)
      simp only [hasOption, isBranch, Bool.or_eq_true, Bool.and_eq_true, nestedIff, restIff,
        mem_placesFrom_entry]
      constructor
      · rintro ((isOption | ⟨branch, place, isPlace, isOption, between, aboveEq, branches⟩) |
          ⟨place, isPlace, found⟩)
        · exact ⟨_, Or.inl rfl, isOption, [], rfl, by simp⟩
        · refine ⟨place, Or.inr (Or.inl isPlace), isOption, between ++ [line], ?_, ?_⟩
          · simp [aboveEq]
          · intro other isOther
            rw [List.mem_append, List.mem_singleton] at isOther
            rcases isOther with isBetween | rfl
            · exact branches other isBetween
            · exact branch
        · exact ⟨place, Or.inr (Or.inr isPlace), found⟩
      · rintro ⟨place, rfl | isBelow | isLater, isOption, between, aboveEq, branches⟩
        · exact Or.inl (Or.inl isOption)
        · -- the line itself is the outermost of those between
          obtain ⟨inner, innerEq, _⟩ := exists_between isBelow
          have endsEq : between ++ above = (inner ++ [line]) ++ above := by
            simpa [aboveEq] using innerEq
          obtain rfl := List.append_cancel_right endsEq
          refine Or.inl (Or.inr ⟨branches line (by simp), place, isBelow, isOption, inner,
            innerEq, ?_⟩)
          exact fun other isOther => branches other (by simp [isOther])
        · exact Or.inr ⟨place, isLater, isOption, between, aboveEq, branches⟩

theorem Place.hasOption_iff_owns (known : ∀ line ∈ outline.lines, line.Known)
    (isPlace : choice ∈ outline.walked) (isChoice : choice.line.isChoice = true) :
    choice.nested.hasOption = true ↔
      ∃ option ∈ outline.walked, option.line.kind.isOption = true ∧ choice.Owns option := by
  have inOutline := (Outline.mem_walked_iff.1 isPlace).1
  have nestedKnown : ∀ line ∈ choice.nested.lines, line.Known := fun line isLine =>
    known line (Outline.nested_lines_subset inOutline isLine)
  rw [Outline.hasOption_iff nestedKnown (choice.line :: choice.above) []]
  constructor
  · rintro ⟨option, isBelow, isOption, found⟩
    have owns : choice.Owns option := ⟨isChoice, isBelow, found⟩
    exact ⟨option, owns.walked isPlace, isOption, owns⟩
  · rintro ⟨option, _, isOption, _, isBelow, found⟩
    exact ⟨option, isBelow, isOption, found⟩

end Ownership

/-! ## Faults of structure -/

/-- The fault is about a choice, its options or a branch. -/
def FaultCause.IsStructural : FaultCause → Prop
  | optionOutsideChoice | emptyBlock _ | orphanElse _ => True
  | _ => False

section Faults

variable {cause : FaultCause} {span : Span} {place : Place}

/-- The line is at fault for the cause, by what surrounds it, precedes it and is nested
under it. -/
def StructureFault (surroundings : Surroundings) (previous : Option Command) (line : Line)
    (nested : Outline) (cause : FaultCause) : Prop :=
  (line.kind.isOption = true ∧
      (cause = .optionOutsideChoice ∧ surroundings = .outside ∨
        cause = .emptyBlock "#option" ∧ surroundings = .inChoice false ∧
          nested.isEmpty = true)) ∨
    ∃ command ∈ line.command?,
      (cause = .orphanElse command.name ∧ command.continuesChain = true ∧
          previous.any (·.admitsBranch) = false) ∨
        (cause = .emptyBlock ("*" ++ command.name) ∧
          ((∃ fake, command.body = .options fake) ∧ nested.hasOption = false ∨
            (∃ place, command.body = .branch place) ∧ nested.isEmpty = true))

section Causes

variable {surroundings : Surroundings} {previous : Option Command} {line : Line}
  {nested : Outline} {name : String}

theorem structureFault_optionOutsideChoice_iff :
    StructureFault surroundings previous line nested .optionOutsideChoice ↔
      line.kind.isOption = true ∧ surroundings = .outside := by
  simp [StructureFault]

theorem option_ne_star_append (name : String) : "#option" ≠ "*" ++ name := by
  intro textEq
  have := congrArg String.toList textEq
  simp at this

theorem structureFault_emptyOption_iff :
    StructureFault surroundings previous line nested (.emptyBlock "#option") ↔
      line.kind.isOption = true ∧ surroundings = .inChoice false ∧ nested.isEmpty = true := by
  simp [StructureFault, option_ne_star_append]

theorem structureFault_emptyCommand_iff :
    StructureFault surroundings previous line nested (.emptyBlock ("*" ++ name)) ↔
      ∃ command ∈ line.command?, name = command.name ∧
        ((∃ fake, command.body = .options fake) ∧ nested.hasOption = false ∨
          (∃ place, command.body = .branch place) ∧ nested.isEmpty = true) := by
  simp [StructureFault, (option_ne_star_append name).symm]

theorem structureFault_orphanElse_iff :
    StructureFault surroundings previous line nested (.orphanElse name) ↔
      (∃ command ∈ line.command?, name = command.name ∧ command.continuesChain = true) ∧
        previous.any (·.admitsBranch) = false := by
  simp [StructureFault, ← exists_and_right, and_assoc]

theorem wrong_mem_lineFindings_iff (structural : cause.IsStructural) :
    .wrong cause span ∈ lineFindings surroundings previous line nested ↔
      span = line.span ∧ StructureFault surroundings previous line nested cause := by
  have notWording : ¬ cause.IsWording := by
    cases cause <;> simp_all [FaultCause.IsStructural, FaultCause.IsWording]
  have notUnexpected : .wrong cause span ∉ unexpectedFindings nested := by
    rw [wrong_mem_unexpectedFindings_iff]
    rintro ⟨rfl, _⟩
    exact structural
  have notMissing (name : String) : cause ≠ .missingArgument name := by
    rintro rfl
    exact structural
  have notUnknown (name : String) : cause ≠ .unknownCommand name := by
    rintro rfl
    exact structural
  rw [wrong_mem_lineFindings_iff_of_kind notWording]
  cases kindEq : line.kind with
  | command command arguments =>
      simp only [wrong_mem_commandFindings_iff notWording,
        wrong_mem_bodyFindings_iff notWording, notUnexpected, notMissing, StructureFault,
        Line.command?, kindEq, LineKind.command?, LineKind.isOption, Option.mem_def,
        Option.some.injEq, exists_eq_left', false_and, and_false, false_or, Bool.false_eq_true]
      grind
  | option option =>
      simp [wrong_mem_optionFindings_iff notWording, StructureFault, Line.command?, kindEq,
        LineKind.command?, LineKind.isOption]
  | prose =>
      simp [notUnexpected, StructureFault, Line.command?, kindEq, LineKind.command?,
        LineKind.isOption]
  | unknown name =>
      simp [notUnknown, StructureFault, Line.command?, kindEq, LineKind.command?,
        LineKind.isOption]

end Causes

variable {scene : Scene}

theorem Place.mem_findings_iff {finding : Finding} (known : ∀ line ∈ place.above, line.Known) :
    finding ∈ place.findings ↔ place.isWalked = true ∧
      finding ∈ lineFindings place.surroundings (previousOf place.before) place.line
        place.nested := by
  rw [Place.findings, Surroundings.within_eq known, ← Place.isWalked, ← Place.holder?,
    ← Place.surroundings]
  cases place.isWalked with
  | false => simp
  | true => simp

/-- But for indentation, the faults of a scene are those of its lines where the walk comes. -/
theorem Scene.wrong_mem_faults_iff (notIndent : cause ≠ .inconsistentIndent) :
    ⟨cause, span⟩ ∈ scene.faults ↔
      ∃ place ∈ scene.outline.walked, .wrong cause span ∈
        lineFindings place.surroundings (previousOf place.before) place.line place.nested := by
  have notAmongIndents : .wrong cause span ∉ scene.outline.indentFindings none := by
    rw [Outline.mem_indentFindings_iff]
    rintro (⟨_, _, _, isNone, _⟩ | ⟨_, _, _, _, findingEq⟩)
    · simp at isNone
    · exact notIndent (Finding.wrong_inj.1 findingEq).1
  have known (place : Place) (isPlace : place ∈ scene.outline.places) :
      ∀ line ∈ place.above, line.Known := fun line isAbove =>
    known_of_mem_lines (Outline.above_subset_lines isPlace isAbove)
  rw [mem_faults_iff]
  simp only [Finding.fault?_eq_some_iff, exists_eq_right, Outline.allFindings, List.mem_append,
    notAmongIndents, false_or, Outline.findings_eq_flatMap_places, List.mem_flatMap,
    Outline.walked, List.mem_filter]
  constructor
  · rintro ⟨place, isPlace, isFound⟩
    obtain ⟨isWalked, found⟩ := (place.mem_findings_iff (known place isPlace)).1 isFound
    exact ⟨place, ⟨isPlace, isWalked⟩, found⟩
  · rintro ⟨place, ⟨isPlace, isWalked⟩, found⟩
    exact ⟨place, isPlace, (place.mem_findings_iff (known place isPlace)).2 ⟨isWalked, found⟩⟩

theorem Scene.structural_mem_faults_iff (structural : cause.IsStructural) :
    ⟨cause, span⟩ ∈ scene.faults ↔
      ∃ place ∈ scene.outline.walked, place.line.span = span ∧
        StructureFault place.surroundings (previousOf place.before) place.line place.nested
          cause := by
  have notIndent : cause ≠ .inconsistentIndent := by
    rintro rfl
    exact structural
  rw [wrong_mem_faults_iff notIndent]
  simp only [wrong_mem_lineFindings_iff structural, @eq_comm _ span]

theorem Scene.walked_spans_nodup (scene : Scene) :
    (scene.outline.walked.map (·.line.span)).Nodup := by
  have spans : (scene.outline.lines.map (·.span)).Nodup := by
    apply List.pairwise_map.2
    apply scene.lines_nodup.imp_of_mem
    intro first second isFirst isSecond different spanEq
    exact different (line_eq_of_span_eq isFirst isSecond spanEq)
  rw [← scene.outline.map_line_placesFrom [] [], List.map_map] at spans
  exact spans.sublist (List.filter_sublist.map _)

theorem Scene.optionOutsideChoice_mem_faults_iff :
    ⟨.optionOutsideChoice, span⟩ ∈ scene.faults ↔
      ∃ place ∈ scene.outline.walked,
        place.line.span = span ∧ place.line.kind.isOption = true ∧
          ¬ ∃ choice ∈ scene.outline.walked, choice.Owns place := by
  rw [structural_mem_faults_iff (by trivial)]
  refine exists_congr fun place => and_congr_right fun isPlace => and_congr_right fun _ => ?_
  have owned : (∃ choice ∈ scene.outline.walked, choice.Owns place) ↔
      ∃ line, place.holder? = some line ∧ line.isChoice = true := by
    simpa using place.exists_owner_iff isPlace fun _ => True
  rw [structureFault_optionOutsideChoice_iff, owned, Place.surroundings_eq_outside_iff]

theorem Scene.emptyOption_mem_faults_iff :
    ⟨.emptyBlock "#option", span⟩ ∈ scene.faults ↔
      ∃ place ∈ scene.outline.walked,
        place.line.span = span ∧ place.line.kind.isOption = true ∧
          (∃ choice ∈ scene.outline.walked,
            choice.Owns place ∧ choice.line.isNamed ["choice"] = true) ∧
          place.nested.isEmpty = true := by
  rw [structural_mem_faults_iff (by trivial)]
  refine exists_congr fun place => and_congr_right fun isPlace => and_congr_right fun _ => ?_
  have isChoice (line : Line) (named : line.isNamed ["choice"] = true) : line.isChoice = true :=
    Line.isNamed_mono named (by decide)
  have owned : (∃ choice ∈ scene.outline.walked,
        choice.Owns place ∧ choice.line.isNamed ["choice"] = true) ↔
      ∃ line, place.holder? = some line ∧ line.isNamed ["choice"] = true := by
    rw [place.exists_owner_iff isPlace fun line => line.isNamed ["choice"] = true]
    grind
  rw [structureFault_emptyOption_iff, owned, Place.surroundings_eq_inChoice_iff]

theorem Scene.emptyChoice_mem_faults_iff {name : String}
    (isName : name ∈ ["choice", "fake_choice"]) :
    ⟨.emptyBlock ("*" ++ name), span⟩ ∈ scene.faults ↔
      ∃ place ∈ scene.outline.walked,
        place.line.span = span ∧ place.line.isNamed [name] = true ∧
          ¬ ∃ option ∈ scene.outline.walked,
            option.line.kind.isOption = true ∧ place.Owns option := by
  have takesOptions : ∀ command ∈ Command.table, command.name ∈ ["choice", "fake_choice"] →
      command.body = .options (command.name == "fake_choice") := by
    decide
  rw [structural_mem_faults_iff (by trivial)]
  refine exists_congr fun place => and_congr_right fun isPlace => and_congr_right fun _ => ?_
  have inOutline := (Outline.mem_walked_iff.1 isPlace).1
  have known := scene.known_of_mem_lines (Outline.line_mem_lines inOutline)
  -- a choice is no branch, and on a choice the two ways to look for options agree
  have lackingIff (command : Command) (isCommand : command ∈ place.line.command?)
      (nameEq : name = command.name) :
      ((∃ fake, command.body = .options fake) ∧ place.nested.hasOption = false ∨
          (∃ chain, command.body = .branch chain) ∧ place.nested.isEmpty = true) ↔
        ¬ ∃ option ∈ scene.outline.walked,
          option.line.kind.isOption = true ∧ place.Owns option := by
    subst nameEq
    have isChoice : place.line.isChoice = true := Line.isNamed_iff.2 ⟨command, isCommand, isName⟩
    have bodyEq := takesOptions command (known command isCommand) isName
    rw [← place.hasOption_iff_owns (fun line isLine => scene.known_of_mem_lines isLine) isPlace
      isChoice]
    simp [bodyEq]
  rw [structureFault_emptyCommand_iff, Line.isNamed_iff]
  constructor
  · rintro ⟨command, isCommand, nameEq, lacking⟩
    exact ⟨⟨command, isCommand, by simp [nameEq]⟩, (lackingIff command isCommand nameEq).1 lacking⟩
  · rintro ⟨⟨command, isCommand, isSame⟩, ownsNone⟩
    have nameEq : name = command.name := (List.mem_singleton.1 isSame).symm
    exact ⟨command, isCommand, nameEq, (lackingIff command isCommand nameEq).2 ownsNone⟩

theorem Scene.orphanElse_mem_faults_iff {name : String} :
    ⟨.orphanElse name, span⟩ ∈ scene.faults ↔
      ∃ place ∈ scene.outline.walked, place.line.span = span ∧
        (name ∈ ["else", "elseif", "elsif"] ∧ place.line.isNamed [name] = true) ∧
          ∀ previous, place.before.find? (!·.isNamed ["comment"]) = some previous →
            previous.isNamed ["if", "elseif", "elsif"] = false := by
  have continuesChain : ∀ command ∈ Command.table,
      command.continuesChain = ["else", "elseif", "elsif"].contains command.name := by
    decide
  rw [structural_mem_faults_iff (by trivial)]
  refine exists_congr fun place => and_congr_right fun isPlace => and_congr_right fun _ => ?_
  have inOutline := (Outline.mem_walked_iff.1 isPlace).1
  have known := scene.known_of_mem_lines (Outline.line_mem_lines inOutline)
  have beforeKnown : ∀ line ∈ place.before, line.Known := fun line isBefore =>
    scene.known_of_mem_lines (by simpa using Outline.before_subset inOutline isBefore)
  have branchIff : (∃ command ∈ place.line.command?, name = command.name ∧
        command.continuesChain = true) ↔
      name ∈ ["else", "elseif", "elsif"] ∧ place.line.isNamed [name] = true := by
    rw [Line.isNamed_iff]
    constructor
    · rintro ⟨command, isCommand, rfl, continues⟩
      rw [continuesChain command (known command isCommand)] at continues
      exact ⟨by simpa using continues, command, isCommand, List.mem_singleton_self _⟩
    · rintro ⟨isName, command, isCommand, nameEq⟩
      obtain rfl := List.mem_singleton.1 nameEq
      refine ⟨command, isCommand, rfl, ?_⟩
      rw [continuesChain command (known command isCommand)]
      simpa using isName
  have previousIff : (previousOf place.before).any (·.admitsBranch) = false ↔
      ∀ previous, place.before.find? (!·.isNamed ["comment"]) = some previous →
        previous.isNamed ["if", "elseif", "elsif"] = false := by
    rw [any_admitsBranch_previousOf beforeKnown, Option.any_eq_false]
  rw [structureFault_orphanElse_iff, branchIff, previousIff]

end Faults

/-- Reading a scene finds faults in the structure of its choices and branches exactly where
they are, among the places that are walked.  An option is outside a choice if nothing
owns it, and lacks a body if a `*choice` owns it and nothing is nested under it.  A
choice is empty if it owns no option.  A further branch is an orphan unless the nearest
line before it on its level that is not a `*comment` is a branch it can continue. -/
theorem Scene.structure_faults_exact (scene : Scene) :
    (scene.outline.walked.map (·.line.span)).Nodup ∧
      ∀ span,
        (⟨.optionOutsideChoice, span⟩ ∈ scene.faults ↔
          ∃ place ∈ scene.outline.walked,
            place.line.span = span ∧ place.line.kind.isOption = true ∧
              ¬ ∃ choice ∈ scene.outline.walked, choice.Owns place) ∧
        (⟨.emptyBlock "#option", span⟩ ∈ scene.faults ↔
          ∃ place ∈ scene.outline.walked,
            place.line.span = span ∧ place.line.kind.isOption = true ∧
              (∃ choice ∈ scene.outline.walked,
                choice.Owns place ∧ choice.line.isNamed ["choice"] = true) ∧
              place.nested.isEmpty = true) ∧
        (∀ name ∈ ["choice", "fake_choice"],
          ⟨.emptyBlock ("*" ++ name), span⟩ ∈ scene.faults ↔
            ∃ place ∈ scene.outline.walked,
              place.line.span = span ∧ place.line.isNamed [name] = true ∧
                ¬ ∃ option ∈ scene.outline.walked,
                  option.line.kind.isOption = true ∧ place.Owns option) ∧
        ∀ name,
          ⟨.orphanElse name, span⟩ ∈ scene.faults ↔
            ∃ place ∈ scene.outline.walked, place.line.span = span ∧
              (name ∈ ["else", "elseif", "elsif"] ∧ place.line.isNamed [name] = true) ∧
                ∀ previous, place.before.find? (!·.isNamed ["comment"]) = some previous →
                  previous.isNamed ["if", "elseif", "elsif"] = false := by
  refine ⟨scene.walked_spans_nodup, fun span => ?_⟩
  exact ⟨optionOutsideChoice_mem_faults_iff, emptyOption_mem_faults_iff,
    fun name isName => emptyChoice_mem_faults_iff isName,
    fun name => orphanElse_mem_faults_iff⟩

end Gamebook
