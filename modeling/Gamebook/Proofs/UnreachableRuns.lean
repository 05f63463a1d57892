import Gamebook.Rules.Check
import Mathlib.Data.List.SplitBy

/-!
# Runs of lines that cannot be reached

On each level of an outline the story can be entered at labels, at further
branches of a condition and at options, whatever stands before them.  Cut before
these lines, a level falls into runs.  A run is reported once if a line other
than a comment follows the first command in it that ends the story, and the report
is on the first such line.

The walk over an outline goes down under each line before it goes on behind it.
What it reports on one level depends on that level only, so the reports of the
walk are, in another order, those of all levels.
-/

namespace Gamebook

/-! ## Levels and runs -/

/-- The story can be entered at the line, whatever stands before it. -/
inductive Line.Enterable (line : Line) : Prop where
  | option (option : OptionLine) (kindEq : line.kind = .option option)
  | command (command : Command) (commandEq : line.command? = some command)
      (named : command.name ∈ ["label", "else", "elseif", "elsif"])

@[simp]
theorem Reach.isEntrance_iff {line : Line} : isEntrance line = true ↔ line.Enterable := by
  rw [isEntrance, Bool.or_eq_true, Line.isNamed_iff]
  constructor
  · rintro (isOption | ⟨command, commandEq, named⟩)
    · cases kindEq : line.kind with
      | option option => exact .option option kindEq
      | _ => simp [kindEq, LineKind.isOption] at isOption
    · exact .command command commandEq named
  · rintro (⟨option, kindEq⟩ | ⟨command, commandEq, named⟩)
    · exact .inl (by rw [kindEq]; rfl)
    · exact .inr ⟨command, commandEq, named⟩

instance (line : Line) : Decidable line.Enterable :=
  decidable_of_iff _ Reach.isEntrance_iff

namespace Outline

/-- The lines of the top level, each with what is nested under it. -/
def entries : Outline → List (Line × Outline)
  | nil => []
  | entry line nested rest => (line, nested) :: rest.entries

/-- The levels under the lines of an outline. -/
def levelsBelow : Outline → List (List (Line × Outline))
  | nil => []
  | entry _ nested rest => nested.entries :: (nested.levelsBelow ++ rest.levelsBelow)

/-- Every level: the top one and the one under each line. -/
def levels (outline : Outline) : List (List (Line × Outline)) :=
  outline.entries :: outline.levelsBelow

/-- A level cut before each line at which the story can be entered. -/
def runs (level : List (Line × Outline)) : List (List (Line × Outline)) :=
  level.splitBy fun _ next => !decide next.1.Enterable

/-- From the start of a line to the end of the last line under it. -/
def subtreeSpan (entry : Line × Outline) : Span :=
  ⟨entry.1.span.start, (entry.2.lines.getLast?.getD entry.1).span.stop⟩

end Outline

/-- Whether the story never goes on behind the line. -/
def Line.isTerminal (line : Line) : Bool :=
  line.command?.any (·.terminal)

/-- The first line other than a comment behind the first terminal line. -/
def firstUnreachable? (run : List (Line × Outline)) : Option (Line × Outline) :=
  (run.dropWhile fun entry => !entry.1.isTerminal).tail.find?
    fun entry => !entry.1.isNamed ["comment"]

/-- The report that a line and what is nested under it cannot be reached. -/
def unreachableReport (entry : Line × Outline) : Report :=
  .ofViolation .unreachableCode (Outline.subtreeSpan entry)

/-! ## One line -/

namespace Reach

@[simp]
theorem enter_of_not_entrance {line : Line} (plain : ¬ line.Enterable) (reach : Reach) :
    reach.enter line = reach := by
  simp [enter, plain]

@[simp]
theorem enter_live (line : Line) : live.enter line = live := by
  simp [enter]

@[simp]
theorem reports_live (line : Line) : live.reports line = false := rfl

@[simp]
theorem reports_dead (line : Line) : dead.reports line = !line.isNamed ["comment"] := rfl

@[simp]
theorem reports_reported (line : Line) : reported.reports line = false := rfl

@[simp]
theorem leave_live (line : Line) :
    live.leave line = if line.isTerminal then dead else live := rfl

@[simp]
theorem leave_dead (line : Line) :
    dead.leave line = if line.isNamed ["comment"] then dead else reported := by
  cases isComment : line.isNamed ["comment"] <;> simp [leave, isComment]

@[simp]
theorem leave_reported (line : Line) : reported.leave line = reported := rfl

end Reach

/-! ## One level -/

/-- The reports of a level, without those of the levels below. -/
def levelReports : Reach → List (Line × Outline) → List Report
  | _, [] => []
  | reach, entry :: rest =>
      (if (reach.enter entry.1).reports entry.1 then [unreachableReport entry] else []) ++
        levelReports ((reach.enter entry.1).leave entry.1) rest

section Level

variable {run rest : List (Line × Outline)}

/-- Where the story can be entered, it does not matter what stood before. -/
theorem levelReports_of_entrance
    (entrance : ∀ next ∈ rest.head?, next.1.Enterable) (reach : Reach) :
    levelReports reach rest = levelReports .live rest := by
  cases rest with
  | nil => rfl
  | cons next others =>
      have entered := entrance next rfl
      simp only [levelReports, Reach.enter, Reach.isEntrance_iff, entered, if_true]

theorem levelReports_reported (plain : ∀ other ∈ run, ¬ other.1.Enterable)
    (entrance : ∀ next ∈ rest.head?, next.1.Enterable) :
    levelReports .reported (run ++ rest) = levelReports .live rest := by
  induction run with
  | nil => exact levelReports_of_entrance entrance .reported
  | cons entry others ih =>
      rw [List.forall_mem_cons] at plain
      simpa [levelReports, plain.1] using ih plain.2

theorem levelReports_dead (plain : ∀ other ∈ run, ¬ other.1.Enterable)
    (entrance : ∀ next ∈ rest.head?, next.1.Enterable) :
    levelReports .dead (run ++ rest) =
      ((run.find? fun other => !other.1.isNamed ["comment"]).map unreachableReport).toList ++
        levelReports .live rest := by
  induction run with
  | nil => exact levelReports_of_entrance entrance .dead
  | cons entry others ih =>
      rw [List.forall_mem_cons] at plain
      by_cases isComment : entry.1.isNamed ["comment"] = true
      · simpa [levelReports, plain.1, isComment] using ih plain.2
      · simpa [levelReports, plain.1, isComment] using levelReports_reported plain.2 entrance

/-- From a place that the story reaches, a run is reported once or not at all. -/
theorem levelReports_live (plain : ∀ other ∈ run.tail, ¬ other.1.Enterable)
    (entrance : ∀ next ∈ rest.head?, next.1.Enterable) :
    levelReports .live (run ++ rest) =
      ((firstUnreachable? run).map unreachableReport).toList ++ levelReports .live rest := by
  induction run with
  | nil => rfl
  | cons entry others ih =>
      rw [List.tail_cons] at plain
      by_cases isTerminal : entry.1.isTerminal = true
      · -- behind a terminal line the run is dead up to its end
        simpa [levelReports, firstUnreachable?, isTerminal] using levelReports_dead plain entrance
      · have later := ih fun other isOther => plain other (List.mem_of_mem_tail isOther)
        simpa [levelReports, firstUnreachable?, isTerminal] using later

end Level

theorem levelReports_flatten {runs : List (List (Line × Outline))}
    (inside : ∀ run ∈ runs, ∀ other ∈ run.tail, ¬ other.1.Enterable)
    (between : runs.IsChain fun _ next =>
      ∃ entry ∈ next.head?, entry.1.Enterable) :
    levelReports .live runs.flatten =
      runs.filterMap fun run => (firstUnreachable? run).map unreachableReport := by
  induction runs with
  | nil => rfl
  | cons run others ih =>
      have entrance : ∀ next ∈ others.flatten.head?, next.1.Enterable := by
        cases others with
        | nil => simp
        | cons second further =>
            obtain ⟨entry, isHead, entered⟩ := (List.isChain_cons_cons.1 between).1
            intro next isNext
            rw [List.flatten_cons, List.head?_append, isHead] at isNext
            obtain rfl : entry = next := by simpa using isNext
            exact entered
      have later := ih (fun other isOther => inside other (List.mem_cons_of_mem _ isOther))
        between.tail
      rw [List.flatten_cons, levelReports_live (inside run List.mem_cons_self) entrance, later,
        List.filterMap_cons]
      cases firstUnreachable? run <;> rfl

theorem plain_of_mem_runs {level run : List (Line × Outline)} (isRun : run ∈ Outline.runs level) :
    ∀ other ∈ run.tail, ¬ other.1.Enterable := by
  intro other isOther
  -- only the later of two neighbours is tested, so the test passes on along the run
  have passesOn : IsTrans (Line × Outline) fun _ next => (!decide next.1.Enterable) = true :=
    ⟨fun _ _ _ _ later => later⟩
  have ordered := (List.isChain_of_mem_splitBy isRun).pairwise
  cases run with
  | nil => simp at isOther
  | cons entry others => simpa using (List.pairwise_cons.1 ordered).1 other isOther

theorem levelReports_eq (level : List (Line × Outline)) :
    levelReports .live level =
      (Outline.runs level).filterMap fun run =>
        (firstUnreachable? run).map unreachableReport := by
  have between := List.isChain_getLast_head_splitBy (fun _ next => !decide next.1.Enterable) level
  have parts := List.flatten_splitBy (fun _ next => !decide next.1.Enterable) level
  rw [← levelReports_flatten (fun run => plain_of_mem_runs)]
  · rw [Outline.runs, parts]
  · apply between.imp
    rintro first next ⟨_, notEmpty, entered⟩
    exact ⟨next.head notEmpty, List.head_mem_head? notEmpty, by simpa using entered⟩

/-! ## All levels -/

theorem unreachableReports_perm_levels (reach : Reach) (outline : Outline) :
    (unreachableReports reach outline).Perm
      (levelReports reach outline.entries ++ outline.levelsBelow.flatMap (levelReports .live)) := by
  induction outline generalizing reach with
  | nil => exact .refl _
  | entry line nested rest nestedIh restIh =>
      have below := nestedIh .live
      have behind := restIh ((reach.enter line).leave line)
      rw [List.perm_iff_count] at below behind ⊢
      intro report
      have spanEq : unreachableReport (line, nested) =
          .ofViolation .unreachableCode
            ⟨line.span.start, (Outline.lastOf line nested).span.stop⟩ := by
        rw [unreachableReport, Outline.subtreeSpan, Outline.lastOf, Outline.last?_eq]
      have belowCount := below report
      have behindCount := behind report
      simp only [unreachableReports, Outline.entries, Outline.levelsBelow, levelReports, spanEq,
        List.flatMap_cons, List.flatMap_append, List.count_append] at belowCount behindCount ⊢
      omega

theorem unreachableReports_perm (outline : Outline) :
    (unreachableReports .live outline).Perm
      ((outline.levels.flatMap Outline.runs).filterMap fun run =>
        (firstUnreachable? run).map unreachableReport) := by
  have perm := unreachableReports_perm_levels .live outline
  rw [← List.flatMap_cons] at perm
  rw [List.filterMap_flatMap]
  exact perm.trans (.of_eq (List.flatMap_congr fun level _ => levelReports_eq level))

theorem Outline.flatten_levels_perm (outline : Outline) :
    (outline.levels.flatten.map Prod.fst).Perm outline.lines := by
  induction outline with
  | nil => exact .refl _
  | entry line nested rest nestedIh restIh =>
      rw [List.perm_iff_count] at nestedIh restIh ⊢
      intro other
      have nestedCount := nestedIh other
      have restCount := restIh other
      simp only [levels, entries, levelsBelow, lines, List.flatten_cons, List.flatten_append,
        List.map_append, List.map_cons, List.cons_append, List.count_cons, List.count_append]
        at nestedCount restCount ⊢
      omega

theorem Outline.flatten_runs (outline : Outline) :
    (outline.levels.flatMap runs).flatten = outline.levels.flatten := by
  have whole : List.flatten ∘ runs = id := funext fun level => List.flatten_splitBy _ level
  rw [List.flatMap, List.flatten_flatten, List.map_map, whole, List.map_id]

/-- The story can be entered at options and at the commands `*label`, `*else`, `*elseif` and
`*elsif`, of all commands those that declare a label or go on with a condition.  Cut before
these, the levels of an outline fall into runs, which hold every line once.  For each run in
which a line other than a `*comment` follows the first terminal command there is one report,
on the first such line and all that is nested under it.  Nothing else is reported. -/
theorem unreachableReports_one_per_run (outline : Outline) :
    (unreachableReports .live outline).Perm
        ((outline.levels.flatMap Outline.runs).filterMap fun run =>
          (firstUnreachable? run).map unreachableReport) ∧
      ((outline.levels.flatMap Outline.runs).flatten.map Prod.fst).Perm outline.lines ∧
      (∀ line, Reach.isEntrance line = true ↔ line.Enterable) ∧
      (Command.table.filter fun command => command.isLabel || command.continuesChain).map
          (·.name) = ["else", "elseif", "elsif", "label"] ∧
      (Command.table.filter (·.isRemark)).map (·.name) = ["comment"] := by
  refine ⟨unreachableReports_perm outline, ?_, fun _ => Reach.isEntrance_iff, by decide, by decide⟩
  rw [outline.flatten_runs]
  exact outline.flatten_levels_perm

end Gamebook
