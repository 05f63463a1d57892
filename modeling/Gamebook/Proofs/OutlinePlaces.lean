import Gamebook.Script.Scene

/-!
# Places in an outline

A line stands at a place: under some lines, behind others of its level, and with an
outline nested under it.  The walk through a scene passes on what surrounds a line
and what precedes it.  Both can be read off the place: the surroundings from the
lines above, the command that precedes from the lines before.  So the walk finds
what is found at each place by itself.
-/

namespace Gamebook

/-- A line of an outline and what stands around it. -/
structure Place where
  /-- The lines it is nested under, the nearest first. -/
  above : List Line
  /-- The lines before it on its level, the nearest first. -/
  before : List Line
  line : Line
  nested : Outline

namespace Outline

/-- The places of an outline that stands under `above` and behind `before`. -/
def placesFrom (above before : List Line) : Outline → List Place
  | nil => []
  | entry line nested rest =>
      ⟨above, before, line, nested⟩ ::
        (nested.placesFrom (line :: above) [] ++ rest.placesFrom above (line :: before))

/-- The places of an outline, in source order. -/
def places (outline : Outline) : List Place :=
  outline.placesFrom [] []

end Outline

/-- The places nested under a place. -/
def Place.below (place : Place) : List Place :=
  place.nested.placesFrom (place.line :: place.above) []

namespace Outline

variable {outline : Outline} {above before : List Line} {place : Place}

theorem mem_placesFrom_entry {line : Line} {nested rest : Outline} :
    place ∈ (entry line nested rest).placesFrom above before ↔
      place = ⟨above, before, line, nested⟩ ∨ place ∈ nested.placesFrom (line :: above) [] ∨
        place ∈ rest.placesFrom above (line :: before) := by
  rw [placesFrom, List.mem_cons, List.mem_append]

theorem map_line_placesFrom (outline : Outline) (above before : List Line) :
    (outline.placesFrom above before).map (·.line) = outline.lines := by
  induction outline generalizing above before with
  | nil => rfl
  | entry line nested rest nestedIh restIh => simp [placesFrom, lines, nestedIh, restIh]

theorem line_mem_lines (isPlace : place ∈ outline.placesFrom above before) :
    place.line ∈ outline.lines := by
  rw [← outline.map_line_placesFrom above before]
  exact List.mem_map_of_mem isPlace

/-- The lines above a place are lines of the outline and those above the outline. -/
theorem exists_between (isPlace : place ∈ outline.placesFrom above before) :
    ∃ between, place.above = between ++ above ∧ between ⊆ outline.lines := by
  induction outline generalizing above before with
  | nil => simp [placesFrom] at isPlace
  | entry line nested rest nestedIh restIh =>
      rcases mem_placesFrom_entry.1 isPlace with rfl | isBelow | isLater
      · exact ⟨[], rfl, List.nil_subset _⟩
      · obtain ⟨between, aboveEq, included⟩ := nestedIh isBelow
        refine ⟨between ++ [line], by simp [aboveEq], ?_⟩
        intro other isOther
        rw [List.mem_append, List.mem_singleton] at isOther
        rcases isOther with isBetween | rfl
        · simp [lines, included isBetween]
        · simp [lines]
      · obtain ⟨between, aboveEq, included⟩ := restIh isLater
        refine ⟨between, aboveEq, ?_⟩
        intro other isOther
        simp [lines, included isOther]

theorem above_subset_lines (isPlace : place ∈ outline.places) :
    place.above ⊆ outline.lines := by
  obtain ⟨between, aboveEq, included⟩ := exists_between isPlace
  rwa [aboveEq, List.append_nil]

theorem before_subset (isPlace : place ∈ outline.placesFrom above before) :
    place.before ⊆ outline.lines ++ before := by
  induction outline generalizing above before with
  | nil => simp [placesFrom] at isPlace
  | entry line nested rest nestedIh restIh =>
      rcases mem_placesFrom_entry.1 isPlace with rfl | isBelow | isLater
      · exact List.subset_append_right _ _
      · intro other isOther
        have isNested := nestedIh isBelow isOther
        rw [List.append_nil] at isNested
        simp [lines, isNested]
      · intro other isOther
        have isRest := restIh isLater isOther
        simp only [lines, List.mem_append, List.mem_cons] at isRest ⊢
        grind

theorem below_subset (isPlace : place ∈ outline.placesFrom above before) :
    place.below ⊆ outline.placesFrom above before := by
  induction outline generalizing above before with
  | nil => simp [placesFrom] at isPlace
  | entry line nested rest nestedIh restIh =>
      intro other isOther
      rw [mem_placesFrom_entry]
      rcases mem_placesFrom_entry.1 isPlace with rfl | isBelow | isLater
      · exact Or.inr (Or.inl isOther)
      · exact Or.inr (Or.inl (nestedIh isBelow isOther))
      · exact Or.inr (Or.inr (restIh isLater isOther))

theorem nested_lines_sublist (isPlace : place ∈ outline.placesFrom above before) :
    place.nested.lines.Sublist outline.lines := by
  induction outline generalizing above before with
  | nil => simp [placesFrom] at isPlace
  | entry line nested rest nestedIh restIh =>
      have inNested : nested.lines.Sublist (entry line nested rest).lines :=
        (List.sublist_append_left _ _).cons _
      have inRest : rest.lines.Sublist (entry line nested rest).lines :=
        (List.sublist_append_right _ _).cons _
      rcases mem_placesFrom_entry.1 isPlace with rfl | isBelow | isLater
      · exact inNested
      · exact (nestedIh isBelow).trans inNested
      · exact (restIh isLater).trans inRest

theorem nested_lines_subset (isPlace : place ∈ outline.places) :
    place.nested.lines ⊆ outline.lines :=
  (nested_lines_sublist isPlace).subset

/-- Each line of the outline above a place has a place of its own, with the other one below. -/
theorem exists_place_above {between beyond : List Line} {line : Line}
    (isPlace : place ∈ outline.placesFrom above before)
    (aboveEq : place.above = between ++ line :: (beyond ++ above)) :
    ∃ upper ∈ outline.placesFrom above before,
      upper.line = line ∧ upper.above = beyond ++ above ∧ place ∈ upper.below := by
  induction outline generalizing above before beyond with
  | nil => simp [placesFrom] at isPlace
  | entry first nested rest nestedIh restIh =>
      simp only [mem_placesFrom_entry]
      rcases mem_placesFrom_entry.1 isPlace with rfl | isBelow | isLater
      · have := congrArg List.length aboveEq
        simp only [List.length_append, List.length_cons] at this
        omega
      · obtain ⟨inner, innerEq, _⟩ := exists_between isBelow
        have endsEq : (between ++ line :: beyond) ++ above = (inner ++ [first]) ++ above := by
          simpa [aboveEq] using innerEq
        have partsEq := List.append_cancel_right endsEq
        -- either the line is the first one, or it stands under it
        rcases List.eq_nil_or_concat beyond with rfl | ⟨others, last, rfl⟩
        · obtain ⟨_, rfl⟩ : between = inner ∧ line = first := by simpa using partsEq
          exact ⟨_, Or.inl rfl, rfl, rfl, isBelow⟩
        · have lastEq : (between ++ line :: others) ++ [last] = inner ++ [first] := by
            simpa using partsEq
          obtain rfl : last = first := List.singleton_inj.1 (List.append_inj' lastEq rfl).2
          have fromFirst : place.above = between ++ line :: (others ++ last :: above) := by
            simpa using aboveEq
          obtain ⟨upper, isUpper, found⟩ := nestedIh isBelow fromFirst
          exact ⟨upper, Or.inr (Or.inl isUpper), by simpa using found⟩
      · obtain ⟨upper, isUpper, found⟩ := restIh isLater aboveEq
        exact ⟨upper, Or.inr (Or.inr isUpper), found⟩

end Outline

/-! ## The walk -/

/-- What surrounds the lines under the given ones, the nearest first; none when they are
not walked. -/
def Surroundings.within : List Line → Option Surroundings
  | [] => some .outside
  | line :: above => (within above).bind (·.under? line)

theorem Surroundings.within_append_eq_none {above : List Line} (between : List Line)
    (unwalked : within above = none) : within (between ++ above) = none := by
  induction between with
  | nil => exact unwalked
  | cons line between ih => simp [within, ih]

/-- The command that a branch behind the given lines must continue, the nearest first. -/
def previousOf (before : List Line) : Option Command :=
  before.foldr Line.previous none

/-- What is found at a place by itself. -/
def Place.findings (place : Place) : List Finding :=
  match Surroundings.within place.above with
  | some surroundings =>
      lineFindings surroundings (previousOf place.before) place.line place.nested
  | none => []

namespace Outline

theorem flatMap_findings_of_unwalked (outline : Outline) {above : List Line}
    (unwalked : Surroundings.within above = none) (before : List Line) :
    (outline.placesFrom above before).flatMap Place.findings = [] := by
  induction outline generalizing above before with
  | nil => rfl
  | entry line nested rest nestedIh restIh =>
      have nestedUnwalked : Surroundings.within (line :: above) = none := by
        simp [Surroundings.within, unwalked]
      simp [placesFrom, Place.findings, unwalked, nestedIh nestedUnwalked, restIh unwalked]

theorem findings_eq_flatMap (outline : Outline) {above : List Line}
    {surroundings : Surroundings} (walked : Surroundings.within above = some surroundings)
    (before : List Line) :
    outline.findings surroundings (previousOf before) =
      (outline.placesFrom above before).flatMap Place.findings := by
  induction outline generalizing above surroundings before with
  | nil => rfl
  | entry line nested rest nestedIh restIh =>
      have later := restIh walked (line :: before)
      have below : (match surroundings.under? line with
          | some inner => nested.findings inner none
          | none => []) =
          (nested.placesFrom (line :: above) []).flatMap Place.findings := by
        have innerEq : Surroundings.within (line :: above) = surroundings.under? line := by
          simp [Surroundings.within, walked]
        cases underEq : surroundings.under? line with
        | none =>
            exact (nested.flatMap_findings_of_unwalked (innerEq.trans underEq) []).symm
        | some inner => exact nestedIh (innerEq.trans underEq) []
      rw [placesFrom, List.flatMap_cons, List.flatMap_append, ← below, ← later, findings,
        Place.findings, walked, List.append_assoc]
      rfl

/-- The walk through a scene finds what is found at each place. -/
theorem findings_eq_flatMap_places (outline : Outline) :
    outline.findings .outside none = outline.places.flatMap Place.findings :=
  outline.findings_eq_flatMap rfl []

theorem exists_place_of_mem_findings {outline : Outline} {finding : Finding}
    (isFinding : finding ∈ outline.findings .outside none) :
    ∃ place ∈ outline.places, ∃ surroundings previous,
      finding ∈ lineFindings surroundings previous place.line place.nested := by
  rw [findings_eq_flatMap_places] at isFinding
  obtain ⟨place, isPlace, isFound⟩ := List.mem_flatMap.1 isFinding
  unfold Place.findings at isFound
  split at isFound
  · exact ⟨place, isPlace, _, _, isFound⟩
  · simp at isFound

end Outline

end Gamebook
