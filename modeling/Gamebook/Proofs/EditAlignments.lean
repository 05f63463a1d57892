import Mathlib.Algebra.GroupWithZero.Nat
import Mathlib.Data.List.Basic
import Mathlib.Order.Bounds.Defs
import Mathlib.Order.MinMax
import Gamebook.Spelling.Distance

/-!
# Alignments of words

An alignment of two words is a list of edits that reads the one and writes the other.  What a
cheapest one costs is said by a recursion on the words (`leastEdits`).  The table of distances
is filled from the beginnings of the words, and its cells are what the recursion gives for these
read backwards; since alignments can be read backwards too, the last cell is the cost of a
cheapest alignment.  Symmetry of the distance and its bounds by the lengths are shown of
alignments, without another look at the table.
-/

namespace Gamebook

/-- One edit.  A swap reads two neighbours and writes both, so that no other edit gets at them. -/
inductive Edit where
  | keep (char : Char)
  | replace (old new : Char)
  | insert (char : Char)
  | delete (char : Char)
  | swap (first second : Char)
deriving DecidableEq, Repr

namespace Edit

def reads : Edit → List Char
  | keep char | delete char => [char]
  | replace old _ => [old]
  | insert _ => []
  | swap first second => [first, second]

def writes : Edit → List Char
  | keep char | insert char => [char]
  | replace _ new => [new]
  | delete _ => []
  | swap first second => [second, first]

def cost : Edit → Nat
  | keep _ => 0
  | _ => 1

/-- The edit that reads what this one writes. -/
def inverse : Edit → Edit
  | keep char => keep char
  | replace old new => replace new old
  | insert char => delete char
  | delete char => insert char
  | swap first second => swap second first

/-- The edit of the characters in the opposite order. -/
def reverse : Edit → Edit
  | swap first second => swap second first
  | edit => edit

variable (edit : Edit)

@[simp]
theorem reads_reverse : edit.reverse.reads = edit.reads.reverse := by
  cases edit <;> rfl

@[simp]
theorem writes_reverse : edit.reverse.writes = edit.writes.reverse := by
  cases edit <;> rfl

@[simp]
theorem cost_reverse : edit.reverse.cost = edit.cost := by
  cases edit <;> rfl

@[simp]
theorem reads_inverse : edit.inverse.reads = edit.writes := by
  cases edit <;> rfl

@[simp]
theorem writes_inverse : edit.inverse.writes = edit.reads := by
  cases edit <;> rfl

@[simp]
theorem cost_inverse : edit.inverse.cost = edit.cost := by
  cases edit <;> rfl

theorem length_reads_le : edit.reads.length ≤ edit.writes.length + edit.cost := by
  cases edit <;> simp [reads, writes, cost]

theorem reads_eq_writes_of_cost (free : edit.cost = 0) : edit.reads = edit.writes := by
  cases edit with
  | keep char => rfl
  | _ => simp [cost] at free

end Edit

/-- Edits that turn the first word into the second, from left to right. -/
structure Alignment (first second : List Char) where
  edits : List Edit
  reads : edits.flatMap Edit.reads = first
  writes : edits.flatMap Edit.writes = second

namespace Alignment

variable {first second : List Char}

def cost (alignment : Alignment first second) : Nat :=
  (alignment.edits.map Edit.cost).sum

def empty : Alignment [] [] :=
  ⟨[], rfl, rfl⟩

/-- One more edit in front. -/
def cons (edit : Edit) (alignment : Alignment first second) :
    Alignment (edit.reads ++ first) (edit.writes ++ second) :=
  ⟨edit :: alignment.edits, by simp [alignment.reads], by simp [alignment.writes]⟩

def inverse (alignment : Alignment first second) : Alignment second first :=
  ⟨alignment.edits.map Edit.inverse,
    by simpa [List.flatMap_map] using alignment.writes,
    by simpa [List.flatMap_map] using alignment.reads⟩

/-- The alignment from right to left. -/
def reverse (alignment : Alignment first second) : Alignment first.reverse second.reverse :=
  ⟨alignment.edits.reverse.map Edit.reverse,
    by simp [List.flatMap_map, List.flatMap_reverse, Function.comp_def, alignment.reads],
    by simp [List.flatMap_map, List.flatMap_reverse, Function.comp_def, alignment.writes]⟩

@[simp]
theorem cost_reverse (alignment : Alignment first second) :
    alignment.reverse.cost = alignment.cost := by
  simp [cost, reverse, Function.comp_def, List.sum_reverse]

@[simp]
theorem cost_cons (edit : Edit) (alignment : Alignment first second) :
    (alignment.cons edit).cost = edit.cost + alignment.cost := by
  simp [cost, cons]

@[simp]
theorem cost_inverse (alignment : Alignment first second) :
    alignment.inverse.cost = alignment.cost := by
  simp [cost, inverse, Function.comp_def]

theorem length_le (alignment : Alignment first second) :
    first.length ≤ second.length + alignment.cost := by
  obtain ⟨edits, rfl, rfl⟩ := alignment
  simp only [cost]
  induction edits with
  | nil => simp
  | cons edit rest ih =>
      have := edit.length_reads_le
      simp only [List.flatMap_cons, List.length_append, List.map_cons, List.sum_cons]
      omega

theorem eq_of_cost (alignment : Alignment first second) (free : alignment.cost = 0) :
    first = second := by
  obtain ⟨edits, rfl, rfl⟩ := alignment
  simp only [cost, List.sum_eq_zero_iff_forall_eq_nat, List.mem_map] at free
  apply List.flatMap_congr
  intro edit isEdit
  exact edit.reads_eq_writes_of_cost (free _ ⟨edit, isEdit, rfl⟩)

end Alignment

/-- What the alignments of two words cost. -/
def alignmentCosts (first second : List Char) : Set Nat :=
  {cost | ∃ alignment : Alignment first second, alignment.cost = cost}

section Costs

variable {first second : List Char} {cost : Nat}

theorem zero_mem_alignmentCosts_nil : 0 ∈ alignmentCosts [] [] :=
  ⟨.empty, rfl⟩

theorem add_cost_mem_alignmentCosts (edit : Edit) (isCost : cost ∈ alignmentCosts first second) :
    cost + edit.cost ∈ alignmentCosts (edit.reads ++ first) (edit.writes ++ second) := by
  obtain ⟨alignment, rfl⟩ := isCost
  exact ⟨alignment.cons edit, by rw [Alignment.cost_cons, Nat.add_comm]⟩

theorem mem_alignmentCosts_symm (isCost : cost ∈ alignmentCosts first second) :
    cost ∈ alignmentCosts second first := by
  obtain ⟨alignment, rfl⟩ := isCost
  exact ⟨alignment.inverse, alignment.cost_inverse⟩

theorem alignmentCosts_reverse (first second : List Char) :
    alignmentCosts first.reverse second.reverse = alignmentCosts first second := by
  have turned {first second : List Char} :
      alignmentCosts first second ⊆ alignmentCosts first.reverse second.reverse := by
    rintro _ ⟨alignment, rfl⟩
    exact ⟨alignment.reverse, alignment.cost_reverse⟩
  ext cost
  refine ⟨fun isCost => ?_, fun isCost => turned isCost⟩
  simpa using turned isCost

theorem zero_mem_alignmentCosts (word : List Char) : 0 ∈ alignmentCosts word word := by
  induction word with
  | nil => exact zero_mem_alignmentCosts_nil
  | cons char rest ih => exact add_cost_mem_alignmentCosts (.keep char) ih

theorem length_mem_alignmentCosts (word : List Char) : word.length ∈ alignmentCosts [] word := by
  induction word with
  | nil => exact zero_mem_alignmentCosts_nil
  | cons char rest ih => exact add_cost_mem_alignmentCosts (.insert char) ih

end Costs

/-! ## The cheapest alignment -/

/-- The cost with an edit other than a swap in front, from what the rest costs if the edit
deletes, inserts or replaces. -/
def leastSingle (first second : Char) (deleted inserted replaced : Nat) : Nat :=
  min (min (deleted + 1) (inserted + 1)) (replaced + if first = second then 0 else 1)

/-- The cost of a cheapest alignment, by the edits it can have in front. -/
def leastEdits : List Char → List Char → Nat
  | [], second => second.length
  | first, [] => first.length
  | char :: first, other :: second =>
      let single := leastSingle char other (leastEdits first (other :: second))
        (leastEdits (char :: first) second) (leastEdits first second)
      if second.head? = some char ∧ first.head? = some other then
        min single (leastEdits first.tail second.tail + 1)
      else
        single
termination_by first second => first.length + second.length
decreasing_by all_goals (simp only [List.length_cons, List.length_tail]; omega)

@[simp]
theorem leastEdits_nil_left (word : List Char) : leastEdits [] word = word.length := by
  rw [leastEdits]

@[simp]
theorem leastEdits_nil_right (word : List Char) : leastEdits word [] = word.length := by
  cases word <;> simp [leastEdits]

theorem leastEdits_cons_cons (char other : Char) (first second : List Char) :
    leastEdits (char :: first) (other :: second) =
      if second.head? = some char ∧ first.head? = some other then
        min (leastSingle char other (leastEdits first (other :: second))
          (leastEdits (char :: first) second) (leastEdits first second))
          (leastEdits first.tail second.tail + 1)
      else
        leastSingle char other (leastEdits first (other :: second))
          (leastEdits (char :: first) second) (leastEdits first second) := by
  rw [leastEdits]

theorem leastEdits_delete_le (char : Char) (first second : List Char) :
    leastEdits (char :: first) second ≤ leastEdits first second + 1 := by
  cases second with
  | nil => simp
  | cons other rest =>
      rw [leastEdits_cons_cons, leastSingle]
      split <;> omega

theorem leastEdits_insert_le (char : Char) (first second : List Char) :
    leastEdits first (char :: second) ≤ leastEdits first second + 1 := by
  cases first with
  | nil => simp
  | cons other rest =>
      rw [leastEdits_cons_cons, leastSingle]
      split <;> omega

theorem leastEdits_replace_le (old new : Char) (first second : List Char) :
    leastEdits (old :: first) (new :: second) ≤
      leastEdits first second + if old = new then 0 else 1 := by
  rw [leastEdits_cons_cons, leastSingle]
  split <;> omega

theorem leastEdits_swap_le (char other : Char) (first second : List Char) :
    leastEdits (char :: other :: first) (other :: char :: second) ≤
      leastEdits first second + 1 := by
  rw [leastEdits_cons_cons, if_pos ⟨rfl, rfl⟩]
  exact Nat.min_le_right _ _

theorem leastEdits_edit_le (edit : Edit) (first second : List Char) :
    leastEdits (edit.reads ++ first) (edit.writes ++ second) ≤
      leastEdits first second + edit.cost := by
  cases edit with
  | keep char =>
      have := leastEdits_replace_le char char first second
      rwa [if_pos rfl] at this
  | replace old new =>
      have := leastEdits_replace_le old new first second
      simp only [Edit.reads, Edit.writes, Edit.cost, List.singleton_append]
      split at this <;> omega
  | insert char => exact leastEdits_insert_le char first second
  | delete char => exact leastEdits_delete_le char first second
  | swap char other => exact leastEdits_swap_le char other first second

theorem leastEdits_le_cost {first second : List Char} (alignment : Alignment first second) :
    leastEdits first second ≤ alignment.cost := by
  obtain ⟨edits, rfl, rfl⟩ := alignment
  simp only [Alignment.cost]
  induction edits with
  | nil => simp
  | cons edit rest ih =>
      have step := leastEdits_edit_le edit (rest.flatMap Edit.reads) (rest.flatMap Edit.writes)
      simp only [List.flatMap_cons, List.map_cons, List.sum_cons]
      omega

theorem leastEdits_mem_alignmentCosts (first second : List Char) :
    leastEdits first second ∈ alignmentCosts first second := by
  match first, second with
  | [], second =>
      rw [leastEdits_nil_left]
      exact length_mem_alignmentCosts second
  | first, [] =>
      rw [leastEdits_nil_right]
      exact mem_alignmentCosts_symm (length_mem_alignmentCosts first)
  | char :: first, other :: second =>
      let costs := alignmentCosts (char :: first) (other :: second)
      have deleted : leastEdits first (other :: second) + 1 ∈ costs :=
        add_cost_mem_alignmentCosts (.delete char)
          (leastEdits_mem_alignmentCosts first (other :: second))
      have inserted : leastEdits (char :: first) second + 1 ∈ costs :=
        add_cost_mem_alignmentCosts (.insert other)
          (leastEdits_mem_alignmentCosts (char :: first) second)
      have replaced : (leastEdits first second + if char = other then 0 else 1) ∈ costs := by
        have shorter := leastEdits_mem_alignmentCosts first second
        split
        · rename_i same
          subst same
          exact add_cost_mem_alignmentCosts (.keep char) shorter
        · exact add_cost_mem_alignmentCosts (.replace char other) shorter
      have single : leastSingle char other (leastEdits first (other :: second))
          (leastEdits (char :: first) second) (leastEdits first second) ∈ costs :=
        min_rec' (· ∈ costs) (min_rec' (· ∈ costs) deleted inserted) replaced
      rw [leastEdits_cons_cons]
      split
      · rename_i swapped
        obtain ⟨secondRest, rfl⟩ := List.head?_eq_some_iff.1 swapped.1
        obtain ⟨firstRest, rfl⟩ := List.head?_eq_some_iff.1 swapped.2
        exact min_rec' (· ∈ costs) single (add_cost_mem_alignmentCosts (.swap char other)
          (leastEdits_mem_alignmentCosts firstRest secondRest))
      · exact single
termination_by first.length + second.length

theorem isLeast_leastEdits (first second : List Char) :
    IsLeast (alignmentCosts first second) (leastEdits first second) := by
  refine ⟨leastEdits_mem_alignmentCosts first second, ?_⟩
  rintro _ ⟨alignment, rfl⟩
  exact leastEdits_le_cost alignment

theorem leastEdits_le_max (first second : List Char) :
    leastEdits first second ≤ max first.length second.length := by
  induction first generalizing second with
  | nil => simp
  | cons char rest ih =>
      cases second with
      | nil => simp
      | cons other others =>
          have step := leastEdits_replace_le char other rest others
          have shorter := ih others
          simp only [List.length_cons]
          split at step <;> omega

/-! ## The table -/

theorem tabulate_spec {Value : Type} {next : Array Value → Value} {holds : Nat → Value → Prop}
    {bound : Nat} (step : ∀ filled : Array Value, filled.size < bound →
      (∀ index < filled.size, ∃ value, filled[index]? = some value ∧ holds index value) →
        holds filled.size (next filled))
    {count : Nat} (within : count ≤ bound) :
    (tabulate next count).size = count ∧
      ∀ index < count, ∃ value, (tabulate next count)[index]? = some value ∧
        holds index value := by
  induction count with
  | zero => simp [tabulate]
  | succ count ih =>
      obtain ⟨sizeEq, filled⟩ := ih (by omega)
      have nextHolds := step (tabulate next count) (by omega) (by rwa [sizeEq])
      refine ⟨by simp [tabulate, sizeEq], ?_⟩
      intro index isIn
      rw [tabulate, Array.getElem?_push, sizeEq]
      split
      · rename_i isLast
        subst isLast
        rw [sizeEq] at nextHolds
        exact ⟨_, rfl, nextHolds⟩
      · exact filled index (by omega)

theorem cell_of_getElem? {table : Array (Array Nat)} {row : Nat} {cells : Array Nat}
    (rowEq : table[row]? = some cells) (column : Nat) :
    cell table row column = cells.getD column 0 := by
  simp [cell, rowEq]

/-- What a cell is to hold: the cost for the beginnings of the words, read backwards. -/
def cellValue (first second : List Char) (row column : Nat) : Nat :=
  leastEdits (first.take row).reverse (second.take column).reverse

theorem reverse_take_succ {word : List Char} {index : Nat} (isIn : index < word.length) :
    (word.take (index + 1)).reverse = word[index] :: (word.take index).reverse := by
  rw [List.take_succ_eq_append_getElem isIn, List.reverse_concat]

theorem cellValue_succ_succ {first second : List Char} {row column : Nat}
    (rowIn : row < first.length) (columnIn : column < second.length) :
    cellValue first second (row + 1) (column + 1) =
      let single := leastSingle first[row] second[column] (cellValue first second row (column + 1))
        (cellValue first second (row + 1) column) (cellValue first second row column)
      if 0 < row ∧ 0 < column ∧ first[row]? = second[column - 1]? ∧
          first[row - 1]? = second[column]? then
        min single (cellValue first second (row - 1) (column - 1) + 1)
      else
        single := by
  have firstEq := reverse_take_succ rowIn
  have secondEq := reverse_take_succ columnIn
  simp only [cellValue, firstEq, secondEq, leastEdits_cons_cons]
  cases row with
  | zero => simp
  | succ row =>
      cases column with
      | zero => simp
      | succ column =>
          have firstInner := @reverse_take_succ first row (by omega)
          have secondInner := @reverse_take_succ second column (by omega)
          have rowBefore : first[row]? = some first[row] := List.getElem?_eq_getElem _
          have columnBefore : second[column]? = some second[column] := List.getElem?_eq_getElem _
          simp only [firstInner, secondInner, List.head?_cons, List.tail_cons, Nat.add_sub_cancel,
            Nat.zero_lt_succ, true_and, List.getElem?_eq_getElem rowIn,
            List.getElem?_eq_getElem columnIn, rowBefore, columnBefore, Option.some.injEq,
            eq_comm (a := second[column])]

section Table

variable {first second : List Char} {above : Array (Array Nat)} {left : Array Nat}

theorem nextCell_eq (rowIn : above.size ≤ first.length) (columnIn : left.size ≤ second.length)
    (aboveHolds : ∀ row < above.size, ∀ column ≤ second.length,
      cell above row column = cellValue first second row column)
    (leftHolds : ∀ column < left.size,
      left.getD column 0 = cellValue first second above.size column) :
    nextCell first.toArray second.toArray above left =
      cellValue first second above.size left.size := by
  unfold nextCell
  split
  · rename_i rowEq
    simp [cellValue, rowEq, columnIn]
  · rename_i columnEq _
    simp [cellValue, columnEq, rowIn]
  · rename_i row column rowEq columnEq
    rw [rowEq] at rowIn leftHolds ⊢
    rw [columnEq] at columnIn leftHolds ⊢
    rw [cellValue_succ_succ rowIn columnIn, aboveHolds row (by omega) (column + 1) columnIn,
      aboveHolds row (by omega) column (by omega), leftHolds column (by omega)]
    simp only [leastSingle, List.getElem?_toArray, List.getElem?_eq_getElem rowIn,
      List.getElem?_eq_getElem columnIn, Option.some.injEq]
    split
    · rename_i swapped
      rw [aboveHolds (row - 1) (by omega) (column - 1) (by omega)]
    · rfl

/-- A row that is filled below the rows before it holds what it is to hold. -/
theorem fillRow_spec (rowIn : above.size ≤ first.length)
    (aboveHolds : ∀ row < above.size, ∀ column ≤ second.length,
      cell above row column = cellValue first second row column) :
    ∀ column ≤ second.length,
      (tabulate (nextCell first.toArray second.toArray above) (second.length + 1)).getD column 0 =
        cellValue first second above.size column := by
  have step (filled : Array Nat) (isIn : filled.size < second.length + 1)
      (holds : ∀ column < filled.size, ∃ value, filled[column]? = some value ∧
        value = cellValue first second above.size column) :
      nextCell first.toArray second.toArray above filled =
        cellValue first second above.size filled.size := by
    refine nextCell_eq rowIn (by omega) aboveHolds fun column isFilled => ?_
    obtain ⟨_, valueEq, rfl⟩ := holds column isFilled
    rw [Array.getD_eq_getD_getElem?, valueEq, Option.getD_some]
  intro column isIn
  obtain ⟨_, valueEq, rfl⟩ := (tabulate_spec step (Nat.le_refl _)).2 column (by omega)
  rw [Array.getD_eq_getD_getElem?, valueEq, Option.getD_some]

theorem editDistance_eq (first second : List Char) :
    editDistance first second = leastEdits first.reverse second.reverse := by
  let fillRow (above : Array (Array Nat)) :=
    tabulate (nextCell first.toArray second.toArray above) (second.length + 1)
  let holds (row : Nat) (cells : Array Nat) :=
    ∀ column ≤ second.length, cells.getD column 0 = cellValue first second row column
  have step (filled : Array (Array Nat)) (isIn : filled.size < first.length + 1)
      (filledHolds : ∀ row < filled.size, ∃ cells, filled[row]? = some cells ∧ holds row cells) :
      holds filled.size (fillRow filled) := by
    refine fillRow_spec (by omega) fun row isFilled column columnIn => ?_
    obtain ⟨cells, cellsEq, cellsHold⟩ := filledHolds row isFilled
    rw [cell_of_getElem? cellsEq]
    exact cellsHold column columnIn
  obtain ⟨cells, cellsEq, cellsHold⟩ :=
    (tabulate_spec step (Nat.le_refl _)).2 first.length (Nat.lt_succ_self _)
  calc editDistance first second
      = cells.getD second.length 0 := cell_of_getElem? cellsEq second.length
    _ = leastEdits first.reverse second.reverse := by
        rw [cellsHold second.length (Nat.le_refl _), cellValue, List.take_length, List.take_length]

end Table

/-- The distance of two words is what a cheapest alignment of them costs. -/
theorem isLeast_editDistance (first second : List Char) :
    IsLeast (alignmentCosts first second) (editDistance first second) := by
  rw [editDistance_eq, ← alignmentCosts_reverse]
  exact isLeast_leastEdits first.reverse second.reverse

theorem editDistance_comm (first second : List Char) :
    editDistance first second = editDistance second first := by
  have atMost (first second : List Char) : editDistance second first ≤ editDistance first second :=
    (isLeast_editDistance second first).2
      (mem_alignmentCosts_symm (isLeast_editDistance first second).1)
  exact Nat.le_antisymm (atMost second first) (atMost first second)

theorem editDistance_eq_zero_iff {first second : List Char} :
    editDistance first second = 0 ↔ first = second := by
  constructor
  · intro free
    obtain ⟨alignment, costEq⟩ := (isLeast_editDistance first second).1
    exact alignment.eq_of_cost (costEq.trans free)
  · rintro rfl
    exact Nat.le_zero.1 ((isLeast_editDistance first first).2 (zero_mem_alignmentCosts first))

/-- Each edit changes the length by at most one. -/
theorem length_le_editDistance (first second : List Char) :
    first.length ≤ second.length + editDistance first second := by
  obtain ⟨alignment, costEq⟩ := (isLeast_editDistance first second).1
  rw [← costEq]
  exact alignment.length_le

theorem editDistance_le_max (first second : List Char) :
    editDistance first second ≤ max first.length second.length := by
  rw [editDistance_eq, ← @List.length_reverse _ first, ← @List.length_reverse _ second]
  exact leastEdits_le_max first.reverse second.reverse

/-- The distance of two words is the least cost of an alignment; so it is symmetric, zero for
equal words only, and between the difference of the lengths and the greater of them. -/
theorem editDistance_least_alignment (first second : List Char) :
    IsLeast (alignmentCosts first second) (editDistance first second) ∧
      editDistance first second = editDistance second first ∧
      (editDistance first second = 0 ↔ first = second) ∧
      max first.length second.length - min first.length second.length ≤
        editDistance first second ∧
      editDistance first second ≤ max first.length second.length := by
  refine ⟨isLeast_editDistance first second, editDistance_comm first second,
    editDistance_eq_zero_iff, ?_, editDistance_le_max first second⟩
  have firstLonger := length_le_editDistance first second
  have secondLonger := length_le_editDistance second first
  rw [editDistance_comm second first] at secondLonger
  omega

/-- No letter is inserted between two that are swapped. -/
example : editDistance "ca".toList "abc".toList = 3 := by decide

end Gamebook
