import Mathlib.Data.List.Induction
import Mathlib.Data.List.Nodup
import Gamebook.Editor.Completion
import Gamebook.Proofs.DeclarationReferences

/-!
# What completion offers

Completion chains the declarations that a scene can see, those that come first hiding the
later ones of the same key, while a name is looked up in one table after the other.  The
two agree: for variables, labels and achievements there is one item for each key that leads
to a declaration, and it shows that declaration.
-/

namespace Gamebook

/-! ## The first of each key -/

theorem firstOfEachKey_concat (occurrences : List Occurrence) (last : Occurrence) :
    firstOfEachKey (occurrences ++ [last]) =
      if (firstOfEachKey occurrences).any (·.key == last.key) then firstOfEachKey occurrences
      else firstOfEachKey occurrences ++ [last] := by
  rw [firstOfEachKey, List.foldl_append]
  rfl

/-- What is kept of each key is what is found first. -/
theorem find?_firstOfEachKey (occurrences : List Occurrence) (key : String) :
    (firstOfEachKey occurrences).find? (·.key == key) = occurrences.find? (·.key == key) := by
  induction occurrences using List.reverseRecOn with
  | nil => rfl
  | append_singleton earlier last ih =>
      rw [firstOfEachKey_concat, List.find?_append]
      split
      · rename_i isSeen
        rw [ih]
        by_cases isLast : last.key = key
        · have found : (earlier.find? (·.key == key)).isSome = true := by
            rw [← ih, ← isLast, List.find?_isSome]
            simpa using isSeen
          rw [Option.or_of_isSome found]
        · simp [isLast]
      · rw [List.find?_append, ih]

theorem nodup_firstOfEachKey (occurrences : List Occurrence) :
    ((firstOfEachKey occurrences).map (·.key)).Nodup := by
  induction occurrences using List.reverseRecOn with
  | nil => exact List.nodup_nil
  | append_singleton earlier last ih =>
      rw [firstOfEachKey_concat]
      split
      · exact ih
      · rename_i isNew
        rw [List.map_append]
        refine List.nodup_append.2 ⟨ih, by simp, ?_⟩
        rintro key isOld _ isLast rfl
        obtain ⟨occurrence, isKept, rfl⟩ := List.mem_map.1 isOld
        have sameKey : occurrence.key = last.key := by simpa using isLast
        exact isNew (List.any_eq_true.2 ⟨occurrence, isKept, by simp [sameKey]⟩)

/-- Where no two occurrences have one key, a search by key finds the one that has it. -/
theorem find?_key_eq_some_iff {occurrences : List Occurrence}
    (unique : ∀ first ∈ occurrences, ∀ second ∈ occurrences, first.key = second.key →
      first = second)
    {key : String} {occurrence : Occurrence} :
    occurrences.find? (·.key == key) = some occurrence ↔
      occurrence ∈ occurrences ∧ occurrence.key = key := by
  constructor
  · intro found
    exact ⟨List.mem_of_find?_eq_some found, by simpa using List.find?_some found⟩
  · rintro ⟨isMember, rfl⟩
    have isFound : (occurrences.find? (·.key == occurrence.key)).isSome = true :=
      List.find?_isSome.2 ⟨occurrence, isMember, by simp⟩
    obtain ⟨first, firstEq⟩ := Option.isSome_iff_exists.1 isFound
    have sameKey : first.key = occurrence.key := by simpa using List.find?_some firstEq
    rw [firstEq, unique first (List.mem_of_find?_eq_some firstEq) occurrence isMember sameKey]

theorem mem_firstOfEachKey_iff {occurrences : List Occurrence} {occurrence : Occurrence} :
    occurrence ∈ firstOfEachKey occurrences ↔
      occurrences.find? (·.key == occurrence.key) = some occurrence := by
  have unique : ∀ first ∈ firstOfEachKey occurrences, ∀ second ∈ firstOfEachKey occurrences,
      first.key = second.key → first = second :=
    fun first isFirst second isSecond =>
      List.inj_on_of_nodup_map (nodup_firstOfEachKey occurrences) isFirst isSecond
  rw [← find?_firstOfEachKey, find?_key_eq_some_iff unique, and_iff_left rfl]

namespace SceneEntry

variable {entry : SceneEntry} {kind : OccurrenceKind} (isExported : kind.isExported = true)

include isExported

/-- A table holds the first declaration of each key. -/
theorem mem_values_table_iff {occurrence : Occurrence} :
    occurrence ∈ (entry.exports.table kind).values ↔
      entry.scene.findDeclaration? kind occurrence.key = some occurrence := by
  rw [values_eq_map_toList, List.mem_map, ← entry.getElem?_table _ kind isExported]
  constructor
  · rintro ⟨⟨other, _⟩, isItem, rfl⟩
    have found := Std.TreeMap.mem_toList_iff_getElem?_eq_some.1 isItem
    have keyEq := (Scene.findDeclaration?_spec
      ((entry.getElem?_table other kind isExported).symm.trans found)).2.2
    rwa [keyEq]
  · intro found
    exact ⟨(_, occurrence), Std.TreeMap.mem_toList_iff_getElem?_eq_some.2 found, rfl⟩

theorem kind_of_mem_values_table {occurrence : Occurrence}
    (isValue : occurrence ∈ (entry.exports.table kind).values) : occurrence.kind = kind :=
  (Scene.findDeclaration?_spec ((mem_values_table_iff isExported).1 isValue)).2.1

theorem find?_values_table (entry : SceneEntry) (key : String) :
    (entry.exports.table kind).values.find? (·.key == key) =
      entry.scene.findDeclaration? kind key := by
  have unique : ∀ first ∈ (entry.exports.table kind).values,
      ∀ second ∈ (entry.exports.table kind).values, first.key = second.key → first = second := by
    intro first isFirst second isSecond sameKey
    have firstFound := (mem_values_table_iff isExported).1 isFirst
    rw [sameKey, (mem_values_table_iff isExported).1 isSecond] at firstFound
    exact (Option.some.inj firstFound).symm
  apply Option.ext
  intro occurrence
  rw [find?_key_eq_some_iff unique, mem_values_table_iff isExported]
  constructor
  · rintro ⟨found, rfl⟩
    exact found
  · intro found
    obtain ⟨_, _, rfl⟩ := Scene.findDeclaration?_spec found
    exact ⟨found, rfl⟩

end SceneEntry

/-! ## Items and what they show -/

/-- The item has the name of a variable, whether it belongs to the scene or the game, the
type of its value and the value. -/
structure ShowsVariable (item : CompletionItem) (declared : Occurrence) : Prop where
  name : item.label = declared.name
  scope : declared.kind = .localVariable ∧
      item.detail = some ("temp · " ++ declared.valueType.name) ∨
    declared.kind = .globalVariable ∧
      item.detail = some ("global · " ++ declared.valueType.name)
  value : item.documentation = declared.value?.map ("Initial value: " ++ ·)

/-- The item has the name of a label and its line, counted from one. -/
structure ShowsLabel (item : CompletionItem) (declared : Occurrence) : Prop where
  name : item.label = declared.name
  kind : declared.kind = .label ∧ item.kind = .label
  line : item.detail = some ("line " ++ toString (declared.line + 1))

/-- The item has the name of an achievement and its title. -/
structure ShowsAchievement (item : CompletionItem) (declared : Occurrence) : Prop where
  name : item.label = declared.name
  kind : declared.kind = .achievement ∧ item.kind = .achievement
  title : item.detail = declared.value?

/-- There is one item for each key in lower case that leads to a declaration when it is
looked up from a scene, and it shows that declaration. -/
structure OffersResolved (snapshot : ProjectSnapshot) (entry : SceneEntry)
    (symbol : String → Symbol) (shows : CompletionItem → Occurrence → Prop)
    (items : List CompletionItem) : Prop where
  distinct : (items.map (·.label.toLower)).Nodup
  keys : ∀ key, key ∈ items.map (·.label.toLower) ↔
    key.toLower = key ∧ (snapshot.resolve? entry (symbol key)).isSome = true
  declarations : ∀ item ∈ items, ∃ target declared,
    snapshot.resolve? entry (symbol item.label.toLower) = some ⟨target, some declared⟩ ∧
      shows item declared

/-- Items for the first of each key offer what resolves, when a search by key finds what
the symbol of the key resolves to. -/
theorem offersResolved_of_find? {snapshot : ProjectSnapshot} {entry : SceneEntry}
    {symbol : String → Symbol} {shows : CompletionItem → Occurrence → Prop}
    {chain : List Occurrence} {toItem : Occurrence → CompletionItem}
    (ignoresCase : ∀ occurrence ∈ chain, occurrence.kind.ignoresCase = true)
    (named : ∀ occurrence, (toItem occurrence).label = occurrence.name)
    (showsItem : ∀ occurrence ∈ chain, shows (toItem occurrence) occurrence)
    (agrees : ∀ key, key.toLower = key →
      (snapshot.resolve? entry (symbol key)).map (·.occurrence) =
        (chain.find? (·.key == key)).map some) :
    OffersResolved snapshot entry symbol shows ((firstOfEachKey chain).map toItem) := by
  have inChain {occurrence : Occurrence} (isKept : occurrence ∈ firstOfEachKey chain) :
      occurrence ∈ chain :=
    List.mem_of_find?_eq_some (mem_firstOfEachKey_iff.1 isKept)
  have labelEq : ∀ occurrence ∈ firstOfEachKey chain,
      (toItem occurrence).label.toLower = occurrence.key := by
    intro occurrence isKept
    rw [named, Occurrence.key_eq_toLower (ignoresCase occurrence (inChain isKept))]
  have labelsEq : ((firstOfEachKey chain).map toItem).map (·.label.toLower) =
      (firstOfEachKey chain).map (·.key) := by
    rw [List.map_map]
    exact List.map_congr_left labelEq
  refine ⟨?_, ?_, ?_⟩
  · rw [labelsEq]
    exact nodup_firstOfEachKey chain
  · intro key
    rw [labelsEq, List.mem_map]
    constructor
    · rintro ⟨occurrence, isKept, rfl⟩
      have isLower := occurrence.toLower_key (ignoresCase occurrence (inChain isKept))
      refine ⟨isLower, ?_⟩
      rw [← Option.isSome_map, agrees _ isLower, mem_firstOfEachKey_iff.1 isKept]
      rfl
    · rintro ⟨isLower, isResolved⟩
      rw [← Option.isSome_map (f := (·.occurrence)), agrees key isLower,
        Option.isSome_map] at isResolved
      obtain ⟨occurrence, found⟩ := Option.isSome_iff_exists.1 isResolved
      have keyEq : occurrence.key = key := by simpa using List.find?_some found
      exact ⟨occurrence, mem_firstOfEachKey_iff.2 (keyEq ▸ found), keyEq⟩
  · intro item isItem
    obtain ⟨occurrence, isKept, rfl⟩ := List.mem_map.1 isItem
    have isLower := occurrence.toLower_key (ignoresCase occurrence (inChain isKept))
    have resolved := agrees _ isLower
    rw [mem_firstOfEachKey_iff.1 isKept] at resolved
    obtain ⟨⟨target, _⟩, resolvedEq, rfl⟩ := Option.map_eq_some_iff.1 resolved
    refine ⟨target, occurrence, ?_, showsItem occurrence (inChain isKept)⟩
    rw [labelEq occurrence isKept, resolvedEq]

/-! ## The chains of completion -/

theorem Scene.find?_occurrencesOf (scene : Scene) (kind : OccurrenceKind) (key : String) :
    (scene.occurrencesOf kind).find? (·.key == key) = scene.findDeclaration? kind key := by
  simp only [occurrencesOf, findDeclaration?, List.find?_filter, Bool.decide_and,
    Bool.decide_eq_true]

theorem Scene.kind_of_mem_occurrencesOf {scene : Scene} {kind : OccurrenceKind}
    {occurrence : Occurrence} (isOccurrence : occurrence ∈ scene.occurrencesOf kind) :
    occurrence.kind = kind := by
  simpa using (List.mem_filter.1 isOccurrence).2

namespace ProjectSnapshot

variable (snapshot : ProjectSnapshot) (entry : SceneEntry)

/-- What the startup scene exports of a kind. -/
def shared (kind : OccurrenceKind) : List Occurrence :=
  (snapshot.startup?.map fun startup => (startup.exports.table kind).values).getD []

theorem find?_shared {kind : OccurrenceKind} (isExported : kind.isExported = true)
    (key : String) :
    (snapshot.shared kind).find? (·.key == key) =
      snapshot.startup?.bind (·.scene.findDeclaration? kind key) := by
  cases startupEq : snapshot.startup? with
  | none => simp [shared, startupEq]
  | some startup => simp [shared, startupEq, SceneEntry.find?_values_table isExported]

theorem kind_of_mem_shared {kind : OccurrenceKind} (isExported : kind.isExported = true)
    {occurrence : Occurrence} (isShared : occurrence ∈ snapshot.shared kind) :
    occurrence.kind = kind := by
  cases startupEq : snapshot.startup? with
  | none => simp [shared, startupEq] at isShared
  | some startup =>
      rw [shared, startupEq] at isShared
      exact SceneEntry.kind_of_mem_values_table isExported isShared

theorem resolveVariable?_eq_find? {key : String} (isLower : key.toLower = key) :
    (snapshot.resolveVariable? entry key).map (·.occurrence) =
      ((entry.scene.occurrencesOf .localVariable ++ entry.scene.occurrencesOf .globalVariable ++
        snapshot.shared .globalVariable).find? (·.key == key)).map some := by
  have globals (startup : SceneEntry) : startup.exports.globals[key]? =
      startup.scene.findDeclaration? .globalVariable key :=
    startup.getElem?_table key .globalVariable rfl
  rw [List.find?_append, List.find?_append, entry.scene.find?_occurrencesOf,
    entry.scene.find?_occurrencesOf, snapshot.find?_shared rfl, resolveVariable?,
    Scene.findVariable?, isLower]
  cases (entry.scene.findDeclaration? .localVariable key).or
    (entry.scene.findDeclaration? .globalVariable key) with
  | some own => rfl
  | none =>
      cases snapshot.startup? with
      | none => rfl
      | some startup => simp [globals, Function.comp_def]

theorem resolveAchievement?_eq_find? (key : String) :
    (snapshot.resolveAchievement? entry key).map (·.occurrence) =
      (((entry.exports.table .achievement).values ++ snapshot.shared .achievement).find?
        (·.key == key)).map some := by
  rw [List.find?_append, SceneEntry.find?_values_table rfl, snapshot.find?_shared rfl,
    resolveAchievement?, entry.getElem?_achievements]
  cases entry.scene.findDeclaration? .achievement key with
  | some own => rfl
  | none =>
      cases snapshot.startup? with
      | none => rfl
      | some startup => simp [startup.getElem?_achievements, Function.comp_def]

theorem resolveLabel?_eq_find? (key : String) :
    (snapshot.resolve? entry (.label entry.name key)).map (·.occurrence) =
      ((entry.scene.occurrencesOf .label).find? (·.key == key)).map some := by
  rw [entry.scene.find?_occurrencesOf, resolve?, sceneFrom?, if_pos rfl]
  simp [entry.getElem?_labels, Function.comp_def]

theorem offers_variables :
    OffersResolved snapshot entry .var ShowsVariable
      ((snapshot.completionItems entry .var).filter (·.kind == .var)) := by
  have itemsEq : (snapshot.completionItems entry .var).filter (·.kind == .var) =
      (snapshot.visibleVariables entry).map variableItem := by
    have allKept : ((snapshot.visibleVariables entry).map variableItem).filter (·.kind == .var) =
        (snapshot.visibleVariables entry).map variableItem := by
      simp [List.filter_eq_self, variableItem]
    have noneKept : reservedItems.filter (·.kind == .var) = [] := by decide
    rw [completionItems, List.filter_append, allKept, noneKept, List.append_nil]
  have kinds : ∀ occurrence ∈ entry.scene.occurrencesOf .localVariable ++
      entry.scene.occurrencesOf .globalVariable ++ snapshot.shared .globalVariable,
      occurrence.kind = .localVariable ∨ occurrence.kind = .globalVariable := by
    intro occurrence isVisible
    rcases List.mem_append.1 isVisible with isOwn | isShared
    · rcases List.mem_append.1 isOwn with isLocal | isGlobal
      · exact .inl (Scene.kind_of_mem_occurrencesOf isLocal)
      · exact .inr (Scene.kind_of_mem_occurrencesOf isGlobal)
    · exact .inr (snapshot.kind_of_mem_shared rfl isShared)
  rw [itemsEq]
  apply offersResolved_of_find?
  · intro occurrence isVisible
    rcases kinds occurrence isVisible with kindEq | kindEq <;> rw [kindEq] <;> rfl
  · intro occurrence
    rfl
  · intro occurrence isVisible
    refine ⟨rfl, ?_, ?_⟩
    · rcases kinds occurrence isVisible with kindEq | kindEq
      · exact .inl ⟨kindEq, by simp [variableItem, kindEq, toString]⟩
      · exact .inr ⟨kindEq, by simp [variableItem, kindEq, toString]⟩
    · simp [variableItem, toString]
  · intro key isLower
    exact snapshot.resolveVariable?_eq_find? entry isLower

theorem offers_labels :
    OffersResolved snapshot entry (.label entry.name) ShowsLabel
      (snapshot.completionItems entry .label) := by
  apply offersResolved_of_find?
  · intro occurrence isLabel
    rw [Scene.kind_of_mem_occurrencesOf isLabel]
    rfl
  · intro occurrence
    rfl
  · intro occurrence isLabel
    exact ⟨rfl, ⟨Scene.kind_of_mem_occurrencesOf isLabel, rfl⟩, rfl⟩
  · intro key _
    exact snapshot.resolveLabel?_eq_find? entry key

theorem offers_achievements :
    OffersResolved snapshot entry .achievement ShowsAchievement
      (snapshot.completionItems entry .achievement) := by
  have kinds : ∀ occurrence ∈ (entry.exports.table .achievement).values ++
      snapshot.shared .achievement, occurrence.kind = .achievement := by
    intro occurrence isVisible
    rcases List.mem_append.1 isVisible with isOwn | isShared
    · exact SceneEntry.kind_of_mem_values_table rfl isOwn
    · exact snapshot.kind_of_mem_shared rfl isShared
  apply offersResolved_of_find?
  · intro occurrence isVisible
    rw [kinds occurrence isVisible]
    rfl
  · intro occurrence
    rfl
  · intro occurrence isVisible
    exact ⟨rfl, ⟨kinds occurrence isVisible, rfl⟩, rfl⟩
  · intro key _
    exact snapshot.resolveAchievement?_eq_find? entry key

theorem mem_labelItems_iff {key : String} :
    key ∈ (snapshot.completionItems entry .label).map (·.label.toLower) ↔
      ∃ declared ∈ entry.scene.occurrencesOf .label, declared.key = key := by
  have resolves : (snapshot.resolve? entry (.label entry.name key)).isSome = true ↔
      ∃ declared ∈ entry.scene.occurrencesOf .label, declared.key = key := by
    rw [← Option.isSome_map (f := (·.occurrence)), snapshot.resolveLabel?_eq_find?,
      Option.isSome_map, List.find?_isSome]
    simp
  rw [(snapshot.offers_labels entry).keys key, resolves, and_iff_right_iff_imp]
  rintro ⟨declared, isLabel, rfl⟩
  exact declared.toLower_key (by rw [Scene.kind_of_mem_occurrencesOf isLabel]; rfl)

/-! ## Completion at a position -/

/-- The items offered at a position. -/
def offered (uri : Uri) (position : Position) : List CompletionItem :=
  ((snapshot.complete? uri position).map (·.items)).getD []

variable {snapshot entry}

theorem offered_eq {uri : Uri} {position : Position} {line : List Char}
    (isDocument : snapshot.document? uri = some entry)
    (isLine : entry.scene.source.lineBefore? position = some line) :
    snapshot.offered uri position =
      snapshot.completionItems entry (.detect (splitPartialName line).1) := by
  simp only [offered, complete?, isDocument, isLine, Option.bind_eq_bind, Option.bind_some]
  cases snapshot.completionItems entry (.detect (splitPartialName line).1) <;> rfl

/-- Completion offers what resolves.  Where a variable may stand, there is one item of a
variable for each key that leads to one from the scene, with the name, the scope, the type
and the value of the declaration it leads to; where a label of the scene may stand, one for
each key of a label declared in it; where an achievement may stand, one for each key that
leads to an achievement. -/
theorem completion_offers_resolved (snapshot : ProjectSnapshot) (entry : SceneEntry) (uri : Uri)
    (position : Position) (line : List Char) (isDocument : snapshot.document? uri = some entry)
    (isLine : entry.scene.source.lineBefore? position = some line) :
    (CompletionContext.detect (splitPartialName line).1 = .var →
      OffersResolved snapshot entry .var ShowsVariable
        ((snapshot.offered uri position).filter (·.kind == .var))) ∧
    (CompletionContext.detect (splitPartialName line).1 = .label →
      OffersResolved snapshot entry (.label entry.name) ShowsLabel
          (snapshot.offered uri position) ∧
        ∀ key, key ∈ (snapshot.offered uri position).map (·.label.toLower) ↔
          ∃ declared ∈ entry.scene.occurrencesOf .label, declared.key = key) ∧
    (CompletionContext.detect (splitPartialName line).1 = .achievement →
      OffersResolved snapshot entry .achievement ShowsAchievement
        (snapshot.offered uri position)) := by
  rw [offered_eq isDocument isLine]
  refine ⟨?_, ?_, ?_⟩
  · intro contextEq
    rw [contextEq]
    exact snapshot.offers_variables entry
  · intro contextEq
    rw [contextEq]
    exact ⟨snapshot.offers_labels entry, fun key => snapshot.mem_labelItems_iff entry⟩
  · intro contextEq
    rw [contextEq]
    exact snapshot.offers_achievements entry

/-- A scene with a variable that hides one of the game, two labels of one key and an
achievement of the startup scene, completed behind a command of each kind. -/
theorem completion_beside_startup :
    let startup := SceneEntry.ofDocument (.ofText "file:///game/startup.txt" 1
      "*create gold 0\n*achievement found visible 5 Finder")
    let chapter := SceneEntry.ofDocument (.ofText "file:///game/chapter.txt" 1
      "*temp GOLD true\n*label Top\n*label top\n*set \n*goto \n*achieve ")
    let snapshot := (ProjectSnapshot.withEntry {} startup).withEntry chapter
    snapshot.document? chapter.uri = some chapter ∧
      (chapter.scene.source.lineBefore? ⟨3, 5⟩ = some "*set ".toList ∧
        CompletionContext.detect (splitPartialName "*set ".toList).1 = .var ∧
        OffersResolved snapshot chapter .var ShowsVariable
          ((snapshot.offered chapter.uri ⟨3, 5⟩).filter (·.kind == .var))) ∧
      (chapter.scene.source.lineBefore? ⟨4, 6⟩ = some "*goto ".toList ∧
        CompletionContext.detect (splitPartialName "*goto ".toList).1 = .label ∧
        OffersResolved snapshot chapter (.label chapter.name) ShowsLabel
          (snapshot.offered chapter.uri ⟨4, 6⟩)) ∧
      chapter.scene.source.lineBefore? ⟨5, 9⟩ = some "*achieve ".toList ∧
        CompletionContext.detect (splitPartialName "*achieve ".toList).1 = .achievement ∧
        OffersResolved snapshot chapter .achievement ShowsAchievement
          (snapshot.offered chapter.uri ⟨5, 9⟩) := by
  intro startup chapter snapshot
  have isDocument : snapshot.document? chapter.uri = some chapter := by
    simp [snapshot, document?, withEntry]
  have atSet : chapter.scene.source.lineBefore? ⟨3, 5⟩ = some "*set ".toList := by
    decide +kernel
  have atGoto : chapter.scene.source.lineBefore? ⟨4, 6⟩ = some "*goto ".toList := by
    decide +kernel
  have atAchieve : chapter.scene.source.lineBefore? ⟨5, 9⟩ = some "*achieve ".toList := by
    decide +kernel
  have isVariable : CompletionContext.detect (splitPartialName "*set ".toList).1 = .var := by
    decide +kernel
  have isLabel : CompletionContext.detect (splitPartialName "*goto ".toList).1 = .label := by
    decide +kernel
  have isAchievement :
      CompletionContext.detect (splitPartialName "*achieve ".toList).1 = .achievement := by
    decide +kernel
  exact ⟨isDocument,
    ⟨atSet, isVariable,
      (completion_offers_resolved _ _ _ _ _ isDocument atSet).1 isVariable⟩,
    ⟨atGoto, isLabel,
      ((completion_offers_resolved _ _ _ _ _ isDocument atGoto).2.1 isLabel).1⟩,
    atAchieve, isAchievement,
    (completion_offers_resolved _ _ _ _ _ isDocument atAchieve).2.2 isAchievement⟩

end ProjectSnapshot

end Gamebook
