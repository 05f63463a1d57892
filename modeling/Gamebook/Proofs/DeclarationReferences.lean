import Gamebook.Editor.Navigation
import Gamebook.Proofs.ReferenceAgreement
import Gamebook.Proofs.ReferenceClasses

/-!
# Declarations among their references

Where a name leads is the first declaration of that name in some scene.  Looked
up from there, the declaration leads to itself, and so it is one of the
references.  There is one exception: a scene sees its own variables before those
of the whole game, while other scenes see only the latter.  A variable of the
game that is hidden in this way is not among the references that lead to it.
-/

namespace Gamebook

/-! ## Names in lower case -/

theorem toLower_toLower (text : String) : text.toLower.toLower = text.toLower := by
  have idempotent (char : Char) : char.toLower.toLower = char.toLower := by
    unfold Char.toLower
    by_cases isUpper : char.val ≥ 'A'.val ∧ char.val ≤ 'Z'.val
    · rw [dif_pos isUpper, dif_neg]
      rintro ⟨_, stillUpper⟩
      have distance : ('a'.val - 'A'.val).toNat = 32 := by decide
      have first : 'A'.val.toNat = 65 := by decide
      have last : 'Z'.val.toNat = 90 := by decide
      simp only [ge_iff_le, UInt32.le_iff_toNat_le, UInt32.toNat_add] at isUpper stillUpper
      omega
    · rw [dif_neg isUpper, dif_neg isUpper]
  have mapped (text : String) : text.toLower = text.map Char.toLower := rfl
  rw [mapped, mapped, String.map_map]
  exact congrArg (String.map · text) (funext idempotent)

theorem Occurrence.toLower_key {occurrence : Occurrence}
    (ignoresCase : occurrence.kind.ignoresCase = true) :
    occurrence.key.toLower = occurrence.key := by
  rw [key_eq_toLower ignoresCase, toLower_toLower]

theorem Symbol.toLower_of_var {sceneName key : String} {occurrence : Occurrence}
    (symbolEq : of? sceneName occurrence = some (.var key)) : key.toLower = key := by
  have isVariable : occurrence.kind.ignoresCase = true ∧ occurrence.key = key := by
    unfold of? at symbolEq
    unfold Occurrence.kind
    cases roleEq : occurrence.role <;>
      simp_all [Role.kind, OccurrenceKind.ignoresCase]
  rw [← isVariable.2, Occurrence.toLower_key isVariable.1]

theorem Scene.findDeclaration?_spec {scene : Scene} {kind : OccurrenceKind} {key : String}
    {occurrence : Occurrence} (found : scene.findDeclaration? kind key = some occurrence) :
    occurrence ∈ scene.occurrences ∧ occurrence.kind = kind ∧ occurrence.key = key := by
  have satisfies := List.find?_some found
  simp only [Bool.and_eq_true, beq_iff_eq] at satisfies
  exact ⟨List.mem_of_find?_eq_some found, satisfies⟩

/-- The symbol of a declaration follows from its kind. -/
theorem Symbol.of?_declaration (sceneName : String) {declared : Occurrence}
    (isDeclaration : declared.kind.isDeclaration = true) :
    of? sceneName declared = some
      (match declared.kind with
        | .label => .label sceneName declared.key
        | .achievement => .achievement declared.key
        | _ => .var declared.key) := by
  rw [of?]
  unfold Occurrence.kind at isDeclaration ⊢
  cases roleEq : declared.role <;> simp_all [Role.kind, OccurrenceKind.isDeclaration]

/-! ## First declarations -/

namespace SceneEntry

/-- The occurrence is the first in the scene that declares its name. -/
def DeclaresFirst (entry : SceneEntry) (declared : Occurrence) : Prop :=
  declared.kind.isDeclaration = true ∧
    entry.scene.findDeclaration? declared.kind declared.key = some declared

/-- A variable of the whole game is hidden, in the scene that declares it, by a
variable of the scene with the same name. -/
def Hides (entry : SceneEntry) (declared : Occurrence) : Prop :=
  declared.kind = .globalVariable ∧
    (entry.scene.findDeclaration? .localVariable declared.key).isSome = true

instance (entry : SceneEntry) (declared : Occurrence) : Decidable (entry.Hides declared) :=
  inferInstanceAs (Decidable (_ ∧ _))

theorem declaresFirst_of_found {entry : SceneEntry} {kind : OccurrenceKind} {key : String}
    {declared : Occurrence} (isDeclaration : kind.isDeclaration = true)
    (found : entry.scene.findDeclaration? kind key = some declared) :
    entry.DeclaresFirst declared ∧ declared.kind = kind ∧ declared.key = key := by
  obtain ⟨_, rfl, rfl⟩ := Scene.findDeclaration?_spec found
  exact ⟨⟨isDeclaration, found⟩, rfl, rfl⟩

end SceneEntry

namespace ProjectSnapshot

variable {snapshot : ProjectSnapshot} {origin target : SceneEntry} {symbol : Symbol}
  {declared : Occurrence}

theorem resolveVariable?_declaresFirst {key : String}
    (resolved : snapshot.resolveVariable? origin key = some ⟨target, some declared⟩)
    (isLower : key.toLower = key) :
    target.DeclaresFirst declared ∧
      (declared.kind = .localVariable ∨ declared.kind = .globalVariable) ∧
      declared.key = key := by
  rw [resolveVariable?] at resolved
  split at resolved
  · rename_i own found
    obtain ⟨rfl, rfl⟩ : origin = target ∧ own = declared := by simpa using resolved
    rw [Scene.findVariable?, isLower, Option.or_eq_some_iff] at found
    rcases found with isLocal | ⟨_, isGlobal⟩
    · obtain ⟨first, kindEq, keyEq⟩ := SceneEntry.declaresFirst_of_found rfl isLocal
      exact ⟨first, .inl kindEq, keyEq⟩
    · obtain ⟨first, kindEq, keyEq⟩ := SceneEntry.declaresFirst_of_found rfl isGlobal
      exact ⟨first, .inr kindEq, keyEq⟩
  · obtain ⟨startup, own, _, found, declarationEq⟩ := exported_eq_some_iff.1 resolved
    obtain ⟨rfl, rfl⟩ : target = startup ∧ declared = own := by simpa using declarationEq
    have isGlobal := target.getElem?_table key .globalVariable rfl
    obtain ⟨first, kindEq, keyEq⟩ :=
      SceneEntry.declaresFirst_of_found rfl (isGlobal.symm.trans found)
    exact ⟨first, .inr kindEq, keyEq⟩

theorem resolveAchievement?_declaresFirst {key : String}
    (resolved : snapshot.resolveAchievement? origin key = some ⟨target, some declared⟩) :
    target.DeclaresFirst declared ∧ declared.kind = .achievement ∧ declared.key = key := by
  rw [resolveAchievement?] at resolved
  split at resolved
  · rename_i own found
    obtain ⟨rfl, rfl⟩ : origin = target ∧ own = declared := by simpa using resolved
    rw [origin.getElem?_achievements] at found
    exact SceneEntry.declaresFirst_of_found rfl found
  · obtain ⟨startup, own, _, found, declarationEq⟩ := exported_eq_some_iff.1 resolved
    obtain ⟨rfl, rfl⟩ : target = startup ∧ declared = own := by simpa using declarationEq
    rw [target.getElem?_achievements] at found
    exact SceneEntry.declaresFirst_of_found rfl found

/-- A name leads to the first declaration of that name in a scene. -/
theorem resolve?_declaresFirst {occurrence : Occurrence}
    (symbolEq : Symbol.of? origin.name occurrence = some symbol)
    (resolved : snapshot.resolve? origin symbol = some ⟨target, some declared⟩) :
    target.DeclaresFirst declared ∧
      ∃ own, Symbol.of? target.name declared = some own ∧ own.bare = symbol.bare := by
  cases symbol with
  | var key =>
      obtain ⟨first, kindEq, rfl⟩ :=
        resolveVariable?_declaresFirst resolved (Symbol.toLower_of_var symbolEq)
      refine ⟨first, .var declared.key, ?_, rfl⟩
      rw [Symbol.of?_declaration _ first.1]
      rcases kindEq with isLocal | isGlobal
      · rw [isLocal]
      · rw [isGlobal]
  | achievement key =>
      obtain ⟨first, kindEq, rfl⟩ := resolveAchievement?_declaresFirst resolved
      refine ⟨first, .achievement declared.key, ?_, rfl⟩
      rw [Symbol.of?_declaration _ first.1, kindEq]
  | scene name =>
      obtain ⟨found, _, declarationEq⟩ := Option.map_eq_some_iff.1 resolved
      simp at declarationEq
  | label scene key =>
      obtain ⟨found, own, _, isLabel, declarationEq⟩ := exported_eq_some_iff.1 resolved
      obtain ⟨rfl, rfl⟩ : target = found ∧ declared = own := by simpa using declarationEq
      rw [target.getElem?_labels] at isLabel
      obtain ⟨first, kindEq, rfl⟩ := SceneEntry.declaresFirst_of_found rfl isLabel
      refine ⟨first, .label target.name declared.key, ?_, rfl⟩
      rw [Symbol.of?_declaration _ first.1, kindEq]

/-- Looked up from its own scene, a first declaration leads to itself unless it is
hidden. -/
theorem resolve?_own_declaration {entry : SceneEntry} (first : entry.DeclaresFirst declared)
    (notHidden : ¬ entry.Hides declared)
    (symbolEq : Symbol.of? entry.name declared = some symbol) :
    snapshot.resolve? entry symbol = some ⟨entry, some declared⟩ := by
  obtain ⟨isDeclaration, found⟩ := first
  rw [Symbol.of?_declaration _ isDeclaration, Option.some.injEq] at symbolEq
  subst symbolEq
  cases kindEq : declared.kind with
  | label =>
      rw [kindEq, ← entry.getElem?_labels] at found
      simp [resolve?, sceneFrom?, found]
  | achievement =>
      rw [kindEq, ← entry.getElem?_achievements] at found
      simp [resolve?, resolveAchievement?, found]
  | localVariable =>
      have isLower := declared.toLower_key (by rw [kindEq]; rfl)
      rw [kindEq] at found
      simp [resolve?, resolveVariable?, Scene.findVariable?, isLower, found]
  | globalVariable =>
      have isLower := declared.toLower_key (by rw [kindEq]; rfl)
      have noLocal : entry.scene.findDeclaration? .localVariable declared.key = none := by
        rw [← Option.not_isSome_iff_eq_none]
        exact fun isHidden => notHidden ⟨kindEq, isHidden⟩
      rw [kindEq] at found
      simp [resolve?, resolveVariable?, Scene.findVariable?, isLower, noLocal, found]
  | _ => simp [kindEq, OccurrenceKind.isDeclaration] at isDeclaration

/-- Looked up from its own scene, a hidden declaration leads elsewhere. -/
theorem resolve?_hidden_declaration {entry : SceneEntry} (hidden : entry.Hides declared)
    (symbolEq : Symbol.of? entry.name declared = some symbol) :
    ∃ own ∈ entry.scene.occurrences, own ≠ declared ∧
      snapshot.resolve? entry symbol = some ⟨entry, some own⟩ := by
  obtain ⟨kindEq, isSome⟩ := hidden
  obtain ⟨own, found⟩ := Option.isSome_iff_exists.1 isSome
  obtain ⟨isOwn, ownKind, _⟩ := Scene.findDeclaration?_spec found
  have isLower := declared.toLower_key (by rw [kindEq]; rfl)
  rw [Symbol.of?_declaration _ (by rw [kindEq]; rfl), kindEq, Option.some.injEq] at symbolEq
  subst symbolEq
  refine ⟨own, isOwn, ?_, ?_⟩
  · rintro rfl
    simp [ownKind] at kindEq
  · simp [resolve?, resolveVariable?, Scene.findVariable?, isLower, found]

theorem anchor_eq_of_resolve? {declaration : Declaration}
    (resolved : snapshot.resolve? origin symbol = some declaration) :
    snapshot.anchor origin symbol =
      .declared symbol.bare declaration.entry.uri (declaration.occurrence.map (·.span)) := by
  rw [anchor, resolved]

theorem nonEmpty?_of_mem {Item : Type} {item : Item} {items : List Item}
    (isMember : item ∈ items) : nonEmpty? items = some items := by
  cases items with
  | nil => simp at isMember
  | cons _ _ => rfl

/-- What a name leads to is one of its references, unless it is hidden in its own
scene; and then the location of the definition is one of those listed with the
declaration. -/
theorem declaration_referenced_iff (snapshot : ProjectSnapshot) (entry : SceneEntry)
    (isEntry : entry ∈ snapshot.scenes) (occurrence : Occurrence) (symbol : Symbol)
    (symbolEq : Symbol.of? entry.name occurrence = some symbol) (target : SceneEntry)
    (declared : Occurrence)
    (resolved : snapshot.resolve? entry symbol = some ⟨target, some declared⟩) :
    ((target, declared) ∈ snapshot.references entry symbol ↔ ¬ target.Hides declared) ∧
      (¬ target.Hides declared → ∀ uri position, snapshot.document? uri = some entry →
        entry.scene.occurrenceUnder? position = some occurrence →
          ∃ location locations, snapshot.definition? uri position = some location ∧
            snapshot.referenceLocations? uri position true = some locations ∧
            location ∈ locations) := by
  obtain ⟨first, own, ownEq, bareEq⟩ := resolve?_declaresFirst symbolEq resolved
  have isTarget := resolve?_mem_scenes isEntry resolved
  have isDeclared := (Scene.findDeclaration?_spec first.2).1
  have listed : (target, declared) ∈ snapshot.references entry symbol ↔
      ¬ target.Hides declared := by
    rw [mem_references_iff, anchor_eq_of_resolve? resolved, ← bareEq]
    simp only [isTarget, isDeclared, true_and]
    rw [anchor?, ownEq, Option.map_some, Option.some.injEq]
    constructor
    · intro sameAnchor hidden
      obtain ⟨other, isOther, different, leads⟩ := resolve?_hidden_declaration hidden ownEq
      rw [anchor_eq_of_resolve? leads] at sameAnchor
      have spanEq : other.span = declared.span := by simpa using sameAnchor
      exact different (Scene.occurrence_eq_of_span_eq isOther isDeclared spanEq)
    · intro notHidden
      rw [anchor_eq_of_resolve? (resolve?_own_declaration first notHidden ownEq)]
  refine ⟨listed, ?_⟩
  intro notHidden uri position documentEq under
  have symbolUnder : snapshot.symbolUnder? uri position = some (entry, symbol) := by
    simp [symbolUnder?, documentEq, under, symbolEq]
  have isListed : target.locate declared.span ∈
      ((snapshot.references entry symbol).filter fun found =>
        true || !found.2.kind.isDeclaration).map fun found => found.1.locate found.2.span :=
    List.mem_map.2 ⟨(target, declared), List.mem_filter.2 ⟨listed.2 notHidden, rfl⟩, rfl⟩
  refine ⟨target.locate declared.span, _, ?_, ?_, isListed⟩
  · simp [definition?, symbolUnder, resolved, Declaration.span]
  · rw [referenceLocations?, symbolUnder]
    exact nonEmpty?_of_mem isListed

/-- A variable that a chapter sets leads to the startup scene, and the declaration
there is one of its references. -/
theorem shared_declaration_referenced :
    let startup := SceneEntry.ofDocument (.ofText "file:///game/startup.txt" 1 "*create gold 0")
    let chapter := SceneEntry.ofDocument (.ofText "file:///game/chapter.txt" 1 "*set Gold 1")
    let snapshot := (({} : ProjectSnapshot).withEntry startup).withEntry chapter
    let create : Occurrence := ⟨.globalVariable "0", "gold", ⟨8, 12⟩, 0⟩
    let assign : Occurrence := ⟨.variableWrite, "Gold", ⟨5, 9⟩, 0⟩
    chapter ∈ snapshot.scenes ∧ Symbol.of? chapter.name assign = some (.var "gold") ∧
      snapshot.resolve? chapter (.var "gold") = some ⟨startup, some create⟩ ∧
      ¬ startup.Hides create ∧ (startup, create) ∈ snapshot.references chapter (.var "gold") := by
  intro startup chapter snapshot create assign
  have isChapter : chapter ∈ snapshot.scenes :=
    mem_scenes_iff.2 ⟨chapter.uri, by decide +kernel⟩
  have symbolEq : Symbol.of? chapter.name assign = some (.var "gold") := by decide +kernel
  have resolved : snapshot.resolve? chapter (.var "gold") = some ⟨startup, some create⟩ := by
    decide +kernel
  have notHidden : ¬ startup.Hides create := by decide +kernel
  have listed := declaration_referenced_iff snapshot chapter isChapter assign (.var "gold")
    symbolEq startup create resolved
  exact ⟨isChapter, symbolEq, resolved, notHidden, listed.1.2 notHidden⟩

/-- A startup scene with two variables of one name.  From a chapter the name leads to
the one of the whole game, but that declaration is not among the references that are
listed with declarations. -/
theorem hidden_declaration_not_listed :
    let startup := SceneEntry.ofDocument
      (.ofText "file:///game/startup.txt" 1 "*create gold 0\n*temp gold 5")
    let chapter := SceneEntry.ofDocument (.ofText "file:///game/chapter.txt" 1 "*set gold 1")
    let snapshot := (({} : ProjectSnapshot).withEntry startup).withEntry chapter
    let created : Location := ⟨startup.uri, ⟨0, 8⟩, ⟨0, 12⟩⟩
    let assigned : Location := ⟨chapter.uri, ⟨0, 5⟩, ⟨0, 9⟩⟩
    snapshot.definition? chapter.uri ⟨0, 6⟩ = some created ∧
      snapshot.referenceLocations? chapter.uri ⟨0, 6⟩ true = some [assigned] ∧
      created ∉ [assigned] := by
  intro startup chapter snapshot created assigned
  let create : Occurrence := ⟨.globalVariable "0", "gold", ⟨8, 12⟩, 0⟩
  let shadow : Occurrence := ⟨.localVariable (some "5"), "gold", ⟨21, 25⟩, 1⟩
  let assign : Occurrence := ⟨.variableWrite, "gold", ⟨5, 9⟩, 0⟩
  have underCursor : snapshot.symbolUnder? chapter.uri ⟨0, 6⟩ = some (chapter, .var "gold") := by
    decide +kernel
  have scenesEq : snapshot.scenes = [chapter, startup] := by decide +kernel
  have ofStartup : startup.scene.occurrences = [create, shadow] := by
    have inOrder : startup.scene.outline.allFindings.filterMap (·.occurrence?) =
        [create, shadow] := by decide +kernel
    rw [startup.scene.occurrences_eq, occurrencesOf, inOrder]
    exact List.mergeSort_of_pairwise (by decide)
  have ofChapter : chapter.scene.occurrences = [assign] := by decide +kernel
  -- The chapter sees what the startup scene exports, the startup scene its own variable.
  have exported : startup.exports.globals["gold"]? = some create := by
    rw [show startup.exports.globals = startup.exports.table .globalVariable from rfl,
      startup.getElem?_table "gold" .globalVariable rfl, Scene.findDeclaration?, ofStartup]
    decide +kernel
  have fromChapter : snapshot.resolve? chapter (.var "gold") = some ⟨startup, some create⟩ := by
    have noOwn : chapter.scene.findVariable? "gold" = none := by decide +kernel
    have startupEq : snapshot.startup? = some startup := by decide +kernel
    simp [resolve?, resolveVariable?, noOwn, startupEq, exported]
  have fromStartup : snapshot.resolve? startup (.var "gold") = some ⟨startup, some shadow⟩ := by
    have own : startup.scene.findVariable? "gold" = some shadow := by
      rw [Scene.findVariable?, Scene.findDeclaration?, Scene.findDeclaration?, ofStartup]
      decide +kernel
    simp [resolve?, resolveVariable?, own]
  refine ⟨?_, ?_, by decide⟩
  · rw [definition?, underCursor]
    simp only [Option.bind_eq_bind, Option.bind_some, fromChapter]
    decide +kernel
  · have assignLeads : Symbol.of? chapter.name assign = some (.var "gold") := by decide +kernel
    have createLeads : Symbol.of? startup.name create = some (.var "gold") := by decide +kernel
    have shadowLeads : Symbol.of? startup.name shadow = some (.var "gold") := by decide +kernel
    have referencesEq : snapshot.references chapter (.var "gold") = [(chapter, assign)] := by
      have ownSite : (Declaration.mk startup (some create)).sameSite ⟨startup, some create⟩ =
          true := by decide +kernel
      have otherSite : (Declaration.mk startup (some create)).sameSite ⟨startup, some shadow⟩ =
          false := by decide +kernel
      simp [references, scenesEq, ofStartup, ofChapter, refersTo, assignLeads, createLeads,
        shadowLeads, fromChapter, fromStartup, ownSite, otherSite, Symbol.sameName]
    rw [referenceLocations?, underCursor]
    simp only [Option.bind_eq_bind, Option.bind_some, referencesEq]
    decide +kernel

end ProjectSnapshot

end Gamebook
