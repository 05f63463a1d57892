import Gamebook.Proofs.ProjectEntries
import Gamebook.Proofs.ScenePlacement

/-!
# Occurrences that belong together

Two occurrences belong together when their names are the same and lead to the
same place, or lead nowhere and are the same symbol.  This is said by one value,
the anchor of a symbol seen from a scene, and the references of a symbol are the
occurrences with its anchor.  So the references divide the occurrences of a
project into classes.
-/

namespace Gamebook

/-! ## Names and anchors -/

namespace Symbol

/-- The symbol without the scene of a label. -/
def bare : Symbol → Symbol
  | label _ key => label "" key
  | symbol => symbol

theorem sameName_iff {first second : Symbol} :
    first.sameName second = true ↔ first.bare = second.bare := by
  cases first <;> cases second <;> simp [sameName, bare]

theorem of?_eq_none_iff {sceneName : String} {occurrence : Occurrence} :
    of? sceneName occurrence = none ↔ occurrence.isText = true := by
  rw [of?, Occurrence.isText, Occurrence.kind]
  cases occurrence.role <;> simp [Role.kind]

end Symbol

/-- What the occurrences of one symbol have in common. -/
inductive Anchor where
  /-- The name, and the place of its declaration. -/
  | declared (name : Symbol) (uri : Uri) (span : Option Span)
  | undeclared (symbol : Symbol)
deriving DecidableEq

namespace ProjectSnapshot

variable (snapshot : ProjectSnapshot)

/-- The anchor of a symbol seen from a scene. -/
def anchor (origin : SceneEntry) (symbol : Symbol) : Anchor :=
  match snapshot.resolve? origin symbol with
  | some declaration =>
      .declared symbol.bare declaration.entry.uri (declaration.occurrence.map (·.span))
  | none => .undeclared symbol

/-- The anchor of an occurrence of an entry; prose has none. -/
def anchor? (site : SceneEntry × Occurrence) : Option Anchor :=
  (Symbol.of? site.1.name site.2).map (snapshot.anchor site.1)

/-- Every occurrence of the project, by URI and position. -/
def sites : List (SceneEntry × Occurrence) :=
  snapshot.scenes.flatMap fun entry => entry.scene.occurrences.map (entry, ·)

/-- The references of what an occurrence of an entry stands for. -/
def related (entry : SceneEntry) (occurrence : Occurrence) : List (SceneEntry × Occurrence) :=
  match Symbol.of? entry.name occurrence with
  | some symbol => snapshot.references entry symbol
  | none => []

variable {snapshot}

theorem refersTo_iff {origin entry : SceneEntry} {symbol : Symbol} {occurrence : Occurrence} :
    snapshot.refersTo symbol (snapshot.resolve? origin symbol) entry occurrence = true ↔
      snapshot.anchor? (entry, occurrence) = some (snapshot.anchor origin symbol) := by
  unfold refersTo anchor?
  cases Symbol.of? entry.name occurrence with
  | none => simp
  | some candidate =>
      simp only [Bool.and_eq_true, Symbol.sameName_iff, Option.map_some, Option.some.injEq]
      unfold anchor
      cases snapshot.resolve? origin symbol with
      | none =>
          cases snapshot.resolve? entry candidate with
          | none =>
              -- equal symbols have equal names
              simpa using fun symbolEq : candidate = symbol => congrArg Symbol.bare symbolEq
          | some declaration => simp
      | some target =>
          cases snapshot.resolve? entry candidate with
          | none => simp
          | some declaration =>
              simp only [Declaration.sameSite, Bool.and_eq_true, beq_iff_eq,
                Anchor.declared.injEq]
              constructor
              · rintro ⟨nameEq, uriEq, spanEq⟩
                exact ⟨nameEq, uriEq.symm, spanEq.symm⟩
              · rintro ⟨nameEq, uriEq, spanEq⟩
                exact ⟨nameEq, uriEq.symm, spanEq.symm⟩

/-- The references of a symbol are the occurrences with its anchor. -/
theorem references_eq_filter (origin : SceneEntry) (symbol : Symbol) :
    snapshot.references origin symbol =
      snapshot.sites.filter fun site =>
        snapshot.anchor? site == some (snapshot.anchor origin symbol) := by
  have sameTest (entry : SceneEntry) :
      snapshot.refersTo symbol (snapshot.resolve? origin symbol) entry =
        (fun site => snapshot.anchor? site == some (snapshot.anchor origin symbol)) ∘
          (entry, ·) := by
    funext occurrence
    rw [Bool.eq_iff_iff, refersTo_iff]
    simp
  simp only [references, sites, List.filter_flatMap, List.filter_map, sameTest]

theorem mem_sites_iff {site : SceneEntry × Occurrence} :
    site ∈ snapshot.sites ↔
      site.1 ∈ snapshot.scenes ∧ site.2 ∈ site.1.scene.occurrences := by
  rw [sites, List.mem_flatMap]
  constructor
  · rintro ⟨entry, isEntry, isSite⟩
    obtain ⟨occurrence, isOccurrence, rfl⟩ := List.mem_map.1 isSite
    exact ⟨isEntry, isOccurrence⟩
  · rintro ⟨isEntry, isOccurrence⟩
    exact ⟨site.1, isEntry, List.mem_map.2 ⟨site.2, isOccurrence, rfl⟩⟩

theorem mem_references_iff {origin : SceneEntry} {symbol : Symbol}
    {site : SceneEntry × Occurrence} :
    site ∈ snapshot.references origin symbol ↔
      site.1 ∈ snapshot.scenes ∧ site.2 ∈ site.1.scene.occurrences ∧
        snapshot.anchor? site = some (snapshot.anchor origin symbol) := by
  rw [references_eq_filter, List.mem_filter, mem_sites_iff, beq_iff_eq, and_assoc]

/-! ## Order -/

/-- Whether an occurrence comes before another: by URI, then by position. -/
def SiteBefore (first second : SceneEntry × Occurrence) : Prop :=
  first.1.uri < second.1.uri ∨
    first.1.uri = second.1.uri ∧ first.2.span.stop ≤ second.2.span.start

theorem sites_pairwise (filed : Filed snapshot.entries) :
    snapshot.sites.Pairwise SiteBefore := by
  rw [sites, List.pairwise_flatMap]
  constructor
  · intro entry _
    rw [List.pairwise_map]
    exact entry.scene.occurrences_pairwise.imp fun before => .inr ⟨rfl, before.1⟩
  · refine (scenes_pairwise filed).imp ?_
    intro first second before site isSite other isOther
    obtain ⟨_, _, rfl⟩ := List.mem_map.1 isSite
    obtain ⟨_, _, rfl⟩ := List.mem_map.1 isOther
    exact .inl before

theorem sites_nodup (filed : Filed snapshot.entries) : snapshot.sites.Nodup := by
  refine (sites_pairwise filed).imp_of_mem ?_
  rintro first _ isFirst _ before rfl
  rcases before with uriLt | ⟨_, stopLe⟩
  · exact String.lt_irrefl _ uriLt
  · have := Scene.span_start_lt_stop (mem_sites_iff.1 isFirst).2
    omega

/-! ## Classes -/

theorem related_eq_filter {entry : SceneEntry} {occurrence : Occurrence} {own : Anchor}
    (anchorEq : snapshot.anchor? (entry, occurrence) = some own) :
    snapshot.related entry occurrence =
      snapshot.sites.filter fun site => snapshot.anchor? site == some own := by
  obtain ⟨symbol, symbolEq, rfl⟩ := Option.map_eq_some_iff.1 anchorEq
  rw [related, symbolEq]
  exact references_eq_filter entry symbol

theorem exists_anchor (snapshot : ProjectSnapshot) (entry : SceneEntry) {occurrence : Occurrence}
    (notText : occurrence.isText = false) :
    ∃ own, snapshot.anchor? (entry, occurrence) = some own := by
  cases symbolEq : Symbol.of? entry.name occurrence with
  | none => simp [Symbol.of?_eq_none_iff.1 symbolEq] at notText
  | some symbol => exact ⟨snapshot.anchor entry symbol, by rw [anchor?, symbolEq]; rfl⟩

/-- The references of an occurrence are the class it belongs to: they hold the
occurrence itself, each of them has the same references, and they are listed once
each, by URI and position.  No prose is among them. -/
theorem references_partition (snapshot : ProjectSnapshot) (filed : Filed snapshot.entries)
    (entry : SceneEntry) (isEntry : entry ∈ snapshot.scenes) (occurrence : Occurrence)
    (isOccurrence : occurrence ∈ entry.scene.occurrences)
    (notText : occurrence.isText = false) :
    (entry, occurrence) ∈ snapshot.related entry occurrence ∧
      (∀ other ∈ snapshot.related entry occurrence,
        other.1 ∈ snapshot.scenes ∧ other.2 ∈ other.1.scene.occurrences ∧
          other.2.isText = false ∧
          snapshot.related other.1 other.2 = snapshot.related entry occurrence) ∧
      (snapshot.related entry occurrence).Nodup ∧
      (snapshot.related entry occurrence).Pairwise SiteBefore := by
  obtain ⟨own, anchorEq⟩ := snapshot.exists_anchor entry notText
  have classEq := related_eq_filter anchorEq
  rw [classEq]
  refine ⟨?_, ?_, (sites_nodup filed).filter _, (sites_pairwise filed).filter _⟩
  · exact List.mem_filter.2 ⟨mem_sites_iff.2 ⟨isEntry, isOccurrence⟩, by rw [anchorEq, beq_iff_eq]⟩
  · intro other isOther
    obtain ⟨isSite, sameAnchor⟩ := List.mem_filter.1 isOther
    obtain ⟨isScene, isMention⟩ := mem_sites_iff.1 isSite
    have otherAnchor : snapshot.anchor? other = some own := by simpa using sameAnchor
    refine ⟨isScene, isMention, ?_, related_eq_filter otherAnchor⟩
    obtain ⟨symbol, symbolEq, _⟩ := Option.map_eq_some_iff.1 otherAnchor
    cases textEq : other.2.isText with
    | false => rfl
    | true => simp [Symbol.of?_eq_none_iff.2 textEq] at symbolEq

/-- A variable that a chapter sets and the startup scene declares: the two make up
one class, seen from either side. -/
theorem references_of_shared_variable :
    let startup := SceneEntry.ofDocument (.ofText "file:///game/startup.txt" 1 "*create gold 0")
    let chapter := SceneEntry.ofDocument (.ofText "file:///game/chapter.txt" 1 "*set Gold 1")
    let snapshot := (({} : ProjectSnapshot).withEntry startup).withEntry chapter
    let create : Occurrence := ⟨.globalVariable "0", "gold", ⟨8, 12⟩, 0⟩
    let assign : Occurrence := ⟨.variableWrite, "Gold", ⟨5, 9⟩, 0⟩
    Filed snapshot.entries ∧ chapter ∈ snapshot.scenes ∧
      assign ∈ chapter.scene.occurrences ∧ assign.isText = false ∧
      (chapter, assign) ∈ snapshot.related chapter assign ∧
      (startup, create) ∈ snapshot.related chapter assign ∧
      snapshot.related startup create = snapshot.related chapter assign := by
  intro startup chapter snapshot create assign
  have filed : Filed snapshot.entries := (Filed.empty.insert startup).insert chapter
  have isChapter : chapter ∈ snapshot.scenes :=
    mem_scenes_iff.2 ⟨chapter.uri, by decide +kernel⟩
  have isAssign : assign ∈ chapter.scene.occurrences := by decide +kernel
  obtain ⟨isOwn, sameClass, _⟩ :=
    references_partition snapshot filed chapter isChapter assign isAssign rfl
  have isStartup : startup ∈ snapshot.scenes := mem_scenes_iff.2 ⟨startup.uri, by decide +kernel⟩
  have symbolEq : Symbol.of? chapter.name assign = some (.var "gold") := by decide +kernel
  have isCreate : (startup, create) ∈ snapshot.related chapter assign := by
    rw [related, symbolEq]
    exact mem_references_iff.2 ⟨isStartup, by decide +kernel, by decide +kernel⟩
  exact ⟨filed, isChapter, isAssign, rfl, isOwn, isCreate, (sameClass _ isCreate).2.2.2⟩

end ProjectSnapshot

end Gamebook
