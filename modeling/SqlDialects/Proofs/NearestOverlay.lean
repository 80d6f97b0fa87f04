import Mathlib.Data.List.Induction
import SqlDialects.Proofs.Outcome

/-!
The law of overlays. A question about an engine is answered by the last overlay of its chain that
decides it, under that overlay's name, and a chain describes an engine exactly when every question
is decided somewhere and no capability is left without one that it needs.
-/

namespace SqlDialects.Proofs.NearestOverlay

open SqlDialects.Composition
open SqlDialects.Proofs.Outcome

variable {α : Type}

/-- Whether some overlay of a chain decides a question. -/
def Decided (layers : List Overlay) (decision : Overlay → Option α) : Prop :=
  ∃ layer ∈ layers, (decision layer).isSome

/-- The answer is what the last overlay of a chain that decides a question says, with the name of
that overlay. -/
def LastDecides (layers : List Overlay) (decision : Overlay → Option α)
    (answer : Sourced α) : Prop :=
  ∃ below layer above, layers = below ++ layer :: above ∧
    decision layer = some answer.value ∧ layer.name = answer.origin ∧
    ∀ later ∈ above, decision later = none

theorem not_lastDecides_nil (decision : Overlay → Option α) (answer : Sourced α) :
    ¬ LastDecides [] decision answer := by
  rintro ⟨below, layer, above, hlayers, -⟩
  simp at hlayers

theorem lastDecides_concat_iff (layers : List Overlay) (layer : Overlay)
    (decision : Overlay → Option α) (answer : Sourced α) :
    LastDecides (layers ++ [layer]) decision answer ↔
      (decision layer = some answer.value ∧ layer.name = answer.origin) ∨
        (decision layer = none ∧ LastDecides layers decision answer) := by
  constructor
  · rintro ⟨below, chosen, above, hlayers, hvalue, horigin, hlater⟩
    rcases List.eq_nil_or_concat above with rfl | ⟨between, top, rfl⟩
    · obtain ⟨-, rfl⟩ := List.append_inj' hlayers rfl |>.imp_right List.singleton_inj.mp
      exact .inl ⟨hvalue, horigin⟩
    · have hsplit : layers ++ [layer] = (below ++ chosen :: between) ++ [top] := by
        simpa using hlayers
      obtain ⟨rfl, htop⟩ := List.append_inj' hsplit rfl
      obtain rfl := List.singleton_inj.mp htop
      refine .inr ⟨hlater _ (by simp), below, chosen, between, rfl, hvalue, horigin, ?_⟩
      intro later hmem
      exact hlater later (by simp [hmem])
  · rintro (⟨hvalue, horigin⟩ | ⟨hnone, below, chosen, above, rfl, hvalue, horigin, hlater⟩)
    · exact ⟨layers, layer, [], by simp, hvalue, horigin, by simp⟩
    · refine ⟨below, chosen, above ++ [layer], by simp, hvalue, horigin, ?_⟩
      intro later hmem
      rcases List.mem_append.mp hmem with hmem | hmem
      · exact hlater later hmem
      · rw [List.mem_singleton.mp hmem]
        exact hnone

theorem lastDecides_mem {layers : List Overlay} {decision : Overlay → Option α}
    {answer : Sourced α} (h : LastDecides layers decision answer) :
    ∃ layer ∈ layers, decision layer = some answer.value ∧ layer.name = answer.origin := by
  obtain ⟨below, layer, above, rfl, hvalue, horigin, -⟩ := h
  exact ⟨layer, by simp, hvalue, horigin⟩

/-- A place in a draft for the answer to one question. Applying an overlay overrides it by what
the overlay decides. -/
structure Slot (α : Type) where
  decision : Overlay → Option α
  standing : Draft → Option (Sourced α)
  standing_start : standing {} = none
  standing_apply : ∀ draft layer,
    standing (draft.apply layer) =
      overriding layer.name (decision layer) (standing draft)

theorem overriding_eq_some_iff {origin : String} {decision : Option α}
    {standing : Option (Sourced α)} {answer : Sourced α} :
    overriding origin decision standing = some answer ↔
      (decision = some answer.value ∧ origin = answer.origin) ∨
        (decision = none ∧ standing = some answer) := by
  cases decision with
  | none => simp [overriding]
  | some value =>
      obtain ⟨answerValue, answerOrigin⟩ := answer
      simp [overriding]

theorem draft_concat (layers : List Overlay) (layer : Overlay) :
    Draft.ofLayers (layers ++ [layer]) = (Draft.ofLayers layers).apply layer := by
  simp [Draft.ofLayers]

theorem decided_concat_iff (layers : List Overlay) (layer : Overlay)
    (decision : Overlay → Option α) :
    Decided (layers ++ [layer]) decision ↔
      (decision layer).isSome ∨ Decided layers decision := by
  simp only [Decided, List.mem_append, List.mem_singleton]
  constructor
  · rintro ⟨chosen, hmem | rfl, hsome⟩
    · exact .inr ⟨chosen, hmem, hsome⟩
    · exact .inl hsome
  · rintro (hsome | ⟨chosen, hmem, hsome⟩)
    · exact ⟨layer, .inr rfl, hsome⟩
    · exact ⟨chosen, .inl hmem, hsome⟩

theorem standing_eq_some_iff (slot : Slot α) (layers : List Overlay) (answer : Sourced α) :
    slot.standing (Draft.ofLayers layers) = some answer ↔
      LastDecides layers slot.decision answer := by
  induction layers using List.reverseRecOn with
  | nil =>
      simp only [Draft.ofLayers, List.foldl_nil, slot.standing_start, reduceCtorEq, false_iff]
      exact not_lastDecides_nil slot.decision answer
  | append_singleton layers layer ih =>
      rw [draft_concat, slot.standing_apply, overriding_eq_some_iff, lastDecides_concat_iff, ih]

theorem standing_isSome_iff (slot : Slot α) (layers : List Overlay) :
    (slot.standing (Draft.ofLayers layers)).isSome ↔ Decided layers slot.decision := by
  induction layers using List.reverseRecOn with
  | nil => simp [Draft.ofLayers, slot.standing_start, Decided]
  | append_singleton layers layer ih =>
      rw [draft_concat, slot.standing_apply, decided_concat_iff, ← ih]
      cases slot.decision layer with
      | none => simp [overriding]
      | some value => simp [overriding]

theorem exists_lastDecides_iff (slot : Slot α) (layers : List Overlay) :
    (∃ answer, LastDecides layers slot.decision answer) ↔ Decided layers slot.decision := by
  rw [← standing_isSome_iff, Option.isSome_iff_exists]
  simp only [standing_eq_some_iff]

theorem lastDecides_unique (slot : Slot α) {layers : List Overlay} {a b : Sourced α}
    (ha : LastDecides layers slot.decision a) (hb : LastDecides layers slot.decision b) :
    a = b := by
  rw [← standing_eq_some_iff] at ha hb
  exact Option.some.inj (ha.symm.trans hb)

namespace Slot

def flag (c : Capability) : Slot Bool :=
  ⟨(·.flag c), (·.flag c), rfl, fun _ _ => rfl⟩

def quoteStyle : Slot QuoteStyle :=
  ⟨(·.quoteStyle), (·.quoteStyle), rfl, fun _ _ => rfl⟩

def dummyTable : Slot (Option String) :=
  ⟨(·.dummyTable), (·.dummyTable), rfl, fun _ _ => rfl⟩

def stringStyle : Slot StringStyle :=
  ⟨(·.stringStyle), (·.stringStyle), rfl, fun _ _ => rfl⟩

def booleanStyle : Slot BooleanStyle :=
  ⟨(·.booleanStyle), (·.booleanStyle), rfl, fun _ _ => rfl⟩

def temporalStyle : Slot TemporalStyle :=
  ⟨(·.temporalStyle), (·.temporalStyle), rfl, fun _ _ => rfl⟩

def temporalStyleFor (t : LogicalType) : Slot TemporalStyle :=
  ⟨(·.temporalStyleFor t), (·.temporalStyleFor t), rfl, fun _ _ => rfl⟩

def nullCast : Slot (Option String) :=
  ⟨(·.nullCast), (·.nullCast), rfl, fun _ _ => rfl⟩

def nullsOrdering : Slot NullsOrdering :=
  ⟨(·.nullsOrdering), (·.nullsOrdering), rfl, fun _ _ => rfl⟩

def maxValueList : Slot (Option Nat) :=
  ⟨(·.maxValueList), (·.maxValueList), rfl, fun _ _ => rfl⟩

def castType (t : LogicalType) : Slot String :=
  ⟨(·.castType t), (·.castType t), rfl, fun _ _ => rfl⟩

end Slot

/-- A chain that leaves no question open. Exceptions from the temporal style need not be made. -/
structure DecidesEverything (layers : List Overlay) : Prop where
  flag : ∀ c, Decided layers (·.flag c)
  quoteStyle : Decided layers (·.quoteStyle)
  dummyTable : Decided layers (·.dummyTable)
  stringStyle : Decided layers (·.stringStyle)
  booleanStyle : Decided layers (·.booleanStyle)
  temporalStyle : Decided layers (·.temporalStyle)
  nullCast : Decided layers (·.nullCast)
  nullsOrdering : Decided layers (·.nullsOrdering)
  maxValueList : Decided layers (·.maxValueList)
  castType : ∀ t, Decided layers (·.castType t)

theorem Decided.append {layers : List Overlay} {decision : Overlay → Option α}
    (h : Decided layers decision) (more : List Overlay) : Decided (layers ++ more) decision := by
  obtain ⟨layer, hmem, hsome⟩ := h
  exact ⟨layer, List.mem_append_left more hmem, hsome⟩

theorem DecidesEverything.append {layers : List Overlay} (h : DecidesEverything layers)
    (more : List Overlay) : DecidesEverything (layers ++ more) where
  flag c := (h.flag c).append more
  quoteStyle := h.quoteStyle.append more
  dummyTable := h.dummyTable.append more
  stringStyle := h.stringStyle.append more
  booleanStyle := h.booleanStyle.append more
  temporalStyle := h.temporalStyle.append more
  nullCast := h.nullCast.append more
  nullsOrdering := h.nullsOrdering.append more
  maxValueList := h.maxValueList.append more
  castType t := (h.castType t).append more

/-- A chain whose last word on a capability is that it is set. -/
def Sets (layers : List Overlay) (c : Capability) : Prop :=
  ∃ origin, LastDecides layers (·.flag c) ⟨true, origin⟩

/-- A chain that sets no capability without the one that it needs. -/
def KeepsImplications (layers : List Overlay) : Prop :=
  ∀ pair ∈ Capability.implications, Sets layers pair.1 → Sets layers pair.2

/-- The overlay whose word on a behaviour is the last one of a chain. -/
def LastNamed (layers : List Overlay) (origin : String) : Behavior → Prop
  | .quoteStyle => ∃ v, LastDecides layers (·.quoteStyle) ⟨v, origin⟩
  | .dummyTable => ∃ v, LastDecides layers (·.dummyTable) ⟨v, origin⟩
  | .stringLiteral => ∃ v, LastDecides layers (·.stringStyle) ⟨v, origin⟩
  | .booleanLiteral => ∃ v, LastDecides layers (·.booleanStyle) ⟨v, origin⟩
  | .temporalLiteral => ∃ v, LastDecides layers (·.temporalStyle) ⟨v, origin⟩
  | .temporalLiteralFor t => ∃ v, LastDecides layers (·.temporalStyleFor t) ⟨v, origin⟩
  | .nullCast => ∃ v, LastDecides layers (·.nullCast) ⟨v, origin⟩
  | .nullsOrdering => ∃ v, LastDecides layers (·.nullsOrdering) ⟨v, origin⟩
  | .maxValueList => ∃ v, LastDecides layers (·.maxValueList) ⟨v, origin⟩
  | .castType t => ∃ v, LastDecides layers (·.castType t) ⟨v, origin⟩

/-- A composition that answers every question as the last overlay of a chain that decides it. -/
structure AnswersNearest (layers : List Overlay) (c : Composition) : Prop where
  chain : c.chain = layers.map (·.name)
  flag : ∀ k, LastDecides layers (·.flag k) (c.flag k)
  quoteStyle : LastDecides layers (·.quoteStyle) c.quoteStyle
  dummyTable : LastDecides layers (·.dummyTable) c.dummyTable
  stringStyle : LastDecides layers (·.stringStyle) c.stringStyle
  booleanStyle : LastDecides layers (·.booleanStyle) c.booleanStyle
  temporalStyle : LastDecides layers (·.temporalStyle) c.temporalStyle
  temporalStyleFor : ∀ t style,
    c.temporalStyleFor t = some style ↔ LastDecides layers (·.temporalStyleFor t) style
  nullCast : LastDecides layers (·.nullCast) c.nullCast
  nullsOrdering : LastDecides layers (·.nullsOrdering) c.nullsOrdering
  maxValueList : LastDecides layers (·.maxValueList) c.maxValueList
  castType : ∀ t, LastDecides layers (·.castType t) (c.castType t)
  typeRules : c.typeRules = layers.reverse.flatMap (·.typeRules)
  impersonations : c.impersonations = layers.reverse.flatMap (·.impersonations)

theorem has_iff_sets {layers : List Overlay} {c : Composition} (h : AnswersNearest layers c)
    (k : Capability) : c.has k = true ↔ Sets layers k := by
  constructor
  · intro hset
    refine ⟨(c.flag k).origin, ?_⟩
    rw [← hset]
    exact h.flag k
  · rintro ⟨origin, hlast⟩
    have hflag := lastDecides_unique (.flag k) (h.flag k) hlast
    simp [Composition.has, hflag]

theorem implications_iff {layers : List Overlay} {c : Composition} (h : AnswersNearest layers c) :
    (∀ pair ∈ Capability.implications, c.has pair.1 = true → c.has pair.2 = true) ↔
      KeepsImplications layers := by
  simp only [has_iff_sets h, KeepsImplications]

theorem ofLayers_eq_ok_iff (layers : List Overlay) (c : Composition) :
    ofLayers layers = .ok c ↔
      AnswersNearest layers c ∧ KeepsImplications layers := by
  simp only [ofLayers, bind_eq_ok_iff, pure_eq_ok_iff, mapError_eq_ok_iff, complete_eq_ok_iff,
    require_eq_ok_iff, checkImplications_eq_ok_iff]
  constructor
  · rintro ⟨flag, hflag, castType, hcastType, quoteStyle, hquoteStyle, dummyTable, hdummyTable,
      stringStyle, hstringStyle, booleanStyle, hbooleanStyle, temporalStyle, htemporalStyle,
      nullCast, hnullCast, nullsOrdering, hnullsOrdering, maxValueList, hmaxValueList, -,
      himplied, rfl⟩
    refine (fun h => ⟨h, (implications_iff h).mp himplied⟩)
      ⟨rfl, ?_, ?_, ?_, ?_, ?_, ?_, ?_, ?_, ?_, ?_, ?_, rfl, rfl⟩
    · intro k
      exact (standing_eq_some_iff (.flag k) layers _).mp (hflag k)
    · exact (standing_eq_some_iff .quoteStyle layers _).mp hquoteStyle
    · exact (standing_eq_some_iff .dummyTable layers _).mp hdummyTable
    · exact (standing_eq_some_iff .stringStyle layers _).mp hstringStyle
    · exact (standing_eq_some_iff .booleanStyle layers _).mp hbooleanStyle
    · exact (standing_eq_some_iff .temporalStyle layers _).mp htemporalStyle
    · intro t style
      exact standing_eq_some_iff (.temporalStyleFor t) layers style
    · exact (standing_eq_some_iff .nullCast layers _).mp hnullCast
    · exact (standing_eq_some_iff .nullsOrdering layers _).mp hnullsOrdering
    · exact (standing_eq_some_iff .maxValueList layers _).mp hmaxValueList
    · intro t
      exact (standing_eq_some_iff (.castType t) layers _).mp (hcastType t)
  · rintro ⟨h, himplied⟩
    have htemporalStyleFor : (Draft.ofLayers layers).temporalStyleFor = c.temporalStyleFor := by
      funext t
      apply Option.ext
      intro style
      rw [h.temporalStyleFor t style]
      exact standing_eq_some_iff (.temporalStyleFor t) layers style
    refine ⟨c.flag, fun k => (standing_eq_some_iff (.flag k) layers _).mpr (h.flag k),
      c.castType, fun t => (standing_eq_some_iff (.castType t) layers _).mpr (h.castType t),
      c.quoteStyle, (standing_eq_some_iff .quoteStyle layers _).mpr h.quoteStyle,
      c.dummyTable, (standing_eq_some_iff .dummyTable layers _).mpr h.dummyTable,
      c.stringStyle, (standing_eq_some_iff .stringStyle layers _).mpr h.stringStyle,
      c.booleanStyle, (standing_eq_some_iff .booleanStyle layers _).mpr h.booleanStyle,
      c.temporalStyle, (standing_eq_some_iff .temporalStyle layers _).mpr h.temporalStyle,
      c.nullCast, (standing_eq_some_iff .nullCast layers _).mpr h.nullCast,
      c.nullsOrdering, (standing_eq_some_iff .nullsOrdering layers _).mpr h.nullsOrdering,
      c.maxValueList, (standing_eq_some_iff .maxValueList layers _).mpr h.maxValueList,
      (), (implications_iff h).mpr himplied, ?_⟩
    rw [htemporalStyleFor, ← h.chain, ← h.typeRules, ← h.impersonations]

theorem exists_ofLayers_eq_ok_iff (layers : List Overlay) :
    (∃ c, ofLayers layers = .ok c) ↔ DecidesEverything layers ∧ KeepsImplications layers := by
  simp only [ofLayers_eq_ok_iff]
  constructor
  · rintro ⟨c, h, himplied⟩
    refine ⟨⟨?_, ?_, ?_, ?_, ?_, ?_, ?_, ?_, ?_, ?_⟩, himplied⟩
    · intro k
      exact (exists_lastDecides_iff (.flag k) layers).mp ⟨_, h.flag k⟩
    · exact (exists_lastDecides_iff .quoteStyle layers).mp ⟨_, h.quoteStyle⟩
    · exact (exists_lastDecides_iff .dummyTable layers).mp ⟨_, h.dummyTable⟩
    · exact (exists_lastDecides_iff .stringStyle layers).mp ⟨_, h.stringStyle⟩
    · exact (exists_lastDecides_iff .booleanStyle layers).mp ⟨_, h.booleanStyle⟩
    · exact (exists_lastDecides_iff .temporalStyle layers).mp ⟨_, h.temporalStyle⟩
    · exact (exists_lastDecides_iff .nullCast layers).mp ⟨_, h.nullCast⟩
    · exact (exists_lastDecides_iff .nullsOrdering layers).mp ⟨_, h.nullsOrdering⟩
    · exact (exists_lastDecides_iff .maxValueList layers).mp ⟨_, h.maxValueList⟩
    · intro t
      exact (exists_lastDecides_iff (.castType t) layers).mp ⟨_, h.castType t⟩
  · rintro ⟨h, himplied⟩
    have hflag := fun k => (exists_lastDecides_iff (.flag k) layers).mpr (h.flag k)
    have hcastType := fun t => (exists_lastDecides_iff (.castType t) layers).mpr (h.castType t)
    choose flag hflag using hflag
    choose castType hcastType using hcastType
    obtain ⟨quoteStyle, hquoteStyle⟩ := (exists_lastDecides_iff .quoteStyle layers).mpr h.quoteStyle
    obtain ⟨dummyTable, hdummyTable⟩ := (exists_lastDecides_iff .dummyTable layers).mpr h.dummyTable
    obtain ⟨stringStyle, hstringStyle⟩ :=
      (exists_lastDecides_iff .stringStyle layers).mpr h.stringStyle
    obtain ⟨booleanStyle, hbooleanStyle⟩ :=
      (exists_lastDecides_iff .booleanStyle layers).mpr h.booleanStyle
    obtain ⟨temporalStyle, htemporalStyle⟩ :=
      (exists_lastDecides_iff .temporalStyle layers).mpr h.temporalStyle
    obtain ⟨nullCast, hnullCast⟩ := (exists_lastDecides_iff .nullCast layers).mpr h.nullCast
    obtain ⟨nullsOrdering, hnullsOrdering⟩ :=
      (exists_lastDecides_iff .nullsOrdering layers).mpr h.nullsOrdering
    obtain ⟨maxValueList, hmaxValueList⟩ :=
      (exists_lastDecides_iff .maxValueList layers).mpr h.maxValueList
    exact ⟨{
        chain := layers.map (·.name)
        flag, castType, quoteStyle, dummyTable, stringStyle, booleanStyle, temporalStyle, nullCast
        nullsOrdering, maxValueList
        temporalStyleFor := fun t => (Slot.temporalStyleFor t).standing (Draft.ofLayers layers)
        typeRules := layers.reverse.flatMap (·.typeRules)
        impersonations := layers.reverse.flatMap (·.impersonations) },
      ⟨rfl, hflag, hquoteStyle, hdummyTable, hstringStyle, hbooleanStyle, htemporalStyle,
        fun t style => standing_eq_some_iff (.temporalStyleFor t) layers style,
        hnullCast, hnullsOrdering, hmaxValueList, hcastType, rfl, rfl⟩, himplied⟩

/-- A composition whose reports of overlays and of temporal styles go by the last overlay that
decides. An exception for a type counts whatever the overlays above it say of types in general. -/
structure ReportsNearest (layers : List Overlay) (c : Composition) : Prop where
  origin : ∀ b name, c.origin? b = some name ↔ LastNamed layers name b
  exception : ∀ t,
    (c.origin? (.temporalLiteralFor t)).isSome ↔ Decided layers (·.temporalStyleFor t)
  temporalStyleOf : ∀ t style, LastDecides layers (·.temporalStyleFor t) style →
    c.temporalStyleOf t = style.value
  temporalStyleOf_general : ∀ t, ¬ Decided layers (·.temporalStyleFor t) →
    c.temporalStyleOf t = c.temporalStyle.value

theorem origin_eq_some_iff (slot : Slot α) {layers : List Overlay} {answer : Sourced α}
    (h : LastDecides layers slot.decision answer) (name : String) :
    some answer.origin = some name ↔ ∃ v, LastDecides layers slot.decision ⟨v, name⟩ := by
  constructor
  · intro hname
    obtain rfl := Option.some.inj hname
    exact ⟨answer.value, h⟩
  · rintro ⟨v, hlast⟩
    rw [lastDecides_unique slot h hlast]

theorem AnswersNearest.reportsNearest {layers : List Overlay} {c : Composition}
    (h : AnswersNearest layers c) : ReportsNearest layers c where
  origin b name := by
    cases b with
    | quoteStyle => exact origin_eq_some_iff .quoteStyle h.quoteStyle name
    | dummyTable => exact origin_eq_some_iff .dummyTable h.dummyTable name
    | stringLiteral => exact origin_eq_some_iff .stringStyle h.stringStyle name
    | booleanLiteral => exact origin_eq_some_iff .booleanStyle h.booleanStyle name
    | temporalLiteral => exact origin_eq_some_iff .temporalStyle h.temporalStyle name
    | temporalLiteralFor t =>
        simp only [Composition.origin?, Option.map_eq_some_iff, LastNamed, h.temporalStyleFor]
        constructor
        · rintro ⟨⟨v, origin⟩, hlast, rfl⟩
          exact ⟨v, hlast⟩
        · rintro ⟨v, hlast⟩
          exact ⟨⟨v, name⟩, hlast, rfl⟩
    | nullCast => exact origin_eq_some_iff .nullCast h.nullCast name
    | nullsOrdering => exact origin_eq_some_iff .nullsOrdering h.nullsOrdering name
    | maxValueList => exact origin_eq_some_iff .maxValueList h.maxValueList name
    | castType t => exact origin_eq_some_iff (.castType t) (h.castType t) name
  exception t := by
    rw [Composition.origin?, Option.isSome_map, Option.isSome_iff_exists]
    simp only [h.temporalStyleFor]
    exact exists_lastDecides_iff (.temporalStyleFor t) layers
  temporalStyleOf t style hlast := by
    rw [Composition.temporalStyleOf, (h.temporalStyleFor t style).mpr hlast]
  temporalStyleOf_general t hnone := by
    have hstyle : c.temporalStyleFor t = none := by
      rw [Option.eq_none_iff_forall_not_mem]
      intro style hmem
      have hlast := (h.temporalStyleFor t style).mp hmem
      exact hnone ((exists_lastDecides_iff (.temporalStyleFor t) layers).mp ⟨style, hlast⟩)
    rw [Composition.temporalStyleOf, hstyle]

/-- A chain is put together into what its nearest overlays say, and it can be put together exactly
when it leaves no question open and breaks no implication. -/
theorem ofLayers_answers_nearest (layers : List Overlay) :
    (∀ c, ofLayers layers = .ok c ↔
      AnswersNearest layers c ∧ ReportsNearest layers c ∧ KeepsImplications layers) ∧
    ((∃ c, ofLayers layers = .ok c) ↔ DecidesEverything layers ∧ KeepsImplications layers) := by
  refine ⟨fun c => ?_, exists_ofLayers_eq_ok_iff layers⟩
  rw [ofLayers_eq_ok_iff]
  constructor
  · rintro ⟨h, himplied⟩
    exact ⟨h, h.reportsNearest, himplied⟩
  · rintro ⟨h, -, himplied⟩
    exact ⟨h, himplied⟩

end SqlDialects.Proofs.NearestOverlay
