import SqlDialects.Overlay

/-!
The description of an engine by a chain of overlays, root first. The overlays are applied in turn:
what one of them decides overrides the overlays before it, and carries its name. A chain that leaves
a question open, or sets a capability without one that it needs, describes no engine.
-/

namespace SqlDialects

/-- A value with the name of the overlay that decided it. -/
structure Sourced (α : Type) where
  value : α
  origin : String
deriving DecidableEq

/-- The values of a partial function at all keys, or the first key at which it has none. -/
def complete {κ α : Type} (keys : List κ) (mem_keys : ∀ k, k ∈ keys) (f : κ → Option α) :
    Except κ (κ → α) :=
  match h : keys.find? fun k => (f k).isNone with
  | some k => .error k
  | none =>
      .ok fun k => (f k).get (by
        have hk := List.find?_eq_none.mp h k (mem_keys k)
        cases hf : f k <;> simp_all)

/-- The decision of an overlay where it makes one, and otherwise the one that stands. -/
def overriding {α : Type} (origin : String) (decision : Option α)
    (standing : Option (Sourced α)) : Option (Sourced α) :=
  match decision with
  | some value => some ⟨value, origin⟩
  | none => standing

/-- What the overlays applied so far have decided, and which of them did. -/
structure Draft where
  flag : Capability → Option (Sourced Bool) := fun _ => none
  quoteStyle : Option (Sourced QuoteStyle) := none
  dummyTable : Option (Sourced (Option String)) := none
  stringStyle : Option (Sourced StringStyle) := none
  booleanStyle : Option (Sourced BooleanStyle) := none
  temporalStyle : Option (Sourced TemporalStyle) := none
  temporalStyleFor : LogicalType → Option (Sourced TemporalStyle) := fun _ => none
  nullCast : Option (Sourced (Option String)) := none
  nullsOrdering : Option (Sourced NullsOrdering) := none
  maxValueList : Option (Sourced (Option Nat)) := none
  castType : LogicalType → Option (Sourced String) := fun _ => none

namespace Draft

def apply (draft : Draft) (layer : Overlay) : Draft where
  flag c := overriding layer.name (layer.flag c) (draft.flag c)
  quoteStyle := overriding layer.name layer.quoteStyle draft.quoteStyle
  dummyTable := overriding layer.name layer.dummyTable draft.dummyTable
  stringStyle := overriding layer.name layer.stringStyle draft.stringStyle
  booleanStyle := overriding layer.name layer.booleanStyle draft.booleanStyle
  temporalStyle := overriding layer.name layer.temporalStyle draft.temporalStyle
  temporalStyleFor t :=
    overriding layer.name (layer.temporalStyleFor t) (draft.temporalStyleFor t)
  nullCast := overriding layer.name layer.nullCast draft.nullCast
  nullsOrdering := overriding layer.name layer.nullsOrdering draft.nullsOrdering
  maxValueList := overriding layer.name layer.maxValueList draft.maxValueList
  castType t := overriding layer.name (layer.castType t) (draft.castType t)

/-- Applies the overlays of a chain in turn, root first. -/
def ofLayers (layers : List Overlay) : Draft :=
  layers.foldl apply {}

end Draft

/-- The description of an engine, with the overlay behind each value. -/
structure Composition where
  /-- The names of the overlays, root first. -/
  chain : List String
  flag : Capability → Sourced Bool
  quoteStyle : Sourced QuoteStyle
  dummyTable : Sourced (Option String)
  stringStyle : Sourced StringStyle
  booleanStyle : Sourced BooleanStyle
  temporalStyle : Sourced TemporalStyle
  temporalStyleFor : LogicalType → Option (Sourced TemporalStyle)
  nullCast : Sourced (Option String)
  nullsOrdering : Sourced NullsOrdering
  maxValueList : Sourced (Option Nat)
  castType : LogicalType → Sourced String
  /-- The rules of the nearest overlay first. -/
  typeRules : List TypeRule
  /-- The rules of the nearest overlay first. -/
  impersonations : List Impersonation

namespace Composition

/-- The value that some overlay has to have decided. -/
def require {α : Type} (behavior : Behavior) : Option α → Except CompositionFault α
  | some value => .ok value
  | none => .error (.undefinedBehavior behavior)

/-- Refuses flags of which one is set while another that it needs is not. -/
def checkImplications (flag : Capability → Bool) : Except CompositionFault Unit :=
  match Capability.implications.find? fun pair => flag pair.1 && !flag pair.2 with
  | some (set, unset) => .error (.brokenImplication set unset)
  | none => .ok ()

/-- Puts a chain of overlays together, root first. -/
def ofLayers (layers : List Overlay) : Except CompositionFault Composition := do
  let draft := Draft.ofLayers layers
  let flag ← (complete Capability.all Capability.mem_all draft.flag).mapError .undefinedFlag
  let castType ← (complete LogicalType.all LogicalType.mem_all draft.castType).mapError
    fun t => .undefinedBehavior (.castType t)
  let quoteStyle ← require .quoteStyle draft.quoteStyle
  let dummyTable ← require .dummyTable draft.dummyTable
  let stringStyle ← require .stringLiteral draft.stringStyle
  let booleanStyle ← require .booleanLiteral draft.booleanStyle
  let temporalStyle ← require .temporalLiteral draft.temporalStyle
  let nullCast ← require .nullCast draft.nullCast
  let nullsOrdering ← require .nullsOrdering draft.nullsOrdering
  let maxValueList ← require .maxValueList draft.maxValueList
  checkImplications fun c => (flag c).value
  pure {
    chain := layers.map (·.name)
    flag, castType, quoteStyle, dummyTable, stringStyle, booleanStyle, temporalStyle, nullCast
    nullsOrdering, maxValueList
    temporalStyleFor := draft.temporalStyleFor
    typeRules := layers.reverse.flatMap (·.typeRules)
    impersonations := layers.reverse.flatMap (·.impersonations) }

def has (c : Composition) (capability : Capability) : Bool :=
  (c.flag capability).value

/-- The temporal style of a type: the exception for it, if there is one. -/
def temporalStyleOf (c : Composition) (type : LogicalType) : TemporalStyle :=
  match c.temporalStyleFor type with
  | some style => style.value
  | none => c.temporalStyle.value

/-- The overlay that decided a behaviour. Only the exceptions by type may be undecided. -/
def origin? (c : Composition) : Behavior → Option String
  | .quoteStyle => some c.quoteStyle.origin
  | .dummyTable => some c.dummyTable.origin
  | .stringLiteral => some c.stringStyle.origin
  | .booleanLiteral => some c.booleanStyle.origin
  | .temporalLiteral => some c.temporalStyle.origin
  | .temporalLiteralFor t => (c.temporalStyleFor t).map (·.origin)
  | .nullCast => some c.nullCast.origin
  | .nullsOrdering => some c.nullsOrdering.origin
  | .maxValueList => some c.maxValueList.origin
  | .castType t => some (c.castType t).origin

end Composition

end SqlDialects
