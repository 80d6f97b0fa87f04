import SqlDialects.Composition

namespace SqlDialects

/-- An overlay for the versions below a threshold. -/
structure Gate where
  below : Version
  overlay : Overlay

/-- How a dialect is described. Its gates are its own: dialects built on it do not have them. -/
structure Definition where
  tag : String
  /-- The tag of the dialect it is built on; a root is built on none. -/
  base : Option String
  overlay : Overlay
  gates : List Gate

namespace Definition

/-- A definition that is built on no other. -/
def root (tag : String) (overlay : Overlay) : Definition :=
  ⟨tag, none, overlay, []⟩

def on (base tag : String) (overlay : Overlay) : Definition :=
  ⟨tag, some base, overlay, []⟩

/-- Adds a gate. Of the gates that apply, the one with the lowest threshold is nearest. -/
def gate (d : Definition) (below : Version) (overlay : Overlay) : Definition :=
  { d with gates := d.gates ++ [⟨below, overlay⟩] }

/-- Puts a gate before the first one with a higher threshold. -/
def insertGate (g : Gate) : List Gate → List Gate
  | [] => [g]
  | first :: rest =>
      if g.below < first.below then g :: first :: rest else first :: insertGate g rest

/-- Gates in the order of their thresholds. -/
def sortGates (gates : List Gate) : List Gate :=
  gates.foldl (fun sorted g => insertGate g sorted) []

/-- Whether two neighbours have one threshold. -/
def sharesThreshold : List Gate → Bool
  | a :: b :: rest => a.below == b.below || sharesThreshold (b :: rest)
  | _ => false

def find? (definitions : List Definition) (tag : String) : Option Definition :=
  definitions.find? (·.tag == tag)

/-- Why no line leads from a root down to a tag. -/
inductive LineFault where
  /-- A dialect is built on itself, through others or not. -/
  | cycle (through : String)
  /-- A dialect is built on one that is not defined. -/
  | unknown (tag : String)
deriving DecidableEq

/-- Climbs from a tag towards its root and puts each definition before the `below` ones. The tags
`visited` have been passed, and at most `steps` more are. -/
def climb (definitions : List Definition) :
    (steps : Nat) → (visited : List String) → (below : List Definition) → String →
      Except LineFault (List Definition)
  | 0, _, _, tag => .error (.cycle tag)
  | steps + 1, visited, below, tag =>
      if visited.contains tag then .error (.cycle tag)
      else match find? definitions tag with
        | none => .error (.unknown tag)
        | some d =>
            match d.base with
            | none => .ok (d :: below)
            | some base => climb definitions steps (tag :: visited) (d :: below) base

/-- The definitions from a root down to a tag. A line without repetition is no longer than the
list of definitions, so one step more than that finds every fault. -/
def line (definitions : List Definition) (tag : String) : Except LineFault (List Definition) :=
  climb definitions (definitions.length + 1) [] [] tag

end Definition

end SqlDialects
