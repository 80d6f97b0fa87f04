import Mathlib.Data.List.Chain
import Mathlib.Data.List.Induction
import SqlDialects.Proofs.Climb
import SqlDialects.Proofs.RegistryBuild

namespace SqlDialects.Proofs.LineOutcomes

open Ancestors
open Climb
open Definition
open Lineage
open RegistryBuild (registrationsLine_eq_ok_iff)

variable {definitions : List Definition} {tag : String} {path : List Definition}

theorem line_cases (htags : (definitions.map (·.tag)).Nodup) (tag : String) :
    (∃ path, line definitions tag = .ok path ∧ Rooted definitions tag) ∨
      (∃ through, line definitions tag = .error (.cycle through) ∧
        ComesBackTo definitions tag through) ∨
      ∃ missing, line definitions tag = .error (.unknown missing) ∧
        Dangles definitions tag missing := by
  have hexplains := explains_line htags tag
  generalize line definitions tag = outcome at hexplains
  match outcome with
  | .ok path => exact .inl ⟨path, rfl, hexplains⟩
  | .error (.cycle through) => exact .inr (.inl ⟨through, rfl, hexplains⟩)
  | .error (.unknown missing) => exact .inr (.inr ⟨missing, rfl, hexplains⟩)

theorem exists_line_eq_ok_iff (htags : (definitions.map (·.tag)).Nodup) (tag : String) :
    (∃ path, line definitions tag = .ok path) ↔ Rooted definitions tag := by
  constructor
  · rintro ⟨path, hpath⟩
    have hexplains := explains_line htags tag
    rwa [hpath] at hexplains
  · intro hrooted
    rcases line_cases htags tag with ⟨path, hpath, -⟩ | ⟨_, -, hcycle⟩ | ⟨_, -, hdangles⟩
    · exact ⟨path, hpath⟩
    · exact absurd hcycle.revisits (hrooted.not_revisits htags)
    · exact absurd hrooted (hdangles.not_rooted htags)

theorem exists_line_eq_cycle_iff (htags : (definitions.map (·.tag)).Nodup) (tag : String) :
    (∃ through, line definitions tag = .error (.cycle through)) ↔ Revisits definitions tag := by
  constructor
  · rintro ⟨through, hcycle⟩
    have hexplains := explains_line htags tag
    rw [hcycle] at hexplains
    exact hexplains.revisits
  · intro hrevisits
    rcases line_cases htags tag with ⟨_, -, hrooted⟩ | ⟨through, hcycle, -⟩ | ⟨_, -, hdangles⟩
    · exact absurd hrevisits (hrooted.not_revisits htags)
    · exact ⟨through, hcycle⟩
    · exact absurd hrevisits hdangles.not_revisits

theorem line_eq_unknown_iff (htags : (definitions.map (·.tag)).Nodup) (tag missing : String) :
    line definitions tag = .error (.unknown missing) ↔ Dangles definitions tag missing := by
  constructor
  · intro hunknown
    have hexplains := explains_line htags tag
    rwa [hunknown] at hexplains
  · intro hdangles
    rcases line_cases htags tag with ⟨_, -, hrooted⟩ | ⟨_, -, hcycle⟩ | ⟨other, hother, h⟩
    · exact absurd hrooted (hdangles.not_rooted htags)
    · exact absurd hcycle.revisits hdangles.not_revisits
    · rw [hother, h.unique hdangles]

/-- Positions of definitions from a root down to a tag, each of a definition that is built on the
one before it, and none twice. -/
structure LeadsTo (definitions : List Definition) (tag : String)
    (positions : List (Fin definitions.length)) : Prop where
  distinct : positions.Nodup
  root : ∀ i ∈ positions.head?, (definitions.get i).base = none
  linked : positions.IsChain fun i j => (definitions.get j).base = some (definitions.get i).tag
  last : ∃ i ∈ positions.getLast?, (definitions.get i).tag = tag

variable {positions : List (Fin definitions.length)}

theorem LeadsTo.singleton {i : Fin definitions.length} (h : (definitions.get i).base = none) :
    LeadsTo definitions (definitions.get i).tag [i] :=
  ⟨List.nodup_singleton i, by simpa using h, .singleton i, ⟨i, rfl, rfl⟩⟩

theorem LeadsTo.concat (h : LeadsTo definitions tag positions) {i : Fin definitions.length}
    (hfresh : i ∉ positions) (hbase : (definitions.get i).base = some tag) :
    LeadsTo definitions (definitions.get i).tag (positions ++ [i]) := by
  obtain ⟨last, hlast, rfl⟩ := h.last
  refine ⟨?_, ?_, ?_, i, by simp, rfl⟩
  · rw [List.nodup_append]
    refine ⟨h.distinct, List.nodup_singleton i, ?_⟩
    rintro j hj k hk rfl
    exact hfresh (List.mem_singleton.mp hk ▸ hj)
  · rw [List.head?_append_of_ne_nil]
    · exact h.root
    · rintro rfl
      simp at hlast
  · rw [List.isChain_append]
    refine ⟨h.linked, .singleton i, ?_⟩
    intro j hj k hk
    obtain rfl := Option.mem_unique hj hlast
    obtain rfl : i = k := by simpa using hk
    exact hbase

theorem exists_leadsTo (h : BasePath definitions tag path) (hnodup : (path.map (·.tag)).Nodup) :
    ∃ positions, LeadsTo definitions tag positions ∧ path = positions.map definitions.get := by
  induction h with
  | root hd hbase =>
      obtain ⟨i, rfl⟩ := List.get_of_mem hd
      exact ⟨[i], .singleton hbase, rfl⟩
  | step _ hd hbase ih =>
      rw [List.map_append, List.nodup_append] at hnodup
      obtain ⟨hpath, -, hlast⟩ := hnodup
      obtain ⟨positions, hpositions, rfl⟩ := ih hpath
      obtain ⟨i, rfl⟩ := List.get_of_mem hd
      refine ⟨positions ++ [i], hpositions.concat ?_ hbase, by simp⟩
      intro hmem
      have hget : definitions.get i ∈ positions.map definitions.get := List.mem_map_of_mem hmem
      exact hlast _ (List.mem_map_of_mem hget) _ (List.mem_singleton_self _) rfl

theorem LeadsTo.basePath (h : LeadsTo definitions tag positions) :
    BasePath definitions tag (positions.map definitions.get) := by
  induction positions using List.reverseRecOn generalizing tag with
  | nil =>
      obtain ⟨i, hi, -⟩ := h.last
      simp at hi
  | append_singleton front i ih =>
      obtain ⟨last, hlast, rfl⟩ := h.last
      obtain rfl : i = last := by simpa using hlast
      rw [List.map_append, List.map_singleton]
      rcases front.eq_nil_or_concat with rfl | ⟨front, j, rfl⟩
      · exact .root (List.get_mem _ _) (h.root i rfl)
      · -- The base of the last definition stands right before it.
        obtain ⟨hchain, -, hjoin⟩ := List.isChain_append.mp h.linked
        have hbase := hjoin j (by simp) i rfl
        refine .step (ih ⟨?_, ?_, hchain, j, by simp, rfl⟩) (List.get_mem _ _) hbase
        · exact (List.nodup_append.mp h.distinct).1
        · simpa [List.head?_append] using h.root

theorem get_tag_injective (htags : (definitions.map (·.tag)).Nodup) :
    Function.Injective fun i : Fin definitions.length => (definitions.get i).tag := by
  have hapart : ∀ i j, i < j → (definitions.get i).tag ≠ (definitions.get j).tag :=
    List.pairwise_iff_get.mp (List.pairwise_map.mp htags)
  intro i j hij
  rcases Nat.lt_trichotomy i j with hlt | heq | hgt
  · exact absurd hij (hapart i j hlt)
  · exact Fin.ext heq
  · exact absurd hij.symm (hapart j i hgt)

theorem line_eq_ok_iff_leadsTo (htags : (definitions.map (·.tag)).Nodup) :
    line definitions tag = .ok path ↔
      ∃ positions, LeadsTo definitions tag positions ∧ path = positions.map definitions.get := by
  rw [line_eq_ok_iff htags]
  constructor
  · rintro ⟨hpath, hnodup⟩
    exact exists_leadsTo hpath hnodup
  · rintro ⟨positions, hpositions, rfl⟩
    refine ⟨hpositions.basePath, ?_⟩
    rw [List.map_map]
    exact hpositions.distinct.map (get_tag_injective htags)

theorem LeadsTo.unique (htags : (definitions.map (·.tag)).Nodup)
    (h : LeadsTo definitions tag positions) {others : List (Fin definitions.length)}
    (hothers : LeadsTo definitions tag others) : positions = others := by
  have hpath := h.basePath.unique htags hothers.basePath
  have htagged := congrArg (List.map (·.tag)) hpath
  rw [List.map_map, List.map_map] at htagged
  exact (List.map_injective_iff.mpr (get_tag_injective htags)) htagged

theorem revisits_iff (htags : (definitions.map (·.tag)).Nodup) (tag : String) :
    Revisits definitions tag ↔
      ¬ Rooted definitions tag ∧ ∀ missing, ¬ Dangles definitions tag missing := by
  constructor
  · intro hrevisits
    exact ⟨fun h => h.not_revisits htags hrevisits, fun _ h => h.not_revisits hrevisits⟩
  · rintro ⟨hrooted, hdangles⟩
    rcases line_cases htags tag with ⟨_, -, h⟩ | ⟨_, -, h⟩ | ⟨missing, -, h⟩
    · exact absurd h hrooted
    · exact h.revisits
    · exact absurd h (hdangles missing)

theorem line_of_base (htags : (definitions.map (·.tag)).Nodup) {d : Definition}
    (hd : d ∈ definitions) {base : String} (hbase : d.base = some base) :
    line definitions d.tag = .ok path ↔
      ∃ above, line definitions base = .ok above ∧ path = above ++ [d] := by
  have hsplit : ∀ {path}, line definitions d.tag = .ok path →
      ∃ above, line definitions base = .ok above ∧ path = above ++ [d] := by
    intro path hline
    obtain ⟨hpath, hnodup⟩ := (line_eq_ok_iff htags).mp hline
    rcases hpath.of_mem htags hd with ⟨hnone, -⟩ | ⟨other, above, hother, habove, rfl⟩
    · simp [hbase] at hnone
    · obtain rfl : base = other := Option.some.inj (hbase.symm.trans hother)
      rw [List.map_append, List.nodup_append] at hnodup
      exact ⟨above, (line_eq_ok_iff htags).mpr ⟨habove, hnodup.1⟩, rfl⟩
  refine ⟨hsplit, ?_⟩
  rintro ⟨above, habove, rfl⟩
  -- The way up from the base has an end, so that from the definition has it too.
  have hrooted := (exists_line_eq_ok_iff htags base).mp ⟨above, habove⟩
  rw [← rooted_iff_of_base htags hd hbase] at hrooted
  obtain ⟨path, hpath⟩ := (exists_line_eq_ok_iff htags d.tag).mpr hrooted
  obtain ⟨other, hother, rfl⟩ := hsplit hpath
  rw [habove] at hother
  rw [hpath, Except.ok.inj hother]

theorem registrationsLine_eq_cycle_iff {through : String} :
    Registrations.line definitions tag = .error (.definition tag (.cycle through)) ↔
      line definitions tag = .error (.cycle through) := by
  unfold Registrations.line
  split <;> simp_all

theorem registrationsLine_eq_unknown_iff {missing : String} :
    Registrations.line definitions tag = .error (.definition tag (.unknownBase missing)) ↔
      line definitions tag = .error (.unknown missing) := by
  unfold Registrations.line
  split <;> simp_all

/-- The search for a line ends soon, and truly: with the only path down to the tag, or with what
keeps the way up from coming to a root. -/
structure Settles (definitions : List Definition) (tag : String) : Prop where
  halts : ∃ count, Climbs definitions [] [] tag count (line definitions tag)
  soon : ∀ count outcome, Climbs definitions [] [] tag count outcome →
    count ≤ definitions.length + 1 ∧ outcome = line definitions tag
  path : ∀ path, Registrations.line definitions tag = .ok path ↔
    ∃ positions, LeadsTo definitions tag positions ∧ path = positions.map definitions.get
  path_unique : ∀ positions others, LeadsTo definitions tag positions →
    LeadsTo definitions tag others → positions = others
  cycle : (∃ through, Registrations.line definitions tag =
    .error (.definition tag (.cycle through))) ↔ Revisits definitions tag
  cycle_through : ∀ through, Registrations.line definitions tag =
    .error (.definition tag (.cycle through)) → ComesBackTo definitions tag through
  unknown : ∀ missing, Registrations.line definitions tag =
    .error (.definition tag (.unknownBase missing)) ↔ Dangles definitions tag missing
  never_both : ∀ missing, ¬ (Revisits definitions tag ∧ Dangles definitions tag missing)
  settled : (∃ path, Registrations.line definitions tag = .ok path) ∨ Revisits definitions tag ∨
    ∃ missing, Dangles definitions tag missing

/-- The search for the line of a definition has the outcome of that for its base, with the
definition behind the path. -/
structure Continues (definitions : List Definition) (d : Definition) (base : String) : Prop where
  path : ∀ path, Registrations.line definitions d.tag = .ok path ↔
    ∃ above, Registrations.line definitions base = .ok above ∧ path = above ++ [d]
  cycle : (∃ through, Registrations.line definitions d.tag =
    .error (.definition d.tag (.cycle through))) ↔
      ∃ through, Registrations.line definitions base = .error (.definition base (.cycle through))
  unknown : ∀ missing, Registrations.line definitions d.tag =
    .error (.definition d.tag (.unknownBase missing)) ↔
      Registrations.line definitions base = .error (.definition base (.unknownBase missing))

theorem settles (htags : (definitions.map (·.tag)).Nodup) (tag : String) :
    Settles definitions tag := by
  have hcycle := exists_line_eq_cycle_iff htags tag
  constructor
  case halts => exact climbs_line htags tag
  case soon =>
    intro count outcome hclimbs
    have hcount := hclimbs.count_le .nil
    rw [List.length_nil, Nat.zero_add] at hcount
    exact ⟨hcount, (hclimbs.climb_eq htags hcount).symm⟩
  case path =>
    intro path
    rw [registrationsLine_eq_ok_iff, line_eq_ok_iff_leadsTo htags]
  case path_unique => exact fun _ _ hpositions hothers => hpositions.unique htags hothers
  case cycle => simpa only [registrationsLine_eq_cycle_iff] using hcycle
  case cycle_through =>
    intro through hline
    have hexplains := explains_line htags tag
    rwa [registrationsLine_eq_cycle_iff.mp hline] at hexplains
  case unknown =>
    intro missing
    rw [registrationsLine_eq_unknown_iff, line_eq_unknown_iff htags]
  case never_both => exact fun _ h => h.2.not_revisits h.1
  case settled =>
    rcases line_cases htags tag with ⟨path, hpath, -⟩ | ⟨_, -, h⟩ | ⟨missing, -, h⟩
    · exact .inl ⟨path, registrationsLine_eq_ok_iff.mpr hpath⟩
    · exact .inr (.inl h.revisits)
    · exact .inr (.inr ⟨missing, h⟩)

theorem continues (htags : (definitions.map (·.tag)).Nodup) {d : Definition}
    (hd : d ∈ definitions) {base : String} (hbase : d.base = some base) :
    Continues definitions d base := by
  constructor
  case path =>
    simp only [registrationsLine_eq_ok_iff]
    exact fun _ => line_of_base htags hd hbase
  case cycle =>
    simp only [registrationsLine_eq_cycle_iff, exists_line_eq_cycle_iff htags,
      revisits_iff htags, rooted_iff_of_base htags hd hbase, dangles_iff_of_base htags hd hbase]
  case unknown =>
    intro missing
    rw [registrationsLine_eq_unknown_iff, registrationsLine_eq_unknown_iff,
      line_eq_unknown_iff htags, line_eq_unknown_iff htags, dangles_iff_of_base htags hd hbase]

/-- Where tags are distinct, the search for a line ends after at most one tag more than there are
definitions: with the only path of bases that leads down to the tag, or with a cycle just if the way
up comes to a tag twice, or with an unknown base just if it comes to a tag that is not defined. From
a definition with a base it goes as it goes from the base. -/
theorem line_settles (htags : (definitions.map (·.tag)).Nodup) (tag : String) :
    Settles definitions tag ∧
      ∀ d ∈ definitions, ∀ base, d.base = some base → Continues definitions d base :=
  ⟨settles htags tag, fun _ hd _ hbase => continues htags hd hbase⟩

/-- A sound line, two definitions that are built on each other with a third on top of them, and one
that is built on nothing. -/
def tangled : List Definition :=
  [.root "ansi" { name := "ansi" }, .on "mysql" "mariadb" { name := "mariadb" },
    .on "ansi" "mysql" { name := "mysql" }, .on "hen" "egg" { name := "egg" },
    .on "egg" "hen" { name := "hen" }, .on "hen" "chick" { name := "chick" },
    .on "nowhere" "orphan" { name := "orphan" }]

theorem line_settles_tangled :
    (tangled.map (·.tag)).Nodup ∧
      (∃ positions, LeadsTo tangled "mariadb" positions ∧
        positions.map (fun i => (tangled.get i).tag) = ["ansi", "mysql", "mariadb"]) ∧
      ComesBackTo tangled "chick" "hen" ∧ Dangles tangled "orphan" "nowhere" ∧
      ∀ count outcome, Climbs tangled [] [] "chick" count outcome → count ≤ 8 := by
  have htags : (tangled.map (·.tag)).Nodup := by decide
  have hchick := (line_settles htags "chick").1
  refine ⟨htags, ?_, hchick.cycle_through "hen" rfl, ?_, ?_⟩
  · obtain ⟨positions, hpositions, hpath⟩ := ((line_settles htags "mariadb").1.path _).mp rfl
    have htagged := congrArg (List.map (·.tag)) hpath
    rw [List.map_map] at htagged
    exact ⟨positions, hpositions, htagged.symm⟩
  · exact ((line_settles htags "orphan").1.unknown "nowhere").mp rfl
  · intro count outcome hclimbs
    exact (hchick.soon count outcome hclimbs).1

end SqlDialects.Proofs.LineOutcomes
