import SqlDialects.Proofs.CompletedSnapshot
import SqlDialects.Proofs.LowerCase
import SqlDialects.Proofs.Spelling

namespace SqlDialects.Proofs.QueryNames

open CompletedSnapshot (lowered)
open LowerCase
open Spelling
open Text (isBlank trim trimChars)
open Text.LetterCase (lower lowerChars)
open Text.Search (after?)

variable {text name : String} {q written : Query}

/-- What a text names, with the name of a variable as it is written. -/
inductive Names (text : String) : Query → Prop
  | versionBanner (h : trim text = "version_banner") : Names text .versionBanner
  | serverVariable {name : String} (h : trim text = "variable:" ++ name) (hname : name ≠ "") :
      Names text (.serverVariable name)

theorem after?_eq_some_iff {start cs rest : List Char} :
    after? start cs = some rest ↔ cs = start ++ rest := by
  induction start generalizing cs with
  | nil => simp [after?]
  | cons s start ih =>
      cases cs with
      | nil => simp [after?]
      | cons c cs =>
          rw [after?, List.cons_append, List.cons.injEq]
          split
          · rename_i hs
            rw [ih, and_iff_right hs.symm]
          · rename_i hs
            simp [Ne.symm hs]

theorem toList_ne_nil (h : name ≠ "") : name.toList ≠ [] :=
  mt String.toList_eq_nil_iff.mp h

theorem trim_eq_iff {s t : String} : trim s = t ↔ trimChars s.toList = t.toList := by
  rw [trim, ← String.toList_inj, String.toList_ofList]

theorem read_eq_ok_iff :
    Query.read text = .ok q ↔ ∃ written, Names text written ∧ lowered written = q := by
  constructor
  · intro h
    simp only [Query.read] at h
    split at h
    · rename_i hbanner
      exact ⟨_, .versionBanner (trim_eq_iff.mpr hbanner), Except.ok.inj h⟩
    · split at h
      · rename_i c name hafter
        have htrim : trim text = "variable:" ++ .ofList (c :: name) := by
          rw [trim_eq_iff, after?_eq_some_iff.mp hafter]
          simp
        have hname : String.ofList (c :: name) ≠ "" := by simp
        refine ⟨_, .serverVariable htrim hname, ?_⟩
        rw [← Except.ok.inj h, lowered, lower, String.toList_ofList]
      · simp at h
  · rintro ⟨written, hnames, rfl⟩
    cases hnames with
    | versionBanner h =>
        simp only [Query.read]
        rw [if_pos (trim_eq_iff.mp h)]
        rfl
    | @serverVariable name h hname =>
        obtain ⟨c, rest, hchars⟩ := List.exists_cons_of_ne_nil (toList_ne_nil hname)
        have htext := trim_eq_iff.mp h
        rw [String.toList_append, hchars] at htext
        have hafter := after?_eq_some_iff.mpr htext
        have hbanner : trimChars text.toList ≠ "version_banner".toList := by
          rw [htext]
          simp
        simp only [Query.read]
        rw [if_neg hbanner, hafter, lowered, lower, hchars]

theorem isBlank_getLast_trimChars (cs : List Char) :
    ∀ c ∈ (trimChars cs).getLast?, isBlank c = false := by
  rw [trimChars, List.getLast?_reverse]
  exact isBlank_head_skipBlanks _

theorem Names.isBlank_getLast (h : Names text (.serverVariable name)) :
    ∀ c ∈ name.toList.getLast?, isBlank c = false := by
  cases h with
  | serverVariable h hname =>
      have hlast := isBlank_getLast_trimChars text.toList
      rwa [trim_eq_iff.mp h, String.toList_append, List.getLast?_append, Option.or_of_isSome] at hlast
      exact List.getLast?_isSome.mpr (toList_ne_nil hname)

theorem names_name_iff : Names (Query.serverVariable name).name (.serverVariable name) ↔
    name ≠ "" ∧ ∀ c ∈ name.toList.getLast?, isBlank c = false := by
  constructor
  · intro h
    refine ⟨?_, h.isBlank_getLast⟩
    cases h with
    | serverVariable h hname => exact hname
  · rintro ⟨hname, hlast⟩
    refine .serverVariable (trim_eq_iff.mpr ?_) hname
    refine trimChars_eq_self_iff.mpr ⟨?_, ?_⟩
    · intro c hc
      obtain rfl : 'v' = c := by simpa [Query.name] using hc
      rfl
    · rw [Query.name, String.toList_append, List.getLast?_append, Option.or_of_isSome]
      · exact hlast
      · exact List.getLast?_isSome.mpr (toList_ne_nil hname)

theorem lower_ne_empty (h : name ≠ "") : lower name ≠ "" := by
  rw [lower, ne_eq, ← String.toList_eq_nil_iff, String.toList_ofList]
  exact lowerAfter_ne_nil (toList_ne_nil h) []

theorem isBlank_getLast_lower (h : ∀ c ∈ name.toList.getLast?, isBlank c = false) :
    ∀ c ∈ (lower name).toList.getLast?, isBlank c = false := by
  rw [lower, String.toList_ofList]
  exact isBlank_getLast_lowerAfter h []

theorem read_serverVariable_iff :
    Query.read (Query.serverVariable name).name = .ok (.serverVariable name) ↔
      name ≠ "" ∧ lower name = name ∧ ∀ c ∈ name.toList.getLast?, isBlank c = false := by
  rw [read_eq_ok_iff]
  constructor
  · rintro ⟨written, hnames, hwritten⟩
    cases hnames with
    | versionBanner h => simp [lowered] at hwritten
    | @serverVariable named h hnamed =>
        obtain rfl : lower named = name := Query.serverVariable.inj hwritten
        have hlast := (Names.serverVariable h hnamed).isBlank_getLast
        exact ⟨lower_ne_empty hnamed, lower_lower named, isBlank_getLast_lower hlast⟩
  · rintro ⟨hname, hlower, hlast⟩
    exact ⟨.serverVariable name, names_name_iff.mpr ⟨hname, hlast⟩, by rw [lowered, hlower]⟩

/-- What has been read from a text is read again from its own name. -/
theorem read_name (h : Query.read text = .ok q) : Query.read q.name = .ok q := by
  obtain ⟨written, hnames, rfl⟩ := read_eq_ok_iff.mp h
  cases written with
  | versionBanner => decide
  | serverVariable name =>
      have hname : name ≠ "" := by
        cases hnames with
        | serverVariable _ hname => exact hname
      exact read_serverVariable_iff.mpr
        ⟨lower_ne_empty hname, lower_lower name, isBlank_getLast_lower hnames.isBlank_getLast⟩

/-- Reading drops what a name has to spare, and once: a query that has been read keeps its name. A
variable that has not been read keeps its name just if nothing is to be dropped from it. -/
theorem query_names_settle :
    (∀ text q, Query.read text = .ok q → Query.read q.name = .ok q) ∧
      Query.read Query.versionBanner.name = .ok .versionBanner ∧
      ∀ name, Query.read (Query.serverVariable name).name = .ok (.serverVariable name) ↔
        name ≠ "" ∧ lower name = name ∧ ∀ c ∈ name.toList.getLast?, isBlank c = false :=
  ⟨fun _ _ => read_name, read_name (show Query.read "version_banner" = _ from rfl),
    fun _ => read_serverVariable_iff⟩

theorem query_names_settle_sigma :
    Query.read " variable: ΑΣ İ\t" = .ok (.serverVariable " ας i̇") ∧
      Query.read (Query.serverVariable " ας i̇").name = .ok (.serverVariable " ας i̇") ∧
      Query.read (Query.serverVariable " ΑΣ İ").name ≠ .ok (.serverVariable " ΑΣ İ") := by
  have hread : Query.read " variable: ΑΣ İ\t" = .ok (.serverVariable " ας i̇") := by
    decide +kernel
  refine ⟨hread, query_names_settle.1 _ _ hread, ?_⟩
  rw [ne_eq, query_names_settle.2.2]
  decide +kernel

end SqlDialects.Proofs.QueryNames
