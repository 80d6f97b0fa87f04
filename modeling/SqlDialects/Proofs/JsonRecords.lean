import SqlDialects.Config.Json
import SqlDialects.Identity.Json
import SqlDialects.Proofs.JsonText

namespace SqlDialects.Proofs.JsonRecords

open JsonReader (read?)
open JsonText (read?_compact read?_pretty)

variable {α : Type} {name key : String} {value : Option Json}

/-- A record that is read back from the value that is written for it, and from both texts of that
value. -/
structure ReadsBack (write : α → Json) (read : Json → Option α) (x : α) : Prop where
  value : read (write x) = some x
  compact : (read? (write x).compact).bind read = some x
  pretty : (read? (write x).pretty).bind read = some x

theorem ReadsBack.of_value {write : α → Json} {read : Json → Option α} {x : α}
    (h : read (write x) = some x) : ReadsBack write read x := by
  constructor
  · exact h
  · rw [read?_compact, Option.bind_some, h]
  · rw [read?_pretty, Option.bind_some, h]

theorem insertEntry_of_greater {value : String} {entries : List (String × String)}
    (h : ∀ e ∈ entries, e.1 < key) : insertEntry key value entries = entries ++ [(key, value)] := by
  induction entries with
  | nil => rfl
  | cons e entries ih =>
      obtain ⟨hfirst, hrest⟩ := List.forall_mem_cons.mp h
      have hless : ¬ key < e.1 := String.lt_asymm hfirst
      have hne : key ≠ e.1 := by
        intro heq
        rw [heq] at hfirst
        exact String.lt_irrefl _ hfirst
      rw [insertEntry, if_neg hless, if_neg hne, ih hrest]
      rfl

theorem entries_foldl_insert (d : Dictionary) (more : List (String × String))
    (h : (d.entries ++ more).Pairwise (·.1 < ·.1)) :
    (more.foldl (fun d e => d.insert e.1 e.2) d).entries = d.entries ++ more := by
  induction more generalizing d with
  | nil => simp
  | cons e more ih =>
      have hgreater : ∀ before ∈ d.entries, before.1 < e.1 := by
        intro before hbefore
        exact (List.pairwise_append.mp h).2.2 before hbefore e List.mem_cons_self
      have hentries : (d.insert e.1 e.2).entries = d.entries ++ [e] :=
        insertEntry_of_greater hgreater
      have hsorted : ((d.insert e.1 e.2).entries ++ more).Pairwise (·.1 < ·.1) := by
        rw [hentries, List.append_assoc]
        exact h
      rw [List.foldl_cons, ih _ hsorted, hentries, List.append_assoc]
      rfl

theorem ofList_entries (d : Dictionary) : Dictionary.ofList d.entries = d := by
  have hentries := entries_foldl_insert .empty d.entries d.sorted
  cases d
  exact Dictionary.mk.injEq .. ▸ hentries

theorem members?_strings (entries : List (String × String)) :
    Json.members? (entries.map fun (key, value) => (key, .string value)) = some entries := by
  induction entries with
  | nil => rfl
  | cons e entries ih => simp [Json.members?, Json.string?, ih]

theorem dictionary?_ofDictionary (d : Dictionary) :
    Json.dictionary? (.ofDictionary d) = some d := by
  rw [Json.ofDictionary, Json.dictionary?, members?_strings, Option.map_some, ofList_entries]

@[simp] theorem lookup_optional :
    (Json.optional name value).lookup key = if key = name then value else none := by
  cases value with
  | none => simp [Json.optional]
  | some value => exact lookup_cons_eq key name value []

theorem field?_some {j : Json} {missing : α} {read : Json → Option α} :
    Json.field? (some j) missing read = read j :=
  rfl

theorem isEmpty_iff {d : Dictionary} : d.isEmpty = true ↔ d = .empty := by
  cases d
  simp [Dictionary.isEmpty, Dictionary.empty]

theorem field?_dictionary (d : Dictionary) :
    Json.field? (if d.isEmpty then none else some (.ofDictionary d)) .empty Json.dictionary? =
      some d := by
  by_cases hempty : d.isEmpty
  · rw [if_pos hempty, isEmpty_iff.mp hempty]
    rfl
  · rw [if_neg hempty]
    exact dictionary?_ofDictionary d

theorem field?_optional {write : α → Json} {read : Json → Option α} (part : Option α)
    (hnull : ∀ x, write x ≠ .null) (hback : ∀ x, read (write x) = some x) :
    Json.field? (part.map write) none (Json.nullable read) = some part := by
  cases part with
  | none => rfl
  | some x =>
      have hread : Json.nullable read (write x) = (read (write x)).map some := by
        cases hwritten : write x with
        | null => exact absurd hwritten (hnull x)
        | _ => rfl
      rw [Option.map_some, Json.field?, hread, hback]
      rfl

theorem field?_string (part : Option String) :
    Json.field? (part.map .string) none (Json.nullable Json.string?) = some part := by
  apply field?_optional part
  · intro s hnull
    cases hnull
  · intro s
    rfl

theorem snapshot_of_toJson (s : Snapshot) : Snapshot.ofJson? s.toJson = some s := by
  simp [Snapshot.ofJson?, Snapshot.toJson, Json.fields?, List.lookup_append, field?_string,
    field?_dictionary]

theorem field?_snapshot (part : Option Snapshot) :
    Json.field? (part.map (·.toJson)) none (Json.nullable Snapshot.ofJson?) = some part := by
  apply field?_optional part
  · intro s hnull
    cases hnull
  · exact snapshot_of_toJson

theorem identity_of_toJson (i : Identity) : Identity.ofJson? i.toJson = some i := by
  simp [Identity.ofJson?, Identity.toJson, Json.fields?, lookup_cons_eq, field?_some,
    field?_snapshot, Json.string?]

theorem connection_of_toJson (c : ConnectionConfig) :
    ConnectionConfig.ofJson? c.toJson = some c := by
  simp [ConnectionConfig.ofJson?, ConnectionConfig.toJson, Json.fields?, List.lookup_append,
    lookup_cons_eq, field?_some, field?_string, field?_dictionary, Json.string?]

theorem probe_of_toJson (p : ProbeConfig) : ProbeConfig.ofJson? p.toJson = some p := by
  simp [ProbeConfig.ofJson?, ProbeConfig.toJson, Json.fields?, lookup_cons_eq, field?_some,
    field?_string, dictionary?_ofDictionary]

theorem resolver_of_toJson (r : ResolverConfig) : ResolverConfig.ofJson? r.toJson = some r := by
  simp [ResolverConfig.ofJson?, ResolverConfig.toJson, Json.fields?, List.lookup_append,
    lookup_cons_eq, field?_some, field?_string, Json.bool?]

theorem config_of_toJson (c : Config) : Config.ofJson? c.toJson = some c := by
  simp [Config.ofJson?, Config.toJson, Json.fields?, lookup_cons_eq, field?_some,
    connection_of_toJson, probe_of_toJson, resolver_of_toJson]

theorem ReadsBack.texts_ne {write : α → Json} {read : Json → Option α} {x y : α}
    (hx : ReadsBack write read x) (hy : ReadsBack write read y) (hne : x ≠ y) :
    (write x).compact ≠ (write y).compact ∧ (write x).pretty ≠ (write y).pretty := by
  constructor
  · intro heq
    have hsome : some x = some y := by rw [← hx.compact, ← hy.compact, heq]
    exact hne (Option.some.inj hsome)
  · intro heq
    have hsome : some x = some y := by rw [← hx.pretty, ← hy.pretty, heq]
    exact hne (Option.some.inj hsome)

/-- Every identity and every configuration is read back as it was, whatever of it is left out when
it is written; an identity without a snapshot is not written as one whose snapshot is empty. -/
theorem records_read_back :
    (∀ identity, ReadsBack Identity.toJson Identity.ofJson? identity) ∧
      (∀ config, ReadsBack Config.toJson Config.ofJson? config) ∧
      ∀ name version : String,
        let bare : Identity := ⟨name, version, none⟩
        let emptied : Identity := ⟨name, version, some .empty⟩
        bare.toJson.compact ≠ emptied.toJson.compact ∧
          bare.toJson.pretty ≠ emptied.toJson.pretty := by
  have hidentity : ∀ identity, ReadsBack Identity.toJson Identity.ofJson? identity := by
    intro identity
    exact .of_value (identity_of_toJson identity)
  refine ⟨hidentity, ?_, ?_⟩
  · intro config
    exact .of_value (config_of_toJson config)
  · intro name version
    apply (hidentity _).texts_ne (hidentity _)
    simp

end SqlDialects.Proofs.JsonRecords
