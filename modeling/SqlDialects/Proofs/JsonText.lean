import SqlDialects.Proofs.JsonTokens

namespace SqlDialects.Proofs.JsonText

open Json (compact pretty)
open JsonNumbers (number?_numeral)
open JsonReader
open JsonTokens

variable {ts : List Token}

theorem readValue_openArray {fuel : Nat} (h : ts.head? ≠ some .closeArray) :
    readValue (fuel + 1) (.openArray :: ts) =
      (readItems fuel ts).map fun (items, rest) => (.array items, rest) := by
  cases ts with
  | nil => rfl
  | cons t ts =>
      cases t with
      | closeArray => exact absurd rfl h
      | _ => rfl

theorem readValue_openObject {fuel : Nat} (h : ts.head? ≠ some .closeObject) :
    readValue (fuel + 1) (.openObject :: ts) =
      (readMembers fuel ts).map fun (members, rest) => (.object members, rest) := by
  cases ts with
  | nil => rfl
  | cons t ts =>
      cases t with
      | closeObject => exact absurd rfl h
      | _ => rfl

theorem exists_flat_eq (j : Json) : ∃ t ts, flat j = t :: ts ∧ t ≠ .closeArray := by
  cases j with
  | bool b => cases b <;> exact ⟨_, _, rfl, by decide⟩
  | _ => exact ⟨_, _, rfl, by simp⟩

theorem separated_flatItems_head (item : Json) (items : List Json) (rest : List Token) :
    (separated (flatItems (item :: items)) ++ rest).head? ≠ some .closeArray := by
  obtain ⟨t, ts, hflat, ht⟩ := exists_flat_eq item
  cases items with
  | nil => simpa [flatItems, separated, hflat] using ht
  | cons next more => simpa [flatItems, separated, hflat] using ht

theorem scalar?_numeral (n : Int) (places : Nat) :
    scalar? (Json.numeral n places).toList = some (.number n places) := by
  have hnumber := number?_numeral n places
  have hword : ∀ w : String, number? w.toList = none →
      (Json.numeral n places).toList ≠ w.toList := by
    intro w hw heq
    rw [heq, hw] at hnumber
    cases hnumber
  rw [scalar?, if_neg (hword "null" (by decide)), if_neg (hword "true" (by decide)),
    if_neg (hword "false" (by decide)), hnumber]

mutual

theorem readValue_flat (j : Json) (rest : List Token) (fuel : Nat)
    (h : (flat j).length ≤ fuel) : readValue fuel (flat j ++ rest) = some (j, rest) := by
  obtain ⟨fuel, rfl⟩ : ∃ n, fuel = n + 1 := by
    obtain ⟨t, ts, hflat, -⟩ := exists_flat_eq j
    rw [hflat, List.length_cons] at h
    exact ⟨fuel - 1, by omega⟩
  match j with
  | .null => rfl
  | .bool true => rfl
  | .bool false => rfl
  | .number mantissa places =>
      show (scalar? (Json.numeral mantissa places).toList).map (·, rest) = _
      rw [scalar?_numeral]
      rfl
  | .string s => rfl
  | .array [] => rfl
  | .array (item :: items) =>
      simp only [flat, List.length_cons, List.length_append] at h
      have hitems := readItems_flat (item :: items) (List.cons_ne_nil _ _) rest fuel (by omega)
      rw [flat, List.cons_append, List.append_assoc, List.singleton_append,
        readValue_openArray (separated_flatItems_head item items _), hitems]
      rfl
  | .object [] => rfl
  | .object (member :: members) =>
      simp only [flat, List.length_cons, List.length_append] at h
      have hmembers := readMembers_flat (member :: members) (List.cons_ne_nil _ _) rest fuel
        (by omega)
      rw [flat, List.cons_append, List.append_assoc, List.singleton_append,
        readValue_openObject, hmembers]
      · rfl
      · cases members <;> simp [flatMembers, separated]

theorem readItems_flat (items : List Json) (hne : items ≠ []) (rest : List Token) (fuel : Nat)
    (h : (separated (flatItems items)).length < fuel) :
    readItems fuel (separated (flatItems items) ++ .closeArray :: rest) = some (items, rest) := by
  obtain ⟨fuel, rfl⟩ : ∃ n, fuel = n + 1 := ⟨fuel - 1, by omega⟩
  match items with
  | [] => exact absurd rfl hne
  | [item] =>
      have hitem := readValue_flat item (.closeArray :: rest) fuel (Nat.le_of_lt_succ h)
      rw [readItems]
      simp only [flatItems, separated, hitem]
  | item :: next :: more =>
      simp only [flatItems, separated, List.length_append, List.length_cons] at h
      have hmore := readItems_flat (next :: more) (List.cons_ne_nil _ _) rest fuel
        (by simp only [flatItems]; omega)
      have hitem := readValue_flat item
        (.comma :: (separated (flatItems (next :: more)) ++ .closeArray :: rest)) fuel
        (by omega)
      rw [readItems, flatItems, flatItems, separated, List.append_assoc, List.cons_append,
        ← flatItems, hitem]
      simp only [hmore, Option.map_some]

theorem readMembers_flat (members : List (String × Json)) (hne : members ≠ [])
    (rest : List Token) (fuel : Nat) (h : (separated (flatMembers members)).length < fuel) :
    readMembers fuel (separated (flatMembers members) ++ .closeObject :: rest) =
      some (members, rest) := by
  obtain ⟨fuel, rfl⟩ : ∃ n, fuel = n + 1 := ⟨fuel - 1, by omega⟩
  match members with
  | [] => exact absurd rfl hne
  | [(name, value)] =>
      simp only [flatMembers, separated, List.length_cons] at h
      have hvalue := readValue_flat value (.closeObject :: rest) fuel (by omega)
      simp only [flatMembers, separated, List.cons_append, readMembers, hvalue]
  | (name, value) :: next :: more =>
      simp only [flatMembers, separated, List.length_append, List.length_cons] at h
      have hmore := readMembers_flat (next :: more) (List.cons_ne_nil _ _) rest fuel
        (by simp only [flatMembers]; omega)
      have hvalue := readValue_flat value
        (.comma :: (separated (flatMembers (next :: more)) ++ .closeObject :: rest))
        fuel (by omega)
      rw [flatMembers, flatMembers, separated, List.append_assoc, List.cons_append,
        List.cons_append, List.cons_append, readMembers, ← flatMembers, hvalue]
      simp only [hmore, Option.map_some]

end

theorem read?_of_lexes {text : String} {j : Json} (h : Lexes text.toList (flat j)) :
    read? text = some j := by
  have hvalue := readValue_flat j [] _ (Nat.le_refl _)
  rw [List.append_nil] at hvalue
  rw [read?, h.tokens_eq, Option.bind_some, hvalue]

/-- Every value is read back from its text on one line. -/
theorem read?_compact (j : Json) : read? (compact j) = some j :=
  read?_of_lexes (lexes_compact j)

theorem read?_pretty (j : Json) : read? (pretty j) = some j :=
  read?_of_lexes (lexes_indented 0 j)

end SqlDialects.Proofs.JsonText
