import SqlDialects.Proofs.DecimalSpelling
import SqlDialects.Proofs.Spelling

namespace SqlDialects.Proofs.CalendarForms

open Calendar
open DecimalSpelling
open LiteralCharacters (isBlank_of_isDigit)
open Numeral (valueOf)
open Spelling
open Text (isBlank skipBlanks)

/-- Digits before the rest of a text: as many as may stand together, or as there are. -/
structure Run (limit : Nat) (digits rest : List Char) : Prop where
  ne_nil : digits ≠ []
  isDigit : ∀ c ∈ digits, c.isDigit = true
  length_le : digits.length ≤ limit
  longest : digits.length < limit → ∀ c ∈ rest.head?, c.isDigit = false

variable {limit : Nat} {digits rest tail cs : List Char}

theorem takeWhile_take_append (hdigits : ∀ c ∈ digits, c.isDigit = true)
    (hlength : digits.length ≤ limit) :
    ((digits ++ rest).take limit).takeWhile Char.isDigit =
      digits ++ (rest.take (limit - digits.length)).takeWhile Char.isDigit := by
  rw [List.take_append, List.take_of_length_le hlength, List.takeWhile_append_of_pos hdigits]

theorem takeWhile_take_eq_nil_iff :
    (rest.take limit).takeWhile Char.isDigit = [] ↔
      (0 < limit → ∀ c ∈ rest.head?, c.isDigit = false) := by
  cases limit with
  | zero => simp
  | succ limit =>
      cases rest with
      | nil => simp
      | cons c rest => simp

theorem digits?_eq_some_iff :
    digits? limit cs = some (digits, rest) ↔ Run limit digits rest ∧ cs = digits ++ rest := by
  constructor
  · intro h
    simp only [digits?] at h
    split at h
    · simp at h
    · rename_i hne
      obtain ⟨hdigits, hrest⟩ := Prod.mk.inj (Option.some.inj h)
      rw [hdigits] at hne hrest
      have hall : ∀ c ∈ digits, c.isDigit = true := by
        rw [← hdigits]
        intro c hc
        exact List.mem_takeWhile_imp hc
      have hlength : digits.length ≤ limit := by
        rw [← hdigits]
        exact (List.takeWhile_sublist _).length_le.trans (List.length_take_le _ _)
      have hcs : cs = digits ++ rest := by
        have hhead : digits <+: cs := by
          rw [← hdigits]
          exact (List.takeWhile_prefix _).trans (List.take_prefix _ _)
        rw [← hrest]
        exact List.prefix_iff_eq_append.mp hhead |>.symm
      refine ⟨⟨by simpa using hne, hall, hlength, ?_⟩, hcs⟩
      intro hlimit
      rw [hcs, takeWhile_take_append hall hlength, List.append_right_eq_self,
        takeWhile_take_eq_nil_iff] at hdigits
      exact hdigits (by omega)
  · rintro ⟨⟨hne, hall, hlength, hlongest⟩, rfl⟩
    have hnone : (rest.take (limit - digits.length)).takeWhile Char.isDigit = [] := by
      rw [takeWhile_take_eq_nil_iff]
      intro hpositive
      exact hlongest (by omega)
    simp [digits?, takeWhile_take_append hall hlength, hnone, hne]

theorem Run.congr (h : Run limit digits rest)
    (htail : ∀ c ∈ tail.head?, c.isDigit = true → rest.head? = some c) :
    Run limit digits tail := by
  refine ⟨h.ne_nil, h.isDigit, h.length_le, ?_⟩
  intro hlimit c hc
  by_contra hdigit
  rw [Bool.not_eq_false] at hdigit
  have hrest := h.longest hlimit c (htail c hc hdigit)
  rw [hdigit] at hrest
  cases hrest

theorem run_length_iff :
    Run (digits ++ rest).length digits rest ↔ Run (digits.length + 1) digits rest := by
  constructor
  · rintro ⟨hne, hall, -, hlongest⟩
    refine ⟨hne, hall, by omega, ?_⟩
    intro _ c hc
    have hpositive : 0 < rest.length := List.length_pos_of_mem (List.mem_of_mem_head? hc)
    exact hlongest (by simpa using hpositive) c hc
  · rintro ⟨hne, hall, -, hlongest⟩
    exact ⟨hne, hall, by simp, fun _ => hlongest (by omega)⟩

/-- How many digits a number without a sign may have. -/
def width : Field → Nat
  | .year => 4
  | _ => 2

theorem width_of_ne {field : Field} (h : field ≠ .year) : width field = 2 := by
  cases field with
  | year => exact absurd rfl h
  | month => rfl
  | day => rfl
  | hour => rfl
  | minute => rfl
  | second => rfl

/-- How a number is spelled before the rest of a text, without the white space before it. -/
inductive Spells : Field → Int → List Char → List Char → Prop
  | bare {field : Field} {digits rest : List Char} (h : Run (width field) digits rest) :
      Spells field (valueOf digits) digits rest
  | plus {digits rest : List Char} (h : Run (digits.length + 1) digits rest) :
      Spells .year (valueOf digits) ('+' :: digits) rest
  | minus {digits rest : List Char} (h : Run (digits.length + 1) digits rest) :
      Spells .year (-(valueOf digits : Int)) ('-' :: digits) rest

variable {field : Field} {n : Int} {spelling : List Char}

theorem Spells.congr (h : Spells field n spelling rest)
    (htail : ∀ c ∈ tail.head?, c.isDigit = true → rest.head? = some c) :
    Spells field n spelling tail := by
  cases h with
  | bare h => exact .bare (h.congr htail)
  | plus h => exact .plus (h.congr htail)
  | minus h => exact .minus (h.congr htail)

theorem Spells.exists_concat (h : Spells field n spelling rest) :
    ∃ front c, spelling = front ++ [c] ∧ c.isDigit = true := by
  have hrun : ∀ {limit : Nat} {digits : List Char}, Run limit digits rest →
      ∃ front c, digits = front ++ [c] ∧ c.isDigit = true := by
    intro limit digits hrun
    refine ⟨_, _, (List.dropLast_concat_getLast hrun.ne_nil).symm, ?_⟩
    exact hrun.isDigit _ (List.getLast_mem hrun.ne_nil)
  cases h with
  | bare h => exact hrun h
  | plus h =>
      obtain ⟨front, c, rfl, hc⟩ := hrun h
      exact ⟨'+' :: front, c, rfl, hc⟩
  | minus h =>
      obtain ⟨front, c, rfl, hc⟩ := hrun h
      exact ⟨'-' :: front, c, rfl, hc⟩

theorem isDigit_of_isBlank {c : Char} (h : isBlank c = true) : c.isDigit = false := by
  by_contra hdigit
  rw [Bool.not_eq_false] at hdigit
  rw [isBlank_of_isDigit hdigit] at h
  cases h

theorem isBlank_head_of_isDigit (h : ∃ c ∈ cs.head?, c.isDigit = true) :
    ∀ c ∈ cs.head?, isBlank c = false := by
  obtain ⟨c, hhead, hc⟩ := h
  intro first hfirst
  obtain rfl : c = first := Option.mem_unique hhead hfirst
  exact isBlank_of_isDigit hc

theorem Run.head?_append (h : Run limit digits rest) :
    ∃ c ∈ (digits ++ rest).head?, c.isDigit = true := by
  obtain ⟨c, more, rfl⟩ := List.exists_cons_of_ne_nil h.ne_nil
  exact ⟨c, rfl, h.isDigit c List.mem_cons_self⟩

theorem Spells.isBlank_head (h : Spells field n spelling rest) :
    ∀ c ∈ (spelling ++ rest).head?, isBlank c = false := by
  cases h with
  | bare h => exact isBlank_head_of_isDigit h.head?_append
  | plus h =>
      rintro _ ⟨⟩
      rfl
  | minus h =>
      rintro _ ⟨⟩
      rfl

theorem map_digits?_eq_some_iff {f : List Char × List Char → Int × List Char}
    {value : List Char → Int} (hf : ∀ digits rest, f (digits, rest) = (value digits, rest)) :
    (digits? limit cs).map f = some (n, rest) ↔
      ∃ digits, Run limit digits rest ∧ cs = digits ++ rest ∧ n = value digits := by
  constructor
  · intro h
    obtain ⟨⟨digits, tail⟩, hdigits, hpair⟩ := Option.map_eq_some_iff.mp h
    rw [hf] at hpair
    obtain ⟨rfl, rfl⟩ := Prod.mk.inj hpair
    obtain ⟨hrun, hcs⟩ := digits?_eq_some_iff.mp hdigits
    exact ⟨digits, hrun, hcs, rfl⟩
  · rintro ⟨digits, hrun, hcs, rfl⟩
    rw [digits?_eq_some_iff.mpr ⟨hrun, hcs⟩, Option.map_some, hf]

theorem number?_eq_some_iff :
    number? field cs = some (n, rest) ↔
      ∃ spelling, skipBlanks cs = spelling ++ rest ∧ Spells field n spelling rest := by
  constructor
  · intro h
    unfold number? at h
    split at h
    · rename_i text htext
      obtain ⟨digits, hrun, rfl, rfl⟩ := (map_digits?_eq_some_iff fun _ _ => rfl).mp h
      exact ⟨_, htext, .minus (run_length_iff.mp hrun)⟩
    · rename_i text htext
      obtain ⟨digits, hrun, rfl, rfl⟩ := (map_digits?_eq_some_iff fun _ _ => rfl).mp h
      exact ⟨_, htext, .plus (run_length_iff.mp hrun)⟩
    · obtain ⟨digits, hrun, htext, rfl⟩ := (map_digits?_eq_some_iff fun _ _ => rfl).mp h
      exact ⟨digits, htext, .bare hrun⟩
    · rename_i hyear _ _
      obtain ⟨digits, hrun, htext, rfl⟩ := (map_digits?_eq_some_iff fun _ _ => rfl).mp h
      rw [← width_of_ne hyear] at hrun
      exact ⟨digits, htext, .bare hrun⟩
  · rintro ⟨spelling, htext, hspells⟩
    unfold number?
    rw [htext]
    cases hspells with
    | plus h =>
        exact (map_digits?_eq_some_iff fun _ _ => rfl).mpr ⟨_, run_length_iff.mpr h, rfl, rfl⟩
    | minus h =>
        exact (map_digits?_eq_some_iff fun _ _ => rfl).mpr ⟨_, run_length_iff.mpr h, rfl, rfl⟩
    | bare h =>
        obtain ⟨c, hhead, hc⟩ := h.head?_append
        split
        · rename_i hsign
          rw [hsign, List.head?_cons, Option.mem_some_iff] at hhead
          exact absurd hhead.symm (not_sign_of_isDigit hc).1
        · rename_i hsign
          rw [hsign, List.head?_cons, Option.mem_some_iff] at hhead
          exact absurd hhead.symm (not_sign_of_isDigit hc).2
        · exact (map_digits?_eq_some_iff fun _ _ => rfl).mpr ⟨_, h, rfl, rfl⟩
        · rename_i hyear _ _
          rw [width_of_ne hyear] at h
          exact (map_digits?_eq_some_iff fun _ _ => rfl).mpr ⟨_, h, rfl, rfl⟩

theorem number?_skipBlanks : number? field (skipBlanks cs) = number? field cs := by
  unfold number?
  rw [skipBlanks_skipBlanks]

theorem read?_number_skipBlanks (items : List Item) (r : Reading) :
    read? (.number field :: items) r (skipBlanks cs) = read? (.number field :: items) r cs := by
  rw [read?, number?_skipBlanks, ← read?]

theorem exists_run_of_number? (hfield : field ≠ .year) (h : number? field cs = some (n, rest)) :
    ∃ digits, Run 2 digits rest ∧ skipBlanks cs = digits ++ rest := by
  obtain ⟨spelling, htext, hspells⟩ := number?_eq_some_iff.mp h
  cases hspells with
  | bare hrun =>
      rw [width_of_ne hfield] at hrun
      exact ⟨spelling, hrun, htext⟩
  | plus => exact absurd rfl hfield
  | minus => exact absurd rfl hfield

/-- A number is spelled by the head of a text, and stays the same if what follows begins alike, or
with something else than a digit. -/
theorem exists_of_number? (h : number? field cs = some (n, rest)) :
    ∃ front, cs = front ++ rest ∧
      ∀ tail : List Char, (∀ c ∈ tail.head?, c.isDigit = true → rest.head? = some c) →
        number? field (front ++ tail) = some (n, tail) := by
  obtain ⟨spelling, htext, hspells⟩ := number?_eq_some_iff.mp h
  obtain ⟨blanks, hblanks, hcs⟩ := padded_skipBlanks cs
  refine ⟨blanks ++ spelling, ?_, ?_⟩
  · rw [List.append_assoc, ← htext]
    exact hcs
  · intro tail htail
    have hspells := hspells.congr htail
    rw [number?_eq_some_iff]
    refine ⟨spelling, ?_, hspells⟩
    rw [List.append_assoc, skipBlanks_append hblanks, skipBlanks_eq_self_iff]
    exact hspells.isBlank_head

theorem exists_concat_of_number? (h : number? field cs = some (n, [])) :
    ∃ front c, cs = front ++ [c] ∧ c.isDigit = true := by
  obtain ⟨spelling, htext, hspells⟩ := number?_eq_some_iff.mp h
  obtain ⟨front, c, rfl, hc⟩ := hspells.exists_concat
  obtain ⟨blanks, -, hcs⟩ := padded_skipBlanks cs
  refine ⟨blanks ++ front, c, ?_, hc⟩
  rw [List.append_assoc, ← List.append_nil (front ++ [c]), ← htext]
  exact hcs

/-- Whether an item takes a part of the text that cannot be missing. -/
def isRequired : Item → Bool
  | .number _ => true
  | .mark _ => true
  | .blanks => false
  | .fraction => false

variable {items more : List Item} {r middle result : Reading}

theorem exists_of_read?_append (hitems : items.all isRequired = true)
    (h : read? (items ++ more) r cs = some result) :
    ∃ front tail middle, cs = front ++ tail ∧ read? items r front = some middle ∧
      read? more middle tail = some result := by
  induction items generalizing r cs with
  | nil => exact ⟨[], cs, r, rfl, rfl, h⟩
  | cons item items ih =>
      rw [List.all_cons, Bool.and_eq_true] at hitems
      cases item with
      | number field =>
          obtain ⟨⟨n, rest⟩, hnumber, hrest⟩ := Option.bind_eq_some_iff.mp h
          obtain ⟨front, tail, middle, rfl, hfront, htail⟩ := ih hitems.2 hrest
          obtain ⟨before, rfl, hbefore⟩ := exists_of_number? hnumber
          refine ⟨before ++ front, tail, middle, by simp, ?_, htail⟩
          -- What is cut off stands at the end, so the number is followed by what followed it.
          rw [read?, hbefore front]
          · exact hfront
          · intro c hc _
            rw [List.head?_append, hc]
            rfl
      | mark m =>
          cases cs with
          | nil => simp [read?] at h
          | cons c rest =>
              obtain ⟨rfl, hrest⟩ := Option.ite_none_right_eq_some.mp h
              obtain ⟨front, tail, middle, rfl, hfront, htail⟩ := ih hitems.2 hrest
              refine ⟨m :: front, tail, middle, rfl, ?_, htail⟩
              rw [read?, if_pos rfl]
              exact hfront
      | blanks => simp [isRequired] at hitems
      | fraction => simp [isRequired] at hitems

/-- Texts that two forms read are read one after the other if no digits meet where the first one
ends. -/
theorem read?_append (hitems : items.all isRequired = true)
    (h : read? items r cs = some middle) (htail : ∀ c ∈ tail.head?, c.isDigit = false) :
    read? (items ++ more) r (cs ++ tail) = read? more middle tail := by
  induction items generalizing r cs with
  | nil =>
      cases cs with
      | nil =>
          obtain rfl := Option.some.inj h
          rfl
      | cons c cs => simp [read?] at h
  | cons item items ih =>
      rw [List.all_cons, Bool.and_eq_true] at hitems
      cases item with
      | number field =>
          obtain ⟨⟨n, rest⟩, hnumber, hrest⟩ := Option.bind_eq_some_iff.mp h
          obtain ⟨front, rfl, hfront⟩ := exists_of_number? hnumber
          rw [List.cons_append, read?, List.append_assoc, hfront (rest ++ tail), Option.bind_some]
          · exact ih hitems.2 hrest
          · intro c hc hdigit
            -- Only a number that ends the text meets what is put behind it.
            cases rest with
            | nil =>
                rw [htail c hc] at hdigit
                cases hdigit
            | cons d rest => exact hc
      | mark m =>
          cases cs with
          | nil => simp [read?] at h
          | cons c rest =>
              obtain ⟨rfl, hrest⟩ := Option.ite_none_right_eq_some.mp h
              rw [List.cons_append, List.cons_append, read?, if_pos rfl]
              exact ih hitems.2 hrest
      | blanks => simp [isRequired] at hitems
      | fraction => simp [isRequired] at hitems

/-- An item that leaves some part of what has been read as it is. -/
def Keeps {α : Type} (part : Reading → α) : Item → Prop
  | .number field => ∀ r n, part (r.set field n) = part r
  | .fraction => ∀ r n, part { r with nanosecond := n } = part r
  | .mark _ => True
  | .blanks => True

theorem keeps_time_dateForm : ∀ item ∈ dateForm, Keeps Reading.time item := by
  simp [dateForm, Keeps, Reading.set, Reading.time]

theorem keeps_date_timeForm {form : List Item} (hform : form ∈ timeForms) :
    ∀ item ∈ form, Keeps Reading.date item := by
  rcases List.mem_cons.mp hform with rfl | hform
  · simp [longTimeForm, shortTimeForm, Keeps, Reading.set, Reading.date]
  · obtain rfl := List.mem_singleton.mp hform
    simp [shortTimeForm, Keeps, Reading.set, Reading.date]

theorem eq_of_keeps {α : Type} {part : Reading → α} (hitems : ∀ item ∈ items, Keeps part item)
    (h : read? items r cs = some result) : part result = part r := by
  fun_induction read? items r cs with
  | case1 => rw [Option.some.inj h]
  | case2 => simp at h
  | case3 field items r cs ih =>
      obtain ⟨hfield, hitems⟩ := List.forall_mem_cons.mp hitems
      obtain ⟨⟨n, rest⟩, -, hrest⟩ := Option.bind_eq_some_iff.mp h
      rw [ih n rest hitems hrest]
      exact hfield r n
  | case4 => simp at h
  | case5 items r c cs ih => exact ih (List.forall_mem_cons.mp hitems).2 h
  | case6 => simp at h
  | case7 items r cs ih => exact ih (List.forall_mem_cons.mp hitems).2 h
  | case8 items r cs ih =>
      obtain ⟨hfraction, hitems⟩ := List.forall_mem_cons.mp hitems
      obtain ⟨⟨digits, rest⟩, -, hrest⟩ := Option.bind_eq_some_iff.mp h
      rw [ih digits rest hitems hrest]
      exact hfraction r _
  | case9 items r cs _ ih => exact ih (List.forall_mem_cons.mp hitems).2 h

theorem time_set_congr {other : Reading} (h : r.time = other.time) (field : Field)
    (n : Int) : (r.set field n).time = (other.set field n).time := by
  cases field <;> simp_all [Reading.set, Reading.time]

theorem map_time_read?_congr {other : Reading} (h : r.time = other.time) :
    (read? items r cs).map (·.time) = (read? items other cs).map (·.time) := by
  fun_induction read? items r cs generalizing other with
  | case1 => simpa [read?] using h
  | case2 => rfl
  | case3 field items r cs ih =>
      rw [read?]
      cases number? field cs with
      | none => rfl
      | some pair =>
          exact ih pair.1 pair.2 (time_set_congr h field pair.1)
  | case4 => rfl
  | case5 items r c cs ih =>
      rw [read?, if_pos rfl]
      exact ih h
  | case6 m items r c cs hne => rw [read?, if_neg hne]
  | case7 items r cs ih => exact ih h
  | case8 items r cs ih =>
      rw [read?]
      cases digits? cs.length cs with
      | none => rfl
      | some pair =>
          refine ih pair.1 pair.2 ?_
          simp_all [Reading.time]
  | case9 items r cs hpoint ih =>
      rw [read?]
      · exact ih h
      · exact hpoint

variable {day : Day} {time : TimeOfDay} {form : List Item}

theorem date?_eq_some_iff :
    date? cs = some day ↔
      ∃ r, read? dateForm {} cs = some r ∧ r.date = day ∧ day.isValid = true := by
  simp only [date?, Option.filter_eq_some_iff, Option.map_eq_some_iff]
  constructor
  · rintro ⟨⟨r, hr, hday⟩, hvalid⟩
    exact ⟨r, hr, hday, hvalid⟩
  · rintro ⟨r, hr, hday, hvalid⟩
    exact ⟨⟨r, hr, hday⟩, hvalid⟩

theorem date?_append_blanks {blanks : List Char} (h : ∀ c ∈ blanks, isBlank c = true)
    (cs : List Char) : date? (blanks ++ cs) = date? cs := by
  have hread : read? dateForm {} (blanks ++ cs) = read? dateForm {} cs := by
    rw [dateForm, ← read?_number_skipBlanks, skipBlanks_append h, read?_number_skipBlanks]
  rw [date?, hread, date?]

theorem exists_concat_of_date? (h : date? cs = some day) :
    ∃ front c, cs = front ++ [c] ∧ c.isDigit = true := by
  obtain ⟨r, hr, -, -⟩ := date?_eq_some_iff.mp h
  have hsplit : read? ([.number .year, .mark '-', .number .month, .mark '-'] ++ [.number .day])
      {} cs = some r := hr
  obtain ⟨before, rest, middle, rfl, -, hrest⟩ := exists_of_read?_append (by decide) hsplit
  obtain ⟨⟨n, tail⟩, hnumber, htail⟩ := Option.bind_eq_some_iff.mp hrest
  obtain rfl : tail = [] := by
    cases tail with
    | nil => rfl
    | cons c tail => simp [read?] at htail
  obtain ⟨front, c, rfl, hc⟩ := exists_concat_of_number? hnumber
  exact ⟨before ++ front, c, (List.append_assoc _ _ _).symm, hc⟩

theorem exists_append_of_mem_timeForms (hform : form ∈ timeForms) :
    ∃ more, form = shortTimeForm ++ more := by
  rcases List.mem_cons.mp hform with rfl | hform
  · exact ⟨_, rfl⟩
  · obtain rfl := List.mem_singleton.mp hform
    exact ⟨[], (List.append_nil _).symm⟩

theorem read?_long_of_short (h : read? shortTimeForm r cs = some result) :
    read? longTimeForm r cs = none := by
  have hmore : read? longTimeForm r (cs ++ []) = read? [.mark ':', .number .second, .fraction]
      result [] := read?_append (by decide) h (by simp)
  rw [List.append_nil] at hmore
  exact hmore

theorem time?_eq_some_iff :
    time? cs = some time ↔ ∃ form ∈ timeForms, ∃ r, read? form {} cs = some r ∧
      r.time = time ∧ time.isValid = true := by
  constructor
  · intro h
    obtain ⟨form, hform, hread⟩ := List.exists_of_findSome?_eq_some h
    obtain ⟨hread, hvalid⟩ := Option.filter_eq_some_iff.mp hread
    obtain ⟨r, hr, htime⟩ := Option.map_eq_some_iff.mp hread
    exact ⟨form, hform, r, hr, htime, hvalid⟩
  · rintro ⟨form, hform, r, hr, rfl, hvalid⟩
    rcases List.mem_cons.mp hform with rfl | hform
    · simp [time?, timeForms, hr, hvalid]
    · obtain rfl := List.mem_singleton.mp hform
      simp [time?, timeForms, hr, hvalid, read?_long_of_short hr]

theorem exists_colon_of_read? (hform : form ∈ timeForms) (h : read? form r cs = some result) :
    ∃ digits more, Run 2 digits (':' :: more) ∧ skipBlanks cs = digits ++ ':' :: more := by
  obtain ⟨more, rfl⟩ := exists_append_of_mem_timeForms hform
  obtain ⟨⟨n, rest⟩, hnumber, hrest⟩ := Option.bind_eq_some_iff.mp h
  obtain ⟨digits, hrun, htext⟩ := exists_run_of_number? (by decide) hnumber
  cases rest with
  | nil => simp [read?] at hrest
  | cons c rest =>
      obtain ⟨rfl, -⟩ := Option.ite_none_right_eq_some.mp hrest
      exact ⟨digits, rest, hrun, htext⟩

theorem exists_of_timestamp? (h : timestamp? cs = some (day, time)) :
    ∃ item form r, (item = .blanks ∨ item = .mark 'T') ∧ form ∈ timeForms ∧
      read? (dateForm ++ item :: form) {} cs = some r ∧ r.date = day ∧ r.time = time ∧
      day.isValid = true ∧ time.isValid = true := by
  obtain ⟨form, hform, hread⟩ := List.exists_of_findSome?_eq_some h
  obtain ⟨hread, hvalid⟩ := Option.filter_eq_some_iff.mp hread
  obtain ⟨r, hr, hpair⟩ := Option.map_eq_some_iff.mp hread
  obtain ⟨hday, htime⟩ := Prod.mk.inj hpair
  obtain ⟨hvalidDay, hvalidTime⟩ := Bool.and_eq_true_iff.mp hvalid
  simp only [timestampForms, List.mem_cons, List.not_mem_nil, or_false] at hform
  rcases hform with rfl | rfl | rfl | rfl
  · exact ⟨_, _, r, .inl rfl, by decide, hr, hday, htime, hvalidDay, hvalidTime⟩
  · exact ⟨_, _, r, .inr rfl, by decide, hr, hday, htime, hvalidDay, hvalidTime⟩
  · exact ⟨_, _, r, .inl rfl, by decide, hr, hday, htime, hvalidDay, hvalidTime⟩
  · exact ⟨_, _, r, .inr rfl, by decide, hr, hday, htime, hvalidDay, hvalidTime⟩

end SqlDialects.Proofs.CalendarForms
