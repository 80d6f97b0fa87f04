import SqlDialects.Proofs.IntegerSpelling
import SqlDialects.Version

namespace SqlDialects.Proofs.VersionReading

open DecimalSpelling (not_point_of_isDigit)
open IntegerSpelling
open LiteralCharacters (natRepr_ne_nil)
open Numeral
open Text.Search (pieces)
open Version (component? components firstRun read?)

theorem pieces_eq_singleton {p : Char → Bool} {cs : List Char} (h : ∀ c ∈ cs, p c = false) :
    pieces p cs = [cs] := by
  induction cs with
  | nil => rfl
  | cons c cs ih =>
      obtain ⟨hc, hcs⟩ := List.forall_mem_cons.mp h
      simp [pieces, hc, ih hcs]

theorem pieces_append {p : Char → Bool} {front : List Char} {m : Char} (rest : List Char)
    (hfront : ∀ c ∈ front, p c = false) (hm : p m = true) :
    pieces p (front ++ m :: rest) = front :: pieces p rest := by
  induction front with
  | nil => simp [pieces, hm]
  | cons c front ih =>
      obtain ⟨hc, hfront⟩ := List.forall_mem_cons.mp hfront
      simp [pieces, hc, ih hfront]

/-- One digit or more. -/
structure DigitRun where
  digits : List Char
  ne_nil : digits ≠ []
  allDigits : allDigits digits = true

namespace DigitRun

def value (r : DigitRun) : Nat :=
  valueOf r.digits

/-- The digits that are written for a number. -/
def ofNat (n : Nat) : DigitRun :=
  ⟨n.repr.toList, natRepr_ne_nil n, allDigits_natRepr n⟩

@[simp]
theorem value_ofNat (n : Nat) : (ofNat n).value = n :=
  valueOf_natRepr n

theorem isDigit (r : DigitRun) : ∀ c ∈ r.digits, c.isDigit = true :=
  List.all_eq_true.mp r.allDigits

theorem not_point (r : DigitRun) : ∀ c ∈ r.digits, (c == '.') = false :=
  fun c hc => not_point_of_isDigit (r.isDigit c hc)

theorem isEmpty_eq_false (r : DigitRun) : r.digits.isEmpty = false :=
  List.isEmpty_eq_false_iff.mpr r.ne_nil

end DigitRun

/-- Three numbers with points between them, such as `10.06.3`. -/
structure Dotted where
  major : DigitRun
  minor : DigitRun
  patch : DigitRun

namespace Dotted

def chars (d : Dotted) : List Char :=
  d.major.digits ++ '.' :: (d.minor.digits ++ '.' :: d.patch.digits)

def text (d : Dotted) : String :=
  .ofList d.chars

def ofVersion (v : Version) : Dotted :=
  ⟨.ofNat v.major.toNat, .ofNat v.minor.toNat, .ofNat v.patch.toNat⟩

theorem text_ofVersion (v : Version) : (ofVersion v).text = v.text := by
  rw [← String.toList_inj]
  simp [text, chars, ofVersion, DigitRun.ofNat, Version.text]

end Dotted

theorem firstRun_append {before run after : List Char}
    (hbefore : ∀ c ∈ before, c.isDigit = false) (hstart : ∀ c ∈ run.head?, c.isDigit = true)
    (hne : run ≠ []) (hrun : ∀ c ∈ run, (c.isDigit || c == '.') = true) :
    firstRun (before ++ (run ++ after)) =
      run ++ after.takeWhile fun c => c.isDigit || c == '.' := by
  obtain ⟨c, run, rfl⟩ := List.exists_cons_of_ne_nil hne
  have hc : c.isDigit = true := hstart c rfl
  have hskip : (before ++ (c :: run ++ after)).dropWhile (fun c => !c.isDigit) =
      c :: run ++ after := by
    rw [List.dropWhile_append_of_pos fun c hc => by simp [hbefore c hc], List.cons_append,
      List.dropWhile_cons_of_neg (by simp [hc])]
  rw [firstRun, hskip, List.takeWhile_append_of_pos hrun]

theorem takeWhile_eq_nil_or_point {after : List Char} (h : ∀ c ∈ after.head?, c.isDigit = false) :
    (after.takeWhile fun c => c.isDigit || c == '.') = [] ∨
      ∃ rest, (after.takeWhile fun c => c.isDigit || c == '.') = '.' :: rest := by
  cases after with
  | nil => exact .inl rfl
  | cons c after =>
      have hc : c.isDigit = false := h c rfl
      by_cases hpoint : c = '.'
      · subst hpoint
        exact .inr ⟨_, List.takeWhile_cons_of_pos rfl⟩
      · exact .inl (List.takeWhile_cons_of_neg (by simp [hc, hpoint]))

theorem exists_components {before after : List Char} (d : Dotted)
    (hbefore : ∀ c ∈ before, c.isDigit = false) (hafter : ∀ c ∈ after.head?, c.isDigit = false) :
    ∃ more, components (before ++ (d.chars ++ after)) =
      d.major.digits :: d.minor.digits :: d.patch.digits :: more := by
  have hstart : ∀ c ∈ d.chars.head?, c.isDigit = true := by
    intro c hc
    rw [Dotted.chars, List.head?_append_of_ne_nil _ d.major.ne_nil] at hc
    exact d.major.isDigit c (List.mem_of_mem_head? hc)
  have hne : d.chars ≠ [] := by simp [Dotted.chars]
  have hrun : ∀ c ∈ d.chars, (c.isDigit || c == '.') = true := by
    intro c hc
    simp only [Dotted.chars, List.mem_append, List.mem_cons] at hc
    rcases hc with hc | rfl | hc | rfl | hc
    · simp [d.major.isDigit c hc]
    · rfl
    · simp [d.minor.isDigit c hc]
    · rfl
    · simp [d.patch.isDigit c hc]
  rw [components, firstRun_append hbefore hstart hne hrun]
  rcases takeWhile_eq_nil_or_point hafter with htail | ⟨rest, htail⟩
  · refine ⟨[], ?_⟩
    rw [htail, List.append_nil, Dotted.chars, pieces_append _ d.major.not_point rfl,
      pieces_append _ d.minor.not_point rfl, pieces_eq_singleton d.patch.not_point]
    simp [DigitRun.isEmpty_eq_false]
  · refine ⟨(pieces (· == '.') rest).filter fun digits => !digits.isEmpty, ?_⟩
    rw [htail, Dotted.chars, List.append_assoc, List.cons_append, List.append_assoc,
      List.cons_append, pieces_append _ d.major.not_point rfl,
      pieces_append _ d.minor.not_point rfl, pieces_append _ d.patch.not_point rfl]
    simp [DigitRun.isEmpty_eq_false]

/-- Three numbers are read as they stand, whatever the text around them. -/
theorem read?_around (d : Dotted) {before after : String}
    (hbefore : ∀ c ∈ before.toList, c.isDigit = false)
    (hafter : ∀ c ∈ after.toList.head?, c.isDigit = false) :
    read? (before ++ d.text ++ after) = (component? d.major.digits).map fun major =>
      ⟨major, (component? d.minor.digits).getD 0, (component? d.patch.digits).getD 0⟩ := by
  have htext : (before ++ d.text ++ after).toList =
      before.toList ++ (d.chars ++ after.toList) := by
    simp [Dotted.text]
  obtain ⟨more, hcomponents⟩ := exists_components d hbefore hafter
  rw [read?, htext, hcomponents, Option.map_eq_bind]
  rfl

theorem component?_ofNat (n : UInt32) :
    component? (DigitRun.ofNat n.toNat).digits = some n := by
  have hvalue : valueOf (DigitRun.ofNat n.toNat).digits = n.toNat := DigitRun.value_ofNat n.toNat
  have hlt : n.toNat < 4294967296 := n.toNat_lt
  simp [component?, hvalue, hlt]

theorem read?_eq_none {s : String} (h : ∀ c ∈ s.toList, c.isDigit = false) : read? s = none := by
  have hrun : firstRun s.toList = [] := by
    rw [firstRun, List.dropWhile_eq_nil_iff.mpr fun c hc => by simp [h c hc]]
    rfl
  rw [read?, components, hrun]
  rfl

/-- A printed version is found in every text, however many points stand before it and whatever
follows except a digit. A text without digits has no version. -/
theorem printed_version_is_found :
    (∀ (v : Version) (before after : String), (∀ c ∈ before.toList, c.isDigit = false) →
      (∀ c ∈ after.toList.head?, c.isDigit = false) →
        read? (before ++ v.text ++ after) = some v) ∧
      ∀ s : String, (∀ c ∈ s.toList, c.isDigit = false) → read? s = none := by
  refine ⟨?_, fun s => read?_eq_none⟩
  intro v before after hbefore hafter
  rw [← Dotted.text_ofVersion, read?_around _ hbefore hafter]
  simp [Dotted.ofVersion, component?_ofNat]

theorem printed_version_greatest :
    read? "Größe ٣, v..4294967295.0.4294967295.7-rc" =
        some ⟨4294967295, 0, 4294967295⟩ ∧
      read? "Größe ٣, v.." = none :=
  ⟨printed_version_is_found.1 ⟨4294967295, 0, 4294967295⟩ "Größe ٣, v.." ".7-rc" (by simp)
    (by simp), printed_version_is_found.2 "Größe ٣, v.." (by simp)⟩

end SqlDialects.Proofs.VersionReading
