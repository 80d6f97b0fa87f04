import SqlDialects.Proofs.BuiltinRegistry
import SqlDialects.Proofs.CalendarForms
import SqlDialects.Proofs.LiteralReading

/-!
Literals of dates and times. Their text goes between the quotes as it is, so all depends on what
the forms let through: digits, signs, points, colons and white space, and one `T` that is replaced.
A timestamp falls into a date and a time, with white space between them unless the digits of the
one run into those of the other.
-/

namespace SqlDialects.Proofs.TemporalLiterals

open BuiltinRegistry (exists_dialect_of_run)
open Calendar
open CalendarForms
open Literal
open LiteralCharacters
open LiteralReading (write?_of_write)
open Outcome (exists_of_isOk)
open Spelling
open Text (isBlank skipBlanks trimChars)

variable {cs date clock : List Char} {day : Day} {time : TimeOfDay}

def isBodyChar (c : Char) : Bool :=
  isFigureChar c || c = ':'

theorem isFigureChar_of_date? (h : date? cs = some day) : ∀ c ∈ cs, isFigureChar c = true := by
  obtain ⟨r, hr, -, -⟩ := date?_eq_some_iff.mp h
  intro c hc
  rcases mem_read? hr c hc with hfigure | hmark
  · exact hfigure
  · obtain rfl : c = '-' := by simpa [dateForm] using hmark
    rfl

theorem isBodyChar_of_time? (h : time? cs = some time) : ∀ c ∈ cs, isBodyChar c = true := by
  obtain ⟨form, hform, r, hr, -, -⟩ := time?_eq_some_iff.mp h
  intro c hc
  rcases mem_read? hr c hc with hfigure | hmark
  · simp [isBodyChar, hfigure]
  · have hcolon : c = ':' := by
      rcases List.mem_cons.mp hform with rfl | hform
      · simpa [longTimeForm, shortTimeForm] using hmark
      · obtain rfl := List.mem_singleton.mp hform
        simpa [shortTimeForm] using hmark
    simp [isBodyChar, hcolon]

theorem spaceForT_append (h : 'T' ∉ cs) (rest : List Char) :
    spaceForT (cs ++ rest) = cs ++ spaceForT rest := by
  induction cs with
  | nil => rfl
  | cons c cs ih =>
      obtain ⟨hc, hcs⟩ := not_or.mp (mt List.mem_cons.mpr h)
      rw [List.cons_append, spaceForT, if_neg (Ne.symm hc), ih hcs]
      rfl

theorem spaceForT_eq_self (h : 'T' ∉ cs) : spaceForT cs = cs := by
  have happend := spaceForT_append h []
  rwa [spaceForT, List.append_nil] at happend

/-- What stands between date and time before the `T` is replaced: white space, or a `T` and white
space. -/
def IsGap (gap : List Char) : Prop :=
  ∃ blanks, (∀ c ∈ blanks, isBlank c = true) ∧ (gap = blanks ∨ gap = 'T' :: blanks)

theorem exists_gap {item : Item} {form : List Item} {r result : Reading}
    (hitem : item = .blanks ∨ item = .mark 'T') (hform : form ∈ timeForms)
    (h : read? (item :: form) r cs = some result) :
    ∃ gap clock, cs = gap ++ clock ∧ IsGap gap ∧ read? form r clock = some result ∧
      ∃ c ∈ clock.head?, c.isDigit = true := by
  -- White space before the hour is read with the number and counts as part of the gap here.
  have hclock : ∀ rest, read? form r rest = some result →
      read? form r (skipBlanks rest) = some result ∧
        ∃ c ∈ (skipBlanks rest).head?, c.isDigit = true := by
    intro rest hrest
    obtain ⟨digits, more, hrun, htext⟩ := exists_colon_of_read? hform hrest
    have hdigit := hrun.head?_append
    rw [← htext] at hdigit
    obtain ⟨more, rfl⟩ := exists_append_of_mem_timeForms hform
    rw [← hrest]
    exact ⟨read?_number_skipBlanks _ r, hdigit⟩
  rcases hitem with rfl | rfl
  · obtain ⟨blanks, hblanks, hcs⟩ := padded_skipBlanks cs
    obtain ⟨hread, hdigit⟩ := hclock (skipBlanks cs) h
    rw [skipBlanks_skipBlanks] at hread hdigit
    exact ⟨blanks, _, hcs, ⟨blanks, hblanks, .inl rfl⟩, hread, hdigit⟩
  · cases cs with
    | nil => simp [read?] at h
    | cons c rest =>
        obtain ⟨rfl, hrest⟩ := Option.ite_none_right_eq_some.mp h
        obtain ⟨blanks, hblanks, hcs⟩ := padded_skipBlanks rest
        obtain ⟨hread, hdigit⟩ := hclock rest hrest
        exact ⟨'T' :: blanks, _, congrArg ('T' :: ·) hcs, ⟨blanks, hblanks, .inr rfl⟩, hread,
          hdigit⟩

/-- A text that falls into a date, white space, and a time from its first digit on. -/
structure Divides (day : Day) (time : TimeOfDay) (body date gap clock : List Char) : Prop where
  body_eq : body = date ++ gap ++ clock
  date_eq : date? date = some day
  gap_blank : ∀ c ∈ gap, isBlank c = true
  clock_eq : time? clock = some time
  clock_head : ∃ c ∈ clock.head?, c.isDigit = true

theorem not_mem_of_date? (h : date? date = some day) : 'T' ∉ date :=
  fun hmem => absurd (isFigureChar_of_date? h 'T' hmem) (by decide)

theorem not_mem_of_time? (h : time? clock = some time) : 'T' ∉ clock :=
  fun hmem => absurd (isBodyChar_of_time? h 'T' hmem) (by decide)

theorem exists_spaceForT_eq {gap : List Char} (hdate : 'T' ∉ date) (hgap : IsGap gap)
    (hclock : 'T' ∉ clock) :
    ∃ blanks, (∀ c ∈ blanks, isBlank c = true) ∧
      spaceForT (date ++ (gap ++ clock)) = date ++ blanks ++ clock := by
  obtain ⟨blanks, hblanks, rfl | rfl⟩ := hgap
  · have hgap : 'T' ∉ gap := fun hmem => absurd (hblanks 'T' hmem) (by decide)
    refine ⟨gap, hblanks, ?_⟩
    rw [spaceForT_append hdate, spaceForT_append hgap, spaceForT_eq_self hclock,
      List.append_assoc]
  · refine ⟨' ' :: blanks, List.forall_mem_cons.mpr ⟨rfl, hblanks⟩, ?_⟩
    rw [spaceForT_append hdate, List.append_assoc]
    rfl

theorem exists_divides (h : timestamp? cs = some (day, time)) :
    ∃ date gap clock, Divides day time (spaceForT cs) date gap clock ∧ date <+: cs ∧
      clock <:+ cs := by
  obtain ⟨item, form, r, hitem, hform, hread, hday, htime, hvalidDay, hvalidTime⟩ :=
    exists_of_timestamp? h
  obtain ⟨date, rest, middle, rfl, hdate, hrest⟩ := exists_of_read?_append (by decide) hread
  obtain ⟨gap, clock, rfl, hgap, hclock, hdigit⟩ := exists_gap hitem hform hrest
  have hmiddleDay : middle.date = day := by
    rw [← hday]
    exact (eq_of_keeps (keeps_date_timeForm hform) hclock).symm
  have hmiddleTime : middle.time = ({} : Reading).time := eq_of_keeps keeps_time_dateForm hdate
  have hfresh : (read? form middle clock).map (·.time) = (read? form {} clock).map (·.time) :=
    map_time_read?_congr hmiddleTime
  rw [hclock, Option.map_some, eq_comm, Option.map_eq_some_iff] at hfresh
  obtain ⟨fresh, hfresh, hfreshTime⟩ := hfresh
  have hdate : date? date = some day :=
    date?_eq_some_iff.mpr ⟨middle, hdate, hmiddleDay, hvalidDay⟩
  have hclock : time? clock = some time :=
    time?_eq_some_iff.mpr ⟨form, hform, fresh, hfresh, hfreshTime.trans htime, hvalidTime⟩
  obtain ⟨blanks, hblanks, hbody⟩ :=
    exists_spaceForT_eq (not_mem_of_date? hdate) hgap (not_mem_of_time? hclock)
  refine ⟨date, blanks, clock, ⟨hbody, hdate, hblanks, hclock, hdigit⟩, ?_, ?_⟩
  · exact List.prefix_append date _
  · rw [← List.append_assoc]
    exact List.suffix_append _ clock

theorem Divides.isBodyChar {body gap : List Char} (h : Divides day time body date gap clock) :
    ∀ c ∈ body, isBodyChar c = true := by
  rw [h.body_eq, List.forall_mem_append, List.forall_mem_append]
  refine ⟨⟨?_, ?_⟩, isBodyChar_of_time? h.clock_eq⟩
  · intro c hc
    simp [TemporalLiterals.isBodyChar, isFigureChar_of_date? h.date_eq c hc]
  · intro c hc
    simp [TemporalLiterals.isBodyChar, isFigureChar, h.gap_blank c hc]

/-- What a value is between the quotes of a date or time: the value without the white space at its
ends, and in a timestamp with a space for its first `T`. -/
def bodyOf (type : LogicalType) (value : String) : List Char :=
  if type = .timestamp then spaceForT (trimChars value.toList) else trimChars value.toList

variable {d : Dialect} {value literal : String} {type : LogicalType}

theorem timestamp?_of_literal (h : d.literal value .timestamp = .ok literal) :
    literal = ofTemporal (d.composition.temporalStyleOf .timestamp) "TIMESTAMP"
        (bodyOf .timestamp value) ∧
      ∃ day time, timestamp? (trimChars value.toList) = some (day, time) := by
  obtain ⟨⟨day, time⟩, hread, rfl⟩ := Option.map_eq_some_iff.mp (write?_of_write h)
  exact ⟨rfl, day, time, hread⟩

theorem isBodyChar_of_literal (htype : type = .date ∨ type = .time ∨ type = .timestamp)
    (h : d.literal value type = .ok literal) :
    literal = ofTemporal (d.composition.temporalStyleOf type) type.name (bodyOf type value) ∧
      ∀ c ∈ bodyOf type value, isBodyChar c = true := by
  rcases htype with rfl | rfl | rfl
  · obtain ⟨day, hread, rfl⟩ := Option.map_eq_some_iff.mp (write?_of_write h)
    refine ⟨rfl, ?_⟩
    intro c hc
    simp [isBodyChar, isFigureChar_of_date? hread c hc]
  · obtain ⟨time, hread, rfl⟩ := Option.map_eq_some_iff.mp (write?_of_write h)
    exact ⟨rfl, isBodyChar_of_time? hread⟩
  · obtain ⟨rfl, day, time, hread⟩ := timestamp?_of_literal h
    obtain ⟨date, gap, clock, hdivides, -⟩ := exists_divides hread
    exact ⟨rfl, hdivides.isBodyChar⟩

theorem ofTemporal_eq (style : TemporalStyle) (keyword : String) (body : List Char) :
    ofTemporal style keyword body =
      (if style = .typed then keyword ++ " " else "") ++
        String.ofList ('\'' :: body ++ ['\'']) := by
  cases style with
  | typed => rfl
  | quoted => simp [ofTemporal]

/-- A literal of a date or time holds the text of the value between quotes, and nothing in that
text could end it. The type stands before it just if that is the style of the dialect. -/
theorem temporal_literal_stays_in_quotes (d : Dialect) (value literal : String)
    (type : LogicalType) (htype : type = .date ∨ type = .time ∨ type = .timestamp)
    (h : d.literal value type = .ok literal) :
    literal = (if d.composition.temporalStyleOf type = .typed then type.name ++ " " else "") ++
        String.ofList ('\'' :: bodyOf type value ++ ['\'']) ∧
      (∀ c ∈ bodyOf type value, c.isDigit = true ∨ c = '+' ∨ c = '-' ∨ c = ':' ∨ c = '.' ∨
        isBlank c = true) ∧
      '\'' ∉ bodyOf type value ∧ '\\' ∉ bodyOf type value := by
  obtain ⟨hliteral, hbody⟩ := isBodyChar_of_literal htype h
  refine ⟨?_, ?_, ?_, ?_⟩
  · rw [hliteral, ofTemporal_eq]
  · intro c hc
    have hchar := hbody c hc
    simp only [isBodyChar, isFigureChar, Bool.or_eq_true, decide_eq_true_eq] at hchar
    rcases hchar with ((((hc | hc) | hc) | hc) | hc) | hc
    · exact .inl hc
    · exact .inr (.inl hc)
    · exact .inr (.inr (.inl hc))
    · exact .inr (.inr (.inr (.inr (.inl hc))))
    · exact .inr (.inr (.inr (.inr (.inr hc))))
    · exact .inr (.inr (.inr (.inl hc)))
  · exact fun hmem => absurd (hbody _ hmem) (by decide)
  · exact fun hmem => absurd (hbody _ hmem) (by decide)

theorem exists_typed_dialect (value : String)
    (h : (timestamp? (trimChars value.toList)).isSome = true) :
    ∃ registry d, Builtin.registrations.build = .ok registry ∧
      registry.resolveTag "ansi" .unknown = .ok d ∧
      d.composition.temporalStyleOf .timestamp = .typed ∧
      (d.literal value .timestamp).isOk = true := by
  obtain ⟨registry, d, hbuild, hd, hstyle⟩ :
      ∃ registry d, Builtin.registrations.build = .ok registry ∧
        registry.resolveTag "ansi" .unknown = .ok d ∧
        d.composition.temporalStyleOf .timestamp = .typed :=
    exists_dialect_of_run _ _ (fun d => d.composition.temporalStyleOf .timestamp)
      (by decide +kernel)
  obtain ⟨pair, hpair⟩ := Option.isSome_iff_exists.mp h
  refine ⟨registry, d, hbuild, hd, hstyle, ?_⟩
  simp [Dialect.literal, write, write?, hpair]
  rfl

/-- A timestamp with all that the forms allow: signs, padding, white space of several kinds, a
leap second and more digits than count. -/
def laxTimestamp : String :=
  " +02024- 1-\t31T\u3000 9:05:60.12345678901 "

theorem temporal_literal_laxTimestamp :
    ∃ registry d, Builtin.registrations.build = .ok registry ∧
      registry.resolveTag "ansi" .unknown = .ok d ∧
      d.literal laxTimestamp .timestamp =
        .ok "TIMESTAMP '+02024- 1-\t31 \u3000 9:05:60.12345678901'" ∧
      '\'' ∉ bodyOf .timestamp laxTimestamp ∧ '\\' ∉ bodyOf .timestamp laxTimestamp := by
  obtain ⟨registry, d, hbuild, hd, hstyle, hok⟩ := exists_typed_dialect laxTimestamp
    (by decide +kernel)
  obtain ⟨literal, hliteral⟩ := exists_of_isOk hok
  obtain ⟨hform, -, hquote, hbackslash⟩ :=
    temporal_literal_stays_in_quotes d laxTimestamp literal .timestamp (.inr (.inr rfl)) hliteral
  have hbody : String.ofList ('\'' :: bodyOf .timestamp laxTimestamp ++ ['\'']) =
      "'+02024- 1-\t31 \u3000 9:05:60.12345678901'" := by
    decide +kernel
  rw [hstyle, hbody] at hform
  rw [hform] at hliteral
  exact ⟨registry, d, hbuild, hd, hliteral, hquote, hbackslash⟩

/-- A text that is accepted as a date on its own, and the day that it denotes. -/
def DenotesDay (d : Dialect) (cs : List Char) (day : Day) : Prop :=
  (∃ literal, d.literal (.ofList cs) .date = .ok literal) ∧ date? (trimChars cs) = some day

def DenotesTime (d : Dialect) (cs : List Char) (time : TimeOfDay) : Prop :=
  (∃ literal, d.literal (.ofList cs) .time = .ok literal) ∧ time? (trimChars cs) = some time

/-- A text of a date and a time with white space between them. -/
def Separated (d : Dialect) (day : Day) (time : TimeOfDay) (body : List Char) : Prop :=
  ∃ date gap clock, body = date ++ gap ++ clock ∧ gap ≠ [] ∧ (∀ c ∈ gap, isBlank c = true) ∧
    DenotesDay d date day ∧ DenotesTime d clock time

/-- A text in which the digits of a date run into those of a time. -/
def RunsTogether (day : Day) (time : TimeOfDay) (body : List Char) : Prop :=
  ∃ date clock, Divides day time body date [] clock

theorem denotesDay_of_date? (h : date? date = some day) (htrim : trimChars date = date) :
    DenotesDay d date day := by
  refine ⟨?_, by rwa [htrim]⟩
  simp [Dialect.literal, write, write?, htrim, h]

theorem denotesTime_of_time? (h : time? clock = some time) (htrim : trimChars clock = clock) :
    DenotesTime d clock time := by
  refine ⟨?_, by rwa [htrim]⟩
  simp [Dialect.literal, write, write?, htrim, h]

theorem trimChars_date (h : date? date = some day) (hcs : trimChars cs = cs)
    (hfront : date <+: cs) : trimChars date = date := by
  obtain ⟨front, c, rfl, hc⟩ := exists_concat_of_date? h
  obtain ⟨rest, rfl⟩ := hfront
  rw [trimChars_eq_self_iff] at hcs ⊢
  constructor
  · intro first hfirst
    exact hcs.1 first (by rw [List.head?_append, hfirst]; rfl)
  · intro last hlast
    obtain rfl : c = last := by simpa using hlast
    exact isBlank_of_isDigit hc

theorem trimChars_clock (hdigit : ∃ c ∈ clock.head?, c.isDigit = true)
    (hcs : trimChars cs = cs) (hsuffix : clock <:+ cs) : trimChars clock = clock := by
  obtain ⟨front, rfl⟩ := hsuffix
  rw [trimChars_eq_self_iff] at hcs ⊢
  refine ⟨isBlank_head_of_isDigit hdigit, ?_⟩
  intro last hlast
  exact hcs.2 last (by rw [List.getLast?_append, hlast]; rfl)

theorem clock_ne_append_blank {v rest : List Char} {b : Char} (hclock : time? clock = some time)
    (hdigit : ∃ c ∈ clock.head?, c.isDigit = true) (hv : ':' ∉ v) (hb : isBlank b = true) :
    clock ≠ v ++ b :: rest := by
  intro hsame
  obtain ⟨form, hform, r, hr, -, -⟩ := time?_eq_some_iff.mp hclock
  obtain ⟨digits, more, hrun, hcolon⟩ := exists_colon_of_read? hform hr
  rw [skipBlanks_eq_self_iff.mpr (isBlank_head_of_isDigit hdigit), hsame] at hcolon
  rcases List.append_eq_append_iff.mp hcolon with ⟨u, hu, htext⟩ | ⟨u, hu, htext⟩
  · cases u with
    | nil =>
        obtain rfl : b = ':' := (List.cons.inj htext).1
        exact absurd hb (by decide)
    | cons c u =>
        obtain rfl : b = c := (List.cons.inj htext).1
        have hbdigit : b.isDigit = true := hrun.isDigit b (by simp [hu])
        rw [isDigit_of_isBlank hb] at hbdigit
        cases hbdigit
  · cases u with
    | nil =>
        obtain rfl : ':' = b := (List.cons.inj htext).1
        exact absurd hb (by decide)
    | cons c u =>
        obtain rfl : ':' = c := (List.cons.inj htext).1
        exact hv (by simp [hu])

theorem date?_append_blank {rest : List Char} {b : Char} (h : date? date = some day)
    (hb : isBlank b = true) : date? (date ++ b :: rest) = none := by
  obtain ⟨r, hr, -, -⟩ := date?_eq_some_iff.mp h
  have hrest : ∀ c ∈ (b :: rest).head?, c.isDigit = false := by
    rintro _ ⟨⟩
    exact isDigit_of_isBlank hb
  have hmore : read? (dateForm ++ []) {} (date ++ b :: rest) = read? [] r (b :: rest) :=
    read?_append (by decide) hr hrest
  rw [List.append_nil] at hmore
  rw [date?, hmore]
  rfl

theorem append_ne_append_blank {other rest : List Char} {b : Char} {otherDay : Day}
    (hdate : date? date = some day) (hclock : time? clock = some time)
    (hdigit : ∃ c ∈ clock.head?, c.isDigit = true) (hother : date? other = some otherDay)
    (hb : isBlank b = true) : date ++ clock ≠ other ++ b :: rest := by
  intro hsame
  rcases List.append_eq_append_iff.mp hsame with ⟨v, hv, htext⟩ | ⟨v, hv, htext⟩
  · have hcolon : ':' ∉ v := by
      intro hmem
      exact absurd (isFigureChar_of_date? hother ':' (by simp [hv, hmem])) (by decide)
    exact clock_ne_append_blank hclock hdigit hcolon hb htext
  · cases v with
    | nil => exact clock_ne_append_blank hclock hdigit List.not_mem_nil hb htext.symm
    | cons c v =>
        obtain rfl : b = c := (List.cons.inj htext).1
        rw [hv, date?_append_blank hother hb] at hdate
        cases hdate

theorem Separated.not_runsTogether {body : List Char} (h : Separated d day time body)
    {otherDay : Day} {otherTime : TimeOfDay} : ¬ RunsTogether otherDay otherTime body := by
  rintro ⟨date, clock, hdivides⟩
  obtain ⟨other, gap, rest, hbody, hne, hgap, ⟨-, hother⟩, -⟩ := h
  -- White space that a date on its own may have at its end belongs to what stands between.
  obtain ⟨before, after, hbefore, hafter, hpadded⟩ := padded_trimChars other
  rw [← date?_append_blanks hbefore] at hother
  have hblank : ∀ c ∈ after ++ gap, isBlank c = true :=
    List.forall_mem_append.mpr ⟨hafter, hgap⟩
  obtain ⟨b, more, hmore⟩ :=
    List.exists_cons_of_ne_nil (List.append_ne_nil_of_right_ne_nil after hne)
  rw [hmore, List.forall_mem_cons] at hblank
  have hsame : date ++ clock = before ++ trimChars other ++ b :: (more ++ rest) := by
    calc
      date ++ clock = body := by rw [hdivides.body_eq, List.append_nil]
      _ = other ++ gap ++ rest := hbody
      _ = before ++ trimChars other ++ after ++ gap ++ rest := by rw [← hpadded]
      _ = before ++ trimChars other ++ (after ++ gap) ++ rest := by simp
      _ = before ++ trimChars other ++ b :: (more ++ rest) := by simp [hmore]
  exact append_ne_append_blank hdivides.date_eq hdivides.clock_eq hdivides.clock_head hother
    hblank.1 hsame

/-- The text of a timestamp literal is a date, white space and a time just if it does not run the
digits of the one into those of the other; the forms let this pass. -/
theorem rendered_timestamp_separated_iff (d : Dialect) (value literal : String)
    (h : d.literal value .timestamp = .ok literal) :
    literal = ofTemporal (d.composition.temporalStyleOf .timestamp) "TIMESTAMP"
        (bodyOf .timestamp value) ∧
      ∃ day time, timestamp? (trimChars value.toList) = some (day, time) ∧
        (Separated d day time (bodyOf .timestamp value) ↔
          ¬ RunsTogether day time (bodyOf .timestamp value)) := by
  obtain ⟨hliteral, day, time, hread⟩ := timestamp?_of_literal h
  refine ⟨hliteral, day, time, hread, fun hseparated => hseparated.not_runsTogether, ?_⟩
  intro hapart
  obtain ⟨date, gap, clock, hdivides, hfront, hsuffix⟩ := exists_divides hread
  have htrim : trimChars (trimChars value.toList) = trimChars value.toList :=
    (padded_trimChars value.toList).trimChars_eq.symm
  refine ⟨date, gap, clock, hdivides.body_eq, ?_, hdivides.gap_blank, ?_, ?_⟩
  · rintro rfl
    exact hapart ⟨date, clock, hdivides⟩
  · exact denotesDay_of_date? hdivides.date_eq
      (trimChars_date hdivides.date_eq htrim hfront)
  · exact denotesTime_of_time? hdivides.clock_eq
      (trimChars_clock hdivides.clock_head htrim hsuffix)

def joinedTimestamp : String :=
  "2024-01-3112:00"

theorem rendered_timestamp_joinedTimestamp :
    ∃ registry d, Builtin.registrations.build = .ok registry ∧
      registry.resolveTag "ansi" .unknown = .ok d ∧
      d.literal joinedTimestamp .timestamp = .ok "TIMESTAMP '2024-01-3112:00'" ∧
      RunsTogether ⟨2024, 1, 31⟩ ⟨12, 0, 0, 0⟩ "2024-01-3112:00".toList ∧
      ¬ Separated d ⟨2024, 1, 31⟩ ⟨12, 0, 0, 0⟩ "2024-01-3112:00".toList := by
  have hruns : RunsTogether ⟨2024, 1, 31⟩ ⟨12, 0, 0, 0⟩ "2024-01-3112:00".toList :=
    ⟨"2024-01-31".toList, "12:00".toList, by decide +kernel, by decide +kernel,
      List.forall_mem_nil _, by decide +kernel, '1', by decide, by decide⟩
  have hread : timestamp? (trimChars joinedTimestamp.toList) =
      some (⟨2024, 1, 31⟩, ⟨12, 0, 0, 0⟩) := by
    decide +kernel
  have hbody : bodyOf .timestamp joinedTimestamp = "2024-01-3112:00".toList := by
    decide +kernel
  obtain ⟨registry, d, hbuild, hd, hstyle, hok⟩ := exists_typed_dialect joinedTimestamp
    (by rw [hread]; rfl)
  obtain ⟨literal, hliteral⟩ := exists_of_isOk hok
  obtain ⟨hform, day, time, hpair, hiff⟩ :=
    rendered_timestamp_separated_iff d joinedTimestamp literal hliteral
  obtain ⟨rfl, rfl⟩ := Prod.mk.inj (Option.some.inj (hread.symm.trans hpair))
  rw [hbody] at hform hiff
  rw [hstyle] at hform
  rw [hform] at hliteral
  exact ⟨registry, d, hbuild, hd, hliteral, hruns, fun hseparated => hiff.mp hseparated hruns⟩

end SqlDialects.Proofs.TemporalLiterals
