import SqlDialects.Proofs.BuiltinRules

namespace SqlDialects.Proofs.ProbeDiscipline

open Impersonation
open Registry (pendingRules)
open RegistryContents
open RegistryValidation (impersonations_eq)
open Text.LetterCase (lower)
open VersionGates (LayersOf)

variable {σ : Type}

/-- Queries in the order in which they were put, each with what came of it. -/
abbrev Log :=
  List (Query × Except Error (Option String))

/-- A probe that also writes down what it is asked and what comes of it. -/
def logged (probe : Probe σ) : Probe (σ × Log) :=
  fun q (state, log) => ((probe q state).1, (probe q state).2, log ++ [(q, (probe q state).1)])

/-- What a query comes to: the answer of the snapshot, or else what came of putting it. -/
def outcome? (identity : Identity) (log : Log) (q : Query) :
    Option (Except Error (Option String)) :=
  match identity.answer? q with
  | some answer => some (.ok (some answer))
  | none => log.lookup q

/-- Whether a rule hits on what its query comes to. -/
def hitsIn (identity : Identity) (log : Log) (rule : Impersonation) : Bool :=
  match outcome? identity log rule.query with
  | some (.ok answer) => answer.any rule.hits
  | _ => false

def failsIn (identity : Identity) (log : Log) (rule : Impersonation) : Bool :=
  match outcome? identity log rule.query with
  | some (.error _) => true
  | _ => false

/-- An answer has a word in it, in whatever case the letters are. -/
def Mentions (answer needle : String) : Prop :=
  (lower needle).toList <:+: (lower answer).toList

/-- Whether a rule ends the search. -/
def decides (identity : Identity) (log : Log) (rule : Impersonation) : Bool :=
  hitsIn identity log rule || failsIn identity log rule

/-- A list up to and including its first element that satisfies `p`. -/
def through {α : Type} (p : α → Bool) (l : List α) : List α :=
  l.take (l.findIdx p + 1)

/-- What the first rule that ends the search makes of it. -/
def verdict (identity : Identity) (log : Log) (rules : List Impersonation) :
    Except Error (Option Impersonation) :=
  match rules.find? (decides identity log) with
  | none => .ok none
  | some rule =>
      match outcome? identity log rule.query with
      | some (.error e) => .error e
      | _ => .ok (some rule)

theorem through_cons_of_pos {α : Type} {p : α → Bool} {a : α} {l : List α} (h : p a = true) :
    through p (a :: l) = [a] := by
  simp [through, List.findIdx_cons, h]

theorem through_cons_of_neg {α : Type} {p : α → Bool} {a : α} {l : List α} (h : p a = false) :
    through p (a :: l) = a :: through p l := by
  simp [through, List.findIdx_cons, h]

theorem nodup_eraseDups {α : Type} [BEq α] [LawfulBEq α] (l : List α) : l.eraseDups.Nodup := by
  cases l with
  | nil => simp
  | cons a rest =>
      rw [List.eraseDups_cons, List.nodup_cons, List.mem_eraseDups]
      exact ⟨by simp, nodup_eraseDups _⟩
termination_by l.length
decreasing_by exact Nat.lt_succ_of_le (List.length_filter_le _ _)

theorem occursIn_eq_true_iff {needle cs : List Char} :
    Text.Search.occursIn needle cs = true ↔ needle <:+: cs := by
  induction cs with
  | nil => rw [Text.Search.occursIn, List.isEmpty_iff, List.infix_nil]
  | cons c cs ih =>
      rw [Text.Search.occursIn, Bool.or_eq_true, List.isPrefixOf_iff_prefix, ih,
        List.infix_cons_iff]

variable {identity : Identity} {rule : Impersonation} {rules : List Impersonation} {q : Query}
  {answer : Option String} {e : Error} {log before more : Log}
  {known : List (Query × Option String)} {found : Except Error (Option Impersonation)}
  {registry : Registry} {matched : Dialect} {probe : Probe σ} {state : σ}

theorem hits_eq_true_iff {answer : String} :
    rule.hits answer = true ↔ Mentions answer rule.needle :=
  occursIn_eq_true_iff

theorem hitsIn_eq_true_iff :
    hitsIn identity log rule = true ↔ ∃ answer,
      outcome? identity log rule.query = some (.ok (some answer)) ∧
        Mentions answer rule.needle := by
  unfold hitsIn
  split
  · rename_i answer houtcome
    cases answer with
    | none => simp [houtcome]
    | some answer => simp [houtcome, hits_eq_true_iff]
  · rename_i hother
    simp only [Bool.false_eq_true, false_iff]
    rintro ⟨answer, houtcome, -⟩
    exact hother _ houtcome

theorem failsIn_eq_true_iff :
    failsIn identity log rule = true ↔ ∃ e, outcome? identity log rule.query = some (.error e) := by
  unfold failsIn
  split
  · rename_i e houtcome
    simp [houtcome]
  · rename_i hother
    simp only [Bool.false_eq_true, false_iff]
    rintro ⟨e, houtcome⟩
    exact hother e houtcome

theorem decides_eq_true_iff :
    decides identity log rule = true ↔
      (∃ answer, outcome? identity log rule.query = some (.ok (some answer)) ∧
        Mentions answer rule.needle) ∨
      ∃ e, outcome? identity log rule.query = some (.error e) := by
  rw [decides, Bool.or_eq_true, hitsIn_eq_true_iff, failsIn_eq_true_iff]

theorem outcome?_append {outcome : Except Error (Option String)}
    (h : outcome? identity log q = some outcome) (more : Log) :
    outcome? identity (log ++ more) q = some outcome := by
  unfold outcome? at h ⊢
  split at h
  · exact h
  · rw [List.lookup_append, h]
    rfl

theorem outcome?_concat (h : outcome? identity log q = none)
    (outcome : Except Error (Option String)) :
    outcome? identity (log ++ [(q, outcome)]) q = some outcome := by
  unfold outcome? at h ⊢
  split at h
  · simp at h
  · simp [List.lookup_append, h]

theorem outcome?_eq_none_iff :
    outcome? identity log q = none ↔ identity.answer? q = none ∧ log.lookup q = none := by
  unfold outcome?
  split
  · rename_i answer hanswer
    simp [hanswer]
  · rename_i hanswer
    simp [hanswer]

/-- The answers known to the search are those in the log, where nothing has failed so far. -/
def Keeps (known : List (Query × Option String)) (log : Log) : Prop :=
  ∀ q, log.lookup q = (known.lookup q).map .ok

theorem Keeps.concat (h : Keeps known log) (hq : log.lookup q = none) (answer : Option String) :
    Keeps ((q, answer) :: known) (log ++ [(q, .ok answer)]) := by
  intro other
  rw [List.lookup_append, List.lookup_cons, h other]
  by_cases hother : other = q
  · subst hother
    rw [h other] at hq
    simp [Option.map_eq_none_iff.mp hq]
  · have hne : (other == q) = false := by simpa using hother
    simp [List.lookup_cons, hne]

theorem ask_of_outcome (h : Keeps known log) (hq : outcome? identity log q = some (.ok answer))
    (probe : Probe σ) (state : σ) :
    ask identity probe known q state = (.ok (answer, known), state) := by
  unfold outcome? at hq
  unfold ask
  cases hsnapshot : identity.answer? q with
  | some recorded =>
      rw [hsnapshot] at hq
      obtain rfl : some recorded = answer := by simpa using hq
      rfl
  | none =>
      rw [hsnapshot, h q] at hq
      obtain ⟨found, hknown, hsame⟩ := Option.map_eq_some_iff.mp hq
      obtain rfl : found = answer := by simpa using hsame
      simp [hknown]

theorem ask_of_none (h : Keeps known log) (hq : outcome? identity log q = none) (probe : Probe σ)
    (state : σ) :
    ask identity probe known q state =
      ((probe q state).1.map fun answer => (answer, (q, answer) :: known), (probe q state).2) := by
  obtain ⟨hsnapshot, hlog⟩ := outcome?_eq_none_iff.mp hq
  have hknown : known.lookup q = none := by
    rw [h q] at hlog
    exact Option.map_eq_none_iff.mp hlog
  unfold ask
  rw [hsnapshot, hknown]
  cases hprobe : probe q state with
  | mk outcome after =>
      cases outcome with
      | error e => rfl
      | ok answer => rfl

theorem isNone_outcome?_concat (h : outcome? identity log q = none)
    (outcome : Except Error (Option String)) (other : Query) :
    (outcome? identity (log ++ [(q, outcome)]) other).isNone =
      (!(other == q) && (outcome? identity log other).isNone) := by
  by_cases hother : other = q
  · subst hother
    simp [outcome?_concat h]
  · have hne : (other == q) = false := by simpa using hother
    unfold outcome?
    split
    · simp
    · simp [List.lookup_append, List.lookup_cons, hne]

theorem decides_of_answer (h : outcome? identity log rule.query = some (.ok answer)) :
    decides identity log rule = answer.any rule.hits := by
  simp [decides, hitsIn, failsIn, h]

theorem decides_of_failure (h : outcome? identity log rule.query = some (.error e)) :
    decides identity log rule = true := by
  simp [decides, failsIn, h]

theorem verdict_cons_of_hit (h : outcome? identity log rule.query = some (.ok answer))
    (hhit : answer.any rule.hits = true) (rules : List Impersonation) :
    verdict identity log (rule :: rules) = .ok (some rule) := by
  have hdecides : decides identity log rule = true := (decides_of_answer h).trans hhit
  simp [verdict, hdecides, h]

theorem verdict_cons_of_failure (h : outcome? identity log rule.query = some (.error e))
    (rules : List Impersonation) : verdict identity log (rule :: rules) = .error e := by
  simp [verdict, decides_of_failure h, h]

theorem verdict_cons_of_neg (h : decides identity log rule = false) (rules : List Impersonation) :
    verdict identity log (rule :: rules) = verdict identity log rules := by
  simp [verdict, h]

/-- What a search through rules adds to a log, and what it finds. -/
structure Examined (identity : Identity) (before : Log) (rules : List Impersonation)
    (found : Except Error (Option Impersonation)) (more : Log) : Prop where
  asked : more.map (·.1) =
    (((through (decides identity (before ++ more)) rules).map (·.query)).filter fun q =>
      (outcome? identity before q).isNone).eraseDups
  judged : found = verdict identity (before ++ more) rules
  failure : ∀ q e, (q, .error e) ∈ more → found = .error e ∧ more.getLast? = some (q, .error e)

theorem Examined.hit (h : outcome? identity before rule.query = some (.ok answer))
    (hhit : answer.any rule.hits = true) (rules : List Impersonation) :
    Examined identity before (rule :: rules) (.ok (some rule)) [] where
  asked := by
    rw [List.append_nil, through_cons_of_pos ((decides_of_answer h).trans hhit)]
    simp [h]
  judged := by rw [List.append_nil, verdict_cons_of_hit h hhit]
  failure := by simp

theorem Examined.pass (h : outcome? identity before rule.query = some (.ok answer))
    (hpass : answer.any rule.hits = false) (hrest : Examined identity before rules found more) :
    Examined identity before (rule :: rules) found more := by
  have hdecides : decides identity (before ++ more) rule = false :=
    (decides_of_answer (outcome?_append h more)).trans hpass
  refine ⟨?_, ?_, hrest.failure⟩
  · rw [hrest.asked, through_cons_of_neg hdecides, List.map_cons, List.filter_cons_of_neg]
    simp [h]
  · rw [hrest.judged, verdict_cons_of_neg hdecides]

theorem Examined.put_hit (h : outcome? identity before rule.query = none)
    (hhit : answer.any rule.hits = true) (rules : List Impersonation) :
    Examined identity before (rule :: rules) (.ok (some rule)) [(rule.query, .ok answer)] where
  asked := by
    have hput := outcome?_concat h (.ok answer)
    rw [through_cons_of_pos ((decides_of_answer hput).trans hhit)]
    simp [h, List.eraseDups_cons]
  judged := by rw [verdict_cons_of_hit (outcome?_concat h (.ok answer)) hhit]
  failure := by simp

theorem Examined.put_pass (h : outcome? identity before rule.query = none)
    (hpass : answer.any rule.hits = false)
    (hrest : Examined identity (before ++ [(rule.query, .ok answer)]) rules found more) :
    Examined identity before (rule :: rules) found ((rule.query, .ok answer) :: more) := by
  have hlog : before ++ (rule.query, .ok answer) :: more =
      (before ++ [(rule.query, .ok answer)]) ++ more := by simp
  have hput := outcome?_append (outcome?_concat h (.ok answer)) more
  have hdecides := (decides_of_answer hput).trans hpass
  refine ⟨?_, ?_, ?_⟩
  · -- What is put later differs from this query, which leaves nothing to erase but its repetitions.
    rw [hlog, through_cons_of_neg hdecides, List.map_cons, List.map_cons, List.filter_cons_of_pos,
      List.eraseDups_cons, List.filter_filter, hrest.asked]
    · simp only [isNone_outcome?_concat h]
    · simp [h]
  · rw [hlog, verdict_cons_of_neg hdecides]
    exact hrest.judged
  · intro q e hmem
    rcases List.mem_cons.mp hmem with hhead | hmem
    · simp at hhead
    · obtain ⟨hfound, hlast⟩ := hrest.failure q e hmem
      refine ⟨hfound, ?_⟩
      rw [List.getLast?_cons, hlast]
      rfl

theorem Examined.put_failure (h : outcome? identity before rule.query = none) (e : Error)
    (rules : List Impersonation) :
    Examined identity before (rule :: rules) (.error e) [(rule.query, .error e)] where
  asked := by
    have hput := outcome?_concat h (.error e)
    rw [through_cons_of_pos (decides_of_failure hput)]
    simp [h, List.eraseDups_cons]
  judged := by rw [verdict_cons_of_failure (outcome?_concat h (.error e))]
  failure := by
    intro q e' hmem
    obtain ⟨rfl, hsame⟩ := Prod.mk.inj (List.mem_singleton.mp hmem)
    obtain rfl := Except.error.inj hsame
    simp

theorem Keeps.outcome?_cases (h : Keeps known log) (identity : Identity) (q : Query) :
    outcome? identity log q = none ∨ ∃ answer, outcome? identity log q = some (.ok answer) := by
  unfold outcome?
  split
  · exact .inr ⟨_, rfl⟩
  · rw [h q]
    cases known.lookup q with
    | none => exact .inl rfl
    | some answer => exact .inr ⟨answer, rfl⟩

theorem detectFrom_of_outcome (h : Keeps known log)
    (hanswer : outcome? identity log rule.query = some (.ok answer)) (probe : Probe σ)
    (rules : List Impersonation) (state : σ) :
    detectFrom identity probe known (rule :: rules) state =
      if answer.any rule.hits then (.ok (some rule), state)
      else detectFrom identity probe known rules state := by
  rw [detectFrom, ask_of_outcome h hanswer]

theorem detectFrom_of_answer (h : Keeps known log)
    (hopen : outcome? identity log rule.query = none) {after : σ}
    (hprobe : probe rule.query state = (.ok answer, after)) (rules : List Impersonation) :
    detectFrom identity probe known (rule :: rules) state =
      if answer.any rule.hits then (.ok (some rule), after)
      else detectFrom identity probe ((rule.query, answer) :: known) rules after := by
  rw [detectFrom, ask_of_none h hopen, hprobe]
  rfl

theorem detectFrom_of_failure (h : Keeps known log)
    (hopen : outcome? identity log rule.query = none) {after : σ}
    (hprobe : probe rule.query state = (.error e, after)) (rules : List Impersonation) :
    detectFrom identity probe known (rule :: rules) state = (.error e, after) := by
  rw [detectFrom, ask_of_none h hopen, hprobe]
  rfl

theorem logged_eq {after : σ} {outcome : Except Error (Option String)}
    (h : probe q state = (outcome, after)) (log : Log) :
    logged probe q (state, log) = (outcome, after, log ++ [(q, outcome)]) := by
  rw [logged, h]

/-- Writing down what is asked changes nothing, and what is written down is what the rules need. -/
theorem exists_examined (identity : Identity) (probe : Probe σ) (rules : List Impersonation)
    (h : Keeps known before) (state : σ) :
    ∃ more,
      detectFrom identity (logged probe) known rules (state, before) =
        ((detectFrom identity probe known rules state).1,
          (detectFrom identity probe known rules state).2, before ++ more) ∧
      Examined identity before rules (detectFrom identity probe known rules state).1 more := by
  -- The log before the remaining rules grows by what was put for the others.
  induction rules generalizing known before state with
  | nil => exact ⟨[], by simp [detectFrom], ⟨rfl, rfl, by simp⟩⟩
  | cons rule rules ih =>
      rcases h.outcome?_cases identity rule.query with hopen | ⟨answer, hanswer⟩
      · obtain ⟨outcome, after, hprobe⟩ :
            ∃ outcome after, probe rule.query state = (outcome, after) := ⟨_, _, rfl⟩
        have hlogged := logged_eq hprobe before
        cases outcome with
        | error e =>
            rw [detectFrom_of_failure h hopen hprobe, detectFrom_of_failure h hopen hlogged]
            exact ⟨_, rfl, .put_failure hopen e rules⟩
        | ok answer =>
            rw [detectFrom_of_answer h hopen hprobe, detectFrom_of_answer h hopen hlogged]
            cases hhit : answer.any rule.hits with
            | true => exact ⟨_, rfl, .put_hit hopen hhit rules⟩
            | false =>
                have hlog := (outcome?_eq_none_iff.mp hopen).2
                obtain ⟨more, hsame, hrest⟩ := ih (h.concat hlog answer) after
                refine ⟨(rule.query, .ok answer) :: more, ?_, hrest.put_pass hopen hhit⟩
                simpa using hsame
      · rw [detectFrom_of_outcome h hanswer, detectFrom_of_outcome h hanswer]
        cases hhit : answer.any rule.hits with
        | true => exact ⟨[], by simp, .hit hanswer hhit rules⟩
        | false =>
            obtain ⟨more, hsame, hrest⟩ := ih h state
            exact ⟨more, hsame, hrest.pass hanswer hhit⟩

theorem resolveConnection_of_error (h : registry.resolveUnrefined identity = .error e)
    (probe : Probe σ) (state : σ) :
    registry.resolveConnection identity probe state = (.error e, state) := by
  rw [Registry.resolveConnection, h]

theorem resolveConnection_of_ok (h : registry.resolveUnrefined identity = .ok matched)
    (probe : Probe σ) (state : σ) :
    registry.resolveConnection identity probe state =
      ((detect (pendingRules matched) identity probe state).1 >>= registry.refined matched,
        (detect (pendingRules matched) identity probe state).2) := by
  simp only [Registry.resolveConnection, h]
  cases detect (pendingRules matched) identity probe state with
  | mk found after =>
      cases found with
      | error e => rfl
      | ok rule => rfl

/-- What a server is asked when a connection to it is refined. -/
def inquiry (registry : Registry) (identity : Identity) (probe : Probe σ) (state : σ) : Log :=
  (registry.resolveConnection identity (logged probe) (state, [])).2.2

theorem inquiry_of_error (h : registry.resolveUnrefined identity = .error e) (probe : Probe σ)
    (state : σ) : inquiry registry identity probe state = [] := by
  rw [inquiry, resolveConnection_of_error h]

theorem examined_inquiry (h : registry.resolveUnrefined identity = .ok matched) (probe : Probe σ)
    (state : σ) :
    detect (pendingRules matched) identity (logged probe) (state, []) =
        ((detect (pendingRules matched) identity probe state).1,
          (detect (pendingRules matched) identity probe state).2,
          inquiry registry identity probe state) ∧
      Examined identity [] (pendingRules matched)
        (detect (pendingRules matched) identity probe state).1
        (inquiry registry identity probe state) := by
  have hkeeps : Keeps [] [] := fun _ => rfl
  obtain ⟨log, hsame, hexamined⟩ :=
    exists_examined identity probe (pendingRules matched) hkeeps state
  have hlog : inquiry registry identity probe state = log := by
    rw [inquiry, resolveConnection_of_ok h, detect, hsame]
    rfl
  rw [hlog]
  exact ⟨hsame, hexamined⟩

theorem ask_preserves {P : σ → Prop} (h : ∀ q s, P s → P (probe q s).2) (identity : Identity)
    (known : List (Query × Option String)) (q : Query) (hstate : P state) :
    P (ask identity probe known q state).2 := by
  unfold ask
  split
  · exact hstate
  · split
    · exact hstate
    · have hafter := h q state hstate
      split <;> simp_all

theorem detectFrom_preserves {P : σ → Prop} (h : ∀ q s, P s → P (probe q s).2)
    (identity : Identity) (rules : List Impersonation) (known : List (Query × Option String))
    (hstate : P state) : P (detectFrom identity probe known rules state).2 := by
  induction rules generalizing known state with
  | nil => exact hstate
  | cons rule rules ih =>
      have hasked := ask_preserves h identity known rule.query hstate
      unfold detectFrom
      split
      · rename_i hask
        rwa [hask] at hasked
      · rename_i hask
        rw [hask] at hasked
        split
        · exact hasked
        · exact ih _ hasked

/-- A log of what a probe has said. -/
def Told (probe : Probe σ) (log : Log) : Prop :=
  ∀ entry ∈ log, ∃ s, (probe entry.1 s).1 = entry.2

theorem Told.logged (q : Query) (s : σ × Log) (h : Told probe s.2) :
    Told probe (logged probe q s).2.2 := by
  intro entry hentry
  rcases List.mem_append.mp hentry with hentry | hentry
  · exact h entry hentry
  · obtain rfl := List.mem_singleton.mp hentry
    exact ⟨s.1, rfl⟩

theorem told_inquiry (registry : Registry) (identity : Identity) (probe : Probe σ) (state : σ) :
    Told probe (inquiry registry identity probe state) := by
  have hstart : Told probe [] := by simp [Told]
  cases h : registry.resolveUnrefined identity with
  | error e => rwa [inquiry_of_error h]
  | ok matched =>
      rw [inquiry, resolveConnection_of_ok h]
      exact detectFrom_preserves (P := fun s : σ × Log => Told probe s.2) Told.logged identity
        (pendingRules matched) [] hstart

theorem resolveConnection_logged (registry : Registry) (identity : Identity) (probe : Probe σ)
    (state : σ) :
    registry.resolveConnection identity (logged probe) (state, []) =
      ((registry.resolveConnection identity probe state).1,
        (registry.resolveConnection identity probe state).2,
        inquiry registry identity probe state) := by
  cases h : registry.resolveUnrefined identity with
  | error e => simp only [resolveConnection_of_error h, inquiry_of_error h]
  | ok matched =>
      rw [resolveConnection_of_ok h, resolveConnection_of_ok h, (examined_inquiry h probe state).1]

theorem resolveConnection_eq_verdict (h : registry.resolveUnrefined identity = .ok matched)
    (probe : Probe σ) (state : σ) :
    (registry.resolveConnection identity probe state).1 =
      verdict identity (inquiry registry identity probe state) (pendingRules matched) >>=
        registry.refined matched := by
  rw [resolveConnection_of_ok h, (examined_inquiry h probe state).2.judged, List.nil_append]

/-- A log in which the rules are asked for in order, up to the first one that ends the search, and
no query is put that the snapshot answers or that was put before. -/
structure Disciplined (identity : Identity) (rules : List Impersonation) (log : Log) : Prop where
  asked : log.map (·.1) =
    (((through (decides identity log) rules).map (·.query)).filter fun q =>
      (identity.answer? q).isNone).eraseDups
  once : (log.map (·.1)).Nodup
  unanswered : ∀ q ∈ log.map (·.1), identity.answer? q = none
  silent : (∀ rule ∈ rules, (identity.answer? rule.query).isSome) → log = []
  failure : ∀ q e, (q, .error e) ∈ log →
    verdict identity log rules = .error e ∧ log.getLast? = some (q, .error e)

theorem through_subset {α : Type} (p : α → Bool) (l : List α) : through p l ⊆ l :=
  List.take_subset _ _

theorem Examined.disciplined (h : Examined identity [] rules found log) :
    Disciplined identity rules log := by
  have hopen : ∀ q, outcome? identity [] q = none ↔ identity.answer? q = none := by
    intro q
    simp [outcome?_eq_none_iff]
  have hasked : log.map (·.1) =
      (((through (decides identity log) rules).map (·.query)).filter fun q =>
        (identity.answer? q).isNone).eraseDups := by
    rw [h.asked, List.nil_append]
    congr 1
    refine List.filter_congr fun q _ => ?_
    rw [Bool.eq_iff_iff, Option.isNone_iff_eq_none, Option.isNone_iff_eq_none, hopen]
  refine ⟨hasked, ?_, ?_, ?_, ?_⟩
  · rw [hasked]
    exact nodup_eraseDups _
  · intro q hq
    rw [hasked, List.mem_eraseDups, List.mem_filter] at hq
    exact Option.isNone_iff_eq_none.mp hq.2
  · intro hanswered
    rw [← List.map_eq_nil_iff, hasked, List.eq_nil_iff_forall_not_mem]
    intro q hq
    rw [List.mem_eraseDups, List.mem_filter] at hq
    obtain ⟨hq, hnone⟩ := hq
    obtain ⟨rule, hrule, rfl⟩ := List.mem_map.mp hq
    have hsome := hanswered rule (through_subset _ _ hrule)
    rw [Option.isNone_iff_eq_none.mp hnone] at hsome
    simp at hsome
  · intro q e hmem
    obtain ⟨hfound, hlast⟩ := h.failure q e hmem
    rw [h.judged, List.nil_append] at hfound
    exact ⟨hfound, hlast⟩

theorem mem_of_verdict (h : verdict identity log rules = .ok (some rule)) : rule ∈ rules := by
  unfold verdict at h
  split at h
  · simp at h
  · rename_i found hfind
    split at h
    · simp at h
    · obtain rfl : found = rule := by simpa using h
      exact List.mem_of_find?_eq_some hfind

theorem Disciplined.verdict_eq_error_iff (h : Disciplined identity rules log) :
    verdict identity log rules = .error e ↔ ∃ q, (q, .error e) ∈ log := by
  constructor
  · intro hverdict
    unfold verdict at hverdict
    split at hverdict
    · simp at hverdict
    · rename_i rule hfind
      split at hverdict
      · rename_i reason houtcome
        obtain rfl := Except.error.inj hverdict
        unfold outcome? at houtcome
        split at houtcome
        · simp at houtcome
        · obtain ⟨before, after, rfl, -⟩ := List.lookup_eq_some_iff.mp houtcome
          exact ⟨rule.query, by simp⟩
      · simp at hverdict
  · rintro ⟨q, hmem⟩
    exact (h.failure q e hmem).1

theorem Disciplined.exists_rule (h : Disciplined identity rules log)
    {entry : Query × Except Error (Option String)} (hentry : entry ∈ log) :
    ∃ rule ∈ rules, rule.query = entry.1 := by
  have hasked : entry.1 ∈ log.map (·.1) := List.mem_map_of_mem hentry
  rw [h.asked, List.mem_eraseDups] at hasked
  obtain ⟨rule, hrule, hquery⟩ := List.mem_map.mp (List.mem_filter.mp hasked).1
  exact ⟨rule, through_subset _ _ hrule, hquery⟩

theorem exists_layers_of_unrefined {r : Registrations} (hbuild : r.build = .ok registry)
    (h : registry.resolveUnrefined identity = .ok matched) :
    ∃ x ∈ r.definitions, ∃ layers, x.tag = matched.tag ∧
      LayersOf r.definitions x identity.version? layers ∧
      matched.composition.impersonations = layers.reverse.flatMap (·.impersonations) := by
  obtain ⟨recognizer, hfind, hdialect⟩ := resolveUnrefined_eq_ok_iff.mp h
  rw [recognizers_eq hbuild] at hfind
  obtain ⟨x, hx, hxtag⟩ := recognizer_defined hbuild (List.mem_of_find?_eq_some hfind)
  rw [← hxtag] at hdialect
  obtain ⟨layers, composition, hlayers, hcompose, hsame⟩ := exists_dialect hbuild hx identity
  obtain rfl : _ = matched := Option.some.inj (hsame.symm.trans hdialect)
  exact ⟨x, hx, layers, rfl, hlayers, impersonations_eq hcompose⟩

/-- A server is asked nothing unless the product is recognised, and then with discipline; what it
says decides the outcome, and writing it down does not. -/
theorem connection_asks_with_discipline (registry : Registry) (identity : Identity)
    (probe : Probe σ) (state : σ) :
    registry.resolveConnection identity (logged probe) (state, []) =
        ((registry.resolveConnection identity probe state).1,
          (registry.resolveConnection identity probe state).2,
          inquiry registry identity probe state) ∧
    ((∀ recognizer ∈ registry.recognizers, recognizer.accepts identity = false) →
      inquiry registry identity probe state = []) ∧
    (∀ e, registry.resolveUnrefined identity = .error e →
      registry.resolveConnection identity probe state = (.error e, state) ∧
        inquiry registry identity probe state = []) ∧
    (∀ rule, decides identity (inquiry registry identity probe state) rule = true ↔
      (∃ answer,
        outcome? identity (inquiry registry identity probe state) rule.query =
          some (.ok (some answer)) ∧ Mentions answer rule.needle) ∨
      ∃ e, outcome? identity (inquiry registry identity probe state) rule.query =
        some (.error e)) ∧
    ∀ matched, registry.resolveUnrefined identity = .ok matched →
      (∀ r : Registrations, r.build = .ok registry →
        ∃ x ∈ r.definitions, ∃ layers, x.tag = matched.tag ∧
          LayersOf r.definitions x identity.version? layers ∧
          matched.composition.impersonations = layers.reverse.flatMap (·.impersonations)) ∧
      ∃ pending,
        pending = matched.composition.impersonations.filter
          (fun rule => rule.detected != matched.tag) ∧
        Disciplined identity pending (inquiry registry identity probe state) ∧
        (registry.resolveConnection identity probe state).1 =
          verdict identity (inquiry registry identity probe state) pending >>=
            registry.refined matched := by
  refine ⟨resolveConnection_logged registry identity probe state, ?_, ?_, ?_, ?_⟩
  · intro hrejected
    have hfind : registry.recognizers.find? (·.accepts identity) = none := by
      simpa [List.find?_eq_none] using hrejected
    refine inquiry_of_error (e := .unsupported identity.productName identity.productVersion) ?_ _ _
    rw [Registry.resolveUnrefined, hfind]
  · intro e h
    exact ⟨resolveConnection_of_error h probe state, inquiry_of_error h probe state⟩
  · intro rule
    exact decides_eq_true_iff
  · intro matched h
    refine ⟨fun r hbuild => exists_layers_of_unrefined hbuild h, pendingRules matched, rfl, ?_, ?_⟩
    · exact (examined_inquiry h probe state).2.disciplined
    · exact resolveConnection_eq_verdict h probe state

/-- A server that knows no answer to the first question and breaks down at the second one. -/
def breaksDown : Probe Nat :=
  fun _ calls => (if calls = 0 then .ok none else .error (.connection "gone"), calls + 1)

/-- A server whose every answer comes close to naming MariaDB. -/
def nearlyMariadb : Probe Nat :=
  fun _ calls => (.ok (some "8.0.36-Maria-DB"), calls + 1)

theorem connection_breaksDown :
    ∃ registry matched, Builtin.registrations.build = .ok registry ∧
      registry.resolveUnrefined (.ofProduct "MySQL" "8.0") = .ok matched ∧
      matched.tag = "mysql" ∧
      (inquiry registry (.ofProduct "MySQL" "8.0") breaksDown 0).map (·.1) =
        [.serverVariable "version", .serverVariable "version_comment"] ∧
      (registry.resolveConnection (.ofProduct "MySQL" "8.0") breaksDown 0).1 =
        .error (.connection "gone") ∧
      (inquiry registry (.ofProduct "MySQL" "8.0") nearlyMariadb 0).map (·.1) =
        [.serverVariable "version", .serverVariable "version_comment"] ∧
      ¬ Mentions "8.0.36-Maria-DB" "MariaDB" ∧
      (registry.resolveConnection (.ofProduct "MySQL" "8.0") nearlyMariadb 0).1 = .ok matched := by
  obtain ⟨registry, hbuild⟩ := BuiltinRegistry.exists_registry
  have hfind : (Builtin.registrations.recognizers.find?
      (·.accepts (.ofProduct "MySQL" "8.0"))).map (·.tag) = some "mysql" := by
    decide +kernel
  obtain ⟨matched, hmatched, -, htag, hrules⟩ := BuiltinRules.exists_mysql hbuild hfind
  have hbroken : inquiry registry (.ofProduct "MySQL" "8.0") breaksDown 0 =
      [(.serverVariable "version", .ok none),
        (.serverVariable "version_comment", .error (.connection "gone"))] := by
    rw [inquiry, resolveConnection_of_ok hmatched, hrules]
    rfl
  have hnearly : inquiry registry (.ofProduct "MySQL" "8.0") nearlyMariadb 0 =
      [(.serverVariable "version", .ok (some "8.0.36-Maria-DB")),
        (.serverVariable "version_comment", .ok (some "8.0.36-Maria-DB"))] := by
    rw [inquiry, resolveConnection_of_ok hmatched, hrules]
    rfl
  obtain ⟨-, pending, -, hdisciplined, hresult⟩ :=
    (connection_asks_with_discipline registry (.ofProduct "MySQL" "8.0") breaksDown 0).2.2.2.2
      matched hmatched
  have hfailure := (hdisciplined.failure (.serverVariable "version_comment")
    (.connection "gone") (by simp [hbroken])).1
  obtain ⟨-, others, hothers, -, hkept⟩ :=
    (connection_asks_with_discipline registry (.ofProduct "MySQL" "8.0") nearlyMariadb 0).2.2.2.2
      matched hmatched
  obtain rfl : others = pendingRules matched := hothers
  have hmiss : verdict (.ofProduct "MySQL" "8.0") (inquiry registry (.ofProduct "MySQL" "8.0")
      nearlyMariadb 0) (pendingRules matched) = .ok none := by
    rw [hnearly, hrules]
    rfl
  refine ⟨registry, matched, hbuild, hmatched, htag, by rw [hbroken]; rfl, ?_,
    by rw [hnearly]; rfl, by unfold Mentions; decide +kernel, ?_⟩
  · rw [hresult, hfailure]
    rfl
  · rw [hkept, hmiss]
    rfl

end SqlDialects.Proofs.ProbeDiscipline
