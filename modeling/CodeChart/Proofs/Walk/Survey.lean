import CodeChart.Proofs.Walk.Plan

/-!
# What a survey finds

`Span.upFrom` counts points upward in signed words.  As long as the words do not run out it meets
every point of an interval once and in ascending order (`Span.mem_upFrom`,
`Span.pairwise_lt_upFrom`), and the points of a span never run out of words, also where the span
stops at the greatest one (`Span.toInt_start_add_size`).

A survey finds the lines of the points counted up to the first refusal.  `survey_of_refusesFirst`
and `survey_of_covers` say this without counting: the lines are those of the points below the least
refused one, or of all points of the span.
-/

namespace CodeChart

namespace Span

/-- As many points as a number says, from a point on. -/
def upFrom : (start : Int64) → (count : Nat) → List Int64
  | _, 0 => []
  | start, count + 1 => start :: upFrom (start + 1) count

@[simp] theorem length_upFrom (start : Int64) (count : Nat) :
    (upFrom start count).length = count := by
  induction count generalizing start with
  | zero => rfl
  | succ count ih => rw [upFrom, List.length_cons, ih]

/-- Behind a point that is not the greatest there is a next one. -/
theorem toInt_add_one {point : Int64} (below : point.toInt + 1 < 0x8000000000000000) :
    (point + 1).toInt = point.toInt + 1 := by
  have least := point.le_toInt
  rw [Int64.toInt_add, Int64.toInt_one]
  exact Int.bmod_eq_of_le (by omega) (by omega)

/-- Counting meets the points of an interval. -/
theorem mem_upFrom {start : Int64} {count : Nat}
    (fits : start.toInt + count ≤ 0x8000000000000000) {point : Int64} :
    point ∈ upFrom start count ↔ start ≤ point ∧ point.toInt < start.toInt + count := by
  rw [Int64.le_iff_toInt_le]
  induction count generalizing start with
  | zero =>
    simp only [upFrom, List.not_mem_nil, false_iff]
    omega
  | succ count ih =>
    rw [upFrom, List.mem_cons, ← Int64.toInt_inj]
    -- behind the last point there may be no next one
    rcases Nat.eq_zero_or_pos count with rfl | more
    · simp only [upFrom, List.not_mem_nil, or_false]
      omega
    · have next : (start + 1).toInt = start.toInt + 1 := toInt_add_one (by omega)
      rw [ih (by omega), next]
      omega

/-- Counting goes upward. -/
theorem pairwise_lt_upFrom {start : Int64} {count : Nat}
    (fits : start.toInt + count ≤ 0x8000000000000000) :
    (upFrom start count).Pairwise (· < ·) := by
  induction count generalizing start with
  | zero => exact List.Pairwise.nil
  | succ count ih =>
    rcases Nat.eq_zero_or_pos count with rfl | more
    · exact List.pairwise_singleton _ _
    · have next : (start + 1).toInt = start.toInt + 1 := toInt_add_one (by omega)
      have fits' : (start + 1).toInt + count ≤ 0x8000000000000000 := by omega
      refine List.Pairwise.cons (fun point mem => ?_) (ih fits')
      have above := (mem_upFrom fits').1 mem
      rw [Int64.le_iff_toInt_le] at above
      rw [Int64.lt_iff_toInt_lt]
      omega

/-- The points of a span do not run out of words. -/
theorem toInt_start_add_size (span : Span) : span.start.toInt + span.size ≤ 0x8000000000000000 := by
  have start := span.start.toInt_lt
  have stop := span.stop.toInt_lt
  rw [size]
  omega

/-- The points of a span are those from its start to its stop. -/
theorem mem_upFrom_size {span : Span} {point : Int64} :
    point ∈ upFrom span.start span.size ↔ span.start ≤ point ∧ point ≤ span.stop := by
  rw [mem_upFrom span.toInt_start_add_size, size, Int64.le_iff_toInt_le, Int64.le_iff_toInt_le]
  omega

/-- Counting goes on by one from each point to the next. -/
theorem toInt_of_getElem?_upFrom {start : Int64} {count : Nat}
    (fits : start.toInt + count ≤ 0x8000000000000000) {i : Nat} {point : Int64}
    (found : (upFrom start count)[i]? = some point) : point.toInt = start.toInt + i := by
  induction count generalizing start i with
  | zero => exact absurd found (by simp [upFrom])
  | succ count ih =>
    cases i with
    | zero =>
      obtain rfl : start = point := Option.some.inj found
      simp
    | succ i =>
      have later : (upFrom (start + 1) count)[i]? = some point := found
      -- there is a point behind the first one, so the words do not run out at it
      have inside : i < count := by
        rw [← length_upFrom (start + 1) count]
        exact (List.getElem?_eq_some_iff.1 later).1
      have next : (start + 1).toInt = start.toInt + 1 := toInt_add_one (by omega)
      have behind := ih (by omega) later
      omega

end Span

namespace Catalogue

/-- Every point of the span has a line. -/
def Covers (catalogue : Catalogue) (span : Span) : Prop :=
  ∀ asked, span.start ≤ asked → asked ≤ span.stop → ∃ line, catalogue asked = .ok line

/-- The point is the least one of the span that is refused. -/
structure RefusesFirst (catalogue : Catalogue) (span : Span) (point : Int64) (absent : NoEntry) :
    Prop where
  /-- It is not before the start. -/
  start_le : span.start ≤ point
  /-- It is not behind the stop. -/
  le_stop : point ≤ span.stop
  /-- It is refused. -/
  refused : catalogue point = .error absent
  /-- The points of the span below it have lines. -/
  least : ∀ asked, span.start ≤ asked → asked < point → ∃ line, catalogue asked = .ok line

/-- There is one least refused point. -/
theorem RefusesFirst.unique {catalogue : Catalogue} {span : Span} {point other : Int64}
    {absent absent' : NoEntry} (first : catalogue.RefusesFirst span point absent)
    (first' : catalogue.RefusesFirst span other absent') : point = other ∧ absent = absent' := by
  have not_below {p q : Int64} {a b : NoEntry} (hp : catalogue.RefusesFirst span p a)
      (hq : catalogue.RefusesFirst span q b) : ¬ p < q := by
    intro below
    obtain ⟨line, found⟩ := hq.least p hp.start_le below
    rw [hp.refused] at found
    exact absurd found (by simp)
  obtain rfl : point = other :=
    Int64.le_antisymm (Int64.not_lt.1 (not_below first' first))
      (Int64.not_lt.1 (not_below first first'))
  exact ⟨rfl, Except.error.inj (first.refused.symm.trans first'.refused)⟩

/-- The lines of the points in a set, in ascending order of the points and each once. -/
structure Lists (catalogue : Catalogue) (within : Int64 → Prop)
    (lines : List (Int64 × Line)) : Prop where
  /-- No line comes twice or too early. -/
  ascending : lines.Pairwise fun entry later => entry.1 < later.1
  /-- Exactly the points of the set that have a line are listed, each with its own. -/
  mem_iff : ∀ point line, (point, line) ∈ lines ↔ within point ∧ catalogue point = .ok line

/-- A set may be described in another way. -/
theorem Lists.congr {catalogue : Catalogue} {within other : Int64 → Prop}
    {lines : List (Int64 × Line)} (lists : catalogue.Lists within lines)
    (same : ∀ point, within point ↔ other point) : catalogue.Lists other lines where
  ascending := lists.ascending
  mem_iff point line := by rw [lists.mem_iff, same]

/-- The catalogues refuse the same points and show the same texts, which they may cut into different
pieces. -/
def SameTexts (catalogue other : Catalogue) : Prop :=
  ∀ point, (catalogue point).map Line.text = (other point).map Line.text

end Catalogue

namespace Walk

variable {catalogue : Catalogue}

/-! ## Counting up to the first refusal -/

/-- Each line is the one that the catalogue has for its point. -/
theorem resolved_of_mem_survey {left : Nat} {point : Int64} {entry : Int64 × Line}
    (mem : entry ∈ (survey catalogue left point).lines) : catalogue entry.1 = .ok entry.2 := by
  induction left generalizing point with
  | zero => exact absurd mem (List.not_mem_nil)
  | succ left ih =>
    cases found : catalogue point with
    | error absent =>
      rw [survey_of_error found] at mem
      exact absurd mem (List.not_mem_nil)
    | ok line =>
      rw [survey_of_ok found, List.mem_cons] at mem
      rcases mem with rfl | later
      · exact found
      · exact ih later

/-- Without a refusal every point asked for has a line. -/
theorem map_fst_lines_of_absent?_eq_none {left : Nat} {point : Int64}
    (accepted : (survey catalogue left point).absent? = none) :
    (survey catalogue left point).lines.map Prod.fst = Span.upFrom point left := by
  induction left generalizing point with
  | zero => rfl
  | succ left ih =>
    cases found : catalogue point with
    | error absent =>
      rw [survey_of_error found] at accepted
      exact absurd accepted (by simp)
    | ok line =>
      rw [survey_of_ok found] at accepted ⊢
      rw [List.map_cons, ih accepted, Span.upFrom]

/-- A refusal is that of the first point behind the lines. -/
theorem refused_of_absent?_eq_some {left : Nat} {point : Int64} {absent : NoEntry}
    (stopped : (survey catalogue left point).absent? = some absent) :
    ∃ refused later, catalogue refused = .error absent ∧
      Span.upFrom point left =
        (survey catalogue left point).lines.map Prod.fst ++ refused :: later := by
  induction left generalizing point with
  | zero => exact absurd stopped (by simp [survey])
  | succ left ih =>
    cases found : catalogue point with
    | error other =>
      rw [survey_of_error found] at stopped ⊢
      obtain rfl : other = absent := Option.some.inj stopped
      exact ⟨point, Span.upFrom (point + 1) left, found, rfl⟩
    | ok line =>
      rw [survey_of_ok found] at stopped ⊢
      obtain ⟨refused, later, eq, points⟩ := ih stopped
      exact ⟨refused, later, eq, by rw [Span.upFrom, points, List.map_cons, List.cons_append]⟩

/-- The lines are those of the first points asked for. -/
theorem map_fst_lines_starts (catalogue : Catalogue) (left : Nat) (point : Int64) :
    (survey catalogue left point).lines.map Prod.fst <+: Span.upFrom point left := by
  cases outcome : (survey catalogue left point).absent? with
  | none => exact ⟨[], by rw [List.append_nil, map_fst_lines_of_absent?_eq_none outcome]⟩
  | some absent =>
    obtain ⟨refused, later, -, points⟩ := refused_of_absent?_eq_some outcome
    exact ⟨refused :: later, points.symm⟩

/-- A survey asks for no point but those counted. -/
theorem survey_congr {other : Catalogue} {left : Nat} {point : Int64}
    (agree : ∀ asked ∈ Span.upFrom point left, other asked = catalogue asked) :
    survey other left point = survey catalogue left point := by
  induction left generalizing point with
  | zero => rfl
  | succ left ih =>
    rw [Span.upFrom, List.forall_mem_cons] at agree
    rw [survey, survey, agree.1, ih agree.2]

/-- How lines are cut into pieces has no part in what they print and in how a walk ends. -/
theorem survey_of_sameTexts {other : Catalogue} (same : catalogue.SameTexts other) (left : Nat)
    (point : Int64) :
    (survey catalogue left point).absent? = (survey other left point).absent? ∧
      (survey catalogue left point).lines.map (fun entry => entry.2.text) =
        (survey other left point).lines.map (fun entry => entry.2.text) := by
  induction left generalizing point with
  | zero => exact ⟨rfl, rfl⟩
  | succ left ih =>
    have here := same point
    cases found : catalogue point with
    | error absent =>
      cases found' : other point with
      | error absent' =>
        rw [found, found'] at here
        rw [survey_of_error found, survey_of_error found', Except.error.inj here]
        exact ⟨rfl, rfl⟩
      | ok line =>
        rw [found, found'] at here
        exact absurd here (by simp [Except.map])
    | ok line =>
      cases found' : other point with
      | error absent =>
        rw [found, found'] at here
        exact absurd here (by simp [Except.map])
      | ok line' =>
        rw [found, found'] at here
        have text : line.text = line'.text := Except.ok.inj here
        obtain ⟨absent, lines⟩ := ih (point + 1)
        rw [survey_of_ok found, survey_of_ok found', List.map_cons, List.map_cons, absent, lines,
          text]
        exact ⟨rfl, rfl⟩

/-! ## The same without counting -/

/-- The lines of a survey are listed in order, each once. -/
theorem lists_survey {left : Nat} {point : Int64} (fits : point.toInt + left ≤ 0x8000000000000000) :
    catalogue.Lists (· ∈ (survey catalogue left point).lines.map Prod.fst)
      (survey catalogue left point).lines where
  ascending := by
    have ascending := (Span.pairwise_lt_upFrom fits).sublist
      (map_fst_lines_starts catalogue left point).sublist
    exact List.pairwise_map.1 ascending
  mem_iff asked line := by
    constructor
    · intro mem
      exact ⟨List.mem_map_of_mem mem, resolved_of_mem_survey mem⟩
    · rintro ⟨mem, found⟩
      obtain ⟨⟨_, other⟩, listed, rfl⟩ := List.mem_map.1 mem
      have own : catalogue _ = .ok other := resolved_of_mem_survey listed
      rw [found] at own
      exact Except.ok.inj own ▸ listed

variable {span : Span}

/-- A refusal in the survey of a span is that of its least refused point. -/
theorem refusesFirst_of_absent?_eq_some {absent : NoEntry}
    (stopped : (survey catalogue span.size span.start).absent? = some absent) :
    ∃ point, catalogue.RefusesFirst span point absent ∧
      catalogue.Lists (fun asked => span.start ≤ asked ∧ asked < point)
        (survey catalogue span.size span.start).lines := by
  obtain ⟨point, later, refused, points⟩ := refused_of_absent?_eq_some stopped
  have ascending := Span.pairwise_lt_upFrom span.toInt_start_add_size
  rw [points, List.pairwise_append, List.pairwise_cons] at ascending
  obtain ⟨-, ⟨above, -⟩, below⟩ := ascending
  have inside : ∀ asked, asked ∈ (survey catalogue span.size span.start).lines.map Prod.fst ++
      point :: later → span.start ≤ asked ∧ asked ≤ span.stop := by
    intro asked mem
    rw [← points] at mem
    exact Span.mem_upFrom_size.1 mem
  obtain ⟨start_le, le_stop⟩ := inside point (by simp)
  -- the points below the refused one are those listed, since the list of all points ascends
  have listed_iff : ∀ asked, asked ∈ (survey catalogue span.size span.start).lines.map Prod.fst ↔
      span.start ≤ asked ∧ asked < point := by
    intro asked
    constructor
    · intro mem
      exact ⟨(inside asked (List.mem_append_left _ mem)).1, below asked mem point (by simp)⟩
    · rintro ⟨from_start, before⟩
      have counted : asked ∈ Span.upFrom span.start span.size :=
        Span.mem_upFrom_size.2 ⟨from_start, Int64.le_trans (Int64.le_of_lt before) le_stop⟩
      rw [points, List.mem_append, List.mem_cons] at counted
      rcases counted with listed | rfl | behind
      · exact listed
      · exact absurd before Int64.lt_irrefl
      · exact absurd (Int64.lt_trans before (above asked behind)) Int64.lt_irrefl
  have lists := (lists_survey span.toInt_start_add_size : catalogue.Lists _ _).congr listed_iff
  refine ⟨point, ⟨start_le, le_stop, refused, fun asked from_start before => ?_⟩, lists⟩
  obtain ⟨⟨_, line⟩, listed, rfl⟩ := List.mem_map.1 ((listed_iff asked).2 ⟨from_start, before⟩)
  exact ⟨line, resolved_of_mem_survey listed⟩

/-- Without a refusal the survey covers the span. -/
theorem covers_of_absent?_eq_none
    (accepted : (survey catalogue span.size span.start).absent? = none) :
    catalogue.Covers span ∧ (survey catalogue span.size span.start).lines.length = span.size ∧
      catalogue.Lists (fun asked => span.start ≤ asked ∧ asked ≤ span.stop)
        (survey catalogue span.size span.start).lines := by
  have points := map_fst_lines_of_absent?_eq_none accepted
  have listed_iff : ∀ asked, asked ∈ (survey catalogue span.size span.start).lines.map Prod.fst ↔
      span.start ≤ asked ∧ asked ≤ span.stop := by
    intro asked
    rw [points, Span.mem_upFrom_size]
  have lists := (lists_survey span.toInt_start_add_size : catalogue.Lists _ _).congr listed_iff
  refine ⟨fun asked from_start to_stop => ?_, ?_, lists⟩
  · obtain ⟨⟨_, line⟩, listed, rfl⟩ := List.mem_map.1 ((listed_iff asked).2 ⟨from_start, to_stop⟩)
    exact ⟨line, resolved_of_mem_survey listed⟩
  · rw [← List.length_map Prod.fst, points, Span.length_upFrom]

/-- If some point of a span is refused, the survey stops at the least such point. -/
theorem survey_of_refusesFirst {point : Int64} {absent : NoEntry}
    (first : catalogue.RefusesFirst span point absent) :
    (survey catalogue span.size span.start).absent? = some absent ∧
      catalogue.Lists (fun asked => span.start ≤ asked ∧ asked < point)
        (survey catalogue span.size span.start).lines := by
  cases outcome : (survey catalogue span.size span.start).absent? with
  | some other =>
    obtain ⟨found, first', lists⟩ := refusesFirst_of_absent?_eq_some outcome
    obtain ⟨rfl, rfl⟩ := first.unique first'
    exact ⟨rfl, lists⟩
  | none =>
    obtain ⟨line, found⟩ :=
      (covers_of_absent?_eq_none outcome).1 point first.start_le first.le_stop
    rw [first.refused] at found
    exact absurd found (by simp)

/-- If no point of a span is refused, the survey covers the span. -/
theorem survey_of_covers (covers : catalogue.Covers span) :
    (survey catalogue span.size span.start).absent? = none ∧
      (survey catalogue span.size span.start).lines.length = span.size ∧
      catalogue.Lists (fun asked => span.start ≤ asked ∧ asked ≤ span.stop)
        (survey catalogue span.size span.start).lines := by
  cases outcome : (survey catalogue span.size span.start).absent? with
  | none => exact ⟨rfl, (covers_of_absent?_eq_none outcome).2⟩
  | some absent =>
    obtain ⟨point, first, -⟩ := refusesFirst_of_absent?_eq_some outcome
    obtain ⟨line, found⟩ := covers point first.start_le first.le_stop
    rw [first.refused] at found
    exact absurd found (by simp)

/-! ## Places of lines -/

/-- The lines are those of consecutive points, from the start of the span on. -/
theorem toInt_of_getElem?_lines {i : Nat} {entry : Int64 × Line}
    (found : (survey catalogue span.size span.start).lines[i]? = some entry) :
    entry.1.toInt = span.start.toInt + i := by
  obtain ⟨later, points⟩ := map_fst_lines_starts catalogue span.size span.start
  refine Span.toInt_of_getElem?_upFrom span.toInt_start_add_size (i := i) ?_
  rw [← points, List.getElem?_append_left, List.getElem?_map, found, Option.map_some]
  rw [List.length_map]
  exact (List.getElem?_eq_some_iff.1 found).1

/-- The points below the least refused one have a line each. -/
theorem length_lines_of_refusesFirst {point : Int64} {absent : NoEntry}
    (first : catalogue.RefusesFirst span point absent) :
    ((survey catalogue span.size span.start).lines.length : Int) =
      point.toInt - span.start.toInt := by
  obtain ⟨refused, later, found, points⟩ :=
    refused_of_absent?_eq_some (survey_of_refusesFirst first).1
  have behind : refused.toInt =
      span.start.toInt + (survey catalogue span.size span.start).lines.length := by
    refine Span.toInt_of_getElem?_upFrom span.toInt_start_add_size ?_
    rw [points, List.getElem?_append_right (by simp), List.length_map, Nat.sub_self]
    rfl
  have start_le := Int64.le_iff_toInt_le.1 first.start_le
  -- the point behind the lines is neither before nor behind the least refused one
  have not_before : ¬ refused.toInt < point.toInt := by
    intro before
    obtain ⟨line, resolved⟩ := first.least refused
      (Int64.le_iff_toInt_le.2 (by omega)) (Int64.lt_iff_toInt_lt.2 before)
    rw [found] at resolved
    exact nomatch resolved
  have not_behind : ¬ point.toInt < refused.toInt := by
    intro before
    have inside : (point.toInt - span.start.toInt).toNat <
        (survey catalogue span.size span.start).lines.length := by omega
    obtain ⟨entry, at_point⟩ : ∃ entry, _ = some entry := ⟨_, List.getElem?_eq_getElem inside⟩
    have place := toInt_of_getElem?_lines at_point
    have same : entry.1 = point := Int64.toInt_inj.1 (by omega)
    have resolved := resolved_of_mem_survey (List.mem_of_getElem? at_point)
    rw [same, first.refused] at resolved
    exact nomatch resolved
  omega

end Walk

end CodeChart
