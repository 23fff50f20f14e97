import CodeChart.Walk

/-!
# What a walk sets out to do

A walk never asks its sink anything, so what it sets out to do follows from the catalogue alone.
`survey` collects the lines of the points up to the first refusal of the catalogue, and
`Survey.actions` spells out the records and pieces that these lines stand for, in order.
`chart_eq_perform` says that a walk performs these actions and then ends as the survey says, on
every sink.  What a kind of sink makes of a walk is then a question about a list of actions.
-/

namespace CodeChart

namespace Work

variable {σ α β : Type}

/-- What comes next goes on where a computation has ended. -/
theorem bind_of_ok {work : Work σ α} {session after : Session σ} {value : α}
    (ended : work session = .ok value after) (next : α → Work σ β) :
    (work >>= next) session = next value after := by
  show EStateM.bind work next session = next value after
  rw [EStateM.bind, ended]

/-- Nothing comes behind a fault. -/
theorem bind_of_error {work : Work σ α} {session after : Session σ} {fault : Fault}
    (ended : work session = .error fault after) (next : α → Work σ β) :
    (work >>= next) session = .error fault after := by
  show EStateM.bind work next session = .error fault after
  rw [EStateM.bind, ended]

/-- A fault comes from the first computation, or the first one ended and what comes next has it. -/
theorem fault_of_bind_eq_error {work : Work σ α} {next : α → Work σ β} {session after : Session σ}
    {fault : Fault} (ended : (work >>= next) session = .error fault after) :
    work session = .error fault after ∨
      ∃ value between, work session = .ok value between ∧
        next value between = .error fault after := by
  cases first : work session with
  | ok value between =>
    rw [bind_of_ok first] at ended
    exact .inr ⟨value, between, rfl, ended⟩
  | error other between =>
    rw [bind_of_error first] at ended
    obtain ⟨rfl, rfl⟩ := EStateM.Result.error.inj ended
    exact .inl rfl

/-- Different results, or different sessions, are different endings. -/
theorem ofExcept_inj {result other : Except Fault α} {session after : Session σ}
    (same : ofExcept result session = ofExcept other after) : result = other ∧ session = after := by
  cases result with
  | ok value =>
    cases other with
    | ok value' =>
      obtain ⟨rfl, rfl⟩ := EStateM.Result.ok.inj same
      exact ⟨rfl, rfl⟩
    | error fault' => exact nomatch same
  | error fault =>
    cases other with
    | ok value' => exact nomatch same
    | error fault' =>
      obtain ⟨rfl, rfl⟩ := EStateM.Result.error.inj same
      exact ⟨rfl, rfl⟩

/-- One thing that a computation does to a session. -/
inductive Action where
  /-- It makes a record. -/
  | note (record : Record)
  /-- It writes a piece. -/
  | put (piece : String)

namespace Action

/-- Does it. -/
def perform [Sink σ] : Action → Work σ Unit
  | note record => Work.note record
  | put piece => Work.put piece

/-- The text that the actions write. -/
def text : List Action → String
  | [] => ""
  | note _ :: rest => text rest
  | put piece :: rest => piece ++ text rest

/-- The records that the actions make. -/
def records : List Action → List Record
  | [] => []
  | note record :: rest => record :: records rest
  | put _ :: rest => records rest

@[simp] theorem text_append (actions more : List Action) :
    text (actions ++ more) = text actions ++ text more := by
  induction actions with
  | nil => simp [text]
  | cons action rest ih => cases action <;> simp [text, ih, String.append_assoc]

@[simp] theorem text_map_put (pieces : List String) :
    text (pieces.map put) = String.join pieces := by
  induction pieces with
  | nil => rfl
  | cons piece rest ih => simp [text, ih]

/-- The bytes of a piece come before those of what is written behind it. -/
theorem toUTF8_text_put_cons (piece : String) (rest : List Action) :
    (text (put piece :: rest)).toUTF8 = piece.toUTF8 ++ (text rest).toUTF8 := by
  simp only [text, String.toUTF8_eq_toByteArray, String.toByteArray_append]

/-- A point with its line: the line is recorded, then written piece by piece, then ended. -/
def ofLine (entry : Int64 × Line) : List Action :=
  note (.resolved entry.1 entry.2) :: (entry.2.pieces ++ ["\n"]).map put

@[simp] theorem text_ofLine (entry : Int64 × Line) :
    text (ofLine entry) = entry.2.text ++ "\n" := by
  rw [ofLine, text, text_map_put, String.join_append, Line.text]
  simp

end Action

/-- Does one thing after the other. -/
def perform [Sink σ] (actions : List Action) : Work σ Unit :=
  actions.forM Action.perform

@[simp] theorem perform_nil [Sink σ] : (perform [] : Work σ Unit) = pure () := rfl

@[simp] theorem perform_cons [Sink σ] (action : Action) (rest : List Action) :
    (perform (action :: rest) : Work σ Unit) = action.perform >>= fun _ => perform rest := rfl

/-- A record is made whatever the sink is. -/
theorem perform_note_cons [Sink σ] (record : Record) (rest : List Action) (sink : σ)
    (journal : Journal) :
    perform (.note record :: rest) ⟨sink, journal⟩ =
      perform rest ⟨sink, journal.note record⟩ := rfl

theorem perform_put_cons [Sink σ] (piece : String) (rest : List Action) :
    (perform (.put piece :: rest) : Work σ Unit) = put piece >>= fun _ => perform rest := rfl

theorem perform_append [Sink σ] (actions more : List Action) :
    (perform (actions ++ more) : Work σ Unit) = perform actions >>= fun _ => perform more := by
  simp only [perform, List.forM_eq_forM, List.forM_append]

/-- Of actions nothing but a refusal of the sink can be the fault. -/
theorem fault_of_perform_eq_error [Sink σ] {actions : List Action} {session after : Session σ}
    {fault : Fault} (ended : perform actions session = .error fault after) :
    ∃ refusal, fault = .unwritten refusal := by
  induction actions generalizing session with
  | nil => exact nomatch ended
  | cons action rest ih =>
    cases action with
    | note record => exact ih ended
    | put piece =>
      rcases fault_of_bind_eq_error ended with first | ⟨_, between, -, later⟩
      · obtain ⟨sink, journal⟩ := session
        cases taken : Sink.write piece.toUTF8 sink with
        | ok _ _ => exact nomatch (put_of_ok journal taken).symm.trans first
        | error refusal _ =>
          have refused := (put_of_error journal taken).symm.trans first
          exact ⟨refusal, (EStateM.Result.error.inj refused).1.symm⟩
      · exact ih later

/-- Writing a line is writing its pieces and its end. -/
theorem putLine_eq_perform [Sink σ] (line : Line) :
    (putLine line : Work σ Unit) = perform ((line.pieces ++ ["\n"]).map .put) := by
  rw [perform, putLine, List.forM_eq_forM, List.forM_eq_forM, List.forM_map, List.forM_append]
  simp only [List.forM_cons, List.forM_nil, Action.perform]
  rw [bind_pure_unit]

/-- Recording and writing a line is performing its actions. -/
theorem note_putLine_eq_perform [Sink σ] (point : Int64) (line : Line) :
    (do note (.resolved point line); putLine line : Work σ Unit) =
      perform (Action.ofLine (point, line)) := by
  rw [putLine_eq_perform, Action.ofLine, perform_cons]
  rfl

end Work

namespace Walk

open Work

/-! ## What the catalogue has for a walk -/

/-- Lines as one text, each with its end. -/
def printed (lines : List (Int64 × Line)) : String :=
  String.join (lines.map fun entry => entry.2.text ++ "\n")

/-- Texts as lines, each with its end. -/
def ended (texts : List String) : String :=
  String.join (texts.map (· ++ "\n"))

/-- Of lines nothing is printed but their texts. -/
theorem printed_eq_ended (lines : List (Int64 × Line)) :
    printed lines = ended (lines.map (·.2.text)) := by
  rw [printed, ended, List.map_map]
  rfl

theorem toUTF8_join_cons (text : String) (rest : List String) :
    (String.join (text :: rest)).toUTF8 = text.toUTF8 ++ (String.join rest).toUTF8 := by
  rw [String.join_cons]
  exact String.toByteArray_append

theorem toUTF8_printed_cons (entry : Int64 × Line) (rest : List (Int64 × Line)) :
    (printed (entry :: rest)).toUTF8 =
      (entry.2.text ++ "\n").toUTF8 ++ (printed rest).toUTF8 :=
  toUTF8_join_cons _ _

/-- What the catalogue has for the points of a walk. -/
structure Survey where
  /-- The points before the first refusal, with their lines. -/
  lines : List (Int64 × Line)
  /-- The first refusal, if there is one. -/
  absent? : Option NoEntry

/-- Asks the catalogue for as many points as are left, from a point on, up to the first refusal. -/
def survey (catalogue : Catalogue) : (left : Nat) → (point : Int64) → Survey
  | 0, _ => ⟨[], none⟩
  | left + 1, point =>
    match catalogue point with
    | .error absent => ⟨[], some absent⟩
    | .ok line =>
      let rest := survey catalogue left (point + 1)
      ⟨(point, line) :: rest.lines, rest.absent?⟩

theorem survey_of_error {catalogue : Catalogue} {point : Int64} {absent : NoEntry}
    (refused : catalogue point = .error absent) (left : Nat) :
    survey catalogue (left + 1) point = ⟨[], some absent⟩ := by
  simp only [survey, refused]

theorem survey_of_ok {catalogue : Catalogue} {point : Int64} {line : Line}
    (resolved : catalogue point = .ok line) (left : Nat) :
    survey catalogue (left + 1) point =
      ⟨(point, line) :: (survey catalogue left (point + 1)).lines,
        (survey catalogue left (point + 1)).absent?⟩ := by
  simp only [survey, resolved]

namespace Survey

/-- How a walk ends if the sink takes everything, with the number of lines written before it. -/
def ending (survey : Survey) (written : UInt64) : Except Fault UInt64 :=
  match survey.absent? with
  | some absent => .error (.noEntry absent)
  | none => .ok (written + UInt64.ofNat survey.lines.length)

/-- What a walk over a span does: a record at the start, the lines, and a record at the end if the
catalogue refuses no point. -/
def actions (span : Span) (survey : Survey) : List Action :=
  .note (.started span.start span.stop) :: survey.lines.flatMap Action.ofLine ++
    match survey.ending 0 with
    | .ok lines => [.note (.finished lines)]
    | .error _ => []

theorem text_flatMap_ofLine (lines : List (Int64 × Line)) :
    Action.text (lines.flatMap Action.ofLine) = printed lines := by
  induction lines with
  | nil => rfl
  | cons entry rest ih => simp [printed, ih]

/-- The actions of a survey write its lines and nothing else. -/
@[simp] theorem text_actions (span : Span) (survey : Survey) :
    Action.text (survey.actions span) = printed survey.lines := by
  have last : Action.text
      (match survey.ending 0 with
        | .ok lines => [.note (.finished lines)]
        | .error _ => []) = "" := by
    split <;> rfl
  rw [actions, List.cons_append, Action.text, Action.text_append, last, text_flatMap_ofLine,
    String.append_empty]

end Survey

/-! ## Walks perform their surveys -/

variable {σ : Type} [Sink σ]

/-- The steps of a walk perform the lines of the survey and end as the survey ends. -/
theorem steps_eq_perform (catalogue : Catalogue) (left : Nat) (point : Int64) (written : UInt64) :
    (steps catalogue left point written : Work σ UInt64) =
      perform ((survey catalogue left point).lines.flatMap Action.ofLine) >>=
        fun _ => Work.ofExcept ((survey catalogue left point).ending written) := by
  induction left generalizing point written with
  | zero =>
    funext session
    simp [survey, Survey.ending, Work.ofExcept, steps]
  | succ left ih =>
    cases found : catalogue point with
    | error absent =>
      funext session
      rw [steps_of_error found, survey_of_error found]
      rfl
    | ok line =>
      -- the steps have counted this line in `written`, the survey counts it among its lines
      have counted : (survey catalogue (left + 1) point).ending written =
          (survey catalogue left (point + 1)).ending (written + 1) := by
        rw [survey_of_ok found]
        simp only [Survey.ending, List.length_cons]
        cases (survey catalogue left (point + 1)).absent? with
        | some absent => rfl
        | none => simp [UInt64.ofNat_add, UInt64.add_assoc, UInt64.add_comm]
      rw [counted, survey_of_ok found, List.flatMap_cons, perform_append, bind_assoc,
        ← note_putLine_eq_perform, bind_assoc, steps, found]
      simp only [← ih]
      rfl

/-- A walk performs its survey and ends as the survey ends. -/
theorem chart_eq_perform (catalogue : Catalogue) (span : Span) :
    (chart catalogue span : Work σ UInt64) =
      perform ((survey catalogue span.size span.start).actions span) >>=
        fun _ => Work.ofExcept ((survey catalogue span.size span.start).ending 0) := by
  rw [chart, steps_eq_perform, Survey.actions, perform_append, perform_cons]
  -- the last record is made only if the survey came to its end
  cases (survey catalogue span.size span.start).ending 0 with
  | ok lines =>
    simp only [bind_assoc, Work.ofExcept, pure_bind, perform_cons, perform_nil, Action.perform]
  | error fault =>
    funext session
    simp only [bind_assoc, Work.ofExcept, perform_nil, pure_bind, Action.perform]
    rfl

/-- A walk ends in the refusal of the sink or in that of the catalogue, if in a fault. -/
theorem fault_of_chart_eq_error {catalogue : Catalogue} {span : Span} {session after : Session σ}
    {fault : Fault} (ended : chart catalogue span session = .error fault after) :
    (∃ refusal, fault = .unwritten refusal) ∨ ∃ absent, fault = .noEntry absent := by
  rw [chart_eq_perform] at ended
  rcases fault_of_bind_eq_error ended with performed | ⟨_, between, -, later⟩
  · exact .inl (fault_of_perform_eq_error performed)
  · rw [Survey.ending] at later
    split at later
    · next absent _ => exact .inr ⟨absent, (EStateM.Result.error.inj later).1.symm⟩
    · exact nomatch later

end Walk

end CodeChart
