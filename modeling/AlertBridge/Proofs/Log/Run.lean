import AlertBridge.Proofs.Log.Line

/-!
# The log over a whole run

The log may be configured any number of times, with calls in between, on top of any handlers. Each
time, and until the next one, the only handler that writes lines is the one just installed, and the
others stay in their order. Each call whose arguments fit and whose level is high enough writes one
line, and no text that is a field of the object read from that line has a secret in it, unless the
call brought an object along under that name.

A call of a level that is not above zero writes no line, whatever the threshold is, and neither does
one that brings along what cannot be written.

Steps that fail are part of a run: a name of no level is noticed when the handler has been
installed, and a call with arguments that do not fit writes nothing.

## Main definitions

* `LogRoot.after`, `LogRoot.linesOf`: the log after a step, and the lines of the step
* `Writes`: the lines that a call should write

## Main results

* `LogRoot.run_eq_ok`: the states and the lines of a run are those of its steps
* `LogRoot.handlers_afterAll`: the handlers from a configuration to the next one
* `LogRoot.writes_afterAll`: handlers and lines from a configuration to the next one
-/

namespace AlertBridge

/-! ## Steps -/

namespace LogRoot

/-- The log after a step, which may fail. -/
def after (root : LogRoot) : LogStep → LogRoot
  | .configure secrets level => root.install secrets (level.level.toOption.getD root.threshold)
  | .call _ => root

/-- The lines that a step writes, none if it fails. -/
def linesOf (root : LogRoot) (step : LogStep) : List String :=
  match root.step step with
  | .ok (_, lines) => lines
  | .error _ => []

/-- The log after some steps. -/
def afterAll (root : LogRoot) (steps : List LogStep) : LogRoot := steps.foldl after root

/-- The log after each step, with the lines that the step writes. -/
def trace (root : LogRoot) : List LogStep → List (LogRoot × List String)
  | [] => []
  | step :: rest => (root.after step, root.linesOf step) :: (root.after step).trace rest

variable {root : LogRoot}

theorem afterAll_append (root : LogRoot) (first second : List LogStep) :
    root.afterAll (first ++ second) = (root.afterAll first).afterAll second :=
  List.foldl_append

/-- Calls leave the log as it is. -/
theorem afterAll_calls (root : LogRoot) (calls : List LogCall) :
    root.afterAll (calls.map .call) = root := by
  induction calls with
  | nil => rfl
  | cons call calls ih => exact ih

theorem linesOf_of_entry {call : LogCall} {level : Level} {fields : List (String × LogValue)}
    (h : call.entry = .ok (level, fields)) :
    root.linesOf (.call call) = root.lines level fields := by
  rw [linesOf, step, h]

theorem linesOf_of_misfit {call : LogCall} {fault : Fault} (h : call.entry = .error fault) :
    root.linesOf (.call call) = [] := by
  rw [linesOf, step, h]
  cases call.raises <;> rfl

/-- A step that does not fail leads to the log after it and writes its lines. -/
theorem step_eq_ok {step : LogStep} {next : LogRoot} {lines : List String}
    (h : root.step step = .ok (next, lines)) :
    root.after step = next ∧ root.linesOf step = lines := by
  refine ⟨?_, by rw [linesOf, h]⟩
  cases step with
  | configure secrets level =>
    obtain ⟨configured, hconfigured, h⟩ := map_eq_ok_iff.1 h
    obtain ⟨threshold, hlevel, rfl⟩ := map_eq_ok_iff.1 hconfigured
    rw [after, hlevel]
    exact (Prod.mk.inj h).1
  | call call =>
    rw [LogRoot.step] at h
    split at h
    · exact (Prod.mk.inj (Except.ok.inj h)).1
    · split at h
      · cases h
      · exact (Prod.mk.inj (Except.ok.inj h)).1

/-- **The states and lines of a run** are those of its steps. -/
theorem run_eq_ok {steps : List LogStep} {results : List (LogRoot × List String)}
    (h : root.run steps = .ok results) : results = root.trace steps := by
  induction steps generalizing root results with
  | nil => exact (Except.ok.inj h).symm
  | cons step rest ih =>
    rw [run, bind_eq_ok_iff] at h
    obtain ⟨⟨next, lines⟩, hstep, h⟩ := h
    obtain ⟨tail, hrest, h⟩ := bind_eq_ok_iff.1 h
    obtain ⟨hnext, hlines⟩ := step_eq_ok hstep
    rw [trace, hnext, hlines, ← ih hrest]
    exact (Except.ok.inj h).symm

/-! ## Handlers -/

/-- A step leaves the handlers that write no lines in their order. -/
theorem filter_after (root : LogRoot) (step : LogStep) :
    (root.after step).handlers.filter (!·.writesLines) =
      root.handlers.filter (!·.writesLines) := by
  cases step with
  | configure secrets level => exact filter_install root secrets _
  | call => rfl

theorem filter_afterAll (root : LogRoot) (steps : List LogStep) :
    (root.afterAll steps).handlers.filter (!·.writesLines) =
      root.handlers.filter (!·.writesLines) := by
  induction steps generalizing root with
  | nil => rfl
  | cons step rest ih => exact (ih (root.after step)).trans (filter_after root step)

variable {secrets : List String} {setting : LevelSetting}

/-- The log from a configuration to the next one is as the configuration left it. -/
theorem afterAll_configure (before : List LogStep) (calls : List LogCall) :
    root.afterAll (before ++ .configure secrets setting :: calls.map .call) =
      (root.afterAll before).after (.configure secrets setting) := by
  rw [afterAll_append]
  exact afterAll_calls _ calls

/-- The handlers from a configuration to the next one: those from the start that write no lines,
and the one that was installed. -/
theorem handlers_afterAll (before : List LogStep) (calls : List LogCall) :
    (root.afterAll (before ++ .configure secrets setting :: calls.map .call)).handlers =
      root.handlers.filter (!·.writesLines) ++ [.lines secrets] := by
  rw [afterAll_configure, after, install, filter_afterAll]

theorem threshold_afterAll (before : List LogStep) (calls : List LogCall) {threshold : Level}
    (hlevel : setting.level = .ok threshold) :
    (root.afterAll (before ++ .configure secrets setting :: calls.map .call)).threshold =
      threshold := by
  rw [afterAll_configure, after, hlevel]
  rfl

/-- Where one handler writes lines, an event of a level that is high enough is one line, if that can
be written. -/
theorem lines_eq {others : List LogHandler} (hroot : root.handlers = others ++ [.lines secrets])
    (hothers : ∀ handler ∈ others, handler.writesLines = false) (level : Level)
    (fields : List (String × LogValue)) :
    root.lines level fields =
      if level.passes root.threshold then (logLine? secrets fields).toOption.toList else [] := by
  have hnone : others.filterMap (·.line? fields) = [] := by
    rw [List.filterMap_eq_nil_iff]
    intro handler hmem
    cases handler with
    | lines => cases hothers _ hmem
    | other => rfl
  rw [lines, hroot, List.filterMap_append, hnone, List.nil_append]
  cases hline : (logLine? secrets fields).toOption <;> simp [LogHandler.line?, hline]

end LogRoot

/-! ## Calls -/

/-- The lines that a call should write, where some secrets and a threshold are set. -/
structure Writes (secrets : List String) (threshold : Level) (call : LogCall)
    (lines : List String) : Prop where
  /-- Arguments that do not fit leave no line. -/
  nil_of_misfit : ∀ fault, call.entry = .error fault → lines = []
  /-- A call below the threshold writes no line. -/
  nil_of_lt : ∀ level fields, call.entry = .ok (level, fields) →
    level.severity < threshold.severity → lines = []
  /-- A call of a level that is not above zero never does. -/
  nil_of_nonpos : ∀ level fields, call.entry = .ok (level, fields) → level.severity ≤ 0 → lines = []
  /-- Neither does one with a field that cannot be written. -/
  nil_of_unwritable : ∀ level fields, call.entry = .ok (level, fields) →
    ¬ (∀ f ∈ fields, Succeeds f.2.document) → lines = []
  /-- Any other call writes one line, without secrets. -/
  one_of_le : ∀ level fields, call.entry = .ok (level, fields) → 0 < level.severity →
    threshold.severity ≤ level.severity → (∀ f ∈ call.own, Succeeds f.2.document) →
    ∃ line, lines = [line] ∧ Withholds secrets call.own fields line

theorem Level.passes_iff {level threshold : Level} :
    level.passes threshold ↔ threshold.severity ≤ level.severity ∧ 0 < level.severity := by
  rw [passes, Bool.and_eq_true, decide_eq_true_eq, decide_eq_true_eq]

namespace LogRoot

variable {root : LogRoot} {secrets : List String}

theorem writes_linesOf {others : List LogHandler}
    (hroot : root.handlers = others ++ [.lines secrets])
    (hothers : ∀ handler ∈ others, handler.writesLines = false)
    (hsecrets : ∀ s ∈ secrets, '*' ∉ s.toList) (call : LogCall) :
    Writes secrets root.threshold call (root.linesOf (.call call)) := by
  have hlines : ∀ level fields, call.entry = .ok (level, fields) → root.linesOf (.call call) =
      if level.passes root.threshold then (logLine? secrets fields).toOption.toList else [] := by
    intro level fields hentry
    rw [linesOf_of_entry hentry]
    exact lines_eq hroot hothers level fields
  have hsucceeds : ∀ fields, Succeeds (logLine? secrets fields) ↔
      ∀ f ∈ fields, Succeeds f.2.document := by
    intro fields
    rw [logLine?, succeeds_map_iff, succeeds_fieldsWithoutSecrets_iff]
  constructor
  · exact fun fault hentry => linesOf_of_misfit hentry
  · intro level fields hentry hlt
    rw [hlines level fields hentry, if_neg]
    intro hpasses
    have hle := (Level.passes_iff.1 hpasses).1
    omega
  · intro level fields hentry hnonpos
    rw [hlines level fields hentry, if_neg]
    intro hpasses
    have hpos := (Level.passes_iff.1 hpasses).2
    omega
  · intro level fields hentry hunwritable
    obtain ⟨fault, hfault⟩ := not_succeeds_iff.1 (mt (hsucceeds fields).1 hunwritable)
    rw [hlines level fields hentry, hfault]
    exact ite_self _
  · intro level fields hentry hpos hle hown
    have hfields : ∀ f ∈ fields, f.2.IsText ∨ f ∈ call.own := LogCall.isText_or_mem_own hentry
    have hwritable : ∀ f ∈ fields, Succeeds f.2.document := by
      intro f hf
      exact (hfields f hf).elim LogValue.succeeds_document_of_isText (hown f)
    obtain ⟨line, hline⟩ := (hsucceeds fields).2 hwritable
    refine ⟨line, ?_, withholds_of_logLine? hsecrets hfields hline⟩
    rw [hlines level fields hentry, if_pos (Level.passes_iff.2 ⟨hle, hpos⟩), hline]
    rfl

/-- **From a configuration to the next one**, after any steps and on top of any handlers, the
handlers are those from the start that write no lines and the one that was installed; its threshold
is the one that was set; and each call writes the lines that it should. -/
theorem writes_afterAll (root : LogRoot) (before : List LogStep) (calls : List LogCall)
    (secrets : List String) (setting : LevelSetting) (hsecrets : ∀ s ∈ secrets, '*' ∉ s.toList) :
    let current := root.afterAll (before ++ .configure secrets setting :: calls.map .call)
    current.handlers = root.handlers.filter (!·.writesLines) ++ [.lines secrets] ∧
      (∀ threshold, setting.level = .ok threshold → current.threshold = threshold) ∧
      ∀ call, Writes secrets current.threshold call (current.linesOf (.call call)) := by
  intro current
  have hhandlers : current.handlers = root.handlers.filter (!·.writesLines) ++ [.lines secrets] :=
    handlers_afterAll before calls
  have hothers : ∀ handler ∈ root.handlers.filter (!·.writesLines),
      handler.writesLines = false := by
    intro handler hmem
    simpa using (List.mem_filter.1 hmem).2
  refine ⟨hhandlers, ?_, ?_⟩
  · intro threshold hlevel
    exact threshold_afterAll before calls hlevel
  · exact writes_linesOf hhandlers hothers hsecrets

/-- A log with two handlers, one of which writes lines, that is configured twice. An event with a
secret among its arguments and its fields becomes one line without it. -/
theorem writes_afterAll_configuredTwice :
    let root : LogRoot := ⟨[.lines ["OLD"], .other "memory"], .warning⟩
    let hello : LogCall := .standard "relay" .info (.value (.str "hello")) []
    let post : LogCall := .structured "relay" .info (.value (.str "posting with %s"))
      [.value (.str "TOKEN123")] [("url", .value (.str "/1/TOKEN123"))]
    let current := root.afterAll ([.configure ["OLD", "TOKEN123"] "DEBUG", .call hello] ++
      .configure ["TOKEN123"] "INFO" :: [hello].map .call)
    (∀ s ∈ ["TOKEN123"], '*' ∉ s.toList) ∧
      current.handlers = [.other "memory", .lines ["TOKEN123"]] ∧ current.threshold = .info ∧
      ∃ line shown, current.linesOf (.call post) = [line] ∧
        Withholds ["TOKEN123"] post.own [("url", .value (.str "/1/TOKEN123")),
          ("event", .value (.str "posting with TOKEN123")), ("level", .value (.str "info")),
          ("logger", .value (.str "relay"))] line ∧
        Json.read? line.toList = some (.obj shown) := by
  intro root hello post current
  have hsecrets : ∀ s ∈ ["TOKEN123"], '*' ∉ s.toList := by decide
  obtain ⟨hhandlers, hthreshold, hwrites⟩ := writes_afterAll root
    [.configure ["OLD", "TOKEN123"] "DEBUG", .call hello] [hello] ["TOKEN123"] "INFO" hsecrets
  have hinfo : current.threshold = .info := hthreshold .info rfl
  have hown : ∀ f ∈ post.own, f.2.IsText := by simp [post, LogCall.own, LogValue.IsText]
  have hdocuments : ∀ f ∈ post.own, Succeeds f.2.document := fun f hf =>
    LogValue.succeeds_document_of_isText (hown f hf)
  obtain ⟨line, hline, hwithholds⟩ :=
    (hwrites post).one_of_le .info _ rfl (by decide) (by rw [hinfo]) hdocuments
  obtain ⟨shown, hread⟩ := hwithholds.isRead fun f hf => LogValue.isProper_of_isText (hown f hf)
  exact ⟨hsecrets, hhandlers, hinfo, line, shown, hline, hwithholds, hread⟩

/-- **Not every line is written, and not every line is masked.** A message of level zero is at a
threshold of zero and writes no line; a failure that an event brings along is shown with its secret;
and an event that brings along an integer that is too long writes no line. -/
theorem linesOf_unwritten_unmasked :
    let current := LogRoot.initial.after (.configure ["TOKEN123"] "NOTSET")
    let failure := LogObject.ofTexts "failed for TOKEN123" "RuntimeError('failed for TOKEN123')"
    let hello : LogCall := .standard "relay" .unset (.value (.str "hello")) []
    let failed : LogCall :=
      .structured "relay" .error (.value (.str "failed")) [] [("error", .object failure)]
    let counted : LogCall := .structured "relay" .error (.value (.str "counted")) []
      [("total", .value (.int (Nat.pow 10 maxNumeralDigits)))]
    (∀ s ∈ ["TOKEN123"], '*' ∉ s.toList) ∧ current.threshold = .unset ∧
      (Succeeds hello.entry ∧ current.linesOf (.call hello) = []) ∧
      (∃ line shown, current.linesOf (.call failed) = [line] ∧
        Json.read? line.toList = some (.obj shown) ∧
        ("error", .str "RuntimeError('failed for TOKEN123')") ∈ shown) ∧
      (Succeeds counted.entry ∧ current.linesOf (.call counted) = []) := by
  intro current failure hello failed counted
  have hsecrets : ∀ s ∈ ["TOKEN123"], '*' ∉ s.toList := by decide
  have hcurrent : current.handlers = [] ++ [.lines ["TOKEN123"]] := rfl
  have hwrites := writes_linesOf hcurrent (by simp) hsecrets counted
  have hunwritable := LogValue.document_of_not_isShortNumeral isShortNumeral_pow
  refine ⟨hsecrets, rfl, ⟨⟨_, rfl⟩, rfl⟩, ?_, ⟨_, rfl⟩, ?_⟩
  · exact ⟨_, _, rfl, Json.read?_written rfl rfl, List.mem_cons_self⟩
  · refine hwrites.nil_of_unwritable _ _ rfl fun hdocuments => ?_
    obtain ⟨shown, hshown⟩ := hdocuments ("total", _) List.mem_cons_self
    rw [hunwritable] at hshown
    cases hshown

end LogRoot

end AlertBridge
