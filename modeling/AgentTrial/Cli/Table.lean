import AgentTrial.Decimal.Form
import AgentTrial.Report.Basic
import AgentTrial.Text.Blank
import AgentTrial.Text.Excerpt

/-!
# Table — reports and scores for the eye

A report is shown as a table with a line for each case and a summary; the scores of an optimization are shown as bars.
-/

namespace AgentTrial.Cli

/-- A text repeated. -/
def repeated (n : Nat) (c : Char) : String := .ofList (List.replicate n c)

/-- A text at the left of a column. -/
def alignLeft (width : Nat) (s : String) : String := s ++ repeated (width - s.length) ' '

/-- A text at the right of a column. -/
def alignRight (width : Nat) (s : String) : String := repeated (width - s.length) ' ' ++ s

/-- The width of the names of cases. -/
def nameWidth : Nat := 40

/-- A name cut to the width of its column. -/
def shortName (name : String) : String :=
  if name.length ≤ nameWidth then name else Text.excerpt (nameWidth - 3) name

/-- The label of a state. -/
def stateLabel : TaskState → String
  | .passed => "✓ pass"
  | .failed => "✗ fail"
  | .skipped => "- skip"
  | .errored => "! error"

/-- The first line of a text. -/
def firstLine (s : String) : String := .ofList ((Text.lines s.toList).headD [])

/-- The lines of a case: its state, its name and its duration, and its error unless it passed. -/
def caseLines (o : TaskOutcome) : List String :=
  (alignLeft 10 (stateLabel o.state) ++ " " ++ alignLeft nameWidth (shortName o.name) ++ " " ++
      alignRight 8 (toString o.durationMs) ++ "ms") ::
    match o.error with
    | some e => if o.state = .passed then [] else ["           " ++ firstLine e.message]
    | none => []

/-- The line with the counts of a report. -/
def summaryLine (r : ResultReport Float) : String :=
  let s := r.summary
  "Summary: " ++ toString s.passed ++ " passed, " ++ toString s.failed ++ " failed, " ++ toString s.skipped ++
    " skipped, " ++ toString s.errored ++ " errored (" ++ Decimal.renderTenths r.passPercent ++ "%)"

/-- The lines of a report. -/
def reportLines (r : ResultReport Float) : List String :=
  if r.fatal then "Run failed before any case was scored" :: r.errors.map fun e => "  " ++ e.message
  else
    [alignLeft 10 "STATE" ++ " " ++ alignLeft nameWidth "CASE" ++ " " ++ alignRight 10 "DURATION", repeated 62 '─'] ++
      r.outcomes.flatMap caseLines ++ ["", summaryLine r]

/-- The bar of a score, 30 blocks for all of it. -/
def scoreBar (percent : Float) : String :=
  let inside := if percent < 0 then 0 else if percent > 100 then 100 else percent
  repeated (inside * 0.3).toUInt64.toNat '█' ++ " " ++ Decimal.renderTenths percent ++ "%"

/-- What changed since the score before. -/
def scoreChange (before after : Float) : String :=
  let diff := after - before
  if diff > 0 then " (+" ++ Decimal.renderTenths diff ++ "%)"
  else if diff < 0 then " (" ++ Decimal.renderTenths diff ++ "%)"
  else ""

/-- The changes of scores; the first one has none. -/
def scoreChanges (scores : List Float) : List String := "" :: List.zipWith scoreChange scores (scores.drop 1)

/-- The lines of the scores of an optimization. -/
def scoreLines (scores : List Float) : List String :=
  if scores.isEmpty then []
  else
    "Score History" ::
      ((scores.zip (scoreChanges scores)).mapIdx fun i (score, change) =>
        "  " ++ alignRight 2 (toString (i + 1)) ++ ". " ++ scoreBar score ++ change) ++ [""]

end AgentTrial.Cli
