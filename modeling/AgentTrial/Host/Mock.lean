import AgentTrial.Host.Basic

/-!
# Mock — a host that runs nothing

It makes its reports up from a fixed conduct and remembers the submissions it was given.  The units seem to have
answered, and their metadata repeats the system prompt that was provided.
-/

namespace AgentTrial

/-- How a mock host decides. -/
inductive HostConduct
  /-- Every unit ends the same way; a failure carries the message. -/
  | uniform (state : HostState) (message : String)
  /-- The states are dealt out in turn, over and over. -/
  | pattern (states : List HostState)
  /-- The runs get these results in order; a text is the reason of a failure. -/
  | scripted (results : List (Except String HostReport))
  /-- No submission can be run. -/
  | unavailable (reason : String)

/-- A host that runs nothing. -/
structure MockHost where
  conduct : HostConduct
  submissions : List Submission
  /-- The identifiers of the submissions that were cleaned up. -/
  cleanups : List String

namespace MockHost

/-- A host that was given nothing yet. -/
def ofConduct (c : HostConduct) : MockHost := ⟨c, [], []⟩

/-- A host where every unit passes. -/
def allPass : MockHost := ofConduct (.uniform .pass "")

/-- The report of a unit. -/
def unitReport (s : Submission) (state : HostState) (message : String) (u : CompiledUnit) : UnitReport where
  name := u.name
  state
  durationMs := 0
  errors := if state = .fail ∧ message ≠ "" then [⟨message, none⟩] else []
  metadata := some (.record [
    ("response", .record [("prompt", .text u.name), ("systemPrompt", .text (s.provided.systemPrompt?.getD "")),
      ("text", .text ("mock response for " ++ u.name))]),
    ("verdict", .record [("feedback", .text message), ("passed", .bool (state = .pass))])])

/-- The report of a run whose units have these reports. -/
def report (units : List UnitReport) : HostReport := ⟨units.all (·.state = .pass), units⟩

/-- The result of a run and the conduct from then on. -/
def decide (s : Submission) : HostConduct → Except Fault HostReport × HostConduct
  | c@(.uniform state message) => (.ok (report (s.units.map (unitReport s state message))), c)
  | c@(.pattern states) =>
    (.ok (report (s.units.mapIdx fun i u => unitReport s (states[i % states.length]?.getD .unknown) "" u)), c)
  | .scripted [] => (.error (.submission "mock host script exhausted"), .scripted [])
  | .scripted (.ok r :: rest) => (.ok r, .scripted rest)
  | .scripted (.error reason :: rest) => (.error (.submission reason), .scripted rest)
  | c@(.unavailable reason) => (.error (.submission reason), c)

/-- The mock host as a test host over its own state. -/
def host : TestHost (StateM MockHost) where
  name := "mock"
  run s h :=
    let (r, c) := decide s h.conduct
    (r, { h with conduct := c, submissions := h.submissions ++ [s] })
  cleanUp s h := (.ok (), { h with cleanups := h.cleanups ++ [s.id] })

end MockHost

end AgentTrial
