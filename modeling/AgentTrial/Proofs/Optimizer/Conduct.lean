import AgentTrial.Proofs.Optimizer.Lineage

/-!
# Conduct — how a run deals with host and provider

* `Conducted`: what a run does in the round of a record, from the first event to the last.
* `Executed.conducted`: every iteration adds such a round.
* `optimize_conducted`: a run is made of them, and the answers to clean-ups make no difference.
-/

namespace AgentTrial

theorem ProvidedValues.systemPrompt?_ofSpec (s : Specification) :
    (ofSpec s).systemPrompt? = some s.agent.systemPrompt := rfl

namespace Optimizer

open Relation

/-- Is this the writing of a snapshot? -/
def Event.isSave : Event → Bool
  | saved _ _ _ => true
  | _ => false

/-- The request for a better prompt than that of a record. -/
def improvementOf (settings : OptimizerSettings) (r : IterationRecord) : TextRequest where
  model := settings.model
  system := some Improvement.systemPrompt
  prompt := Improvement.request
    (match settings.feedbackPrompt with
    | some template => if Text.isBlankText template then Improvement.defaultTemplate else template
    | none => Improvement.defaultTemplate)
    r.systemPrompt (Feedback.ofReport r.report settings.strategy)
  tools := []

/-- What the provider is asked about a record: for a better prompt if the run goes on and the host could give a report,
and else nothing. -/
inductive Consulted (settings : OptimizerSettings) (r : IterationRecord) : List Event → Prop
  | once (running : r.state.isTerminal = false) (answered : r.report.fatal = false)
      (reply : Except Fault TextResponse) : Consulted settings r [.asked (improvementOf settings r) reply]
  | never (silent : r.state.isTerminal = true ∨ r.report.fatal = true) : Consulted settings r []

section Relations

variable {σ : Type} (o : Optimizer (StateM σ)) (s : Specification)

/-- The round of a record: one run of the specification with the prompt of the record, the clean-up after it, then what
the provider is asked, and at last the snapshot. -/
inductive Conducted (r : IterationRecord) : List Event → Prop
  | mk {program : SourceProgram} {submission : Submission} {ms : Nat} {requests saves : List Event}
      (compiled : Program.compile (s.withSystemPrompt r.systemPrompt) = .ok program)
      (units : submission.units = program.units)
      (provided : submission.provided = .ofSpec (s.withSystemPrompt r.systemPrompt))
      (prompt : submission.provided.systemPrompt? = some r.systemPrompt)
      (result : Except Fault HostReport) (cleanUp : Except Fault Unit)
      (report : r.report = reportOn o.orchestrator.skipPolicy submission.units result ms)
      (digest : r.report.programDigest = Program.digestUnits submission.units)
      (consulted : Consulted o.settings r requests) (kept : ∀ e ∈ saves, e.isSave = true) :
      Conducted r (.ran submission result :: .cleaned submission cleanUp :: (requests ++ saves))

/-- The optimizer with other answers to clean-ups. -/
def answering (answer : Submission → Except Fault Unit → Except Fault Unit) : Optimizer (StateM σ) :=
  { o with
    orchestrator :=
      { o.orchestrator with
        host :=
          { o.orchestrator.host with cleanUp := fun s => answer s <$> o.orchestrator.host.cleanUp s } } }

theorem request_eq {current : Specification} {r : IterationRecord}
    (hp : r.systemPrompt = current.agent.systemPrompt) : o.request current r.report = improvementOf o.settings r := by
  rw [request, improvementOf, hp, OptimizerSettings.template]
  cases o.settings.feedbackPrompt with
  | none => rfl
  | some template => cases h : Text.isBlankText template <;> simp [Option.filter, h]

theorem isSave_of_mem_saves {t : Specification} {result : Except Fault Unit} :
    ∀ e ∈ o.saves t result, e.isSave = true := by
  intro e he
  unfold saves at he
  obtain ⟨path, -, rfl⟩ := Option.map_eq_some_iff.1 (Option.mem_toList.1 he)
  rfl

end Relations

section Run

variable {σ : Type} {o : Optimizer (StateM σ)} {s : Specification} {h : Head} {r : IterationRecord}
  {es tail : List Event}

/-- What follows the host's part is one request at most, and then one snapshot at most. -/
theorem Followed.consulted (hp : r.systemPrompt = h.current.agent.systemPrompt) (followed : Followed o h r tail) :
    ∃ requests saves, tail = requests ++ saves ∧ Consulted o.settings r requests ∧ saves.length ≤ 1 ∧
      ∀ e ∈ saves, e.isSave = true := by
  have hsaves : ∀ t result, (o.saves t result).length ≤ 1 := by
    intro t result
    unfold saves
    cases o.settings.snapshotPath <;> simp
  cases followed with
  | ended terminal result =>
    exact ⟨[], _, rfl, .never (.inl terminal), hsaves _ _, isSave_of_mem_saves o⟩
  | searched running improved =>
    have going : r.state.isTerminal = false := by
      rw [running]
      rfl
    cases improved with
    | retry fatal => exact ⟨[], [], rfl, .never (.inr fatal), by simp, by simp⟩
    | unanswered answered f =>
      rw [request_eq o hp]
      exact ⟨_, [], rfl, .once going answered _, by simp, by simp⟩
    | keep answered same =>
      rw [request_eq o hp]
      exact ⟨_, [], rfl, .once going answered _, by simp, by simp⟩
    | change answered new =>
      rw [request_eq o hp]
      exact ⟨_, _, rfl, .once going answered _, hsaves _ _, isSave_of_mem_saves o⟩
    | unsaved answered new wanted f =>
      rw [request_eq o hp]
      exact ⟨[_], [_], rfl, .once going answered _, by simp, by simp [Event.isSave]⟩

/-- Every iteration adds one round, and that is the one of its record. -/
theorem Executed.conducted (ht : h.Traced s) (ran : Executed o h r es) (followed : Followed o h r tail) :
    ∃ round, es ++ tail = h.events ++ round ∧ Conducted o s r round := by
  have hp := ran.systemPrompt
  obtain ⟨requests, saves, rfl, consulted, -, kept⟩ := followed.consulted hp
  have hcurrent := ran.current ht
  obtain ⟨compiled, id, result, cleanUp, ms⟩ := ran
  refine ⟨.ran ⟨id, _, .ofSpec h.current⟩ result :: .cleaned ⟨id, _, .ofSpec h.current⟩ cleanUp :: (requests ++ saves),
    List.append_assoc _ _ _, ?_⟩
  rw [hcurrent] at compiled
  refine .mk compiled rfl ?_ ?_ result cleanUp rfl rfl consulted kept
  · rw [← hcurrent]
  · exact ProvidedValues.systemPrompt?_ofSpec h.current

/-- In the round of a record from which the run goes on with a report, the provider is asked for a better prompt. -/
theorem Conducted.asked {round : List Event} (conducted : Conducted o s r round) (going : r.state.isTerminal = false)
    (answered : r.report.fatal = false) : ∃ reply, .asked (improvementOf o.settings r) reply ∈ round := by
  obtain ⟨-, -, -, -, result, cleanUp, -, -, consulted, -⟩ := conducted
  cases consulted with
  | once _ _ reply => exact ⟨reply, by simp⟩
  | never silent =>
    rcases silent with terminal | fatal
    · rw [going] at terminal
      cases terminal
    · rw [answered] at fatal
      cases fatal

/-- The answer to a clean-up is not looked at. -/
theorem simulates_answering (answer : Submission → Except Fault Unit → Except Fault Unit) :
    Simulates Eq (o.answering answer) o := by
  have same : ∀ {α : Type} (x : StateM σ α), Matches Eq x x := by
    rintro α x p _ rfl
    exact ⟨rfl, rfl⟩
  refine ⟨rfl, rfl, same _, same _, same _, fun _ => same _, ?_, fun _ => same _, fun _ _ _ => same _⟩
  rintro submission p _ rfl
  rfl

end Run

/-- A run is made of one round for each record, with nothing before, between or after them, and no answer to a clean-up
makes a difference to it. -/
theorem optimize_conducted {σ : Type} (o : Optimizer (StateM σ)) (s : Specification) (w : σ) :
    (∃ rounds : List (List Event), o.transcript s w = rounds.flatten ∧
      List.Forall₂ (Conducted o s) (historyOf (o.optimize s w).1) rounds) ∧
    ∀ answer, (o.answering answer).optimize s w = o.optimize s w := by
  constructor
  · refine forall_optimize (fun history es => ∃ rounds : List (List Event), es = rounds.flatten ∧
      List.Forall₂ (Conducted o s) history rounds) ⟨[], rfl, .nil⟩ ?_ w
    rintro h r es tail reach ran followed ⟨rounds, hrounds, conducted⟩
    obtain ⟨round, hround, last⟩ := ran.conducted (traced_of_reach reach) followed
    refine ⟨rounds ++ [round], ?_, List.rel_append conducted (.cons last .nil)⟩
    rw [hround, hrounds]
    simp
  · intro answer
    obtain ⟨hanswer, hworld⟩ := (simulates_answering answer).optimize s w w rfl
    exact Prod.ext hanswer hworld

/-- The provider is asked about the first two records of a run, with the prompt and the report of each.  The prompt
changes between them. -/
theorem optimize_conducted_scripted : ∃ r₁ r₂ r₃ reply₁ reply₂,
    historyOf ((scripted 3 (.ok ())).optimize bare ["q", ""]).1 = [r₁, r₂, r₃] ∧
    r₁.systemPrompt = "p" ∧ r₂.systemPrompt = "q" ∧
    .asked (improvementOf (scripted 3 (.ok ())).settings r₁) reply₁ ∈ (scripted 3 (.ok ())).transcript bare ["q", ""] ∧
    .asked (improvementOf (scripted 3 (.ok ())).settings r₂) reply₂ ∈
      (scripted 3 (.ok ())).transcript bare ["q", ""] := by
  have adopted : adopt bare "q" = "q" := by decide +kernel
  have kept : adopt (bare.withSystemPrompt "q") "" = "q" := by decide +kernel
  have compiles : ∃ program, Program.compile bare = .ok program := ⟨_, rfl⟩
  obtain ⟨u₁, u₂, u₃, done⟩ := optimize_scripted [] compiles (congrArg bare.withSystemPrompt adopted.symm)
    (congrArg (bare.withSystemPrompt "q").withSystemPrompt kept.symm)
  obtain ⟨⟨rounds, events, conducted⟩, -⟩ := optimize_conducted (scripted 3 (.ok ())) bare ["q", ""]
  rw [done] at conducted ⊢
  obtain _ | ⟨first, _ | ⟨second, _ | ⟨third, _ | _⟩⟩⟩ := conducted
  obtain ⟨reply₁, h₁⟩ := first.asked (by rw [state_scripted_running (by decide)]; rfl) rfl
  obtain ⟨reply₂, h₂⟩ := second.asked (by rw [state_scripted_running (by decide)]; rfl) rfl
  refine ⟨_, _, _, reply₁, reply₂, rfl, rfl, rfl, ?_, ?_⟩
  · simp [events, h₁]
  · simp [events, h₂]

end Optimizer

end AgentTrial
