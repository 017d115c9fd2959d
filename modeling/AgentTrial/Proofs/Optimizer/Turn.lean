import AgentTrial.Proofs.Optimizer.Transcript
import Mathlib.Data.List.Forall2
import Mathlib.Logic.Relation

/-!
# Turn — what an iteration can do

A run stands at a `Head` before each of its iterations.  An iteration either leads to the next head (`Turn`) or ends
the run (`Ends`); the two relations name every branch with the events that belong to it.

* `iterate_ends`, `optimize_ends`: every run goes by turns from its first head to one where it ends.  Whatever holds of
  all runs is proved from this by induction on the turns.
* `forall_reach`, `forall_optimize`: that induction, for what every iteration keeps of the records and the events.
* `recorded_of_optimize`, `numbered_of_optimize`: one numbered record for every run of the host, however a run ends.
-/

namespace AgentTrial.Optimizer

open Relation

/-- Where a run stands before an iteration: what it tries next, and what was done. -/
structure Head where
  current : Specification
  history : List IterationRecord
  events : List Event

/-- The head before the first iteration. -/
def Head.start (s : Specification) : Head := ⟨s, [], []⟩

/-- The report on a run of units that ended this way. -/
def reportOn (policy : SkipPolicy) (units : List CompiledUnit) (result : Except Fault HostReport) (ms : Nat) :
    ResultReport Float :=
  { ResultReport.ofRun policy result with programDigest := Program.digestUnits units, durationMs := ms }

section Relations

variable {σ : Type} (o : Optimizer (StateM σ))

/-- The host ran the units of the current specification and cleaned up: the record, and the events after it. -/
inductive Executed (h : Head) : IterationRecord → List Event → Prop
  | mk {program : SourceProgram} (compiled : Program.compile h.current = .ok program) (id : String)
      (result : Except Fault HostReport) (cleanUp : Except Fault Unit) (ms : Nat) :
      Executed h
        (o.record h.current h.history.length (reportOn o.orchestrator.skipPolicy program.units result ms))
        (h.events ++ [.ran ⟨id, program.units, .ofSpec h.current⟩ result,
          .cleaned ⟨id, program.units, .ofSpec h.current⟩ cleanUp])

/-- The events of writing a snapshot: none if none is wanted. -/
def saves (s : Specification) (result : Except Fault Unit) : List Event :=
  (o.settings.snapshotPath.map fun path => .saved path s result).toList

/-- What comes of looking for a better prompt, with the events of it. -/
inductive Improved (current : Specification) (report : ResultReport Float) :
    Except Fault Specification → List Event → Prop
  | retry (fatal : report.fatal = true) : Improved current report (.ok current) []
  | unanswered (answered : report.fatal = false) (f : Fault) :
      Improved current report (.error f) [.asked (o.request current report) (.error f)]
  | keep (answered : report.fatal = false) {reply : TextResponse}
      (same : adopt current reply.text = current.agent.systemPrompt) :
      Improved current report (.ok current) [.asked (o.request current report) (.ok reply)]
  | change (answered : report.fatal = false) {reply : TextResponse}
      (new : adopt current reply.text ≠ current.agent.systemPrompt) :
      Improved current report (.ok (current.withSystemPrompt (adopt current reply.text)))
        (.asked (o.request current report) (.ok reply) ::
          o.saves (current.withSystemPrompt (adopt current reply.text)) (.ok ()))
  | unsaved (answered : report.fatal = false) {reply : TextResponse}
      (new : adopt current reply.text ≠ current.agent.systemPrompt) {path : String}
      (wanted : o.settings.snapshotPath = some path) (f : Fault) :
      Improved current report (.error f)
        [.asked (o.request current report) (.ok reply),
          .saved path (current.withSystemPrompt (adopt current reply.text)) (.error f)]

/-- An iteration that does not end the run. -/
inductive Turn (h : Head) : Head → Prop
  | mk {r : IterationRecord} {es tail : List Event} {next : Specification} (ran : Executed o h r es)
      (running : r.state = .running r.iteration) (improved : Improved o h.current r.report (.ok next) tail) :
      Turn h ⟨next, h.history ++ [r], es ++ tail⟩

/-- An iteration that ends the run: how it ends, and all events. -/
inductive Ends (h : Head) : Except OptimizationAborted OptimizationOutcome → List Event → Prop
  | refused {e : CompileError} (failed : Program.compile h.current = .error e) :
      Ends h (.error ⟨.compile e, h.history⟩) h.events
  | stuck {r : IterationRecord} {es tail : List Event} {f : Fault} (ran : Executed o h r es)
      (running : r.state = .running r.iteration) (improved : Improved o h.current r.report (.error f) tail) :
      Ends h (.error ⟨f, h.history ++ [r]⟩) (es ++ tail)
  | unfinished {r : IterationRecord} {es : List Event} (ran : Executed o h r es) (terminal : r.state.isTerminal = true)
      {path : String} (wanted : o.settings.snapshotPath = some path) (f : Fault) :
      Ends h (.error ⟨f, h.history ++ [r]⟩) (es ++ [.saved path h.current (.error f)])
  | finished {r : IterationRecord} {es : List Event} (ran : Executed o h r es) (terminal : r.state.isTerminal = true)
      (runId : String) (ms : Nat) :
      Ends h (.ok ⟨h.current, h.history ++ [r], r.state, runId, ms⟩) (es ++ o.saves h.current (.ok ()))

/-- What comes after the host is done with an iteration: the search for a better prompt, or the last snapshot. -/
inductive Followed (h : Head) (r : IterationRecord) : List Event → Prop
  | searched (running : r.state = .running r.iteration) {result : Except Fault Specification} {tail : List Event}
      (improved : Improved o h.current r.report result tail) : Followed h r tail
  | ended (terminal : r.state.isTerminal = true) (result : Except Fault Unit) :
      Followed h r (o.saves h.current result)

end Relations

section Records

variable {σ : Type} {o : Optimizer (StateM σ)} {h : Head} {r : IterationRecord} {es : List Event}

theorem Executed.compiles (ran : Executed o h r es) : ∃ program, Program.compile h.current = .ok program := by
  obtain ⟨compiled, -⟩ := ran
  exact ⟨_, compiled⟩

theorem Executed.iteration (ran : Executed o h r es) : r.iteration = h.history.length + 1 := by
  cases ran
  rfl

theorem Executed.systemPrompt (ran : Executed o h r es) : r.systemPrompt = h.current.agent.systemPrompt := by
  cases ran
  rfl

theorem Executed.state (ran : Executed o h r es) :
    r.state = (LoopState.running h.history.length).step o.settings.stopPolicy r.report := by
  cases ran
  rfl

end Records

/-! ## Steps of an optimizer -/

section Steps

variable {σ : Type}

theorem bind_run {τ α β : Type} {x : StateM τ α} {a : α} {w w' : τ} (h : x w = (a, w')) (f : α → StateM τ β) :
    (x >>= f) w = f a w' := by
  show f (x w).1 (x w).2 = f a w'
  rw [h]

section Branches

variable {o : Optimizer (StateM σ)} {current next : Specification} {report : ResultReport Float}
  {reply : TextResponse} {f : Fault} {w w₁ w₂ : σ}

theorem improve_retry (fatal : report.fatal = true) : o.improve current report w = (.ok current, w) := by
  rw [improve, if_pos fatal]
  rfl

theorem improve_unanswered (answered : report.fatal = false)
    (asked : o.provider.text (o.request current report) w = (.error f, w₁)) :
    o.improve current report w = (.error f, w₁) := by
  rw [improve, if_neg (by simp [answered]), bind_run asked]
  rfl

theorem improve_keep (answered : report.fatal = false)
    (asked : o.provider.text (o.request current report) w = (.ok reply, w₁))
    (same : adopt current reply.text = current.agent.systemPrompt) :
    o.improve current report w = (.ok current, w₁) := by
  rw [improve, if_neg (by simp [answered]), bind_run asked]
  dsimp only
  rw [if_pos same]
  rfl

/-- A new prompt is adopted if its snapshot is written. -/
theorem improve_change {saved : Except Fault Unit} (answered : report.fatal = false)
    (asked : o.provider.text (o.request current report) w = (.ok reply, w₁))
    (new : adopt current reply.text ≠ current.agent.systemPrompt)
    (snapshot : o.snapshot (current.withSystemPrompt (adopt current reply.text)) w₁ = (saved, w₂)) :
    o.improve current report w =
      (saved.map fun _ => current.withSystemPrompt (adopt current reply.text), w₂) := by
  rw [improve, if_neg (by simp [answered]), bind_run asked]
  dsimp only
  rw [if_neg new, bind_run snapshot]
  cases saved <;> rfl

variable {program : SourceProgram} {completed : Nat}

theorem iterate_running {done : Nat} (compiled : Program.compile current = .ok program)
    (ran : o.orchestrator.execute program.units (.ofSpec current) w = (report, w₁))
    (running : (o.record current completed report).state = .running done)
    (improved : o.improve current report w₁ = (.ok next, w₂)) (runId : String) (start : Nat)
    (history : List IterationRecord) :
    o.iterate runId start current completed history w =
      o.iterate runId start next done (history ++ [o.record current completed report]) w₂ := by
  rw [iterate_ok compiled, bind_run ran, running]
  dsimp only
  rw [bind_run improved]

theorem iterate_stuck {done : Nat} (compiled : Program.compile current = .ok program)
    (ran : o.orchestrator.execute program.units (.ofSpec current) w = (report, w₁))
    (running : (o.record current completed report).state = .running done)
    (improved : o.improve current report w₁ = (.error f, w₂)) (runId : String) (start : Nat)
    (history : List IterationRecord) :
    o.iterate runId start current completed history w =
      (.error ⟨f, history ++ [o.record current completed report]⟩, w₂) := by
  rw [iterate_ok compiled, bind_run ran, running]
  dsimp only
  rw [bind_run improved]
  rfl

theorem iterate_terminal (compiled : Program.compile current = .ok program)
    (ran : o.orchestrator.execute program.units (.ofSpec current) w = (report, w₁))
    (terminal : (o.record current completed report).state.isTerminal = true) (runId : String) (start : Nat)
    (history : List IterationRecord) :
    o.iterate runId start current completed history w =
      o.finish current (o.record current completed report).state (history ++ [o.record current completed report])
        runId start w₁ := by
  rw [iterate_ok compiled, bind_run ran]
  cases hs : (o.record current completed report).state with
  | running done =>
    rw [hs] at terminal
    cases terminal
  | converged n => rfl
  | exhausted n => rfl

end Branches

/-! ## Steps of the observed optimizer -/

theorem noted_run {α : Type} {step : StateM σ α} {a : α} {w w' : σ} (h : step w = (a, w')) (event : α → Event)
    (es : List Event) : noted event step (w, es) = (a, (w', es ++ [event a])) := by
  show ((step w).1, ((step w).2, es ++ [event (step w).1])) = _
  rw [h]

variable (o : Optimizer (StateM σ))

theorem observed_execute (units : List CompiledUnit) (provided : ProvidedValues) (w : σ) (es : List Event) :
    ∃ id result cleanUp ms w', o.observed.orchestrator.execute units provided (w, es) =
      (reportOn o.orchestrator.skipPolicy units result ms,
        (w', es ++ [.ran ⟨id, units, provided⟩ result, .cleaned ⟨id, units, provided⟩ cleanUp])) := by
  let start := o.orchestrator.surroundings.clock w
  let id := o.orchestrator.surroundings.submissionId start.2
  let result := o.orchestrator.host.run ⟨id.1, units, provided⟩ id.2
  let cleanUp := o.orchestrator.host.cleanUp ⟨id.1, units, provided⟩ result.2
  let stop := o.orchestrator.surroundings.clock cleanUp.2
  refine ⟨id.1, result.1, cleanUp.1, stop.1 - start.1, stop.2, ?_⟩
  rw [← List.singleton_append, ← List.append_assoc]
  rfl

theorem observed_snapshot (s : Specification) (w : σ) (es : List Event) :
    (∃ w', o.observed.snapshot s (w, es) = (.ok (), (w', es ++ o.saves s (.ok ())))) ∨
      ∃ path f w', o.settings.snapshotPath = some path ∧
        o.observed.snapshot s (w, es) = (.error f, (w', es ++ [.saved path s (.error f)])) := by
  unfold snapshot saves
  rw [observed_settings]
  cases o.settings.snapshotPath with
  | none => exact .inl ⟨w, by simp; rfl⟩
  | some path =>
    rcases hw : o.save path s w with ⟨f | _, w'⟩
    · exact .inr ⟨path, f, w', rfl, noted_run hw _ es⟩
    · exact .inl ⟨w', noted_run hw _ es⟩

theorem observed_improve (current : Specification) (report : ResultReport Float) (w : σ) (es : List Event) :
    ∃ result w' tail, o.observed.improve current report (w, es) = (result, (w', es ++ tail)) ∧
      Improved o current report result tail := by
  cases hf : report.fatal with
  | true =>
    refine ⟨.ok current, w, [], ?_, .retry hf⟩
    rw [improve_retry hf, List.append_nil]
  | false =>
    rcases ha : o.provider.text (o.request current report) w with ⟨f | reply, w₁⟩
    · exact ⟨_, w₁, _, improve_unanswered hf (noted_run ha _ es), .unanswered hf f⟩
    · have asked : o.observed.provider.text (o.observed.request current report) (w, es) =
          (.ok reply, (w₁, es ++ [.asked (o.request current report) (.ok reply)])) := noted_run ha _ es
      by_cases hs : adopt current reply.text = current.agent.systemPrompt
      · exact ⟨_, w₁, _, improve_keep hf asked hs, .keep hf hs⟩
      · rcases observed_snapshot o (current.withSystemPrompt (adopt current reply.text)) w₁
          (es ++ [.asked (o.request current report) (.ok reply)]) with ⟨w₂, hw⟩ | ⟨path, f, w₂, hp, hw⟩
        · refine ⟨_, w₂, _, ?_, .change hf hs⟩
          rw [improve_change hf asked hs hw, List.append_assoc]
          rfl
        · refine ⟨_, w₂, _, ?_, .unsaved hf hs hp f⟩
          rw [improve_change hf asked hs hw, List.append_assoc]
          rfl

theorem observed_finish (current : Specification) (state : LoopState) (history : List IterationRecord)
    (runId : String) (start : Nat) (w : σ) (es : List Event) :
    (∃ ms w', o.observed.finish current state history runId start (w, es) =
      (.ok ⟨current, history, state, runId, ms⟩, (w', es ++ o.saves current (.ok ())))) ∨
      ∃ path f w', o.settings.snapshotPath = some path ∧
        o.observed.finish current state history runId start (w, es) =
          (.error ⟨f, history⟩, (w', es ++ [.saved path current (.error f)])) := by
  rcases observed_snapshot o current w es with ⟨w', hw⟩ | ⟨path, f, w', hp, hw⟩
  · exact .inl ⟨_, _, bind_run hw _⟩
  · exact .inr ⟨path, f, w', hp, bind_run hw _⟩

theorem finish_ends {h : Head} {r : IterationRecord} {es : List Event} (ran : Executed o h r es)
    (terminal : r.state.isTerminal = true) (runId : String) (start : Nat) (w : σ) :
    ∃ result w' es', o.observed.finish h.current r.state (h.history ++ [r]) runId start (w, es) =
      (result, (w', es')) ∧ Ends o h result es' := by
  rcases observed_finish o h.current r.state (h.history ++ [r]) runId start w es with
    ⟨ms, w', hw⟩ | ⟨path, f, w', hp, hw⟩
  · exact ⟨_, w', _, hw, .finished ran terminal runId ms⟩
  · exact ⟨_, w', _, hw, .unfinished ran terminal hp f⟩

/-- By induction on the budget that is left. -/
theorem iterate_ends (runId : String) (start : Nat) (h : Head) (w : σ) :
    ∃ h' result w' es, o.observed.iterate runId start h.current h.history.length h.history (w, h.events) =
      (result, (w', es)) ∧ ReflTransGen (Turn o) h h' ∧ Ends o h' result es := by
  induction hn : o.settings.iterations - h.history.length using Nat.strongRecOn generalizing h w with
  | ind n ih =>
    cases hc : Program.compile h.current with
    | error e =>
      rw [iterate_error hc]
      exact ⟨h, _, w, _, rfl, .refl, .refused hc⟩
    | ok program =>
      obtain ⟨id, result, cleanUp, ms, w₁, hx⟩ := observed_execute o program.units (.ofSpec h.current) w h.events
      have ran := Executed.mk (o := o) hc id result cleanUp ms
      generalize reportOn o.orchestrator.skipPolicy program.units result ms = report at ran hx
      cases hs : (o.record h.current h.history.length report).state with
      | running done =>
        have left := LoopState.left_lt_of_step hs
        obtain ⟨rfl, -, -⟩ := LoopState.step_eq_running_iff.1 hs
        obtain ⟨next, w₂, tail, hi, improved⟩ := observed_improve o h.current report w₁ _
        cases next with
        | error f => exact ⟨h, _, w₂, _, iterate_stuck hc hx hs hi _ _ _, .refl, .stuck ran hs improved⟩
        | ok next =>
          have turn := Turn.mk ran hs improved
          have shorter : o.settings.iterations -
              (h.history ++ [o.record h.current h.history.length report]).length < n := by
            rwa [← hn, List.length_append]
          obtain ⟨h', result, w', es, hw, reach, ends⟩ := ih _ shorter ⟨next, _, _⟩ w₂ rfl
          refine ⟨h', result, w', es, ?_, .head turn reach, ends⟩
          rw [iterate_running hc hx hs hi, ← hw, List.length_append]
          rfl
      | _ =>
        have terminal : (o.record h.current h.history.length report).state.isTerminal = true := by rw [hs]; rfl
        obtain ⟨result, w', es, hw, ends⟩ := finish_ends o ran terminal runId start w₁
        exact ⟨h, result, w', es, (iterate_terminal hc hx terminal _ _ _).trans hw, .refl, ends⟩

/-- Every run goes by turns from its first head to one where it ends. -/
theorem optimize_ends (s : Specification) (w : σ) :
    ∃ h, ReflTransGen (Turn o) (.start s) h ∧ Ends o h (o.optimize s w).1 (o.transcript s w) := by
  let start := o.orchestrator.surroundings.clock w
  let runId := o.orchestrator.surroundings.runId start.2
  obtain ⟨h, result, w', es, hw, reach, ends⟩ := iterate_ends o runId.1 start.1 (.start s) runId.2
  obtain ⟨hresult, hevents⟩ := of_observed (o := o) (s := s) (w := w) w' hw
  exact ⟨h, reach, hresult ▸ hevents ▸ ends⟩

end Steps

/-! ## Rounds of a run -/

/-- The records of a run, however it ended. -/
def historyOf : Except OptimizationAborted OptimizationOutcome → List IterationRecord
  | .ok out => out.history
  | .error a => a.history

/-- A round and the record of it: one run, one clean-up of the same submission, and the report on that run. -/
def Recorded (policy : SkipPolicy) (r : IterationRecord) (round : List Event) : Prop :=
  ∃ submission result cleanUp ms tail, round = .ran submission result :: .cleaned submission cleanUp :: tail ∧
    r.report = reportOn policy submission.units result ms

section Induction

variable {σ : Type} {o : Optimizer (StateM σ)} {s : Specification} {h : Head}
  (P : List IterationRecord → List Event → Prop)

/-- What holds at the start, and after an iteration if it held before it, holds at every head. -/
theorem forall_reach (start : P [] []) (step : ∀ h r es tail, ReflTransGen (Turn o) (.start s) h → Executed o h r es →
    Followed o h r tail → P h.history h.events → P (h.history ++ [r]) (es ++ tail))
    (reach : ReflTransGen (Turn o) (.start s) h) : P h.history h.events := by
  induction reach with
  | refl => exact start
  | tail reach turn ih =>
    obtain ⟨ran, running, improved⟩ := turn
    exact step _ _ _ _ reach ran (.searched running improved) ih

/-- The same holds of a run as a whole: it has one iteration for every record. -/
theorem forall_optimize (start : P [] []) (step : ∀ h r es tail, ReflTransGen (Turn o) (.start s) h →
    Executed o h r es → Followed o h r tail → P h.history h.events → P (h.history ++ [r]) (es ++ tail)) (w : σ) :
    P (historyOf (o.optimize s w).1) (o.transcript s w) := by
  obtain ⟨h, reach, ends⟩ := optimize_ends o s w
  have before := forall_reach P start step reach
  generalize (o.optimize s w).1 = result at ends ⊢
  generalize o.transcript s w = es at ends ⊢
  cases ends with
  | refused => exact before
  | stuck ran running improved => exact step _ _ _ _ reach ran (.searched running improved) before
  | @unfinished r es ran terminal path wanted f =>
    have hsaves : o.saves h.current (.error f) = [.saved path h.current (.error f)] := by rw [saves, wanted]; rfl
    rw [← hsaves]
    exact step _ _ _ _ reach ran (.ended terminal _) before
  | finished ran terminal => exact step _ _ _ _ reach ran (.ended terminal _) before

end Induction

section Rounds

variable {σ : Type} {o : Optimizer (StateM σ)} {h : Head} {r : IterationRecord} {es tail : List Event}

theorem saves_noRun (s : Specification) (result : Except Fault Unit) : ∀ e ∈ o.saves s result, e.isRun = false := by
  intro e he
  unfold saves at he
  cases hp : o.settings.snapshotPath with
  | none => simp [hp] at he
  | some path =>
    obtain rfl : e = .saved path s result := by simpa [hp] using he
    rfl

theorem Improved.noRun {current : Specification} {report : ResultReport Float} {result : Except Fault Specification}
    (improved : Improved o current report result tail) : ∀ e ∈ tail, e.isRun = false := by
  intro e he
  cases improved with
  | retry => simp at he
  | unanswered _ f =>
    obtain rfl := List.mem_singleton.1 he
    rfl
  | keep _ _ =>
    obtain rfl := List.mem_singleton.1 he
    rfl
  | change _ _ =>
    rcases List.mem_cons.1 he with rfl | he
    · rfl
    · exact saves_noRun _ _ e he
  | unsaved _ _ _ f =>
    simp only [List.mem_cons, List.not_mem_nil, or_false] at he
    rcases he with rfl | rfl <;> rfl

theorem Followed.noRun (followed : Followed o h r tail) : ∀ e ∈ tail, e.isRun = false := by
  cases followed with
  | searched _ improved => exact improved.noRun
  | ended _ result => exact saves_noRun _ _

/-- An iteration adds one record and, with what follows it, one round. -/
theorem Executed.rounds_append (ran : Executed o h r es) (ht : ∀ e ∈ tail, e.isRun = false) :
    ∃ round, rounds (es ++ tail) = rounds h.events ++ [round] ∧ replies round = replies tail ∧
      Recorded o.orchestrator.skipPolicy r round := by
  obtain ⟨hc, id, result, cleanUp, ms⟩ := ran
  rw [List.append_assoc]
  refine ⟨_, @rounds_append_ran h.events _ _ _ fun e he => ?_, ?_, _, result, cleanUp, ms, tail, rfl, rfl⟩
  · rcases List.mem_cons.1 he with rfl | he
    · rfl
    · exact ht e he
  · rfl

theorem Executed.recorded (ran : Executed o h r es) (followed : Followed o h r tail)
    (hr : List.Forall₂ (Recorded o.orchestrator.skipPolicy) h.history (rounds h.events)) :
    List.Forall₂ (Recorded o.orchestrator.skipPolicy) (h.history ++ [r]) (rounds (es ++ tail)) := by
  obtain ⟨round, hround, -, hrec⟩ := ran.rounds_append followed.noRun
  rw [hround]
  exact List.rel_append hr (.cons hrec .nil)

theorem recorded_of_reach {s : Specification} (reach : ReflTransGen (Turn o) (.start s) h) :
    List.Forall₂ (Recorded o.orchestrator.skipPolicy) h.history (rounds h.events) :=
  forall_reach (fun history es => List.Forall₂ (Recorded o.orchestrator.skipPolicy) history (rounds es)) .nil
    (fun _ _ _ _ _ ran followed hr => ran.recorded followed hr) reach

/-- A run leaves one record for every run of the host. -/
theorem recorded_of_optimize (o : Optimizer (StateM σ)) (s : Specification) (w : σ) :
    List.Forall₂ (Recorded o.orchestrator.skipPolicy) (historyOf (o.optimize s w).1) (rounds (o.transcript s w)) :=
  forall_optimize (fun history es => List.Forall₂ (Recorded o.orchestrator.skipPolicy) history (rounds es)) .nil
    (fun _ _ _ _ _ ran followed hr => ran.recorded followed hr) w

end Rounds

/-! ## Numbers of iterations -/

/-- Records numbered from one on. -/
def Numbered (history : List IterationRecord) : Prop := ∀ k r, history[k]? = some r → r.iteration = k + 1

theorem forall_getElem?_concat {α : Type} {l : List α} {a : α} {P : Nat → α → Prop}
    (hl : ∀ k x, l[k]? = some x → P k x) (ha : P l.length a) : ∀ k x, (l ++ [a])[k]? = some x → P k x := by
  intro k x hk
  rcases Nat.lt_or_ge k l.length with hlt | hge
  · rw [List.getElem?_append_left hlt] at hk
    exact hl k x hk
  · rw [List.getElem?_append_right hge] at hk
    have hk0 : k = l.length := by
      have := (List.getElem?_eq_some_iff.1 hk).1
      simp at this
      omega
    subst hk0
    obtain rfl : a = x := by simpa using hk
    exact ha

section Numbers

variable {σ : Type} {o : Optimizer (StateM σ)} {h : Head} {r : IterationRecord} {es : List Event}

theorem Executed.numbered (ran : Executed o h r es) (hn : Numbered h.history) : Numbered (h.history ++ [r]) :=
  forall_getElem?_concat hn ran.iteration

theorem numbered_of_reach {s : Specification} (reach : ReflTransGen (Turn o) (.start s) h) : Numbered h.history :=
  forall_reach (fun history _ => Numbered history) (by simp [Numbered])
    (fun _ _ _ _ _ ran _ hn => ran.numbered hn) reach

/-- The records of a run are numbered, however it ended. -/
theorem numbered_of_optimize (o : Optimizer (StateM σ)) (s : Specification) (w : σ) :
    Numbered (historyOf (o.optimize s w).1) :=
  forall_optimize (fun history _ => Numbered history) (by simp [Numbered])
    (fun _ _ _ _ _ ran _ hn => ran.numbered hn) w

end Numbers

end AgentTrial.Optimizer
