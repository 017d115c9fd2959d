import AgentTrial.Proofs.Optimizer.Lineage
import AgentTrial.Proofs.Program.Reference

/-!
# Abort — what stops a run that gives no outcome

* `Refused`, `Unanswered`, `Unsaved`: the three ways to stop, told apart by what happened last.
* `optimize_aborted`: an aborted run stopped in exactly one of them, and it keeps the records of all iterations whose
  run of the host is over.
* `scripted_refused`, `scripted_unanswered`, `scripted_unsaved`, `scripted_unfinished`: a run for each of them.
-/

namespace AgentTrial.Optimizer

open Relation

/-- The specification does not compile, and nothing was done. -/
def Refused (s : Specification) (a : OptimizationAborted) (es : List Event) : Prop :=
  (∃ e, a.fault = .compile e ∧ Program.compile s = .error e) ∧ a.history = [] ∧ es = []

section Ways

variable {σ : Type} (o : Optimizer (StateM σ)) (s : Specification) (a : OptimizationAborted) (es : List Event)

/-- The last record asks for a better prompt. -/
def Wanting (r : IterationRecord) : Prop :=
  a.history.getLast? = some r ∧ r.state = .running a.history.length ∧ r.report.fatal = false

/-- The provider did not reply to the request about the last record. -/
def Unanswered : Prop :=
  ∃ r, Wanting a r ∧
    es.getLast? = some (.asked (o.request (s.withSystemPrompt r.systemPrompt) r.report) (.error a.fault))

/-- The reply about the last record changed the prompt to this one. -/
def Changed (r : IterationRecord) (prompt : String) : Prop :=
  Wanting a r ∧ ∃ round reply, (rounds es).getLast? = some round ∧ replies round = [.ok reply] ∧
    Text.unfence reply.text = prompt ∧ prompt ≠ "" ∧ prompt ≠ r.systemPrompt

/-- A snapshot was not written: that of a changed prompt, or that of a finished run. -/
def Unsaved : Prop :=
  ∃ r path prompt, a.history.getLast? = some r ∧ o.settings.snapshotPath = some path ∧
    es.getLast? = some (.saved path (s.withSystemPrompt prompt) (.error a.fault)) ∧
    (Changed a es r prompt ∨ r.state.isTerminal = true ∧ prompt = r.systemPrompt)

/-- An aborted optimization with these events. -/
structure Aborted : Prop where
  numbered : Numbered a.history
  complete : List.Forall₂ (Recorded o.orchestrator.skipPolicy) a.history (rounds es)
  cause : Refused s a es ∨ Unanswered o s a es ∨ Unsaved o s a es
  once : ¬ (Refused s a es ∧ Unanswered o s a es) ∧ ¬ (Refused s a es ∧ Unsaved o s a es) ∧
    ¬ (Unanswered o s a es ∧ Unsaved o s a es)

end Ways

theorem adopt_ne_iff {current : Specification} {reply : String} :
    adopt current reply ≠ current.agent.systemPrompt ↔
      adopt current reply = Text.unfence reply ∧ Text.unfence reply ≠ "" ∧
        Text.unfence reply ≠ current.agent.systemPrompt := by
  rw [adopt_eq]
  split_ifs with he <;> simp [he]

section Run

variable {σ : Type} {o : Optimizer (StateM σ)} {s : Specification} {a : OptimizationAborted} {h : Head}
  {r : IterationRecord} {es tail : List Event}

theorem Refused.last (refused : Refused s a es) : es.getLast? = none := by
  obtain ⟨-, -, rfl⟩ := refused
  rfl

theorem Unanswered.last (unanswered : Unanswered o s a es) :
    ∃ request reply, es.getLast? = some (.asked request reply) := by
  obtain ⟨r, -, hlast⟩ := unanswered
  exact ⟨_, _, hlast⟩

theorem Unsaved.last (unsaved : Unsaved o s a es) : ∃ path t result, es.getLast? = some (.saved path t result) := by
  obtain ⟨r, path, prompt, -, -, hlast, -⟩ := unsaved
  exact ⟨_, _, _, hlast⟩

/-- The three ways differ in what happened last. -/
theorem way_once : ¬ (Refused s a es ∧ Unanswered o s a es) ∧ ¬ (Refused s a es ∧ Unsaved o s a es) ∧
    ¬ (Unanswered o s a es ∧ Unsaved o s a es) := by
  refine ⟨?_, ?_, ?_⟩
  · rintro ⟨refused, unanswered⟩
    obtain ⟨_, _, hasked⟩ := unanswered.last
    cases refused.last.symm.trans hasked
  · rintro ⟨refused, unsaved⟩
    obtain ⟨_, _, _, hsaved⟩ := unsaved.last
    cases refused.last.symm.trans hsaved
  · rintro ⟨unanswered, unsaved⟩
    obtain ⟨_, _, hasked⟩ := unanswered.last
    obtain ⟨_, _, _, hsaved⟩ := unsaved.last
    cases hasked.symm.trans hsaved

/-- What compiled once compiles with every later prompt. -/
theorem compiles_of_reach (reach : ReflTransGen (Turn o) (.start s) h) (later : h.history ≠ []) :
    ∃ program, Program.compile h.current = .ok program := by
  rcases reach.cases_tail with rfl | ⟨h₀, reach₀, turn⟩
  · exact absurd rfl later
  · have hs : ∃ program, Program.compile s = .ok program := by
      obtain ⟨ran, -, -⟩ := turn
      obtain ⟨program, compiled⟩ := ran.compiles
      rw [(traced_of_reach reach₀).current] at compiled
      exact Program.compiles_withSystemPrompt_iff.1 ⟨program, compiled⟩
    rw [(traced_of_reach reach).current]
    exact Program.compiles_withSystemPrompt_iff.2 hs

theorem refused_of_reach {e : CompileError} (reach : ReflTransGen (Turn o) (.start s) h)
    (failed : Program.compile h.current = .error e) : Refused s ⟨.compile e, h.history⟩ h.events := by
  rcases reach.cases_tail with rfl | ⟨h₀, -, turn⟩
  · exact ⟨⟨e, rfl, failed⟩, rfl, rfl⟩
  · have later : h.history ≠ [] := by
      cases turn
      simp
    obtain ⟨program, compiled⟩ := compiles_of_reach reach later
    rw [failed] at compiled
    cases compiled

theorem stuck_way {f : Fault} (ht : h.Traced s) (ran : Executed o h r es) (running : r.state = .running r.iteration)
    (improved : Improved o h.current r.report (.error f) tail) :
    Unanswered o s ⟨f, h.history ++ [r]⟩ (es ++ tail) ∨ Unsaved o s ⟨f, h.history ++ [r]⟩ (es ++ tail) := by
  have hlast : (h.history ++ [r]).getLast? = some r := List.getLast?_concat
  have hwanting : r.report.fatal = false → Wanting ⟨f, h.history ++ [r]⟩ r := by
    intro answered
    refine ⟨hlast, ?_, answered⟩
    rw [running, ran.iteration]
    simp
  have hcurrent := ran.current ht
  obtain ⟨round, hround, hreplies, -⟩ := ran.rounds_append improved.noRun
  cases improved with
  | unanswered answered f =>
    refine .inl ⟨r, hwanting answered, ?_⟩
    rw [List.getLast?_concat, ← hcurrent]
  | @unsaved answered reply new path wanted f =>
    obtain ⟨ha, hne, hnew⟩ := adopt_ne_iff.1 new
    rw [← ran.systemPrompt] at hnew
    refine .inr ⟨r, path, Text.unfence reply.text, hlast, wanted, ?_, .inl ?_⟩
    · rw [ha, hcurrent, Specification.withSystemPrompt_withSystemPrompt]
      simp
    · refine ⟨hwanting answered, round, reply, ?_, hreplies, rfl, hne, hnew⟩
      rw [hround]
      exact List.getLast?_concat

theorem unfinished_way {path : String} (ht : h.Traced s) (ran : Executed o h r es)
    (terminal : r.state.isTerminal = true) (wanted : o.settings.snapshotPath = some path) (f : Fault) :
    Unsaved o s ⟨f, h.history ++ [r]⟩ (es ++ [.saved path h.current (.error f)]) := by
  refine ⟨r, path, r.systemPrompt, List.getLast?_concat, wanted, ?_, .inr ⟨terminal, rfl⟩⟩
  rw [List.getLast?_concat, ran.systemPrompt, ← ht.current]

theorem way_of_ends (reach : ReflTransGen (Turn o) (.start s) h) (ends : Ends o h (.error a) es) :
    Refused s a es ∨ Unanswered o s a es ∨ Unsaved o s a es := by
  have ht := traced_of_reach reach
  cases ends with
  | refused failed => exact .inl (refused_of_reach reach failed)
  | stuck ran running improved => exact .inr (stuck_way ht ran running improved)
  | unfinished ran terminal wanted f => exact .inr (.inr (unfinished_way ht ran terminal wanted f))

end Run

/-! ## The way, told by what happened last -/

section Last

variable {σ : Type} {o : Optimizer (StateM σ)} {s : Specification} {a : OptimizationAborted} {es : List Event}

theorem Aborted.refused (h : Aborted o s a es) (nothing : es.getLast? = none) : Refused s a es := by
  rcases h.cause with refused | unanswered | unsaved
  · exact refused
  · obtain ⟨_, _, hasked⟩ := unanswered.last
    cases nothing.symm.trans hasked
  · obtain ⟨_, _, _, hsaved⟩ := unsaved.last
    cases nothing.symm.trans hsaved

theorem Aborted.unanswered {request : TextRequest} {reply : Except Fault TextResponse} (h : Aborted o s a es)
    (last : es.getLast? = some (.asked request reply)) : Unanswered o s a es := by
  rcases h.cause with refused | unanswered | unsaved
  · cases refused.last.symm.trans last
  · exact unanswered
  · obtain ⟨_, _, _, hsaved⟩ := unsaved.last
    cases last.symm.trans hsaved

theorem Aborted.unsaved {path : String} {t : Specification} {result : Except Fault Unit} (h : Aborted o s a es)
    (last : es.getLast? = some (.saved path t result)) : Unsaved o s a es := by
  rcases h.cause with refused | unanswered | unsaved
  · cases refused.last.symm.trans last
  · obtain ⟨_, _, hasked⟩ := unanswered.last
    cases hasked.symm.trans last
  · exact unsaved

end Last

/-- What an aborted run keeps, and what stopped it.  After the first iteration that is never the compiler: whether a
specification compiles does not depend on its prompt. -/
theorem optimize_aborted {σ : Type} (o : Optimizer (StateM σ)) (s : Specification) (w : σ) :
    (∀ a, (o.optimize s w).1 = .error a → Aborted o s a (o.transcript s w)) ∧
    (∀ h, ReflTransGen (Turn o) (.start s) h → h.history ≠ [] → ∃ program, Program.compile h.current = .ok program) ∧
    ∀ prompt e, Program.compile (s.withSystemPrompt prompt) = .error e ↔ Program.compile s = .error e := by
  refine ⟨fun a stopped => ?_, fun h reach later => compiles_of_reach reach later, fun _ _ =>
    Program.compile_withSystemPrompt_error_iff⟩
  have numbered := numbered_of_optimize o s w
  have complete := recorded_of_optimize o s w
  obtain ⟨h, reach, ends⟩ := optimize_ends o s w
  rw [stopped] at numbered complete ends
  exact ⟨numbered, complete, way_of_ends reach ends, way_once⟩

/-! ## Runs that stop -/

section Scripted

variable {budget : Nat} {saved : Except Fault Unit} {f : Fault} {s : Specification} {program : SourceProgram}
  {replies : List String}

/-- What a host without units to report on leaves behind. -/
def emptyRound (s : Specification) (units : List CompiledUnit) : List Event :=
  [.ran ⟨"", units, .ofSpec s⟩ (.ok ⟨true, []⟩), .cleaned ⟨"", units, .ofSpec s⟩ (.ok ())]

theorem observed_execute_scripted (units : List CompiledUnit) :
    (scripted budget saved).observed.orchestrator.execute units (.ofSpec s) (replies, []) =
      (emptyReport units, (replies, emptyRound s units)) := rfl

/-- A new prompt whose snapshot ends this way. -/
theorem observed_improve_scripted {reply : String} (units : List CompiledUnit) (es : List Event)
    (new : adopt s reply ≠ s.agent.systemPrompt) :
    (scripted budget saved).observed.improve s (emptyReport units) (reply :: replies, es) =
      (saved.map fun _ => s.withSystemPrompt (adopt s reply), (replies, es ++
        [.asked ((scripted budget saved).request s (emptyReport units)) (.ok ⟨reply, ⟨0, 0⟩⟩)] ++
        [.saved "a.json" (s.withSystemPrompt (adopt s reply)) saved])) := by
  have asked : (scripted budget saved).observed.provider.text
      ((scripted budget saved).observed.request s (emptyReport units)) (reply :: replies, es) =
      (.ok ⟨reply, ⟨0, 0⟩⟩, (replies, es ++
        [.asked ((scripted budget saved).request s (emptyReport units)) (.ok ⟨reply, ⟨0, 0⟩⟩)])) := rfl
  have snapshot (t : Specification) (es : List Event) : (scripted budget saved).observed.snapshot t (replies, es) =
      (saved, (replies, es ++ [.saved "a.json" t saved])) := rfl
  rw [improve_change (answered_emptyReport units) asked new (snapshot _ _)]

theorem scripted_refused {e : CompileError} (failed : Program.compile s = .error e) :
    ((scripted budget saved).optimize s replies).1 = .error ⟨.compile e, []⟩ ∧
      (scripted budget saved).transcript s replies = [] := by
  refine of_observed replies ?_
  show (scripted budget saved).observed.iterate "" 0 s 0 [] (replies, []) = _
  rw [iterate_error failed]
  rfl

theorem scripted_unanswered (compiled : Program.compile s = .ok program) (left : 1 < budget) :
    ((scripted budget saved).optimize s []).1 =
      .error ⟨.provider "no reply", [(scripted budget saved).record s 0 (emptyReport program.units)]⟩ ∧
      (scripted budget saved).transcript s [] = emptyRound s program.units ++
        [.asked ((scripted budget saved).request s (emptyReport program.units)) (.error (.provider "no reply"))] := by
  have running : ((scripted budget saved).record s 0 (emptyReport program.units)).state = .running 1 :=
    state_scripted_running left
  refine of_observed [] ?_
  exact iterate_stuck compiled (observed_execute_scripted _) running (improve_unanswered rfl rfl) _ _ _

/-- The snapshot of a new prompt is not written. -/
theorem scripted_unsaved {reply : String} (compiled : Program.compile s = .ok program) (left : 1 < budget)
    (new : adopt s reply ≠ s.agent.systemPrompt) :
    ((scripted budget (.error f)).optimize s [reply]).1 =
      .error ⟨f, [(scripted budget (.error f)).record s 0 (emptyReport program.units)]⟩ ∧
      (scripted budget (.error f)).transcript s [reply] = emptyRound s program.units ++
        [.asked ((scripted budget (.error f)).request s (emptyReport program.units)) (.ok ⟨reply, ⟨0, 0⟩⟩),
          .saved "a.json" (s.withSystemPrompt (adopt s reply)) (.error f)] := by
  have running : ((scripted budget (.error f)).record s 0 (emptyReport program.units)).state = .running 1 :=
    state_scripted_running left
  refine of_observed [] ?_
  refine (iterate_stuck compiled (observed_execute_scripted _) running (observed_improve_scripted _ _ new) _ _ _).trans ?_
  rw [List.append_assoc]
  rfl

/-- The last snapshot is not written. -/
theorem scripted_unfinished (compiled : Program.compile s = .ok program) :
    ((scripted 1 (.error f)).optimize s replies).1 =
      .error ⟨f, [(scripted 1 (.error f)).record s 0 (emptyReport program.units)]⟩ ∧
      (scripted 1 (.error f)).transcript s replies =
        emptyRound s program.units ++ [.saved "a.json" s (.error f)] := by
  have exhausted : ((scripted 1 (.error f)).record s 0 (emptyReport program.units)).state = .exhausted 1 :=
    state_scripted_exhausted rfl
  refine of_observed replies ?_
  exact (iterate_terminal compiled (observed_execute_scripted _) (by rw [observed_record, exhausted]; rfl) _ _ _).trans rfl

end Scripted

/-- A specification with a case in which the user says nothing. -/
def unheard : Specification := { bare with benchmarks := [⟨"b", [], [], ⟨"j", "v", none, none⟩⟩] }

/-- One run for each way to stop, and the last one for the snapshot of a run that is over. -/
theorem optimize_aborted_scripted :
    (∃ a, ((scripted 2 (.ok ())).optimize unheard []).1 = .error a ∧
      Refused unheard a ((scripted 2 (.ok ())).transcript unheard [])) ∧
    (∃ a, ((scripted 2 (.ok ())).optimize bare []).1 = .error a ∧ a.history.length = 1 ∧
      Unanswered (scripted 2 (.ok ())) bare a ((scripted 2 (.ok ())).transcript bare [])) ∧
    (∃ a, ((scripted 2 (.error (.store .noSpace))).optimize bare ["q"]).1 = .error a ∧ a.history.length = 1 ∧
      Unsaved (scripted 2 (.error (.store .noSpace))) bare a
        ((scripted 2 (.error (.store .noSpace))).transcript bare ["q"])) ∧
    ∃ a, ((scripted 1 (.error (.store .noSpace))).optimize bare []).1 = .error a ∧
      Unsaved (scripted 1 (.error (.store .noSpace))) bare a
        ((scripted 1 (.error (.store .noSpace))).transcript bare []) := by
  obtain ⟨e, failed⟩ : ∃ e, Program.compile unheard = .error e := ⟨_, rfl⟩
  obtain ⟨program, compiled⟩ : ∃ program, Program.compile bare = .ok program := ⟨_, rfl⟩
  have adopted : adopt bare "q" = "q" := by decide +kernel
  have new : adopt bare "q" ≠ bare.agent.systemPrompt := by rw [adopted]; decide
  refine ⟨?_, ?_, ?_, ?_⟩
  · obtain ⟨stopped, events⟩ := scripted_refused failed
    exact ⟨_, stopped, ((optimize_aborted _ _ _).1 _ stopped).refused (by rw [events]; rfl)⟩
  · obtain ⟨stopped, events⟩ := scripted_unanswered compiled Nat.one_lt_two
    have last := (congrArg List.getLast? events).trans List.getLast?_concat
    exact ⟨_, stopped, rfl, ((optimize_aborted _ _ _).1 _ stopped).unanswered last⟩
  · obtain ⟨stopped, events⟩ := scripted_unsaved compiled Nat.one_lt_two new
    have last : _ = some (Event.saved "a.json" _ _) := congrArg List.getLast? events
    exact ⟨_, stopped, rfl, ((optimize_aborted _ _ _).1 _ stopped).unsaved last⟩
  · obtain ⟨stopped, events⟩ := scripted_unfinished compiled
    have last := (congrArg List.getLast? events).trans List.getLast?_concat
    exact ⟨_, stopped, ((optimize_aborted _ _ _).1 _ stopped).unsaved last⟩

end AgentTrial.Optimizer
