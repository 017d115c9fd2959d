import AgentTrial.Part
import AgentTrial.Proofs.Optimizer.Simulation

/-!
# Transcript — what an optimization asks its surroundings for

Host, provider and snapshot act on a state of any type, so they may answer in any way and depend on everything that
happened before.  `Optimizer.observed` is the optimizer with each of their answers noted as an `Event`, and
`Optimizer.transcript` the list of events of a run.

* `observed_optimize`: noting changes nothing, so the transcript is that of the run itself.
* `rounds`: a transcript cut before every run of the host, one round for each iteration.
-/

namespace AgentTrial.Optimizer

/-- What was asked for, with the answer. -/
inductive Event
  | ran (submission : Submission) (result : Except Fault HostReport)
  | cleaned (submission : Submission) (result : Except Fault Unit)
  | asked (request : TextRequest) (reply : Except Fault TextResponse)
  | queried (request : StructuredRequest) (reply : Except Fault Json)
  | saved (path : String) (s : Specification) (result : Except Fault Unit)

variable {σ α β : Type}

/-- A step that is noted with its answer. -/
def noted (event : α → Event) (step : StateM σ α) : StateM (σ × List Event) α := fun p =>
  ((step p.1).1, ((step p.1).2, p.2 ++ [event (step p.1).1]))

/-- A step that is not noted. -/
def unnoted (step : StateM σ α) : StateM (σ × List Event) α := onPart Prod.fst (fun w p => (w, p.2)) step

/-- The optimizer with the answers of its surroundings noted. -/
def observed (o : Optimizer (StateM σ)) : Optimizer (StateM (σ × List Event)) where
  orchestrator :=
    { host :=
        { name := o.orchestrator.host.name
          run := fun s => noted (.ran s) (o.orchestrator.host.run s)
          cleanUp := fun s => noted (.cleaned s) (o.orchestrator.host.cleanUp s) }
      skipPolicy := o.orchestrator.skipPolicy
      surroundings :=
        { submissionId := unnoted o.orchestrator.surroundings.submissionId
          runId := unnoted o.orchestrator.surroundings.runId
          clock := unnoted o.orchestrator.surroundings.clock } }
  provider :=
    { name := o.provider.name
      text := fun r => noted (.asked r) (o.provider.text r)
      structured := fun r => noted (.queried r) (o.provider.structured r) }
  settings := o.settings
  save path s := noted (.saved path s) (o.save path s)

@[simp] theorem observed_settings (o : Optimizer (StateM σ)) : o.observed.settings = o.settings := rfl

@[simp] theorem observed_record (o : Optimizer (StateM σ)) (current : Specification) (completed : Nat)
    (report : ResultReport Float) :
    o.observed.record current completed report = o.record current completed report := rfl

/-- The events of an optimization. -/
def transcript (o : Optimizer (StateM σ)) (s : Specification) (w : σ) : List Event :=
  (o.observed.optimize s (w, [])).2.2

/-! ## Rounds -/

/-- Is this a run of the host? -/
def Event.isRun : Event → Bool
  | ran _ _ => true
  | _ => false

/-- The reply of the provider to a request for a text. -/
def Event.reply? : Event → Option (Except Fault TextResponse)
  | asked _ reply => some reply
  | _ => none

/-- The events before the first run of the host, and from there on one list for every run. -/
def splitRounds : List Event → List Event × List (List Event)
  | [] => ([], [])
  | e :: es =>
    let (before, rest) := splitRounds es
    if e.isRun then ([], (e :: before) :: rest) else (e :: before, rest)

/-- The events cut before every run of the host. -/
def rounds (es : List Event) : List (List Event) := (splitRounds es).2

/-- The replies among events. -/
def replies (es : List Event) : List (Except Fault TextResponse) := es.filterMap Event.reply?

theorem splitRounds_of_noRun {es : List Event} (h : ∀ e ∈ es, e.isRun = false) : splitRounds es = (es, []) := by
  induction es with
  | nil => rfl
  | cons e es ih =>
    have he : e.isRun = false := h e (by simp)
    rw [splitRounds, ih fun e' he' => h e' (by simp [he'])]
    simp [he]

theorem splitRounds_append {es fs : List Event} {rs : List (List Event)} (h : splitRounds fs = ([], rs)) :
    splitRounds (es ++ fs) = ((splitRounds es).1, (splitRounds es).2 ++ rs) := by
  induction es with
  | nil => exact h
  | cons e es ih =>
    rw [List.cons_append, splitRounds, ih, splitRounds]
    cases e.isRun <;> simp

/-- A run of the host begins a new round. -/
theorem rounds_append_ran {es tail : List Event} {s : Submission} {r : Except Fault HostReport}
    (h : ∀ e ∈ tail, e.isRun = false) : rounds (es ++ .ran s r :: tail) = rounds es ++ [.ran s r :: tail] := by
  have hr : splitRounds (.ran s r :: tail) = ([], [.ran s r :: tail]) := by
    rw [splitRounds, splitRounds_of_noRun h]
    rfl
  rw [rounds, splitRounds_append hr]
  rfl

/-! ## Noting changes nothing -/

/-- The first computation does what the second does, and notes events beside it. -/
def Shadows (x : StateM (σ × List Event) α) (y : StateM σ α) : Prop :=
  ∀ p, (x p).1 = (y p.1).1 ∧ (x p).2.1 = (y p.1).2

theorem shadows_iff_matches {x : StateM (σ × List Event) α} {y : StateM σ α} :
    Shadows x y ↔ Matches (fun p w => p.1 = w) x y := by
  constructor
  · rintro h p _ rfl
    exact h p
  · intro h p
    exact h p p.1 rfl

theorem matches_noted (event : α → Event) (step : StateM σ α) : Matches (fun p w => p.1 = w) (noted event step) step :=
  shadows_iff_matches.1 fun _ => ⟨rfl, rfl⟩

theorem matches_unnoted (step : StateM σ α) : Matches (fun p w => p.1 = w) (unnoted step) step :=
  shadows_iff_matches.1 fun _ => ⟨rfl, rfl⟩

section Erasure

variable (o : Optimizer (StateM σ))

theorem simulates_observed : Simulates (fun p w => p.1 = w) o.observed o where
  settings := rfl
  skipPolicy := rfl
  submissionId := matches_unnoted _
  runId := matches_unnoted _
  clock := matches_unnoted _
  run _ := matches_noted _ _
  cleanUp _ _ _ h := (matches_noted _ _ _ _ h).2
  text _ := matches_noted _ _
  save _ _ _ := matches_noted _ _

theorem shadows_optimize (s : Specification) : Shadows (o.observed.optimize s) (o.optimize s) :=
  shadows_iff_matches.2 ((simulates_observed o).optimize s)

/-- The observed run ends as the run itself does. -/
theorem observed_optimize (s : Specification) (w : σ) (es : List Event) :
    (o.observed.optimize s (w, es)).1 = (o.optimize s w).1 :=
  (shadows_optimize o s (w, es)).1

variable {o}

/-- How a run ends and what happened in it, read off the observed run. -/
theorem of_observed {s : Specification} {w : σ} {result : Except OptimizationAborted OptimizationOutcome}
    {es : List Event} (w' : σ) (h : o.observed.optimize s (w, []) = (result, (w', es))) :
    (o.optimize s w).1 = result ∧ o.transcript s w = es := by
  rw [← observed_optimize o s w [], transcript, h]
  exact ⟨rfl, rfl⟩

end Erasure

end AgentTrial.Optimizer
