import AgentTrial.Proofs.Optimizer.Course
import AgentTrial.Proofs.Program.Reference
import AgentTrial.Proofs.Text.Fence

/-!
# Lineage — which prompts a run tries

* `Follows`: the prompt after an iteration is settled by its record and by the replies of its round.
* `Head.Traced`: the invariant.  Every prompt follows from the one before it, and the current specification is the first
  one but for its prompt.
* `optimize_lineage`: the prompts of a finished run, and that none of them is blank unless the first is.
* `scripted`, `optimize_scripted`: a run along a list of replies.
-/

namespace AgentTrial.Optimizer

open Relation

/-- The prompt after a record with these replies.  A fatal report is not asked about; else there is one reply, and it
becomes the prompt unless nothing is left of it. -/
def Follows (r : IterationRecord) (rs : List (Except Fault TextResponse)) (next : String) : Prop :=
  if r.report.fatal then rs = [] ∧ next = r.systemPrompt
  else ∃ reply, rs = [.ok reply] ∧
    next = if Text.unfence reply.text = "" then r.systemPrompt else Text.unfence reply.text

/-- The prompts of a finished run with these events. -/
structure Lineage (s : Specification) (out : OptimizationOutcome) (es : List Event) : Prop where
  first : out.history.head?.map (·.systemPrompt) = some s.agent.systemPrompt
  complete : (rounds es).length = out.history.length
  next : ∀ k r r' round, out.history[k]? = some r → out.history[k + 1]? = some r' →
    (rounds es)[k]? = some round → Follows r (replies round) r'.systemPrompt
  last : ∃ r, out.history.getLast? = some r ∧ out.specification = s.withSystemPrompt r.systemPrompt
  notBlank : Text.isBlankText s.agent.systemPrompt = false →
    (∀ r ∈ out.history, Text.isBlankText r.systemPrompt = false) ∧
      Text.isBlankText out.specification.agent.systemPrompt = false

/-- The prompts that were tried, and the one that is tried next. -/
def Head.prompts (h : Head) : List String := h.history.map (·.systemPrompt) ++ [h.current.agent.systemPrompt]

/-- The prompts of a run that goes on. -/
structure Head.Traced (s : Specification) (h : Head) : Prop where
  current : h.current = s.withSystemPrompt h.current.agent.systemPrompt
  first : h.prompts.head? = some s.agent.systemPrompt
  next : ∀ k (x : IterationRecord × List Event), (h.history.zip (rounds h.events))[k]? = some x →
    ∃ p, h.prompts[k + 1]? = some p ∧ Follows x.1 (replies x.2) p

theorem adopt_eq (current : Specification) (reply : String) : adopt current reply =
    if Text.unfence reply = "" then current.agent.systemPrompt else Text.unfence reply := by
  unfold adopt
  by_cases he : Text.unfence reply = "" <;> simp [he]

section Run

variable {σ : Type} {o : Optimizer (StateM σ)} {s : Specification} {h h' : Head} {r : IterationRecord}
  {es tail : List Event}

theorem replies_saves (t : Specification) (result : Except Fault Unit) : replies (o.saves t result) = [] := by
  unfold saves
  cases o.settings.snapshotPath <;> rfl

theorem Improved.follows {current next : Specification} (hp : r.systemPrompt = current.agent.systemPrompt)
    (improved : Improved o current r.report (.ok next) tail) :
    Follows r (replies tail) next.agent.systemPrompt := by
  unfold Follows
  cases improved with
  | retry fatal =>
    rw [if_pos fatal]
    exact ⟨rfl, hp.symm⟩
  | keep answered same =>
    rw [if_neg (by simp [answered]), hp]
    exact ⟨_, rfl, by rw [← adopt_eq, same]⟩
  | change answered new =>
    rw [if_neg (by simp [answered]), hp]
    refine ⟨_, ?_, by rw [Specification.systemPrompt_withSystemPrompt, adopt_eq]⟩
    show _ :: replies (o.saves _ _) = _
    rw [replies_saves]

/-- Looking for a better prompt changes nothing but the prompt. -/
theorem Improved.onlyPrompt {current next : Specification} {report : ResultReport Float}
    (improved : Improved o current report (.ok next) tail) :
    next = current.withSystemPrompt next.agent.systemPrompt := by
  cases improved with
  | retry => rw [Specification.withSystemPrompt_self]
  | keep => rw [Specification.withSystemPrompt_self]
  | change => rw [Specification.systemPrompt_withSystemPrompt]

theorem Executed.prompts (ran : Executed o h r es) : h.prompts = (h.history ++ [r]).map (·.systemPrompt) := by
  rw [List.map_append, List.map_singleton, ran.systemPrompt]
  rfl

/-- The specification of an iteration is the first one with the prompt of its record. -/
theorem Executed.current (ran : Executed o h r es) (ht : h.Traced s) :
    h.current = s.withSystemPrompt r.systemPrompt := by
  rw [ran.systemPrompt]
  exact ht.current

theorem Turn.traced (turn : Turn o h h') (hr : h.history.length = (rounds h.events).length) (ht : h.Traced s) :
    h'.Traced s := by
  obtain ⟨ran, -, improved⟩ := turn
  obtain ⟨round, hround, hreplies, -⟩ := ran.rounds_append improved.noRun
  refine ⟨?_, ?_, ?_⟩
  · have hn := improved.onlyPrompt
    rw [ht.current, Specification.withSystemPrompt_withSystemPrompt] at hn
    exact hn
  · have hf := ht.first
    rw [ran.prompts] at hf
    rw [Head.prompts, List.head?_append, hf]
    exact Option.some_or
  · rw [hround, List.zip_append hr]
    refine forall_getElem?_concat (fun k x hx => ?_) ?_
    · obtain ⟨p, hp, hf⟩ := ht.next k x hx
      refine ⟨p, ?_, hf⟩
      rw [Head.prompts, ← ran.prompts, List.getElem?_append_left (List.getElem?_eq_some_iff.1 hp).1]
      exact hp
    · refine ⟨_, ?_, hreplies ▸ improved.follows ran.systemPrompt⟩
      rw [Head.prompts, List.getElem?_append_right (by simp [← hr])]
      simp [← hr]

theorem traced_of_reach (reach : ReflTransGen (Turn o) (.start s) h) : h.Traced s := by
  induction reach with
  | refl => exact ⟨rfl, rfl, by simp [Head.start]⟩
  | tail reach turn ih => exact turn.traced (recorded_of_reach reach).length_eq ih

/-- With the record of an iteration, every record but the last is followed by another. -/
theorem Executed.follows (ran : Executed o h r es) (tail_noRun : ∀ e ∈ tail, e.isRun = false)
    (hr : h.history.length = (rounds h.events).length) (ht : h.Traced s) :
    ∀ k r₁ r₂ round, (h.history ++ [r])[k]? = some r₁ → (h.history ++ [r])[k + 1]? = some r₂ →
      (rounds (es ++ tail))[k]? = some round → Follows r₁ (replies round) r₂.systemPrompt := by
  intro k r₁ r₂ round hk hk' hround
  obtain ⟨lastRound, hes, -, -⟩ := ran.rounds_append tail_noRun
  have hlt : k < h.history.length := by
    have := (List.getElem?_eq_some_iff.1 hk').1
    simp only [List.length_append, List.length_singleton] at this
    omega
  rw [List.getElem?_append_left hlt] at hk
  rw [hes, List.getElem?_append_left (by rwa [← hr])] at hround
  obtain ⟨p, hp, hf⟩ := ht.next k (r₁, round) (List.getElem?_zip_eq_some.2 ⟨hk, hround⟩)
  rw [ran.prompts, List.getElem?_map, hk'] at hp
  cases hp
  exact hf

theorem Follows.notBlank {rs : List (Except Fault TextResponse)} {next : String} (hf : Follows r rs next)
    (hb : Text.isBlankText r.systemPrompt = false) : Text.isBlankText next = false := by
  unfold Follows at hf
  split_ifs at hf with fatal
  · rwa [hf.2]
  · obtain ⟨reply, -, rfl⟩ := hf
    split_ifs with he
    · exact hb
    · by_contra hn
      exact he (Text.unfence_of_isBlankText (by simpa using hn))

theorem Turn.notBlank (turn : Turn o h h') (hb : ∀ p ∈ h.prompts, Text.isBlankText p = false) :
    ∀ p ∈ h'.prompts, Text.isBlankText p = false := by
  obtain ⟨ran, -, improved⟩ := turn
  intro p hp
  rw [Head.prompts, ← ran.prompts] at hp
  rcases List.mem_append.1 hp with hp | hp
  · exact hb p hp
  · rw [List.mem_singleton.1 hp]
    refine (improved.follows ran.systemPrompt).notBlank (hb _ ?_)
    rw [ran.prompts]
    simp

theorem notBlank_of_reach (hs : Text.isBlankText s.agent.systemPrompt = false)
    (reach : ReflTransGen (Turn o) (.start s) h) : ∀ p ∈ h.prompts, Text.isBlankText p = false := by
  induction reach with
  | refl =>
    intro p hp
    rwa [List.mem_singleton.1 hp]
  | tail _ turn ih => exact turn.notBlank ih

end Run

/-- The prompts of a finished run follow one from the other, and the specification that is given back is the first one
with the last prompt that was tried. -/
theorem optimize_lineage {σ : Type} (o : Optimizer (StateM σ)) (s : Specification) (w : σ) {out : OptimizationOutcome}
    (done : (o.optimize s w).1 = .ok out) : Lineage s out (o.transcript s w) := by
  have complete := (recorded_of_optimize o s w).length_eq
  obtain ⟨h, reach, ends⟩ := optimize_ends o s w
  have ht := traced_of_reach reach
  have hr := recorded_of_reach reach
  rw [done] at ends complete
  generalize o.transcript s w = es at ends complete ⊢
  cases ends with
  | @finished r es ran terminal runId ms =>
    refine ⟨?_, complete.symm, ?_, ⟨r, List.getLast?_concat, ?_⟩, fun hs => ⟨?_, ?_⟩⟩
    · rw [← List.head?_map, ← ran.prompts]
      exact ht.first
    · exact ran.follows (saves_noRun _ _) hr.length_eq ht
    · rw [ran.systemPrompt]
      exact ht.current
    · intro r' hr'
      refine notBlank_of_reach hs reach _ ?_
      rw [ran.prompts]
      exact List.mem_map_of_mem hr'
    · exact notBlank_of_reach hs reach _ (by simp [Head.prompts])

/-! ## Runs along a list of replies -/

/-- The report on no units. -/
def emptyReport (units : List CompiledUnit) : ResultReport Float := reportOn .exclude units (.ok ⟨true, []⟩) 0

theorem answered_emptyReport (units : List CompiledUnit) : (emptyReport units).fatal = false := rfl

theorem unmet_emptyReport (units : List CompiledUnit) : (emptyReport units).meetsThreshold 100 = false := by
  show Score.atMost (100 : Float) (Score.ofCount 0) = false
  decide +kernel

/-- An optimizer whose host has no units to report on.  The provider gives the replies of a list, one after the other,
and every snapshot ends alike. -/
def scripted (budget : Nat) (saved : Except Fault Unit) : Optimizer (StateM (List String)) where
  orchestrator :=
    { host :=
        { name := "empty"
          run := fun _ => pure (.ok ⟨true, []⟩)
          cleanUp := fun _ => pure (.ok ()) }
      skipPolicy := .exclude
      surroundings := ⟨pure "", pure "", pure 0⟩ }
  provider :=
    { name := "scripted"
      text := fun _ replies =>
        match replies with
        | [] => (.error (.provider "no reply"), [])
        | reply :: rest => (.ok ⟨reply, ⟨0, 0⟩⟩, rest)
      structured := fun _ => pure (.error (.provider "no reply")) }
  settings :=
    { model := "m", iterations := budget, minPassRate := 100, strategy := .errorFocused, feedbackPrompt := none
      snapshotPath := some "a.json" }
  save := fun _ _ => pure saved

section Scripted

variable {budget completed : Nat} {saved : Except Fault Unit} {current s t v : Specification}
  {units : List CompiledUnit} {reply first second : String} {rest : List String}

theorem asked_scripted (request : TextRequest) :
    (scripted budget saved).provider.text request (reply :: rest) = (.ok ⟨reply, ⟨0, 0⟩⟩, rest) := rfl

theorem execute_scripted (provided : ProvidedValues) :
    (scripted budget saved).orchestrator.execute units provided rest = (emptyReport units, rest) := rfl

theorem state_scripted_running (left : completed + 1 < budget) :
    ((scripted budget saved).record current completed (emptyReport units)).state = .running (completed + 1) :=
  LoopState.step_eq_running_iff.2 ⟨rfl, unmet_emptyReport units, left⟩

theorem state_scripted_exhausted (spent : budget = completed + 1) :
    ((scripted budget saved).record current completed (emptyReport units)).state = .exhausted budget := by
  subst spent
  exact LoopState.step_eq_exhausted_iff.2 ⟨rfl, unmet_emptyReport units, Nat.le_refl _⟩

theorem improve_scripted : (scripted budget (.ok ())).improve current (emptyReport units) (reply :: rest) =
    (.ok (current.withSystemPrompt (adopt current reply)), rest) := by
  have answered := answered_emptyReport units
  by_cases same : adopt current reply = current.agent.systemPrompt
  · rw [improve_keep answered (asked_scripted _) same, same, Specification.withSystemPrompt_self]
  · rw [improve_change answered (asked_scripted _) same rfl]
    rfl

/-- A run with two replies spends its budget.  Each of them gives the prompt of the iteration after it. -/
theorem optimize_scripted (rest : List String) (compiles : ∃ program, Program.compile s = .ok program)
    (ht : t = s.withSystemPrompt (adopt s first)) (hv : v = t.withSystemPrompt (adopt t second)) :
    ∃ u₁ u₂ u₃, ((scripted 3 (.ok ())).optimize s (first :: second :: rest)).1 =
      .ok ⟨v, [(scripted 3 (.ok ())).record s 0 (emptyReport u₁), (scripted 3 (.ok ())).record t 1 (emptyReport u₂),
        (scripted 3 (.ok ())).record v 2 (emptyReport u₃)], .exhausted 3, "", 0⟩ := by
  have compiles' : ∃ program, Program.compile t = .ok program := ht ▸ Program.compiles_withSystemPrompt_iff.2 compiles
  have compiles'' : ∃ program, Program.compile v = .ok program := hv ▸ Program.compiles_withSystemPrompt_iff.2 compiles'
  obtain ⟨p₁, h₁⟩ := compiles
  obtain ⟨p₂, h₂⟩ := compiles'
  obtain ⟨p₃, h₃⟩ := compiles''
  have first_improved : (scripted 3 (.ok ())).improve s (emptyReport p₁.units) (first :: second :: rest) =
      (.ok t, second :: rest) := ht ▸ improve_scripted
  have second_improved : (scripted 3 (.ok ())).improve t (emptyReport p₂.units) (second :: rest) = (.ok v, rest) :=
    hv ▸ improve_scripted
  refine ⟨p₁.units, p₂.units, p₃.units, ?_⟩
  show ((scripted 3 (.ok ())).iterate "" 0 s 0 [] (first :: second :: rest)).1 = _
  rw [iterate_running h₁ (execute_scripted _) (state_scripted_running (by omega)) first_improved,
    iterate_running h₂ (execute_scripted _) (state_scripted_running (by omega)) second_improved,
    iterate_terminal h₃ (execute_scripted _) (by rw [state_scripted_exhausted rfl]; rfl), state_scripted_exhausted rfl]
  rfl

end Scripted

/-- The first reply is adopted without its fence, and of the second one nothing is left. -/
theorem optimize_lineage_scripted : ∃ out,
    ((scripted 3 (.ok ())).optimize bare ["```text\nq\n```", "```\n```"]).1 = .ok out ∧
    out.history.map (·.systemPrompt) = ["p", "q", "q"] ∧ out.specification = bare.withSystemPrompt "q" ∧
    Lineage bare out ((scripted 3 (.ok ())).transcript bare ["```text\nq\n```", "```\n```"]) := by
  have adopted : adopt bare "```text\nq\n```" = "q" := by decide +kernel
  have kept : adopt (bare.withSystemPrompt "q") "```\n```" = "q" := by decide +kernel
  have compiles : ∃ program, Program.compile bare = .ok program := ⟨_, rfl⟩
  obtain ⟨u₁, u₂, u₃, done⟩ := optimize_scripted [] compiles (congrArg bare.withSystemPrompt adopted.symm)
    (congrArg (bare.withSystemPrompt "q").withSystemPrompt kept.symm)
  exact ⟨_, done, rfl, rfl, optimize_lineage _ bare _ done⟩

end AgentTrial.Optimizer
