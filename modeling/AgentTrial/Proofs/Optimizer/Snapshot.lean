import AgentTrial.Proofs.Optimizer.Abort
import AgentTrial.Proofs.Optimizer.Chronicle
import AgentTrial.Proofs.Optimizer.Conduct

/-!
# Snapshot — the snapshot is never behind the run

* `held`: what the snapshot holds when these prompts were tried.  It is left alone until a prompt differs from the
  first one.
* `Executed.sightings`: what is seen of it in one iteration.
* `optimize_snapshots`: what is seen of it at every event of a run, and at its end.
-/

namespace AgentTrial.Optimizer

open Relation

/-! ## What the snapshot holds -/

/-- What the snapshot holds once these prompts were tried: what it held at first as long as they are all the prompt of
the specification, and after that the document of the specification with the last of them. -/
def held (initial : Option String) (s : Specification) (path : String) (prompts : List String) : Option String :=
  if ∀ p ∈ prompts, p = s.agent.systemPrompt then initial
  else some ((s.withSystemPrompt (prompts.getLastD s.agent.systemPrompt)).render (.ofPath path))

section Held

variable {initial : Option String} {s : Specification} {path p q : String} {prompts : List String}

theorem held_first : held initial s path [s.agent.systemPrompt] = initial :=
  if_pos fun _ hp => List.mem_singleton.1 hp

/-- Trying a prompt once more changes nothing. -/
theorem held_same (last : prompts.getLast? = some p) :
    held initial s path (prompts ++ [p]) = held initial s path prompts := by
  have hmem : p ∈ prompts := List.mem_of_getLast? last
  have hall : (∀ q ∈ prompts ++ [p], q = s.agent.systemPrompt) ↔ ∀ q ∈ prompts, q = s.agent.systemPrompt := by
    constructor
    · intro h q hq
      exact h q (List.mem_append_left _ hq)
    · intro h q hq
      rcases List.mem_append.1 hq with hq | hq
      · exact h q hq
      · rw [List.mem_singleton.1 hq]
        exact h p hmem
  have hlast : (prompts ++ [p]).getLastD s.agent.systemPrompt = prompts.getLastD s.agent.systemPrompt := by
    rw [List.getLastD_concat, List.getLastD_eq_getLast?, last]
    rfl
  unfold held
  rw [hlast]
  exact if_congr hall rfl rfl

/-- A new prompt is in the snapshot. -/
theorem held_new (last : prompts.getLast? = some q) (new : p ≠ q) :
    held initial s path (prompts ++ [p]) = some ((s.withSystemPrompt p).render (.ofPath path)) := by
  have hsome : ¬ ∀ x ∈ prompts ++ [p], x = s.agent.systemPrompt := by
    intro h
    have hq := h q (List.mem_append_left _ (List.mem_of_getLast? last))
    have hp := h p (List.mem_append_right _ (List.mem_singleton_self p))
    exact new (hp.trans hq.symm)
  rw [held, if_neg hsome, List.getLastD_concat]

end Held

section Run

variable {σ : Type} {o : Optimizer (StateM σ)} {s : Specification} {h h' : Head} {r : IterationRecord}
  {es tail : List Event} {path : String} {initial : Option String}

theorem saves_eq (wanted : o.settings.snapshotPath = some path) (t : Specification) (result : Except Fault Unit) :
    o.saves t result = [.saved path t result] := by
  rw [saves, wanted]
  rfl

theorem Event.leaves_of_not_isSave {e : Event} {content : Option String} (h : e.isSave = false) :
    e.leaves path content = content := by
  cases e with
  | saved => cases h
  | _ => rfl

theorem Event.leaves_saved {t : Specification} {content : Option String} :
    (Event.saved path t (.ok ())).leaves path content = some (t.render (.ofPath path)) := if_pos rfl

theorem Executed.file_eq (ran : Executed o h r es) : fileAfter path initial es = fileAfter path initial h.events := by
  cases ran
  rw [fileAfter_append]
  rfl

theorem Executed.prompts_next (ran : Executed o h r es) (next : Specification) (events : List Event) :
    Head.prompts ⟨next, h.history ++ [r], events⟩ = h.prompts ++ [next.agent.systemPrompt] := by
  rw [ran.prompts]
  rfl

theorem Head.getLast?_prompts (h : Head) : h.prompts.getLast? = some h.current.agent.systemPrompt :=
  List.getLast?_concat

/-- At a head the snapshot holds what it holds for the prompts up to the next one. -/
theorem Turn.file (wanted : o.settings.snapshotPath = some path) (ht : h.Traced s) (turn : Turn o h h')
    (hf : fileAfter path initial h.events = held initial s path h.prompts) :
    fileAfter path initial h'.events = held initial s path h'.prompts := by
  obtain ⟨ran, -, improved⟩ := turn
  rw [ran.prompts_next, fileAfter_append, ran.file_eq, hf]
  cases improved with
  | retry fatal =>
    rw [held_same h.getLast?_prompts]
    rfl
  | keep answered same =>
    rw [held_same h.getLast?_prompts]
    rfl
  | @change _ reply new =>
    rw [Specification.systemPrompt_withSystemPrompt, held_new h.getLast?_prompts new, saves_eq wanted, ht.current]
    exact Event.leaves_saved

theorem file_of_reach (wanted : o.settings.snapshotPath = some path) (reach : ReflTransGen (Turn o) (.start s) h) :
    fileAfter path initial h.events = held initial s path h.prompts := by
  induction reach with
  | refl => exact held_first.symm
  | tail reach turn ih => exact turn.file wanted (traced_of_reach reach) ih

/-! ## At every event -/

/-- What is seen of the snapshot at an event is what it holds for the prompts up to that of the current iteration: the
iteration of the last run of the host, this event included. -/
structure Sighted (initial : Option String) (s : Specification) (path : String) (history : List IterationRecord)
    (es : List Event) : Prop where
  complete : es.countP Event.isRun = history.length
  seen : ∀ before e after, es = before ++ e :: after → fileAfter path initial before =
    held initial s path ((history.map (·.systemPrompt)).take ((before ++ [e]).countP Event.isRun))

/-- An event of an appended list is one of its end or one of its beginning. -/
theorem split_append {fs before after : List Event} {e : Event} (h : es ++ fs = before ++ e :: after) :
    (∃ c, before = es ++ c ∧ fs = c ++ e :: after) ∨ ∃ c, es = before ++ e :: c := by
  rcases List.append_eq_append_iff.1 h with hend | ⟨c, hes, hc⟩
  · exact .inl hend
  · rcases List.cons_eq_append_iff.1 hc with ⟨rfl, hfs⟩ | ⟨c, rfl, -⟩
    · exact .inl ⟨[], by simpa using hes.symm, hfs⟩
    · exact .inr ⟨c, hes⟩

theorem countP_of_noRun (hn : ∀ e ∈ es, e.isRun = false) : es.countP Event.isRun = 0 :=
  List.countP_eq_zero.2 fun e he => by simp [hn e he]

/-- Up to any event of a round there is one run, that which began it. -/
theorem countP_of_split {submission : Submission} {result : Except Fault HostReport} {before after : List Event}
    {e : Event} (hn : ∀ e ∈ tail, e.isRun = false) (h : .ran submission result :: tail = before ++ e :: after) :
    (before ++ [e]).countP Event.isRun = 1 := by
  cases before with
  | nil =>
    obtain ⟨rfl, -⟩ := List.cons.inj h
    rfl
  | cons x before =>
    obtain ⟨rfl, rfl⟩ := List.cons.inj h
    have hrest : (before ++ [e]).countP Event.isRun = 0 := by
      refine countP_of_noRun fun x hx => hn x ?_
      rcases List.mem_append.1 hx with hx | hx
      · exact List.mem_append_left _ hx
      · rw [List.mem_singleton.1 hx]
        simp
    rw [List.cons_append, List.countP_cons, hrest]
    rfl

/-- What comes before an event of a round is not the snapshot, which is the last of them. -/
theorem mem_of_split {quiet saves before after : List Event} {e : Event} (single : saves.length ≤ 1)
    (h : quiet ++ saves = before ++ e :: after) : ∀ x ∈ before, x ∈ quiet := by
  intro x hx
  rcases List.append_eq_append_iff.1 h with ⟨c, rfl, hsaves⟩ | ⟨c, rfl, -⟩
  · have hc : c = [] := by
      rw [hsaves, List.length_append, List.length_cons] at single
      exact List.length_eq_zero_iff.1 (by omega)
    rwa [hc, List.append_nil] at hx
  · exact List.mem_append_left _ hx

theorem Consulted.quiet {requests : List Event} (consulted : Consulted o.settings r requests) :
    ∀ e ∈ requests, e.isSave = false := by
  intro e he
  cases consulted with
  | once =>
    rw [List.mem_singleton.1 he]
    rfl
  | never => cases he

/-- One iteration. -/
theorem Executed.sighted (hf : fileAfter path initial h.events = held initial s path h.prompts)
    (ran : Executed o h r es) (followed : Followed o h r tail) (old : Sighted initial s path h.history h.events) :
    Sighted initial s path (h.history ++ [r]) (es ++ tail) := by
  rw [ran.prompts] at hf
  obtain ⟨submission, result, cleanUp, rfl⟩ : ∃ submission result cleanUp,
      es = h.events ++ [.ran submission result, .cleaned submission cleanUp] := by
    cases ran
    exact ⟨_, _, _, rfl⟩
  obtain ⟨requests, saves, rfl, consulted, single, -⟩ := followed.consulted ran.systemPrompt
  have hn : ∀ e ∈ .cleaned submission cleanUp :: (requests ++ saves), e.isRun = false := by
    intro e he
    rcases List.mem_cons.1 he with rfl | he
    · rfl
    · exact followed.noRun e he
  have hquiet : ∀ e ∈ .ran submission result :: .cleaned submission cleanUp :: requests, e.isSave = false := by
    simpa [Event.isSave] using consulted.quiet
  have hround : [.ran submission result, .cleaned submission cleanUp] ++ (requests ++ saves) =
      (.ran submission result :: .cleaned submission cleanUp :: requests) ++ saves := rfl
  rw [List.append_assoc]
  refine ⟨?_, fun before e after hsplit => ?_⟩
  · have hcount : (Event.ran submission result :: .cleaned submission cleanUp :: (requests ++ saves)).countP
        Event.isRun = 1 := by
      rw [List.countP_cons, countP_of_noRun hn]
      rfl
    rw [List.countP_append, old.complete, List.length_append]
    exact congrArg _ hcount
  · rcases split_append hsplit with ⟨c, hbefore, hc⟩ | ⟨c, hevents⟩
    · have hcount := countP_of_split hn hc
      have hleft : fileAfter path initial before = fileAfter path initial h.events := by
        rw [hbefore, fileAfter_append]
        refine fileAfter_of_quiet fun x hx => Event.leaves_of_not_isSave (hquiet x ?_)
        exact mem_of_split single (hround.symm.trans hc) x hx
      rw [hleft, hf, hbefore, List.append_assoc, List.countP_append, old.complete, hcount,
        List.take_of_length_le (by simp)]
    · have hle : (before ++ [e]).countP Event.isRun ≤ (h.history.map (·.systemPrompt)).length := by
        rw [List.length_map, ← old.complete, hevents, List.append_cons before e c]
        exact (List.sublist_append_left _ _).countP_le
      rw [old.seen before e c hevents, List.map_append, List.take_append_of_le_length hle]

theorem sighted_of_optimize (wanted : o.settings.snapshotPath = some path) (w : σ) :
    Sighted initial s path (historyOf (o.optimize s w).1) (o.transcript s w) :=
  forall_optimize (Sighted initial s path) ⟨rfl, fun before e after h => by simp at h⟩
    (fun _ _ _ _ reach ran followed old => ran.sighted (file_of_reach wanted reach) followed old) w

/-! ## At the end -/

/-- A finished run leaves the specification that it gives back, and an aborted one what the snapshot holds for the
prompts of its records. -/
theorem file_of_optimize (wanted : o.settings.snapshotPath = some path) (w : σ) :
    fileAfter path initial (o.transcript s w) =
      match (o.optimize s w).1 with
      | .ok out => some (out.specification.render (.ofPath path))
      | .error a => held initial s path (a.history.map (·.systemPrompt)) := by
  obtain ⟨h, reach, ends⟩ := optimize_ends o s w
  have hf : fileAfter path initial h.events = held initial s path h.prompts := file_of_reach wanted reach
  generalize (o.optimize s w).1 = result at ends ⊢
  generalize o.transcript s w = es at ends ⊢
  cases ends with
  | refused failed =>
    obtain ⟨-, hhistory, hevents⟩ := refused_of_reach reach failed
    dsimp only at hhistory ⊢
    rw [hhistory, hevents]
    exact (if_pos (by simp)).symm
  | stuck ran running improved =>
    dsimp only
    rw [fileAfter_append, ran.file_eq, hf, ran.prompts]
    cases improved with
    | unanswered => rfl
    | unsaved => rfl
  | unfinished ran terminal wanted f => 
    dsimp only
    rw [fileAfter_append, ran.file_eq, hf, ran.prompts]
    rfl
  | finished ran terminal =>
    rw [fileAfter_append, saves_eq wanted]
    exact Event.leaves_saved

/-! ## What is written -/

theorem adopt_notBlank {current : Specification} {reply : String}
    (hb : Text.isBlankText current.agent.systemPrompt = false) : Text.isBlankText (adopt current reply) = false := by
  rw [adopt_eq]
  split_ifs with he
  · exact hb
  · by_contra hn
    exact he (Text.unfence_of_isBlankText (by simpa using hn))

/-- Only the specification with the prompt of an iteration is written, or with one that the provider gave. -/
theorem Followed.saved {p : String} {t : Specification} {result : Except Fault Unit}
    (hb : Text.isBlankText h.current.agent.systemPrompt = false) (followed : Followed o h r tail)
    (hmem : .saved p t result ∈ tail) :
    ∃ prompt, t = h.current.withSystemPrompt prompt ∧ Text.isBlankText prompt = false := by
  have hsaves : ∀ {u result'}, Event.saved p t result ∈ o.saves u result' → t = u := by
    intro u result' hu
    unfold saves at hu
    obtain ⟨path, -, heq⟩ := Option.map_eq_some_iff.1 (Option.mem_toList.1 hu)
    cases heq
    rfl
  cases followed with
  | ended terminal result' => exact ⟨_, hsaves hmem, hb⟩
  | searched running improved =>
    cases improved with
    | retry => cases hmem
    | unanswered => simp at hmem
    | keep => simp at hmem
    | change answered new =>
      rcases List.mem_cons.1 hmem with heq | hmem
      · cases heq
      · exact ⟨_, hsaves hmem, adopt_notBlank hb⟩
    | unsaved answered new wanted f =>
      simp only [List.mem_cons, List.not_mem_nil, or_false, reduceCtorEq, false_or, Event.saved.injEq] at hmem
      exact ⟨_, hmem.2.1, adopt_notBlank hb⟩

theorem Executed.saved {p : String} {t : Specification} {result : Except Fault Unit} (ran : Executed o h r es)
    (hmem : .saved p t result ∈ es) : .saved p t result ∈ h.events := by
  cases ran
  simpa using hmem

/-- A specification without problems is never written with problems. -/
theorem problems_of_saved (valid : s.problems = []) (w : σ) :
    ∀ p t result, .saved p t result ∈ o.transcript s w → t.problems = [] := by
  refine forall_optimize (fun _ es => ∀ p t result, .saved p t result ∈ es → t.problems = [])
    (fun p t result hmem => by cases hmem) ?_ w
  intro h r es tail reach ran followed old p t result hmem
  have hb : Text.isBlankText h.current.agent.systemPrompt = false :=
    notBlank_of_reach (Specification.notBlank_of_problems valid) reach _ (by simp [Head.prompts])
  rcases List.mem_append.1 hmem with hmem | hmem
  · exact old p t result (ran.saved hmem)
  · obtain ⟨prompt, rfl, hprompt⟩ := followed.saved hb hmem
    rw [(traced_of_reach reach).current, Specification.withSystemPrompt_withSystemPrompt]
    exact Specification.problems_withSystemPrompt valid hprompt

end Run

/-- The snapshot of a run.  At every event it holds what it has to hold for the prompts that were tried so far, that of
the current iteration included; so it does at the end of an aborted run, and that of a finished run is the specification
that is given back.  What is written has no problems unless the specification has some to begin with. -/
theorem optimize_snapshots {σ : Type} {files : FileSystem σ} {path : String} {o : Optimizer (StateM σ)}
    (snapshots : Snapshots files path o) (s : Specification) (w : σ) :
    (o.chronicle (files.content · path) s w).map Prod.snd = o.transcript s w ∧
    (∀ before content e after, o.chronicle (files.content · path) s w = before ++ (content, e) :: after →
      content = held (files.content w path) s path (((historyOf (o.optimize s w).1).map (·.systemPrompt)).take
        ((before.map Prod.snd ++ [e]).countP Event.isRun))) ∧
    files.content (o.optimize s w).2 path =
      (match (o.optimize s w).1 with
      | .ok out => some (out.specification.render (.ofPath path))
      | .error a => held (files.content w path) s path (a.history.map (·.systemPrompt))) ∧
    (s.problems = [] → ∀ p t result, .saved p t result ∈ o.transcript s w → t.problems = []) := by
  have wanted := snapshots.wanted
  rw [chronicle_eq snapshots]
  refine ⟨map_annotate, fun before content e after hsplit => ?_, ?_, fun valid => problems_of_saved valid w⟩
  · obtain ⟨hevents, hcontent⟩ := annotate_split hsplit
    have sighted : Sighted (files.content w path) s path (historyOf (o.optimize s w).1) (o.transcript s w) :=
      sighted_of_optimize wanted w
    rw [← sighted.seen _ _ _ hevents]
    exact hcontent
  · rw [content_optimize snapshots]
    exact file_of_optimize wanted w

/-- Files in which every write happens. -/
def shelf : FileSystem (String → Option String) where
  content := id
  write path text := fun files => (.ok (), Function.update files path (some text))
  written _ _ _ _ := rfl
  failed _ _ _ _ h := by cases h

/-- An optimizer with a budget of two iterations whose host has no units to report on, and whose provider has one
reply. -/
def scribe : Optimizer (StateM (String → Option String)) where
  orchestrator :=
    { host :=
        { name := "empty"
          run := fun _ => pure (.ok ⟨true, []⟩)
          cleanUp := fun _ => pure (.error (.submission "nothing to clean up")) }
      skipPolicy := .exclude
      surroundings := ⟨pure "", pure "", pure 0⟩ }
  provider :=
    { name := "repeating"
      text := fun _ => pure (.ok ⟨"q", ⟨0, 0⟩⟩)
      structured := fun _ => pure (.error (.provider "no reply")) }
  settings :=
    { model := "m", iterations := 2, minPassRate := 100, strategy := .errorFocused, feedbackPrompt := none
      snapshotPath := some "a.json" }
  save path t := shelf.write path (t.render (.ofPath path))

theorem snapshots_scribe : Snapshots shelf "a.json" scribe :=
  ⟨rfl, fun _ => rfl, fun _ _ => rfl, fun _ _ => rfl, fun _ _ => rfl, fun _ => rfl, fun _ => rfl, fun _ => rfl⟩

theorem improve_scribe (units : List CompiledUnit) (files : String → Option String) :
    ∃ files', scribe.improve bare (emptyReport units) files = (.ok (bare.withSystemPrompt "q"), files') := by
  have hadopt : adopt bare "q" = "q" := by decide +kernel
  have asked : scribe.provider.text (scribe.request bare (emptyReport units)) files = (.ok ⟨"q", ⟨0, 0⟩⟩, files) := rfl
  have new : adopt bare "q" ≠ bare.agent.systemPrompt := by
    rw [hadopt]
    decide
  refine ⟨Function.update files "a.json" (some ((bare.withSystemPrompt "q").render (.ofPath "a.json"))), ?_⟩
  rw [improve_change (answered_emptyReport units) asked new rfl, hadopt]
  rfl

theorem optimize_scribe (files : String → Option String) : ∃ out, (scribe.optimize bare files).1 = .ok out ∧
    out.specification = bare.withSystemPrompt "q" := by
  obtain ⟨program, hc⟩ : ∃ program, Program.compile bare = .ok program := ⟨_, rfl⟩
  obtain ⟨program', hc'⟩ : ∃ program, Program.compile (bare.withSystemPrompt "q") = .ok program := ⟨_, rfl⟩
  have hx : ∀ units provided files, scribe.orchestrator.execute units provided files = (emptyReport units, files) :=
    fun _ _ _ => rfl
  have running : (scribe.record bare 0 (emptyReport program.units)).state = .running 1 := by
    show (LoopState.running 0).step scribe.settings.stopPolicy (emptyReport program.units) = .running 1
    exact LoopState.step_eq_running_iff.2 ⟨rfl, unmet_emptyReport _, by decide⟩
  have exhausted : (scribe.record (bare.withSystemPrompt "q") 1 (emptyReport program'.units)).state = .exhausted 2 := by
    show (LoopState.running 1).step scribe.settings.stopPolicy (emptyReport program'.units) = .exhausted 2
    exact LoopState.step_eq_exhausted_iff.2 ⟨rfl, unmet_emptyReport _, by decide⟩
  obtain ⟨files', improved⟩ := improve_scribe program.units files
  show ∃ out, (scribe.iterate "" 0 bare 0 [] files).1 = .ok out ∧ _
  rw [iterate_running hc (hx _ _ _) running improved, iterate_terminal hc' (hx _ _ _) (by rw [exhausted]; rfl)]
  exact ⟨_, rfl, rfl⟩

theorem optimize_snapshots_scribe : Snapshots shelf "a.json" scribe ∧
    shelf.content (scribe.optimize bare fun _ => none).2 "a.json" =
      some ((bare.withSystemPrompt "q").render (.ofPath "a.json")) := by
  obtain ⟨out, hout, hspecification⟩ := optimize_scribe fun _ => none
  obtain ⟨-, -, hcontent, -⟩ := optimize_snapshots snapshots_scribe bare fun _ => none
  rw [hout] at hcontent
  refine ⟨snapshots_scribe, hcontent.trans ?_⟩
  rw [← hspecification]

end AgentTrial.Optimizer
