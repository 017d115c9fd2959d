import AgentTrial.Proofs.Optimizer.Transcript
import AgentTrial.Spec.Document
import Mathlib.Logic.Function.Basic

/-!
# Chronicle — what a file holds while an optimization runs

`Optimizer.watched` is the optimizer that notes, beside every event, what was seen of the world before it.  Watched is
the file of the snapshots.  As long as nobody else writes to it, its content at any time is settled by the events
before.

* `FileSystem`: a map of files, in which a write either happens or fails without effect.
* `Snapshots`: an optimizer whose snapshots are written to such a file, and only they.
* `chronicle_eq`, `content_optimize`: what is seen of the file during a run, and after it.
-/

namespace AgentTrial.Optimizer

variable {σ α β : Type}

/-! ## Watching -/

/-- A step that is noted with its answer and with what was seen before it. -/
def seen (view : σ → β) (event : α → Event) (step : StateM σ α) : StateM (σ × List (β × Event)) α := fun p =>
  ((step p.1).1, ((step p.1).2, p.2 ++ [(view p.1, event (step p.1).1)]))

/-- A step that is not noted. -/
def unseen (step : StateM σ α) : StateM (σ × List (β × Event)) α := onPart Prod.fst (fun w p => (w, p.2)) step

/-- The optimizer with every event noted, and what was seen before it. -/
def watched (view : σ → β) (o : Optimizer (StateM σ)) : Optimizer (StateM (σ × List (β × Event))) where
  orchestrator :=
    { host :=
        { name := o.orchestrator.host.name
          run := fun s => seen view (.ran s) (o.orchestrator.host.run s)
          cleanUp := fun s => seen view (.cleaned s) (o.orchestrator.host.cleanUp s) }
      skipPolicy := o.orchestrator.skipPolicy
      surroundings :=
        { submissionId := unseen o.orchestrator.surroundings.submissionId
          runId := unseen o.orchestrator.surroundings.runId
          clock := unseen o.orchestrator.surroundings.clock } }
  provider :=
    { name := o.provider.name
      text := fun r => seen view (.asked r) (o.provider.text r)
      structured := fun r => seen view (.queried r) (o.provider.structured r) }
  settings := o.settings
  save path s := seen view (.saved path s) (o.save path s)

/-- The events of an optimization, each with what was seen before it. -/
def chronicle (view : σ → β) (o : Optimizer (StateM σ)) (s : Specification) (w : σ) : List (β × Event) :=
  ((o.watched view).optimize s (w, [])).2.2

/-! ## Files -/

/-- Files as a map of paths; a write either happens or fails without effect. -/
structure FileSystem (σ : Type) where
  content : σ → String → Option String
  write : String → String → StateM σ (Except Fault Unit)
  written : ∀ path text w, (write path text w).1 = .ok () →
    content (write path text w).2 = Function.update (content w) path (some text)
  failed : ∀ path text w f, (write path text w).1 = .error f → content (write path text w).2 = content w

/-- An optimizer whose snapshots are written to a file, each as the document of the specification in the format of the
path, and nothing else is. -/
structure Snapshots (files : FileSystem σ) (path : String) (o : Optimizer (StateM σ)) : Prop where
  wanted : o.settings.snapshotPath = some path
  save : ∀ t, o.save path t = files.write path (t.render (.ofPath path))
  run : ∀ submission w, files.content (o.orchestrator.host.run submission w).2 path = files.content w path
  cleanUp : ∀ submission w, files.content (o.orchestrator.host.cleanUp submission w).2 path = files.content w path
  text : ∀ request w, files.content (o.provider.text request w).2 path = files.content w path
  submissionId : ∀ w, files.content (o.orchestrator.surroundings.submissionId w).2 path = files.content w path
  runId : ∀ w, files.content (o.orchestrator.surroundings.runId w).2 path = files.content w path
  clock : ∀ w, files.content (o.orchestrator.surroundings.clock w).2 path = files.content w path

/-- What an event leaves in a file: the specification if it was written there, and else what was in it. -/
def Event.leaves (path : String) (content : Option String) : Event → Option String
  | saved p t (.ok ()) => if p = path then some (t.render (.ofPath path)) else content
  | _ => content

/-- What events leave in a file. -/
def fileAfter (path : String) (content : Option String) (es : List Event) : Option String :=
  es.foldl (fun content e => e.leaves path content) content

/-- The events, each with the content of a file before it. -/
def annotate (path : String) (content : Option String) : List Event → List (Option String × Event)
  | [] => []
  | e :: es => (content, e) :: annotate path (e.leaves path content) es

section Events

variable {path : String} {content : Option String} {es fs : List Event} {e : Event}

@[simp] theorem fileAfter_append :
    fileAfter path content (es ++ fs) = fileAfter path (fileAfter path content es) fs := by
  simp [fileAfter]

theorem annotate_append :
    annotate path content (es ++ fs) = annotate path content es ++ annotate path (fileAfter path content es) fs := by
  induction es generalizing content with
  | nil => rfl
  | cons e es ih => rw [List.cons_append, annotate, annotate, ih]; rfl

theorem map_annotate : (annotate path content es).map Prod.snd = es := by
  induction es generalizing content with
  | nil => rfl
  | cons e es ih => rw [annotate, List.map_cons, ih]

/-- What is noted beside an event is the content that the events before it leave. -/
theorem annotate_split {before after : List (Option String × Event)} {x : Option String × Event}
    (h : annotate path content es = before ++ x :: after) :
    es = before.map Prod.snd ++ x.2 :: after.map Prod.snd ∧
      x.1 = fileAfter path content (before.map Prod.snd) := by
  have hes : es = before.map Prod.snd ++ x.2 :: after.map Prod.snd := by
    calc es = (annotate path content es).map Prod.snd := map_annotate.symm
      _ = before.map Prod.snd ++ x.2 :: after.map Prod.snd := by rw [h, List.map_append, List.map_cons]
  refine ⟨hes, ?_⟩
  rw [hes, annotate_append, annotate] at h
  have hlength : (annotate path content (before.map Prod.snd)).length = before.length := by
    rw [← List.length_map Prod.snd, map_annotate, List.length_map]
  have htail := (List.append_inj h hlength).2
  rw [← (List.cons.inj htail).1]

/-- Only a snapshot that was written leaves something else in the file. -/
theorem fileAfter_of_quiet (h : ∀ e ∈ es, e.leaves path content = content) : fileAfter path content es = content := by
  induction es with
  | nil => rfl
  | cons e es ih =>
    show fileAfter path (e.leaves path content) es = content
    rw [h e (by simp)]
    exact ih fun e' he' => h e' (by simp [he'])

end Events

/-! ## What is seen of the file -/

section Watch

variable {files : FileSystem σ} {path : String} {o : Optimizer (StateM σ)} {init : Option String}

/-- The worlds of a watched and of an observed run: the file holds what the events have left in it, and at each of them
that much was seen. -/
structure Witnessed (files : FileSystem σ) (path : String) (init : Option String)
    (p : σ × List (Option String × Event)) (q : σ × List Event) : Prop where
  world : p.1 = q.1
  events : p.2 = annotate path init q.2
  content : files.content q.1 path = fileAfter path init q.2

theorem matches_seen {event : α → Event} {step : StateM σ α}
    (h : ∀ w, files.content (step w).2 path = (event (step w).1).leaves path (files.content w path)) :
    Matches (Witnessed files path init) (seen (files.content · path) event step) (noted event step) := by
  rintro ⟨w, log⟩ ⟨w', es⟩ ⟨hworld, hevents, hcontent⟩
  dsimp only at hworld hevents hcontent
  subst hworld hevents
  refine ⟨rfl, rfl, ?_, ?_⟩
  · show annotate path init es ++ [(files.content w path, _)] = annotate path init (es ++ [_])
    rw [annotate_append, ← hcontent]
    rfl
  · show files.content (step w).2 path = fileAfter path init (es ++ [_])
    rw [fileAfter_append, ← hcontent, h]
    rfl

theorem matches_unseen {step : StateM σ α} (h : ∀ w, files.content (step w).2 path = files.content w path) :
    Matches (Witnessed files path init) (unseen step) (unnoted step) := by
  rintro ⟨w, log⟩ ⟨w', es⟩ ⟨hworld, hevents, hcontent⟩
  dsimp only at hworld hevents hcontent
  subst hworld hevents
  exact ⟨rfl, rfl, rfl, (h w).trans hcontent⟩

theorem Snapshots.content_save (snapshots : Snapshots files path o) (t : Specification) (w : σ) :
    files.content (o.save path t w).2 path =
      (Event.saved path t (o.save path t w).1).leaves path (files.content w path) := by
  rw [snapshots.save]
  cases h : (files.write path (t.render (.ofPath path)) w).1 with
  | error f => rw [files.failed _ _ _ _ h]; rfl
  | ok _ =>
    rw [files.written _ _ _ h, Function.update_self]
    exact (if_pos rfl).symm

theorem simulates_watched (snapshots : Snapshots files path o) :
    Simulates (Witnessed files path init) (o.watched (files.content · path)) o.observed where
  settings := rfl
  skipPolicy := rfl
  submissionId := matches_unseen snapshots.submissionId
  runId := matches_unseen snapshots.runId
  clock := matches_unseen snapshots.clock
  run _ := matches_seen (snapshots.run _)
  cleanUp _ _ _ h := (matches_seen (snapshots.cleanUp _) _ _ h).2
  text _ := matches_seen (snapshots.text _)
  save p hp t := by
    obtain rfl : path = p := Option.some.inj (snapshots.wanted.symm.trans hp)
    exact matches_seen (snapshots.content_save t)

theorem witnessed_optimize (snapshots : Snapshots files path o) (s : Specification) (w : σ) :
    Witnessed files path (files.content w path) ((o.watched (files.content · path)).optimize s (w, [])).2
      (o.observed.optimize s (w, [])).2 :=
  ((simulates_watched snapshots).optimize s _ _ ⟨rfl, rfl, rfl⟩).2

/-- At every event the file holds what the events before have left in it. -/
theorem chronicle_eq (snapshots : Snapshots files path o) (s : Specification) (w : σ) :
    o.chronicle (files.content · path) s w = annotate path (files.content w path) (o.transcript s w) :=
  (witnessed_optimize snapshots s w).events

/-- After the run the file holds what all events have left in it. -/
theorem content_optimize (snapshots : Snapshots files path o) (s : Specification) (w : σ) :
    files.content (o.optimize s w).2 path = fileAfter path (files.content w path) (o.transcript s w) := by
  rw [← (shadows_optimize o s (w, [])).2]
  exact (witnessed_optimize snapshots s w).content

end Watch

end AgentTrial.Optimizer
