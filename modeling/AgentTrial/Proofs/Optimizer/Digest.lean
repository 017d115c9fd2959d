import AgentTrial.Proofs.Optimizer.Lineage
import AgentTrial.Proofs.Program.Digest
import AgentTrial.Proofs.Program.Reference
import Mathlib.Data.Set.Function

/-!
# Digest — what the digests of a run tell

* `Digested`: the report of a record carries the digest of the program of its prompt.
* `digest_identifies`: what the hashed text tells of a program, and the digests of two iterations of their prompts.
-/

namespace AgentTrial.Optimizer

open Program Relation

/-- The report of a record carries the digest of the program that its prompt gives. -/
def Digested (s : Specification) (r : IterationRecord) : Prop :=
  ∃ p, compile (s.withSystemPrompt r.systemPrompt) = .ok p ∧ r.report.programDigest = digestUnits p.units

/-- The texts that are hashed for these records. -/
def hashed (s : Specification) (history : List IterationRecord) : Set String :=
  {text | ∃ r ∈ history, ∃ p, compile (s.withSystemPrompt r.systemPrompt) = .ok p ∧ text = digestText p.units}

section Run

variable {σ : Type} {o : Optimizer (StateM σ)} {s : Specification} {h : Head} {r : IterationRecord} {es : List Event}

theorem Executed.digested (ht : h.Traced s) (ran : Executed o h r es) : Digested s r := by
  have hcurrent := ran.current ht
  obtain ⟨compiled, id, result, cleanUp, ms⟩ := ran
  rw [hcurrent] at compiled
  exact ⟨_, compiled, rfl⟩

/-- Every record carries its digest, whatever became of its iteration. -/
theorem digested_of_optimize (w : σ) : ∀ r ∈ historyOf (o.optimize s w).1, Digested s r := by
  refine forall_optimize (fun history _ => ∀ r ∈ history, Digested s r) (List.forall_mem_nil _) ?_ w
  intro h r es tail reach ran followed old
  have digested : Digested s r := ran.digested (traced_of_reach reach)
  exact List.forall_mem_append.2 ⟨old, List.forall_mem_singleton.2 digested⟩

/-- Without a collision, digests are the same exactly if the prompts are. -/
theorem programDigest_iff {history : List IterationRecord} {r' : IterationRecord} (hs : s.benchmarks ≠ [])
    (free : Set.InjOn Digest.ofText (hashed s history)) (digested : ∀ r ∈ history, Digested s r) (hr : r ∈ history)
    (hr' : r' ∈ history) : r.report.programDigest = r'.report.programDigest ↔ r.systemPrompt = r'.systemPrompt := by
  obtain ⟨p, hp, hdigest⟩ := digested r hr
  obtain ⟨q, hq, hdigest'⟩ := digested r' hr'
  have hmem : digestText p.units ∈ hashed s history := ⟨r, hr, p, hp, rfl⟩
  have hmem' : digestText q.units ∈ hashed s history := ⟨r', hr', q, hq, rfl⟩
  rw [hdigest, hdigest', digestUnits, digestUnits, free.eq_iff hmem hmem']
  exact digestText_withSystemPrompt_iff hs hp hq

end Run

/-- The digest of a program identifies it.  The text that is hashed tells the sources of the units, element by element
and in number; the sources at one place tell the prompt.  Every iteration of a run carries the digest of the program of
its prompt, and so, unless two of the texts that are hashed in it collide, two of them carry the same digest exactly if
they ran with the same prompt. -/
theorem digest_identifies :
    (∀ s t p q, compile s = .ok p → compile t = .ok q →
      (digestText p.units = digestText q.units ↔ p.units.map (·.source) = q.units.map (·.source))) ∧
    (∀ s p, compile s = .ok p → ∀ a b, ∃ pa pb, compile (s.withSystemPrompt a) = .ok pa ∧
      compile (s.withSystemPrompt b) = .ok pb ∧ pa.units.length = s.benchmarks.length ∧
      pb.units.length = s.benchmarks.length ∧
      ∀ (i : Nat) u v, pa.units[i]? = some u → pb.units[i]? = some v → (u.source = v.source ↔ a = b)) ∧
    ∀ {σ : Type} (o : Optimizer (StateM σ)) (s : Specification) (w : σ),
      (∀ r ∈ historyOf (o.optimize s w).1, Digested s r) ∧
      (s.benchmarks ≠ [] → Set.InjOn Digest.ofText (hashed s (historyOf (o.optimize s w).1)) →
        ∀ r ∈ historyOf (o.optimize s w).1, ∀ r' ∈ historyOf (o.optimize s w).1,
          (r.report.programDigest = r'.report.programDigest ↔ r.systemPrompt = r'.systemPrompt)) := by
  refine ⟨fun s t p q hp hq => digestText_inj hp hq, fun s p hp a b => ?_, fun o s w =>
    ⟨digested_of_optimize w, fun hs free r hr r' hr' => ?_⟩⟩
  · obtain ⟨pa, hpa⟩ := compiles_withSystemPrompt_iff.2 ⟨p, hp⟩
    obtain ⟨pb, hpb⟩ := compiles_withSystemPrompt_iff.2 ⟨p, hp⟩
    have hlength := length_units hpa
    have hlength' := length_units hpb
    exact ⟨pa, pb, hpa, hpb, hlength, hlength', fun i u v hu hv => source_withSystemPrompt_iff hpa hpb hu hv⟩
  · exact programDigest_iff hs free (digested_of_optimize w) hr hr'

/-- The programs of two prompts do not collide. -/
theorem digest_judged_ne {p q : SourceProgram} (hp : compile judged = .ok p)
    (hq : compile (judged.withSystemPrompt "q") = .ok q) :
    Digest.ofText (digestText p.units) ≠ Digest.ofText (digestText q.units) := by
  have differ : (compile judged).toOption.map (fun p => Digest.ofBytes (digestText p.units).toUTF8.data.toList) ≠
      (compile (judged.withSystemPrompt "q")).toOption.map
        fun p => Digest.ofBytes (digestText p.units).toUTF8.data.toList := by
    decide +kernel
  intro h
  rw [hp, hq] at differ
  exact differ (congrArg some (String.ofList_injective h))

/-- No two of the texts that are hashed for these prompts collide. -/
theorem injOn_hashed_judged {history : List IterationRecord}
    (tried : ∀ r ∈ history, r.systemPrompt = "p" ∨ r.systemPrompt = "q") :
    Set.InjOn Digest.ofText (hashed judged history) := by
  rintro a ⟨x, hx, p, hp, rfl⟩ b ⟨y, hy, q, hq, rfl⟩ hdigest
  rcases tried x hx with h | h <;> rcases tried y hy with h' | h' <;> rw [h] at hp <;> rw [h'] at hq
  · rw [Except.ok.inj (hp.symm.trans hq)]
  · exact absurd hdigest (digest_judged_ne hp hq)
  · exact absurd hdigest.symm (digest_judged_ne hq hp)
  · rw [Except.ok.inj (hp.symm.trans hq)]

/-- A run that tries one prompt once and another one twice. -/
theorem optimize_judged : ∃ r₁ r₂ r₃, historyOf ((scripted 3 (.ok ())).optimize judged ["q", ""]).1 = [r₁, r₂, r₃] ∧
    r₁.systemPrompt = "p" ∧ r₂.systemPrompt = "q" ∧ r₃.systemPrompt = "q" := by
  have adopted : adopt judged "q" = "q" := by decide +kernel
  have kept : adopt (judged.withSystemPrompt "q") "" = "q" := by decide +kernel
  have compiles : ∃ program, compile judged = .ok program := ⟨_, rfl⟩
  obtain ⟨u₁, u₂, u₃, done⟩ := optimize_scripted [] compiles (congrArg judged.withSystemPrompt adopted.symm)
    (congrArg (judged.withSystemPrompt "q").withSystemPrompt kept.symm)
  rw [done]
  exact ⟨_, _, _, rfl, rfl, rfl, rfl⟩

theorem digest_identifies_judged : judged.benchmarks ≠ [] ∧
    Set.InjOn Digest.ofText (hashed judged (historyOf ((scripted 3 (.ok ())).optimize judged ["q", ""]).1)) ∧
    (∃ r₁ r₂ r₃, historyOf ((scripted 3 (.ok ())).optimize judged ["q", ""]).1 = [r₁, r₂, r₃] ∧
      r₁.report.programDigest ≠ r₂.report.programDigest ∧ r₂.report.programDigest = r₃.report.programDigest) ∧
    ∃ p q u v, compile judged = .ok p ∧ compile (judged.withSystemPrompt "q") = .ok q ∧
      digestText p.units ≠ digestText q.units ∧ p.units[0]? = some u ∧ q.units[0]? = some v ∧
      u.source ≠ v.source := by
  obtain ⟨r₁, r₂, r₃, hhistory, h₁, h₂, h₃⟩ := optimize_judged
  obtain ⟨told, prompts, digests⟩ := digest_identifies
  have hcases : judged.benchmarks ≠ [] := by simp [judged]
  obtain ⟨p₀, hp₀⟩ : ∃ p, compile judged = .ok p := ⟨_, rfl⟩
  obtain ⟨p, q, hp, hq, hlength, hlength', hsources⟩ := prompts judged p₀ hp₀ "p" "q"
  have hu : p.units[0]? = some _ := List.getElem?_eq_getElem (by rw [hlength]; decide)
  have hv : q.units[0]? = some _ := List.getElem?_eq_getElem (by rw [hlength']; decide)
  have differ := mt (hsources 0 _ _ hu hv).1 (by decide)
  have htext : digestText p.units ≠ digestText q.units := by
    intro h
    have hlist := congrArg (·[0]?) ((told _ _ p q hp hq).1 h)
    simp only [List.getElem?_map, hu, hv, Option.map_some, Option.some.injEq] at hlist
    exact differ hlist
  have free : Set.InjOn Digest.ofText (hashed judged [r₁, r₂, r₃]) :=
    injOn_hashed_judged (by simp [h₁, h₂, h₃])
  rw [hhistory]
  have same := (digests (scripted 3 (.ok ())) judged ["q", ""]).2 hcases (hhistory ▸ free)
  rw [hhistory] at same
  have changed := same r₁ (by simp) r₂ (by simp)
  have kept := same r₂ (by simp) r₃ (by simp)
  exact ⟨hcases, free, ⟨r₁, r₂, r₃, rfl, mt changed.1 (by rw [h₁, h₂]; decide), kept.2 (h₂.trans h₃.symm)⟩,
    p, q, _, _, hp, hq, htext, hu, hv, differ⟩

end AgentTrial.Optimizer
