import AgentTrial.Proofs.Optimizer.Lineage
import AgentTrial.Proofs.Text.Mark
import Mathlib.Data.List.TakeWhile

/-!
# Adoption — prompts that start with an example

Whether a reply is fenced is settled by its two ends.  A reply that opens with three backticks is taken for a fenced
text even where the fence encloses an example only and the prompt goes on behind it.

* `LeadingBlock`: a text that opens with a fenced block and goes on after it.
* `unfenceChars_eq_trimChars_iff`: nothing but blanks is taken from a text exactly when it does not open with a fence.
* `unfenceChars_of_unclosed`: of a text that opens with a fence and does not end with one, the first line is taken.
* `adopts_behind_first_line`: so the line that opens the example is no part of the prompt that is tried next.
-/

namespace AgentTrial

namespace Text

/-- A text that opens with a fenced block and goes on after it: an info line, whole lines, a line of three backticks,
and more text, which does not end with three backticks. -/
structure LeadingBlock (t info lines more : List Char) : Prop where
  split : t = fence ++ info ++ '\n' :: (lines ++ fence ++ '\n' :: more)
  infoLine : '\n' ∉ info
  wholeLines : lines = [] ∨ lines.getLast? = some '\n'
  goesOn : more.all isBlank = false
  unclosed : ¬ fence <:+ more

variable {s t rest info lines more : List Char}

/-- Nothing but blanks is taken from a text exactly when it does not open with a fence. -/
theorem unfenceChars_eq_trimChars_iff : unfenceChars s = trimChars s ↔ ¬ fence <+: trimChars s := by
  constructor
  · rintro hsame ⟨rest, hrest⟩
    have hlength := (infix_of_opened (after?_eq_some_iff.2 hrest.symm)).length_le
    rw [hsame, ← hrest, List.length_append] at hlength
    have hfence : fence.length = 3 := rfl
    omega
  · exact unfenceChars_of_trims (trims_trimChars s)

/-- Of a text that opens with a fence and does not end with one, all is left but the first line. -/
theorem unfenceChars_of_unclosed (hopen : trimChars s = fence ++ (info ++ '\n' :: rest)) (hinfo : '\n' ∉ info)
    (unclosed : ¬ fence <:+ info ++ '\n' :: rest) : unfenceChars s = trimChars rest := by
  have hafter : after? fence (trimChars s) = some (info ++ '\n' :: rest) := after?_eq_some_iff.2 hopen
  have hclose : dropEnd? fence (info ++ '\n' :: rest) = none := by
    cases h : dropEnd? fence (info ++ '\n' :: rest) with
    | none => rfl
    | some body => exact absurd ⟨body, (dropEnd?_eq_some_iff.1 h).symm⟩ unclosed
  unfold unfenceChars
  simp only [hafter, hclose, Option.getD_none, afterLine?_append hinfo]

/-- A text that ends without a blank has its blanks at the start. -/
theorem trimChars_of_last (h : ∀ c, s.getLast? = some c → isBlank c = false) : trimChars s = trimStart s := by
  obtain ⟨lead, hs, hlead⟩ := exists_trimStart s
  refine Trims.eq ⟨⟨lead, [], by rw [List.append_nil]; exact hs, hlead, rfl⟩,
    fun c hc => isBlank_of_head?_trimStart hc, fun c hc => h c ?_⟩
  rw [hs, List.getLast?_append, hc]
  rfl

/-- The fence that closes the block is left, and the line that opens it is not. -/
theorem unfenceChars_of_leadingBlock (h : LeadingBlock (trimChars s) info lines more) :
    unfenceChars s = trimStart (lines ++ fence ++ '\n' :: more) := by
  have feedless : '\n' ∉ fence := by decide
  have unclosed : ¬ fence <:+ info ++ '\n' :: (lines ++ fence ++ '\n' :: more) := fun hsuffix =>
    h.unclosed (suffix_of_suffix_cons feedless (suffix_of_suffix_cons feedless hsuffix))
  have hopen : trimChars s = fence ++ (info ++ '\n' :: (lines ++ fence ++ '\n' :: more)) := by
    rw [h.split, List.append_assoc]
  rw [unfenceChars_of_unclosed hopen h.infoLine unclosed]
  refine trimChars_of_last fun c hc => (bare_trimChars s).last c ?_
  have hlast : (fence ++ (info ++ ['\n']) ++ (lines ++ fence ++ '\n' :: more)).getLast? = some c := by
    rw [List.getLast?_append, hc]
    rfl
  rw [hopen, ← hlast]
  simp only [List.append_assoc, List.singleton_append]

end Text

namespace Optimizer

open Text

variable {σ : Type} {o : Optimizer (StateM σ)} {current next : Specification} {report : ResultReport Float}

/-- The specification that an answered request leads to has the prompt that is adopted. -/
theorem improve_of_answered {reply : TextResponse} {w w' : σ} (live : report.fatal = false)
    (answered : o.provider.text (o.request current report) w = (.ok reply, w'))
    (improved : (o.improve current report w).1 = .ok next) :
    next = current.withSystemPrompt (adopt current reply.text) := by
  rw [improve, if_neg (by rw [live]; exact Bool.false_ne_true), bind_run answered] at improved
  dsimp only at improved
  by_cases hsame : adopt current reply.text = current.agent.systemPrompt
  · rw [if_pos hsame] at improved
    rw [hsame, Specification.withSystemPrompt_self]
    exact (Except.ok.inj improved).symm
  · rw [if_neg hsame] at improved
    rcases hsnapshot : o.snapshot (current.withSystemPrompt (adopt current reply.text)) w' with ⟨f | _, w₂⟩
    · rw [bind_run hsnapshot] at improved
      cases improved
    · rw [bind_run hsnapshot] at improved
      exact (Except.ok.inj improved).symm

/-- What becomes of a reply that opens with a fence.  It is left as it is, but for the blanks around it, only if it does
not open with one.  Where it opens with a fenced block and goes on after it, the line that opens the block is taken off,
the line that closes it stays, and so the prompt is tried. -/
theorem adopts_behind_first_line (reply : String) :
    (unfence reply = trim reply ↔ ¬ fence <+: (trim reply).toList) ∧
    ∀ info lines more, LeadingBlock (trim reply).toList info lines more →
      (unfence reply).toList = trimStart (lines ++ fence ++ '\n' :: more) ∧
      ∀ (σ : Type) (o : Optimizer (StateM σ)) current report usage w w', report.fatal = false →
        o.provider.text (o.request current report) w = (.ok ⟨reply, usage⟩, w') →
        ∀ next, (o.improve current report w).1 = .ok next → next = current.withSystemPrompt (unfence reply) := by
  have htrim : (trim reply).toList = trimChars reply.toList := String.toList_ofList
  rw [htrim]
  refine ⟨?_, fun info lines more h => ?_⟩
  · rw [← unfenceChars_eq_trimChars_iff, unfence, trim]
    exact ⟨fun h => String.ofList_injective h, congrArg String.ofList⟩
  · have hleft : (unfence reply).toList = trimStart (lines ++ fence ++ '\n' :: more) := by
      rw [unfence, String.toList_ofList]
      exact unfenceChars_of_leadingBlock h
    refine ⟨hleft, fun σ o current report usage w w' live answered next improved => ?_⟩
    have hnonempty : unfence reply ≠ "" := by
      intro hempty
      rw [hempty] at hleft
      have hblank : isBlank '`' = true := List.dropWhile_eq_nil_iff.1 hleft.symm '`' (by simp [fence])
      exact absurd hblank (by decide)
    have hnext := improve_of_answered live answered improved
    rwa [adopt_eq, if_neg hnonempty] at hnext

/-- A prompt that starts with an example of an answer. -/
def greeting : String := "```\nHi.\n```\nGreet so."

theorem leadingBlock_greeting : LeadingBlock (trim greeting).toList [] "Hi.\n".toList "Greet so.".toList where
  split := by decide +kernel
  infoLine := by decide
  wholeLines := .inr (by decide)
  goesOn := by decide
  unclosed := by decide

/-- An optimizer whose provider answers with that prompt. -/
def greeter : Optimizer (StateM Unit) :=
  { stranded with
    provider :=
      { name := "greeting"
        text := fun _ => pure (.ok ⟨greeting, ⟨0, 0⟩⟩)
        structured := fun _ => pure (.error (.provider "no reply")) } }

/-- The prompt that is tried after it starts inside the example. -/
theorem adopts_behind_first_line_greeting : LeadingBlock (trim greeting).toList [] "Hi.\n".toList "Greet so.".toList ∧
    (unfence greeting).toList = "Hi.\n```\nGreet so.".toList ∧
    (reportOn .exclude [] (.ok ⟨true, []⟩) 0).fatal = false ∧
    ∃ next, (greeter.improve bare (reportOn .exclude [] (.ok ⟨true, []⟩) 0) ()).1 = .ok next ∧
      next = bare.withSystemPrompt (unfence greeting) := by
  obtain ⟨hleft, hadopts⟩ := (adopts_behind_first_line greeting).2 _ _ _ leadingBlock_greeting
  have live : (reportOn .exclude [] (.ok ⟨true, []⟩) 0).fatal = false := rfl
  have answered : greeter.provider.text (greeter.request bare (reportOn .exclude [] (.ok ⟨true, []⟩) 0)) () =
      (.ok ⟨greeting, ⟨0, 0⟩⟩, ()) := rfl
  have hnew : adopt bare greeting ≠ bare.agent.systemPrompt := by decide +kernel
  have improved : (greeter.improve bare (reportOn .exclude [] (.ok ⟨true, []⟩) 0) ()).1 =
      .ok (bare.withSystemPrompt (adopt bare greeting)) := by
    rw [improve, if_neg (by exact Bool.false_ne_true), bind_run answered]
    dsimp only
    rw [if_neg hnew]
    rfl
  refine ⟨leadingBlock_greeting, hleft.trans (by decide), live, _, improved, ?_⟩
  exact hadopts Unit greeter bare _ _ () () live answered _ improved

/-- A prompt that starts with an example is not left as it is. -/
theorem leadingBlock_not_kept :
    ¬ ∀ reply info lines more, LeadingBlock (trim reply).toList info lines more → unfence reply = trim reply := by
  intro h
  have hkept := h greeting _ _ _ leadingBlock_greeting
  have hcut : unfence greeting ≠ trim greeting := by decide +kernel
  exact hcut hkept

end Optimizer

end AgentTrial
