import AgentTrial.Proofs.Text.Slice
import AgentTrial.Proofs.Text.Trim
import AgentTrial.Text.Fence

/-!
# Fence — what is left of a fenced text

* `unfence_of_isBlankText`: `unfence` gives the empty text or one with a character that is no blank.
* `unfenceChars_fenced`: of a fenced text with an info line, the trimmed body is left.
* `infix_unfenceChars`: what is left is a piece of the text.
* `unfenceSlices?_eq`: every offset at which the text is cut is between two characters of it.
* `unfence_undoes_fencing`: all of these.
-/

namespace AgentTrial.Text

/-- Every branch gives a trimmed list; the empty one is the trimming of itself. -/
theorem unfenceChars_eq_trimChars (s : List Char) : ∃ t, unfenceChars s = trimChars t := by
  unfold unfenceChars
  dsimp only
  split
  · exact ⟨s, rfl⟩
  · split
    next inner _ => exact ⟨inner, rfl⟩
    next =>
      split
      · exact ⟨_, rfl⟩
      · exact ⟨[], rfl⟩

theorem unfence_of_isBlankText {s : String} (h : isBlankText (unfence s) = true) : unfence s = "" := by
  obtain ⟨t, ht⟩ := unfenceChars_eq_trimChars s.toList
  rw [isBlankText, unfence, String.toList_ofList, ht] at h
  rw [unfence, ht, trimChars, trimEnd_of_blank h]

/-! ## The body -/

section Body

variable {s t rest body info : List Char}

theorem afterLine?_eq_cut? (s : List Char) : afterLine? s = (cut? ['\n'] s).map (·.2) := by
  induction s with
  | nil => rfl
  | cons c s ih =>
    by_cases hc : c = '\n'
    · simp [afterLine?, cut?, after?, hc]
    · have hc' : ¬ '\n' = c := fun h => hc h.symm
      simp [afterLine?, cut?, after?, hc, hc', ih]
      rfl

theorem afterLine?_append (h : '\n' ∉ info) (body : List Char) : afterLine? (info ++ '\n' :: body) = some body := by
  have hfirst : FirstAt ['\n'] (info ++ ['\n'] ++ body) info body := firstAt_of_notMem h
  have hcut : cut? ['\n'] (info ++ '\n' :: body) = some (info, body) := by
    rw [← cut?_eq_some_iff, List.append_assoc] at hfirst
    exact hfirst
  rw [afterLine?_eq_cut?, hcut]
  rfl

/-- A text without an opening fence is only trimmed. -/
theorem unfenceChars_of_trims (ht : Trims s t) (h : ¬ fence <+: t) : unfenceChars s = t := by
  unfold unfenceChars
  simp only [ht.eq, after?_of_not_starts h]

/-- Three backticks at the end close the fence, and the info line before the first line feed is no part of the body. -/
theorem unfenceChars_of_closed (ht : trimChars s = fence ++ (info ++ '\n' :: body) ++ fence) (hinfo : '\n' ∉ info) :
    unfenceChars s = trimChars body := by
  have hopen : after? fence (trimChars s) = some (info ++ '\n' :: body ++ fence) := by
    rw [ht, List.append_assoc]
    exact after?_append _ _
  have hclose : dropEnd? fence (info ++ '\n' :: body ++ fence) = some (info ++ '\n' :: body) :=
    dropEnd?_eq_some_iff.2 rfl
  unfold unfenceChars
  simp only [hopen, hclose, Option.getD_some, afterLine?_append hinfo]

/-- A fence is not blank at either end, so blanks around a fenced text are all that is trimmed away. -/
theorem trims_fenced {lead trail : List Char} (hlead : lead.all isBlank = true) (htrail : trail.all isBlank = true)
    (x : List Char) : Trims (lead ++ (fence ++ x ++ fence) ++ trail) (fence ++ x ++ fence) := by
  have hlast : (fence ++ x ++ fence).getLast? = some '`' := by
    rw [List.getLast?_append]
    rfl
  refine ⟨⟨lead, trail, rfl, hlead, htrail⟩, fun c hc => ?_, fun c hc => ?_⟩
  · obtain rfl : '`' = c := Option.some.inj hc
    decide
  · obtain rfl : '`' = c := Option.some.inj (hlast.symm.trans hc)
    decide

/-- Of a fenced text with an info line, the trimmed body is left. -/
theorem unfenceChars_fenced {lead trail : List Char} (hlead : lead.all isBlank = true)
    (htrail : trail.all isBlank = true) (hinfo : '\n' ∉ info) (body : List Char) :
    unfenceChars (lead ++ (fence ++ (info ++ '\n' :: (body ++ ['\n'])) ++ fence) ++ trail) = trimChars body := by
  rw [unfenceChars_of_closed (trims_fenced hlead htrail _).eq hinfo]
  exact trimChars_between (l := []) rfl (by decide) body

/-! ## Pieces -/

theorem infix_trimChars (s : List Char) : trimChars s <:+: s := by
  obtain ⟨lead, trail, hs, -, -⟩ := (trims_trimChars s).split
  exact ⟨lead, trail, hs.symm⟩

theorem suffix_of_afterLine? (h : afterLine? body = some t) : t <:+ body := by
  rw [afterLine?_eq_cut?, Option.map_eq_some_iff] at h
  obtain ⟨⟨b, r⟩, hcut, rfl⟩ := h
  exact ⟨b ++ ['\n'], (cut?_some hcut).symm⟩

theorem prefix_closed (rest : List Char) : (dropEnd? fence rest).getD rest <+: rest := by
  cases hclose : dropEnd? fence rest with
  | none => exact List.prefix_rfl
  | some body => exact ⟨fence, (dropEnd?_eq_some_iff.1 hclose).symm⟩

/-- Of a text that opens with a fence, what is left is a piece of what follows the opening. -/
theorem infix_of_opened (hopen : after? fence (trimChars s) = some rest) : unfenceChars s <:+: rest := by
  have hbody := (prefix_closed rest).isInfix
  unfold unfenceChars
  simp only [hopen]
  split
  · rename_i inner hline
    exact (infix_trimChars inner).trans ((suffix_of_afterLine? hline).isInfix.trans hbody)
  · split_ifs
    · exact (infix_trimChars _).trans hbody
    · exact List.nil_infix

/-- What is left is a piece of the text. -/
theorem infix_unfenceChars (s : List Char) : unfenceChars s <:+: s := by
  cases hopen : after? fence (trimChars s) with
  | none =>
    have hs : unfenceChars s = trimChars s := by
      unfold unfenceChars
      simp only [hopen]
    rw [hs]
    exact infix_trimChars s
  | some rest =>
    have hsuffix : rest <:+ trimChars s := ⟨fence, (after?_some hopen).symm⟩
    exact (infix_of_opened hopen).trans (hsuffix.isInfix.trans (infix_trimChars s))

end Body

/-- What stands before the closing fence, if there is one, cut out at its byte offset. -/
def closedSlice? (rest : String) : Option String :=
  if endsWith fence rest.toList then slice? rest 0 (rest.utf8ByteSize - 3) else some rest

/-- The body of a fenced text, cut out at byte offsets. -/
def unfenceSlices? (s : String) : Option String :=
  let t := trim s
  match after? fence t.toList with
  | none => some t
  | some _ => do
    let rest ← slice? t 3 t.utf8ByteSize
    let closed := endsWith fence rest.toList
    let body ← closedSlice? rest
    match offset? "\n" body with
    | some n => (slice? body (n + 1) body.utf8ByteSize).map trim
    | none => some (if closed then trim body else "")

/-- The text after a line feed, cut out at the offset behind it. -/
theorem slice?_afterLine {s : String} {n : Nat} (h : offset? "\n" s = some n) :
    ∃ inner, afterLine? s.toList = some inner ∧ slice? s (n + 1) s.utf8ByteSize = some (.ofList inner) := by
  obtain ⟨b, r, hcut, -, -, -, hslice⟩ := slices_of_offset? h
  refine ⟨r.toList, ?_, by rw [String.ofList_toList]; exact hslice⟩
  rw [afterLine?_eq_cut?]
  exact Option.map_eq_some_iff.2 ⟨_, hcut, rfl⟩

theorem afterLine?_of_offset? {s : String} (h : offset? "\n" s = none) : afterLine? s.toList = none := by
  rw [afterLine?_eq_cut?, Option.map_eq_none_iff]
  exact offset?_eq_none_iff.1 h

theorem endsWith_eq_isSome (p s : List Char) : endsWith p s = (dropEnd? p s).isSome := Option.isSome_map.symm

/-- The three bytes of a closing fence are cut off. -/
theorem closedSlice?_eq (rest : List Char) :
    closedSlice? (.ofList rest) = some (String.ofList ((dropEnd? fence rest).getD rest)) := by
  rw [closedSlice?, String.toList_ofList, endsWith_eq_isSome]
  cases hclose : dropEnd? fence rest with
  | none => rfl
  | some body =>
    have hfence : "```".utf8ByteSize = 3 := by decide
    have hrest : String.ofList rest = String.ofList body ++ "```" := by
      rw [dropEnd?_eq_some_iff.1 hclose, String.ofList_append]
      rfl
    have hsize : (String.ofList rest).utf8ByteSize - 3 = (String.ofList body).utf8ByteSize := by
      rw [hrest, String.utf8ByteSize_append, hfence, Nat.add_sub_cancel]
    rw [hsize, hrest]
    exact slice?_left _ _

/-- No cut fails: every offset is between two characters of the text it is in. -/
theorem unfenceSlices?_eq (s : String) : unfenceSlices? s = some (unfence s) := by
  have htrim : (trim s).toList = trimChars s.toList := String.toList_ofList
  unfold unfenceSlices? unfence unfenceChars
  dsimp only
  rw [htrim]
  cases hopen : after? fence (trimChars s.toList) with
  | none => rfl
  | some rest =>
    have hrest : slice? (trim s) 3 (trim s).utf8ByteSize = some (.ofList rest) := by
      rw [show trim s = "```" ++ String.ofList rest by rw [trim, after?_some hopen, String.ofList_append]; rfl]
      exact slice?_right _ _
    simp only [hrest, Option.bind_eq_bind, Option.bind_some, String.toList_ofList, closedSlice?_eq,
      endsWith_eq_isSome]
    generalize (dropEnd? fence rest).getD rest = body
    cases hline : offset? "\n" (String.ofList body) with
    | some n =>
      obtain ⟨inner, hinner, hslice⟩ := slice?_afterLine hline
      rw [String.toList_ofList] at hinner
      simp only [hslice, hinner, Option.map_some, trim, String.toList_ofList]
    | none =>
      have hinner := afterLine?_of_offset? hline
      rw [String.toList_ofList] at hinner
      simp only [hinner, trim, String.toList_ofList]
      cases (dropEnd? fence rest).isSome <;> rfl

/-! ## The whole -/

/-- Taking the fence off undoes putting it on: of a fenced text with an info line and blanks around it, the body is
left without the blanks at its ends.  Of a text that does not open with a fence, all is left but those.  And whatever
the text, what is left is a piece of it with no blank at either end, cut out between characters. -/
theorem unfence_undoes_fencing (s : String) :
    (∀ lead info body trail : String, isBlankText lead = true → isBlankText trail = true → '\n' ∉ info.toList →
      s = lead ++ "```" ++ info ++ "\n" ++ body ++ "\n```" ++ trail → Trims body.toList (unfence s).toList) ∧
    (∀ t, Trims s.toList t → ¬ fence <+: t → (unfence s).toList = t) ∧
    (∃ before after, s = before ++ unfence s ++ after) ∧ Bare (unfence s).toList ∧
    (unfence s = "" ∨ isBlankText (unfence s) = false) ∧ unfenceSlices? s = some (unfence s) := by
  refine ⟨?_, ?_, ?_, ?_, ?_, unfenceSlices?_eq s⟩
  · rintro lead info body trail hlead htrail hinfo rfl
    have hfenced := unfenceChars_fenced hlead htrail hinfo body.toList
    rw [trims_iff, ← hfenced, unfence, String.toList_ofList]
    congr 1
    simp [fence]
  · intro t ht hopen
    rw [unfence, String.toList_ofList]
    exact unfenceChars_of_trims ht hopen
  · obtain ⟨before, after, hs⟩ := infix_unfenceChars s.toList
    refine ⟨.ofList before, .ofList after, ?_⟩
    rw [unfence, ← String.ofList_append, ← String.ofList_append, hs, String.ofList_toList]
  · obtain ⟨t, ht⟩ := unfenceChars_eq_trimChars s.toList
    rw [unfence, String.toList_ofList, ht]
    exact bare_trimChars t
  · cases hblank : isBlankText (unfence s) with
    | true => exact .inl (unfence_of_isBlankText hblank)
    | false => exact .inr rfl

/-- A body that opens and closes with backticks of its own, in a fence with blanks around it. -/
theorem unfence_undoes_fencing_nested :
    isBlankText " \u2003" = true ∧ isBlankText "\n" = true ∧ '\n' ∉ "md".toList ∧
    Trims "```\nx\n``` ".toList (unfence (" \u2003" ++ "```" ++ "md" ++ "\n" ++ "```\nx\n``` " ++ "\n```" ++ "\n")).toList ∧
    Trims " `a` ".toList "`a`".toList ∧ (unfence " `a` ").toList = "`a`".toList := by
  have hlead : isBlankText " \u2003" = true := by decide
  have htrail : isBlankText "\n" = true := by decide
  have hinfo : '\n' ∉ "md".toList := by decide
  have htrims : Trims " `a` ".toList "`a`".toList := trims_iff.2 (by decide)
  exact ⟨hlead, htrail, hinfo, (unfence_undoes_fencing _).1 _ _ _ _ hlead htrail hinfo rfl, htrims,
    (unfence_undoes_fencing _).2.1 _ htrims (by decide)⟩

end AgentTrial.Text
