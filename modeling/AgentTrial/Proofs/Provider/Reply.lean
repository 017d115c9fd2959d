import AgentTrial.Proofs.Json.Locality
import AgentTrial.Proofs.Json.Printer
import AgentTrial.Proofs.Text.Fence
import AgentTrial.Proofs.Text.Replace
import AgentTrial.Provider.Command

/-!
# Reply — value trees in the answers of a command

An answer may have text around the value tree that was asked for, and a fence around it all.  The tree is found where
the first bracket or brace is, and what follows it is not looked at.

* `findStructured_of_container`: the tree is the one that starts at the first bracket or brace of the body.
* `findStructured_amid_chatter`: so it is found whatever follows it, with a fence or without one.
-/

namespace AgentTrial

namespace Json

theorem isBlank_of_isSpace {c : Char} (h : isSpace c = true) : Text.isBlank c = true := by
  simp only [isSpace, Bool.or_eq_true, decide_eq_true_eq] at h
  obtain ((rfl | rfl) | rfl) | rfl := h <;> decide

/-- A text that is parsed to a container has the container in it, between blanks. -/
theorem exists_container_of_parse {j : String} {v : Json} (h : parse j = .ok v) (container : v.isContainer = true) :
    ∃ d b w r, j.toList = b ++ w ++ r ∧ Blank b ∧ Container d w ∧ d.asJson = .ok v := by
  rw [parse, ofText] at h
  split at h
  · split at h <;> cases h
  · rename_i d r hread
    cases hv : d.asJson with
    | error c =>
      rw [hv] at h
      cases h
    | ok u =>
      rw [hv] at h
      have hu : u = v := by
        dsimp only [Except.bind, bind] at h
        split_ifs at h
        cases h
        rfl
      subst hu
      obtain ⟨b, w, hj, blank, hw⟩ := exists_container hread hv container
      exact ⟨d, b, w, r, hj, blank, hw, hv⟩

/-- A container neither starts nor ends with a blank. -/
theorem Container.bare {d : Datum} {w : List Char} (h : Container d w) : Text.Bare w := by
  refine ⟨fun c hc => ?_, fun c hc => ?_⟩
  · obtain ⟨c', t, rfl, hopen⟩ := h.opens
    cases hc
    rcases hopen with rfl | rfl <;> decide
  · obtain ⟨t, c', rfl, hclose⟩ := h.closes
    rw [List.getLast?_concat] at hc
    cases hc
    rcases hclose with rfl | rfl <;> decide

theorem Container.ne_nil {d : Datum} {w : List Char} (h : Container d w) : w ≠ [] := by
  obtain ⟨c, t, rfl, -⟩ := h.opens
  exact List.cons_ne_nil c t

end Json

namespace CommandProvider

open Text

section Body

variable {reply : String} {before b w behind : List Char} {d : Datum} {v : Json}

/-- The tree is the one that starts at the first bracket or brace of the body. -/
theorem findStructured_of_container (hbody : unfenceChars reply.toList = before ++ w ++ behind)
    (hbefore : ∀ c ∈ before, opensValue c = false) (hw : Json.Container d w) (hv : d.asJson = .ok v) :
    findStructured reply = .ok v := by
  obtain ⟨c, t, rfl, hopen⟩ := hw.opens
  have hfound : opensValue c = true := by rcases hopen with rfl | rfl <;> decide
  have hdrop : (before ++ (c :: t) ++ behind).dropWhile (fun c => !opensValue c) = c :: (t ++ behind) := by
    rw [List.append_assoc, List.dropWhile_append_of_pos (fun c hc => by simp [hbefore c hc]), List.cons_append,
      List.dropWhile_cons_of_neg (by simp [hfound])]
  have hread : Json.readFirst (c :: (t ++ behind)) = (d, some behind) := hw.reads behind
  rw [findStructured, hbody, hdrop]
  dsimp only
  rw [hread]
  dsimp only
  rw [hv]

theorem trimChars_container (hw : Json.Container d w) (l r : List Char) :
    trimChars (l ++ w ++ r) = trimStart l ++ w ++ trimEnd r := trimChars_around hw.ne_nil hw.bare l r

/-- A text that goes on with a blank or with a container opens with a fence only if the text before does. -/
theorem not_fence_of_container (hw : Json.Container d w) (blank : Json.Blank b) {p : List Char}
    (hfence : ¬ fence <+: trimStart p) (r : List Char) : ¬ fence <+: trimStart (p ++ b) ++ w ++ r := by
  obtain ⟨c, t, rfl, hopen⟩ := hw.opens
  have hc : c ∉ fence := by rcases hopen with rfl | rfl <;> decide
  have hblank : trimStart b = [] := by
    rw [← List.append_nil b, trimStart_append (List.all_eq_true.2 fun c hc => Json.isBlank_of_isSpace (blank c hc))]
    rfl
  rw [List.append_assoc, List.cons_append, prefix_append_cons_iff hc]
  obtain ⟨lead, hp, hlead⟩ := exists_trimStart p
  rw [hp, List.append_assoc, trimStart_append hlead]
  cases hstart : trimStart p with
  | nil =>
    rw [List.nil_append, hblank]
    decide
  | cons e p' =>
    have he : isBlank e = false := isBlank_of_head?_trimStart (by rw [hstart]; rfl)
    rw [List.cons_append, trimStart_cons_of he, ← List.cons_append, ← hstart]
    cases b with
    | nil => rwa [List.append_nil]
    | cons s b =>
      have hs : s ∉ fence := by
        intro hmem
        obtain rfl : s = '`' := by simpa [fence] using hmem
        exact absurd (blank _ List.mem_cons_self) (by decide)
      rwa [prefix_append_cons_iff hs]

/-- What the body has before a container is passed over. -/
theorem findStructured_of_body (hw : Json.Container d w) (hv : d.asJson = .ok v) (blank : Json.Blank b)
    {p r : List Char} (chatter : ∀ c ∈ p, opensValue c = false)
    (hbody : unfenceChars reply.toList = trimChars (p ++ b ++ w ++ r)) : findStructured reply = .ok v := by
  rw [trimChars_container hw] at hbody
  refine findStructured_of_container hbody (fun c hc => ?_) hw hv
  have hmem : c ∈ p ++ b := (List.dropWhile_sublist isBlank).subset hc
  rcases List.mem_append.1 hmem with hp | hb
  · exact chatter c hp
  · have space := blank c hb
    simp only [Json.isSpace, Bool.or_eq_true, decide_eq_true_eq] at space
    obtain ((rfl | rfl) | rfl) | rfl := space <;> decide

end Body

theorem findStructured_error_of_noBracket {reply : String} (h : ∀ c ∈ reply.toList, opensValue c = false) :
    ∃ message, findStructured reply = .error (.provider message) :=
  ⟨_, findStructured_of_noBracket fun c hc => h c ((infix_unfenceChars reply.toList).subset hc)⟩

/-- A value tree is found behind any text without brackets and braces and before any text at all, in a fence with an
info line or without a fence, which the text before the tree must not open then.  A reply without brackets and braces
is refused.  The texts that are parsed to a tree are all that the grammar has, as far as they are not nested too
deep. -/
theorem findStructured_amid_chatter :
    (∀ {v : Json} {j : String}, Json.parse j = .ok v → v.isContainer = true → ∀ p s : String,
      (∀ c ∈ p.toList, opensValue c = false) →
        (¬ fence <+: trimStart p.toList → findStructured (p ++ j ++ s) = .ok v) ∧
        ∀ lead info trail : String, isBlankText lead = true → isBlankText trail = true → '\n' ∉ info.toList →
          findStructured (lead ++ "```" ++ info ++ "\n" ++ (p ++ j ++ s) ++ "```" ++ trail) = .ok v) ∧
    (∀ reply : String, (∀ c ∈ reply.toList, opensValue c = false) →
      ∃ message, findStructured reply = .error (.provider message)) ∧
    ∀ {u : Json} {b w b' : List Char}, Json.Blank b → Json.Written u w → Json.Blank b' → u.depth ≤ Json.maxDepth →
      Json.parse (.ofList (b ++ w ++ b')) = .ok u.canonical := by
  refine ⟨fun {v j} written container p s chatter => ?_, fun _ => findStructured_error_of_noBracket,
    fun before written behind deep => Json.parse_of_written before written behind deep⟩
  obtain ⟨d, b, w, r, hj, blank, hw, hv⟩ := Json.exists_container_of_parse written container
  have hreply : (p ++ j ++ s).toList = p.toList ++ b ++ w ++ (r ++ s.toList) := by
    rw [String.toList_append, String.toList_append, hj]
    simp only [List.append_assoc]
  constructor
  · intro hfence
    have hbody : unfenceChars (p ++ j ++ s).toList = trimChars (p ++ j ++ s).toList := by
      refine unfenceChars_of_trims (trims_trimChars _) ?_
      rw [hreply, trimChars_container hw]
      exact not_fence_of_container hw blank hfence _
    exact findStructured_of_body hw hv blank chatter (hbody.trans (congrArg trimChars hreply))
  · intro lead info trail hlead htrail hinfo
    have hfenced := (trims_fenced hlead htrail (info.toList ++ '\n' :: (p ++ j ++ s).toList)).eq
    have hbody := (unfenceChars_of_closed hfenced hinfo).trans (congrArg trimChars hreply)
    refine findStructured_of_body hw hv blank chatter (Eq.trans (congrArg unfenceChars ?_) hbody)
    simp [fence]

/-- The answer of a judge. -/
def passed : Json := .record [("passed", .bool true)]

theorem parse_passed : Json.parse "\x7b\"passed\": true\x7d" = .ok passed := by
  have written := Json.Written.record Json.blank_nil
    (.mk (Json.spelled_quoted "passed") Json.blank_nil Json.blank_space .yes) (.nil Json.blank_nil)
  refine Eq.trans (congrArg Json.parse ?_) (Json.parse_of_written Json.blank_nil written Json.blank_nil (by decide))
  decide

theorem findStructured_amid_chatter_passed :
    findStructured ("Sure `` " ++ "\x7b\"passed\": true\x7d" ++ " or \x7belse ```") = .ok passed ∧
    findStructured ("" ++ "```" ++ "json" ++ "\n" ++ ("```" ++ "\x7b\"passed\": true\x7d" ++ "]\n") ++ "```" ++ "\n") =
      .ok passed ∧
    ∃ message, findStructured "no tree" = .error (.provider message) := by
  obtain ⟨hfound, hrefused, -⟩ := findStructured_amid_chatter
  refine ⟨(hfound parse_passed rfl _ _ (by simp [opensValue])).1 (by decide), ?_, hrefused _ (by simp [opensValue])⟩
  exact (hfound parse_passed rfl _ _ (by simp [opensValue])).2 "" "json" "\n" (by decide) (by decide) (by decide)

end CommandProvider

end AgentTrial
