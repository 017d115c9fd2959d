import AgentTrial.Proofs.Json.Grammar

/-!
# Locality — reading a value does not look behind it

Reading a token looks at the token and at most at the first character behind it, which tells where a number ends.  A
container ends with a mark of its own, so reading it looks at nothing behind it at all: whatever follows the container
in a text may be changed into anything.

* `Upto`: a reader that depends on what it takes and on the next character only.
* `lex_upto`: every token is read so.
* `run_local`: the machine inside a container takes the same from every text that goes on with what it took.
* `exists_container`: where a container stands in a text that was read.
-/

namespace AgentTrial.Json

/-- The reader takes `s` up to `rest`, and it takes the same from every text that has another rest with the same first
character. -/
def Upto {α : Type} (read result : List Char → α) (s rest : List Char) : Prop :=
  ∃ u, s = u ++ rest ∧ ∀ y, y.head? = rest.head? → read (u ++ y) = result y

theorem head?_append_congr {y rest : List Char} (h : y.head? = rest.head?) (u : List Char) :
    (u ++ y).head? = (u ++ rest).head? := by
  rw [List.head?_append, List.head?_append, h]

/-! ## Numbers -/

section Numbers

variable {negative whole : Bool} {w : Decimal.Written} {s rest : List Char} {d : Datum}

theorem spanSign_upto (s : List Char) :
    Upto Decimal.spanSign (fun y => ((Decimal.spanSign s).1, y)) s (Decimal.spanSign s).2 := by
  cases s with
  | nil =>
    refine ⟨[], rfl, fun y hy => ?_⟩
    rw [List.head?_eq_none_iff.1 hy]
    rfl
  | cons c s =>
    by_cases hminus : c = '-'
    · subst hminus
      exact ⟨['-'], rfl, fun y _ => rfl⟩
    · by_cases hplus : c = '+'
      · subst hplus
        exact ⟨['+'], rfl, fun y _ => rfl⟩
      · have hnone (t : List Char) : Decimal.spanSign (c :: t) = (false, c :: t) := by
          unfold Decimal.spanSign
          split <;> simp_all
        rw [hnone]
        refine ⟨[], rfl, fun y hy => ?_⟩
        obtain ⟨t, rfl⟩ := List.head?_eq_some_iff.1 hy
        exact hnone t

theorem spanDigits_upto (s : List Char) :
    Upto Decimal.spanDigits (fun y => ((Decimal.spanDigits s).1, y)) s (Decimal.spanDigits s).2 := by
  refine ⟨s.takeWhile Char.isDigit, List.takeWhile_append_dropWhile.symm, fun y hy => ?_⟩
  have hdigits : ∀ c ∈ s.takeWhile Char.isDigit, c.isDigit = true := fun c hc => List.mem_takeWhile_imp hc
  have hnone : y.takeWhile Char.isDigit = [] ∧ y.dropWhile Char.isDigit = y := by
    cases y with
    | nil => exact ⟨rfl, rfl⟩
    | cons c y =>
      have hc : c.isDigit = false := by
        have hnot := List.head?_dropWhile_not Char.isDigit s
        rw [show s.dropWhile Char.isDigit = (Decimal.spanDigits s).2 from rfl, ← hy] at hnot
        exact hnot
      simp [hc]
  rw [Decimal.spanDigits, List.takeWhile_append_of_pos hdigits, List.dropWhile_append_of_pos hdigits, hnone.1, hnone.2,
    List.append_nil]
  rfl

theorem scanExponent_upto (h : scanExponent w whole s = .ok (d, rest)) :
    Upto (scanExponent w whole) (fun y => .ok (d, y)) s rest := by
  cases s with
  | nil =>
    obtain ⟨rfl, rfl⟩ := Prod.mk.inj (Except.ok.inj h)
    refine ⟨[], rfl, fun y hy => ?_⟩
    rw [List.head?_eq_none_iff.1 hy]
    rfl
  | cons c s =>
    unfold scanExponent at h
    dsimp only at h
    by_cases hc : c = 'e' ∨ c = 'E'
    · rw [if_pos hc] at h
      by_cases hdigits : (Decimal.spanDigits (Decimal.spanSign s).2).1.isEmpty = true
      · rw [if_pos hdigits] at h
        cases h
      rw [if_neg hdigits] at h
      obtain ⟨rfl, rfl⟩ := Prod.mk.inj (Except.ok.inj h)
      obtain ⟨u₁, hs, hsign⟩ := spanSign_upto s
      obtain ⟨u₂, ht, hspan⟩ := spanDigits_upto (Decimal.spanSign s).2
      refine ⟨c :: (u₁ ++ u₂), ?_, fun y hy => ?_⟩
      · rw [List.cons_append, List.append_assoc, ← ht, ← hs]
      · have hrest := hsign (u₂ ++ y) (by
          rw [ht]
          exact head?_append_congr hy u₂)
        rw [List.cons_append, List.append_assoc, scanExponent, if_pos hc, hrest]
        dsimp only
        rw [hspan y hy, if_neg hdigits]
    · rw [if_neg hc] at h
      obtain ⟨rfl, rfl⟩ := Prod.mk.inj (Except.ok.inj h)
      refine ⟨[], rfl, fun y hy => ?_⟩
      obtain ⟨t, rfl⟩ := List.head?_eq_some_iff.1 hy
      rw [List.nil_append, scanExponent, if_neg hc]

/-- A number with something behind its digits. -/
theorem scanNumber_of_digits {c e : Char} {ds t : List Char} (h : Decimal.spanDigits s = (c :: ds, e :: t))
    (hzero : ¬ (c = '0' ∧ ds ≠ [])) : scanNumber negative s =
      if e = '.' then
        if (Decimal.spanDigits t).1.isEmpty then .error (breakAt (Decimal.spanDigits t).2)
        else scanExponent ⟨negative, c :: ds, (Decimal.spanDigits t).1, 0⟩ false (Decimal.spanDigits t).2
      else scanExponent ⟨negative, c :: ds, [], 0⟩ true (e :: t) := by
  rw [scanNumber, h]
  exact if_neg hzero

/-- A number that is its digits. -/
theorem scanNumber_of_whole {c : Char} {ds : List Char} (h : Decimal.spanDigits s = (c :: ds, []))
    (hzero : ¬ (c = '0' ∧ ds ≠ [])) : scanNumber negative s = .ok (numberDatum ⟨negative, c :: ds, [], 0⟩ true, []) := by
  rw [scanNumber, h]
  exact if_neg hzero

theorem exists_digits_of_scanNumber {r : Datum × List Char} (h : scanNumber negative s = .ok r) :
    ∃ c ds, (Decimal.spanDigits s).1 = c :: ds ∧ ¬ (c = '0' ∧ ds ≠ []) := by
  unfold scanNumber at h
  dsimp only at h
  split at h
  · cases h
  · rename_i c ds hdigits
    split_ifs at h with hzero
    exact ⟨c, ds, hdigits, hzero⟩

theorem scanNumber_upto (h : scanNumber negative s = .ok (d, rest)) :
    Upto (scanNumber negative) (fun y => .ok (d, y)) s rest := by
  obtain ⟨u, hs, hspan⟩ := spanDigits_upto s
  obtain ⟨c, ds, hdigits, hzero⟩ := exists_digits_of_scanNumber h
  rw [hdigits] at hspan
  cases hleft : (Decimal.spanDigits s).2 with
  | nil =>
    rw [hleft] at hs hspan
    rw [scanNumber_of_whole (Prod.ext hdigits hleft) hzero] at h
    obtain ⟨rfl, rfl⟩ := Prod.mk.inj (Except.ok.inj h)
    refine ⟨u, hs, fun y hy => ?_⟩
    rw [List.head?_eq_none_iff.1 hy, scanNumber_of_whole (hspan [] rfl) hzero]
  | cons e t =>
    rw [hleft] at hs hspan
    have hdigits' (y : List Char) : Decimal.spanDigits (u ++ e :: y) = (c :: ds, e :: y) := hspan (e :: y) rfl
    rw [scanNumber_of_digits (Prod.ext hdigits hleft) hzero] at h
    split_ifs at h with hpoint hfraction
    · obtain ⟨u₂, ht, hfrac⟩ := spanDigits_upto t
      obtain ⟨u₃, hr, hexponent⟩ := scanExponent_upto h
      refine ⟨u ++ e :: (u₂ ++ u₃), ?_, fun y hy => ?_⟩
      · rw [List.append_assoc, List.cons_append, List.append_assoc, ← hr, ← ht, ← hs]
      · have hrest := hfrac (u₃ ++ y) (by
          rw [hr]
          exact head?_append_congr hy u₃)
        rw [List.append_assoc, List.cons_append, List.append_assoc, scanNumber_of_digits (hdigits' _) hzero,
          if_pos hpoint, hrest, if_neg hfraction, hexponent y hy]
    · obtain ⟨u₂, ht, hexponent⟩ := scanExponent_upto h
      refine ⟨u ++ u₂, by rw [List.append_assoc, ← ht, ← hs], fun y hy => ?_⟩
      have hhead := head?_append_congr hy u₂
      rw [← ht, List.head?_cons] at hhead
      obtain ⟨t', ht'⟩ := List.head?_eq_some_iff.1 hhead
      have hread := hexponent y hy
      rw [ht'] at hread
      rw [List.append_assoc, ht', scanNumber_of_digits (hdigits' _) hzero, if_neg hpoint, hread]

end Numbers

/-! ## Values -/

/-- Is this a list or a record? -/
def isContainer : Json → Bool
  | .list _ => true
  | .record _ => true
  | _ => false

/-- The datum stands for a single value, if it stands for one. -/
def Single (d : Datum) : Prop := ∀ v, d.asJson = .ok v → v.isContainer = false

theorem single_refused (d : Datum) : Single (.refused d) := nofun

theorem single_of_asJson {d : Datum} {v : Json} (h : d.asJson = .ok v) (single : v.isContainer = false) : Single d := by
  intro w hw
  rw [h] at hw
  cases hw
  exact single

theorem single_numberDatum (w : Decimal.Written) (whole : Bool) : Single (numberDatum w whole) := by
  unfold numberDatum
  dsimp only
  split_ifs
  · exact single_of_asJson rfl rfl
  · exact single_of_asJson rfl rfl
  · split
    · exact single_of_asJson rfl rfl
    · exact single_refused _

/-! ## Tokens -/

/-- A text ends at its own closing quote. -/
theorem scanText_upto {s rest : List Char} {ps : List Piece} (h : scanText s = (ps, .closed rest)) :
    ∃ u, s = u ++ rest ∧ ∀ y, scanText (u ++ y) = (ps, .closed y) := by
  -- a piece is read alike before every text
  have piece (front : List Char) {s : List Char} {p : Piece} {ps : List Piece}
      (hfront : ∀ y, scanText (front ++ y) = (p :: (scanText y).1, (scanText y).2))
      (h : (p :: (scanText s).1, (scanText s).2) = (ps, TextEnd.closed rest))
      (ih : ∀ {ps}, scanText s = (ps, .closed rest) → ∃ u, s = u ++ rest ∧ ∀ y, scanText (u ++ y) = (ps, .closed y)) :
      ∃ u, front ++ s = u ++ rest ∧ ∀ y, scanText (u ++ y) = (ps, .closed y) := by
    obtain ⟨rfl, hend⟩ := Prod.mk.inj h
    obtain ⟨u, hs, hread⟩ := ih (Prod.ext rfl hend)
    refine ⟨front ++ u, by rw [List.append_assoc, ← hs], fun y => ?_⟩
    rw [List.append_assoc, hfront, hread]
  fun_induction scanText s generalizing ps with
  | case2 s =>
    cases h
    exact ⟨['"'], rfl, fun y => by rw [List.singleton_append, scanText.eq_def]; rfl⟩
  | case4 h₁ h₂ h₃ h₄ s n hcode _ ih =>
    exact piece ['\\', 'u', h₁, h₂, h₃, h₄] (fun _ => scanText_code hcode) h ih
  | case7 e s _ c hescape _ ih => exact piece ['\\', e] (fun _ => scanText_escape hescape) h ih
  | case10 c s quote slash visible ih =>
    exact piece [c] (fun _ => scanText_char quote slash (Nat.le_of_not_lt visible)) h ih
  | _ => cases h

theorem lexText_upto {s rest : List Char} {t : Token} (h : lexText s = .token t rest) :
    ∃ u, s = u ++ rest ∧ ∀ y, lexText (u ++ y) = .token t y := by
  unfold lexText at h
  split at h
  · rename_i ps r hscan
    have hr : r = rest := by split at h <;> cases h <;> rfl
    subst hr
    obtain ⟨u, hs, hread⟩ := scanText_upto hscan
    refine ⟨u, hs, fun y => ?_⟩
    rw [lexText, hread]
    split at h <;> cases h <;> simp_all
  · split at h <;> cases h

theorem lexWord_upto {w s rest : List Char} {d : Datum} {t : Token} (h : lexWord w d s = .token t rest) :
    s = w ++ rest ∧ ∀ y, lexWord w d (w ++ y) = .token t y := by
  have hword {w s r : List Char} (h : scanWord w s = .ok r) : s = w ++ r ∧ ∀ y, scanWord w (w ++ y) = .ok y := by
    induction w generalizing s with
    | nil =>
      cases h
      exact ⟨rfl, fun _ => rfl⟩
    | cons a w ih =>
      cases s with
      | nil => cases h
      | cons c s =>
        rw [scanWord] at h
        split_ifs at h with hc
        subst hc
        obtain ⟨hs, hread⟩ := ih h
        refine ⟨by rw [hs]; rfl, fun y => ?_⟩
        rw [List.cons_append, scanWord, if_pos rfl, hread]
  unfold lexWord at h
  split at h
  · rename_i r hr
    cases h
    obtain ⟨hs, hread⟩ := hword hr
    refine ⟨hs, fun y => ?_⟩
    rw [lexWord, hread]
  · cases h

theorem lexNumber_length {negative : Bool} {s rest : List Char} {t : Token} (h : lexNumber negative s = .token t rest) :
    rest.length < s.length := by
  unfold lexNumber at h
  split at h
  · rename_i d r hr
    cases h
    exact scanNumber_length hr
  · cases h

theorem lexNumber_upto {negative : Bool} {s rest : List Char} {t : Token} (h : lexNumber negative s = .token t rest) :
    Upto (lexNumber negative) (fun y => .token t y) s rest := by
  unfold lexNumber at h
  split at h
  · rename_i d r hr
    cases h
    obtain ⟨u, hs, hread⟩ := scanNumber_upto hr
    refine ⟨u, hs, fun y hy => ?_⟩
    rw [lexNumber, hread y hy]
  · cases h

theorem single_of_scanExponent {w : Decimal.Written} {whole : Bool} {s rest : List Char} {d : Datum}
    (h : scanExponent w whole s = .ok (d, rest)) : Single d := by
  unfold scanExponent at h
  split at h
  · cases h
    exact single_numberDatum _ _
  · dsimp only at h
    split at h
    · split at h
      · cases h
      · cases h
        exact single_numberDatum _ _
    · cases h
      exact single_numberDatum _ _

theorem single_of_scanNumber {negative : Bool} {s rest : List Char} {d : Datum}
    (h : scanNumber negative s = .ok (d, rest)) : Single d := by
  obtain ⟨c, ds, hdigits, hzero⟩ := exists_digits_of_scanNumber h
  cases hleft : (Decimal.spanDigits s).2 with
  | nil =>
    rw [scanNumber_of_whole (Prod.ext hdigits hleft) hzero] at h
    cases h
    exact single_numberDatum _ _
  | cons e t =>
    rw [scanNumber_of_digits (Prod.ext hdigits hleft) hzero] at h
    split_ifs at h
    · exact single_of_scanExponent h
    · exact single_of_scanExponent h

/-- What reads the token that starts at a character. -/
inductive Lexer (c : Char) : (List Char → Lexed) → Prop
  | mark {t : Token} (h : mark? c = some t) : Lexer c (.token t)
  | text : Lexer c lexText
  | word (w : List Char) {d : Datum} (single : Single d) : Lexer c (lexWord w d)
  | negative : Lexer c (lexNumber true)
  | digits : Lexer c fun s => lexNumber false (c :: s)
  | malformed : Lexer c fun _ => .stop (.broken .malformed)

theorem lexer_lexFrom (due : Due) (c : Char) : Lexer c (lexFrom due c) := by
  cases hmark : mark? c with
  | some t =>
    have hread : lexFrom due c = .token t := by
      funext s
      rw [lexFrom.eq_def, hmark]
    rw [hread]
    exact .mark hmark
  | none =>
    cases due with
    | value closable =>
      by_cases hquote : c = '"'
      · subst hquote
        exact .text
      by_cases hn : c = 'n'
      · subst hn
        exact .word ['u', 'l', 'l'] (single_of_asJson (d := .null) rfl rfl)
      by_cases ht : c = 't'
      · subst ht
        exact .word ['r', 'u', 'e'] (single_of_asJson (d := .bool true) rfl rfl)
      by_cases hf : c = 'f'
      · subst hf
        exact .word ['a', 'l', 's', 'e'] (single_of_asJson (d := .bool false) rfl rfl)
      by_cases hminus : c = '-'
      · subst hminus
        exact .negative
      have hread (s : List Char) : lexFrom (.value closable) c s =
          if c.isDigit then lexNumber false (c :: s) else .stop (.broken .malformed) := by
        rw [lexFrom.eq_def, hmark]
        simp only [hquote, hn, ht, hf, hminus, if_false]
      cases hdigit : c.isDigit <;> simp only [hdigit] at hread <;> rw [funext hread]
      · exact .malformed
      · exact .digits
    | key closable =>
      by_cases hquote : c = '"'
      · subst hquote
        exact .text
      have hread (s : List Char) : lexFrom (.key closable) c s = .stop (.broken .malformed) := by
        rw [lexFrom.eq_def, hmark]
        exact if_neg hquote
      rw [funext hread]
      exact .malformed
    | colon =>
      have hread (s : List Char) : lexFrom .colon c s = .stop (.broken .malformed) := by rw [lexFrom.eq_def, hmark]
      rw [funext hread]
      exact .malformed
    | next =>
      have hread (s : List Char) : lexFrom .next c s = .stop (.broken .malformed) := by rw [lexFrom.eq_def, hmark]
      rw [funext hread]
      exact .malformed

theorem Lexer.upto {c : Char} {read : List Char → Lexed} {s rest : List Char} {t : Token} (h : Lexer c read)
    (hread : read s = .token t rest) : Upto read (fun y => .token t y) s rest := by
  cases h with
  | mark h =>
    cases hread
    exact ⟨[], rfl, fun _ _ => rfl⟩
  | text =>
    obtain ⟨u, hs, hu⟩ := lexText_upto hread
    exact ⟨u, hs, fun y _ => hu y⟩
  | word w d =>
    obtain ⟨hs, hw⟩ := lexWord_upto hread
    exact ⟨w, hs, fun y _ => hw y⟩
  | negative => exact lexNumber_upto hread
  | digits =>
    obtain ⟨u, hs, hu⟩ := lexNumber_upto hread
    cases u with
    | nil =>
      -- a number takes its first digit at least
      have hlength := lexNumber_length hread
      rw [List.nil_append] at hs
      rw [hs] at hlength
      exact absurd hlength (Nat.lt_irrefl _)
    | cons c' u =>
      obtain ⟨rfl, hs'⟩ := List.cons.inj hs
      exact ⟨u, hs', hu⟩
  | malformed => cases hread

/-- A character that is no mark starts the token of a single value. -/
theorem Lexer.single {c : Char} {read : List Char → Lexed} {s rest : List Char} {t : Token} (h : Lexer c read)
    (hmark : mark? c = none) (hread : read s = .token t rest) : ∃ d, Single d ∧ (t = .text d ∨ t = .scalar d) := by
  have hnumber {negative : Bool} {s : List Char} (hread : lexNumber negative s = .token t rest) :
      ∃ d, Single d ∧ (t = .text d ∨ t = .scalar d) := by
    unfold lexNumber at hread
    split at hread
    · rename_i d r hr
      cases hread
      exact ⟨d, single_of_scanNumber hr, .inr rfl⟩
    · cases hread
  cases h with
  | mark h =>
    rw [hmark] at h
    cases h
  | text =>
    unfold lexText at hread
    split at hread
    · split at hread
      · cases hread
        exact ⟨_, single_of_asJson rfl rfl, .inl rfl⟩
      · cases hread
        exact ⟨_, single_refused _, .inl rfl⟩
    · split at hread <;> cases hread
  | @word w d single =>
    unfold lexWord at hread
    split at hread
    · cases hread
      exact ⟨d, single, .inr rfl⟩
    · cases hread
  | negative => exact hnumber hread
  | digits => exact hnumber hread
  | malformed => cases hread

theorem exists_lexFrom {due : Due} {s rest : List Char} {t : Token} (h : lex due s = .token t rest) :
    ∃ b c s', s = b ++ c :: s' ∧ Blank b ∧ isSpace c = false ∧ lexFrom due c s' = .token t rest := by
  have hsplit : s = s.takeWhile isSpace ++ s.dropWhile isSpace := List.takeWhile_append_dropWhile.symm
  have hnot := List.head?_dropWhile_not isSpace s
  unfold lex at h
  cases hdrop : s.dropWhile isSpace with
  | nil =>
    rw [hdrop] at h
    cases h
  | cons c s' =>
    rw [hdrop] at h hsplit hnot
    exact ⟨_, c, s', hsplit, fun _ hc => List.mem_takeWhile_imp hc, hnot, h⟩

theorem lex_upto {due : Due} {s rest : List Char} {t : Token} (h : lex due s = .token t rest) :
    Upto (lex due) (fun y => .token t y) s rest := by
  obtain ⟨b, c, s', rfl, blank, space, hread⟩ := exists_lexFrom h
  obtain ⟨u, rfl, hu⟩ := (lexer_lexFrom due c).upto hread
  refine ⟨b ++ c :: u, by simp, fun y hy => ?_⟩
  rw [List.append_assoc, lex_blank blank, List.cons_append, lex_cons space]
  exact hu y hy

/-! ## The machine -/

section Machine

variable {due due' : Due} {stack stack' : List Frame} {s rest : List Char} {t : Token} {d : Datum}

theorem ne_nil_of_complete (h : complete d stack = .go due' stack') : stack' ≠ [] := by
  cases stack with
  | nil => cases h
  | cons f stack =>
    cases h
    exact List.cons_ne_nil _ _

theorem ne_nil_of_closeTop (h : closeTop stack = .go due' stack') : stack' ≠ [] := by
  cases stack with
  | nil => cases h
  | cons f stack => exact ne_nil_of_complete h

/-- Inside a container, a step that goes on is still inside one. -/
theorem ne_nil_of_step (h : step due stack t = .go due' stack') (hstack : stack ≠ []) : stack' ≠ [] := by
  unfold step at h
  split at h
  all_goals first
    | exact ne_nil_of_complete h
    | exact ne_nil_of_closeTop h
    | (cases h <;> first | exact hstack | exact List.cons_ne_nil _ _)

/-- Inside a container, the whole value is there only with the mark that closes it. -/
theorem close_of_step (h : step due stack t = .done d) (hstack : stack ≠ []) : t = .listClose ∨ t = .recordClose := by
  have hcomplete (d' : Datum) : complete d' stack ≠ .done d := by
    cases stack with
    | nil => exact absurd rfl hstack
    | cons f stack => exact Step.noConfusion
  unfold step at h
  split at h
  all_goals first
    | exact absurd h (hcomplete _)
    | exact .inl rfl
    | exact .inr rfl
    | cases h

theorem run_of_done (h : lex due s = .token t rest) (hstep : step due stack t = .done d) :
    run due stack s = (d, some rest) := by
  rw [run]
  split <;> simp_all

/-- The mark that closes a container, with the blanks before it. -/
theorem exists_close (h : lex due s = .token t rest) (hclose : t = .listClose ∨ t = .recordClose) :
    ∃ b c, s = b ++ c :: rest ∧ (c = ']' ∨ c = '}') ∧ ∀ y, lex due (b ++ c :: y) = .token t y := by
  obtain ⟨b, c, s', rfl, blank, space, hread⟩ := exists_lexFrom h
  cases hmark : mark? c with
  | none =>
    obtain ⟨d, -, rfl | rfl⟩ := (lexer_lexFrom due c).single hmark hread
    · rcases hclose with hclose | hclose <;> cases hclose
    · rcases hclose with hclose | hclose <;> cases hclose
  | some m =>
    rw [lexFrom.eq_def, hmark] at hread
    cases hread
    refine ⟨b, c, rfl, ?_, fun y => ?_⟩
    · unfold mark? at hmark
      rcases hclose with rfl | rfl <;> split_ifs at hmark <;> simp_all
    · rw [lex_blank blank, lex_mark hmark space]

/-- Inside a container, the machine stops at the mark that closes it, and it takes the same whatever follows. -/
theorem run_local {r : List Char} (hstack : stack ≠ []) (h : run due stack s = (d, some r)) :
    ∃ w c, s = w ++ c :: r ∧ (c = ']' ∨ c = '}') ∧ ∀ y, run due stack (w ++ c :: y) = (d, some y) := by
  fun_induction run due stack s with
  | case1 => cases h
  | case2 due stack s t rest hlex due' stack' hstep ih =>
    obtain ⟨w, c, rfl, hc, hread⟩ := ih (ne_nil_of_step hstep hstack) h
    obtain ⟨u, rfl, hu⟩ := lex_upto hlex
    refine ⟨u ++ w, c, by rw [List.append_assoc], hc, fun y => ?_⟩
    have hhead : (w ++ c :: y).head? = (w ++ c :: r).head? := by cases w <;> rfl
    rw [List.append_assoc, run_of_go (hu _ hhead) hstep]
    exact hread y
  | case3 due stack s t rest hlex d' hstep =>
    cases h
    obtain ⟨b, c, rfl, hc, hread⟩ := exists_close hlex (close_of_step hstep hstack)
    exact ⟨b, c, rfl, hc, fun y => run_of_done (hread y) hstep⟩
  | case4 => cases h

end Machine

/-! ## Containers -/

/-- A text of a container from its first mark to its last one: it is read whatever follows it. -/
structure Container (d : Datum) (w : List Char) : Prop where
  opens : ∃ c t, w = c :: t ∧ (c = '[' ∨ c = '{')
  closes : ∃ t c, w = t ++ [c] ∧ (c = ']' ∨ c = '}')
  reads : ∀ y, readFirst (w ++ y) = (d, some y)

/-- Where a container stands in a text that was read: blanks before it, and the rest behind it. -/
theorem exists_container {s r : List Char} {d : Datum} {v : Json} (h : readFirst s = (d, some r))
    (hv : d.asJson = .ok v) (container : v.isContainer = true) : ∃ b w, s = b ++ w ++ r ∧ Blank b ∧ Container d w := by
  have inside {c : Char} {due : Due} {f : Frame} {s : List Char} (hc : c = '[' ∨ c = '{')
      (hopen : ∀ y, run (.value false) [] (c :: y) = run due [f] y) (h : run due [f] s = (d, some r)) :
      ∃ w, c :: s = w ++ r ∧ Container d w := by
    obtain ⟨w, c', rfl, hc', hread⟩ := run_local (List.cons_ne_nil f []) h
    refine ⟨c :: (w ++ [c']), by simp, ⟨c, _, rfl, hc⟩, ⟨c :: w, c', rfl, hc'⟩, fun y => ?_⟩
    rw [readFirst, List.cons_append, hopen, List.append_assoc]
    exact hread y
  rw [readFirst, run] at h
  split at h
  · cases h
  · rename_i t rest hlex
    obtain ⟨b, c, s', rfl, blank, space, hread⟩ := exists_lexFrom hlex
    cases hmark : mark? c with
    | none =>
      obtain ⟨d', single, ht⟩ := (lexer_lexFrom _ c).single hmark hread
      have hstep : step (.value false) [] t = .done d' := by rcases ht with rfl | rfl <;> rfl
      rw [hstep] at h
      cases h
      rw [single v hv] at container
      cases container
    | some m =>
      rw [lexFrom.eq_def, hmark] at hread
      cases hread
      unfold mark? at hmark
      split_ifs at hmark with hlist _ hrecord
      · subst hlist
        cases hmark
        obtain ⟨w, hw, hcontainer⟩ := inside (.inl rfl) (fun _ => run_openList) h
        exact ⟨b, w, by rw [hw, List.append_assoc], blank, hcontainer⟩
      · cases hmark
        cases h
      · subst hrecord
        cases hmark
        obtain ⟨w, hw, hcontainer⟩ := inside (.inr rfl) (fun _ => run_openRecord) h
        exact ⟨b, w, by rw [hw, List.append_assoc], blank, hcontainer⟩
      all_goals
        cases hmark
        cases h

end AgentTrial.Json
