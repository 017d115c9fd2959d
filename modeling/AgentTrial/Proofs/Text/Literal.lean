import AgentTrial.Proofs.Json.Grammar

/-!
# Literal — a literal ends where it ends

A text that is written as a literal cannot reach what stands behind it: whatever follows, reading stops at the closing
quote of the literal and gives the text.

* `written_literal`: a literal is a text of the grammar of value trees.
* `inLine_literal`: no character of a literal ends a line or is a control character of seven bits.
* `literal_delimited`: both together, and that no literal starts another.
-/

namespace AgentTrial.Text

/-- Every character is written in one of the ways in which it may be spelled. -/
theorem spelled_escapeChar (c : Char) : Json.Spelled c (escapeChar c) := by
  unfold escapeChar
  split_ifs with hslash hquote hfeed hreturn htab hnumber
  · exact .short (by rw [hslash]; decide)
  · exact .short (by rw [hquote]; decide)
  · exact .short (by rw [hfeed]; decide)
  · exact .short (by rw [hreturn]; decide)
  · exact .short (by rw [htab]; decide)
  · simp only [Bool.or_eq_true, decide_eq_true_eq, beq_iff_eq] at hnumber
    exact Json.spelled_unicodeEscape (by omega)
  · simp only [Bool.or_eq_true, decide_eq_true_eq, beq_iff_eq] at hnumber
    exact .plain hquote hslash (by omega)

theorem written_literal (s : String) : Json.Written (.text s) (literal s).toList := by
  rw [literal, String.toList_ofList]
  exact .text (.flatMap spelled_escapeChar s.toList)

/-- A character that can stand in a program line: no control character of seven bits and none that ends a line. -/
def InLine (c : Char) : Prop := 0x20 ≤ c.toNat ∧ c.toNat ≠ 0x7F ∧ c.toNat ≠ 0x2028 ∧ c.toNat ≠ 0x2029

instance (c : Char) : Decidable (InLine c) := inferInstanceAs (Decidable (_ ∧ _))

theorem inLine_hexDigit : ∀ n, n < 16 → InLine (hexDigit n) := by
  decide

theorem inLine_unicodeEscape (n : Nat) : ∀ c ∈ unicodeEscape n, InLine c := by
  have digit (m : Nat) : InLine (hexDigit (m % 16)) := inLine_hexDigit _ (Nat.mod_lt _ (by decide))
  simp only [unicodeEscape, List.forall_mem_cons, digit, true_and]
  exact ⟨by decide, by decide, nofun⟩

theorem inLine_pair {c d : Char} (hc : InLine c) (hd : InLine d) : ∀ e ∈ [c, d], InLine e :=
  List.forall_mem_cons.2 ⟨hc, List.forall_mem_singleton.2 hd⟩

theorem inLine_escapeChar (c : Char) : ∀ d ∈ escapeChar c, InLine d := by
  unfold escapeChar
  split_ifs with hslash hquote hfeed hreturn htab hnumber
  · exact inLine_pair (by decide) (by decide)
  · exact inLine_pair (by decide) (by decide)
  · exact inLine_pair (by decide) (by decide)
  · exact inLine_pair (by decide) (by decide)
  · exact inLine_pair (by decide) (by decide)
  · exact inLine_unicodeEscape _
  · simp only [Bool.or_eq_true, decide_eq_true_eq, beq_iff_eq] at hnumber
    simp only [List.mem_singleton, forall_eq, InLine]
    omega

theorem inLine_literal (s : String) : ∀ c ∈ (literal s).toList, InLine c := by
  intro c hc
  rw [literal, String.toList_ofList, literalChars] at hc
  simp only [List.mem_cons, List.mem_append, List.mem_flatMap, List.not_mem_nil, or_false] at hc
  obtain (rfl | ⟨d, -, hd⟩) | rfl := hc
  · decide
  · exact inLine_escapeChar d c hd
  · decide

/-- A literal is a token, whatever follows it. -/
theorem lex_literal (s : String) (closable : Bool) (rest : List Char) :
    Json.lex (.value closable) ((literal s).toList ++ rest) = .token (.text (.text s)) rest := by
  have hspelled := Json.SpelledText.flatMap spelled_escapeChar s.toList
  rw [literal, String.toList_ofList, literalChars, List.append_assoc]
  refine (Json.lexText_of_spelled hspelled).trans ?_
  rw [String.ofList_toList]
  rfl

/-- Before whatever follows them, literals are told apart. -/
theorem literalChars_append_inj {s t : String} {rest rest' : List Char}
    (h : literalChars s.toList ++ rest = literalChars t.toList ++ rest') : s = t ∧ rest = rest' := by
  have hs := lex_literal s false rest
  have ht := lex_literal t false rest'
  rw [literal, String.toList_ofList] at hs ht
  rw [h, ht] at hs
  injection hs with htoken hrest
  injection htoken with htext
  injection htext with hst
  exact ⟨hst.symm, hrest.symm⟩

/-- A text that is written as a literal stays inside it.  Whatever follows a literal, its token ends at its closing
quote and is the text; so a literal is read back as its text, and a literal that starts with another is that other.
And a literal is on one line. -/
theorem literal_delimited (s : String) :
    (∀ closable rest, Json.lex (.value closable) ((literal s).toList ++ rest) = .token (.text (.text s)) rest) ∧
    Json.ofText Datum.asText (literal s) = .ok s ∧
    (∀ t rest, (literal t).toList = (literal s).toList ++ rest → t = s ∧ rest = []) ∧
    ∀ c ∈ (literal s).toList, InLine c := by
  refine ⟨lex_literal s, ?_, ?_, inLine_literal s⟩
  · have hread := Json.ofText_of_written Datum.asText (written_literal s) Json.blank_nil (Nat.zero_le _)
    rw [List.append_nil, String.ofList_toList] at hread
    exact hread
  · intro t rest h
    simp only [literal, String.toList_ofList] at h
    rw [← List.append_nil (literalChars t.toList)] at h
    obtain ⟨hst, hrest⟩ := literalChars_append_inj h
    exact ⟨hst, hrest.symm⟩

/-- A text that looks as if it closed its own literal, before a text that opens another one. -/
theorem literal_delimited_quotes :
    Json.lex (.value true) ((literal "\\\"\u2028").toList ++ [',', '"', 'x', '"']) =
      .token (.text (.text "\\\"\u2028")) [',', '"', 'x', '"'] ∧
    '8' ∈ (literal "\\\"\u2028").toList ∧ InLine '8' := by
  have member : '8' ∈ (literal "\\\"\u2028").toList := by decide
  exact ⟨(literal_delimited _).1 _ _, member, (literal_delimited _).2.2.2 _ member⟩

end AgentTrial.Text
