import AgentTrial.Json.Reader
import AgentTrial.Text.Literal

/-!
# Text — how the texts of a value tree are read

A character may be written in several ways.  `Spelled` lists them, and the reader finds the end of a text and its
characters whatever way each of them is written.

* `lexText_of_spelled`: a text ends at its own closing quote, and what follows it does not matter.
* `spelled_unicodeEscape`: four digits spell every character that has a code of sixteen bits.
-/

namespace AgentTrial.Json

/-- The ways to write a character inside a text. -/
inductive Spelled : Char → List Char → Prop
  | plain {c : Char} (quote : c ≠ '"') (slash : c ≠ '\\') (visible : 0x20 ≤ c.toNat) : Spelled c [c]
  | short {e c : Char} (h : shortEscape? e = some c) : Spelled c ['\\', e]
  | code {h₁ h₂ h₃ h₄ : Char} {n : Nat} (digits : hexCode? h₁ h₂ h₃ h₄ = some n) (high : isHighHalf n = false)
      (low : isLowHalf n = false) : Spelled (Char.ofNat n) ['\\', 'u', h₁, h₂, h₃, h₄]
  | pair {h₁ h₂ h₃ h₄ l₁ l₂ l₃ l₄ : Char} {n m : Nat} (first : hexCode? h₁ h₂ h₃ h₄ = some n)
      (second : hexCode? l₁ l₂ l₃ l₄ = some m) (high : isHighHalf n = true) (low : isLowHalf m = true) :
      Spelled (Char.ofNat (0x10000 + (n - 0xD800) * 0x400 + (m - 0xDC00)))
        ['\\', 'u', h₁, h₂, h₃, h₄, '\\', 'u', l₁, l₂, l₃, l₄]

/-- The ways to write a text between its quotes. -/
inductive SpelledText : List Char → List Char → Prop
  | nil : SpelledText [] []
  | cons {c : Char} {w s t : List Char} (head : Spelled c w) (tail : SpelledText s t) : SpelledText (c :: s) (w ++ t)

/-- A text is spelled when each of its characters is. -/
theorem SpelledText.flatMap {escape : Char → List Char} (h : ∀ c, Spelled c (escape c)) (s : List Char) :
    SpelledText s (s.flatMap escape) := by
  induction s with
  | nil => exact .nil
  | cons c s ih =>
    rw [List.flatMap_cons]
    exact .cons (h c) ih

section Scan

variable {s rest : List Char}

theorem scanText_char {c : Char} (quote : c ≠ '"') (slash : c ≠ '\\') (visible : 0x20 ≤ c.toNat) :
    scanText (c :: s) = (.char c :: (scanText s).1, (scanText s).2) := by
  rw [scanText.eq_def]
  simp only [quote, slash, if_false, Nat.not_lt.2 visible]

theorem scanText_escape {e c : Char} (h : shortEscape? e = some c) :
    scanText ('\\' :: e :: s) = (.char c :: (scanText s).1, (scanText s).2) := by
  have he : e ≠ 'u' := by
    rintro rfl
    have hu : shortEscape? 'u' = none := by decide
    rw [hu] at h
    cases h
  rw [scanText.eq_def]
  simp [he, h]

theorem scanText_code {h₁ h₂ h₃ h₄ : Char} {n : Nat} (h : hexCode? h₁ h₂ h₃ h₄ = some n) :
    scanText ('\\' :: 'u' :: h₁ :: h₂ :: h₃ :: h₄ :: s) = (.code n :: (scanText s).1, (scanText s).2) := by
  rw [scanText.eq_def]
  simp [h]

theorem joinPieces_code {n : Nat} (high : isHighHalf n = false) (low : isLowHalf n = false) (ps : List Piece) :
    joinPieces (.code n :: ps) = (joinPieces ps).map (Char.ofNat n :: ·) := by
  cases ps with
  | nil => simp [joinPieces, high, low]
  | cons p ps =>
    cases p with
    | char c =>
      rw [joinPieces, joinPieces]
      cases joinPieces ps <;> simp [high, low]
    | code m => simp [joinPieces, high, low]

/-- What a written character adds to the pieces of a text, and to its characters. -/
theorem Spelled.pieces {c : Char} {w : List Char} (h : Spelled c w) :
    ∃ ps, (∀ s, scanText (w ++ s) = (ps ++ (scanText s).1, (scanText s).2)) ∧
      ∀ qs, joinPieces (ps ++ qs) = (joinPieces qs).map (c :: ·) := by
  cases h with
  | plain quote slash visible =>
    exact ⟨[.char c], fun s => scanText_char quote slash visible, fun qs => by simp [joinPieces]⟩
  | short h => exact ⟨[.char c], fun s => scanText_escape h, fun qs => by simp [joinPieces]⟩
  | code digits high low => exact ⟨[.code _], fun s => scanText_code digits, joinPieces_code high low⟩
  | @pair _ _ _ _ _ _ _ _ n m first second high low =>
    refine ⟨[.code n, .code m], fun s => ?_, fun qs => by simp [joinPieces, high, low]⟩
    simp only [List.cons_append, List.nil_append]
    rw [scanText_code first, scanText_code second]

theorem SpelledText.pieces {w : List Char} (h : SpelledText s w) :
    ∃ ps, scanText (w ++ '"' :: rest) = (ps, .closed rest) ∧ joinPieces ps = some s := by
  induction h with
  | nil => exact ⟨[], by rw [List.nil_append, scanText.eq_def]; simp, rfl⟩
  | cons head tail ih =>
    obtain ⟨ps, hscan, hjoin⟩ := ih
    obtain ⟨qs, hscan', hjoin'⟩ := head.pieces
    refine ⟨qs ++ ps, ?_, ?_⟩
    · rw [List.append_assoc, hscan', hscan]
    · rw [hjoin', hjoin]
      rfl

/-- A text ends at its closing quote, whatever follows, and has the characters that are spelled. -/
theorem lexText_of_spelled {w : List Char} (h : SpelledText s w) :
    lexText (w ++ '"' :: rest) = .token (.text (.text (.ofList s))) rest := by
  obtain ⟨ps, hscan, hjoin⟩ := h.pieces
  rw [lexText, hscan]
  simp only [hjoin]

end Scan

/-! ## Escapes by number -/

theorem hexValue?_hexDigit : ∀ n, n < 16 → hexValue? (Text.hexDigit n) = some n := by
  decide

/-- Four digits give back a number of sixteen bits. -/
theorem hexCode?_digits {n : Nat} (h : n < 0x10000) :
    hexCode? (Text.hexDigit (n / 4096 % 16)) (Text.hexDigit (n / 256 % 16)) (Text.hexDigit (n / 16 % 16))
      (Text.hexDigit (n % 16)) = some n := by
  have digit (m : Nat) : hexValue? (Text.hexDigit (m % 16)) = some (m % 16) :=
    hexValue?_hexDigit _ (Nat.mod_lt _ (by decide))
  have sum : ((n / 4096 % 16 * 16 + n / 256 % 16) * 16 + n / 16 % 16) * 16 + n % 16 = n := by omega
  simp only [hexCode?, digit, Option.bind_eq_bind, Option.bind_some, Option.pure_def, sum]

/-- No character has the code of half a pair. -/
theorem not_half (c : Char) : isHighHalf c.toNat = false ∧ isLowHalf c.toNat = false := by
  have hvalid : c.toNat < 0xD800 ∨ 0xDFFF < c.toNat ∧ c.toNat < 0x110000 := c.valid
  constructor
  · simp only [isHighHalf, Bool.and_eq_false_iff, decide_eq_false_iff_not]
    omega
  · simp only [isLowHalf, Bool.and_eq_false_iff, decide_eq_false_iff_not]
    omega

theorem spelled_unicodeEscape {c : Char} (h : c.toNat < 0x10000) : Spelled c (Text.unicodeEscape c.toNat) := by
  have spelled := Spelled.code (hexCode?_digits h) (not_half c).1 (not_half c).2
  rw [Char.ofNat_toNat] at spelled
  exact spelled

end AgentTrial.Json
