import AgentTrial.Json.Decode
import AgentTrial.Proofs.Json.Text
import Mathlib.Data.List.TakeWhile
import Mathlib.Tactic.SplitIfs

/-!
# Grammar — the texts of a value tree, and how they are read

`Written` is the grammar: the texts of a tree differ in the blanks between tokens and in how characters are spelled.
The machine reads every one of them to the same datum, as long as the containers are not nested too deep, and stops
right behind it.

* `run_of_written`: a value is read inside any open containers, whatever text follows it.
* `readFirst_of_written`, `ofText_of_written`: so a text of a tree is decoded as that tree is.
* `parse_of_written`: and parsed to the tree with its records sorted.
-/

namespace AgentTrial.Json

/-! ## The grammar -/

/-- A text of blanks. -/
def Blank (w : List Char) : Prop := ∀ c ∈ w, isSpace c = true

theorem blank_nil : Blank [] := nofun

theorem blank_singleton {c : Char} (h : isSpace c = true) : Blank [c] := List.forall_mem_singleton.2 h

/-- The sign of a number. -/
def sign (negative : Bool) : List Char := if negative then ['-'] else []

mutual

/-- A text of a value tree.  What a number stands for is up to its reader. -/
inductive Written : Json → List Char → Prop
  | null : Written .null ['n', 'u', 'l', 'l']
  | yes : Written (.bool true) ['t', 'r', 'u', 'e']
  | no : Written (.bool false) ['f', 'a', 'l', 's', 'e']
  | int {negative : Bool} {i : Int} {w : List Char} (h : scanNumber negative w = .ok (.int i, [])) :
      Written (.int i) (sign negative ++ w)
  | float {negative : Bool} {x : Float} {w : List Char} (h : scanNumber negative w = .ok (.float x, [])) :
      Written (.float x) (sign negative ++ w)
  | text {s : String} {w : List Char} (h : SpelledText s.toList w) : Written (.text s) ('"' :: (w ++ ['"']))
  | emptyList {b : List Char} (blank : Blank b) : Written (.list []) ('[' :: (b ++ [']']))
  | list {v : Json} {items : List Json} {b w m : List Char} (blank : Blank b) (first : Written v w)
      (more : MoreItems items m) : Written (.list (v :: items)) ('[' :: (b ++ (w ++ m)))
  | emptyRecord {b : List Char} (blank : Blank b) : Written (.record []) ('{' :: (b ++ ['}']))
  | record {k : String} {v : Json} {fields : List (String × Json)} {b w m : List Char} (blank : Blank b)
      (first : WrittenField k v w) (more : MoreFields fields m) :
      Written (.record ((k, v) :: fields)) ('{' :: (b ++ (w ++ m)))

/-- A text of a field. -/
inductive WrittenField : String → Json → List Char → Prop
  | mk {k : String} {v : Json} {key b₁ b₂ w : List Char} (spelled : SpelledText k.toList key) (before : Blank b₁)
      (behind : Blank b₂) (value : Written v w) :
      WrittenField k v ('"' :: (key ++ '"' :: (b₁ ++ ':' :: (b₂ ++ w))))

/-- The items after the first, and the end of the list. -/
inductive MoreItems : List Json → List Char → Prop
  | nil {b : List Char} (blank : Blank b) : MoreItems [] (b ++ [']'])
  | cons {v : Json} {items : List Json} {b₁ b₂ w m : List Char} (before : Blank b₁) (behind : Blank b₂)
      (next : Written v w) (more : MoreItems items m) : MoreItems (v :: items) (b₁ ++ ',' :: (b₂ ++ (w ++ m)))

/-- The fields after the first, and the end of the record. -/
inductive MoreFields : List (String × Json) → List Char → Prop
  | nil {b : List Char} (blank : Blank b) : MoreFields [] (b ++ ['}'])
  | cons {k : String} {v : Json} {fields : List (String × Json)} {b₁ b₂ w m : List Char} (before : Blank b₁)
      (behind : Blank b₂) (next : WrittenField k v w) (more : MoreFields fields m) :
      MoreFields ((k, v) :: fields) (b₁ ++ ',' :: (b₂ ++ (w ++ m)))

end

mutual

/-- The number of containers around the innermost value. -/
def depth : Json → Nat
  | list items => depthItems items + 1
  | record fields => depthFields fields + 1
  | _ => 0

/-- The depth of the deepest item. -/
def depthItems : List Json → Nat
  | [] => 0
  | v :: items => max v.depth (depthItems items)

/-- The depth of the deepest value. -/
def depthFields : List (String × Json) → Nat
  | [] => 0
  | (_, v) :: fields => max v.depth (depthFields fields)

end

theorem depthItems_le_iff {n : Nat} {items : List Json} : depthItems items ≤ n ↔ ∀ v ∈ items, v.depth ≤ n := by
  induction items with
  | nil => simp [depthItems]
  | cons v items ih => rw [depthItems, Nat.max_le, ih, List.forall_mem_cons]

theorem depthFields_le_iff {n : Nat} {fields : List (String × Json)} :
    depthFields fields ≤ n ↔ ∀ e ∈ fields, e.2.depth ≤ n := by
  induction fields with
  | nil => simp [depthFields]
  | cons f fields ih => rw [depthFields, Nat.max_le, ih, List.forall_mem_cons]

/-! ## Numbers -/

/-- A text that does not go on with a number before it. -/
def Ended (rest : List Char) : Prop := ∀ c ∈ rest.head?, c.isDigit = false ∧ c ≠ '.' ∧ c ≠ 'e' ∧ c ≠ 'E'

section Numbers

variable {rest : List Char}

theorem spanDigits_append (ended : Ended rest) (s : List Char) :
    Decimal.spanDigits (s ++ rest) = ((Decimal.spanDigits s).1, (Decimal.spanDigits s).2 ++ rest) := by
  induction s with
  | nil =>
    cases rest with
    | nil => rfl
    | cons c rest => simp [Decimal.spanDigits, (ended c rfl).1]
  | cons c s ih =>
    simp only [Decimal.spanDigits] at ih ⊢
    cases hc : c.isDigit <;> simp_all

theorem spanSign_append {s : List Char} (h : s ≠ []) (rest : List Char) :
    Decimal.spanSign (s ++ rest) = ((Decimal.spanSign s).1, (Decimal.spanSign s).2 ++ rest) := by
  cases s with
  | nil => exact absurd rfl h
  | cons c s =>
    rw [List.cons_append]
    unfold Decimal.spanSign
    split <;> simp_all

/-- A number that is read to the end of a text is read alike when something else follows. -/
theorem scanExponent_append (ended : Ended rest) {w : Decimal.Written} {whole : Bool} {s : List Char} {d : Datum}
    (h : scanExponent w whole s = .ok (d, [])) : scanExponent w whole (s ++ rest) = .ok (d, rest) := by
  cases s with
  | nil =>
    obtain rfl : numberDatum w whole = d := by simpa [scanExponent] using h
    cases rest with
    | nil => rfl
    | cons c rest =>
      obtain ⟨-, -, he, hE⟩ := ended c rfl
      simp [scanExponent, he, hE]
  | cons c s =>
    rw [List.cons_append]
    unfold scanExponent at h ⊢
    dsimp only at h ⊢
    by_cases hc : c = 'e' ∨ c = 'E'
    · rw [if_pos hc] at h ⊢
      by_cases hdigits : (Decimal.spanDigits (Decimal.spanSign s).2).1.isEmpty = true
      · rw [if_pos hdigits] at h
        cases h
      · have hs : s ≠ [] := by
          rintro rfl
          exact hdigits rfl
        rw [if_neg hdigits] at h
        rw [spanSign_append hs, spanDigits_append ended, if_neg hdigits]
        obtain ⟨hd, hrest⟩ := Prod.mk.inj (Except.ok.inj h)
        rw [hrest, ← hd]
        rfl
    · rw [if_neg hc] at h
      cases h

theorem scanNumber_append (ended : Ended rest) {negative : Bool} {s : List Char} {d : Datum}
    (h : scanNumber negative s = .ok (d, [])) : scanNumber negative (s ++ rest) = .ok (d, rest) := by
  unfold scanNumber at h ⊢
  rw [spanDigits_append ended]
  dsimp only at h ⊢
  split at h
  · cases h
  · rename_i c ds hspan
    split_ifs at h ⊢ with hzero
    cases hleft : (Decimal.spanDigits s).2 with
    | nil =>
      rw [hleft] at h
      obtain rfl : numberDatum _ true = d := by simpa using h
      cases rest with
      | nil => rfl
      | cons e rest =>
        obtain ⟨-, hpoint, he, hE⟩ := ended e rfl
        simp [hpoint, scanExponent, he, hE]
    | cons e t =>
      rw [hleft] at h
      dsimp only [List.cons_append] at h ⊢
      split_ifs at h with hpoint hfraction
      · rw [if_pos hpoint, spanDigits_append ended]
        dsimp only
        rw [if_neg hfraction]
        exact scanExponent_append ended h
      · rw [if_neg hpoint]
        exact scanExponent_append ended h

end Numbers

theorem head_of_scanNumber {negative : Bool} {s : List Char} {r : Datum × List Char}
    (h : scanNumber negative s = .ok r) : ∃ c t, s = c :: t ∧ c.isDigit = true := by
  cases s with
  | nil => cases h
  | cons c t =>
    refine ⟨c, t, rfl, ?_⟩
    cases hc : c.isDigit with
    | true => rfl
    | false => simp [scanNumber, Decimal.spanDigits, hc] at h

/-! ## Tokens -/

section Lex

variable {due : Due} {s rest : List Char} {c : Char}

theorem lex_blank {b : List Char} (blank : Blank b) (s : List Char) : lex due (b ++ s) = lex due s := by
  rw [lex, List.dropWhile_append_of_pos blank, lex]

theorem lex_cons (h : isSpace c = false) : lex due (c :: s) = lexFrom due c s := by
  rw [lex, List.dropWhile_cons_of_neg (by simp [h])]

theorem lex_mark {t : Token} (h : mark? c = some t) (space : isSpace c = false) : lex due (c :: s) = .token t s := by
  rw [lex_cons space, lexFrom.eq_def, h]

theorem lex_value_quote {closable : Bool} : lex (.value closable) ('"' :: s) = lexText s := rfl

theorem lex_key_quote {closable : Bool} : lex (.key closable) ('"' :: s) = lexText s := rfl

theorem lex_value_digit {closable : Bool} (h : c.isDigit = true) :
    lex (.value closable) (c :: s) = lexNumber false (c :: s) := by
  have hne (d : Char) (hd : d.isDigit = false) : c ≠ d := by
    rintro rfl
    rw [hd] at h
    cases h
  have space : isSpace c = false := by simp [isSpace, hne]
  have mark : mark? c = none := by simp [mark?, hne]
  rw [lex_cons space, lexFrom.eq_def, mark]
  simp [hne, h]

theorem lex_value_number {closable negative : Bool} {w : List Char} {d : Datum} (ended : Ended rest)
    (h : scanNumber negative w = .ok (d, [])) :
    lex (.value closable) (sign negative ++ w ++ rest) = .token (.scalar d) rest := by
  have hscan : lexNumber negative (w ++ rest) = .token (.scalar d) rest := by
    rw [lexNumber, scanNumber_append ended h]
  cases negative with
  | true => exact hscan
  | false =>
    obtain ⟨c, t, rfl, hc⟩ := head_of_scanNumber h
    exact (lex_value_digit hc).trans hscan

end Lex

theorem ended_of_mark {c : Char} {t : Token} (h : mark? c = some t) (s : List Char) : Ended (c :: s) := by
  have hne (d : Char) (hd : mark? d = none) : c ≠ d := by
    rintro rfl
    rw [hd] at h
    cases h
  rintro d ⟨⟩
  refine ⟨?_, hne _ (by decide), hne _ (by decide), hne _ (by decide)⟩
  unfold mark? at h
  split_ifs at h with h₁ h₂ h₃ h₄ h₅ h₆ <;> (subst_vars; decide)

theorem ended_nil : Ended [] := nofun

theorem ended_of_blank {b s : List Char} (blank : Blank b) (ended : Ended s) : Ended (b ++ s) := by
  cases b with
  | nil => exact ended
  | cons c b =>
    rintro d ⟨⟩
    have hc := blank c List.mem_cons_self
    simp only [isSpace, Bool.or_eq_true, decide_eq_true_eq] at hc
    obtain ((rfl | rfl) | rfl) | rfl := hc <;> decide

/-! ## The machine -/

/-- What comes of a complete value with so many open containers around it. -/
def after (d : Datum) (stack : List Frame) (rest : List Char) : Datum × Option (List Char) :=
  match stack with
  | [] => (d, some rest)
  | f :: stack => run .next (f.absorb d :: stack) rest

section Run

variable {due due' : Due} {stack stack' : List Frame} {s rest : List Char} {t : Token} {d : Datum}

theorem run_of_go (h : lex due s = .token t rest) (hstep : step due stack t = .go due' stack') :
    run due stack s = run due' stack' rest := by
  rw [run]
  split <;> simp_all

theorem run_of_complete (h : lex due s = .token t rest) (hstep : step due stack t = complete d stack') :
    run due stack s = after d stack' rest := by
  rw [run]
  cases stack' <;> split <;> simp_all [complete, after]

theorem run_blank {b : List Char} (blank : Blank b) (s : List Char) : run due stack (b ++ s) = run due stack s := by
  rw [run, lex_blank blank, run]

/-- The value of a closed container that is not too deep. -/
theorem closeTop_of_depth {f : Frame} (deep : stack.length + 1 ≤ maxDepth) :
    closeTop (f :: stack) = complete f.close stack := by
  rw [closeTop, atDepth, if_pos deep]

/-- The end of a container, with blanks before it. -/
theorem run_close {b : List Char} {c : Char} {f : Frame} (blank : Blank b) (mark : mark? c = some t)
    (space : isSpace c = false) (hstep : step due (f :: stack) t = closeTop (f :: stack))
    (deep : stack.length + 1 ≤ maxDepth) : run due (f :: stack) (b ++ [c] ++ rest) = after f.close stack rest := by
  rw [List.append_assoc, run_blank blank]
  exact run_of_complete (lex_mark mark space) (hstep.trans (closeTop_of_depth deep))

theorem run_openList {closable : Bool} :
    run (.value closable) stack ('[' :: s) = run (.value true) (.list [] :: stack) s :=
  run_of_go (lex_mark rfl rfl) rfl

theorem run_openRecord {closable : Bool} :
    run (.value closable) stack ('{' :: s) = run (.key true) (.record [] none :: stack) s :=
  run_of_go (lex_mark rfl rfl) rfl

theorem run_text {closable : Bool} {k : String} {w : List Char} (spelled : SpelledText k.toList w) :
    run (.value closable) stack ('"' :: (w ++ '"' :: rest)) = after (.text k) stack rest := by
  refine run_of_complete (t := .text (.text k)) ?_ rfl
  rw [lex_value_quote, lexText_of_spelled spelled, String.ofList_toList]

section Between

variable {b₁ b₂ : List Char} {items : List Datum} {fields : List (Datum × Datum)}

/-- The comma between two items, with blanks around it. -/
theorem run_commaItem (before : Blank b₁) (behind : Blank b₂) :
    run .next (.list items :: stack) (b₁ ++ ',' :: (b₂ ++ s)) = run (.value false) (.list items :: stack) s := by
  rw [run_blank before, run_of_go (lex_mark rfl rfl) rfl, run_blank behind]

/-- The comma between two fields, with blanks around it. -/
theorem run_commaField (before : Blank b₁) (behind : Blank b₂) :
    run .next (.record fields none :: stack) (b₁ ++ ',' :: (b₂ ++ s)) =
      run (.key false) (.record fields none :: stack) s := by
  rw [run_blank before, run_of_go (lex_mark rfl rfl) rfl, run_blank behind]

/-- A key and the colon behind it, with blanks around it. -/
theorem run_key {closable : Bool} {k : String} {key : List Char} (spelled : SpelledText k.toList key)
    (before : Blank b₁) (behind : Blank b₂) :
    run (.key closable) (.record fields none :: stack) ('"' :: (key ++ '"' :: (b₁ ++ ':' :: (b₂ ++ s)))) =
      run (.value false) (.record fields (some (.text k)) :: stack) s := by
  have hkey (s : List Char) : lex (.key closable) ('"' :: (key ++ '"' :: s)) = .token (.text (.text k)) s := by
    rw [lex_key_quote, lexText_of_spelled spelled, String.ofList_toList]
  rw [run_of_go (hkey _) rfl, run_blank before, run_of_go (lex_mark rfl rfl) rfl, run_blank behind]

end Between

end Run

theorem MoreItems.ended {items : List Json} {m : List Char} (h : MoreItems items m) (rest : List Char) :
    Ended (m ++ rest) := by
  cases h with
  | nil blank =>
    rw [List.append_assoc]
    exact ended_of_blank blank (ended_of_mark rfl _)
  | cons before =>
    rw [List.append_assoc]
    exact ended_of_blank before (ended_of_mark rfl _)

theorem MoreFields.ended {fields : List (String × Json)} {m : List Char} (h : MoreFields fields m) (rest : List Char) :
    Ended (m ++ rest) := by
  cases h with
  | nil blank =>
    rw [List.append_assoc]
    exact ended_of_blank blank (ended_of_mark rfl _)
  | cons before =>
    rw [List.append_assoc]
    exact ended_of_blank before (ended_of_mark rfl _)

mutual

/-- A value is read inside any open containers, whatever text follows it. -/
theorem run_of_written : ∀ {v : Json} {w : List Char}, Written v w → ∀ (closable : Bool) (stack : List Frame)
    {rest : List Char}, Ended rest → stack.length + v.depth ≤ maxDepth →
    run (.value closable) stack (w ++ rest) = after (.ofJson v) stack rest
  | _, _, .null, _, _, _, _, _ => run_of_complete rfl rfl
  | _, _, .yes, _, _, _, _, _ => run_of_complete rfl rfl
  | _, _, .no, _, _, _, _, _ => run_of_complete rfl rfl
  | _, _, .int h, _, _, _, ended, _ => run_of_complete (lex_value_number ended h) rfl
  | _, _, .float h, _, _, _, ended, _ => run_of_complete (lex_value_number ended h) rfl
  | _, _, .text h, _, _, _, _, _ => by
    rw [List.cons_append, List.append_assoc]
    exact run_text h
  | _, _, .emptyList blank, _, _, _, _, deep => by
    rw [List.cons_append, run_openList]
    exact run_close blank rfl rfl rfl deep
  | _, _, .list blank first more, _, stack, rest, _, deep => by
    rw [depth, depthItems] at deep
    rw [List.cons_append, List.append_assoc, List.append_assoc, run_openList, run_blank blank,
      run_of_written first _ _ (more.ended rest) (by rw [List.length_cons]; omega)]
    exact run_of_moreItems more [_] stack (by omega)
  | _, _, .emptyRecord blank, _, _, _, _, deep => by
    rw [List.cons_append, run_openRecord]
    exact run_close blank rfl rfl rfl deep
  | _, _, .record blank first more, _, stack, rest, _, deep => by
    rw [depth, depthFields] at deep
    rw [List.cons_append, List.append_assoc, List.append_assoc, run_openRecord, run_blank blank,
      run_of_writtenField first _ _ _ (more.ended rest) (by omega)]
    exact run_of_moreFields more [_] stack (by omega)

theorem run_of_writtenField : ∀ {k : String} {v : Json} {w : List Char}, WrittenField k v w → ∀ (closable : Bool)
    (fields : List (Datum × Datum)) (stack : List Frame) {rest : List Char}, Ended rest →
    stack.length + (v.depth + 1) ≤ maxDepth →
    run (.key closable) (.record fields none :: stack) (w ++ rest) =
      run .next (.record ((.text k, .ofJson v) :: fields) none :: stack) rest
  | _, _, _, .mk spelled before behind value, _, _, _, _, ended, deep => by
    simp only [List.cons_append, List.append_assoc]
    rw [run_key spelled before behind]
    exact run_of_written value _ _ ended (by rw [List.length_cons]; omega)

theorem run_of_moreItems : ∀ {items : List Json} {m : List Char}, MoreItems items m → ∀ (done : List Datum)
    (stack : List Frame) {rest : List Char}, stack.length + (depthItems items + 1) ≤ maxDepth →
    run .next (.list done :: stack) (m ++ rest) =
      after (.list .fields (done.reverse ++ Datum.ofItems items)) stack rest
  | _, _, .nil blank, _, _, _, deep => by
    rw [Datum.ofItems, List.append_nil]
    exact run_close blank rfl rfl rfl (by omega)
  | _, _, .cons before behind next more, done, stack, rest, deep => by
    rw [depthItems] at deep
    simp only [List.cons_append, List.append_assoc]
    rw [run_commaItem before behind, run_of_written next _ _ (more.ended rest) (by rw [List.length_cons]; omega)]
    refine (run_of_moreItems more (_ :: done) stack (by omega)).trans ?_
    rw [List.reverse_cons, List.append_assoc]
    rfl

theorem run_of_moreFields : ∀ {fields : List (String × Json)} {m : List Char}, MoreFields fields m →
    ∀ (done : List (Datum × Datum)) (stack : List Frame) {rest : List Char},
    stack.length + (depthFields fields + 1) ≤ maxDepth →
    run .next (.record done none :: stack) (m ++ rest) =
      after (.record (done.reverse ++ Datum.ofFields fields)) stack rest
  | _, _, .nil blank, _, _, _, deep => by
    rw [Datum.ofFields, List.append_nil]
    exact run_close blank rfl rfl rfl (by omega)
  | _, _, .cons before behind next more, done, stack, rest, deep => by
    rw [depthFields] at deep
    simp only [List.cons_append, List.append_assoc]
    rw [run_commaField before behind, run_of_writtenField next _ _ _ (more.ended rest) (by omega)]
    refine (run_of_moreFields more (_ :: done) stack (by omega)).trans ?_
    rw [List.reverse_cons, List.append_assoc]
    rfl

end

/-- A text of a tree, with blanks before it, is read as the tree, and reading stops right behind it. -/
theorem readFirst_of_written {v : Json} {b w rest : List Char} (blank : Blank b) (h : Written v w)
    (ended : Ended rest) (deep : v.depth ≤ maxDepth) : readFirst (b ++ (w ++ rest)) = (.ofJson v, some rest) := by
  rw [readFirst, run_blank blank]
  exact run_of_written h _ _ ended (by simpa using deep)

/-- A text of a tree is decoded as the tree is. -/
theorem ofText_of_written {α : Type} (decode : Datum → Except Cause α) {v : Json} {w b : List Char} (h : Written v w)
    (behind : Blank b) (deep : v.depth ≤ maxDepth) : ofText decode (.ofList (w ++ b)) = decode (.ofJson v) := by
  have ended : Ended b := by
    simpa using ended_of_blank behind ended_nil
  have hread : readFirst (w ++ b) = (.ofJson v, some b) := readFirst_of_written blank_nil h ended deep
  have hb : b.dropWhile isSpace = [] := List.dropWhile_eq_nil_iff.2 behind
  rw [ofText, String.toList_ofList, hread]
  dsimp only
  rw [hb]
  cases decode (.ofJson v) <;> rfl

/-! ## The tree of a text -/

mutual

theorem asJson_ofJson : ∀ v : Json, (Datum.ofJson v).asJson = .ok v.canonical
  | .null => rfl
  | .bool _ => rfl
  | .int _ => rfl
  | .float _ => rfl
  | .text _ => rfl
  | .list items => by
    rw [Datum.ofJson, Datum.asJson, asJsonItems_ofItems items]
    rfl
  | .record fields => by
    rw [Datum.ofJson, Datum.asJson, asJsonFields_ofFields fields]
    rfl

theorem asJsonItems_ofItems : ∀ items : List Json,
    Datum.asJsonItems (Datum.ofItems items) = .ok (canonicalItems items)
  | [] => rfl
  | v :: items => by
    rw [Datum.ofItems, Datum.asJsonItems, asJson_ofJson v, asJsonItems_ofItems items]
    rfl

theorem asJsonFields_ofFields : ∀ fields : List (String × Json),
    Datum.asJsonFields (Datum.ofFields fields) = .ok (canonicalFields fields)
  | [] => rfl
  | (_, v) :: fields => by
    rw [Datum.ofFields, Datum.asJsonFields, Datum.asText, asJson_ofJson v, asJsonFields_ofFields fields]
    rfl

end

theorem ofText_blank {α : Type} (decode : Datum → Except Cause α) {b : List Char} (blank : Blank b) (s : List Char) :
    ofText decode (.ofList (b ++ s)) = ofText decode (.ofList s) := by
  rw [ofText, ofText, String.toList_ofList, String.toList_ofList, readFirst, run_blank blank, ← readFirst]

/-- A text of a tree, with blanks around it, is parsed to the tree with its records sorted. -/
theorem parse_of_written {v : Json} {b w b' : List Char} (before : Blank b) (h : Written v w) (behind : Blank b')
    (deep : v.depth ≤ maxDepth) : parse (.ofList (b ++ w ++ b')) = .ok v.canonical := by
  rw [parse, List.append_assoc, ofText_blank _ before, ofText_of_written _ h behind deep, asJson_ofJson]

end AgentTrial.Json
