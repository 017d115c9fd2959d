import AgentTrial.Program.Compile
import AgentTrial.Proofs.Decimal.Form
import AgentTrial.Proofs.Spec.Same
import AgentTrial.Proofs.Text.Literal
import AgentTrial.Proofs.Text.Mark

/-!
# Telling — texts that tell a condition

Two texts tell a condition if they are the same where it holds, and go on differently where it does not, whatever is
put behind them.  What is told by two pieces is told by the pieces in a row, so a program is compared with another one
piece by piece.

* `Tells.append`, `tells_lines`: pieces in a row.
* `tells_literal`: two literals tell whether their texts are equal.
* `PropertyType.tells_validator`: the validators of equal types tell whether their fields are in the same order.
* `Decimal.tells_render`: two numbers before a bracket tell whether they are written alike.
-/

namespace AgentTrial

/-- The texts of two values tell a condition: the values are equal if it holds, and whatever follows the texts, it does
not come out the same unless it holds. -/
structure Tells {α : Type} (text : α → String) (P : Prop) (a b : α) : Prop where
  eq : P → a = b
  told : ∀ r r', text a ++ r = text b ++ r' → P ∧ r = r'

namespace Tells

variable {α : Type} {text : α → String} {P Q : Prop} {a b : α}

theorem refl (a : α) : Tells text True a a := ⟨fun _ => rfl, fun r r' h => ⟨trivial, by simpa using h⟩⟩

theorem congr (h : Tells text P a b) (hPQ : P ↔ Q) : Tells text Q a b :=
  ⟨fun hQ => h.eq (hPQ.2 hQ), fun r r' ht => (h.told r r' ht).imp_left hPQ.1⟩

theorem iff_text_eq (h : Tells text P a b) : P ↔ text a = text b := by
  refine ⟨fun hP => by rw [h.eq hP], fun ht => (h.told "" "" ?_).1⟩
  rw [ht]

/-- What two texts tell, and then two more, is told by all of them. -/
theorem append {a b c d : String} (h : Tells id P a b) (h' : P → Tells id Q c d) :
    Tells id (P ∧ Q) (a ++ c) (b ++ d) := by
  refine ⟨fun ⟨hP, hQ⟩ => by rw [h.eq hP, (h' hP).eq hQ], fun r r' ht => ?_⟩
  simp only [id, String.append_assoc] at ht
  obtain ⟨hP, ht⟩ := h.told _ _ ht
  obtain ⟨hQ, ht⟩ := (h' hP).told _ _ ht
  exact ⟨⟨hP, hQ⟩, ht⟩

/-- Between texts that are the same. -/
theorem between {a b : String} (h : Tells id P a b) (before after : String) :
    Tells id P (before ++ a ++ after) (before ++ b ++ after) :=
  (((refl before).append fun _ => h).append fun _ => refl after).congr (by tauto)

end Tells

/-! ## Literals, validators and numbers -/

theorem tells_literal (s t : String) : Tells id (s = t) (Text.literal s) (Text.literal t) := by
  refine ⟨fun h => by rw [h], fun r r' h => ?_⟩
  replace h := congrArg String.toList h
  simp only [id, String.toList_append, Text.literal, String.toList_ofList] at h
  obtain ⟨hst, hr⟩ := Text.literalChars_append_inj h
  exact ⟨hst, String.toList_injective hr⟩

namespace PropertyType

theorem validatorChars_unknown (name : String) : validatorChars (unknown name) = "z.any()".toList := by
  unfold validatorChars
  rfl

theorem validatorChars_object_cons (f : String × PropertyType) (fields : List (String × PropertyType)) :
    validatorChars (object (f :: fields)) =
      "z.object(\x7b ".toList ++ fieldChars f ++ moreFieldChars fields ++ " \x7d)".toList := by
  unfold validatorChars
  rfl

/-- What the validators of two objects tell, their lists of fields tell. -/
theorem moreFieldChars_of_object {f g : String × PropertyType} {fields others : List (String × PropertyType)}
    {r r' : List Char} (h : validatorChars (object (f :: fields)) ++ r = validatorChars (object (g :: others)) ++ r') :
    ∃ after, moreFieldChars (f :: fields) ++ (after ++ r) = moreFieldChars (g :: others) ++ (after ++ r') := by
  rw [validatorChars_object_cons, validatorChars_object_cons] at h
  -- The texts around the fields are kept closed: a literal that is opened makes every step slow.
  generalize "z.object(\x7b ".toList = before, " \x7d)".toList = after at h
  simp only [List.append_assoc, List.append_cancel_left_eq] at h
  refine ⟨after, ?_⟩
  simp only [moreFieldChars, List.cons_append, List.append_assoc, h]

mutual

/-- Whatever follows the validators of equal types, it does not come out the same unless the fields are in the same
order. -/
theorem outline_of_validatorChars : ∀ {p q : PropertyType} {r r' : List Char}, q.Distinct → p.same q = true →
    p.validatorChars ++ r = q.validatorChars ++ r' → p.outline = q.outline ∧ r = r'
  | object fields, q, r, r', distinct, hsame, h => by
    cases q with
    | object others =>
      rw [same_object] at hsame
      have hfound := fun e he => Table.get?_of_mem (k := Prod.fst e) (v := Prod.snd e) distinct.1 he
      have hmatch := fun e he => Table.exists_of_same (k := Prod.fst e) (v := Prod.snd e) hsame he
      cases fields with
      | nil =>
        obtain rfl : others = [] := List.length_eq_zero_iff.1 (Table.length_of_same hsame).symm
        exact ⟨rfl, List.append_cancel_left h⟩
      | cons f fields =>
        cases others with
        | nil => cases Table.length_of_same hsame
        | cons g others =>
          obtain ⟨after, hlist⟩ := moreFieldChars_of_object h
          obtain ⟨houtline, hr⟩ := outline_of_moreFieldChars distinct.2 hfound hmatch (Table.length_of_same hsame) hlist
          rw [outline, outline, houtline]
          exact ⟨rfl, List.append_cancel_left hr⟩
    | _ => simp [same] at hsame
  | string, q, _, _, _, hsame, h => by
    cases q with
    | string => exact ⟨rfl, List.append_cancel_left h⟩
    | _ => simp [same] at hsame
  | number, q, _, _, _, hsame, h => by
    cases q with
    | number => exact ⟨rfl, List.append_cancel_left h⟩
    | _ => simp [same] at hsame
  | boolean, q, _, _, _, hsame, h => by
    cases q with
    | boolean => exact ⟨rfl, List.append_cancel_left h⟩
    | _ => simp [same] at hsame
  | unknown _, q, _, _, _, hsame, h => by
    cases q with
    | unknown _ =>
      rw [validatorChars_unknown, validatorChars_unknown] at h
      exact ⟨by simp only [outline], List.append_cancel_left h⟩
    | _ => simp [same] at hsame

theorem outline_of_moreFieldChars : ∀ {fields others all : List (String × PropertyType)} {r r' : List Char},
    DistinctFields others → (∀ e ∈ others, Table.get? e.1 all = some e.2) →
    (∀ e ∈ fields, ∃ q, Table.get? e.1 all = some q ∧ e.2.same q = true) → fields.length = others.length →
    moreFieldChars fields ++ r = moreFieldChars others ++ r' → outlineFields fields = outlineFields others ∧ r = r'
  | [], [], _, _, _, _, _, _, _, h => ⟨rfl, h⟩
  | [], _ :: _, _, _, _, _, _, _, hlength, _ => by cases hlength
  | _ :: _, [], _, _, _, _, _, _, hlength, _ => by cases hlength
  | (name, p) :: fields, (other, q) :: others, all, r, r', distinct, hfound, hmatch, hlength, h => by
    simp only [moreFieldChars, fieldChars, List.cons_append, List.append_assoc, List.cons.injEq, true_and] at h
    obtain ⟨rfl, h⟩ := Text.literalChars_append_inj h
    replace h := (List.cons.inj (List.cons.inj (List.append_cancel_left h)).2).2
    obtain ⟨q', hq', hsame⟩ := hmatch (name, p) List.mem_cons_self
    obtain rfl : q = q' := Option.some.inj ((hfound (name, q) List.mem_cons_self).symm.trans hq')
    obtain ⟨hp, h⟩ := outline_of_validatorChars distinct.1 hsame h
    obtain ⟨hfields, hr⟩ := outline_of_moreFieldChars distinct.2 (fun e he => hfound e (List.mem_cons_of_mem _ he))
      (fun e he => hmatch e (List.mem_cons_of_mem _ he)) (Nat.succ.inj hlength) h
    rw [outlineFields, outlineFields, hp, hfields]
    exact ⟨rfl, hr⟩

end

/-- The validators of equal types tell whether their fields are in the same order. -/
theorem tells_validator {p q : PropertyType} (distinct : q.Distinct) (same : p.same q = true) :
    Tells id (p.outline = q.outline) p.validator q.validator := by
  refine ⟨fun h => by rw [eq_of_same distinct same h], fun r r' h => ?_⟩
  replace h := congrArg String.toList h
  simp only [id, String.toList_append, validator, String.toList_ofList] at h
  obtain ⟨houtline, hr⟩ := outline_of_validatorChars distinct same h
  exact ⟨houtline, String.toList_injective hr⟩

end PropertyType

namespace Decimal

/-- No number has a bracket among its characters. -/
theorem notMem_program (x : Float) : ')' ∉ (program.render x).toList := by
  have digit (c : Char) (h : c.isDigit = true) : c ≠ ')' := by
    rintro rfl
    exact absurd h (by decide)
  intro h
  exact forall_mem_program digit (by decide) (by decide) (by decide) (by decide) (by decide) x ')' h rfl

/-- Two numbers before a bracket tell whether they are written alike. -/
theorem tells_render (x y : Float) :
    Tells id (program.render x = program.render y) (program.render x ++ ");") (program.render y ++ ");") := by
  refine ⟨fun h => by rw [h], fun r r' h => ?_⟩
  replace h := congrArg String.toList h
  simp only [id, String.toList_append, List.append_assoc] at h
  obtain ⟨hrender, hr⟩ := Text.append_cons_inj (notMem_program x) (notMem_program y) h
  exact ⟨String.toList_injective hrender, String.toList_injective (List.cons.inj hr).2⟩

end Decimal

end AgentTrial
