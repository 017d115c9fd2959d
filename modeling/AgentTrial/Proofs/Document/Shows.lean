import AgentTrial.Proofs.Spec.Distinct
import AgentTrial.Proofs.Traversal
import AgentTrial.Spec.Codec

/-!
# Shows — documents that show a value tree

A value tree can be written in several ways that mean the same: a text with or without quotes, a list that may also be
read as a record.  `Datum.Shows` holds of every document that stands for a tree, whatever way it was written in, and
`Decodes` says that a decoder gives a value for all of them.

* `Datum.shows_ofJson`: the document of a tree shows it.
* `Datum.shows`: whether a document does, computed.
* `decodes_text`, `decodes_list`, `decodes_table`, …: the decoders, one by one.
-/

namespace AgentTrial

namespace Document.Plain

/-- A scalar without quotes stands for a value tree: for a text if it is one, for a number if it is written as one. -/
inductive Stands (s : String) : Json → Prop
  | bool {b : Bool} (h : bool? s = some b) : Stands s (.bool b)
  | int {i : Int} {n : Nat} (h : nat? s.toList = some n) (same : i = n) : Stands s (.int i)
  | float {x : Float} (h : float? s = some x) : Stands s (.float x)
  | text : Stands s (.text s)

/-- Does the scalar stand for the value tree? -/
def stands (s : String) : Json → Bool
  | .bool b => bool? s == some b
  | .int i => (nat? s.toList).any fun n : Nat => i == n
  | .float x => decide (float? s = some x)
  | .text t => s == t
  | _ => false

theorem Stands.of_stands {s : String} : ∀ {v : Json}, stands s v = true → Stands s v
  | .bool _, h => .bool (beq_iff_eq.1 h)
  | .int _, h => by
    obtain ⟨n, hn, same⟩ := (Option.any_eq_true _ _).1 h
    exact .int hn (beq_iff_eq.1 same)
  | .float _, h => .float (of_decide_eq_true h)
  | .text _, h => by
    obtain rfl := beq_iff_eq.1 h
    exact .text

end Document.Plain

namespace Json

mutual

/-- The number of levels of a value tree. -/
def levels : Json → Nat
  | list vs => levelsItems vs + 1
  | record vs => levelsFields vs + 1
  | _ => 1

/-- The number of levels of the highest item. -/
def levelsItems : List Json → Nat
  | [] => 0
  | v :: vs => max v.levels (levelsItems vs)

/-- The number of levels of the highest value. -/
def levelsFields : List (String × Json) → Nat
  | [] => 0
  | (_, v) :: vs => max v.levels (levelsFields vs)

end

end Json

namespace Datum

mutual

/-- The document stands for the value tree. -/
inductive Shows : Datum → Json → Prop
  | null : Shows .null .null
  | bool (b : Bool) : Shows (.bool b) (.bool b)
  | int (i : Int) : Shows (.int i) (.int i)
  | float (x : Float) : Shows (.float x) (.float x)
  | text (s : String) : Shows (.text s) (.text s)
  | plainNull {s : String} (h : Document.Plain.isNull s = true) : Shows (.plain s) .null
  | plain {s : String} {v : Json} (filled : s.isEmpty = false) (value : Document.Plain.isNull s = false)
      (h : Document.Plain.Stands s v) : Shows (.plain s) v
  | list {use : ListUse} {items : List Datum} {vs : List Json} (h : ShowsItems items vs) :
      Shows (.list use items) (.list vs)
  | record {fields : List (Datum × Datum)} {vs : List (String × Json)} (h : ShowsFields fields vs) :
      Shows (.record fields) (.record vs)

/-- The items stand for those of the list. -/
inductive ShowsItems : List Datum → List Json → Prop
  | nil : ShowsItems [] []
  | cons {d : Datum} {v : Json} {items : List Datum} {vs : List Json} (head : Shows d v)
      (tail : ShowsItems items vs) : ShowsItems (d :: items) (v :: vs)

/-- The fields stand for those of the record, names and values. -/
inductive ShowsFields : List (Datum × Datum) → List (String × Json) → Prop
  | nil : ShowsFields [] []
  | cons {k d : Datum} {name : String} {v : Json} {fields : List (Datum × Datum)} {vs : List (String × Json)}
      (key : k.asText = .ok name) (value : Shows d v) (tail : ShowsFields fields vs) :
      ShowsFields ((k, d) :: fields) ((name, v) :: vs)

end

mutual

/-- The document of a value tree shows it. -/
theorem shows_ofJson : ∀ v : Json, (ofJson v).Shows v
  | .null => .null
  | .bool b => .bool b
  | .int i => .int i
  | .float x => .float x
  | .text s => .text s
  | .list vs => .list (showsItems_ofItems vs)
  | .record vs => .record (showsFields_ofFields vs)

theorem showsItems_ofItems : ∀ vs : List Json, ShowsItems (ofItems vs) vs
  | [] => .nil
  | v :: vs => .cons (shows_ofJson v) (showsItems_ofItems vs)

theorem showsFields_ofFields : ∀ vs : List (String × Json), ShowsFields (ofFields vs) vs
  | [] => .nil
  | (_, v) :: vs => .cons rfl (shows_ofJson v) (showsFields_ofFields vs)

end

mutual

/-- A document has as many levels as the value tree that it shows. -/
theorem Shows.height_eq : ∀ {d : Datum} {v : Json}, d.Shows v → d.height = v.levels
  | _, _, .null | _, _, .bool _ | _, _, .int _ | _, _, .float _ | _, _, .text _ | _, _, .plainNull _ => rfl
  | _, v, .plain _ _ h => by cases h <;> rfl
  | _, _, .list h => congrArg (· + 1) h.heightItems_eq
  | _, _, .record h => congrArg (· + 1) h.heightFields_eq

theorem ShowsItems.heightItems_eq : ∀ {items : List Datum} {vs : List Json}, ShowsItems items vs →
    heightItems items = Json.levelsItems vs
  | _, _, .nil => rfl
  | _, _, .cons head tail => by rw [heightItems, Json.levelsItems, head.height_eq, tail.heightItems_eq]

theorem ShowsFields.heightFields_eq : ∀ {fields : List (Datum × Datum)} {vs : List (String × Json)},
    ShowsFields fields vs → heightFields fields = Json.levelsFields vs
  | _, _, .nil => rfl
  | _, _, .cons _ value tail => by rw [heightFields, Json.levelsFields, value.height_eq, tail.heightFields_eq]

end

/-! ## Showing, computed -/

mutual

/-- Does the document stand for the value tree? -/
def shows : Datum → Json → Bool
  | .null, .null => true
  | .bool b, .bool c => b == c
  | .int i, .int j => i == j
  | .float x, .float y => decide (x = y)
  | .text s, .text t => s == t
  | .plain s, v => !s.isEmpty && !Document.Plain.isNull s && Document.Plain.stands s v
  | .list _ items, .list vs => showsItems items vs
  | .record fields, .record vs => showsFields fields vs
  | _, _ => false

/-- Do the items stand for those of the list? -/
def showsItems : List Datum → List Json → Bool
  | [], [] => true
  | d :: items, v :: vs => d.shows v && showsItems items vs
  | _, _ => false

/-- Do the fields stand for those of the record? -/
def showsFields : List (Datum × Datum) → List (String × Json) → Bool
  | [], [] => true
  | (k, d) :: fields, (name, v) :: vs => decide (k.asText = .ok name) && d.shows v && showsFields fields vs
  | _, _ => false

end

mutual

theorem Shows.of_shows : ∀ {d : Datum} {v : Json}, d.shows v = true → d.Shows v
  | .null, .null, _ => .null
  | .bool _, .bool _, h => by
    obtain rfl := beq_iff_eq.1 h
    exact .bool _
  | .int _, .int _, h => by
    obtain rfl := beq_iff_eq.1 h
    exact .int _
  | .float _, .float _, h => by
    obtain rfl := of_decide_eq_true h
    exact .float _
  | .text _, .text _, h => by
    obtain rfl := beq_iff_eq.1 h
    exact .text _
  | .plain s, v, h => by
    simp only [shows, Bool.and_eq_true, Bool.not_eq_true'] at h
    exact .plain h.1.1 h.1.2 (.of_stands h.2)
  | .list _ _, .list _, h => .list (.of_shows h)
  | .record _, .record _, h => .record (.of_shows h)

theorem ShowsItems.of_shows : ∀ {items : List Datum} {vs : List Json}, showsItems items vs = true →
    ShowsItems items vs
  | [], [], _ => .nil
  | _ :: _, _ :: _, h => by
    rw [showsItems, Bool.and_eq_true] at h
    exact .cons (.of_shows h.1) (.of_shows h.2)

theorem ShowsFields.of_shows : ∀ {fields : List (Datum × Datum)} {vs : List (String × Json)},
    showsFields fields vs = true → ShowsFields fields vs
  | [], [], _ => .nil
  | (_, _) :: _, (_, _) :: _, h => by
    rw [showsFields, Bool.and_eq_true, Bool.and_eq_true, decide_eq_true_eq] at h
    exact .cons h.1.1 (.of_shows h.1.2) (.of_shows h.2)

end

/-! ## Decoders -/

/-- The decoder gives the value for every document that shows the tree. -/
def Decodes {α : Type} (decode : Datum → Except Cause α) (v : Json) (a : α) : Prop :=
  ∀ d : Datum, d.Shows v → decode d = .ok a

section Decodes

variable {α : Type} {decode : Datum → Except Cause α} {v : Json} {a : α}

theorem decodes_text (s : String) : Decodes asText (.text s) s := by
  intro d h
  cases h with
  | text => rfl
  | plain _ _ h =>
    cases h
    rfl

theorem decodes_nat {bound n : Nat} (bounded : n ≤ bound) : Decodes (asNat bound) (Json.nat n) n := by
  intro d h
  cases h with
  | int => simp [asNat, bounded]
  | plain _ _ h =>
    cases h with
    | int h same =>
      obtain rfl := Int.ofNat_inj.1 same
      simp [asNat, h, bounded]

theorem decodes_float (x : Float) : Decodes asFloat (.float x) x := by
  intro d h
  cases h with
  | float => rfl
  | plain _ _ h =>
    cases h with
    | float h => simp [asFloat, h]

theorem decodes_variant {names : List (String × α)} {s : String} (named : named names s = .ok a) :
    Decodes (asVariant names) (.text s) a := by
  intro d h
  cases h with
  | text => exact named
  | plain _ _ h =>
    cases h
    exact named

/-- A value that is there, where it may be absent. -/
theorem decodes_option (notNull : v ≠ .null) (h : Decodes decode v a) : Decodes (asOption decode) v (some a) := by
  intro d hd
  have hdecode := h d hd
  cases hd with
  | null => exact absurd rfl notNull
  | plainNull => exact absurd rfl notNull
  | plain filled value => simp [asOption, filled, value, hdecode]
  | _ => simp [asOption, hdecode]

theorem decodes_list {encode : α → Json} {l : List α} (h : ∀ a ∈ l, Decodes decode (encode a) a) :
    Decodes (asList decode) (.list (l.map encode)) l := by
  intro d hd
  cases hd with
  | list hitems =>
    rename_i items
    rw [asList]
    induction l generalizing items with
    | nil =>
      cases hitems
      rfl
    | cons a l ih =>
      cases hitems with
      | cons hhead htail =>
        rw [List.mapM_cons, h a List.mem_cons_self _ hhead, ih (fun a ha => h a (List.mem_cons_of_mem _ ha)) htail]
        rfl
  | plain _ _ h => cases h

/-- A table with every name once. -/
theorem decodes_table {encode : α → Json} {t : Table α} (nodup : t.keys.Nodup)
    (h : ∀ e ∈ t, Decodes decode (encode e.2) e.2) : Decodes (asTable decode) (Table.toJson encode t) t := by
  intro d hd
  cases hd with
  | record hfields =>
    rename_i fields
    have hpairs : (fields.mapM fun e => return (← e.1.asText, ← decode e.2)) = (.ok t : Except Cause (Table α)) := by
      clear nodup
      induction t generalizing fields with
      | nil =>
        cases hfields
        rfl
      | cons e t ih =>
        cases hfields with
        | cons key value tail =>
          rw [List.mapM_cons, ih (fun e he => h e (List.mem_cons_of_mem _ he)) tail]
          dsimp only
          rw [key, h e List.mem_cons_self _ value]
          rfl
    rw [asTable, asFields]
    change (List.mapM (m := Except Cause) _ fields >>= _) = _
    rw [hpairs]
    exact congrArg Except.ok (Table.ofPairs_of_nodup nodup)
  | plain _ _ h => cases h

end Decodes

/-! ## What decoders give -/

section Given

variable {α : Type} {decode : Datum → Except Cause α}

/-- A value that may be absent comes from the decoder of those that are there. -/
theorem of_asOption {d : Datum} {a : α}
    (h : asOption decode d = .ok (some a)) : ∃ d', decode d' = .ok a := by
  have present {d : Datum} (h : some <$> decode d = .ok (some a)) : ∃ d', decode d' = .ok a := by
    obtain ⟨b, hb, heq⟩ := of_map_ok h
    exact ⟨d, Option.some.inj heq ▸ hb⟩
  fun_induction asOption decode d with
  | case7 _ _ ih => exact ih h
  | case3 | case6 | case8 => exact present h
  | _ => cases h

theorem le_of_asNat {bound n : Nat} {d : Datum} (h : asNat bound d = .ok n) : n ≤ bound := by
  fun_induction asNat bound d with
  | case1 i hi =>
    obtain rfl := Except.ok.inj h
    omega
  | case3 s m _ hm => exact Except.ok.inj h ▸ hm
  | case6 _ _ ih | case7 _ _ ih => exact ih h
  | _ => cases h

/-- A table has every name once, and its values come from the decoder. -/
theorem of_asTable {d : Datum} {t : Table α} (h : asTable decode d = .ok t) :
    t.keys.Nodup ∧ ∀ e ∈ t, ∃ d', decode d' = .ok e.2 := by
  obtain ⟨fields, -, h⟩ := of_bind_ok h
  obtain ⟨pairs, hpairs, h⟩ := of_bind_ok h
  obtain rfl := Except.ok.inj h
  refine ⟨Table.nodup_ofPairs pairs, fun e he => ?_⟩
  obtain ⟨⟨k, d'⟩, -, hfield⟩ := exists_of_mem_mapM hpairs (Table.mem_of_mem_ofPairs he)
  obtain ⟨name, -, hfield⟩ := of_bind_ok hfield
  obtain ⟨v, hv, hfield⟩ := of_bind_ok hfield
  exact ⟨d', Except.ok.inj hfield ▸ hv⟩

end Given

end Datum

end AgentTrial
