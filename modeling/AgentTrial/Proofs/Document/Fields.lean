import AgentTrial.Proofs.Document.Shows

/-!
# Fields — laws of record decoders

A decoder of records is put together field by field, and so is what is known of it.

* `Fields.Restores`: the decoder takes the fields of some names, and gives a value back from the fields written for it.
* `Fields.Restores.seq`: two decoders in a row restore what both do, if they take fields of different names.
* `Fields.Ensures`, `Fields.Ensures.seq`: what all values of a decoder have, from what the values of its parts have.
-/

namespace AgentTrial.Fields

variable {α β : Type} {f : Fields (α → β)} {x : Fields α} {keys keys' : List String}
  {vs ws : List (String × Json)}

theorem takeFields_append (f : Fields α) (s : f.State) (ds es : List (Datum × Datum)) :
    f.takeFields s (ds ++ es) = f.takeFields s ds >>= fun s => f.takeFields s es := by
  induction ds generalizing s with
  | nil => rfl
  | cons d ds ih =>
    rw [List.cons_append, takeFields, takeFields]
    cases f.takeField s d with
    | error c => rfl
    | ok s' => exact ih s'

theorem split_showsFields {ds : List (Datum × Datum)} (h : Datum.ShowsFields ds (vs ++ ws)) :
    ∃ es fs, ds = es ++ fs ∧ Datum.ShowsFields es vs ∧ Datum.ShowsFields fs ws := by
  induction vs generalizing ds with
  | nil => exact ⟨[], ds, rfl, .nil, h⟩
  | cons v vs ih =>
    cases h with
    | cons key value tail =>
      obtain ⟨es, fs, rfl, hes, hfs⟩ := ih tail
      exact ⟨_ :: es, fs, rfl, .cons key value hes, hfs⟩

/-! ## What a decoder restores -/

/-- The decoder takes the fields of these names, and from fields that show the given ones it restores the value. -/
structure Restores (f : Fields α) (keys : List String) (vs : List (String × Json)) (a : α) : Prop where
  takes : ∀ k d s, (f.take k d s).isSome = true ↔ k ∈ keys
  own : ∀ e ∈ vs, e.1 ∈ keys
  run : ∀ ds, Datum.ShowsFields ds vs → ∃ s, f.takeFields f.start ds = .ok s ∧ f.finish s = .ok a

theorem takeField_of_some {f : Fields α} {k d : Datum} {name : String} {s : f.State} {r : Except Cause f.State}
    (key : k.asText = .ok name) (take : f.take name d s = some r) : f.takeField s (k, d) = r := by
  unfold takeField
  dsimp only
  rw [key]
  dsimp only [bind, Except.bind]
  rw [take]

section Take

variable {k : String} {d : Datum} {s : f.State} {t : x.State}

/-- What the first of two decoders takes, it takes for both. -/
theorem take_seq_of_some {r : Except Cause f.State} (h : f.take k d s = some r) :
    (f <*> x).take k d (s, t) = some ((·, t) <$> r) := by
  simp only [Seq.seq, h]

/-- What it leaves is for the second one. -/
theorem take_seq_of_none (h : f.take k d s = none) :
    (f <*> x).take k d (s, t) = (x.take k d t).map ((s, ·) <$> ·) := by
  simp only [Seq.seq, h]

end Take

section Seq

variable (takes : ∀ k d s, (f.take k d s).isSome = true ↔ k ∈ keys)
include takes

/-- Fields of the first of two decoders do not change the state of the second. -/
theorem takeFields_seq_left (own : ∀ e ∈ vs, e.1 ∈ keys) {ds : List (Datum × Datum)}
    (shows : Datum.ShowsFields ds vs) (s : f.State) (t : x.State) :
    (f <*> x).takeFields (s, t) ds = (·, t) <$> f.takeFields s ds := by
  induction vs generalizing ds s with
  | nil =>
    cases shows
    rfl
  | cons v vs ih =>
    cases shows with
    | cons key value tail =>
      rename_i k d name v fields
      obtain ⟨r, hr⟩ := Option.isSome_iff_exists.1 ((takes name d s).2 (own _ List.mem_cons_self))
      rw [takeFields, takeFields, takeField_of_some key hr, takeField_of_some key (take_seq_of_some hr)]
      cases r with
      | error c => rfl
      | ok s' => exact ih (fun e he => own e (List.mem_cons_of_mem _ he)) tail s'

/-- Fields of the second of two decoders do not change the state of the first. -/
theorem takeFields_seq_right (takes' : ∀ k d s, (x.take k d s).isSome = true ↔ k ∈ keys')
    (own : ∀ e ∈ vs, e.1 ∈ keys' ∧ e.1 ∉ keys) {ds : List (Datum × Datum)} (shows : Datum.ShowsFields ds vs)
    (s : f.State) (t : x.State) : (f <*> x).takeFields (s, t) ds = (s, ·) <$> x.takeFields t ds := by
  induction vs generalizing ds t with
  | nil =>
    cases shows
    rfl
  | cons v vs ih =>
    cases shows with
    | cons key value tail =>
      rename_i k d name v fields
      obtain ⟨hown, hother⟩ := own _ List.mem_cons_self
      obtain ⟨r, hr⟩ := Option.isSome_iff_exists.1 ((takes' name d t).2 hown)
      have hnone : f.take name d s = none := by
        rw [← Option.not_isSome_iff_eq_none, takes]
        exact hother
      have hseq : (f <*> x).take name d (s, t) = some ((s, ·) <$> r) := by
        rw [take_seq_of_none hnone, hr]
        rfl
      rw [takeFields, takeFields, takeField_of_some key hr, takeField_of_some key hseq]
      cases r with
      | error c => rfl
      | ok t' => exact ih (fun e he => own e (List.mem_cons_of_mem _ he)) tail t'

end Seq

namespace Restores

theorem pure (a : α) : Restores (Pure.pure a) [] [] a where
  takes _ _ _ := by simp [Pure.pure]
  own := nofun
  run ds h := by
    cases h
    exact ⟨(), rfl, rfl⟩

/-- Two decoders that take fields of different names, in a row. -/
theorem seq {g : α → β} {a : α} (hf : Restores f keys vs g) (hx : Restores x keys' ws a)
    (disjoint : ∀ k ∈ keys', k ∉ keys) : Restores (f <*> x) (keys ++ keys') (vs ++ ws) (g a) where
  takes k d s := by
    obtain ⟨s, t⟩ := s
    rw [List.mem_append, ← hf.takes k d s, ← hx.takes k d t]
    cases hs : f.take k d s with
    | some r => simp [take_seq_of_some hs]
    | none => simp [take_seq_of_none hs]
  own e he := by
    rcases List.mem_append.1 he with he | he
    · exact List.mem_append_left _ (hf.own e he)
    · exact List.mem_append_right _ (hx.own e he)
  run ds h := by
    obtain ⟨es, fs, rfl, hes, hfs⟩ := split_showsFields h
    obtain ⟨s, hs, hg⟩ := hf.run es hes
    obtain ⟨t, ht, ha⟩ := hx.run fs hfs
    refine ⟨(s, t), ?_, ?_⟩
    · have hleft := takeFields_seq_left (x := x) hf.takes hf.own hes f.start x.start
      have hright := takeFields_seq_right hf.takes hx.takes
        (fun e he => ⟨hx.own e he, disjoint _ (hx.own e he)⟩) hfs s x.start
      rw [takeFields_append]
      change ((f <*> x).takeFields (f.start, x.start) es >>= _) = _
      rw [hleft, hs]
      change (f <*> x).takeFields (s, x.start) fs = _
      rw [hright, ht]
      rfl
    · change (do return (← f.finish s) (← x.finish t)) = _
      rw [hg, ha]
      rfl

theorem map (g : α → β) {a : α} (hx : Restores x keys vs a) : Restores (g <$> x) keys vs (g a) :=
  (pure g).seq hx (by simp)

/-! ## One field -/

section Field

variable {decode : Datum → Except Cause α} {default : Except Cause α} {v : Json} {a : α}

theorem takes_withDefault {key : String} (k : String) (d : Datum) (s : (withDefault key decode default).State) :
    ((withDefault key decode default).take k d s).isSome = true ↔ k ∈ [key] := by
  change (if k = key then some _ else none).isSome = true ↔ _
  by_cases hk : k = key
  · rw [if_pos hk]
    exact iff_of_true rfl (List.mem_singleton.2 hk)
  · simp [hk]

/-- A field that is there. -/
theorem present {key : String} (h : Datum.Decodes decode v a) :
    Restores (withDefault key decode default) [key] [(key, v)] a where
  takes := takes_withDefault
  own := by simp
  run ds hds := by
    cases hds with
    | cons hkey hvalue htail =>
      cases htail
      rename_i k d
      have htake : (withDefault key decode default).take key d none = some (.ok (some a)) := by
        change (if key = key then some _ else none) = _
        rw [if_pos rfl, h d hvalue]
        rfl
      refine ⟨some a, ?_, rfl⟩
      change ((withDefault key decode default).takeField none (k, d) >>= fun s => .ok s) = _
      rw [takeField_of_some hkey htake]
      rfl

/-- A field that is absent. -/
theorem absent {key : String} : Restores (withDefault key decode (.ok a)) [key] [] a where
  takes := takes_withDefault
  own := by simp
  run ds hds := by
    cases hds
    exact ⟨none, rfl, rfl⟩

theorem required (key : String) (h : Datum.Decodes decode v a) :
    Restores (Fields.required key decode) [key] [(key, v)] a := present h

theorem defaulted (key : String) {b : α} (h : Datum.Decodes decode v a) :
    Restores (Fields.defaulted key decode b) [key] [(key, v)] a := present h

/-- A field that is written when there is a value. -/
theorem optional (key : String) (encode : α → Json) (o : Option α)
    (h : ∀ a ∈ o, encode a ≠ .null ∧ Datum.Decodes decode (encode a) a) :
    Restores (Fields.optional key decode) [key] (Json.optional key (o.map encode)) o := by
  cases o with
  | none => exact absent
  | some a =>
    obtain ⟨notNull, h⟩ := h a rfl
    exact present (Datum.decodes_option notNull h)

end Field

/-- A record of the fields that a decoder restores a value from. -/
theorem decodes {x : Fields α} {a : α} (h : Restores x keys vs a) : Datum.Decodes x.decode (.record vs) a := by
  intro d hd
  cases hd with
  | record hfields =>
    rename_i ds
    obtain ⟨s, hs, ha⟩ := h.run ds hfields
    change (do x.finish (← x.takeFields x.start ds)) = _
    rw [hs]
    exact ha
  | plain _ _ h => cases h

end Restores

/-! ## What all values of a decoder have -/

/-- Every value that the decoder gives has the property.  Of the states of a record there is an invariant that holds
at the start, that every field keeps and that the property follows from at the end. -/
structure Ensures (f : Fields α) (P : α → Prop) : Prop where
  record : ∃ I : f.State → Prop, I f.start ∧ (∀ k d s s', I s → f.take k d s = some (.ok s') → I s') ∧
    ∀ s a, I s → f.finish s = .ok a → P a
  positional : ∀ ds a rest, f.positional ds = .ok (a, rest) → P a

/-- An invariant of single fields is one of many. -/
theorem invariant_takeFields {f : Fields α} {I : f.State → Prop} {s s' : f.State} {ds : List (Datum × Datum)}
    (take : ∀ k d s s', I s → f.take k d s = some (.ok s') → I s') (hs : I s) (h : f.takeFields s ds = .ok s') :
    I s' := by
  induction ds generalizing s with
  | nil => exact Except.ok.inj h ▸ hs
  | cons d ds ih =>
    obtain ⟨s₁, hfield, hrest⟩ := of_bind_ok h
    obtain ⟨name, -, hfield⟩ := of_bind_ok hfield
    refine ih ?_ hrest
    cases htake : f.take name d.2 s with
    | some r =>
      rw [htake] at hfield
      exact take name d.2 s s₁ hs (htake.trans (congrArg some hfield))
    | none =>
      rw [htake] at hfield
      dsimp only at hfield
      cases hbreak : d.2.break? with
      | none =>
        rw [hbreak] at hfield
        exact Except.ok.inj hfield ▸ hs
      | some c =>
        rw [hbreak] at hfield
        cases hfield

namespace Ensures

theorem pure {P : α → Prop} {a : α} (h : P a) : Ensures (Pure.pure a) P where
  record := ⟨fun _ => True, trivial, fun _ _ _ _ _ _ => trivial, fun _ b _ hb => Except.ok.inj hb ▸ h⟩
  positional ds b rest hb := by
    obtain ⟨rfl, -⟩ := Prod.mk.inj (Except.ok.inj hb)
    exact h

/-- Values of two decoders in a row. -/
theorem seq {P : β → Prop} {Q : α → Prop} (hf : Ensures f fun g => ∀ a, Q a → P (g a)) (hx : Ensures x Q) :
    Ensures (f <*> x) P where
  record := by
    obtain ⟨I, startI, takeI, finishI⟩ := hf.record
    obtain ⟨J, startJ, takeJ, finishJ⟩ := hx.record
    refine ⟨fun s => I s.1 ∧ J s.2, ⟨startI, startJ⟩, ?_, ?_⟩
    · rintro k d ⟨s, t⟩ s' ⟨hI, hJ⟩ htake
      cases hs : f.take k d s with
      | some r =>
        rw [take_seq_of_some hs] at htake
        obtain ⟨s₁, rfl, rfl⟩ := of_map_ok (Option.some.inj htake)
        exact ⟨takeI k d s s₁ hI hs, hJ⟩
      | none =>
        rw [take_seq_of_none hs] at htake
        obtain ⟨r, hr, hmap⟩ := Option.map_eq_some_iff.1 htake
        obtain ⟨t₁, rfl, rfl⟩ := of_map_ok hmap
        exact ⟨hI, takeJ k d t t₁ hJ hr⟩
    · rintro ⟨s, t⟩ b ⟨hI, hJ⟩ hfinish
      obtain ⟨g, hg, hrest⟩ := of_bind_ok hfinish
      obtain ⟨a, ha, hb⟩ := of_bind_ok hrest
      exact Except.ok.inj hb ▸ finishI s g hI hg a (finishJ t a hJ ha)
  positional ds b rest h := by
    obtain ⟨⟨g, ds'⟩, hg, h⟩ := of_bind_ok h
    obtain ⟨⟨a, ds''⟩, ha, h⟩ := of_bind_ok h
    obtain ⟨rfl, -⟩ := Prod.mk.inj (Except.ok.inj h)
    exact hf.positional ds g ds' hg a (hx.positional ds' a ds'' ha)

theorem map {P : β → Prop} {Q : α → Prop} {g : α → β} (h : ∀ a, Q a → P (g a)) (hx : Ensures x Q) :
    Ensures (g <$> x) P :=
  seq (pure h) hx

theorem withDefault {key : String} {decode : Datum → Except Cause α} {default : Except Cause α} {P : α → Prop}
    (h : ∀ d a, decode d = .ok a → P a) (hdefault : ∀ a, default = .ok a → P a) :
    Ensures (Fields.withDefault key decode default) P where
  record := by
    refine ⟨fun s : Option α => ∀ a ∈ s, P a, nofun, ?_, ?_⟩
    · intro k d s s' _ htake
      change (if k = key then some (if s.isSome then .error .mismatch else some <$> decode d) else none) = _ at htake
      split_ifs at htake
      · cases htake
      obtain ⟨a, ha, rfl⟩ := of_map_ok (Option.some.inj htake)
      rintro b ⟨⟩
      exact h d a ha
    · intro s a hs hfinish
      cases s with
      | none => exact hdefault a hfinish
      | some b =>
        obtain rfl := Except.ok.inj hfinish
        exact hs b rfl
  positional ds a rest hpos := by
    cases ds with
    | nil =>
      obtain ⟨b, hb, heq⟩ := of_map_ok hpos
      obtain ⟨rfl, -⟩ := Prod.mk.inj heq
      exact hdefault b hb
    | cons d ds =>
      obtain ⟨b, hb, heq⟩ := of_map_ok hpos
      obtain ⟨rfl, -⟩ := Prod.mk.inj heq
      exact h d b hb

theorem required {key : String} {decode : Datum → Except Cause α} {P : α → Prop}
    (h : ∀ d a, decode d = .ok a → P a) : Ensures (Fields.required key decode) P :=
  withDefault h nofun

theorem defaulted {key : String} {decode : Datum → Except Cause α} {P : α → Prop} {a : α}
    (h : ∀ d a, decode d = .ok a → P a) (ha : P a) : Ensures (Fields.defaulted key decode a) P :=
  withDefault h fun _ hb => Except.ok.inj hb ▸ ha

theorem optional {key : String} {decode : Datum → Except Cause α} {P : α → Prop}
    (h : ∀ d a, decode d = .ok a → P a) : Ensures (Fields.optional key decode) fun o => ∀ a ∈ o, P a := by
  refine withDefault (fun d o ho a ha => ?_) fun o ho => Except.ok.inj ho ▸ nofun
  obtain rfl := Option.mem_def.1 ha
  obtain ⟨d', hd'⟩ := Datum.of_asOption ho
  exact h d' a hd'

/-- A decoder of which nothing is asked. -/
theorem trivial (f : Fields α) : Ensures f fun _ => True :=
  ⟨⟨fun _ => True, True.intro, fun _ _ _ _ _ _ => True.intro, fun _ _ _ _ => True.intro⟩, fun _ _ _ _ => True.intro⟩

theorem decode {x : Fields α} {P : α → Prop} (h : Ensures x P) {d : Datum} {a : α} (hd : x.decode d = .ok a) :
    P a := by
  fun_induction Fields.decode x d with
  | case1 items =>
    obtain ⟨⟨b, rest⟩, hb, hd⟩ := of_bind_ok hd
    dsimp only at hd
    split_ifs at hd
    exact Except.ok.inj hd ▸ h.positional _ b rest hb
  | case2 items =>
    obtain ⟨⟨b, rest⟩, hb, rfl⟩ := of_map_ok hd
    exact h.positional _ b rest hb
  | case3 d ih => exact ih hd
  | case4 d =>
    obtain ⟨fields, -, hd⟩ := of_bind_ok hd
    obtain ⟨s, hs, hfinish⟩ := of_bind_ok hd
    obtain ⟨I, start, take, finish⟩ := h.record
    exact finish s a (invariant_takeFields take start hs) hfinish

end Ensures

end AgentTrial.Fields
