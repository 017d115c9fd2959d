import AgentTrial.Proofs.Text.Slice
import AgentTrial.Proofs.Text.Trim
import AgentTrial.Text.Template
import Mathlib.Data.List.Forall2

/-!
# Template — one pass from the left

A template is cut into literal pieces and holes by scanning it from the left, once and before any value is known.

* `Scans`: the cut, hole by hole.
* `scans_iff`: every text is cut in one way, and `ofChars` gives it.
* `Hole.Filled`: what becomes of a hole under a look-up.
* `Fills`: the loop that fills in a template at byte offsets; `fills_iff`: it writes what `render` gives.
-/

namespace AgentTrial.Text

namespace Hole

/-- The trimmed key of a hole. -/
def name (h : Hole) : String := .ofList (trimChars h.key)

/-- A hole as it stands in the template. -/
def text (h : Hole) : List Char := h.before ++ (Template.opening ++ h.key ++ Template.closing)

/-- What a hole and the piece before it become: the value of the trimmed key, or the hole as it was. -/
inductive Filled (lookup : String → Option String) (h : Hole) : List Char → Prop
  | value {key v : String} (trimmed : Trims h.key key.toList) (found : lookup key = some v) :
      Filled lookup h (h.before ++ v.toList)
  | left {key : String} (trimmed : Trims h.key key.toList) (absent : lookup key = none) : Filled lookup h h.text

end Hole

namespace Template

/-- A text is cut into holes and a tail: the next hole is at the leftmost mark that opens one and goes to the leftmost
mark that closes one after it, and there is no complete placeholder in the tail. -/
inductive Scans : List Char → List Hole → List Char → Prop
  | tail {s : List Char} (incomplete : ∀ a b c, s ≠ a ++ opening ++ b ++ closing ++ c) : Scans s [] s
  | hole {s rest next before key tail : List Char} {holes : List Hole} (opened : FirstAt opening s before rest)
      (closed : FirstAt closing rest key next) (scanned : Scans next holes tail) : Scans s (⟨before, key⟩ :: holes) tail

variable {s rest next before key tail tail' : List Char} {holes holes' : List Hole} {lookup : String → Option String}

/-! ## The cut -/

/-- Where the leftmost placeholder is not closed, none is. -/
theorem incomplete_of_unclosed (opened : FirstAt opening s before rest) (unclosed : cut? closing rest = none) :
    ∀ a b c, s ≠ a ++ opening ++ b ++ closing ++ c := by
  intro a b c hs
  have hafter : s = a ++ opening ++ (b ++ closing ++ c) := by
    rw [hs]
    simp only [List.append_assoc]
  obtain ⟨d, hd⟩ := opened.suffix hafter
  refine cut?_eq_none_iff.1 unclosed (d ++ b) c ?_
  rw [← hd]
  simp only [List.append_assoc]

theorem complete_of_closed (opened : FirstAt opening s before rest) (closed : FirstAt closing rest key next) :
    s = before ++ opening ++ key ++ closing ++ next := by
  rw [opened.split, closed.split]
  simp only [List.append_assoc]

theorem ofChars_of_unopened (h : cut? opening s = none) : ofChars s = ⟨[], s⟩ := by
  rw [ofChars]
  split
  · rfl
  · rename_i hcut
    rw [h] at hcut
    cases hcut

theorem ofChars_of_unclosed (h : cut? opening s = some (before, rest)) (h' : cut? closing rest = none) :
    ofChars s = ⟨[], s⟩ := by
  rw [ofChars]
  split
  · rfl
  · rename_i hcut
    obtain ⟨rfl, rfl⟩ : before = _ ∧ rest = _ := by simpa [h] using hcut
    split
    · rfl
    · rename_i hcut'
      rw [h'] at hcut'
      cases hcut'

theorem ofChars_of_hole (h : cut? opening s = some (before, rest)) (h' : cut? closing rest = some (key, next)) :
    ofChars s = ⟨⟨before, key⟩ :: (ofChars next).holes, (ofChars next).tail⟩ := by
  rw [ofChars]
  split
  · rename_i hcut
    rw [h] at hcut
    cases hcut
  · rename_i hcut
    obtain ⟨rfl, rfl⟩ : before = _ ∧ rest = _ := by simpa [h] using hcut
    split
    · rename_i hcut'
      rw [h'] at hcut'
      cases hcut'
    · rename_i hcut'
      obtain ⟨rfl, rfl⟩ : key = _ ∧ next = _ := by simpa [h'] using hcut'
      rfl

theorem scans_ofChars (s : List Char) : Scans s (ofChars s).holes (ofChars s).tail := by
  fun_induction ofChars s with
  | case1 s h => exact .tail fun a b c hs => cut?_eq_none_iff.1 h a (b ++ closing ++ c) (by simpa using hs)
  | case2 s before rest h h' => exact .tail (incomplete_of_unclosed (cut?_eq_some_iff.1 h) h')
  | case3 s before rest h key next h' t ih => exact .hole (cut?_eq_some_iff.1 h) (cut?_eq_some_iff.1 h') ih

/-- There is one cut. -/
theorem Scans.unique (h : Scans s holes tail) (h' : Scans s holes' tail') : holes = holes' ∧ tail = tail' := by
  induction h generalizing holes' with
  | tail incomplete =>
    cases h' with
    | tail => exact ⟨rfl, rfl⟩
    | hole opened closed => exact absurd (complete_of_closed opened closed) (incomplete _ _ _)
  | hole opened closed scanned ih =>
    cases h' with
    | tail incomplete => exact absurd (complete_of_closed opened closed) (incomplete _ _ _)
    | hole opened' closed' scanned' =>
      obtain ⟨rfl, rfl⟩ := opened.unique opened'
      obtain ⟨rfl, rfl⟩ := closed.unique closed'
      obtain ⟨rfl, rfl⟩ := ih scanned'
      exact ⟨rfl, rfl⟩

/-- Every text is cut in one way. -/
theorem scans_iff (t : Template) : Scans s t.holes t.tail ↔ t = ofChars s := by
  constructor
  · intro h
    obtain ⟨hholes, htail⟩ := h.unique (scans_ofChars s)
    cases t
    cases hs : ofChars s
    simp_all
  · rintro rfl
    exact scans_ofChars s

/-- Nothing is lost by the cut. -/
theorem Scans.text_eq (h : Scans s holes tail) : holes.flatMap Hole.text ++ tail = s := by
  induction h with
  | tail => rfl
  | hole opened closed _ ih =>
    rw [List.flatMap_cons, List.append_assoc, ih, opened.split, closed.split, Hole.text]
    simp only [List.append_assoc]

/-! ## The values -/

theorem fill_eq (lookup : String → Option String) (h : Hole) :
    Hole.fill lookup h = h.before ++ ((lookup h.name).map String.toList).getD (opening ++ h.key ++ closing) := by
  unfold Hole.fill Hole.name
  cases lookup (.ofList (trimChars h.key)) <;> rfl

theorem filled_fill (lookup : String → Option String) (h : Hole) : h.Filled lookup (Hole.fill lookup h) := by
  have htrims : Trims h.key h.name.toList := by
    rw [Hole.name, String.toList_ofList]
    exact trims_trimChars h.key
  rw [fill_eq]
  cases hlookup : lookup h.name with
  | some v => exact .value htrims hlookup
  | none => exact .left htrims hlookup

theorem forall₂_filled (lookup : String → Option String) (holes : List Hole) :
    List.Forall₂ (Hole.Filled lookup) holes (holes.map (Hole.fill lookup)) :=
  List.forall₂_map_right_iff.2 (List.forall₂_same.2 fun h _ => filled_fill lookup h)

/-- Without values, every hole stays. -/
theorem fill_none (t : Template) : t.fill (fun _ => none) = t.holes.flatMap Hole.text ++ t.tail := rfl

/-- Only the keys of the holes are looked up. -/
theorem fill_congr {lookup' : String → Option String} {t : Template}
    (h : ∀ x ∈ t.holes, lookup x.name = lookup' x.name) : t.fill lookup = t.fill lookup' := by
  have hholes : t.holes.flatMap (Hole.fill lookup) = t.holes.flatMap (Hole.fill lookup') := by
    refine List.flatMap_congr fun x hx => ?_
    rw [fill_eq, fill_eq, h x hx]
  unfold fill
  rw [hholes]

end Template

/-! ## The loop -/

/-- The loop that fills in a template, by what is left of it, what has been written before, and what is written in the
end.  Each pass goes behind the next placeholder, and all texts are cut at byte offsets. -/
inductive Fills (lookup : String → Option String) : String → String → String → Prop
  | done {rest out : String} (unopened : offset? "\x7b\x7b" rest = none) : Fills lookup rest out (out ++ rest)
  | unclosed {rest out before after left : String} {start : Nat} (opened : offset? "\x7b\x7b" rest = some start)
      (head : slice? rest 0 start = some before) (behind : slice? rest (start + 2) rest.utf8ByteSize = some after)
      (unclosed : offset? "\x7d\x7d" after = none) (kept : slice? rest start rest.utf8ByteSize = some left) :
      Fills lookup rest out (out ++ before ++ left)
  | hole {rest out before after key piece next result : String} {start stop : Nat}
      (opened : offset? "\x7b\x7b" rest = some start) (head : slice? rest 0 start = some before)
      (behind : slice? rest (start + 2) rest.utf8ByteSize = some after)
      (closed : offset? "\x7d\x7d" after = some stop) (inside : slice? after 0 stop = some key)
      (value : lookup (trim key) = some piece ∨
        lookup (trim key) = none ∧ slice? rest start (start + 2 + stop + 2) = some piece)
      (past : slice? after (stop + 2) after.utf8ByteSize = some next)
      (more : Fills lookup next (out ++ before ++ piece) result) : Fills lookup rest out result

section Loop

variable {s before after key next : String} {lookup : String → Option String}

theorem render_of_unopened (h : cut? Template.opening s.toList = none) : render s lookup = s := by
  rw [render, Template.ofChars_of_unopened h]
  exact String.ofList_toList

theorem render_of_unclosed (h : cut? Template.opening s.toList = some (before.toList, after.toList))
    (h' : cut? Template.closing after.toList = none) : render s lookup = s := by
  rw [render, Template.ofChars_of_unclosed h h']
  exact String.ofList_toList

theorem render_of_hole (h : cut? Template.opening s.toList = some (before.toList, after.toList))
    (h' : cut? Template.closing after.toList = some (key.toList, next.toList)) :
    render s lookup =
      before ++ (lookup (trim key)).getD ("\x7b\x7b" ++ key ++ "\x7d\x7d") ++ render next lookup := by
  have hpiece : ((lookup (trim key)).map String.toList).getD (Template.opening ++ key.toList ++ Template.closing) =
      ((lookup (trim key)).getD ("\x7b\x7b" ++ key ++ "\x7d\x7d")).toList := by
    cases lookup (trim key) with
    | some v => rfl
    | none => simp only [Option.map_none, Option.getD_none, String.toList_append]; rfl
  refine String.toList_injective ?_
  simp only [render, Template.fill, Template.ofChars_of_hole h h', List.flatMap_cons, Template.fill_eq, Hole.name,
    String.toList_append, String.toList_ofList, List.append_assoc]
  exact congrArg (fun l => before.toList ++ (l ++ _)) hpiece

/-- A piece without the first character of the mark, and a key without that of the other one. -/
theorem render_append_hole (hbefore : '{' ∉ before.toList) (hkey : '}' ∉ key.toList) (next : String) :
    render (before ++ ("\x7b\x7b" ++ (key ++ ("\x7d\x7d" ++ next)))) lookup =
      before ++ (lookup (trim key)).getD ("\x7b\x7b" ++ key ++ "\x7d\x7d") ++ render next lookup := by
  have hopen : FirstAt Template.opening (before ++ ("\x7b\x7b" ++ (key ++ ("\x7d\x7d" ++ next)))).toList before.toList
      (key ++ ("\x7d\x7d" ++ next)).toList := by
    rw [String.toList_append, String.toList_append, ← List.append_assoc]
    exact firstAt_of_notMem hbefore
  have hclose : FirstAt Template.closing (key ++ ("\x7d\x7d" ++ next)).toList key.toList next.toList := by
    rw [String.toList_append, String.toList_append, ← List.append_assoc]
    exact firstAt_of_notMem hkey
  exact render_of_hole (cut?_eq_some_iff.2 hopen) (cut?_eq_some_iff.2 hclose)

theorem render_of_notMem (h : '{' ∉ s.toList) : render s lookup = s := by
  refine render_of_unopened (cut?_eq_none_iff.2 fun b r hs => h ?_)
  rw [hs]
  simp [Template.opening]

/-- The cuts of a pass around the mark that opens a placeholder. -/
theorem slices_of_opened {start : Nat} (opened : offset? "\x7b\x7b" s = some start) :
    ∃ before after : String, cut? Template.opening s.toList = some (before.toList, after.toList) ∧
      s = before ++ ("\x7b\x7b" ++ after) ∧ start = before.utf8ByteSize ∧ slice? s 0 start = some before ∧
      slice? s (start + 2) s.utf8ByteSize = some after ∧
      slice? s start s.utf8ByteSize = some ("\x7b\x7b" ++ after) := by
  obtain ⟨before, after, hcut, hs, hstart, hbefore, hafter⟩ := slices_of_offset? opened
  rw [String.append_assoc] at hs
  refine ⟨before, after, hcut, hs, hstart, hbefore, hafter, ?_⟩
  rw [hs, hstart]
  exact slice?_right _ _

/-- The cuts of a pass around the mark that closes it. -/
theorem slices_of_closed {stop : Nat} (hs : s = before ++ ("\x7b\x7b" ++ after))
    (closed : offset? "\x7d\x7d" after = some stop) :
    ∃ key next : String, cut? Template.closing after.toList = some (key.toList, next.toList) ∧
      slice? after 0 stop = some key ∧ slice? after (stop + 2) after.utf8ByteSize = some next ∧
      slice? s before.utf8ByteSize (before.utf8ByteSize + 2 + stop + 2) =
        some ("\x7b\x7b" ++ key ++ "\x7d\x7d") ∧ next.length < s.length := by
  obtain ⟨key, next, hcut, hafter, hstop, hkey, hnext⟩ := slices_of_offset? closed
  have hsplit : s = before ++ ("\x7b\x7b" ++ key ++ "\x7d\x7d") ++ next := by
    rw [hs, hafter]
    simp only [String.append_assoc]
  have hopen : "\x7b\x7b".utf8ByteSize = 2 := by decide
  have hclose : "\x7d\x7d".utf8ByteSize = 2 := by decide
  have hsize : ("\x7b\x7b" ++ key ++ "\x7d\x7d").utf8ByteSize = 2 + stop + 2 := by
    rw [String.utf8ByteSize_append, String.utf8ByteSize_append, hopen, hclose, hstop]
  refine ⟨key, next, hcut, hkey, hnext, ?_, ?_⟩
  · have hslice := slice?_append before ("\x7b\x7b" ++ key ++ "\x7d\x7d") next
    rwa [← hsplit, hsize, ← Nat.add_assoc, ← Nat.add_assoc] at hslice
  · have hpositive : 0 < "\x7b\x7b".length := by decide
    rw [hsplit]
    simp only [String.length_append]
    omega

theorem eq_render_of_fills {out result : String} (h : Fills lookup s out result) : result = out ++ render s lookup := by
  induction h with
  | done unopened => rw [render_of_unopened (offset?_eq_none_iff.1 unopened)]
  | unclosed opened head behind unclosed kept =>
    obtain ⟨b, r, hcut, hs, -, hbefore, hafter, hleft⟩ := slices_of_opened opened
    cases head.symm.trans hbefore
    cases behind.symm.trans hafter
    cases kept.symm.trans hleft
    rw [render_of_unclosed hcut (offset?_eq_none_iff.1 unclosed), String.append_assoc, ← hs]
  | hole opened head behind closed inside value past more ih =>
    obtain ⟨b, r, hcut, hs, rfl, hbefore, hafter, -⟩ := slices_of_opened opened
    cases head.symm.trans hbefore
    cases behind.symm.trans hafter
    obtain ⟨k, n, hcut', hkey, hnext, hhole, -⟩ := slices_of_closed hs closed
    cases inside.symm.trans hkey
    cases past.symm.trans hnext
    rw [ih, render_of_hole hcut hcut']
    rcases value with hvalue | ⟨habsent, hkept⟩
    · rw [hvalue, Option.getD_some]
      simp only [String.append_assoc]
    · cases hkept.symm.trans hhole
      rw [habsent, Option.getD_none]
      simp only [String.append_assoc]

theorem fills_render (s out : String) : Fills lookup s out (out ++ render s lookup) := by
  induction hn : s.length using Nat.strong_induction_on generalizing s out with
  | h n ih =>
    subst hn
    cases opened : offset? "\x7b\x7b" s with
    | none =>
      rw [render_of_unopened (offset?_eq_none_iff.1 opened)]
      exact .done opened
    | some start =>
      obtain ⟨before, after, hcut, hs, rfl, hbefore, hafter, hleft⟩ := slices_of_opened opened
      cases closed : offset? "\x7d\x7d" after with
      | none =>
        have hfills : Fills lookup s out (out ++ before ++ ("\x7b\x7b" ++ after)) :=
          .unclosed opened hbefore hafter closed hleft
        rw [String.append_assoc, ← hs] at hfills
        rwa [render_of_unclosed hcut (offset?_eq_none_iff.1 closed)]
      | some stop =>
        obtain ⟨key, next, hcut', hkey, hnext, hhole, hshorter⟩ := slices_of_closed hs closed
        rw [render_of_hole hcut hcut', ← String.append_assoc, ← String.append_assoc]
        refine .hole opened hbefore hafter closed hkey ?_ hnext (ih _ hshorter next _ rfl)
        cases hlookup : lookup (trim key) with
        | some v => exact .inl rfl
        | none => exact .inr ⟨rfl, hhole⟩

/-- The loop writes the template with its holes filled in, and nothing else, and no cut of it fails. -/
theorem fills_iff {result : String} : Fills lookup s "" result ↔ result = render s lookup := by
  constructor
  · intro h
    rw [eq_render_of_fills h, String.empty_append]
  · rintro rfl
    have h : Fills lookup s "" ("" ++ render s lookup) := fills_render s ""
    rwa [String.empty_append] at h

end Loop

end AgentTrial.Text
