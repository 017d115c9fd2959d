import AgentTrial.Proofs.Traversal
import AgentTrial.Store.Basic
import Mathlib.Tactic.SplitIfs

/-!
# Write — what is read after a file was written

A file that was written is read as it was written, under every path and with directories made for it or not.  A device
is no such file: it keeps nothing.

* `Store.follow_mono`: a path leads to the same place as long as no directory is lost.
* `Store.read_of_write`, `Store.readText_of_writeDeep`: what is read after a write under the same path.
-/

namespace AgentTrial.Store

variable {s t : Store} {base place q : Location} {path : String} {data : ByteArray} {e : Entry}

/-- Is there a device at a path? -/
def hasDevice (s : Store) (base : Location) (path : String) : Bool :=
  match s.locate base path with
  | .error _ => false
  | .ok place =>
    match s.look? place with
    | some (.device _) => true
    | _ => false

/-- Where there is a file, there is no device. -/
theorem hasDevice_of_hasFile (h : s.hasFile base path = true) : s.hasDevice base path = false := by
  unfold hasFile at h
  unfold hasDevice
  cases hplace : s.locate base path with
  | error e => rfl
  | ok place =>
    rw [hplace] at h
    dsimp only at h ⊢
    cases hlook : s.look? place with
    | none => rfl
    | some f =>
      rw [hlook] at h
      cases f with
      | device d => cases h
      | _ => rfl

/-- What is put at a place is there, unless something is always there. -/
theorem look?_put_self (free : fixed? place = none) : (s.put place e).look? place = some e := by
  rw [look?_put, free, if_pos rfl]
  rfl

theorem look?_put_ne (h : place ≠ q) : (s.put place e).look? q = s.look? q := by
  rw [look?_put, if_neg h, look?]

/-- Every directory of the one store is a directory of the other. -/
def DirectoriesIn (s t : Store) : Prop := ∀ q, s.look? q = some .directory → t.look? q = some .directory

theorem DirectoriesIn.trans {u : Store} (h : DirectoriesIn s t) (h' : DirectoriesIn t u) : DirectoriesIn s u :=
  fun q hq => h' q (h q hq)

theorem directoriesIn_put (notDirectory : s.look? place ≠ some .directory) : DirectoriesIn s (s.put place e) := by
  intro q hq
  have hne : place ≠ q := by
    rintro rfl
    exact notDirectory hq
  rwa [look?_put_ne hne]

/-- What leads somewhere leads there in every store with the same directories and more. -/
theorem follow_mono {names : List String} {p : Location} (directories : DirectoriesIn s t)
    (h : s.follow q names = .ok p) : t.follow q names = .ok p := by
  induction names generalizing q with
  | nil => exact h
  | cons name names ih =>
    rw [follow] at h ⊢
    cases hq : s.look? q with
    | none =>
      rw [hq] at h
      cases h
    | some f =>
      rw [hq] at h
      cases f with
      | directory =>
        rw [directories q hq]
        exact ih h
      | _ => cases h

theorem locate_mono (directories : DirectoriesIn s t) {p : Location} (h : s.locate base path = .ok p) :
    t.locate base path = .ok p := by
  unfold locate at h ⊢
  dsimp only at h ⊢
  split_ifs at h ⊢
  exact follow_mono directories h
  exact follow_mono directories h

/-- Nothing but directories and devices is always there. -/
theorem fixed?_eq_none (notDirectory : s.look? place ≠ some .directory)
    (notDevice : ∀ d, s.look? place ≠ some (.device d)) : fixed? place = none := by
  cases hfixed : fixed? place with
  | none => rfl
  | some e =>
    have hlook : s.look? place = some e := by rw [look?, hfixed, Option.some_or]
    unfold fixed? at hfixed
    split at hfixed
    · exact absurd (hlook.trans hfixed.symm) notDirectory
    · exact absurd (hlook.trans hfixed.symm) notDirectory
    · exact absurd (hlook.trans hfixed.symm) notDirectory
    · obtain ⟨d, -, rfl⟩ := Option.map_eq_some_iff.1 hfixed
      exact absurd hlook (notDevice d)
    · cases hfixed

/-- What a write does: nothing to a device, and else it puts a file at the place of the path, which is neither a
directory nor named as one. -/
theorem write_cases (h : s.write base path data = .ok t) : ∃ place, s.locate base path = .ok place ∧
    ((∃ d, s.look? place = some (.device d)) ∧ t = s ∨
      fixed? place = none ∧ s.look? place ≠ some .directory ∧ namesDirectory path = false ∧
        t = s.put place (.file data)) := by
  obtain ⟨place, hplace, h⟩ := of_bind_ok h
  refine ⟨place, hplace, ?_⟩
  cases hlook : s.look? place with
  | none =>
    rw [hlook] at h
    dsimp only at h
    split_ifs at h with hname
    have hfixed : fixed? place = none := fixed?_eq_none (s := s) (by simp [hlook]) (by simp [hlook])
    exact .inr ⟨hfixed, nofun, by simpa using hname, (Except.ok.inj h).symm⟩
  | some f =>
    rw [hlook] at h
    cases f with
    | directory => cases h
    | device d =>
      dsimp only at h
      split_ifs at h
      cases hwrite : d.write data with
      | error e =>
        rw [hwrite] at h
        cases h
      | ok u =>
        rw [hwrite] at h
        exact .inl ⟨⟨d, rfl⟩, (Except.ok.inj h).symm⟩
    | file old =>
      dsimp only at h
      split_ifs at h with hname
      have hfixed : fixed? place = none := fixed?_eq_none (s := s) (by simp [hlook]) (by simp [hlook])
      exact .inr ⟨hfixed, nofun, by simpa using hname, (Except.ok.inj h).symm⟩

theorem read_of_locate (hplace : s.locate base path = .ok place) : s.read base path =
    match s.look? place with
    | none => .error .notFound
    | some .directory => .error .isDirectory
    | some (.device d) => if namesDirectory path then .error .notDirectory else d.read
    | some (.file data) => if namesDirectory path then .error .notDirectory else .ok data := by
  unfold read
  rw [hplace]
  rfl

/-- A file that was written is read as it was written. -/
theorem read_of_write (h : s.write base path data = .ok t) (kept : t.hasDevice base path = false) :
    t.read base path = .ok data := by
  obtain ⟨place, hplace, ⟨⟨d, hdevice⟩, rfl⟩ | ⟨free, notDirectory, hname, rfl⟩⟩ := write_cases h
  · simp [hasDevice, hplace, hdevice] at kept
  · rw [read_of_locate (locate_mono (directoriesIn_put notDirectory) hplace), look?_put_self free]
    simp [hname]

/-- A text that was written, in directories made for it, is read as it was written. -/
theorem readText_of_writeDeep {text : String} (h : s.writeDeep base path text.toUTF8 = .ok t)
    (kept : t.hasDevice base path = false) : t.readText base path = .ok text := by
  obtain ⟨s', -, hwrite⟩ := of_bind_ok h
  have hbytes : String.fromUTF8? text.toUTF8 = some text := dif_pos text.isValidUTF8
  unfold readText
  rw [read_of_write hwrite kept]
  dsimp only [bind, Except.bind]
  rw [hbytes]

end AgentTrial.Store
