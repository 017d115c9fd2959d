import AgentTrial.Proofs.Store.Path
import AgentTrial.Proofs.Store.Write

/-!
# Remove — what a store keeps

Writing a file, making directories and removing a file leave alone all that stands under other names: what is read
there before is read there afterwards.

* `Store.Spares`: a change that leaves alone all that is not named so; `Spares.read` is what it is good for.
* `Store.spares_write`, `Store.spares_makeDirectories`, `Store.spares_remove`: the changes.
* `Store.locate_join`: a file below a directory stands at a place with its own name.
-/

namespace AgentTrial.Store

variable {s t u : Store} {base place q : Location} {path dir name : String} {data : ByteArray} {names : List String}

/-! ## Removing -/

theorem find?_filter (a b : Location) (entries : List (Location × Entry)) :
    find? b (entries.filter fun (l, _) => l ≠ a) = if a = b then none else find? b entries := by
  induction entries with
  | nil => simp [find?]
  | cons p rest ih =>
    obtain ⟨l, f⟩ := p
    by_cases hl : l = a
    · subst hl
      rw [List.filter_cons_of_neg (by simp), ih]
      by_cases hb : l = b <;> simp [find?, hb]
    · rw [List.filter_cons_of_pos (by simpa using hl), find?, ih, find?]
      by_cases hb : l = b
      · subst hb
        simp [Ne.symm hl]
      · simp [hb]

theorem look?_erase (s : Store) (a b : Location) :
    (s.erase a).look? b = if a = b then fixed? b else s.look? b := by
  rw [look?, erase, find?_filter]
  by_cases h : a = b
  · rw [if_pos h, if_pos h, Option.or_none]
  · rw [if_neg h, if_neg h, look?]

theorem directoriesIn_erase (notDirectory : s.look? place ≠ some .directory) : DirectoriesIn s (s.erase place) := by
  intro q hq
  have hne : place ≠ q := by
    rintro rfl
    exact notDirectory hq
  rwa [look?_erase, if_neg hne]

theorem directoriesIn_of_erase : DirectoriesIn (s.erase place) s := by
  intro q hq
  rw [look?_erase] at hq
  split_ifs at hq with h
  · rw [look?, hq]
    rfl
  · exact hq

/-- What a removal does: it takes away what stands at the place of the path, which is no directory. -/
theorem remove_cases (h : s.remove base path = .ok t) : ∃ place, s.locate base path = .ok place ∧
    s.look? place ≠ some .directory ∧ t = s.erase place := by
  obtain ⟨place, hplace, h⟩ := of_bind_ok h
  refine ⟨place, hplace, ?_⟩
  cases hlook : s.look? place with
  | none =>
    rw [hlook] at h
    cases h
  | some f =>
    rw [hlook] at h
    cases f with
    | directory => cases h
    | _ =>
      dsimp only at h
      split_ifs at h
      exact ⟨nofun, (Except.ok.inj h).symm⟩

/-- Where nothing was found, nothing is. -/
theorem look?_of_remove_notFound (h : s.remove base path = .error .notFound) (hplace : s.locate base path = .ok place) :
    s.look? place = none := by
  unfold remove at h
  rw [hplace] at h
  dsimp only [bind, Except.bind] at h
  cases hlook : s.look? place with
  | none => rfl
  | some f =>
    rw [hlook] at h
    cases f with
    | directory => cases h
    | _ =>
      dsimp only at h
      split_ifs at h
      cases h

/-! ## The place of a file -/

/-- What is always there has other names than a file of one's own. -/
theorem fixed?_eq_none_of_last (last : place.getLast? = some name)
    (h : name ∉ "/" :: "dev" :: Device.table.map Prod.fst) : fixed? place = none := by
  simp only [List.mem_cons, not_or] at h
  obtain ⟨hroot, hdev, hdevice⟩ := h
  unfold fixed?
  split
  · cases last
  · exact absurd (Option.some.inj last).symm hroot
  · exact absurd (Option.some.inj last).symm hdev
  · rename_i other
    obtain rfl : other = name := Option.some.inj last
    have hnone : Device.table.lookup other = none := by
      refine List.lookup_eq_none_iff.2 fun p hp => ?_
      have hne : other ≠ p.1 := by
        rintro rfl
        exact hdevice (List.mem_map_of_mem hp)
      simpa using hne
    rw [hnone, Option.map_none]
  · rfl

theorem follow_concat {above : List String} (h : s.follow q (above ++ [name]) = .ok place) :
    ∃ p, place = descend p name := by
  induction above generalizing q with
  | nil =>
    rw [List.nil_append, follow] at h
    split at h
    · cases h
    · exact ⟨q, (Except.ok.inj h).symm⟩
    · cases h
  | cons part above ih =>
    rw [List.cons_append, follow] at h
    split at h
    · cases h
    · exact ih h
    · cases h

/-- A file below a directory stands at a place with its own name, wherever the directory is. -/
theorem locate_join (isName : Path.IsName name) (h : s.locate base (Path.join dir name) = .ok place) :
    place.getLast? = some name := by
  obtain ⟨above, hparts⟩ := Path.parts_join dir isName
  unfold locate at h
  dsimp only at h
  rw [hparts] at h
  split_ifs at h
  all_goals
    obtain ⟨p, rfl⟩ := follow_concat h
    have hup : (name == "..") = false := by simp [isName.2.2.2]
    rw [descend, hup, if_neg Bool.false_ne_true]
    exact List.getLast?_concat

/-- Two paths that are not the same, and that lead to different places wherever they are seen from. -/
structure Apart (a b : String) : Prop where
  ne : a ≠ b
  places : ∀ (s t : Store) base base' p q, s.locate base a = .ok p → t.locate base' b = .ok q → p ≠ q

/-- Files of different names are apart, whatever directories they are in. -/
theorem apart_join {other : String} (isName : Path.IsName name) (isName' : Path.IsName other) (h : name ≠ other)
    (dir dir' : String) : Apart (Path.join dir name) (Path.join dir' other) := by
  refine ⟨fun heq => h ?_, fun s t base base' p q hp hq heq => h ?_⟩
  · have hlast := Path.fileName?_join dir isName
    rw [heq, Path.fileName?_join dir' isName'] at hlast
    exact (Option.some.inj hlast).symm
  · have hlast := locate_join isName hp
    rw [heq, locate_join isName' hq] at hlast
    exact (Option.some.inj hlast).symm

/-! ## What is left alone -/

/-- Is this the path of a file with one of these names? -/
def Named (names : List String) (path : String) : Prop :=
  ∃ dir, ∃ name ∈ names, Path.IsName name ∧ path = Path.join dir name

theorem Named.last (named : Named names path) (h : s.locate base path = .ok place) :
    ∃ name ∈ names, place.getLast? = some name := by
  obtain ⟨dir, name, hmem, isName, rfl⟩ := named
  exact ⟨name, hmem, locate_join isName h⟩

/-- A change that leaves alone the directories, and all that stands at a place with none of these names. -/
structure Spares (names : List String) (s t : Store) : Prop where
  directories : DirectoriesIn s t
  others : ∀ q, s.look? q ≠ none → (∀ name ∈ names, q.getLast? ≠ some name) → t.look? q = s.look? q

namespace Spares

theorem refl (names : List String) (s : Store) : Spares names s s := ⟨fun _ h => h, fun _ _ _ => rfl⟩

theorem trans (h : Spares names s t) (h' : Spares names t u) : Spares names s u := by
  refine ⟨h.directories.trans h'.directories, fun q hq hnames => ?_⟩
  have hfirst := h.others q hq hnames
  rw [h'.others q (by rwa [hfirst]) hnames, hfirst]

theorem mono {more : List String} (h : Spares names s t) (sub : ∀ name ∈ names, name ∈ more) : Spares more s t :=
  ⟨h.directories, fun q hq hnames => h.others q hq fun name hname => hnames name (sub name hname)⟩

/-- Everything at the place of a file with another name is as it was. -/
theorem look? (h : Spares names s t) (isName : Path.IsName name) (other : name ∉ names)
    (hplace : s.locate base (Path.join dir name) = .ok place) (found : s.look? place ≠ none) :
    t.locate base (Path.join dir name) = .ok place ∧ t.look? place = s.look? place := by
  refine ⟨locate_mono h.directories hplace, h.others place found fun other' hother hlast => other ?_⟩
  rw [locate_join isName hplace] at hlast
  rwa [Option.some.inj hlast]

/-- A device with another name stays such. -/
theorem hasDevice (h : Spares names s t) (isName : Path.IsName name) (other : name ∉ names)
    (device : s.hasDevice base (Path.join dir name) = true) : t.hasDevice base (Path.join dir name) = true := by
  unfold Store.hasDevice at device
  split at device
  · cases device
  · rename_i place hplace
    split at device
    · rename_i hdevice
      obtain ⟨hplace', hlook⟩ := h.look? isName other hplace (by rw [hdevice]; nofun)
      unfold Store.hasDevice
      rw [hplace']
      dsimp only
      rw [hlook, hdevice]
    · cases device

/-- What is read from a file with another name is read from it afterwards. -/
theorem read (h : Spares names s t) (isName : Path.IsName name) (other : name ∉ names)
    (hread : s.read base (Path.join dir name) = .ok data) : t.read base (Path.join dir name) = .ok data := by
  obtain ⟨place, hplace, -⟩ := of_bind_ok hread
  rw [read_of_locate hplace] at hread
  have found : s.look? place ≠ none := by
    intro hnone
    rw [hnone] at hread
    cases hread
  obtain ⟨hplace', hlook⟩ := h.look? isName other hplace found
  rw [read_of_locate hplace', hlook]
  exact hread

end Spares

/-- Writing a file changes nothing but the file. -/
theorem spares_write (named : Named names path) (h : s.write base path data = .ok t) : Spares names s t := by
  obtain ⟨place, hplace, ⟨-, rfl⟩ | ⟨-, notDirectory, -, rfl⟩⟩ := write_cases h
  · exact .refl names t
  · obtain ⟨name, hmem, hlast⟩ := named.last hplace
    refine ⟨directoriesIn_put notDirectory, fun q _ hnames => look?_put_ne ?_⟩
    rintro rfl
    exact hnames name hmem hlast

/-- Removing a file changes nothing but the file. -/
theorem spares_remove (named : Named names path) (h : s.remove base path = .ok t) : Spares names s t := by
  obtain ⟨place, hplace, notDirectory, rfl⟩ := remove_cases h
  obtain ⟨name, hmem, hlast⟩ := named.last hplace
  refine ⟨directoriesIn_erase notDirectory, fun q _ hnames => ?_⟩
  have hne : place ≠ q := by
    rintro rfl
    exact hnames name hmem hlast
  rw [look?_erase, if_neg hne]

theorem spares_makeAlong {parts : List String} (h : s.makeAlong place parts = .ok t) : Spares [] s t := by
  induction parts generalizing s place with
  | nil =>
    rw [← Except.ok.inj h]
    exact .refl [] s
  | cons part parts ih =>
    rw [makeAlong] at h
    cases hnext : s.look? (descend place part) with
    | none =>
      rw [hnext] at h
      have made : Spares [] s (s.put (descend place part) .directory) := by
        refine ⟨directoriesIn_put (by simp [hnext]), fun q hq _ => look?_put_ne ?_⟩
        rintro rfl
        exact hq hnext
      exact made.trans (ih h)
    | some f =>
      rw [hnext] at h
      cases f with
      | directory => exact ih h
      | _ => cases h

/-- Making directories changes nothing that is there. -/
theorem spares_makeDirectories (h : s.makeDirectories base path = .ok t) : Spares [] s t := by
  unfold makeDirectories at h
  dsimp only at h
  split_ifs at h
  exact spares_makeAlong h
  exact spares_makeAlong h

end AgentTrial.Store
