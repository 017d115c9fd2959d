import AgentTrial.Store.Path

/-!
# Store — files and directories

A store maps locations to files and directories.  A location is the list of names that leads to it from the working
directory, or from the root when the first of them is a slash.  Every operation either takes effect as a whole or
fails and leaves the store as it was.

* `look?_put`: what a location holds after an entry was put somewhere.
-/

namespace AgentTrial

/-- Why an operation on files failed. -/
inductive StoreError
  | notFound
  | alreadyExists
  | notDirectory
  | isDirectory
  | nameTooLong
  /-- The name has a null character. -/
  | nullInName
  /-- The file is no text. -/
  | notText
  | noDevice
  | noSpace
  /-- The file has no end. -/
  | outOfMemory
  deriving Repr, DecidableEq

/-- The words for a failure. -/
def StoreError.reason : StoreError → String
  | notFound => "No such file or directory"
  | alreadyExists => "File exists"
  | notDirectory => "Not a directory"
  | isDirectory => "Is a directory"
  | nameTooLong => "File name too long"
  | nullInName => "file name contained an unexpected NUL byte"
  | notText => "stream did not contain valid UTF-8"
  | noDevice => "No such device or address"
  | noSpace => "No space left on device"
  | outOfMemory => "out of memory"

/-- The number of a failure that the system reports. -/
def StoreError.code? : StoreError → Option Nat
  | notFound => some 2
  | alreadyExists => some 17
  | notDirectory => some 20
  | isDirectory => some 21
  | nameTooLong => some 36
  | nullInName => none
  | notText => none
  | noDevice => some 6
  | noSpace => some 28
  | outOfMemory => none

/-- The sentence for a failure: its words, and its number if it has one. -/
def StoreError.message (e : StoreError) : String :=
  match e.code? with
  | some n => e.reason ++ " (os error " ++ toString n ++ ")"
  | none => e.reason

/-- A place in a store. -/
abbrev Location := List String

/-- A file of the system.  It keeps nothing of what is written to it. -/
inductive Device
  /-- It takes everything, and it is empty. -/
  | sink
  /-- It takes everything, and it has no end. -/
  | endless
  /-- It has no room, and no end. -/
  | full
  /-- What it stands for belongs to another program. -/
  | terminal
  deriving Repr, DecidableEq

namespace Device

/-- The files in the device directory. -/
def table : List (String × Device) :=
  [("null", sink), ("zero", endless), ("random", endless), ("urandom", endless), ("full", full), ("tty", terminal),
    ("console", terminal), ("stdin", terminal), ("stdout", terminal), ("stderr", terminal)]

/-- What is read. -/
def read : Device → Except StoreError ByteArray
  | sink => .ok .empty
  | endless | full => .error .outOfMemory
  | terminal => .error .noDevice

/-- Does it take what is written? -/
def write (data : ByteArray) : Device → Except StoreError Unit
  | sink | endless => .ok ()
  | full => if data.isEmpty then .ok () else .error .noSpace
  | terminal => .error .noDevice

end Device

/-- What a place holds. -/
inductive Entry
  | file (data : ByteArray)
  | directory
  | device (d : Device)
  deriving Inhabited

/-- Is this a directory? -/
def Entry.isDirectory : Entry → Bool
  | directory => true
  | _ => false

/-- Files and directories.  The working directory, the root and the devices in their directory are always there. -/
structure Store where
  entries : List (Location × Entry)
  deriving Inhabited

namespace Store

/-- The store without files. -/
def empty : Store := ⟨[]⟩

/-- What is always there. -/
def fixed? : Location → Option Entry
  | [] => some .directory
  | ["/"] => some .directory
  | ["/", "dev"] => some .directory
  | ["/", "dev", name] => (Device.table.lookup name).map .device
  | _ => none

/-- The first entry of a location in a list. -/
def find? (place : Location) : List (Location × Entry) → Option Entry
  | [] => none
  | (l, e) :: rest => if l = place then some e else find? place rest

/-- What a location holds. -/
def look? (s : Store) (place : Location) : Option Entry := (fixed? place).or (find? place s.entries)

/-- The list with the entry of a location set. -/
def putIn (place : Location) (e : Entry) : List (Location × Entry) → List (Location × Entry)
  | [] => [(place, e)]
  | (l, f) :: rest => if l = place then (place, e) :: rest else (l, f) :: putIn place e rest

/-- Sets the entry of a location. -/
def put (s : Store) (place : Location) (e : Entry) : Store := ⟨putIn place e s.entries⟩

/-- Removes the entry of a location. -/
def erase (s : Store) (place : Location) : Store := ⟨s.entries.filter fun (l, _) => l ≠ place⟩

theorem find?_putIn (a b : Location) (e : Entry) (entries : List (Location × Entry)) :
    find? b (putIn a e entries) = if a = b then some e else find? b entries := by
  induction entries with
  | nil => rfl
  | cons p rest ih =>
    obtain ⟨l, f⟩ := p
    unfold putIn
    split
    · rename_i h
      subst h
      by_cases hb : l = b <;> simp [find?, hb]
    · rename_i h
      simp only [find?, ih]
      by_cases hl : l = b
      · subst hl
        simp [Ne.symm h]
      · simp [hl]

theorem look?_put (s : Store) (a b : Location) (e : Entry) :
    (s.put a e).look? b = (fixed? b).or (if a = b then some e else find? b s.entries) := by
  simp [look?, put, find?_putIn]

/-- The location that a name leads to from a location. -/
def descend (place : Location) (name : String) : Location :=
  if name == ".." then if place == ["/"] then place else place.dropLast else place ++ [name]

/-- Follows names from a location; all but the last have to lead to directories. -/
def follow (s : Store) (place : Location) : List String → Except StoreError Location
  | [] => .ok place
  | name :: names =>
    match s.look? place with
    | none => .error .notFound
    | some .directory => follow s (descend place name) names
    | some _ => .error .notDirectory

/-- Does a path name a directory by its form? -/
def namesDirectory (path : String) : Bool :=
  match path.toList.reverse with
  | '/' :: _ => true
  | '.' :: '/' :: _ => true
  | _ => false

/-- The longest name in bytes. -/
def maxName : Nat := 255

/-- The location of a path, seen from a directory. -/
def locate (s : Store) (base : Location) (path : String) : Except StoreError Location :=
  if path.toList.contains '\x00' then .error .nullInName
  else if path.isEmpty then .error .notFound
  else
    let names := Path.parts path
    if names.any fun n => maxName < n.utf8ByteSize then .error .nameTooLong
    else s.follow (if Path.isAbsolute path then ["/"] else base) names

/-- Reads the bytes of a file. -/
def read (s : Store) (base : Location) (path : String) : Except StoreError ByteArray := do
  match s.look? (← s.locate base path) with
  | none => .error .notFound
  | some .directory => .error .isDirectory
  | some (.device d) => if namesDirectory path then .error .notDirectory else d.read
  | some (.file data) => if namesDirectory path then .error .notDirectory else .ok data

/-- Reads the text of a file. -/
def readText (s : Store) (base : Location) (path : String) : Except StoreError String := do
  match String.fromUTF8? (← s.read base path) with
  | some text => .ok text
  | none => .error .notText

/-- Writes a file, in place of one that is there. -/
def write (s : Store) (base : Location) (path : String) (data : ByteArray) : Except StoreError Store := do
  let place ← s.locate base path
  match s.look? place with
  | none => if namesDirectory path then .error .isDirectory else .ok (s.put place (.file data))
  | some .directory => .error .isDirectory
  | some (.device d) => if namesDirectory path then .error .isDirectory else (d.write data).map fun _ => s
  | some (.file _) => if namesDirectory path then .error .notDirectory else .ok (s.put place (.file data))

/-- Is there something at a path? -/
def has (s : Store) (base : Location) (path : String) : Bool :=
  match s.locate base path with
  | .error _ => false
  | .ok place =>
    match s.look? place with
    | none => false
    | some .directory => true
    | some _ => !namesDirectory path

/-- Is there a directory at a path? -/
def hasDirectory (s : Store) (base : Location) (path : String) : Bool :=
  match s.locate base path with
  | .error _ => false
  | .ok place => (s.look? place).any Entry.isDirectory

/-- Is there a file at a path? -/
def hasFile (s : Store) (base : Location) (path : String) : Bool :=
  match s.locate base path with
  | .error _ => false
  | .ok place =>
    match s.look? place with
    | some (.file _) => !namesDirectory path
    | _ => false

/-- Makes one directory. -/
def makeDirectory (s : Store) (base : Location) (path : String) : Except StoreError Store := do
  let place ← s.locate base path
  match s.look? place with
  | none => .ok (s.put place .directory)
  | some _ => .error .alreadyExists

/-- Makes the directories that names lead to, where they are missing. -/
def makeAlong (s : Store) (place : Location) : List String → Except StoreError Store
  | [] => .ok s
  | name :: names =>
    let next := descend place name
    match s.look? next with
    | none => makeAlong (s.put next .directory) next names
    | some .directory => makeAlong s next names
    | some _ => .error (if names.isEmpty then .alreadyExists else .notDirectory)

/-- Makes a directory and those above it; the empty path is the working directory. -/
def makeDirectories (s : Store) (base : Location) (path : String) : Except StoreError Store :=
  if path.toList.contains '\x00' then .error .nullInName
  else
    let names := Path.parts path
    if names.any fun n => maxName < n.utf8ByteSize then .error .nameTooLong
    else s.makeAlong (if Path.isAbsolute path then ["/"] else base) names

/-- Removes a file. -/
def remove (s : Store) (base : Location) (path : String) : Except StoreError Store := do
  let place ← s.locate base path
  match s.look? place with
  | none => .error .notFound
  | some .directory => .error .isDirectory
  | some _ => if namesDirectory path then .error .notDirectory else .ok (s.erase place)

/-- The names in a directory. -/
def names (s : Store) (place : Location) : List String :=
  s.entries.filterMap fun (l, _) => if l ≠ [] ∧ l.dropLast = place then l.getLast? else none

/-- The path of a location. -/
def pathOf : Location → String
  | "/" :: names => "/" ++ "/".intercalate names
  | names => "/".intercalate names

/-- The files with their paths, in the order of the paths. -/
def files (s : Store) : List (String × ByteArray) :=
  let found := s.entries.filterMap fun (l, e) =>
    match e with
    | .file data => some (pathOf l, data)
    | _ => none
  found.mergeSort fun a b => a.1 ≤ b.1

/-- Writes a file after making the directories above it. -/
def writeDeep (s : Store) (base : Location) (path : String) (data : ByteArray) : Except StoreError Store := do
  (← s.makeDirectories base (Path.parent path)).write base path data

end Store

end AgentTrial
