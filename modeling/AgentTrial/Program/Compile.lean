import AgentTrial.Program.Digest
import AgentTrial.Program.Emit
import AgentTrial.Text.Slug

/-!
# Compile — a specification as test programs

Every benchmark case becomes a unit that runs on its own, and all of them together one combined program.  Compiling
fails with the first case whose references do not resolve.
-/

namespace AgentTrial

/-- A test program for one benchmark case. -/
structure CompiledUnit where
  /-- The name of the case. -/
  name : String
  /-- The stem of a file name for the unit. -/
  fileStem : String
  /-- The whole program. -/
  source : String
  deriving Repr, DecidableEq, Inhabited

/-- A compiled specification. -/
structure SourceProgram where
  specName : String
  units : List CompiledUnit
  combined : String
  deriving Repr, DecidableEq, Inhabited

namespace Program

/-- A number with at least three digits. -/
def threeDigits (n : Nat) : List Char :=
  let ds := Nat.toDigits 10 n
  List.replicate (3 - ds.length) '0' ++ ds

/-- The longest slug in a file stem. -/
def maxSlug : Nat := 48

/-- The file stem of the case at an index: its number from one, and its slug. -/
def fileStem (index : Nat) (name : String) : String :=
  let slug := Text.slug maxSlug name
  .ofList (threeDigits (index + 1) ++ '_' :: if slug.isEmpty then ['c', 'a', 's', 'e'] else slug)

/-- The unit of a case. -/
def unitOf (s : Specification) (index : Nat) (name : String) (block : List String) : CompiledUnit :=
  ⟨name, fileStem index name, unlines (lines s [block])⟩

/-- The units of the cases from an index on. -/
def unitsFrom (s : Specification) : Nat → List (Benchmark × List String) → List CompiledUnit
  | _, [] => []
  | index, (b, block) :: rest => unitOf s index b.name block :: unitsFrom s (index + 1) rest

/-- The test blocks of all cases. -/
def blocks (s : Specification) : Except CompileError (List (List String)) := s.benchmarks.mapM (caseBlock s)

/-- Compiles a specification. -/
def compile (s : Specification) : Except CompileError SourceProgram := do
  let bs ← blocks s
  return ⟨s.metadata.name, unitsFrom s 0 (s.benchmarks.zip bs), unlines (lines s bs)⟩

/-- The text whose digest identifies a list of units: their sources with a null character between two of them. -/
def digestText (units : List CompiledUnit) : String := "\x00".intercalate (units.map (·.source))

/-- The digest of a list of units. -/
def digestUnits (units : List CompiledUnit) : String := Digest.ofText (digestText units)

end Program

/-- The digest of a program. -/
def SourceProgram.digest (p : SourceProgram) : String := Program.digestUnits p.units

end AgentTrial
