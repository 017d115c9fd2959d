import AgentTrial.Fault
import AgentTrial.Host.Provided
import AgentTrial.Host.Report
import AgentTrial.Program.Compile

/-!
# Host — who runs compiled units

A test host takes a submission, runs it and reports; afterwards it cleans up what it left behind.  Both may have
effects of any kind, so a host is given over a monad.
-/

namespace AgentTrial

/-- The units of a program to be run, with the values they get.  Hosts name their files after the identifier. -/
structure Submission where
  id : String
  units : List CompiledUnit
  provided : ProvidedValues
  deriving Inhabited

/-- A host that runs submissions.  A run fails only as a whole; failing cases are part of its report. -/
structure TestHost (m : Type → Type) where
  name : String
  run : Submission → m (Except Fault HostReport)
  cleanUp : Submission → m (Except Fault Unit)

/-- The same host over another monad. -/
def TestHost.lift {m n : Type → Type} (f : ∀ {α}, m α → n α) (h : TestHost m) : TestHost n where
  name := h.name
  run s := f (h.run s)
  cleanUp s := f (h.cleanUp s)

end AgentTrial
