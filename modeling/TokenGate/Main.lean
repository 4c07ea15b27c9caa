import TokenGate.Launch.CommandLine
import TokenGate.Settings.Resolution

/-! # Checking a launch

The program reads the decisions of an operator from its command line and its environment. It prints
the address to listen at and the settings of authentication, and tells whether they can be used. -/

namespace TokenGate

/-- The lines about a launch, and the exit code. -/
def Launch.report (l : Launch) : String × UInt32 :=
  let lines := l.address.write ++ "\n" ++ l.settings.write ++ "\n"
  match l.settings.validator with
  | .ok _ => (lines, 0)
  | .error e => (lines ++ e.message ++ "\n", 1)

end TokenGate

def main (arguments : List String) : IO UInt32 := do
  let environment ← TokenGate.Launch.Flag.all.mapM fun f => do
    return (f.environmentName, ← IO.getEnv f.environmentName)
  match TokenGate.Launch.ofCommandLine arguments fun name => (environment.lookup name).join with
  | .ok l =>
    let (text, code) := l.report
    IO.print text
    return code
  | .error r =>
    if r.exitCode == 0 then IO.print r.text else IO.eprint r.text
    return r.exitCode.toUInt32
