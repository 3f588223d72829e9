/-
# The program

Reads arguments and environment, and carries out what they ask for.  Serving needs a cluster;
without one the program says so and ends.
-/
import InjectionWebhook.Command.Startup
import InjectionWebhook.WorkloadConfig.Schema

open InjectionWebhook

/-- The environment variables that settings look at. -/
def readEnvironment : IO (Dict String) := do
  let found ← (Command.Setting.all.filterMap (·.variable_)).filterMapM fun name => do
    return (← IO.getEnv name).map (name, ·)
  return .ofList found

/-- Runs the program; the result is its exit code. -/
def main (arguments : List String) : IO UInt32 := do
  match Command.parse arguments (← readEnvironment) with
  | .error m =>
    IO.eprintln m.report
    return 2
  | .ok .version =>
    IO.println ("beacon-operator " ++ scriptVersion)
    return 0
  | .ok .help =>
    for s in Command.Setting.all do
      IO.println s.shown
    return 0
  | .ok .manifest =>
    IO.println Schema.manifest.render
    return 0
  | .ok (.serve _) =>
    IO.eprintln StartError.noCluster.report
    return 1
