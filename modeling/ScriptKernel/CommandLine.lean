/-
**The command line.**

* `Invocation.parse`: what the arguments ask for: any number of configuration files, of which the last
  counts, the script, and the arguments of the script as they are;
* `CommandLine.run`: what the program prints and the code it ends with: the one the script asked for, one after a
  failure, and otherwise zero.
-/

import ScriptKernel.Config.Layer
import ScriptKernel.Manager

set_option autoImplicit false

namespace ScriptKernel

/-- What the arguments ask for. -/
structure Invocation where
  config : Option String
  script : String
  args : List String
  deriving DecidableEq, Repr

/-- Why arguments ask for nothing. -/
inductive UsageError
  | usage
  | missingFile
  deriving DecidableEq, Repr

/-- The wording of the error. -/
def UsageError.message : UsageError → String
  | .usage => "usage: jskern [--config FILE] <script> [args...]"
  | .missingFile => "--config requires a file argument"

namespace Invocation

/-- Reads arguments, given the configuration file named so far. -/
def parseFrom (config : Option String) : List String → Except UsageError Invocation
  | [] => .error .usage
  | first :: rest =>
    if first = "--config" then
      match rest with
      | [] => .error .missingFile
      | file :: rest => parseFrom (some file) rest
    else if first = "-h" ∨ first = "--help" then .error .usage
    else .ok ⟨config, first, rest⟩

/-- What the arguments ask for. -/
def parse (args : List String) : Except UsageError Invocation := parseFrom none args

end Invocation

namespace CommandLine

/-- What the program leaves: the code it ends with and what it has printed. -/
structure Report where
  code : Nat
  outputs : List Output
  /-- The failure that kept the script from running. -/
  failure : Option String

/-- All that was printed to a stream. -/
def Report.printed (report : Report) (stream : Stream) : String :=
  String.join ((report.outputs.filter fun output => output.stream == stream).map Output.text)

/-- The code the shell sees: of the code a script asked for, the low eight bits. -/
def exitCode : ExitStatus → Nat
  | .exited code => (code % 256).toNat
  | .faulted _ => 1
  | .pending => 0

/-- The code of a program that panics: here, at a variable that is no text. -/
def panicCode : Nat := 101

/-- The configuration an invocation asks for: the file, if one is named, under the environment. -/
def configuration (invocation : Invocation) (settings : Variables) (files : FileSystem) :
    Except KernelError KernelConfig :=
  match invocation.config with
  | some path => do (← KernelConfig.ofFile files path).overlay settings
  | none => KernelConfig.ofEnvironment settings

/-- The variables as texts, if all of them are. -/
def textVariables? : Variables → Option (List (String × String))
  | [] => some []
  | (_, .binary) :: _ => none
  | (name, .text value) :: rest => (textVariables? rest).map fun others => (name, value) :: others

/-- Runs the script of an invocation with a configuration. -/
def runScript (invocation : Invocation) (config : KernelConfig) (settings : List (String × String))
    (files : FileSystem) : Report :=
  let (terminal, terminals) := ({} : Terminals).create
  let manager : Manager := { terminal, config }
  match manager.spawn { terminals } invocation.script invocation.args settings with
  | (.error error, _, _) => ⟨1, [], some error.message⟩
  | (.ok pid, manager, site) =>
    let (_, manager, site) := manager.execute site files pid
    let status := ((manager.get pid).map ScriptProcess.status).getD .pending
    let (_, site) := manager.shutdownAll site
    let outputs := ((site.terminals.log? terminal).map TerminalLog.outputs).getD #[]
    ⟨exitCode status, outputs.toList, none⟩

/-- Runs the program. -/
def run (args : List String) (settings : Variables) (files : FileSystem) : Report :=
  match Invocation.parse args with
  | .error error => ⟨1, [], some error.message⟩
  | .ok invocation =>
    match configuration invocation settings files with
    | .error error => ⟨1, [], some error.message⟩
    | .ok config =>
      match textVariables? settings with
      | none => ⟨panicCode, [], none⟩
      | some settings => runScript invocation config settings files

/-- What the program writes about a failure. -/
def failureLine (message : String) : String := "Error: " ++ message

end CommandLine

end ScriptKernel
