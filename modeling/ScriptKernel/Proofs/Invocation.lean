/-
**What the arguments of a command ask for.**

Arguments begin with any number of configuration files, each behind its option; what comes behind them decides.

* `Invocation.named`: configuration files as they stand among arguments;
* `Invocation.Tail`: what can come behind them, and what is made of it: nothing, an option without its file, a
  question for help, or a script with its own arguments;
* `exists_tail`: **all arguments are configuration files with such a tail**; `parse_named`: and that is how they are
  read;
* `Invocation.Asks`: what arguments ask for that name a script;
* `parse_decides`: **just these are accepted, as what they ask for**, and all others are refused.
-/

import Mathlib.Data.List.Induction
import ScriptKernel.CommandLine

set_option autoImplicit false

namespace ScriptKernel.Invocation

/-- Configuration files as they stand among arguments. -/
def named (files : List String) : List String := files.flatMap fun file => ["--config", file]

/-- The arguments that are no script. -/
def options : List String := ["--config", "-h", "--help"]

/-- **What comes behind the configuration files**, and what is made of it. -/
inductive Tail : List String → Except UsageError (String × List String) → Prop
  | nothing : Tail [] (.error .usage)
  | fileless : Tail ["--config"] (.error .missingFile)
  | help {flag : String} {rest : List String} (asked : flag = "-h" ∨ flag = "--help") :
      Tail (flag :: rest) (.error .usage)
  | script {script : String} {rest : List String} (plain : script ∉ options) :
      Tail (script :: rest) (.ok (script, rest))

/-- What does not begin with the option is a question for help or names the script. -/
theorem Tail.of_other {first : String} (other : first ≠ "--config") (rest : List String) :
    ∃ made, Tail (first :: rest) made := by
  by_cases help : first = "-h" ∨ first = "--help"
  · exact ⟨_, .help help⟩
  · exact ⟨_, .script (by simp [options, other, help])⟩

/-- **All arguments are configuration files with a tail.** -/
theorem exists_tail (args : List String) :
    ∃ files tail made, args = named files ++ tail ∧ Tail tail made := by
  induction args using List.twoStepInduction with
  | nil => exact ⟨[], [], _, rfl, .nothing⟩
  | singleton first =>
    by_cases option : first = "--config"
    · subst option
      exact ⟨[], _, _, rfl, .fileless⟩
    obtain ⟨made, ends⟩ := Tail.of_other option []
    exact ⟨[], _, made, rfl, ends⟩
  | cons_cons first second rest ih _ =>
    by_cases option : first = "--config"
    · subst option
      obtain ⟨files, tail, made, rfl, ends⟩ := ih
      exact ⟨second :: files, tail, made, rfl, ends⟩
    obtain ⟨made, ends⟩ := Tail.of_other option (second :: rest)
    exact ⟨[], _, made, rfl, ends⟩

/-- Configuration files are read one by one, and the last one counts. -/
theorem parseFrom_named (config : Option String) (files tail : List String) :
    parseFrom config (named files ++ tail) = parseFrom (files.getLast?.or config) tail := by
  induction files generalizing config with
  | nil => rfl
  | cons file rest ih =>
    have read : parseFrom config (named (file :: rest) ++ tail) =
        parseFrom (some file) (named rest ++ tail) := rfl
    rw [read, ih]
    cases rest with
    | nil => rfl
    | cons next others => simp [List.getLast?_cons]

/-- What is no configuration file asks for help or is the script. -/
theorem parseFrom_other (config : Option String) {first : String} (other : first ≠ "--config")
    (rest : List String) : parseFrom config (first :: rest) =
      if first = "-h" ∨ first = "--help" then .error .usage else .ok ⟨config, first, rest⟩ := by
  rw [parseFrom.eq_def]
  exact if_neg other

/-- A tail is read as what is made of it. -/
theorem parseFrom_tail {tail : List String} {made : Except UsageError (String × List String)}
    (ends : Tail tail made) (config : Option String) :
    parseFrom config tail = made.map fun found => ⟨config, found.1, found.2⟩ := by
  cases ends with
  | nothing => rfl
  | fileless => rfl
  | help asked =>
    rw [parseFrom_other config (by rcases asked with rfl | rfl <;> decide), if_pos asked]
    rfl
  | script plain =>
    simp only [options, List.mem_cons, List.not_mem_nil, or_false, not_or] at plain
    rw [parseFrom_other config plain.1, if_neg (not_or.mpr plain.2)]
    rfl

/-- **Arguments are read as their tail, with the last of their configuration files.** -/
theorem parse_named {files tail : List String} {made : Except UsageError (String × List String)}
    (ends : Tail tail made) :
    parse (named files ++ tail) = made.map fun found => ⟨files.getLast?, found.1, found.2⟩ := by
  rw [parse, parseFrom_named, parseFrom_tail ends, Option.or_none]

/-- **What arguments ask for that name a script**: the last of the configuration files, the script, and all that comes
behind it as it is. -/
def Asks (args : List String) (invocation : Invocation) : Prop :=
  ∃ files script rest, args = named files ++ script :: rest ∧ script ∉ options ∧
    invocation = ⟨files.getLast?, script, rest⟩

/-- **How arguments are read.** -/
structure Decided (args : List String) : Prop where
  /-- They are accepted exactly if they name a script, as what they ask for. -/
  accepted : ∀ invocation, parse args = .ok invocation ↔ Asks args invocation
  /-- All others are refused: … -/
  refused : (∃ error, parse args = .error error) ↔ ∀ invocation, ¬ Asks args invocation
  /-- … for want of a file, if the last of them is an option that needs one, … -/
  fileless : parse args = .error .missingFile ↔ ∃ files, args = named files ++ ["--config"]
  /-- … or else because no script is named. -/
  usage : parse args = .error .usage ↔ ∃ files tail, args = named files ++ tail ∧
    ∀ first ∈ tail.head?, first = "-h" ∨ first = "--help"

/-- **Arguments are accepted exactly if they name a script**, behind any number of configuration files and before any
further arguments. -/
theorem parse_decides (args : List String) : Decided args := by
  obtain ⟨files, tail, made, rfl, ends⟩ := exists_tail args
  have read := @parse_named files tail made ends
  have accepted (invocation : Invocation) :
      parse (named files ++ tail) = .ok invocation ↔ Asks (named files ++ tail) invocation := by
    constructor
    · intro parsed
      rw [read] at parsed
      cases ends with
      | nothing | fileless | help => cases parsed
      | script plain =>
        cases parsed
        exact ⟨files, _, _, rfl, plain, rfl⟩
    · rintro ⟨others, script, rest, same, plain, rfl⟩
      rw [same]
      exact parse_named (.script plain)
  refine ⟨accepted, ?_, ?_, ?_⟩
  · constructor
    · rintro ⟨error, failed⟩ invocation asks
      cases failed.symm.trans ((accepted invocation).mpr asks)
    · intro none
      cases parsed : parse (named files ++ tail) with
      | error error => exact ⟨error, rfl⟩
      | ok invocation => exact absurd ((accepted invocation).mp parsed) (none invocation)
  · constructor
    · intro failed
      rw [read] at failed
      cases ends with
      | nothing | help | script => cases failed
      | fileless => exact ⟨files, rfl⟩
    · rintro ⟨others, same⟩
      rw [same]
      exact parse_named .fileless
  · constructor
    · intro failed
      rw [read] at failed
      cases ends with
      | fileless | script => cases failed
      | nothing => exact ⟨files, [], rfl, nofun⟩
      | @help flag rest asked =>
        refine ⟨files, flag :: rest, rfl, fun first here => ?_⟩
        cases here
        exact asked
    · rintro ⟨others, rest, same, helps⟩
      rw [same]
      cases rest with
      | nil => exact parse_named .nothing
      | cons flag rest => exact parse_named (.help (helps flag rfl))

/-- A file may look like an option, and so may what comes behind the script. -/
example : parse ["--config", "--help", "--config", "k.json", "run.js", "--config", "-h"] =
    .ok ⟨some "k.json", "run.js", ["--config", "-h"]⟩ := by rfl

end ScriptKernel.Invocation
