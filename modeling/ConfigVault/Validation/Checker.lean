import ConfigVault.Group
import ConfigVault.Validation.Chain
import ConfigVault.Validation.Scripted
import ConfigVault.Validation.Structure
import ConfigVault.Validation.Tool

/-!
# Checkers

The checks that a vault can be given, and the checker for each word that settings may use: a check of
structure in front of the external tool that knows the format in full.
-/

namespace ConfigVault

/-- A single check. -/
inductive SingleCheck where
  | acceptAll
  /-- The content is a document. -/
  | yaml
  /-- The content has the structure of a file of rules. -/
  | rules
  /-- The content has the structure of a configuration. -/
  | config
  | scripted (check : ScriptedCheck)
  | tool (tool : Tool)

abbrev Checker := CheckTree SingleCheck

namespace SingleCheck

def name : SingleCheck → String
  | acceptAll => "accept_all"
  | yaml => "yaml"
  | rules => "prometheus_rules_structure"
  | config => "prometheus_config_structure"
  | scripted _ => "mock"
  | tool t => t.name

/-- Reads a content as a document for the check of the given name. -/
def document (load : Loader) (check content : String) : Except CheckFailure Value :=
  match load content with
  | .ok v => .ok v
  | .error (.malformed message) => .error (.rejected (.unreadable check message))
  | .error (.escaped e) => .error (.escaped e)

/-- Passes a content whose document passes a test. -/
def byStructure {ε : Type} (load : Loader) (check : String) (test : Value → Except ε Unit)
    (rejection : ε → Rejection) (content : String) : Except CheckFailure String :=
  match document load check content with
  | .error failure => .error failure
  | .ok v =>
    match test v with
    | .ok () => .ok ""
    | .error defect => .error (.rejected (rejection defect))

def run (s : Surroundings) (check : SingleCheck) (content : String) :
    Except CheckFailure String × SingleCheck :=
  match check with
  | acceptAll => (.ok "", acceptAll)
  | yaml => ((document s.load yaml.name content).map fun _ => "", yaml)
  | rules => (byStructure s.load rules.name checkRules .rules content, rules)
  | config => (byStructure s.load config.name checkConfig .config content, config)
  | scripted check =>
    let (verdict, check) := check.run content
    (verdict, scripted check)
  | tool t => (t.run s content, tool t)

end SingleCheck

namespace Checker

def chainName : String := "chain"

def run (s : Surroundings) (checker : Checker) (content : String) :
    Except CheckFailure String × Checker :=
  CheckTree.run (SingleCheck.run s) content checker

/-- The contents that the scripted checks of a checker have seen, check by check from left to
right. -/
def seen (checker : Checker) : List (List String) :=
  checker.leaves.filterMap fun
    | .scripted check => some check.seen.reverse
    | _ => none

end Checker

/-- Where the external tools are and how long they may take. -/
structure ToolSettings where
  promtoolPath : String
  amtoolPath : String
  timeout : Option Float

def ToolSettings.standard : ToolSettings where
  promtoolPath := "/opt/tools/bin/promtool"
  amtoolPath := "/opt/tools/bin/amtool"
  timeout := none

def CheckKind.checker (settings : ToolSettings) : CheckKind → Checker
  | prometheusConfig => .chain [.single .config, promtool ["check", "config"]]
  | prometheusRules => .chain [.single .rules, promtool ["check", "rules"]]
  | alertmanagerConfig =>
    .chain [.single .yaml, external settings.amtoolPath "amtool" ["check-config"]]
  | yaml => .single .yaml
  | none => .single .acceptAll
where
  external (path name : String) (arguments : List String) : Checker :=
    .single (.tool (.make path arguments (some name) (settings.timeout.map .real)
      Tool.standardSuffix))
  promtool (arguments : List String) : Checker :=
    external settings.promtoolPath "promtool" arguments

def checkerFor (settings : ToolSettings) (word : String) : Except Incident Checker :=
  match CheckKind.ofLabel? word with
  | some kind => .ok (kind.checker settings)
  | none =>
    .error (.configuration ("Unknown validator kind: " ++ Text.quoted word) "UNKNOWN_VALIDATOR"
      [("kind", .text word)])

end ConfigVault
