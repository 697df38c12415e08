import ConfigVault.Incident

/-!
# Rejections

Why a check refuses the content of an artifact.  Every rejection carries diagnostics for the author
of the content, which are empty where the message says it all.
-/

namespace ConfigVault

/-- A section or job that a configuration of the monitoring server has to keep. -/
inductive ConfigDefect where
  | empty
  | notMapping
  | noScrapeInterval
  | noRuleFiles
  | noScrapeJobs
  /-- At `index` stands another job name than the expected one; null if there is none. -/
  | otherJob (index : Nat) (expected : String) (found : Value)

/-- What a file of alerting rules lacks. -/
inductive RulesDefect where
  | empty
  | noGroups
  | groupsNotList
  deriving DecidableEq, Repr

/-- Why a tool gave no verdict or a bad one. -/
inductive ToolDefect where
  /-- The system could not start the tool. -/
  | unavailable (command : List String) (reason : String)
  /-- The tool was stopped at the end of the time that it was given. -/
  | outOfTime (command : List String) (limit : String)
  /-- The tool ended with another status than zero. -/
  | refused (status : Int) (output : String)
  deriving DecidableEq, Repr

/-- Why a check refuses a content. -/
inductive Rejection where
  /-- The content is no document. -/
  | unreadable (check message : String)
  | rules (defect : RulesDefect)
  | config (defect : ConfigDefect)
  | tool (name : String) (defect : ToolDefect)
  /-- A scripted check was told to refuse. -/
  | scripted (diagnostics : String)

/-- A check that does not accept a content refuses it, or is cut short by a document whose values
cannot be built. -/
inductive CheckFailure where
  | rejected (rejection : Rejection)
  | escaped (escape : Escape)

/-- What the author of a configuration is told to do. -/
def appendHint : String :=
  " Please do a get of the existing Prometheus config file and append to it."

namespace ConfigDefect

/-- The sentence about a missing section. -/
def message : ConfigDefect → String
  | empty => "Invalid Prometheus YAML: it is empty."
  | notMapping => "Invalid Prometheus YAML: the top level must be a mapping."
  | noScrapeInterval =>
    "Invalid Prometheus YAML: it does not have the mandatory name global.scrape_interval."
  | noRuleFiles => "Prometheus YAML does not have rule_files defined."
  | noScrapeJobs => "Prometheus YAML does not have scrape_configs jobs defined."
  | otherJob index expected _ =>
    "Prometheus YAML does not have job scrape_configs[" ++ toString index ++ "].job_name=" ++
      expected ++ " defined."

/-- The code for a missing section. -/
def code : ConfigDefect → String
  | empty => "CONFIG_EMPTY"
  | notMapping => "CONFIG_NOT_MAPPING"
  | noScrapeInterval => "SCRAPE_INTERVAL_NOT_DEFINED"
  | noRuleFiles => "RULE_FILES_NOT_DEFINED"
  | noScrapeJobs => "SCRAPE_JOBS_NOT_DEFINED"
  | otherJob _ _ _ => "RESERVED_JOB_NOT_DEFINED"

/-- What is told of a job that is not the expected one. -/
def details : ConfigDefect → Details
  | otherJob index expected found =>
    [("index", .int index), ("expected", .text expected), ("found", found)]
  | _ => []

end ConfigDefect

namespace RulesDefect

/-- The sentence about a file of rules. -/
def message : RulesDefect → String
  | empty => "Invalid Rule: it is empty"
  | noGroups => "Invalid Rule: does not have root element groups: defined"
  | groupsNotList => "Invalid Rule: does not have even a single rule group defined"

def code : RulesDefect → String
  | empty => "RULE_EMPTY"
  | noGroups => "RULE_GROUPS_NOT_DEFINED"
  | groupsNotList => "RULE_NO_GROUP"

end RulesDefect

namespace Rejection

/-- The sentence about a rejection. -/
def message : Rejection → String
  | unreadable _ message => "Unable to parse the provided YAML: " ++ message
  | rules defect => defect.message
  | config defect => defect.message ++ appendHint
  | tool name (.unavailable _ reason) => "Unable to run " ++ name ++ ": " ++ reason
  | tool name (.outOfTime _ limit) => name ++ " did not finish within " ++ limit ++ "s"
  | tool name (.refused status _) =>
    "Failed to validate with " ++ name ++ ": exit status " ++ toString status
  | scripted _ => "Mock validator rejected the content"

def code : Rejection → String
  | unreadable _ _ => "INVALID_YAML"
  | rules defect => defect.code
  | config defect => defect.code
  | tool _ (.unavailable _ _) => "VALIDATOR_UNAVAILABLE"
  | tool _ (.outOfTime _ _) => "VALIDATOR_TIMEOUT"
  | tool _ (.refused _ _) => IncidentKind.validation.code
  | scripted _ => IncidentKind.validation.code

def diagnostics : Rejection → String
  | unreadable _ message => message
  | tool _ (.refused _ output) => output
  | scripted diagnostics => diagnostics
  | _ => ""

/-- What is told of a rejection besides its diagnostics. -/
def details : Rejection → Details
  | unreadable check _ => [("validator", .text check)]
  | config defect => defect.details
  | tool _ (.unavailable command _) => [("command", .list (command.map .text))]
  | tool _ (.outOfTime command _) => [("command", .list (command.map .text))]
  | tool _ (.refused status _) => [("returncode", .int status)]
  | _ => []

def incident (r : Rejection) : Incident :=
  .make .validation r.message r.code [("diagnostics", .text r.diagnostics)] r.details

end Rejection

end ConfigVault
