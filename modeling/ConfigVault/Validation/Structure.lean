import ConfigVault.Validation.Rejection

/-!
# Structure of monitoring files

What a file of alerting rules and the configuration of the monitoring server have to contain.  The
configuration keeps a global scrape interval, a list of rule files, and the three reserved jobs at
the head of its jobs; users add their own behind them.
-/

namespace ConfigVault

/-- The names of the reserved jobs, in their order. -/
def reservedJobs : List String :=
  ["prometheus", "PushGateway", "kubernetes-pods"]

def Value.isMap : Value → Bool
  | .map _ => true
  | _ => false

def Value.isText (s : String) : Value → Bool
  | .text t => t = s
  | _ => false

def Value.isNull : Value → Bool
  | .null => true
  | _ => false

/-- Checks the structure of a file of rules. -/
def checkRules (document : Value) : Except RulesDefect Unit :=
  if !document.truthy then .error .empty
  else
    match document.field? "groups" with
    | none => .error .noGroups
    | some groups => if groups.items?.isSome then .ok () else .error .groupsNotList

def jobName (job : Value) : Value :=
  (job.field? "job_name").getD .null

/-- Checks the jobs at the head of a list against expected names, counting from `index`. -/
def checkJobs (index : Nat) : (expected : List String) → List Value → Except ConfigDefect Unit
  | [], _ => .ok ()
  | _ :: _, [] => .error .noScrapeJobs
  | name :: names, job :: jobs =>
    if (jobName job).isText name then checkJobs (index + 1) names jobs
    else .error (.otherJob index name (jobName job))

def checkConfig (document : Value) : Except ConfigDefect Unit :=
  if document.isNull then .error .empty
  else if !document.isMap then .error .notMapping
  else if ((document.field? "global").bind (·.field? "scrape_interval")).isNone then
    .error .noScrapeInterval
  else if (document.field? "rule_files").isNone then .error .noRuleFiles
  else
    match (document.field? "scrape_configs").bind Value.items? with
    | none => .error .noScrapeJobs
    | some jobs =>
      if jobs.length < reservedJobs.length then .error .noScrapeJobs
      else checkJobs 0 reservedJobs jobs

end ConfigVault
