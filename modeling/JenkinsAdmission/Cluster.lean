import JenkinsAdmission.Secret.Api

/-!
# Clusters

The way to a cluster leads through its configuration. Inside a pod there is one configuration.
Elsewhere there are **contexts**, of which one is current, and a person may be asked for another
one. `Surroundings` says how each of these steps turns out, and `Cluster.connect` takes them: at
most one listing, one question and one loading, in this order, and none after a failure.
-/

namespace JenkinsAdmission

/-- The contexts of a configuration. -/
structure Contexts where
  /-- the names to choose from -/
  names : List Text
  /-- the name of the current one, whatever stands there -/
  current : Value

/-- How the steps towards a cluster turn out. -/
structure Surroundings where
  /-- the contexts, or why they cannot be listed -/
  contexts : Except Text Contexts
  /-- the answer of a person, if there is one -/
  choice : Option Text
  /-- why no context can be loaded -/
  contextFailure : Option Text
  /-- why the configuration of a pod cannot be loaded -/
  podFailure : Option Text
  /-- the API that is reached in the end -/
  api : Api

/-- A cluster as it was reached. -/
structure Cluster where
  /-- the name of the context -/
  context : Text
  deriving DecidableEq

/-- Why a cluster is not reached. -/
inductive ClusterFault
  /-- the configuration of the pod cannot be loaded -/
  | podConfiguration (detail : Text)
  /-- the contexts cannot be listed, or the one in question cannot be loaded -/
  | contextConfiguration (detail : Text)
  /-- nobody chose a context -/
  | cancelled
  /-- the run broke down -/
  | broken (cause : Breakdown)
  deriving DecidableEq

instance : BreaksDown ClusterFault := ⟨.broken⟩

/-- The wording of a fault. Cancelling and breaking down have none. -/
def ClusterFault.message? : ClusterFault → Option Text
  | podConfiguration detail => some ("Failed to load in-cluster configuration: " ++ detail)
  | contextConfiguration detail => some ("Invalid or missing kubeconfig: " ++ detail)
  | cancelled => none
  | broken _ => none

namespace Surroundings

/-- Surroundings without any configuration. -/
def bare : Surroundings where
  contexts := .error "no kubeconfig"
  choice := none
  contextFailure := none
  podFailure := some "Service host/port is not set."
  api := fun _ => .unreachable "no configuration"

/-- List the contexts. -/
def listContexts (s : Surroundings) : Run ClusterFault Contexts := do
  Run.log (.called .listContexts)
  Run.ofExcept (s.contexts.mapError .contextConfiguration)

/-- The question for a context. -/
def question (c : Contexts) : Prompt where
  message := "Select context to validate against"
  choices := c.names
  pointer := "❯ "
  mark := "? "

variable [Platform]

/-- Ask for a context. -/
def askContext (s : Surroundings) (c : Contexts) : Run ClusterFault Text := do
  Run.log (.called (.ask (question c)))
  match s.choice with
  | some name => pure name
  | none =>
    Run.say .warning "Context selection cancelled."
    Run.fail .cancelled

/-- The name of the current context. -/
def currentContext (c : Contexts) : Run ClusterFault Text :=
  Run.ofExcept (c.current.written.mapError .broken)

/-- A step that may fail. -/
def attempt (call : ClusterCall) (failure : Option Text) (fault : Text → ClusterFault) :
    Run ClusterFault Unit := do
  Run.log (.called call)
  match failure with
  | none => pure ()
  | some detail => Run.fail (fault detail)

end Surroundings

namespace Cluster

variable [Platform]

/-- Reach the cluster around the pod. -/
def connectInside (s : Surroundings) : Run ClusterFault Cluster := do
  Surroundings.attempt .loadInCluster s.podFailure .podConfiguration
  Run.say .action "Working with the in-cluster configuration"
  pure ⟨"in-cluster"⟩

/-- Reach the cluster of the current context, or of one that a person selects. -/
def connectContext (select : Bool) (s : Surroundings) : Run ClusterFault Cluster := do
  let contexts ← s.listContexts
  let context ← if select then s.askContext contexts else Surroundings.currentContext contexts
  Run.say .action ("Working with " ++ Markup.highlight context ++ " cluster")
  Surroundings.attempt (.loadContext context) s.contextFailure .contextConfiguration
  pure ⟨context⟩

/-- Reach a cluster. Inside a pod nothing is selected. -/
def connect (select inside : Bool) (s : Surroundings) : Run ClusterFault Cluster :=
  if inside then connectInside s else connectContext select s

/-- What a cluster is called in a listing. -/
def description (c : Cluster) : Text :=
  "Cluster(context=" ++ c.context.quoted ++ ")"

end Cluster

end JenkinsAdmission
