import Supervision.Error

/-!
# The log

Every step of the supervisor that is worth telling is an `Event`. An event is data: its level, the part of the supervisor
that tells it and its text are functions of it, so that what can be said of the log is said of a list of events.
-/

namespace Supervision

/-- The weight of an event. -/
inductive Level where
  | error
  | warn
  | info
  | debug
deriving DecidableEq, Repr

namespace Level

/-- The word for a level at the head of a log line. -/
def text : Level → String
  | error => "ERROR"
  | warn => "WARN"
  | info => "INFO"
  | debug => "DEBUG"

/-- How much detail a level stands for: the higher, the more. -/
def detail : Level → Nat
  | error => 1
  | warn => 2
  | info => 3
  | debug => 4

end Level

/-- A request to terminate that the operating system delivers. -/
inductive TerminationSignal where
  | interrupt
  | terminate
deriving DecidableEq, Repr

namespace TerminationSignal

/-- The name of a signal. -/
def text : TerminationSignal → String
  | interrupt => "SIGINT"
  | terminate => "SIGTERM"

/-- The number of a signal. -/
def number : TerminationSignal → Nat
  | interrupt => 2
  | terminate => 15

/-- The status that a shell reports for a process that the signal killed: 128 and the signal's number. -/
def defaultExitCode : TerminationSignal → Int32
  | interrupt => 130
  | terminate => 143

end TerminationSignal

/-- The part of the supervisor that tells an event. -/
inductive Teller where
  | daemon
  | lifecycle
  | machine
  | manager
  | coordinator
  | exitHook
  | heartbeat
deriving DecidableEq, Repr

/-- The target under which a part logs. -/
def Teller.target : Teller → String
  | daemon => "lifecycle_supervisor"
  | lifecycle => "lifecycle_supervisor::lifecycle"
  | machine => "lifecycle_supervisor::lifecycle::machine"
  | manager => "lifecycle_supervisor::manager"
  | coordinator => "lifecycle_supervisor::shutdown::coordinator"
  | exitHook => "lifecycle_supervisor::shutdown::hook"
  | heartbeat => "lifecycle_supervisor::heartbeat"

/-- Something that the supervisor did or saw. -/
inductive Event where
  /-- A component took an edge. -/
  | stepped (component : String) (old new : State) (trigger : Trigger)
  /-- The reset hook of a failed component is about to run. -/
  | resetting (component : String) (request : Request)
  /-- A request settled a component. -/
  | settled (component : String) (state : State)
  /-- A component left its failure to the log. -/
  | failureReported (error : SupervisorError)
  /-- A failed request on one component was ignored. -/
  | requestIgnored (request : Request) (component : String) (error : SupervisorError)
  | alreadyRegistered (component : String)
  | registered (component : String)
  | unregistered (component : String)
  | cleared (count : Nat)
  /-- A batch begins. -/
  | batchStarted (operation : Request) (count : Nat)
  /-- A component of a batch failed. -/
  | batchFailure (operation : Request) (component : String) (error : SupervisorError)
  | batchSucceeded (operation : Request) (attempted : Nat)
  /-- A batch ends with failures. -/
  | batchFailed (error : SupervisorError) (attempted : Nat)
  /-- A failed batch was ignored. -/
  | batchIgnored (operation : Request) (error : SupervisorError)
  | exitHookInstalled (registered : Nat)
  | exitHookRemoved
  | exitHookUnchanged (registered : Nat) (installed : Bool)
  /-- The pass that stops everything registered begins. -/
  | stoppingOnExit (count : Nat)
  | shutdownIncomplete (error : SupervisorError)
  | listenerRegistered
  | listenerRefused (error : SupervisorError)
  | signalHandled (signal : TerminationSignal)
  | exitAfterHook (code : Int32)
  | keepsRunning
  /-- A signal found no action to run. -/
  | signalUnhandled (signal : TerminationSignal) (code : Int32)
  | heartbeat (name : String) (count : Nat)
  | workerExiting (name : String)
  | daemonStarting (version : String)
  | configurationFile (path : String)
  | validationFailed (error : SupervisorError)
  | validationSucceeded
  | nothingConfigured
  | dryRun (count : Nat)
  | startFailed (error : SupervisorError)
  | exitDisabled
  | hookRefused (error : SupervisorError)
  | daemonRunning (count : Nat)
  | daemonExiting (code : Int32)
deriving Repr

namespace Event

/-- The level of an event. -/
def level : Event → Level
  | stepped .. | resetting .. | alreadyRegistered _ | cleared _ | batchSucceeded .. | exitHookUnchanged ..
  | listenerRegistered | workerExiting _ => .debug
  | settled .. | registered _ | unregistered _ | batchStarted .. | exitHookInstalled _ | exitHookRemoved
  | stoppingOnExit _ | signalHandled _ | exitAfterHook _ | keepsRunning | signalUnhandled .. | heartbeat ..
  | daemonStarting _ | configurationFile _ | validationSucceeded | dryRun _ | daemonRunning _ | daemonExiting _ => .info
  | requestIgnored .. | batchIgnored .. | nothingConfigured | exitDisabled => .warn
  | failureReported _ | batchFailure .. | batchFailed .. | shutdownIncomplete _ | listenerRefused _
  | validationFailed _ | startFailed _ | hookRefused _ => .error

/-- The part of the supervisor that tells an event. -/
def teller : Event → Teller
  | stepped .. | resetting .. | settled .. | failureReported _ => .machine
  | requestIgnored .. => .lifecycle
  | alreadyRegistered _ | registered _ | unregistered _ | cleared _ | batchStarted .. | batchFailure ..
  | batchSucceeded .. | batchFailed .. | batchIgnored .. => .manager
  | exitHookInstalled _ | exitHookRemoved | exitHookUnchanged .. | stoppingOnExit _ | shutdownIncomplete _ =>
    .coordinator
  | listenerRegistered | listenerRefused _ | signalHandled _ | exitAfterHook _ | keepsRunning
  | signalUnhandled .. => .exitHook
  | heartbeat .. | workerExiting _ => .heartbeat
  | daemonStarting _ | configurationFile _ | validationFailed _ | validationSucceeded | nothingConfigured | dryRun _
  | startFailed _ | exitDisabled | hookRefused _ | daemonRunning _ | daemonExiting _ => .daemon

/-- Whether a worker thread tells the event, and not the caller of the supervisor. -/
def byWorker : Event → Bool
  | heartbeat .. | workerExiting _ => true
  | _ => false

/-- The text of an event. -/
def message : Event → String
  | stepped component old new trigger => s!"Component '{component}' {old.text} -> {new.text} on {trigger.text}"
  | resetting component request => s!"Resetting component '{component}' before {request.text}"
  | settled component state => s!"Component '{component}' {state.text}"
  | failureReported e => e.message
  | requestIgnored request component e => s!"Failed to {request.text} component '{component}': {e.message}"
  | alreadyRegistered component => s!"Component '{component}' already registered"
  | registered component => s!"Registering component '{component}'"
  | unregistered component => s!"Unregistered component '{component}'"
  | cleared count => s!"Clearing {count} registered components"
  | batchStarted .start count => s!"Starting {count} components"
  | batchStarted .stop count => s!"Stopping {count} components"
  | batchFailure operation component e => s!"Error during {operation.text} of component '{component}': {e.message}"
  | batchSucceeded operation attempted => s!"Batch {operation.text} of {attempted} components succeeded"
  | batchFailed e attempted => s!"{e.message} (of {attempted} attempted)"
  | batchIgnored operation e => s!"Ignoring {operation.text} failure: {e.message}"
  | exitHookInstalled count => s!"Installed exit hook for {count} registered components"
  | exitHookRemoved => "Removed exit hook, no components registered"
  | exitHookUnchanged count installed => s!"Exit hook unchanged ({count} registered, installed: {installed})"
  | stoppingOnExit count => s!"Stopping {count} components on exit"
  | shutdownIncomplete e => s!"Shutdown incomplete: {e.message}"
  | listenerRegistered => "Exit hook listener registered for SIGINT and SIGTERM"
  | listenerRefused e => s!"Failed to register signal handlers: {e.message}"
  | signalHandled signal => s!"Received {signal.text}, running exit hook"
  | exitAfterHook code => s!"Exit hook finished, exiting with code {code.toInt}"
  | keepsRunning => "Exit hook finished, process keeps running"
  | signalUnhandled signal code =>
    s!"Received {signal.text} with no exit hook installed, exiting with code {code.toInt}"
  | heartbeat name count => s!"Heartbeat '{name}' #{count}"
  | workerExiting name => s!"Heartbeat '{name}' worker exiting"
  | daemonStarting version => s!"Starting lifecycle supervisor v{version}"
  | configurationFile path => s!"Configuration file: {path}"
  | validationFailed e => s!"Configuration validation failed: {e.message}"
  | validationSucceeded => "Configuration validation successful"
  | nothingConfigured => "No [[heartbeat]] components configured"
  | dryRun count => s!"Dry run mode - {count} components registered but not started"
  | startFailed e => s!"Failed to start components: {e.message}"
  | exitDisabled => "shutdown.exit_process is disabled; the first signal only stops components"
  | hookRefused e => s!"Failed to install exit hook: {e.message}"
  | daemonRunning count => s!"Supervisor running with {count} components, waiting for SIGINT/SIGTERM"
  | daemonExiting code => s!"Supervisor exiting with code {code.toInt}"

/-- A log line without time and target. -/
def line (event : Event) : String :=
  s!"{event.level.text} {event.message}"

/-- A log line with its target, without time. -/
def targetLine (event : Event) : String :=
  s!"{event.level.text} {event.teller.target}: {event.message}"

end Event

end Supervision
