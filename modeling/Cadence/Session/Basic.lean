import Cadence.Connection.Handshake
import Cadence.Registry.Basic
import Cadence.Settings.Scope

/-!
# The session of a connection

A supercomponent serves every connection by a session. The session waits for the module to
introduce itself, sends it the settings that concern it, and registers it. From then on it reads
what the module sends, and has a writer that writes what is queued for the module. The session ends
when the module says that it has ended, when nothing more can be read, or when its writer has
finished: when everything is written and nobody can queue anything more, or when something cannot
be written. Then the module leaves the registry, and the writer gets some time to finish.

Between the introduction and the registration anything may happen to the registry; that is why
membership is asked for twice.

A session finds its member by the descriptor.

## Main definitions

* `Session`, `SessionStage`: a session, and how far it has got
* `Session.greet`, `Session.expire`, `Session.enroll`: the way into the registry
* `Session.read`, `Session.write`: serving
* `Session.heed`: what an envelope from the module brings about
* `Session.conclude`: what a session does when its writer has finished
-/

namespace Cadence

/-- How far a session has got. -/
inductive SessionStage where
  /-- The module has not introduced itself yet. -/
  | greeting
  /-- The module has been sent its settings, and is about to be registered. -/
  | greeted (d : Descriptor)
  | serving (d : Descriptor) (link : LinkId)
  /-- The module has left, and the writer may finish. -/
  | leaving (link : LinkId)
  /-- The module was turned away. -/
  | refused (error : ConnectionError)
  | over
  /-- The session was given up when the supercomponent stopped. Its writer, if it had one, is on
  its own. -/
  | aborted (link? : Option LinkId)
  deriving DecidableEq

/-- The session of a connection. -/
structure Session where
  inflow : Inflow
  outflow : Outflow
  /-- Is there a writer that has not finished? -/
  writing : Bool
  stage : SessionStage

/-- How a session ends. -/
inductive SessionEnd where
  /-- The module has said how it ended. -/
  | exited (code : ExitCode)
  /-- Nothing more can be read. -/
  | closed (error? : Option ConnectionError)
  /-- The writer has finished. -/
  | stopped
  deriving DecidableEq

namespace Session

/-- The session of a connection that has just been accepted. -/
def start : Session := ⟨.empty, .fresh, false, .greeting⟩

/-- Does the session still take up one of the places of the supercomponent? -/
def isLive (s : Session) : Bool :=
  match s.stage with
  | .greeting | .greeted _ | .serving _ _ | .leaving _ => true
  | .refused _ | .over | .aborted _ => false

/-! ### The way into the registry -/

/-- Turn the module away. -/
def refuse (s : Session) (error : ConnectionError) : Session :=
  { s with outflow := s.outflow.shut, stage := .refused error }

/-- Send the settings that concern a module which has introduced itself and is not connected. -/
def welcome (now : TimeStamp) (settings : Settings) (r : Registry) (s : Session)
    (introduction : Envelope) : Except ConnectionError Session := do
  let d ← Handshake.descriptorOf introduction
  if r.roster.contains d then throw (.duplicateModule d.display)
  let outflow ← s.outflow.send now (.ofPayload now (settings.scopedFor d))
  return { s with outflow, stage := .greeted d }

/-- The module introduces itself, as far as that has arrived. -/
def greet (now : TimeStamp) (settings : Settings) (r : Registry) (s : Session) : Option Session :=
  match s.stage, s.inflow.next now with
  | .greeting, .envelope e rest =>
    let s := { s with inflow := rest }
    some (match s.welcome now settings r e with
      | .ok s => s
      | .error error => s.refuse error)
  | .greeting, .ended error? => some (s.refuse (error?.getD .closed))
  | _, _ => none

/-- The module has not introduced itself in time. -/
def expire (s : Session) : Option Session :=
  match s.stage with
  | .greeting => some (s.refuse .handshakeTimeout)
  | _ => none

/-- The module is registered over a link of its own, and gets a writer. -/
def enroll (r : Registry) (s : Session) : Option (Session × Registry) :=
  match s.stage with
  | .greeted d =>
    let (link, opened) := r.openLink
    match opened.register d link with
    | .ok (_, next) => some ({ s with writing := true, stage := .serving d link }, next)
    | .error error => some (s.refuse error, r)
  | _ => none

/-! ### Serving -/

/-- Does an envelope from a module end its session? -/
def exitIn? (e : Envelope) : Option ExitCode :=
  (e.payloadAs ExitNotice).toOption.map (·.exitCode)

/-- What an envelope from a module brings about while it is served: acknowledgements are handed to
the scheduler, and everything else is ignored. -/
def heed (d : Descriptor) (r : Registry) (e : Envelope) : Registry :=
  match e.payloadAs PulseAck with
  | .ok ack => (r.deliverAck d ack).2
  | .error _ => r

/-- A served session ends, and its module leaves the registry. -/
def close (s : Session) (d : Descriptor) (link : LinkId) (r : Registry) (why : SessionEnd) :
    Session × Registry :=
  let stage := match why with
    | .exited _ | .closed _ => .leaving link
    | .stopped => .over
  ({ s with stage }, r.connectionLost d)

/-- Read the next envelope of the module, or come upon the end. -/
def read (now : TimeStamp) (r : Registry) (s : Session) : Option (Session × Registry) :=
  match s.stage with
  | .serving d link =>
    match s.inflow.next now with
    | .waiting => none
    | .ended error? => some (s.close d link r (.closed error?))
    | .envelope e rest =>
      let s := { s with inflow := rest }
      match exitIn? e with
      | some code => some (s.close d link r (.exited code))
      | none => some (s, heed d r e)
  | _ => none

/-- The link whose queue the writer writes. -/
def writingTo? (s : Session) : Option LinkId :=
  match s.writing, s.stage with
  | true, .serving _ link | true, .leaving link | true, .aborted (some link) => some link
  | _, _ => none

/-- The writer has finished. -/
def endWriting (s : Session) : Session := { s with outflow := s.outflow.shut, writing := false }

/-- Write the next envelope that is queued for the module. If it cannot be written, the queue is
given up. If there is none, and nobody can queue one any more, the writer has finished. The
snapshot is that of the scheduler. -/
def write (now : TimeStamp) (snapshot : Roster) (r : Registry) (s : Session) :
    Option (Session × Registry) := do
  let link ← s.writingTo?
  match (r.link link).outbound with
  | e :: rest =>
    match s.outflow.send now e with
    | .ok outflow =>
      return ({ s with outflow }, r.updateLink link fun l => { l with outbound := rest })
    | .error _ => return (s.endWriting, r.hangUp link)
  | [] => if r.isHeld snapshot link then none else return (s.endWriting, r)

/-- A session whose writer has finished: if it still serves, its module leaves. -/
def conclude (r : Registry) (s : Session) : Option (Session × Registry) :=
  if s.writing then none
  else match s.stage with
    | .serving d link => some (s.close d link r .stopped)
    | .leaving _ => some ({ s with stage := .over }, r)
    | _ => none

/-! ### Giving up -/

/-- A session whose module has left waits no longer for its writer, who gives the queue up. -/
def giveUpWriting (r : Registry) (s : Session) : Option (Session × Registry) :=
  match s.stage with
  | .leaving link => some (s.endWriting, r.hangUp link)
  | _ => none

/-- The supercomponent gives a session up. Its module stays in the registry. -/
def abort (s : Session) : Option Session :=
  match s.stage with
  | .greeting | .greeted _ => some { s with outflow := s.outflow.shut, stage := .aborted none }
  | .serving _ link | .leaving link => some { s with stage := .aborted (some link) }
  | .refused _ | .over | .aborted _ => none

end Session

end Cadence
