import Cadence.Wire.Error

/-!
# What can go wrong outside the bytes

The causes of failure of the parts that talk to a file, to the network or to another process, each
with its one wording.

## Main definitions

* `IoFault`: why the operating system refused
* `ConnectionError`: failures of a connection between a module and its supercomponent
* `DiscoveryError`: failures of finding a supercomponent
-/

namespace Cadence

/-- Why an operation of the host failed. -/
inductive IoFault where
  /-- The bytes ended inside something. -/
  | unexpectedEof
  /-- The bytes are not what they should be. -/
  | invalidData
  /-- There is no such file. -/
  | notFound
  /-- There is no way to the addressee. -/
  | networkUnreachable
  /-- The other side does not take anything any more. -/
  | brokenPipe
  deriving DecidableEq, Repr

/-- The name of an I/O fault. -/
def IoFault.message : IoFault → String
  | unexpectedEof => "UnexpectedEof"
  | invalidData => "InvalidData"
  | notFound => "NotFound"
  | networkUnreachable => "NetworkUnreachable"
  | brokenPipe => "BrokenPipe"

/-- What one side expected first on a connection, and what came. -/
inductive Breach where
  /-- A module did not introduce itself. -/
  | notADescriptor (dataType : Int32) (error : WireError)
  /-- A supercomponent did not answer with a configuration. -/
  | notAConfiguration (dataType : Int32) (error : WireError)
  deriving DecidableEq, Repr

/-- The wording of a breach. -/
def Breach.message : Breach → String
  | notADescriptor dataType error =>
      s!"expected module descriptor, got type {dataType.toInt}: {error.message}"
  | notAConfiguration dataType error =>
      s!"expected configuration, got type {dataType.toInt}: {error.message}"

/-- Failures of a connection, on either side. -/
inductive ConnectionError where
  | io (fault : IoFault)
  | wire (error : WireError)
  /-- The peer closed the connection. -/
  | closed
  /-- The peer said nothing for too long. -/
  | handshakeTimeout
  /-- The peer did not keep to the protocol. -/
  | protocolViolation (breach : Breach)
  /-- A module with this display name is already connected. -/
  | duplicateModule (display : String)
  deriving DecidableEq, Repr

/-- The wording of a connection error. -/
def ConnectionError.message : ConnectionError → String
  | io fault => fault.message
  | wire error => s!"codec error: {error.message}"
  | closed => "connection closed by peer"
  | handshakeTimeout => "handshake timed out"
  | protocolViolation breach => s!"protocol violation: {breach.message}"
  | duplicateModule display => s!"module {display} is already connected"

/-- Failures of discovery. -/
inductive DiscoveryError where
  /-- Nobody answered. -/
  | timeout (attempts : UInt32)
  | io (fault : IoFault)
  | wire (error : WireError)
  deriving DecidableEq, Repr

/-- The wording of a discovery error. -/
def DiscoveryError.message : DiscoveryError → String
  | timeout attempts => s!"no supercomponent answered after {attempts.toNat} attempt(s)"
  | io fault => fault.message
  | wire error => s!"codec error: {error.message}"

end Cadence
