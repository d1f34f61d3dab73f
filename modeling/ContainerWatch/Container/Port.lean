import ContainerWatch.Numeral
import ContainerWatch.Text.Split
/-!
# Published ports

A container port that is reachable at an address and port of the host.  The engine names container
ports by keys such as `80/tcp`; `PortKey.read?` reads one: an optional plus sign, digits of a value
below 65536, then nothing for TCP or a slash and the name of a protocol in lower case.
-/

namespace ContainerWatch

/-- The transport protocols under which a port can be published. -/
inductive Protocol where
  | tcp
  | udp
  | sctp
  deriving DecidableEq, Repr

namespace Protocol

instance : Inhabited Protocol := ⟨tcp⟩

/-- The name of a protocol. -/
def name : Protocol → String
  | tcp => "tcp"
  | udp => "udp"
  | sctp => "sctp"

/-- The protocol with a name. -/
def ofName? : String → Option Protocol
  | "tcp" => some tcp
  | "udp" => some udp
  | "sctp" => some sctp
  | _ => none

/-- The complaint about a name that no protocol has. -/
def unknownMessage (name : String) : String := "Unknown transport protocol: " ++ name

theorem ofName?_name (p : Protocol) : ofName? p.name = some p := by cases p <;> rfl

theorem name_of_ofName? {s : String} {p : Protocol} (h : ofName? s = some p) : s = p.name := by
  unfold ofName? at h
  split at h <;> simp at h <;> subst h <;> rfl

end Protocol

/-- A container port with its protocol. -/
structure PortKey where
  port : UInt16
  protocol : Protocol
  deriving DecidableEq

namespace PortKey

/-- The container port that a key names.  The part before the first slash is the port and the part
after it the protocol; without a slash the protocol is TCP. -/
def read? (key : String) : Option PortKey :=
  let (port, protocol) := (Text.cutAt '/' key.toList).getD (key.toList, "tcp".toList)
  (Numeral.nat16? port).bind fun port =>
    (Protocol.ofName? (String.ofList protocol)).map fun protocol => ⟨port, protocol⟩

end PortKey

/-- A container port published on the host. -/
structure PortBinding where
  containerPort : UInt16
  hostPort : UInt16
  bindIp : String
  protocol : Protocol
  deriving DecidableEq, Inhabited

namespace PortBinding

/-- A port number as it is printed. -/
def portText (port : UInt16) : String := String.ofList (Numeral.decimal port.toNat)

/-- A binding as it is printed, from the host to the container. -/
def text (b : PortBinding) : String :=
  b.bindIp ++ ":" ++ portText b.hostPort ++ "->" ++ portText b.containerPort ++ "/" ++ b.protocol.name

/-- Whether a binding may stand before another: container port, then host port, then address decide,
and the protocol does not. -/
def precedes (a b : PortBinding) : Bool :=
  if a.containerPort = b.containerPort then
    if a.hostPort = b.hostPort then decide (a.bindIp ≤ b.bindIp) else decide (a.hostPort < b.hostPort)
  else decide (a.containerPort < b.containerPort)

/-- Bindings put in order; bindings that differ in the protocol only keep their order. -/
def sort (bindings : List PortBinding) : List PortBinding := bindings.mergeSort precedes

/-- Sorting neither loses nor adds a binding. -/
theorem sort_perm (bindings : List PortBinding) : (sort bindings).Perm bindings :=
  List.mergeSort_perm bindings precedes

end PortBinding

end ContainerWatch
