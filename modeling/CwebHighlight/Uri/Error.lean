/-!
# Faults in addresses
-/

namespace CwebHighlight

inductive UriError where
  | relative
  | emptyHost
  | invalidPort
  | invalidHost
  | invalidDomain
  | invalidIpv4
  | invalidIpv6
  deriving DecidableEq, Repr

def UriError.message : UriError → String
  | .relative => "relative URL without a base"
  | .emptyHost => "empty host"
  | .invalidPort => "invalid port number"
  | .invalidHost => "invalid domain character"
  | .invalidDomain => "invalid international domain name"
  | .invalidIpv4 => "invalid IPv4 address"
  | .invalidIpv6 => "invalid IPv6 address"

end CwebHighlight
