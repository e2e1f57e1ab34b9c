import CwebHighlight.Domain.Name
import CwebHighlight.Text.Utf8
import CwebHighlight.Uri.Error
import CwebHighlight.Uri.Escape
import CwebHighlight.Uri.Ipv6

/-!
# Hosts

A host in brackets is an address of eight pieces. Any other host of a special scheme is a domain
name or an address of four bytes, and is known by its ASCII form; escapes in it are read. Of the
other schemes nothing is known, so their hosts are kept.
-/

namespace CwebHighlight.Uri

/-- Characters that a domain name in an address must not hold. -/
def isDenied (c : Char) : Bool :=
  c.val ≤ 0x20 || c.val = 0x7F || c ∈ "#%/:<>?@[\\]^|".toList

/-- Characters that a host must not hold whatever the scheme. -/
def isReserved (c : Char) : Bool := c ∈ "\x00\t\n\r #/:<>?@[\\]^|".toList

/-- A host in brackets. -/
def bracketedHost (host : List Char) : Except UriError (List Char) :=
  match host.getLast?, ipv6Parse? ((host.drop 1).dropLast) with
  | some ']', some pieces => .ok ('[' :: ipv6Text pieces ++ [']'])
  | _, _ => .error .invalidIpv6

/-- The ASCII form of a domain name, with escapes in it. -/
def domainName? (host : List Char) : Option (List Char) := do
  let name ← Domain.asciiName? (← decodeStrict? (unescape host))
  guard (!name.any isDenied)
  return name

/-- The host of a special scheme. -/
def specialHost (host : List Char) : Except UriError (List Char) :=
  if host.head? = some '[' then bracketedHost host
  else match domainName? host with
    | none => .error .invalidDomain
    | some [] => .error .emptyHost
    | some name =>
      if endsInNumber name then
        match ipv4Bytes? name with
        | some bytes => .ok (ipv4Text bytes)
        | none => .error .invalidIpv4
      else .ok name

/-- The host of any other scheme. -/
def plainHost (host : List Char) : Except UriError (List Char) :=
  if host.head? = some '[' then bracketedHost host
  else if host.any isReserved then .error .invalidHost
  else .ok (escape isControl host)

end CwebHighlight.Uri
