import PathCall.Address.Domain
import PathCall.Address.Fault
import PathCall.Address.Ipv6

/-!
Hosts of addresses. A host in brackets is an IPv6 address. Schemes that are known to name internet
hosts read any other host as a domain name or an IPv4 address; all other schemes take it as it is,
but for some characters.
-/

namespace PathCall.Address

def isForbiddenInHost (c : Char) : Bool :=
  c ∈ ['\x00', '\t', '\n', '\r', ' ', '#', '/', ':', '<', '>', '?', '@', '[', '\\', ']', '^', '|']

def bracketed (host : List Char) : Except Fault Unit :=
  if host.getLast? = some ']' && Ipv6.isAddress host.dropLast then .ok ()
  else .error .invalidIpv6

def checkOpaqueHost (host : List Char) : Except Fault Unit :=
  match host with
  | '[' :: rest => bracketed rest
  | host => if host.any isForbiddenInHost then .error .invalidDomainCharacter else .ok ()

def checkInternetHost (host : List Char) : Except Fault Unit :=
  match host with
  | '[' :: rest => bracketed rest
  | host =>
    match Domain.ofBytes? (Domain.percentDecode host) with
    | none => .error .invalidInternationalDomain
    | some domain =>
      if domain.isEmpty then .error .emptyHost
      else if Ipv4.endsInNumber domain && !Ipv4.isAddress domain then .error .invalidIpv4
      else .ok ()

end PathCall.Address
