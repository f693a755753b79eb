import HttpExchange.Host.Domain
import HttpExchange.Host.Ipv4
import HttpExchange.Host.Ipv6

/-!
# Hosts

A host is an IPv6 address in brackets, an IPv4 address, or a domain name. A name
that ends in a number has to be an IPv4 address.
-/

namespace HttpExchange.Host

/-- Whether a text is what remains of an IPv6 address after the opening bracket. -/
def isBracketed (t : Text) : Bool := t.getLast? == some ']' && Ipv6.isAddress t.dropLast

/-- Whether a name in the form in which it is compared is an address or a domain name. -/
def isName (t : Text) : Bool := !t.isEmpty && (!Ipv4.endsInNumber t || Ipv4.isAddress t)

/-- Whether a text is a host. -/
def isValid : Text → Bool
  | '[' :: rest => isBracketed rest
  | t => (domain? t).any isName

end HttpExchange.Host
