import Handoff.Url.Domain
import Handoff.Url.Ipv6
import Handoff.Url.Percent

/-!
Hosts of a URL.
-/

namespace Handoff.Url

/-- Why a text is no URL. -/
inductive ParseError
  | emptyHost
  | invalidDomain
  | invalidPort
  | invalidIpv4
  | invalidIpv6
  | invalidHostCharacter
  | noScheme
deriving DecidableEq, Repr

def ParseError.message : ParseError → String
  | emptyHost => "empty host"
  | invalidDomain => "invalid international domain name"
  | invalidPort => "invalid port number"
  | invalidIpv4 => "invalid IPv4 address"
  | invalidIpv6 => "invalid IPv6 address"
  | invalidHostCharacter => "invalid domain character"
  | noScheme => "relative URL without a base"

/-- The host of a URL. -/
inductive Host
  -- No host.
  | empty
  -- A name: a domain in ASCII, or under an unknown scheme any text.
  | name (text : List Char)
  | ipv4 (ip : Ipv4)
  | ipv6 (ip : Ipv6)
deriving DecidableEq, Repr

namespace Host

def text : Host → List Char
  | empty => []
  | name cs => cs
  | ipv4 ip => ip.text
  | ipv6 ip => '[' :: ip.text ++ [']']

def bracketed (cs : List Char) : Except ParseError Host :=
  match cs.reverse with
  | ']' :: inner =>
    match Ipv6.ofText? inner.reverse with
    | some ip => .ok (.ipv6 ip)
    | none => .error .invalidIpv6
  | _ => .error .invalidIpv6

/-- Reads the host of a URL whose scheme is known: an address or a domain, which may be
percent-encoded. -/
def ofText (cs : List Char) : Except ParseError Host :=
  match cs with
  | '[' :: rest => bracketed rest
  | _ =>
    match Domain.ofBytes? (percentDecode cs) with
    | none => .error .invalidDomain
    | some [] => .error .emptyHost
    | some domain =>
      if Ipv4.endsInNumber domain then
        match Ipv4.ofLoose? domain with
        | some ip => .ok (.ipv4 ip)
        | none => .error .invalidIpv4
      else .ok (.name domain)

/-- A character that no host of an unknown scheme may hold. -/
def isRefused (c : Char) : Bool := "\x00\t\n\r #/:<>?@[\\]^|".toList.contains c

/-- Reads the host of a URL whose scheme is unknown. -/
def ofOpaqueText (cs : List Char) : Except ParseError Host :=
  match cs with
  | [] => .ok .empty
  | '[' :: rest => bracketed rest
  | _ =>
    if cs.any isRefused then .error .invalidHostCharacter
    else .ok (.name (percentEncode keptInOpaque cs))

end Host

end Handoff.Url
