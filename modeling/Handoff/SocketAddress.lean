import Handoff.Url.Ipv6

/-!
Addresses to listen on: an IP address and a port.
-/

namespace Handoff

/-- An address with a port; an IPv6 address may name its scope. -/
inductive SocketAddress
  | v4 (ip : Ipv4) (port : Nat)
  | v6 (ip : Ipv6) (scope : Nat) (port : Nat)
deriving DecidableEq, Repr

namespace SocketAddress

def number? (limit : Nat) (cs : List Char) : Option Nat := (Text.numeral? 10 cs).filter (· ≤ limit)

/-- Reads an address. An IPv6 address stands between brackets, with its scope behind `%`. -/
def ofText? (cs : List Char) : Option SocketAddress :=
  match cs with
  | '[' :: rest =>
    match Text.splitOnce ']' rest with
    | (inner, some (':' :: port)) =>
      let (ip, scope) := Text.splitOnce '%' inner
      match Ipv6.ofText? ip, (match scope with
          | none => some 0
          | some digits => number? (Nat.pow 2 32 - 1) digits), number? 65535 port with
      | some ip, some scope, some port => some (.v6 ip scope port)
      | _, _, _ => none
    | _ => none
  | _ =>
    match Text.splitOnce ':' cs with
    | (ip, some port) =>
      match Ipv4.ofText? ip, number? 65535 port with
      | some ip, some port => some (.v4 ip port)
      | _, _ => none
    | _ => none

/-- An IPv6 address as it is shown; one that stands for an IPv4 address shows that. -/
def ipv6Text (ip : Ipv6) : List Char :=
  match ip.groups with
  | [0, 0, 0, 0, 0, 0xFFFF, g, h] =>
    "::ffff:".toList ++
      (Ipv4.mk (UInt8.ofNat (g.toNat / 256)) (UInt8.ofNat g.toNat) (UInt8.ofNat (h.toNat / 256))
        (UInt8.ofNat h.toNat)).text
  | _ => ip.text

def text : SocketAddress → List Char
  | v4 ip port => ip.text ++ ':' :: Text.decimal port
  | v6 ip scope port =>
    '[' :: ipv6Text ip ++ (if scope = 0 then [] else '%' :: Text.decimal scope) ++
      ']' :: ':' :: Text.decimal port

def shown (a : SocketAddress) : String := String.ofList a.text

end SocketAddress

end Handoff
