import FragmentFeed.Text.Percent
import FragmentFeed.Text.Utf8
import FragmentFeed.Url.Domain
import FragmentFeed.Url.Ipv4
import FragmentFeed.Url.Ipv6

/-!
# Hosts

The host of a URL with a special scheme is a domain name or an address; that of any other URL is an
IPv6 address or a text that is kept as it is, percent-encoded. An empty host is no `Host`.
-/

namespace FragmentFeed

open Text

/-- Why a text is not a URL. -/
inductive ParseError where
  | relativeWithoutBase
  | relativeToVerbatim
  | emptyHost
  | invalidDomainName
  | invalidDomainCharacter
  | invalidPort
  | invalidIpv4
  | invalidIpv6
  deriving DecidableEq, Repr

/-- The wording of an error. -/
def ParseError.message : ParseError → String
  | .relativeWithoutBase => "relative URL without a base"
  | .relativeToVerbatim => "relative URL with a cannot-be-a-base base"
  | .emptyHost => "empty host"
  | .invalidDomainName => "invalid international domain name"
  | .invalidDomainCharacter => "invalid domain character"
  | .invalidPort => "invalid port number"
  | .invalidIpv4 => "invalid IPv4 address"
  | .invalidIpv6 => "invalid IPv6 address"

/-- The host of a URL. -/
inductive Host where
  /-- A domain name, as it is written in ASCII. -/
  | domain (name : List Char)
  | ipv4 (address : Ipv4)
  | ipv6 (address : Ipv6)
  /-- The host of a URL whose scheme is not special, percent-encoded. -/
  | verbatim (text : List Char)
  deriving DecidableEq, Repr

namespace Host

/-- The written form. -/
def toText : Host → List Char
  | .domain name => name
  | .ipv4 a => a.toText
  | .ipv6 a => '[' :: a.toText ++ [']']
  | .verbatim text => text

/-- Reads an address in brackets, the opening one being read already. -/
def parseBracketed (rest : List Char) : Except ParseError Host :=
  if rest.getLast? = some ']' then
    match Ipv6.parse? rest.dropLast with
    | some a => .ok (.ipv6 a)
    | none => .error .invalidIpv6
  else .error .invalidIpv6

/-- Reads the name that the bytes of a percent-decoded text spell. -/
def parseName (name : List Char) : Except ParseError Host :=
  match Domain.toAscii? name with
  | none => .error .invalidDomainName
  | some [] => .error .emptyHost
  | some name =>
    if Ipv4.endsInNumber name then
      match Ipv4.parse? name with
      | some a => .ok (.ipv4 a)
      | none => .error .invalidIpv4
    else .ok (.domain name)

/-- Reads the host of a URL with a special scheme. -/
def parse : List Char → Except ParseError Host
  | '[' :: rest => parseBracketed rest
  | cs =>
    match Utf8.decode? (Percent.decode cs) with
    | none => .error .invalidDomainName
    | some name => parseName name

/-- Characters that the host of a URL whose scheme is not special may not hold. -/
def forbidden (c : Char) : Bool :=
  ['\x00', '\t', '\n', '\r', ' ', '#', '/', ':', '<', '>', '?', '@', '[', '\\', ']', '^', '|'].contains c

/-- Reads the host of a URL whose scheme is not special. -/
def parseVerbatim : List Char → Except ParseError Host
  | '[' :: rest => parseBracketed rest
  | cs =>
    if cs.any forbidden then .error .invalidDomainCharacter
    else .ok (.verbatim (Percent.encode Percent.controlSet cs))

end Host

end FragmentFeed
