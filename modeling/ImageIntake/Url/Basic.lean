import ImageIntake.Text.Blank
import ImageIntake.Text.Percent
import ImageIntake.Url.Address
import ImageIntake.Url.DomainName

namespace ImageIntake.Url

open Text

inductive UrlError where
  | noScheme
  | emptyHost
  | badPort
  | badIpv4
  | badIpv6
  | badName
  | badHostCharacter
  deriving DecidableEq, Repr

def UrlError.message : UrlError → String
  | .noScheme => "relative URL without a base"
  | .emptyHost => "empty host"
  | .badPort => "invalid port number"
  | .badIpv4 => "invalid IPv4 address"
  | .badIpv6 => "invalid IPv6 address"
  | .badName => "invalid international domain name"
  | .badHostCharacter => "invalid domain character"

inductive Host where
  | none
  | name (text : List Char)
  | ipv4 (number : Nat)
  | ipv6 (pieces : List Nat)
  deriving DecidableEq, Repr

end ImageIntake.Url

namespace ImageIntake

structure Url where
  scheme : String
  host : Url.Host
  port : Option Nat
  deriving DecidableEq, Repr

end ImageIntake

namespace ImageIntake.Url

open Text

inductive SchemeKind where
  | file
  | network
  | other
  deriving DecidableEq

def schemeKind (scheme : String) : SchemeKind :=
  if scheme = "file" then .file
  else if ["http", "https", "ws", "wss", "ftp"].contains scheme then .network
  else .other

def isSlash (c : Char) : Bool := c == '/' || c == '\\'

def splitScheme? (cs : List Char) : Option (String × List Char) :=
  match cs.span (fun c => c.isAlphanum || c == '+' || c == '-' || c == '.') with
  | (first :: rest, ':' :: after) =>
      if first.isAlpha then some (String.ofList ((first :: rest).map lowerAscii), after) else none
  | _ => none

def endsAuthority (kind : SchemeKind) (c : Char) : Bool :=
  c == '/' || c == '?' || c == '#' || (c == '\\' && kind != .other)

def bracketed? (cs : List Char) : Except UrlError Host :=
  match cs.reverse with
  | ']' :: inner =>
      match ipv6? (inner.reverse.drop 1) with
      | some pieces => .ok (.ipv6 pieces)
      | none => .error .badIpv6
  | _ => .error .badIpv6

def readHost (cs : List Char) : Except UrlError Host :=
  if cs.head? = some '[' then bracketed? cs
  else
    match String.fromUTF8? (percentDecode (String.ofList cs).toUTF8.toList).toByteArray with
    | none => .error .badName
    | some decoded =>
        match domainName? decoded.toList with
        | none => .error .badName
        | some [] => .error .emptyHost
        | some name =>
            if endsInNumber name then
              match ipv4? name with
              | some number => .ok (.ipv4 number)
              | none => .error .badIpv4
            else .ok (.name name)

def readPlainHost (cs : List Char) : Except UrlError Host :=
  if cs.head? = some '[' then bracketed? cs
  else if cs.any fun c => ['\x00', '\t', '\n', '\r', ' ', '#', '/', ':', '<', '>', '?', '@', '[',
      '\\', ']', '^', '|'].contains c
  then .error .badHostCharacter
  else if cs.isEmpty then .ok .none
  else .ok (.name cs)

def splitHost (inBrackets : Bool) : List Char → List Char × List Char
  | [] => ([], [])
  | c :: rest =>
      if c == ':' && !inBrackets then ([], c :: rest)
      else
        let (host, after) := splitHost (if c == '[' then true else if c == ']' then false
          else inBrackets) rest
        (c :: host, after)

def readPort (cs : List Char) : Except UrlError (Option Nat) :=
  match cs with
  | [] => .ok none
  | _ =>
      match readDigits largest16 0 cs with
      | .ok n => .ok (some n)
      | .error _ => .error .badPort

def splitUser (authority : List Char) : Option (List Char) × List Char :=
  if authority.contains '@' then
    let reversed := authority.reverse
    (some ((reversed.dropWhile (· != '@')).drop 1).reverse,
      (reversed.takeWhile (· != '@')).reverse)
  else (none, authority)

def readAuthority (kind : SchemeKind) (authority : List Char) (hasMore : Bool) :
    Except UrlError (Host × Option Nat) := do
  let (user, address) := splitUser authority
  if user = some [] ∧ address = [] ∧ hasMore then throw .emptyHost
  let (hostText, after) := splitHost false address
  if kind = .network ∧ hostText = [] then throw .emptyHost
  let host ← if kind = .other then readPlainHost hostText else readHost hostText
  if host = .none ∧ after.head? = some ':' then throw .emptyHost
  let port ← readPort ((after.drop 1).takeWhile (· != '\\'))
  let hasUser := user.any fun text => text.any (· != ':') || 1 < text.length
  if host = .none ∧ hasUser then throw .emptyHost
  return (host, port)

def isDriveLetter (cs : List Char) : Bool :=
  match cs with
  | [letter, mark] => letter.isAlpha && (mark == ':' || mark == '|')
  | _ => false

def readAfterScheme (scheme : String) (cs : List Char) : Except UrlError Url :=
  match schemeKind scheme with
  | .network => do
      let (authority, rest) := (cs.dropWhile isSlash).span fun c => !endsAuthority .network c
      let (host, port) ← readAuthority .network authority !rest.isEmpty
      return { scheme, host, port }
  | .file =>
      match cs with
      | first :: second :: rest =>
          let hostText := rest.takeWhile fun c => !endsAuthority .file c
          if isSlash first && isSlash second && !hostText.isEmpty && !isDriveLetter hostText then
            return { scheme, host := ← readHost hostText, port := none }
          else return { scheme, host := .none, port := none }
      | _ => return { scheme, host := .none, port := none }
  | .other =>
      match cs with
      | '/' :: '/' :: rest => do
          let (authority, path) := rest.span fun c => !endsAuthority .other c
          let (host, port) ← readAuthority .other authority !path.isEmpty
          return { scheme, host, port }
      | _ => return { scheme, host := .none, port := none }

def parse (s : String) : Except UrlError Url :=
  let cs := (stripList (fun c => c.toNat ≤ 32) s.toList).filter fun c =>
    c != '\t' && c != '\n' && c != '\r'
  match splitScheme? cs with
  | none => .error .noScheme
  | some (scheme, rest) => readAfterScheme scheme rest

def readScheme (s : String) : Except String String :=
  match parse s with
  | .ok url => .ok url.scheme
  | .error cause => .error cause.message

end ImageIntake.Url
