import ImageIntake.Settings.Basic
import ImageIntake.Text.Percent

namespace ImageIntake.S3

open Text

structure Endpoint where
  scheme : String
  authority : String
  path : String
  deriving DecidableEq, Repr

def isAuthorityChar (c : Char) : Bool :=
  c.isAlphanum || ['-', '.', '_', '~', ':', '[', ']', '@', '!', '$', '&', '\'', '(', ')', '*', '+',
    ',', ';', '=', '%'].contains c

def isPathChar (c : Char) : Bool :=
  let n := c.toNat
  n == 0x21 || n == 0x22 || (0x24 ≤ n && n ≤ 0x3b) || n == 0x3d || (0x40 ≤ n && n ≤ 0x5f) ||
    (0x61 ≤ n && n ≤ 0x7e) || 0x7f ≤ n

def isHostAndPort (cs : List Char) : Bool :=
  match cs with
  | '[' :: rest =>
      let inner := rest.takeWhile (· != ']')
      let after := (rest.dropWhile (· != ']')).drop 1
      rest.contains ']' && !inner.contains '[' && inner.count ':' ≤ 7 && !after.contains '[' &&
        !after.contains ']' && after.count ':' ≤ 1 && !after.contains '%'
  | _ => !cs.contains '[' && !cs.contains ']' && cs.count ':' ≤ 1 && !cs.contains '%'

def isAuthority (cs : List Char) : Bool :=
  cs.all isAuthorityChar &&
    let host := if cs.contains '@' then (cs.reverse.takeWhile (· != '@')).reverse else cs
    !host.isEmpty && isHostAndPort host

def afterScheme? (cs : List Char) : Option (List Char) :=
  ['/', '/'].isPrefixOf? ((cs.dropWhile (· != ':')).drop 1)

def Endpoint.of? (readUrl : UrlReader) (settings : StoreSettings) : Option Endpoint := do
  let scheme ← (readUrl settings.endpoint).toOption
  let rest ← afterScheme? settings.endpoint.toList
  let (authority, tail) := rest.span fun c => c != '/' && c != '?' && c != '#'
  let tail := tail.takeWhile (· != '#')
  if !isAuthority authority then none
  else if tail.contains '?' then none
  else if !tail.all isPathChar then none
  else if "arn:".toList.isPrefixOf settings.bucket.toList then none
  else
    let base := if tail.isEmpty then ['/'] else tail
    some { scheme
           authority := String.ofList authority
           path := String.ofList base ++ escapeUnreserved settings.bucket }

namespace Endpoint

def keyPath (e : Endpoint) (key : String) : String :=
  e.path ++ "/" ++ escapePath key

def impliedPort (scheme : String) : String :=
  if scheme = "http" then ":80" else ":443"

def signedHost (e : Endpoint) : String :=
  let cs := e.authority.toList
  let host := if cs.contains '@' then (cs.reverse.takeWhile (· != '@')).reverse else cs
  let port := (impliedPort e.scheme).toList
  if port.isSuffixOf host then String.ofList (host.take (host.length - port.length))
  else String.ofList host

end Endpoint

end ImageIntake.S3
