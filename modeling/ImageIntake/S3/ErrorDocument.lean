import ImageIntake.Text.CodeRanges
import ImageIntake.Text.Numeral

namespace ImageIntake.S3

open Text

inductive Markup where
  | opening (name : List Char) (isEmpty : Bool)
  | closing
  | text (content : List Char)
  | broken
  deriving DecidableEq

def after? (mark : List Char) : List Char → Option (List Char)
  | [] => if mark.isEmpty then some [] else none
  | c :: cs => if mark.isPrefixOf (c :: cs) then some ((c :: cs).drop mark.length) else after? mark cs

def isXmlBlank (c : Char) : Bool := c == ' ' || c == '\t' || c == '\n' || c == '\r'

def isNameChar (c : Char) : Bool :=
  c.isAlphanum || c == '_' || c == '-' || c == '.' || c == ':' || 128 ≤ c.toNat

def skipAttributes : Nat → List Char → Option (Bool × List Char)
  | 0, _ => none
  | fuel + 1, cs =>
      match cs.dropWhile isXmlBlank with
      | '>' :: rest => some (false, rest)
      | '/' :: '>' :: rest => some (true, rest)
      | cs =>
          match cs.span isNameChar with
          | ([], _) => none
          | (_, rest) =>
              match rest.dropWhile isXmlBlank with
              | '=' :: rest =>
                  match rest.dropWhile isXmlBlank with
                  | '"' :: rest => (after? ['"'] rest).bind (skipAttributes fuel)
                  | '\'' :: rest => (after? ['\''] rest).bind (skipAttributes fuel)
                  | _ => none
              | _ => none

def markup : Nat → List Char → List Markup
  | 0, _ => [.broken]
  | _, [] => []
  | fuel + 1, cs =>
      let goOn : Option (List Char) → List Markup
        | none => [.broken]
        | some rest => markup fuel rest
      if "<?".toList.isPrefixOf cs then goOn (after? "?>".toList cs)
      else if "<!--".toList.isPrefixOf cs then goOn (after? "-->".toList (cs.drop 4))
      else if "<![CDATA[".toList.isPrefixOf cs then goOn (after? "]]>".toList cs)
      else if "<!".toList.isPrefixOf cs then goOn (after? ">".toList cs)
      else match cs with
        | '<' :: '/' :: rest =>
            let (name, rest) := rest.span isNameChar
            match rest.dropWhile isXmlBlank with
            | '>' :: rest => if name.isEmpty then [.broken] else .closing :: markup fuel rest
            | _ => [.broken]
        | '<' :: rest =>
            let (name, rest) := rest.span isNameChar
            match skipAttributes (rest.length + 1) rest with
            | some (isEmpty, rest) =>
                if name.isEmpty then [.broken] else .opening name isEmpty :: markup fuel rest
            | none => [.broken]
        | _ =>
            let (content, rest) := cs.span (· != '<')
            .text content :: markup fuel rest

def fromRoot (document : String) : List Markup :=
  let cs := document.toList
  let pieces := markup (cs.length + 1) cs
  pieces.dropWhile fun
    | .text content => content.all isXmlBlank
    | _ => false

def entity? (name : List Char) : Option Char :=
  match name with
  | '#' :: 'x' :: digits =>
      if !digits.isEmpty && digits.all fun c => (hexValue? c).isSome then
        some (Char.ofNat (hexNumber digits))
      else none
  | '#' :: digits =>
      match readNumeral largest64 (String.ofList digits) with
      | .ok n => some (Char.ofNat n)
      | .error _ => none
  | _ =>
      [("lt", '<'), ("gt", '>'), ("amp", '&'), ("quot", '"'), ("apos", '\'')].lookup
        (String.ofList name)

def unescape? : Nat → List Char → Option (List Char)
  | 0, _ => none
  | fuel + 1, cs =>
      match cs.span (· != '&') with
      | (plain, []) => some plain
      | (plain, _ :: rest) =>
          match rest.span (· != ';') with
          | (_, []) => none
          | (name, _ :: rest) => do
              let c ← entity? name
              return plain ++ c :: (← unescape? fuel rest)

def localName (name : List Char) : List Char := (name.reverse.takeWhile (· != ':')).reverse

def firstText? : List Markup → Option (List Char)
  | .text content :: _ => unescape? (content.length + 1) content
  | .closing :: _ => some []
  | [] => some []
  | _ => none

def codeFrom (depth : Nat) (found : List Char) : List Markup → Option (List Char)
  | [] => some found
  | .broken :: _ => some found
  | .text _ :: rest => codeFrom depth found rest
  | .closing :: rest => if depth = 0 then some found else codeFrom (depth - 1) found rest
  | .opening name isEmpty :: rest =>
      if depth = 0 ∧ localName name = "Code".toList then
        if isEmpty then codeFrom depth [] rest
        else match firstText? rest with
          | none => none
          | some code => codeFrom (depth + 1) code rest
      else codeFrom (if isEmpty then depth else depth + 1) found rest

def isErrorDocument (body : ByteArray) : Bool :=
  match String.fromUTF8? body with
  | none => false
  | some document =>
      match fromRoot document with
      | .opening name _ :: _ => name == "Error".toList
      | _ => false

def errorCode? (body : ByteArray) : Option String :=
  match String.fromUTF8? body with
  | none => none
  | some document =>
      match fromRoot document with
      | .opening name isEmpty :: rest =>
          if name ≠ "Error".toList then none
          else if isEmpty then some ""
          else (codeFrom 0 [] rest).map String.ofList
      | _ => none

end ImageIntake.S3
