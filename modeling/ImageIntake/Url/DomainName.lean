import ImageIntake.Url.NameTables
import ImageIntake.Url.Punycode

namespace ImageIntake.Url

open Text

def isForbiddenInName (c : Char) : Bool :=
  c.toNat ≤ 32 || c.toNat = 127 ||
    ['%', '#', '/', ':', '<', '>', '?', '@', '[', '\\', ']', '^', '|'].contains c

def foldNameChar (c : Char) : List Char :=
  if ignoredRanges.contains c then []
  else match asciiRuns.find? (·.covers c.toNat) with
    | some run => [Char.ofNat (c.toNat + run.shift).toNat]
    | none =>
        match asciiSequences.find? (·.1 == c.toNat) with
        | some (_, sequence) => sequence
        | none => [c]

def isJoiner (c : Char) : Bool := c.toNat = 0x200c || c.toNat = 0x200d

def joinersPlaced : List Char → Bool
  | [] => true
  | c :: rest =>
      match rest with
      | [] => true
      | next :: _ => (!isJoiner next || joiningMarkRanges.contains c) && joinersPlaced rest

def isNameLabel (label : List Char) : Bool :=
  !label.any disallowedRanges.contains &&
    !label.any isForbiddenInName &&
    (match label with
      | [] => true
      | c :: _ => !markRanges.contains c && !isJoiner c) &&
    joinersPlaced label

inductive Direction where
  | leftToRight
  | rightToLeft
  | europeanFigure
  | arabicFigure
  | mark
  | neutral
  deriving DecidableEq

def direction (c : Char) : Direction :=
  if rightToLeftRanges.contains c then .rightToLeft
  else if c.isDigit || (0x6f0 ≤ c.toNat && c.toNat ≤ 0x6f9) then .europeanFigure
  else if 0x660 ≤ c.toNat && c.toNat ≤ 0x669 then .arabicFigure
  else if markRanges.contains c then .mark
  else if c.toNat < 128 && !c.isAlpha then .neutral
  else .leftToRight

def keepsDirection (label : List Char) : Bool :=
  let parts := label.map direction
  let ending := (parts.reverse.dropWhile (· == .mark)).head?
  match parts.head? with
  | none => true
  | some .rightToLeft =>
      !parts.contains .leftToRight &&
        !(parts.contains .europeanFigure && parts.contains .arabicFigure) &&
        (ending == some .rightToLeft || ending == some .europeanFigure ||
          ending == some .arabicFigure)
  | some .leftToRight =>
      !parts.contains .rightToLeft && !parts.contains .arabicFigure &&
        (ending == some .leftToRight || ending == some .europeanFigure)
  | some _ => false

def plainLabel? (label : List Char) : Option (List Char) :=
  match label with
  | 'x' :: 'n' :: '-' :: '-' :: spelling =>
      match punycodeDecode? spelling with
      | none => none
      | some decoded =>
          if decoded.all (·.toNat < 128) then none
          else if decoded.any fun c => foldNameChar c != [c] then none
          else if isNameLabel decoded then some decoded
          else none
  | _ => if isNameLabel label then some label else none

def domainName? (host : List Char) : Option (List Char) := do
  let labels ← ((host.flatMap foldNameChar).splitOn '.').mapM plainLabel?
  if labels.any (·.any rightToLeftRanges.contains) && !labels.all keepsDirection then none
  else some ((labels.intersperse ['.']).flatten)

end ImageIntake.Url
