namespace ImageIntake.Text

def hexValue? (c : Char) : Option Nat :=
  if '0' ≤ c ∧ c ≤ '9' then some (c.toNat - 48)
  else if 'a' ≤ c ∧ c ≤ 'f' then some (c.toNat - 87)
  else if 'A' ≤ c ∧ c ≤ 'F' then some (c.toNat - 55)
  else none

def hexNumber (cs : List Char) : Nat :=
  cs.foldl (fun n c => match hexValue? c with
    | some d => n * 16 + d
    | none => n) 0

def words (s : String) : List (List Char) :=
  (s.toList.splitOn ' ').filter (· != [])

structure CodeRanges where
  spans : Array (Nat × Nat)

namespace CodeRanges

def span (item : List Char) : Nat × Nat :=
  match item.span (· != '-') with
  | (first, []) => (hexNumber first, hexNumber first)
  | (first, _ :: last) => (hexNumber first, hexNumber last)

def ofLines (lines : List String) : CodeRanges where
  spans := (lines.flatMap words).map span |>.toArray

def contains (r : CodeRanges) (c : Char) : Bool :=
  r.spans.any fun (first, last) => first ≤ c.toNat && c.toNat ≤ last

end CodeRanges

end ImageIntake.Text
