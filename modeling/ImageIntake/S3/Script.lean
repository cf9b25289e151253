import ImageIntake.S3.Request

namespace ImageIntake.S3

structure Rule where
  method : Option String := none
  pathSuffix : Option String := none
  usesLeft : Option Nat := none
  outcome : Outcome

namespace Rule

def appliesTo (rule : Rule) (r : Request) : Bool :=
  rule.usesLeft != some 0 &&
    (match rule.method with
      | none => true
      | some method => method == r.method) &&
    (match rule.pathSuffix with
      | none => true
      | some suffix => suffix.toList.isSuffixOf r.path.toList)

def used (rule : Rule) : Rule := { rule with usesLeft := rule.usesLeft.map (· - 1) }

end Rule

def applyRules (r : Request) : List Rule → Option Outcome × List Rule
  | [] => (none, [])
  | rule :: rest =>
      if rule.appliesTo r then (some rule.outcome, rule.used :: rest)
      else
        let (outcome, rest) := applyRules r rest
        (outcome, rule :: rest)

structure Script where
  rules : List Rule
  log : List Request := []

def defaultOutcome : Outcome := .response { status := 200, headers := [], chunks := [] }

instance : Transport Script where
  send r s :=
    let (outcome, rules) := applyRules r s.rules
    (outcome.getD defaultOutcome, { rules, log := r :: s.log })

end ImageIntake.S3
