import LintRepair.Campaign.Run

/-!
Campaigns whose collaborators answer from a script and leave the tree alone.
-/

namespace LintRepair

/-- Answers that are known beforehand. The last answer of the analyzer is repeated, and checks
beyond the known ones pass. -/
structure Script where
  verdicts : List Verdict
  texts : List (Option String)
  checks : Nat
  passes : Nat

namespace Script

def check (s : Script) (tree : Node) : Verdict × Script × Node :=
  (s.verdicts.headD (.ofStages []),
    { s with verdicts := s.verdicts.tail, checks := s.checks + 1 }, tree)

def analyze (s : Script) (tree : Node) : Option String × Script × Node :=
  let texts := match s.texts with
    | [last] => [last]
    | texts => texts.tail
  (s.texts.headD (some ""), { s with texts, passes := s.passes + 1 }, tree)

def collaborators : Collaborators Script := ⟨check, analyze⟩

end Script

end LintRepair
