import TagOrder.Text.CaseTable

/-!
# Letter case of texts

Small and title forms of a text under the full case mappings. A capital sigma at the end of a
word becomes a final sigma; what counts as the end of a word looks past the characters that case
context ignores.
-/

namespace TagOrder

/-- Characters that have case. -/
def cased : CharSet := ⟨casedBounds⟩

/-- Characters that case context looks past. -/
def caseIgnorable : CharSet := ⟨caseIgnorableBounds⟩

/-- The code point that a list of runs gives for a code point. -/
def CaseRun.lookup (runs : List CaseRun) (code : Nat) : Option Nat :=
  (runs.find? fun run =>
    run.first ≤ code && code ≤ run.last && (code - run.first) % run.step == 0).map fun run =>
      (Int.ofNat code + run.delta).toNat

/-- The small form of one character out of context. -/
def smallLetters (c : Char) : List Char :=
  if c.toNat = 304 then ['i', Char.ofNat 775]
  else match CaseRun.lookup lowerRuns c.toNat with
    | some code => [Char.ofNat code]
    | none => [c]

/-- The title form of one character. -/
def titleLetters (c : Char) : List Char :=
  match titleSequences.lookup c.toNat with
  | some codes => codes.map Char.ofNat
  | none => match CaseRun.lookup titleRuns c.toNat with
    | some code => [Char.ofNat code]
    | none => [c]

/-- Whether the nearest character that case context does not look past has case. -/
def nextIsCased (rest : List Char) : Bool :=
  ((rest.dropWhile caseIgnorable.has).head?).any cased.has

/-- The small form of a character, given what stands before it (nearest first) and after it. -/
def smallInContext (before : List Char) (c : Char) (after : List Char) : List Char :=
  if c = 'Σ' then
    (if nextIsCased before && !nextIsCased after then ['ς'] else ['σ'])
  else smallLetters c

/-- The small form of a text, given what stands before it (nearest first). -/
def lowerFrom (before : List Char) : List Char -> List Char
  | [] => []
  | c :: rest => smallInContext before c rest ++ lowerFrom (c :: before) rest

/-- The small form of a text. -/
def lowerText (text : String) : String := String.ofList (lowerFrom [] text.toList)

/-- The title form of a text, given what stands before it (nearest first): a character after one
that has case is made small, any other takes its title form. -/
def titleFrom (before : List Char) : List Char -> List Char
  | [] => []
  | c :: rest =>
    (if before.head?.any cased.has then smallInContext before c rest else titleLetters c)
      ++ titleFrom (c :: before) rest

/-- The title form of a text. -/
def titleText (text : String) : String := String.ofList (titleFrom [] text.toList)

end TagOrder
