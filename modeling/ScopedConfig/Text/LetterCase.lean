import ScopedConfig.Text.CaseTable

/-! Upper and lower case in full Unicode.  One character may map to several, as
the sharp s does.  Of the mappings that depend on their surroundings one is
kept: a capital sigma that ends a word becomes the final small sigma when a
whole text is put in lower case. -/
namespace ScopedConfig.Text

/-- The code point that the runs map `n` to, itself where none holds it. -/
def mapByRuns (runs : List CaseRun) (n : Nat) : Nat :=
  match runs.find? fun run => run.first ≤ n && n ≤ run.last && (n - run.first) % run.step == 0 with
  | some run => ((n : Int) + run.offset).toNat
  | none => n

/-- The case mapping given by a table of special mappings and one of runs. -/
def mapCase (special : List (Nat × List Nat)) (runs : List CaseRun) (c : Char) : Text :=
  match special.lookup c.toNat with
  | some points => points.map Char.ofNat
  | none => [Char.ofNat (mapByRuns runs c.toNat)]

/-- One of the first 128 code points. -/
def isAscii (c : Char) : Bool := c.toNat < 0x80

/-- The upper case of one character. -/
def upperChar (c : Char) : Text :=
  if isAscii c then [c.toUpper] else mapCase upperSpecial upperRuns c

/-- The lower case of one character, whatever stands around it. -/
def lowerChar (c : Char) : Text :=
  if isAscii c then [c.toLower] else mapCase lowerSpecial lowerRuns c

/-- An upper-case character. -/
def isUppercase (c : Char) : Bool := inRanges uppercaseRanges c

/-- A character that has case: upper, lower or title case. -/
def isCased (c : Char) : Bool := inRanges casedRanges c

/-- A character that a word may hold without its neighbours being parted. -/
def isCaseIgnorable (c : Char) : Bool := inRanges caseIgnorableRanges c

/-- Whether the first character that is not case-ignorable is cased. -/
def meetsCased (text : Text) : Bool :=
  (text.dropWhile isCaseIgnorable).head?.any isCased

/-- The text in upper case. -/
def upper (text : Text) : Text := text.flatMap upperChar

/-- The lower case of a text, given what stands before it, nearest first.  A
capital sigma is final if a cased character precedes it and none follows it,
case-ignorable characters passed over. -/
def lowerAfter (before : Text) : Text → Text
  | [] => []
  | c :: rest =>
    let mapped :=
      if c = 'Σ' then [if meetsCased before && !meetsCased rest then 'ς' else 'σ']
      else lowerChar c
    mapped ++ lowerAfter (c :: before) rest

/-- The text in lower case. -/
def lower (text : Text) : Text := lowerAfter [] text

/-- The first character in upper case and the others in lower case. -/
def capitalize : Text → Text
  | [] => []
  | c :: rest => upperChar c ++ rest.flatMap lowerChar

/-- Every word capitalized, given whether a word may start here; what parts the
words is kept. -/
def titleFrom (atStart : Bool) : Text → Text
  | [] => []
  | c :: rest =>
    if isBlank c then c :: titleFrom true rest
    else (if atStart then upperChar c else lowerChar c) ++ titleFrom false rest

/-- Every word capitalized. -/
def title (text : Text) : Text := titleFrom true text

/-- Upper-case characters in lower case, and all others in upper case. -/
def swapCase (text : Text) : Text :=
  text.flatMap fun c => if isUppercase c then lowerChar c else upperChar c

end ScopedConfig.Text
