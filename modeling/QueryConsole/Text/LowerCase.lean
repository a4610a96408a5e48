import QueryConsole.Text.CaseTable

-- Lower case of a whole text. Characters map one by one, with two exceptions: a dotted capital I
-- becomes two characters, and a capital sigma takes its final form at the end of a word.
namespace QueryConsole.Text

def inRanges (ranges : List (Nat × Nat)) (c : Char) : Bool :=
  ranges.any fun (first, last) => first ≤ c.toNat && c.toNat ≤ last

def CaseRun.contains (run : CaseRun) (n : Nat) : Bool :=
  run.first ≤ n && n ≤ run.last && (n - run.first) % run.step == 0

-- The small letter of a capital; any other character is its own.
def smallLetter (c : Char) : Char :=
  if c.toNat < 128 then
    c.toLower
  else
    match caseRuns.find? (·.contains c.toNat) with
    | some run => .ofNat (run.small + (c.toNat - run.first))
    | none => c

-- The next letter, past the characters that carry no case information of their own, has a case.
def meetsCased (cs : List Char) : Bool :=
  match cs.dropWhile (inRanges caseIgnorableRanges) with
  | [] => false
  | c :: _ => inRanges casedRanges c

-- A sigma is final when a cased letter comes before it in its word and none after it.
def isFinalSigma (before after : List Char) : Bool :=
  meetsCased before && !meetsCased after

-- Lower case of the text that follows `before`, which is given backwards.
def lowerAfter (before : List Char) : List Char → List Char
  | [] => []
  | c :: rest =>
    let small :=
      if c = 'Σ' then [if isFinalSigma before rest then 'ς' else 'σ']
      else if c = 'İ' then ['i', '\u0307']
      else [smallLetter c]
    small ++ lowerAfter (c :: before) rest

def lower (cs : List Char) : List Char :=
  lowerAfter [] cs

def lowerCase (s : String) : String :=
  .ofList (lower s.toList)

theorem smallLetter_of_ascii {c : Char} (h : c.toNat < 128) : smallLetter c = c.toLower := by
  simp [smallLetter, h]

end QueryConsole.Text
