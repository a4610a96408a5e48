namespace QueryConsole.Text

-- `c` folds to the lower-case ASCII character `small`. Under Unicode's simple case folding `s` is
-- met by the long s as well, and `k` by the sign for kelvin.
def foldsTo (small c : Char) : Bool :=
  c.toLower = small || (small = 's' && c = 'ſ') || (small = 'k' && c = '\u212a')

-- The text starts with `word`, which is written in lower case.
def startsWithFolded : (word : List Char) → List Char → Bool
  | [], _ => true
  | _ :: _, [] => false
  | w :: word, c :: cs => foldsTo w c && startsWithFolded word cs

def afterFolded? (word cs : List Char) : Option (List Char) :=
  if startsWithFolded word cs then some (cs.drop word.length) else none

def holds (word : List Char) : List Char → Bool
  | [] => word.isEmpty
  | c :: rest => word.isPrefixOf (c :: rest) || holds word rest

-- What comes after the first `n` bytes of the encoded text; none if the `n`-th byte is not the last
-- one of a character.
def dropBytes? : (n : Nat) → List Char → Option (List Char)
  | 0, cs => some cs
  | _ + 1, [] => none
  | n + 1, c :: rest => if c.utf8Size ≤ n + 1 then dropBytes? (n + 1 - c.utf8Size) rest else none

theorem dropBytes?_length_of_ascii {as : List Char} (h : ∀ c ∈ as, c.utf8Size = 1)
    (cs : List Char) : dropBytes? as.length (as ++ cs) = some cs := by
  induction as with
  | nil => simp [dropBytes?]
  | cons a as ih =>
    have ha := h a List.mem_cons_self
    simp [dropBytes?, ha, ih fun c hc => h c (List.mem_cons_of_mem _ hc)]

end QueryConsole.Text
