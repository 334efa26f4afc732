/-!
# White space, words and lines

Text is handled as a list of characters. White space and the line breaks are
those of Unicode; a carriage return followed by a line feed is one break.
A text that ends in a break has no empty last line.
-/

namespace InputPanel.Text

def isBlank (c : Char) : Bool :=
  let n := c.toNat
  (9 ≤ n && n ≤ 13) || (28 ≤ n && n ≤ 32) || n == 0x85 || n == 0xa0 || n == 0x1680 ||
    (0x2000 ≤ n && n ≤ 0x200a) || n == 0x2028 || n == 0x2029 || n == 0x202f ||
    n == 0x205f || n == 0x3000

def isLineBreak (c : Char) : Bool :=
  let n := c.toNat
  (10 ≤ n && n ≤ 13) || (28 ≤ n && n ≤ 30) || n == 0x85 || n == 0x2028 || n == 0x2029

theorem isBlank_of_isLineBreak {c : Char} (h : isLineBreak c = true) : isBlank c = true := by
  simp only [isLineBreak, isBlank, Bool.or_eq_true, Bool.and_eq_true, decide_eq_true_eq,
    beq_iff_eq] at h ⊢
  omega

def trimLeft (s : List Char) : List Char := s.dropWhile isBlank

/-- The text up to its last character that does not satisfy `p`. -/
def dropRightWhile (p : Char → Bool) : List Char → List Char
  | [] => []
  | c :: rest =>
    match dropRightWhile p rest with
    | [] => if p c then [] else [c]
    | d :: kept => c :: d :: kept

def trimRight (s : List Char) : List Char := dropRightWhile isBlank s

def trim (s : List Char) : List Char := trimRight (trimLeft s)

/-- The pieces between the characters that satisfy `p`; always one more than there are of those. -/
def piecesBy (p : Char → Bool) : List Char → List (List Char)
  | [] => [[]]
  | c :: rest =>
    match piecesBy p rest with
    | [] => [[c]]
    | piece :: pieces => if p c then [] :: piece :: pieces else (c :: piece) :: pieces

/-- The maximal runs of characters that are not white space. -/
def words (s : List Char) : List (List Char) :=
  (piecesBy isBlank s).filter (fun piece => !piece.isEmpty)

def lines : List Char → List (List Char)
  | [] => []
  | '\r' :: '\n' :: rest => [] :: lines rest
  | c :: rest =>
    if isLineBreak c then [] :: lines rest
    else
      match lines rest with
      | [] => [[c]]
      | line :: more => (c :: line) :: more

/-- The text before and after the first `mark`, if there is one. -/
def cutAt (mark : Char) : List Char → Option (List Char × List Char)
  | [] => none
  | c :: rest =>
    if c = mark then some ([], rest)
    else (cutAt mark rest).map fun (before, after) => (c :: before, after)

/-- Carriage returns, alone or before a line feed, read as line feeds. -/
def unifyLineEnds : List Char → List Char
  | [] => []
  | '\r' :: '\n' :: rest => '\n' :: unifyLineEnds rest
  | c :: rest => (if c = '\r' then '\n' else c) :: unifyLineEnds rest

/-- Whether `part` occurs somewhere in `s`. -/
def occursIn (part : List Char) : List Char → Bool
  | [] => part.isEmpty
  | c :: rest => part.isPrefixOf (c :: rest) || occursIn part rest

/-- A string without the white space at both ends. -/
def trimmed (s : String) : String := String.ofList (trim s.toList)

/-- The parts of a text between commas, without white space around them; blank ones are left out. -/
def commaSeparated (s : String) : List String :=
  let parts := (piecesBy (· == ',') s.toList).map trim
  (parts.filter fun part => !part.isEmpty).map String.ofList

end InputPanel.Text
