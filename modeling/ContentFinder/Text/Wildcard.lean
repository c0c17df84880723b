/-! Wildcard patterns. A star stands for any run of characters, a question mark for one character,
and a backslash takes the next character as it is. -/

namespace ContentFinder.Text

inductive PatternPart where
  | anyRun
  | anyChar
  | exactly (c : Char)
deriving DecidableEq, Repr

/-- Reads a pattern. A backslash at the end stands for itself. -/
def readPattern : List Char → List PatternPart
  | [] => []
  | '*' :: rest => .anyRun :: readPattern rest
  | '?' :: rest => .anyChar :: readPattern rest
  | ['\\'] => [.exactly '\\']
  | '\\' :: c :: rest => .exactly c :: readPattern rest
  | c :: rest => .exactly c :: readPattern rest

/-- The places a part of a pattern can reach. Entry `i` of a row tells whether the parts so far
match the first `i` characters of the text. -/
def PatternPart.advance (part : PatternPart) (text : List Char) (row : List Bool) : List Bool :=
  match part with
  | .anyRun => spread false row
  | .anyChar => false :: row.take text.length
  | .exactly c => false :: List.zipWith (fun reached d => reached && d == c) row text
where
  spread (reached : Bool) : List Bool → List Bool
    | [] => []
    | here :: rest => (reached || here) :: spread (reached || here) rest

/-- Whether a pattern matches the whole of a text. One row is kept, so the work is bounded by the
product of the two lengths. -/
def matchesPattern (pattern : List PatternPart) (text : List Char) : Bool :=
  let start := true :: List.replicate text.length false
  (pattern.foldl (fun row part => part.advance text row) start).getLast?.getD false

def wildcardMatches (text pattern : String) : Bool :=
  matchesPattern (readPattern pattern.toList) text.toList

def escapeWildcards : List Char → List Char
  | [] => []
  | c :: rest =>
    if c = '*' ∨ c = '?' ∨ c = '\\' then '\\' :: c :: escapeWildcards rest
    else c :: escapeWildcards rest

end ContentFinder.Text
