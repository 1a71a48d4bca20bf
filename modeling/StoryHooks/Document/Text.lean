/-!
# The characters of TOML

Blanks, line ends, comments and the four kinds of quoted strings. A reader gets the characters that
are left and returns what it has read with the characters after it, or nothing at all.
-/

namespace StoryHooks.Document

abbrev Reader (α : Type) := List Char → Option (α × List Char)

def isBlank (c : Char) : Bool := c == ' ' || c == '\t'

/-- What may stand in a comment and in a literal string. -/
def isPlain (c : Char) : Bool := c == '\t' || (0x20 ≤ c.toNat && c.toNat != 0x7F)

def skipBlanks (cs : List Char) : List Char := cs.dropWhile isBlank

/-- What follows a line end, if there is one here. -/
def lineEnd? : List Char → Option (List Char)
  | '\n' :: cs => some cs
  | '\r' :: '\n' :: cs => some cs
  | _ => none

/-- What follows a comment, from its mark up to the line end. -/
def skipCommentBody : List Char → Option (List Char)
  | [] => some []
  | c :: cs =>
    if (lineEnd? (c :: cs)).isSome then some (c :: cs)
    else if isPlain c then skipCommentBody cs
    else none

def skipComment : List Char → Option (List Char)
  | '\x23' :: cs => skipCommentBody cs
  | cs => some cs

def skipLines : Nat → List Char → Option (List Char)
  | 0, cs => some cs
  | fuel + 1, cs => do
    let cs ← skipComment (skipBlanks cs)
    match lineEnd? cs with
    | some cs => skipLines fuel cs
    | none => some cs

/-- The rest of a line after an entry or a header: blanks, a comment, a line end or the end. -/
def finishLine (cs : List Char) : Option (List Char) := do
  match ← skipComment (skipBlanks cs) with
  | [] => some []
  | cs => lineEnd? cs

def hexValue? (digits : List Char) : Option Nat :=
  digits.foldlM (fun n c =>
    if c.isDigit then some (16 * n + (c.toNat - '0'.toNat))
    else if 'a' ≤ c && c ≤ 'f' then some (16 * n + (c.toNat - 'a'.toNat + 10))
    else if 'A' ≤ c && c ≤ 'F' then some (16 * n + (c.toNat - 'A'.toNat + 10))
    else none) 0

/-- The character of a code point, given by its hexadecimal digits. -/
def codePoint? (digits : List Char) : Option Char := do
  let n ← hexValue? digits
  if n < 0xD800 ∨ (0xDFFF < n ∧ n < 0x110000) then some (Char.ofNat n) else none

/-- The character of an escape, after its backslash. -/
def escape : Reader Char
  | 'b' :: cs => some ('\x08', cs)
  | 't' :: cs => some ('\t', cs)
  | 'n' :: cs => some ('\n', cs)
  | 'f' :: cs => some ('\x0c', cs)
  | 'r' :: cs => some ('\r', cs)
  | 'e' :: cs => some ('\x1b', cs)
  | '\x22' :: cs => some ('\x22', cs)
  | '\\' :: cs => some ('\\', cs)
  | 'x' :: a :: b :: cs => (codePoint? [a, b]).map fun x => (x, cs)
  | 'u' :: a :: b :: c :: d :: cs => (codePoint? [a, b, c, d]).map fun x => (x, cs)
  | 'U' :: a :: b :: c :: d :: e :: f :: g :: h :: cs =>
    (codePoint? [a, b, c, d, e, f, g, h]).map fun x => (x, cs)
  | _ => none

/-- A string between double quotes, after the first. -/
def basicBody : Nat → Reader (List Char)
  | 0, _ => none
  | _ + 1, [] => none
  | _ + 1, '\x22' :: cs => some ([], cs)
  | fuel + 1, '\\' :: cs => do
    let (c, cs) ← escape cs
    let (s, cs) ← basicBody fuel cs
    some (c :: s, cs)
  | fuel + 1, c :: cs =>
    if isPlain c then (basicBody fuel cs).map fun (s, cs) => (c :: s, cs) else none

def literalBody : Reader (List Char)
  | [] => none
  | '\x27' :: cs => some ([], cs)
  | c :: cs => if isPlain c then (literalBody cs).map fun (s, cs) => (c :: s, cs) else none

/-- The quotes that end a string of several lines: three, after up to two that belong to it. -/
def closing (quote : Char) (cs : List Char) : Option (List Char × List Char) :=
  let count := min 5 (cs.takeWhile fun c => c == quote).length
  if 3 ≤ count then some (List.replicate (count - 3) quote, cs.drop count) else none

def skipBlankLines : Nat → List Char → List Char
  | 0, cs => cs
  | fuel + 1, cs =>
    match lineEnd? (skipBlanks cs) with
    | some cs => skipBlankLines fuel cs
    | none => skipBlanks cs

/-- What follows a backslash at the end of a line and all blanks and line ends after it. -/
def continuation? (cs : List Char) : Option (List Char) :=
  (lineEnd? (skipBlanks cs)).map fun rest => skipBlankLines rest.length rest

/-- A string between triple double quotes, after the first three. -/
def multilineBasicBody : Nat → Reader (List Char)
  | 0, _ => none
  | _ + 1, [] => none
  | fuel + 1, '\\' :: cs =>
    match continuation? cs with
    | some cs => multilineBasicBody fuel cs
    | none => do
      let (c, cs) ← escape cs
      let (s, cs) ← multilineBasicBody fuel cs
      some (c :: s, cs)
  | fuel + 1, '\r' :: '\n' :: cs =>
    (multilineBasicBody fuel cs).map fun (s, cs) => ('\r' :: '\n' :: s, cs)
  | fuel + 1, c :: cs =>
    match closing '\x22' (c :: cs) with
    | some done => some done
    | none =>
      if isPlain c || c == '\n' then
        (multilineBasicBody fuel cs).map fun (s, cs) => (c :: s, cs)
      else none

def multilineLiteralBody : Nat → Reader (List Char)
  | 0, _ => none
  | _ + 1, [] => none
  | fuel + 1, '\r' :: '\n' :: cs =>
    (multilineLiteralBody fuel cs).map fun (s, cs) => ('\r' :: '\n' :: s, cs)
  | fuel + 1, c :: cs =>
    match closing '\x27' (c :: cs) with
    | some done => some done
    | none =>
      if isPlain c || c == '\n' then
        (multilineLiteralBody fuel cs).map fun (s, cs) => (c :: s, cs)
      else none

def dropLineEnd (cs : List Char) : List Char := (lineEnd? cs).getD cs

def shortString : Reader String
  | '\x22' :: cs => (basicBody (cs.length + 1) cs).map fun (s, cs) => (String.ofList s, cs)
  | '\x27' :: cs => (literalBody cs).map fun (s, cs) => (String.ofList s, cs)
  | _ => none

/-- A quoted string of any kind. A line end right after three quotes does not belong to it. -/
def anyString : Reader String
  | '\x22' :: '\x22' :: '\x22' :: cs =>
    let cs := dropLineEnd cs
    (multilineBasicBody (cs.length + 1) cs).map fun (s, cs) => (String.ofList s, cs)
  | '\x27' :: '\x27' :: '\x27' :: cs =>
    let cs := dropLineEnd cs
    (multilineLiteralBody (cs.length + 1) cs).map fun (s, cs) => (String.ofList s, cs)
  | cs => shortString cs

/-- What may stand in a key without quotes. -/
def isBare (c : Char) : Bool := c.isAlphanum || c == '_' || c == '-'

def keyPart (cs : List Char) : Option (String × List Char) :=
  match cs with
  | '\x22' :: _ | '\x27' :: _ => shortString cs
  | cs =>
    let part := cs.takeWhile isBare
    if part.isEmpty then none else some (String.ofList part, cs.dropWhile isBare)

/-- A key of up to so many parts with dots between them, blanks allowed around the dots. The last
part comes apart from those before it. Blanks after the key are skipped. -/
def keyUpTo : Nat → Reader (List String × String)
  | 0, _ => none
  | parts + 1, cs => do
    let (part, cs) ← keyPart cs
    match skipBlanks cs with
    | '.' :: cs =>
      let ((path, last), cs) ← keyUpTo parts (skipBlanks cs)
      some ((part :: path, last), cs)
    | cs => some (([], part), cs)

/-- How deep arrays and inline tables may nest, and how many parts a key may have. -/
def maxNesting : Nat := 80

def key : Reader (List String × String) := keyUpTo maxNesting

end StoryHooks.Document
