import ModHost.Letters
import ModHost.Script.ParseError

set_option autoImplicit false

/-!
# Tokens

The lexer reads one token at a time from a cursor, because the parser decides when a
text literal goes on after an interpolated block. Every scan is a recursion on the
characters that are left.
-/

namespace ModHost.Script

inductive Token where
  | int (n : Int64)
  | float (x : Float)
  | char (c : Char)
  | str (s : String)
  | text (s : String)
  | name (s : String)
  | fixed (s : String)
  | reserved (s : String)
  | invalid (e : LexError)
  | eof
deriving Inhabited

namespace Token

def keywords : List String :=
  ["true", "false", "let", "const", "if", "else", "switch", "do", "while", "until", "loop",
   "for", "in", "fn", "private", "import", "export", "as", "return", "break", "continue",
   "throw", "try", "catch", "_"]

def functionWords : List String :=
  ["print", "debug", "type_of", "eval", "Fn", "call", "curry", "is_shared", "is_def_fn",
   "is_def_var"]

def methodWords : List String := ["type_of", "call", "curry", "is_shared", "Fn", "eval"]

def reservedWords : List String :=
  functionWords ++
  ["this", "public", "protected", "super", "new", "use", "module", "package", "var", "static",
   "shared", "with", "is", "goto", "match", "case", "default", "void", "null", "nil", "spawn",
   "thread", "go", "sync", "async", "await", "yield"]

/-- Keywords and operators after which a value is due, so that a minus before a digit is
the sign of a number. -/
def expectsValue : Token → Bool
  | fixed s =>
    [";", ":", ",", "??", "..", "..=", "\x7b", "(", "[", "+", "+=", "-", "-=", "*", "*=", "/",
     "/=", "%", "%=", "**", "**=", "<<", "<<=", ">>", ">>=", "=", "==", "!=", "<", ">", "!",
     "<=", ">=", "|", "&", "if", "while", "until", "in", "!in", "&&", "&=", "||", "|=", "^",
     "^=", "return", "throw"].contains s
  | _ => false

def spelling : Token → String
  | int n => toString n.toInt
  | float _ => "float"
  | char c => String.ofList ['\'', c, '\'']
  | str s => "\"" ++ s ++ "\""
  | text s => s
  | name s | fixed s | reserved s => s
  | invalid e => e.message
  | eof => ""

end Token

structure Cursor where
  rest : List Char
  pos : Position
deriving Inhabited

namespace Cursor

def ofString (s : String) : Cursor := ⟨s.toList, .start⟩

def step (c : Cursor) : Cursor := ⟨c.rest.tail, c.pos.advance⟩

def steps (c : Cursor) : Nat → Cursor
  | 0 => c
  | n + 1 => c.step.steps n

def stepLine (c : Cursor) : Cursor :=
  match c.rest with
  | '\n' :: rest => ⟨rest, c.pos.newLine⟩
  | _ => c.step

end Cursor

def isNameStart (c : Char) : Bool := c.isAlpha || c = '_'

def isNameChar (c : Char) : Bool := c.isAlphanum || c = '_'

def isHexDigit (c : Char) : Bool :=
  c.isDigit || ('a' ≤ c && c ≤ 'f') || ('A' ≤ c && c ≤ 'F')

def hexValue (c : Char) : Nat :=
  if c.isDigit then c.toNat - 48
  else if 'a' ≤ c && c ≤ 'f' then c.toNat - 87
  else c.toNat - 55

def readHex (cs : List Char) : Nat := cs.foldl (fun n c => 16 * n + hexValue c) 0

/-- Value of a decimal literal, underscores removed: an integer if it fits 64 bits, with
its sign. -/
def numberOfText (negative : Bool) (cs : List Char) : Option Token :=
  let digits := cs.takeWhile Char.isDigit
  let rest := cs.dropWhile Char.isDigit
  let value (ds : List Char) : Nat := ds.foldl (fun n c => 10 * n + (c.toNat - 48)) 0
  let (fraction, rest) := match rest with
    | '.' :: r => (r.takeWhile Char.isDigit, r.dropWhile Char.isDigit)
    | r => ([], r)
  let exponent : Option Int := match rest with
    | [] => some 0
    | 'e' :: '+' :: r => if r ≠ [] ∧ r.all Char.isDigit then some (value r : Int) else none
    | 'e' :: '-' :: r => if r ≠ [] ∧ r.all Char.isDigit then some (-(value r : Int)) else none
    | 'e' :: r => if r ≠ [] ∧ r.all Char.isDigit then some (value r : Int) else none
    | _ => none
  if cs.all Char.isDigit ∧ value cs < 1 <<< 63 + negative.toNat then
    some (.int (Int64.ofInt (if negative then -(value cs : Int) else value cs)))
  else exponent.map fun (e : Int) =>
    let scale : Int := e - (fraction.length : Int)
    let mantissa := value (digits ++ fraction)
    let x : Float :=
      if mantissa = 0 then 0
      else if scale + (digits ++ fraction).length > 400 then 1.0 / 0.0
      else if scale + (digits ++ fraction).length < -400 then 0
      else Float.ofScientific mantissa (scale < 0) scale.natAbs
    .float (if negative then -x else x)

def scanNumber : List Char → List Char → Bool → List Char × List Char
  | acc, [], _ => (acc.reverse, [])
  | acc, c :: rest, plain =>
    if c.isDigit || c = '_' then scanNumber (c :: acc) rest plain
    else if c = '.' && plain then
      match rest with
      | [] => (acc.reverse, [c])
      | d :: _ =>
        if d.isDigit then scanNumber ('.' :: acc) rest false
        else if d = '_' || d = '.' || isNameStart d then (acc.reverse, c :: rest)
        else scanNumber ('.' :: acc) rest false
    else if c = 'e' then
      match rest with
      | d :: more =>
        if d.isDigit then
          let (ds, after) := ((d :: more).takeWhile (fun x => x.isDigit || x = '_'),
            (d :: more).dropWhile (fun x => x.isDigit || x = '_'))
          (acc.reverse ++ 'e' :: ds, after)
        else if d = '+' || d = '-' then
          let (ds, after) := (more.takeWhile (fun x => x.isDigit || x = '_'),
            more.dropWhile (fun x => x.isDigit || x = '_'))
          (acc.reverse ++ 'e' :: d :: ds, after)
        else (acc.reverse, c :: rest)
      | [] => (acc.reverse, [c])
    else (acc.reverse, c :: rest)

/-- Number of radix `2 ^ bits` after its `0x`, `0o` or `0b` mark. -/
def radixNumber (negative : Bool) (mark : List Char) (bits : Nat) (digits : List Char) :
    Token :=
  let ds := digits.filter (· ≠ '_')
  let n := ds.foldl (fun n c => n <<< bits + hexValue c) 0
  if ds = [] ∨ ds.any (fun c => hexValue c ≥ 1 <<< bits) ∨ n ≥ UInt64.size then
    .invalid (.number (String.ofList ((if negative then ['-'] else []) ++ mark ++ ds)))
  else .int (Int64.ofInt (if negative then -(n : Int) else n))

def lexNumber (negative : Bool) (c : Cursor) : Token × Cursor :=
  let radix (mark : List Char) (bits : Nat) (ok : Char → Bool) (rest : List Char) :=
    let digits := rest.takeWhile (fun x => ok x || x = '_')
    (radixNumber negative mark bits digits, c.steps (mark.length + digits.length))
  match c.rest with
  | '0' :: 'x' :: rest => radix ['0', 'x'] 4 isHexDigit rest
  | '0' :: 'X' :: rest => radix ['0', 'X'] 4 isHexDigit rest
  | '0' :: 'o' :: rest => radix ['0', 'o'] 3 Char.isDigit rest
  | '0' :: 'O' :: rest => radix ['0', 'O'] 3 Char.isDigit rest
  | '0' :: 'b' :: rest => radix ['0', 'b'] 1 Char.isDigit rest
  | '0' :: 'B' :: rest => radix ['0', 'B'] 1 Char.isDigit rest
  | d :: rest =>
    let (cs, after) := scanNumber [d] rest true
    let used := c.rest.length - after.length
    let cs := cs.filter (· ≠ '_')
    match numberOfText negative cs with
    | some t => (t, c.steps used)
    | none =>
      let cs := if negative then '-' :: cs else cs
      (.invalid (.number (String.ofList cs)), c.steps used)
  | [] => (.eof, c)

inductive TextEnd where
  | closed
  | interpolation
deriving DecidableEq

/-- The character of an escape in a text between such quotes, how many characters of it were
read, or the faulty escape text. -/
def readEscape (quote : Char) : List Char → Except String (Char × Nat)
  | '\\' :: _ => .ok ('\\', 1)
  | 't' :: _ => .ok ('\t', 1)
  | 'n' :: _ => .ok ('\n', 1)
  | 'r' :: _ => .ok ('\r', 1)
  | c :: rest =>
    if c = quote then .ok (quote, 1)
    else
    let len := if c = 'x' then 2 else if c = 'u' then 4 else if c = 'U' then 8 else 0
    if len = 0 then .error (String.ofList ['\\', c])
    else
      let ds := rest.take len
      if ds.length = len ∧ ds.all isHexDigit then
        let n := readHex ds
        if n.isValidChar then .ok (Char.ofNat n, len + 1)
        else .error (String.ofList ('\\' :: c :: ds))
      else
        .error (String.ofList ('\\' :: c :: rest.takeWhile isHexDigit ++
          (rest.dropWhile isHexDigit).take 1))
  | [] => .error "\\"

def scanText (quote : Char) (start : Position) :
    Nat → List Char → Cursor → Except (LexError × Position) (String × TextEnd × Cursor)
  | 0, _, _ => .error (.openString, start)
  | fuel + 1, acc, c =>
    match c.rest with
    | [] => .error (.openString, start)
    | x :: rest =>
      if x = quote then
        match rest with
        | y :: _ =>
          if y = quote then scanText quote start fuel (quote :: acc) c.step.step
          else .ok (String.ofList acc.reverse, .closed, c.step)
        | [] => .ok (String.ofList acc.reverse, .closed, c.step)
      else if x = '\r' ∧ rest.head? = some '\n' then scanText quote start fuel acc c.step
      else if quote = '`' then
        if x = '$' ∧ rest.head? = some '{' then
          .ok (String.ofList acc.reverse, .interpolation, c.step)
        else scanText quote start fuel (x :: acc) c.stepLine
      else if x = '\\' then
        let returned := rest.head? = some '\r' ∧ rest.tail.head? = some '\n'
        let c := if returned then c.step else c
        match if returned then rest.tail else rest with
        | [] => .error (.openString, start)
        | '\n' :: _ =>
          if quote = '"' then
            let after := c.step.stepLine
            let blanks := (after.rest.takeWhile fun y => y = ' ' || y = '\t').take start.column
            scanText quote start fuel acc (after.steps blanks.length)
          else .error (.openString, start)
        | _ =>
          match readEscape quote rest with
          | .ok (y, n) => scanText quote start fuel (y :: acc) (c.steps (n + 1))
          | .error s => .error (.escape s, (c.steps s.length).pos)
      else if x = '\n' then .error (.openString, start)
      else scanText quote start fuel (x :: acc) c.step

def textToken (start : Position) (c : Cursor) : Token × Position × Cursor :=
  match scanText '`' start (c.rest.length + 1) [] c with
  | .ok (s, .closed, after) => (.str s, start, after)
  | .ok (s, .interpolation, after) => (.text s, start, after)
  | .error (e, p) => (.invalid e, p, { c with rest := [] })

def lexQuoted (c : Cursor) : Token × Position × Cursor :=
  let start := c.step.pos
  let body := c.step
  match c.rest with
  | '`' :: '\r' :: '\n' :: _ => textToken start body.step.stepLine
  | '`' :: '\n' :: _ => textToken start body.stepLine
  | '`' :: _ => textToken start body
  | '\'' :: '\'' :: rest =>
    if rest.head? = some '\'' then lexChar start body
    else (.invalid (.character ""), start, body.step)
  | '\'' :: _ => lexChar start body
  | _ =>
    match scanText '"' start (body.rest.length + 1) [] body with
    | .ok (s, _, after) => (.str s, start, after)
    | .error (e, p) => (.invalid e, p, { c with rest := [] })
where
  lexChar (start : Position) (body : Cursor) : Token × Position × Cursor :=
    match scanText '\'' start (body.rest.length + 1) [] body with
    | .ok (s, _, after) =>
      match s.toList with
      | [x] => (.char x, start, after)
      | _ => (.invalid (.character s), start, after)
    | .error (e, p) => (.invalid e, p, { body with rest := [] })

def disabledWords : List String := ["eval"]

def reservedToken (s : String) : Token :=
  match s with
  | "===" => bad "'===' is not a valid operator. This is not JavaScript! Should it be '=='?"
  | "!==" => bad "'!==' is not a valid operator. This is not JavaScript! Should it be '!='?"
  | "->" => bad "'->' is not a valid symbol. This is not C or C++!"
  | "<-" => bad "'<-' is not a valid symbol. This is not Go! Should it be '<='?"
  | ":=" => bad ("':=' is not a valid assignment operator. This is not Go or Pascal! " ++
      "Should it be simply '='?")
  | ":;" => bad "':;' is not a valid symbol. Should it be '::'?"
  | "::<" => bad "'::<>' is not a valid symbol. This is not Rust! Should it be '::'?"
  | "(*" | "*)" => bad ("'(* .. *)' is not a valid comment format. This is not Pascal! " ++
      "Should it be '/* .. */'?")
  | "# \x7b" => bad "'#' is not a valid symbol. Should it be '#\x7b'?"
  | s =>
    if disabledWords.contains s then
      let kind := if isIdentifier s then "keyword" else "symbol"
      bad s!"reserved {kind} '{s}' is disabled"
    else .reserved s
where
  bad (reason : String) : Token := .invalid (.symbol s reason)

def wordToken (s : String) : Token :=
  if Token.keywords.contains s then .fixed s
  else if Token.reservedWords.contains s then reservedToken s
  else if isIdentifier s then .name s
  else .invalid (.identifier s)

/-- Operators and marks, longest first; `true` for those that the language only keeps. -/
def marks : List (String × Bool) :=
  [("**=", false), ("..=", false), ("<<=", false), (">>=", false), ("===", true), ("!==", true),
   ("...", true), ("::<", true),
   ("#\x7b", false), ("# \x7b", true), ("#!", true), ("()", false), ("(*", true), ("*)", true),
   ("+=", false), ("++", true), ("-=", false), ("->", true), ("--", true), ("**", false),
   ("*=", false), ("/=", false), ("..", false), ("==", false), ("=>", false), ("?.", false),
   ("??", false), ("?[", false), ("::", false), (":=", true), (":;", true), ("<=", false),
   ("<-", true), ("<<", false), ("<|", true), (">=", false), (">>", false), ("!=", false),
   ("!.", true), ("||", false), ("|=", false), ("|>", true), ("&&", false), ("&=", false),
   ("^=", false), ("%=", false),
   ("\x7b", false), ("\x7d", false), ("(", false), (")", false), ("[", false), ("]", false),
   ("#", true), ("+", false), ("-", false), ("*", false), ("/", false), (";", false),
   (",", false), (".", false), ("=", false), ("?", true), (":", false), ("<", false),
   (">", false), ("!", false), ("|", false), ("&", false), ("^", false), ("~", true),
   ("%", false), ("@", true), ("$", true)]

def markAt? (cs : List Char) : Option (String × Bool) :=
  marks.find? fun (s, _) => s.toList.isPrefixOf cs

/-- What is left after a block comment, whose depth is given. -/
def skipComment : Nat → Nat → Cursor → Cursor
  | 0, _, c => c
  | fuel + 1, depth, c =>
    match c.rest with
    | [] => c
    | '*' :: '/' :: _ =>
      if depth ≤ 1 then c.step.step else skipComment fuel (depth - 1) c.step.step
    | '/' :: '*' :: _ => skipComment fuel (depth + 1) c.step.step
    | _ => skipComment fuel depth c.stepLine

def skipLine (c : Cursor) : Cursor := c.steps (c.rest.takeWhile (· ≠ '\n')).length

def skipBlanks : Nat → Cursor → Cursor
  | 0, c => c
  | fuel + 1, c =>
    match c.rest with
    | '/' :: '/' :: _ => skipBlanks fuel (skipLine c)
    | '/' :: '*' :: _ => skipBlanks fuel (skipComment (c.rest.length + 1) 1 c.step.step)
    | '\n' :: _ => skipBlanks fuel c.stepLine
    | x :: _ => if isBlank x then skipBlanks fuel c.step else c
    | [] => c

/-- The next token, its place, and the cursor after it. Where a value is due, a minus
before a digit belongs to the number. -/
def nextToken (valueDue : Bool) (c : Cursor) : Token × Position × Cursor :=
  let c := skipBlanks (c.rest.length + 1) c
  let start := c.step.pos
  match c.rest with
  | [] => (.eof, start, c)
  | x :: rest =>
    if isNameStart x then
      let word := c.rest.takeWhile isNameChar
      (wordToken (String.ofList word), start, c.steps word.length)
    else if x.isDigit then
      let (t, after) := lexNumber false c
      (t, start, after)
    else if x = '-' && valueDue && rest.head?.any Char.isDigit then
      let (t, after) := lexNumber true c.step
      (t, start, after)
    else if x = '"' || x = '\'' || x = '`' then lexQuoted c
    else if x = '!' && ['i', 'n'].isPrefixOf rest && !((rest.drop 2).head?.any isNameChar) then
      (.fixed "!in", start, c.steps 3)
    else
      match markAt? c.rest with
      | some (s, isReserved) =>
        (if isReserved then reservedToken s else .fixed s, start, c.steps s.length)
      | none => (.invalid (.unexpected (String.ofList [x])), start, c.step)

end ModHost.Script
