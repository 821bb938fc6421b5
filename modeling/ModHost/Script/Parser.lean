import ModHost.Script.Token
import ModHost.Script.Syntax

set_option autoImplicit false

/-!
# Parser

Tokens to syntax trees, by recursive descent with one token of lookahead and
precedence climbing. The parser knows which variables are in scope, because an
anonymous function captures every variable it does not define itself. Every function
takes fuel; `Program.compile` gives more than the source can use.
-/

namespace ModHost.Script

structure Surroundings where
  isGlobal : Bool
  inFunction : Bool
  inLoop : Bool

structure ParseState where
  cursor : Cursor
  ahead : Option (Token × Position)
  /-- Whether a value is due after the last token read. -/
  valueDue : Bool
  scope : List (String × Bool)
  /-- Variables used but not defined by the function being read. -/
  captured : List (String × Position)
  functions : List FnDef
  closures : List FnDef

abbrev Parse := StateT ParseState (Except ParseError)

namespace Parse

def fail {α : Type} (cause : ParseCause) (pos : Position) : Parse α :=
  throw ⟨cause, pos⟩

def peek : Parse (Token × Position) := do
  let s ← get
  match s.ahead with
  | some t => pure t
  | none =>
    let (t, p, c) := nextToken s.valueDue s.cursor
    set { s with cursor := c, ahead := some (t, p), valueDue := t.expectsValue }
    pure (t, p)

def next : Parse (Token × Position) := do
  let t ← peek
  modify fun s => { s with ahead := none }
  pure t

def peekFixed (w : String) : Parse Bool := do
  match (← peek).1 with
  | .fixed s => pure (s = w)
  | _ => pure false

def accept (w : String) : Parse (Bool × Position) := do
  let (_, p) ← peek
  if ← peekFixed w then
    let _ ← next
    pure (true, p)
  else pure (false, p)

def reject {α : Type} (t : Token) (p : Position) (cause : ParseCause) : Parse α :=
  match t with
  | .invalid e => fail (.lexical e) p
  | _ => fail cause p

def rejectNext {α : Type} (cause : ParseCause) : Parse α := do
  let (t, p) ← peek
  reject t p cause

def expect (w purpose : String) : Parse Position := do
  let (ok, p) ← accept w
  if ok then pure p else rejectNext (.missing w purpose)

def define (name : String) (isConst : Bool) : Parse Unit :=
  modify fun s => { s with scope := (name, isConst) :: s.scope }

def inScope {α : Type} (p : Parse α) : Parse α := do
  let outer := (← get).scope
  let r ← p
  modify fun s => { s with scope := outer }
  pure r

/-- Whether a variable is in scope. One that is neither in scope nor a function counts
as captured. -/
def useVariable (name : String) (pos : Position) : Parse Bool := do
  let s ← get
  let isLocal := s.scope.any (·.1 = name)
  let isFunction := s.functions.any (·.name = name)
  if !isLocal && !isFunction && !s.captured.any (·.1 = name) then
    set { s with captured := s.captured ++ [(name, pos)] }
  pure isLocal

def variableName : Parse (String × Position) := do
  let (t, p) ← next
  match t with
  | .name s => pure (s, p)
  | .reserved s => fail (.reserved s) p
  | t => reject t p .variableExpected

end Parse

open Parse

def Expr.kind? (forLoop : Bool) : Expr → Option String
  | .const (.int _) _ => some "a number"
  | .const (.float _) _ => some "a floating-point number"
  | .const (.char _) _ => some "a character"
  | .const .unit _ => some "()"
  | .const (.bool _) _ => if forLoop then some "a boolean" else none
  | .const (.str _) _ => if forLoop then none else some "a string"
  | .interpolated .. => if forLoop then none else some "a string"
  | .array .. => if forLoop then none else some "an array"
  | .map .. => some "an object map"
  | .and .. | .or .. => if forLoop then some "a boolean" else none
  | _ => none

def wantBool (e : Expr) : Parse Expr :=
  match e.kind? false with
  | some k => fail (.mismatch "a boolean expression" k) e.startPos
  | none => pure e

def wantIterable (e : Expr) : Parse Expr :=
  match e.kind? true with
  | some k => fail (.mismatch "an iterable value" k) e.startPos
  | none => pure e

def refuseBlock : Parse Unit := do
  if ← peekFixed "\x7b" then
    fail (.expressionExpected "a boolean") (← peek).2

def refuseAssignment : Parse Unit := do
  if ← peekFixed "=" then
    fail (.lexical (.symbol "=" "Possibly a typo of '=='?")) (← peek).2

/-- Faults of an index that can be seen from the literals on both sides. -/
def indexFault? (root idx : Expr) : Option String :=
  let what : Option String := match idx with
    | .const (.int _) _ => some "a number"
    | .const (.str _) _ | .interpolated .. => some "a string"
    | .const (.float _) _ => some "a float"
    | .const (.char _) _ => some "a character"
    | .const .unit _ => some "()"
    | .const (.bool _) _ | .and .. | .or .. => some "a boolean"
    | _ => none
  match root with
  | .map .. =>
    what.bind fun w =>
      if w = "a string" then none else some s!"Object map expects string index, not {w}"
  | .const (.int _) _ | .const (.str _) _ | .interpolated .. | .array .. =>
    what.bind fun w =>
      if w = "a number" then none
      else some s!"Array, string or bit-field expects numeric index, not {w}"
  | _ => none

/-- Place at which an assignment target is faulty. -/
def targetFault? : List Link → Option Position
  | [] => none
  | links => links.findSome? fun l => match l with
    | .method _ _ _ _ p => some p
    | _ => none

def assignment (operator : Option String) (lhs rhs : Expr) (pos : Position) : Parse Stmt := do
  match lhs with
  | .this _ => pure (.assign operator lhs rhs pos)
  | .var name isLocal p =>
    let isConst := isLocal && ((← get).scope.find? (·.1 = name)).any (·.2)
    if isConst then fail (.constantAssigned name) p
    else pure (.assign operator lhs rhs pos)
  | .chain root links =>
    match targetFault? links with
    | some p => fail .notAssignable p
    | none =>
      match root with
      | .var .. | .this .. => pure (.assign operator lhs rhs pos)
      | _ => fail .notAssignable root.pos
  | .const _ _ => fail (.constantAssigned "") lhs.startPos
  | .array .. | .map .. =>
    if lhs.literal?.isSome then fail (.constantAssigned "") lhs.startPos
    else fail .notAssignable lhs.pos
  | .and .. | .or .. | .coalesce .. =>
    if operator.isNone then fail (.lexical (.symbol "=" "Possibly a typo of '=='?")) pos
    else fail .notAssignable lhs.pos
  | _ => fail .notAssignable lhs.pos

def precedence : Token → Nat
  | .fixed s => match s with
    | "||" | "^" | "|" => 30
    | "&&" | "&" => 60
    | "==" | "!=" => 90
    | "in" | "!in" => 110
    | "<" | "<=" | ">" | ">=" => 130
    | "??" => 135
    | ".." | "..=" => 140
    | "+" | "-" => 150
    | "*" | "/" | "%" => 180
    | "**" => 190
    | "<<" | ">>" => 210
    | _ => 0
  | _ => 0

def bindsRight : Token → Bool
  | .fixed s => s = "**"
  | _ => false

/-- Precedence where `|` separates the literals of a switch arm. -/
def armPrecedence (inArm : Bool) (t : Token) : Nat :=
  match t with
  | .fixed "|" => if inArm then 0 else precedence t
  | _ => precedence t

/-- Marks that the language only keeps are no operators. -/
def refuseUnknown (t : Token) (p : Position) : Parse Unit :=
  match t with
  | .reserved s => if isIdentifier s then pure () else fail (.unknownOperator s) p
  | _ => pure ()

def assignmentOperator? : Token → Option String
  | .fixed s => match s with
    | "+=" => some "+" | "-=" => some "-" | "*=" => some "*" | "/=" => some "/"
    | "%=" => some "%" | "**=" => some "**" | "<<=" => some "<<" | ">>=" => some ">>"
    | "&=" => some "&" | "|=" => some "|" | "^=" => some "^"
    | _ => none
  | _ => none

def binary (op : String) (l r : Expr) (pos : Position) : Parse Expr := do
  match op with
  | "||" =>
    let l ← wantBool l
    let r ← wantBool r
    pure (.or l r pos)
  | "&&" =>
    let l ← wantBool l
    let r ← wantBool r
    pure (.and l r pos)
  | "??" => pure (.coalesce l r pos)
  | "in" => pure (.call "contains" [r, l] true pos)
  | "!in" => pure (.call "!" [.call "contains" [r, l] true pos] true pos)
  | op => pure (.call op [l, r] true pos)

def negated (e : Expr) (pos : Position) : Expr :=
  match e with
  | .const (.int n) _ =>
    if n = Int64.minValue then .const (.float (Float.neg (Float.ofInt n.toInt))) pos
    else .const (.int (-n)) pos
  | .const (.float x) _ => .const (.float (-x)) pos
  | e => .call "-" [e] true pos

def anonymousName (n : Nat) : String :=
  let ds := Nat.toDigits 16 n
  anonymousMark ++ String.ofList (List.replicate (16 - ds.length) '0' ++ ds)

/-- A closure over captured variables: share them, then give them as first arguments. -/
def captureExpr (fnValue : Expr) (captured : List (String × Position)) (locals : List Bool)
    (pos : Position) : Expr :=
  if captured.isEmpty then fnValue
  else
    let vars := (captured.zip locals).map fun ((n, p), l) => Expr.var n l p
    .block [.share captured, .expr (.call "curry" (fnValue :: vars) false pos)] pos

mutual

def parseStmt (at_ : Surroundings) : Nat → Parse Stmt
  | 0 => do fail .tooComplex (← peek).2
  | fuel + 1 => do
    let (t, p) ← peek
    match t with
    | .eof => pure (.noop p)
    | .fixed ";" =>
      let _ ← next
      pure (.noop p)
    | .fixed "\x7b" =>
      let (stmts, bp) ← parseBlock at_ fuel
      pure (.block stmts bp)
    | .fixed "fn" =>
      if !at_.isGlobal then fail .nestedFunction p
      else
        let _ ← next
        parseFunction fuel p
    | .fixed "private" =>
      if !at_.isGlobal then fail .nestedFunction p
      else
        let _ ← next
        let (ok, fp) ← accept "fn"
        if ok then parseFunction fuel fp
        else rejectNext (.missing "fn" "following 'private'")
    | .fixed "if" => parseIf at_ fuel
    | .fixed "switch" => parseSwitch at_ fuel
    | .fixed "while" | .fixed "loop" => parseWhile at_ fuel
    | .fixed "do" => parseDo at_ fuel
    | .fixed "for" => parseFor at_ fuel
    | .fixed "continue" =>
      if !at_.inLoop then fail .outsideLoop p
      else
        let _ ← next
        pure (.exitLoop none false p)
    | .fixed "break" =>
      if !at_.inLoop then fail .outsideLoop p
      else
        let _ ← next
        let (t, _) ← peek
        match t with
        | .eof | .fixed "\x7d" | .fixed ";" => pure (.exitLoop none true p)
        | _ =>
          let e ← parseExpr at_ false fuel
          pure (.exitLoop (some e) true p)
    | .fixed "return" => parseLeave at_ false fuel
    | .fixed "throw" => parseLeave at_ true fuel
    | .fixed "try" => parseTry at_ fuel
    | .fixed "let" => parseLet at_ false fuel
    | .fixed "const" => parseLet at_ true fuel
    | .fixed "import" =>
      let _ ← next
      let e ← parseExpr at_ false fuel
      let (named, _) ← accept "as"
      if named then
        let _ ← variableName
        pure ()
      pure (.load e p)
    | .fixed "export" =>
      if !at_.isGlobal then fail .exportNested p
      else
        let _ ← next
        let (t, tp) ← peek
        match t with
        | .fixed "let" => parseLet at_ false fuel
        | .fixed "const" => parseLet at_ true fuel
        | _ =>
          let (name, np) ← variableName
          let isLocal ← useVariable name np
          let (named, _) ← accept "as"
          if named then
            let _ ← variableName
            pure ()
          pure (.define "" (.var name isLocal tp) true p)
    | _ => parseExprStmt at_ fuel

def parseLeave (at_ : Surroundings) (isThrow : Bool) : Nat → Parse Stmt
  | 0 => do fail .tooComplex (← peek).2
  | fuel + 1 => do
    let (_, p) ← next
    let (t, _) ← peek
    let bare := match t with
      | .eof | .fixed ";" => true
      | .fixed "\x7d" => !at_.isGlobal
      | _ => false
    if bare then pure (.leave none isThrow p)
    else
      let e ← parseExpr at_ false fuel
      pure (.leave (some e) isThrow p)

def parseExprStmt (at_ : Surroundings) : Nat → Parse Stmt
  | 0 => do fail .tooComplex (← peek).2
  | fuel + 1 => do
    let e ← parseExpr at_ false fuel
    let (t, p) ← peek
    match t with
    | .fixed "=" =>
      let _ ← next
      let rhs ← parseExpr at_ false fuel
      assignment none e rhs p
    | t =>
      match assignmentOperator? t with
      | some op =>
        let _ ← next
        let rhs ← parseExpr at_ false fuel
        assignment (some op) e rhs p
      | none => pure (Stmt.ofExpr e)

def parseBlock (at_ : Surroundings) : Nat → Parse (List Stmt × Position)
  | 0 => do fail .tooComplex (← peek).2
  | fuel + 1 => do
    let p ← expect "\x7b" "to start a statement block"
    let stmts ← inScope (parseItems { at_ with isGlobal := false } fuel)
    pure (stmts, p)

def parseItems (at_ : Surroundings) : Nat → Parse (List Stmt)
  | 0 => do fail .tooComplex (← peek).2
  | fuel + 1 => do
    let (t, p) ← peek
    match t with
    | .fixed "\x7d" =>
      let _ ← next
      pure []
    | .eof => fail (.missing "\x7d" "to terminate this block") p
    | _ =>
      let stmt ← parseStmt at_ fuel
      if stmt.isNoop then parseItems at_ fuel
      else
        if ← peekFixed "\x7d" then
          let _ ← next
          pure [stmt]
        else
          let (ended, _) ← accept ";"
          if ended || stmt.isSelfTerminated then
            let rest ← parseItems at_ fuel
            pure (stmt :: rest)
          else rejectNext (.missing ";" "to terminate this statement")

def parseIf (at_ : Surroundings) : Nat → Parse Stmt
  | 0 => do fail .tooComplex (← peek).2
  | fuel + 1 => do
    let (_, p) ← next
    refuseBlock
    let cond ← wantBool (← parseExpr at_ false fuel)
    refuseAssignment
    let (body, bp) ← parseBlock at_ fuel
    let (hasElse, _) ← accept "else"
    if hasElse then
      if ← peekFixed "if" then
        let s ← parseIf at_ fuel
        pure (.branch cond body bp [s] p)
      else
        let (alt, _) ← parseBlock at_ fuel
        pure (.branch cond body bp alt p)
    else pure (.branch cond body bp [] p)

def parseSwitch (at_ : Surroundings) : Nat → Parse Stmt
  | 0 => do fail .tooComplex (← peek).2
  | fuel + 1 => do
    let (_, p) ← next
    let subject ← parseExpr at_ false fuel
    let _ ← expect "\x7b" "to start a switch block"
    let cases ← parseCases at_ none false fuel
    pure (.switch subject cases p)

/-- Arms up to the closing brace; where the default arm was, and whether a range was
seen, decide what may follow. -/
def parseCases (at_ : Surroundings) (defaultAt : Option Position) (sawRange : Bool) :
    Nat → Parse (List SwitchCase)
  | 0 => do fail .tooComplex (← peek).2
  | fuel + 1 => do
    let (t, p) ← peek
    match t with
    | .fixed "\x7d" =>
      let _ ← next
      pure []
    | .eof => fail (.missing "\x7d" "to end this switch block") p
    | _ =>
      match defaultAt with
      | some dp => fail .switchDefault dp
      | none =>
        let (isDefault, dp) ← accept "_"
        let exprs ← if isDefault then pure [] else parseArm at_ fuel
        let (guarded, gp) ← accept "if"
        if isDefault && guarded then fail .switchGuard gp
        let guard ← if guarded then do
            refuseBlock
            let g ← wantBool (← parseExpr at_ false fuel)
            refuseAssignment
            pure (some g)
          else pure none
        let _ ← expect "=>" "in this switch case"
        let action ← parseStmt { at_ with isGlobal := false } fuel
        let literals ← exprs.mapM fun e => match e.literal? with
          | some v => pure (v, e.startPos)
          | none => fail (.expressionExpected "a literal") e.startPos
        let isRange (v : Value) : Bool := match v with
          | .range .. => true
          | _ => false
        let isNumber (v : Value) : Bool := match v with
          | .int _ | .float _ => true
          | _ => false
        let sawRange ← literals.foldlM (fun saw (v, vp) =>
          if isNumber v && saw then fail .switchNumber vp
          else pure (saw || isRange v)) sawRange
        let actionExpr : Expr := match action with
          | .block stmts bp => .block stmts bp
          | s => .block [s] s.pos
        let arm := SwitchCase.mk (literals.map (·.1)) isDefault guard actionExpr
        let (t, tp) ← peek
        match t with
        | .fixed "," =>
          let _ ← next
          pure ()
        | .fixed "\x7d" => pure ()
        | .eof => fail (.missing "\x7d" "to end this switch block") tp
        | t =>
          if action.isSelfTerminated then pure ()
          else reject t tp (.missing "," "to separate the items in this switch block")
        let rest ← parseCases at_ (if isDefault then some dp else none) sawRange fuel
        pure (arm :: rest)

def parseArm (at_ : Surroundings) : Nat → Parse (List Expr)
  | 0 => do fail .tooComplex (← peek).2
  | fuel + 1 => do
    let (_, p) ← peek
    let e ← tryCatch (parseExpr at_ true fuel) fun err =>
      fail (.expressionExpected "literal") (err.pos.orElse p)
    let (more, _) ← accept "|"
    if more then
      let rest ← parseArm at_ fuel
      pure (e :: rest)
    else pure [e]

def parseWhile (at_ : Surroundings) : Nat → Parse Stmt
  | 0 => do fail .tooComplex (← peek).2
  | fuel + 1 => do
    let (t, p) ← next
    let cond ← match t with
      | .fixed "while" => do
        refuseBlock
        let e ← wantBool (← parseExpr at_ false fuel)
        refuseAssignment
        pure (some e)
      | _ => pure none
    let (body, bp) ← parseBlock { at_ with inLoop := true } fuel
    pure (.loop cond body bp p)

def parseDo (at_ : Surroundings) : Nat → Parse Stmt
  | 0 => do fail .tooComplex (← peek).2
  | fuel + 1 => do
    let (_, p) ← next
    let (body, bp) ← parseBlock { at_ with inLoop := true } fuel
    let (t, tp) ← next
    let untilTrue ← match t with
      | .fixed "while" => pure false
      | .fixed "until" => pure true
      | t => reject t tp (.missing "while" "for the do statement")
    refuseBlock
    let cond ← wantBool (← parseExpr at_ false fuel)
    refuseAssignment
    pure (.doLoop body cond untilTrue bp p)

def parseFor (at_ : Surroundings) : Nat → Parse Stmt
  | 0 => do fail .tooComplex (← peek).2
  | fuel + 1 => do
    let (_, p) ← next
    let (paired, _) ← accept "("
    let (name, _) ← variableName
    let counter ← if paired then do
        let _ ← expect "," "after the iteration variable name"
        let (counter, cp) ← variableName
        if counter = name then fail (.duplicateVariable counter) cp
        let _ ← expect ")" "to close the iteration variable"
        pure counter
      else pure ""
    let _ ← expect "in" "after the iteration variable"
    refuseBlock
    let subject ← wantIterable (← parseExpr at_ false fuel)
    let (body, bp) ← inScope do
      if counter ≠ "" then Parse.define counter false
      Parse.define name false
      parseBlock { at_ with inLoop := true } fuel
    pure (.forLoop name counter subject body bp p)

def parseTry (at_ : Surroundings) : Nat → Parse Stmt
  | 0 => do fail .tooComplex (← peek).2
  | fuel + 1 => do
    let (_, p) ← next
    let (body, _) ← parseBlock at_ fuel
    let _ ← expect "catch" "for the 'try' statement"
    let (named, _) ← accept "("
    if named then
      let (name, _) ← variableName
      let _ ← expect ")" "to enclose the catch variable"
      let (handler, _) ← inScope do
        Parse.define name false
        parseBlock at_ fuel
      pure (.tryCatch body (some name) handler p)
    else
      let (handler, _) ← parseBlock at_ fuel
      pure (.tryCatch body none handler p)

def parseLet (at_ : Surroundings) (isConst : Bool) : Nat → Parse Stmt
  | 0 => do fail .tooComplex (← peek).2
  | fuel + 1 => do
    let (_, p) ← next
    let (name, _) ← variableName
    let (hasValue, _) ← accept "="
    let value ← if hasValue then parseExpr at_ false fuel else pure (.const .unit .unknown)
    Parse.define name isConst
    pure (.define name value isConst p)

def parseFunction : Nat → Position → Parse Stmt
  | 0, p => fail .tooComplex p
  | fuel + 1, p => do
    let (t, np) ← next
    let name ← match t with
      | .name s => pure s
      | .reserved s => fail (.reserved s) np
      | _ => fail .functionName np
    let (t, tp) ← peek
    let params : List String ← match t with
      | .fixed "()" => do
        let _ ← next
        pure []
      | .fixed "(" => do
        let _ ← next
        let (closed, _) ← accept ")"
        if closed then pure [] else parseParams name fuel []
      | _ => fail (.functionParameters name) tp
    let (t, tp) ← peek
    match t with
    | .fixed "\x7b" => pure ()
    | _ => fail (.functionBody name) tp
    let outer ← get
    set { outer with scope := params.reverse.map fun n => (n, false), captured := [] }
    let (body, _) ← parseBlock ⟨false, true, false⟩ fuel
    modify fun s => { s with scope := outer.scope, captured := outer.captured }
    let s ← get
    if s.functions.any (fun f => f.name = name && f.params.length = params.length) then
      fail (.duplicateFunction name params.length) p
    else
      set { s with functions := s.functions ++ [FnDef.mk name params body] }
      pure (.noop p)

def parseParams (function : String) : Nat → List String → Parse (List String)
  | 0, _ => do fail .tooComplex (← peek).2
  | fuel + 1, known => do
    let (t, p) ← next
    match t with
    | .fixed ")" => pure known
    | .name s =>
      if known.contains s then fail (.duplicateParameter function s) p
      else
        let (t, tp) ← next
        match t with
        | .fixed ")" => pure (known ++ [s])
        | .fixed "," => parseParams function fuel (known ++ [s])
        | t => reject t tp (.missing "," s!"to separate the parameters of function '{function}'")
    | t => reject t p (.missing ")" s!"to close the parameters list of function '{function}'")

def parseClosureParams : Nat → List String → Parse (List String)
  | 0, _ => do fail .tooComplex (← peek).2
  | fuel + 1, known => do
    let (t, p) ← next
    match t with
    | .fixed "|" => pure known
    | .name s =>
      if known.contains s then fail (.duplicateParameter "" s) p
      else
        let (t, tp) ← next
        match t with
        | .fixed "|" => pure (known ++ [s])
        | .fixed "," => parseClosureParams fuel (known ++ [s])
        | t => reject t tp (.missing "," "to separate the parameters of anonymous function")
    | t =>
      reject t p (.missing "|" "to close the parameters list of anonymous function or closure")

def parseClosure (pos : Position) : Nat → Parse Expr
  | 0 => fail .tooComplex pos
  | fuel + 1 => do
    let (t, _) ← next
    let params : List String ← match t with
      | .fixed "||" => pure []
      | _ => parseClosureParams fuel []
    let outer ← get
    set { outer with scope := params.reverse.map fun n => (n, false), captured := [] }
    let body ← parseStmt ⟨false, true, false⟩ fuel
    let captured := (← get).captured
    modify fun s => { s with scope := outer.scope, captured := outer.captured }
    let s ← get
    let name := anonymousName s.closures.length
    let stmts := match body with
      | .block stmts _ => stmts
      | b => [b]
    let allParams := captured.map (·.1) ++ params
    set { s with closures := s.closures ++ [FnDef.mk name allParams stmts] }
    let locals ← captured.mapM fun (n, p) => useVariable n p
    pure (captureExpr (.const (.fn name []) pos) captured locals pos)

def parseExpr (at_ : Surroundings) (inArm : Bool) : Nat → Parse Expr
  | 0 => do fail .tooComplex (← peek).2
  | fuel + 1 => do
    let lhs ← parseUnary at_ fuel
    parseBinary at_ inArm 0 lhs fuel

/-- Extend `lhs` by operators that bind tighter than `parent`. -/
def parseBinary (at_ : Surroundings) (inArm : Bool) (parent : Nat) (lhs : Expr) :
    Nat → Parse Expr
  | 0 => do fail .tooComplex (← peek).2
  | fuel + 1 => do
    let (t, p) ← peek
    refuseUnknown t p
    let prec := armPrecedence inArm t
    if prec = 0 || prec < parent || (prec = parent && !bindsRight t) then pure lhs
    else
      let (op, pos) ← next
      let rhs ← parseUnary at_ fuel
      let (t', p') ← peek
      refuseUnknown t' p'
      let nextPrec := armPrecedence inArm t'
      let rhs ← if (prec = nextPrec && bindsRight op) || prec < nextPrec then
          parseBinary at_ inArm prec rhs fuel
        else pure rhs
      let root ← binary op.spelling lhs rhs pos
      parseBinary at_ inArm parent root fuel

def parseUnary (at_ : Surroundings) : Nat → Parse Expr
  | 0 => do fail .tooComplex (← peek).2
  | fuel + 1 => do
    let (t, p) ← peek
    match t with
    | .fixed "-" =>
      let _ ← next
      let e ← parseUnary at_ fuel
      pure (negated e p)
    | .fixed "+" =>
      let _ ← next
      let e ← parseUnary at_ fuel
      match e with
      | .const (.int _) _ | .const (.float _) _ => pure e
      | e => pure (.call "+" [e] true p)
    | .fixed "!" =>
      let _ ← next
      let e ← parseUnary at_ fuel
      pure (.call "!" [e] true p)
    | _ => parsePrimary at_ fuel

def parsePrimary (at_ : Surroundings) : Nat → Parse Expr
  | 0 => do fail .tooComplex (← peek).2
  | fuel + 1 => do
    let (t, p) ← peek
    match t with
    | .eof => fail .incomplete p
    | .int n =>
      let _ ← next
      parsePostfix at_ (.const (.int n) p) [] fuel
    | .float x =>
      let _ ← next
      parsePostfix at_ (.const (.float x) p) [] fuel
    | .char c =>
      let _ ← next
      parsePostfix at_ (.const (.char c) p) [] fuel
    | .str s =>
      let _ ← next
      parsePostfix at_ (.const (.str s) p) [] fuel
    | .text s =>
      let _ ← next
      let first := if s = "" then [] else [Expr.const (.str s) p]
      let rest ← parseText at_ fuel
      parsePostfix at_ (.interpolated (first ++ rest) p) [] fuel
    | .fixed "true" =>
      let _ ← next
      parsePostfix at_ (.const (.bool true) p) [] fuel
    | .fixed "false" =>
      let _ ← next
      parsePostfix at_ (.const (.bool false) p) [] fuel
    | .fixed "()" =>
      let _ ← next
      parsePostfix at_ (.const .unit p) [] fuel
    | .fixed "\x7b" =>
      let (stmts, bp) ← parseBlock at_ fuel
      parsePostfix at_ (.block stmts bp) [] fuel
    | .fixed "(" =>
      let _ ← next
      let (closed, _) ← accept ")"
      if closed then parsePostfix at_ (.const .unit p) [] fuel
      else
        let e ← parseExpr at_ false fuel
        let _ ← expect ")" "for a matching ( in this expression"
        parsePostfix at_ e [] fuel
    | .fixed "if" =>
      let s ← parseIf at_ fuel
      parsePostfix at_ (.block [s] p) [] fuel
    | .fixed "while" | .fixed "loop" =>
      let s ← parseWhile at_ fuel
      parsePostfix at_ (.block [s] p) [] fuel
    | .fixed "do" =>
      let s ← parseDo at_ fuel
      parsePostfix at_ (.block [s] p) [] fuel
    | .fixed "for" =>
      let s ← parseFor at_ fuel
      parsePostfix at_ (.block [s] p) [] fuel
    | .fixed "switch" =>
      let s ← parseSwitch at_ fuel
      parsePostfix at_ (.block [s] p) [] fuel
    | .fixed "|" | .fixed "||" =>
      let e ← parseClosure p fuel
      parsePostfix at_ e [] fuel
    | .fixed "[" =>
      let _ ← next
      let items ← parseArray at_ fuel
      parsePostfix at_ (.array items p) [] fuel
    | .fixed "#\x7b" =>
      let _ ← next
      let entries ← parseMap at_ [] fuel
      parsePostfix at_ (.map entries p) [] fuel
    | .name s =>
      let _ ← next
      let (t, _) ← peek
      match t with
      | .fixed "(" | .fixed "()" | .fixed "!" => parseCall at_ s p fuel
      | _ =>
        let isLocal ← useVariable s p
        parsePostfix at_ (.var s isLocal p) [] fuel
    | .reserved s =>
      let _ ← next
      let (t, _) ← peek
      let called := match t with
        | .fixed "(" | .fixed "()" | .fixed "!" => true
        | _ => false
      if called && Token.functionWords.contains s then parseCall at_ s p fuel
      else if s = "this" then
        if at_.inFunction then parsePostfix at_ (.this p) [] fuel
        else fail (.lexical (.symbol s s!"'{s}' can only be used in functions")) p
      else fail (.reserved s) p
    | .invalid e => fail (.lexical e) p
    | t => fail (.lexical (.unexpected t.spelling)) p

def parseCall (at_ : Surroundings) (name : String) (pos : Position) : Nat → Parse Expr
  | 0 => fail .tooComplex pos
  | fuel + 1 => do
    let (bang, _) ← accept "!"
    let (t, p) ← peek
    let args ← match t with
      | .fixed "()" => do
        let _ ← next
        pure []
      | .fixed "(" => do
        let _ ← next
        parseArgs at_ name fuel
      | t => reject t p (.missing "(" "to start arguments list of function call")
    let e : Expr := if bang then .inlineCall name args pos else .call name args false pos
    parsePostfix at_ e [] fuel

def parseArgs (at_ : Surroundings) (name : String) : Nat → Parse (List Expr)
  | 0 => do fail .tooComplex (← peek).2
  | fuel + 1 => do
    let unclosed := ParseCause.missing ")"
      s!"to close the arguments list of this function call '{name}'"
    let (t, p) ← peek
    match t with
    | .fixed ")" =>
      let _ ← next
      pure []
    | .eof => fail unclosed p
    | _ =>
      let e ← parseExpr at_ false fuel
      let (t, p) ← peek
      match t with
      | .fixed ")" =>
        let _ ← next
        pure [e]
      | .fixed "," =>
        let _ ← next
        let rest ← parseArgs at_ name fuel
        pure (e :: rest)
      | .eof => fail unclosed p
      | t => reject t p (.missing "," s!"to separate the arguments to function call '{name}'")

def parseArray (at_ : Surroundings) : Nat → Parse (List Expr)
  | 0 => do fail .tooComplex (← peek).2
  | fuel + 1 => do
    let unclosed := ParseCause.missing "]" "to end this array literal"
    let (t, p) ← peek
    match t with
    | .fixed "]" =>
      let _ ← next
      pure []
    | .eof => fail unclosed p
    | _ =>
      let e ← parseExpr at_ false fuel
      let (t, p) ← peek
      match t with
      | .fixed "," =>
        let _ ← next
        let rest ← parseArray at_ fuel
        pure (e :: rest)
      | .fixed "]" =>
        let rest ← parseArray at_ fuel
        pure (e :: rest)
      | .eof => fail unclosed p
      | t => reject t p (.missing "," "to separate the items of this array literal")

def parseMap (at_ : Surroundings) (known : List String) : Nat → Parse (List (String × Expr))
  | 0 => do fail .tooComplex (← peek).2
  | fuel + 1 => do
    let unclosed := ParseCause.missing "\x7d" "to end this object map literal"
    let (t, p) ← next
    let key? : Option String ← match t with
      | .fixed "\x7d" => pure none
      | .eof => fail unclosed p
      | .name s | .str s =>
        if known.contains s then fail (.duplicateProperty s) p else pure (some s)
      | .text _ => fail .propertyExpected p
      | .reserved s => fail (.reserved s) p
      | t => reject t p (if known.isEmpty then unclosed else .propertyExpected)
    match key? with
    | none => pure []
    | some key =>
      let _ ← expect ":" s!"to follow the property '{key}' in this object map literal"
      let e ← parseExpr at_ false fuel
      let (t, p) ← peek
      match t with
      | .fixed "," =>
        let _ ← next
        let rest ← parseMap at_ (key :: known) fuel
        pure ((key, e) :: rest)
      | .fixed "\x7d" =>
        let rest ← parseMap at_ (key :: known) fuel
        pure ((key, e) :: rest)
      | .name _ => fail (.missing "," "to separate the items of this object map literal") p
      | t => reject t p unclosed

def parseText (at_ : Surroundings) : Nat → Parse (List Expr)
  | 0 => do fail .tooComplex (← peek).2
  | fuel + 1 => do
    let (stmts, bp) ← parseBlock at_ fuel
    let block := Expr.block stmts bp
    let s ← get
    let start := if s.cursor.rest.isEmpty then .unknown else s.cursor.pos.advance
    let (t, p, c) := textToken start s.cursor
    set { s with cursor := c, valueDue := false }
    match t with
    | .str text => pure (if text = "" then [block] else [block, .const (.str text) p])
    | .text text =>
      let rest ← parseText at_ fuel
      pure (block :: (if text = "" then rest else .const (.str text) p :: rest))
    | t => reject t p .incomplete

def parsePostfix (at_ : Surroundings) (root : Expr) (links : List Link) : Nat → Parse Expr
  | 0 => do fail .tooComplex (← peek).2
  | fuel + 1 => do
    let finished := if links.isEmpty then root else .chain root links
    let (t, p) ← peek
    match t with
    | .fixed "[" | .fixed "?[" =>
      let indexable := !links.isEmpty || match root with
        | .const (.bool _) _ | .const (.float _) _ | .const (.char _) _ | .const .unit _ => false
        | _ => true
      if !indexable then pure finished
      else
        let _ ← next
        let idx ← parseExpr at_ false fuel
        match if links.isEmpty then indexFault? root idx else none with
        | some reason => fail (.malformedIndex reason) idx.startPos
        | none =>
          let _ ← expect "]" "for a matching [ in this index expression"
          parsePostfix at_ root (links ++ [.index idx (t.spelling = "?[") p]) fuel
    | .fixed "." | .fixed "?." =>
      let optional := t.spelling = "?."
      let _ ← next
      let (t, np) ← next
      let name ← match t with
        | .name s => pure s
        | .reserved s =>
          let called := match (← peek).1 with
            | .fixed "(" | .fixed "()" | .fixed "!" => true
            | _ => false
          if called && Token.methodWords.contains s then pure s else fail (.reserved s) np
        | _ => fail .propertyExpected np
      let (t, _) ← peek
      let outerCall := ParseCause.malformedCapture
        "method-call style does not support running within the caller's scope"
      match t with
      | .fixed "(" | .fixed "()" =>
        let _ ← next
        let args ← if t.spelling = "(" then parseArgs at_ name fuel else pure []
        if args.isEmpty && (name = "Fn" || name = "eval") then
          fail (.lexical (.symbol name
            s!"'{name}' should not be called in method style. Try {name}(...);")) np
        parsePostfix at_ root (links ++ [.method name args optional p np]) fuel
      | .fixed "!" =>
        let _ ← next
        let (t, tp) ← peek
        match t with
        | .fixed "()" => fail outerCall np
        | .fixed "(" =>
          let _ ← next
          let _ ← parseArgs at_ name fuel
          fail outerCall np
        | _ => fail (.missing "(" "to start arguments list of function call") tp
      | _ => parsePostfix at_ root (links ++ [.property name optional p np]) fuel
    | _ => pure finished

end

def parseScript : Nat → Parse (List Stmt)
  | 0 => do fail .tooComplex (← peek).2
  | fuel + 1 => do
    let (t, _) ← peek
    match t with
    | .eof => pure []
    | _ =>
      let stmt ← parseStmt ⟨true, false, false⟩ (20 * fuel + 100)
      if stmt.isNoop then parseScript fuel
      else
        let (t, p) ← peek
        match t with
        | .eof => pure [stmt]
        | .fixed ";" =>
          let _ ← next
          let rest ← parseScript fuel
          pure (stmt :: rest)
        | t =>
          if stmt.isSelfTerminated then
            let rest ← parseScript fuel
            pure (stmt :: rest)
          else reject t p (.missing ";" "to terminate this statement")

def Program.parse (source : String) : Except ParseError Program :=
  let start : ParseState := ⟨.ofString source, none, true, [], [], [], []⟩
  match (parseScript (source.length + 2)).run start with
  | .ok (stmts, s) => .ok ⟨stmts, s.functions, s.closures⟩
  | .error e => .error e

end ModHost.Script
