import JsxVNode.Source.Parser.Modifier
/-!
Type annotations of typed source. Types are read and dropped: the compiler only needs to know
where they end. The grammar covers unions and intersections, conditional and function types,
arrays and indexed access, tuples, object and mapped types, literal and template types, type
queries, imports, type operators and predicates.

Some misuses are reported as reading goes on: modifiers that a type member or type parameter
does not take, malformed index signatures, tuple elements out of order or with their markers on
the wrong side of a label, and `readonly` on a type that is neither an array nor a tuple.
-/
namespace JsxVNode.Source.P

def typeKeywords : List String :=
  ["any", "unknown", "number", "bigint", "boolean", "string", "symbol", "object", "never",
    "undefined", "null", "void", "this", "true", "false", "intrinsic"]

def tooDeep {α : Type} : P α := do fail ⟨"Unexpected token", (← tok).start⟩

def atName : P Bool := do
  match ← kind with
  | .ident _ _ => return true
  | _ => return false

def name : P String := do
  match ← kind with
  | .ident n _ => nextName; return n
  | _ => unexpected

def atTypeStart : P Bool := do
  match ← kind with
  | .ident _ _ | .string _ | .number _ | .template _ _ => return true
  | .punct p => return ["(", "[", "\x7b", "<", "-", "|", "&", "`"].contains p
  | _ => return false

/-- The place of a tuple element in the order tuples require: required elements, then optional
ones, then rest elements. -/
inductive TupleSlot where
  | required
  | optional
  | rest
deriving DecidableEq

/-- The errors of a tuple's elements out of order, given each element's start and slot: no
optional element after a rest element, and no required element after an optional one. Rest
elements may follow each other. -/
def tupleOrderErrors : List (Nat × TupleSlot) → Bool → Bool → List Diag
  | [], _, _ => []
  | (start, slot) :: rest, seenOptional, seenRest =>
    match slot with
    | .rest => tupleOrderErrors rest seenOptional true
    | .optional =>
      (if seenRest then [⟨"An optional element cannot follow a rest element.", start⟩] else []) ++
        tupleOrderErrors rest true seenRest
    | .required =>
      (if seenOptional then [⟨"A required element cannot follow an optional element.", start⟩]
        else []) ++ tupleOrderErrors rest seenOptional seenRest

/-- Whether an index signature starts at the current `[`: `[name:` and, to report them well,
`[...`, `[]`, `[name,`, `[name?` before `:`, `,` or `]`, and a modifier before the name. -/
def atIndexSignature : P Bool := do
  if !(← isAt "[") then return false
  let a ← tokenAt 1
  if a.kind == .punct "..." || a.kind == .punct "]" then return true
  let isModifier := match a.kind with
    | .ident w false => modifierWords.contains w
    | _ => false
  if isModifier then
    if (← tokenAt 2).kind.isName then return true
  else if !a.kind.isName then return false
  let c ← tokenAt 2
  if c.kind == .punct ":" || c.kind == .punct "," then return true
  if c.kind != .punct "?" then return false
  let d ← tokenAt 3
  return d.kind == .punct ":" || d.kind == .punct "," || d.kind == .punct "]"

def skipDefault : Nat → Nat → P Unit
  | 0, _ => tooDeep
  | f + 1, depth => do
    match ← kind with
    | .eof => unexpected
    | .punct p =>
      if depth == 0 && (p == "," || p == ")") then return
      next
      if p == "(" || p == "[" || p == "\x7b" then skipDefault f (depth + 1)
      else if (p == ")" || p == "]" || p == "\x7d") && depth > 0 then skipDefault f (depth - 1)
      else skipDefault f depth
    | _ => next; skipDefault f depth

def skipGroup (fuel : Nat) : P Unit := do
  match fuel with
  | 0 => tooDeep
  | f + 1 =>
    let opener ← kind
    let closer := match opener with
      | .punct "(" => ")" | .punct "[" => "]" | .punct "\x7b" => "\x7d" | _ => ")"
    next
    let rec loop : Nat → P Unit
      | 0 => tooDeep
      | g + 1 => do
        match ← kind with
        | .eof => unexpected
        | .punct p =>
          if p == closer then next
          else if p == "(" || p == "[" || p == "\x7b" then do skipGroup g; loop g
          else do next; loop g
        | _ => do next; loop g
    loop f

mutual
def type (fuel : Nat) (noConditional : Bool := false) : P Unit := do
  match fuel with
  | 0 => tooDeep
  | f + 1 =>
    if ← atFunctionType f then functionType f
    else
      unionType f noConditional
      if !noConditional && (← atWord "extends") && !(← tok).newline then
        next
        type f true
        expect "?"
        type f
        expect ":"
        type f

def atFunctionType (fuel : Nat) : P Bool := do
  match fuel with
  | 0 => return false
  | f + 1 =>
    if ← isAt "<" then return true
    if (← atWord "new") then return true
    if (← atWord "abstract") then return (← peekKind) == .ident "new" false
    if !(← isAt "(") then return false
    let r ← peek do
      next
      if (← isAt ")") || (← isAt "...") then return true
      let started ← match ← kind with
        | .ident n _ =>
          if ["public", "private", "protected", "readonly"].contains n then do next; pure true
          else do next; pure true
        | .punct "[" | .punct "\x7b" => do skipGroup f; pure true
        | _ => pure false
      if !started then return false
      match ← kind with
      | .punct ":" | .punct "," | .punct "?" | .punct "=" => return true
      | .punct ")" => do next; return (← isAt "=>")
      | _ => return false
    return r.getD false

def functionType (fuel : Nat) : P Unit := do
  match fuel with
  | 0 => tooDeep
  | f + 1 =>
    let _ ← eatWord "abstract"
    let _ ← eatWord "new"
    if ← isAt "<" then typeParams f
    params f
    expect "=>"
    returnType f

def params (fuel : Nat) : P Unit := do
  match fuel with
  | 0 => tooDeep
  | f + 1 =>
    expect "("
    let rec loop : Nat → P Unit
      | 0 => tooDeep
      | g + 1 => do
        if ← eat ")" then return
        let _ ← eat "..."
        match ← kind with
        | .punct "[" | .punct "\x7b" => skipGroup g
        | .ident _ _ =>
          let _ ← name
          -- an accessibility modifier before the name
          if ← atName then let _ ← name
        | _ => unexpected
        let _ ← eat "?"
        if ← eat ":" then type g
        if ← eat "=" then skipDefault g 0
        if ← eat "," then loop g else closeList ")"
    loop f

def returnType (fuel : Nat) : P Unit := do
  match fuel with
  | 0 => tooDeep
  | f + 1 =>
    if (← atWord "asserts") && (← peekKind) != .punct "." then
      let t ← peekTok
      if !t.newline && (match t.kind with | .ident _ _ => true | _ => false) then
        next; nextName
        if (← atWord "is") && !(← tok).newline then next; type f
        return
    match ← kind with
    | .ident w _ =>
      let t ← peekTok
      if t.kind == .ident "is" false && !t.newline then
        if w == "this" then next else nextName
        next; type f
        return
    | _ => pure ()
    type f

def unionType (fuel : Nat) (noConditional : Bool) : P Unit := do
  match fuel with
  | 0 => tooDeep
  | f + 1 =>
    let _ ← eat "|"
    intersectionType f noConditional
    let rec loop : Nat → P Unit
      | 0 => tooDeep
      | g + 1 => do if ← eat "|" then intersectionType g noConditional; loop g
    loop f

def intersectionType (fuel : Nat) (noConditional : Bool) : P Unit := do
  match fuel with
  | 0 => tooDeep
  | f + 1 =>
    let _ ← eat "&"
    let _ ← operatorType f noConditional
    let rec loop : Nat → P Unit
      | 0 => tooDeep
      | g + 1 => do if ← eat "&" then let _ ← operatorType g noConditional; loop g
    loop f

/-- Reads a type with its prefix operators, and tells whether it is an array or tuple type, the
only types that `readonly` may modify. The constraint of `infer U extends C` is kept where a
conditional type may not stand, and elsewhere only when no `?` follows it (which would make
`extends` start a conditional type). -/
def operatorType (fuel : Nat) (noConditional : Bool) : P Bool := do
  match fuel with
  | 0 => tooDeep
  | f + 1 =>
    match ← kind with
    | .ident w false =>
      if ["keyof", "unique", "readonly"].contains w && (← atTypeStartAfter) then
        let start := (← tok).start
        next
        let listLike ← operatorType f noConditional
        if w == "readonly" && !listLike then
          report ⟨"'readonly' type modifier is only permitted on array and tuple literal types.",
            start⟩
        return false
      else if w == "infer" && (← atTypeStartAfter) then
        next; let _ ← name
        if (← atWord "extends") then
          if noConditional then
            next
            type f true
          else
            let _ ← attempt (do next; type f true; if ← isAt "?" then unexpected)
        return false
      else postfixType f
    | _ => postfixType f

def atTypeStartAfter : P Bool := do
  let r ← peek (do next; atTypeStart)
  return r.getD false

/-- Reads a primary type with array and indexed-access suffixes, and tells whether it is an
array or tuple type. -/
def postfixType (fuel : Nat) : P Bool := do
  match fuel with
  | 0 => tooDeep
  | f + 1 =>
    let tuple ← isAt "["
    primaryType f
    let rec loop : Nat → Bool → P Bool
      | 0, _ => tooDeep
      | g + 1, listLike => do
        if (← isAt "[") && !(← tok).newline then
          next
          if ← eat "]" then loop g true
          else do type g; expect "]"; loop g false
        else return listLike
    loop f tuple

def primaryType (fuel : Nat) : P Unit := do
  match fuel with
  | 0 => tooDeep
  | f + 1 =>
    match ← kind with
    | .punct "(" => next; type f; expect ")"
    | .punct "[" => tupleType f
    | .punct "\x7b" => objectType f
    | .string _ | .number _ => next
    | .template _ closes => templateType f closes
    | .punct "-" =>
      next
      match ← kind with
      | .number _ => next
      | _ => unexpected
    | .ident "typeof" false =>
      next
      if ← atWord "import" then importType f
      else
        let _ ← name
        let rec members : Nat → P Unit
          | 0 => tooDeep
          | g + 1 => do
            if ← eat "." then
              match ← kind with
              | .privateName _ => next
              | _ => let _ ← name
              members g
        members f
      if (← isAt "<") && !(← tok).newline then typeArgs f
    | .ident "import" false => importType f
    | .ident w _ =>
      if typeKeywords.contains w && w != "intrinsic" && (← peekKind) != .punct "." then
        next
        return
      let _ ← name
      let rec qualified : Nat → P Unit
        | 0 => tooDeep
        | g + 1 => do if ← eat "." then let _ ← name; qualified g
      qualified f
      if !(← tok).newline then splitLess
      if (← isAt "<") && !(← tok).newline then typeArgs f
    | _ => unexpected

/-- Reads an import type: `import("m")` with members and arguments. Its argument is read as a
type, which must be a lone string literal. -/
def importType (fuel : Nat) : P Unit := do
  match fuel with
  | 0 => tooDeep
  | f + 1 =>
    next
    expect "("
    let t ← tok
    type f
    let literal := match t.kind with
      | .string _ => true
      | _ => false
    if !literal || (← get).prevEnd != t.stop then report ⟨"String literal expected.", t.start⟩
    if ← eat "," then skipGroupUntil f
    expect ")"
    let rec members : Nat → P Unit
      | 0 => tooDeep
      | g + 1 => do if ← eat "." then let _ ← name; members g
    members f
    if (← isAt "<") && !(← tok).newline then typeArgs f

def skipGroupUntil (fuel : Nat) : P Unit := do
  match fuel with
  | 0 => tooDeep
  | f + 1 => if ← isAt "\x7b" then skipGroup f

def templateType (fuel : Nat) (closes : Bool) : P Unit := do
  match fuel with
  | 0 => tooDeep
  | f + 1 =>
    next
    if closes then return
    let rec loop : Nat → P Unit
      | 0 => tooDeep
      | g + 1 => do
        type g
        if !(← isAt "\x7d") then unexpected
        relexTemplate
        match ← kind with
        | .template _ true => next
        | .template _ false => next; loop g
        | _ => unexpected
    loop f

def tupleType (fuel : Nat) : P Unit := do
  match fuel with
  | 0 => tooDeep
  | f + 1 =>
    expect "["
    let rec loop : Nat → List (Nat × TupleSlot) → P (List (Nat × TupleSlot))
      | 0, _ => tooDeep
      | g + 1, slots => do
        if ← eat "]" then return slots.reverse
        let start := (← tok).start
        let labeled ← peek do
          let _ ← eat "..."
          let _ ← name
          let _ ← eat "?"
          if ← isAt ":" then pure () else unexpected
        let slot ← if labeled.isSome then do
            let rest ← eat "..."
            let _ ← name
            let optional ← eat "?"
            if rest && optional then
              report ⟨"A tuple member cannot be both optional and rest.", start⟩
            expect ":"
            let typeStart := (← tok).start
            let inner ← elementType g
            if inner == .rest then
              report ⟨"A labeled tuple element is declared as rest with a '...' before the name, " ++
                "rather than before the type.", typeStart⟩
            else if inner == .optional then
              report ⟨"A labeled tuple element is declared as optional with a question mark " ++
                "after the name and before the colon, rather than after the type.", typeStart⟩
            pure (if rest then .rest else if optional then .optional else inner)
          else elementType g
        let slots := (start, slot) :: slots
        if ← eat "," then loop g slots else do closeList "]"; return slots.reverse
    let slots ← loop f []
    (tupleOrderErrors slots false false).forM report

def elementType (fuel : Nat) : P TupleSlot := do
  match fuel with
  | 0 => tooDeep
  | f + 1 =>
    if ← eat "..." then type f; return .rest
    type f
    if ← eat "?" then return .optional
    return .required

def objectType (fuel : Nat) : P Unit := do
  match fuel with
  | 0 => tooDeep
  | f + 1 =>
    expect "\x7b"
    let mapped ← peek do
      if (← atWord "readonly") || (← isAt "+") || (← isAt "-") then next
      if (← atWord "readonly") then next
      expect "["
      let _ ← name
      if ← atWord "in" then pure () else unexpected
    if mapped.isSome then
      if (← isAt "+") || (← isAt "-") then next
      let _ ← eatWord "readonly"
      expect "["
      let _ ← name
      next
      type f
      if ← eatWord "as" then type f
      expect "]"
      if (← isAt "+") || (← isAt "-") then next
      let _ ← eat "?"
      if ← eat ":" then type f
      let _ ← eat ";"
      let _ ← eat ","
      expect "\x7d"
    else members f

def members (fuel : Nat) : P Unit := do
  match fuel with
  | 0 => tooDeep
  | f + 1 =>
    let rec loop : Nat → P Unit
      | 0 => tooDeep
      | g + 1 => do
        if ← eat "\x7d" then return
        member g
        if !(← eat ";") then let _ ← eat ","
        loop g
    loop f

def member (fuel : Nat) : P Unit := do
  match fuel with
  | 0 => tooDeep
  | f + 1 =>
    if (← isAt "(") || (← isAt "<") then
      signature f false
      return
    if (← atWord "new") && ((← peekKind) == .punct "(" || (← peekKind) == .punct "<") then
      next; signature f false
      return
    let start := (← tok).start
    let mods ← readModifiers f false false []
    let setter ← atWord "set"
    let accessor := ((← atWord "get") || setter) && (← peekKind).followsModifier
    if accessor then next
    else if ← atIndexSignature then
      disallow mods ["readonly", "static"] "cannot appear on an index signature."
      indexSignature f start
      return
    else disallow mods ["readonly"] "cannot appear on a type member."
    if ← isAt "[" then skipGroup f
    else
      match ← kind with
      | .ident _ _ => nextName
      | .string _ | .number _ | .privateName _ => next
      | _ => unexpected
    let _ ← eat "?"
    if (← isAt "(") || (← isAt "<") then signature f (accessor && setter)
    else if ← eat ":" then type f

/-- Reads an index signature from its `[`; its modifiers start at `start`. It has exactly one
parameter, with a type and no question mark, no comma after the last parameter, and a type of
its own. -/
def indexSignature (fuel : Nat) (start : Nat) : P Unit := do
  match fuel with
  | 0 => tooDeep
  | f + 1 =>
    expect "["
    let rec loop : Nat → Nat → Option Nat → P Nat
      | 0, _, _ => tooDeep
      | g + 1, count, comma => do
        if ← eat "]" then
          if let some c := comma then
            report ⟨"Index signature declarations may not have a trailing comma.", c⟩
          return count
        let paramStart := (← tok).start
        let _ ← name
        if ← isAt "?" then
          report ⟨"An index signature parameter cannot have a question mark.", (← tok).start⟩
          next
        if ← eat ":" then type g
        else fail ⟨"An index signature parameter must have a type annotation.", paramStart⟩
        let c ← tok
        if ← eat "," then loop g (count + 1) (some c.start) else do closeList "]"; return count + 1
    let count ← loop f 0 none
    if count != 1 then report ⟨"An index signature must have exactly one parameter.", start⟩
    if ← eat ":" then type f
    else fail ⟨"An index signature must have a type annotation.", start⟩

/-- Reads a call or method signature: type parameters, parameters, return type. A `setter`
signature takes no return type. -/
def signature (fuel : Nat) (setter : Bool) : P Unit := do
  match fuel with
  | 0 => tooDeep
  | f + 1 =>
    if ← isAt "<" then typeParams f
    params f
    let colon ← tok
    if ← eat ":" then
      if setter then
        report ⟨"A 'set' accessor cannot have a return type annotation.", colon.start⟩
      returnType f

def typeArgs (fuel : Nat) : P Unit := do
  match fuel with
  | 0 => tooDeep
  | f + 1 =>
    let start := (← tok).start
    expect "<"
    if ← eat ">" then
      report ⟨"Type argument list cannot be empty.", start⟩
      return
    let rec loop : Nat → P Unit
      | 0 => tooDeep
      | g + 1 => do
        type g
        if ← eat "," then
          if ← isAt ">" then next else loop g
        else closeList ">"
    loop f

/-- Reads type parameters `<T extends U = V, …>`, each with the modifiers `in`, `out` and
`const` only; an empty list is reported. -/
def typeParams (fuel : Nat) : P Unit := do
  match fuel with
  | 0 => tooDeep
  | f + 1 =>
    let start := (← tok).start
    expect "<"
    if ← eat ">" then
      report ⟨"Type parameter list cannot be empty.", start⟩
      return
    let rec loop : Nat → P Unit
      | 0 => tooDeep
      | g + 1 => do
        if ← eat ">" then return
        let mods ← readModifiers g true false []
        disallow mods ["in", "out", "const"] "cannot be used on a type parameter."
        let _ ← name
        if ← eatWord "extends" then type g
        if ← eat "=" then type g
        if ← eat "," then loop g else closeList ">"
    loop f
end

end JsxVNode.Source.P
