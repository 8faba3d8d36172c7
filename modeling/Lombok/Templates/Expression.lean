import Lombok.Tunnel.Forward

/-!
Contract: what a template expression evaluates to.

Owns `resolveTemplateExpression` and the patterns it reads an expression with:
the call of a template function, or an expression for `jexpr`, or a path into
the given objects.

Does not own: what `jexpr` evaluates an expression to, nor what a template
function does with its arguments. Both are part of the inputs.
-/

namespace Lombok.Templates

open Lombok.Core
open Lombok.Tunnel (isTrimmed trim isLineTerminator)

/-! ### Outcomes -/

/-- A call of a template function; `none` is an `undefined` argument. -/
structure FunctionCall where
  functionName : String
  args : List (Option Json)
deriving Inhabited

/-- What a part of the resolution does: the functions it calls, and its value, or the errors of
which the one that is thrown first is thrown. -/
structure Outcome (α : Type) where
  calls : List FunctionCall
  result : Except (List String) α

namespace Outcome

variable {α β : Type}

def pure (value : α) : Outcome α := ⟨[], .ok value⟩

def throw (message : String) : Outcome α := ⟨[], .error [message]⟩

/-- `await`: what comes next is done if nothing was thrown. -/
def bind (first : Outcome α) (next : α → Outcome β) : Outcome β :=
  match first.result with
  | .ok value => ⟨first.calls ++ (next value).calls, (next value).result⟩
  | .error errors => ⟨first.calls, .error errors⟩

instance : Monad Outcome where
  pure := pure
  bind := bind

def map (convert : α → β) (outcome : Outcome α) : Outcome β :=
  ⟨outcome.calls, outcome.result.map convert⟩

/-- `Promise.all`: every part is started, and one that throws does not stop the others. -/
def all : List (Outcome α) → Outcome (List α)
  | [] => pure []
  | first :: rest =>
      { calls := first.calls ++ (all rest).calls
        result :=
          match first.result, (all rest).result with
          | .ok value, .ok values => .ok (value :: values)
          | .ok _, .error errors => .error errors
          | .error errors, .ok _ => .error errors
          | .error errors, .error others => .error (errors ++ others) }

def ofExcept : Except String α → Outcome α
  | .ok value => pure value
  | .error message => throw message

end Outcome

/-! ### The inputs of a template -/

abbrev TemplateFunction := List (Option Json) → Except String (Option Json)

/-- `functions` looks a name up. `evaluate` parses an expression with `jexpr` and evaluates it:
`none` when that throws and when the result is `undefined` or no JSON value. -/
structure TemplateInputs where
  objects : Fields
  functions : String → Option TemplateFunction
  evaluate : String → Fields → Option Json

/-! ### Patterns -/

/-- `[a-zA-Z_]`. -/
def isNameStart (character : Char) : Bool := character.isAlpha || character == '_'

/-- `\w`. -/
def isNameCharacter (character : Char) : Bool := character.isAlphanum || character == '_'

/-- `expression.match(FUNCTION_EXPRESSION)`: the name, and what stands between the parentheses. -/
def functionMatch (expression : List Char) : Option (List Char × List Char) :=
  let functionName := expression.takeWhile isNameCharacter
  match expression.drop functionName.length with
  | '(' :: behind =>
      if functionName.head?.any isNameStart ∧ behind.getLast? = some ')' ∧
          behind.dropLast.all (!isLineTerminator ·) then
        some (functionName, behind.dropLast)
      else none
  | _ => none

/-- `rawArg.match(STRING_LITERAL)`: what stands between two quotes of one kind. -/
def stringMatch : List Char → Option (List Char)
  | [] => none
  | quote :: behind =>
      if (quote = '\'' ∨ quote = '"') ∧ behind.getLast? = some quote ∧
          behind.dropLast.all (!isLineTerminator ·) then
        some behind.dropLast
      else none

/-- `/\.constructor\b/.test(text)`. -/
def namesConstructor : List Char → Bool
  | [] => false
  | character :: rest =>
      ((character :: rest).dropPrefix? ".constructor".toList).any
          (fun behind => !behind.head?.any isNameCharacter) ||
        namesConstructor rest

/-- `validateConditionExpression(condition).valid`. -/
def validateConditionExpression (condition : List Char) : Bool :=
  trim condition != [] && !namesConstructor (trim condition)

/-! ### Paths -/

def pathSegments (path : String) : List String :=
  (((path.toList.splitOn '.').map trim).filter (· != [])).map String.ofList

def ownProperty : Json → String → Option Json
  | .obj fields, name => Fields.get? fields name
  | .arr items, name =>
      if name = "length" then some (Json.ofNat items.length)
      else (items.zipIdx.find? fun item => toString item.2 == name).map Prod.fst
  | _, _ => none

/-- `getValueAtPath`, `none` where nothing is found. -/
def getValueAtPath (source : Fields) (path : String) : Option Json :=
  (pathSegments path).foldlM ownProperty (.obj source)

/-! ### Expressions -/

/-- What `jexpr` makes of an expression that may be evaluated; `null` is not taken. -/
def evaluated (inputs : TemplateInputs) (expression : String) : Option Json :=
  if validateConditionExpression expression.toList then
    match inputs.evaluate expression inputs.objects with
    | some .null => none
    | result => result
  else none

/-- An expression is evaluated, else looked up as a path. Arguments and whole expressions are
resolved this way alike. -/
def resolveVariable (inputs : TemplateInputs) (validate : Bool) (expression : String) :
    Except String (Option Json) :=
  match evaluated inputs expression with
  | some value => .ok (some value)
  | none =>
      match getValueAtPath inputs.objects expression with
      | some value => .ok (some value)
      | none =>
          if validate then .error ("Template variable not found: " ++ expression) else .ok none

def resolveArgument (inputs : TemplateInputs) (validate : Bool) (rawArg : List Char) :
    Except String (Option Json) :=
  match stringMatch rawArg with
  | some literal => .ok (some (.str (String.ofList literal)))
  | none => resolveVariable inputs validate (String.ofList rawArg)

/-- The arguments as they are written: the section is cut at its commas, and what is empty is
dropped. -/
def rawArguments (argsSection : List Char) : List (List Char) :=
  if trim argsSection = [] then []
  else (((trim argsSection).splitOn ',').map trim).filter (· != [])

def resolveTemplateExpression (inputs : TemplateInputs) (validate : Bool) (expression : String) :
    Outcome (Option Json) :=
  match functionMatch expression.toList with
  | some (functionName, argsSection) =>
      match inputs.functions (String.ofList functionName) with
      | none =>
          if validate then
            .throw ("Function \"" ++ String.ofList functionName ++ "\" is not recognized")
          else .pure none
      | some function => do
          let args ← Outcome.ofExcept
            ((rawArguments argsSection).mapM (resolveArgument inputs validate))
          let called : Outcome Unit := ⟨[⟨String.ofList functionName, args⟩], .ok ()⟩
          called
          Outcome.ofExcept (function args)
  | none => .ofExcept (resolveVariable inputs validate expression)

end Lombok.Templates
