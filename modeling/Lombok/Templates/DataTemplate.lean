import Lombok.Library.Slots
import Lombok.Templates.Expression

/-!
Contract: how a template is filled in.

Owns the scan of a text for expressions, the replacement of several expressions
in one text, the rules of `onlyKeys` and `omitKeys`, and `dataFromTemplate`.

Does not own: what becomes of the property `__proto__` of a template; as in the
source, an assignment to it adds no property.
-/

namespace Lombok.Templates

open Lombok.Core
open Lombok.Library (splitAtFirst)
open Lombok.Tunnel (isTrimmed trim isLineTerminator)

/-! ### Expressions in a text -/

/-- A match of `TEMPLATE_EXPRESSION`: the whole text of it and the group. -/
structure TemplateMatch where
  text : List Char
  expression : List Char
deriving DecidableEq, Inhabited

/-- How many characters `\s*(?<!\{)\}\}` takes behind an expression that ends with `last`. -/
def closingLength (last : Char) (rest : List Char) : Option Nat :=
  let spaces := rest.takeWhile isTrimmed
  if (rest.drop spaces.length).take 2 = ['}', '}'] ∧ (spaces ≠ [] ∨ last ≠ '{') then
    some (spaces.length + 2)
  else none

/-- `.+?` and what closes it: the shortest text without a line terminator that can be closed, and
how many characters close it. -/
def lazyExpression : List Char → Option (List Char × Nat)
  | [] => none
  | character :: rest =>
      if isLineTerminator character then none
      else
        match closingLength character rest with
        | some length => some ([character], length)
        | none => (lazyExpression rest).map fun found => (character :: found.1, found.2)

/-- A match that starts at the front of the text. The first `\s*` gives characters back, one by
one, while what comes behind them does not match. -/
def matchTemplate (text : List Char) : Option TemplateMatch :=
  match text.dropPrefix? ['{', '{'] with
  | none => none
  | some inside =>
      let spaces := inside.takeWhile isTrimmed
      (List.range (spaces.length + 1)).reverse.findSome? fun skipped =>
        (lazyExpression (inside.drop skipped)).map fun found =>
          { text := text.take (2 + skipped + found.1.length + found.2)
            expression := found.1 }

inductive Piece where
  | literal (character : Char)
  | expression (found : TemplateMatch)
deriving DecidableEq, Inhabited

def Piece.match? : Piece → Option TemplateMatch
  | literal _ => none
  | expression found => some found

/-- `matchAll`, with the characters between the matches: the text is scanned from left to right,
and on behind each match. -/
def scanTemplate : Nat → List Char → List Piece
  | _, [] => []
  | skipped + 1, _ :: rest => scanTemplate skipped rest
  | 0, character :: rest =>
      match matchTemplate (character :: rest) with
      | some found => .expression found :: scanTemplate (found.text.length - 1) rest
      | none => .literal character :: scanTemplate 0 rest

def pieces (text : String) : List Piece := scanTemplate 0 text.toList

/-- `Array.from(value.matchAll(TEMPLATE_EXPRESSION))`. -/
def templateMatches (text : String) : List TemplateMatch := (pieces text).filterMap Piece.match?

/-! ### Replacing in a text -/

/-- What a character behind a dollar sign stands for in a replacement: the sign itself, the matched
text, the text before it, or the text behind it. -/
def substitution (before matched behind : List Char) (character : Char) : Option (List Char) :=
  if character = '$' then some ['$']
  else if character = '&' then some matched
  else if character = Char.ofNat 96 then some before
  else if character = '\'' then some behind
  else none

/-- `GetSubstitution` for a search text, which has no groups. -/
def getSubstitution (before matched behind : List Char) : List Char → List Char
  | [] => []
  | [character] => [character]
  | character :: next :: rest =>
      if character = '$' then
        match substitution before matched behind next with
        | some copied => copied ++ getSubstitution before matched behind rest
        | none => '$' :: getSubstitution before matched behind (next :: rest)
      else character :: getSubstitution before matched behind (next :: rest)

/-- `text.replace(search, replacement)`. -/
def replace (search replacement text : List Char) : List Char :=
  match splitAtFirst search text with
  | none => text
  | some (before, behind) =>
      before ++ getSubstitution before search behind replacement ++ behind

/-! ### Texts -/

/-- The text a resolved value is put into another one with. -/
def stringified : Option Json → String
  | none => ""
  | some .null => ""
  | some (.bool value) => if value then "true" else "false"
  | some (.num literal) => literal
  | some (.str value) => value
  | some value => value.stringify

def replaceExpressions (inputs : TemplateInputs) (validate : Bool) :
    List TemplateMatch → List Char → Outcome (List Char)
  | [], result => .pure result
  | found :: rest, result => do
      let resolved ← resolveTemplateExpression inputs validate (String.ofList found.expression)
      replaceExpressions inputs validate rest
        (replace found.text (stringified resolved).toList result)

/-- A text without expressions is its own value. One that is a single expression, but for white
space around it, has the value of the expression. -/
def resolveText (inputs : TemplateInputs) (validate : Bool) (value : String) : Outcome Json :=
  match templateMatches value with
  | [] => .pure (.str value)
  | first :: rest =>
      if rest = [] ∧ first.text = trim value.toList then do
        let resolved ← resolveTemplateExpression inputs validate (String.ofList first.expression)
        .pure (Json.ofOption resolved)
      else do
        let result ← replaceExpressions inputs validate (first :: rest) value.toList
        .pure (.str (String.ofList result))

/-! ### Key filters -/

inductive FilterMode where
  | included
  | excluded
deriving DecidableEq, Inhabited

structure KeyFilterRule where
  path : List String
  mode : FilterMode
deriving DecidableEq, Inhabited

structure KeyFilter where
  defaultMode : FilterMode
  rules : List KeyFilterRule
deriving DecidableEq, Inhabited

def isPrefixOrEqual (start path : List String) : Bool := start.isPrefixOf path

def isStrictPrefix (start path : List String) : Bool :=
  decide (start.length < path.length) && isPrefixOrEqual start path

/-- Both lists absent or empty means no filter; a path in both is an error. -/
def buildKeyFilter (onlyKeys omitKeys : Option (List (List String))) :
    Except String (Option KeyFilter) :=
  let included := onlyKeys.getD []
  let excluded := omitKeys.getD []
  if included = [] ∧ excluded = [] then .ok none
  else
    match included.find? (excluded.contains ·) with
    | some path =>
        .error ("dataFromTemplate: path [" ++ ".".intercalate path ++
          "] appears in both onlyKeys and omitKeys")
    | none =>
        .ok (some
          { defaultMode := if included ≠ [] then .excluded else .included
            rules := included.map (⟨·, .included⟩) ++ excluded.map (⟨·, .excluded⟩) })

def longestRule (path : List String) (longest : Option KeyFilterRule) (rule : KeyFilterRule) :
    Option KeyFilterRule :=
  if isPrefixOrEqual rule.path path ∧
      longest.all fun kept => decide (rule.path.length > kept.path.length) then some rule
  else longest

def effectiveMode (filter : KeyFilter) (path : List String) : FilterMode :=
  match filter.rules.foldl (longestRule path) none with
  | some longest => longest.mode
  | none => filter.defaultMode

inductive KeyDecision where
  | resolveAll
  | passthrough
  | recurse
deriving DecidableEq, Inhabited

def decideKey (filter : KeyFilter) (newPath : List String) : KeyDecision :=
  if filter.rules.any fun rule => isStrictPrefix newPath rule.path then .recurse
  else if effectiveMode filter newPath = .included then .resolveAll
  else .passthrough

/-! ### Values -/

/-- `resolvedObject[key] = value`, before the assignments of the later keys; the keys of an object
are distinct. -/
def assigned (key : String) (value : Json) (later : Fields) : Fields :=
  if key = "__proto__" then later else (key, value) :: later

mutual

def resolveValue (inputs : TemplateInputs) (validate : Bool) (filter : Option KeyFilter)
    (path : List String) : Json → Outcome Json
  | .arr items => (Outcome.all (resolveItems inputs validate filter path items)).map .arr
  | .obj fields => (resolveFields inputs validate filter path fields).map .obj
  | value =>
      if filter.any fun rules => effectiveMode rules path = .excluded then .pure value
      else
        match value with
        | .str text => resolveText inputs validate text
        | _ => .pure value

def resolveItems (inputs : TemplateInputs) (validate : Bool) (filter : Option KeyFilter)
    (path : List String) : List Json → List (Outcome Json)
  | [] => []
  | entry :: rest =>
      resolveValue inputs validate filter path entry ::
        resolveItems inputs validate filter path rest

def resolveFields (inputs : TemplateInputs) (validate : Bool) (filter : Option KeyFilter)
    (path : List String) : List (String × Json) → Outcome Fields
  | [] => .pure []
  | (key, entry) :: rest => do
      let newPath := path ++ [key]
      let value ←
        match filter.elim KeyDecision.resolveAll (decideKey · newPath) with
        | .passthrough => .pure entry
        | .resolveAll => resolveValue inputs validate none [] entry
        | .recurse => resolveValue inputs validate filter newPath entry
      let later ← resolveFields inputs validate filter path rest
      .pure (assigned key value later)

end

structure TemplateOptions where
  validate : Bool := false
  onlyKeys : Option (List (List String)) := none
  omitKeys : Option (List (List String)) := none
deriving Inhabited

/-- `dataFromTemplate`, for data that is a JSON value. -/
def dataFromTemplate (data : Fields) (inputs : TemplateInputs) (options : TemplateOptions) :
    Outcome Json :=
  match buildKeyFilter options.onlyKeys options.omitKeys with
  | .error message => .throw message
  | .ok filter => resolveValue inputs options.validate filter [] (.obj data)

end Lombok.Templates
