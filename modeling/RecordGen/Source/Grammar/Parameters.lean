import RecordGen.Source.Grammar.Reader

/-!
# Parameters

The parameters of functions, with types, and of anonymous functions, without. Their order is checked:
parameters with a default come last among those in front of a star, a bare star needs a name behind
it, and two stars end the list.
-/

namespace RecordGen.Source.Grammar

open Reader

/-- What has been read of a list of parameters. -/
structure ParameterState where
  /-- Nothing yet. -/
  fresh : Bool := true
  afterSlash : Bool := false
  afterStar : Bool := false
  afterDefault : Bool := false
  /-- A bare star waits for a name. -/
  bareStar : Bool := false
  /-- Two stars were read. -/
  finished : Bool := false

/-- A name of a parameter, perhaps with a type, which may be starred in one place. -/
def parameterName (g : Grammar) (typed starredType : Bool) : Reader Tree := do
  let own ← name
  if typed then
    if ← seesMark ":" then
      let colon ← mark ":"
      if starredType then
        if ← seesMark "*" then
          let star ← mark "*"
          let type ← g.read .expression
          return .node .typedStarName [own, colon, .node .starred [star, type]]
      return .node .typedName [own, colon, ← g.read .expression]
  return own

/-- One parameter, and what has been read with it. -/
def parameter (g : Grammar) (typed : Bool) (s : ParameterState) :
    Reader (List Tree × ParameterState) := do
  ensure (!s.finished)
  let read := { s with fresh := false }
  if ← seesMark "/" then
    ensure (!s.fresh && !s.afterSlash && !s.afterStar)
    return ([← mark "/"], { read with afterSlash := true })
  else if ← seesMark "*" then
    ensure (!s.afterStar)
    let star ← mark "*"
    if ← sees Leaf.isName then
      return ([star, ← parameterName g typed true], { read with afterStar := true })
    else return ([star], { read with afterStar := true, bareStar := true })
  else if ← seesMark "**" then
    ensure (!s.bareStar)
    let stars ← mark "**"
    return ([stars, ← parameterName g typed false], { read with finished := true })
  else
    let own ← parameterName g typed false
    if ← seesMark "=" then
      let equals ← mark "="
      let default ← g.read .expression
      return ([own, equals, default], { read with afterDefault := true, bareStar := false })
    else
      ensure (!s.afterDefault || s.afterStar)
      return ([own], { read with bareStar := false })

/-- Parameters up to a mark that ends them. -/
def parametersFrom (g : Grammar) (typed : Bool) (close : String) (s : ParameterState) :
    (limit : Nat) → Reader (List Tree)
  | 0 => failure
  | limit + 1 => do
    if ← seesMark close then
      ensure (!s.bareStar)
      return []
    else
      let (own, s) ← parameter g typed s
      if ← seesMark "," then
        let comma ← mark ","
        return own ++ comma :: (← parametersFrom g typed close s limit)
      else
        ensure (!s.bareStar)
        ensure (← seesMark close)
        return own

/-- The parameters of a function in their parentheses. -/
def parameters (g : Grammar) : Reader Tree := do
  let opening ← mark "("
  let items ← parametersFrom g true ")" {} g.limit
  let closing ← mark ")"
  return .node .parameters
    (opening :: (if items.isEmpty then [] else [.group .typedParameters items]) ++ [closing])

/-- The parameters of an anonymous function. -/
def lambdaParameters (g : Grammar) : Reader (List Tree) := do
  let items ← parametersFrom g false ":" {} g.limit
  return if items.isEmpty then [] else [.group .lambdaParameters items]

end RecordGen.Source.Grammar
