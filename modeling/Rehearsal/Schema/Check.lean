import Rehearsal.Schema.Keyword
import Rehearsal.Settings.Read

/-!
# Checking values against schemas

A schema is a truth value or a dictionary of keywords, checked in the order of the dictionary.
Unknown keywords say nothing at all. What is no schema is an error as soon as it is needed.
-/

namespace Rehearsal.Schema

/-- Names of unknown entries, in the order of their texts. -/
def unexpected (names : List Value) : Outcome String := do
  let keyed ← names.mapM fun name => do return (← name.displayed, name)
  let sorted := keyed.mergeSort fun a b => !b.1.less a.1
  return (← literals (sorted.map (·.2))) ++ (if names.length = 1 then " was" else " were")

/-- The reason for which a value is no schema, where a place is entered. -/
def entryError (schema : Value) : Error := .member schema.kindName "get"

/-- The reason for which nothing can be looked up in a value. -/
def lookupError? (schema : Value) : Option Error :=
  match schema with
  | .bool _ | .dict _ | .text _ | .list _ | .tuple _ | .set _ | .frozenset _ | .settings _ => none
  | .bytes _ => some (.mismatch (.byteOperand "str"))
  | v => some (.mismatch (.container v.kindName))

/-- The reason for which a value is no schema, where only the verdict is wanted. -/
def verdictError (schema : Value) : Error :=
  (lookupError? schema).getD (.member schema.kindName "items")

/-- How many items satisfy the schema, counted no further than past the most. -/
def countMatches (valid : Value → Outcome Bool) (most : Value) :
    Nat → List Value → Outcome (Nat × Bool)
  | count, [] => .ok (count, false)
  | count, x :: xs => do
    if ← valid x then
      if ← (Value.int (count + 1 : Nat)).compare .greater most then return (count + 1, true)
      else countMatches valid most (count + 1) xs
    else countMatches valid most count xs

/-- The schema is looked at even where there are no items. -/
def containsRule (keywords : List (Value × Value)) (schema : Value)
    (valid : Value → Outcome Bool) (v : Value) (items : List Value) :
    Outcome (List Violation) := do
  if let some e := lookupError? schema then throw e
  let least := (field? "minContains" keywords).getD (.int 1)
  let most := (field? "maxContains" keywords).getD (.int items.length)
  let (count, tooMany) ← countMatches valid most 0 items
  if tooMany then
    return here ("Too many items match the given schema (expected at most " ++
      (← most.displayed).contents ++ ")")
  else if ← (Value.int count).less least then
    if count = 0 then
      return here (← said v " does not contain items matching the given schema")
    else
      return here ("Too few items match the given schema (expected at least " ++
        (← least.displayed).contents ++ " but only " ++ toString count ++ " matched)")
  else return []

/-- The number of items that have schemas of their own. -/
def prefixLength (keywords : List (Value × Value)) : Outcome Nat :=
  match field? "prefixItems" keywords with
  | some schemas => schemas.length
  | none => .ok 0

/-- The check of an item, one step further inside. -/
def checkItem (check : Value → Findings) (x : Value) (index : Nat) : Findings :=
  (check x).within (.item index)

/-- Items behind those that have a schema of their own. -/
def itemsRule (keywords : List (Value × Value)) (check : Value → Findings) (argument : Value)
    (items : List Value) : Findings :=
  .andThen (prefixLength keywords) fun count =>
    let rest := items.drop count
    match argument, rest with
    | _, [] => .none
    | .bool false, rest => .ofOutcome do
      let extra := match rest with
        | [x] => x
        | xs => .list xs
      let noun := if count = 1 then " item" else " items"
      return here ("Expected at most " ++ toString count ++ noun ++ " but found " ++
        toString rest.length ++ " extra: " ++ (← extra.shown))
    | _, rest => Findings.joined (fun (x, index) => checkItem check x (count + index)) rest.zipIdx

/-- The first schema that holds, and those behind it. -/
def firstValid (check : Value → Findings) :
    List Value → Outcome (Option (Value × List Value))
  | [] => .ok none
  | schema :: rest => do
    if (← (check schema).all).isEmpty then return some (schema, rest) else firstValid check rest

/-- The schemas among some that hold. -/
def validAmong (valid : Value → Outcome Bool) : List Value → Outcome (List Value)
  | [] => .ok []
  | schema :: rest => do
    let holds ← valid schema
    let others ← validAmong valid rest
    return if holds then schema :: others else others

/-- Whether an entry has a schema among the named ones. -/
def isKnown (keywords : List (Value × Value)) (name : Value) : Outcome Bool :=
  ((field? "properties" keywords).getD (.dict [])).holds name

/-- The entries that no named schema covers. -/
def extras (keywords : List (Value × Value)) :
    List (Value × Value) → Outcome (List (Value × Value))
  | [] => .ok []
  | e :: rest => do
    let known ← isKnown keywords e.1
    let others ← extras keywords rest
    return if known then others else e :: others

/-- How a schema is used. -/
inductive Use where
  /-- At the place of the value; a schema that allows nothing is violated there. -/
  | enter
  /-- One step further inside; a schema that allows nothing is violated at the place around it. -/
  | inside (step : Step)
  /-- For its verdict alone. -/
  | verdict

/-- The check of an entry of an object; a key that is absent is no step. -/
def checkEntry (check : Use → Value → Value → Findings) (name schema x : Value) : Findings :=
  match name with
  | .none => check .enter schema x
  | name => .andThen name.displayed fun step => check (.inside (.entry step.contents)) schema x

/-- What a value violates of a schema. -/
def check : Nat → Use → Value → Value → Findings
  | 0, _, _, _ => .none
  | fuel + 1, use, schema, v =>
    let sub := check fuel .enter
    let valid (schema v : Value) : Outcome Bool := (check fuel .verdict schema v).isValid
    let keyword (keywords : List (Value × Value)) (name : String) (argument : Value) : Findings :=
      match name, v with
      | "allOf", v => .andThen argument.elements <| Findings.joined fun s => sub s v
      | "anyOf", v => .ofOutcome do
        match ← firstValid (fun s => sub s v) (← argument.elements) with
        | some _ => return []
        | none => return here (← said v " is not valid under any of the given schemas")
      | "oneOf", v => .ofOutcome do
        match ← firstValid (fun s => sub s v) (← argument.elements) with
        | none => return here (← said v " is not valid under any of the given schemas")
        | some (first, rest) =>
          let more ← validAmong (fun s => valid s v) rest
          require more.isEmpty do
            return (← v.shown) ++ " is valid under each of " ++ (← literals (more ++ [first]))
      | "not", v => .ofOutcome do
        require (!(← valid argument v)) (related v " should not be valid under " argument)
      | "if", v => .andThen (valid argument v) fun holds =>
        match field? (if holds then "then" else "else") keywords with
        | some schema => sub schema v
        | none => .none
      | "properties", .dict es => .andThen (entriesOf argument) <| Findings.joined
          fun (name, schema) =>
            match Value.lookup name es with
            | some x => checkEntry (check fuel) name schema x
            | none => .none
      | "additionalProperties", .dict es => .andThen (extras keywords es) fun extras =>
        match argument with
        | .dict _ =>
          Findings.joined (fun (name, x) => checkEntry (check fuel) name argument x) extras
        | argument => .ofOutcome <| require (argument.truth || extras.isEmpty) do
          return "Additional properties are not allowed (" ++ (← unexpected (extras.map (·.1))) ++
            " unexpected)"
      | "propertyNames", .dict es => Findings.joined (fun e => sub argument e.1) es
      | "dependentSchemas", .dict es => .andThen (entriesOf argument) <| Findings.joined
          fun (name, schema) =>
            if (Value.lookup name es).isSome then sub schema v else .none
      | "prefixItems", .list xs => .andThen argument.elements fun schemas =>
        Findings.joined (fun ((schema, x), index) =>
          check fuel (.inside (.item index)) schema x) (schemas.zip xs).zipIdx
      | "items", .list xs => itemsRule keywords (sub argument) argument xs
      | "contains", .list xs => .ofOutcome (containsRule keywords argument (valid argument) v xs)
      | name, v => simpleKeyword schema name argument v
    match schema, use with
    | .bool true, _ => .none
    | .bool false, _ => .ofOutcome do
      return here ("False schema does not allow " ++ (← v.shown))
    | .dict keywords, use =>
      let found := Findings.joined (fun (name, argument) =>
        match name.text? with
        | some name => keyword keywords name argument
        | none => .none) keywords
      match use with
      | .inside step => found.within step
      | _ => found
    | schema, .verdict => { stop := some (verdictError schema) }
    | schema, _ => { stop := some (entryError schema) }

/-- The report on a value. -/
def errors (schema v : Value) : Outcome (List String) := do
  return report (← (check (depth schema + 1) .enter schema v).all)

/-- The schema in the bytes of a document. -/
def ofDocument (content : Text.Bytes) : Outcome Value := do
  return Value.ofJson (← Settings.fileDocument content)

end Rehearsal.Schema
